import VoucherDesk.Text.Quoted

/-!
# Errors of patterns

A pattern is refused with a cause and, for almost all causes, the position in the pattern
where it was found. A pattern of several lines also gets the line and the column. Four
further refusals concern numbers and flags rather than the syntax.
-/

namespace VoucherDesk.Pattern

/-- Why a pattern is no pattern. -/
inductive Cause where
  | loneBackslash
  | missingName (what : String)
  | unterminatedName (terminator : Char)
  | badGroupName (name : String)
  | unknownGroup (name : String)
  | repeatedGroup (name : String) (number earlier : Nat)
  | tooManyGroups
  | openGroup
  | lookbehindGroup
  | incompleteEscape (escape : String)
  | badEscape (escape : String)
  | missingBrace
  | unknownCharacter (name : String)
  | octalRange (escape : String)
  | invalidGroup (number : Nat)
  | groupZero
  | unterminatedSet
  | badRange (low high : String)
  | boundsReversed
  | nothingToRepeat
  | multipleRepeat
  | unexpectedEnd
  | unknownExtension (text : String)
  | unterminatedComment
  | unterminatedGroup
  | tooManyBranches
  | lateFlags
  | localeFlag
  | alphabetFlags
  | missingFlagsEnd
  | unknownFlag
  | globalFlagOn
  | missingFlag
  | alphabetFlagsOff
  | missingColon
  | globalFlagOff
  | flagOnAndOff
  | unbalanced
  | lookbehindTooLong
  | lookbehindWidth
  | templateRepeat (name : String)
  deriving DecidableEq, Repr

/-- The wording of a cause. -/
def Cause.text : Cause → String
  | .loneBackslash => "bad escape (end of pattern)"
  | .missingName what => "missing " ++ what
  | .unterminatedName c => "missing " ++ String.singleton c ++ ", unterminated name"
  | .badGroupName name => "bad character in group name " ++ Text.quoted name
  | .unknownGroup name => "unknown group name " ++ Text.quoted name
  | .repeatedGroup name number earlier =>
    "redefinition of group name " ++ Text.quoted name ++ " as group " ++ toString number
      ++ "; was group " ++ toString earlier
  | .tooManyGroups => "too many groups"
  | .openGroup => "cannot refer to an open group"
  | .lookbehindGroup => "cannot refer to group defined in the same lookbehind subpattern"
  | .incompleteEscape escape => "incomplete escape " ++ escape
  | .badEscape escape => "bad escape " ++ escape
  | .missingBrace => "missing \x7b"
  | .unknownCharacter name => "undefined character name " ++ Text.quoted name
  | .octalRange escape => "octal escape value " ++ escape ++ " outside of range 0-0o377"
  | .invalidGroup number => "invalid group reference " ++ toString number
  | .groupZero => "bad group number"
  | .unterminatedSet => "unterminated character set"
  | .badRange low high => "bad character range " ++ low ++ "-" ++ high
  | .boundsReversed => "min repeat greater than max repeat"
  | .nothingToRepeat => "nothing to repeat"
  | .multipleRepeat => "multiple repeat"
  | .unexpectedEnd => "unexpected end of pattern"
  | .unknownExtension text => "unknown extension ?" ++ text
  | .unterminatedComment => "missing ), unterminated comment"
  | .unterminatedGroup => "missing ), unterminated subpattern"
  | .tooManyBranches => "conditional backref with more than two branches"
  | .lateFlags => "global flags not at the start of the expression"
  | .localeFlag => "bad inline flags: cannot use 'L' flag with a str pattern"
  | .alphabetFlags => "bad inline flags: flags 'a', 'u' and 'L' are incompatible"
  | .missingFlagsEnd => "missing -, : or )"
  | .unknownFlag => "unknown flag"
  | .globalFlagOn => "bad inline flags: cannot turn on global flag"
  | .missingFlag => "missing flag"
  | .alphabetFlagsOff => "bad inline flags: cannot turn off flags 'a', 'u' and 'L'"
  | .missingColon => "missing :"
  | .globalFlagOff => "bad inline flags: cannot turn off global flag"
  | .flagOnAndOff => "bad inline flags: flag turned on and off"
  | .unbalanced => "unbalanced parenthesis"
  | .lookbehindTooLong => "looks too much behind"
  | .lookbehindWidth => "look-behind requires fixed-width pattern"
  | .templateRepeat name => "internal: unsupported template operator " ++ name

/-- A cause with the position where it was found. -/
structure Error where
  cause : Cause
  position : Option Nat
  deriving DecidableEq, Repr

/-- The message of an error in a given pattern. -/
def Error.message (e : Error) (pattern : String) : String :=
  match e.position with
  | none => e.cause.text
  | some p =>
    let before := pattern.toList.take p
    let place := e.cause.text ++ " at position " ++ toString p
    if pattern.toList.contains '\n' then
      let line := before.count '\n' + 1
      let column := (before.reverse.takeWhile (· != '\n')).length + 1
      place ++ " (line " ++ toString line ++ ", column " ++ toString column ++ ")"
    else place

/-- Why a pattern cannot be used. -/
inductive Refusal where
  | syntaxError (e : Error)
  | repetitionTooLarge
  | digitLimit (digits : Nat)
  | codeTooLarge
  | alphabetClash
  deriving DecidableEq, Repr

end VoucherDesk.Pattern
