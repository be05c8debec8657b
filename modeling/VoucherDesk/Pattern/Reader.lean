import VoucherDesk.Pattern.Escape
import VoucherDesk.Text.Numeral

/-!
# Reading patterns

A pattern is a choice of alternatives, an alternative a row of items, and an item may be
repeated. The flags at the start of the pattern hold for all of it, those of a group for
the group. What is read is refused where the rules of the form say so, and at the end where
a condition refers to a group that the pattern does not have, or where the pattern cannot
be used.
-/

namespace VoucherDesk.Pattern.Reader

/-- The flag that a letter stands for. -/
def flagOf? : Char → Option Flags
  | 'i' => some { ignoreCase := true }
  | 'm' => some { multiLine := true }
  | 's' => some { dotAll := true }
  | 'x' => some { verbose := true }
  | 'a' => some { ascii := true }
  | 'u' => some { unicode := true }
  | 't' => some { template := true }
  | _ => none

/-- Whether a letter stands for a flag, the one for bytes included. -/
def isFlagLetter (c : Char) : Bool := c == 'L' || (flagOf? c).isSome

/-- The cause for a token that is no flag: another letter, or something else. -/
private def badFlag (t : Token) (other : Cause) : Cause :=
  match t with
  | .char c => if Text.isLetterCode c.toNat then .unknownFlag else other
  | _ => other

/-- The flags that are switched on from a first letter, and the character that ends them. -/
private def flagsOn : (fuel : Nat) → (on : Flags) → Char → Reader (Flags × Char)
  | 0, _, _ => fail .missingFlagsEnd 0
  | fuel + 1, on, c => do
    if c = 'L' then fail .localeFlag 0
    let flag := (flagOf? c).getD {}
    let on := on.or flag
    if flag.meets .alphabets && on.meets (Flags.alphabets.minus flag) then
      fail .alphabetFlags 0
    match ← take with
    | none => fail .missingFlagsEnd 0
    | some t =>
      match t with
      | .char d =>
        if d = ')' ∨ d = '-' ∨ d = ':' then return (on, d)
        else if isFlagLetter d then flagsOn fuel on d
        else fail (badFlag t .missingFlagsEnd) 1
      | t => fail .missingFlagsEnd t.chars.length

/-- The flags that are switched off from a first letter, up to the colon. -/
private def flagsOff : (fuel : Nat) → (off : Flags) → Char → Reader Flags
  | 0, _, _ => fail .missingColon 0
  | fuel + 1, off, c => do
    let flag := (flagOf? c).getD {}
    if c = 'L' || flag.meets .alphabets then fail .alphabetFlagsOff 0
    let off := off.or flag
    match ← take with
    | none => fail .missingColon 0
    | some t =>
      match t with
      | .char d =>
        if d = ':' then return off
        else if isFlagLetter d then flagsOff fuel off d
        else fail (badFlag t .missingColon) 1
      | t => fail .missingColon t.chars.length

/-- The flags of a group, switched on and off; none when they hold for the whole pattern. -/
private def groupFlags (first : Char) : Reader (Option (Flags × Flags)) := do
  let fuel := (← get).length + 1
  let (on, stop) ← if first = '-' then pure ({}, '-') else flagsOn fuel {} first
  if stop = ')' then
    modify fun s => { s with flags := s.flags.or on }
    return none
  if on.template then fail .globalFlagOn 1
  let off ← if stop = '-' then do
      match ← take with
      | none => fail .missingFlag 0
      | some (.char d) =>
        if isFlagLetter d then flagsOff fuel {} d else fail (badFlag (.char d) .missingFlag) 1
      | some t => fail .missingFlag t.chars.length
    else pure {}
  if off.template then fail .globalFlagOff 1
  if on.meets off then fail .flagOnAndOff 1
  return some (on, off)

/-- One member of a character set, without the range that may follow. -/
private def setMember (t : Token) : Reader SetItem :=
  match t with
  | .escape c => setEscape c
  | t => return .code ((t.chars.head?.map Char.toNat).getD 0)

/-- The members of a character set up to its closing bracket. -/
private def setItems (start : Nat) : (fuel : Nat) → (done : List SetItem) → Reader (List SetItem)
  | 0, _ => failAt .unterminatedSet start
  | fuel + 1, done => do
    match ← take with
    | none => failAt .unterminatedSet start
    | some low =>
      if low = .char ']' && !done.isEmpty then return done
      let item ← setMember low
      if ← accept '-' then
        match ← take with
        | none => failAt .unterminatedSet start
        | some high =>
          if high = .char ']' then return done ++ [item, .code 45]
          let other ← setMember high
          match item, other with
          | .code a, .code b =>
            if b < a then
              fail (.badRange low.text high.text) (low.chars.length + 1 + high.chars.length)
            else setItems start fuel (done ++ [.range a b])
          | _, _ =>
            fail (.badRange low.text high.text) (low.chars.length + 1 + high.chars.length)
      else setItems start fuel (done ++ [item])

/-- A character set after its opening bracket. -/
private def charSet (start : Nat) : Reader Node := do
  let negated ← accept '^'
  let items ← setItems start ((← get).length + 1) []
  match items.eraseDups with
  | [.code c] => return if negated then .notCode c else .code c
  | items => return .set negated items

/-- The least bound that no repetition may reach. -/
def repeatLimit : Nat := 4294967295

/-- A bound of a repetition from its digits. -/
private def bound (digits : List Char) : Reader Nat := do
  if Text.maxDigits < digits.length then throw (.digitLimit digits.length)
  let n := Text.digitsValue digits
  if repeatLimit ≤ n then throw .repetitionTooLarge
  return n

/-- The bounds of a repetition in braces after the opening brace, none if they are no bounds; then
the brace stands for itself. -/
private def bracedBounds (start : Nat) : Reader (Option (Nat × Option Nat)) := do
  if (← peek) = some (.char '\x7d') then return none
  let before ← get
  let low ← takeAll Char.isDigit
  let high ← if ← accept ',' then takeAll Char.isDigit else pure low
  if ← accept '\x7d' then
    let least ← if low.isEmpty then pure 0 else bound low
    if high.isEmpty then return some (least, none)
    let most ← bound high
    if most < least then failAt .boundsReversed start
    return some (least, some most)
  else
    set before
    return none

/-- Reads how a repetition chooses its count. -/
private def readGreed : Reader Greed := do
  if ← accept '?' then return .lazy
  if ← accept '+' then return .possessive
  return .greedy

/-- Repeats the last of the items read so far. -/
private def repeatLast (items : List Node) (least : Nat) (most : Option Nat) (mark : Nat) :
    Reader (List Node) := do
  match items with
  | [] => failAt .nothingToRepeat mark
  | item :: rest =>
    if item.isAnchor then failAt .nothingToRepeat mark
    if item.isRepeated then failAt .multipleRepeat mark
    let greed ← readGreed
    return .repeated greed least most item :: rest

/-- Skips the rest of a comment line. -/
private def skipLine : (fuel : Nat) → Reader Unit
  | 0 => return ()
  | fuel + 1 => do
    match ← take with
    | none => return ()
    | some t => if t = .char '\n' then return () else skipLine fuel

/-- Skips a comment in parentheses. -/
private def skipComment (start : Nat) : (fuel : Nat) → Reader Unit
  | 0 => failAt .unterminatedComment start
  | fuel + 1 => do
    match ← peek with
    | none => failAt .unterminatedComment start
    | some _ => if (← take) = some (.char ')') then return () else skipComment start fuel

/-- The group that a condition refers to, by name or by number. -/
private def conditionGroup (name : String) : Reader Nat := do
  let offset := name.length + 1
  if isGroupName name then
    match (← get).names.lookup name with
    | some group => return group
    | none => fail (.unknownGroup name) offset
  else
    match (Text.plainNumber? name).bind fun n => if n < 0 then none else some n.toNat with
    | none => fail (.badGroupName name) offset
    | some group =>
      if group = 0 then fail .groupZero offset
      if maxGroups ≤ group then fail (.invalidGroup group) offset
      let here := (← position) - offset
      modify fun s =>
        if s.conditions.any fun p => p.1 == group then s
        else { s with conditions := s.conditions ++ [(group, here)] }
      return group

/-- A reference to a group by its name. -/
private def namedReference : Reader Node := do
  let name ← nameUntil ')' "group name"
  checkGroupName name
  match (← get).names.lookup name with
  | none => fail (.unknownGroup name) (name.length + 1)
  | some group =>
    if (← closedWidth? group).isNone then fail .openGroup (name.length + 1)
    checkLookbehind group
    return .backref group

/-- What follows an opening parenthesis, up to the contents of the group. -/
private inductive Opening where
  /-- Contents between parentheses: a captured, an atomic or a flagged group. -/
  | group (capture : Option (Option String)) (atomic : Bool) (on off : Flags)
  /-- A look ahead or back. -/
  | look (behind negated : Bool)
  /-- A condition on a group. -/
  | condition (group : Nat)
  /-- The whole item is read already; comments and flags leave none. -/
  | whole (item : Option Node)

/-- Reads the extension of a group that begins with the letter for names. -/
private def namedOpening : Reader Opening := do
  if ← accept '<' then
    let name ← nameUntil '>' "group name"
    checkGroupName name
    return .group (some (some name)) false {} {}
  else if ← accept '=' then return .whole (some (← namedReference))
  else
    match ← take with
    | none => fail .unexpectedEnd 0
    | some t => fail (.unknownExtension ("P" ++ t.text)) (t.chars.length + 2)

/-- Reads what follows an opening parenthesis; flags for the whole pattern are allowed only where
nothing has been read before. -/
private def opening (start : Nat) (mayFlag : Bool) : Reader Opening := do
  if !(← accept '?') then return .group (some none) false {} {}
  match ← take with
  | none => fail .unexpectedEnd 0
  | some t =>
    match t with
    | .char 'P' => namedOpening
    | .char ':' => return .group none false {} {}
    | .char '#' =>
      skipComment start ((← get).length + 1)
      return .whole none
    | .char '=' => return .look false false
    | .char '!' => return .look false true
    | .char '<' =>
      match ← take with
      | none => fail .unexpectedEnd 0
      | some (.char '=') => return .look true false
      | some (.char '!') => return .look true true
      | some t => fail (.unknownExtension ("<" ++ t.text)) (t.chars.length + 2)
    | .char '(' =>
      let group ← conditionGroup (← nameUntil ')' "group name")
      checkLookbehind group
      return .condition group
    | .char '>' => return .group none true {} {}
    | .char c =>
      if isFlagLetter c || c == '-' then
        match ← groupFlags c with
        | none =>
          if mayFlag then return .whole none else failAt .lateFlags start
        | some (on, off) => return .group none false on off
      else fail (.unknownExtension t.text) 2
    | t => fail (.unknownExtension t.text) (t.chars.length + 1)

/-- Refuses a group that is not closed, and takes the closing parenthesis otherwise. -/
private def close (start : Nat) : Reader Unit := do
  if ← accept ')' then return () else failAt .unterminatedGroup start

/-- Characters that separate nothing where blanks are skipped. -/
private def isSkipped (c : Char) : Bool :=
  c == ' ' || c == '\t' || c == '\n' || c == '\r' || c == '\x0b' || c == '\x0c'

mutual

/-- A choice of alternatives. -/
private def choice : (fuel : Nat) → (verbose outermost : Bool) → Reader Node
  | 0, _, _ => fail .unexpectedEnd 0
  | fuel + 1, verbose, outermost => do
    let first ← row fuel verbose outermost
    alternatives fuel verbose outermost first

/-- The alternatives after the first. -/
private def alternatives : (fuel : Nat) → (verbose outermost : Bool) → Node → Reader Node
  | 0, _, _, _ => fail .unexpectedEnd 0
  | fuel + 1, verbose, outermost, first => do
    if ← accept '|' then
      let flags := (← get).flags
      let verbose := if outermost then flags.verbose else verbose
      let next ← row fuel verbose false
      return .alt first (← alternatives fuel verbose outermost next)
    else return first

/-- A row of items; flags for the whole pattern may stand before its first item. -/
private def row : (fuel : Nat) → (verbose mayFlag : Bool) → Reader Node
  | 0, _, _ => fail .unexpectedEnd 0
  | fuel + 1, verbose, mayFlag => do
    let items ← rowItems fuel verbose mayFlag []
    return Node.ofList items.reverse

/-- The items of a row after those read so far, the last one first. -/
private def rowItems : (fuel : Nat) → (verbose mayFlag : Bool) → List Node → Reader (List Node)
  | 0, _, _, _ => fail .unexpectedEnd 0
  | fuel + 1, verbose, mayFlag, items => do
    let start ← position
    match ← peek with
    | none => return items
    | some (.char '|') => return items
    | some (.char ')') => return items
    | some t =>
      let _ ← take
      let here ← position
      let fuelLeft := (← get).length + 1
      match t with
      | .escape c => rowItems fuel verbose mayFlag ((← nodeEscape c) :: items)
      | .dangling => fail .loneBackslash 0
      | .char c =>
        if verbose && isSkipped c then rowItems fuel verbose mayFlag items
        else if verbose && c == '#' then
          skipLine fuelLeft
          rowItems fuel verbose mayFlag items
        else match c with
          | '[' => rowItems fuel verbose mayFlag ((← charSet start) :: items)
          | '.' => rowItems fuel verbose mayFlag (.any :: items)
          | '^' => rowItems fuel verbose mayFlag (.anchor .lineStart :: items)
          | '$' => rowItems fuel verbose mayFlag (.anchor .lineEnd :: items)
          | '?' => rowItems fuel verbose mayFlag (← repeatLast items 0 (some 1) start)
          | '*' => rowItems fuel verbose mayFlag (← repeatLast items 0 none start)
          | '+' => rowItems fuel verbose mayFlag (← repeatLast items 1 none start)
          | '\x7b' =>
            match ← bracedBounds here with
            | none => rowItems fuel verbose mayFlag (.code 123 :: items)
            | some (least, most) =>
              rowItems fuel verbose mayFlag (← repeatLast items least most start)
          | '(' =>
            match ← opening start (mayFlag && items.isEmpty) with
            | .whole none =>
              let flags := (← get).flags
              let verbose := verbose || (mayFlag && items.isEmpty && flags.verbose)
              rowItems fuel verbose mayFlag items
            | .whole (some item) => rowItems fuel verbose mayFlag (item :: items)
            | o => rowItems fuel verbose mayFlag ((← contents fuel verbose start o) :: items)
          | c => rowItems fuel verbose mayFlag (.code c.toNat :: items)

/-- The contents of a group, up to its closing parenthesis. -/
private def contents : (fuel : Nat) → (verbose : Bool) → (start : Nat) → Opening → Reader Node
  | 0, _, _, _ => fail .unexpectedEnd 0
  | _ + 1, _, _, .whole item => return item.getD .empty
  | fuel + 1, verbose, start, .look behind negated => do
    let before := (← get).lookbehind
    if behind && before.isNone then
      let count ← groupCount
      modify fun s => { s with lookbehind := some count }
    let body ← choice fuel verbose false
    if behind then modify fun s => { s with lookbehind := before }
    close start
    let width ← if behind then some <$> widthOf body else pure none
    return .look width negated body
  | fuel + 1, verbose, start, .condition group => do
    let yes ← row fuel verbose false
    let no ← if ← accept '|' then do
        let no ← row fuel verbose false
        if (← peek) = some (.char '|') then fail .tooManyBranches 0
        pure no
      else pure .empty
    close start
    return .cond group yes no
  | fuel + 1, verbose, start, .group capture atomic on off => do
    let number ← match capture with
      | some name => some <$> openGroup name
      | none => pure none
    let body ← choice fuel ((verbose || on.verbose) && !off.verbose) false
    close start
    match number with
    | some n =>
      closeGroup n body
      return .capture n body
    | none => return if atomic then .atomic body else .scoped on off body

end

/-- The whole pattern, with its flags. -/
private def wholePattern : Reader (Node × Flags) := do
  notice
  let node ← choice (4 * (← get).length + 8) false true
  let flags := (← get).flags
  if flags.ascii && flags.unicode then throw .alphabetClash
  if (← peek).isSome then fail .unbalanced 0
  let count ← groupCount
  match (← get).conditions.find? fun p => count ≤ p.1 with
  | some (group, position) => failAt (.invalidGroup group) position
  | none => return (node, flags)

end VoucherDesk.Pattern.Reader

namespace VoucherDesk

/-- A pattern that can be searched for. -/
structure Pattern where
  node : Pattern.Node
  flags : Pattern.Flags

namespace Pattern

/-- The pattern that a text denotes, or why it denotes none. -/
def ofText (s : String) : Except Refusal Pattern := do
  let cs := s.toList
  let start : Scan := { tokens := Token.scan 0 cs, length := cs.length }
  let ((node, flags), _) ← Reader.wholePattern.run start
  match node.defect? flags.template with
  | some cause => throw (.syntaxError ⟨cause, none⟩)
  | none => return ⟨node, flags⟩

end Pattern

end VoucherDesk
