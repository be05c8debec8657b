import VoucherDesk.Pattern.Syntax
import VoucherDesk.Text.Identifier
import VoucherDesk.Text.Alphanumeric
import VoucherDesk.Text.Digit
import VoucherDesk.Text.Blank
import VoucherDesk.Text.CharacterName

/-!
# Scanning patterns

A pattern is scanned in tokens: one character, or a backslash with the character after it.
The scanner always knows the next token, so a backslash at the end of the pattern is
noticed as soon as the token before it is taken. Errors are placed at the next token or a
given number of characters before it.
-/

namespace VoucherDesk.Pattern

/-- A character, an escaped character, or a backslash with nothing after it. -/
inductive Token where
  | char (c : Char)
  | escape (c : Char)
  | dangling
  deriving DecidableEq, Repr

namespace Token

/-- The characters of a token. -/
def chars : Token → List Char
  | .char c => [c]
  | .escape c => ['\\', c]
  | .dangling => ['\\']

/-- The text of a token. -/
def text (t : Token) : String := String.ofList t.chars

/-- The tokens of a pattern with their positions. -/
def scan : (position : Nat) → List Char → List (Nat × Token)
  | _, [] => []
  | p, ['\\'] => [(p, .dangling)]
  | p, '\\' :: c :: rest => (p, .escape c) :: scan (p + 2) rest
  | p, c :: rest => (p, .char c) :: scan (p + 1) rest

end Token

/-- What the reader knows while it reads a pattern. -/
structure Scan where
  /-- The tokens that are left, the next one first. -/
  tokens : List (Nat × Token)
  /-- The length of the pattern. -/
  length : Nat
  /-- The flags that are switched on for the whole pattern. -/
  flags : Flags := {}
  /-- The groups by name. -/
  names : List (String × Nat) := []
  /-- The widths of the groups from the first on; an open group has none. -/
  widths : Array (Option Width) := #[]
  /-- How many groups there were when the outermost lookbehind began. -/
  lookbehind : Option Nat := none
  /-- Groups that conditions refer to by number, with the position of the first reference. -/
  conditions : List (Nat × Nat) := []

/-- A step of reading: what is read with what is known then, or why the pattern is refused. -/
abbrev Reader := StateT Scan (Except Refusal)

namespace Reader

/-- The position of the next token. -/
def position : Reader Nat := do
  let s ← get
  return (s.tokens.head?.map Prod.fst).getD s.length

/-- Refuses the pattern for a cause at a position. -/
def failAt (cause : Cause) (position : Nat) : Reader α :=
  throw (.syntaxError ⟨cause, some position⟩)

/-- Refuses the pattern for a cause found so many characters before the next token. -/
def fail (cause : Cause) (before : Nat) : Reader α := do
  failAt cause ((← position) - before)

/-- The next token. -/
def peek : Reader (Option Token) := do
  return (← get).tokens.head?.map Prod.snd

/-- Notices a backslash at the end of the pattern. -/
def notice : Reader Unit := do
  match ← peek with
  | some .dangling => fail .loneBackslash 0
  | _ => return ()

/-- Takes the next token. -/
def take : Reader (Option Token) := do
  let t ← peek
  modify fun s => { s with tokens := s.tokens.drop 1 }
  notice
  return t

/-- Takes the next token if it is this character. -/
def accept (c : Char) : Reader Bool := do
  if (← peek) = some (.char c) then
    let _ ← take
    return true
  else return false

/-- Takes at most so many characters of a class. -/
def takeWhile (p : Char → Bool) : (most : Nat) → Reader (List Char)
  | 0 => return []
  | most + 1 => do
    match ← peek with
    | some (.char c) =>
      if p c then
        let _ ← take
        return c :: (← takeWhile p most)
      else return []
    | _ => return []

/-- Takes all characters of a class. -/
def takeAll (p : Char → Bool) : Reader (List Char) := do
  takeWhile p (← get).length

/-- Takes a name up to the character that ends it. -/
def takeName (stop : Char) (what : String) : (fuel : Nat) → (done : List Char) → Reader String
  | 0, _ => fail (.missingName what) 0
  | fuel + 1, done => do
    match ← take with
    | none =>
      if done.isEmpty then fail (.missingName what) 0
      else fail (.unterminatedName stop) done.length
    | some t =>
      if t = .char stop then
        if done.isEmpty then fail (.missingName what) 1
        else return String.ofList done
      else takeName stop what fuel (done ++ t.chars)

/-- Takes a name up to the character that ends it, however long. -/
def nameUntil (stop : Char) (what : String) : Reader String := do
  takeName stop what ((← get).length + 1) []

/-- Whether a name may name a group. -/
def isGroupName (name : String) : Bool :=
  Text.isIdentifier (name.toList.map Char.toNat)

/-- Refuses a name that no group can have. -/
def checkGroupName (name : String) : Reader Unit := do
  if isGroupName name then return ()
  else fail (.badGroupName name) (name.length + 1)

/-- How many groups there are, the whole match included. -/
def groupCount : Reader Nat := do
  return (← get).widths.size + 1

/-- The width of a group that is closed. -/
def closedWidth? (group : Nat) : Reader (Option Width) := do
  if group = 0 then return none
  else return ((← get).widths[group - 1]?).join

/-- Inside a lookbehind only groups may be referred to that were closed before it began. -/
def checkLookbehind (group : Nat) : Reader Unit := do
  match (← get).lookbehind with
  | none => return ()
  | some count =>
    if (← closedWidth? group).isNone then fail .openGroup 0
    else if count ≤ group then fail .lookbehindGroup 0
    else return ()

/-- The most groups that a pattern may have. -/
def maxGroups : Nat := 1073741823

/-- Opens a group and gives its number. -/
def openGroup (name : Option String) : Reader Nat := do
  let number ← groupCount
  modify fun s => { s with widths := s.widths.push none }
  match name with
  | none => return number
  | some name =>
    match (← get).names.lookup name with
    | some earlier => fail (.repeatedGroup name number earlier) (name.length + 1)
    | none =>
      modify fun s => { s with names := (name, number) :: s.names }
      return number

/-- The width of a node that has just been read. -/
def widthOf (n : Node) : Reader Width := do
  let widths := (← get).widths
  return n.width fun g => ((widths[g - 1]?).join).getD ⟨0, 0⟩

/-- Closes a group. -/
def closeGroup (number : Nat) (body : Node) : Reader Unit := do
  let w ← widthOf body
  modify fun s => { s with widths := s.widths.setIfInBounds (number - 1) (some w) }

end Reader

end VoucherDesk.Pattern
