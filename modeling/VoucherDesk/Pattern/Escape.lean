import VoucherDesk.Pattern.Token

/-!
# Escapes of patterns

An escape stands for a character, by a letter or by its number in octal or hexadecimal or
by its name, or for a class of characters, a place, or an earlier group.
-/

namespace VoucherDesk.Pattern.Reader

/-- Digits of base eight. -/
private def isOctal (c : Char) : Bool := '0' ≤ c && c ≤ '7'

/-- The number of digits of base eight. -/
private def octalValue (cs : List Char) : Nat := cs.foldl (fun n c => n * 8 + (c.toNat - 48)) 0

/-- The character that a letter escape stands for. -/
def letterEscape? : Char → Option Nat
  | 'a' => some 7
  | 'b' => some 8
  | 'f' => some 12
  | 'n' => some 10
  | 'r' => some 13
  | 't' => some 9
  | 'v' => some 11
  | '\\' => some 92
  | _ => none

/-- The class that a letter escape stands for. -/
def categoryEscape? : Char → Option Category
  | 'd' => some .digit
  | 'D' => some .notDigit
  | 's' => some .space
  | 'S' => some .notSpace
  | 'w' => some .word
  | 'W' => some .notWord
  | _ => none

/-- The place that a letter escape stands for. -/
def anchorEscape? : Char → Option Anchor
  | 'A' => some .textStart
  | 'b' => some .wordEdge
  | 'B' => some .notWordEdge
  | 'Z' => some .textEnd
  | _ => none

/-- The escape of a letter as text, with the characters after it. -/
private def escapeText (c : Char) (rest : List Char) : String := String.ofList ('\\' :: c :: rest)

/-- A character by a fixed number of hexadecimal digits. -/
private def hexEscape (c : Char) (digits : Nat) : Reader Nat := do
  let ds ← takeWhile Text.isHexDigit digits
  if ds.length = digits then return Text.hexValue ds
  else fail (.incompleteEscape (escapeText c ds)) (ds.length + 2)

/-- The greatest number that a code point is looked up by. -/
private def maxCodeNumber : Nat := 2147483647

/-- A character by eight hexadecimal digits, which have to name a code point. -/
private def longHexEscape : Reader Nat := do
  let ds ← takeWhile Text.isHexDigit 8
  let escape := escapeText 'U' ds
  if ds.length ≠ 8 then fail (.incompleteEscape escape) (ds.length + 2)
  else
    let code := Text.hexValue ds
    if maxCodeNumber < code then throw .codeTooLarge
    else if 0x10FFFF < code then fail (.badEscape escape) escape.length
    else return code

/-- A character by its name in braces. -/
private def nameEscape : Reader Nat := do
  if ← accept '\x7b' then
    let name ← nameUntil '\x7d' "character name"
    match Text.codeOfName? name with
    | some code => return code
    | none => fail (.unknownCharacter name) (name.length + 4)
  else fail .missingBrace 0

/-- A character by an octal number, which has to fit a byte. -/
private def octalByte (digits : List Char) : Reader Nat := do
  let code := octalValue digits
  if 0o377 < code then
    let escape := String.ofList ('\\' :: digits)
    fail (.octalRange escape) escape.length
  else return code

/-- Any other escaped character stands for itself, unless it is an ASCII letter. -/
private def plainEscape (c : Char) : Reader Nat :=
  if c.isAlpha then fail (.badEscape (escapeText c [])) 2 else return c.toNat

/-- An escape inside a character set. -/
def setEscape (c : Char) : Reader SetItem := do
  match letterEscape? c, categoryEscape? c with
  | some code, _ => return .code code
  | none, some category => return .category category
  | none, none =>
    if c = 'x' then return .code (← hexEscape c 2)
    else if c = 'u' then return .code (← hexEscape c 4)
    else if c = 'U' then return .code (← longHexEscape)
    else if c = 'N' then return .code (← nameEscape)
    else if isOctal c then return .code (← octalByte (c :: (← takeWhile isOctal 2)))
    else if c.isDigit then fail (.badEscape (escapeText c [])) 2
    else return .code (← plainEscape c)

/-- A reference to an earlier group by its number. -/
private def groupReference (digits : List Char) : Reader Node := do
  let group := Text.digitsValue digits
  if group < (← groupCount) then
    if (← closedWidth? group).isNone then fail .openGroup (digits.length + 1)
    else
      checkLookbehind group
      return .backref group
  else fail (.invalidGroup group) digits.length

/-- An escape that begins with a digit: an octal character if it begins with zero or has three
octal digits, and else a reference to a group. -/
private def digitEscape (c : Char) : Reader Node := do
  if c = '0' then return .code (octalValue (← takeWhile isOctal 2))
  else
    match ← takeWhile Char.isDigit 1 with
    | [d] =>
      let third ← if isOctal c && isOctal d then takeWhile isOctal 1 else pure []
      if third.isEmpty then groupReference [c, d]
      else return .code (← octalByte (c :: d :: third))
    | _ => groupReference [c]

/-- An escape outside a character set. -/
def nodeEscape (c : Char) : Reader Node := do
  match categoryEscape? c, anchorEscape? c, letterEscape? c with
  | some category, _, _ => return .set false [.category category]
  | none, some anchor, _ => return .anchor anchor
  | none, none, some code => return .code code
  | none, none, none =>
    if c = 'x' then return .code (← hexEscape c 2)
    else if c = 'u' then return .code (← hexEscape c 4)
    else if c = 'U' then return .code (← longHexEscape)
    else if c = 'N' then return .code (← nameEscape)
    else if c.isDigit then digitEscape c
    else return .code (← plainEscape c)

end VoucherDesk.Pattern.Reader
