import VoucherDesk.Text.Printable

/-!
# Quoted display of a text

A text is shown between single quotes, or between double quotes when it holds a single
quote and no double one. The quote in use and the backslash are escaped, and so is every
character that is not printable, by the shortest of the forms `\n`, `\x1b`, `\u200b` and
`\U000e0001` that fits.
-/

namespace VoucherDesk.Text

/-- A code point in lower-case hexadecimal with at least `width` digits. -/
def hexPadded (width code : Nat) : List Char :=
  let ds := Nat.toDigits 16 code
  List.replicate (width - ds.length) '0' ++ ds

/-- One character of a quoted text. -/
def quoteChar (quote c : Char) : List Char :=
  if c = quote || c = '\\' then ['\\', c]
  else if c = '\n' then ['\\', 'n']
  else if c = '\r' then ['\\', 'r']
  else if c = '\t' then ['\\', 't']
  else if isPrintable c then [c]
  else if c.toNat < 0x100 then '\\' :: 'x' :: hexPadded 2 c.toNat
  else if c.toNat < 0x10000 then '\\' :: 'u' :: hexPadded 4 c.toNat
  else '\\' :: 'U' :: hexPadded 8 c.toNat

/-- The quote that a quoted text uses. -/
def quoteFor (cs : List Char) : Char :=
  if cs.contains '\'' && !cs.contains '"' then '"' else '\''

/-- The text between quotes, with escapes. -/
def quoted (s : String) : String :=
  let cs := s.toList
  let q := quoteFor cs
  String.ofList (q :: cs.flatMap (quoteChar q) ++ [q])

end VoucherDesk.Text
