import VoucherDesk.Text.CodeSet

/-!
# Digits of all scripts

Decimal digits are the ones of positional numerals; digits also include the raised,
lowered and circled ones. Most numerals are written with the digits from `0` to `9`, and there is
a limit to how many of them are read or written as a whole number. Codes of characters and bytes
are also written in base sixteen.
-/

namespace VoucherDesk.Text

/-- Code points of decimal digits. -/
def decimalDigits : CodeSet where
  changes := #[
    48, 58, 1632, 1642, 1776, 1786, 1984, 1994, 2406, 2416, 2534, 2544, 2662, 2672, 2790, 2800,
    2918, 2928, 3046, 3056, 3174, 3184, 3302, 3312, 3430, 3440, 3558, 3568, 3664, 3674, 3792,
    3802, 3872, 3882, 4160, 4170, 4240, 4250, 6112, 6122, 6160, 6170, 6470, 6480, 6608, 6618,
    6784, 6794, 6800, 6810, 6992, 7002, 7088, 7098, 7232, 7242, 7248, 7258, 42528, 42538, 43216,
    43226, 43264, 43274, 43472, 43482, 43504, 43514, 43600, 43610, 44016, 44026, 65296, 65306,
    66720, 66730, 68912, 68922, 69734, 69744, 69872, 69882, 69942, 69952, 70096, 70106, 70384,
    70394, 70736, 70746, 70864, 70874, 71248, 71258, 71360, 71370, 71472, 71482, 71904, 71914,
    72016, 72026, 72784, 72794, 73040, 73050, 73120, 73130, 92768, 92778, 92864, 92874, 93008,
    93018, 120782, 120832, 123200, 123210, 123632, 123642, 125264, 125274, 130032, 130042]

/-- Code points of digits, with the raised, lowered and circled ones. -/
def digits : CodeSet where
  changes := #[
    48, 58, 178, 180, 185, 186, 1632, 1642, 1776, 1786, 1984, 1994, 2406, 2416, 2534, 2544, 2662,
    2672, 2790, 2800, 2918, 2928, 3046, 3056, 3174, 3184, 3302, 3312, 3430, 3440, 3558, 3568,
    3664, 3674, 3792, 3802, 3872, 3882, 4160, 4170, 4240, 4250, 4969, 4978, 6112, 6122, 6160,
    6170, 6470, 6480, 6608, 6619, 6784, 6794, 6800, 6810, 6992, 7002, 7088, 7098, 7232, 7242,
    7248, 7258, 8304, 8305, 8308, 8314, 8320, 8330, 9312, 9321, 9332, 9341, 9352, 9361, 9450,
    9451, 9461, 9470, 9471, 9472, 10102, 10111, 10112, 10121, 10122, 10131, 42528, 42538, 43216,
    43226, 43264, 43274, 43472, 43482, 43504, 43514, 43600, 43610, 44016, 44026, 65296, 65306,
    66720, 66730, 68160, 68164, 68912, 68922, 69216, 69225, 69714, 69723, 69734, 69744, 69872,
    69882, 69942, 69952, 70096, 70106, 70384, 70394, 70736, 70746, 70864, 70874, 71248, 71258,
    71360, 71370, 71472, 71482, 71904, 71914, 72016, 72026, 72784, 72794, 73040, 73050, 73120,
    73130, 92768, 92778, 92864, 92874, 93008, 93018, 120782, 120832, 123200, 123210, 123632,
    123642, 125264, 125274, 127232, 127243, 130032, 130042]

/-- Whether the code point is a decimal digit of any script. -/
def isDecimalCode (code : Nat) : Bool := decimalDigits.contains code

/-- The value of a decimal digit: its place in its run of ten. -/
def decimalValue? (code : Nat) : Option Nat :=
  let rank := CodeSet.rank decimalDigits.changes code 24 0 decimalDigits.changes.size
  if rank % 2 = 1 then some ((code - decimalDigits.changes.getD (rank - 1) 0) % 10) else none

/-- Whether the character is a digit of any script, raised and circled ones too. -/
def isDigit (c : Char) : Bool := digits.contains c.toNat

/-- The number that digits from `0` to `9` denote. -/
def digitsValue (ds : List Char) : Nat := ds.foldl (fun n d => n * 10 + (d.toNat - 48)) 0

/-- The value of a digit of base sixteen. -/
def hexDigit? (c : Char) : Option Nat :=
  if '0' ≤ c ∧ c ≤ '9' then some (c.toNat - 48)
  else if 'a' ≤ c ∧ c ≤ 'f' then some (c.toNat - 87)
  else if 'A' ≤ c ∧ c ≤ 'F' then some (c.toNat - 55)
  else none

/-- Whether the character is a digit of base sixteen. -/
def isHexDigit (c : Char) : Bool := (hexDigit? c).isSome

/-- The number that digits of base sixteen denote. -/
def hexValue (ds : List Char) : Nat := ds.foldl (fun n d => n * 16 + (hexDigit? d).getD 0) 0

/-- The most digits with which a whole number is read or written. -/
def maxDigits : Nat := 4300

end VoucherDesk.Text
