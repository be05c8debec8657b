/-!
# Blank characters

The blank characters are those of the White_Space property together with the four
separators `U+001C` to `U+001F`; the zero-width space and the byte order mark are not
blank. Trimming removes blanks at both ends and nothing inside.
-/

namespace VoucherDesk.Text

/-- Whether a code point has the White_Space property. -/
def isSpaceCode (code : Nat) : Bool :=
  (9 ≤ code && code ≤ 13) || code == 32 || code == 133 || code == 160
    || code == 5760 || (8192 ≤ code && code ≤ 8202) || code == 8232 || code == 8233
    || code == 8239 || code == 8287 || code == 12288

/-- Whether a code point is blank. -/
def isBlankCode (code : Nat) : Bool := isSpaceCode code || (28 ≤ code && code ≤ 31)

/-- Whether a character is blank. -/
def isBlank (c : Char) : Bool := isBlankCode c.toNat

/-- The characters without those of a class at both ends. -/
def trimBoth (p : Char → Bool) (cs : List Char) : List Char :=
  ((cs.dropWhile p).reverse.dropWhile p).reverse

/-- The characters without the blanks at both ends. -/
def trimChars (cs : List Char) : List Char := trimBoth isBlank cs

/-- The text without the blanks at both ends. -/
def trim (s : String) : String := String.ofList (trimChars s.toList)

/-- Whether the text holds blanks only. -/
def isBlankText (s : String) : Bool := s.toList.all isBlank

end VoucherDesk.Text
