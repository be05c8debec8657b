import VoucherDesk.Text.CharacterName.Letters
import VoucherDesk.Text.CharacterName.Symbols
import VoucherDesk.Text.CharacterName.Pictographs

/-!
# Names of characters

Characters have names in capitals, which match in any case. Letters, symbols and pictographs
are named in runs that share the first words of their names; control characters and some
invisible ones have other names instead or besides. Syllables of Hangul and the ideographs of
Chinese are named by rule, and those names match in capitals only.
-/

namespace VoucherDesk.Text

/-- Runs of named characters: the first code point, the words that all names begin with, and the
rest of each name. -/
def nameRuns : List (Nat × String × String) := letterRuns ++ symbolRuns ++ pictographRuns

/-- Other names of single characters. -/
def otherNames : List (Nat × String) := [
  (0x00, "NULL, NUL"), (0x01, "START OF HEADING, SOH"), (0x02, "START OF TEXT, STX"),
  (0x03, "END OF TEXT, ETX"), (0x04, "END OF TRANSMISSION, EOT"), (0x05, "ENQUIRY, ENQ"),
  (0x06, "ACKNOWLEDGE, ACK"), (0x07, "ALERT, BEL"), (0x08, "BACKSPACE, BS"),
  (0x09, "CHARACTER TABULATION, HORIZONTAL TABULATION, HT, TAB"),
  (0x0A, "LINE FEED, NEW LINE, END OF LINE, LF, NL, EOL"),
  (0x0B, "LINE TABULATION, VERTICAL TABULATION, VT"), (0x0C, "FORM FEED, FF"),
  (0x0D, "CARRIAGE RETURN, CR"), (0x0E, "SHIFT OUT, LOCKING-SHIFT ONE, SO"),
  (0x0F, "SHIFT IN, LOCKING-SHIFT ZERO, SI"), (0x10, "DATA LINK ESCAPE, DLE"),
  (0x11, "DEVICE CONTROL ONE, DC1"), (0x12, "DEVICE CONTROL TWO, DC2"),
  (0x13, "DEVICE CONTROL THREE, DC3"), (0x14, "DEVICE CONTROL FOUR, DC4"),
  (0x15, "NEGATIVE ACKNOWLEDGE, NAK"), (0x16, "SYNCHRONOUS IDLE, SYN"),
  (0x17, "END OF TRANSMISSION BLOCK, ETB"), (0x18, "CANCEL, CAN"), (0x19, "END OF MEDIUM, EOM"),
  (0x1A, "SUBSTITUTE, SUB"), (0x1B, "ESCAPE, ESC"),
  (0x1C, "INFORMATION SEPARATOR FOUR, FILE SEPARATOR, FS"),
  (0x1D, "INFORMATION SEPARATOR THREE, GROUP SEPARATOR, GS"),
  (0x1E, "INFORMATION SEPARATOR TWO, RECORD SEPARATOR, RS"),
  (0x1F, "INFORMATION SEPARATOR ONE, UNIT SEPARATOR, US"), (0x7F, "DELETE, DEL"),
  (0x85, "NEXT LINE, NEL"), (0xA0, "NBSP"), (0xAD, "SHY"), (0x200B, "ZWSP"), (0x200C, "ZWNJ"),
  (0x200D, "ZWJ"), (0x200E, "LRM"), (0x200F, "RLM"), (0x2060, "WJ"),
  (0xFEFF, "BYTE ORDER MARK, BOM, ZWNBSP")]

/-- The code point with a name in capitals among the runs. -/
def codeInRuns? (name : String) : Option Nat :=
  nameRuns.findSome? fun (first, start, rests) =>
    let start := if start.isEmpty then "" else start ++ " "
    if name.startsWith start then
      let rest := String.ofList (name.toList.drop start.length)
      ((rests.splitOn ", ").findIdx? (· == rest)).map (first + ·)
    else none

/-- The code point with a name in capitals among the other names. -/
def codeOfOther? (name : String) : Option Nat :=
  otherNames.findSome? fun (code, names) =>
    if (names.splitOn ", ").contains name then some code else none

/-- The sounds that begin the syllables of Hangul. -/
def hangulLeads : List String :=
  ["G", "GG", "N", "D", "DD", "R", "M", "B", "BB", "S", "SS", "", "J", "JJ", "C", "K", "T", "P",
    "H"]

/-- The vowels of the syllables of Hangul. -/
def hangulVowels : List String :=
  ["A", "AE", "YA", "YAE", "EO", "E", "YEO", "YE", "O", "WA", "WAE", "OE", "YO", "U", "WEO", "WE",
    "WI", "YU", "EU", "YI", "I"]

/-- The sounds that end the syllables of Hangul. -/
def hangulTails : List String :=
  ["", "G", "GG", "GS", "N", "NJ", "NH", "D", "L", "LG", "LM", "LB", "LS", "LT", "LP", "LH", "M",
    "B", "BS", "S", "SS", "NG", "J", "C", "K", "T", "P", "H"]

/-- The longest sound that a text begins with, by its place, and the rest. -/
def takeSound (sounds : List String) (cs : List Char) : Option (Nat × List Char) :=
  let fits := sounds.zipIdx.filter fun s => s.1.toList.isPrefixOf cs
  let longest := fits.foldl (fun best s =>
    match best with
    | some (t, _) => if t.length < s.1.length then some s else best
    | none => some s) none
  longest.map fun (s, place) => (place, cs.drop s.length)

/-- The code point of a syllable of Hangul. -/
def hangulCode? (cs : List Char) : Option Nat := do
  let (lead, cs) ← takeSound hangulLeads cs
  let (vowel, cs) ← takeSound hangulVowels cs
  let (tail, cs) ← takeSound hangulTails cs
  if cs.isEmpty then some (0xAC00 + (lead * 21 + vowel) * 28 + tail) else none

/-- The ranges of the ideographs that are named by their code points. -/
def ideographRanges : List (Nat × Nat) :=
  [(0x3400, 0x4DBF), (0x4E00, 0x9FFF), (0x20000, 0x2A6DF), (0x2A700, 0x2B738), (0x2B740, 0x2B81D),
    (0x2B820, 0x2CEA1), (0x2CEB0, 0x2EBE0), (0x30000, 0x3134A)]

/-- The code point of an ideograph from its hexadecimal digits. -/
def ideographCode? (cs : List Char) : Option Nat :=
  let digit (c : Char) : Option Nat :=
    if c.isDigit then some (c.toNat - 48)
    else if 'A' ≤ c ∧ c ≤ 'F' then some (c.toNat - 55)
    else none
  if cs.length ≠ 4 ∧ cs.length ≠ 5 then none
  else do
    let code ← cs.foldlM (fun n c => (digit c).map (n * 16 + ·)) 0
    if ideographRanges.any fun r => r.1 ≤ code && code ≤ r.2 then some code else none

/-- The code point with a name. -/
def codeOfName? (name : String) : Option Nat :=
  let cs := name.toList
  let syllable := "HANGUL SYLLABLE ".toList
  let ideograph := "CJK UNIFIED IDEOGRAPH-".toList
  if syllable.isPrefixOf cs then hangulCode? (cs.drop syllable.length)
  else if ideograph.isPrefixOf cs then ideographCode? (cs.drop ideograph.length)
  else
    let capitals := name.map Char.toUpper
    (codeInRuns? capitals).or (codeOfOther? capitals)

end VoucherDesk.Text
