import VoucherDesk.Text.Alphanumeric
import VoucherDesk.Text.Digit
import VoucherDesk.Text.Lowercase

/-!
# Names of hosts beyond ASCII

A host whose name has letters beyond ASCII is written in ASCII label by label: a label with
such letters is `xn--`, its ASCII characters, and the places of the others in a numeral of
varying base, in which the digits are `a` to `z` and then `0` to `9`. The labels of such a
host hold lower-case letters, decimal digits and inner hyphens only.
-/

namespace VoucherDesk.HostName

/-- A digit of base 36. -/
def digit (n : Nat) : Char := Char.ofNat (if n < 26 then n + 97 else n + 22)

/-- The least digit that ends a numeral at a place. -/
def threshold (bias place : Nat) : Nat := max 1 (min 26 (place - bias))

/-- A numeral of varying base from a place on. -/
def numeral (bias place n : Nat) : List Char :=
  let t := threshold bias place
  if _h : n < t then [digit n]
  else digit (t + (n - t) % (36 - t)) :: numeral bias (place + 36) ((n - t) / (36 - t))
termination_by n
decreasing_by
  have ht : 1 ≤ t := Nat.le_max_left _ _
  calc (n - t) / (36 - t) ≤ n - t := Nat.div_le_self _ _
    _ < n := by omega

/-- How often a distance is divided, and what is left of it. -/
def halve (times distance : Nat) : Nat × Nat :=
  if _h : 455 < distance then halve (times + 1) (distance / 35) else (times, distance)
termination_by distance
decreasing_by exact Nat.div_lt_self (by omega) (by omega)

/-- The bias after a distance, with the number of characters written so far. -/
def adapt (distance written : Nat) (isFirst : Bool) : Nat :=
  let distance := if isFirst then distance / 700 else distance / 2
  let (times, rest) := halve 0 (distance + distance / written)
  times * 36 + 36 * rest / (rest + 38)

/-- What is kept while the characters beyond ASCII are written. -/
structure State where
  distance : Nat := 0
  bias : Nat := 72
  written : Nat
  isFirst : Bool := true
  text : List Char := []

/-- Passes a character of the label while all characters of a code point are written. -/
def pass (code : Nat) (s : State) (c : Char) : State :=
  if c.toNat < code then { s with distance := s.distance + 1 }
  else if c.toNat = code then
    { distance := 0, bias := adapt s.distance (s.written + 1) s.isFirst, written := s.written + 1,
      isFirst := false, text := s.text ++ numeral s.bias 36 s.distance }
  else s

/-- Writes all characters of a code point, after those of lower code points up to `last`. -/
def writeCode (label : List Char) (state : State × Nat) (code : Nat) : State × Nat :=
  let (s, last) := state
  let s := { s with distance := s.distance + (code - last) * (s.written + 1) }
  let s := label.foldl (pass code) s
  ({ s with distance := s.distance + 1 }, code + 1)

/-- A label beyond ASCII in ASCII. -/
def encode (label : List Char) : List Char :=
  let basic := label.filter fun c => c.toNat < 128
  let codes := ((label.filter fun c => 128 ≤ c.toNat).map Char.toNat).mergeSort.eraseDups
  let start := if basic.isEmpty then [] else basic ++ ['-']
  let (s, _) := codes.foldl (writeCode label) ({ written := basic.length }, 128)
  start ++ s.text

/-- Whether a character may stand in a label. -/
def isAllowed (c : Char) : Bool :=
  let code := c.toNat
  c == '-' || Text.isDecimalCode code
    || (Text.isLetterCode code && Text.lowercaseCode code == code)

/-- A label in ASCII, if it is valid. -/
def labelText? (label : List Char) : Option (List Char) :=
  let isPlain := label.all fun c => c.toNat < 128
  let text := if isPlain then label else "xn--".toList ++ encode label
  let hyphened := (label.drop 2).take 2 == ['-', '-'] || label.head? == some '-'
    || label.getLast? == some '-'
  if label.isEmpty || hyphened || 63 < text.length || !label.all isAllowed then none
  else some text

/-- The marks that end a label. -/
def isDot (c : Char) : Bool := ['.', '\u3002', '\uff0e', '\uff61'].contains c

/-- The name of a host in ASCII, if it is valid. -/
def ascii? (host : String) : Option String := do
  let labels := (String.ofList (host.toList.map fun c => if isDot c then '.' else c)).splitOn "."
  let hasEnd := labels.getLast? == some ""
  let labels := if hasEnd then labels.dropLast else labels
  let texts ← labels.mapM fun l => labelText? l.toList
  let name := ".".intercalate (texts.map String.ofList) ++ (if hasEnd then "." else "")
  if texts.isEmpty || 253 < name.length then none else some name

end VoucherDesk.HostName
