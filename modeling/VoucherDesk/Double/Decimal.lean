import VoucherDesk.Double.Basic

/-!
# Doubles in decimal

A decimal numeral becomes the double nearest to it. A double is written either with
the fewest digits that read back as the same double, or with a fixed number of places
of its exact value, a half going to the even digit.
-/

namespace VoucherDesk.Double

/-- The double nearest to `± digits · 10^exponent`.

Numerals far outside the range of doubles are decided by their length alone: above
`10^400` they are infinite, below `10^-400` they are zero. -/
def ofDecimal (negative : Bool) (digits : Nat) (exponent : Int) : Double :=
  if digits = 0 then .finite negative 0 0
  else if 400 < exponent then .infinite negative
  else if exponent < -400 - (Nat.log2 digits / 3 + 1 : Nat) then .finite negative 0 0
  else if 0 ≤ exponent then ofUnits negative (digits * Nat.pow 10 exponent.toNat * unitsPerOne) 1
  else ofUnits negative (digits * unitsPerOne) (Nat.pow 10 (-exponent).toNat)

/-- The number of decimal digits of a positive number. -/
def decimalLength (n : Nat) : Nat := (Nat.toDigits 10 n).length

/-- The decimal point of a positive magnitude: it lies in `[10^(k-1), 10^k)`. -/
def decimalPoint (units : Nat) : Int :=
  (decimalLength (units * Nat.pow 10 340 / unitsPerOne) : Int) - 340

/-- A grid point `c · 10^scale`, in quarters of the smallest unit times a common divisor. -/
private def gridQuarters (c : Nat) (scale : Int) : Nat × Nat :=
  if 0 ≤ scale then (4 * c * Nat.pow 10 scale.toNat * unitsPerOne, 1)
  else (4 * c * unitsPerOne, Nat.pow 10 (-scale).toNat)

/-- Whether a grid point rounds to the double with this significand and exponent. -/
private def readsBack (significand exponent c : Nat) (scale : Int) : Bool :=
  let (g, d) := gridQuarters c scale
  let unit := Nat.pow 2 exponent * d
  let below := if significand = Nat.pow 2 52 ∧ 0 < exponent then 1 else 2
  let low := (4 * significand - below) * unit
  let high := (4 * significand + 2) * unit
  if significand % 2 = 0 then low ≤ g && g ≤ high else low < g && g < high

/-- Whether the lower of two neighbouring grid points is at least as near as the upper one. -/
private def lowerNearer (units c : Nat) (scale : Int) : Bool :=
  let (g, d) := gridQuarters c scale
  let (h, _) := gridQuarters (c + 1) scale
  let v := 4 * units * d
  v - g < h - v || (v - g == h - v && c % 2 == 0)

/-- The grid point of this scale that reads back, the nearer one of two. -/
private def gridHit? (significand exponent : Nat) (scale : Int) : Option Nat :=
  let units := significand * Nat.pow 2 exponent
  let c :=
    if 0 ≤ scale then units / (unitsPerOne * Nat.pow 10 scale.toNat)
    else units * Nat.pow 10 (-scale).toNat / unitsPerOne
  match readsBack significand exponent c scale, readsBack significand exponent (c + 1) scale with
  | true, true => if lowerNearer units c scale then some c else some (c + 1)
  | true, false => some c
  | false, true => some (c + 1)
  | false, false => none

/-- A numeral without trailing zeros. -/
private def dropZeros : Nat → Nat → Int → Nat × Int
  | 0, c, s => (c, s)
  | fuel + 1, c, s => if c % 10 = 0 ∧ c ≠ 0 then dropZeros fuel (c / 10) (s + 1) else (c, s)

/-- The fewest digits `c` and the scale `s` with `c · 10^s` reading back as the positive double. -/
def shortest (significand exponent : Nat) : Nat × Int :=
  let k := decimalPoint (significand * Nat.pow 2 exponent)
  let hit := (List.range 17).findSome? fun i =>
    let scale := k - (i + 1 : Nat)
    (gridHit? significand exponent scale).map fun c => (c, scale)
  match hit with
  | some (c, s) => dropZeros 20 c s
  | none => (0, 0)

/-- A number of zeros. -/
private def zeros (n : Nat) : String := String.ofList (List.replicate n '0')

/-- Digits and scale as text: positional from `0.0001` up to below `10^16`, with an exponent
of at least two digits outside that range. -/
private def layout (c : Nat) (scale : Int) : String :=
  let ds := Nat.toDigits 10 c
  let n := ds.length
  let point : Int := n + scale
  if -4 < point ∧ point ≤ 16 then
    if point ≤ 0 then "0." ++ zeros (-point).toNat ++ String.ofList ds
    else if (n : Int) ≤ point then String.ofList ds ++ zeros (point.toNat - n) ++ ".0"
    else String.ofList (ds.take point.toNat) ++ "." ++ String.ofList (ds.drop point.toNat)
  else
    let e := point - 1
    let body := match ds with
      | [d] => String.ofList [d]
      | d :: rest => String.ofList (d :: '.' :: rest)
      | [] => ""
    let width := (Nat.toDigits 10 e.natAbs)
    let expo := if width.length < 2 then '0' :: width else width
    body ++ (if e < 0 then "e-" else "e+") ++ String.ofList expo

/-- The double with the fewest digits that read back. -/
def toText : Double → String
  | .nan => "nan"
  | .infinite s => if s then "-inf" else "inf"
  | .finite s m e =>
    let body := if m = 0 then "0.0" else
      let (c, scale) := shortest m e
      layout c scale
    if s then "-" ++ body else body

/-- The number `units / den` smallest units with a fixed number of places. -/
private def fixedBody (places num den : Nat) : String :=
  let ds := Nat.toDigits 10 (roundHalfEven (num * Nat.pow 10 places) den)
  let ds := List.replicate (places + 1 - ds.length) '0' ++ ds
  let whole := ds.take (ds.length - places)
  if places = 0 then String.ofList whole
  else String.ofList whole ++ "." ++ String.ofList (ds.drop (ds.length - places))

/-- The double with a fixed number of places of its exact value; minus zero keeps its sign. -/
def toFixed (x : Double) (places : Nat) : String :=
  match x with
  | .nan => "nan"
  | .infinite s => if s then "-inf" else "inf"
  | .finite s m e =>
    let body := fixedBody places (m * Nat.pow 2 e) unitsPerOne
    if s then "-" ++ body else body

end VoucherDesk.Double
