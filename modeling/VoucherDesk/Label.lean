import VoucherDesk.Settings.Basic
import VoucherDesk.Double.Decimal

/-!
# Labels of quantities

A quantity below ten thousand is written out; above that it is abbreviated with one
decimal place in thousands, millions or thousands of millions. A quota is labelled as an
amount of currency, or as a plain quantity where the settings ask for that.
-/

namespace VoucherDesk.Label

/-- The units of abbreviated quantities: the least quantity, the divisor and the letter. -/
def units : List (Int × Int × String) :=
  [(1000000000, 1000000000, "B"), (1000000, 1000000, "M"), (10000, 1000, "k")]

/-- The quotient of a whole number as a double. -/
def quotient (num den : Int) : Except Failure Double :=
  if den = 0 then .error .divisionByZero
  else match Double.ofQuotient? num den with
    | some x => .ok x
    | none => .error .quotientTooLarge

/-- The label of a whole quantity. -/
def count (n : Int) : Except Failure String :=
  match units.find? fun u => u.1 ≤ n with
  | some (_, divisor, letter) => (quotient n divisor).map fun x => x.toFixed 1 ++ letter
  | none => if Value.isWrittenInt n then .ok (toString n) else .error .unwritableNumber

/-- The label of a quantity that is a double. -/
def countDouble (x : Double) : String :=
  match units.find? fun u => x.geInt u.1 with
  | some (_, divisor, letter) =>
    match Double.ofInt? divisor with
    | some d => (x.divNonzero d).toFixed 1 ++ letter
    | none => x.toText
  | none => x.toText

/-- The label of a quantity of any kind; a truth value counts as a number but is written out. -/
def number : Value → Except Failure String
  | .int n => count n
  | .bool b => .ok (Value.boolText b)
  | .double x => .ok (countDouble x)
  | _ => .error .noOperation

/-- The quota in units of currency. -/
def inCurrency (perUnit : Int) : Value → Except Failure Double
  | .int n => quotient n perUnit
  | .bool b => quotient (if b then 1 else 0) perUnit
  | .double x =>
    match Double.ofInt? perUnit with
    | none => .error .numberTooLarge
    | some d => if d.isZero then .error .doubleDivisionByZero else .ok (x.divNonzero d)
  | _ => .error .noOperation

/-- The label of a quota, with the places of the settings unless others are given. -/
def quota (s : Settings) (v : Value) (places : Option Int) : Except Failure String :=
  if !s.displayInCurrency then number v
  else do
    let x ← inCurrency s.quotaPerUnit v
    let places := places.getD s.quotaDisplayDigits
    if places < 0 then .error .badPlaces else .ok ("$" ++ x.toFixed places.toNat)

end VoucherDesk.Label
