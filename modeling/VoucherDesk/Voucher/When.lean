import VoucherDesk.Failure
import VoucherDesk.Text.Blank
import VoucherDesk.Text.Digit
import VoucherDesk.Calendar.IsoText

/-!
# Moments on a command line

An end of a window is given as seconds or as a moment in ISO 8601. What is blank, or holds
digits of any script after hyphens, is passed on as text; everything else has to denote a
moment.
-/

namespace VoucherDesk.When

/-- Whether a trimmed text is passed on as it is. -/
def isPassedOn (cs : List Char) : Bool :=
  let digits := cs.dropWhile (· == '-')
  cs.isEmpty || (!digits.isEmpty && digits.all Text.isDigit)

/-- Reads an end of a window. -/
def read (s : String) : Except Failure Value :=
  let cs := Text.trimChars s.toList
  if isPassedOn cs then .ok (.text (String.ofList cs))
  else match Moment.ofIsoText? (String.ofList cs) with
    | some t => .ok (.moment t)
    | none => .error (.badMoment (Text.quoted s))

end VoucherDesk.When
