import Mathlib.Data.List.Induction
import VoucherDesk.Proofs.Value.Fields

/-!
# Fills and edits

Named values that an operator works on change in two ways: all of them are filled in at once,
or one of them is edited. What has become of them after any moves is what the last fill put
there under the edits made since; nothing before the last fill is left.
-/

namespace VoucherDesk.Fields

/-- A change of named values. -/
inductive Move where
  /-- All values are replaced. -/
  | fill (all : Fields)
  /-- One value is replaced. -/
  | edit (name : String) (value : Value)

namespace Move

/-- The values that a move fills in. -/
def fill? : Move → Option Fields
  | .fill all => some all
  | .edit .. => none

/-- The name and the value that a move edits. -/
def edit? : Move → Option (String × Value)
  | .fill _ => none
  | .edit name value => some (name, value)

/-- The values after a move. -/
def apply (fields : Fields) : Move → Fields
  | .fill all => all
  | .edit name value => fields.put name value

end Move

/-- The values with edits in order. -/
def override (fields : Fields) (edits : List (String × Value)) : Fields :=
  edits.foldl (fun fields e => fields.put e.1 e.2) fields

/-- What was filled in last, the values at first if nothing was. -/
def lastFill (first : Fields) (moves : List Move) : Fields :=
  (moves.reverse.findSome? Move.fill?).getD first

/-- The edits since the last fill, in order. -/
def editsSinceFill (moves : List Move) : List (String × Value) :=
  (moves.reverse.takeWhile fun m => m.fill?.isNone).reverse.filterMap Move.edit?

/-- A fill after other moves is the last one, and no edits have been made since. -/
theorem after_fill (first : Fields) (moves : List Move) (all : Fields) :
    lastFill first (moves ++ [.fill all]) = all ∧ editsSinceFill (moves ++ [.fill all]) = [] := by
  have hreverse : (moves ++ [Move.fill all]).reverse = Move.fill all :: moves.reverse :=
    List.reverse_concat ..
  constructor
  · rw [lastFill, hreverse]
    rfl
  · rw [editsSinceFill, hreverse, List.takeWhile_cons_of_neg (by simp [Move.fill?])]
    rfl

/-- An edit after other moves leaves the last fill alone and is the last edit since. -/
theorem after_edit (first : Fields) (moves : List Move) (name : String) (value : Value) :
    lastFill first (moves ++ [.edit name value]) = lastFill first moves ∧
      editsSinceFill (moves ++ [.edit name value]) =
        editsSinceFill moves ++ [(name, value)] := by
  have hreverse : (moves ++ [Move.edit name value]).reverse =
      Move.edit name value :: moves.reverse := List.reverse_concat ..
  constructor
  · rw [lastFill, hreverse]
    rfl
  · rw [editsSinceFill, hreverse, List.takeWhile_cons_of_pos (by simp [Move.fill?]),
      List.reverse_cons, List.filterMap_append]
    rfl

/-- A fill among later moves puts those before them out of account. -/
theorem lastFill_append (first : Fields) (moves more : List Move) :
    lastFill first (moves ++ more) = lastFill (lastFill first moves) more := by
  unfold lastFill
  rw [List.reverse_append, List.findSome?_append]
  cases more.reverse.findSome? Move.fill? with
  | none => rfl
  | some all => rfl

/-- After any moves the values are those of the last fill under the edits since. -/
theorem foldl_apply (first : Fields) (moves : List Move) :
    moves.foldl Move.apply first = override (lastFill first moves) (editsSinceFill moves) := by
  induction moves using List.reverseRecOn with
  | nil => rfl
  | append_singleton moves m ih =>
    rw [List.foldl_append, List.foldl_cons, List.foldl_nil, ih]
    cases m with
    | fill all =>
      obtain ⟨hfill, hedits⟩ := after_fill first moves all
      rw [hfill, hedits]
      rfl
    | edit name value =>
      obtain ⟨hfill, hedits⟩ := after_edit first moves name value
      rw [hfill, hedits, override, override, List.foldl_append]
      rfl

/-- Putting a value under a name that is present changes no name. -/
theorem names_put {fields : Fields} {name : String} (h : name ∈ fields.names) (v : Value) :
    (fields.put name v).names = fields.names := by
  induction fields with
  | nil => exact absurd h List.not_mem_nil
  | cons p rest ih =>
    obtain ⟨n, w⟩ := p
    by_cases hn : n = name
    · simp [put, names, hn]
    · have hrest : name ∈ names rest := by
        rcases List.mem_cons.mp h with rfl | hrest
        · exact absurd rfl hn
        · exact hrest
      have htail := ih hrest
      simp only [names] at htail
      simp [put, names, hn, htail]

/-- The value that a name was edited to last, if it was edited. -/
def lastEdit (edits : List (String × Value)) (name : String) : Option Value :=
  get? edits.reverse name

/-- What is found after edits is what was edited last, or else what was there. -/
theorem get?_override_lastEdit (fields : Fields) (edits : List (String × Value)) (name : String) :
    (override fields edits).get? name = (lastEdit edits name).or (fields.get? name) := by
  induction edits generalizing fields with
  | nil => rfl
  | cons e rest ih =>
    obtain ⟨n, v⟩ := e
    have hlast : lastEdit ((n, v) :: rest) name =
        (lastEdit rest name).or (if name = n then some v else none) := by
      rw [lastEdit, List.reverse_cons, get?, List.lookup_append]
      exact congrArg _ (get?_cons n name v [])
    rw [show override fields ((n, v) :: rest) = override (fields.put n v) rest from rfl, ih, hlast,
      get?_put, Option.or_assoc]
    split <;> rfl

/-- What is read after edits is what was edited last, or else what was read there. -/
theorem fieldOf_override (fields : Fields) (edits : List (String × Value)) (name : String) :
    Value.fieldOf (override fields edits) name =
      (lastEdit edits name).getD (Value.fieldOf fields name) := by
  rw [Value.fieldOf, get?_override_lastEdit, Option.getD_or]
  rfl

/-- A value that a name was edited to last is one of the edits. -/
theorem mem_of_lastEdit {edits : List (String × Value)} {name : String} {v : Value}
    (h : lastEdit edits name = some v) : (name, v) ∈ edits :=
  List.mem_reverse.mp (mem_of_get? h)

/-- What one name was edited to last does not depend on the edits of another. -/
theorem lastEdit_filter {name other : String} (h : name ≠ other) (edits : List (String × Value)) :
    lastEdit (edits.filter fun e => e.1 ≠ other) name = lastEdit edits name := by
  rw [lastEdit, ← List.filter_reverse, lastEdit]
  induction edits.reverse with
  | nil => rfl
  | cons e rest ih =>
    obtain ⟨n, v⟩ := e
    by_cases hn : n = other
    · rw [List.filter_cons_of_neg (by simp [hn]), ih, get?_cons, if_neg (hn ▸ h)]
    · rw [List.filter_cons_of_pos (by simp [hn]), get?_cons, get?_cons, ih]

/-- What is found after edits of different names is what was edited, or else what was there. -/
theorem get?_override {edits : List (String × Value)} (h : names edits |>.Nodup) (fields : Fields)
    (name : String) :
    (override fields edits).get? name = (get? edits name).or (fields.get? name) := by
  induction edits generalizing fields with
  | nil => rfl
  | cons e rest ih =>
    obtain ⟨n, v⟩ := e
    obtain ⟨hfresh, hrest⟩ := List.nodup_cons.mp h
    rw [show override fields ((n, v) :: rest) = override (fields.put n v) rest from rfl, ih hrest,
      get?_put, get?_cons]
    by_cases hn : name = n
    · have hnone : get? rest name = none := by
        rw [← Option.not_isSome_iff_eq_none, isSome_get?]
        exact hn ▸ hfresh
      rw [if_pos hn, if_pos hn, hnone]
      rfl
    · rw [if_neg hn, if_neg hn]

/-- A move that leaves given names in place: it fills in all of them, or edits one of them. -/
def Move.Keeps (names : List String) : Move → Prop
  | .fill all => all.names = names
  | .edit name _ => name ∈ names

/-- Moves that leave the names in place leave them in place together. -/
theorem names_foldl {names : List String} {moves : List Move}
    (hmoves : ∀ m ∈ moves, m.Keeps names) {fields : Fields} (h : fields.names = names) :
    (moves.foldl Move.apply fields).names = names := by
  induction moves generalizing fields with
  | nil => exact h
  | cons m rest ih =>
    obtain ⟨hm, hrest⟩ := List.forall_mem_cons.mp hmoves
    refine ih hrest ?_
    cases m with
    | fill all => exact hm
    | edit name value => exact (names_put (h ▸ hm) value).trans h

/-- What is filled in by moves that leave the names in place has these names. -/
theorem names_lastFill {names : List String} {moves : List Move}
    (hmoves : ∀ m ∈ moves, m.Keeps names) {first : Fields} (h : first.names = names) :
    (lastFill first moves).names = names := by
  unfold lastFill
  cases hfound : moves.reverse.findSome? Move.fill? with
  | none => exact h
  | some all =>
    obtain ⟨m, hmem, hm⟩ := List.exists_of_findSome?_eq_some hfound
    have hkeeps := hmoves m (List.mem_reverse.mp hmem)
    cases m with
    | fill all' =>
      obtain rfl : all' = all := by simpa [Move.fill?] using hm
      exact hkeeps
    | edit name value => cases hm

end VoucherDesk.Fields
