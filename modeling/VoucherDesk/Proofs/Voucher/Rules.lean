import VoucherDesk.Proofs.Voucher.Entries
import VoucherDesk.Proofs.Voucher.Numeral

/-!
# The rules of drafts

A draft that comes from JSON is judged by the numbers in it: the quota, the count of new vouchers,
the use limit of gifts and both ends of the window. Each of them has to obey the rule of its
field, and those that may be blank then have a number that they stand for. If all of them do, the
draft describes the voucher with these numbers; otherwise the first that does not is refused. What
is not asked for makes no difference.
-/

namespace VoucherDesk

/-- A field of a draft that holds a whole number under a rule. -/
structure RuledField where
  name : String
  /-- What a blank entry stands for, if the field may be blank. -/
  blank : Option Int
  rule : FieldRule
  /-- The numbers that obey the rule. -/
  allows : Int → Bool
  /-- The number of a voucher that the field is for. -/
  number : Voucher → Int

namespace RuledField

/-- The quota is positive. -/
def quota : RuledField := ⟨"quota", none, .positive, (0 < ·), Voucher.quota⟩

/-- The count is at least one. -/
def count : RuledField := ⟨"count", none, .atLeastOne, (1 ≤ ·), Voucher.count⟩

/-- A use limit is unlimited, as it is when it is blank, or at least one. -/
def useLimit : RuledField :=
  ⟨"max_uses", some unlimitedUses, .useLimit, fun n => n = unlimitedUses ∨ 1 ≤ n, Voucher.maxUses⟩

/-- An end of the window is not negative, and zero when it is blank. -/
def windowEnd (name : String) (number : Voucher → Int) : RuledField :=
  ⟨name, some 0, .notNegative, (0 ≤ ·), number⟩

/-- An entry is taken as a number: it denotes one that obeys the rule, or is blank and stands for
it. -/
def Takes (f : RuledField) (v : Value) (n : Int) : Prop :=
  (FormField.isBlank v = true ∧ f.blank = some n) ∨
    (FormField.Denotes v n ∧ f.allows n = true)

/-- An entry breaks a rule: that of being a whole number, or that of the field. -/
inductive Breaks (f : RuledField) (v : Value) : FieldRule → Prop where
  | noNumber (none : ∀ n, ¬ FormField.Denotes v n) : Breaks f v .wholeNumber
  | outOfRange {n : Int} (denotes : FormField.Denotes v n) (outside : f.allows n = false) :
    Breaks f v f.rule

/-- Reads an entry. -/
def read (f : RuledField) (v : Value) : Except Failure Int :=
  match f.blank with
  | none => FormField.intWhere f.name v f.rule f.allows
  | some n =>
    if FormField.isBlank v then .ok n else FormField.intWhere f.name v f.rule f.allows

variable {f : RuledField} {v : Value} {n : Int}

/-- Blank entries denote no number. -/
theorem not_denotes_of_isBlank (h : FormField.isBlank v = true) : ¬ FormField.Denotes v n := by
  rintro (_ | _ | hnumeral)
  · cases h
  · cases h
  · have hread := FormField.numeral?_trimChars.mpr hnumeral
    rw [FormField.trimChars_of_isBlankText h] at hread
    cases hread

/-- An entry that is not read as blank is read by the rule. -/
theorem read_cases (f : RuledField) (v : Value) :
    (∃ n, FormField.isBlank v = true ∧ f.blank = some n ∧ f.read v = .ok n) ∨
      ((FormField.isBlank v = true → f.blank = none) ∧
        f.read v = FormField.intWhere f.name v f.rule f.allows) := by
  unfold read
  cases hblank : f.blank with
  | none => exact Or.inr ⟨fun _ => rfl, rfl⟩
  | some n =>
    cases hv : FormField.isBlank v with
    | true => exact Or.inl ⟨n, rfl, rfl, rfl⟩
    | false => exact Or.inr ⟨fun h => (nomatch h), rfl⟩

/-- An entry within the limit on digits is read just as the number that it is taken as. -/
theorem read_eq_ok (hv : FormField.KeepsDigitLimit v) : f.read v = .ok n ↔ f.Takes v n := by
  have hint : FormField.int f.name v = .ok n ↔ FormField.Denotes v n :=
    ⟨FormField.denotes_of_int, FormField.int_of_denotes hv⟩
  rcases read_cases f v with ⟨m, hblank, hm, hread⟩ | ⟨hblank, hread⟩
  · rw [hread, Takes, hm, Except.ok.injEq, Option.some.injEq, hblank]
    have hnone : ¬ FormField.Denotes v n := not_denotes_of_isBlank hblank
    simp [hnone]
  · rw [hread, FormField.intWhere_eq_ok, hint, Takes]
    constructor
    · exact Or.inr
    · rintro (⟨hisBlank, hsome⟩ | htaken)
      · rw [hblank hisBlank] at hsome
        cases hsome
      · exact htaken

/-- An entry within the limit on digits that is not taken is refused for a rule that it breaks. -/
theorem read_of_not_takes (hv : FormField.KeepsDigitLimit v) (h : ∀ n, ¬ f.Takes v n) :
    ∃ rule, f.Breaks v rule ∧ f.read v = .error (.fault (.fieldFormat f.name v rule)) := by
  have hread : f.read v = FormField.intWhere f.name v f.rule f.allows := by
    rcases read_cases f v with ⟨n, hblank, hn, -⟩ | ⟨-, hread⟩
    · exact absurd (Or.inl ⟨hblank, hn⟩) (h n)
    · exact hread
  rw [hread, FormField.intWhere]
  by_cases hdenotes : ∃ n, FormField.Denotes v n
  · obtain ⟨n, hn⟩ := hdenotes
    have hout : f.allows n = false := by
      rw [← Bool.not_eq_true]
      exact fun hallows => h n (Or.inr ⟨hn, hallows⟩)
    refine ⟨f.rule, .outOfRange hn hout, ?_⟩
    rw [FormField.int_of_denotes hv hn]
    simp [bind, Except.bind, hout, FormField.refuse, hv.written]
  · have hnone : ∀ n, ¬ FormField.Denotes v n := not_exists.mp hdenotes
    refine ⟨.wholeNumber, .noNumber hnone, ?_⟩
    rw [FormField.int_of_not_denotes hv hnone]
    rfl

end RuledField

namespace Draft

/-- The numbers of a draft in the order in which they are judged: the count of new vouchers only,
the use limit of gifts only. -/
def ruledFields (isNew isGift : Bool) : List RuledField :=
  [.quota] ++ (if isNew then [.count] else []) ++ (if isGift then [.useLimit] else [])
    ++ [.windowEnd "valid_from" Voucher.validFrom, .windowEnd "valid_until" Voucher.validUntil]

/-- What is said of all numbers of a draft is said of each one that is asked for. -/
theorem forall_mem_ruledFields {P : RuledField → Prop} {isNew isGift : Bool} :
    (∀ f ∈ ruledFields isNew isGift, P f) ↔
      P .quota ∧ (isNew = true → P .count) ∧ (isGift = true → P .useLimit) ∧
        P (.windowEnd "valid_from" Voucher.validFrom) ∧
        P (.windowEnd "valid_until" Voucher.validUntil) := by
  cases isNew <;> cases isGift <;> simp [ruledFields]

/-- The number that is edited, as an entry. -/
def editingValue (editing : Option Int) : Value := (editing.map Value.int).getD .null

/-- There is no number to edit just for new vouchers. -/
theorem isNull_editingValue (editing : Option Int) :
    (editingValue editing).isNull = editing.isNone := by
  cases editing <;> rfl

/-- A voucher holds what a draft says: every number that is asked for as it is taken, and the name
as text. A saved voucher keeps its number and has a count of one and no key. -/
structure Holds (inputs : Fields) (key : String) (editing : Option Int) (v : Voucher) : Prop where
  numbers : ∀ f ∈ ruledFields editing.isNone v.isGift,
    f.Takes (Value.fieldOf inputs f.name) (f.number v)
  id : v.id = editing
  name : v.name = ((Value.fieldOf inputs "name").orElse (.text "")).plain
  isGift : v.isGift = (Value.fieldOf inputs "is_gift").isTruthy
  key : v.key = if editing.isNone then some key else none
  count : editing.isSome = true → v.count = 1

variable {inputs : Fields} {key : String} {editing : Option Int}

/-- An entry of a draft whose values keep to the limit on digits does so, also where it is
absent. -/
theorem keepsDigitLimit_fieldOf (h : ∀ p ∈ inputs, FormField.KeepsDigitLimit p.2) (name : String) :
    FormField.KeepsDigitLimit (Value.fieldOf inputs name) := by
  rcases Value.fieldOf_cases inputs name with hnull | hmem
  · rw [hnull]
    exact FormField.keepsDigitLimit_of_isWritten rfl (by simp)
  · exact h _ hmem

/-- An end of the window that is no moment is read by its rule. -/
theorem timestamp_eq_read {v : Value} (hv : v.isMoment = false) (name : String)
    (number : Voucher → Int) :
    FormField.timestamp name v = (RuledField.windowEnd name number).read v := by
  cases v with
  | moment t => cases hv
  | _ => rfl

/-- A draft without moments whose values keep to the limit on digits is refused just as its numbers
are, one after the other. -/
theorem toVoucher_reads (hjson : inputs.HasNoMoment)
    (hlimit : ∀ p ∈ inputs, FormField.KeepsDigitLimit p.2) :
    (toVoucher inputs (.text key) (editingValue editing)).map (fun _ => ()) =
      (ruledFields editing.isNone (Value.fieldOf inputs "is_gift").isTruthy).forM fun f =>
        (f.read (Value.fieldOf inputs f.name)).map fun _ => () := by
  have hname : (Entry.name (Value.fieldOf inputs "name")).check = .ok () := by
    have hwritten := (keepsDigitLimit_fieldOf hlimit "name").written
    simp only [Entry.check, name, hwritten]
    rfl
  have huses (v : Value) : (Entry.uses v).check = (RuledField.useLimit.read v).map fun _ => () := by
    show ((RuledField.useLimit.read v).map VoucherKind.gift).map (fun _ => ()) = _
    cases RuledField.useLimit.read v <;> rfl
  have hbound (name : String) (number : Voucher → Int) :
      (Entry.bound name (Value.fieldOf inputs name)).check =
        ((RuledField.windowEnd name number).read (Value.fieldOf inputs name)).map fun _ => () := by
    rw [Entry.check, timestamp_eq_read (hjson.fieldOf name)]
  rw [editingValue, toVoucher_checks, entries, ruledFields]
  cases editing.isNone <;> cases (Value.fieldOf inputs "is_gift").isTruthy <;>
    simp only [Bool.false_eq_true, ite_true, ite_false, List.append_nil, List.cons_append,
      List.nil_append, List.forM, huses, hname, hbound "valid_from" Voucher.validFrom,
      hbound "valid_until" Voucher.validUntil] <;> rfl

/-- A draft describes a gift just when it says so, and then the use limit is read of it. -/
theorem Describes.gift {key editingId : Value} {v : Voucher}
    (h : Describes inputs key editingId v) :
    v.isGift = (Value.fieldOf inputs "is_gift").isTruthy ∧
      (v.isGift = true → useLimit (Value.fieldOf inputs "max_uses") = .ok v.maxUses) := by
  have hkind := h.kind
  cases hgift : (Value.fieldOf inputs "is_gift").isTruthy with
  | true =>
    rw [if_pos hgift] at hkind
    obtain ⟨n, hread, hkind⟩ := hkind
    simp [Voucher.isGift, Voucher.maxUses, hkind, hread]
  | false =>
    rw [hgift, if_neg Bool.false_ne_true] at hkind
    simp [Voucher.isGift, hkind]

/-- An accepted draft describes a voucher that holds what the draft says. -/
theorem holds_of_toVoucher (hjson : inputs.HasNoMoment)
    (hlimit : ∀ p ∈ inputs, FormField.KeepsDigitLimit p.2) {v : Voucher}
    (h : toVoucher inputs (.text key) (editingValue editing) = .ok v) :
    Holds inputs key editing v := by
  have hdescribes := toVoucher_eq_ok.mp h
  have htakes {f : RuledField} (hread : f.read (Value.fieldOf inputs f.name) = .ok (f.number v)) :
      f.Takes (Value.fieldOf inputs f.name) (f.number v) :=
    (RuledField.read_eq_ok (keepsDigitLimit_fieldOf hlimit f.name)).mp hread
  have hbound (name : String) (number : Voucher → Int)
      (hread : FormField.timestamp name (Value.fieldOf inputs name) = .ok (number v)) :
      (RuledField.windowEnd name number).Takes (Value.fieldOf inputs name) (number v) := by
    rw [timestamp_eq_read (hjson.fieldOf name) name number] at hread
    exact htakes hread
  have hcount := hdescribes.count
  have hkey := hdescribes.key
  rw [isNull_editingValue] at hcount hkey
  obtain ⟨hisGift, huses⟩ := hdescribes.gift
  refine ⟨forall_mem_ruledFields.mpr ⟨?_, fun hnew => ?_, fun hgift => htakes (huses hgift),
    hbound _ _ hdescribes.validFrom, hbound _ _ hdescribes.validUntil⟩, ?_, ?_, hisGift, ?_,
    fun hedit => ?_⟩
  · have hpositive := decide_eq_true hdescribes.quota_pos
    exact htakes (FormField.intWhere_eq_ok.mpr ⟨hdescribes.quota, hpositive⟩)
  · rw [if_pos hnew] at hcount
    exact htakes (FormField.intWhere_eq_ok.mpr ⟨hcount.1, decide_eq_true hcount.2⟩)
  · cases editing <;>
      simpa [editingValue, Reading.intOrNull, Reading.int, Except.map, eq_comm] using hdescribes.id
  · have hwritten := (keepsDigitLimit_fieldOf hlimit "name").written
    simpa [name, hwritten, eq_comm] using hdescribes.name
  · cases hnew : editing.isNone <;>
      simpa [hnew, Reading.textOrNull, Reading.text, Except.map, eq_comm] using hkey
  · have hnew : editing.isNone = false := by rwa [← Option.not_isSome, Bool.not_eq_false']
    simpa [hnew] using hcount

/-- What is not asked for makes no difference. -/
theorem toVoucher_congr {inputs' : Fields} {key' : String}
    (hentries : ∀ name ∈ "name" :: "is_gift" ::
      (ruledFields editing.isNone (Value.fieldOf inputs "is_gift").isTruthy).map RuledField.name,
      Value.fieldOf inputs' name = Value.fieldOf inputs name)
    (hkey : editing = none → key' = key) :
    toVoucher inputs' (.text key') (editingValue editing) =
      toVoucher inputs (.text key) (editingValue editing) := by
  rw [List.forall_mem_cons, List.forall_mem_cons, List.forall_mem_map, forall_mem_ruledFields]
    at hentries
  obtain ⟨hname, hgift, hquota, hcount, huses, hfrom, huntil⟩ := hentries
  simp only [RuledField.quota, RuledField.count, RuledField.useLimit, RuledField.windowEnd] at *
  cases editing with
  | none =>
    obtain rfl := hkey rfl
    cases htruthy : (Value.fieldOf inputs "is_gift").isTruthy <;>
      simp [toVoucher, isNull_editingValue, hname, hgift, hquota, hcount rfl, huses, hfrom, huntil,
        htruthy]
  | some id =>
    cases htruthy : (Value.fieldOf inputs "is_gift").isTruthy <;>
      simp [toVoucher, isNull_editingValue, hname, hgift, hquota, huses, hfrom, huntil, htruthy]

/-- The first of a draft's numbers that is not taken is refused, for a rule that it breaks. -/
structure RefusedAt (inputs : Fields) (fields before after : List RuledField) (f : RuledField)
    (rule : FieldRule) : Prop where
  order : fields = before ++ f :: after
  taken : ∀ g ∈ before, ∃ n, g.Takes (Value.fieldOf inputs g.name) n
  not_taken : ∀ n, ¬ f.Takes (Value.fieldOf inputs f.name) n
  breaks : f.Breaks (Value.fieldOf inputs f.name) rule

/-- A draft without moments whose values keep to the limit on digits is accepted with all its
numbers taken, or refused at the first that is not. -/
theorem toVoucher_cases (hjson : inputs.HasNoMoment)
    (hlimit : ∀ p ∈ inputs, FormField.KeepsDigitLimit p.2) :
    let fields := ruledFields editing.isNone (Value.fieldOf inputs "is_gift").isTruthy
    let outcome := toVoucher inputs (.text key) (editingValue editing)
    ((∃ v, outcome = .ok v) ∧ ∀ f ∈ fields, ∃ n, f.Takes (Value.fieldOf inputs f.name) n) ∨
      ∃ before f after rule, RefusedAt inputs fields before after f rule ∧
        outcome = .error (.fault (.fieldFormat f.name (Value.fieldOf inputs f.name) rule)) := by
  intro fields outcome
  have hentry (f : RuledField) := keepsDigitLimit_fieldOf hlimit f.name
  have hpasses (f : RuledField) :
      (f.read (Value.fieldOf inputs f.name)).map (fun _ => ()) = .ok () ↔
        ∃ n, f.Takes (Value.fieldOf inputs f.name) n := by
    simp only [← RuledField.read_eq_ok (hentry f)]
    cases f.read (Value.fieldOf inputs f.name) <;> simp [Except.map]
  have hreads : outcome.map (fun _ => ()) =
      fields.forM fun f => (f.read (Value.fieldOf inputs f.name)).map fun _ => () :=
    toVoucher_reads hjson hlimit
  rcases forM_cases (fun f : RuledField => (f.read (Value.fieldOf inputs f.name)).map fun _ => ())
    fields with ⟨hpass, hall⟩ | ⟨before, f, after, e, horder, hbefore, hf, hfails⟩
  · rw [hpass] at hreads
    refine Or.inl ⟨?_, fun f hf => (hpasses f).mp (hall f hf)⟩
    cases houtcome : outcome with
    | ok v => exact ⟨v, rfl⟩
    | error e =>
      rw [houtcome] at hreads
      cases hreads
  · have hnone (n : Int) : ¬ f.Takes (Value.fieldOf inputs f.name) n := by
      intro htakes
      rw [(hpasses f).mpr ⟨n, htakes⟩] at hf
      cases hf
    obtain ⟨rule, hbreaks, hread⟩ := RuledField.read_of_not_takes (hentry f) hnone
    rw [hread] at hf
    obtain rfl := Except.error.inj hf
    refine Or.inr ⟨before, f, after, rule,
      ⟨horder, fun g hg => (hpasses g).mp (hbefore g hg), hnone, hbreaks⟩, ?_⟩
    exact map_eq_error.mp (hreads.trans hfails)

/-- A draft without moments whose values keep to the limit on digits is accepted just when every
number that is asked for is taken, and then the voucher holds what the draft says. Otherwise the
first number that is not taken is refused for the rule that it breaks. What is not asked for makes
no difference: the use limit of what is no gift, the count and the key of what is edited. -/
theorem drafts_follow_rules (inputs : Fields) (key : String) (editing : Option Int)
    (hjson : inputs.HasNoMoment) (hlimit : ∀ p ∈ inputs, FormField.KeepsDigitLimit p.2) :
    let fields := ruledFields editing.isNone (Value.fieldOf inputs "is_gift").isTruthy
    let outcome := toVoucher inputs (.text key) (editingValue editing)
    ((∃ v, outcome = .ok v) ↔ ∀ f ∈ fields, ∃ n, f.Takes (Value.fieldOf inputs f.name) n) ∧
      (∀ v, outcome = .ok v → Holds inputs key editing v) ∧
      ((¬ ∃ v, outcome = .ok v) → ∃ before f after rule,
        RefusedAt inputs fields before after f rule ∧
        outcome = .error (.fault (.fieldFormat f.name (Value.fieldOf inputs f.name) rule))) ∧
      ∀ (inputs' : Fields) (key' : String),
        (∀ name ∈ "name" :: "is_gift" :: fields.map RuledField.name,
          Value.fieldOf inputs' name = Value.fieldOf inputs name) →
        (editing = none → key' = key) →
        toVoucher inputs' (.text key') (editingValue editing) = outcome := by
  intro fields outcome
  refine ⟨?_, fun v => holds_of_toVoucher hjson hlimit, fun hrefused => ?_,
    fun inputs' key' => toVoucher_congr⟩
  · rcases toVoucher_cases hjson hlimit with
      ⟨haccepted, hall⟩ | ⟨before, f, after, rule, hat, hfails⟩
    · exact iff_of_true haccepted hall
    · refine iff_of_false ?_ fun hall => ?_
      · rintro ⟨v, hv⟩
        cases hfails.symm.trans hv
      · have hf : f ∈ fields := by
          rw [show fields = before ++ f :: after from hat.order]
          exact List.mem_append_right _ List.mem_cons_self
        obtain ⟨n, hn⟩ := hall f hf
        exact hat.not_taken n hn
  · exact (toVoucher_cases hjson hlimit).resolve_left fun haccepted => hrefused haccepted.1

/-- An edited gift whose use limit is blank and whose count is no number. -/
def editedGift : Fields :=
  [("name", .text "spring"), ("quota", .text " 0500 "), ("count", .text "many"),
    ("is_gift", .bool true), ("max_uses", .text " "), ("valid_from", .int 5)]

/-- It describes a gift without a use limit, and does so with any other count and key. -/
theorem edited_gift_follows_rules :
    editedGift.HasNoMoment ∧ (∀ p ∈ editedGift, FormField.KeepsDigitLimit p.2) ∧
      Holds editedGift "code" (some 7)
        ⟨some 7, "spring", 500, 1, none, .gift unlimitedUses, 5, 0⟩ ∧
      toVoucher (editedGift.put "count" .null) (.text "other") (editingValue (some 7)) =
        .ok ⟨some 7, "spring", 500, 1, none, .gift unlimitedUses, 5, 0⟩ := by
  have hjson : editedGift.HasNoMoment := by
    unfold Fields.HasNoMoment
    decide
  have hlimit : ∀ p ∈ editedGift, FormField.KeepsDigitLimit p.2 := by
    have htext (s : String) (hs : s.toList.length ≤ Text.maxDigits) :=
      FormField.keepsDigitLimit_text hs
    simp only [editedGift, List.forall_mem_cons]
    refine ⟨htext _ (by decide), htext _ (by decide), htext _ (by decide), ?_, htext _ (by decide),
      ?_, List.forall_mem_nil _⟩
    · exact FormField.keepsDigitLimit_of_isWritten rfl (by simp)
    · exact FormField.keepsDigitLimit_of_isWritten rfl (by simp)
  have haccepted : toVoucher editedGift (.text "code") (editingValue (some 7)) =
      .ok ⟨some 7, "spring", 500, 1, none, .gift unlimitedUses, 5, 0⟩ := rfl
  obtain ⟨-, hholds, -, hcongr⟩ := drafts_follow_rules editedGift "code" (some 7) hjson hlimit
  refine ⟨hjson, hlimit, hholds _ haccepted, (hcongr _ "other" ?_ ?_).trans haccepted⟩
  · intro name hname
    have hother : ∀ name ∈ "name" :: "is_gift" :: (ruledFields false true).map RuledField.name,
        name ≠ "count" := by decide
    rw [Value.fieldOf, Fields.get?_put, if_neg (hother name hname)]
    rfl
  · rintro ⟨⟩

end Draft

end VoucherDesk
