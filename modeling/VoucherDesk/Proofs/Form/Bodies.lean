import VoucherDesk.Proofs.Form.Turns
import VoucherDesk.Proofs.Voucher.Draft
import VoucherDesk.Proofs.Dialogue.Record

/-!
# What forms send

Whatever is done to a form, in whatever order, the only thing it sends besides requests to
show a voucher is one body for each submission: to create vouchers or to change the edited
one, never both. Every path into the draft keeps moments out of it, and what a draft without
moments describes is in range; the bodies hold just what the voucher holds.
-/

namespace VoucherDesk

open Dialogue

/-- The label of a quantity is never empty. -/
theorem Label.count_ne_empty {n : Int} {s : String} (h : Label.count n = .ok s) : s ≠ "" := by
  unfold Label.count at h
  split at h
  · next bound divisor letter hfind =>
    have hletter : letter ≠ "" := by
      have hmem := List.mem_of_find?_eq_some hfind
      simp only [Label.units, List.mem_cons, Prod.mk.injEq, List.not_mem_nil, or_false] at hmem
      rcases hmem with ⟨-, -, rfl⟩ | ⟨-, -, rfl⟩ | ⟨-, -, rfl⟩ <;> decide
    cases hx : Label.quotient n divisor with
    | error e => simp [hx, Except.map] at h
    | ok x =>
      obtain rfl : x.toFixed 1 ++ letter = s := by simpa [hx, Except.map] using h
      exact fun hempty => hletter (String.append_eq_empty_iff.mp hempty).2
  · split at h
    · cases h
      cases n with
      | ofNat m => exact Nat.repr_ne_empty
      | negSucc m =>
        exact fun hempty => absurd (String.append_eq_empty_iff.mp hempty).1 (by decide)
    · cases h

/-- The label of a quota is never empty. -/
theorem Label.quota_ne_empty {settings : Settings} {n : Int} {places : Option Int} {s : String}
    (h : Label.quota settings (.int n) places = .ok s) : s ≠ "" := by
  unfold Label.quota at h
  split at h
  · exact Label.count_ne_empty h
  · obtain ⟨x, -, h⟩ := bind_eq_ok.mp h
    dsimp only at h
    split at h
    · cases h
    · cases h
      exact fun hempty => absurd (String.append_eq_empty_iff.mp hempty).1 (by decide)

/-- The range rules on the named values of a body. -/
structure Fields.ObeysRanges (body : Fields) : Prop where
  names : body.names.Nodup
  quota : ∃ n, body.get? "quota" = some (.int n) ∧ 0 < n
  uses : ∃ gift n, body.get? "is_gift" = some (.bool gift) ∧ body.get? "max_uses" = some (.int n) ∧
    (n = -1 ∨ 1 ≤ n) ∧ (gift = false → n = -1)
  window : ∃ first last, body.get? "valid_from" = some (.int first) ∧
    body.get? "valid_until" = some (.int last) ∧ 0 ≤ first ∧ 0 ≤ last ∧
    (first ≠ 0 → last ≠ 0 → first < last)

/-- A body that asks for new vouchers under what is left of a key. -/
structure Fields.Creates (key : String) (body : Fields) : Prop extends body.ObeysRanges where
  id : body.get? "id" = none
  count : ∃ n, body.get? "count" = some (.int n) ∧ 1 ≤ n
  name : ∃ name, body.get? "name" = some (.text name) ∧ name ≠ ""
  key : body.get? "key" = if Text.trim key = "" then none else some (.text (Text.trim key))

/-- A body that changes the voucher with a number. -/
structure Fields.Updates (id : Int) (body : Fields) : Prop extends body.ObeysRanges where
  id : body.get? "id" = some (.int id)
  count : body.get? "count" = none
  key : body.get? "key" = none

/-- The writing queries of a form: new vouchers under its key, or changes of the edited one. -/
inductive Query.Saves (key : String) : Option Int → Query → Prop where
  | creates (body : Fields) (h : body.Creates key) :
      Query.Saves key none { method := .post, path := "/api/redemption/", payload := .record body }
  | updates (id : Int) (body : Fields) (h : body.Updates id) :
      Query.Saves key (some id)
        { method := .put, path := "/api/redemption/", payload := .record body }

namespace Voucher

/-- The bodies of vouchers in range obey the range rules, whatever they hold besides. -/
theorem InRange.obeysRanges {v : Voucher} (h : v.InRange) {more : Fields}
    (hmore : (v.commonPayload ++ more).names.Nodup) :
    Fields.ObeysRanges (v.commonPayload ++ more) where
  names := hmore
  quota := ⟨v.quota, by simp [commonPayload, Fields.get?, List.lookup_cons], h.quota⟩
  uses := by
    refine ⟨v.isGift, v.maxUses, ?_, ?_, h.maxUses, h.unlimited⟩
    · simp [commonPayload, Fields.get?, List.lookup_cons]
    · simp [commonPayload, Fields.get?, List.lookup_cons]
  window := by
    refine ⟨v.validFrom, v.validUntil, ?_, ?_, h.validFrom, h.validUntil, h.window⟩
    · simp [commonPayload, Fields.get?, List.lookup_cons]
    · simp [commonPayload, Fields.get?, List.lookup_cons]

/-- The body for a voucher with a name creates vouchers under its key. -/
theorem InRange.creates {v : Voucher} {key : String} (h : v.InRange) (hname : v.name ≠ "")
    (hkey : v.key = some key) : Fields.Creates key v.createPayload := by
  have hpayload : v.createPayload = v.commonPayload ++ (("count", .int v.count) ::
      (if Text.trim key = "" then [] else [("key", .text (Text.trim key))])) := by
    unfold createPayload trimmedKey?
    simp only [hkey, Option.getD_some, String.isEmpty_iff, List.append_assoc]
    split <;> rfl
  rw [hpayload]
  refine ⟨h.obeysRanges ?_, ?_, ⟨v.count, ?_, h.count⟩, ⟨v.name, ?_, hname⟩, ?_⟩
  · split <;> simp [commonPayload, Fields.names]
  · split <;> simp [commonPayload, Fields.get?, List.lookup_cons]
  · split <;> simp [commonPayload, Fields.get?, List.lookup_cons]
  · split <;> simp [commonPayload, Fields.get?]
  · split <;> simp [commonPayload, Fields.get?, List.lookup_cons]

/-- The body for a voucher with a number changes that voucher. -/
theorem InRange.updates {v : Voucher} (h : v.InRange) (id : Int) :
    Fields.Updates id (v.commonPayload ++ [("id", .int id)]) := by
  refine ⟨h.obeysRanges ?_, ?_, ?_, ?_⟩
  · simp [commonPayload, Fields.names]
  · simp [commonPayload, Fields.get?, List.lookup_cons]
  · simp [commonPayload, Fields.get?, List.lookup_cons]
  · simp [commonPayload, Fields.get?, List.lookup_cons]

end Voucher

namespace Form

/-- A form builds what its draft describes, once the window is let through, and names a new voucher
after its quota if the draft has no name for it. -/
theorem build_eq_ok {f : Form} {v : Voucher} :
    f.build = .ok v ↔ ∃ d, Draft.Describes f.inputs f.key f.editingId d ∧ d.validate = .ok () ∧
      if f.isEdit = false ∧ d.name = "" then
        ∃ name, Label.quota f.settings (.int d.quota) none = .ok name ∧ v = { d with name }
      else v = d := by
  have hname (d : Voucher) :
      (!f.isEdit && d.name.isEmpty) = true ↔ f.isEdit = false ∧ d.name = "" := by
    simp
  unfold Form.build
  simp only [bind_eq_ok, Draft.toVoucher_eq_ok, hname]
  constructor
  · rintro ⟨d, hd, ⟨⟩, hw, h⟩
    refine ⟨d, hd, hw, ?_⟩
    split at h
    · next hblank =>
      rw [if_pos hblank]
      obtain ⟨name, hlabel, h⟩ := bind_eq_ok.mp h
      exact ⟨name, hlabel, by simpa [pure, Except.pure, eq_comm] using h⟩
    · next hblank =>
      rw [if_neg hblank]
      simpa [pure, Except.pure, eq_comm] using h
  · rintro ⟨d, hd, hw, h⟩
    refine ⟨d, hd, (), hw, ?_⟩
    split
    · next hblank =>
      rw [if_pos hblank] at h
      obtain ⟨name, hlabel, rfl⟩ := h
      exact bind_eq_ok.mpr ⟨name, hlabel, rfl⟩
    · next hblank =>
      rw [if_neg hblank] at h
      rw [h]
      rfl

/-- A form that was created to edit a voucher, or none, holds no moments and only text as key. -/
structure IsPlain (editing : Option Int) (f : Form) : Prop where
  editingId : f.editingId = (editing.map Value.int).getD .null
  inputs : f.inputs.HasNoMoment
  key : ∃ key, f.key = .text key

/-- What a plain form builds is in range; it has the number that is edited, and a new voucher has a
name and the key of the form. -/
theorem IsPlain.build {editing : Option Int} {f : Form} (h : f.IsPlain editing) {v : Voucher}
    (hv : f.build = .ok v) :
    v.InRange ∧ v.id = editing ∧
      (editing = none → v.name ≠ "" ∧ ∃ key, f.key = .text key ∧ v.key = some key) := by
  obtain ⟨d, hd, hw, hname⟩ := build_eq_ok.mp hv
  obtain ⟨key, hkey⟩ := h.key
  have hrange : d.InRange := hd.inRange h.inputs hw
  have hid : d.id = editing := by
    have hread := hd.id
    rw [h.editingId] at hread
    cases editing with
    | none => simpa [Reading.intOrNull, eq_comm] using hread
    | some id => simpa [Reading.intOrNull, Reading.int, Except.map, eq_comm] using hread
  have hdkey : editing = none → d.key = some key := by
    rintro rfl
    have hread := hd.key
    rw [h.editingId, hkey] at hread
    simpa [Value.isNull, Reading.textOrNull, Reading.text, Except.map, eq_comm] using hread
  have hedit : editing = none → f.isEdit = false := by
    rintro rfl
    simp [isEdit, h.editingId, Value.isNull]
  split at hname
  · next hblank =>
    obtain ⟨name, hlabel, rfl⟩ := hname
    refine ⟨{ hrange with }, hid, fun hnew => ⟨Label.quota_ne_empty hlabel, key, hkey, hdkey hnew⟩⟩
  · next hblank =>
    subst hname
    refine ⟨hrange, hid, fun hnew => ⟨fun hempty => ?_, key, hkey, hdkey hnew⟩⟩
    exact hblank ⟨hedit hnew, hempty⟩

/-- What a plain form builds can always be sent, in the one way that suits the form. -/
theorem IsPlain.saveQuery {editing : Option Int} {f : Form} (h : f.IsPlain editing) {v : Voucher}
    (hv : f.build = .ok v) :
    ∃ key q, f.key = .text key ∧ f.saveQuery v = .ok q ∧ Query.Saves key editing q := by
  obtain ⟨hrange, hid, hnew⟩ := h.build hv
  cases editing with
  | none =>
    obtain ⟨hname, key, hkey, hvkey⟩ := hnew rfl
    have hedit : f.isEdit = false := by simp [isEdit, h.editingId, Value.isNull]
    exact ⟨key, _, hkey, by simp only [Form.saveQuery, hedit, Bool.false_eq_true, ite_false]; rfl,
      .creates _ (hrange.creates hname hvkey)⟩
  | some id =>
    obtain ⟨key, hkey⟩ := h.key
    have hedit : f.isEdit = true := by simp [isEdit, h.editingId, Value.isNull]
    have hpayload : v.updatePayload = .ok (v.commonPayload ++ [("id", .int id)]) := by
      simp only [Voucher.updatePayload, hid]
    exact ⟨key, _, hkey, by simp only [Form.saveQuery, hedit, ite_true, hpayload]; rfl,
      .updates id _ (hrange.updates id)⟩

/-- The calls that put no moment into a field and only text into the key. -/
def Call.isPlain : Call → Bool
  | .setField _ value => !value.isMoment
  | .setKey (.text _) => true
  | .setKey _ => false
  | _ => true

/-- The fields of an empty draft and of a voucher that is shown hold no moments. -/
private theorem hasNoMoment_inputsOf (v : Voucher) : (inputsOf v).HasNoMoment := by
  simp [Fields.HasNoMoment, inputsOf, Value.isMoment]

private theorem IsPlain.reset {editing : Option Int} {f : Form} (h : f.IsPlain editing) :
    f.reset.IsPlain editing := by
  refine ⟨h.editingId, ?_, "", rfl⟩
  simp [Fields.HasNoMoment, Form.reset, Draft.defaults, Value.isMoment]

/-- A form is plain as it is created. -/
theorem isPlain_create (settings : Settings) (editing : Option Int) (hooks : List Hook)
    (directory : String) (files : FileTree) :
    (create settings ((editing.map Value.int).getD .null) hooks directory files).IsPlain
      editing := by
  refine ⟨rfl, ?_, "", rfl⟩
  simp [Fields.HasNoMoment, create, Draft.defaults, Value.isMoment]

/-- A plain call keeps a form plain, and whatever it sends suits the form. -/
theorem IsPlain.begin {editing : Option Int} {f : Form} (h : f.IsPlain editing) {call : Call}
    (hcall : call.isPlain = true) :
    (f.begin call).state.IsPlain editing ∧ ∀ q, .query q ∈ (f.begin call).asks →
      (q.method = .get ∧ q.payload = .null) ∨
        ∃ key, (f.begin call).state.key = .text key ∧ Query.Saves key editing q := by
  cases begin_begins f call with
  | fetches id other next state =>
    rw [state]
    refine ⟨⟨h.editingId, h.inputs, h.key⟩, fun q hq => Or.inl ?_⟩
    obtain rfl : q = .showVoucher id := by simpa [Turn.asks, next] using hq
    exact ⟨rfl, rfl⟩
  | sends v q submits free built query next state =>
    obtain ⟨key, q', hkey, hquery, hsaves⟩ := h.saveQuery built
    obtain rfl : q' = q := by simpa [query, eq_comm] using hquery
    rw [state]
    refine ⟨⟨h.editingId, h.inputs, h.key⟩, fun p hp => Or.inr ⟨key, hkey, ?_⟩⟩
    obtain rfl : p = q' := by simpa [Turn.asks, next] using hp
    exact hsaves
  | ends r next edits =>
    refine ⟨?_, fun q hq => by simp [Turn.asks, next] at hq⟩
    cases edits with
    | nothing state =>
      rw [state]
      exact h
    | reset other state =>
      rw [state]
      exact h.reset
    | field name value sets state =>
      rw [sets] at hcall
      rw [state]
      exact ⟨h.editingId, h.inputs.put name (by simpa [Call.isPlain] using hcall), h.key⟩
    | key value sets state =>
      rw [sets] at hcall
      rw [state]
      cases value with
      | text s => exact ⟨h.editingId, h.inputs, s, rfl⟩
      | _ => simp [Call.isPlain] at hcall

/-- A later turn keeps a form plain and sends nothing. -/
theorem IsPlain.resume {editing : Option Int} {f : Form} (h : f.IsPlain editing) (stage : Stage)
    (a : Answer) :
    (f.resume stage a).state.IsPlain editing ∧ ∀ q, .query q ∉ (f.resume stage a).asks := by
  have hgoes : ∀ g : Form, g.IsPlain editing → GoesOn g (f.resume stage a) →
      (f.resume stage a).state.IsPlain editing ∧ ∀ q, .query q ∉ (f.resume stage a).asks := by
    intro g hg hgoesOn
    cases hgoesOn with
    | asks hook args stage' next ask submission state =>
      exact ⟨state ▸ hg, fun q hq => by simp [Turn.asks, next] at hq⟩
    | ends r next submitting same =>
      refine ⟨⟨same.editingId.trans hg.editingId, same.inputs ▸ hg.inputs, same.key ▸ hg.key⟩, ?_⟩
      exact fun q hq => by simp [Turn.asks, next] at hq
  have hloaded : ({ f with loading := false } : Form).IsPlain editing :=
    ⟨h.editingId, h.inputs, h.key⟩
  cases resume_resumes f stage a with
  | loaded id fetching ends state =>
    obtain ⟨r, next⟩ := ends
    refine ⟨?_, fun q hq => by simp [Turn.asks, next] at hq⟩
    rcases state with state | ⟨v, state⟩
    · exact state ▸ hloaded
    · rw [state]
      exact ⟨h.editingId, hasNoMoment_inputsOf v, h.key⟩
  | replied v q saving goesOn =>
    rcases goesOn with h' | h'
    · exact hgoes _ hloaded h'
    · exact hgoes _ hloaded.reset h'
  | hooked submission goesOn => exact hgoes f h goesOn
  | ignored unfit next state =>
    rw [state]
    exact ⟨h, fun q hq => by simp [Turn.asks, next] at hq⟩

/-- However the calls of a form and the answers to them are interleaved, everything that it sends
besides requests to show a voucher is a body of its own mode that obeys all rules, and whatever it
builds can be sent. -/
theorem sent_bodies_obey_rules (settings : Settings) (editing : Option Int) (hooks : List Hook)
    (directory : String) (files : FileTree) (events : List (Event Call))
    (hevents : ∀ call, .call call ∈ events → call.isPlain = true) :
    let x := (Exchange.start
      (create settings ((editing.map Value.int).getD .null) hooks directory files)).play
        controller events
    (∀ question found q, .asked question found ∈ x.history → question.ask = .query q →
      (q.method = .get ∧ q.payload = .null) ∨
        ∃ key, found.key = .text key ∧ Query.Saves key editing q) ∧
    ∀ v, x.run.state.build = .ok v → ∃ q, x.run.state.saveQuery v = .ok q := by
  intro x
  have hrun := Exchange.invariant_and_asked (I := fun f => f.IsPlain editing)
    (P := fun found ask => ∀ q, ask = .query q → (q.method = .get ∧ q.payload = .null) ∨
      ∃ key, found.key = .text key ∧ Query.Saves key editing q)
    (A := fun call => call.isPlain = true) controller_keeps
    (fun f call hf hcall => ⟨(hf.begin hcall).1, fun a ha q hq => (hf.begin hcall).2 q (hq ▸ ha)⟩)
    (fun f stage a hf => ⟨(hf.resume stage a).1,
      fun b hb q hq => absurd (hq ▸ hb) ((hf.resume stage a).2 q)⟩)
    (isPlain_create settings editing hooks directory files) events hevents
  refine ⟨fun question found q hasked hq => hrun.2 question found hasked q hq, fun v hv => ?_⟩
  obtain ⟨key, q, -, hquery, -⟩ := hrun.1.saveQuery hv
  exact ⟨q, hquery⟩

/-- A new form that is given a name and a key, and is then submitted, sends such a body. -/
theorem sent_body_of_named_draft :
    let events : List (Event Call) :=
      [.call (.setField "name" (.text "gift")), .call (.setKey (.text " k ")), .call .submit]
    let x := (Exchange.start (create {} .null [] "" {})).play controller events
    (∀ call, .call call ∈ events → call.isPlain = true) ∧
      ∃ question found q, .asked question found ∈ x.history ∧ question.ask = .query q ∧
        q.method = .post ∧ ∃ key, found.key = .text key ∧ Query.Saves key none q := by
  intro events x
  have hplain : ∀ call, .call call ∈ events → call.isPlain = true := by
    intro call hcall
    simp only [events, List.mem_cons, Event.call.injEq, List.not_mem_nil, or_false] at hcall
    rcases hcall with rfl | rfl | rfl <;> rfl
  have hasked : ∃ question found q, .asked question found ∈ x.history ∧
      question.ask = .query q ∧ q.method = .post :=
    ⟨_, _, _, List.mem_of_getElem? (i := 2) rfl, rfl, rfl⟩
  obtain ⟨question, found, q, hmem, hask, hpost⟩ := hasked
  refine ⟨hplain, question, found, q, hmem, hask, hpost, ?_⟩
  rcases (sent_bodies_obey_rules {} none [] "" {} events hplain).1 question found q hmem hask with
    ⟨hget, -⟩ | hsaves
  · exact absurd (hget.symm.trans hpost) (by decide)
  · exact hsaves

end Form

end VoucherDesk
