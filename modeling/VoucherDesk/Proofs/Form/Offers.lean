import VoucherDesk.Proofs.Form.Alone

/-!
# Offers of codes

The data of an accepted reply may be of any kind. Data that count as true are taken for codes: the
items of a list, but also the characters of a text and the names of a record. Data that have no
parts end the submission with a failure, though the vouchers have been made.
-/

namespace VoucherDesk

open Dialogue

/-- What a hook that asks whether to keep codes is asked with. -/
def Dialogue.Deed.question? {Result : Type} : Deed Result → Option (List Value)
  | .calls .confirm args => some args
  | _ => none

namespace Form

/-- A submission gives that it was accepted, and asks whether to keep codes only if the data are a
list with items, once and with a code for each of them. -/
structure OffersItems (data : Value) (deeds : List (Deed Result)) : Prop where
  given : deeds.filterMap Deed.given? = [.ok (.accepted true)]
  asked : deeds.filterMap Deed.question? = [] ∨ ∃ items codes file, data = .list items ∧
    items ≠ [] ∧ codes.length = items.length ∧
    deeds.filterMap Deed.question? = [[.list codes, file]]

/-- The parts of the data of which the operator is asked whether to keep them, if there is anybody
to ask. -/
def offered? (f : Form) (data : Value) : Option (List Value) :=
  if data.isTruthy && f.hooks.contains .confirm then data.elements? else none

/-- The hooks that are called after new vouchers were made. -/
def called (f : Form) (data : Value) : List Hook :=
  f.early ++ ((f.offered? data).map fun _ => Hook.confirm).toList

/-- How a submission of new vouchers ends if nothing is kept: data that count as true must have
parts. -/
def endFor (data : Value) : Except Failure Bool :=
  if data.isTruthy && data.elements?.isNone then .error .noOperation else .ok true

/-- The arguments of the question whether to keep the parts of data as the codes of a voucher. -/
def questionFor (name : String) (parts : List Value) : List Value :=
  [.list ((parts.map Value.plain).map .text), .text (Export.fileName name)]

/-- The hooks end well, each with a value. -/
def endsWell (back : Hook → Value) (h : Hook) : Except Fault Value := .ok (back h)

section Offers

variable {f : Form} (saved : Saved) {back : Hook → Value}

/-- Where nothing is offered the submission of new vouchers ends. -/
theorem offerCodes_of_not_offered (hnew : f.isEdit = false) (hnone : f.offered? saved.data = none) :
    f.offerCodes saved = f.endSubmit (endFor saved.data) := by
  unfold Form.offerCodes endFor
  cases htruthy : saved.data.isTruthy with
  | false =>
    rw [Bool.not_false, Bool.or_true, if_pos rfl, Bool.false_and, if_neg Bool.false_ne_true]
  | true =>
    rw [hnew, Bool.not_true, Bool.or_false, if_neg Bool.false_ne_true, Bool.true_and]
    cases hparts : saved.data.elements? with
    | none => rfl
    | some parts =>
      have hnobody : f.hooks.contains .confirm = false := by
        refine Bool.eq_false_iff.mpr fun hasked => ?_
        rw [offered?, htruthy, hasked, Bool.and_self, if_pos rfl, hparts] at hnone
        cases hnone
      simp only [hnobody, Bool.false_eq_true, ite_false, Option.isNone_some]

/-- Where data are offered the operator is asked about their parts. -/
theorem offerCodes_of_offered (hnew : f.isEdit = false) {parts : List Value}
    (hsome : f.offered? saved.data = some parts) :
    f.offerCodes saved = .waitFor f (.hook .confirm (questionFor saved.voucher.name parts))
      (.confirming saved.voucher.name (parts.map Value.plain)) ∧ endFor saved.data = .ok true := by
  unfold offered? at hsome
  split at hsome
  · next hboth =>
    obtain ⟨htruthy, hasked⟩ := Bool.and_eq_true_iff.mp hboth
    have hdue : f.isDue saved.data .confirm = true := by
      simp only [Form.isDue, hasked, hnew, htruthy, Bool.not_false, Bool.and_true, Bool.or_true]
    refine ⟨offerCodes_of_due hsome hdue, ?_⟩
    rw [endFor, hsome, Option.isNone_some, Bool.and_false, if_neg Bool.false_ne_true]
  · cases hsome

/-- What is offered of new vouchers is not kept. -/
theorem offerCodes_declined (hnew : f.isEdit = false) (hdeclines : (back .confirm).isTruthy = false)
    {s : Form} (hs : Submitting f s) :
    Route controller Stage.awaits (Submitting f) (fun _ => True) (s.offerCodes saved)
      (((f.offered? saved.data).map fun _ => Hook.confirm).toList.map (endOf (endsWell back)))
      (((f.offered? saved.data).map fun parts =>
          .calls .confirm (questionFor saved.voucher.name parts)).toList ++
        [.gives ((endFor saved.data).map .accepted)]) := by
  have hnot : s.isEdit = false := hs.same.isEdit.trans hnew
  have hsame : s.offered? saved.data = f.offered? saved.data := by
    rw [offered?, offered?, hs.same.hooks]
  have hends (g : Form) (r : Except Failure Bool) : Route controller Stage.awaits (Submitting f)
      (fun _ => True) (g.endSubmit r) [] [.gives (r.map .accepted)] :=
    .ends (g.endSubmit r) _ rfl trivial
  cases hoffered : f.offered? saved.data with
  | none =>
    rw [offerCodes_of_not_offered saved hnot (hsame.trans hoffered)]
    exact hends s _
  | some parts =>
    obtain ⟨hturn, hend⟩ := offerCodes_of_offered saved hnot (hsame.trans hoffered)
    rw [hturn, hend]
    refine waitFor_route rfl (fun g _ => ?_) hs
    have hdeclined : g.afterConfirm saved.voucher.name (parts.map Value.plain)
        (.ok (back .confirm)) = g.endSubmit (.ok true) := by
      rw [Form.afterConfirm, hdeclines, if_neg Bool.false_ne_true]
    show Route controller Stage.awaits (Submitting f) (fun _ => True)
      (g.afterConfirm saved.voucher.name (parts.map Value.plain) (.ok (back .confirm))) [] _
    rw [hdeclined]
    exact hends g (.ok true)

end Offers

/-- What a submission of new vouchers does after its reply if nothing is kept: refresh and close are
called, and the parts of the data are offered. -/
def offerDeeds (f : Form) (name : String) (data : Value) : List (Deed Result) :=
  f.early.map (.calls · []) ++
    (((f.offered? data).map fun parts => .calls .confirm (questionFor name parts)).toList ++
      [.gives ((endFor data).map .accepted)])

/-- It gives one result. -/
theorem given_offerDeeds (f : Form) (name : String) (data : Value) :
    (f.offerDeeds name data).filterMap Deed.given? = [(endFor data).map .accepted] := by
  have hearly : (f.early.map (.calls · [] : Hook → Deed Result)).filterMap Deed.given? = [] := by
    rw [List.filterMap_map]
    exact List.filterMap_eq_nil_iff.mpr fun _ _ => rfl
  rw [offerDeeds, List.filterMap_append, List.filterMap_append, hearly]
  cases f.offered? data with
  | none => rfl
  | some parts => rfl

/-- It asks about what is offered and nothing else. -/
theorem question_offerDeeds (f : Form) (name : String) (data : Value) :
    (f.offerDeeds name data).filterMap Deed.question? =
      ((f.offered? data).map (questionFor name)).toList := by
  have hearly : (f.early.map (.calls · [] : Hook → Deed Result)).filterMap Deed.question? = [] := by
    rw [List.filterMap_map]
    refine List.filterMap_eq_nil_iff.mpr fun h hh => ?_
    have hcases := (List.mem_filter.mp hh).1
    simp only [List.mem_cons, List.not_mem_nil, or_false] at hcases
    rcases hcases with rfl | rfl
    · rfl
    · rfl
  rw [offerDeeds, List.filterMap_append, List.filterMap_append, hearly]
  cases f.offered? data with
  | none => rfl
  | some parts => rfl

/-- That is as it should be just for data that count as false, for a list, and for any other data
with parts if there is nobody to ask. -/
theorem offersItems_iff (f : Form) {name : String} {data : Value} {deeds : List (Deed Result)}
    (hgiven : deeds.filterMap Deed.given? = [(endFor data).map .accepted])
    (hasked : deeds.filterMap Deed.question? =
      ((f.offered? data).map (questionFor name)).toList) :
    OffersItems data deeds ↔ data.isTruthy = false ∨ (∃ items, data = .list items) ∨
      f.hooks.contains .confirm = false ∧ data.elements?.isSome = true := by
  -- Where the submission ends well and nobody is asked there is nothing else to be seen.
  have hquiet (hend : endFor data = .ok true) (hnone : f.offered? data = none) :
      OffersItems data deeds := by
    rw [hend] at hgiven
    rw [hnone] at hasked
    exact ⟨hgiven, Or.inl hasked⟩
  cases htruthy : data.isTruthy with
  | false =>
    refine iff_of_true (hquiet ?_ ?_) (Or.inl rfl)
    · rw [endFor, htruthy, Bool.false_and, if_neg Bool.false_ne_true]
    · rw [offered?, htruthy, Bool.false_and, if_neg Bool.false_ne_true]
  | true =>
    cases hparts : data.elements? with
    | none =>
      refine iff_of_false (fun hgood => ?_) ?_
      · rw [endFor, htruthy, hparts, Option.isNone_none, Bool.and_self, if_pos rfl] at hgiven
        cases hgiven.symm.trans hgood.given
      · rintro (hfalse | ⟨items, rfl⟩ | ⟨-, hsome⟩)
        · cases hfalse
        · cases hparts
        · cases hsome
    | some parts =>
      have hend : endFor data = .ok true := by
        rw [endFor, hparts, Option.isNone_some, Bool.and_false, if_neg Bool.false_ne_true]
      cases hthere : f.hooks.contains .confirm with
      | false =>
        refine iff_of_true (hquiet hend ?_) (Or.inr (Or.inr ⟨rfl, rfl⟩))
        rw [offered?, hthere, Bool.and_false, if_neg Bool.false_ne_true]
      | true =>
        have hoffered : f.offered? data = some parts := by
          rw [offered?, htruthy, hthere, Bool.and_self, if_pos rfl, hparts]
        rw [hend] at hgiven
        rw [hoffered] at hasked
        constructor
        · intro hgood
          rcases hgood.asked with hnone | ⟨items, _, _, hitems, -⟩
          · cases hasked.symm.trans hnone
          · exact Or.inr (Or.inl ⟨items, hitems⟩)
        · rintro (hfalse | ⟨items, rfl⟩ | ⟨hnobody, -⟩)
          · cases hfalse
          · obtain rfl : items = parts := Option.some.inj hparts
            refine ⟨hgiven, Or.inr ⟨items, _, _, rfl, ?_, ?_, hasked⟩⟩
            · rintro rfl
              cases htruthy
            · rw [List.length_map, List.length_map]
          · cases hnobody

/-- After new vouchers were made that is what a submission does, whatever is done to the form
meanwhile. -/
theorem deeds_of_created (settings : Settings) (editingId : Value) (hooks : List Hook)
    (directory : String) (files : FileTree) (before events : List (Event Call))
    (back : Hook → Value) {q : Query} {r : Reply} {envelope : Envelope} {x : FormExchange}
    (hx : x = played settings editingId hooks directory files before)
    (hfree : x.run.state.submitting = false) (hnew : x.run.state.isEdit = false)
    (hquery : x.run.state.prepared = .ok q) (henvelope : q.envelopeOf r = .ok envelope)
    (hsuccess : envelope.success = true) (hdeclines : (back .confirm).isTruthy = false)
    (hevents : events.filterMap (Event.answerTo? x.run.begun) =
      .reply 0 r :: (x.run.state.called envelope.data).map (endOf (endsWell back))) :
    ∃ name, sentName? q = some name ∧
      (played settings editingId hooks directory files
          (before ++ .call .submit :: events)).deedsOf x.run.begun =
        .sends q :: .has (.success x.run.state.acceptance) ::
          x.run.state.offerDeeds name envelope.data := by
  obtain ⟨v, hbuild, hsaves⟩ := bind_eq_ok.mp hquery
  have hquiet : x.run.state.early.flatMap (hookDeeds (endsWell back)) =
      x.run.state.early.map (.calls · []) := List.map_eq_flatMap.symm
  refine ⟨v.name, sentName?_of_saveQuery hsaves, ?_⟩
  refine submission_course settings editingId hooks directory files before events hx hfree hbuild
    hsaves (fun s hs => ?_) hevents
  obtain ⟨entry, hsaved⟩ := saved_of_accepted s (v := v) henvelope hsuccess
  have hroute := callRefresh_route (endsWell back) (fun g hg => hg.same.hooks)
    (fun g hg => offerCodes_declined ⟨v, envelope.data⟩ hnew hdeclines hg) s.settled hs.settled
  rw [hsaved, hs.same.acceptance, called, List.map_append, offerDeeds, ← hquiet]
  exact (hroute.after [.log entry, .success x.run.state.acceptance]).course

/-- A submission of new vouchers that is accepted, with hooks that end well and nothing kept, gives
that it was accepted and asks about the items of a list alone, just if its data count as false, or
are a list, or have parts and there is nobody to ask. Of any other data that have parts the operator
is asked all the same, and data that have none end the submission with a failure. -/
theorem offers_items_iff (settings : Settings) (editingId : Value) (hooks : List Hook)
    (directory : String) (files : FileTree) (before events : List (Event Call)) (q : Query)
    (r : Reply) (envelope : Envelope) (back : Hook → Value) (x : FormExchange)
    (hx : x = played settings editingId hooks directory files before)
    (hfree : x.run.state.submitting = false) (hnew : x.run.state.isEdit = false)
    (hquery : x.run.state.prepared = .ok q) (henvelope : q.envelopeOf r = .ok envelope)
    (hsuccess : envelope.success = true) (hdeclines : (back .confirm).isTruthy = false)
    (hevents : events.filterMap (Event.answerTo? x.run.begun) =
      .reply 0 r :: (x.run.state.called envelope.data).map (endOf (endsWell back))) :
    let f := x.run.state
    let data := envelope.data
    let deeds := (played settings editingId hooks directory files
      (before ++ .call .submit :: events)).deedsOf x.run.begun
    (OffersItems data deeds ↔ data.isTruthy = false ∨ (∃ items, data = .list items) ∨
      f.hooks.contains .confirm = false ∧ data.elements?.isSome = true) ∧
    deeds.filterMap Deed.given? = [(endFor data).map .accepted] ∧
    ∃ name, sentName? q = some name ∧
      deeds.filterMap Deed.question? = ((f.offered? data).map (questionFor name)).toList := by
  intro f data deeds
  obtain ⟨name, hname, hdeeds⟩ := deeds_of_created settings editingId hooks directory files before
    events back hx hfree hnew hquery henvelope hsuccess hdeclines hevents
  have hgiven : deeds.filterMap Deed.given? = [(endFor data).map .accepted] := by
    rw [show deeds = _ from hdeeds]
    exact f.given_offerDeeds name data
  have hasked : deeds.filterMap Deed.question? =
      ((f.offered? data).map (questionFor name)).toList := by
    rw [show deeds = _ from hdeeds]
    exact f.question_offerDeeds name data
  exact ⟨f.offersItems_iff hgiven hasked, hgiven, name, hname, hasked⟩

/-- What a server says that has made vouchers and tells how many. -/
def numberText : List UInt8 :=
  "\x7b\"success\": true, \"message\": \"\", \"data\": 5\x7d".toUTF8.toList

/-- The reply to any query with which that is said carries a number. -/
theorem envelopeOf_numberText (q : Query) :
    q.envelopeOf (.answered 200 numberText) = .ok ⟨true, "", .int 5⟩ := by
  refine q.envelopeOf_toUTF8 (v := .record [("success", .bool true), ("message", .text ""),
    ("data", .int 5)]) (by decide) ?_ rfl
  simp only [Json.ofText?, String.reduceToList]
  rfl

/-- The hooks end with nothing to tell, and the operator does not want to keep any codes. -/
def declines : Hook → Value
  | .confirm => .bool false
  | _ => .null

/-- The code of a list is offered once, though the draft is edited meanwhile. -/
theorem offers_code_of_list :
    let before : List (Event Call) := [.call (.setField "name" (.text "spring"))]
    let events : List (Event Call) :=
      [.answer 1 (.reply 0 (.answered 200 codeText)), .call (.setField "name" (.text "next")),
        .answer 1 (.ended (.ok .null)), .answer 1 (.ended (.ok (.bool false)))]
    OffersItems (.list [.text "code-1"])
      ((played {} .null [.confirm, .refresh] "" {}
        (before ++ .call .submit :: events)).deedsOf 1) := by
  intro before events
  exact (offers_items_iff {} .null [.confirm, .refresh] "" {} before events _
    (.answered 200 codeText) _ declines _ rfl rfl rfl rfl (envelopeOf_codeText _) rfl rfl rfl).1.mpr
      (Or.inr (Or.inl ⟨_, rfl⟩))

/-- A number is taken for codes and ends the submission with a failure, though vouchers have been
made. -/
theorem not_offers_items_number :
    let before : List (Event Call) := [.call (.setField "name" (.text "spring"))]
    let events : List (Event Call) := [.answer 1 (.reply 0 (.answered 200 numberText))]
    ¬ OffersItems (.int 5)
      ((played {} .null [] "" {} (before ++ .call .submit :: events)).deedsOf 1) := by
  intro before events hgood
  obtain ⟨name, -, hdeeds⟩ := deeds_of_created {} .null [] "" {} before events declines
    rfl rfl rfl rfl (envelopeOf_numberText _) rfl rfl rfl
  have hgiven := (congrArg (List.filterMap Deed.given?) hdeeds).symm.trans hgood.given
  cases hgiven

end Form

end VoucherDesk
