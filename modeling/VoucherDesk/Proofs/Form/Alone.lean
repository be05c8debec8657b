import VoucherDesk.Proofs.Dialogue.Route
import VoucherDesk.Proofs.Files
import VoucherDesk.Proofs.Form.Hooks

/-!
# Submissions that are left alone

Nothing is done to a form but to answer one submission. Once its request is accepted the operator
is told, refresh and close are called, and codes of new vouchers are offered and kept if the
operator wants to; all hooks find the form in the same state.
-/

namespace VoucherDesk.Form

open Dialogue

/-- A submission that is let in, has its reply and is then left alone sends its query and follows
the route from there; all that it asks later finds a state of the kind that the route has. -/
theorem submission_route {s : Form} {before : List (Event Call)} {x : FormExchange}
    (hx : x = (Exchange.start s).play controller before) (hfree : x.run.state.submitting = false)
    {v : Voucher} {q : Query} (hbuild : x.run.state.build = .ok v)
    (hquery : x.run.state.saveQuery v = .ok q) {r : Reply} {I E : Form → Prop}
    {answers : List Answer} {deeds : List (Deed Result)}
    (hroute : Route controller Stage.awaits I E
      ({ x.run.state with submitting := true, loading := true }.saved v q r) answers deeds) :
    let y := x.play controller
      (.call .submit :: (.reply 0 r :: answers).map (.answer x.run.begun))
    y.deedsOf x.run.begun = .sends q :: deeds ∧ E y.run.state ∧ ∀ p found,
      .asked p found ∈ y.history → p.number = x.run.begun → p.ask = .query q ∨ I found := by
  have hord : x.Orderly Stage.awaits Call.suits := hx ▸ Exchange.orderly_play controller_keeps _ _
  have hnothing : x.deedsOf x.run.begun = [] := hx ▸ Exchange.deedsOf_begun controller_keeps _ _
  have hturn : controller.begin x.run.state .submit = _ := submit_of_saveQuery hfree hbuild hquery
  have hfirst : Exchange.After Stage.awaits Call.suits (fun _ => True) (fun _ => false) x.run.begun
        (controller.begin x.run.state .submit) (x.step controller (.call .submit)) ∧
      (x.step controller (.call .submit)).deedsOf x.run.begun =
        x.deedsOf x.run.begun ++ (controller.begin x.run.state .submit).deeds :=
    hord.after_begin controller_keeps (fun _ _ => rfl) .submit fun _ => trivial
  have hstep : x.step controller (.call .submit) =
      x.begins .submit (controller.begin x.run.state .submit) := Exchange.step_call _
  rw [hturn] at hfirst hstep
  obtain ⟨y, hy⟩ : ∃ y, y = x.step controller (.call .submit) := ⟨_, rfl⟩
  rw [← hy] at hfirst hstep
  have hwaits := hfirst.1.waits rfl
  have hopen : (⟨x.run.begun, 0, .query q⟩ : Question) ∈ (Stage.saving v q).awaits x.run.begun :=
    List.mem_singleton_self _
  have hans := Question.isAnsweredBy_reply x.run.begun 0 q r
  have hreply : y.step controller (.answer x.run.begun (.reply 0 r)) =
      y.continues x.run.begun (.reply 0 r)
        ({ x.run.state with submitting := true, loading := true }.saved v q r) := by
    rw [hwaits.step_answer hopen hans, hstep]
    rfl
  obtain ⟨hafter, hown⟩ := hwaits.step_own controller_keeps hopen hans fun _ => trivial
  have hstate : y.run.state = { x.run.state with submitting := true, loading := true } := by
    rw [hstep]
    rfl
  rw [hfirst.2, hnothing, hstate] at hown
  rw [hstate] at hafter
  obtain ⟨hdeeds, hlast, hasked⟩ := Exchange.play_route controller_keeps hroute
    (hafter.restate fun hnext => by rw [hreply]; exact hroute.state hnext)
    (by rw [hreply]; rfl) hown
  have hplay (rest : List (Event Call)) : x.play controller
      (.call .submit :: .answer x.run.begun (.reply 0 r) :: rest) =
        (y.step controller (.answer x.run.begun (.reply 0 r))).play controller rest := by
    rw [hy]
    rfl
  rw [List.map_cons, hplay]
  refine ⟨hdeeds, hlast, fun p found hp hnumber => ?_⟩
  rcases hasked p found hp hnumber with hold | hmet
  · rw [hreply] at hold
    rcases Exchange.asked_mem_continues.mp hold with hbefore | ⟨hquestion, rfl⟩
    · rw [hstep] at hbefore
      rcases Exchange.asked_mem_begins.mp hbefore with hpast | ⟨hquestion, -⟩
      · have hlt : p.number < x.run.begun := by
          subst hx
          exact Exchange.number_lt_begun controller_keeps s before _ hpast
        exact absurd hnumber (Nat.ne_of_lt hlt)
      · exact Or.inl (ask_of_mem_singleton hquestion)
    · obtain ⟨asks, stage, hnext⟩ := Exchange.exists_waits_of_mem_questions hquestion
      exact Or.inr (hroute.state hnext)
  · exact Or.inr hmet

/-- The name that a query sends along. -/
def sentName? (q : Query) : Option String :=
  match q.payload with
  | .record fields =>
    match Fields.get? fields "name" with
    | some (.text name) => some name
    | _ => none
  | _ => none

/-- A voucher is saved under its name. -/
theorem sentName?_of_saveQuery {f : Form} {v : Voucher} {q : Query} (h : f.saveQuery v = .ok q) :
    sentName? q = some v.name := by
  unfold Form.saveQuery at h
  split at h
  · unfold Voucher.updatePayload at h
    split at h
    · cases h
      rfl
    · cases h
  · cases h
    rfl

/-- What is seen of codes that are offered: the operator is asked, with the codes and the name of
their file, and is told where they are if they are kept. -/
def offering (f : Form) (name : String) (codes : List String) (answer : Value) :
    List (Deed Result) :=
  .calls .confirm [.list (codes.map .text), .text (Export.fileName name)] ::
    if answer.isTruthy then
      [.has (.success ("Saved " ++ toString codes.length ++ " code(s) to "
        ++ FileTree.pathText (Export.partsOf f.files f.codeDirectory name)))]
    else []

/-- A later form has kept codes: they are the text of the file that is named after the voucher in
the directory for codes, no other file has changed, and the form shows the path. -/
def Keeps (f : Form) (name : String) (codes : List String) (later : Form) : Prop :=
  (∃ place, later.files.walk [] (Export.partsOf f.files f.codeDirectory name) = .ok place ∧
    later.files.read? place = some (Export.textOf codes) ∧
    ∀ other, other ≠ place → later.files.read? other = f.files.read? other) ∧
  later.exportPath = some (FileTree.pathText (Export.partsOf f.files f.codeDirectory name))

/-- A later form has kept codes if they are wanted, and otherwise has no other file and shows no
other path. -/
def KeepsIf (wanted : Bool) (f : Form) (name : String) (codes : List String) (later : Form) :
    Prop :=
  if wanted then f.Keeps name codes later
  else later.files = f.files ∧ later.exportPath = f.exportPath

section Codes

variable {f : Form} {back : Hook → Except Fault Value} {items : List Value} {answer : Value}

/-- Codes that are wanted are kept if the file can be written. -/
theorem afterConfirm_route {I : Form → Prop} {name : String} {codes : List String}
    (hwrite : answer.isTruthy = true →
      ∃ w, Export.write f.files f.codeDirectory name codes = .ok w) :
    Route controller Stage.awaits I (f.KeepsIf answer.isTruthy name codes)
      (f.afterConfirm name codes (.ok answer)) []
      ((offering f name codes answer).tail ++ [.gives (.ok (.accepted true))]) := by
  cases hwanted : answer.isTruthy with
  | false =>
    simp only [Form.afterConfirm, offering, hwanted, Bool.false_eq_true, ite_false, List.tail_cons]
    refine Route.ends (f.endSubmit (.ok true)) _ rfl ?_
    rw [KeepsIf, if_neg Bool.false_ne_true]
    exact ⟨rfl, rfl⟩
  | true =>
    obtain ⟨⟨files, path⟩, hwritten⟩ := hwrite hwanted
    obtain ⟨rfl, hplace⟩ := Export.place_of_write hwritten
    simp only [Form.afterConfirm, offering, hwanted, ite_true, List.tail_cons, Form.keepCodes,
      hwritten]
    refine Route.ends _ _ rfl ?_
    rw [KeepsIf, if_pos rfl]
    exact ⟨hplace, rfl⟩

/-- Codes are offered where that is due, and nothing but that changes the files. -/
theorem offerCodes_route (f : Form) (saved : Saved)
    (hdata : saved.data = .list items ∨ saved.data = .null ∧ items = [])
    (hback : f.isDue saved.data .confirm = true → back .confirm = .ok answer)
    (hwrite : f.isDue saved.data .confirm = true → answer.isTruthy = true →
      ∃ w, Export.write f.files f.codeDirectory saved.voucher.name (items.map Value.plain) =
        .ok w) :
    Route controller Stage.awaits (· = f)
      (f.KeepsIf (f.isDue saved.data .confirm && answer.isTruthy) saved.voucher.name
        (items.map Value.plain))
      (f.offerCodes saved) (([Hook.confirm].filter (f.isDue saved.data)).map (endOf back))
      ((if f.isDue saved.data .confirm then
          offering f saved.voucher.name (items.map Value.plain) answer else []) ++
        [.gives (.ok (.accepted true))]) := by
  cases hdue : f.isDue saved.data .confirm with
  | false =>
    have hplain : saved.data = .null ∨ ∃ items, saved.data = .list items :=
      hdata.elim (fun h => Or.inr ⟨items, h⟩) fun h => Or.inl h.1
    rw [offerCodes_of_not_due hplain hdue, List.filter_cons_of_neg (by simp [hdue])]
    refine Route.ends (f.endSubmit (.ok true)) _ rfl ?_
    rw [KeepsIf, Bool.false_and, if_neg Bool.false_ne_true]
    exact ⟨rfl, rfl⟩
  | true =>
    have hitems : saved.data = .list items := by
      refine hdata.resolve_right fun hnull => ?_
      simp [Form.isDue, hnull.1, Value.isTruthy] at hdue
    have hanswered : endOf back .confirm = .ended (.ok answer) := by
      rw [endOf, hback hdue]
      rfl
    have hparts : saved.data.elements? = some items := congrArg Value.elements? hitems
    rw [offerCodes_of_due hparts hdue, List.filter_cons_of_pos hdue, List.filter_nil, List.map_cons,
      hanswered, Bool.true_and, if_pos rfl]
    refine waitFor_route rfl ?_ rfl
    rintro _ rfl
    exact afterConfirm_route (hwrite hdue)

/-- After an accepted reply the operator is told, refresh and close are called, and codes are
offered where that is due. -/
theorem saved_route {v : Voucher} {q : Query} {r : Reply} {envelope : Envelope}
    (henvelope : q.envelopeOf r = .ok envelope) (hsuccess : envelope.success = true)
    (hdata : envelope.data = .list items ∨ envelope.data = .null ∧ items = [])
    (hback : f.isDue envelope.data .confirm = true → back .confirm = .ok answer)
    (hwrite : f.isDue envelope.data .confirm = true → answer.isTruthy = true →
      ∃ w, Export.write f.files f.codeDirectory v.name (items.map Value.plain) = .ok w) :
    Route controller Stage.awaits (· = f.settled)
      (f.KeepsIf (f.isDue envelope.data .confirm && answer.isTruthy) v.name
        (items.map Value.plain))
      (f.saved v q r) ((f.due envelope.data).map (endOf back))
      (.has (.success f.acceptance) :: (f.early.flatMap (hookDeeds back) ++
        ((if f.isDue envelope.data .confirm then
            offering f v.name (items.map Value.plain) answer else []) ++
          [.gives (.ok (.accepted true))]))) := by
  obtain ⟨inputs, key, hsettled⟩ := f.settled_eq
  have hoffer : Route controller Stage.awaits (· = f.settled)
      (f.KeepsIf (f.isDue envelope.data .confirm && answer.isTruthy) v.name
        (items.map Value.plain))
      (f.settled.offerCodes ⟨v, envelope.data⟩)
      (([Hook.confirm].filter (f.isDue envelope.data)).map (endOf back))
      ((if f.isDue envelope.data .confirm then
          offering f v.name (items.map Value.plain) answer else []) ++
        [.gives (.ok (.accepted true))]) := by
    rw [hsettled]
    exact offerCodes_route { f with loading := false, inputs, key } ⟨v, envelope.data⟩ hdata hback
      hwrite
  have hroute := callRefresh_route (f := f) back (I := (· = f.settled))
    (fun s hs => by rw [hs, hsettled]) (fun s hs => by rw [hs]; exact hoffer) f.settled rfl
  obtain ⟨entry, hsaved⟩ := saved_of_accepted f (v := v) henvelope hsuccess
  rw [hsaved, due_eq, List.map_append]
  exact hroute.after [.log entry, .success f.acceptance]

end Codes

/-- Whether a later form does not load, and has an empty draft if it creates vouchers and the same
draft if it edits one. -/
def IsSettled (f : Form) (found : Form) : Prop :=
  found.loading = false ∧ found.inputs = (if f.isEdit then f.inputs else Draft.defaults) ∧
    found.key = if f.isEdit then f.key else .text ""

theorem isSettled_settled (f : Form) : f.IsSettled f.settled := by
  unfold IsSettled settled
  split
  · exact ⟨rfl, rfl, rfl⟩
  · exact ⟨rfl, rfl, rfl⟩

/-- An accepted submission that is left alone sends its query, tells of its success, calls refresh
and close and tells the fault of each, offers the codes of new vouchers under the name that was
sent, and keeps them just if they are wanted. -/
theorem accepted_submission_in_order (s : Form) (before : List (Event Call)) (q : Query) (r : Reply)
    (envelope : Envelope) (items : List Value) (back : Hook → Except Fault Value) (answer : Value)
    (x : FormExchange) (hx : x = (Exchange.start s).play controller before)
    (hfree : x.run.state.submitting = false) (hquery : x.run.state.prepared = .ok q)
    (henvelope : q.envelopeOf r = .ok envelope) (hsuccess : envelope.success = true)
    (hdata : envelope.data = .list items ∨ envelope.data = .null ∧ items = [])
    (hback : x.run.state.isDue envelope.data .confirm = true → back .confirm = .ok answer)
    (hwrite : x.run.state.isDue envelope.data .confirm = true → answer.isTruthy = true →
      ∀ name, sentName? q = some name →
        ∃ w, Export.write x.run.state.files x.run.state.codeDirectory name
          (items.map Value.plain) = .ok w) :
    let f := x.run.state
    let codes := items.map Value.plain
    let offered := f.isDue envelope.data .confirm
    let y := x.play controller (.call .submit ::
      (.reply 0 r :: (f.due envelope.data).map (endOf back)).map (.answer x.run.begun))
    ∃ name, sentName? q = some name ∧
      y.deedsOf x.run.begun = .sends q :: .has (.success f.acceptance) ::
        (f.early.flatMap (hookDeeds back) ++
          ((if offered then offering f name codes answer else []) ++
            [.gives (.ok (.accepted true))])) ∧
      f.KeepsIf (offered && answer.isTruthy) name codes y.run.state ∧
      ∀ p hook args found, .asked p found ∈ y.history → p.number = x.run.begun →
        p.ask = .hook hook args → f.IsSettled found := by
  intro f codes offered y
  obtain ⟨v, hbuild, hsaves⟩ := bind_eq_ok.mp hquery
  have hname := sentName?_of_saveQuery hsaves
  let g : Form := { f with submitting := true, loading := true }
  have hroute : Route controller Stage.awaits (· = g.settled)
      (f.KeepsIf (offered && answer.isTruthy) v.name codes) (g.saved v q r)
      ((f.due envelope.data).map (endOf back))
      (.has (.success f.acceptance) :: (f.early.flatMap (hookDeeds back) ++
        ((if offered then offering f v.name codes answer else []) ++
          [.gives (.ok (.accepted true))]))) :=
    saved_route (f := g) henvelope hsuccess hdata hback fun hasked hwanted =>
      hwrite hasked hwanted v.name hname
  obtain ⟨hdeeds, hlast, hasked⟩ := submission_route hx hfree hbuild hsaves hroute
  refine ⟨v.name, hname, hdeeds, hlast, fun p hook args found hp hnumber hask => ?_⟩
  rcases hasked p found hp hnumber with hquery | rfl
  · cases hask.symm.trans hquery
  · exact g.isSettled_settled

/-- The hooks end as they do when only the refresh fails and the operator keeps the codes. -/
def wantsCodes (fault : Fault) : Hook → Except Fault Value
  | .refresh => .error fault
  | .close => .ok .null
  | .confirm => .ok (.bool true)

/-- A code is kept under the name that was sent, though the draft has been emptied before. -/
theorem code_kept_in_order :
    let fault : Fault := .told .transport "reload failed" none none
    let v : Voucher := { name := "spring", key := some "" }
    let x : FormExchange :=
      (Exchange.start (create {} .null [.confirm, .close, .refresh] "out" {})).play controller
        [.call (.setField "name" (.text "spring"))]
    let y := x.play controller (.call .submit ::
      (.reply 0 (.answered 200 codeText) ::
        [Hook.refresh, .close, .confirm].map (endOf (wantsCodes fault))).map (.answer 1))
    y.deedsOf 1 =
        [.sends (.createVouchers (.record v.createPayload)),
          .has (.success "Redemption code created"), .calls .refresh [],
          .has (.error "reload failed"), .calls .close [],
          .calls .confirm [.list [.text "code-1"], .text "spring.txt"],
          .has (.success "Saved 1 code(s) to out/spring.txt"), .gives (.ok (.accepted true))] ∧
      y.run.state.exportPath = some "out/spring.txt" := by
  intro fault v x y
  have hpath : FileTree.pathText (Export.partsOf {} "out" "spring") = "out/spring.txt" :=
    (Export.place_of_write Export.write_spring).1.symm
  obtain ⟨name, hname, hdeeds, hkeeps, -⟩ := accepted_submission_in_order _ _
    (.createVouchers (.record v.createPayload)) (.answered 200 codeText) _ [.text "code-1"]
    (wantsCodes fault) (.bool true) x rfl rfl rfl (envelopeOf_codeText _) rfl (Or.inl rfl)
    (fun _ => rfl) fun _ _ name hname => by
      cases hname
      exact ⟨_, Export.write_spring⟩
  obtain rfl : v.name = name := Option.some.inj hname
  have hfiles : x.run.state.files = {} := rfl
  have hdirectory : x.run.state.codeDirectory = "out" := rfl
  have hoffering : x.run.state.offering v.name ([Value.text "code-1"].map Value.plain)
      (.bool true) = [.calls .confirm [.list [.text "code-1"], .text "spring.txt"],
        .has (.success "Saved 1 code(s) to out/spring.txt")] := by
    have hmessage : "Saved " ++ toString ["code-1"].length ++ " code(s) to " ++ "out/spring.txt" =
        "Saved 1 code(s) to out/spring.txt" := by decide
    show x.run.state.offering "spring" ["code-1"] (.bool true) = _
    simp only [offering, hfiles, hdirectory, hpath, Export.fileName_spring, hmessage]
    rfl
  -- What depends on the form is evaluated once, and then the form is not looked into any more.
  have hdue : x.run.state.due (.list [.text "code-1"]) = [.refresh, .close, .confirm] := rfl
  have hoffered : x.run.state.isDue (.list [.text "code-1"]) .confirm = true := rfl
  have hbegun : x.run.begun = 1 := rfl
  have hsaid : x.run.state.acceptance = "Redemption code created" := rfl
  have hearly : x.run.state.early = [.refresh, .close] := rfl
  clear_value x
  dsimp only at hdeeds hkeeps
  rw [hdue, hoffered, hbegun, if_pos rfl, hsaid, hearly, hoffering] at hdeeds
  rw [hdue, hoffered, hbegun] at hkeeps
  have hshown := ((if_pos rfl).mp hkeeps).2
  rw [hfiles, hdirectory, hpath] at hshown
  exact ⟨hdeeds.trans rfl, hshown⟩

end VoucherDesk.Form
