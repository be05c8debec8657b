import VoucherDesk.Proofs.Form.Alone
import VoucherDesk.Proofs.Form.Extremes

/-!
# Submissions that are not accepted

A submission can fail before it sends anything, because of its draft, or when its request is not
granted. In either way the form stays as it was but for the loading flag, no hook is called, and the
operator is told once what was wrong. Only what is no fault is given back instead.
-/

namespace VoucherDesk

open Dialogue

/-- Whether a failure that is a fault is one of a draft: a field that breaks its rule, or a window
that is empty. -/
def Failure.IsOfDraft (e : Failure) : Prop :=
  ∀ t : Fault, e = .fault t → t.kind = .fieldFormat ∨ t.kind = .timeWindow

/-- The faults of a draft are found before anything is sent. -/
theorem Failure.IsOfDraft.isValidation {t : Fault} (h : (Failure.fault t).IsOfDraft) :
    t.isValidation = true := by
  rcases h t rfl with hkind | hkind
  · rw [Fault.isValidation, hkind]
    rfl
  · rw [Fault.isValidation, hkind]
    rfl

namespace FormField

variable {field : String} {v : Value}

/-- What is refused breaks a rule of its field. -/
theorem refuse_isOfDraft (rule : FieldRule) : (refuse field v rule).IsOfDraft := by
  unfold refuse
  split
  · rintro t ⟨⟩
    exact Or.inl rfl
  · rintro t ⟨⟩

/-- A number is refused for its field. -/
theorem int_failsOnly_ofDraft : FailsOnly Failure.IsOfDraft (int field v) := by
  have hrefused : FailsOnly Failure.IsOfDraft
      (.error (refuse field v .wholeNumber) : Except Failure Int) :=
    failsOnly_error.mpr (refuse_isOfDraft .wholeNumber)
  unfold int
  split
  · exact failsOnly_ok _
  · split
    · exact failsOnly_ok _
    · exact hrefused
  · split
    · split
      · exact failsOnly_error.mpr fun _ h => nomatch h
      · exact failsOnly_ok _
    · exact hrefused
  · exact hrefused

/-- A number with a rule is refused for its field. -/
theorem intWhere_failsOnly_ofDraft {rule : FieldRule} {ok : Int → Bool} :
    FailsOnly Failure.IsOfDraft (intWhere field v rule ok) := by
  refine failsOnly_bind.mpr ⟨int_failsOnly_ofDraft, fun n _ => ?_⟩
  split
  · exact failsOnly_ok _
  · exact failsOnly_error.mpr (refuse_isOfDraft rule)

/-- A timestamp is refused for its field. -/
theorem timestamp_failsOnly_ofDraft : FailsOnly Failure.IsOfDraft (timestamp field v) := by
  unfold timestamp
  split
  · exact failsOnly_ok _
  · split
    · split
      · exact failsOnly_ok _
      · exact failsOnly_error.mpr fun _ h => nomatch h
    · exact intWhere_failsOnly_ofDraft

end FormField

/-- A draft is refused for one of its fields. -/
theorem Draft.toVoucher_failsOnly_ofDraft (inputs : Fields) (key editingId : Value) :
    FailsOnly Failure.IsOfDraft (Draft.toVoucher inputs key editingId) := by
  -- From the name on, all drafts are read in the same way.
  have hlast (quota count : Int) (sent : Value) (kind : VoucherKind) :
      FailsOnly Failure.IsOfDraft (do
      let name ← name (Value.fieldOf inputs "name")
      let validFrom ← FormField.timestamp "valid_from" (Value.fieldOf inputs "valid_from")
      let validUntil ← FormField.timestamp "valid_until" (Value.fieldOf inputs "valid_until")
      Voucher.readAround
        [("id", editingId), ("name", .text name), ("quota", .int quota), ("count", .int count),
          ("key", sent), ("valid_from", .int validFrom), ("valid_until", .int validUntil)]
        (.ok kind)) := by
    refine failsOnly_bind.mpr ⟨?_, fun name _ => ?_⟩
    · unfold Draft.name
      split
      · exact failsOnly_ok _
      · exact failsOnly_error.mpr fun _ h => nomatch h
    refine failsOnly_bind.mpr ⟨FormField.timestamp_failsOnly_ofDraft, fun validFrom _ => ?_⟩
    refine failsOnly_bind.mpr ⟨FormField.timestamp_failsOnly_ofDraft, fun validUntil _ => ?_⟩
    unfold Voucher.readAround
    dsimp only
    split
    · exact failsOnly_ok _
    · exact failsOnly_error.mpr fun _ h => nomatch h
  have huses : FailsOnly Failure.IsOfDraft (useLimit (Value.fieldOf inputs "max_uses")) := by
    unfold Draft.useLimit
    split
    · exact failsOnly_ok _
    · exact FormField.intWhere_failsOnly_ofDraft
  unfold Draft.toVoucher
  refine failsOnly_bind.mpr ⟨FormField.intWhere_failsOnly_ofDraft, fun quota _ => ?_⟩
  cases editingId.isNull with
  | true =>
    refine failsOnly_bind.mpr ⟨FormField.intWhere_failsOnly_ofDraft, fun count _ => ?_⟩
    cases (Value.fieldOf inputs "is_gift").isTruthy with
    | true =>
      exact failsOnly_bind.mpr
        ⟨(failsOnly_map _).mpr huses, fun kind _ => hlast quota count key kind⟩
    | false => exact hlast quota count key .standard
  | false =>
    refine failsOnly_bind.mpr ⟨failsOnly_ok 1, fun count _ => ?_⟩
    cases (Value.fieldOf inputs "is_gift").isTruthy with
    | true =>
      exact failsOnly_bind.mpr
        ⟨(failsOnly_map _).mpr huses, fun kind _ => hlast quota count .null kind⟩
    | false => exact hlast quota count .null .standard

/-- A label that cannot be made is no fault. -/
theorem Label.quota_failsOnly_ofDraft (settings : Settings) (n : Int) (places : Option Int) :
    FailsOnly Failure.IsOfDraft (Label.quota settings (.int n) places) := by
  have hquotient (den : Int) : FailsOnly Failure.IsOfDraft (Label.quotient n den) := by
    unfold Label.quotient
    split
    · exact failsOnly_error.mpr fun _ h => nomatch h
    · split
      · exact failsOnly_ok _
      · exact failsOnly_error.mpr fun _ h => nomatch h
  unfold Label.quota
  split
  · show FailsOnly Failure.IsOfDraft (Label.count n)
    unfold Label.count
    split
    · exact (failsOnly_map _).mpr (hquotient _)
    · split
      · exact failsOnly_ok _
      · exact failsOnly_error.mpr fun _ h => nomatch h
  · refine failsOnly_bind.mpr ⟨hquotient _, fun x _ => ?_⟩
    dsimp only
    split
    · exact failsOnly_error.mpr fun _ h => nomatch h
    · exact failsOnly_ok _

namespace Form

/-- A form that cannot build its voucher has a fault in its draft, or no fault at all. -/
theorem build_failsOnly_ofDraft (f : Form) : FailsOnly Failure.IsOfDraft f.build := by
  unfold Form.build
  refine failsOnly_bind.mpr ⟨Draft.toVoucher_failsOnly_ofDraft _ _ _, fun v _ => ?_⟩
  refine failsOnly_bind.mpr ⟨?_, fun _ _ => ?_⟩
  · unfold Voucher.validate
    split
    · exact failsOnly_ok _
    · refine failsOnly_error.mpr ?_
      rintro t ⟨⟩
      exact Or.inr rfl
  · split
    · exact failsOnly_bind.mpr ⟨Label.quota_failsOnly_ofDraft _ _ _, fun _ _ => failsOnly_ok _⟩
    · exact failsOnly_ok _

/-- Nor can one that builds a voucher but has no query for it. -/
theorem prepared_failsOnly_ofDraft (f : Form) : FailsOnly Failure.IsOfDraft f.prepared := by
  refine failsOnly_bind.mpr ⟨f.build_failsOnly_ofDraft, fun v _ e hfails => ?_⟩
  rw [saveQuery_eq_error hfails]
  rintro t ⟨⟩

/-- The operator is told an error, and it is given that the submission was not accepted. -/
def told (message : String) : List (Deed Result) :=
  [.has (.error message), .gives (.ok (.accepted false))]

/-- What is seen of a failure that ends a submission: a fault is told, any other failure is given.
-/
def endedBy : Failure → List (Deed Result)
  | .fault e => told e.message
  | e => [.gives (.error e)]

/-- What is seen of a request that is not granted: its failure, or what the server says. -/
def refusedBy : Except Failure Envelope → List (Deed Result)
  | .ok envelope => told envelope.message
  | .error e => endedBy e

/-- A submission with nothing to send ends at once and leaves the form alone. -/
theorem submit_of_not_prepared {f : Form} (hfree : f.submitting = false) {e : Failure}
    (hfails : f.prepared = .error e) :
    f.submit.state = f ∧ f.submit.deeds = endedBy e ∧ ∃ r, f.submit.next = .ends r := by
  unfold Form.submit
  simp only [hfree, Bool.false_eq_true, ite_false]
  cases hbuild : f.build with
  | error failure =>
    obtain rfl : failure = e := by simpa [prepared, hbuild, bind, Except.bind] using hfails
    cases failure with
    | fault fault =>
      have hvalidation := (f.build_failsOnly_ofDraft _ hbuild).isValidation
      simp only [hvalidation, ite_true]
      exact ⟨rfl, rfl, _, rfl⟩
    | _ => exact ⟨rfl, rfl, _, rfl⟩
  | ok v =>
    have hnone : f.saveQuery v = .error e := by
      simpa [prepared, hbuild, bind, Except.bind] using hfails
    obtain rfl := saveQuery_eq_error hnone
    simp only [hnone]
    exact ⟨rfl, rfl, _, rfl⟩

/-- A reply that does not grant the request ends the submission, and all that it changes of the form
is that it does not load. -/
theorem saved_of_refused (f : Form) (v : Voucher) {q : Query} {r : Reply}
    (hrefused : ∀ envelope, q.envelopeOf r = .ok envelope → envelope.success = false) :
    (f.saved v q r).state = { f with loading := false, submitting := false } ∧
      (f.saved v q r).deeds = refusedBy (q.envelopeOf r) ∧
      ∃ result, (f.saved v q r).next = .ends result := by
  unfold Form.saved
  cases henvelope : q.envelopeOf r with
  | error e =>
    cases e with
    | fault fault => exact ⟨rfl, rfl, _, rfl⟩
    | _ => exact ⟨rfl, rfl, _, rfl⟩
  | ok envelope =>
    simp only [hrefused envelope henvelope, Bool.not_false, ite_true]
    exact ⟨rfl, rfl, _, rfl⟩

/-- A submission that is not accepted leaves the form as it was, calls no hook and writes no file. A
fault, and what the server says, is told once; any other failure is given back. A draft that cannot
be sent is found out before anything is sent, and at most one request is sent. -/
theorem refused_submission_keeps_form (s : Form) (before : List (Event Call)) (x : FormExchange)
    (hx : x = (Exchange.start s).play controller before)
    (hfree : x.run.state.submitting = false) :
    let f := x.run.state
    (∀ e, f.prepared = .error e →
      let y := x.play controller [.call .submit]
      y.run.state = f ∧ y.deedsOf x.run.begun = endedBy e ∧
        ∀ fault, e = .fault fault → fault.kind = .fieldFormat ∨ fault.kind = .timeWindow) ∧
    ∀ q r, f.prepared = .ok q →
      (∀ envelope, q.envelopeOf r = .ok envelope → envelope.success = false) →
      let y := x.play controller [.call .submit, .answer x.run.begun (.reply 0 r)]
      y.run.state = { f with loading := false } ∧
        y.deedsOf x.run.begun = .sends q :: refusedBy (q.envelopeOf r) := by
  intro f
  have hnothing : x.deedsOf x.run.begun = [] := hx ▸ Exchange.deedsOf_begun controller_keeps _ _
  refine ⟨fun e hfails => ?_, fun q r hprepared hrefused => ?_⟩
  · obtain ⟨hstate, hdeeds, -⟩ := submit_of_not_prepared hfree hfails
    have hstep : x.play controller [.call .submit] = x.begins .submit f.submit :=
      Exchange.step_call _
    rw [hstep]
    refine ⟨hstate, ?_, fun fault hfault => f.prepared_failsOnly_ofDraft e hfails fault hfault⟩
    rw [Exchange.deedsOf_begins, hnothing, if_pos rfl, List.nil_append, hdeeds]
  · obtain ⟨v, hbuild, hquery⟩ := bind_eq_ok.mp hprepared
    obtain ⟨hstate, hdeeds, result, hnext⟩ :=
      saved_of_refused { f with submitting := true, loading := true } v hrefused
    have hroute : Route controller Stage.awaits (fun _ => False) (· = { f with loading := false })
        ({ f with submitting := true, loading := true }.saved v q r) []
        (refusedBy (q.envelopeOf r)) := by
      rw [← hdeeds]
      refine .ends _ result hnext ?_
      rw [hstate, ← hfree]
    obtain ⟨hall, hlast, -⟩ := submission_route hx hfree hbuild hquery hroute
    exact ⟨hlast, hall⟩

/-- A connection that fails is told, and the name that was entered is still there. -/
theorem broken_submission_keeps_name :
    let v : Voucher := { name := "spring", key := some "" }
    let x : FormExchange := (Exchange.start (create {} .null [.refresh] "" {})).play controller
      [.call (.setField "name" (.text "spring"))]
    let y := x.play controller [.call .submit, .answer 1 (.reply 0 (.broken "down"))]
    y.run.state.inputs.get? "name" = some (.text "spring") ∧ y.run.state.loading = false ∧
      y.deedsOf 1 = .sends (.createVouchers (.record v.createPayload)) ::
        told "Request failed: down" := by
  intro v x y
  obtain ⟨hstate, hdeeds⟩ := (refused_submission_keeps_form _ _ x rfl rfl).2
    (.createVouchers (.record v.createPayload)) (.broken "down") rfl fun _ h => nomatch h
  have hbegun : x.run.begun = 1 := rfl
  have hname : Fields.get? x.run.state.inputs "name" = some (.text "spring") := rfl
  clear_value x
  rw [hbegun] at hstate hdeeds
  refine ⟨?_, ?_, hdeeds⟩
  · show Fields.get? y.run.state.inputs "name" = _
    rw [hstate]
    exact hname
  · rw [hstate]

end Form

end VoucherDesk
