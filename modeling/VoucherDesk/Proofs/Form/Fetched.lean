import VoucherDesk.Proofs.Client.Calls
import VoucherDesk.Proofs.Client.Granted
import VoucherDesk.Proofs.Dialogue.Course
import VoucherDesk.Proofs.Form.Hooks

/-!
# How a load ends

A load of a form ends with the reply to its query in exactly one of three ways. The voucher that
the reply grants fills the fields and is given; or the fault that the reply stands for is told once
and given; or, without a reply of the server, a failure that is no fault is given as it is. In the
last two ways the fields are left alone, in all three the form no longer loads, and nothing else of
it changes.
-/

namespace VoucherDesk

open Dialogue

/-- Fields from which no voucher can be made around a kind are unreadable. -/
theorem Voucher.readAround_failsOnly (fields : Fields) (kind : Reading.Checked VoucherKind) :
    FailsOnly (fun e => ∃ problems, e = .unreadable problems) (readAround fields kind) := by
  unfold readAround
  dsimp only
  split
  · exact failsOnly_ok _
  · exact failsOnly_error.mpr ⟨_, rfl⟩

/-- A record that holds no voucher is unreadable. -/
theorem Voucher.ofWire_failsOnly (data : Fields) :
    FailsOnly (fun e => ∃ problems, e = .unreadable problems) (ofWire data) := by
  unfold ofWire
  dsimp only
  split
  · split
    · exact readAround_failsOnly _ _
    · exact failsOnly_error.mpr ⟨_, rfl⟩
  · exact readAround_failsOnly _ _

/-- Only a query that was not sent, or whose answer was lost, fails with something that is no
fault. -/
theorem Query.eq_lost_of_error {q : Query} {r : Reply} {e : Failure}
    (h : q.envelopeOf r = .error e) (hother : ¬ e.IsFault) : r = .lost e := by
  cases r with
  | lost e' =>
    cases h
    rfl
  | broken text => exact absurd (q.envelopeOf_faultsOnly (by simp) e h) hother
  | answered status body => exact absurd (q.envelopeOf_faultsOnly (by simp) e h) hother

namespace Form

/-- Whether data hold a voucher: they are a record that reads as one. -/
def IsVoucher (data : Value) : Prop :=
  ∃ fields v, data = .record fields ∧ Voucher.ofWire fields = .ok v

/-- The fault for which a reply to a load stands. -/
inductive Refuses (id : Value) (r : Reply) : Fault → Prop where
  /-- There is no envelope. -/
  | unanswered (e : Fault) (envelope : (Query.showVoucher id).envelopeOf r = .error (.fault e)) :
      Refuses id r e
  /-- The envelope does not grant what was asked. -/
  | refused (message : String) (data : Value)
      (envelope : (Query.showVoucher id).envelopeOf r = .ok ⟨false, message, data⟩) :
      Refuses id r (.application message)
  /-- What is granted is no voucher. -/
  | malformed (message : String) (data : Value)
      (envelope : (Query.showVoucher id).envelopeOf r = .ok ⟨true, message, data⟩)
      (unread : ¬ IsVoucher data) :
      Refuses id r (.told .server "Malformed redemption record" none none)

/-- The ways in which a load ends. -/
inductive Way where
  | shows
  | tells
  | passes

/-- How a load that finds a form ends in a way with the reply to its query: the form that it leaves,
and what it does. -/
inductive LoadEnds (f : Form) (id : Value) (r : Reply) :
    Way → Form → List (Deed Result) → Prop where
  /-- The voucher that is granted fills the fields and is given. -/
  | shows (message : String) (fields : Fields) (v : Voucher)
      (granted : (Query.showVoucher id).envelopeOf r = .ok ⟨true, message, .record fields⟩)
      (read : Voucher.ofWire fields = .ok v) :
      LoadEnds f id r .shows { f with loading := false, inputs := inputsOf v }
        [.gives (.ok (.voucher v))]
  /-- The fault is told and given. -/
  | tells (e : Fault) (refuses : Refuses id r e) :
      LoadEnds f id r .tells { f with loading := false }
        [.has (.error e.message), .gives (.error (.fault e))]
  /-- A failure that is no fault and kept the server from answering is given. -/
  | passes (e : Failure) (lost : r = .lost e) (other : ¬ e.IsFault) :
      LoadEnds f id r .passes { f with loading := false } [.gives (.error e)]

/-- Whether a fault of a kind is told and given. -/
def ToldAs (kind : FaultKind) (deeds : List (Deed Result)) : Prop :=
  ∃ e : Fault, e.kind = kind ∧ deeds = [.has (.error e.message), .gives (.error (.fault e))]

section Ways

variable {f g : Form} {id : Value} {r : Reply} {way : Way} {deeds : List (Deed Result)}

/-- The way in which a load has ended, as it can be told from what it does. -/
def wayOf : List (Deed Result) → Way
  | [.gives (.ok _)] => .shows
  | [.gives (.error _)] => .passes
  | _ => .tells

/-- A load ends in one way only. -/
theorem LoadEnds.way_eq (h : LoadEnds f id r way g deeds) : way = wayOf deeds := by
  cases h with
  | shows => rfl
  | tells => rfl
  | passes => rfl

/-- A form of which a load has ended does not load. -/
theorem LoadEnds.loading (h : LoadEnds f id r way g deeds) : g.loading = false := by
  cases h with
  | shows => rfl
  | tells => rfl
  | passes => rfl

/-- A load leaves the key alone. -/
theorem LoadEnds.key (h : LoadEnds f id r way g deeds) : g.key = f.key := by
  cases h with
  | shows => rfl
  | tells => rfl
  | passes => rfl

/-- A reply stands for one fault only. -/
theorem Refuses.eq {e e' : Fault} (h : Refuses id r e) (h' : Refuses id r e') : e' = e := by
  cases h <;> cases h' <;> simp_all

/-- A load whose reply stands for a fault tells it. -/
theorem LoadEnds.toldAs_of_refuses (h : LoadEnds f id r way g deeds) {e : Fault}
    (hrefuses : Refuses id r e) : ToldAs e.kind deeds := by
  cases h with
  | shows message fields v granted read =>
    cases hrefuses with
    | unanswered _ envelope => cases granted.symm.trans envelope
    | refused message data envelope => cases granted.symm.trans envelope
    | malformed message data envelope unread =>
      cases granted.symm.trans envelope
      exact absurd ⟨fields, v, rfl, read⟩ unread
  | tells e' refuses => exact ⟨e', by rw [hrefuses.eq refuses], rfl⟩
  | passes e' lost other =>
    subst lost
    cases hrefuses with
    | unanswered _ envelope =>
      cases envelope
      exact absurd ⟨e, rfl⟩ other
    | refused message data envelope => cases envelope
    | malformed message data envelope unread => cases envelope

end Ways

section Fetched

variable {id : Value} {message : String} {data : Value}

/-- A voucher that is granted is in the envelope. -/
theorem voucherIn_of_ofWire {fields : Fields} {v : Voucher} (h : Voucher.ofWire fields = .ok v) :
    voucherIn id ⟨true, message, .record fields⟩ = (.ok v, []) := by
  simp only [voucherIn, h, Bool.not_true, Bool.false_eq_true, ite_false]

/-- Data of no voucher stand for a fault of the server; at most an entry in the log says more. -/
theorem voucherIn_of_unread (id : Value) (message : String) (h : ¬ IsVoucher data) :
    ∃ entries : List LogEntry,
      voucherIn id ⟨true, message, data⟩ = (.error malformedRecord, entries.map .log) := by
  cases data with
  | record fields =>
    cases hread : Voucher.ofWire fields with
    | ok v => exact absurd ⟨fields, v, rfl, hread⟩ h
    | error e =>
      obtain ⟨problems, rfl⟩ := Voucher.ofWire_failsOnly fields e hread
      refine ⟨[⟨.warning, .form, "Malformed redemption record " ++ id.plain ++ ": "
        ++ Problem.countText problems (readSubject problems)⟩], ?_⟩
      simp only [voucherIn, hread, Bool.not_true, Bool.false_eq_true, ite_false]
      rfl
  | _ => exact ⟨[], rfl⟩

/-- Entries in the log are not seen before a fault that is told. -/
theorem deeds_of_fault (f : Form) (entries : List LogEntry) (e : Fault) :
    ((Turn.finish f (.error (.fault e)) : FormTurn).after
        (entries.map .log ++ [.error e.message])).deeds =
      [.has (.error e.message), .gives (.error (.fault e))] := by
  rw [Turn.deeds_after, List.filterMap_append, Effect.filterMap_log]
  rfl

/-- A failure that is no fault ends a load without a word. -/
theorem fetched_of_lost (f : Form) (id : Value) {e : Failure} (h : ¬ e.IsFault) :
    f.fetched id (.lost e) = .finish { f with loading := false } (.error e) := by
  cases e with
  | fault t => exact absurd ⟨t, rfl⟩ h
  | _ => rfl

/-- The reply to its query ends a load in one of the ways. -/
theorem fetched_loadEnds (f : Form) (id : Value) (r : Reply) :
    ∃ way, LoadEnds f id r way (f.fetched id r).state (f.fetched id r).deeds := by
  cases henvelope : (Query.showVoucher id).envelopeOf r with
  | error e =>
    by_cases hfault : e.IsFault
    · obtain ⟨t, rfl⟩ := hfault
      refine ⟨.tells, ?_⟩
      simp only [fetched, henvelope]
      exact .tells t (.unanswered t henvelope)
    · obtain rfl := Query.eq_lost_of_error henvelope hfault
      rw [fetched_of_lost f id hfault]
      exact ⟨.passes, .passes e rfl hfault⟩
  | ok envelope =>
    obtain ⟨success, message, data⟩ := envelope
    cases success with
    | false =>
      refine ⟨.tells, ?_⟩
      simp only [fetched, henvelope]
      exact .tells _ (.refused message data henvelope)
    | true =>
      by_cases hdata : IsVoucher data
      · obtain ⟨fields, v, rfl, hread⟩ := hdata
        refine ⟨.shows, ?_⟩
        simp only [fetched, henvelope, voucherIn_of_ofWire hread]
        exact .shows message fields v henvelope hread
      · obtain ⟨entries, hin⟩ := voucherIn_of_unread id message hdata
        refine ⟨.tells, ?_⟩
        simp only [fetched, henvelope, hin, malformedRecord, deeds_of_fault]
        exact .tells _ (.malformed message data henvelope hdata)

end Fetched

section Exchanges

variable {x : FormExchange}

/-- Whatever other calls and the answers to them do, a load waits for the reply to its query. -/
theorem load_waits (id : Value) (hord : x.Orderly Stage.awaits Call.suits)
    (hnothing : x.deedsOf x.run.begun = []) {between : List (Event Call)}
    (hbetween : ∀ e ∈ between, e.answerTo? x.run.begun = none) :
    let y := (x.step controller (.call (.load id))).play controller between
    Exchange.WaitsAt Stage.awaits Call.suits (fun _ => True) (fun _ => false) x.run.begun
      (.fetching id) y ∧ y.deedsOf x.run.begun = [.sends (.showVoucher id)] := by
  obtain ⟨hafter, hdeeds⟩ :
      Exchange.After Stage.awaits Call.suits (fun _ => True) (fun _ => false) _ _ _ ∧ _ :=
    hord.after_begin controller_keeps (fun _ _ => rfl) (.load id) fun _ => trivial
  obtain ⟨hwaits, hothers⟩ :=
    (hafter.waits rfl).play_others controller_keeps controller.tolerates_all hbetween
  exact ⟨hwaits, by rw [hothers, hdeeds, hnothing]; rfl⟩

/-- The reply to its query ends a load in one of the ways, and nothing is added to what it has done
then. -/
theorem load_ends {n : Nat} {id : Value} {y : FormExchange}
    (hwaits : y.WaitsAt Stage.awaits Call.suits (fun _ => True) (fun _ => false) n (.fetching id))
    (r : Reply) :
    let z := y.step controller (.answer n (.reply 0 r))
    ∃ ending, (∀ later, (z.play controller later).deedsOf n = y.deedsOf n ++ ending) ∧
      ∃ way, LoadEnds y.run.state id r way z.run.state ending := by
  have hopen : (⟨n, 0, .query (.showVoucher id)⟩ : Question) ∈ (Stage.fetching id).awaits n :=
    List.mem_singleton_self _
  have hans := Question.isAnsweredBy_reply n 0 (.showVoucher id) r
  obtain ⟨hafter, hown⟩ := hwaits.step_own controller_keeps hopen hans fun _ => trivial
  have hstate : (y.step controller (.answer n (.reply 0 r))).run.state =
      (y.run.state.fetched id r).state := by
    rw [hwaits.step_answer hopen hans]
    rfl
  obtain ⟨result, hends⟩ := (fetched_ends y.run.state id r).1
  obtain ⟨way, hway⟩ := fetched_loadEnds y.run.state id r
  refine ⟨_, fun later => ?_, way, hstate ▸ hway⟩
  rw [hafter.orderly.deedsOf_play controller_keeps (hafter.ends hends), hown]
  rfl

/-- However calls of a form and the answers to them were interleaved before, and come while it
waits, a load sends its query and ends with the reply in exactly one of three ways, after which it
does nothing more. The voucher that is granted is given, its seven fields replace the draft and
nothing is told; or the fault for which the reply stands is told once and given; or, without a reply
of the server, a failure that is no fault is given and nothing is told. The draft is changed in the
first way only, the key in none; the form no longer loads. An unknown path is always told as such,
and data of no voucher that are granted at any other path are always told as a fault of the
server. -/
theorem load_ends_in_one_way (s : Form) (before between : List (Event Call)) (id : Value)
    (r : Reply) :
    let x := (Exchange.start s).play controller before
    let y := (x.step controller (.call (.load id))).play controller between
    let z := y.step controller (.answer x.run.begun (.reply 0 r))
    (∀ e ∈ between, e.answerTo? x.run.begun = none) →
      (between = [] → y.run.state = { x.run.state with loading := true }) ∧
      ∃ ending,
        (∀ later, (z.play controller later).deedsOf x.run.begun =
          .sends (.showVoucher id) :: ending) ∧
        (∃! way, LoadEnds y.run.state id r way z.run.state ending) ∧
        z.run.state.loading = false ∧ z.run.state.key = y.run.state.key ∧
        (∀ body, r = .answered 404 body → ToldAs .notFound ending) ∧
        ∀ status body message data, r = .answered status body → status ≠ 404 →
          Envelope.IsIn ⟨true, message, data⟩ body → ¬ IsVoucher data → ToldAs .server ending := by
  intro x y z hbetween
  have hord : x.Orderly Stage.awaits Call.suits := Exchange.orderly_play controller_keeps s before
  have hnothing := Exchange.deedsOf_begun controller_keeps s before
  obtain ⟨hwaits, hsent⟩ := load_waits id hord hnothing hbetween
  obtain ⟨ending, hdeeds, way, hends⟩ := load_ends hwaits r
  refine ⟨?_, ending, fun later => ?_, ⟨way, hends, fun way' hends' => ?_⟩, hends.loading,
    hends.key, ?_, ?_⟩
  · rintro rfl
    exact congrArg (fun x : FormExchange => x.run.state) (Exchange.step_call (.load id))
  · rw [hdeeds, hsent]
    rfl
  · rw [hends.way_eq, hends'.way_eq]
  · rintro body rfl
    exact hends.toldAs_of_refuses (.unanswered _ rfl)
  · rintro status body message data rfl hfound hin hdata
    by_cases hserved : status < 500
    · refine hends.toldAs_of_refuses (.malformed message data ?_ hdata)
      rw [Query.envelopeOf_answered _ hfound hserved, Query.envelopeIn?_eq_some.mpr hin]
    · obtain ⟨e, henvelope, hkind⟩ :=
        (Query.showVoucher id).raises_server (Int.not_lt.mp hserved) body
      exact hkind ▸ hends.toldAs_of_refuses (.unanswered e henvelope)

/-- A list of codes holds no voucher. -/
theorem not_isVoucher_list (items : List Value) : ¬ IsVoucher (.list items) := by
  rintro ⟨fields, v, hrecord, -⟩
  cases hrecord

/-- The codes of another request are told as a fault of the server where a voucher was asked for,
though a field is edited before they come. -/
theorem codes_told_as_server_fault :
    let between : List (Event Call) := [.call (.setField "name" (.text "spring"))]
    let x : FormExchange := Exchange.start (create {} (.int 5) [] "" {})
    let y := (x.step controller (.call (.load (.int 5)))).play controller between
    let z := y.step controller (.answer 0 (.reply 0 (.answered 200 codeText)))
    (∀ e ∈ between, e.answerTo? 0 = none) ∧
      ∃ ending, z.deedsOf 0 = .sends (.showVoucher (.int 5)) :: ending ∧ ToldAs .server ending := by
  intro between x y z
  have hbetween : ∀ e ∈ between, e.answerTo? 0 = none := by
    intro e he
    rw [List.mem_singleton.mp he]
    rfl
  obtain ⟨-, ending, hdeeds, -, -, -, -, hserver⟩ := load_ends_in_one_way
    (create {} (.int 5) [] "" {}) [] between (.int 5) (.answered 200 codeText) hbetween
  refine ⟨hbetween, ending, hdeeds [], ?_⟩
  have hin := Query.envelopeIn?_eq_some.mp envelopeIn?_codeText
  exact hserver 200 codeText "" _ rfl (by decide) hin (not_isVoucher_list _)

/-- The same bytes at an unknown path are no fault of the server. -/
theorem not_server_fault_at_unknown_path :
    ¬ ∀ (s : Form) (id : Value) (status : Int) (body : List UInt8) (message : String)
        (data : Value),
      Envelope.IsIn ⟨true, message, data⟩ body → ¬ IsVoucher data →
      ∃ ending, (((Exchange.start s).step controller (.call (.load id))).step controller
          (.answer 0 (.reply 0 (.answered status body)))).deedsOf 0 =
            .sends (.showVoucher id) :: ending ∧ ToldAs .server ending := by
  intro hall
  have hin := Query.envelopeIn?_eq_some.mp envelopeIn?_codeText
  obtain ⟨ending, hdeeds, e, hkind, rfl⟩ := hall (create {} (.int 5) [] "" {}) (.int 5) 404
    codeText "" _ hin (not_isVoucher_list _)
  have hgiven : [Except.error (.fault (.told .notFound _ none (some 404)))] =
      [(.error (.fault e) : Except Failure Result)] :=
    congrArg (List.filterMap Deed.given?) hdeeds
  cases hgiven
  cases hkind

end Exchanges

end Form

end VoucherDesk
