import VoucherDesk.Console.Desk
import VoucherDesk.Proofs.Dialogue.Served
import VoucherDesk.Proofs.Form.Editing
import VoucherDesk.Proofs.Json.Encoding
import VoucherDesk.Proofs.Voucher.Sendable

/-!
# Editing a voucher from the desk

The order to edit a voucher loads it, edits its fields as the arguments say and submits the
form in the turn of the reply. So it sends what a form sends on which the same edits are made
one by one: the revision that they make of the voucher.
-/

namespace VoucherDesk

open Dialogue

namespace Console.Desk

open Form (Shows SendsRevision ShowsEdited)

variable {d : Desk} {id : Int} {v : Voucher} {edits : List (String × Value)} {reply : Reply}

/-- The desk asks what a submission of its form asks. -/
theorem asks_follow_submit (d : Desk) (keeps : Bool) (f : Form) :
    (d.follow keeps f.submit).asks = f.submit.asks := by
  cases Form.submit_begins f with
  | fetches id other next state => cases other
  | sends v q submits free built query next state => simp only [follow, Turn.asks, next]
  | ends r next edits =>
    simp only [follow, Turn.asks, next]
    rfl

/-- Once the voucher is there the desk asks what a submission of the form asks that shows it under
the edits. -/
theorem asks_opening (hshows : Shows (.int id) reply v)
    (hnames : ∀ e ∈ edits, e.1 ∈ Draft.defaults.names) (d : Desk) :
    (d.resume (.opening edits (.fetching (.int id))) (.reply 0 reply)).asks =
      { d.form with loading := false, inputs := Draft.showing v edits }.submit.asks := by
  have hedited : edits.foldlM (fun f e => f.setField e.1 e.2)
      { d.form with loading := false, inputs := Form.inputsOf v } =
        .ok { d.form with loading := false, inputs := Draft.showing v edits } :=
    Form.foldlM_setField hnames
  simp only [resume, Form.resume, Form.fetched_of_shows hshows, followOpening, Turn.finish,
    fillAndSubmit, hedited]
  exact asks_follow_submit _ _ _

/-- The order to edit a voucher sends the revision that its edits make of the voucher that is
shown. -/
theorem edit_sendsRevision (d : Desk) (hnames : ∀ e ∈ edits, e.1 ∈ Draft.defaults.names)
    (hmoments : HasNoEarlyMoment edits) (hshows : Shows (.int id) reply v) :
    SendsRevision id v edits 0 (((Exchange.start d).step controller
      (.call (.edit id edits))).asksAt controller (.answer 0 (.reply 0 reply))) := by
  have hbegin : (controller.begin d (.edit id edits)).next =
      .waits [.query (.showVoucher (.int id))] (.opening edits (.fetching (.int id))) := rfl
  have hstep := (waitsAlone_begin hbegin).step_answer (c := controller) (a := .reply 0 reply)
    (List.mem_singleton_self _) rfl
  have hasks : (controller.resume (controller.begin d (.edit id edits)).state
      (.opening edits (.fetching (.int id))) (.reply 0 reply)).asks = _ :=
    asks_opening hshows hnames _
  rw [Exchange.asksAt_continues hstep, hasks]
  exact (⟨rfl, rfl⟩ : ShowsEdited id v edits _).sendsRevision rfl hmoments 0

/-- The arguments of the tool make edits of fields that a draft has. -/
theorem edits_of_invocation {texts : List String} {i : Invocation}
    (h : ToolName.edit.invocation texts = .ok i) :
    ∃ id edits, i.order = .edit id edits ∧ ∀ e ∈ edits, e.1 ∈ Draft.defaults.names := by
  obtain ⟨r, -, h⟩ := bind_eq_ok.mp h
  cases h
  refine ⟨_, _, rfl, fun e he => ?_⟩
  obtain ⟨⟨name, field⟩, hname, he⟩ := List.mem_filterMap.mp he
  obtain ⟨value, -, rfl⟩ := Option.map_eq_some_iff.mp he
  have hfields : ∀ p ∈ ["name", "quota", "is_gift", "max_uses", "valid_from", "valid_until"].map
      fun n => (n, n), p.2 ∈ Draft.defaults.names := by decide
  exact hfields _ hname

/-- Editing a voucher changes what is edited and nothing else. On a form, or by an order of the
tool, whose arguments make such edits, the voucher that was loaded is sent as the edits revise it,
just when the revision obeys the rules of the ranges and of the window. Within the limits of numbers
that can be written the client sends it. Without edits it is the voucher as it was, and a count
plays no part in it. -/
theorem edits_change_nothing_else {edits : List (String × Value)}
    (hnames : ∀ e ∈ edits, e.1 ∈ Draft.defaults.names) (hmoments : HasNoEarlyMoment edits)
    (id : Int) :
    (∀ (settings : Settings) (hooks : List Hook) (directory : String) (files : FileTree)
      (before : List (Event Form.Call)) (n : Nat) (shown : Value) (reply : Reply) (v : Voucher),
      let x := Form.played settings (.int id) hooks directory files before
      let y := Form.played settings (.int id) hooks directory files
        (before ++ .answer n (.reply 0 reply) :: Form.editing edits)
      ⟨n, 0, .query (.showVoucher shown)⟩ ∈ x.pending → x.run.state.submitting = false →
      Shows shown reply v →
      SendsRevision id v edits y.run.begun (y.asksAt Form.controller (.call .submit))) ∧
    (∀ (d : Desk) (reply : Reply) (v : Voucher), Shows (.int id) reply v →
      SendsRevision id v edits 0 (((Exchange.start d).step controller
        (.call (.edit id edits))).asksAt controller (.answer 0 (.reply 0 reply)))) ∧
    (∀ (texts : List String) (i : Invocation), ToolName.edit.invocation texts = .ok i →
      ∃ number made, i.order = .edit number made ∧ ∀ e ∈ made, e.1 ∈ Draft.defaults.names) ∧
    (∀ (v : Voucher) (r : Revision) (c : Client) (address : Address),
      Revises v edits r → (Revision.ofVoucher v).IsWritten →
      (∀ e ∈ edits, e.2.IsWithinLimits) → Value.isWrittenInt id = true →
      Address.join c.base "/api/redemption/" = .ok address →
      c.request (.updateVoucher (.record (r.body id))) =
        .ok ⟨.put, address, .record (r.body id), c.authorization address, c.timeout⟩) ∧
    (∀ (v : Voucher) (r : Revision), Revises v [] r ↔ r = .ofVoucher v) ∧
    (∀ (v : Voucher) (count : Int) (r : Revision),
      Revises { v with count } edits r ↔
        Revises v (edits.filter fun e => e.1 ≠ "count") r) := by
  refine ⟨?_, fun d reply v => edit_sendsRevision d hnames hmoments,
    fun texts i => edits_of_invocation, ?_, fun _ _ => revises_nil,
    fun _ count _ => revises_count count⟩
  · intro settings hooks directory files before n shown reply v x y hasked hfree hshows
    obtain ⟨hedited, hfree'⟩ := Form.showsEdited_played settings id hooks directory files before
      hasked hfree hshows hnames
    rw [Exchange.asksAt_call]
    exact hedited.sendsRevision hfree' hmoments _
  · intro v r c address hrevises hloaded hedits hid haddress
    exact (hrevises.isWritten hloaded hedits).request_eq hid haddress

/-- What a server says that shows a gift voucher. -/
def giftText : List UInt8 :=
  ("\x7b\"success\":true,\"data\":\x7b\"name\":\"launch\",\"quota\":1000,"
    ++ "\"is_gift\":true,\"max_uses\":3\x7d\x7d").toUTF8.toList

set_option maxRecDepth 2000 in
/-- The reply with which that is said shows the voucher. -/
theorem shows_giftText (shown : Value) :
    Shows shown (.answered 200 giftText)
      { name := "launch", quota := 1000, kind := .gift 3 } := by
  refine ⟨"", [("name", .text "launch"), ("quota", .int 1000), ("is_gift", .bool true),
    ("max_uses", .int 3)], ?_, rfl⟩
  refine Query.envelopeOf_toUTF8 _ (v := .record [("success", .bool true), ("data", .record
    [("name", .text "launch"), ("quota", .int 1000), ("is_gift", .bool true),
      ("max_uses", .int 3)])]) (by decide) ?_ rfl
  simp only [Json.ofText?, String.reduceAppend, String.reduceToList]
  rfl

/-- A gift voucher that is made a standard one with another quota loses its use limit and keeps the
rest. -/
theorem edits_change_gift_to_standard :
    let edits : List (String × Value) := [("quota", .text " 2500 "), ("is_gift", .bool false)]
    let put : Query := .updateVoucher (.record [("name", .text "launch"), ("quota", .int 2500),
      ("is_gift", .bool false), ("max_uses", .int (-1)), ("valid_from", .int 0),
      ("valid_until", .int 0), ("id", .int 5)])
    let y := Form.played {} (.int 5) [] "" {}
      ([.call .openForm] ++ .answer 0 (.reply 0 (.answered 200 giftText)) :: Form.editing edits)
    y.asksAt Form.controller (.call .submit) = [⟨y.run.begun, 0, .query put⟩] ∧
      ((Exchange.start (Desk.create {} false {})).step controller
        (.call (.edit 5 edits))).asksAt controller (.answer 0 (.reply 0 (.answered 200 giftText))) =
          [⟨0, 0, .query put⟩] := by
  intro edits put y
  have hnames : ∀ e ∈ edits, e.1 ∈ Draft.defaults.names := by decide
  have hmoments : HasNoEarlyMoment edits := by
    intro e he t ht
    obtain rfl | rfl : e = _ ∨ e = _ := by simpa [edits] using he
    · cases ht
    · cases ht
  obtain ⟨hform, hdesk, -⟩ := edits_change_nothing_else hnames hmoments 5
  have hrevises : Revises { name := "launch", quota := 1000, kind := .gift 3 } edits
      ⟨"launch", 2500, false, -1, 0, 0⟩ := ⟨rfl, rfl, rfl, rfl, rfl, rfl⟩
  have hobeys : Revision.Obeys ⟨"launch", 2500, false, -1, 0, 0⟩ :=
    ⟨by decide, by decide, by decide, by decide, by decide⟩
  exact ⟨(hform {} [] "" {} [.call .openForm] 0 (.int 5) _ _ (List.mem_singleton_self _) rfl
      (shows_giftText _)).body _ hrevises hobeys,
    (hdesk (Desk.create {} false {}) _ _ (shows_giftText _)).body _ hrevises hobeys⟩

end Console.Desk

end VoucherDesk
