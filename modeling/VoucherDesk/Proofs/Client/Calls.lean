import VoucherDesk.Client.Basic
import VoucherDesk.Client.Calls
import VoucherDesk.Proofs.Dialogue.Served
import VoucherDesk.Proofs.Failure
import VoucherDesk.Proofs.Json.Encoding
import VoucherDesk.Proofs.Reading.Lenient

/-!
# How calls of the client fail

Callers of the client are prepared for faults. A broken connection, an unknown path, a fault of
the server and bytes that hold no envelope all end a call with one. What does not is the data of
an option list that was granted: data that are no list, or an item that is no option, end the
call with the failure of the reader.
-/

namespace VoucherDesk

open Dialogue

/-- Whether a value is an option as the server lists it: a record with a text under its key. -/
def IsListed (v : Value) : Prop :=
  ∃ (fields : Fields) (key : String), v = .record fields ∧ fields.get? "key" = some (.text key)

/-- Whether data are an option list: data that count as false, or a list of options. -/
def IsListing (data : Value) : Prop :=
  data.isTruthy = false ∨ ∃ items, data = .list items ∧ ∀ v ∈ items, IsListed v

/-- Just the options that are listed can be read. -/
theorem OptionItem.exists_read {v : Value} : (∃ item, read v = .ok item) ↔ IsListed v := by
  constructor
  · rintro ⟨item, hitem⟩
    obtain ⟨fields, hfields, hitem⟩ := bind_eq_ok.mp hitem
    obtain ⟨⟨key, value⟩, hboth, -⟩ := bind_eq_ok.mp hitem
    obtain ⟨hkey, -⟩ := Reading.both_eq_ok.mp hboth
    obtain ⟨w, hget, htext⟩ := Reading.required_eq_ok.mp hkey
    obtain rfl := Reading.text_eq_ok.mp htext
    exact ⟨fields, key, Reading.fieldsOf_eq_ok.mp hfields, hget⟩
  · rintro ⟨fields, key, rfl, hget⟩
    obtain ⟨value, hvalue⟩ : ∃ value, Reading.field fields "value" .null .ok = .ok value := by
      unfold Reading.field
      cases fields.get? "value" with
      | none => exact ⟨_, rfl⟩
      | some w => exact ⟨w, rfl⟩
    have hkey : Reading.required fields "key" Reading.text = .ok key :=
      Reading.required_eq_ok.mpr ⟨.text key, hget, rfl⟩
    have hboth := Reading.both_eq_ok (p := (key, value)) |>.mpr ⟨hkey, hvalue⟩
    refine ⟨⟨key, value⟩, bind_eq_ok.mpr ⟨fields, rfl, bind_eq_ok.mpr ⟨(key, value), hboth, rfl⟩⟩⟩

namespace Query

/-- Listed options are read one by one, and a value that is none fails with no fault. -/
theorem readItems_faultsOnly {values : List Value} :
    FailsOnly Failure.IsFault (readItems values) ↔ ∀ v ∈ values, IsListed v := by
  induction values with
  | nil => exact ⟨fun _ => List.forall_mem_nil _, fun _ => failsOnly_ok _⟩
  | cons v rest ih =>
    rw [List.forall_mem_cons, ← OptionItem.exists_read]
    cases hread : OptionItem.read v with
    | ok item =>
      simp only [readItems, hread]
      rw [failsOnly_map, ih]
      exact ⟨fun h => ⟨⟨item, rfl⟩, h⟩, fun h => h.2⟩
    | error problems =>
      simp only [readItems, hread]
      rw [failsOnly_error]
      exact iff_of_false (by simp [Failure.IsFault]) (by simp)

/-- Texts are no options, so that a list of texts that is not empty fails with no fault. -/
theorem not_faultsOnly_texts {texts : List String} (h : texts ≠ []) :
    ¬ FailsOnly Failure.IsFault (readItems (texts.map .text)) := by
  obtain ⟨s, hs⟩ := List.exists_mem_of_ne_nil texts h
  intro hfaults
  obtain ⟨fields, key, hrecord, -⟩ :=
    readItems_faultsOnly.mp hfaults (.text s) (List.mem_map_of_mem hs)
  cases hrecord

/-- Data that count as true are a list, or they are not made of values, or they are made of texts,
which are the characters of a text or the names of a record. -/
theorem elements?_cases {data : Value} (htruthy : data.isTruthy = true) :
    (∃ items, data = .list items ∧ data.elements? = some items) ∨
      (∀ items, data ≠ .list items) ∧ (data.elements? = none ∨
        ∃ texts : List String, texts ≠ [] ∧ data.elements? = some (texts.map .text)) := by
  cases data with
  | list items => exact Or.inl ⟨items, rfl, rfl⟩
  | text s =>
    refine Or.inr ⟨by simp, Or.inr ⟨s.toList.map String.singleton, ?_, ?_⟩⟩
    · simpa [Value.isTruthy] using htruthy
    · simp [Value.elements?]
  | record fields =>
    refine Or.inr ⟨by simp, Or.inr ⟨fields.map Prod.fst, ?_, ?_⟩⟩
    · simpa [Value.isTruthy] using htruthy
    · simp [Value.elements?]
  | _ => exact Or.inr ⟨by simp, Or.inl rfl⟩

/-- Data are read as an option list, or fail with no fault, just as they are one. -/
theorem itemsOf_faultsOnly {data : Value} :
    FailsOnly Failure.IsFault (itemsOf data >>= readItems) ↔ IsListing data := by
  cases htruthy : data.isTruthy with
  | false =>
    have hnone : itemsOf data = .ok [] := by simp [itemsOf, htruthy]
    rw [hnone]
    exact ⟨fun _ => Or.inl htruthy, fun _ => failsOnly_ok _⟩
  | true =>
    have hlisting : IsListing data ↔ ∃ items, data = .list items ∧ ∀ v ∈ items, IsListed v := by
      simp [IsListing, htruthy]
    rw [hlisting]
    rcases elements?_cases htruthy with ⟨items, rfl, helements⟩ | ⟨hlist, hnone | hsome⟩
    · have hitems : itemsOf (.list items) = .ok items := by simp [itemsOf, htruthy, helements]
      rw [hitems]
      exact readItems_faultsOnly.trans (by simp)
    · have hitems : itemsOf data = .error .noOperation := by simp [itemsOf, htruthy, hnone]
      rw [hitems]
      refine iff_of_false (fun h => ?_) fun ⟨items, h, _⟩ => hlist items h
      obtain ⟨f, hf⟩ := failsOnly_error.mp h
      cases hf
    · obtain ⟨texts, hne, helements⟩ := hsome
      have hitems : itemsOf data = .ok (texts.map .text) := by simp [itemsOf, htruthy, helements]
      rw [hitems]
      exact iff_of_false (not_faultsOnly_texts hne) fun ⟨items, h, _⟩ => hlist items h

/-- A reply of the server, or the lack of one, that is no envelope is a fault. -/
theorem envelopeOf_faultsOnly (q : Query) {r : Reply} (h : ∀ e, r ≠ .lost e) :
    FailsOnly Failure.IsFault (q.envelopeOf r) := by
  cases r with
  | lost e => exact absurd rfl (h e)
  | broken text => exact failsOnly_error.mpr ⟨_, rfl⟩
  | answered status body =>
    simp only [envelopeOf]
    split
    · exact failsOnly_error.mpr ⟨_, rfl⟩
    · split
      · exact failsOnly_error.mpr ⟨_, rfl⟩
      · split
        · exact failsOnly_ok _
        · exact failsOnly_error.mpr ⟨_, rfl⟩

/-- The options in a reply are read or kept away by a fault just when the data of an envelope that
was granted are an option list. -/
theorem optionsOf_faultsOnly {r : Reply} (h : ∀ e, r ≠ .lost e) :
    FailsOnly Failure.IsFault (optionsOf r) ↔ ∀ envelope, listOptions.envelopeOf r = .ok envelope →
      envelope.success = true → IsListing envelope.data := by
  cases henvelope : listOptions.envelopeOf r with
  | error e =>
    obtain ⟨f, rfl⟩ := envelopeOf_faultsOnly _ h e henvelope
    simp only [optionsOf, henvelope]
    exact iff_of_true (failsOnly_error.mpr ⟨f, rfl⟩) (by simp)
  | ok envelope =>
    cases hsuccess : envelope.success with
    | false =>
      simp only [optionsOf, henvelope, hsuccess]
      exact iff_of_true (failsOnly_error.mpr ⟨_, rfl⟩) (by simp [hsuccess])
    | true =>
      have hread : FailsOnly Failure.IsFault (optionsOf r) ↔
          FailsOnly Failure.IsFault (itemsOf envelope.data >>= readItems) := by
        simp only [optionsOf, henvelope, hsuccess, Bool.not_true, Bool.false_eq_true, ite_false]
        cases itemsOf envelope.data with
        | error e => exact failsOnly_error.trans failsOnly_error.symm
        | ok values => exact failsOnly_map _
      rw [hread, itemsOf_faultsOnly]
      simp [hsuccess]

end Query

namespace Client

/-- Whether a call and the reply to it agree on what is to be read: a number that is shown can be
written into a path, the key of an option is a text, and the data of an option list that was granted
are one. -/
def Call.Reads : Call → Reply → Prop
  | .showVoucher id, _ => id.isWritten = true
  | .storeOption key _, _ => ∃ name, key = .text name
  | .listOptions, r => ∀ envelope, Query.listOptions.envelopeOf r = .ok envelope →
      envelope.success = true → IsListing envelope.data
  | _, _ => True

/-- A call with its reply. -/
def replied (call : Call) (r : Reply) : Exchange Unit Call Stage Result :=
  (Exchange.start ()).play controller [.call call, .answer 0 (.reply 0 r)]

/-- A call that asks a query ends with what it makes of the reply. -/
theorem hasEnded_of_asks {call : Call} {q : Query} {stage : Stage} {r : Reply}
    {result : Except Failure Result} (hbegin : begin call = .waitFor () (.query q) stage)
    (hresume : (resume stage (.reply 0 r)).next = .ends result) :
    HasEnded (replied call r) () result := by
  have hnext : (controller.begin () call).next = .waits [.query q] stage :=
    congrArg Turn.next hbegin
  exact (waitsAlone_begin hnext).ends (List.mem_singleton_self _) rfl hresume rfl

/-- A call that ends at once takes no reply. -/
theorem hasEnded_of_finish {call : Call} {r : Reply} {result : Except Failure Result}
    (hbegin : begin call = .finish () result) : HasEnded (replied call r) () result := by
  have hnext : (controller.begin () call).next = .ends result := congrArg Turn.next hbegin
  have hended := hasEnded_begin hnext
  have hsame : replied call r = (Exchange.start ()).step controller (.call call) := by
    refine Exchange.step_unasked fun q hq => ?_
    rw [hended.pending] at hq
    cases hq
  rw [hsame]
  exact hended

/-- Every call ends with one reply. It fails with nothing but a fault just when it and the reply
agree on what is to be read. -/
theorem faults_only_iff_reads (call : Call) {r : Reply} (h : ∀ e, r ≠ .lost e) :
    ∃ result, (replied call r).run.ended = [(0, result)] ∧
      (FailsOnly Failure.IsFault result ↔ call.Reads r) := by
  have hasked (q : Query) : FailsOnly Failure.IsFault ((q.envelopeOf r).map Result.envelope) :=
    (failsOnly_map _).mpr (q.envelopeOf_faultsOnly h)
  cases call with
  | showVoucher id =>
    cases hwritten : id.isWritten with
    | true =>
      have hbegin : begin (.showVoucher id) = askFor (.showVoucher id) := if_pos hwritten
      refine ⟨_, (hasEnded_of_asks hbegin rfl).ended, iff_of_true (hasked _) hwritten⟩
    | false =>
      have hbegin : begin (.showVoucher id) = .finish () (.error .unwritableNumber) :=
        if_neg (by simp [hwritten])
      refine ⟨_, (hasEnded_of_finish hbegin).ended,
        iff_of_false ?_ (by simp [Call.Reads, hwritten])⟩
      rw [failsOnly_error]
      rintro ⟨f, hf⟩
      cases hf
  | createVouchers payload =>
    exact ⟨_, (hasEnded_of_asks rfl rfl).ended, iff_of_true (hasked _) trivial⟩
  | updateVoucher payload =>
    exact ⟨_, (hasEnded_of_asks rfl rfl).ended, iff_of_true (hasked _) trivial⟩
  | listOptions =>
    refine ⟨_, (hasEnded_of_asks rfl rfl).ended, (failsOnly_map _).trans ?_⟩
    exact Query.optionsOf_faultsOnly h
  | storeOption key value =>
    cases key with
    | text name =>
      exact ⟨_, (hasEnded_of_asks rfl rfl).ended, iff_of_true (hasked _) ⟨name, rfl⟩⟩
    | _ =>
      refine ⟨_, (hasEnded_of_finish rfl).ended, iff_of_false ?_ ?_⟩
      · rw [failsOnly_error]
        rintro ⟨f, hf⟩
        cases hf
      · rintro ⟨name, hname⟩
        cases hname

/-- A broken connection keeps the options away with a fault. -/
theorem faults_only_of_broken :
    (∀ e, Reply.broken "timed out" ≠ .lost e) ∧
      ∃ result, (replied .listOptions (.broken "timed out")).run.ended = [(0, result)] ∧
        FailsOnly Failure.IsFault result := by
  have hbroken : ∀ e, Reply.broken "timed out" ≠ .lost e := by simp
  obtain ⟨result, hended, hiff⟩ := faults_only_iff_reads .listOptions hbroken
  refine ⟨hbroken, result, hended, hiff.mpr fun envelope henvelope => ?_⟩
  cases henvelope

/-- The values that a call is given. -/
def Call.arguments : Call → List Value
  | .showVoucher id => [id]
  | .createVouchers payload => [payload]
  | .updateVoucher payload => [payload]
  | .listOptions => []
  | .storeOption key value => [key, value]

/-- An option list with an item that has no key, as bytes. -/
def keylessText : List UInt8 :=
  "\x7b\"success\": true, \"data\": [\x7b\"value\": 1\x7d]\x7d".toUTF8.toList

/-- An option list that was granted, but with an item that has no key, ends the call with no
fault. -/
theorem not_faults_only_keyless :
    ¬ ∀ (call : Call) (r : Reply), (∀ v ∈ call.arguments, v.unsendable? = none) →
      (∀ e, r ≠ .lost e) →
      ∃ result, (replied call r).run.ended = [(0, result)] ∧ FailsOnly Failure.IsFault result := by
  intro hall
  have henvelope : Query.listOptions.envelopeOf (.answered 200 keylessText) =
      .ok ⟨true, "", .list [.record [("value", .int 1)]]⟩ := by
    refine Query.envelopeOf_toUTF8 _ (v := .record [("success", .bool true),
      ("data", .list [.record [("value", .int 1)]])]) (by decide) ?_ rfl
    simp only [Json.ofText?, String.reduceToList]
    rfl
  have hreply : ∀ e, Reply.answered 200 keylessText ≠ .lost e := by simp
  obtain ⟨result, hended, hfaults⟩ := hall .listOptions _ (List.forall_mem_nil _) hreply
  have hlast : (replied .listOptions (.answered 200 keylessText)).run.ended =
      [(0, (Query.optionsOf (.answered 200 keylessText)).map .options)] :=
    (hasEnded_of_asks rfl rfl).ended
  have hresult : result = (Query.optionsOf (.answered 200 keylessText)).map .options := by
    simpa using hended.symm.trans hlast
  rw [hresult, failsOnly_map, Query.optionsOf_faultsOnly hreply] at hfaults
  rcases hfaults _ henvelope rfl with hnone | ⟨items, hitems, hlisted⟩
  · cases hnone
  · cases hitems
    obtain ⟨fields, key, hrecord, hkey⟩ := hlisted _ (List.mem_singleton_self _)
    cases hrecord
    cases hkey

end Client

end VoucherDesk
