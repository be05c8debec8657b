import VoucherDesk.Proofs.Dialogue.Told
import VoucherDesk.Proofs.Form.Exclusion
import VoucherDesk.Proofs.Options.Server
import VoucherDesk.Proofs.Options.Snapshots
import VoucherDesk.Proofs.Options.Submission

/-!
# Granted requests

A reply grants what was asked if its status is neither that of an unknown path nor that of a fault
of the server, and its bytes hold an envelope that says so; every other reply stands for a fault
whose kind depends on it. A form and the options report a success only if every request that
they sent for it was answered with such a reply.
-/

namespace VoucherDesk

open Dialogue

/-- Whether bytes hold an envelope: they denote a value, and the value reads as the envelope. -/
def Envelope.IsIn (e : Envelope) (body : List UInt8) : Prop :=
  ∃ v, Json.ofBytes? body = some v ∧ Envelope.read v = .ok e

/-- A reply that grants what was asked. -/
inductive Reply.Grants : Reply → Prop where
  | granted {status : Int} {body : List UInt8} {e : Envelope} (found : status ≠ 404)
      (served : status < 500) (holds : e.IsIn body) (success : e.success = true) :
      Grants (.answered status body)

namespace Query

variable {q : Query} {status : Int} {body : List UInt8}

/-- Whether a reply to a query stands for a fault of a kind. -/
def Raises (q : Query) (r : Reply) (kind : FaultKind) : Prop :=
  ∃ fault, q.envelopeOf r = .error (.fault fault) ∧ fault.kind = kind

/-- The kind of the fault of bytes that hold no envelope. -/
def malformedKind (status : Int) : FaultKind :=
  if 200 ≤ status ∧ status ≤ 299 then .server else .application

/-- The envelope that is found in bytes is the one that they hold. -/
theorem envelopeIn?_eq_some {e : Envelope} : envelopeIn? body = some e ↔ e.IsIn body := by
  unfold envelopeIn? Envelope.IsIn
  cases Json.ofBytes? body with
  | none => simp
  | some v => cases hread : Envelope.read v <;> simp [hread, Except.toOption]

/-- Bytes in which no envelope is found hold none. -/
theorem envelopeIn?_eq_none : envelopeIn? body = none ↔ ∀ e : Envelope, ¬ e.IsIn body := by
  simp only [Option.eq_none_iff_forall_ne_some, ne_eq, envelopeIn?_eq_some]

theorem raises_broken (q : Query) (text : String) : q.Raises (.broken text) .transport :=
  ⟨_, rfl, rfl⟩

/-- An unknown path is one whatever the bytes are. -/
theorem raises_notFound (q : Query) (body : List UInt8) :
    q.Raises (.answered 404 body) .notFound := ⟨_, rfl, rfl⟩

/-- A fault of the server is one whatever the bytes are. -/
theorem raises_server (q : Query) (h : 500 ≤ status) (body : List UInt8) :
    q.Raises (.answered status body) .server := by
  have hfound : status ≠ 404 := by omega
  refine ⟨.told .server ("Server error: HTTP " ++ toString status) none (some status), ?_, rfl⟩
  simp only [envelopeOf, hfound, h, ite_true, ite_false]

/-- Any other reply is decided by its bytes. -/
theorem envelopeOf_answered (q : Query) (hfound : status ≠ 404) (hserved : status < 500)
    (body : List UInt8) :
    q.envelopeOf (.answered status body) = match envelopeIn? body with
      | some e => .ok e
      | none => .error (.fault (malformed status)) := by
  have hbelow : ¬ 500 ≤ status := by omega
  exact (if_neg hfound).trans (if_neg hbelow)

/-- The kind of a fault of bytes without an envelope depends on whether the status is one of
success. -/
theorem kind_malformed (status : Int) : (malformed status).kind = malformedKind status := by
  unfold malformed malformedKind isSuccess
  by_cases h : 200 ≤ status ∧ status ≤ 299
  · simp [h, Fault.kind]
  · rw [if_neg h, if_neg (by simpa using h)]
    rfl

/-- A reply that brings an envelope has a status that is looked past, and bytes that hold it. -/
theorem envelopeOf_eq_ok {e : Envelope} {r : Reply} :
    q.envelopeOf r = .ok e ↔
      ∃ status body, r = .answered status body ∧ status ≠ 404 ∧ status < 500 ∧ e.IsIn body := by
  constructor
  · intro h
    cases r with
    | lost e => cases h
    | broken text => cases h
    | answered status body =>
      have hfound : status ≠ 404 := by
        rintro rfl
        cases h
      have hserved : status < 500 := by
        refine lt_of_not_ge fun hge => ?_
        obtain ⟨fault, hfault, -⟩ := q.raises_server hge body
        cases hfault.symm.trans h
      rw [envelopeOf_answered q hfound hserved] at h
      cases hin : envelopeIn? body with
      | none => simp [hin] at h
      | some e' =>
        obtain rfl : e' = e := by simpa [hin] using h
        exact ⟨status, body, rfl, hfound, hserved, envelopeIn?_eq_some.mp hin⟩
  · rintro ⟨status, body, rfl, hfound, hserved, hin⟩
    rw [envelopeOf_answered q hfound hserved, envelopeIn?_eq_some.mpr hin]

/-- Bytes that hold no envelope are a fault, of a kind that depends on the status. -/
theorem raises_malformed (q : Query) (hfound : status ≠ 404) (hserved : status < 500)
    (h : ∀ e : Envelope, ¬ e.IsIn body) :
    q.Raises (.answered status body) (malformedKind status) := by
  refine ⟨malformed status, ?_, kind_malformed status⟩
  rw [envelopeOf_answered q hfound hserved, envelopeIn?_eq_none.mpr h]

/-- A reply whose envelope says that what was asked is granted grants it. -/
theorem grants_of_success {e : Envelope} {r : Reply} (h : q.envelopeOf r = .ok e)
    (hsuccess : e.success = true) : r.Grants := by
  obtain ⟨status, body, rfl, hfound, hserved, hin⟩ := envelopeOf_eq_ok.mp h
  exact .granted hfound hserved hin hsuccess

end Query

namespace Dialogue

/-- Whether a question asks the server to change something. -/
def Question.isWrite (q : Question) : Bool :=
  match q.ask with
  | .query q => q.method != .get
  | _ => false

/-- Answers among which there is one to a write, and of which all those to writes grant them. -/
structure Granted (told : List (Question × Answer)) : Prop where
  some : ∃ p ∈ told, p.1.isWrite = true
  all : ∀ p ∈ told, p.1.isWrite = true → ∃ r, p.2 = .reply p.1.place r ∧ r.Grants

/-- Whether a call has sent writes, all of which have been answered and granted. -/
structure Exchange.WritesGranted {State Call Stage Result : Type}
    (x : Exchange State Call Stage Result) (number : Nat) : Prop where
  answered : ∀ q ∈ x.askedBy number, q.isWrite = true → ∃ a, (q, a) ∈ x.toldTo number
  granted : Granted (x.toldTo number)

variable {told more : List (Question × Answer)}

/-- Answers to questions that ask for no change leave granted what was. -/
theorem Granted.append (h : Granted told) (hmore : ∀ p ∈ more, p.1.isWrite = false) :
    Granted (told ++ more) where
  some := by
    obtain ⟨p, hp, hwrite⟩ := h.some
    exact ⟨p, List.mem_append_left _ hp, hwrite⟩
  all := by
    intro p hp hwrite
    rcases List.mem_append.mp hp with hold | hnew
    · exact h.all p hold hwrite
    · exact absurd ((hmore p hnew).symm.trans hwrite) Bool.false_ne_true

/-- A single write that is granted. -/
theorem granted_singleton {q : Question} {r : Reply} (hwrite : q.isWrite = true)
    (hr : r.Grants) : Granted [(q, .reply q.place r)] where
  some := ⟨_, List.mem_singleton_self _, hwrite⟩
  all := by
    intro p hp _
    obtain rfl := List.mem_singleton.mp hp
    exact ⟨r, rfl, hr⟩

/-- What is told to a call at a stage are answers to what the stage awaits. -/
theorem fst_mem_of_mem_answersTo {asked : List Question} {n : Nat} {a : Answer}
    {p : Question × Answer} (h : p ∈ answersTo asked n a) :
    p.1 ∈ asked ∧ p.1.isAnsweredBy n a = true ∧ p.2 = a := by
  obtain ⟨q, hq, rfl⟩ := List.mem_map.mp h
  exact ⟨(List.mem_filter.mp hq).1, (List.mem_filter.mp hq).2, rfl⟩

/-- An answer to a single question is told as one to it. -/
theorem answersTo_singleton {n : Nat} {ask : Ask} {a : Answer}
    (h : ∃ q ∈ questions n [ask], q.isAnsweredBy n a = true) :
    answersTo (questions n [ask]) n a = [(⟨n, 0, ask⟩, a)] := by
  obtain ⟨q, hq, hans⟩ := h
  rw [questions_singleton, List.mem_singleton] at hq
  subst hq
  simp [answersTo, hans]

/-- An answer to a single question that asks for no change tells of no write. -/
theorem isWrite_answersTo_singleton {n : Nat} (ask : Ask)
    (hask : (⟨n, 0, ask⟩ : Question).isWrite = false)
    (a : Answer) : ∀ p ∈ answersTo (questions n [ask]) n a, p.1.isWrite = false := by
  intro p hp
  have hmem := (fst_mem_of_mem_answersTo hp).1
  rw [questions_singleton, List.mem_singleton] at hmem
  rw [hmem, hask]

end Dialogue

namespace Form

/-- What a call of a form knows of the answers to it at a stage. -/
def Stage.known (_n : Nat) (told : List (Question × Answer)) : Stage → Prop
  | .fetching _ => True
  | .saving _ q => told = [] ∧ q.method ≠ .get
  | _ => Granted told

/-- What a call of a form has earned that reports a success. -/
def earned (_n : Nat) (told : List (Question × Answer)) (r : Except Failure Result) : Prop :=
  r = .ok (.accepted true) → Granted told

/-- A voucher is saved with a query that changes something. -/
theorem method_saveQuery {f : Form} {v : Voucher} {q : Query} (h : f.saveQuery v = .ok q) :
    q.method ≠ .get := by
  unfold saveQuery at h
  split at h
  · cases hpayload : v.updatePayload with
    | error e =>
      rw [hpayload] at h
      cases h
    | ok payload =>
      rw [hpayload] at h
      cases h
      simp [Query.updateVoucher]
  · cases h
    simp [Query.createVouchers]

/-- No call of a form reports a success with its first turn. -/
theorem begin_ne_accepted {f : Form} {call : Call} {r : Except Failure Result}
    (h : (f.begin call).next = .ends r) : r ≠ .ok (.accepted true) := by
  rintro rfl
  cases call with
  | openForm =>
    simp only [Form.begin] at h
    split at h <;> cases h
  | load id => cases h
  | reset => cases h
  | setField name value =>
    simp only [Form.begin] at h
    split at h <;> cases h
  | setKey value => cases h
  | build =>
    have hbuild : f.build.map Result.voucher = .ok (.accepted true) := by
      simpa [Form.begin, Turn.finish] using h
    cases hb : f.build with
    | error e => simp [hb, Except.map] at hbuild
    | ok v => simp [hb, Except.map] at hbuild
  | submit =>
    simp only [Form.begin, Form.submit] at h
    split at h
    · cases h
    · split at h
      · split at h <;> cases h
      · cases h
      · split at h <;> cases h

/-- A load reports no success of a submission. -/
theorem fetched_ne_accepted {f : Form} {id : Value} {reply : Reply} {r : Except Failure Result}
    (h : (f.fetched id reply).next = .ends r) : r ≠ .ok (.accepted true) := by
  rintro rfl
  unfold fetched at h
  dsimp only at h
  split at h
  · cases h
  · cases h
  · split at h <;> cases h

/-- A submission goes on after its reply only if the envelope says that the voucher was saved. -/
theorem saved_cases (f : Form) (v : Voucher) (q : Query) (r : Reply) :
    (∃ e, q.envelopeOf r = .ok e ∧ e.success = true) ∨
      ∃ result, (f.saved v q r).next = .ends result ∧ result ≠ .ok (.accepted true) := by
  unfold saved
  dsimp only
  split
  · exact Or.inr ⟨_, rfl, by simp [Except.map]⟩
  · exact Or.inr ⟨_, rfl, by simp [Except.map]⟩
  · next e henvelope =>
    cases hsuccess : e.success with
    | true => exact Or.inl ⟨e, henvelope, hsuccess⟩
    | false => exact Or.inr ⟨_, rfl, by simp [Except.map]⟩

/-- A submission whose writes are granted may go on in every way. -/
theorem GoesOn.leaves {f : Form} {t : FormTurn} (h : GoesOn f t) {n : Nat}
    {told : List (Question × Answer)} (hgranted : Granted told) :
    t.Leaves (Stage.known n told) (earned n told) := by
  cases h with
  | asks hook args stage next ask submission state =>
    simp only [Turn.Leaves, next]
    cases stage with
    | fetching id => cases ask
    | saving v q => cases ask
    | refreshing s => exact hgranted
    | closing s => exact hgranted
    | confirming name codes => exact hgranted
  | ends r next submitting same =>
    simp only [Turn.Leaves, next]
    exact fun _ => hgranted

/-- The reply to the query of a submission decides whether it can still succeed. -/
theorem saved_leaves (f : Form) (v : Voucher) {q : Query} (hq : q.method ≠ .get) (r : Reply)
    (n : Nat) :
    (f.saved v q r).Leaves (Stage.known n [(⟨n, 0, .query q⟩, .reply 0 r)])
      (earned n [(⟨n, 0, .query q⟩, .reply 0 r)]) := by
  rcases saved_cases f v q r with ⟨e, henvelope, hsuccess⟩ | ⟨result, hnext, hne⟩
  · have hwrite : (⟨n, 0, .query q⟩ : Question).isWrite = true := by
      simpa [Question.isWrite] using hq
    have hgranted : Granted [((⟨n, 0, .query q⟩ : Question), Answer.reply 0 r)] :=
      granted_singleton hwrite (Query.grants_of_success henvelope hsuccess)
    rcases saved_goesOn f v q r with h | h
    · exact h.leaves hgranted
    · exact h.leaves hgranted
  · simp only [Turn.Leaves, hnext]
    exact fun h => absurd h hne

/-- A call of a form that reports a success knows that its writes were granted. -/
theorem controller_knows :
    controller.Knows Stage.awaits Call.suits Stage.known earned where
  begin := by
    intro f call n
    show (f.begin call).Leaves _ _
    cases begin_begins f call with
    | fetches id other next state =>
      simp only [Turn.Leaves, next]
      trivial
    | sends v q submits free built query next state =>
      simp only [Turn.Leaves, next]
      exact ⟨rfl, method_saveQuery query⟩
    | ends r next edits =>
      simp only [Turn.Leaves, next]
      exact fun h => absurd h (begin_ne_accepted next)
  resume := by
    intro f call stage n told a _ hknown hans
    show (f.resume stage a).Leaves _ _
    -- After a hook the writes are granted as they were before it.
    have hhook (hgranted : Granted told) (hwrite : (⟨n, 0, stage.ask⟩ : Question).isWrite = false)
        (hgoes : GoesOn f (f.resume stage a)) :
        (f.resume stage a).Leaves (Stage.known n (told ++ answersTo (stage.awaits n) n a))
          (earned n (told ++ answersTo (stage.awaits n) n a)) :=
      hgoes.leaves (hgranted.append (isWrite_answersTo_singleton _ hwrite a))
    have hfits := (fits_of_singleton hans).1
    cases stage with
    | fetching id =>
      cases a with
      | reply place r =>
        obtain ⟨result, hnext⟩ := (fetched_ends f id r).1
        have hturn : (f.resume (.fetching id) (.reply place r)).next = .ends result := hnext
        simp only [Turn.Leaves, hturn]
        exact fun h => absurd h (fetched_ne_accepted hnext)
      | ended r => cases hfits
      | line text => cases hfits
      | resumed => cases hfits
    | saving v q =>
      obtain ⟨rfl, hmethod⟩ := hknown
      cases a with
      | reply place r =>
        obtain rfl : place = 0 := by simpa [Answer.fits, Stage.ask] using hfits
        rw [Stage.awaits, answersTo_singleton hans]
        exact saved_leaves f v hmethod r n
      | ended r => cases hfits
      | line text => cases hfits
      | resumed => cases hfits
    | refreshing s =>
      cases a with
      | ended r => exact hhook hknown rfl ((GoesOn.callClose f s).afterHook .refresh r)
      | reply place r => cases hfits
      | line text => cases hfits
      | resumed => cases hfits
    | closing s =>
      cases a with
      | ended r => exact hhook hknown rfl ((GoesOn.offerCodes f s).afterHook .close r)
      | reply place r => cases hfits
      | line text => cases hfits
      | resumed => cases hfits
    | confirming name codes =>
      cases a with
      | ended r => exact hhook hknown rfl (GoesOn.afterConfirm f name codes r)
      | reply place r => cases hfits
      | line text => cases hfits
      | resumed => cases hfits

end Form

namespace Batch

variable {b : Batch} {n : Nat} {told : List (Question × Answer)}

/-- Whether the answers to a call are replies that its batch has taken at their places. -/
def HasTaken (b : Batch) (n : Nat) (told : List (Question × Answer)) : Prop :=
  ∀ p ∈ told, ∃ place item r, p = (⟨n, place, .query (.storeOption item)⟩, .reply place r) ∧
    b.items[place]? = some item ∧ b.replies[place]? = some (some r)

/-- A reply that is told is taken. -/
theorem HasTaken.put (h : b.HasTaken n told) (place : Nat) (r : Reply) :
    (b.put place r).HasTaken n
      (told ++ answersTo (b.openQuestions n) n (.reply place r)) := by
  intro p hp
  rw [put_items]
  rcases List.mem_append.mp hp with hold | hnew
  · obtain ⟨i, item, reply, rfl, hitem, hreply⟩ := h p hold
    refine ⟨i, item, reply, rfl, hitem, ?_⟩
    by_cases hopen : b.isOpen place = true
    · have hne : i ≠ place := by
        rintro rfl
        simp [isOpen, hreply] at hopen
      rw [getElem?_put hopen, if_neg hne, hreply]
    · have hsame : b.put place r = b := by
        unfold Batch.put
        split
        · next hnone => simp [isOpen, hnone] at hopen
        · rfl
      rw [hsame, hreply]
  · obtain ⟨hq, hans, ha⟩ := fst_mem_of_mem_answersTo hnew
    obtain ⟨hmem, hopen⟩ := List.mem_filter.mp hq
    obtain ⟨item, hitem, hask⟩ := getElem?_of_mem_questions hmem
    obtain ⟨r', hr'⟩ := reply_of_isAnsweredBy hmem hans
    obtain ⟨rfl, rfl⟩ : place = p.1.place ∧ r = r' := by simpa using hr'
    refine ⟨p.1.place, item, r, ?_, hitem, ?_⟩
    · refine Prod.ext ?_ ha
      have hnumber := number_of_mem_questions hmem
      cases hp1 : p.1 with
      | mk number place ask =>
        rw [hp1] at hnumber hask
        simp only at hnumber hask ⊢
        rw [hnumber, hask]
    · rw [getElem?_put hopen, if_pos rfl]

/-- A batch is saved only if every reply that it has taken says that its option was stored. -/
theorem grants_of_verdict {effects : List Effect} (h : verdict b.results = (effects, none)) :
    b.Grants := by
  intro i item r hitem hreply
  have hmem : (item.key, (Query.storeOption item).envelopeOf r) ∈ b.results :=
    List.mem_filterMap.mpr ⟨(item, some r),
      List.mem_of_getElem? (List.getElem?_zip_eq_some.mpr ⟨hitem, hreply⟩), rfl⟩
  unfold verdict at h
  split at h
  · cases h
  · cases h
  · next hfailure =>
    dsimp only at h
    split at h
    · next hrefused =>
      have hfound := List.findSome?_eq_none_iff.mp hfailure _ hmem
      have hkept := List.filterMap_eq_nil_iff.mp hrefused _ hmem
      cases henvelope : (Query.storeOption item).envelopeOf r with
      | error e => simp [henvelope] at hfound
      | ok e =>
        refine ⟨e, rfl, ?_⟩
        simpa [henvelope] using hkept
    · split at h <;> cases h

/-- The writes of a call whose batch is saved were granted. -/
theorem HasTaken.granted (h : b.HasTaken n told) (hsome : told ≠ []) {effects : List Effect}
    (hsaved : verdict b.results = (effects, none)) : Granted told where
  some := by
    obtain ⟨p, hp⟩ := List.exists_mem_of_ne_nil told hsome
    obtain ⟨place, item, r, rfl, -, -⟩ := h p hp
    exact ⟨_, hp, rfl⟩
  all := by
    intro p hp _
    obtain ⟨place, item, r, rfl, hitem, hreply⟩ := h p hp
    obtain ⟨e, henvelope, hsuccess⟩ := grants_of_verdict hsaved place item r hitem hreply
    exact ⟨r, rfl, Query.grants_of_success henvelope hsuccess⟩

/-- After an answer that a call awaits it has been told something. -/
theorem append_answersTo_ne_nil {asked : List Question} {a : Answer}
    (h : ∃ q ∈ asked, q.isAnsweredBy n a = true) : told ++ answersTo asked n a ≠ [] := by
  obtain ⟨q, hq, hans⟩ := h
  exact List.ne_nil_of_mem (List.mem_append_right _
    (List.mem_map_of_mem (List.mem_filter.mpr ⟨hq, hans⟩)))

end Batch

namespace Submission

/-- What a submission knows of the answers to it at a stage. -/
def Stage.known (n : Nat) (told : List (Question × Answer)) : Stage → Prop
  | .collecting b => b.HasTaken n told
  | .settling b => b.HasTaken n told ∧ told ≠ []
  | .refreshing => Granted told

/-- What a submission has earned that is saved. -/
def earned (_n : Nat) (told : List (Question × Answer)) (r : Except Failure Outcome) : Prop :=
  r = .ok .saved → Granted told

/-- A submission that is saved knows that its writes were granted. -/
theorem controller_knows :
    controller.Knows Stage.awaits (fun _ _ => True) Stage.known earned where
  begin := by
    intro s call n
    show (s.begin call).Leaves _ _
    cases begin_begins s call with
    | busy loading turn =>
      rw [turn]
      exact fun h => absurd h (by simp)
    | declines free r next state unsaved =>
      simp only [Turn.Leaves, next]
      exact fun h => absurd h unsaved
    | sends free items found turn =>
      rw [turn]
      exact List.forall_mem_nil _
  resume := by
    intro s call stage n told a _ hknown hans
    show (s.resume stage a).Leaves _ _
    cases stage with
    | collecting b =>
      obtain ⟨q, hq, hqa⟩ := hans
      obtain ⟨r, rfl⟩ := Batch.reply_of_isAnsweredBy (List.mem_filter.mp hq).1 hqa
      have htaken := Batch.HasTaken.put hknown q.place r
      show (b.collect s Stage.collecting Stage.settling q.place r).Leaves _ _
      cases hcomplete : (b.put q.place r).isComplete with
      | true =>
        rw [Batch.collect_of_complete hcomplete]
        exact ⟨htaken, Batch.append_answersTo_ne_nil ⟨q, hq, hqa⟩⟩
      | false =>
        rw [Batch.collect_of_incomplete hcomplete]
        exact htaken
    | settling b =>
      have hfits := (fits_of_singleton hans).1
      cases a with
      | resumed =>
        show (b.settle s.finish s.saved).Leaves _ _
        obtain ⟨htaken, hsome⟩ := hknown
        cases hverdict : Batch.verdict b.results with
        | mk effects verdict =>
          cases verdict with
          | some r =>
            rw [Batch.settle_of_some hverdict]
            exact fun h => absurd h (Batch.verdict_ne_saved hverdict)
          | none =>
            have hgranted := (htaken.granted hsome hverdict).append
              (isWrite_answersTo_singleton (n := n) .pause rfl .resumed)
            rw [Batch.settle_of_none hverdict, Turn.leaves_after, Submission.saved]
            split
            · exact hgranted
            · exact fun _ => hgranted
      | reply place r => cases hfits
      | ended r => cases hfits
      | line text => cases hfits
    | refreshing =>
      have hfits := (fits_of_singleton hans).1
      have hgranted := Granted.append hknown
        (isWrite_answersTo_singleton (n := n) (.hook .refresh []) rfl a)
      cases a with
      | ended r => exact fun _ => hgranted
      | reply place r => cases hfits
      | line text => cases hfits
      | resumed => cases hfits

end Submission

namespace Panel

/-- What a call of the panel knows of the answers to it at a stage. -/
def Stage.known (n : Nat) (told : List (Question × Answer)) : Stage → Prop
  | .loading => True
  | .collecting b => b.HasTaken n told
  | .settling b => b.HasTaken n told ∧ told ≠ []
  | .reloading => Granted told

/-- What a call of the panel has earned that is saved. -/
def earned (_n : Nat) (told : List (Question × Answer)) (r : Except Failure Result) : Prop :=
  r = .ok (.outcome .saved) → Granted told

/-- A submission that ends without a batch is not saved. -/
theorem accept_ne_saved {busy : Bool} {keys : List Value} {current : Fields}
    {effects : List Effect} {r : Except Failure Outcome}
    (h : Batch.accept busy keys current = .ends effects r) : r ≠ .ok .saved := by
  rintro rfl
  unfold Batch.accept at h
  split at h
  · cases h
  · split at h
    · cases h
    · split at h <;> cases h

/-- An outcome is given as it is. -/
theorem map_outcome_eq_saved {r : Except Failure Outcome} :
    r.map Result.outcome = .ok (.outcome .saved) ↔ r = .ok .saved := by
  cases r <;> simp [Except.map]

/-- A call that gives something else than an outcome is not saved. -/
theorem endWith_ne_saved {step : Step Unit} {result : Result} (h : ∀ o, result ≠ .outcome o)
    {r : Except Failure Result} (hnext : (endWith step result).next = .ends r) :
    r ≠ .ok (.outcome .saved) := by
  rintro rfl
  have hresult : step.result.map (fun _ => result) = .ok (.outcome .saved) := Next.ends.inj hnext
  cases hstep : step.result with
  | error e => simp [hstep, Except.map] at hresult
  | ok u => exact h .saved (by simpa [hstep, Except.map] using hresult)

/-- No call of the panel is saved with its first turn. -/
theorem begin_ne_saved {p : Panel} {call : Call} {r : Except Failure Result}
    (h : (p.begin call).next = .ends r) : r ≠ .ok (.outcome .saved) := by
  cases call with
  | replace options => exact endWith_ne_saved (by simp) h
  | subscribe fails => exact endWith_ne_saved (by simp) h
  | setField key value =>
    rintro rfl
    simp only [Panel.begin] at h
    split at h <;> cases h
  | submit =>
    rintro rfl
    simp only [Panel.begin, Panel.submit] at h
    split at h
    · cases h
    · split at h
      · next effects r hends =>
        exact accept_ne_saved hends (map_outcome_eq_saved.mp (Next.ends.inj h))
      · cases h
  | load => cases h
  | sync options =>
    rintro rfl
    cases h
  | close =>
    rintro rfl
    cases h
  | unsubscribe n =>
    rintro rfl
    cases h
  | assign key value =>
    rintro rfl
    cases h

/-- A submission of the panel that is saved knows that its writes were granted. -/
theorem controller_knows : controller.Knows Stage.awaits Call.suits Stage.known earned where
  begin := by
    intro p call n
    show (p.begin call).Leaves _ _
    cases begin_begins p call with
    | loads load turn =>
      rw [turn]
      trivial
    | sends submits free items changed found turn =>
      rw [turn]
      exact List.forall_mem_nil _
    | declines submits r next state =>
      simp only [Turn.Leaves, next]
      exact fun h => absurd h (begin_ne_saved next)
    | ends other r next follows =>
      simp only [Turn.Leaves, next]
      exact fun h => absurd h (begin_ne_saved next)
  resume := by
    intro p call stage n told a _ hknown hans
    show (p.resume stage a).Leaves _ _
    cases stage with
    | loading =>
      have hfits := (fits_of_singleton hans).1
      cases a with
      | reply place r => exact fun h => absurd h (endWith_ne_saved (by simp) rfl)
      | ended r => cases hfits
      | line text => cases hfits
      | resumed => cases hfits
    | collecting b =>
      obtain ⟨q, hq, hqa⟩ := hans
      obtain ⟨r, rfl⟩ := Batch.reply_of_isAnsweredBy (List.mem_filter.mp hq).1 hqa
      have htaken := Batch.HasTaken.put hknown q.place r
      show (b.collect p Stage.collecting Stage.settling q.place r).Leaves _ _
      cases hcomplete : (b.put q.place r).isComplete with
      | true =>
        rw [Batch.collect_of_complete hcomplete]
        exact ⟨htaken, Batch.append_answersTo_ne_nil ⟨q, hq, hqa⟩⟩
      | false =>
        rw [Batch.collect_of_incomplete hcomplete]
        exact htaken
    | settling b =>
      have hfits := (fits_of_singleton hans).1
      cases a with
      | resumed =>
        show (b.settle p.endSubmit p.saved).Leaves _ _
        obtain ⟨htaken, hsome⟩ := hknown
        cases hverdict : Batch.verdict b.results with
        | mk effects verdict =>
          cases verdict with
          | some r =>
            rw [Batch.settle_of_some hverdict]
            exact fun h => absurd (map_outcome_eq_saved.mp h) (Batch.verdict_ne_saved hverdict)
          | none =>
            rw [Batch.settle_of_none hverdict]
            exact (htaken.granted hsome hverdict).append
              (isWrite_answersTo_singleton (n := n) .pause rfl .resumed)
      | reply place r => cases hfits
      | ended r => cases hfits
      | line text => cases hfits
    | reloading =>
      have hfits := (fits_of_singleton hans).1
      have hgranted := Granted.append hknown
        (isWrite_answersTo_singleton (n := n) (.query .listOptions) rfl a)
      cases a with
      | reply place r => exact fun _ => hgranted
      | ended r => cases hfits
      | line text => cases hfits
      | resumed => cases hfits

end Panel

namespace Client

/-- A call that has earned its result with granted writes has had all of them answered. -/
theorem writesGranted_of_ended {State Call Stage Result : Type}
    {c : Controller State Call Stage Result} {awaits : Nat → Stage → List Question}
    {suits : Call → Stage → Prop} (hc : c.Keeps awaits suits) {s : State}
    {events : List (Event Call)} {n : Nat} {r : Except Failure Result}
    (hended : (n, r) ∈ ((Exchange.start s).play c events).run.ended)
    (hgranted : Granted (((Exchange.start s).play c events).toldTo n)) :
    ((Exchange.start s).play c events).WritesGranted n where
  answered := fun _ hq _ => Exchange.exists_told_of_ended hc hended hq
  granted := hgranted

/-- A broken connection, an unknown path and a fault of the server are faults of their own kinds
whatever the bytes are, and any other reply brings an envelope just when its bytes hold it, and else
is a fault of the server or of the request. However calls and the answers to them are interleaved,
a voucher is reported as accepted, and options as saved, only if every write that was sent for it
was answered with a status and an envelope that grant it. -/
theorem success_only_of_granted :
    (∀ (q : Query) (text : String), q.Raises (.broken text) .transport) ∧
    (∀ (q : Query) (body : List UInt8), q.Raises (.answered 404 body) .notFound) ∧
    (∀ (q : Query) (status : Int) (body : List UInt8), 500 ≤ status →
      q.Raises (.answered status body) .server) ∧
    (∀ (q : Query) (status : Int) (body : List UInt8), status ≠ 404 → status < 500 →
      (∀ e : Envelope, q.envelopeOf (.answered status body) = .ok e ↔ e.IsIn body) ∧
        ((∀ e : Envelope, ¬ e.IsIn body) → q.Raises (.answered status body)
          (if 200 ≤ status ∧ status ≤ 299 then .server else .application))) ∧
    (∀ settings editingId hooks directory files events n,
      (n, .ok (.accepted true)) ∈
          (Form.played settings editingId hooks directory files events).run.ended →
        (Form.played settings editingId hooks directory files events).WritesGranted n) ∧
    (∀ refreshes events n, (n, .ok .saved) ∈ (Submission.played refreshes events).run.ended →
      (Submission.played refreshes events).WritesGranted n) ∧
    (∀ store events n, (n, .ok (.outcome .saved)) ∈ (Panel.played store events).run.ended →
      (Panel.played store events).WritesGranted n) := by
  refine ⟨Query.raises_broken, Query.raises_notFound, fun q _ body h => q.raises_server h body,
    fun q status body hfound hserved => ⟨fun e => ?_, q.raises_malformed hfound hserved⟩,
    ?_, ?_, ?_⟩
  · rw [Query.envelopeOf_eq_ok]
    constructor
    · rintro ⟨_, _, hreply, -, -, hin⟩
      cases hreply
      exact hin
    · exact fun hin => ⟨status, body, rfl, hfound, hserved, hin⟩
  · intro settings editingId hooks directory files events n hended
    have hknows := Exchange.knows_play Form.controller_keeps Form.controller_knows
      (Form.create settings editingId hooks directory files) events
    exact writesGranted_of_ended Form.controller_keeps hended (hknows.2 _ hended rfl)
  · intro refreshes events n hended
    have hknows := Exchange.knows_play Submission.controller_keeps Submission.controller_knows
      { refreshes } events
    exact writesGranted_of_ended Submission.controller_keeps hended (hknows.2 _ hended rfl)
  · intro store events n hended
    have hknows := Exchange.knows_play Panel.controller_keeps Panel.controller_knows
      (Panel.join store) events
    exact writesGranted_of_ended Panel.controller_keeps hended (hknows.2 _ hended rfl)

end Client

end VoucherDesk
