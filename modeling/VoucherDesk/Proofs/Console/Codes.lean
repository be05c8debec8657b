import VoucherDesk.Console.Desk
import VoucherDesk.Proofs.Arguments.Reader
import VoucherDesk.Proofs.Dialogue.Served
import VoucherDesk.Proofs.Files
import VoucherDesk.Proofs.Form.Hooks

/-!
# New codes at the desk

Nobody but the server and the desk knows the codes of new vouchers, so that what the desk neither
prints nor writes is lost. It prints them where nobody can be asked, and writes them where it is
told to. If the file cannot be written then, or the input is at its end when the operator is
asked, the order ends with that failure and the codes are gone.
-/

namespace VoucherDesk

open Arguments Dialogue

namespace Dialogue

variable {State Call Stage Result : Type}

/-- The line of output that an effect prints, if it prints one. -/
def Effect.printed? : Effect → Option String
  | .printed .output line => some line
  | _ => none

/-- The line of output that is printed, if one is. -/
def Occurrence.printed? : Occurrence State Result → Option String
  | .effect _ e => e.printed?
  | _ => none

/-- The lines of output that a turn prints. -/
def Turn.printedLines (t : Turn State Stage Result) : List String :=
  t.effects.filterMap Effect.printed?

/-- All lines of output that are printed, in order. -/
def Exchange.printedLines (x : Exchange State Call Stage Result) : List String :=
  x.history.filterMap Occurrence.printed?

theorem Turn.printedLines_after (effects : List Effect) (t : Turn State Stage Result) :
    (t.after effects).printedLines = effects.filterMap Effect.printed? ++ t.printedLines :=
  List.filterMap_append

private theorem printed_occurrences (n : Nat) (t : Turn State Stage Result) :
    (t.occurrences n).filterMap Occurrence.printed? = t.printedLines := by
  have hasked : ((questions n t.asks).map
      (.asked · t.state : Question → Occurrence State Result)).filterMap
        Occurrence.printed? = [] := by
    refine List.filterMap_eq_nil_iff.mpr fun o ho => ?_
    obtain ⟨q, -, rfl⟩ := List.mem_map.mp ho
    rfl
  have hended : ((t.endsAs n).map
      fun e => (.ended e.1 e.2 : Occurrence State Result)).filterMap
        Occurrence.printed? = [] := by
    refine List.filterMap_eq_nil_iff.mpr fun o ho => ?_
    obtain ⟨e, -, rfl⟩ := List.mem_map.mp ho
    rfl
  simp only [Turn.occurrences, List.filterMap_append, hasked, hended, List.append_nil,
    List.filterMap_map]
  rfl

namespace Exchange

variable (x : Exchange State Call Stage Result)

/-- A first call prints what its first turn prints. -/
theorem printedLines_start (c : Controller State Call Stage Result) (s : State) (call : Call) :
    ((start s).step c (.call call)).printedLines = (c.begin s call).printedLines := by
  simp only [step_call, printedLines, begins, start, List.nil_append, printed_occurrences]

/-- A call that goes on prints what its next turn prints. -/
theorem printedLines_continues (number : Nat) (a : Answer) (t : Turn State Stage Result) :
    (x.continues number a t).printedLines = x.printedLines ++ t.printedLines := by
  have hanswered : ((x.pending.filter (·.isAnsweredBy number a)).map
      (.answered · a : Question → Occurrence State Result)).filterMap
        Occurrence.printed? = [] := by
    refine List.filterMap_eq_nil_iff.mpr fun o ho => ?_
    obtain ⟨q, -, rfl⟩ := List.mem_map.mp ho
    rfl
  simp only [printedLines, continues, List.filterMap_append, hanswered, printed_occurrences,
    List.append_nil]

end Exchange

end Dialogue

/-- The directory for codes where one with a name is asked for; an empty name asks for none. -/
def Settings.codeDirectory (settings : Settings) (directory : String) : String :=
  if directory.isEmpty then settings.exportDir else directory

namespace Form

variable {f : Form} {v : Voucher} {q : Query} {r : Reply} {message : String} {items : List Value}

/-- Once new vouchers are saved, a form that has no other hook asks whether to keep their codes, and
prints nothing itself. -/
theorem saved_of_codes (hnew : f.editingId = .null) (hhooks : f.hooks = [.confirm])
    (haccepted : q.envelopeOf r = .ok ⟨true, message, .list items⟩) (hitems : items ≠ []) :
    let codes := items.map Value.plain
    ∃ effects, effects.filterMap Effect.printed? = [] ∧
      f.saved v q r =
        (Turn.waitFor { f with loading := false }.reset (Stage.confirming v.name codes).ask
          (.confirming v.name codes)).after effects := by
  have htruthy : (Value.list items).isTruthy = true := by simp [Value.isTruthy, hitems]
  have hedit : { f with loading := false }.isEdit = false := by simp [isEdit, hnew, Value.isNull]
  have hdue : { f with loading := false }.reset.isDue (.list items) .confirm = true := by
    simp [isDue, isEdit, reset, hnew, hhooks, Value.isNull, htruthy]
  refine ⟨[.log ⟨.info, .form, "Created " ++ toString v.count ++ " redemption code(s) named "
    ++ Text.quoted v.name⟩, .success "Redemption code created"], rfl, ?_⟩
  simp only [saved, haccepted, Bool.not_true, Bool.false_eq_true, ite_false, hedit]
  rw [callRefresh, if_neg (by simp [reset, hhooks]), callClose, if_neg (by simp [reset, hhooks]),
    offerCodes_of_due rfl hdue]
  rfl

/-- Filling in fields changes nothing of a form but its fields. -/
theorem exists_inputs_of_fill {fields : Fields} {g : Form}
    (h : fields.foldlM (fun f p => f.setField p.1 p.2) f = .ok g) :
    ∃ inputs, g = { f with inputs } := by
  refine foldlM_induction (P := fun g => ∃ inputs, g = { f with inputs }) h ⟨_, rfl⟩
    fun p _ g g' hg hset => ?_
  obtain ⟨inputs, rfl⟩ := hg
  rw [setField] at hset
  split at hset
  · cases hset
    exact ⟨_, rfl⟩
  · cases hset

end Form

namespace Console.Desk

/-- What the operator is told when new codes have come. -/
def announcement (codes : List String) : String :=
  "Generated " ++ toString codes.length ++ " code(s)."

/-- An order is carried out: its query is answered with a reply, and the operator types a line if
asked for one. -/
def carriedOut (d : Desk) (order : Order) (r : Reply) (line : Option String) :
    Exchange Desk Order Stage Int :=
  (Exchange.start d).play controller
    [.call order, .answer 0 (.reply 0 r), .answer 0 (.line line)]

/-- A reply to an order brings codes: the order has asked for vouchers like one, and the reply
grants them with a list that is not empty. -/
structure BringsCodes (d : Desk) (order : Order) (v : Voucher) (r : Reply) (items : List Value) :
    Prop where
  asked : ⟨0, 0, .query (.createVouchers (.record v.createPayload))⟩ ∈
    ((Exchange.start d).step controller (.call order)).pending
  granted : ∃ message, (Query.createVouchers (.record v.createPayload)).envelopeOf r =
    .ok ⟨true, message, .list items⟩
  nonempty : items ≠ []

/-- Codes have been printed after they were announced, or stand in their order in the file of the
voucher, whose path the form tells. The path is found with the home directories that were known at
first. -/
def Delivers (y : Exchange Desk Order Stage Int) (files : FileTree) (directory name : String)
    (codes : List String) : Prop :=
  let parts := Export.partsOf files directory name
  y.printedLines = announcement codes :: codes ∨
    (y.run.state.form.exportPath = some (FileTree.pathText parts) ∧
      y.run.state.form.files.textAt parts = some (Export.textOf codes))

/-- Whether codes are to be kept: the order says so, or the operator does who is asked. -/
def IsKept (keeps isTerminal : Bool) (line : Option String) : Prop :=
  keeps = true ∨ isTerminal = true ∧ ∃ answer, line = some answer ∧ isYes answer = true

/-- Whether the operator is asked and does not want codes to be kept. -/
def IsDeclined (keeps isTerminal : Bool) (line : Option String) : Prop :=
  keeps = false ∧ isTerminal = true ∧ ∃ answer, line = some answer ∧ isYes answer = false

/-- The failures with which codes are lost: their file cannot be written, or there is no answer to
the question whether to keep them. -/
inductive Loses (keeps isTerminal : Bool) (line : Option String) (files : FileTree)
    (directory name : String) (codes : List String) : Failure → Prop where
  | unwritable {e : Failure} (kept : IsKept keeps isTerminal line)
      (fails : Export.write files directory name codes = .error e) :
      Loses keeps isTerminal line files directory name codes e
  | unanswered (asks : keeps = false) (terminal : isTerminal = true) (ended : line = none) :
      Loses keeps isTerminal line files directory name codes .endOfInput

/-- What is left when an order has ended. -/
structure Leaves (y : Exchange Desk Order Stage Int) (r : Except Failure Int)
    (lines : List String) (files : FileTree) (path : Option String) : Prop where
  ended : HasEnded y y.run.state r
  lines : y.printedLines = lines
  files : y.run.state.form.files = files
  path : y.run.state.form.exportPath = path

/-- How an order for new vouchers ends that is answered with codes. -/
inductive Outcome (keeps isTerminal : Bool) (line : Option String) (files : FileTree)
    (directory name : String) (codes : List String) (y : Exchange Desk Order Stage Int) :
    Prop where
  /-- Nobody can be asked, and the codes are printed. -/
  | printed (asks : keeps = false) (nobody : isTerminal = false)
      (leaves : Leaves y (.ok 0) (announcement codes :: codes) files none)
  /-- The codes are kept in a file. -/
  | kept {after : FileTree} {path : String} (kept : IsKept keeps isTerminal line)
      (writes : Export.write files directory name codes = .ok (after, path))
      (leaves : Leaves y (.ok 0) [announcement codes] after (some path))
  /-- The codes are lost. -/
  | lost {e : Failure} (loses : Loses keeps isTerminal line files directory name codes e)
      (leaves : Leaves y (.error e) [announcement codes] files none)
  /-- The operator does not want the codes. -/
  | declined (declined : IsDeclined keeps isTerminal line)
      (leaves : Leaves y (.ok 0) [announcement codes] files none)

section Turns

variable {d : Desk} {x : Exchange Desk Order Stage Int} {q : Question} {a : Answer}
  {settings : Settings} {isTerminal keeps : Bool} {files : FileTree} {fields : Fields}
  {directory key name prompt : String} {path line : Option String} {codes lines : List String}
  {r : Except Failure Int}

/-- The desk while it submits new vouchers. -/
structure Submits (d : Desk) (isTerminal : Bool) (files : FileTree) (directory : String) :
    Prop where
  isTerminal : d.isTerminal = isTerminal
  isNew : d.form.editingId = .null
  hooks : d.form.hooks = [.confirm]
  files : d.form.files = files
  directory : d.form.codeDirectory = directory
  notKept : d.form.exportPath = none

/-- A turn that ends an order, and what it leaves. -/
structure EndsWith (t : DeskTurn) (r : Except Failure Int) (lines : List String)
    (files : FileTree) (path : Option String) : Prop where
  next : t.next = .ends r
  lines : t.printedLines = lines
  files : t.state.form.files = files
  path : t.state.form.exportPath = path

/-- What is printed before a turn comes before its own lines. -/
theorem EndsWith.after {t : DeskTurn} (h : EndsWith t r lines files path)
    (effects : List Effect) :
    EndsWith (t.after effects) r (effects.filterMap Effect.printed? ++ lines) files path :=
  ⟨h.next, by rw [Turn.printedLines_after, h.lines], h.files, h.path⟩

/-- An order whose only question is answered with such a turn leaves what the turn leaves, besides
what was printed before. -/
theorem EndsWith.leaves {stage : Stage} {before : List String}
    (h : EndsWith (controller.resume d stage a) r lines files path)
    (hwaits : WaitsAlone x stage d [q]) (hans : q.isAnsweredBy 0 a = true)
    (hbefore : x.printedLines = before) :
    Leaves (x.step controller (.answer 0 a)) r (before ++ lines) files path := by
  have hq : q ∈ [q] := List.mem_singleton_self q
  have hended := hwaits.ends (c := controller) hq hans h.next (by simp [hans])
  refine ⟨hended.state ▸ hended, ?_, hended.state ▸ h.files, hended.state ▸ h.path⟩
  rw [hwaits.step_answer hq hans, Exchange.printedLines_continues, hbefore, ← h.lines]

/-- Codes that are to be kept end the order with their file, or with the failure to write it. -/
theorem Submits.decide_true (hd : Submits d isTerminal files directory) (name : String)
    (codes : List String) :
    (∃ after path, Export.write files directory name codes = .ok (after, path) ∧
      EndsWith (d.decide (.confirming name codes) true) (.ok 0) [] after (some path)) ∨
    ∃ e, Export.write files directory name codes = .error e ∧
      EndsWith (d.decide (.confirming name codes) true) (.error e) [] files none := by
  have hresume : d.form.resume (.confirming name codes) (.ended (.ok (.bool true))) =
      d.form.keepCodes name codes := rfl
  rw [decide, hresume, Form.keepCodes, hd.files, hd.directory]
  cases Export.write files directory name codes with
  | ok written => exact Or.inl ⟨_, _, rfl, rfl, rfl, rfl, rfl⟩
  | error e => exact Or.inr ⟨e, rfl, rfl, rfl, hd.files, hd.notKept⟩

/-- Codes that are not to be kept end the order well. -/
theorem Submits.decide_false (hd : Submits d isTerminal files directory) (name : String)
    (codes : List String) :
    EndsWith (d.decide (.confirming name codes) false) (.ok 0) [] files none :=
  ⟨rfl, rfl, hd.files, hd.notKept⟩

/-- If the input is at its end the order ends with that failure. -/
theorem Submits.unanswered (hd : Submits d isTerminal files directory) (name : String)
    (codes : List String) :
    EndsWith (controller.resume d (.asking (.confirming name codes)) (.line none))
      (.error .endOfInput) [] files none :=
  ⟨rfl, rfl, hd.files, hd.notKept⟩

/-- The empty form of an order for new vouchers. -/
def newForm (settings : Settings) (files : FileTree) (key directory : String) : Form :=
  { Form.create settings .null [] "" files with
    hooks := [.confirm], exportDirectory := directory, key := .text key }

/-- An order for new vouchers fills in the fields of the empty form and submits it. -/
theorem begin_eq (settings : Settings) (isTerminal keeps : Bool) (files : FileTree)
    (fields : Fields) (key directory : String) :
    controller.begin (Desk.create settings isTerminal files)
      (.create fields key directory keeps) =
        { Desk.create settings isTerminal files with
          form := newForm settings files key directory }.fillAndSubmit keeps fields
            fun _ => [] := rfl

/-- It submits the form once the fields are filled in. -/
theorem begin_of_filled {form : Form}
    (h : fields.foldlM (fun f p => f.setField p.1 p.2) (newForm settings files key directory) =
      .ok form) (isTerminal keeps : Bool) :
    controller.begin (Desk.create settings isTerminal files)
      (.create fields key directory keeps) =
        { Desk.create settings isTerminal files with form }.follow keeps form.submit := by
  rw [begin_eq, fillAndSubmit, h]
  rfl

/-- It sends the voucher that its form builds. -/
theorem begin_of_build {inputs : Fields} {v : Voucher}
    (hfill : fields.foldlM (fun f p => f.setField p.1 p.2)
      (newForm settings files key directory) =
        .ok { newForm settings files key directory with inputs })
    (hbuild : { newForm settings files key directory with inputs }.build = .ok v)
    (isTerminal keeps : Bool) :
    let query : Query := .createVouchers (.record v.createPayload)
    controller.begin (Desk.create settings isTerminal files)
      (.create fields key directory keeps) =
        .waitFor { Desk.create settings isTerminal files with
          form := { newForm settings files key directory with
            inputs, submitting := true, loading := true } }
          (.query query) (.submitting keeps (.saving v query)) := by
  intro query
  rw [begin_of_filled hfill, Form.submit_of_saveQuery rfl hbuild rfl]
  rfl

/-- An order for new vouchers ends at once, or sends the voucher that its form builds. -/
theorem begin_create (settings : Settings) (isTerminal keeps : Bool) (files : FileTree)
    (fields : Fields) (key directory : String) :
    let t := controller.begin (Desk.create settings isTerminal files)
      (.create fields key directory keeps)
    (∃ r, t.next = .ends r) ∨
      ∃ v query d, query = .createVouchers (.record v.createPayload) ∧
        Submits d isTerminal files (settings.codeDirectory directory) ∧
        t = .waitFor d (.query query) (.submitting keeps (.saving v query)) := by
  intro t
  cases hfill : fields.foldlM (fun f p => f.setField p.1 p.2)
      (newForm settings files key directory) with
  | error e =>
    have hends : t = .finish { Desk.create settings isTerminal files with
        form := newForm settings files key directory } (.error e) := by
      rw [show t = _ from begin_eq .., fillAndSubmit, hfill]
    exact Or.inl ⟨_, congrArg Turn.next hends⟩
  | ok filled =>
    obtain ⟨inputs, rfl⟩ := Form.exists_inputs_of_fill hfill
    cases Form.submit_begins { newForm settings files key directory with inputs } with
    | fetches id other next state => cases other
    | ends r next edits =>
      refine Or.inl ⟨submitCode r, ?_⟩
      rw [show t = _ from begin_of_filled hfill isTerminal keeps]
      simp only [follow, next]
      rfl
    | sends v query submits free built asks next state =>
      exact Or.inr ⟨v, _, _, rfl, ⟨rfl, rfl, rfl, rfl, rfl, rfl⟩, begin_of_build hfill built ..⟩

/-- An order for new vouchers that has a question open waits for the reply to its query. -/
theorem waits_of_create
    (hq : q ∈ ((Exchange.start (Desk.create settings isTerminal files)).step controller
      (.call (.create fields key directory keeps))).pending) :
    let x := (Exchange.start (Desk.create settings isTerminal files)).step controller
      (.call (.create fields key directory keeps))
    ∃ v query d, query = .createVouchers (.record v.createPayload) ∧ q = ⟨0, 0, .query query⟩ ∧
      Submits d isTerminal files (settings.codeDirectory directory) ∧
      WaitsAlone x (.submitting keeps (.saving v query)) d [q] ∧ x.printedLines = [] := by
  intro x
  rcases begin_create settings isTerminal keeps files fields key directory with
    ⟨r, hends⟩ | ⟨v, query, d, hquery, hd, hturn⟩
  · rw [(hasEnded_begin hends).pending] at hq
    cases hq
  · have hwaits := waitsAlone_begin (congrArg Turn.next hturn)
    rw [hwaits.isOpen, questions_singleton, List.mem_singleton] at hq
    rw [hturn] at hwaits
    refine ⟨v, query, d, hquery, hq, hd, hq ▸ hwaits, ?_⟩
    rw [Exchange.printedLines_start, hturn]
    rfl

/-- The codes that a reply brings to an order are announced; then they are kept, or printed where
nobody can be asked, or else the operator is asked. -/
theorem resume_of_codes (keeps : Bool) {message : String} {v : Voucher} {query : Query}
    {reply : Reply} {items : List Value} (hd : Submits d isTerminal files directory)
    (hgranted : query.envelopeOf reply = .ok ⟨true, message, .list items⟩) (hitems : items ≠ []) :
    let codes := items.map Value.plain
    ∃ d' effects, Submits d' isTerminal files directory ∧ effects.filterMap Effect.printed? = [] ∧
      controller.resume d (.submitting keeps (.saving v query)) (.reply 0 reply) =
        (d'.offer keeps (codes.map .text) (Export.fileName v.name)
          (.confirming v.name codes)).after effects := by
  intro codes
  obtain ⟨effects, hsilent, hsaved⟩ :=
    Form.saved_of_codes (v := v) hd.isNew hd.hooks hgranted hitems
  refine ⟨{ d with form := { d.form with loading := false }.reset }, effects,
    ⟨hd.isTerminal, hd.isNew, hd.hooks, hd.files, hd.directory, hd.notKept⟩, hsilent, ?_⟩
  have hresume : controller.resume d (.submitting keeps (.saving v query)) (.reply 0 reply) =
      d.follow keeps (d.form.saved v query reply) := rfl
  rw [hresume, hsaved]
  simp only [follow, Turn.after, Turn.waitFor, Form.Stage.ask, List.append_nil]
  rfl

/-- The answer of the operator, or the end of the input, ends an order that asks whether to keep
codes. -/
theorem Submits.outcome_of_line (hd : Submits d true files directory)
    (hwaits : WaitsAlone x (.asking (.confirming name codes)) d [⟨0, 0, .line prompt⟩])
    (hprinted : x.printedLines = [announcement codes]) (line : Option String) :
    Outcome false true line files directory name codes
      (x.step controller (.answer 0 (.line line))) := by
  cases line with
  | none =>
    exact .lost (.unanswered rfl rfl rfl) ((hd.unanswered name codes).leaves hwaits rfl hprinted)
  | some answer =>
    have hresume : controller.resume d (.asking (.confirming name codes)) (.line (some answer)) =
        d.decide (.confirming name codes) (isYes answer) := rfl
    cases hyes : isYes answer with
    | false =>
      rw [hyes] at hresume
      have hends := hresume ▸ hd.decide_false name codes
      exact .declined ⟨rfl, rfl, answer, rfl, hyes⟩ (hends.leaves hwaits rfl hprinted)
    | true =>
      rw [hyes] at hresume
      have hkept : IsKept false true (some answer) := Or.inr ⟨rfl, answer, rfl, hyes⟩
      rcases hd.decide_true name codes with ⟨after, path, hwrite, hends⟩ | ⟨e, hwrite, hends⟩
      · exact .kept hkept hwrite ((hresume ▸ hends).leaves hwaits rfl hprinted)
      · exact .lost (.unwritable hkept hwrite) ((hresume ▸ hends).leaves hwaits rfl hprinted)

/-- Nothing more happens in an order that has ended. -/
theorem Leaves.step (h : Leaves x r lines files path) (a : Answer) :
    x.step controller (.answer 0 a) = x := by
  refine Exchange.step_unasked fun q hq => ?_
  rw [h.ended.pending] at hq
  cases hq

/-- Codes as lines of output. -/
theorem filterMap_printed_say (codes : List String) :
    ((codes.map Value.text).map fun code => say code.plain).filterMap Effect.printed? = codes := by
  rw [List.map_map, List.filterMap_map]
  exact List.filterMap_some

/-- How a turn goes on that offers codes. -/
inductive Offers (keeps isTerminal : Bool) (files : FileTree) (directory name : String)
    (codes : List String) (d : Desk) (t : DeskTurn) : Prop where
  /-- The codes are kept without asking. -/
  | kept {after : FileTree} {path : String} (keeps : keeps = true)
      (writes : Export.write files directory name codes = .ok (after, path))
      (ends : EndsWith t (.ok 0) [announcement codes] after (some path))
  /-- They are to be kept without asking, and their file cannot be written. -/
  | unwritable {e : Failure} (keeps : keeps = true)
      (fails : Export.write files directory name codes = .error e)
      (ends : EndsWith t (.error e) [announcement codes] files none)
  /-- Nobody can be asked, and the codes are printed. -/
  | printed (asks : keeps = false) (nobody : isTerminal = false)
      (ends : EndsWith t (.ok 0) (announcement codes :: codes) files none)
  /-- The operator is asked. -/
  | asked {prompt : String} (asks : keeps = false) (terminal : isTerminal = true)
      (lines : t.printedLines = [announcement codes]) (state : t.state = d)
      (next : t.next = .waits [.line prompt] (.asking (.confirming name codes)))

/-- The offer of codes goes on in one of those ways. -/
theorem Submits.offers (hd : Submits d isTerminal files directory) (keeps : Bool)
    (name : String) (codes : List String) :
    Offers keeps isTerminal files directory name codes d
      (d.offer keeps (codes.map .text) (Export.fileName name) (.confirming name codes)) := by
  have hsay : say ("Generated " ++ toString (codes.map Value.text).length ++ " code(s).") =
      say (announcement codes) := by
    rw [List.length_map]
    rfl
  simp only [offer, hsay, hd.isTerminal]
  cases keeps with
  | true =>
    rcases hd.decide_true name codes with ⟨after, path, hwrite, hends⟩ | ⟨e, hwrite, hends⟩
    · exact .kept rfl hwrite (hends.after _)
    · exact .unwritable rfl hwrite (hends.after _)
  | false =>
    cases isTerminal with
    | false =>
      have hends := ((hd.decide_false name codes).after
        ((codes.map Value.text).map fun code => say code.plain)).after [say (announcement codes)]
      rw [filterMap_printed_say, List.append_nil] at hends
      exact .printed rfl rfl hends
    | true => exact .asked rfl rfl rfl rfl rfl

/-- The reply that brings codes, and then the operator where asked, end an order that waits for the
reply to its query. -/
theorem Submits.outcome_of_reply (hd : Submits d isTerminal files directory) {v : Voucher}
    {query : Query} {reply : Reply} {message : String} {items : List Value}
    (hwaits : WaitsAlone x (.submitting keeps (.saving v query)) d [⟨0, 0, .query query⟩])
    (hprinted : x.printedLines = [])
    (hgranted : query.envelopeOf reply = .ok ⟨true, message, .list items⟩) (hitems : items ≠ [])
    (line : Option String) :
    Outcome keeps isTerminal line files directory v.name (items.map Value.plain)
      ((x.step controller (.answer 0 (.reply 0 reply))).step controller
        (.answer 0 (.line line))) := by
  obtain ⟨d', effects, hd', hsilent, hturn⟩ :=
    resume_of_codes keeps (v := v) hd hgranted hitems
  generalize hcodes : items.map Value.plain = codes at hturn ⊢
  have hleaves {r : Except Failure Int} {lines : List String} {after : FileTree}
      {path : Option String} (hends : EndsWith (d'.offer keeps (codes.map .text)
        (Export.fileName v.name) (.confirming v.name codes)) r lines after path) :
      Leaves (x.step controller (.answer 0 (.reply 0 reply))) r lines after path := by
    have hends := hends.after effects
    rw [hsilent, ← hturn] at hends
    exact hends.leaves hwaits rfl hprinted
  cases hd'.offers keeps v.name codes with
  | kept hkeeps writes ends =>
    rw [(hleaves ends).step]
    exact .kept (Or.inl hkeeps) writes (hleaves ends)
  | unwritable hkeeps fails ends =>
    rw [(hleaves ends).step]
    exact .lost (.unwritable (Or.inl hkeeps) fails) (hleaves ends)
  | printed asks nobody ends =>
    rw [(hleaves ends).step]
    exact .printed asks nobody (hleaves ends)
  | asked asks terminal lines state next =>
    subst asks terminal
    have hnext := (congrArg Turn.next hturn).trans next
    have hstate : (controller.resume d _ _).state = d' := (congrArg Turn.state hturn).trans state
    have hasking := hwaits.goesOn (c := controller) (a := .reply 0 reply)
      (List.mem_singleton_self _) rfl hnext
    rw [hstate] at hasking
    refine hd'.outcome_of_line hasking ?_ line
    rw [hwaits.step_answer (List.mem_singleton_self _) rfl, Exchange.printedLines_continues,
      hprinted, hturn, Turn.printedLines_after, hsilent]
    exact lines

end Turns

/-- Vouchers that are asked for in the same way have the same name. -/
theorem name_eq_of_createVouchers {v w : Voucher}
    (h : Query.createVouchers (.record v.createPayload) =
      .createVouchers (.record w.createPayload)) : v.name = w.name := by
  have hpayload : v.createPayload = w.createPayload :=
    Value.record.inj (congrArg Query.payload h)
  simpa [Voucher.createPayload, Voucher.commonPayload] using congrArg List.head? hpayload

/-- An order for new vouchers that is answered with codes ends in one of those ways. -/
theorem outcome_of_bringsCodes {settings : Settings} {isTerminal keeps : Bool} {files : FileTree}
    {fields : Fields} {key directory : String} {v : Voucher} {r : Reply} {items : List Value}
    (h : BringsCodes (Desk.create settings isTerminal files)
      (.create fields key directory keeps) v r items) (line : Option String) :
    Outcome keeps isTerminal line files (settings.codeDirectory directory) v.name
      (items.map Value.plain)
      ((Desk.create settings isTerminal files).carriedOut (.create fields key directory keeps) r
        line) := by
  obtain ⟨v', query, d, hquery, hsame, hd, hwaits, hprinted⟩ := waits_of_create h.asked
  obtain ⟨message, hgranted⟩ := h.granted
  have hpayload : query = .createVouchers (.record v.createPayload) :=
    (Ask.query.inj (congrArg Question.ask hsame)).symm
  have hname : v'.name = v.name := name_eq_of_createVouchers (hquery.symm.trans hpayload)
  rw [← hpayload] at hgranted hwaits
  exact hname ▸ hd.outcome_of_reply hwaits hprinted hgranted h.nonempty line

section Outcomes

variable {keeps isTerminal : Bool} {line : Option String} {files : FileTree}
  {directory name : String} {codes : List String} {y : Exchange Desk Order Stage Int} {e : Failure}

/-- Codes that are lost have been announced, and that is all that is left of them. -/
theorem Outcome.leaves_of_loses (h : Outcome keeps isTerminal line files directory name codes y)
    (hloses : Loses keeps isTerminal line files directory name codes e) :
    Leaves y (.error e) [announcement codes] files none := by
  cases hloses with
  | unwritable kept fails =>
    cases h with
    | printed asks nobody leaves => simp [IsKept, asks, nobody] at kept
    | kept kept writes leaves => cases fails.symm.trans writes
    | lost loses leaves =>
      cases loses with
      | unwritable kept' fails' =>
        cases fails.symm.trans fails'
        exact leaves
      | unanswered asks terminal ended => simp [IsKept, asks, ended] at kept
    | declined declined leaves =>
      obtain ⟨asks, terminal, answer, rfl, hno⟩ := declined
      simp [IsKept, asks, hno] at kept
  | unanswered asks terminal ended =>
    cases h with
    | printed asks nobody leaves => cases terminal.symm.trans nobody
    | kept kept writes leaves => simp [IsKept, asks, ended] at kept
    | lost loses leaves =>
      cases loses with
      | unwritable kept fails => simp [IsKept, asks, ended] at kept
      | unanswered => exact leaves
    | declined declined leaves =>
      obtain ⟨-, -, answer, hline, -⟩ := declined
      cases ended.symm.trans hline

/-- Codes that are neither lost nor declined are delivered by an order that ends well. -/
theorem Outcome.delivers (h : Outcome keeps isTerminal line files directory name codes y)
    (hdeclined : ¬ IsDeclined keeps isTerminal line)
    (hloses : ∀ e, ¬ Loses keeps isTerminal line files directory name codes e) :
    HasEnded y y.run.state (.ok 0) ∧ Delivers y files directory name codes := by
  cases h with
  | printed asks nobody leaves => exact ⟨leaves.ended, Or.inl leaves.lines⟩
  | kept kept writes leaves =>
    obtain ⟨rfl, htext⟩ := Export.textAt_of_write writes
    exact ⟨leaves.ended, Or.inr ⟨leaves.path, leaves.files ▸ htext⟩⟩
  | lost loses leaves => exact absurd loses (hloses _)
  | declined declined leaves => exact absurd declined hdeclined

/-- An announcement delivers no codes. -/
theorem Leaves.not_delivers {r : Except Failure Int}
    (h : Leaves y r [announcement codes] files none) (hcodes : codes ≠ []) :
    ¬ Delivers y files directory name codes := by
  rintro (hprinted | ⟨hpath, -⟩)
  · rw [h.lines, List.cons_inj_right] at hprinted
    exact hcodes hprinted.symm
  · cases h.path.symm.trans hpath

end Outcomes

/-- The arguments of the tool make an order for new vouchers. -/
theorem order_of_invocation {texts : List String} {i : Invocation}
    (h : ToolName.create.invocation texts = .ok i) :
    ∃ fields key directory keeps, i.order = .create fields key directory keeps := by
  obtain ⟨given, -, h⟩ := bind_eq_ok.mp h
  cases h
  exact ⟨_, _, _, _, rfl⟩

/-- The codes that a reply brings to an order for new vouchers are printed or kept in their file,
unless the operator declines them, just when there is no failure with which they are lost: they
are to be kept and their file cannot be written, or the input is at its end when the operator is
asked. Such a failure ends the order, nothing but the announcement is printed and no file has
changed. -/
theorem delivers_iff_not_loses {texts : List String} {i : Invocation}
    (hi : ToolName.create.invocation texts = .ok i) (settings : Settings) (isTerminal : Bool)
    (files : FileTree) :
    ∃ fields key directory keeps, i.order = .create fields key directory keeps ∧
      ∀ (v : Voucher) (r : Reply) (items : List Value) (line : Option String),
        let d := Desk.create settings isTerminal files
        let y := d.carriedOut i.order r line
        let target := settings.codeDirectory directory
        let codes := items.map Value.plain
        BringsCodes d i.order v r items → ¬ IsDeclined keeps isTerminal line →
        (Delivers y files target v.name codes ↔
          ∀ e, ¬ Loses keeps isTerminal line files target v.name codes e) ∧
        (Delivers y files target v.name codes → HasEnded y y.run.state (.ok 0)) ∧
        ∀ e, Loses keeps isTerminal line files target v.name codes e →
          HasEnded y y.run.state (.error e) ∧ y.printedLines = [announcement codes] ∧
            y.run.state.form.files.files = files.files := by
  obtain ⟨fields, key, directory, keeps, horder⟩ := order_of_invocation hi
  refine ⟨fields, key, directory, keeps, horder, ?_⟩
  rw [horder]
  intro v r items line d y target codes hbrings hdeclined
  have houtcome : Outcome keeps isTerminal line files target v.name codes y :=
    outcome_of_bringsCodes hbrings line
  have hcodes : codes ≠ [] := fun h => hbrings.nonempty (List.map_eq_nil_iff.mp h)
  have hiff : Delivers y files target v.name codes ↔
      ∀ e, ¬ Loses keeps isTerminal line files target v.name codes e :=
    ⟨fun hdelivers e hloses =>
      (houtcome.leaves_of_loses hloses).not_delivers hcodes hdelivers,
      fun hloses => (houtcome.delivers hdeclined hloses).2⟩
  refine ⟨hiff, fun hdelivers => (houtcome.delivers hdeclined (hiff.mp hdelivers)).1,
    fun e hloses => ?_⟩
  have hleaves := houtcome.leaves_of_loses hloses
  exact ⟨hleaves.ended, hleaves.lines, congrArg FileTree.files hleaves.files⟩

/-- Arguments with which the codes are kept in a directory without asking. -/
def keepTexts : List String := ["--name", "spring", "--yes", "--output-dir", "out"]

/-- The fields that they fill in. -/
def keepFields : Fields :=
  [("name", .text "spring"), ("quota", .text "100000"), ("count", .text "1"),
    ("is_gift", .bool false), ("max_uses", .text "-1"), ("valid_from", .text "0"),
    ("valid_until", .text "0")]

/-- The order that they make. -/
def keepOrder : Order := .create keepFields "" "out" true

/-- The tool takes the arguments for that order. -/
theorem invocation_keepTexts :
    ToolName.create.invocation keepTexts = .ok ⟨none, "", keepOrder⟩ := by
  have hname : markOf createTool.parser "--name" = _ := markOf_of_lookup (by simp) rfl
  have hspring : markOf createTool.parser "spring" = .ok .plain := by simp [markOf]
  have hyes : markOf createTool.parser "--yes" = _ := markOf_of_lookup (by simp) rfl
  have hdirectory : markOf createTool.parser "--output-dir" = _ := markOf_of_lookup (by simp) rfl
  have hout : markOf createTool.parser "out" = .ok .plain := by simp [markOf]
  have hmarks : markAll createTool.parser keepTexts = .ok _ :=
    markAll_cons (by decide) hname <| markAll_cons (by decide) hspring <|
      markAll_cons (by decide) hyes <| markAll_cons (by decide) hdirectory <|
        markAll_cons (by decide) hout rfl
  unfold ToolName.invocation
  rw [show ToolName.create.tool = createTool from rfl, Tool.read, Parser.read, hmarks]
  rfl

/-- The form builds a voucher of the fields. -/
theorem build_keepFields (files : FileTree) :
    { newForm {} files "" "out" with inputs := keepFields }.build =
      .ok { name := "spring", key := some "" } := by
  have hread : Draft.toVoucher keepFields (.text "") .null =
      .ok { name := "spring", key := some "" } := by rfl
  exact bind_eq_ok.mpr ⟨_, hread, by rfl⟩

/-- A reply with one code brings it to the order. -/
theorem bringsCodes_keepOrder (files : FileTree) :
    BringsCodes (Desk.create {} false files) keepOrder { name := "spring", key := some "" }
      (.answered 200 Form.codeText) [.text "code-1"] where
  asked := by
    have hfill : keepFields.foldlM (fun f p => f.setField p.1 p.2) (newForm {} files "" "out") =
        .ok { newForm {} files "" "out" with inputs := keepFields } := rfl
    have hbegin := begin_of_build hfill (build_keepFields files) false true
    rw [keepOrder, (waitsAlone_begin (congrArg Turn.next hbegin)).isOpen]
    exact List.mem_singleton_self _
  granted := ⟨"", Form.envelopeOf_codeText _⟩
  nonempty := List.cons_ne_nil _ _

/-- The code that comes is kept where there is nothing in the way. -/
theorem delivers_kept_code :
    Delivers ((Desk.create {} false {}).carriedOut keepOrder (.answered 200 Form.codeText) none)
      {} "out" "spring" ["code-1"] := by
  obtain ⟨fields, key, directory, keeps, horder, hdelivers⟩ :=
    delivers_iff_not_loses invocation_keepTexts {} false {}
  cases horder
  refine ((hdelivers _ _ _ none (bringsCodes_keepOrder {}) ?_).1).mpr fun e hloses => ?_
  · rintro ⟨hasked, -⟩
    cases hasked
  · cases hloses with
    | unwritable kept fails => cases Export.write_spring.symm.trans fails
    | unanswered asks terminal ended => cases asks

/-- Where a file stands in the place of the directory the code is lost, though nobody has declined
it. -/
theorem not_delivers_under_file :
    let files : FileTree := { files := [(["out"], "x")] }
    let d := Desk.create {} false files
    ToolName.create.invocation keepTexts = .ok ⟨none, "", keepOrder⟩ ∧
      BringsCodes d keepOrder { name := "spring", key := some "" }
        (.answered 200 Form.codeText) [.text "code-1"] ∧
      ¬ IsDeclined true false none ∧
      ¬ Delivers (d.carriedOut keepOrder (.answered 200 Form.codeText) none) files "out" "spring"
        ["code-1"] := by
  intro files d
  have hbrings := bringsCodes_keepOrder files
  have hwrite : Export.write files "out" "spring" ["code-1"] =
      .error (.file .exists) := by
    simp only [Export.write, Export.pathParts_out]
    rfl
  have houtcome := outcome_of_bringsCodes hbrings none
  refine ⟨invocation_keepTexts, hbrings, ?_, ?_⟩
  · rintro ⟨hasked, -⟩
    cases hasked
  · exact (houtcome.leaves_of_loses (.unwritable (Or.inl rfl) hwrite)).not_delivers
      (List.cons_ne_nil _ _)

end Console.Desk

end VoucherDesk
