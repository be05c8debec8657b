import VoucherDesk.Options.Batch
import VoucherDesk.Filter.FilterSettings
import VoucherDesk.Filter.WordList

/-!
# The panel of the word filter

The option store holds the options as they were loaded last and hands every new set of them
to its watchers in order, the first failure of a watcher ending the round. The panel is such
a watcher: it takes the three options that it owns, unless they cannot be read, as what was
loaded and as what is edited. Submitting saves the edits that differ from what was loaded,
and reloads the store.
-/

namespace VoucherDesk

open Dialogue

/-- Who is told of new options. -/
inductive Watcher where
  | panel
  /-- A watcher with a number, and the failure with which it always ends, if it does. -/
  | other (number : Nat) (fails : Option Failure)

/-- Whether a watcher is the panel. -/
def Watcher.isPanel : Watcher → Bool
  | .panel => true
  | .other .. => false

/-- Whether a watcher has a number. -/
def Watcher.hasNumber (n : Nat) : Watcher → Bool
  | .panel => false
  | .other m _ => m = n

/-- The options as they were loaded last, with who watches them. -/
structure OptionStore where
  options : Fields := []
  watchers : List Watcher := []
  /-- How many watchers besides the panel there have been. -/
  numbered : Nat := 0

/-- The panel of the word filter with its option store. -/
structure Panel where
  store : OptionStore := {}
  /-- The options as they are edited. -/
  inputs : Fields := FilterSettings.toOptions {}
  /-- The options as they were loaded. -/
  loaded : Fields := FilterSettings.toOptions {}
  loading : Bool := false

namespace Panel

/-- The options that the panel owns. -/
def owned (options : Fields) : Fields :=
  FilterSettings.optionKeys.filterMap fun key => (options.get? key).map fun v => (key, v)

/-- Takes new options, unless the owned ones cannot be read. -/
def sync (p : Panel) (options : Fields) : Panel × List Effect :=
  match FilterSettings.ofFields (owned options) with
  | .ok s => ({ p with inputs := s.toOptions, loaded := s.toOptions }, [])
  | .error problems =>
    (p, [.log ⟨.error, .panel, "Ignoring malformed sensitive-word options: "
      ++ Problem.countText problems "SensitiveWordSettings"⟩])

/-- What an operation leaves: the panel, the effects in order, and the result. -/
structure Step (α : Type) where
  panel : Panel
  effects : List Effect := []
  result : Except Failure α

/-- Hands the options of the store to a watcher. -/
def tell (p : Panel) : Watcher → Step Unit
  | .panel =>
    let (panel, effects) := p.sync p.store.options
    { panel, effects, result := .ok () }
  | .other n fails =>
    { panel := p, effects := [.published n p.store.options],
      result := match fails with
        | some e => .error e
        | none => .ok () }

/-- Hands the options of the store to watchers in order, up to the first that fails. -/
def tellAll (p : Panel) : List Watcher → Step Unit
  | [] => { panel := p, result := .ok () }
  | w :: rest =>
    let step := p.tell w
    match step.result with
    | .error _ => step
    | .ok _ =>
      let last := step.panel.tellAll rest
      { last with effects := step.effects ++ last.effects }

/-- Puts new options into the store and tells all watchers. -/
def replace (p : Panel) (options : Fields) : Step Unit :=
  { p with store := { p.store with options } }.tellAll p.store.watchers

/-- Adds a watcher, which is told at once. -/
def subscribe (p : Panel) (fails : Option Failure) : Step Unit :=
  let w := Watcher.other p.store.numbered fails
  let store := { p.store with
    watchers := p.store.watchers ++ [w], numbered := p.store.numbered + 1 }
  { p with store }.tell w

/-- Takes the watcher with a number away. -/
def unsubscribe (p : Panel) (n : Nat) : Panel :=
  { p with store := { p.store with watchers := p.store.watchers.filter fun w => !w.hasNumber n } }

/-- Takes the panel away from the watchers. -/
def close (p : Panel) : Panel :=
  { p with store := { p.store with watchers := p.store.watchers.filter fun w => !w.isPanel } }

/-- A panel that watches a store with given options. -/
def create (options : Fields) : Panel × List Effect :=
  let p : Panel := { store := { options, watchers := [.panel] } }
  p.sync options

/-- Edits an option that the panel owns. -/
def setField (p : Panel) (key : String) (value : Value) : Except Failure Panel :=
  if FilterSettings.optionKeys.contains key then .ok { p with inputs := p.inputs.put key value }
  else .error (.missingKey (Text.quoted key))

/-- The settings that the edited options make. -/
def settings (p : Panel) : Except Failure FilterSettings :=
  (FilterSettings.ofFields p.inputs).mapError .unreadable

/-- The edited word list as a value. -/
def wordsValue (p : Panel) : Value := (p.inputs.get? FilterSettings.wordsKey).getD (.text "")

/-- The edited word list, with the warnings about it. -/
def wordList (p : Panel) : Except Failure WordList × List LogEntry :=
  match WordList.textOf p.wordsValue with
  | .ok text => WordList.ofText text
  | .error e => (.error e, [])

/-- What can be asked of a panel and its store. -/
inductive Call where
  | load
  | replace (options : Fields)
  | sync (options : Fields)
  | setField (key : String) (value : Value)
  | submit
  | close
  | subscribe (fails : Option Failure)
  | unsubscribe (number : Nat)
  /-- Changes one option of the store in place, which is not allowed. -/
  | assign (key : String) (value : Value)

/-- Where a call of a panel waits. -/
inductive Stage where
  /-- For the option list. -/
  | loading
  /-- For the replies of its batch. -/
  | collecting (b : Batch)
  /-- For its turn, all replies being there. -/
  | settling (b : Batch)
  /-- For the option list after a save. -/
  | reloading

/-- What a call of a panel gives. -/
inductive Result where
  | nothing
  | options (fields : Fields)
  | outcome (o : Outcome)

/-- A turn of a call of a panel. -/
abbrev PanelTurn := Turn Panel Stage Result

/-- Takes the option list of a reply into the store. -/
def take (p : Panel) (r : Reply) : Step Unit :=
  match Query.optionsOf r with
  | .error e => { panel := p, result := .error e }
  | .ok options =>
    let step := p.replace options
    let entry : Effect := .log ⟨.debug, .store, "Loaded " ++ toString options.length ++ " options"⟩
    { step with effects := entry :: step.effects }

/-- Ends a call with the result of a step. -/
def endWith (step : Step Unit) (result : Result) : PanelTurn :=
  (Turn.finish step.panel (step.result.map fun _ => result)).after step.effects

/-- Ends a submission and lets the next one in. -/
def endSubmit (p : Panel) (r : Except Failure Outcome) : PanelTurn :=
  .finish { p with loading := false } (r.map .outcome)

/-- Begins a submission of the edits that differ from what was loaded. -/
def submit (p : Panel) : PanelTurn :=
  match Changes.between p.inputs p.loaded with
  | [] => (Turn.finish p (.ok (.outcome .unchanged))).after [.warning "Nothing was changed"]
  | changes =>
    match Batch.accept p.loading (changes.map fun c => .text c.name) p.inputs with
    | .ends effects r => (Turn.finish p (r.map .outcome)).after effects
    | .sends b => { state := { p with loading := true }, next := .waits b.asks (.collecting b) }

/-- Reloads the options after a saved batch. -/
def saved (p : Panel) : PanelTurn := .waitFor p (.query .listOptions) .reloading

/-- Ends a submission with the reply to its reload. -/
def reloaded (p : Panel) (r : Reply) : PanelTurn :=
  let step := p.take r
  let (effects, outcome) := Batch.afterRefresh step.result
  (step.panel.endSubmit outcome).after (step.effects ++ effects)

/-- The first turn of a call. -/
def begin (p : Panel) : Call → PanelTurn
  | .load => .waitFor p (.query .listOptions) .loading
  | .replace options => endWith (p.replace options) .nothing
  | .sync options =>
    let (q, effects) := p.sync options
    (Turn.finish q (.ok .nothing)).after effects
  | .setField key value =>
    match p.setField key value with
    | .ok q => .finish q (.ok .nothing)
    | .error e => .finish p (.error e)
  | .submit => p.submit
  | .close => .finish p.close (.ok .nothing)
  | .subscribe fails => endWith (p.subscribe fails) .nothing
  | .unsubscribe n => .finish (p.unsubscribe n) (.ok .nothing)
  | .assign _ _ => .finish p (.error .noOperation)

/-- The next turn of a call. -/
def resume (p : Panel) : Stage → Answer → PanelTurn
  | .loading, .reply _ r =>
    let step := p.take r
    endWith step (.options step.panel.store.options)
  | .collecting b, .reply place r => b.collect p .collecting .settling place r
  | .settling b, .resumed => b.settle p.endSubmit p.saved
  | .reloading, .reply _ r => p.reloaded r
  | stage, _ => { state := p, next := .waits [] stage }

/-- The calls of a panel. -/
def controller : Controller Panel Call Stage Result where
  begin := begin
  resume := resume
  remaining
    | .loading => 1
    | .collecting b => b.missing + 2
    | .settling _ => 2
    | .reloading => 1

end Panel

end VoucherDesk
