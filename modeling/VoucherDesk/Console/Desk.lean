import VoucherDesk.Console.Order
import VoucherDesk.Form.Calls
import VoucherDesk.Options.Panel

/-!
# The desk at work

An order is carried out on a form or on the panel of the word filter, and ends with an exit
code: zero if what was to be saved is saved, one if the operator was told why not. Any other
failure goes through. Before generated codes are kept the operator is asked, unless the
order says so already; where nobody can be asked the codes are printed instead.
-/

namespace VoucherDesk.Console

open Dialogue

/-- The desk while it carries out an order. -/
structure Desk where
  settings : Settings
  /-- Whether there is an operator who can be asked. -/
  isTerminal : Bool
  form : Form
  panel : Panel := (Panel.create []).1

/-- A desk with its files. -/
def Desk.create (settings : Settings) (isTerminal : Bool) (files : FileTree) : Desk :=
  { settings, isTerminal, form := Form.create settings .null [] "" files }

/-- Where an order waits. -/
inductive Stage where
  /-- For the voucher that is to be edited. -/
  | opening (edits : Fields) (s : Form.Stage)
  /-- For the end of a submission; new codes are kept without asking if `keeps`. -/
  | submitting (keeps : Bool) (s : Form.Stage)
  /-- For the answer of the operator whether to keep codes. -/
  | asking (s : Form.Stage)
  /-- For the options, with what is to be done with them. -/
  | listing (order : Order) (s : Panel.Stage)
  /-- For the end of a submission of options. -/
  | saving (s : Panel.Stage)

/-- A turn of an order. -/
abbrev DeskTurn := Turn Desk Stage Int

namespace Desk

/-- Prints a line. -/
def say (line : String) : Effect := .printed .output line

/-- The exit code of a submission. -/
def submitCode (r : Except Failure Form.Result) : Except Failure Int :=
  r.map fun
    | .accepted true => 0
    | _ => 1

/-- Goes on with a turn of the form after the codes have been offered. -/
def endSubmit (d : Desk) (t : Form.FormTurn) : DeskTurn :=
  let next := match t.next with
    | .waits asks stage => .waits asks (.submitting false stage)
    | .ends r => .ends (submitCode r)
  { state := { d with form := t.state }, effects := t.effects, next }

/-- Whether an answer means yes. -/
def isYes (answer : String) : Bool :=
  ["y", "yes"].contains ((Text.trim answer).map Char.toLower)

/-- Tells the form whether to keep the codes. -/
def decide (d : Desk) (s : Form.Stage) (keep : Bool) : DeskTurn :=
  d.endSubmit (d.form.resume s (.ended (.ok (.bool keep))))

/-- Offers new codes: they are kept, or printed where nobody can be asked, or else the operator is
asked. -/
def offer (d : Desk) (keeps : Bool) (codes : List Value) (file : String) (s : Form.Stage) :
    DeskTurn :=
  let turn :=
    if keeps then d.decide s true
    else if !d.isTerminal then
      (d.decide s false).after (codes.map fun code => say code.plain)
    else .waitFor d (.line ("Save them to " ++ file ++ "? [y/N] ")) (.asking s)
  turn.after [say ("Generated " ++ toString codes.length ++ " code(s).")]

/-- Goes on with a turn of the form during a submission. -/
def follow (d : Desk) (keeps : Bool) (t : Form.FormTurn) : DeskTurn :=
  let d := { d with form := t.state }
  match t.next with
  | .waits [.hook .confirm [.list codes, .text file]] stage =>
    (d.offer keeps codes file stage).after t.effects
  | .waits asks stage =>
    { state := d, effects := t.effects, next := .waits asks (.submitting keeps stage) }
  | .ends r => (Turn.finish d (submitCode r)).after t.effects

/-- Fills fields of the form and submits it. -/
def fillAndSubmit (d : Desk) (keeps : Bool) (fields : Fields) (effects : Form → List Effect) :
    DeskTurn :=
  match fields.foldlM (fun f p => f.setField p.1 p.2) d.form with
  | .error e => .finish d (.error e)
  | .ok form =>
    let d := { d with form }
    (d.follow keeps form.submit).after (effects form)

/-- Goes on with a turn of the form while it is opened. -/
def followOpening (d : Desk) (edits : Fields) (t : Form.FormTurn) : DeskTurn :=
  let d := { d with form := t.state }
  let turn : DeskTurn := match t.next with
    | .waits asks stage => { state := d, next := .waits asks (.opening edits stage) }
    | .ends (.error (.fault _)) => Turn.finish d (.ok 1)
    | .ends (.error e) => .finish d (.error e)
    | .ends (.ok _) =>
      d.fillAndSubmit false edits fun form =>
        [say ("Saving redemption code " ++ form.editingId.plain ++ ": "
          ++ (Value.record form.inputs).display)]
  turn.after t.effects

/-- The lines that show the settings and the entries of the word list. -/
def filterLines (settings : FilterSettings) (entries : List WordEntry) : List String :=
  let patterns := entries.filter WordEntry.isPattern
  let invalid := patterns.filter fun e => e.error.isSome
  let flag (b : Bool) : String := if b then "true" else "false"
  [FilterSettings.enabledKey ++ ": " ++ flag settings.enabled,
    FilterSettings.onPromptKey ++ ": " ++ flag settings.onPrompt,
    "Words: " ++ toString (entries.length - patterns.length) ++ ", patterns: "
      ++ toString patterns.length ++ ", invalid patterns: " ++ toString invalid.length]
  ++ entries.map fun e =>
    match e.error with
    | some message => "  " ++ e.line ++ "    [invalid pattern, ignored: " ++ message ++ "]"
    | none => "  " ++ e.line

/-- Shows the settings of the word filter. -/
def showFilter (d : Desk) : DeskTurn :=
  let lines : Except Failure (List String) := do
    let settings ← d.panel.settings
    let text ← WordList.textOf d.panel.wordsValue
    let entries ← WordList.entries text
    return filterLines settings entries
  match lines with
  | .error e => .finish d (.error e)
  | .ok lines => (Turn.finish d (.ok 0)).after (lines.map say)

/-- Shows which words and patterns hit a text. -/
def checkText (d : Desk) (text : String) (group : Value) : DeskTurn :=
  match d.panel.settings with
  | .error e => .finish d (.error e)
  | .ok settings =>
    let remark :=
      if settings.checksPrompt group (.text d.settings.sensitiveExemptGroup) then []
      else [say "Prompt checking is disabled for this request"]
    let (list, entries) := d.panel.wordList
    let hits := list.bind fun l => l.matchesIn text
    let turn : DeskTurn := match hits with
      | .error e => .finish d (.error e)
      | .ok [] => (Turn.finish d (.ok 0)).after [say "No matches"]
      | .ok hits => (Turn.finish d (.ok 0)).after (hits.map fun hit => say ("match: " ++ hit))
    turn.after (remark ++ entries.map .log)

/-- Goes on with a turn of the panel during a submission. -/
def followSaving (d : Desk) (t : Panel.PanelTurn) : DeskTurn :=
  let next := match t.next with
    | .waits asks stage => .waits asks (.saving stage)
    | .ends r => .ends <| r.map fun
        | .outcome .saved => 0
        | .outcome .unchanged => 0
        | _ => 1
  { state := { d with panel := t.state }, effects := t.effects, next }

/-- Changes settings of the word filter, with the words of a file if there is one. -/
def setFilter (d : Desk) (fields : Fields) (words : Option String) : DeskTurn :=
  let fields := fields ++ (words.map fun s => (FilterSettings.wordsKey, Value.text s)).toList
  match fields.foldlM (fun p f => p.setField f.1 f.2) d.panel with
  | .error e => .finish d (.error e)
  | .ok panel =>
    let d := { d with panel }
    d.followSaving panel.submit

/-- Changes settings of the word filter, unless the file of the words is missing. -/
def setFilterFrom (d : Desk) (fields : Fields) : Option String → DeskTurn
  | none => d.setFilter fields none
  | some path =>
    match d.form.files.readText (FileTree.pathParts path) with
    | .error e => .finish d (.error (.file e))
    | .ok (some words) => d.setFilter fields (some words)
    | .ok none =>
      (Turn.finish d (.ok 1)).after [.printed .error ("Error: words file not found: " ++ path)]

/-- Does with the options what an order says. -/
def carryOut (d : Desk) : Order → DeskTurn
  | .checkText text group => d.checkText text group
  | .setFilter fields wordsFile => d.setFilterFrom fields wordsFile
  | _ => d.showFilter

/-- Goes on with a turn of the panel while the options are loaded; a fault is told once more. -/
def followListing (d : Desk) (order : Order) (t : Panel.PanelTurn) : DeskTurn :=
  let d := { d with panel := t.state }
  let turn : DeskTurn := match t.next with
    | .waits asks stage => { state := d, next := .waits asks (.listing order stage) }
    | .ends (.error (.fault e)) => (Turn.finish d (.ok 1)).after [.error e.message]
    | .ends (.error e) => .finish d (.error e)
    | .ends (.ok _) => d.carryOut order
  turn.after t.effects

/-- The first turn of an order. -/
def begin (d : Desk) (order : Order) : DeskTurn :=
  match order with
  | .create fields key directory keeps =>
    let form := { d.form with hooks := [.confirm], exportDirectory := directory }
    fillAndSubmit { d with form := form.reset.setKey (.text key) } keeps fields fun _ => []
  | .edit id fields =>
    let form := Form.create d.settings (.int id) [] "" d.form.files
    followOpening { d with form } fields (form.begin .openForm)
  | order => d.followListing order (d.panel.begin .load)

/-- The next turn of an order. -/
def resume (d : Desk) (stage : Stage) (a : Answer) : DeskTurn :=
  match stage, a with
  | .opening edits s, a => d.followOpening edits (d.form.resume s a)
  | .submitting keeps s, a => d.follow keeps (d.form.resume s a)
  | .asking s, .line none => d.endSubmit (d.form.resume s (.ended (.error .endOfInput)))
  | .asking s, .line (some answer) => d.decide s (isYes answer)
  | .listing order s, a => d.followListing order (d.panel.resume s a)
  | .saving s, a => d.followSaving (d.panel.resume s a)
  | stage, _ => { state := d, next := .waits [] stage }

/-- The most answers that an order takes from a stage on. -/
def remaining : Stage → Nat
  | .opening _ s => Form.controller.remaining s + 5
  | .submitting _ s => Form.controller.remaining s + 1
  | .asking _ => 1
  | .listing order s =>
    Panel.controller.remaining s
      + match order with
        | .setFilter .. => FilterSettings.optionKeys.length + 3
        | _ => 0
  | .saving s => Panel.controller.remaining s

/-- The orders of a desk. -/
def controller : Controller Desk Order Stage Int where
  begin := begin
  resume := resume
  remaining := remaining

end Desk

end VoucherDesk.Console
