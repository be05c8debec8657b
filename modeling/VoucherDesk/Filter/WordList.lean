import VoucherDesk.Pattern.Search
import VoucherDesk.Failure
import VoucherDesk.Log

/-!
# Word lists

A word list is one text with an entry on each line. An entry that begins with `regex:`
holds a pattern, any other line that is not blank is a word. A list read for use leaves out
the patterns that are none, with a warning for each; a list read for display keeps every
entry, with the message of its error.
-/

namespace VoucherDesk

/-- A list of words and patterns. -/
structure WordList where
  words : List String := []
  patterns : List String := []
  deriving DecidableEq, Repr

/-- What the line of a pattern begins with. -/
def patternMark : String := "regex:"

/-- An entry of a word list as it is shown. -/
structure WordEntry where
  line : String
  isPattern : Bool := false
  error : Option String := none
  deriving DecidableEq, Repr

namespace WordList

/-- The lines of a text, cut at line feeds only. -/
def lines (text : String) : List (List Char) := split [] text.toList
where
  /-- The lines of the rest of a text after the reversed start of a line. -/
  split (start : List Char) : List Char → List (List Char)
    | [] => [start.reverse]
    | c :: rest => if c = '\n' then start.reverse :: split [] rest else split (c :: start) rest

/-- The warning about a pattern that is left out. -/
def droppedWarning (p : String) (e : Pattern.Error) : LogEntry :=
  ⟨.warning, .words,
    "Dropping invalid sensitive-word pattern " ++ Text.quoted p ++ ": " ++ e.message p⟩

/-- Reads lines after what has been read before. A pattern that is none is left out with a
warning; one that is refused for more than its form ends the reading, and the warnings given so
far stay. -/
def readLines (l : WordList) (log : List LogEntry) :
    List (List Char) → Except Failure WordList × List LogEntry
  | [] => (.ok l, log)
  | raw :: rest =>
    let line := Text.trimChars raw
    if line.isEmpty then readLines l log rest
    else if patternMark.toList.isPrefixOf line then
      let pattern := String.ofList (line.drop patternMark.length)
      match Pattern.ofText pattern with
      | .error (.syntaxError e) => readLines l (log ++ [droppedWarning pattern e]) rest
      | .error refusal => (.error (.pattern refusal pattern), log)
      | .ok _ => readLines { l with patterns := l.patterns ++ [pattern] } log rest
    else readLines { l with words := l.words ++ [String.ofList line] } log rest

/-- The list that a text holds, with the warnings. -/
def ofText (text : String) : Except Failure WordList × List LogEntry :=
  readLines {} [] (lines text)

/-- The text of a list: the words, then the patterns with their mark, each on a line. -/
def toText (l : WordList) : String :=
  String.join ((l.words ++ l.patterns.map (patternMark ++ ·)).map (· ++ "\n"))

/-- Whether a word occurs in a text. -/
def occursIn (word : List Char) : List Char → Bool
  | [] => word.isEmpty
  | c :: rest => word.isPrefixOf (c :: rest) || occursIn word rest

/-- The patterns of a list that are found in a text; a pattern that is none is an error. -/
def patternHits (text : String) : List String → Except Failure (List String)
  | [] => .ok []
  | p :: rest =>
    match Pattern.ofText p with
    | .error refusal => .error (.pattern refusal p)
    | .ok compiled =>
      let found := compiled.isFoundIn text
      match patternHits text rest with
      | .error e => .error e
      | .ok hits => .ok (if found then p :: hits else hits)

/-- The entries of a list that hit a text, words first and patterns with their mark. -/
def matchesIn (l : WordList) (text : String) : Except Failure (List String) :=
  (patternHits text l.patterns).map fun hits =>
    l.words.filter (fun w => occursIn w.toList text.toList) ++ hits.map (patternMark ++ ·)

/-- Lists lines after the entries that have been listed before, as they are shown. A pattern that
is none keeps its place with the message of its error; one that is refused for more than its form
ends the listing. -/
def showLines (shown : List WordEntry) : List (List Char) → Except Failure (List WordEntry)
  | [] => .ok shown
  | raw :: rest =>
    let line := Text.trimChars raw
    if line.isEmpty then showLines shown rest
    else if !patternMark.toList.isPrefixOf line then
      showLines (shown ++ [{ line := String.ofList line }]) rest
    else
      let pattern := String.ofList (line.drop patternMark.length)
      let entry : WordEntry := { line := String.ofList line, isPattern := true }
      match Pattern.ofText pattern with
      | .ok _ => showLines (shown ++ [entry]) rest
      | .error (.syntaxError e) =>
        showLines (shown ++ [{ entry with error := some (e.message pattern) }]) rest
      | .error refusal => .error (.pattern refusal pattern)

/-- The entries of a text in order, as they are shown. -/
def entries (text : String) : Except Failure (List WordEntry) :=
  showLines [] (lines text)

/-- A text that may be missing: what counts as false is empty, what is no text has no lines. -/
def textOf (v : Value) : Except Failure String :=
  if !v.isTruthy then .ok ""
  else match v with
    | .text s => .ok s
    | _ => .error .noAttribute

end WordList

end VoucherDesk
