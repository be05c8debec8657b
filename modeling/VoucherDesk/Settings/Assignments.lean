import VoucherDesk.Text.Blank

/-!
# Assignments of a settings file

A settings file holds lines `NAME=value`, with an optional `export` before the name and an
optional comment after the value. A value stands bare, in single quotes or in double
quotes, and quoted values may run over several lines. A line that does not parse is passed
over. In every value `${NAME}` and `${NAME:-default}` stand for the value of a name set
earlier in the file or, failing that, in the environment.
-/

namespace VoucherDesk.Settings

/-- A blank that does not end a line. -/
def isInlineBlank (c : Char) : Bool := Text.isBlank c && c != '\n' && c != '\r'

/-- The characters before the end of the line. -/
private def lineOf (cs : List Char) : List Char := cs.takeWhile fun c => c != '\n' && c != '\r'

/-- What follows the end of the current line. -/
private def afterLine (cs : List Char) : List Char :=
  match cs.drop (lineOf cs).length with
  | '\r' :: rest => rest
  | '\n' :: rest => rest
  | rest => rest

/-- Drops `export` and the blanks after it, when it has some. -/
private def dropExport (cs : List Char) : List Char :=
  let word := "export".toList
  let rest := cs.drop word.length
  if word.isPrefixOf cs && rest.head?.any isInlineBlank then rest.dropWhile isInlineBlank else cs

/-- The name of an assignment; a comment has none. -/
private def readName (cs : List Char) : Option (Option String × List Char) :=
  match cs with
  | '#' :: _ => some (none, cs)
  | '\'' :: rest =>
    let name := rest.takeWhile (· != '\'')
    match rest.drop name.length with
    | '\'' :: after => if name.isEmpty then none else some (some (String.ofList name), after)
    | _ => none
  | _ =>
    let name := cs.takeWhile fun c => c != '=' && c != '#' && !Text.isBlank c
    if name.isEmpty then none else some (some (String.ofList name), cs.drop name.length)

/-- Where a quoted text ends: at the first quote that no backslash precedes, or else at the last
one that a backslash precedes. -/
private def closingQuote (quote : Char) :
    (place : Nat) → (last : Option Nat) → List Char → Option Nat
  | _, last, [] => last
  | place, last, '\\' :: c :: rest =>
    if c = quote then closingQuote quote (place + 2) (some (place + 1)) rest
    else closingQuote quote (place + 1) last (c :: rest)
  | place, last, c :: rest =>
    if c = quote then some place else closingQuote quote (place + 1) last rest

/-- Replaces the escapes of a quoted text that the table knows. -/
private def unescape (table : List (Char × Char)) : List Char → List Char
  | '\\' :: c :: rest =>
    match table.lookup c with
    | some x => x :: unescape table rest
    | none => '\\' :: unescape table (c :: rest)
  | c :: rest => c :: unescape table rest
  | [] => []

/-- The escapes inside single quotes. -/
private def singleEscapes : List (Char × Char) := [('\\', '\\'), ('\'', '\'')]

/-- The escapes inside double quotes. -/
private def doubleEscapes : List (Char × Char) :=
  [('\\', '\\'), ('\'', '\''), ('"', '"'), ('a', '\x07'), ('b', '\x08'), ('f', '\x0c'),
    ('n', '\n'), ('r', '\r'), ('t', '\t'), ('v', '\x0b')]

/-- A text up to its closing quote, and what follows the quote. -/
private def readQuoted (quote : Char) (table : List (Char × Char)) (cs : List Char) :
    Option (String × List Char) :=
  (closingQuote quote 0 none cs).map fun place =>
    (String.ofList (unescape table (cs.take place)), cs.drop (place + 1))

/-- The part of a bare value before a comment: blanks and then a number sign begin one. -/
private def beforeComment : List Char → List Char
  | [] => []
  | c :: rest =>
    if Text.isBlank c && (rest.dropWhile Text.isBlank).head? == some '#' then []
    else c :: beforeComment rest

/-- The value of an assignment. -/
private def readAssigned (cs : List Char) : Option (String × List Char) :=
  match cs with
  | '\'' :: rest => readQuoted '\'' singleEscapes rest
  | '"' :: rest => readQuoted '"' doubleEscapes rest
  | _ =>
    let line := lineOf cs
    let bare := ((beforeComment line).reverse.dropWhile Text.isBlank).reverse
    some (String.ofList bare, cs.drop line.length)

/-- What follows an optional comment and the end of the line. -/
private def readLineEnd (cs : List Char) : Option (List Char) :=
  let spaced := cs.dropWhile isInlineBlank
  let rest := match spaced with
    | '#' :: _ => spaced.drop (lineOf spaced).length
    | _ => spaced
  match rest with
  | [] => some []
  | '\r' :: '\n' :: after => some after
  | '\r' :: after => some after
  | '\n' :: after => some after
  | _ => none

/-- One assignment and what follows its line; an assignment without `=` has no value. -/
private def readAssignment (cs : List Char) : Option (String × Option String) × List Char :=
  let start := dropExport (cs.dropWhile Text.isBlank)
  match readName start with
  | none => (none, afterLine start)
  | some (name, rest) =>
    let rest := rest.dropWhile isInlineBlank
    let finish (value : Option String) (rest : List Char) :=
      match readLineEnd rest with
      | some after => (name.map fun n => (n, value), after)
      | none =>
        let spaced := rest.dropWhile isInlineBlank
        (none, afterLine (if spaced.head? == some '#' then spaced else rest))
    match rest with
    | '=' :: after =>
      let after := after.dropWhile isInlineBlank
      match readAssigned after with
      | none => (none, afterLine after)
      | some (value, rest) => finish (some value) rest
    | _ => finish none rest

/-- The assignments from a place on. -/
private def readAssignments : (fuel : Nat) → List Char → List (String × Option String)
  | 0, _ => []
  | fuel + 1, cs =>
    if cs.all Text.isBlank then []
    else
      let (found, rest) := readAssignment cs
      found.toList ++ readAssignments fuel rest

/-- The assignments of a settings file as they are written, in order. -/
def assignments (text : String) : List (String × Option String) :=
  readAssignments (text.length + 1) text.toList

/-- One part of a value: plain text, or a name with a default. -/
private def expandFrom (env : String → Option String) : (fuel : Nat) → List Char → List Char
  | 0, _ => []
  | _, [] => []
  | fuel + 1, '$' :: '\x7b' :: rest =>
    let name := rest.takeWhile fun c => c != '\x7d' && c != ':'
    let after := rest.drop name.length
    let value (default : List Char) := ((env (String.ofList name)).map String.toList).getD default
    match after with
    | '\x7d' :: tail => value [] ++ expandFrom env fuel tail
    | ':' :: '-' :: more =>
      let default := more.takeWhile (· != '\x7d')
      match more.drop default.length with
      | '\x7d' :: tail => value default ++ expandFrom env fuel tail
      | _ => '$' :: expandFrom env fuel ('\x7b' :: rest)
    | _ => '$' :: expandFrom env fuel ('\x7b' :: rest)
  | fuel + 1, c :: rest => c :: expandFrom env fuel rest

/-- The value with the names in it replaced; an unknown name without a default is nothing. -/
def expand (env : String → Option String) (value : String) : String :=
  String.ofList (expandFrom env (value.length + 1) value.toList)

/-- The names that a settings file sets, with their values expanded; the last setting of a name
counts. -/
def fileValues (env : List (String × String)) (text : String) : List (String × Option String) :=
  (assignments text).foldl (fun done (name, value) =>
    let known (n : String) : Option String :=
      match done.find? fun p => p.1 == n with
      | some (_, v) => some (v.getD "")
      | none => env.lookup n
    let entry := (name, value.map (expand known))
    if done.any fun p => p.1 == name then
      done.map fun p => if p.1 == name then entry else p
    else done ++ [entry]) []

end VoucherDesk.Settings
