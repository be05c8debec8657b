import VoucherDesk.Arguments.Basic

/-!
# Help texts

The usage of a command line names its arguments in brackets, on lines of at most 78
characters with a hanging indent; what stands by itself begins a line of its own when one
line does not do. The help text adds the description, a section for what stands by itself,
a section for the named arguments, and the notes. Help texts of arguments stand in one
column, on the line of the argument where that has room.
-/

namespace VoucherDesk.Arguments

/-- The most characters on a line. -/
def lineWidth : Nat := 78

/-- The rightmost column of help texts. -/
def helpColumn : Nat := 24

/-- A number of spaces. -/
def spaces (n : Nat) : String := "".pushn ' ' n

/-- What begins a usage. -/
def usageStart : String := "usage: "

/-- The pieces of a usage for a named argument, which are not torn apart. -/
def Named.usagePieces (n : Named) : List String :=
  let name := n.names.headD ""
  let whole := if n.takesWord then [name, n.placeholder] else [name]
  if n.isRequired then whole else ["[" ++ " ".intercalate whole ++ "]"]

/-- How commands are named in a usage. -/
def choicesText (choices : List (String × String)) : String :=
  "\x7b" ++ ",".intercalate (choices.map Prod.fst) ++ "\x7d"

/-- The pieces of a usage for what stands by itself. -/
def Standing.usagePieces : Standing → List String
  | .nothing => []
  | .word field => [field]
  | .command _ choices => [choicesText choices, "..."]

/-- Pieces on lines that begin after an indent; `line` holds the pieces on the current line from
the last on, and `used` the characters that it takes with a space after it. -/
def fillLines (indent : Nat) :
    (line : List String) → (used : Nat) → List String → List (List String)
  | line, _, [] => if line.isEmpty then [] else [line.reverse]
  | line, used, piece :: rest =>
    if lineWidth < used + piece.length && !line.isEmpty then
      line.reverse :: fillLines indent [piece] (indent + piece.length + 1) rest
    else fillLines indent (piece :: line) (used + piece.length + 1) rest

/-- The usage of a command line. -/
def Parser.usage (p : Parser) : String :=
  let named := p.allNamed.flatMap Named.usagePieces
  let standing := p.standing.usagePieces
  let start := usageStart ++ p.program
  let oneLine := " ".intercalate (start :: (named ++ standing))
  if oneLine.length ≤ lineWidth then oneLine
  else
    let indent := start.length + 1
    let first := fillLines indent [start] indent named
    let lines := first ++ fillLines indent [] indent standing
    ("\n" ++ spaces indent).intercalate (lines.map fun pieces => " ".intercalate pieces)

/-- How a named argument is shown in the help text. -/
def Named.shown (n : Named) : String :=
  ", ".intercalate <| n.names.map fun name =>
    if n.takesWord then name ++ " " ++ n.placeholder else name

/-- An entry of a section: its indent, what it shows and its help text. -/
structure Entry where
  indent : Nat
  shown : String
  help : String

/-- The entries for what stands by itself. -/
def Standing.entries : Standing → List Entry
  | .nothing => []
  | .word field => [⟨2, field, ""⟩]
  | .command _ choices =>
    ⟨2, choicesText choices, ""⟩ :: choices.map fun (name, help) => ⟨4, name, help⟩

/-- The entries for the named arguments. -/
def Parser.entries (p : Parser) : List Entry :=
  p.allNamed.map fun n => ⟨2, n.shown, n.help⟩

/-- An entry with its help text in a column. -/
def Entry.text (column : Nat) (e : Entry) : String :=
  let start := spaces e.indent ++ e.shown
  if e.help.isEmpty then start
  else if start.length + 2 ≤ column then start ++ spaces (column - start.length) ++ e.help
  else start ++ "\n" ++ spaces column ++ e.help

/-- A section with its heading, if it has entries. -/
def listing? (column : Nat) (heading : String) (entries : List Entry) : Option String :=
  if entries.isEmpty then none
  else some ("\n".intercalate ((heading ++ ":") :: entries.map (Entry.text column)))

/-- The help text of a command line. -/
def Parser.help (p : Parser) : String :=
  let standing := p.standing.entries
  let widest := ((standing ++ p.entries).map fun e => e.shown.length).foldl max 0
  let column := min (widest + 4) helpColumn
  let text? (s : String) : Option String := if s.isEmpty then none else some s
  let parts := [some p.usage, text? p.description, listing? column "positional arguments" standing,
    listing? column "options" p.entries, text? p.notes]
  "\n\n".intercalate (parts.filterMap id) ++ "\n"

/-- What is written when a command line is not carried out. -/
def Parser.stopText (p : Parser) : Stop → String
  | .help => p.help
  | .refused message => p.usage ++ "\n" ++ p.program ++ ": error: " ++ message ++ "\n"

/-- The exit code when a command line is not carried out. -/
def Stop.exitCode : Stop → Int
  | .help => 0
  | .refused _ => 2

end VoucherDesk.Arguments
