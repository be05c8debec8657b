import VoucherDesk.FileTree
import VoucherDesk.Voucher.When
import VoucherDesk.Text.Numeral

/-!
# Arguments of a command line

A command line has named arguments, which may come in any order, and at most one kind of
argument that stands by itself: a word, or a command with a command line of its own. A named
argument asks for help, sets a flag, or takes a word that is read in a given way.
-/

namespace VoucherDesk.Arguments

/-- How the word of an argument is read. -/
inductive WordKind where
  | plain
  | path
  | wholeNumber
  | moment
  deriving DecidableEq, Repr

/-- What a word denotes, or what is wrong with it. -/
def WordKind.read (s : String) : WordKind → Except String Value
  | .plain => .ok (.text s)
  | .path => .ok (.text (FileTree.pathText (FileTree.pathParts s)))
  | .wholeNumber =>
    match Text.plainNumber? s with
    | some n => .ok (.int n)
    | none => .error ("invalid int value: " ++ Text.quoted s)
  | .moment => (When.read s).mapError Failure.text

/-- What a named argument does. -/
inductive Action where
  | help
  | flag (value : Bool)
  | word (kind : WordKind)
  deriving DecidableEq, Repr

/-- A named argument. -/
structure Named where
  /-- The names, the one for the usage first. -/
  names : List String
  /-- The field that it sets. -/
  field : String
  action : Action
  isRequired : Bool := false
  help : String := ""

namespace Named

/-- The argument that asks for help. -/
def helpArgument : Named where
  names := ["-h", "--help"]
  field := "help"
  action := .help
  help := "show this help message and exit"

/-- All names of an argument. -/
def title (n : Named) : String := "/".intercalate n.names

/-- Whether an argument takes a word. -/
def takesWord (n : Named) : Bool :=
  match n.action with
  | .word _ => true
  | _ => false

/-- What stands for the word of an argument. -/
def placeholder (n : Named) : String := n.field.map Char.toUpper

end Named

/-- What stands by itself on a command line. -/
inductive Standing where
  | nothing
  /-- A word for a field. -/
  | word (field : String)
  /-- A command for a field, with the names and help texts of all commands. -/
  | command (field : String) (choices : List (String × String))

/-- A command line. -/
structure Parser where
  program : String
  named : List Named
  standing : Standing := .nothing
  description : String := ""
  notes : String := ""

namespace Parser

/-- All named arguments, the one for help first. -/
def allNamed (p : Parser) : List Named := .helpArgument :: p.named

/-- All names with their arguments. -/
def allNames (p : Parser) : List (String × Named) :=
  p.allNamed.flatMap fun n => n.names.map fun name => (name, n)

end Parser

/-- A command line with the command lines of its commands. -/
structure Tool where
  parser : Parser
  commands : List (String × Parser) := []

/-- Why a command line is not carried out. -/
inductive Stop where
  /-- Help is asked for. -/
  | help
  /-- The arguments are refused. -/
  | refused (message : String)
  deriving DecidableEq, Repr

end VoucherDesk.Arguments
