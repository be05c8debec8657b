import VoucherDesk.FileTree
import VoucherDesk.Text.Blank

/-!
# Export of codes

Generated codes are written to a text file, one code a line. The file is named after the
voucher, with an underscore for every character that could lead out of the directory, and
without blanks around the name. A tilde at the beginning of the path of a directory stands for a
home directory; a path that begins so and in no home directory is refused.
-/

namespace VoucherDesk.Export

/-- The codes, each on a line of its own. -/
def textOf (codes : List String) : String := String.join (codes.map (· ++ "\n"))

/-- A character of a file name: both slashes and the null character are not allowed. -/
def safeChar (c : Char) : Char :=
  if c = '/' ∨ c = '\\' ∨ c = '\x00' then '_' else c

/-- The name of the file for the codes of a voucher. -/
def fileName (name : String) : String :=
  let safe := Text.trim (name.map safeChar)
  (if safe.isEmpty then "redemption" else safe) ++ ".txt"

/-- The path of a file in a directory. -/
def pathOf (directory : List String) (file : String) : String :=
  FileTree.pathText (directory ++ [file])

/-- The parts of a path with the home directory for a first part that begins with a tilde, unless
there is none or it begins with a tilde itself. -/
def expand (homes : String → Option String) : List String → Option (List String)
  | [] => some []
  | first :: rest =>
    if first.toList.head? = some '~' then
      match homes first with
      | some home =>
        if home.toList.head? = some '~' then none else some (FileTree.pathParts home ++ rest)
      | none => none
    else some (first :: rest)

/-- Writes the codes of a voucher into a directory, and tells the path of the file. -/
def write (tree : FileTree) (directory : String) (name : String) (codes : List String) :
    Except Failure (FileTree × String) :=
  match expand tree.homes (FileTree.pathParts directory) with
  | none => .error .noHome
  | some parts =>
    if parts.any (·.toList.contains '\x00') then .error .nullInPath
    else match tree.makeDirectory [] parts with
      | .error e => .error (.file e)
      | .ok (tree, place) =>
        match tree.write place (fileName name) (textOf codes) with
        | .error e => .error (.file e)
        | .ok tree => .ok (tree, pathOf parts (fileName name))

end VoucherDesk.Export
