import VoucherDesk.Failure

/-!
# Files

The files that a program sees: texts and directories, placed from the working directory or from
the root. A path is walked part by part, two dots going one directory up, and the directories
above the working directory are always there. Writing a file replaces what it held; making a
directory makes the ones above it too. The home directories are known by what a path begins with
that starts in one, a tilde or a tilde and a name.
-/

namespace VoucherDesk

/-- A place from the working directory, which begins with two dots for every directory that it
lies above; an absolute place begins with a slash of its own. -/
abbrev Place := List String

/-- The files and directories at their places, and the paths of the home directories. -/
structure FileTree where
  files : List (Place × String) := []
  directories : List Place := []
  homes : String → Option String := fun _ => none

namespace FileTree

/-- The root that a path begins with: two slashes are another root than one, but more are not. -/
def rootOf : List Char → List String
  | '/' :: '/' :: '/' :: _ => ["/"]
  | '/' :: '/' :: _ => ["//"]
  | '/' :: _ => ["/"]
  | _ => []

/-- What stands between slashes; empty parts and single dots say nothing. -/
def segments (path : List Char) : List String :=
  ((path.splitOn '/').filter fun p => p != [] && p != ['.']).map String.ofList

/-- The parts of a path: its root, if it has one, and what stands between its slashes. -/
def pathParts (path : String) : List String := rootOf path.toList ++ segments path.toList

/-- A path written without what says nothing. -/
def pathText (parts : List String) : String :=
  match parts with
  | [] => "."
  | "/" :: rest => "/" ++ "/".intercalate rest
  | "//" :: rest => "//" ++ "/".intercalate rest
  | _ => "/".intercalate parts

/-- The place of the directory above a place; the root has none above it. -/
def up (here : Place) : Place :=
  if here = ["/"] then here
  else if here.all (· == "..") then here ++ [".."]
  else here.dropLast

/-- The place that a part of a path names in a directory; files have one root only. -/
def next (here : Place) (part : String) : Place :=
  if part = ".." then up here
  else if part = "//" then here ++ ["/"]
  else here ++ [part]

/-- The text of the file at a place. -/
def read? (tree : FileTree) (place : Place) : Option String := tree.files.lookup place

/-- Whether there is a directory at a place. -/
def isDirectory (tree : FileTree) (place : Place) : Bool :=
  place.all (· == "..") || place == ["/"] || tree.directories.contains place
    || tree.files.any fun f => place.isPrefixOf f.1 && place.length < f.1.length

/-- The longest name that a file may have, in bytes. -/
def maxNameBytes : Nat := 255

/-- The place that a path leads to from a directory, with an error for a part that is missing or
is no directory; the last part may be missing. -/
def walk (tree : FileTree) : Place → List String → Except FileError Place
  | here, [] => .ok here
  | here, part :: rest =>
    if !tree.isDirectory here then
      .error (if (tree.read? here).isSome then .notADirectory else .notFound)
    else if maxNameBytes < part.utf8ByteSize then .error .nameTooLong
    else tree.walk (next here part) rest

/-- The text with line feeds for all line ends. -/
def withLineFeeds : List Char → List Char
  | '\r' :: '\n' :: rest => '\n' :: withLineFeeds rest
  | '\r' :: rest => '\n' :: withLineFeeds rest
  | c :: rest => c :: withLineFeeds rest
  | [] => []

/-- The text of the file that a path leads to, if it leads to a file. -/
def readText (tree : FileTree) (parts : List String) : Except FileError (Option String) :=
  match tree.walk [] parts with
  | .ok place =>
    if tree.isDirectory place then .ok none
    else .ok ((tree.read? place).map fun s => String.ofList (withLineFeeds s.toList))
  | .error .nameTooLong => .error .nameTooLong
  | .error _ => .ok none

/-- Makes the directory that one more part of a path names, unless it is there. -/
def enter (tree : FileTree) (here : Place) (part : String) (isLast : Bool) :
    Except FileError (FileTree × Place) :=
  if maxNameBytes < part.utf8ByteSize then .error .nameTooLong
  else
    let place := next here part
    if tree.isDirectory place then .ok (tree, place)
    else if (tree.read? place).isSome then .error (if isLast then .exists else .notADirectory)
    else .ok ({ tree with directories := tree.directories ++ [place] }, place)

/-- Makes a directory with all directories on the way to it. -/
def makeDirectory (tree : FileTree) : Place → List String → Except FileError (FileTree × Place)
  | here, [] => .ok (tree, here)
  | here, part :: rest => do
    let (tree, place) ← tree.enter here part rest.isEmpty
    tree.makeDirectory place rest

/-- Puts a text at a place, instead of what was there. -/
def put (tree : FileTree) (place : Place) (text : String) : FileTree :=
  { tree with files := (tree.files.filter fun f => f.1 != place) ++ [(place, text)] }

/-- Writes a file into a directory. -/
def write (tree : FileTree) (directory : Place) (name text : String) :
    Except FileError FileTree :=
  let place := directory ++ [name]
  if maxNameBytes < name.utf8ByteSize then .error .nameTooLong
  else if tree.isDirectory place then .error .isADirectory
  else .ok (tree.put place text)

/-- The files below the working directory that are new or differ from those of an earlier tree, by
path. -/
def changedSince (tree earlier : FileTree) : List (String × String) :=
  tree.files.filterMap fun (place, text) =>
    if place.head? = some "/" ∨ place.head? = some ".." ∨ earlier.read? place = some text then none
    else some (pathText place, text)

end FileTree

end VoucherDesk
