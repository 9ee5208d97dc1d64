/-
  FlowProcessor.Directory — A DIRECTORY OF FILES.

  Files and directories below one directory, each under its path.  A path is read part by part:
  every part but the last has to lead to a directory.  Two points lead up, also out of the
  directory, and a slash in front leads to the top; on the way up there are only directories.

    • `Directory.read`  — the text of a file, or why there is none
    • `Directory.write` — the directory with a file replaced or created, or why not
    • `Directory.below` — what is in the directory
-/
import FlowProcessor.ToolError

namespace FlowProcessor

/-! ## §1. Paths. -/

/-- A place, as the names on the way to it from the directory.  In front there may be pairs of
points, each for one directory up, or a slash for the top. -/
abbrev Place : Type := List String

/-- What is at a place. -/
inductive Node
  | file (content : ByteArray)
  | directory

/-- The nodes of a directory, and those known outside of it, each place at most once. -/
structure Directory where
  nodes : List (Place × Node)

namespace Directory

/-- The longest name of a file, in bytes. -/
def nameLimit : Nat := 255

/-- The longest path, in bytes. -/
def pathLimit : Nat := 4095

/-- The names in a path. -/
def parts (path : String) : List String :=
  (splitParts path.toList).map String.ofList
where
  /-- Cuts a path at its slashes. -/
  splitParts : List Char → List (List Char)
    | [] => [[]]
    | '/' :: cs => [] :: splitParts cs
    | c :: cs =>
        match splitParts cs with
        | [] => [[c]]
        | part :: rest => (c :: part) :: rest

/-- The directory that contains all others. -/
def top : Place := ["/"]

/-- Whether a place is that of the directory itself or of one above it. -/
def isAbove (place : Place) : Bool := place == top || place.all (· == "..")

/-- What is below the directory. -/
def below (d : Directory) : List (Place × Node) :=
  d.nodes.filter fun entry => entry.1.head? != some ".." && entry.1.head? != some "/"

/-- The node at a place. -/
def node? (d : Directory) (place : Place) : Option Node :=
  if isAbove place then some .directory else (d.nodes.find? fun entry => entry.1 == place).map (·.2)

/-- Puts a node at a place, instead of what is there. -/
def put (d : Directory) (place : Place) (node : Node) : Directory :=
  ⟨(d.nodes.filter fun entry => entry.1 != place) ++ [(place, node)]⟩

/-- The place one directory up; the top is above itself. -/
def up (place : Place) : Place :=
  if place = top then top else if isAbove place then place ++ [".."] else place.dropLast

/-- Follows names from a place, one directory after the other. -/
def walk (d : Directory) : Place → List String → Except FileError Place
  | place, [] => .ok place
  | place, name :: names =>
      match d.node? place with
      | none => .error .missing
      | some (.file _) => .error .notDirectory
      | some .directory =>
          if name = "" ∨ name = "." then d.walk place names
          else if name = ".." then d.walk (up place) names
          else if nameLimit < name.utf8ByteSize then .error .nameTooLong
          else d.walk (place ++ [name]) names

/-- The place to begin with for a path, and the names to follow from there. -/
def route (path : String) : Except FileError (Place × List String) :=
  if path.toList.contains '\x00' then .error .nulByte
  else if path = "" then .error .missing
  else if pathLimit < path.utf8ByteSize then .error .nameTooLong
  else .ok (if path.toList.head? = some '/' then top else [], parts path)

/-- The names that lead into the directory in which the last of the given names stands. -/
def container (names : List String) : List String :=
  ((names.reverse.dropWhile (· == "")).drop 1).reverse ++ ["."]

/-! ## §2. Files. -/

/-- The text of the file at a path. -/
def read (d : Directory) (path : String) : Except FileError String := do
  let (start, names) ← route path
  let place ← d.walk start names
  match d.node? place with
  | none => .error .missing
  | some .directory => .error .isDirectory
  | some (.file content) =>
      match String.fromUTF8? content with
      | none => .error .notText
      | some text => .ok text

/-- The directory with a text in the file at a path, which is created if need be.  A path that
ends in a slash names a directory even if there is none. -/
def write (d : Directory) (path : String) (text : String) : Except FileError Directory := do
  let (start, names) ← route path
  if names.getLast? = some "" then
    let _ ← d.walk start (container names)
    .error .isDirectory
  else
    let place ← d.walk start names
    match d.node? place with
    | some .directory => .error .isDirectory
    | _ => .ok (d.put place (.file text.toUTF8))

end Directory

end FlowProcessor
