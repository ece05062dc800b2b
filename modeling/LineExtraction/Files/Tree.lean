/-!
# Trees of files

What may go wrong when the text of a file is read, and a tree of files in which a path
is followed from a working directory.  A place of the tree is a file, a directory, or
free.
-/

namespace LineExtraction
namespace Files

/-! ## Paths

A path is a text whose components are set apart by slashes. -/

/-- A component of a path. -/
inductive Component where
  | here
  | parent
  | name (name : String)
deriving DecidableEq, Repr

namespace Component

/-- The component that a text between slashes names. -/
def ofText (text : String) : Component :=
  if text = "" ∨ text = "." then here
  else if text = ".." then parent
  else name text

end Component

/-- A path by its components.  An absolute one starts at the root. -/
structure Path where
  isAbsolute : Bool
  components : List Component
deriving DecidableEq, Repr

namespace Path

/-- The path that a text names. -/
def ofText (text : String) : Path :=
  ⟨text.startsWith "/", (text.splitOn "/").map .ofText⟩

/-- The components that lead on. -/
def steps (path : Path) : List Component := path.components.filter (· ≠ .here)

/-- The components that lead to the directory that a path ends in. -/
def directory (path : Path) : List Component := path.steps.dropLast

/-- The name at the end of a path, if it ends in one. -/
def fileName? (path : Path) : Option String :=
  match path.steps.getLast? with
  | some (.name name) => some name
  | _ => none

/-- What stands behind the last dot of a name, unless that is at its front. -/
def extensionOf? (name : String) : Option String :=
  match (name.splitOn ".").reverse with
  | [] | [_] => none
  | last :: front => if front = [""] then none else some last

/-- The extension of the name at the end of a path. -/
def extension? (path : Path) : Option String := path.fileName?.bind extensionOf?

end Path

/-! ## Files -/

/-- Why the text of a file could not be read. -/
inductive FileError where
  | notFound
  | notDirectory
  | isDirectory
  | nameTooLong
  | zeroByte
  | notText
  | other (message : String)
deriving DecidableEq, Repr

/-- The wording of the error. -/
def FileError.message : FileError → String
  | notFound => "No such file or directory (os error 2)"
  | notDirectory => "Not a directory (os error 20)"
  | isDirectory => "Is a directory (os error 21)"
  | nameTooLong => "File name too long (os error 36)"
  | zeroByte => "file name contained an unexpected NUL byte"
  | notText => "stream did not contain valid UTF-8"
  | other message => message

/-- The text that bytes write. -/
def textOf (bytes : ByteArray) : Except FileError String :=
  match String.fromUTF8? bytes with
  | some text => .ok text
  | none => .error .notText

/-- A place by how many levels its known ancestor lies above the working directory, and
by the names that lead down from there, last first. -/
structure Place where
  above : Nat
  names : List String
deriving DecidableEq, Repr

namespace Place

/-- The working directory. -/
def working : Place := ⟨0, []⟩

/-- The place of a name in a directory. -/
def child (place : Place) (name : String) : Place := { place with names := name :: place.names }

/-- The directory around a place. -/
def parent (place : Place) : Place :=
  match place.names with
  | [] => ⟨place.above + 1, []⟩
  | _ :: names => { place with names }

end Place

/-- What is at a place. -/
inductive Node where
  | file (content : ByteArray)
  | directory

/-- A tree by what is at its places, latest first.  The working directory and those
around it are always there. -/
structure Tree where
  entries : List (Place × Node)

/-- How many bytes the name of a file may have. -/
def nameLimit : Nat := 255

/-- How many bytes a path must stay below. -/
def pathLimit : Nat := 4096

/-- Why a text can be no path. -/
def pathError? (path : String) : Option FileError :=
  if path.contains '\x00' then some .zeroByte
  else if path.isEmpty then some .notFound
  else if pathLimit ≤ path.utf8ByteSize then some .nameTooLong
  else none

namespace Tree

/-- The tree in which nothing was written. -/
def empty : Tree := ⟨[]⟩

/-- What is at a place. -/
def get? (tree : Tree) (place : Place) : Option Node :=
  if place.names.isEmpty then some .directory else tree.entries.lookup place

/-- Put something at a place. -/
def set (tree : Tree) (place : Place) (node : Node) : Tree := ⟨(place, node) :: tree.entries⟩

/-- The place that components lead to.  Only directories are passed through. -/
def follow (tree : Tree) (place : Place) :
    (components : List Component) → Except FileError Place
  | [] => .ok place
  | component :: components =>
    match tree.get? place, component with
    | none, _ => .error .notFound
    | some (.file _), _ => .error .notDirectory
    | some .directory, .here => tree.follow place components
    | some .directory, .parent => tree.follow place.parent components
    | some .directory, .name name =>
      if nameLimit < name.utf8ByteSize then .error .nameTooLong
      else if (tree.get? (place.child name)).isNone then .error .notFound
      else tree.follow (place.child name) components

/-! ## Reading -/

/-- The text of the file at a path.  An absolute path leads out of the tree. -/
def readText (tree : Tree) (path : String) : Except FileError String := do
  if let some error := pathError? path then throw error
  let components := (Path.ofText path).components
  let around := if (Path.ofText path).isAbsolute then empty else tree
  match around.get? (← around.follow .working components) with
  | some (.file content) => textOf content
  | some .directory => throw .isDirectory
  | none => throw .notFound

/-! ## Writing -/

/-- Make the directories that components name, up to the first that cannot be made. -/
def makeDirectories (tree : Tree) (place : Place) : (components : List Component) → Tree
  | [] => tree
  | .here :: components => tree.makeDirectories place components
  | .parent :: components => tree.makeDirectories place.parent components
  | .name name :: components =>
    if nameLimit < name.utf8ByteSize then tree
    else
      let child := place.child name
      match tree.get? child with
      | some (.file _) => tree
      | some .directory => tree.makeDirectories child components
      | none => (tree.set child .directory).makeDirectories child components

/-- Write a file under a name into a directory, unless a directory has the name. -/
def writeAt (tree : Tree) (directory : Place) (name : String) (content : ByteArray) : Tree :=
  if nameLimit < name.utf8ByteSize then tree
  else
    match tree.get? (directory.child name) with
    | some .directory => tree
    | _ => tree.set (directory.child name) (.file content)

/-- Write a file at a relative path, with the directories on the way to it.  What cannot
be made or written is left out. -/
def write (tree : Tree) (path : String) (content : ByteArray) : Tree :=
  let components := (Path.ofText path).components
  if (pathError? path).isSome ∨ (Path.ofText path).isAbsolute then tree
  else
    let tree := tree.makeDirectories .working (Path.ofText path).directory
    match tree.follow .working (components.dropLast ++ [.here]), components.getLast? with
    | .ok directory, some (.name name) => tree.writeAt directory name content
    | _, _ => tree

end Tree

end Files
end LineExtraction
