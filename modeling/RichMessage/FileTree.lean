import RichMessage.Json.Members

set_option autoImplicit false

/- A tree of folders and files with the operations that the editor needs of a disk: reading a text,
writing one, and making folders. A path is walked one part at a time from the root. A part in the
middle of a path has to lead to a folder, and a path that ends in a slash or a dot has to lead to
one. Names and paths have a greatest size, which is counted in bytes. -/
namespace RichMessage

inductive FileError where
  | notFound
  | alreadyExists
  | notDirectory
  | isDirectory
  /-- A name or a whole path is too long. -/
  | nameTooLong
  /-- A path holds the character that ends a path for the system. -/
  | badPath
  | notText
  /-- Any other failure, in the words of the system. -/
  | other (text : String)
  deriving Repr, DecidableEq

def FileError.message : FileError → String
  | .notFound => "No such file or directory (os error 2)"
  | .alreadyExists => "File exists (os error 17)"
  | .notDirectory => "Not a directory (os error 20)"
  | .isDirectory => "Is a directory (os error 21)"
  | .nameTooLong => "File name too long (os error 36)"
  | .badPath => "file name contained an unexpected NUL byte"
  | .notText => "stream did not contain valid UTF-8"
  | .other text => text

inductive FileTree where
  | file (bytes : ByteArray)
  | folder (entries : List (String × FileTree))
  deriving Inhabited

namespace FileTree

def empty : FileTree := .folder []

/-- What stands at a location, which is a list of names from the root. -/
def find? : FileTree → List String → Option FileTree
  | node, [] => some node
  | .folder entries, name :: rest => (Members.get? entries name).bind fun inner => inner.find? rest
  | .file _, _ :: _ => none

/-- Puts something at a location, with the folders above it. A file is never opened like a folder.
-/
def put : FileTree → List String → FileTree → FileTree
  | _, [], new => new
  | .folder entries, name :: rest, new =>
    let inner := (Members.get? entries name).getD empty
    .folder (Members.insert entries name (inner.put rest new))
  | .file bytes, _ :: _, _ => .file bytes

/-- The parts of a path between its slashes. -/
def parts (path : String) : List String :=
  (path.toList.splitOn '/').map String.ofList

/-- Whether a part stays in the folder that has been reached. -/
def isHere (part : String) : Bool :=
  part == "" || part == "."

/-- Whether a part names something inside of the folder that has been reached. -/
def isName (part : String) : Bool :=
  !isHere part && part != ".."

/-- The names of a path, without the parts that stay where they are. -/
def names (path : String) : List String :=
  (parts path).filter fun part => !isHere part

def nameLimit : Nat := 255

def pathLimit : Nat := 4095

/-- How many bytes the path of some parts has, with a slash between any two of them. -/
def pathSize (parts : List String) : Nat :=
  parts.foldl (fun size part => size + part.utf8ByteSize + 1) 0 - 1

/-- Refuses a path that the system does not take, whatever is in the tree. -/
def checkPath (parts : List String) : Except FileError Unit :=
  if parts.any fun part => part.toList.contains '\x00' then .error .badPath
  else if pathLimit < pathSize parts then .error .nameTooLong
  else .ok ()

/-- What a folder with these entries has under a name, if anything. -/
def lookUp (entries : List (String × FileTree)) (name : String) :
    Except FileError (Option FileTree) :=
  if nameLimit < name.utf8ByteSize then .error .nameTooLong
  else .ok (Members.get? entries name)

/-- A node of a tree together with the way to it. -/
structure Place where
  /-- The names that lead to the node from the root, the last of them first. -/
  trail : List String
  node : FileTree

namespace Place

def location (place : Place) : List String :=
  place.trail.reverse

def entries (place : Place) : Except FileError (List (String × FileTree)) :=
  match place.node with
  | .folder entries => .ok entries
  | .file _ => .error .notDirectory

end Place

/-- The place at the end of a trail. -/
def placeAt (root : FileTree) (trail : List String) : Except FileError Place :=
  match root.find? trail.reverse with
  | some node => .ok ⟨trail, node⟩
  | none => .error .notFound

/-- Goes on by one part of a path. The folder above the root is the root itself. -/
def step (root : FileTree) (place : Place) (part : String) : Except FileError Place := do
  let entries ← place.entries
  if isHere part then return place
  else if part = ".." then root.placeAt place.trail.tail
  else match ← lookUp entries part with
    | some inner => return ⟨part :: place.trail, inner⟩
    | none => .error .notFound

/-- The place that the parts of a path lead to. -/
def walk (root : FileTree) (parts : List String) : Except FileError Place :=
  parts.foldlM root.step ⟨[], root⟩

def follow (root : FileTree) (path : String) : Except FileError FileTree := do
  checkPath (parts path)
  return (← root.walk (parts path)).node

def readBytes (root : FileTree) (path : String) : Except FileError ByteArray := do
  match ← root.follow path with
  | .file bytes => .ok bytes
  | .folder _ => .error .isDirectory

def decode (bytes : ByteArray) : Except FileError String :=
  match String.fromUTF8? bytes with
  | some text => .ok text
  | none => .error .notText

def readText (root : FileTree) (path : String) : Except FileError String := do
  decode (← root.readBytes path)

def pathExists (root : FileTree) (path : String) : Bool :=
  (root.follow path).isOk

/-- Writes a text to a file, which is made if it does not exist; its folder has to exist. A path
with a slash behind its last name can only mean a folder. Opening a file for writing empties it;
that the text then arrives as a whole, so that a write that fails has failed before, is assumed of
the disk. -/
def writeText (root : FileTree) (path : String) (text : String) : Except FileError FileTree := do
  checkPath (parts path)
  match (parts path).reverse.dropWhile fun part => part == "" with
  | [] => .error .isDirectory
  | last :: parents =>
    let place ← root.walk parents.reverse
    let entries ← place.entries
    if isName last && (parts path).getLast? = some last then
      match ← lookUp entries last with
      | some (.folder _) => .error .isDirectory
      | _ => .ok (root.put (place.location ++ [last]) (.file text.toUTF8))
    else .error .isDirectory

/-- Makes one folder, called `last`, where the parts before it lead. -/
def makeFolder (root : FileTree) (parents : List String) (last : String) :
    Except FileError FileTree := do
  checkPath (parents ++ [last])
  let place ← root.walk parents
  let entries ← place.entries
  if !isName last then .error .alreadyExists
  else match ← lookUp entries last with
    | some _ => .error .alreadyExists
    | none => .ok (root.put (place.location ++ [last]) empty)

/-- Whether the parts of a path lead to a folder. -/
def isFolder (root : FileTree) (parts : List String) : Bool :=
  match checkPath parts, root.walk parts with
  | .ok _, .ok ⟨_, .folder _⟩ => true
  | _, _ => false

/-- Makes a folder that may be there already. -/
def ensureFolder (root : FileTree) (parents : List String) (last : String) :
    Except FileError FileTree :=
  match root.makeFolder parents last with
  | .ok made => .ok made
  | .error reason => if root.isFolder (parents ++ [last]) then .ok root else .error reason

/-- Makes a folder and those above it. The parts of its path are given from the last to the first.
The folder itself is tried before those above it. Those that have been made stay, also when one
below them cannot be made. -/
def makeFoldersReversed (root : FileTree) : List String → Except FileError Unit × FileTree
  | [] => (.ok (), root)
  | part :: outer =>
    if isHere part then root.makeFoldersReversed outer
    else match root.ensureFolder outer.reverse part with
      | .ok made => (.ok (), made)
      | .error .notFound =>
        match root.makeFoldersReversed outer with
        | (.ok _, above) =>
          match above.ensureFolder outer.reverse part with
          | .ok made => (.ok (), made)
          | .error reason => (.error reason, above)
        | failed => failed
      | .error reason => (.error reason, root)

/-- The parts of the path of the folder that a path lies in, from the last to the first. -/
def foldersOf (path : String) : List String :=
  ((parts path).reverse.dropWhile isHere).drop 1

/-- Makes the folder that a path lies in, and those above it. -/
def makeFoldersFor (root : FileTree) (path : String) : Except FileError Unit × FileTree :=
  root.makeFoldersReversed (foldersOf path)

end FileTree

end RichMessage
