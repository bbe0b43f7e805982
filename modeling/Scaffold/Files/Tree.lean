import Scaffold.Files.Storage

/-!
Contract: files and directories as a value.

Owns:
- the walk of a path through directories;
- reading, writing, making and removing what stands at a path.

A location is the row of names from the root down. The root is always there. A path is walked
step by step, and every step needs the directory that it is taken from, idle steps and steps up
included; the location it ends at need not be there.
-/

namespace Scaffold

/-- The content of a file: a text, or bytes that are none. -/
inductive Content where
  | text (text : String)
  | raw (bytes : List UInt8)
  deriving DecidableEq, Repr

/-- The content that bytes are. -/
def Content.ofBytes (bytes : List UInt8) : Content :=
  match String.fromUTF8? ⟨bytes.toArray⟩ with
  | some content => .text content
  | none => .raw bytes

/-- The size of a content in bytes. -/
def Content.size : Content → Nat
  | .text content => content.utf8ByteSize
  | .raw bytes => bytes.length

/-- What stands at a location. -/
inductive Entry where
  | directory
  | file (content : Content)
  deriving DecidableEq, Repr

/-- The names from the root down to a place. -/
abbrev Location := List String

/-- Files and directories, and the directory in which relative paths begin. -/
structure FileTree where
  working : Location
  entries : List (Location × Entry)
  deriving DecidableEq, Repr

namespace FileTree

/-- A tree with nothing in it but the directory in which relative paths begin. -/
def empty (working : Location) : FileTree :=
  ⟨working, (List.range working.length).map fun depth => (working.take (depth + 1), .directory)⟩

/-- What stands at a location. -/
def standing? (tree : FileTree) (location : Location) : Option Entry :=
  if location.isEmpty then some .directory
  else (tree.entries.find? fun entry => entry.1 == location).map Prod.snd

/-- The tree with something put at a location. -/
def put (tree : FileTree) (location : Location) (entry : Entry) : FileTree :=
  if tree.entries.any fun old => old.1 == location then
    { tree with
      entries := tree.entries.map fun old => if old.1 == location then (location, entry) else old }
  else { tree with entries := tree.entries ++ [(location, entry)] }

/-- The location that steps lead to. -/
def follow (tree : FileTree) (location : Location) : List Path.Step → Except Fault Location
  | [] => .ok location
  | .root :: rest => follow tree [] rest
  | step :: rest =>
      match tree.standing? location with
      | none => .error .notFound
      | some (.file _) => .error .notADirectory
      | some .directory =>
          match step with
          | .down name => follow tree (location ++ [name]) rest
          | .up => follow tree location.dropLast rest
          | _ => follow tree location rest

/-- The location of a path. The empty path has none. -/
def locate (tree : FileTree) (path : Path) : Except Fault Location :=
  if path.isEmpty then .error .notFound else tree.follow tree.working path.steps

/-- What stands at a path. -/
def lookup (tree : FileTree) (path : Path) : Except Fault Entry := do
  match tree.standing? (← tree.locate path) with
  | some entry => return entry
  | none => throw .notFound

/-- Is there a directory at a path? -/
def isDirectory (tree : FileTree) (path : Path) : Bool :=
  match tree.lookup path with
  | .ok .directory => true
  | _ => false

/-- Is there a file at a path? -/
def isFile (tree : FileTree) (path : Path) : Bool :=
  match tree.lookup path with
  | .ok (.file _) => true
  | _ => false

/-- The content of the file at a path. -/
def read (tree : FileTree) (path : Path) : Except Fault Content := do
  match ← tree.lookup path with
  | .file content => return content
  | .directory => throw .isADirectory

/-- The text of the file at a path. -/
def readText (tree : FileTree) (path : Path) : Except Fault String := do
  match ← tree.read path with
  | .text text => return text
  | .raw _ => throw .invalidData

/-- The tree with something made at a path, where nothing may stand. -/
def create (tree : FileTree) (path : Path) (entry : Entry) : Except Fault FileTree := do
  let location ← tree.locate path
  match tree.standing? location with
  | some _ => throw .alreadyExists
  | none => return tree.put location entry

/-- The tree with a directory made at a path. -/
def makeDirectory (tree : FileTree) (path : Path) : Except Fault FileTree :=
  tree.create path .directory

/-- The tree with an empty file made at a path. -/
def createFile (tree : FileTree) (path : Path) : Except Fault FileTree :=
  tree.create path (.file (.text ""))

/-- Make the first of a list of directories; the next in the list is the one around it, and is
made before if it is missing. What was made stays where the run fails later. -/
def makeFirst (tree : FileTree) : List Path → Except Fault Unit × FileTree
  | [] => (.ok (), tree)
  | path :: outer =>
      match tree.makeDirectory path with
      | .ok made => (.ok (), made)
      | .error .notFound =>
          match tree.makeFirst outer with
          | (.error fault, rest) => (.error fault, rest)
          | (.ok (), rest) =>
              match rest.makeDirectory path with
              | .ok made => (.ok (), made)
              | .error fault =>
                  (if rest.isDirectory path then .ok () else .error fault, rest)
      | .error fault => (if tree.isDirectory path then .ok () else .error fault, tree)

/-- Make the directory at a path and those around it, as far as they are not there. -/
def makeDirectories (tree : FileTree) (path : Path) : Except Fault Unit × FileTree :=
  tree.makeFirst path.ancestors

/-- Put a content in the place of the file at a path. -/
def replace (tree : FileTree) (path : Path) (content : Content) : Except Fault FileTree := do
  let location ← tree.locate path
  match tree.standing? location with
  | some .directory => throw .isADirectory
  | _ => return tree.put location (.file content)

/-- Put a content at a path, with the directories around it made where they are missing. -/
def write (tree : FileTree) (path : Path) (content : Content) : Except Fault FileTree := do
  match tree.makeDirectories ((path.parent?).getD ⟨""⟩) with
  | (.ok (), made) => made.replace path content
  | (.error fault, _) => throw fault

/-- The tree with nothing at a location. -/
def erase (tree : FileTree) (location : Location) : FileTree :=
  { tree with entries := tree.entries.filter fun entry => entry.1 != location }

/-- The tree with a file moved from one path to another, in the place of the file there. -/
def rename (tree : FileTree) (source destination : Path) : Except Fault FileTree := do
  let origin ← tree.locate source
  match tree.standing? origin with
  | none => throw .notFound
  | some .directory => throw .isADirectory
  | some (.file content) =>
      let location ← tree.locate destination
      let moved ← tree.replace destination content
      return if location = origin then moved else moved.erase origin

/-- The tree without the file at a path, if there is one. -/
def discard (tree : FileTree) (path : Path) : FileTree :=
  match tree.locate path with
  | .error _ => tree
  | .ok location =>
      match tree.standing? location with
      | some (.file _) => tree.erase location
      | _ => tree

/-- The tree without what stands at a path and below it, if anything stands there. -/
def remove? (tree : FileTree) (path : Path) : Option FileTree :=
  match tree.locate path with
  | .error _ => none
  | .ok location =>
      (tree.standing? location).map fun _ =>
        { tree with entries := tree.entries.filter fun entry => !location.isPrefixOf entry.1 }

/-- What stands below the directory in which relative paths begin, by its relative path. -/
def listing (tree : FileTree) : List (String × Entry) :=
  tree.entries.filterMap fun entry =>
    if tree.working.isPrefixOf entry.1 && entry.1.length > tree.working.length then
      some ("/".intercalate (entry.1.drop tree.working.length), entry.2)
    else none

end FileTree

/-- Apply an operation that may fail and then changes nothing. -/
def changing
    (operation : FileTree → Except Fault FileTree) :
    StateM FileTree (Except Fault Unit) :=
  fun tree =>
    match operation tree with
    | .ok next => (.ok (), next)
    | .error fault => (.error fault, tree)

instance : Storage (StateM FileTree) where
  readText path := fun tree => (tree.readText path, tree)
  isFile path := fun tree => (tree.isFile path, tree)
  makeDirectories path := fun tree => tree.makeDirectories path
  createFile path := changing fun tree => tree.createFile path
  writeText path text := changing fun tree => tree.replace path (.text text)
  sync _ := return .ok ()
  permit _ := return .ok ()
  rename source destination := changing fun tree => tree.rename source destination
  discard path := fun tree => ((), tree.discard path)

end Scaffold
