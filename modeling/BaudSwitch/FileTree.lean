import BaudSwitch.Bytes

/-!
# File trees

Files, directories and devices under one root, with a working directory.  A path is a list of
octets in which slashes separate names.  Names are followed one by one: each name but the last
must lead to a directory, and so must the last one when a slash follows it.
-/

namespace BaudSwitch

/-- What stands at a place. -/
inductive FileTree.Node where
  | directory
  | file (content : Bytes)
  /-- A device that holds nothing and swallows what is written. -/
  | device
  | terminal
  deriving DecidableEq, Repr

/-- Why a file could not be read or written. -/
inductive FileError where
  | notFound
  | notADirectory
  | isADirectory
  | alreadyExists
  | invalidText
  | invalidPath
  | nameTooLong
  | other (reason : String)
  deriving DecidableEq, Repr

def FileError.message : FileError → String
  | .notFound => "No such file or directory (os error 2)"
  | .notADirectory => "Not a directory (os error 20)"
  | .isADirectory => "Is a directory (os error 21)"
  | .alreadyExists => "File exists (os error 17)"
  | .invalidText => "stream did not contain valid UTF-8"
  | .invalidPath => "file name contained an unexpected NUL byte"
  | .nameTooLong => "File name too long (os error 36)"
  | .other reason => reason

abbrev FilePath := Bytes

/-- A place: the names on the way from the root. -/
abbrev Place := List Bytes

/-- Everything that can be found, and where relative paths begin. The root is always there. -/
structure FileTree where
  nodes : List (Place × FileTree.Node) := []
  workingDirectory : Place := []
  deriving DecidableEq, Repr

namespace FilePath

def separator : UInt8 := 0x2F

/-- The parts between the slashes. -/
def parts : FilePath → List Bytes
  | [] => [[]]
  | octet :: rest =>
      if octet = separator then [] :: parts rest
      else
        match parts rest with
        | [] => [[octet]]
        | first :: others => (octet :: first) :: others

def here : Bytes := Bytes.ascii "."

def above : Bytes := Bytes.ascii ".."

def isAbsolute (path : FilePath) : Bool :=
  path.head? == some separator

/-- The names in a path, empty parts and those that stay in place left out. -/
def names (path : FilePath) : List Bytes :=
  path.parts.filter fun part => part != [] && part != here

def ofNames (absolute : Bool) (names : List Bytes) : FilePath :=
  (if absolute then [separator] else []) ++ [separator].intercalate names

/-- The path of the directory that holds what the path leads to. -/
def parent? (path : FilePath) : Option FilePath :=
  match path.names with
  | [] => if path.isAbsolute || path = [] then none else some []
  | names => some (ofNames path.isAbsolute names.dropLast)

/-- A path below a directory. -/
def below (directory path : FilePath) : FilePath :=
  if path.isAbsolute then path else directory ++ separator :: path

end FilePath

namespace FileTree

/-- The number of octets that a name may have. -/
def longestName : Nat := 255

/-- What stands at a place. -/
def at? (tree : FileTree) : Place → Option Node
  | [] => some .directory
  | place => tree.nodes.lookup place

def put (tree : FileTree) (place : Place) (node : Node) : FileTree :=
  { tree with nodes := tree.nodes.filter (fun entry => entry.1 != place) ++ [(place, node)] }

/-- Whether a place is a directory. -/
def holds (tree : FileTree) (place : Place) : Bool :=
  tree.at? place == some .directory

def enter (tree : FileTree) (place : Place) (part : Bytes) : Except FileError Place :=
  if !tree.holds place then .error .notADirectory
  else if part = [] ∨ part = FilePath.here then .ok place
  else if part = FilePath.above then .ok place.dropLast
  else if longestName < part.length then .error .nameTooLong
  else if (tree.at? (place ++ [part])).isNone then .error .notFound
  else .ok (place ++ [part])

def follow (tree : FileTree) (place : Place) (parts : List Bytes) : Except FileError Place :=
  parts.foldlM tree.enter place

/-- Where a path begins, unless nothing can be found by it. -/
def origin (tree : FileTree) (path : FilePath) : Except FileError Place :=
  if path.contains 0 then .error .invalidPath
  else if path = [] then .error .notFound
  else if 4096 ≤ path.length then .error .nameTooLong
  else .ok (if path.isAbsolute then [] else tree.workingDirectory)

def locate (tree : FileTree) (path : FilePath) : Except FileError Place := do
  tree.follow (← tree.origin path) path.parts

def find (tree : FileTree) (path : FilePath) : Except FileError Node := do
  match tree.at? (← tree.locate path) with
  | some node => return node
  | none => throw .notFound

def contains (tree : FileTree) (path : FilePath) : Bool :=
  (tree.find path).toBool

def containsDirectory (tree : FileTree) (path : FilePath) : Bool :=
  (tree.find path).toOption == some .directory

def read (tree : FileTree) (path : FilePath) : Except FileError Bytes := do
  match ← tree.find path with
  | .file content => return content
  | .device | .terminal => return []
  | .directory => throw .isADirectory

/-- The parts of a path without the slashes at its end, and whether there were any. -/
def withoutSlashes (parts : List Bytes) : List Bytes × Bool :=
  let body := (parts.reverse.dropWhile (· == [])).reverse
  (body, body.length < parts.length)

/-- The place where a path would put something new: the directory and the name, of any length;
none if the path ends in a directory of its own. -/
def target (tree : FileTree) (path : FilePath) : Except FileError (Option (Place × Bytes)) := do
  let start ← tree.origin path
  let (body, _) := withoutSlashes path.parts
  match body.getLast? with
  | none => return none
  | some name => do
      let directory ← tree.follow start body.dropLast
      if !tree.holds directory then throw .notADirectory
      if name = FilePath.here ∨ name = FilePath.above then return none
      return some (directory, name)

def makeDirectory (tree : FileTree) (path : FilePath) : Except FileError FileTree := do
  match ← tree.target path with
  | none => throw .alreadyExists
  | some (directory, name) =>
      if longestName < name.length then throw .nameTooLong
      let place := directory ++ [name]
      if (tree.at? place).isSome then throw .alreadyExists
      return tree.put place .directory

/-- Write a file, in place of what it held. A path with a slash at its end never leads to a
file, whatever the name in front of the slash. -/
def write (tree : FileTree) (path : FilePath) (content : Bytes) : Except FileError FileTree := do
  match ← tree.target path with
  | none => throw .isADirectory
  | some (directory, name) =>
      if (withoutSlashes path.parts).2 then throw .isADirectory
      if longestName < name.length then throw .nameTooLong
      let place := directory ++ [name]
      match tree.at? place with
      | some .directory => throw .isADirectory
      | some .device | some .terminal => return tree
      | _ => return tree.put place (.file content)

/-- What making the directories of a path left behind: the tree, changed even by a failure. -/
abbrev Made := FileTree × Except FileError Unit

/-- Make a directory; one that is there already will do. -/
def ensureDirectory (tree : FileTree) (path : FilePath) : Made :=
  match tree.makeDirectory path with
  | .ok made => (made, .ok ())
  | .error cause =>
      if tree.containsDirectory path then (tree, .ok ()) else (tree, .error cause)

/-- Make a directory and those above it that are missing, so many at most. -/
def ensureDirectories : (limit : Nat) → FileTree → FilePath → Made
  | _, tree, [] => (tree, .ok ())
  | 0, tree, path => tree.ensureDirectory path
  | limit + 1, tree, path =>
      match tree.ensureDirectory path with
      | (_, .error .notFound) =>
          match path.parent? with
          | none => (tree, .error (.other "failed to create whole tree"))
          | some parent =>
              match ensureDirectories limit tree parent with
              | (made, .ok ()) => made.ensureDirectory path
              | failed => failed
      | made => made

/-- Write a file, with the directories on the way to it. -/
def save (tree : FileTree) (path : FilePath) (content : Bytes) : Made :=
  let prepared : Made :=
    match path.parent? with
    | none => (tree, .ok ())
    | some parent => ensureDirectories parent.length tree parent
  match prepared with
  | (made, .error cause) => (made, .error cause)
  | (made, .ok ()) =>
      match made.write path content with
      | .ok written => (written, .ok ())
      | .error cause => (made, .error cause)

end FileTree

end BaudSwitch
