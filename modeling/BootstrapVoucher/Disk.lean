import BootstrapVoucher.Bytes

/-!
# Files and directories

What the library reads from disk is given to it as a view: a way to read a file and a way to list a
directory, both by path. A listing may fail as a whole and at each of its entries. A file tree is a disk
held in memory; it has files, directories and symbolic links, one of its directories is worked in, and
writing a file gives a new tree.
-/

namespace BootstrapVoucher

/-- Why a file or directory cannot be used. -/
inductive IoError
  | notFound
  | notDirectory
  | isDirectory
  | nameTooLong
  | linkLoop
  /-- The path has a NUL character. -/
  | badPath
  /-- The content is not UTF-8 text. -/
  | notText
  /-- Any other failure, in the words of the system. -/
  | other (text : String)
deriving DecidableEq, Repr

def IoError.message : IoError → String
  | .notFound => "No such file or directory (os error 2)"
  | .notDirectory => "Not a directory (os error 20)"
  | .isDirectory => "Is a directory (os error 21)"
  | .nameTooLong => "File name too long (os error 36)"
  | .linkLoop => "Too many levels of symbolic links (os error 40)"
  | .badPath => "file name contained an unexpected NUL byte"
  | .notText => "stream did not contain valid UTF-8"
  | .other text => text

/-- What a directory entry is; a symbolic link is not followed. -/
inductive EntryKind
  | file
  | directory
  | link
deriving DecidableEq, Repr

/-- A name in a directory. Names are byte strings and need not be text. -/
structure DirectoryEntry where
  name : Bytes
  kind : EntryKind
deriving DecidableEq, Repr

/-- A disk that can be read. -/
structure Disk where
  read : String → Except IoError Bytes
  /-- The entries of a directory, in the order in which they are found. An entry that cannot be read, or
  of which the kind cannot be told, stands as the error that is met there. -/
  list : String → Except IoError (List (Except IoError DirectoryEntry))

namespace Disk

/-- A disk of which some answers are known; nothing else is there. -/
def ofAnswers (files : List (String × Except IoError Bytes))
    (folders : List (String × Except IoError (List (Except IoError DirectoryEntry)))) : Disk where
  read path := (files.lookup path).getD (.error .notFound)
  list path := (folders.lookup path).getD (.error .notFound)

def readText (disk : Disk) (path : String) : Except IoError String := do
  match Bytes.toText? (← disk.read path) with
  | some text => .ok text
  | none => .error .notText

/-- The path of a name in a directory; an absolute name stands for itself. -/
def join (directory name : String) : String :=
  if name.startsWith "/" then name
  else if directory = "" ∨ directory.endsWith "/" then directory ++ name
  else directory ++ "/" ++ name

end Disk

/-- What stands at a place of a file tree. -/
inductive Node
  | file (content : Bytes)
  | directory
  | link (target : Bytes)
deriving DecidableEq, Repr

/-- A disk in memory: nodes by the names that lead to them from the top. -/
structure FileTree where
  nodes : List (List Bytes × Node)
  /-- The place of the directory that is worked in, from which paths lead that do not start at the top. -/
  directory : List Bytes := []

namespace FileTree

/-- What stands between the slashes of a path. -/
def pieces (path : Bytes) : List Bytes := (path.splitOn 47).filter (!·.isEmpty)

/-- The names of a path. A slash at its end counts as an empty name, which asks for a directory. -/
def names (path : Bytes) : List Bytes :=
  pieces path ++ if path.getLast? = some 47 then [[]] else []

/-- All that stands in a tree. The directory that is worked in and those around it are always there. -/
def standing (tree : FileTree) : List (List Bytes × Node) :=
  (List.range (tree.directory.length + 1)).map (fun n => (tree.directory.take n, .directory)) ++
    tree.nodes.filter fun entry => !entry.1.isPrefixOf tree.directory

/-- The node at a place. -/
def node? (tree : FileTree) (place : List Bytes) : Option Node :=
  (tree.standing.find? (·.1 == place)).map (·.2)

/-- Where a path starts that is met at a place: at the top if it begins with a slash. -/
def startOf (path : Bytes) (place : List Bytes) : List Bytes :=
  if path.head? = some 47 then [] else place

/-- The longest path and the longest name, in bytes, and the number of links that are followed. -/
def pathLimit : Nat := 4095

@[inherit_doc pathLimit]
def nameLimit : Nat := 255

@[inherit_doc pathLimit]
def linkLimit : Nat := 40

/-- Follows names from a directory of the tree. The result is the place of the last name, its links
followed; only the last name may be missing. Where a file may be created, the last name must not ask for
a directory. `links` bounds the links still to be followed. -/
def walk (tree : FileTree) (creating : Bool) :
    (links : Nat) → (place : List Bytes) → (rest : List Bytes) → Except IoError (List Bytes)
  | _, place, [] => .ok place
  | links, place, name :: rest =>
    if name = [] ∨ name = [46] then walk tree creating links place rest
    else if name = [46, 46] then walk tree creating links place.dropLast rest
    else if creating ∧ rest = [[]] then .error .isDirectory
    else if nameLimit < name.length then .error .nameTooLong
    else
      let next := place ++ [name]
      match tree.node? next, links with
      | some (.link target), links + 1 =>
        walk tree creating links (startOf target place) (names target ++ rest)
      | some (.link _), 0 => .error .linkLoop
      | some .directory, links => walk tree creating links next rest
      | some (.file _), _ => if rest.isEmpty then .ok next else .error .notDirectory
      | none, _ => if rest.isEmpty then .ok next else .error .notFound
termination_by links _ rest => (links, rest.length)

/-- The place that a path leads to, where a file may be created or not. -/
def locate (tree : FileTree) (path : String) (creating : Bool := false) :
    Except IoError (List Bytes) :=
  let bytes := Bytes.ofText path
  if bytes.contains 0 then .error .badPath
  else if pathLimit < bytes.length then .error .nameTooLong
  else if bytes.isEmpty then .error .notFound
  else tree.walk creating linkLimit (startOf bytes tree.directory) (names bytes)

def read (tree : FileTree) (path : String) : Except IoError Bytes := do
  match tree.node? (← tree.locate path) with
  | some (.file content) => .ok content
  | some .directory => .error .isDirectory
  | some (.link _) | none => .error .notFound

/-- The entries of the directory at a place, in the order of the tree. -/
def entries (tree : FileTree) (place : List Bytes) : List DirectoryEntry :=
  tree.standing.filterMap fun (names, node) =>
    match names.getLast? with
    | some name =>
      if names.dropLast = place then
        some ⟨name, match node with
          | .file _ => .file
          | .directory => .directory
          | .link _ => .link⟩
      else none
    | none => none

def list (tree : FileTree) (path : String) :
    Except IoError (List (Except IoError DirectoryEntry)) := do
  let place ← tree.locate path
  match tree.node? place with
  | some .directory => .ok ((tree.entries place).map .ok)
  | some (.file _) => .error .notDirectory
  | some (.link _) | none => .error .notFound

def disk (tree : FileTree) : Disk := ⟨tree.read, tree.list⟩

/-- Puts a node at a place, instead of what stands there. -/
def put (tree : FileTree) (place : List Bytes) (node : Node) : FileTree :=
  if tree.nodes.any (·.1 == place) then
    { tree with nodes := tree.nodes.map fun entry => if entry.1 == place then (place, node) else entry }
  else { tree with nodes := tree.nodes ++ [(place, node)] }

/-- Writes the file at a path, creating it if need be; nothing changes on failure. -/
def write (tree : FileTree) (path : String) (content : Bytes) : Except IoError FileTree := do
  let place ← tree.locate path true
  match tree.node? place with
  | some .directory => .error .isDirectory
  | some (.file _) | some (.link _) | none => .ok (tree.put place (.file content))

end FileTree

end BootstrapVoucher
