import MailSync.Settings.Directory

/-!
# Files in memory

A host whose files and environment are kept in memory. Paths are followed one name at a time;
every name but the last must be a directory's. Neither a name nor a path may be too long, and
a path holds no NUL.
-/
namespace MailSync

inductive FileNode where
  | directory
  | file (content : Bytes)
deriving Repr, DecidableEq

structure FileTree where
  /-- The user's directory for configuration. -/
  home : Option String
  environment : List (String × String)
  /-- Nodes by the names on the way from the root, the last name first. -/
  nodes : List (List String × FileNode)
deriving Repr, DecidableEq

namespace FileTree

/-- A tree that holds nothing but directories. -/
def empty (home : Option String) : FileTree := ⟨home, [], []⟩

/-- The root is always a directory. -/
def node? (t : FileTree) : List String → Option FileNode
  | [] => some .directory
  | place => t.nodes.lookup place

def put (t : FileTree) (place : List String) (node : FileNode) : FileTree :=
  { t with nodes := (place, node) :: t.nodes.filter (·.1 ≠ place) }

def setVariable (t : FileTree) (name : String) (value : Option String) : FileTree :=
  let others := t.environment.filter (·.1 ≠ name)
  { t with environment := (value.map (name, ·)).toList ++ others }

/-- The names of a path. Empty ones count for nothing. -/
def names (path : String) : List String := (path.splitOn "/").filter (· ≠ "")

/-- A path with a slash at its end means a directory. -/
def meansDirectory (path : String) : Bool := path.endsWith "/"

/-- The place that a name leads to. -/
def enter (place : List String) (name : String) : List String :=
  if name = "." then place
  else if name = ".." then place.tail
  else name :: place

/-- The most octets of a name. -/
def nameLimit : Nat := 255

/-- The most octets of a path. -/
def pathLimit : Nat := 4095

/-- The names on a path that a file can have. -/
def names? (path : String) : Except FileFault (List String) :=
  if Char.ofNat 0 ∈ path.toList then .error .nulInPath
  else if pathLimit < path.utf8ByteSize then .error .nameTooLong
  else .ok (names path)

/-- Follows names from a place. -/
def follow (t : FileTree) (place : List String) : List String → Except FileFault (List String)
  | [] => .ok place
  | name :: rest =>
    match t.node? place with
    | some .directory =>
      if nameLimit < name.utf8ByteSize then .error .nameTooLong
      else t.follow (enter place name) rest
    | some (.file _) => .error .notDirectory
    | none => .error .notFound

/-- What stands at the end of a path. -/
def find (t : FileTree) (path : String) : Except FileFault FileNode := do
  match t.node? (← t.follow [] (← names? path)) with
  | none => .error .notFound
  | some (.file content) =>
    if meansDirectory path then .error .notDirectory else .ok (.file content)
  | some .directory => .ok .directory

def read (t : FileTree) (path : String) : Except FileFault Bytes := do
  match ← t.find path with
  | .file content => .ok content
  | .directory => .error .isDirectory

def readText (t : FileTree) (path : String) : Except FileFault String := do
  match Text.ofBytes? (← t.read path) with
  | some text => .ok text
  | none => .error .notText

/-- Puts a file in place of the one that is there, or a new one into a directory. -/
def write (t : FileTree) (path : String) (content : Bytes) : Except FileFault FileTree := do
  let place ← t.follow [] (← names? path)
  if meansDirectory path then .error .isDirectory
  match t.node? place with
  | some .directory => .error .isDirectory
  | _ => .ok (t.put place (.file content))

/-- Creates the directories on the way from a place where they are missing. -/
def createFrom (t : FileTree) (place : List String) : List String → Except FileFault FileTree
  | [] => .ok t
  | name :: rest =>
    let next := enter place name
    if nameLimit < name.utf8ByteSize then .error .nameTooLong
    else
      match t.node? next with
      | some .directory => t.createFrom next rest
      | some (.file _) => .error (if rest.isEmpty then .alreadyExists else .notDirectory)
      | none => (t.put next .directory).createFrom next rest

def create (t : FileTree) (path : String) : Except FileFault FileTree := do
  t.createFrom [] (← names? path)

/-- Keeps the tree that a change leads to. -/
def update (change : FileTree → Except FileFault FileTree) :
    StateM FileTree (Except FileFault Unit) := do
  match change (← get) with
  | .ok t =>
    set t
    return .ok ()
  | .error fault => return .error fault

/-- The files and the environment of a tree. -/
def files : Files (StateM FileTree) where
  home := return (← get).home
  environment name := return (← get).environment.lookup name
  exists? path := return ((← get).find path).isOk
  readText path := return (← get).readText path
  writeText path text := update (·.write path (Text.toBytes text))
  createDirectory path := update (·.create path)

theorem node?_put (t : FileTree) {place : List String} (h : place ≠ []) (node : FileNode) :
    (t.put place node).node? place = some node := by
  cases place with
  | nil => exact absurd rfl h
  | cons name rest => simp [node?, put]

end FileTree
end MailSync
