import AccessAudit.Path

/-!
# Directory trees

A tree of directories, regular files and symbolic links.  Names and targets
are bytes, which need not be well-formed text.  A location is the list of
names on the way down from the top.
-/

namespace AccessAudit

/-- A regular file, and what may be done with it. -/
structure StoredFile where
  content : Bytes
  isReadable : Bool := true
  isWritable : Bool := true
deriving DecidableEq, Repr

/-- What a name in a directory stands for. -/
inductive Node
  | file (file : StoredFile)
  | link (target : Bytes)
  | directory (entries : List (Bytes × Node))

/-- The names on the way down to a node. -/
abbrev Location := List Bytes

namespace Node

def emptyDirectory : Node := .directory []

/-- The entries of a directory; other nodes have none. -/
def entries : Node → List (Bytes × Node)
  | .directory entries => entries
  | _ => []

/-- The node at a location. -/
def get? (node : Node) : Location → Option Node
  | [] => some node
  | name :: rest =>
      match node.entries.lookup name with
      | some child => child.get? rest
      | none => none

/-- Change the entry of one name; a name that gets no node is removed, and a
new name comes last. -/
def alterEntry (change : Option Node → Option Node) (name : Bytes) :
    List (Bytes × Node) → List (Bytes × Node)
  | [] =>
      match change none with
      | some node => [(name, node)]
      | none => []
  | (other, node) :: rest =>
      if other = name then
        match change (some node) with
        | some changed => (name, changed) :: rest
        | none => rest
      else (other, node) :: alterEntry change name rest

/-- Put a node, or nothing, at a location below a directory.  Where the way
down does not lead through directories, nothing changes. -/
def set (node : Node) (location : Location) (new : Option Node) : Node :=
  match location, node with
  | [], _ => new.getD node
  | [name], .directory entries =>
      .directory (alterEntry (fun _ => new) name entries)
  | name :: rest, .directory entries =>
      .directory (alterEntry (·.map (·.set rest new)) name entries)
  | _ :: _, node => node

/-- Order entries by the bytes of their names. -/
def byName {α : Type} (listing : List (Bytes × α)) : List (Bytes × α) :=
  listing.mergeSort fun a b => !(b.1 < a.1)

mutual

/-- The regular files in a tree, with their locations below it. -/
def files : Node → List (Location × Bytes)
  | .file stored => [([], stored.content)]
  | .link _ => []
  | .directory entries => filesOfEntries entries

/-- The regular files below the entries of a directory. -/
def filesOfEntries : List (Bytes × Node) → List (Location × Bytes)
  | [] => []
  | (name, node) :: rest =>
      node.files.map (fun file => (name :: file.1, file.2)) ++
        filesOfEntries rest

end

mutual

/-- The directories in a tree, with their locations below it, every one
before those inside it. -/
def directories : Node → List Location
  | .file _ | .link _ => []
  | .directory entries => [] :: directoriesOfEntries entries

/-- The directories below the entries of a directory. -/
def directoriesOfEntries : List (Bytes × Node) → List Location
  | [] => []
  | (name, node) :: rest =>
      node.directories.map (name :: ·) ++ directoriesOfEntries rest

end

end Node

end AccessAudit
