import Traversal.Bytes

/-!
# Files

The files of a host by their paths.  A path is followed name by name, and every name but the last has to
be one of a directory.  Names and paths that are too long are not looked for at all.
-/

namespace Traversal.Host

/-- What a file name stands for. -/
inductive File
  | directory
  /-- A file with its permissions, three bits for each of its owner, its group and others. -/
  | regular (content : Bytes) (mode : Nat)
deriving DecidableEq, Repr

/-- Whether permissions allow that a file is run. -/
def allowsRunning (mode : Nat) : Bool :=
  mode &&& 0o111 ≠ 0

/-- The permissions of a file that is just data. -/
def plainMode : Nat := 0o644

/-- Files by their plain paths; the root is not among them. -/
structure Files where
  entries : List (Bytes × File) := []
deriving DecidableEq, Repr

namespace Files

/-- The separator of names in a path. -/
def slash : UInt8 := 47

/-- The directory that relative paths start from. -/
def workingDirectory : Bytes := Bytes.ofText "/root"

/-- A path from the root. -/
def absolute (path : Bytes) : Bytes :=
  if path.head? = some slash then path else workingDirectory ++ [slash] ++ path

/-- The names in a path from the root. -/
def names (path : Bytes) : List Bytes :=
  ((absolute path).splitOn slash).filter fun name => !name.isEmpty && name ≠ Bytes.ofText "."

/-- One more name, or one less; the innermost name comes first. -/
def descend (above : List Bytes) (name : Bytes) : List Bytes :=
  if name = Bytes.ofText ".." then above.tail else name :: above

/-- The path of some names, the innermost one first. -/
def join (inward : List Bytes) : Bytes :=
  if inward.isEmpty then [slash] else inward.reverse.flatMap (slash :: ·)

/-- A path without steps upwards or on the spot. -/
def plain (path : Bytes) : Bytes :=
  join ((names path).foldl descend [])

/-- The path of the directory that a file is in. -/
def parent (path : Bytes) : Bytes :=
  join ((names path).foldl descend []).tail

/-- What a plain path stands for. -/
def file? (files : Files) (path : Bytes) : Option File :=
  if path = [slash] then some .directory else files.entries.lookup path

/-- The most bytes in a name. -/
def nameLimit : Nat := 255

/-- The most bytes in a path. -/
def pathLimit : Nat := 4095

/-- Follows names from a directory; fails with an error number. -/
def follow (files : Files) (above : List Bytes) : List Bytes → Except Nat File
  | [] => ((files.file? (join above)).map .ok).getD (.error 2)
  | name :: rest =>
    match files.file? (join above) with
    | some .directory =>
      if nameLimit < name.length then .error 36 else files.follow (descend above name) rest
    | some (.regular _ _) => .error 20
    | none => .error 2

/-- What a path leads to, or an error number. -/
def find (files : Files) (path : Bytes) : Except Nat File :=
  if path.isEmpty then .error 2
  else if pathLimit < path.length then .error 36
  else
    match files.follow [] (names path) with
    | .ok (.regular content mode) =>
      if path.getLast? = some slash then .error 20 else .ok (.regular content mode)
    | found => found

/-- Removes a file. -/
def remove (files : Files) (path : Bytes) : Files :=
  ⟨files.entries.filter fun entry => entry.1 != plain path⟩

/-- Sets what a path stands for. -/
def store (files : Files) (path : Bytes) (file : File) : Files :=
  ⟨(plain path, file) :: (files.remove path).entries⟩

/-- Sets what a path stands for, and makes the directories on its way that there are not. -/
def provide (files : Files) (path : Bytes) (file : File) : Files :=
  let way := (names path).dropLast
  let directories := (List.range (way.length + 1)).map fun n => join ((way.take n).foldl descend [])
  let files := directories.foldl (fun files directory =>
    if (files.file? directory).isNone then files.store directory .directory else files) files
  files.store path file

/-- What the file at a path holds, or an error number. -/
def content (files : Files) (path : Bytes) : Except Nat Bytes :=
  if plain path = Bytes.ofText "/dev/null" then .ok []
  else
    match files.find path with
    | .ok (.regular content _) => .ok content
    | .ok .directory => .error 21
    | .error e => .error e

end Files
end Traversal.Host
