import Traversal.Config
import Traversal.Host

/-!
# The engine's executable

Before it can be started, an engine that comes as bytes is written to a file of its own, which only its
owner can use and which is removed once it is not needed any more.  An engine that is a file already is
used where it is.
-/

namespace Traversal.Engine

/-- An executable that is ready to be started. -/
structure Prepared where
  path : Bytes
  /-- The file was made for this and is to be removed. -/
  isOwn : Bool
deriving DecidableEq, Repr

namespace Prepared

/-- The directory of the files that are made. -/
def directory : Bytes := Bytes.ofText "/tmp/"

/-- What the names of the files that are made begin with. -/
def heading : Bytes := Bytes.ofText "natty-"

/-- The permissions of the files that are made. -/
def mode : Nat := 0o700

/-- A path that no file has, from a number on; looks at so many numbers. -/
def freePath (files : Host.Files) (number : Nat) : Nat → Bytes
  | 0 => directory ++ heading ++ Bytes.ofChars (Nat.toDigits 10 number)
  | n + 1 =>
    let path := directory ++ heading ++ Bytes.ofChars (Nat.toDigits 10 number)
    if (files.file? path).isNone then path else freePath files (number + 1) n

/-- Gets an executable ready. -/
def make (h : Host) (binary : Binary) : Host × Prepared :=
  match binary with
  | .path path => (h, { path := Bytes.ofText path, isOwn := false })
  | .embedded content =>
    let path := freePath h.files 100000 h.files.entries.length
    (h.store path content mode, { path, isOwn := true })

/-- Removes the file that was made. -/
def discard (h : Host) (p : Prepared) : Host :=
  if p.isOwn then h.remove p.path else h

end Prepared
end Traversal.Engine
