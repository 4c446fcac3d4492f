import ChartManifests.Text.Utf8
/-!
What can stand in the tree of files: directories, stored files, links to other paths, and files that
stand for something else than stored bytes. Each has permissions, and the time at which its content
was last changed.
-/

namespace ChartManifests

inductive Device
  | null
  | zero
  | full
  | random
  | input
  | output
  | errors
deriving DecidableEq, Repr

inductive Entry
  | directory
  | file (content : Text.Bytes)
  | link (target : String)
  | device (kind : Device)
  | queue
  | utility (name : String)
deriving DecidableEq, Repr

/-- Something in the tree. The permissions are bits, and times are microseconds. -/
structure Node where
  entry : Entry
  mode : Nat
  changed : Nat
deriving DecidableEq, Repr

namespace Permission

def ofFile : Nat := 0o666

def ofDirectory : Nat := 0o777

def usualMask : Nat := 0o022

def without (mask mode : Nat) : Nat := mode - (mode &&& mask)

def allowsRunning (mode : Nat) : Bool := mode &&& 0o111 ≠ 0

end Permission

def Node.tick : Nat := 4000

def Node.isNewer (first second : Node) : Bool :=
  second.changed / tick < first.changed / tick

end ChartManifests
