import EventFlow.Files.Tree

/-!
A disk: a tree of files that changes call by call. Any call may be struck by a fault, which refuses
it; a write that is struck may have been done in part. The disk keeps the trees it went through.
-/

namespace EventFlow.Files

inductive Call where
  | makeDirectory (path : Path)
  | openFile (path : Path)
  | read (path : Path)
  | create (path : Path)
  | truncate (path : Path)
  | write (path : Path) (bytes : Bytes)
  | flush (path : Path)
  | sync (path : Path)
  | close (path : Path)
  | rename (source target : Path)
  | remove (path : Path)
  deriving DecidableEq, Repr

/-- What may befall a call: an error, and for a write the number of bytes that were still
written. -/
structure Fault where
  error : FileError
  written : Nat
  deriving DecidableEq, Repr

/-- A disk; `faults` says what befalls the next calls, and `past` holds the earlier trees, the
latest first. -/
structure Disk where
  tree : Tree
  faults : List (Option Fault)
  past : List Tree
  deriving Repr

/-- A disk on which no call is struck. -/
def Disk.ofTree (t : Tree) : Disk := ⟨t, [], []⟩

/-- The effect of a call on a tree. -/
def Call.effect (t : Tree) : Call → Except FileError Tree
  | makeDirectory p => t.makeDirectory p
  | openFile p => (t.read p).map fun _ => t
  | read p => (t.read p).map fun _ => t
  | create p => t.create p
  | truncate p => t.truncate p
  | write p bytes => t.append p bytes
  | flush _ => .ok t
  | sync _ => .ok t
  | close _ => .ok t
  | rename p q => t.rename p q
  | remove p => t.remove p

/-- The tree that a call struck by a fault leaves behind. -/
def Call.remains (t : Tree) (fault : Fault) : Call → Tree
  | write p bytes =>
    match t.append p (bytes.take fault.written) with
    | .ok t => t
    | .error _ => t
  | _ => t

/-- One call: the disk after it, and the error if it was refused. -/
def Disk.call (d : Disk) (c : Call) : Disk × Option FileError :=
  match d.faults with
  | some fault :: rest =>
    (⟨c.remains d.tree fault, rest, d.tree :: d.past⟩, some fault.error)
  | none :: rest =>
    match c.effect d.tree with
    | .ok t => (⟨t, rest, d.tree :: d.past⟩, none)
    | .error error => (⟨d.tree, rest, d.tree :: d.past⟩, some error)
  | [] =>
    match c.effect d.tree with
    | .ok t => (⟨t, [], d.tree :: d.past⟩, none)
    | .error error => (⟨d.tree, [], d.tree :: d.past⟩, some error)

/-- Calls one after the other, up to the first that is refused. -/
def Disk.calls (d : Disk) : List Call → Disk × Option FileError
  | [] => (d, none)
  | c :: rest =>
    match d.call c with
    | (d, none) => d.calls rest
    | (d, some error) => (d, some error)

/-- Reads the file that a path leads to. -/
def Disk.readFile (d : Disk) (p : Path) : Disk × Except FileError Bytes :=
  match d.calls [.openFile p, .read p, .close p] with
  | (d, none) => (d, d.tree.read p)
  | (d, some error) => (d, .error error)

/-- Makes a directory, which may be there already. That a directory above it is missing is told,
even where the directory is there. -/
def Disk.tryDirectory (d : Disk) (p : Path) : Disk × Option FileError :=
  match d.call (.makeDirectory p) with
  | (d, none) => (d, none)
  | (d, some .absent) => (d, some .absent)
  | (d, some error) => (d, if d.tree.hasDirectory p then none else some error)

/-- Makes a directory, and those above it if one of them is missing; `parts` counts the components
of its path. -/
def Disk.ensureDirectory (d : Disk) (p : Path) : (parts : Nat) → Disk × Option FileError
  | 0 => d.tryDirectory p
  | parts + 1 =>
    match d.tryDirectory p with
    | (d, some .absent) =>
      match d.ensureDirectory p.parent parts with
      | (d, some error) => (d, some error)
      | (d, none) => d.tryDirectory p
    | tried => tried

/-- Makes a directory and the directories above it, unless they are there. -/
def Disk.makeDirectories (d : Disk) (p : Path) : Disk × Option FileError :=
  d.ensureDirectory p p.parts.length

/-- Writes a file of its own accord, with the directories above it. -/
def writeFile (d : Disk) (p : Path) (bytes : Bytes) : Disk × Option FileError :=
  match d.makeDirectories p.parent with
  | (d, some error) => (d, some error)
  | (d, none) => d.calls [.truncate p, .write p bytes, .close p]

end EventFlow.Files
