import EventFlow.Files.Path

/-!
A tree of files and directories. An entry is known by its location, the names from the root on; the
root itself is a directory that is always there. There are no links, neither hard nor symbolic: two
locations never share a content, and a path leads where its names say.
-/

namespace EventFlow.Files

abbrev Location := List String

abbrev Bytes := List UInt8

inductive Entry where
  | directory
  | file (content : Bytes)
  deriving DecidableEq, Repr

/-- Why a file call is refused. -/
inductive FileError where
  | absent
  | present
  | notDirectory
  | isDirectory
  | nameTooLong
  | nullByte
  | other
  deriving DecidableEq, Repr

def FileError.message : FileError → String
  | absent => "no such file or directory"
  | present => "file exists"
  | notDirectory => "not a directory"
  | isDirectory => "is a directory"
  | nameTooLong => "file name too long"
  | nullByte => "embedded null byte"
  | other => "input/output error"

/-- The entries of a tree under distinct locations, without the root. -/
abbrev Tree := List (Location × Entry)

namespace Tree

def entry? (t : Tree) (at_ : Location) : Option Entry :=
  if at_.isEmpty then some .directory else List.lookup at_ t

def isDirectory (t : Tree) (at_ : Location) : Bool :=
  t.entry? at_ = some .directory

def put : Tree → Location → Entry → Tree
  | [], at_, e => [(at_, e)]
  | (l, old) :: rest, at_, e => if l = at_ then (l, e) :: rest else (l, old) :: put rest at_ e

def erase (t : Tree) (at_ : Location) : Tree :=
  t.filter fun p => p.1 != at_

/-- The longest name that a file may have, in bytes. -/
def nameLimit : Nat := 255

/-- Where a list of components leads from a location. All but the last have to be directories. -/
def locateFrom (t : Tree) (at_ : Location) : List String → Except FileError Location
  | [] => .ok at_
  | part :: rest =>
    match t.entry? at_ with
    | none => .error .absent
    | some (.file _) => .error .notDirectory
    | some .directory =>
      if part = ".." then locateFrom t at_.dropLast rest
      else if nameLimit < part.utf8ByteSize then .error .nameTooLong
      else locateFrom t (at_ ++ [part]) rest

/-- The longest path that may be looked up, in bytes. -/
def pathLimit : Nat := 4095

/-- Where a path leads. A path with a null character or beyond the limit is not looked up at all. -/
def locate (t : Tree) (p : Path) : Except FileError Location :=
  if p.text.toList.contains '\x00' then .error .nullByte
  else if pathLimit < p.text.utf8ByteSize then .error .nameTooLong
  else locateFrom t [] p.parts

/-- The entry that a path leads to. -/
def find (t : Tree) (p : Path) : Except FileError Entry := do
  match t.entry? (← t.locate p) with
  | some e => .ok e
  | none => .error .absent

/-- The content of the file that a path leads to, as a call reads it. -/
def read (t : Tree) (p : Path) : Except FileError Bytes := do
  match ← t.find p with
  | .file content => .ok content
  | .directory => .error .isDirectory

/-- The content of the file that a path leads to. -/
def content? (t : Tree) (p : Path) : Option Bytes :=
  match t.find p with
  | .ok (.file content) => some content
  | _ => none

/-- Whether a path leads to a directory. -/
def hasDirectory (t : Tree) (p : Path) : Bool :=
  match t.find p with
  | .ok .directory => true
  | _ => false

/-- Makes a directory. -/
def makeDirectory (t : Tree) (p : Path) : Except FileError Tree := do
  let at_ ← t.locate p
  match t.entry? at_ with
  | some _ => .error .present
  | none => .ok (t.put at_ .directory)

/-- Makes an empty file where there is nothing. -/
def create (t : Tree) (p : Path) : Except FileError Tree := do
  let at_ ← t.locate p
  match t.entry? at_ with
  | some _ => .error .present
  | none => .ok (t.put at_ (.file []))

/-- Makes a file empty, whether it is there or not. -/
def truncate (t : Tree) (p : Path) : Except FileError Tree := do
  let at_ ← t.locate p
  match t.entry? at_ with
  | some .directory => .error .isDirectory
  | _ => .ok (t.put at_ (.file []))

/-- Adds bytes to the end of a file. -/
def append (t : Tree) (p : Path) (bytes : Bytes) : Except FileError Tree := do
  let at_ ← t.locate p
  match t.entry? at_ with
  | some (.file content) => .ok (t.put at_ (.file (content ++ bytes)))
  | some .directory => .error .isDirectory
  | none => .error .absent

/-- Moves a file over another one or to where there is nothing. -/
def rename (t : Tree) (p q : Path) : Except FileError Tree := do
  let source ← t.locate p
  let target ← t.locate q
  match t.entry? source, t.entry? target with
  | some (.file _), some .directory => .error .isDirectory
  | some (.file content), _ => .ok ((t.erase source).put target (.file content))
  | some .directory, _ => .error .isDirectory
  | none, _ => .error .absent

/-- Removes a file. -/
def remove (t : Tree) (p : Path) : Except FileError Tree := do
  let at_ ← t.locate p
  match t.entry? at_ with
  | some (.file _) => .ok (t.erase at_)
  | some .directory => .error .isDirectory
  | none => .error .absent

/-- The names in a directory. -/
def names (t : Tree) (directory : Location) : List String :=
  t.filterMap fun p =>
    match p.1.getLast? with
    | some name => if p.1.dropLast = directory then some name else none
    | none => none

end Tree

end EventFlow.Files
