import EventFlow.Document.Writing
import EventFlow.Files.Disk
import EventFlow.Log

/-!
Saving flows. Without `replace` a file is only created where there is none; with it the text goes to
a sibling file first, which is then moved over the target, so that the target is never seen half
written.
-/

namespace EventFlow.Files

/-- Why saving cannot even be tried. -/
inductive SaveError where
  | unwritable (error : WriteError)
  | noName (path : Path)
  | nullByte
  deriving Repr

def SaveError.message : SaveError → String
  | unwritable error => error.message
  | noName path => "PosixPath(" ++ Text.quoted path.text ++ ") has an empty name"
  | nullByte => FileError.nullByte.message

/-- What saving a flow leads to: whether it was saved, unless that could not even be tried. -/
structure Saved where
  disk : Disk
  result : Except SaveError Bool
  log : Log
  deriving Repr

def bytesOf (text : List Char) : Bytes :=
  (String.ofList text).toUTF8.toList

def savedLog (flow : String) (p : Path) : LogEntry :=
  info ("Saved flow '" ++ flow ++ "' to " ++ p.text)

def notSavedLog (flow : String) (p : Path) (error : FileError) : LogEntry :=
  failure ("Failed to save flow '" ++ flow ++ "' to " ++ p.text ++ ": " ++ error.message)

/-- Removes a file if it is there; a refusal is only reported. -/
def removeQuietly (d : Disk) (p : Path) : Disk × Log :=
  match d.call (.remove p) with
  | (d, none) => (d, [])
  | (d, some .absent) => (d, [])
  | (d, some error) => (d, [warning ("Could not remove " ++ p.text ++ ": " ++ error.message)])

/-- Some calls after the directory of a path was made. -/
def inDirectory (d : Disk) (p : Path) (calls : List Call) : Disk × Option FileError :=
  match d.makeDirectories p.parent with
  | (d, some error) => (d, some error)
  | (d, none) => d.calls calls

/-- Saves a text in a new file. -/
def saveNew (d : Disk) (flow : String) (p : Path) (bytes : Bytes) : Saved :=
  match inDirectory d p [.create p, .write p bytes, .close p] with
  | (d, none) => ⟨d, .ok true, [savedLog flow p]⟩
  | (d, some .nullByte) => ⟨d, .error .nullByte, []⟩
  | (d, some .present) =>
    ⟨d, .ok false, [warning ("Not saving flow '" ++ flow ++ "': " ++ p.text ++ " already exists")]⟩
  | (d, some error) =>
    let (d, log) := removeQuietly d p
    ⟨d, .ok false, notSavedLog flow p error :: log⟩

/-- The sibling that a replacing save writes to. -/
def temporary (p : Path) : Path :=
  p.sibling ".tmp"

/-- Saves a text in a file, whether it is there or not. -/
def saveOver (d : Disk) (flow : String) (p : Path) (bytes : Bytes) : Saved :=
  let tmp := temporary p
  match inDirectory d p
      [.truncate tmp, .write tmp bytes, .flush tmp, .sync tmp, .close tmp, .rename tmp p] with
  | (d, none) => ⟨d, .ok true, [savedLog flow p]⟩
  | (d, some .nullByte) => ⟨d, .error .nullByte, []⟩
  | (d, some error) =>
    let (d, log) := removeQuietly d tmp
    ⟨d, .ok false, notSavedLog flow p error :: log⟩

/-- Saves a flow that can be dumped. Only a path with a name has siblings. -/
def save (d : Disk) (f : Flow) (p : Path) (replace : Bool) : Saved :=
  match f.dump with
  | .error error => ⟨d, .error (.unwritable error), []⟩
  | .ok text =>
    if !replace then saveNew d f.name p (bytesOf text)
    else if p.name = "" then ⟨d, .error (.noName p), []⟩
    else saveOver d f.name p (bytesOf text)

end EventFlow.Files
