import EventFlow.Document.Reading
import EventFlow.Files.Disk

/-!
Loading flows from files. A file that is missing, cannot be read or holds no flow gives none; a type
that the catalog does not hold and a name too long for a file are errors. Faults strike the calls
that read a file, but not the look-up of what is there.
-/

namespace EventFlow.Files

/-- Why a file cannot even be tried. -/
inductive OpenError where
  | unknownType (error : UnknownType)
  | nameTooLong (path : Path)
  deriving DecidableEq, Repr

def OpenError.message : OpenError → String
  | unknownType error => error.message
  | nameTooLong path => "[Errno 36] File name too long: " ++ Text.quoted path.text

/-- What loading a file gives, and what it reports. -/
structure FileLoaded where
  disk : Disk
  result : Except OpenError (Option Flow)
  log : Log
  deriving Repr

def notLoadedLog (p : Path) : LogEntry :=
  failure ("Failed to load flow from " ++ p.text)

/-- What the bytes of a file give. -/
def loadBytes (c : Catalog) (version : String) (d : Disk) (p : Path) (content : Bytes) :
    FileLoaded :=
  let loaded := Flow.readBytes c version ⟨content.toArray⟩
  match loaded.result with
  | .ok f => ⟨d, .ok (some f), loaded.log⟩
  | .error (.unknownType error) => ⟨d, .error (.unknownType error), loaded.log⟩
  | .error _ => ⟨d, .ok none, loaded.log ++ [notLoadedLog p]⟩

def loadFile (c : Catalog) (version : String) (d : Disk) (p : Path) : FileLoaded :=
  match d.tree.find p with
  | .ok (.file _) =>
    match d.readFile p with
    | (d, .ok content) => loadBytes c version d p content
    | (d, .error _) => ⟨d, .ok none, [notLoadedLog p]⟩
  | .error .nameTooLong => ⟨d, .error (.nameTooLong p), []⟩
  | _ => ⟨d, .ok none, [failure ("Flow file " ++ p.text ++ " does not exist")]⟩

def isFlowFile (name : String) : Bool :=
  ".json".toList.isSuffixOf name.toList

/-- The flow files of a directory, by name. -/
def flowFiles (t : Tree) (directory : Path) : List Path :=
  match t.locate directory with
  | .error _ => []
  | .ok at_ =>
    let names := (t.names at_).filter isFlowFile
    (names.mergeSort fun a b => decide (a ≤ b)).map directory.child

end EventFlow.Files
