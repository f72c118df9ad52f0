import EventFlow.Files.Loading
import EventFlow.Files.Name
import EventFlow.Files.Saving
import EventFlow.Host.Basic

/-!
The flow directory: saving every stored flow to it, and storing every flow that is found in it.
-/

namespace EventFlow.Host

/-- A host after its directory was read, with the number of flows loaded. -/
structure DirectoryLoaded where
  host : Host
  result : Except Files.OpenError Nat
  log : Log

/-- Stores a flow whose runs the shared history records. -/
def storeFlow (h : Host) (f : Flow) : Host :=
  let (h, manager) := h.addManager ⟨.ofFlow f, shared⟩
  h.store manager

/-- Loads files one after the other; those that hold no flow are reported and left out. -/
def loadFiles (h : Host) : List Files.Path → DirectoryLoaded
  | [] => ⟨h, .ok 0, []⟩
  | p :: rest =>
    let loaded := Files.loadFile h.catalog h.settings.formatVersion h.disk p
    let h := { h with disk := loaded.disk }
    match loaded.result with
    | .ok (some f) =>
      let after := loadFiles (h.storeFlow f) rest
      ⟨after.host, after.result.map (· + 1), loaded.log ++ after.log⟩
    | .ok none =>
      let after := loadFiles h rest
      ⟨after.host, after.result, loaded.log ++ after.log⟩
    | .error (.unknownType error) =>
      let after := loadFiles h rest
      let skipped := failure ("Skipping " ++ p.text ++ ": " ++ error.message)
      ⟨after.host, after.result, loaded.log ++ skipped :: after.log⟩
    | .error (.nameTooLong p) => ⟨h, .error (.nameTooLong p), loaded.log⟩

/-- The directory of a name, or that of the settings for an empty name. -/
def directory (h : Host) (name : String) : Files.Path :=
  .ofText (if name = "" then h.settings.flowDirectory else name)

/-- Stores every flow of a directory. -/
def loadDirectory (h : Host) (name : String) : DirectoryLoaded :=
  let dir := h.directory name
  match h.disk.tree.find dir with
  | .ok .directory =>
    let after := h.loadFiles (Files.flowFiles h.disk.tree dir)
    match after.result with
    | .ok count =>
      { after with
        log := after.log ++ [info ("Loaded " ++ toString count ++ " flows from " ++ dir.text)] }
    | .error _ => after
  | .error .nameTooLong => ⟨h, .error (.nameTooLong dir), []⟩
  | _ =>
    ⟨h, .ok 0, [info ("Flow directory " ++ dir.text ++ " does not exist, nothing to load")]⟩

/-- A host after saving, with the number of flows saved. -/
structure DirectorySaved where
  host : Host
  result : Except Files.SaveError Nat
  log : Log

/-- Saves flows one after the other, up to one that cannot even be tried. -/
def saveFlows (h : Host) (dir : Files.Path) : List Flow → DirectorySaved
  | [] => ⟨h, .ok 0, []⟩
  | f :: rest =>
    let saved := Files.save h.disk f (dir.child (Files.fileName f.name)) true
    let h := { h with disk := saved.disk }
    match saved.result with
    | .error error => ⟨h, .error error, saved.log⟩
    | .ok done =>
      let after := saveFlows h dir rest
      ⟨after.host, after.result.map fun count => if done then count + 1 else count,
        saved.log ++ after.log⟩

/-- Saves every stored flow in a directory. -/
def saveAll (h : Host) (name : String) : DirectorySaved :=
  h.saveFlows (h.directory name) (h.storedManagers.map fun p => p.2.editor.flow)

end EventFlow.Host
