import EventFlow.Files.Loading
import EventFlow.Proofs.Document.Whole
import EventFlow.Proofs.Files.Calls
import Mathlib.Data.String.Basic

/-!
Loading files. A file gives the whole flow of the document in it, or none.

* `Holds`: a file is found at a path, and there is a document in it;
* `Loads`: what loading the file of a path gives;
* `runs_loadFile`: loading makes no calls but those that read the file;
* `load_whole`: documents and files are loaded as a whole or not at all.
-/

namespace EventFlow

/-- The document that bytes are the text of. -/
def Document.ofBytes? (bytes : ByteArray) : Option Document := do
  let text ← String.fromUTF8? bytes
  let json ← (Json.read Document.rules text.toList).toOption
  (Document.check json).toOption

section Bytes

variable {c : Catalog} {version : String} {bytes : ByteArray} {d : Document}

theorem Document.exists_check (h : Document.ofBytes? bytes = some d) :
    ∃ json, Document.check json = .ok d := by
  obtain ⟨text, -, h⟩ := Option.bind_eq_some_iff.1 h
  obtain ⟨json, -, h⟩ := Option.bind_eq_some_iff.1 h
  exact ⟨json, Except.eq_ok_of_toOption h⟩

theorem Flow.readBytes_document (h : Document.ofBytes? bytes = some d) :
    Flow.readBytes c version bytes = d.toFlow c version := by
  obtain ⟨text, decoded, h⟩ := Option.bind_eq_some_iff.1 h
  obtain ⟨json, parsed, checked⟩ := Option.bind_eq_some_iff.1 h
  simp only [Flow.readBytes, decoded, Flow.read, Except.eq_ok_of_toOption parsed,
    Except.eq_ok_of_toOption checked]

theorem Flow.readBytes_none (c : Catalog) (version : String)
    (h : Document.ofBytes? bytes = none) :
    ∃ issues, (Flow.readBytes c version bytes).result = .error (.invalid issues) := by
  unfold Flow.readBytes Flow.read
  cases decoded : String.fromUTF8? bytes with
  | none => exact ⟨_, rfl⟩
  | some text =>
    dsimp only
    cases parsed : Json.read Document.rules text.toList with
    | error error => exact ⟨_, rfl⟩
    | ok json =>
      dsimp only
      cases checked : Document.check json with
      | error issues => exact ⟨issues, rfl⟩
      | ok d => simp [Document.ofBytes?, decoded, parsed, checked, Except.toOption] at h

end Bytes

namespace Files

open Document (Sound Refused)

/-- A file is found at a path, and there is a document in it. -/
def Tree.Holds (t : Tree) (p : Path) (d : Document) : Prop :=
  ∃ content, t.find p = .ok (.file content) ∧ Document.ofBytes? ⟨content.toArray⟩ = some d

/-- What loading the file of a path gives: the whole flow of the document in it, or none. None comes
of a document that is refused, of a file without a document, and of one of which the reading is
struck by a fault. -/
inductive Loads (c : Catalog) (d : Disk) (p : Path) : Except OpenError (Option Flow) → Prop where
  | whole {doc : Document} {f : Flow} (calm : ¬d.Struck 3) (holds : d.tree.Holds p doc)
      (sound : Sound c doc.nodes) (startable : doc.Startable) (describes : doc.Describes c f) :
      Loads c d p (.ok (some f))
  | refused {doc : Document} {error : LoadError} (calm : ¬d.Struck 3) (holds : d.tree.Holds p doc)
      (refused : Refused c doc error) (known : ∀ type, error ≠ .unknownType type) :
      Loads c d p (.ok none)
  | unknownType {doc : Document} {error : UnknownType} (calm : ¬d.Struck 3)
      (holds : d.tree.Holds p doc) (refused : Refused c doc (.unknownType error)) :
      Loads c d p (.error (.unknownType error))
  | struck {content : Bytes} (found : d.tree.find p = .ok (.file content)) (strikes : d.Struck 3) :
      Loads c d p (.ok none)
  | nothing (short : d.tree.find p ≠ .error .nameTooLong) (nowhere : ∀ doc, ¬d.tree.Holds p doc) :
      Loads c d p (.ok none)
  | nameTooLong (long : d.tree.find p = .error .nameTooLong) :
      Loads c d p (.error (.nameTooLong p))

section Loading

variable {c : Catalog} {version : String} {d : Disk} {t : Tree} {p : Path} {doc : Document}
  {content : Bytes}

theorem Tree.Holds.natural (h : t.Holds p doc) : ∀ e ∈ doc.nodes, 0 ≤ e.id := by
  obtain ⟨content, -, document⟩ := h
  obtain ⟨json, validated⟩ := Document.exists_check document
  exact Document.natural_of_check validated

/-- Loading makes no calls but those that read the file. -/
theorem runs_loadFile (c : Catalog) (version : String) (d : Disk) (p : Path) :
    ∃ refused, Runs (Call.Reads p) d ((loadFile c version d p).disk, refused) := by
  obtain ⟨refused, run⟩ := runs_readFile d p
  have bytes (e : Disk) (content : Bytes) : (loadBytes c version e p content).disk = e := by
    unfold loadBytes
    dsimp only
    split <;> rfl
  unfold loadFile
  split
  · split <;> rename_i given <;> rw [given] at run
    · exact ⟨refused, by rwa [bytes]⟩
    · exact ⟨refused, run⟩
  · exact ⟨none, .nothing⟩
  · exact ⟨none, .nothing⟩

/-- The document of a text decides what loading it gives. -/
theorem loadBytes_document (holds : Document.ofBytes? ⟨content.toArray⟩ = some doc) :
    (loadBytes c version d p content).result =
      match (doc.toFlow c version).result with
      | .ok f => .ok (some f)
      | .error (.unknownType error) => .error (.unknownType error)
      | .error _ => .ok none := by
  unfold loadBytes
  simp only [Flow.readBytes_document holds]
  cases (doc.toFlow c version).result with
  | ok f => rfl
  | error error => cases error <;> rfl

/-- What comes of a file that could be read. -/
theorem loadBytes_loads (calm : ¬d.Struck 3) (found : d.tree.find p = .ok (.file content))
    (e : Disk) :
    Loads c d p (loadBytes c version e p content).result := by
  cases held : Document.ofBytes? ⟨content.toArray⟩ with
  | none =>
    obtain ⟨issues, read⟩ := Flow.readBytes_none c version held
    have nothing : (loadBytes c version e p content).result = .ok none := by
      unfold loadBytes
      simp only [read]
    rw [nothing]
    refine .nothing (by rw [found]; nofun) fun doc holds => ?_
    obtain ⟨other, found', document⟩ := holds
    cases found.symm.trans found'
    rw [held] at document
    cases document
  | some doc =>
    have holds : d.tree.Holds p doc := ⟨content, found, held⟩
    have loads := Document.toFlow_loads (c := c) version holds.natural
    rw [loadBytes_document held]
    cases made : (doc.toFlow c version).result with
    | ok f =>
      obtain ⟨sound, startable⟩ := loads.succeeds.1 ⟨f, made⟩
      exact .whole calm holds sound startable (loads.whole f made)
    | error error =>
      have refused := (loads.refused error).1 made
      cases error with
      | unknownType error => exact .unknownType calm holds refused
      | invalid | duplicateId | wording => exact .refused calm holds refused nofun

theorem loadFile_nameTooLong (long : d.tree.find p = .error .nameTooLong) :
    (loadFile c version d p).result = .error (.nameTooLong p) := by
  unfold loadFile
  rw [long]

theorem loadFile_loads (c : Catalog) (version : String) (d : Disk) (p : Path) :
    Loads c d p (loadFile c version d p).result := by
  have noFile (other : ∀ content, d.tree.find p ≠ .ok (.file content)) (doc : Document) :
      ¬d.tree.Holds p doc := fun ⟨content, found, _⟩ => other content found
  unfold loadFile
  split
  · rename_i content found
    obtain ⟨calm, given⟩ | ⟨strikes, error, given⟩ := readFile_there (Tree.read_of_find found)
    · generalize d.readFile p = read at given
      obtain ⟨e, result⟩ := read
      obtain rfl : result = .ok content := given
      exact loadBytes_loads calm found e
    · generalize d.readFile p = read at given
      obtain ⟨e, result⟩ := read
      obtain rfl : result = .error error := given
      exact .struck found strikes
  · rename_i long
    exact .nameTooLong long
  · rename_i noFile' short
    exact .nothing short (noFile noFile')

end Loading

/-- **A document is loaded as a whole or not at all**, from a text and from a file. A document gives
the flow that it describes if its ids are distinct, its types are in the catalog and there are words
for what is to be reported, and is refused for its first faulty entry otherwise. An empty catalog of
its own gives way to the standing one. Of a file that cannot be read, or of one without a document,
comes none; only a name that is too long is in the way of trying it. -/
theorem load_whole (standing : Catalog) (own : Option Catalog) (version : String) :
    (∀ {json : Json} {doc : Document}, Document.check json = .ok doc →
      doc.Loads (standing.given own) (doc.toFlowOf standing own version).result) ∧
      ∀ c d p, Loads c d p (loadFile c version d p).result :=
  ⟨fun validated => Document.toFlow_loads version (Document.natural_of_check validated),
    fun c d p => loadFile_loads c version d p⟩

/-- A document with the same id twice, the second time under a type that does not exist. -/
def repeatedId : Json :=
  .object [("nodes", .array [
    .object [("id", .int 1), ("type", .text "TriggerNode")],
    .object [("id", .int 1), ("type", .text "Nothing")]])]

theorem load_whole_repeatedId :
    ∃ doc, Document.check repeatedId = .ok doc ∧
      doc.Loads Catalog.standard (doc.toFlowOf Catalog.standard (some []) "1").result := by
  obtain ⟨doc, validated⟩ : ∃ doc, Document.check repeatedId = .ok doc := ⟨_, rfl⟩
  exact ⟨doc, validated, (load_whole Catalog.standard (some []) "1").1 validated⟩

/-! ## Names beyond the limit -/

/-- A file with a name beyond the limit can nowhere be looked up. -/
theorem find_long (t : Tree) {name : String} (plain : name.toList.contains '\x00' = false)
    (long : Tree.nameLimit < name.utf8ByteSize) :
    t.find ⟨false, [name]⟩ = .error .nameTooLong := by
  have text : Path.text ⟨false, [name]⟩ = name := rfl
  have up : name ≠ ".." := by
    rintro rfl
    exact absurd long (by decide)
  have located : t.locate ⟨false, [name]⟩ = .error .nameTooLong := by
    simp only [Tree.locate, text, plain, Tree.locateFrom, Tree.entry?, List.isEmpty_nil, up, long,
      Bool.false_eq_true, ↓reduceIte, ite_self]
  rw [Tree.find, located]
  rfl

/-- A name of so many letters. -/
def letters (n : Nat) : String := String.ofList (List.replicate n 'q')

theorem utf8ByteSize_letters (n : Nat) : (letters n).utf8ByteSize = n := by
  rw [letters, String.utf8ByteSize_ofList]
  induction n with
  | zero => rfl
  | succ n ih =>
    rw [List.replicate_succ, String.utf8Len_cons, ih]
    rfl

theorem find_letters (t : Tree) {n : Nat} (long : Tree.nameLimit < n) :
    t.find ⟨false, [letters n]⟩ = .error .nameTooLong := by
  refine find_long t ?_ ?_
  · simp [letters]
  · rwa [utf8ByteSize_letters]

/-- Loading from a name that is one letter too long gives neither a flow nor none. -/
theorem loadFile_letters :
    (loadFile Catalog.standard "1" (.ofTree []) ⟨false, [letters 256]⟩).result =
      .error (.nameTooLong ⟨false, [letters 256]⟩) :=
  loadFile_nameTooLong (find_letters [] (by decide))

end Files

end EventFlow
