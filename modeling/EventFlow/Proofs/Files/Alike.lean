import EventFlow.Files.Loading
import EventFlow.Proofs.Files.Replacing

/-!
What of a tree matters to the calls on a disk: the content of a file only where it is read.

* `Tree.Alike`: two trees with the same directories and files, and the same content where it is
  seen;
* `effect_alike`: a call does the same to both, unless it moves a content from where it is not seen
  to where it is;
* `calls_alike`, `ensureDirectory_alike`, `save_alike`: so do all the calls of a save;
* `loadFile_alike`: so do those of loading, which gives the same from both if what the path leads to
  is seen.
-/

namespace EventFlow.Files

/-- What there is at a location of two trees: the same, or files that are equal if they are
`seen`. -/
inductive Like (seen : Prop) : Option Entry → Option Entry → Prop
  | nothing : Like seen none none
  | directory : Like seen (some .directory) (some .directory)
  | file {a b : Bytes} (same : seen → a = b) : Like seen (some (.file a)) (some (.file b))

/-- Two trees that differ at most in the content of files that are not seen. -/
def Tree.Alike (seen : Location → Prop) (t u : Tree) : Prop :=
  ∀ l, Like (seen l) (t.entry? l) (u.entry? l)

/-- Two refusals that are the same, or two alike trees. -/
inductive AlikeOutcome (seen : Location → Prop) :
    Except FileError Tree → Except FileError Tree → Prop
  | refused (error : FileError) : AlikeOutcome seen (.error error) (.error error)
  | done {t u : Tree} (alike : t.Alike seen u) : AlikeOutcome seen (.ok t) (.ok u)

/-- Two disks with alike trees, on which the same befalls the next calls. -/
structure Disk.Alike (seen : Location → Prop) (d e : Disk) : Prop where
  tree : d.tree.Alike seen e.tree
  faults : d.faults = e.faults

/-- Two runs of calls with the same refusal, or with none, that leave alike disks. -/
inductive AlikeRun (seen : Location → Prop) :
    Disk × Option FileError → Disk × Option FileError → Prop
  | ran {d e : Disk} (disk : d.Alike seen e) (refused : Option FileError) :
      AlikeRun seen (d, refused) (e, refused)

/-- A call that moves no content from where it is not seen to where it is. -/
def Call.Discreet (seen : Location → Prop) : Call → Prop
  | rename p q => seen q.location → seen p.location
  | _ => True

theorem Like.refl (seen : Prop) (e : Option Entry) : Like seen e e := by
  cases e with
  | none => exact .nothing
  | some e =>
    cases e with
    | directory => exact .directory
    | file => exact .file fun _ => rfl

theorem Like.eq {seen : Prop} {e e' : Option Entry} (like : Like seen e e')
    (reads : seen ∨ e = some .directory) : e = e' := by
  cases like with
  | nothing | directory => rfl
  | file same =>
    obtain here | no := reads
    · rw [same here]
    · cases no

variable {seen : Location → Prop} {t u : Tree} {p q : Path} {d e : Disk}

section Trees

namespace Tree.Alike

theorem put (h : t.Alike seen u) {l : Location} {a b : Entry}
    (like : Like (seen l) (some a) (some b)) : Tree.Alike seen (t.put l a) (u.put l b) := by
  intro m
  by_cases root : m = []
  · subst root
    exact .directory
  · have before := h m
    rw [entry?_of_ne root, entry?_of_ne root] at before
    rw [entry?_of_ne root, entry?_of_ne root, lookup_put, lookup_put]
    split
    · rename_i here
      exact here ▸ like
    · exact before

theorem erase (h : t.Alike seen u) (l : Location) :
    Tree.Alike seen (t.erase l) (u.erase l) := by
  intro m
  by_cases root : m = []
  · subst root
    exact .directory
  · have before := h m
    rw [entry?_of_ne root, entry?_of_ne root] at before
    rw [entry?_of_ne root, entry?_of_ne root, lookup_erase, lookup_erase]
    split
    · exact .nothing
    · exact before

theorem locateFrom (h : t.Alike seen u) (at_ : Location) (parts : List String) :
    t.locateFrom at_ parts = u.locateFrom at_ parts := by
  induction parts generalizing at_ with
  | nil => rfl
  | cons part rest ih =>
    have like := h at_
    rw [Tree.locateFrom, Tree.locateFrom]
    generalize t.entry? at_ = a, u.entry? at_ = b at like ⊢
    cases like with
    | nothing | file => rfl
    | directory => simp only [ih]

/-- Paths lead to the same places. -/
theorem locate (h : t.Alike seen u) (p : Path) : t.locate p = u.locate p := by
  unfold Tree.locate
  rw [h.locateFrom]

theorem find (h : t.Alike seen u)
    (reads : ∀ l, t.locate p = .ok l → seen l ∨ t.entry? l = some .directory) :
    t.find p = u.find p := by
  unfold Tree.find
  rw [← h.locate]
  cases located : t.locate p with
  | error error => rfl
  | ok l =>
    simp only [bind, Except.bind]
    rw [(h l).eq (reads l located)]

theorem hasDirectory (h : t.Alike seen u) (p : Path) : t.hasDirectory p = u.hasDirectory p := by
  unfold Tree.hasDirectory Tree.find
  rw [← h.locate]
  cases t.locate p with
  | error error => rfl
  | ok l =>
    have like := h l
    simp only [bind, Except.bind]
    generalize t.entry? l = a, u.entry? l = b at like ⊢
    cases like <;> rfl

/-- What is done at the place that a path leads to. -/
theorem bind (h : t.Alike seen u) {f g : Location → Except FileError Tree}
    (each : ∀ l, AlikeOutcome seen (f l) (g l)) :
    AlikeOutcome seen (t.locate p >>= f) (u.locate p >>= g) := by
  rw [← h.locate]
  cases t.locate p with
  | error error => exact .refused error
  | ok l => exact each l

/-- Reading is refused by both trees or by none. -/
theorem reads (h : t.Alike seen u) (p : Path) :
    AlikeOutcome seen ((t.read p).map fun _ => t) ((u.read p).map fun _ => u) := by
  unfold Tree.read Tree.find
  rw [← h.locate]
  cases t.locate p with
  | error error => exact .refused error
  | ok l =>
    have like := h l
    simp only [Bind.bind, Except.bind]
    generalize t.entry? l = a, u.entry? l = b at like ⊢
    cases like with
    | nothing | directory => exact .refused _
    | file => exact .done h

theorem append (h : t.Alike seen u) (bytes : Bytes) :
    AlikeOutcome seen (t.append p bytes) (u.append p bytes) := by
  refine h.bind fun l => ?_
  have like := h l
  generalize t.entry? l = a, u.entry? l = b at like ⊢
  cases like with
  | nothing | directory => exact .refused _
  | file same => exact .done (h.put (.file fun here => by rw [same here]))

theorem rename (h : t.Alike seen u) (discreet : seen q.location → seen p.location) :
    AlikeOutcome seen (t.rename p q) (u.rename p q) := by
  unfold Tree.rename
  rw [← h.locate, ← h.locate]
  cases located : t.locate p with
  | error error => exact .refused error
  | ok source =>
    cases located' : t.locate q with
    | error error => exact .refused error
    | ok target =>
      obtain rfl := locate_eq located
      obtain rfl := locate_eq located'
      have like := h p.location
      have like' := h q.location
      simp only [Bind.bind, Except.bind]
      generalize t.entry? p.location = a, u.entry? p.location = b at like ⊢
      generalize t.entry? q.location = a', u.entry? q.location = b' at like' ⊢
      cases like with
      | nothing => exact .refused _
      | directory => exact .refused _
      | file same =>
        have moved := (h.erase p.location).put (.file fun here => same (discreet here))
        cases like' with
        | directory => exact .refused _
        | nothing | file => exact .done moved

end Tree.Alike

/-- A discreet call is refused by both trees, or leaves alike ones. -/
theorem effect_alike (h : t.Alike seen u) {c : Call} (discreet : c.Discreet seen) :
    AlikeOutcome seen (c.effect t) (c.effect u) := by
  cases c with
  | openFile p | read p => exact h.reads p
  | write p bytes => exact h.append bytes
  | rename p q => exact h.rename discreet
  | flush | sync | close => exact .done h
  | makeDirectory p | create p | truncate p | remove p =>
    refine h.bind fun l => ?_
    have like := h l
    generalize t.entry? l = a, u.entry? l = b at like ⊢
    cases like <;> first
      | exact .refused _
      | exact .done (h.put (.refl _ _))
      | exact .done (h.erase l)

theorem remains_alike (h : t.Alike seen u) (c : Call) (fault : Fault) :
    (c.remains t fault).Alike seen (c.remains u fault) := by
  cases c with
  | write p bytes =>
    rw [Call.remains, Call.remains]
    have outcome := h.append (p := p) (bytes.take fault.written)
    generalize t.append p _ = x, u.append p _ = y at outcome ⊢
    cases outcome with
    | refused => exact h
    | done alike => exact alike
  | _ => exact h

end Trees

section Calls

theorem ran_alike {faults : List (Option Fault)} {past past' : List Tree}
    (h : t.Alike seen u) (refused : Option FileError) :
    AlikeRun seen (⟨t, faults, past⟩, refused) (⟨u, faults, past'⟩, refused) :=
  .ran (d := ⟨t, faults, past⟩) (e := ⟨u, faults, past'⟩) ⟨h, rfl⟩ refused

theorem call_alike (h : d.Alike seen e) {c : Call} (discreet : c.Discreet seen) :
    AlikeRun seen (d.call c) (e.call c) := by
  have outcome := effect_alike h.tree discreet
  unfold Disk.call
  rw [← h.faults]
  generalize c.effect d.tree = x, c.effect e.tree = y at outcome ⊢
  split
  · exact ran_alike (remains_alike h.tree c _) _
  · cases outcome with
    | refused error => exact ran_alike h.tree (some error)
    | done alike => exact ran_alike alike none
  · cases outcome with
    | refused error => exact ran_alike h.tree (some error)
    | done alike => exact ran_alike alike none

theorem calls_alike {calls : List Call} (h : d.Alike seen e)
    (discreet : ∀ c ∈ calls, c.Discreet seen) : AlikeRun seen (d.calls calls) (e.calls calls) := by
  induction calls generalizing d e with
  | nil => exact .ran h none
  | cons c rest ih =>
    obtain ⟨first, others⟩ := List.forall_mem_cons.mp discreet
    have run := call_alike h first
    rw [Disk.calls, Disk.calls]
    generalize d.call c = x, e.call c = y at run ⊢
    cases run with
    | ran disk refused =>
      cases refused with
      | none => exact ih disk others
      | some error => exact .ran disk _

theorem tryDirectory_alike (h : d.Alike seen e) (p : Path) :
    AlikeRun seen (d.tryDirectory p) (e.tryDirectory p) := by
  have run := call_alike (c := .makeDirectory p) h trivial
  unfold Disk.tryDirectory
  generalize d.call (.makeDirectory p) = x, e.call (.makeDirectory p) = y at run ⊢
  cases run with
  | ran disk refused =>
    cases refused with
    | none => exact .ran disk none
    | some error =>
      cases error with
      | absent => exact .ran disk _
      | _ =>
        dsimp only
        rw [disk.tree.hasDirectory p]
        exact .ran disk _

theorem ensureDirectory_alike (h : d.Alike seen e) (p : Path) (parts : Nat) :
    AlikeRun seen (d.ensureDirectory p parts) (e.ensureDirectory p parts) := by
  induction parts generalizing d e p with
  | zero => exact tryDirectory_alike h p
  | succ parts ih =>
    have tried := tryDirectory_alike h p
    rw [Disk.ensureDirectory, Disk.ensureDirectory]
    generalize d.tryDirectory p = x, e.tryDirectory p = y at tried ⊢
    cases tried with
    | @ran d' e' disk refused =>
      cases refused with
      | none => exact .ran disk none
      | some error =>
        cases error with
        | absent =>
          have upper := ih disk p.parent
          dsimp only
          generalize d'.ensureDirectory p.parent parts = x, e'.ensureDirectory p.parent parts = y
            at upper ⊢
          cases upper with
          | ran disk refused =>
            cases refused with
            | none => exact tryDirectory_alike disk p
            | some error => exact .ran disk _
        | _ => exact .ran disk _

theorem inDirectory_alike {calls : List Call} (h : d.Alike seen e) (p : Path)
    (discreet : ∀ c ∈ calls, c.Discreet seen) :
    AlikeRun seen (inDirectory d p calls) (inDirectory e p calls) := by
  have made : AlikeRun seen (d.makeDirectories p.parent) (e.makeDirectories p.parent) :=
    ensureDirectory_alike h p.parent _
  unfold inDirectory
  generalize d.makeDirectories p.parent = x, e.makeDirectories p.parent = y at made ⊢
  cases made with
  | ran disk refused =>
    cases refused with
    | none => exact calls_alike disk discreet
    | some error => exact .ran disk _

end Calls

section Save

/-- Two saves with the same result that leave alike disks. -/
structure AlikeSaved (seen : Location → Prop) (saved saved' : Saved) : Prop where
  disk : saved.disk.Alike seen saved'.disk
  result : saved.result = saved'.result

theorem removeQuietly_alike (h : d.Alike seen e) (p : Path) :
    (removeQuietly d p).1.Alike seen (removeQuietly e p).1 := by
  rw [removeQuietly_fst, removeQuietly_fst]
  have run := call_alike (c := .remove p) h trivial
  generalize d.call (.remove p) = x, e.call (.remove p) = y at run ⊢
  cases run with
  | ran disk => exact disk

theorem saveNew_alike (h : d.Alike seen e) (flow : String) (p : Path) (bytes : Bytes) :
    AlikeSaved seen (saveNew d flow p bytes) (saveNew e flow p bytes) := by
  have run : AlikeRun seen (inDirectory d p [.create p, .write p bytes, .close p])
      (inDirectory e p [.create p, .write p bytes, .close p]) :=
    inDirectory_alike h p (by simp [Call.Discreet])
  unfold saveNew
  generalize inDirectory d p _ = x, inDirectory e p _ = y at run ⊢
  cases run with
  | ran disk refused =>
    cases refused with
    | none => exact ⟨disk, rfl⟩
    | some error =>
      cases error with
      | nullByte | present => exact ⟨disk, rfl⟩
      | _ => exact ⟨removeQuietly_alike disk p, rfl⟩

theorem saveOver_alike (h : d.Alike seen e) (flow : String) {p : Path}
    (moves : seen p.location → seen (temporary p).location) (bytes : Bytes) :
    AlikeSaved seen (saveOver d flow p bytes) (saveOver e flow p bytes) := by
  have run : AlikeRun seen (attempt d p bytes) (attempt e p bytes) := by
    refine inDirectory_alike h p fun c member => ?_
    obtain prepares | rfl := List.mem_append.mp member |>.imp_right List.mem_singleton.mp
    · cases preparing_preparations c prepares <;> trivial
    · exact moves
  rw [saveOver_eq, saveOver_eq]
  generalize attempt d p bytes = x, attempt e p bytes = y at run ⊢
  cases run with
  | ran disk refused =>
    cases refused with
    | none => exact ⟨disk, rfl⟩
    | some error =>
      cases error with
      | nullByte => exact ⟨disk, rfl⟩
      | _ => exact ⟨removeQuietly_alike disk (temporary p), rfl⟩

/-- Saving has the same result on alike disks, and leaves alike ones. -/
theorem save_alike (h : d.Alike seen e) (f : Flow) {p : Path}
    (moves : seen p.location → seen (temporary p).location) (replace : Bool) :
    AlikeSaved seen (save d f p replace) (save e f p replace) := by
  unfold save
  split
  · exact ⟨h, rfl⟩
  · split
    · exact saveNew_alike h f.name p _
    · split
      · exact ⟨h, rfl⟩
      · exact saveOver_alike h f.name moves _

end Save

section Load

/-- Two loads with the same result that leave alike disks. -/
structure AlikeLoaded (seen : Location → Prop) (loaded loaded' : FileLoaded) : Prop where
  disk : loaded.disk.Alike seen loaded'.disk
  result : loaded.result = loaded'.result
  log : loaded.log = loaded'.log

theorem readFile_alike (h : d.Alike seen e) (same : d.tree.read p = e.tree.read p) :
    (d.readFile p).1.Alike seen (e.readFile p).1 ∧ (d.readFile p).2 = (e.readFile p).2 := by
  have run : AlikeRun seen (d.calls [.openFile p, .read p, .close p])
      (e.calls [.openFile p, .read p, .close p]) := calls_alike h (by simp [Call.Discreet])
  have still := readFile_tree d p
  have still' := readFile_tree e p
  unfold Disk.readFile at still still' ⊢
  generalize d.calls _ = x, e.calls _ = y at run still still' ⊢
  cases run with
  | ran disk refused =>
    cases refused with
    | none =>
      dsimp only at still still' ⊢
      exact ⟨disk, by rw [still, still', same]⟩
    | some error => exact ⟨disk, rfl⟩

/-- The same is loaded if what the path leads to is a directory or seen. -/
theorem loadFile_alike (h : d.Alike seen e)
    (reads : ∀ l, d.tree.locate p = .ok l → seen l ∨ d.tree.entry? l = some .directory)
    (c : Catalog) (version : String) :
    AlikeLoaded seen (loadFile c version d p) (loadFile c version e p) := by
  have found := h.tree.find reads
  have same : d.tree.read p = e.tree.read p := by rw [Tree.read, Tree.read, found]
  obtain ⟨disk, given⟩ := readFile_alike h same
  unfold loadFile
  rw [← found]
  split
  · generalize d.readFile p = x, e.readFile p = y at disk given ⊢
    obtain ⟨d', read⟩ := x
    obtain ⟨e', read'⟩ := y
    dsimp only at disk given ⊢
    subst given
    cases read with
    | error error => exact ⟨disk, rfl, rfl⟩
    | ok content =>
      dsimp only [loadBytes]
      split <;> exact ⟨disk, rfl, rfl⟩
  · exact ⟨h, rfl, rfl⟩
  · exact ⟨h, rfl, rfl⟩

/-- Every location above one that components lead to is a directory. -/
theorem directory_above {at_ l : Location} {parts : List String}
    (before : ∀ m, m <+: at_ → m ≠ at_ → t.entry? m = some .directory)
    (h : t.locateFrom at_ parts = .ok l) {m : Location} (above : m <+: l) (proper : m ≠ l) :
    t.entry? m = some .directory := by
  induction parts generalizing at_ with
  | nil =>
    cases h
    exact before m above proper
  | cons part rest ih =>
    rw [Tree.locateFrom] at h
    split at h
    · cases h
    · cases h
    · rename_i directory
      have upTo (m : Location) (way : m <+: at_) : t.entry? m = some .directory := by
        by_cases here : m = at_
        · exact here ▸ directory
        · exact before m way here
      split at h
      · exact ih (fun m way _ => upTo m (way.trans (List.dropLast_prefix _))) h
      · split at h
        · cases h
        · refine ih (fun m way other => ?_) h
          obtain rfl | way := List.prefix_concat_iff.mp way
          · exact absurd rfl other
          · exact upTo m way

/-- What lies above a place that a path leads to is a directory. -/
theorem directory_up {l : Location} (located : t.locate (p.child "..") = .ok l) :
    t.entry? l = some .directory := by
  have leads := Tree.locateFrom_of_locate located
  have parts : (p.child "..").parts = p.parts ++ [".."] := by simp [Path.child]
  rw [parts, Tree.locateFrom_append] at leads
  obtain ⟨at_, reached, up⟩ := Except.exists_of_bind_eq_ok leads
  rw [Tree.locateFrom] at up
  split at up
  · cases up
  · cases up
  · rename_i directory
    rw [if_pos rfl, Tree.locateFrom] at up
    cases up
    by_cases root : at_ = []
    · rw [root]
      rfl
    · have nothing (m : Location) (way : m <+: []) (other : m ≠ []) :
          t.entry? m = some .directory :=
        absurd (List.prefix_nil.mp way) other
      have proper : at_.dropLast ≠ at_ := by
        intro same
        have shorter := congrArg List.length same
        have long := List.length_pos_iff.mpr root
        rw [List.length_dropLast] at shorter
        omega
      exact directory_above nothing reached (List.dropLast_prefix _) proper

end Load

end EventFlow.Files
