import EventFlow.Proofs.Document.RoundTrip
import EventFlow.Proofs.Files.Aside
import EventFlow.Proofs.Files.Saving

/-!
A replacing save, call by call. Any of its calls may be struck by a fault.

* `written_temporary`: when no call up to the move is refused, the sibling holds just the text;
* `Aside.moved`, `attempted`: what the move changes, and what all the calls together leave behind;
* `save_tried`: a save is tried if its path has a name without null characters;
* `save_replacing`: at every moment the target is as it was or holds the whole text, and every third
  file is as it was.
-/

namespace EventFlow.Files

section Sibling

variable {p : Path}

theorem location_temporary (p : Path) :
    (temporary p).location = p.parent.location ++ [p.name ++ ".tmp"] := by
  have down : p.name ++ ".tmp" ≠ ".." := (solid_temporary p.name).2
  unfold temporary Path.sibling Path.location
  rw [List.foldl_append]
  simp [enter, down, Path.parent]

theorem temporary_ne (named : p.name ≠ "") : (temporary p).location ≠ p.location := by
  rw [location_temporary, location_named named, enter]
  split
  · intro same
    have longer := congrArg List.length same
    simp at longer
    omega
  · simp

theorem Path.Clean.temporary (clean : p.Clean) : (temporary p).Clean := by
  intro part member
  simp only [Files.temporary, Path.sibling, List.mem_append, List.mem_singleton] at member
  obtain above | rfl := member
  · exact clean part ((List.dropLast_subset _) above)
  · rw [String.toList_append, List.mem_append]
    rintro (own | suffix)
    · unfold Path.name at own
      cases last : p.parts.getLast? with
      | none => simp [last] at own
      | some name =>
        rw [last] at own
        exact clean name (List.mem_of_getLast? last) own
    · simp at suffix

end Sibling

section Prepared

variable {p : Path} {d e : Disk}

/-- The calls of a replacing save before the move. -/
def preparations (p : Path) (bytes : Bytes) : List Call :=
  let tmp := temporary p
  [.truncate tmp, .write tmp bytes, .flush tmp, .sync tmp, .close tmp]

theorem preparing_preparations {bytes : Bytes} :
    ∀ c ∈ preparations p bytes, Preparing p (temporary p) c := by
  intro c member
  simp only [preparations, List.mem_cons, List.not_mem_nil, or_false] at member
  obtain rfl | rfl | rfl | rfl | rfl := member
  · exact .truncate
  · exact .write bytes
  · exact .flush
  · exact .sync
  · exact .close

/-- Emptying the sibling and writing to it gives it just the bytes that are written. -/
theorem written_temporary {bytes : Bytes} (h : inDirectory d p (preparations p bytes) = (e, none)) :
    e.tree.entry? (temporary p).location = some (.file bytes) := by
  unfold inDirectory at h
  split at h
  · cases h
  · obtain ⟨a, emptied, effects⟩ := Except.exists_of_bind_eq_ok (calls_done h)
    obtain ⟨b, written, effects⟩ := Except.exists_of_bind_eq_ok effects
    cases effects
    obtain ⟨l, leads, free, rfl⟩ := Tree.truncate_ok emptied
    obtain ⟨l', content, leads', entry, same⟩ := Tree.append_ok written
    have below := Tree.ne_root free
    obtain rfl := locate_eq leads
    obtain rfl := locate_eq leads'
    rw [Tree.entry?_put below, if_pos rfl] at entry
    cases entry
    rw [same, Tree.entry?_put below, if_pos rfl, List.nil_append]

end Prepared

section Replacing

variable {p : Path} {t u : Tree} {bytes : Bytes}

/-- The trees that a replacing save goes through: the target is as it was or holds the whole text,
and beyond the target and its sibling nothing is changed. -/
structure Replacing (p : Path) (bytes : Bytes) (t u : Tree) : Prop where
  target : Undisturbed p t u p.location ∨ u.entry? p.location = some (.file bytes)
  others : ∀ l, l ≠ p.location → l ≠ (temporary p).location → Undisturbed p t u l

theorem Aside.target (h : Aside p (temporary p) t u) (named : p.name ≠ "") :
    Undisturbed p t u p.location :=
  h _ (temporary_ne named).symm

theorem Aside.replacing (h : Aside p (temporary p) t u) (named : p.name ≠ "") :
    Replacing p bytes t u :=
  ⟨.inl (h.target named), fun l _ other => h l other⟩

/-- The move puts the sibling in the place of the target. -/
theorem Aside.moved {v : Tree} (h : Aside p (temporary p) t u) (named : p.name ≠ "")
    (held : u.entry? (temporary p).location = some (.file bytes))
    (moved : u.rename (temporary p) p = .ok v) :
    Replacing p bytes t v ∧ v.find p = .ok (.file bytes) ∧
      v.find (temporary p) = .error .absent := by
  have other := temporary_ne named
  obtain ⟨source, target, content, leads, leads', entry, free, rfl⟩ := Tree.rename_ok moved
  obtain rfl := locate_eq leads
  obtain rfl := locate_eq leads'
  cases held.symm.trans entry
  have file : u.entry? (temporary p).location ≠ some .directory := by
    rw [held]
    nofun
  have below := Tree.ne_root file
  have below' := Tree.ne_root free
  have entries : ∀ m, Tree.entry? ((u.erase (temporary p).location).put p.location (.file bytes)) m
      = if m = p.location then some (.file bytes) else
        if m = (temporary p).location then none else u.entry? m := by
    intro m
    rw [Tree.entry?_put below', Tree.entry?_erase below]
  have free' : Tree.entry? (u.erase (temporary p).location) p.location ≠ some .directory := by
    rw [Tree.entry?_erase below, if_neg other.symm]
    exact free
  have keeps := (Tree.keeps_erase file).trans (Tree.keeps_put free' (.file bytes))
  refine ⟨⟨.inr ?_, ?_⟩, Tree.find_eq_ok.mpr ⟨_, keeps.locate leads', ?_⟩, ?_⟩
  · rw [entries, if_pos rfl]
  · intro l notTarget notSibling
    rw [Undisturbed, entries, if_neg notTarget, if_neg notSibling]
    exact h l notSibling
  · rw [entries, if_pos rfl]
  · unfold Tree.find
    rw [keeps.locate leads]
    simp [bind, Except.bind, entries, other]

/-- The calls of a replacing save, with the refusal of the last one. -/
def attempt (d : Disk) (p : Path) (bytes : Bytes) : Disk × Option FileError :=
  inDirectory d p (preparations p bytes ++ [.rename (temporary p) p])

/-- A replacing save is its attempt, and the removal of the sibling if that is refused. -/
theorem saveOver_eq (d : Disk) (flow : String) (p : Path) (bytes : Bytes) :
    saveOver d flow p bytes = match attempt d p bytes with
      | (e, none) => ⟨e, .ok true, [savedLog flow p]⟩
      | (e, some .nullByte) => ⟨e, .error .nullByte, []⟩
      | (e, some error) => ⟨(removeQuietly e (temporary p)).1, .ok false,
          notSavedLog flow p error :: (removeQuietly e (temporary p)).2⟩ :=
  rfl

theorem runs_attempt (d : Disk) (clean : p.Clean) (bytes : Bytes) :
    Runs (fun c => ∀ q ∈ c.paths, q.Clean) d (attempt d p bytes) := by
  refine runs_inDirectory
    (fun _ above => (Preparing.makeDirectory above).paths_clean clean clean) ?_
  intro c member
  obtain prepares | rfl := List.mem_append.mp member |>.imp_right List.mem_singleton.mp
  · exact (preparing_preparations c prepares).paths_clean clean clean.temporary
  · simpa [Call.paths] using ⟨clean.temporary, clean⟩

/-- What the calls of a replacing save leave behind. -/
structure Attempted (p : Path) (bytes : Bytes) (d : Disk) (run : Disk × Option FileError) :
    Prop where
  throughout : Throughout (Replacing p bytes d.tree) d run.1
  done : run.2 = none → run.1.tree.find p = .ok (.file bytes) ∧
    run.1.tree.find (temporary p) = .error .absent
  refused : run.2 ≠ none → Aside p (temporary p) d.tree run.1.tree

theorem attempted (d : Disk) (named : p.name ≠ "") (bytes : Bytes) :
    Attempted p bytes d (attempt d p bytes) := by
  have prepared : Runs (Preparing p (temporary p)) d (inDirectory d p (preparations p bytes)) :=
    runs_inDirectory (fun _ above => .makeDirectory above) preparing_preparations
  have before :
      Throughout (Replacing p bytes d.tree) d (inDirectory d p (preparations p bytes)).1 :=
    (aside_of_runs prepared).1.mono fun _ aside => aside.replacing named
  rw [attempt, inDirectory_append]
  split
  · rename_i e went
    rw [went] at prepared before
    have aside := (aside_of_runs prepared).2
    rw [calls_single]
    cases moved : e.call (.rename (temporary p) p) with
    | mk e' refused =>
      have at_ : e' = (e.call (.rename (temporary p) p)).1 := by rw [moved]
      cases refused with
      | none =>
        obtain ⟨replaced, found, gone⟩ :=
          aside.moved named (written_temporary went) (call_done moved)
        exact ⟨before.trans (at_ ▸ .call (at_ ▸ replaced)), fun _ => ⟨found, gone⟩, nofun⟩
      | some error =>
        have same := call_refused (fun _ _ => Call.noConfusion) moved
        have aside' : Aside p (temporary p) d.tree e'.tree := by rwa [same]
        exact ⟨before.trans (at_ ▸ .call (at_ ▸ aside'.replacing named)), nofun,
          fun _ => aside'⟩
  · rename_i e error went
    rw [went] at prepared before
    exact ⟨before, nofun, fun _ => (aside_of_runs prepared).2⟩

/-- What a replacing save leads to, whatever befalls its calls. -/
structure Replaced (p : Path) (bytes : Bytes) (d : Disk) (saved : Saved) : Prop where
  throughout : Throughout (Replacing p bytes d.tree) d saved.disk
  done : saved.result = .ok true → saved.disk.tree.find p = .ok (.file bytes) ∧
    saved.disk.tree.find (temporary p) = .error .absent
  notDone : saved.result = .ok false → Undisturbed p d.tree saved.disk.tree p.location ∧
    ∃ e : Disk, saved.disk = (e.call (.remove (temporary p))).1 ∧
      ((e.call (.remove (temporary p))).2 = none ∨
          Call.effect e.tree (.remove (temporary p)) = .error .absent →
        saved.disk.tree.find (temporary p) = .error .absent)
  notTried : ∀ error, saved.result = .error error →
    Undisturbed p d.tree saved.disk.tree p.location ∧ (p.name = "" ∨ ¬ p.Clean ∨ ¬ d.Sound)

theorem replaced_noName {d : Disk} {saved : Saved} (named : p.name = "") (same : saved.disk = d)
    {error : SaveError} (refused : saved.result = .error error) : Replaced p bytes d saved where
  throughout := by
    rw [same]
    exact .refl _ d
  done := by
    rw [refused]
    nofun
  notDone := by
    rw [refused]
    nofun
  notTried _ _ := by
    rw [same]
    exact ⟨.inl rfl, .inl named⟩

theorem saveOver_replaced (d : Disk) (flow : String) (named : p.name ≠ "") (bytes : Bytes) :
    Replaced p bytes d (saveOver d flow p bytes) := by
  have tried := attempted d named bytes
  rw [saveOver_eq]
  split
  · rename_i e went
    rw [went] at tried
    exact ⟨tried.throughout, fun _ => tried.done rfl, nofun, nofun⟩
  · rename_i e went
    rw [went] at tried
    have why : ¬ p.Clean ∨ ¬ d.Sound := by
      by_contra neither
      rw [not_or, not_not, not_not] at neither
      have honest := (runs_attempt d neither.1 bytes).tried (fun _ clean => clean) neither.2
      rw [went] at honest
      exact honest rfl
    exact ⟨tried.throughout, nofun, nofun,
      fun _ _ => ⟨(tried.refused nofun).target named, .inr why⟩⟩
  · rename_i e error _ went
    rw [went] at tried
    have aside : Aside p (temporary p) d.tree (e.call (.remove (temporary p))).1.tree :=
      Preparing.remove.call (tried.refused nofun)
    rw [removeQuietly_fst]
    refine ⟨?_, nofun, fun _ => ⟨aside.target named, e, rfl, removed⟩, nofun⟩
    exact tried.throughout.trans (.call (aside.replacing named))

/-- Whatever befalls the calls of a replacing save: at every moment the target is as it was or holds
the whole text, and every third file is as it was. Only a directory on the way of the path may come
to where nothing was, and that is the target itself only if the path goes up through it. -/
theorem save_replacing (d : Disk) (f : Flow) (p : Path) (text : List Char)
    (dumped : f.dump = .ok text) :
    Replaced p (bytesOf text) d (save d f p true) ∧
    (".." ∉ p.parts → ∀ u, Undisturbed p d.tree u p.location →
      u.entry? p.location = d.tree.entry? p.location) := by
  refine ⟨?_, fun down u h => h.target down⟩
  unfold save
  rw [dumped]
  simp only [Bool.not_true, Bool.false_eq_true, ↓reduceIte]
  split
  · rename_i named
    exact replaced_noName named rfl rfl
  · rename_i named
    exact saveOver_replaced d f.name named (bytesOf text)

end Replacing

section Tried

variable {d : Disk} {p : Path}

theorem sound_saveNew (sound : d.Sound) (flow : String) (p : Path) (bytes : Bytes) :
    (saveNew d flow p bytes).disk.Sound := by
  have after := sound_inDirectory sound p [.create p, .write p bytes, .close p]
  unfold saveNew
  split <;> rename_i went <;> rw [went] at after
  · exact after
  · exact after
  · exact after
  · exact sound_removeQuietly after p

theorem sound_saveOver (sound : d.Sound) (flow : String) (p : Path) (bytes : Bytes) :
    (saveOver d flow p bytes).disk.Sound := by
  have after : (attempt d p bytes).1.Sound := sound_inDirectory sound p _
  rw [saveOver_eq]
  split <;> rename_i went <;> rw [went] at after
  · exact after
  · exact after
  · exact sound_removeQuietly after _

/-- Saving leaves a sound disk sound. -/
theorem sound_save (sound : d.Sound) (f : Flow) (p : Path) (replace : Bool) :
    (save d f p replace).disk.Sound := by
  unfold save
  split
  · exact sound
  · split
    · exact sound_saveNew sound _ _ _
    · split
      · exact sound
      · exact sound_saveOver sound _ _ _

theorem saveNew_tried (clean : p.Clean) (sound : d.Sound) (flow : String) (bytes : Bytes) :
    ∃ done, (saveNew d flow p bytes).result = .ok done := by
  have cleanly : Runs (fun c => ∀ q ∈ c.paths, q.Clean) d
      (inDirectory d p [.create p, .write p bytes, .close p]) := by
    refine runs_inDirectory
      (fun _ above => (Preparing.makeDirectory above).paths_clean clean clean) ?_
    simpa [Call.paths] using clean
  have honest := cleanly.tried (fun _ clean => clean) sound
  unfold saveNew
  split
  · exact ⟨true, rfl⟩
  · rename_i went
    rw [went] at honest
    exact absurd rfl honest
  · exact ⟨false, rfl⟩
  · exact ⟨false, rfl⟩

/-- A flow that can be dumped is saved or not, but saving it is always tried. -/
theorem save_tried {f : Flow} {text : List Char} (dumped : f.dump = .ok text) (clean : p.Clean)
    (named : p.name ≠ "") (sound : d.Sound) (replace : Bool) :
    ∃ done, (save d f p replace).result = .ok done := by
  unfold save
  rw [dumped]
  dsimp only
  split
  · exact saveNew_tried clean sound _ _
  · cases saved : (saveOver d f.name p (bytesOf text)).result with
    | ok done => exact ⟨done, rfl⟩
    | error error =>
      obtain ⟨-, unnamed | dirty | unsound⟩ :=
        (saveOver_replaced d f.name named (bytesOf text)).notTried error saved
      · exact absurd unnamed named
      · exact absurd clean dirty
      · exact absurd sound unsound

end Tried

section Draft

/-- A flow with nothing but its start node. -/
def draft : Flow where
  name := "draft"
  nodes := [⟨1, .trigger, "start", [], [-1]⟩]
  start := 1
  counter := 1

def draftText : List Char :=
  Json.pretty 0 (Document.flowJson draft)

theorem ordered_draft : draft.ordered = draft.nodes :=
  List.perm_singleton.mp (Flow.ordered_perm (List.nodup_singleton _))

theorem dump_draft : draft.dump = .ok draftText := by
  have written : draft.write = .ok draftText := by
    unfold Flow.write Flow.document
    rw [ordered_draft]
    rfl
  have encodable : Json.writingFault? (Document.flowJson draft) = none := by
    unfold Document.flowJson
    rw [ordered_draft]
    rfl
  rw [Flow.dump, written, encodable]

theorem save_draft (d : Disk) {p : Path} (named : p.name ≠ "") :
    save d draft p true = saveOver d "draft" p (bytesOf draftText) := by
  simp only [save, dump_draft, named, Bool.not_true, Bool.false_eq_true, ↓reduceIte]
  rfl

/-- A disk with an older file and a sibling left over, on which the third call from now on, writing
to the sibling, stops after five bytes. -/
def struckDisk : Disk where
  tree := [(["flows"], .directory), (["flows", "draft.json"], .file [1, 2, 3]),
    (["flows", "draft.json.tmp"], .file [4])]
  faults := [none, none, some ⟨.other, 5⟩]
  past := []

def draftFile : Path := .ofText "flows/draft.json"

theorem saveOver_struckDisk (bytes : Bytes) :
    (saveOver struckDisk "draft" draftFile bytes).result = .ok false ∧
      (saveOver struckDisk "draft" draftFile bytes).disk.tree =
        [(["flows"], .directory), (["flows", "draft.json"], .file [1, 2, 3])] :=
  ⟨rfl, rfl⟩

theorem save_replacing_struckDisk :
    let saved := save struckDisk draft draftFile true
    draft.dump = .ok draftText ∧ saved.result = .ok false ∧
      Replaced draftFile (bytesOf draftText) struckDisk saved ∧
      saved.disk.tree = [(["flows"], .directory), (["flows", "draft.json"], .file [1, 2, 3])] := by
  intro saved
  have saves : saved = saveOver struckDisk "draft" draftFile (bytesOf draftText) :=
    save_draft struckDisk (by decide)
  obtain ⟨refused, left⟩ := saveOver_struckDisk (bytesOf draftText)
  have replaced := save_replacing struckDisk draft draftFile draftText dump_draft
  refine ⟨dump_draft, ?_, replaced.1, ?_⟩
  · rw [saves, refused]
  · rw [saves, left]

/-- A path that goes up through the place it leads to. -/
def upward : Path := .ofText "x/y/../../x"

theorem saveOver_upward (bytes : Bytes) :
    (saveOver (.ofTree []) "draft" upward bytes).result = .ok false ∧
      (saveOver (.ofTree []) "draft" upward bytes).disk.tree =
        [(["x"], .directory), (["x", "y"], .directory)] :=
  ⟨rfl, rfl⟩

/-- Saving there is refused, but the target has become a directory. -/
theorem save_upward :
    let saved := save (.ofTree []) draft upward true
    draft.dump = .ok draftText ∧ saved.result = .ok false ∧ Tree.entry? [] upward.location = none ∧
      saved.disk.tree.entry? upward.location = some .directory := by
  intro saved
  have saves : saved = saveOver (.ofTree []) "draft" upward (bytesOf draftText) :=
    save_draft (.ofTree []) (by decide)
  obtain ⟨refused, left⟩ := saveOver_upward (bytesOf draftText)
  refine ⟨dump_draft, ?_, rfl, ?_⟩
  · rw [saves, refused]
  · rw [saves, left]
    rfl

end Draft

end EventFlow.Files
