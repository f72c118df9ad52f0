import EventFlow.Proofs.Files.Tree

/-!
Calls on a disk, any of which may be struck by a fault.

* `locate_eq`: where a path leads can be read off its components, if it leads anywhere;
* `call_done`, `calls_done`, `call_refused`, `removed`: what a call does that is not refused, and
  what is left of one that is;
* `Throughout`: a property of every tree that a disk goes through;
* `Runs`: calls of a kind one after the other; `runs_calls`, `runs_ensureDirectory`: what makes
  them;
* `Runs.throughout`: what each of them keeps holds all along;
* `Runs.tried`: a path is refused for a null character only if it has one;
* `readFile_there`: reading gives the content of a file, unless a fault strikes.
-/

namespace EventFlow.Files

section Location

/-- The location that one component leads to from another one. -/
def enter (at_ : Location) (part : String) : Location :=
  if part = ".." then at_.dropLast else at_ ++ [part]

/-- The location that a path leads to if its directories are there. -/
def Path.location (p : Path) : Location :=
  p.parts.foldl enter []

/-- The locations of the directories that a path goes through. -/
def Path.OnWay (p : Path) (l : Location) : Prop :=
  ∃ parts, parts <+: p.parts.dropLast ∧ parts.foldl enter [] = l

variable {t : Tree} {at_ l : Location} {p : Path}

theorem locateFrom_eq {parts : List String} (h : t.locateFrom at_ parts = .ok l) :
    l = parts.foldl enter at_ := by
  induction parts generalizing at_ with
  | nil => exact (Except.ok.inj h).symm
  | cons part rest ih =>
    rw [Tree.locateFrom] at h
    rw [List.foldl_cons, enter]
    split at h
    · cases h
    · cases h
    · split at h
      · rename_i up
        rw [if_pos up]
        exact ih h
      · rename_i down
        rw [if_neg down]
        split at h
        · cases h
        · exact ih h

theorem locate_eq (h : t.locate p = .ok l) : l = p.location :=
  locateFrom_eq (Tree.locateFrom_of_locate h)

theorem location_named (named : p.name ≠ "") : p.location = enter p.parent.location p.name := by
  have some' : p.parts ≠ [] := by
    intro none'
    simp [Path.name, none'] at named
  have last : p.parts.getLast some' = p.name := by
    rw [Path.name, List.getLast?_eq_some_getLast some', Option.getD_some]
  have whole := List.dropLast_append_getLast some'
  unfold Path.location
  rw [← whole, List.foldl_append, last]
  rfl

/-- The location of a name below a directory is that name in the directory. -/
theorem location_child {name : String} (solid : Solid name) :
    (p.child name).location = p.location ++ [name] := by
  have named : (p.child name).name ≠ "" := by
    rw [Path.name_child solid]
    exact solid.1
  rw [location_named named, Path.parent_child solid, Path.name_child solid, enter, if_neg solid.2]

/-- Where no component goes up, the location grows by each of them. -/
theorem foldl_enter {parts : List String} (down : ".." ∉ parts) (at_ : Location) :
    parts.foldl enter at_ = at_ ++ parts := by
  induction parts generalizing at_ with
  | nil => simp
  | cons part rest ih =>
    rw [List.mem_cons, not_or] at down
    rw [List.foldl_cons, ih down.2, enter, if_neg (Ne.symm down.1)]
    simp

end Location

section Calls

variable {c : Call} {d e : Disk}

theorem call_past (d : Disk) (c : Call) : (d.call c).1.past = d.tree :: d.past := by
  unfold Disk.call
  split
  · rfl
  · split <;> rfl
  · split <;> rfl

/-- A call that is not refused has its whole effect. -/
theorem call_done (h : d.call c = (e, none)) : c.effect d.tree = .ok e.tree := by
  unfold Disk.call at h
  split at h
  · cases h
  · split at h
    · cases h
      assumption
    · cases h
  · split at h
    · cases h
      assumption
    · cases h

theorem calls_done {calls : List Call} (h : d.calls calls = (e, none)) :
    calls.foldlM Call.effect d.tree = .ok e.tree := by
  induction calls generalizing d with
  | nil =>
    cases h
    rfl
  | cons c rest ih =>
    rw [Disk.calls] at h
    split at h
    · rename_i d' went
      rw [List.foldlM_cons, call_done went]
      exact ih h
    · cases h

theorem calls_append (d : Disk) (first second : List Call) :
    d.calls (first ++ second) = match d.calls first with
      | (e, none) => e.calls second
      | (e, some error) => (e, some error) := by
  induction first generalizing d with
  | nil => rfl
  | cons c rest ih =>
    simp only [List.cons_append, Disk.calls]
    split
    · exact ih _
    · rfl

theorem calls_single (d : Disk) (c : Call) : d.calls [c] = d.call c := by
  simp only [Disk.calls]
  split <;> simp [*]

/-- What holds of a tree, of what the whole call makes of it and of what is left of one that is
struck, holds after the call. -/
theorem call_meets {P : Tree → Prop} (before : P d.tree)
    (whole : ∀ t, c.effect d.tree = .ok t → P t) (struck : ∀ fault, P (c.remains d.tree fault)) :
    P (d.call c).1.tree := by
  unfold Disk.call
  split
  · exact struck _
  · split
    · exact whole _ (by assumption)
    · exact before
  · split
    · exact whole _ (by assumption)
    · exact before

/-- A call that is refused changes nothing, unless it is a write. -/
theorem call_refused {error : FileError}
    (whole : ∀ p bytes, c ≠ .write p bytes) (h : d.call c = (e, some error)) : e.tree = d.tree := by
  have untouched : ∀ fault, c.remains d.tree fault = d.tree := by
    intro fault
    cases c with
    | write p bytes => exact absurd rfl (whole p bytes)
    | _ => rfl
  unfold Disk.call at h
  split at h
  · cases h
    exact untouched _
  · split at h
    · cases h
    · cases h
      rfl
  · split at h
    · cases h
    · cases h
      rfl

/-- A file is gone once its removal goes through, or if it was not there to be removed. -/
theorem removed {p : Path} (h : (d.call (.remove p)).2 = none ∨
    Call.effect d.tree (.remove p) = .error .absent) :
    (d.call (.remove p)).1.tree.find p = .error .absent := by
  cases went : d.call (.remove p) with
  | mk e refused =>
    rw [went] at h
    have absent (none' : d.tree.remove p = .error .absent) : d.tree.find p = .error .absent := by
      unfold Tree.remove at none'
      unfold Tree.find
      cases located : d.tree.locate p with
      | error error =>
        rw [located] at none'
        exact congrArg Except.error (Except.error.inj none')
      | ok l =>
        rw [located] at none'
        simp only [bind, Except.bind] at none' ⊢
        split at none'
        · cases none'
        · cases none'
        · rename_i free
          rw [free]
    cases refused with
    | none =>
      obtain ⟨l, content, leads, entry, same⟩ := Tree.remove_ok (call_done went)
      have file : d.tree.entry? l ≠ some .directory := by
        rw [entry]
        nofun
      have leads' : e.tree.locate p = .ok l := same ▸ (Tree.keeps_erase file).locate leads
      have gone : e.tree.entry? l = none := by
        rw [same, Tree.entry?_erase (Tree.ne_root file), if_pos rfl]
      unfold Tree.find
      simp [leads', bind, Except.bind, gone]
    | some error =>
      obtain none' | none' := h
      · cases none'
      · rw [call_refused (fun _ _ => Call.noConfusion) went]
        exact absent none'

end Calls

section Throughout

/-- Every tree that a disk has gone through since an earlier moment has a property. -/
def Throughout (P : Tree → Prop) (d e : Disk) : Prop :=
  ∃ trees, e.tree :: e.past = trees ++ d.tree :: d.past ∧ ∀ t ∈ trees, P t

namespace Throughout

variable {P Q : Tree → Prop} {d e e' : Disk}

theorem refl (P : Tree → Prop) (d : Disk) : Throughout P d d :=
  ⟨[], rfl, nofun⟩

theorem trans (h : Throughout P d e) (h' : Throughout P e e') : Throughout P d e' := by
  obtain ⟨first, past, all⟩ := h
  obtain ⟨second, past', all'⟩ := h'
  refine ⟨second ++ first, by rw [past', past, List.append_assoc], ?_⟩
  intro t member
  obtain later | earlier := List.mem_append.mp member
  · exact all' t later
  · exact all t earlier

theorem call {c : Call} (h : P (d.call c).1.tree) : Throughout P d (d.call c).1 :=
  ⟨[(d.call c).1.tree], by rw [call_past]; rfl, by simpa using h⟩

theorem last (h : Throughout P d e) (first : P d.tree) : P e.tree := by
  obtain ⟨trees, past, all⟩ := h
  cases trees with
  | nil =>
    obtain ⟨same, -⟩ := List.cons.inj past
    rw [same]
    exact first
  | cons t rest =>
    obtain ⟨same, -⟩ := List.cons.inj past
    rw [same]
    exact all t (by simp)

theorem mono (h : Throughout P d e) (weaker : ∀ t, P t → Q t) : Throughout Q d e := by
  obtain ⟨trees, past, all⟩ := h
  exact ⟨trees, past, fun t member => weaker t (all t member)⟩

end Throughout

end Throughout

section NullByte

/-- A path without null characters. -/
def Path.Clean (p : Path) : Prop :=
  ∀ part ∈ p.parts, '\x00' ∉ part.toList

/-- A disk on which no call is struck by an error that only a null character gives. -/
def Disk.Sound (d : Disk) : Prop :=
  ∀ fault, some fault ∈ d.faults → fault.error ≠ .nullByte

variable {t : Tree} {p : Path} {c : Call} {d : Disk}

theorem mem_intercalate {α : Type} {x : α} {separator : List α} (other : x ∉ separator)
    (pieces : List (List α)) : x ∈ separator.intercalate pieces ↔ ∃ piece ∈ pieces, x ∈ piece := by
  induction pieces with
  | nil => simp
  | cons piece rest ih =>
    cases rest with
    | nil => simp
    | cons next rest => simp [List.intercalate_cons_cons, ih, other]

theorem clean_iff : p.Clean ↔ '\x00' ∉ p.text.toList := by
  have joined : '\x00' ∈ (String.intercalate "/" p.parts).toList ↔
      ∃ part ∈ p.parts, '\x00' ∈ part.toList := by
    rw [String.toList_intercalate, mem_intercalate (by simp)]
    simp
  have same : '\x00' ∈ p.text.toList ↔ ∃ part ∈ p.parts, '\x00' ∈ part.toList := by
    unfold Path.text
    split
    · rw [String.toList_append, List.mem_append, joined]
      simp
    · split
      · rename_i none'
        rw [List.isEmpty_iff] at none'
        simp [none']
      · exact joined
  rw [same, Path.Clean]
  push Not
  rfl

theorem locateFrom_ne_nullByte (t : Tree) (at_ : Location) (parts : List String) :
    t.locateFrom at_ parts ≠ .error .nullByte := by
  induction parts generalizing at_ with
  | nil => simp [Tree.locateFrom]
  | cons part rest ih =>
    rw [Tree.locateFrom]
    split
    · simp
    · simp
    · split
      · exact ih _
      · split
        · simp
        · exact ih _

theorem locate_ne_nullByte (clean : p.Clean) : t.locate p ≠ .error .nullByte := by
  unfold Tree.locate
  rw [if_neg (by simpa using clean_iff.mp clean)]
  split
  · nofun
  · exact locateFrom_ne_nullByte t [] p.parts

theorem bind_ne_nullByte {α β : Type} {x : Except FileError α} {f : α → Except FileError β}
    (first : x ≠ .error .nullByte) (second : ∀ a, f a ≠ .error .nullByte) :
    (x >>= f) ≠ .error .nullByte := by
  cases x with
  | error error => exact fun same => first (congrArg Except.error (Except.error.inj same))
  | ok a => exact second a

theorem read_ne_nullByte (clean : p.Clean) : t.read p ≠ .error .nullByte := by
  refine bind_ne_nullByte (bind_ne_nullByte (locate_ne_nullByte clean) fun l => ?_) fun entry => ?_
  · split <;> nofun
  · split <;> nofun

/-- The paths that a call is given. -/
def Call.paths : Call → List Path
  | makeDirectory p | openFile p | read p | create p | truncate p | write p _ | flush p | sync p
  | close p | remove p => [p]
  | rename p q => [p, q]

theorem effect_ne_nullByte (t : Tree) (clean : ∀ q ∈ c.paths, q.Clean) :
    c.effect t ≠ .error .nullByte := by
  cases c with
  | makeDirectory p | create p | truncate p | write p | remove p =>
    refine bind_ne_nullByte (locate_ne_nullByte (clean p (by simp [Call.paths]))) fun l => ?_
    split <;> nofun
  | openFile p | read p =>
    have read := read_ne_nullByte (t := t) (clean p (by simp [Call.paths]))
    change (t.read p).map (fun _ => t) ≠ .error .nullByte
    generalize t.read p = given at read ⊢
    cases given with
    | ok content => nofun
    | error error => exact fun same => read (congrArg Except.error (Except.error.inj same))
  | rename p q =>
    refine bind_ne_nullByte (locate_ne_nullByte (clean p (by simp [Call.paths]))) fun l => ?_
    refine bind_ne_nullByte (locate_ne_nullByte (clean q (by simp [Call.paths]))) fun l' => ?_
    split <;> nofun
  | flush | sync | close => nofun

theorem call_faults (d : Disk) (c : Call) : (d.call c).1.faults = d.faults.tail := by
  unfold Disk.call
  split
  · rename_i rest same
    rw [same, List.tail_cons]
  · rename_i rest same
    rw [same]
    split <;> rfl
  · rename_i same
    rw [same]
    split <;> rfl

theorem Disk.Sound.call (sound : d.Sound) (c : Call) : (d.call c).1.Sound := by
  intro fault member
  rw [call_faults] at member
  exact sound fault (List.mem_of_mem_tail member)

theorem Disk.Sound.tried (sound : d.Sound) (clean : ∀ q ∈ c.paths, q.Clean) :
    (d.call c).2 ≠ some .nullByte := by
  unfold Disk.call
  split
  · rename_i fault rest same
    have honest := sound fault (by simp [same])
    simpa using honest
  · split
    · nofun
    · rename_i refused
      rintro ⟨⟩
      exact effect_ne_nullByte _ clean refused
  · split
    · nofun
    · rename_i refused
      rintro ⟨⟩
      exact effect_ne_nullByte _ clean refused

end NullByte

/-- Runs of calls of a kind, with the refusal of the last one if it counts. -/
inductive Runs (Kind : Call → Prop) (d : Disk) : Disk × Option FileError → Prop
  | nothing : Runs Kind d (d, none)
  | call {e : Disk} {refused : Option FileError} {c : Call} :
      Runs Kind d (e, refused) → Kind c → Runs Kind d (e.call c)
  | forgiven {e : Disk} {error : FileError} : Runs Kind d (e, some error) → Runs Kind d (e, none)

section Runs

variable {Kind : Call → Prop} {d e : Disk} {refused : Option FileError}
  {run : Disk × Option FileError}

theorem Runs.trans (h : Runs Kind d (e, refused)) (h' : Runs Kind e run) : Runs Kind d run := by
  induction h' with
  | nothing =>
    cases refused with
    | none => exact h
    | some error => exact h.forgiven
  | call _ kind ih => exact ih.call kind
  | forgiven _ ih => exact ih.forgiven

theorem runs_calls {calls : List Call} (kinds : ∀ c ∈ calls, Kind c) :
    Runs Kind d (d.calls calls) := by
  induction calls generalizing d with
  | nil => exact .nothing
  | cons c rest ih =>
    have first : Runs Kind d (d.call c) := .call .nothing (kinds c (by simp))
    rw [Disk.calls]
    split
    · rename_i called
      rw [called] at first
      exact first.trans (ih fun c' member => kinds c' (by simp [member]))
    · rename_i called
      rwa [called] at first

theorem runs_tryDirectory {q : Path} (kind : Kind (.makeDirectory q)) :
    Runs Kind d (d.tryDirectory q) := by
  have made : Runs Kind d (d.call (.makeDirectory q)) := .call .nothing kind
  unfold Disk.tryDirectory
  split <;> rename_i called <;> rw [called] at made
  · exact made
  · exact made
  · split
    · exact made.forgiven
    · exact made

theorem runs_ensureDirectory {q : Path}
    (makes : ∀ above : Path, above.parts <+: q.parts → Kind (.makeDirectory above)) (parts : Nat) :
    Runs Kind d (d.ensureDirectory q parts) := by
  have kind := makes q (List.prefix_refl _)
  induction parts generalizing d q with
  | zero => exact runs_tryDirectory kind
  | succ parts ih =>
    have first : Runs Kind d (d.tryDirectory q) := runs_tryDirectory kind
    rw [Disk.ensureDirectory]
    split
    · rename_i e tried
      rw [tried] at first
      have upper : ∀ above : Path, above.parts <+: q.parent.parts → Kind (.makeDirectory above) :=
        fun above inner => makes above (inner.trans (List.dropLast_prefix _))
      have before := first.trans (ih (d := e) upper (upper q.parent (List.prefix_refl _)))
      split
      · rename_i ensured
        rwa [ensured] at before
      · rename_i ensured
        rw [ensured] at before
        exact before.trans (runs_tryDirectory kind)
    · exact first

/-- What every call of a kind keeps holds throughout a run of them. -/
theorem Runs.throughout {P : Tree → Prop} (h : Runs Kind d run) (before : P d.tree)
    (keeps : ∀ (e : Disk) (c : Call), Kind c → P e.tree → P (e.call c).1.tree) :
    Throughout P d run.1 ∧ P run.1.tree := by
  induction h with
  | nothing => exact ⟨.refl P d, before⟩
  | @call e _ c _ kind ih =>
    have after := keeps e c kind ih.2
    exact ⟨ih.1.trans (.call after), after⟩
  | forgiven _ ih => exact ih

/-- Calls leave a sound disk sound. -/
theorem Runs.sound (h : Runs Kind d run) (sound : d.Sound) : run.1.Sound := by
  induction h with
  | nothing => exact sound
  | call _ _ ih => exact ih.call _
  | forgiven _ ih => exact ih

/-- Calls of clean paths are not refused for a null character. -/
theorem Runs.tried (h : Runs Kind d run) (clean : ∀ c, Kind c → ∀ q ∈ c.paths, q.Clean)
    (sound : d.Sound) : run.2 ≠ some .nullByte := by
  cases h with
  | nothing => nofun
  | call before kind => exact (before.sound sound).tried (clean _ kind)
  | forgiven => nofun

/-- A disk on which no call is struck. -/
def Disk.Calm (d : Disk) : Prop :=
  d.faults = []

theorem Runs.calm (h : Runs Kind d run) (calm : d.Calm) : run.1.Calm := by
  induction h with
  | nothing => exact calm
  | @call e _ c _ _ ih =>
    have none' : e.faults = [] := ih
    rw [Disk.Calm, call_faults, none', List.tail_nil]
  | forgiven _ ih => exact ih

end Runs

section Reading

variable {c : Call} {d : Disk} {p : Path} {content : Bytes} {error : FileError}

/-- A call that leaves every tree as it is, even if it is struck. -/
structure Call.Looks (c : Call) : Prop where
  effect : ∀ t u, c.effect t = .ok u → u = t
  remains : ∀ t fault, c.remains t fault = t

/-- The calls that read a file. -/
def Call.Reads (p : Path) (c : Call) : Prop :=
  c ∈ [.openFile p, .read p, .close p]

theorem Call.Reads.looks (reads : c.Reads p) : c.Looks := by
  have map {t u : Tree} (same : ((t.read p).map fun _ => t) = .ok u) : u = t := by
    cases given : t.read p with
    | error error => rw [given] at same; cases same
    | ok content => rw [given] at same; cases same; rfl
  simp only [Call.Reads, List.mem_cons, List.not_mem_nil, or_false] at reads
  rcases reads with rfl | rfl | rfl
  · exact ⟨fun t u same => map same, fun _ _ => rfl⟩
  · exact ⟨fun t u same => map same, fun _ _ => rfl⟩
  · exact ⟨fun t u same => (Except.ok.inj same).symm, fun _ _ => rfl⟩

theorem call_looks (looks : c.Looks) : (d.call c).1.tree = d.tree :=
  call_meets (P := (· = d.tree)) rfl (fun t => looks.effect d.tree t) (looks.remains d.tree)

/-- A run of calls that read a file goes through no other tree. -/
theorem Runs.looks {run : Disk × Option FileError} (h : Runs (Call.Reads p) d run) :
    Throughout (· = d.tree) d run.1 ∧ run.1.tree = d.tree :=
  h.throughout rfl fun _ _ reads same => (call_looks reads.looks).trans same

theorem runs_readFile (d : Disk) (p : Path) :
    ∃ refused, Runs (Call.Reads p) d ((d.readFile p).1, refused) := by
  have run : Runs (Call.Reads p) d (d.calls [.openFile p, .read p, .close p]) :=
    runs_calls fun _ member => member
  unfold Disk.readFile
  split <;> rename_i called <;> rw [called] at run
  · exact ⟨_, run⟩
  · exact ⟨_, run⟩

theorem readFile_tree (d : Disk) (p : Path) : (d.readFile p).1.tree = d.tree := by
  obtain ⟨refused, run⟩ := runs_readFile d p
  exact run.looks.2

/-- A fault strikes one of the next calls. -/
def Disk.Struck (d : Disk) (calls : Nat) : Prop :=
  ∃ fault, some fault ∈ d.faults.take calls

theorem struck_succ (d : Disk) (c : Call) (calls : Nat) :
    d.Struck (calls + 1) ↔ (∃ fault, d.faults.head? = some (some fault)) ∨
      (d.call c).1.Struck calls := by
  unfold Disk.Struck
  rw [call_faults]
  cases d.faults with
  | nil => simp
  | cons first rest => simp [exists_or, eq_comm]

/-- A call that has nothing against a tree is refused if a fault strikes it. -/
theorem call_struck_iff (fine : ∃ t, c.effect d.tree = .ok t) :
    (d.call c).2 ≠ none ↔ ∃ fault, d.faults.head? = some (some fault) := by
  obtain ⟨t, effect⟩ := fine
  unfold Disk.call
  cases d.faults with
  | nil => simp [effect]
  | cons first rest => cases first <;> simp [effect]

/-- Calls that look at a tree and have nothing against it are refused if a fault strikes one. -/
theorem calls_struck_iff {calls : List Call} (looks : ∀ c ∈ calls, c.Looks)
    (fine : ∀ c ∈ calls, ∃ t, c.effect d.tree = .ok t) :
    (d.calls calls).2 ≠ none ↔ d.Struck calls.length := by
  induction calls generalizing d with
  | nil => simp [Disk.calls, Disk.Struck]
  | cons c rest ih =>
    obtain ⟨first, others⟩ := List.forall_mem_cons.mp looks
    obtain ⟨fits, later⟩ := List.forall_mem_cons.mp fine
    have same := call_looks (d := d) first
    rw [List.length_cons, struck_succ d c, ← call_struck_iff fits,
      ← ih others fun c member => same ▸ later c member, Disk.calls]
    split <;> rename_i called <;> rw [called] <;> simp

/-- Reading a file that is there gives its content, unless a fault strikes. -/
theorem readFile_there (there : d.tree.read p = .ok content) :
    (¬d.Struck 3 ∧ (d.readFile p).2 = .ok content) ∨
      d.Struck 3 ∧ ∃ error, (d.readFile p).2 = .error error := by
  have fine : ∀ c, Call.Reads p c → ∃ t, c.effect d.tree = .ok t := by
    intro c reads
    simp only [Call.Reads, List.mem_cons, List.not_mem_nil, or_false] at reads
    rcases reads with rfl | rfl | rfl <;> simp [Call.effect, there, Except.map]
  have struck : (d.calls [.openFile p, .read p, .close p]).2 ≠ none ↔ d.Struck 3 :=
    calls_struck_iff (fun c reads => Call.Reads.looks reads) fine
  have same := readFile_tree d p
  unfold Disk.readFile at same ⊢
  split at same <;> rename_i called <;> rw [called] at struck <;> dsimp only
  · exact .inl ⟨fun strikes => struck.mpr strikes rfl, by rw [same, there]⟩
  · exact .inr ⟨struck.mp nofun, _, rfl⟩

theorem readFile_calm (calm : d.Calm) (there : d.tree.read p = .ok content) :
    (d.readFile p).2 = .ok content := by
  rcases readFile_there there with ⟨-, given⟩ | ⟨⟨fault, member⟩, -⟩
  · exact given
  · rw [show d.faults = [] from calm] at member
    cases member

end Reading

end EventFlow.Files
