import EventFlow.Proofs.Host.Order

/-!
What an event runs, and what it leaves behind.

* `InOrder`: stored flows are under their own names, and no history exceeds its size;
* `Reached.inOrder`: this holds whatever became of a host;
* `targets_sorted`: what an event is for comes in the order of the names;
* `history_recordAll`: every history gets the runs of the managers that record in it;
* `dispatch_runs_listening`: an event runs the stored flows that listen to it, each as if it were
  alone.
-/

namespace EventFlow

namespace History

variable {α : Type}

theorem lastOf_self {n : Nat} {xs : List α} (short : xs.length ≤ n) : lastOf n xs = xs := by
  unfold lastOf
  rw [Nat.sub_eq_zero_of_le short, List.drop_zero]

theorem length_lastOf (n : Nat) (xs : List α) : (lastOf n xs).length ≤ n := by
  unfold lastOf
  rw [List.length_drop]
  omega

/-- What was dropped before more was added would have been dropped then. -/
theorem lastOf_append (n : Nat) (xs ys : List α) :
    lastOf n (lastOf n xs ++ ys) = lastOf n (xs ++ ys) := by
  unfold lastOf
  have cut : (xs ++ ys).drop (xs.length - n) = xs.drop (xs.length - n) ++ ys :=
    List.drop_append_of_le_length (Nat.sub_le _ _)
  rw [← cut, List.drop_drop, List.length_drop, List.length_append]
  congr 1
  omega

end History

namespace Host

section Recorded

/-- The numbers of the runs that a history records, when runs get the numbers from the given one
on. -/
def recordedIn (history first : Nat) (done : List (Manager × Run)) : List RunId :=
  (((List.range' first done.length).zip done).filter fun p => p.2.1.history == history).map Prod.fst

theorem recordedIn_cons (history first : Nat) (p : Manager × Run) (rest : List (Manager × Run)) :
    recordedIn history first (p :: rest) =
      (if p.1.history = history then [first] else []) ++ recordedIn history (first + 1) rest := by
  unfold recordedIn
  rw [List.length_cons, List.range'_succ, List.zip_cons_cons, List.filter_cons]
  by_cases own : p.1.history = history <;> simp [own]

/-- A history records all runs if all managers record in it. -/
theorem recordedIn_all {history first : Nat} {done : List (Manager × Run)}
    (all : ∀ p ∈ done, p.1.history = history) :
    recordedIn history first done = List.range' first done.length := by
  induction done generalizing first with
  | nil => rfl
  | cons p rest ih =>
    obtain ⟨own, others⟩ := List.forall_mem_cons.mp all
    rw [recordedIn_cons, if_pos own, ih others, List.length_cons, List.range'_succ]
    rfl

theorem history_changeHistory (h : Host) (number n : Nat) {change : History → History}
    (nothing : change ⟨0, []⟩ = ⟨0, []⟩) :
    (h.changeHistory number change).history n =
      if number = n then change (h.history n) else h.history n := by
  unfold history changeHistory
  simp only [Array.getD_eq_getD_getElem?, Array.getElem?_modify]
  split
  · cases h.histories[n]? with
    | none => exact nothing.symm
    | some old => rfl
  · rfl

theorem history_record (h : Host) (number : Nat) (r : Run) (n : Nat) :
    (h.record number r).history n =
      if number = n then (h.history n).add h.runs.size else h.history n :=
  history_changeHistory _ number n rfl

/-- Every history gets the runs of the managers that record in it, and the oldest ones go. -/
theorem history_recordAll {h : Host} {n : Nat}
    (bounded : (h.history n).runs.length ≤ (h.history n).maxSize) (done : List (Manager × Run)) :
    (h.recordAll done).history n = { h.history n with
      runs := History.lastOf (h.history n).maxSize
        ((h.history n).runs ++ recordedIn n h.runs.size done) } := by
  induction done generalizing h with
  | nil =>
    simp only [recordAll, recordedIn, List.foldl_nil, List.length_nil, List.range'_zero,
      List.zip_nil_left, List.filter_nil, List.map_nil, List.append_nil,
      History.lastOf_self bounded]
  | cons p rest ih =>
    have size : (h.record p.1.history p.2).runs.size = h.runs.size + 1 := Array.size_push ..
    have first := history_record h p.1.history p.2 n
    have fits : ((h.record p.1.history p.2).history n).runs.length ≤
        ((h.record p.1.history p.2).history n).maxSize := by
      rw [first]
      split
      · exact History.length_lastOf _ _
      · exact bounded
    change ((h.record p.1.history p.2).recordAll rest).history n = _
    rw [ih fits, first, size, recordedIn_cons]
    split
    · simp only [History.add, History.lastOf_append, List.append_assoc]
    · rw [List.nil_append]

end Recorded

section InOrder

/-- What holds of a host whatever it was ordered to do: stored flows have names of their own under
which they are found, and no history exceeds its size. -/
structure InOrder (h : Host) : Prop where
  distinct : (h.stored.map Prod.fst).Nodup
  filed : ∀ name i, (name, i) ∈ h.stored → ∃ m, h.managers[i]? = some m ∧ m.editor.flow.name = name
  bounded : ∀ n, (h.history n).runs.length ≤ (h.history n).maxSize

theorem inOrder_empty {settings : Settings} {size : Int} {token : RunId → String} {h : Host}
    (new : empty settings size token = .ok h) : h.InOrder := by
  obtain ⟨history, sized, rfl⟩ := Except.exists_of_map_eq_ok new
  rw [ofSize_ok sized]
  refine ⟨List.nodup_nil, by simp, fun n => ?_⟩
  cases n <;> exact Nat.zero_le _

/-- Every manager stays in its place, and its flow keeps its name. -/
def Keeps (before after : Array Manager) : Prop :=
  ∀ (i : Nat) (m : Manager), before[i]? = some m →
    ∃ m' : Manager, after[i]? = some m' ∧ m'.editor.flow.name = m.editor.flow.name

theorem keeps_refl (managers : Array Manager) : Keeps managers managers :=
  fun _ m there => ⟨m, there, rfl⟩

theorem keeps_push (managers : Array Manager) (new : Manager) :
    Keeps managers (managers.push new) := by
  intro i m there
  have bound := (Array.getElem?_eq_some_iff.mp there).1
  exact ⟨m, by rw [Array.getElem?_push_lt bound, ← there, Array.getElem?_eq_getElem bound], rfl⟩

theorem keeps_modify (managers : Array Manager) (j : Nat) {change : Manager → Manager}
    (same : ∀ m, (change m).editor.flow.name = m.editor.flow.name) :
    Keeps managers (managers.modify j change) := by
  intro i m there
  rw [Array.getElem?_modify, there]
  split
  · exact ⟨change m, rfl, same m⟩
  · exact ⟨m, rfl, rfl⟩

theorem mem_putStored {stored : List (String × Nat)} {key name : String} {manager i : Nat}
    (mem : (name, i) ∈ putStored stored key manager) :
    (name = key ∧ i = manager) ∨ (name, i) ∈ stored := by
  induction stored with
  | nil => simpa [putStored] using mem
  | cons first rest ih =>
    rw [putStored] at mem
    split at mem
    · rename_i same
      rcases List.mem_cons.mp mem with new | old
      · cases new
        exact Or.inl ⟨same, rfl⟩
      · exact Or.inr (List.mem_cons_of_mem _ old)
    · rcases List.mem_cons.mp mem with new | old
      · exact Or.inr (new ▸ List.mem_cons_self)
      · exact (ih old).imp_right (List.mem_cons_of_mem _)

theorem distinct_putStored {stored : List (String × Nat)} (key : String) (manager : Nat)
    (distinct : (stored.map Prod.fst).Nodup) :
    ((putStored stored key manager).map Prod.fst).Nodup := by
  induction stored with
  | nil => exact List.nodup_singleton _
  | cons first rest ih =>
    obtain ⟨new, others⟩ := List.nodup_cons.mp distinct
    rw [putStored]
    split
    · exact distinct
    · rename_i other
      refine List.nodup_cons.mpr ⟨fun mem => ?_, ih others⟩
      obtain ⟨⟨name, i⟩, mem, same⟩ := List.mem_map.mp mem
      rcases mem_putStored mem with ⟨own, -⟩ | old
      · exact other (same.symm.trans own)
      · exact new (List.mem_map.mpr ⟨_, old, same⟩)

variable {h : Host}

theorem InOrder.kept (inOrder : h.InOrder) {k : Host} (stored : k.stored = h.stored)
    (managers : Keeps h.managers k.managers)
    (bounded : ∀ n, (k.history n).runs.length ≤ (k.history n).maxSize) : k.InOrder := by
  refine ⟨stored ▸ inOrder.distinct, fun name i mem => ?_, bounded⟩
  obtain ⟨m, there, named⟩ := inOrder.filed name i (stored ▸ mem)
  obtain ⟨m', there', same⟩ := managers i m there
  exact ⟨m', there', same.trans named⟩

theorem InOrder.put (inOrder : h.InOrder) {k : Host} {j : Nat} {m : Manager}
    (there : k.managers[j]? = some m)
    (stored : k.stored = putStored h.stored m.editor.flow.name j)
    (managers : Keeps h.managers k.managers) (histories : k.histories = h.histories) :
    k.InOrder := by
  refine ⟨stored ▸ distinct_putStored _ _ inOrder.distinct, fun name i mem => ?_, fun n => ?_⟩
  · rw [stored] at mem
    rcases mem_putStored mem with ⟨rfl, rfl⟩ | old
    · exact ⟨m, there, rfl⟩
    · obtain ⟨m, there, named⟩ := inOrder.filed name i old
      obtain ⟨m', there', same⟩ := managers i m there
      exact ⟨m', there', same.trans named⟩
  · unfold history
    rw [histories]
    exact inOrder.bounded n

theorem bounded_push (inOrder : h.InOrder) {k : Host} {size : Nat}
    (histories : k.histories = h.histories.push ⟨size, []⟩) (n : Nat) :
    (k.history n).runs.length ≤ (k.history n).maxSize := by
  have bounded := inOrder.bounded n
  unfold history at bounded ⊢
  rw [histories, Array.getD_eq_getD_getElem?, Array.getElem?_push]
  split
  · exact Nat.zero_le _
  · rwa [Array.getD_eq_getD_getElem?] at bounded

theorem InOrder.recordAll (inOrder : h.InOrder) (done : List (Manager × Run)) :
    (h.recordAll done).InOrder := by
  obtain ⟨managers, stored, -⟩ := recordAll_keeps (h := h) done
  refine inOrder.kept stored (managers ▸ keeps_refl _) fun n => ?_
  rw [history_recordAll (inOrder.bounded n)]
  exact History.length_lastOf _ _

theorem inOrder_obey (inOrder : h.InOrder) (order : Order) : (h.obey order).InOrder := by
  have obeyed := obeyed h order
  generalize h.obey order = k at obeyed
  cases obeyed with
  | recorded _ done => exact inOrder.recordAll done
  | opened => exact inOrder.kept rfl (keeps_push _ _) (bounded_push inOrder rfl)
  | loaded flow =>
    have there : (h.managers.push ⟨.ofFlow flow, shared⟩)[h.managers.size]? =
      some ⟨.ofFlow flow, shared⟩ := Array.getElem?_push_size
    exact inOrder.put there rfl (keeps_push _ _) rfl
  | asked j request =>
    exact inOrder.kept rfl (keeps_modify _ j (by simp [Editor.handle_name]))
      inOrder.bounded
  | switched => exact inOrder.kept rfl (keeps_modify _ _ (by simp)) inOrder.bounded
  | renewed =>
    exact inOrder.kept rfl (keeps_modify _ _ (by simp)) (bounded_push inOrder rfl)
  | @stored j m there =>
    refine inOrder.put (j := j) (m := { m with history := shared }) ?_ rfl
      (keeps_modify _ _ (by simp)) rfl
    simp [changeManager, Array.getElem?_modify, there]
  | dropped name =>
    refine ⟨inOrder.distinct.sublist (List.filter_sublist.map _), fun key i mem => ?_,
      inOrder.bounded⟩
    exact inOrder.filed key i (List.mem_filter.mp mem).1
  | registered => exact ⟨inOrder.distinct, inOrder.filed, inOrder.bounded⟩

/-- The hosts that there are: a new one, and what becomes of one that is ordered to do something, or
when a flow is changed behind its editor, a history is cleared, a run is made anew, or files
change. -/
inductive Reached : Host → Prop
  | new {settings : Settings} {size : Int} {token : RunId → String} {h : Host}
    (made : empty settings size token = .ok h) : Reached h
  | obey {h : Host} (reached : Reached h) (order : Order) : Reached (h.obey order)
  | alter {h : Host} (reached : Reached h) (manager : Nat) (nodes : List Node)
    (start counter : Int) :
    Reached (h.changeManager manager fun m =>
      { m with editor := { m.editor with flow := ⟨m.editor.flow.name, nodes, start, counter⟩ } })
  | clear {h : Host} (reached : Reached h) (number : Nat) :
    Reached (h.changeHistory number History.clear)
  | rerun {h : Host} (reached : Reached h) (id : RunId) (run : Run) : Reached (h.setRun id run)
  | write {h : Host} (reached : Reached h) (disk : Files.Disk) : Reached { h with disk := disk }

theorem reached_after (reached : h.Reached) (orders : List Order) : (h.after orders).Reached := by
  induction orders generalizing h with
  | nil => exact reached
  | cons order rest ih => exact ih (reached.obey order)

theorem Reached.inOrder (reached : h.Reached) : h.InOrder := by
  induction reached with
  | new made => exact inOrder_empty made
  | obey _ order ih => exact inOrder_obey ih order
  | alter _ manager _ _ _ ih => exact ih.kept rfl (keeps_modify _ manager (by simp)) ih.bounded
  | clear _ number ih =>
    refine ih.kept rfl (keeps_refl _) fun n => ?_
    rw [history_changeHistory _ _ _ rfl]
    split
    · exact Nat.zero_le _
    · exact ih.bounded n
  | rerun _ _ _ ih => exact ⟨ih.distinct, ih.filed, ih.bounded⟩
  | write _ _ ih => exact ⟨ih.distinct, ih.filed, ih.bounded⟩

end InOrder

section Dispatch

variable {h : Host} {event : String} {payload : List Value} {bindings : Bindings}

/-- The stored names in the order in which an event takes them. -/
theorem named_sorted (inOrder : h.InOrder) :
    ((h.stored.mergeSort fun a b => decide (a.1 ≤ b.1)).map Prod.fst).Pairwise (· < ·) := by
  have perm := List.mergeSort_perm h.stored fun a b => decide (a.1 ≤ b.1)
  have distinct := (perm.map Prod.fst).nodup_iff.mpr inOrder.distinct
  have sorted : ((h.stored.mergeSort fun a b => decide (a.1 ≤ b.1)).map Prod.fst).Pairwise
      (· ≤ ·) := by
    rw [List.pairwise_map]
    refine (List.pairwise_mergeSort ?_ ?_ h.stored).imp of_decide_eq_true
    · intro a b c first second
      exact decide_eq_true (String.le_trans (of_decide_eq_true first) (of_decide_eq_true second))
    · intro a b
      simpa using String.le_total a.1 b.1
  exact (sorted.and distinct).imp fun both => Std.lt_of_le_of_ne both.1 both.2

/-- The managers that names stand for have flows of these names. -/
theorem names_filed (inOrder : h.InOrder) {named : List (String × Nat)}
    (stored : ∀ p ∈ named, p ∈ h.stored) :
    (named.filterMap fun p => h.managers[p.2]?).map (fun m => m.editor.flow.name) =
      named.map Prod.fst := by
  induction named with
  | nil => rfl
  | cons p rest ih =>
    obtain ⟨first, others⟩ := List.forall_mem_cons.mp stored
    obtain ⟨m, there, name⟩ := inOrder.filed p.1 p.2 first
    simp only [List.filterMap_cons, there, List.map_cons, name, ih others]

/-- An event is for flows in the order of their names. -/
theorem targets_sorted (inOrder : h.InOrder) (event : String) :
    ((h.targets event).map fun m => m.editor.flow.name).Pairwise (· < ·) := by
  unfold targets
  dsimp only
  refine List.Pairwise.sublist (List.filter_sublist.map _) ?_
  rw [names_filed inOrder fun p hp => (List.mergeSort_perm _ _).mem_iff.mp hp]
  exact named_sorted inOrder

/-- On any host with the same types and settings the flow, run by itself, makes the same run. -/
def RunsAlone (h : Host) (payload : List Value) (bindings : Bindings) (m : Manager) (r : Run) :
    Prop :=
  ∀ g : Host, g.catalog = h.catalog → g.settings = h.settings →
    ∃ ran, g.run m payload bindings none .absent = .ok ran ∧ ran.run = r

theorem Executes.runsAlone {m : Manager} {r : Run} (executes : h.Executes payload bindings m r) :
    h.RunsAlone payload bindings m r := by
  obtain ⟨flow, copied, rfl⟩ := executes
  intro g catalog settings
  unfold run Editor.start
  rw [catalog, settings, copied]
  exact ⟨_, rfl, rfl⟩

/-- **An event runs exactly the stored flows that listen to it, each as if it were alone**, in the
order of their names, and changes nothing but runs and histories. It gets through all of them if the
catalog has their types; a history gets the runs of the managers that record in it. -/
theorem dispatch_runs_listening (h : Host) (reached : h.Reached) (event : String)
    (payload : List Value) (bindings : Bindings) :
    let d := h.dispatch event payload bindings
    (d.host.managers = h.managers ∧ d.host.stored = h.stored) ∧
    ∃ done : List (Manager × Run),
      (∀ p ∈ done, h.Listens event p.1 ∧ h.RunsAlone payload bindings p.1 p.2) ∧
      (done.map fun p => p.1.editor.flow.name).Pairwise (· < ·) ∧
      d.host.runs.toList = h.runs.toList ++ done.map Prod.snd ∧
      (∀ n, d.host.history n = { h.history n with
        runs := History.lastOf (h.history n).maxSize
          ((h.history n).runs ++ recordedIn n h.runs.size done) }) ∧
      ((∀ m, h.Listens event m → m.history = shared) →
        recordedIn shared h.runs.size done = List.range' h.runs.size done.length) ∧
      ((∀ m, h.Listens event m → ∀ n ∈ m.editor.flow.nodes, h.catalog.has n.type.key = true) →
        d.result = .ok (numbered h.runs.size done) ∧
          ∀ m, h.Listens event m → ∃ r, (m, r) ∈ done) := by
  intro d
  have inOrder := reached.inOrder
  obtain ⟨sameHost, sameResult⟩ := dispatch_host h event payload bindings
  obtain ⟨done, host, executed, ends⟩ := runAll_done h payload bindings (h.targets event)
  have left : d.host = h.recordAll done := sameHost.trans host
  obtain ⟨managers, stored, -, -, -, runs⟩ := recordAll_keeps (h := h) done
  have first : done.map Prod.fst <+: h.targets event := by
    rcases ends with ⟨all, -⟩ | ⟨m, error, rest, parts, -⟩
    · exact all ▸ List.prefix_refl _
    · exact parts ▸ List.prefix_append _ _
  have listens (p : Manager × Run) (hp : p ∈ done) : h.Listens event p.1 :=
    mem_targets.mp (first.subset (List.mem_map_of_mem hp))
  have sorted := (targets_sorted inOrder event).sublist (first.sublist.map _)
  rw [List.map_map] at sorted
  refine ⟨⟨left ▸ managers, left ▸ stored⟩, done, ?_, sorted, left ▸ runs, ?_, ?_, ?_⟩
  · exact fun p hp => ⟨listens p hp, (executed p hp).runsAlone⟩
  · intro n
    rw [left]
    exact history_recordAll (inOrder.bounded n) done
  · intro all
    exact recordedIn_all fun p hp => all p.1 (listens p hp)
  · intro known
    rcases ends with ⟨all, ok⟩ | ⟨m, error, rest, parts, broke, -⟩
    · refine ⟨sameResult.trans ok, fun m hm => ?_⟩
      have mem : m ∈ done.map Prod.fst := all ▸ mem_targets.mpr hm
      obtain ⟨p, hp, rfl⟩ := List.mem_map.mp mem
      exact ⟨p.2, hp⟩
    · have mem : m ∈ h.targets event := parts ▸ by simp
      obtain ⟨flow, copied⟩ := Flow.exists_copy (known m (mem_targets.mp mem))
      rw [copied] at broke
      cases broke

end Dispatch

section TwoStored

/-- A flow that fails, since its sum has no operands. -/
def sumless : Flow where
  name := "alarm"
  nodes := [⟨1, .trigger, "start", [], [2]⟩, ⟨2, .addition, "sum", [.empty, .empty], [-1]⟩]
  start := 1
  counter := 2

/-- Two flows are stored and on, the second of which fails. -/
def twoStored : List Order :=
  [.open (startOnly "greeting"), .open sumless, .enable 0 true, .enable 1 true, .store 1, .store 0]

theorem dispatch_runs_listening_twoStored :
    let h := (bare 2).after twoStored
    let d := h.dispatch "TriggerNode" [] []
    h.Reached ∧
    (∀ m, h.Listens "TriggerNode" m → m.history = shared) ∧
    (∀ m, h.Listens "TriggerNode" m → ∀ n ∈ m.editor.flow.nodes, h.catalog.has n.type.key = true) ∧
    ∃ done : List (Manager × Run),
      (done.map fun p => p.1.editor.flow.name).Pairwise (· < ·) ∧
      d.result = .ok (numbered 0 done) ∧ (∀ m, h.Listens "TriggerNode" m → ∃ r, (m, r) ∈ done) ∧
      (d.host.history shared).runs = History.lastOf 2 (List.range' 0 done.length) := by
  intro h d
  have new : empty .standard 2 (fun _ => "") = .ok (bare 2) := rfl
  have reached : h.Reached := reached_after (.new new) twoStored
  have managed : ∀ m, h.Listens "TriggerNode" m → m ∈ h.managers.toList := by
    rintro m ⟨⟨name, i, -, there⟩, -⟩
    exact Array.mem_toList_iff.mpr (Array.mem_of_getElem? there)
  have sharing : ∀ m, h.Listens "TriggerNode" m → m.history = shared := by
    have all : ∀ m ∈ h.managers.toList, m.history = shared := by decide
    exact fun m hm => all m (managed m hm)
  have known : ∀ m, h.Listens "TriggerNode" m →
      ∀ n ∈ m.editor.flow.nodes, h.catalog.has n.type.key = true := by
    have all : ∀ m ∈ h.managers.toList, ∀ n ∈ m.editor.flow.nodes,
        h.catalog.has n.type.key = true := by decide
    exact fun m hm => all m (managed m hm)
  obtain ⟨-, done, -, sorted, -, histories, every, complete⟩ :=
    dispatch_runs_listening h reached "TriggerNode" [] []
  obtain ⟨result, all⟩ := complete known
  refine ⟨reached, sharing, known, done, sorted, result, all, ?_⟩
  rw [histories shared, every sharing]
  rfl

/-- The first flow has a node of a type that was taken out of the catalog. -/
def missingType : List Order :=
  twoStored ++ [.setCatalog (Catalog.standard.remove "AdditionNode")]

/-- A stored flow is given a history of its own. -/
def ownHistory : List Order :=
  [.open (startOnly "greeting"), .enable 0 true, .store 0, .renew 0 5]

/-- A flow of a type that the catalog no longer has keeps the event from the flows after it, and a
flow with a history of its own leaves nothing in the shared one. -/
theorem dispatch_missingType_ownHistory :
    let h := (bare 2).after missingType
    let k := (bare 2).after ownHistory
    ((∃ m, h.Listens "TriggerNode" m ∧ m.editor.flow = startOnly "greeting" ∧
        ∃ ran, h.run m [] [] none .absent = .ok ran) ∧
      (h.dispatch "TriggerNode" [] []).result = .error ⟨"AdditionNode"⟩ ∧
      (h.dispatch "TriggerNode" [] []).host.runs = #[]) ∧
    (k.history shared).maxSize = 2 ∧
      (k.dispatch "TriggerNode" [] []).result.toOption.map (List.map Prod.fst) = some [0] ∧
      ((k.dispatch "TriggerNode" [] []).host.history shared).runs = [] := by
  intro h k
  constructor
  · have targets : h.targets "TriggerNode" = h.managers.toList.reverse := by
      rw [targets_of_sorted (by decide)]
      rfl
    obtain ⟨host, result⟩ := dispatch_host h "TriggerNode" [] []
    rw [host, result, targets]
    have listens : h.Listens "TriggerNode"
        ⟨{ Editor.ofFlow (startOnly "greeting") with enabled := true }, shared⟩ :=
      ⟨⟨"greeting", 0, by decide, rfl⟩, rfl, rfl⟩
    exact ⟨⟨_, listens, rfl, _, rfl⟩, rfl, rfl⟩
  · have targets : k.targets "TriggerNode" = k.managers.toList := by
      rw [targets_of_sorted (by decide)]
      rfl
    obtain ⟨host, result⟩ := dispatch_host k "TriggerNode" [] []
    rw [host, result, targets]
    exact ⟨rfl, rfl, rfl⟩

end TwoStored

end Host

end EventFlow
