import EventFlow.Proofs.Host.Order

/-!
Events run no flow that was edited since it was enabled.

* `LastEnabled`: a manager as it was when it was last switched on;
* `gated_after`: a manager that is on has the structure of then, after any orders;
* `dispatch_as_enabled`: so every run of an event is one of that structure.
-/

namespace EventFlow.Host

/-- The manager of a number as it was after the last order that switched it on. -/
def LastEnabled (h : Host) (orders : List Order) (i : Nat) (m : Manager) : Prop :=
  ∃ before later, orders = before ++ .enable i true :: later ∧ .enable i true ∉ later ∧
    (h.after (before ++ [.enable i true])).managers[i]? = some m

/-- The edits of a manager are atomic, and if it is on it has the structure with which it was
switched on. -/
structure Gated (h : Host) (orders : List Order) (i : Nat) (m : Manager) : Prop where
  atomic : m.editor.Atomic
  since : m.editor.enabled = true →
    ∃ m', h.LastEnabled orders i m' ∧ m.editor.flow.shape = m'.editor.flow.shape

variable {h : Host} {orders : List Order} {order : Order} {i : Nat} {m m' : Manager}

theorem LastEnabled.concat (last : h.LastEnabled orders i m) (other : order ≠ .enable i true) :
    h.LastEnabled (orders ++ [order]) i m := by
  obtain ⟨before, later, rfl, none, then_⟩ := last
  refine ⟨before, later ++ [order], by simp, ?_, then_⟩
  simpa using ⟨none, other.symm⟩

theorem lastEnabled_now (now : (h.after (orders ++ [.enable i true])).managers[i]? = some m) :
    h.LastEnabled (orders ++ [.enable i true]) i m :=
  ⟨orders, [], rfl, List.not_mem_nil, now⟩

theorem gated_off (atomic : m.editor.Atomic) (off : m.editor.enabled = false) :
    h.Gated orders i m :=
  ⟨atomic, fun on => by rw [off] at on; cases on⟩

/-- A manager stays gated under an order that does not switch it on, if it gets through the gate. -/
theorem Gated.concat (gated : h.Gated orders i m) (other : order ≠ .enable i true)
    (atomic : m'.editor.Atomic) (gate : m.editor.Gated m'.editor) :
    h.Gated (orders ++ [order]) i m' := by
  rcases gate with off | ⟨enabled, shape⟩
  · exact gated_off atomic off
  · refine ⟨atomic, fun on => ?_⟩
    obtain ⟨first, last, same⟩ := gated.since (enabled ▸ on)
    exact ⟨first, last.concat other, shape.trans same⟩

/-- Every manager is gated. -/
def AllGated (h : Host) (orders : List Order) : Prop :=
  ∀ i m, (h.after orders).managers[i]? = some m → h.Gated orders i m

namespace AllGated

variable (gated : h.AllGated orders) (other : order ≠ .enable i true)
include gated other

theorem kept (there : (h.after orders).managers[i]? = some m) : h.Gated (orders ++ [order]) i m :=
  (gated i m there).concat other (gated i m there).atomic (.inr ⟨rfl, rfl⟩)

theorem push {flow : Flow} {history : Nat}
    (there : ((h.after orders).managers.push ⟨.ofFlow flow, history⟩)[i]? = some m) :
    h.Gated (orders ++ [order]) i m := by
  rw [Array.getElem?_push] at there
  split at there
  · cases there
    exact gated_off (Editor.atomic_ofFlow flow) rfl
  · exact gated.kept other there

theorem modify {j : Nat} {change : Manager → Manager}
    (there : ((h.after orders).managers.modify j change)[i]? = some m)
    (gate : ∀ m, m.editor.Atomic → (change m).editor.Atomic ∧ m.editor.Gated (change m).editor) :
    h.Gated (orders ++ [order]) i m := by
  rw [Array.getElem?_modify] at there
  split at there
  · obtain ⟨old, was, rfl⟩ := Option.map_eq_some_iff.mp there
    obtain ⟨atomic, through⟩ := gate old (gated i old was).atomic
    exact (gated i old was).concat other atomic through
  · exact gated.kept other there

end AllGated

/-- To be switched on is the only way through the gate, and then the structure is that of now. -/
theorem AllGated.switch (gated : h.AllGated orders) (value : Bool)
    (there : (h.after (orders ++ [.enable i value])).managers[i]? = some m) :
    h.Gated (orders ++ [.enable i value]) i m := by
  have now := there
  obtain ⟨old, was, rfl⟩ : ∃ old, (h.after orders).managers[i]? = some old ∧
      { old with editor := { old.editor with enabled := value } } = m := by
    simpa [after_append, obey, changeManager, Array.getElem?_modify] using there
  have before := (gated i old was).atomic
  have atomic : ({ old.editor with enabled := value } : Editor).Atomic :=
    ⟨trivial, before.undoable, before.redoable⟩
  cases value with
  | false => exact gated_off atomic rfl
  | true => exact ⟨atomic, fun _ => ⟨_, lastEnabled_now now, rfl⟩⟩

/-- Every manager is gated after an order if every manager was before. -/
theorem gated_obey (gated : h.AllGated orders) (order : Order) :
    h.AllGated (orders ++ [order]) := by
  intro i m now
  have there := now
  rw [after_append] at there
  generalize host : (h.after orders).obey order = k at there
  have obeyed := host ▸ obeyed (h.after orders) order
  cases obeyed with
  | recorded other done =>
    rw [(recordAll_keeps done).1] at there
    exact gated.kept (other i true) there
  | dropped | registered => exact gated.kept (by simp) there
  | opened | loaded => exact gated.push (by simp) there
  | renewed | stored => exact gated.modify (by simp) there fun m atomic => ⟨atomic, .inr ⟨rfl, rfl⟩⟩
  | asked j request =>
    exact gated.modify (by simp) there fun m atomic =>
      ⟨(Editor.atomic_kept _).handle atomic request, Editor.handle_gate atomic request⟩
  | switched j value =>
    by_cases same : j = i
    · subst same
      exact gated.switch value now
    · rw [changeManager, Array.getElem?_modify, if_neg same] at there
      exact gated.kept (by simp [same]) there

/-- Every manager of a host that began without one is gated. -/
theorem gated_after (none : h.managers = #[]) (orders : List Order) : h.AllGated orders := by
  induction orders using List.reverseRecOn with
  | nil =>
    intro i m there
    have nothing : h.managers[i]? = some m := there
    rw [none] at nothing
    cases nothing
  | append_singleton orders order ih => exact gated_obey ih order

theorem outline_congr {f g : Flow} (same : f.shape = g.shape) : f.outline = g.outline := by
  simp only [Flow.shape, Shape.mk.injEq] at same
  obtain ⟨name, start, node?⟩ := same
  simp only [Flow.outline, name, start, node?]

/-- **An event runs no flow that was edited since it was enabled**: whatever the orders were until
then, every flow that the event runs is a stored one that is on, has the structure with which it was
last switched on, and is run as a copy that differs in nothing but what the catalog says of
types. -/
theorem dispatch_as_enabled (h : Host) (none : h.managers = #[]) (orders : List Order)
    (event : String) (payload : List Value) (bindings : Bindings) :
    let k := h.after orders
    ∀ r ∈ (k.dispatch event payload bindings).host.runs.toList.drop k.runs.size,
      ∃ name i m m', (name, i) ∈ k.stored ∧ k.managers[i]? = some m ∧ m.editor.enabled = true ∧
        m.editor.flow.copy k.catalog = .ok r.flow ∧ h.LastEnabled orders i m' ∧
        m.editor.flow.shape = m'.editor.flow.shape ∧ r.flow.outline = m'.editor.flow.outline := by
  intro k r hr
  obtain ⟨done, host, each⟩ := dispatch_done k event payload bindings
  obtain ⟨-, -, -, -, -, runs⟩ := recordAll_keeps (h := k) done
  rw [host, runs, ← Array.length_toList, List.drop_left] at hr
  obtain ⟨p, hp, rfl⟩ := List.mem_map.mp hr
  obtain ⟨⟨⟨name, i, stored, there⟩, on, -⟩, flow, copied, ran⟩ := each p hp
  obtain ⟨m', last, shape⟩ := (gated_after none orders i p.1 there).since on
  have same : p.2.flow = flow := by
    rw [ran]
    rfl
  rw [same]
  exact ⟨name, i, p.1, m', stored, there, on, copied, last, shape,
    (Flow.copy_outline copied).trans (outline_congr shape)⟩

/-- A flow is edited, switched on and stored, and a request after that is refused. -/
def greetingOrders : List Order :=
  [.open (startOnly "greeting"), .request 0 (.edit (.createNode "AdditionNode" "sum")),
    .enable 0 true, .store 0, .request 0 (.edit (.removeNode "other")), .run 0 [] [] none .absent]

theorem dispatch_as_enabled_greeting :
    (bare 2).managers = #[] ∧
      let k := (bare 2).after greetingOrders
      ∃ r ∈ (k.dispatch "TriggerNode" [] []).host.runs.toList.drop k.runs.size,
        ∃ name i m m', (name, i) ∈ k.stored ∧ k.managers[i]? = some m ∧ m.editor.enabled = true ∧
          m.editor.flow.copy k.catalog = .ok r.flow ∧ (bare 2).LastEnabled greetingOrders i m' ∧
          m.editor.flow.shape = m'.editor.flow.shape ∧
          r.flow.outline = m'.editor.flow.outline := by
  refine ⟨rfl, ?_⟩
  intro k
  have targets : k.targets "TriggerNode" = k.managers.toList := by
    rw [targets_of_sorted (by decide)]
    rfl
  have once : ((k.dispatch "TriggerNode" [] []).host.runs.toList.drop k.runs.size).length = 1 := by
    rw [(dispatch_host k "TriggerNode" [] []).1, targets]
    rfl
  obtain ⟨r, only⟩ := List.length_eq_one_iff.mp once
  have hr : r ∈ (k.dispatch "TriggerNode" [] []).host.runs.toList.drop k.runs.size := by
    rw [only]
    exact List.mem_singleton_self r
  exact ⟨r, hr, dispatch_as_enabled (bare 2) rfl greetingOrders "TriggerNode" [] [] r hr⟩

end EventFlow.Host
