import EventFlow.Proofs.Service.Answer
import EventFlow.Proofs.Service.Ready
import EventFlow.Proofs.Service.Routing

/-!
The stored flows, as requests list, show and delete them.

* `names_editors`, `fetch?_editor`: every stored flow has a name of its own under which it is found;
* `editors_drop`: one is removed without another;
* `showFlow_reached`, `deleteFlow_reached`: the path of a name leads to the flow, unless it divides;
* `listed_reached`: so it is after any requests with the flows that are listed.
-/

namespace EventFlow

namespace Host

variable {h : Host}

/-- The stored flows under edit, in order. -/
def editors (h : Host) : List Editor :=
  h.storedManagers.map fun p => p.2.editor

theorem editors_eq (h : Host) :
    h.editors = h.stored.filterMap fun p => (h.managers[p.2]?).map Manager.editor := by
  simp [editors, storedManagers, List.map_filterMap, Function.comp_def]

theorem InOrder.names_editors (inOrder : h.InOrder) :
    (h.editors.map fun e => e.flow.name) = h.stored.map Prod.fst := by
  rw [editors_eq, List.map_filterMap, ← List.filterMap_eq_map]
  refine List.filterMap_congr fun p member => ?_
  obtain ⟨m, there, name⟩ := inOrder.filed p.1 p.2 member
  simp [there, name]

/-- A stored flow is found under its name. -/
theorem InOrder.fetch?_editor (inOrder : h.InOrder) {e : Editor} (member : e ∈ h.editors) :
    ∃ n m, h.fetch? e.flow.name = some n ∧ h.managers[n]? = some m ∧ m.editor = e := by
  rw [editors_eq] at member
  obtain ⟨⟨name, n⟩, stored, found⟩ := List.mem_filterMap.mp member
  obtain ⟨m, there, rfl⟩ := Option.map_eq_some_iff.mp found
  obtain ⟨m', there', own⟩ := inOrder.filed name n stored
  obtain rfl : m = m' := Option.some.inj (there.symm.trans there')
  obtain ⟨before, after, split⟩ := List.append_of_mem stored
  refine ⟨n, m, List.lookup_eq_some_iff.mpr ⟨before, after, own ▸ split, fun p earlier => ?_⟩,
    there, rfl⟩
  have distinct := inOrder.distinct
  rw [split, List.map_append, List.nodup_append] at distinct
  have other := distinct.2.2 p.1 (List.mem_map_of_mem earlier) name (by simp)
  simpa [own] using Ne.symm other

theorem InOrder.editors_drop (inOrder : h.InOrder) (name : String) :
    (h.drop name).editors = h.editors.filter fun e => e.flow.name != name := by
  rw [editors_eq, editors_eq, List.filter_filterMap, drop, List.filterMap_filter]
  refine List.filterMap_congr fun p member => ?_
  obtain ⟨m, there, own⟩ := inOrder.filed p.1 p.2 member
  simp [there, Option.filter, own]

/-- What is done to one flow leaves another as it is. -/
theorem editors_set {e : Editor} (member : e ∈ h.editors) {n : Nat}
    {m : Manager} (there : h.managers[n]? = some m) (other : m.editor.flow.name ≠ e.flow.name)
    (new : Editor) : e ∈ (h.setEditor n new).editors := by
  rw [editors_eq] at member ⊢
  obtain ⟨⟨name, i⟩, stored, found⟩ := List.mem_filterMap.mp member
  obtain ⟨m', there', rfl⟩ := Option.map_eq_some_iff.mp found
  have apart : n ≠ i := by
    rintro rfl
    obtain rfl : m = m' := Option.some.inj (there.symm.trans there')
    exact other rfl
  refine List.mem_filterMap.mpr ⟨(name, i), stored, ?_⟩
  have kept : (h.setEditor n new).managers[i]? = some m' := by
    rw [← there', setEditor, Array.getElem?_modify, if_neg apart]
  rw [kept]
  rfl

end Host

namespace Service

open Host (creates)

variable {h : Host} {e : Editor} {body : Body}

/-- The list of flows as a value. -/
def flowsJson (listed : List Editor) : Json :=
  .object [("flows", .array (listed.map Editor.summaryJson)), ("total", .int listed.length)]

/-- The answer to a request for a flow: it tells of the flow, unless an id that its description
shows has too many digits, or one of its texts half a pair. -/
structure Tells (e : Editor) (answer : Response) : Prop where
  placed : (∀ n ∈ e.flow.nodes, n.Placed e.flow) →
    ∃ report, e.infoJson = .ok report ∧ Gives report answer
  unplaced : (∃ n ∈ e.flow.nodes, ¬n.Placed e.flow) → answer.status = 500

/-- The answer does not tell of a flow. -/
def Silent (e : Editor) (answer : Response) : Prop :=
  ∀ report, e.infoJson = .ok report → answer ≠ .ok report

section Shown

theorem finite_flows (listed : List Editor) : Finite (flowsJson listed) := by
  have summary (e : Editor) : Finite e.summaryJson := finite_object.mpr (finite_summary e)
  simp only [flowsJson, finite_object, List.forall_mem_cons, finite_array, List.forall_mem_map,
    summary, finite_int, List.not_mem_nil, IsEmpty.forall_iff, implies_true, and_self]

theorem listFlows_editors (h : Host) :
    ∃ listed : List Editor, listed.Perm h.editors ∧ listFlows h = .ok (flowsJson listed) := by
  refine ⟨_, List.mergeSort_perm h.editors fun a b => decide (a.flow.name ≤ b.flow.name), ?_⟩
  simp [listFlows, Response.listing, flowsJson, Host.editors]

/-- No list is the account of a flow. -/
theorem listFlows_silent (h : Host) (e : Editor) (settings : Settings) :
    Silent e ((listFlows h).sendable settings) := by
  obtain ⟨listed, -, lists⟩ := listFlows_editors h
  intro report told
  obtain ⟨rendered, -, told⟩ := Except.exists_of_bind_eq_ok told
  obtain ⟨document, -, same⟩ := Except.exists_of_bind_eq_ok told
  cases same
  obtain sent | failed := sendable_cases (listFlows h) settings
  · rw [sent, lists]
    simp [Response.ok, Response.ofJson, flowsJson, Editor.summaryMembers]
  · intro same
    rw [same] at failed
    cases failed

theorem unrouted_silent (t : Target) (e : Editor) (settings : Settings) :
    Silent e ((unrouted t).sendable settings) := by
  intro report told same
  obtain sent | failed := sendable_cases (unrouted t) settings
  · have status : (unrouted t).status ≠ 200 := by
      unfold unrouted
      split
      · nofun
      · split <;> nofun
    rw [sent] at same
    rw [same] at status
    exact status rfl
  · rw [same] at failed
    cases failed

/-- A flow that is ready is told of as far as there are words for it. -/
theorem tells_sendable (ready : e.Ready .standard) (settings : Settings) :
    Tells e ((Response.info settings .ok e).sendable settings) where
  placed placed := by
    obtain ⟨report, told⟩ := ready.infoJson_iff.mpr placed
    refine ⟨report, told, ?_⟩
    rw [Response.info, told]
    exact gives_sendable (finite_info told) settings
  unplaced unplaced := by
    obtain ⟨n, present, unplaced⟩ := unplaced
    have failed : (Response.info settings .ok e).status = 500 := by
      rw [Response.info]
      cases told : e.infoJson with
      | ok report => exact absurd (ready.infoJson_iff.mp ⟨report, told⟩ n present) unplaced
      | error error => rfl
    obtain sent | fails := sendable_cases (Response.info settings .ok e) settings
    · rw [sent, failed]
    · exact fails

theorem showFlow_reached (inOrder : h.InOrder) (standard : h.catalog = .standard) (ready : h.Ready)
    (member : e ∈ h.editors) (fits : Addressable e.flow.name) :
    Tells e (serve h ⟨.get, .ofText (flowPath e.flow.name), body⟩).2 := by
  obtain ⟨n, m, fetched, there, rfl⟩ := inOrder.fetch?_editor member
  have shows : perform h (.showFlow m.editor.flow.name) =
      (h, .info h.settings .ok m.editor) := by
    simp [perform, onFlow, fetched, there]
  rw [serve_asked (operation?_showFlow fits body), shows]
  exact tells_sendable (standard ▸ ready n m there) _

theorem showFlow_missed (h : Host) (e : Editor) {name : String} (misses : ¬Addressable name) :
    Silent e (serve h ⟨.get, .ofText (flowPath name), body⟩).2 := by
  have lists (asks : Request.operation? ⟨.get, .ofText (flowPath name), body⟩ = some .listFlows) :
      Silent e (serve h ⟨.get, .ofText (flowPath name), body⟩).2 := by
    rw [serve_asked asks]
    exact listFlows_silent h e _
  by_cases divided : '/' ∈ name.toList
  · have stray : answer h ⟨.get, .ofText (flowPath name), body⟩ =
        (h, unrouted (.ofText (flowPath name))) := answer_unrouted (noRoute_showFlow divided)
    rw [serve_eq, stray]
    dsimp only
    exact unrouted_silent (.ofText (flowPath name)) e h.settings
  · by_cases empty : name = ""
    · subst empty
      exact lists rfl
    · by_cases line : name = "\n"
      · subst line
        exact lists rfl
      · exact absurd ⟨⟨empty, divided⟩, line⟩ misses

end Shown

section Deleted

/-- What changes one stored flow leaves another as it is. -/
theorem mem_onFlow (inOrder : h.InOrder) (member : e ∈ h.editors) {flow : String}
    (other : flow ≠ e.flow.name) {act : Nat → Manager → Host × Response}
    (acts : ∀ n m, ∃ new, (act n m).1 = h.setEditor n new) : e ∈ (onFlow h flow act).1.editors := by
  obtain ⟨n, m, fetched, there, -, same⟩ | ⟨-, same⟩ := onFlow_cases h flow act
  · obtain ⟨m', there', own⟩ := inOrder.filed flow n (mem_of_fetch? fetched)
    obtain rfl : m = m' := Option.some.inj (there.symm.trans there')
    obtain ⟨new, after⟩ := acts n m
    rw [same, after]
    exact Host.editors_set member there (own ▸ other) new
  · rw [same]
    exact member

theorem deleteFlow_reached (inOrder : h.InOrder) (member : e ∈ h.editors)
    (fits : Segment e.flow.name) :
    serve h ⟨.delete, .ofText (flowPath e.flow.name), body⟩ =
      (h.drop e.flow.name, .noContent) := by
  obtain ⟨n, m, fetched, -⟩ := inOrder.fetch?_editor member
  have deletes : perform h (.deleteFlow e.flow.name) = (h.drop e.flow.name, .noContent) := by
    simp [perform, deleteFlow, Host.isStored, fetched]
  have answers := (answer_asked (operation?_deleteFlow fits body)).trans deletes
  rw [serve_eq, answers]
  rfl

theorem deleteFlow_missed (inOrder : h.InOrder) (member : e ∈ h.editors)
    (misses : ¬Segment e.flow.name) :
    e ∈ (serve h ⟨.delete, .ofText (flowPath e.flow.name), body⟩).1.editors := by
  rw [serve_eq]
  cases asks : Request.operation? ⟨.delete, .ofText (flowPath e.flow.name), body⟩ with
  | none =>
    rw [answer_idle asks]
    exact member
  | some operation =>
    by_cases divided : '/' ∈ e.flow.name.toList
    · obtain ⟨flow, command, other, rfl⟩ := operation?_deleteFlow_divided divided asks
      rw [answer_asked asks]
      exact mem_onFlow inOrder member other fun _ _ => ⟨_, rfl⟩
    · have empty : e.flow.name = "" := by
        by_contra nonempty
        exact misses ⟨nonempty, divided⟩
      rw [empty] at asks
      cases asks

end Deleted

/-- Whatever requests were served, every flow of the list is the only one of its name. It is told of
for a name that is addressable, and for no other; it is removed, and only it, if its name is a
segment, and stays if not. -/
theorem listed_reached (started : h.Started) (requests : List Request) (body : Body) :
    let k := h.served requests
    ∃ listed : List Editor, listed.Perm k.editors ∧ (listed.map fun e => e.flow.name).Nodup ∧
      Gives (flowsJson listed) (serve k ⟨.get, .ofText "/flows/", body⟩).2 ∧
      ∀ e ∈ listed, let path := flowPath e.flow.name
        (if Addressable e.flow.name then Tells e (serve k ⟨.get, .ofText path, body⟩).2
          else Silent e (serve k ⟨.get, .ofText path, body⟩).2) ∧
        (if Segment e.flow.name then
          (serve k ⟨.delete, .ofText path, body⟩).2 = .noContent ∧
            (serve k ⟨.delete, .ofText path, body⟩).1.editors =
              k.editors.filter fun other => other.flow.name != e.flow.name
          else e ∈ (serve k ⟨.delete, .ofText path, body⟩).1.editors) := by
  intro k
  have live := started.live.served requests
  have inOrder : k.InOrder := live.inOrder
  obtain ⟨listed, perm, lists⟩ := listFlows_editors k
  have names : (listed.map fun e => e.flow.name).Nodup := by
    rw [(perm.map _).nodup_iff, inOrder.names_editors]
    exact inOrder.distinct
  refine ⟨listed, perm, names, ?_, fun e member => ⟨?_, ?_⟩⟩
  · rw [serve_asked (operation?_listFlows body), perform, lists]
    exact gives_sendable (finite_flows listed) _
  · split
    · rename_i fits
      exact showFlow_reached inOrder live.standard live.ready (perm.mem_iff.mp member) fits
    · rename_i misses
      exact showFlow_missed k e misses
  · split
    · rename_i fits
      rw [deleteFlow_reached inOrder (perm.mem_iff.mp member) fits]
      exact ⟨rfl, inOrder.editors_drop _⟩
    · rename_i misses
      exact deleteFlow_missed inOrder (perm.mem_iff.mp member) misses

theorem listed_reached_blank :
    ∃ h : Host, h.Started ∧ ∃ e ∈ (h.served [creates "a b"]).editors, ∃ report,
      e.flow.name = "a b" ∧ e.infoJson = .ok report ∧
      Gives report (serve (h.served [creates "a b"]) ⟨.get, .ofText "/flows/a%20b", .empty⟩).2 ∧
      (serve (h.served [creates "a b"]) ⟨.delete, .ofText "/flows/a%20b", .empty⟩).2 =
        .noContent := by
  have facts : ((Host.startUp Host.quiet).toOption.map fun h =>
      ((h.served [creates "a b"]).editors.drop 1).map fun e =>
        (e.flow.name, e.flow.nodes.map fun n => (n.id, n.inputs))) =
      some [("a b", [(1, [])])] := by decide +kernel
  obtain ⟨h, up, facts⟩ := Option.map_eq_some_iff.mp facts
  obtain ⟨e, last, facts⟩ := List.map_eq_singleton_iff.mp facts
  obtain ⟨name, nodes⟩ := Prod.mk.inj facts
  obtain ⟨n, only, same⟩ := List.map_eq_singleton_iff.mp nodes
  obtain ⟨id, inputs⟩ := Prod.mk.inj same
  have placed : ∀ m ∈ e.flow.nodes, m.Placed e.flow := by
    rw [only, List.forall_mem_singleton]
    exact ⟨id ▸ brief_of_natAbs_le (by decide), by simp [inputs]⟩
  obtain ⟨started, -⟩ := Host.started_quiet up
  have stored : e ∈ (h.served [creates "a b"]).editors :=
    List.mem_of_mem_drop (last ▸ List.mem_singleton_self e)
  obtain ⟨listed, perm, -, -, reached⟩ := listed_reached started [creates "a b"] .empty
  obtain ⟨shown, deleted⟩ := reached e (perm.mem_iff.mpr stored)
  have path : flowPath "a b" = "/flows/a%20b" := by decide +kernel
  rw [name, path, if_pos (by decide)] at shown deleted
  obtain ⟨report, told, gives⟩ := shown.placed placed
  exact ⟨h, started, e, stored, report, name, told, gives, deleted.1⟩

/-- A flow with a slash in its name is listed, but neither given nor removed. -/
theorem slash_unreached :
    ∃ h : Host, h.Started ∧
      "a/b" ∈ (h.served [creates "a/b"]).editors.map (fun e => e.flow.name) ∧
      (serve (h.served [creates "a/b"]) ⟨.get, .ofText "/flows/a%2Fb", .empty⟩).2.status = 404 ∧
      (serve (h.served [creates "a/b"]) ⟨.delete, .ofText "/flows/a%2Fb", .empty⟩).2.status =
        404 := by
  have facts : ((Host.startUp Host.quiet).toOption.map fun h =>
      (decide ("a/b" ∈ (h.served [creates "a/b"]).editors.map fun e => e.flow.name),
        (serve (h.served [creates "a/b"]) ⟨.get, .ofText "/flows/a%2Fb", .empty⟩).2.status,
        (serve (h.served [creates "a/b"]) ⟨.delete, .ofText "/flows/a%2Fb", .empty⟩).2.status)) =
      some (true, 404, 404) := by decide +kernel
  obtain ⟨h, up, facts⟩ := Option.map_eq_some_iff.mp facts
  simp only [Prod.mk.injEq, decide_eq_true_eq] at facts
  exact ⟨h, (Host.started_quiet up).1, facts⟩

end Service

end EventFlow
