import EventFlow.Proofs.Run.Report
import EventFlow.Proofs.Schema.Field
import EventFlow.Proofs.Value.Wire
import EventFlow.Service.Basic

/-!
What requests ask for. The values that come with a request are never integers of too many digits:
the numbers in a body are read as floats.

* `Request.operation?`: the operation that a request leads to;
* `Payload.start_plain`, `Payload.event_plain`: the values in a body can be said;
* `plain_of_asks`: so can those of every operation that a request leads to.
-/

namespace EventFlow

/-- What an operation runs flows with can be said. -/
def Service.Operation.Plain : Service.Operation → Prop
  | .runFlow _ payload bindings _ => (∀ v ∈ payload, v.isBrief = true) ∧ bindings.Sayable
  | .raise _ payload bindings => (∀ v ∈ payload, v.isBrief = true) ∧ bindings.Sayable
  | _ => True

namespace Service

open Schema

/-- The operation that a request asks for, if it asks for one. -/
def Request.operation? (r : Request) : Option Operation :=
  ((routes r.target).find? fun route => route.method = r.method).bind fun route =>
    (route.resolve r).toOption

namespace Payload

variable {json : Json} {v : Value}

theorem value_brief (given : value json = .ok v) : v.isBrief = true := by
  unfold value at given
  split at given
  · cases given
    rfl
  · cases given
    rfl
  · split at given
    · cases given
      rfl
    · cases given
  · cases given
    rfl
  · cases given
    rfl
  · cases given

theorem castIf_brief (cast : Bool) (brief : v.isBrief = true) : (castIf cast v).isBrief = true := by
  unfold castIf
  split
  · exact Value.isBrief_autoCast _
  · exact brief

theorem values_brief {key : String} {vs : List Value} (given : values key json = .ok vs) :
    ∀ v ∈ vs, v.isBrief = true := by
  obtain ⟨-, rfl⟩ | ⟨items, -, given⟩ := optional_eq_ok.mp given
  · simp
  · obtain ⟨xs, -, each⟩ := list_eq_ok.mp given
    intro v member
    obtain ⟨x, -, given⟩ := List.exists_of_forall₂ each member
    exact value_brief given

theorem bindings_sayable {b : Bindings} (given : bindings json = .ok b) : b.Sayable := by
  obtain ⟨-, rfl⟩ | ⟨members, -, given⟩ := optional_eq_ok.mp given
  · simp [Bindings.Sayable]
  · intro p member
    obtain ⟨entries, -, each⟩ := dictionary_eq_ok.mp given
    obtain ⟨x, -, given, -⟩ := List.exists_of_forall₂ each member
    exact value_brief given

/-- What is cast is as short as it was. -/
theorem cast_plain {payload : List Value} {b : Bindings} (cast : Bool)
    (brief : ∀ v ∈ payload, v.isBrief = true) (bound : b.Sayable) :
    (∀ v ∈ payload.map (castIf cast), v.isBrief = true) ∧
      Bindings.Sayable (b.map fun p => (p.1, castIf cast p.2)) := by
  constructor
  · simp only [List.forall_mem_map]
    exact fun v member => castIf_brief cast (brief v member)
  · simp only [Bindings.Sayable, List.forall_mem_map]
    exact fun p member => castIf_brief cast (bound p member)

theorem start_plain {payload : List Value} {b : Bindings} {limit : Option Int}
    (given : start json = .ok (payload, b, limit)) :
    (∀ v ∈ payload, v.isBrief = true) ∧ b.Sayable := by
  cases json with
  | object members =>
    obtain ⟨⟨vs, bound, max, cast⟩, both, same⟩ := Check.map_eq_ok.mp given
    obtain ⟨first, others⟩ := Check.both_eq_ok.mp both
    obtain ⟨second, -⟩ := Check.both_eq_ok.mp others
    cases same
    exact cast_plain cast (values_brief first) (bindings_sayable second)
  | _ => cases given

theorem event_plain {payload : List Value} {b : Bindings}
    (given : event json = .ok (payload, b)) : (∀ v ∈ payload, v.isBrief = true) ∧ b.Sayable := by
  cases json with
  | object members =>
    obtain ⟨⟨vs, bound, cast⟩, both, same⟩ := Check.map_eq_ok.mp given
    obtain ⟨first, others⟩ := Check.both_eq_ok.mp both
    obtain ⟨second, -⟩ := Check.both_eq_ok.mp others
    cases same
    exact cast_plain cast (values_brief first) (bindings_sayable second)
  | _ => cases given

end Payload

namespace Route

/-- A route leads only to operations on what can be said. -/
def Plain (route : Route) : Prop :=
  ∀ query content operation, route.operation query content = .ok operation → operation.Plain

theorem plain_plain {method : Method} {operation : Operation} (fits : operation.Plain) :
    (plain method operation).Plain := by
  rintro query content operation' ⟨⟩
  exact fits

theorem plain_withBody {α : Type} {method : Method} {check : Json → Check α}
    {operation : α → Operation} (fits : ∀ json x, check json = .ok x → (operation x).Plain) :
    (withBody method check operation).Plain := by
  intro query content operation' given
  obtain ⟨x, checked, rfl⟩ := Check.map_eq_ok.mp given
  have inner := Check.under_eq_ok.mp checked
  cases content with
  | none => cases inner
  | some json => exact fits json x inner

theorem plain_withIndex {method : Method} {segment : String} {operation : Int → Operation}
    (fits : ∀ i, (operation i).Plain) : (withIndex method segment operation).Plain := by
  intro query content operation' given
  obtain ⟨i, -, rfl⟩ := Check.map_eq_ok.mp given
  exact fits i

theorem plain_withIndexAndBody {α : Type} {method : Method} {segment : String}
    {check : Json → Check α} {operation : Int → α → Operation}
    (fits : ∀ i x, (operation i x).Plain) :
    (withIndexAndBody method segment check operation).Plain := by
  intro query content operation' given
  obtain ⟨⟨i, x⟩, -, rfl⟩ := Check.map_eq_ok.mp given
  exact fits i x

end Route

section Routes

open Route

theorem plain_partRoutes (flow : String) (segments : List String) :
    ∀ route ∈ partRoutes flow segments, route.Plain := by
  unfold partRoutes
  split <;> simp only [List.forall_mem_cons, List.not_mem_nil, IsEmpty.forall_iff, implies_true,
    and_true]
  · exact plain_withBody fun _ _ _ => trivial
  · exact plain_withBody fun _ _ _ => trivial
  · exact plain_withIndexAndBody fun _ _ => trivial
  · exact plain_withIndexAndBody fun _ _ => trivial
  · exact plain_withBody fun _ _ _ => trivial
  · exact plain_plain trivial
  · exact plain_plain trivial
  · exact plain_withBody fun _ _ _ => trivial
  · exact plain_withBody fun json (payload, b, limit) => Payload.start_plain
  · exact plain_withBody fun _ _ _ => trivial

theorem plain_fixedRoutes (segments : List String) :
    ∀ route ∈ fixedRoutes segments, route.Plain := by
  unfold fixedRoutes
  split
  case h_7 =>
    split
    · simp
    · exact plain_partRoutes _ _
  all_goals simp only [List.forall_mem_cons, List.not_mem_nil, IsEmpty.forall_iff, implies_true,
    and_true]
  · exact plain_plain trivial
  · exact plain_plain trivial
  · exact ⟨plain_withBody fun _ _ _ => trivial, plain_plain trivial⟩
  · exact plain_withBody fun _ _ _ => trivial
  · exact plain_plain trivial
  · rintro query content operation ⟨⟩
    trivial

theorem plain_namedRoutes (segments : List String) :
    ∀ route ∈ namedRoutes segments, route.Plain := by
  unfold namedRoutes
  split <;> simp only [List.forall_mem_cons, List.not_mem_nil, IsEmpty.forall_iff, implies_true,
    and_true]
  · exact ⟨plain_plain trivial, plain_plain trivial⟩
  · exact plain_plain trivial
  · exact plain_withIndex fun _ => trivial
  · exact ⟨plain_withIndexAndBody fun _ _ => trivial, plain_withIndex fun _ => trivial⟩
  · exact plain_plain trivial
  · exact plain_plain trivial
  · exact plain_withBody fun json (payload, b) => Payload.event_plain

theorem plain_routes (t : Target) : ∀ route ∈ routes t, route.Plain := by
  unfold routes
  split
  · simp
  · rw [List.forall_mem_append]
    refine ⟨plain_fixedRoutes _, ?_⟩
    split
    · simp
    · exact plain_namedRoutes _

/-- Requests bring nothing that cannot be said. -/
theorem plain_of_asks {r : Request} {operation : Operation}
    (asks : r.operation? = some operation) : operation.Plain := by
  obtain ⟨route, found, resolved⟩ := Option.bind_eq_some_iff.mp asks
  have resolved := Except.eq_ok_of_toOption resolved
  have fits := plain_routes r.target route (List.mem_of_find?_eq_some found)
  unfold Route.resolve at resolved
  split at resolved
  · cases resolved
  · cases resolved
  · exact fits _ _ _ (Except.eq_ok_of_mapError resolved)

end Routes

end Service

end EventFlow
