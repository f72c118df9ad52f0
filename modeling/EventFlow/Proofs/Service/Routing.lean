import EventFlow.Proofs.Service.Address
import EventFlow.Proofs.Service.Session

/-!
Where the addresses of flows and runs lead.

* `Segment`, `Addressable`: the names that a path can end in;
* `operation?_showFlow`, `operation?_deleteFlow`, `operation?_showRun`: the path of such a name
  leads to the flow or the run;
* `routes_divided`: the path of a name with a slash leads below another flow;
* `operation?_listFlows`, `operation?_listRuns`, `operation?_listRunsOf`: what leads to the lists.
-/

namespace EventFlow.Service

open Route (plain)

/-- The names that are one segment of a path. -/
def Segment (name : String) : Prop :=
  name ≠ "" ∧ '/' ∉ name.toList

/-- The names of which the path leads somewhere, as that of a line break does not: it is the path of
the list. -/
def Addressable (name : String) : Prop :=
  Segment name ∧ name ≠ "\n"

instance (name : String) : Decidable (Segment name) :=
  inferInstanceAs (Decidable (_ ∧ _))

instance (name : String) : Decidable (Addressable name) :=
  inferInstanceAs (Decidable (_ ∧ _))

section Find

theorem operation?_plain {r : Request} {before after : List Route} {operation : Operation}
    (found : routes r.target = before ++ plain r.method operation :: after)
    (others : ∀ route ∈ before, route.method ≠ r.method) : r.operation? = some operation := by
  have none' : before.find? (fun route => decide (route.method = r.method)) = none :=
    List.find?_eq_none.mpr fun route member => by simpa using others route member
  have first : (plain r.method operation).method = r.method := rfl
  unfold Request.operation?
  rw [found, List.find?_append, none', Option.none_or, List.find?_cons_of_pos (by simp [first])]
  rfl

end Find

section Segments

variable {name : String} {body : Body}

theorem dropLineBreak_ne (nonempty : name ≠ "") (solid : name ≠ "\n") :
    dropLineBreak name ≠ "" := by
  unfold dropLineBreak
  split
  · rename_i last
    intro empty
    have none' : name.toList.dropLast = [] := by simpa using congrArg String.toList empty
    have whole := List.dropLast_append_getLast? '\n' last
    rw [none', List.nil_append] at whole
    exact solid (String.toList_inj.mp whole.symm)
  · exact nonempty

theorem fixedRoutes_runs {x : String} (nonempty : x ≠ "") : fixedRoutes ["runs", x] = [] := by
  unfold fixedRoutes
  split <;> simp_all

theorem fixedRoutes_flows (x : String) :
    ∀ route ∈ fixedRoutes ["flows", x], route.method = .post ∨ route.method = .get ∧ x = "" := by
  unfold fixedRoutes
  split <;> simp_all [partRoutes, Route.withBody, plain]

theorem partRoutes_method (flow : String) (rest : List String) :
    ∀ route ∈ partRoutes flow rest, route.method = .post ∨ route.method = .put := by
  intro route member
  unfold partRoutes at member
  split at member <;> simp_all [Route.withBody, Route.withIndexAndBody, plain]

theorem fixedRoutes_part (a b : String) (rest : List String) :
    ∀ route ∈ fixedRoutes ("flows" :: a :: b :: rest),
      route.method = .post ∨ route.method = .put := by
  unfold fixedRoutes
  split
  all_goals simp_all
  intro route _ _ member
  exact partRoutes_method _ _ route member

/-- Below the path of a flow nothing is shown, and what is deleted are parts of the flow. -/
theorem namedRoutes_part (a b : String) (rest : List String) :
    ∀ route ∈ namedRoutes ("flows" :: a :: b :: rest), route.method ≠ .get ∧
      (route.method = .delete → ∀ r operation, route.resolve r = .ok operation →
        ∃ command, operation = .edit a command) := by
  have indexed {segment : String} {command : Int → Command} (r : Request) (operation : Operation)
      (resolved : (Route.withIndex .delete segment fun i => .edit a (command i)).resolve r =
        .ok operation) : ∃ command, operation = .edit a command := by
    obtain ⟨i, -, rfl⟩ := Except.exists_of_map_eq_ok (Except.eq_ok_of_mapError resolved)
    exact ⟨_, rfl⟩
  intro route member
  unfold namedRoutes at member
  split at member
  case h_2 flow node same =>
    obtain ⟨rfl, rfl, rfl⟩ : a = flow ∧ b = "nodes" ∧ rest = [node] := by simpa using same
    rw [List.mem_singleton.mp member]
    exact ⟨nofun, fun _ r operation resolved => ⟨_, (Except.ok.inj resolved).symm⟩⟩
  case h_3 flow node i same =>
    obtain ⟨rfl, rfl, rfl⟩ : a = flow ∧ b = "nodes" ∧ rest = [node, "inputs", i] := by
      simpa using same
    rw [List.mem_singleton.mp member]
    exact ⟨nofun, fun _ => indexed⟩
  case h_4 flow node i same =>
    obtain ⟨rfl, rfl, rfl⟩ : a = flow ∧ b = "nodes" ∧ rest = [node, "next", i] := by
      simpa using same
    simp only [List.mem_cons, List.not_mem_nil, or_false] at member
    obtain rfl | rfl := member
    · exact ⟨nofun, nofun⟩
    · exact ⟨nofun, fun _ => indexed⟩
  all_goals simp_all

/-- The routes of a path with one name after a word. -/
theorem routes_named {word : String} {t : Target} (segments : t.segments? = some [word, name])
    (solid : word ≠ "") (nonempty : name ≠ "") :
    routes t = fixedRoutes [word, dropLineBreak name] ++ namedRoutes [word, name] := by
  have full : "" ∉ [word, name] := by simp [solid.symm, nonempty.symm]
  unfold routes
  rw [segments]
  simp [solid.symm, nonempty.symm]

/-- The segments of a path that ends in an escaped name. -/
theorem segments?_escaped {path word : String} (below : path.toList = '/' :: (word.toList ++ ['/']))
    (solid : '/' ∉ word.toList) (bare : '%' ∉ path.toList) (whole : '?' ∉ path.toList)
    (name : String) : (Target.ofText (path ++ escaped name)).segments? =
      some (word :: (Text.splitOnChar '/' name.toList).map String.ofList) := by
  rw [ofText_escaped bare whole, below, List.cons_append, List.append_assoc]
  exact segments?_below solid name.toList []

theorem segments?_single {path word : String} (below : path.toList = '/' :: (word.toList ++ ['/']))
    (solid : '/' ∉ word.toList) (bare : '%' ∉ path.toList) (whole : '?' ∉ path.toList)
    (single : '/' ∉ name.toList) :
    (Target.ofText (path ++ escaped name)).segments? = some [word, name] := by
  rw [segments?_escaped below solid bare whole, Text.splitOnChar_single single]
  simp

end Segments

section Flows

variable {name : String}

def flowPath (name : String) : String := "/flows/" ++ escaped name

theorem segments?_flow (single : '/' ∉ name.toList) :
    (Target.ofText (flowPath name)).segments? = some ["flows", name] :=
  segments?_single (by decide) (by decide) (by decide) (by decide) single

theorem operation?_showFlow (fits : Addressable name) (body : Body) :
    Request.operation? ⟨.get, .ofText (flowPath name), body⟩ = some (.showFlow name) := by
  obtain ⟨⟨nonempty, single⟩, solid⟩ := fits
  refine operation?_plain (routes_named (segments?_flow single) (by decide) nonempty)
    fun route member => ?_
  obtain post | ⟨-, empty⟩ := fixedRoutes_flows _ route member
  · rw [post]
    nofun
  · exact absurd empty (dropLineBreak_ne nonempty solid)

theorem operation?_deleteFlow (fits : Segment name) (body : Body) :
    Request.operation? ⟨.delete, .ofText (flowPath name), body⟩ = some (.deleteFlow name) := by
  obtain ⟨nonempty, single⟩ := fits
  have found : routes (Target.ofText (flowPath name)) =
      (fixedRoutes ["flows", dropLineBreak name] ++ [plain .get (.showFlow name)]) ++
        [plain .delete (.deleteFlow name)] := by
    rw [routes_named (segments?_flow single) (by decide) nonempty, List.append_assoc]
    rfl
  refine operation?_plain found fun route member => ?_
  obtain fixed | shows := List.mem_append.mp member
  · obtain post | ⟨get, -⟩ := fixedRoutes_flows _ route fixed
    · rw [post]
      nofun
    · rw [get]
      nofun
  · rw [List.mem_singleton.mp shows]
    nofun

/-- The path of a name with a slash leads below another flow. -/
theorem routes_divided (divided : '/' ∈ name.toList) :
    ∃ flow, '/' ∉ flow.toList ∧ ∀ route ∈ routes (Target.ofText (flowPath name)),
      route.method ≠ .get ∧ (route.method = .delete → ∀ r operation,
        route.resolve r = .ok operation → ∃ command, operation = .edit flow command) := by
  obtain ⟨first, second, rest, single, pieces⟩ := Text.splitOnChar_divided divided
  have segments : (Target.ofText (flowPath name)).segments? =
      some ("flows" :: (first :: second :: rest).map String.ofList) :=
    pieces ▸ segments?_escaped (by decide) (by decide) (by decide) (by decide) name
  refine ⟨String.ofList first, by simpa using single, fun route member => ?_⟩
  unfold routes at member
  simp only [segments, List.map_cons, List.mem_append] at member
  obtain fixed | named := member
  · have below : route.method = .post ∨ route.method = .put := by
      cases rest with
      | nil => exact fixedRoutes_part _ _ [] route fixed
      | cons third rest => exact fixedRoutes_part _ _ _ route fixed
    obtain method | method := below
    · simp [method]
    · simp [method]
  · split at named
    · cases named
    · exact namedRoutes_part _ _ _ route named

theorem noRoute_showFlow (divided : '/' ∈ name.toList) :
    (routes (Target.ofText (flowPath name))).find? (fun route => route.method = .get) = none := by
  obtain ⟨flow, -, all⟩ := routes_divided divided
  exact List.find?_eq_none.mpr fun route member => by simpa using (all route member).1

theorem operation?_deleteFlow_divided (divided : '/' ∈ name.toList) {body : Body}
    {operation : Operation}
    (asks : Request.operation? ⟨.delete, .ofText (flowPath name), body⟩ = some operation) :
    ∃ flow command, flow ≠ name ∧ operation = .edit flow command := by
  obtain ⟨flow, single, all⟩ := routes_divided divided
  obtain ⟨route, found, resolved⟩ := Option.bind_eq_some_iff.mp asks
  have deletes : route.method = .delete := by simpa using List.find?_some found
  have there := List.mem_of_find?_eq_some found
  cases resolve : route.resolve ⟨.delete, .ofText (flowPath name), body⟩ with
  | error response =>
    rw [resolve] at resolved
    cases resolved
  | ok operation' =>
    rw [resolve] at resolved
    obtain rfl : operation' = operation := Option.some.inj resolved
    obtain ⟨command, same⟩ := (all route there).2 deletes _ _ resolve
    exact ⟨flow, command, fun own => single (own ▸ divided), same⟩

theorem operation?_listFlows (body : Body) :
    Request.operation? ⟨.get, .ofText "/flows/", body⟩ = some .listFlows := by
  rfl

end Flows

section Runs

variable {name : String}

def runPath (name : String) : String := "/runs/" ++ escaped name

theorem operation?_showRun (fits : Addressable name) (body : Body) :
    Request.operation? ⟨.get, .ofText (runPath name), body⟩ = some (.showRun name) := by
  obtain ⟨⟨nonempty, single⟩, solid⟩ := fits
  have segments : (Target.ofText (runPath name)).segments? = some ["runs", name] :=
    segments?_single (by decide) (by decide) (by decide) (by decide) single
  have found := routes_named segments (by decide) nonempty
  rw [fixedRoutes_runs (dropLineBreak_ne nonempty solid)] at found
  exact operation?_plain found nofun

theorem operation?_listRuns (body : Body) :
    Request.operation? ⟨.get, .ofText "/runs/", body⟩ = some (.listRuns none) := by
  rfl

/-- The list of the runs of one flow. -/
def runsOfPath (flow : String) : String := "/runs/" ++ "?" ++ ("flow=" ++ escaped flow)

theorem operation?_listRunsOf (flow : String) (body : Body) :
    Request.operation? ⟨.get, .ofText (runsOfPath flow), body⟩ = some (.listRuns (some flow)) := by
  have target : Target.ofText (runsOfPath flow) =
      ⟨"/runs/".toList,
        "flow".toList ++ '=' :: Percent.encode Percent.isUnreserved flow.toList⟩ := by
    have query : ("flow=" ++ escaped flow).toList =
        "flow".toList ++ '=' :: Percent.encode Percent.isUnreserved flow.toList := by
      simp [escaped]
    rw [runsOfPath, ofText_query (by decide) (by decide), query]
  have parameters : (Target.ofText (runsOfPath flow)).parameters = [("flow", flow)] := by
    rw [target]
    exact parameters_escaped _ (List.all_eq_true.mp (by decide)) flow
  have found : routes (Target.ofText (runsOfPath flow)) =
      [⟨.get, false, fun query _ => .ok (.listRuns (query.get? "flow"))⟩] := by
    rw [target]
    rfl
  unfold Request.operation?
  dsimp only
  rw [found]
  simp [Route.resolve, parameters, Query.get?, Except.mapError, Except.toOption]

end Runs

end EventFlow.Service
