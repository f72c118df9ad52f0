import EventFlow.Proofs.Service.Answer
import EventFlow.Proofs.Service.Ready
import EventFlow.Proofs.Service.Routing
import EventFlow.Proofs.Text.Numeral

/-!
The runs that a host retains, as requests show them.

* `Recording.performs`, `Live.recording`: the shared history holds the newest runs of all that were
  performed, since every stored flow records in it;
* `Drawn`: what is known of the names of runs, which tell them apart;
* `listRuns_retained`, `listRuns_ofFlow`, `showRun_listed`: what is listed and found by name;
* `runs_retained`: so it is after any requests, as far as the answers can be sent.
-/

namespace EventFlow

namespace Host

variable {h k : Host} {runs made : List Run}

section Recording

/-- Every stored flow records its runs in the shared history. -/
def Shares (h : Host) : Prop :=
  ∀ name n, (name, n) ∈ h.stored → ∀ m, h.managers[n]? = some m → m.history = shared

/-- What a host holds of the runs performed so far: all of them, and the numbers of the newest ones
in the history that stored flows share. -/
structure Recording (runs : List Run) (h : Host) : Prop where
  shares : h.Shares
  nonempty : 0 < h.histories.size
  all : h.runs.toList = runs
  newest : h.history shared = ⟨h.settings.historySize.toNat,
    History.lastOf h.settings.historySize.toNat (List.range runs.length)⟩

theorem shares_store (shares : h.Shares) (n : Nat) : (h.store n).Shares := by
  unfold store
  split
  · exact shares
  · intro name i member m there
    rw [Array.getElem?_modify] at there
    split at there
    · obtain ⟨old, -, rfl⟩ := Option.map_eq_some_iff.mp there
      rfl
    · rename_i other
      obtain ⟨-, rfl⟩ | old := mem_putStored member
      · exact absurd rfl other
      · exact shares name i old m there

/-- A new manager is no stored one. -/
theorem shares_push (shares : h.Shares) (inOrder : h.InOrder) (new : Manager)
    (histories : Array History) :
    Shares { h with managers := h.managers.push new, histories := histories } := by
  intro name n member m there
  obtain ⟨old, found, -⟩ := inOrder.filed name n member
  have bound := (Array.getElem?_eq_some_iff.mp found).1
  have same : (h.managers.push new)[n]? = h.managers[n]? := by
    rw [Array.getElem?_push_lt bound, Array.getElem?_eq_getElem bound]
  exact shares name n member m (same ▸ there)

theorem shares_change (shares : h.Shares) (n : Nat) {change : Manager → Manager}
    (same : ∀ m, (change m).history = m.history) : (h.changeManager n change).Shares := by
  intro name i member m there
  unfold changeManager at there
  dsimp only at there
  rw [Array.getElem?_modify] at there
  split at there
  · obtain ⟨old, found, rfl⟩ := Option.map_eq_some_iff.mp there
    exact (same old).trans (shares name i member old found)
  · exact shares name i member m there

theorem histories_recordAll (h : Host) (done : List (Manager × Run)) :
    (h.recordAll done).histories.size = h.histories.size := by
  induction done generalizing h with
  | nil => rfl
  | cons p rest ih =>
    change ((h.record p.1.history p.2).recordAll rest).histories.size = _
    rw [ih]
    exact Array.size_modify

theorem Performs.shares (performs : Performs h made k) (inOrder : h.InOrder) (shares : h.Shares) :
    k.Shares := by
  cases performs with
  | kept | saved => exact shares
  | created built added =>
    rw [(addEditor_ok added).2]
    exact shares_store (shares_push shares inOrder _ _) _
  | loaded p =>
    cases gives : h.opened p with
    | none =>
      rw [reading_none gives]
      exact shares
    | some f =>
      rw [reading_some (read_of_opened gives)]
      refine shares_store ?_ _
      exact shares_push (h := h.withDisk _) shares ⟨inOrder.distinct, inOrder.filed,
        inOrder.bounded⟩ ⟨.ofFlow f, shared⟩ h.histories
  | dropped name => exact fun key n member => shares key n (List.mem_filter.mp member).1
  | asked n request => exact shares_change shares n fun _ => rfl
  | switched n value => exact shares_change shares n fun _ => rfl
  | recorded done =>
    obtain ⟨managers, stored, -⟩ := recordAll_keeps (h := h) done
    unfold Shares
    rw [managers, stored]
    exact shares

theorem history_push (nonempty : 0 < h.histories.size) (new : History) :
    (h.histories.push new).getD shared ⟨0, []⟩ = h.history shared := by
  have same : (h.histories.push new)[shared]? = h.histories[shared]? := by
    change (h.histories.push new)[0]? = h.histories[0]?
    rw [Array.getElem?_push_lt nonempty, Array.getElem?_eq_getElem nonempty]
  rw [Array.getD_eq_getD_getElem?, same, history, Array.getD_eq_getD_getElem?]

/-- The newest runs of all are the newest ones of those retained before and those that come
after. -/
theorem Recording.recordAll (recording : Recording runs h) (inOrder : h.InOrder)
    {done : List (Manager × Run)} (stored : ∀ p ∈ done, h.Stored p.1) :
    (h.recordAll done).history shared = ⟨h.settings.historySize.toNat,
      History.lastOf h.settings.historySize.toNat
        (List.range (runs ++ done.map Prod.snd).length)⟩ := by
  have all : ∀ p ∈ done, p.1.history = shared := by
    intro p member
    obtain ⟨name, n, named, there⟩ := stored p member
    exact recording.shares name n named p.1 there
  have size : h.runs.size = runs.length := by
    rw [← recording.all, Array.length_toList]
  have join : List.range runs.length ++ List.range' runs.length done.length =
      List.range (runs ++ done.map Prod.snd).length := by
    rw [List.length_append, List.length_map, List.range_eq_range', List.range_eq_range']
    have parts := List.range'_append_1 (s := 0) (m := runs.length) (n := done.length)
    rwa [Nat.zero_add] at parts
  rw [history_recordAll (inOrder.bounded shared), recording.newest, recordedIn_all all, size,
    History.lastOf_append, join]

theorem Recording.performs (recording : Recording runs h) (inOrder : h.InOrder)
    (performs : Performs h made k) : Recording (runs ++ made) k := by
  have shares := performs.shares inOrder recording.shares
  cases performs with
  | kept | dropped | asked | switched | saved =>
    rw [List.append_nil]
    exact ⟨shares, recording.nonempty, recording.all, recording.newest⟩
  | @created editor k' n built added =>
    obtain ⟨-, -, -, sameRuns, sameHistories⟩ := store_keeps k' n
    obtain ⟨-, pushed⟩ := addEditor_ok added
    have settings := (Performs.created built added).fixed.1
    have newest : (k'.store n).history shared = h.history shared := by
      unfold history
      rw [sameHistories, pushed]
      exact history_push recording.nonempty _
    refine ⟨shares, ?_, ?_, ?_⟩
    · rw [sameHistories, pushed]
      simp
    · rw [sameRuns, pushed, List.append_nil]
      exact recording.all
    · rw [newest, settings, List.append_nil]
      exact recording.newest
  | loaded p =>
    obtain ⟨-, settings, -, sameRuns, sameHistories⟩ := reading_keeps h p
    rw [List.append_nil]
    refine ⟨shares, ?_, ?_, ?_⟩
    · rw [sameHistories]
      exact recording.nonempty
    · rw [sameRuns]
      exact recording.all
    · unfold history
      rw [sameHistories, settings]
      exact recording.newest
  | recorded done stored =>
    obtain ⟨-, -, -, settings, -, all⟩ := recordAll_keeps (h := h) done
    refine ⟨shares, ?_, ?_, ?_⟩
    · rw [histories_recordAll]
      exact recording.nonempty
    · rw [all, recording.all]
    · rw [settings]
      exact recording.recordAll inOrder stored

theorem Live.recording (live : Live runs h) : Recording runs h := by
  induction live with
  | new disk made =>
    obtain ⟨first, sized, rfl⟩ := Except.exists_of_map_eq_ok made
    rw [ofSize_ok sized]
    exact ⟨nofun, Nat.one_pos, rfl, by simp [withDisk, history, shared, History.lastOf]⟩
  | performs live performs ih => exact ih.performs live.inOrder performs

end Recording

section Listing

/-- Runs with the numbers that they have on a host. -/
def named (runs : List Run) : List (RunId × Run) :=
  (List.range runs.length).zip runs

/-- The newest runs with their numbers. -/
def retained (size : Nat) (runs : List Run) : List (RunId × Run) :=
  History.lastOf size (named runs)

theorem runsAt_eq (all : h.runs.toList = runs) :
    h.runsAt (List.range runs.length) = named runs := by
  have look (id : RunId) : h.runs[id]? = runs[id]? := by
    rw [← all, Array.getElem?_toList]
  unfold runsAt named
  simp only [look]
  clear all look
  induction runs using List.reverseRecOn with
  | nil => rfl
  | append_singleton runs last ih =>
    have before : (List.range runs.length).filterMap
        (fun id => ((runs ++ [last])[id]?).map fun run => (id, run)) =
        (List.range runs.length).filterMap fun id => (runs[id]?).map fun run => (id, run) := by
      refine List.filterMap_congr fun id member => ?_
      rw [List.getElem?_append_left (List.mem_range.mp member)]
    rw [List.length_append, List.length_singleton, List.range_succ, List.filterMap_append, before,
      ih, List.zip_append (List.length_range ..)]
    simp

/-- Numbers of runs that there are give as many runs. -/
theorem runsAt_drop {ids : List RunId} (there : ∀ id ∈ ids, (h.runs[id]?).isSome) (n : Nat) :
    h.runsAt (ids.drop n) = (h.runsAt ids).drop n := by
  induction ids generalizing n with
  | nil => simp [runsAt]
  | cons id ids ih =>
    obtain ⟨first, others⟩ := List.forall_mem_cons.mp there
    obtain ⟨run, found⟩ := Option.isSome_iff_exists.mp first
    cases n with
    | zero => rfl
    | succ n =>
      have step : h.runsAt (id :: ids) = (id, run) :: h.runsAt ids := by
        simp [runsAt, found]
      rw [List.drop_succ_cons, ih others, step, List.drop_succ_cons]

theorem Recording.runsAt (recording : Recording runs h) :
    h.runsAt (h.history shared).runs = retained h.settings.historySize.toNat runs := by
  have size : h.runs.size = runs.length := by
    rw [← recording.all, Array.length_toList]
  have there : ∀ id ∈ List.range runs.length, (h.runs[id]?).isSome := by
    intro id member
    have bound : id < h.runs.size := size ▸ List.mem_range.mp member
    rw [Array.getElem?_eq_getElem bound]
    rfl
  rw [recording.newest, retained, History.lastOf, History.lastOf, runsAt_drop there,
    runsAt_eq recording.all]
  simp [named]

/-- The runs of one flow are listed in the order of all. -/
theorem runsAt_runsOf (history : History) (flow : String) :
    h.runsAt (h.runsOf history flow) =
      (h.runsAt history.runs).filter fun p => p.2.flow.name == flow := by
  unfold Host.runsAt runsOf
  induction history.runs with
  | nil => rfl
  | cons id ids ih =>
    cases found : h.runs[id]? with
    | none => simp [found, ih]
    | some run =>
      by_cases own : run.flow.name = flow
      · simp [found, own, ih]
      · simp [found, own, ih]

/-- What is known of the names that runs are given: they tell runs apart, and consist of hexadecimal
digits and hyphens. -/
structure Drawn (token : RunId → String) : Prop where
  injective : Function.Injective token
  nonempty : ∀ id, token id ≠ ""
  plain : ∀ id, ∀ c ∈ (token id).toList, c.isDigit = true ∨ c ∈ "abcdef-".toList

/-- A run that is listed is found by its name. -/
theorem runNamed?_listed (drawn : Drawn h.token) {history : History} {p : RunId × Run}
    (listed : p ∈ h.runsAt history.runs) : h.runNamed? history (h.token p.1) = some p := by
  obtain ⟨member, there⟩ := mem_runsAt.mp listed
  unfold runNamed?
  cases found : history.runs.find? fun id => h.token id == h.token p.1 with
  | none =>
    have none' := List.find?_eq_none.mp found p.1 member
    simp at none'
  | some id =>
    obtain rfl : id = p.1 := drawn.injective (by simpa using List.find?_some found)
    rw [Option.bind_some, there]
    rfl

theorem runNamed?_unlisted {history : History} {token : String}
    (unlisted : ∀ p ∈ h.runsAt history.runs, h.token p.1 ≠ token) :
    h.runNamed? history token = none := by
  unfold runNamed?
  cases found : history.runs.find? fun id => h.token id == token with
  | none => rfl
  | some id =>
    cases there : h.runs[id]? with
    | none => simp [there]
    | some run =>
      have member := List.mem_of_find?_eq_some found
      have same : h.token id = token := by simpa using List.find?_some found
      exact absurd same (unlisted (id, run) (mem_runsAt.mpr ⟨member, there⟩))

theorem nodup_retained {token : RunId → String} (drawn : Drawn token) (size : Nat)
    (runs : List Run) : ((retained size runs).map fun p => token p.1).Nodup := by
  have numbers : (named runs).map Prod.fst = List.range runs.length := by
    unfold named
    exact List.map_fst_zip (by simp)
  have distinct : ((named runs).map fun p => token p.1).Nodup := by
    have split : ((named runs).map fun p => token p.1) = (List.range runs.length).map token := by
      rw [← numbers, List.map_map]
      rfl
    rw [split]
    exact List.nodup_range.map drawn.injective
  exact distinct.sublist ((List.drop_sublist _ _).map _)

end Listing

end Host

namespace Service

open Host (creates retained sampleToken Drawn)

variable {h : Host} {runs : List Run}

section Lists

/-- The answer to a request for some runs: it has the reports of just these runs, unless one of them
cannot be written. -/
def Lists (token : RunId → String) (ps : List (RunId × Run)) (answer : Response) : Prop :=
  ∃ reports, List.Forall₂ (fun p report => p.2.json (token p.1) = .ok report) ps reports ∧
    if ∀ report ∈ reports, report.writingFault? = none then answer = .listing "runs" reports
    else answer.status = 500

/-- The answer to a request for one run. -/
def Shows (token : RunId → String) (p : RunId × Run) (answer : Response) : Prop :=
  ∃ report, p.2.json (token p.1) = .ok report ∧ Gives report answer

theorem writingFault?_listing {reports : List Json} :
    (Json.object [("runs", .array reports), ("total", .int reports.length)]).writingFault? = none ↔
      ∀ report ∈ reports, report.writingFault? = none := by
  have runs : ∀ c ∈ "runs".toList, Text.halfPair? c = none := Text.halfPair?_ascii (by decide)
  have total : ∀ c ∈ "total".toList, Text.halfPair? c = none := Text.halfPair?_ascii (by decide)
  simp only [Json.writingFault?_object, List.forall_mem_cons, List.not_mem_nil, IsEmpty.forall_iff,
    implies_true, and_true, Json.writingFault?_array, Json.writingFault?_int]
  exact (and_iff_left total).trans (and_iff_right runs)

/-- A run that can be said has a report. -/
theorem exists_json {r : Run} (sayable : r.Sayable) (label : String) :
    ∃ report, r.json label = .ok report :=
  Except.exists_map_eq_ok_iff.mpr (Run.exists_describe sayable label)

theorem shows_sendable {p : RunId × Run} (sayable : p.2.Sayable) (settings : Settings) :
    Shows h.token p ((Response.run h p.1 p.2).sendable settings) := by
  obtain ⟨report, told⟩ := exists_json sayable (h.token p.1)
  refine ⟨report, told, ?_⟩
  rw [Response.run, told]
  exact gives_sendable (finite_run told) settings

theorem lists_sendable {ps : List (RunId × Run)} (sayable : ∀ p ∈ ps, p.2.Sayable)
    (settings : Settings) : Lists h.token ps ((Response.runs h ps).sendable settings) := by
  obtain ⟨reports, told⟩ := List.exists_mapM_eq_ok fun p member =>
    exists_json (sayable p member) (h.token p.1)
  have each := (List.mapM_eq_ok_iff _ _ _).mp told
  have finite : Finite (.object [("runs", .array reports), ("total", .int reports.length)]) := by
    simp only [finite_object, List.forall_mem_cons, finite_array, finite_int, List.not_mem_nil,
      IsEmpty.forall_iff, implies_true, and_true]
    intro report member
    obtain ⟨p, -, told⟩ := List.exists_of_forall₂ each member
    exact finite_run told
  have gives := gives_sendable finite settings
  refine ⟨reports, each, ?_⟩
  rw [Response.runs, told]
  rwa [Gives, if_congr writingFault?_listing rfl rfl] at gives

end Lists

section Retained

theorem addressable_token {token : RunId → String} (drawn : Drawn token) (id : RunId) :
    Addressable (token id) := by
  refine ⟨⟨drawn.nonempty id, fun slash => ?_⟩, fun line => ?_⟩
  · exact absurd (drawn.plain id _ slash) (by decide)
  · have first : '\n' ∈ (token id).toList := by
      rw [line]
      decide
    exact absurd (drawn.plain id _ first) (by decide)

theorem sayable_retained (recording : Host.Recording runs h) (spoken : h.Spoken) :
    ∀ p ∈ retained h.settings.historySize.toNat runs, p.2.Sayable := by
  intro p listed
  rw [← recording.runsAt] at listed
  exact spoken.at (Host.mem_runsAt.mp listed).2

theorem listRuns_retained (recording : Host.Recording runs h) :
    listRuns h none = .runs h (retained h.settings.historySize.toNat runs) :=
  congrArg (Response.runs h) recording.runsAt

theorem listRuns_ofFlow (recording : Host.Recording runs h) {flow : String} (nonempty : flow ≠ "") :
    listRuns h (some flow) = .runs h ((retained h.settings.historySize.toNat runs).filter
      fun p => p.2.flow.name == flow) := by
  rw [← recording.runsAt, ← Host.runsAt_runsOf]
  unfold listRuns
  dsimp only
  split
  · contradiction
  · rename_i other
    exact absurd (Option.some.inj other) nonempty
  · rename_i same
    rw [Option.some.inj same]

theorem showRun_listed (recording : Host.Recording runs h) (drawn : Drawn h.token)
    {p : RunId × Run} (listed : p ∈ retained h.settings.historySize.toNat runs) :
    showRun h (h.token p.1) = .run h p.1 p.2 := by
  rw [← recording.runsAt] at listed
  rw [showRun, Host.runNamed?_listed drawn listed]

theorem showRun_unlisted (recording : Host.Recording runs h) {token : String}
    (unlisted : ∀ p ∈ retained h.settings.historySize.toNat runs, h.token p.1 ≠ token) :
    showRun h token = .notFound ("Run '" ++ token ++ "' not found") := by
  rw [← recording.runsAt] at unlisted
  rw [showRun, Host.runNamed?_unlisted unlisted]

/-- Whatever requests were served, the runs that are listed are the newest of all that were
performed, each found by a name of its own, and those of one flow are among them in the same order.
Integers of any size are written as they are. -/
theorem runs_retained (started : h.Started) (drawn : Drawn h.token) (requests : List Request)
    (body : Body) :
    let k := h.served requests
    let newest := retained h.settings.historySize.toNat (h.madeAll requests)
    (newest.map fun p => h.token p.1).Nodup ∧
    Lists h.token newest (serve k ⟨.get, .ofText "/runs/", body⟩).2 ∧
    (∀ p ∈ newest, Shows h.token p (serve k ⟨.get, .ofText (runPath (h.token p.1)), body⟩).2) ∧
    (∀ token, Addressable token → (∀ c ∈ token.toList, Text.halfPair? c = none) →
      (∀ p ∈ newest, h.token p.1 ≠ token) →
      (serve k ⟨.get, .ofText (runPath token), body⟩).2 =
        .notFound ("Run '" ++ token ++ "' not found")) ∧
    (∀ flow, flow ≠ "" → Lists h.token (newest.filter fun p => p.2.flow.name == flow)
      (serve k ⟨.get, .ofText (runsOfPath flow), body⟩).2) := by
  intro k newest
  have live := started.live.served requests
  have recording : Host.Recording (h.madeAll requests) k := live.recording
  have settings : k.settings = h.settings := Host.served_settings requests
  have token : k.token = h.token := Host.served_token requests
  have same : newest = retained k.settings.historySize.toNat (h.madeAll requests) := by
    rw [settings]
  have sayable := sayable_retained recording live.spoken
  have named : Drawn k.token := token ▸ drawn
  rw [same, ← token]
  refine ⟨Host.nodup_retained named _ _, ?_, fun p listed => ?_, fun name fits whole unlisted => ?_,
    fun flow nonempty => ?_⟩
  · rw [serve_asked (operation?_listRuns body), perform, listRuns_retained recording]
    exact lists_sendable sayable _
  · rw [serve_asked (operation?_showRun (addressable_token named p.1) body), perform,
      showRun_listed recording named listed]
    exact shows_sendable (sayable p listed) _
  · have text : ∀ c ∈ ("Run '" ++ name ++ "' not found").toList, Text.halfPair? c = none := by
      simp only [String.toList_append, List.forall_mem_append]
      exact ⟨⟨Text.halfPair?_ascii (by decide), whole⟩, Text.halfPair?_ascii (by decide)⟩
    rw [serve_asked (operation?_showRun fits body), perform, showRun_unlisted recording unlisted]
    exact sendable_notFound text
  · rw [serve_asked (operation?_listRunsOf flow body), perform, listRuns_ofFlow recording nonempty]
    exact lists_sendable (fun p listed => sayable p (List.mem_filter.mp listed).1) _

theorem toList_sampleToken (id : RunId) : (sampleToken id).toList =
    "61c4d2ae-5f0b-4c8e-9a37-".toList ++
      (List.replicate (12 - (Nat.toDigits 10 id).length) '0' ++ Nat.toDigits 10 id) :=
  String.toList_ofList.trans (List.append_assoc ..)

theorem sampleToken_injective : Function.Injective sampleToken := by
  intro a b same
  have digits (n : RunId) : Text.ofDigits (Text.values
      (List.replicate (12 - (Nat.toDigits 10 n).length) '0' ++ Nat.toDigits 10 n)) = n := by
    rw [Text.values_append, Text.ofDigits_append, Text.values_zeros, Text.ofDigits_zeros,
      Nat.zero_mul, Nat.zero_add]
    exact Text.ofDigits_numeral n
  have ends := congrArg String.toList same
  rw [toList_sampleToken, toList_sampleToken] at ends
  rw [← digits a, List.append_cancel_left ends, digits b]

theorem drawn_sampleToken : Drawn sampleToken where
  injective := sampleToken_injective
  nonempty id empty := by
    have texts := congrArg String.toList empty
    rw [toList_sampleToken] at texts
    cases texts
  plain id c inner := by
    rw [toList_sampleToken, List.mem_append, List.mem_append] at inner
    obtain fixed | zero | digit := inner
    · have all : ("61c4d2ae-5f0b-4c8e-9a37-".toList.all fun c =>
          c.isDigit || "abcdef-".toList.contains c) = true := by decide +kernel
      have both := List.all_eq_true.mp all c fixed
      rwa [Bool.or_eq_true, List.contains_iff_mem] at both
    · rw [(List.mem_replicate.mp zero).2]
      exact .inl rfl
    · exact .inl (Text.isDigit_toDigits digit)

/-- Requests that create a flow and run it once for each value of its variable. -/
def runsOn (values : List String) : List Request :=
  creates "f" :: values.map fun value =>
    ⟨.post, .ofText "/flows/f/run", .json (.object [("variables", .object [("a", .text value)])])⟩

/-- Of two runs on a host that retains one, the second is listed. -/
theorem runs_retained_second :
    ∃ h : Host, h.Started ∧ Drawn h.token ∧ ∃ p q report,
      h.madeAll (runsOn ["x", "y"]) = [p, q] ∧ q.json (h.token 1) = .ok report ∧
      (serve (h.served (runsOn ["x", "y"])) ⟨.get, .ofText "/runs/", .empty⟩).2 =
        .listing "runs" [report] := by
  have facts : ((Host.startUp Host.quiet).toOption.map fun h =>
      (h.settings.historySize, (h.madeAll (runsOn ["x", "y"])).length,
        (retained 1 (h.madeAll (runsOn ["x", "y"]))).map fun p =>
          ((p.2.json (sampleToken p.1)).toOption.map fun report => report.writingFault?))) =
      some (1, 2, [some none]) := by decide +kernel
  obtain ⟨h, up, facts⟩ := Option.map_eq_some_iff.mp facts
  simp only [Prod.mk.injEq] at facts
  obtain ⟨size, two, writable⟩ := facts
  obtain ⟨started, token⟩ := Host.started_quiet up
  have drawn : Drawn h.token := token ▸ drawn_sampleToken
  obtain ⟨-, ⟨reports, told, lists⟩, -⟩ := runs_retained started drawn (runsOn ["x", "y"]) .empty
  obtain ⟨p, q, both⟩ := List.length_eq_two.mp two
  have second : retained 1 [p, q] = [(1, q)] := rfl
  rw [both, second] at writable
  rw [size, both, Int.toNat_one, second] at told
  obtain ⟨report, others, first, ends, rfl⟩ := List.forall₂_cons_left_iff.mp told
  obtain rfl : others = [] := List.forall₂_nil_left_iff.mp ends
  rw [← token, List.map_singleton, first] at writable
  have fine : report.writingFault? = none := by simpa [Except.toOption] using writable
  rw [if_pos (by simpa using fine)] at lists
  exact ⟨h, started, drawn, p, q, report, both, first, lists⟩

/-- A run with half a pair in a variable keeps the runs from being listed. -/
theorem run_unlisted_halfPair :
    ∃ h : Host, h.Started ∧ Drawn h.token ∧
      let requests := runsOn [String.singleton (Text.standIn 0xd800)]
      (retained h.settings.historySize.toNat (h.madeAll requests)).length = 1 ∧
        (serve (h.served requests) ⟨.get, .ofText "/runs/", .empty⟩).2.status = 500 := by
  have facts : ((Host.startUp Host.quiet).toOption.map fun h =>
      let requests := runsOn [String.singleton (Text.standIn 0xd800)]
      ((retained h.settings.historySize.toNat (h.madeAll requests)).length,
        (serve (h.served requests) ⟨.get, .ofText "/runs/", .empty⟩).2.status)) =
      some (1, 500) := by decide +kernel
  obtain ⟨h, up, facts⟩ := Option.map_eq_some_iff.mp facts
  simp only [Prod.mk.injEq] at facts
  obtain ⟨started, token⟩ := Host.started_quiet up
  exact ⟨h, started, token ▸ drawn_sampleToken, facts⟩

end Retained

end Service

end EventFlow
