import EventFlow.Host.Countdown
import EventFlow.Host.Token
import EventFlow.Json.Printer
import EventFlow.Service.Report

/-!
The answers of the service.
-/

namespace EventFlow.Service

/-- An answer; `location` is where to ask instead. -/
structure Response where
  status : Nat
  body : Option Json
  location : Option String
  deriving Repr

namespace Response

def ofJson (status : Nat) (body : Json) : Response := ⟨status, some body, none⟩

def ok (body : Json) : Response := ofJson 200 body

def created (body : Json) : Response := ofJson 201 body

def noContent : Response := ⟨204, none, none⟩

def redirect (address : String) : Response := ⟨307, none, some address⟩

/-- An answer that only says what is wrong. -/
def detail (status : Nat) (text : String) : Response :=
  ofJson status (.object [("detail", .text text)])

def notFound (text : String) : Response := detail 404 text

def keyJson : Schema.Key → Json
  | .field name => .text name
  | .item index => .int index

def issueJson (issue : Schema.Issue) : Json :=
  .object ([
    ("type", .text issue.problem.word),
    ("loc", .array (issue.location.map keyJson)),
    ("msg", .text issue.problem.sentence),
    ("input", issue.input)] ++
    (issue.problem.bound?.map fun (name, bound) => ("ctx", .object [(name, .int bound)])).toList)

/-- A request that does not fit its operation. -/
def invalid (issues : List Schema.Issue) : Response :=
  ofJson 422 (.object [("detail", .array (issues.map issueJson))])

/-- An operation that broke off; why is told in debug mode only. -/
def internal (settings : Settings) (text : String) : Response :=
  ofJson 500 (.object [
    ("error", .text "Internal Server Error"),
    ("detail", .text (if settings.debug then text else "An unexpected error occurred"))])

def overview (settings : Settings) : Response :=
  ok (.object [
    ("name", .text settings.appName),
    ("version", .text settings.appVersion),
    ("description", .text "A visual logic-flow execution engine"),
    ("docs", .text "/docs"),
    ("redoc", .text "/redoc"),
    ("endpoints", .object [
      ("flows", .text "/flows"),
      ("nodes", .text "/nodes"),
      ("runs", .text "/runs"),
      ("events", .text "/events/\x7bevent_type\x7d")]),
    ("demo_flow", .text Countdown.flowName)])

def health (h : Host) : Response :=
  ok (.object [
    ("status", .text "healthy"),
    ("version", .text h.settings.appVersion),
    ("flows_count", .int h.stored.length),
    ("runs_count", .int (h.history Host.shared).runs.length)])

/-- Things under the name of their kind, with their number. -/
def listing (kind : String) (items : List Json) : Response :=
  ok (.object [(kind, .array items), ("total", .int items.length)])

/-- An answer with a report, which is an internal error if there are no words for it. -/
def told (settings : Settings) (answer : Json → Response) : Except String Json → Response
  | .ok report => answer report
  | .error text => internal settings text

def run (h : Host) (id : RunId) (run : Run) : Response :=
  told h.settings ok ((run.json (h.token id)).mapError TextError.message)

def runs (h : Host) (runs : List (RunId × Run)) : Response :=
  match runs.mapM fun p => p.2.json (h.token p.1) with
  | .ok reports => listing "runs" reports
  | .error error => internal h.settings error.message

def info (settings : Settings) (answer : Json → Response) (e : Editor) : Response :=
  told settings answer (e.infoJson.mapError WriteError.message)

/-- What an edit led to. -/
def edited (e : Editor) (applied : Bool) (node : Option Int) : Response :=
  ok (.object [
    ("applied", .bool applied),
    ("node_id", .ofOption .int node),
    ("flow", e.summaryJson)])

/-- Whether a value is a float that JSON has no numeral for. -/
def isBoundless : Json → Bool
  | .float x => !Number.isFinite x
  | _ => false

/-- The answer that is sent: one whose body is no JSON text is a failure of the service. -/
def sendable (r : Response) (settings : Settings) : Response :=
  match r.body with
  | none => r
  | some body =>
    if body.leaves.any isBoundless then
      internal settings "Out of range float values are not JSON compliant"
    else
      match if r.status < 300 then body.writingFault? else Json.encodingFault? body.compact with
      | some text => internal settings text
      | none => r

end Response

end EventFlow.Service
