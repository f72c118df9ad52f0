import EventFlow.Service.Effect

/-!
The service: a request is answered by the first of its path's routes that has its method, and the
operation it leads to is carried out on the host.
-/

namespace EventFlow.Service

structure Request where
  method : Method
  target : Target
  body : Body
  deriving Repr

def Request.ofText (method target body : String) : Request :=
  ⟨.ofText method, .ofText target, .ofText body⟩

/-- The name of the host in addresses. -/
def hostName : String := "test"

/-- The answer to a request that no operation fits: another method is needed, a slash at the end is
missing or too much, or there is nothing at all. -/
def unrouted (target : Target) : Response :=
  if !(routes target).isEmpty then .detail 405 "Method Not Allowed"
  else if target.path != ['/'] && !(routes target.toggleSlash).isEmpty then
    .redirect (target.toggleSlash.address hostName)
  else .notFound "Not Found"

/-- The operation that a request asks for on a route, or the answer that it gets instead. -/
def Route.resolve (route : Route) (r : Request) : Except Response Operation :=
  match route.readsBody, r.body with
  | true, .malformed => .error (.invalid [⟨[.field "body"], .jsonInvalid, .object []⟩])
  | true, .unreadable => .error (.detail 400 "There was an error parsing the body")
  | _, body => (route.operation r.target.parameters body.content?).mapError .invalid

/-- What a request does and what it is answered. -/
def answer (h : Host) (r : Request) : Host × Response :=
  match (routes r.target).find? fun route => route.method = r.method with
  | none => (h, unrouted r.target)
  | some route =>
    match route.resolve r with
    | .error response => (h, response)
    | .ok operation => perform h operation

/-- Serves a request: what it does stays done even if the answer cannot be sent. -/
def serve (h : Host) (r : Request) : Host × Response :=
  let (h, response) := answer h r
  (h, response.sendable h.settings)

end EventFlow.Service
