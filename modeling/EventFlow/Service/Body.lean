import EventFlow.Json.Encoding
import EventFlow.Json.Reader

/-!
The bodies of requests. A body is JSON text, which may hold half a pair. One that is beyond the
limits of reading, or no text at all, is told apart from one that breaks the grammar.
-/

namespace EventFlow.Service

inductive Body where
  | empty
  | malformed
  | unreadable
  | json (value : Json)
  deriving Repr

namespace Body

/-- How bodies are read. -/
def rules : Json.Rules := ⟨900, false⟩

def ofBytes (bytes : List UInt8) : Body :=
  if bytes.isEmpty then empty
  else
    match (Json.textOfBytes? bytes).map (Json.read rules) with
    | some (.ok value) => json value
    | some (.error .malformed) => malformed
    | some (.error .excessive) => unreadable
    | none => unreadable

def ofText (text : String) : Body :=
  ofBytes text.toUTF8.toList

/-- What a body holds, if anything. -/
def content? : Body → Option Json
  | json value => some value
  | _ => none

end Body

end EventFlow.Service
