/-!
The name of the file that holds a flow.
-/

namespace EventFlow.Files

/-- The characters that stay as they are in a file name. -/
def isPlain (c : Char) : Bool :=
  ('A' ≤ c && c ≤ 'Z') || ('a' ≤ c && c ≤ 'z') || ('0' ≤ c && c ≤ '9') || c = '_' || c = '.' ||
    c = '-'

def plainChars (cs : List Char) : List Char :=
  cs.map fun c => if isPlain c then c else '_'

/-- The file that a flow of the given name is stored in. -/
def fileName (flow : String) : String :=
  String.ofList (plainChars flow.toList ++ ".json".toList)

end EventFlow.Files
