import EventFlow.Log
import EventFlow.Node.Basic

/-!
The catalog of node types, in the order of their registration. Nodes are made and copied through it,
so a copy has the type that its key stands for at that time.
-/

namespace EventFlow

/-- A type key that the catalog does not hold. -/
structure UnknownType where
  key : String
  deriving DecidableEq, Repr

def UnknownType.message (e : UnknownType) : String :=
  "Node type '" ++ e.key ++ "' not found in registry"

/-- Node types with distinct keys. -/
abbrev Catalog := List NodeType

namespace Catalog

/-- The catalog that counts where a caller may give its own and another one stands by. An empty
catalog is taken for none. -/
def given (standing : Catalog) : Option Catalog → Catalog
  | none => standing
  | some own => if own.isEmpty then standing else own

def find? (c : Catalog) (key : String) : Option NodeType :=
  List.find? (fun t => t.key == key) c

def has (c : Catalog) (key : String) : Bool :=
  (c.find? key).isSome

def isEvent (c : Catalog) (key : String) : Bool :=
  match c.find? key with
  | some t => t.isEvent
  | none => false

/-- The catalog with a type added; a type with the same key is replaced in its place. -/
def add : Catalog → NodeType → Catalog
  | [], type => [type]
  | t :: rest, type => if t.key = type.key then type :: rest else t :: add rest type

/-- What adding a type reports. -/
def addLog (c : Catalog) (type : NodeType) : Log :=
  if c.has type.key then [warning ("Replacing node type: " ++ type.key)] else []

def remove (c : Catalog) (key : String) : Catalog :=
  c.filter fun t => t.key != key

def keys (c : Catalog) : List String :=
  c.map NodeType.key

def make (c : Catalog) (key : String) (id : Int) (name : String) : Except UnknownType Node :=
  match c.find? key with
  | some type => .ok (Node.fresh type id name)
  | none => .error ⟨key⟩

/-- A copy of a node under the type that its key stands for now. -/
def copy (c : Catalog) (node : Node) : Except UnknownType Node :=
  match c.find? node.type.key with
  | some type => .ok ⟨node.id, type, node.name, node.inputs, node.next⟩
  | none => .error ⟨node.type.key⟩

end Catalog

end EventFlow
