import EventFlow.Node.Catalog

/-!
The node types that every catalog starts with: events, arithmetic, a condition, variables and
messages.
-/

namespace EventFlow.NodeType

/-- An event type: its outputs are the payload, and it has one branch. -/
def event (key title description : String) (outputs : List Port) : NodeType where
  key := key
  label := key
  layout := ⟨title, description, [], outputs, [.branch "next" "First node to run"]⟩
  isEvent := true
  computation := .idle

def dummy : NodeType :=
  event "DummyNode" "Dummy event" "Placeholder start node without payload" []

def trigger : NodeType :=
  event "TriggerNode" "Trigger" "Started manually or by another system" [
    ⟨"source", "Who or what triggered the flow", "text"⟩,
    ⟨"parameter", "Free-form trigger parameter", "any"⟩]

def entityDamage : NodeType :=
  event "EntityDamageEventNode" "Entity damaged" "Started when an entity takes damage" [
    ⟨"victim", "Entity that was damaged", "text"⟩,
    ⟨"amount", "Damage dealt", "number"⟩,
    ⟨"damage_type", "Kind of damage", "text"⟩,
    ⟨"attacker", "Entity responsible for the damage", "text"⟩,
    ⟨"source", "Direct source of the damage", "text"⟩,
    ⟨"position", "Where the victim was hit", "vec3"⟩]

def entityDeath : NodeType :=
  event "EntityDeathEventNode" "Entity died" "Started when an entity dies" [
    ⟨"victim", "Entity that died", "text"⟩,
    ⟨"damage_type", "Kind of the fatal damage", "text"⟩,
    ⟨"attacker", "Entity responsible for the death", "text"⟩,
    ⟨"source", "Direct source of the fatal damage", "text"⟩,
    ⟨"position", "Where the entity died", "vec3"⟩,
    ⟨"message", "Death message", "text"⟩]

def projectileHit : NodeType :=
  event "ProjectileHitEntityEventNode" "Projectile hit entity"
    "Started when a projectile hits an entity" [
    ⟨"projectile", "Projectile that hit", "text"⟩,
    ⟨"shooter", "Entity that fired the projectile", "text"⟩,
    ⟨"entity", "Entity that was hit", "text"⟩,
    ⟨"position", "Where the projectile hit", "vec3"⟩,
    ⟨"distance", "Distance between shooter and hit entity", "number"⟩]

def addition : NodeType where
  key := "AdditionNode"
  label := "AdditionNode"
  layout := ⟨"Addition", "Adds two numbers",
    [⟨"a", "First operand", "number"⟩, ⟨"b", "Second operand", "number"⟩],
    [⟨"sum", "a + b", "number"⟩],
    [.branch "next" "Runs after the addition"]⟩
  isEvent := false
  computation := .addition

def binary : NodeType where
  key := "BinaryArithmeticNode"
  label := "BinaryArithmeticNode"
  layout := ⟨"Binary operation", "Computes a <op> b",
    [⟨"a", "Left operand", "any"⟩, ⟨"b", "Right operand", "any"⟩,
      ⟨"operator", "Operator such as +, *, ==, max or contains", "text"⟩],
    [⟨"result", "Result of the operation", "any"⟩],
    [.branch "next" "Runs after the operation"]⟩
  isEvent := false
  computation := .binary

def unary : NodeType where
  key := "UnaryArithmeticNode"
  label := "UnaryArithmeticNode"
  layout := ⟨"Unary operation", "Computes <op> a",
    [⟨"a", "Operand", "any"⟩, ⟨"operator", "Operator such as -, abs, sqrt, not or len", "text"⟩],
    [⟨"result", "Result of the operation", "any"⟩],
    [.branch "next" "Runs after the operation"]⟩
  isEvent := false
  computation := .unary

def condition : NodeType where
  key := "IfConditionNode"
  label := "IfConditionNode"
  layout := ⟨"If", "Chooses a branch from a boolean condition",
    [⟨"condition", "Value deciding the branch", "boolean"⟩],
    [],
    [.branch "true" "Taken when the condition is true",
      .branch "false" "Taken when the condition is false"]⟩
  isEvent := false
  computation := .condition

def getVariable : NodeType where
  key := "GetVariableNode"
  label := "GetVariableNode"
  layout := ⟨"Get variable", "Reads a variable of the current run",
    [⟨"name", "Variable name", "text"⟩],
    [⟨"value", "Current value, null if unset", "any"⟩],
    [.branch "next" "Runs after the read"]⟩
  isEvent := false
  computation := .getVariable

def setVariable : NodeType where
  key := "SetVariableNode"
  label := "SetVariableNode"
  layout := ⟨"Set variable", "Writes a variable of the current run",
    [⟨"name", "Variable name", "text"⟩, ⟨"value", "New value", "any"⟩],
    [⟨"previous", "Value before the write, null if unset", "any"⟩],
    [.branch "next" "Runs after the write"]⟩
  isEvent := false
  computation := .setVariable

def broadcast : NodeType where
  key := "BroadcastMessageNode"
  label := "BroadcastMessageNode"
  layout := ⟨"Broadcast message", "Sends a message through the host",
    [⟨"receiver", "Who should get the message (default: all)", "text"⟩,
      ⟨"channel", "Where the message is shown (default: chat)", "text"⟩,
      ⟨"message", "Message text", "any"⟩],
    [],
    [.branch "next" "Runs after the message is sent"]⟩
  isEvent := false
  computation := .broadcast

end EventFlow.NodeType

namespace EventFlow.Catalog

open NodeType

/-- The types that are always there. -/
def standard : Catalog :=
  [dummy, trigger, entityDamage, entityDeath, projectileHit, addition, NodeType.binary,
    NodeType.unary, condition, getVariable, setVariable, broadcast]

end EventFlow.Catalog
