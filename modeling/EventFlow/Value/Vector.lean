import EventFlow.Value.Scalar

/-!
Vectors of two and three numbers.
-/

namespace EventFlow

structure Vec2 where
  x : Scalar
  y : Scalar
  deriving DecidableEq, Repr

structure Vec3 where
  x : Scalar
  y : Scalar
  z : Scalar
  deriving DecidableEq, Repr

namespace Vec2

def add (a b : Vec2) : Vec2 := ⟨a.x + b.x, a.y + b.y⟩

def sub (a b : Vec2) : Vec2 := ⟨a.x - b.x, a.y - b.y⟩

def neg (a : Vec2) : Vec2 := ⟨-a.x, -a.y⟩

def scale (a : Vec2) (factor : Scalar) : Vec2 := ⟨a.x * factor, a.y * factor⟩

def dot (a b : Vec2) : Scalar := a.x * b.x + a.y * b.y

def length (a : Vec2) : Scalar := Number.hypotenuse a.x.toFloat a.y.toFloat

/-- The vector of length one in the same direction; the zero vector stays. -/
def normalize (a : Vec2) : Vec2 :=
  if a.length == 0 then ⟨0, 0⟩ else a.scale (1 / a.length)

/-- Equality of numbers, so that the two zeros are equal. -/
def same (a b : Vec2) : Bool := a.x == b.x && a.y == b.y

end Vec2

namespace Vec3

def add (a b : Vec3) : Vec3 := ⟨a.x + b.x, a.y + b.y, a.z + b.z⟩

def sub (a b : Vec3) : Vec3 := ⟨a.x - b.x, a.y - b.y, a.z - b.z⟩

def neg (a : Vec3) : Vec3 := ⟨-a.x, -a.y, -a.z⟩

def scale (a : Vec3) (factor : Scalar) : Vec3 := ⟨a.x * factor, a.y * factor, a.z * factor⟩

def dot (a b : Vec3) : Scalar := a.x * b.x + a.y * b.y + a.z * b.z

def cross (a b : Vec3) : Vec3 :=
  ⟨a.y * b.z - a.z * b.y, a.z * b.x - a.x * b.z, a.x * b.y - a.y * b.x⟩

def length (a : Vec3) : Scalar := (a.dot a).sqrt

/-- The vector of length one in the same direction; the zero vector stays. -/
def normalize (a : Vec3) : Vec3 :=
  if a.length == 0 then ⟨0, 0, 0⟩ else a.scale (1 / a.length)

/-- The vector without its third component. -/
def flat (a : Vec3) : Vec2 := ⟨a.x, a.y⟩

/-- Equality of numbers, so that the two zeros are equal. -/
def same (a b : Vec3) : Bool := a.x == b.x && a.y == b.y && a.z == b.z

end Vec3

end EventFlow
