import Mathlib.Algebra.Ring.Defs
import Mathlib.Tactic.Common

/-!
# Rotations from quaternions

Vectors, quaternions and the nine-entry matrix of a quaternion, over any ring.
-/

namespace HakRobot.Geometry

variable {K : Type}

/-- A vector, or a point. -/
@[ext] structure Vec3 (K : Type) where
  x : K
  y : K
  z : K
deriving DecidableEq, Repr

/-- A quaternion with its scalar part last. -/
@[ext] structure Quat (K : Type) where
  x : K
  y : K
  z : K
  w : K
deriving DecidableEq, Repr

/-- The rows of a 3 × 3 matrix. -/
abbrev Mat3 (K : Type) := Vec3 (Vec3 K)

section Ring

variable [Ring K]

instance : Add (Vec3 K) := ⟨fun u v => ⟨u.x + v.x, u.y + v.y, u.z + v.z⟩⟩

instance : Sub (Vec3 K) := ⟨fun u v => ⟨u.x - v.x, u.y - v.y, u.z - v.z⟩⟩

/-- The scalar product. -/
def Vec3.dot (u v : Vec3 K) : K := u.x * v.x + u.y * v.y + u.z * v.z

/-- The product of a matrix and a vector. -/
def Mat3.apply (m : Mat3 K) (v : Vec3 K) : Vec3 K := ⟨m.x.dot v, m.y.dot v, m.z.dot v⟩

/-- The matrix of a quaternion. -/
def Quat.matrix (q : Quat K) : Mat3 K where
  x := ⟨1 - 2 * (q.y ^ 2 + q.z ^ 2), 2 * (q.x * q.y - q.z * q.w), 2 * (q.x * q.z + q.y * q.w)⟩
  y := ⟨2 * (q.x * q.y + q.z * q.w), 1 - 2 * (q.x ^ 2 + q.z ^ 2), 2 * (q.y * q.z - q.x * q.w)⟩
  z := ⟨2 * (q.x * q.z - q.y * q.w), 2 * (q.y * q.z + q.x * q.w), 1 - 2 * (q.x ^ 2 + q.y ^ 2)⟩

end Ring

end HakRobot.Geometry
