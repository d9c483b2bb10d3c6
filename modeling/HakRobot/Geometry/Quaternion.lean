import HakRobot.Geometry.Rotation
import Mathlib.Algebra.Order.Ring.Basic
import Mathlib.Algebra.Quaternion
import Mathlib.Tactic.LinearCombination
import Mathlib.Tactic.Linarith

/-!
# Composing rotations

The quaternions of this development as Mathlib's, so that composition is
associativity there. For unit quaternions over an ordered ring:

* `matrix_mul_apply`: the matrix of a product turns as the two matrices do;
* `apply_eq_self_iff`: a turn fixes exactly the vectors along its axis;
* `apply_eq_iff`: two orientations agree on a vector exactly when the turn from
  one to the other fixes it.
-/

namespace HakRobot.Geometry

variable {K : Type}

section Ring

variable [CommRing K]

instance : Zero (Vec3 K) := ⟨⟨0, 0, 0⟩⟩

@[simp] theorem Vec3.zero_x : (0 : Vec3 K).x = 0 := rfl

@[simp] theorem Vec3.zero_y : (0 : Vec3 K).y = 0 := rfl

@[simp] theorem Vec3.zero_z : (0 : Vec3 K).z = 0 := rfl

@[simp] theorem Vec3.add_eq (u v : Vec3 K) : u + v = ⟨u.x + v.x, u.y + v.y, u.z + v.z⟩ := rfl

@[simp] theorem Vec3.sub_eq (u v : Vec3 K) : u - v = ⟨u.x - v.x, u.y - v.y, u.z - v.z⟩ := rfl

/-- The vector product. -/
def Vec3.cross (u v : Vec3 K) : Vec3 K :=
  ⟨u.y * v.z - u.z * v.y, u.z * v.x - u.x * v.z, u.x * v.y - u.y * v.x⟩

theorem Vec3.sub_eq_sub_iff {p u v : Vec3 K} : p - u = p - v ↔ u = v := by
  simp [Vec3.ext_iff]

theorem Vec3.sub_add_eq_iff {p u v : Vec3 K} : p - u + v = p ↔ u = v := by
  have h : ∀ a b c : K, a - b + c = a ↔ b = c := by
    intro a b c
    rw [sub_add_eq_add_sub, sub_eq_iff_eq_add, add_right_inj, eq_comm]
  simp only [Vec3.ext_iff, Vec3.add_eq, Vec3.sub_eq, h]

/-- A vector as a quaternion without scalar part. -/
def Vec3.toQuaternion (v : Vec3 K) : Quaternion K := ⟨0, v.x, v.y, v.z⟩

@[simp] theorem Vec3.re_toQuaternion (v : Vec3 K) : v.toQuaternion.re = 0 := rfl

@[simp] theorem Vec3.imI_toQuaternion (v : Vec3 K) : v.toQuaternion.imI = v.x := rfl

@[simp] theorem Vec3.imJ_toQuaternion (v : Vec3 K) : v.toQuaternion.imJ = v.y := rfl

@[simp] theorem Vec3.imK_toQuaternion (v : Vec3 K) : v.toQuaternion.imK = v.z := rfl

theorem Vec3.toQuaternion_injective : Function.Injective (Vec3.toQuaternion (K := K)) := by
  intro u v h
  exact Vec3.ext (congrArg (·.imI) h) (congrArg (·.imJ) h) (congrArg (·.imK) h)

namespace Quat

/-- The same quaternion in Mathlib, where the scalar part comes first. -/
def toQuaternion (q : Quat K) : Quaternion K := ⟨q.w, q.x, q.y, q.z⟩

@[simp] theorem re_toQuaternion (q : Quat K) : q.toQuaternion.re = q.w := rfl

@[simp] theorem imI_toQuaternion (q : Quat K) : q.toQuaternion.imI = q.x := rfl

@[simp] theorem imJ_toQuaternion (q : Quat K) : q.toQuaternion.imJ = q.y := rfl

@[simp] theorem imK_toQuaternion (q : Quat K) : q.toQuaternion.imK = q.z := rfl

/-- The product: the turn `r` in the frame that `q` leads to. -/
instance : Mul (Quat K) where
  mul q r :=
    { x := q.w * r.x + q.x * r.w + q.y * r.z - q.z * r.y
      y := q.w * r.y - q.x * r.z + q.y * r.w + q.z * r.x
      z := q.w * r.z + q.x * r.y - q.y * r.x + q.z * r.w
      w := q.w * r.w - q.x * r.x - q.y * r.y - q.z * r.z }

/-- The turn back. -/
def conj (q : Quat K) : Quat K := ⟨-q.x, -q.y, -q.z, q.w⟩

/-- The vector part, which lies along the axis of the turn. -/
def axis (q : Quat K) : Vec3 K := ⟨q.x, q.y, q.z⟩

/-- A turn about `a`. For a unit quaternion and a vector `a` of length one, `t`
and `c` are the sine and the cosine of half the angle. -/
def about (a : Vec3 K) (t c : K) : Quat K := ⟨t * a.x, t * a.y, t * a.z, c⟩

/-- A quaternion of length one. -/
def Unit (q : Quat K) : Prop := q.x ^ 2 + q.y ^ 2 + q.z ^ 2 + q.w ^ 2 = 1

instance [DecidableEq K] (q : Quat K) : Decidable q.Unit := inferInstanceAs (Decidable (_ = _))

theorem toQuaternion_mul (q r : Quat K) :
    (q * r).toQuaternion = q.toQuaternion * r.toQuaternion := by
  apply QuaternionAlgebra.ext
  · exact (Quaternion.re_mul q.toQuaternion r.toQuaternion).symm
  · exact (Quaternion.imI_mul q.toQuaternion r.toQuaternion).symm
  · exact (Quaternion.imJ_mul q.toQuaternion r.toQuaternion).symm
  · exact (Quaternion.imK_mul q.toQuaternion r.toQuaternion).symm

theorem toQuaternion_conj (q : Quat K) : q.conj.toQuaternion = star q.toQuaternion := by
  apply QuaternionAlgebra.ext <;> simp [conj]

theorem unit_iff {q : Quat K} : q.Unit ↔ Quaternion.normSq q.toQuaternion = 1 := by
  rw [Quaternion.normSq_def', Unit]
  simp only [re_toQuaternion, imI_toQuaternion, imJ_toQuaternion, imK_toQuaternion]
  rw [add_comm _ (q.w ^ 2), ← add_assoc, ← add_assoc]

variable {q r : Quat K}

theorem Unit.conj (hq : q.Unit) : q.conj.Unit := by
  simpa [Unit, Quat.conj] using hq

theorem Unit.mul (hq : q.Unit) (hr : r.Unit) : (q * r).Unit := by
  rw [unit_iff, toQuaternion_mul, map_mul, unit_iff.mp hq, unit_iff.mp hr, mul_one]

/-- What the matrix does, as a product of quaternions. -/
theorem toQuaternion_apply (hq : q.Unit) (v : Vec3 K) :
    (q.matrix.apply v).toQuaternion =
      q.toQuaternion * v.toQuaternion * star q.toQuaternion := by
  have h : q.x ^ 2 + q.y ^ 2 + q.z ^ 2 + q.w ^ 2 = 1 := hq
  apply QuaternionAlgebra.ext <;>
    simp only [Mat3.apply, matrix, Vec3.dot, re_toQuaternion, imI_toQuaternion,
      imJ_toQuaternion, imK_toQuaternion, Vec3.re_toQuaternion, Vec3.imI_toQuaternion,
      Vec3.imJ_toQuaternion, Vec3.imK_toQuaternion, Quaternion.re_mul, Quaternion.imI_mul,
      Quaternion.imJ_mul, Quaternion.imK_mul, Quaternion.re_star, Quaternion.imI_star,
      Quaternion.imJ_star, Quaternion.imK_star]
  · ring
  · linear_combination -v.x * h
  · linear_combination -v.y * h
  · linear_combination -v.z * h

theorem matrix_mul_apply (hq : q.Unit) (hr : r.Unit) (v : Vec3 K) :
    (q * r).matrix.apply v = q.matrix.apply (r.matrix.apply v) := by
  apply Vec3.toQuaternion_injective
  rw [toQuaternion_apply (hq.mul hr), toQuaternion_apply hq, toQuaternion_apply hr,
    toQuaternion_mul, star_mul]
  simp only [mul_assoc]

theorem conj_apply_apply (hq : q.Unit) (v : Vec3 K) :
    q.conj.matrix.apply (q.matrix.apply v) = v := by
  have hback : star q.toQuaternion * q.toQuaternion = 1 := by
    rw [Quaternion.star_mul_self, unit_iff.mp hq, Quaternion.coe_one]
  apply Vec3.toQuaternion_injective
  rw [toQuaternion_apply hq.conj, toQuaternion_apply hq, toQuaternion_conj, star_star]
  calc star q.toQuaternion * (q.toQuaternion * v.toQuaternion * star q.toQuaternion) *
          q.toQuaternion
      = star q.toQuaternion * q.toQuaternion * v.toQuaternion *
          (star q.toQuaternion * q.toQuaternion) := by simp only [mul_assoc]
    _ = v.toQuaternion := by rw [hback, one_mul, mul_one]

theorem apply_injective (hq : q.Unit) : Function.Injective q.matrix.apply := by
  intro u v h
  rw [← conj_apply_apply hq u, h, conj_apply_apply hq]

/-- What is missing to a fixed vector. -/
theorem apply_sub_self (r : Quat K) (v : Vec3 K) :
    v.dot (r.matrix.apply v - v) = -2 * (r.axis.cross v).dot (r.axis.cross v) := by
  simp only [Vec3.dot, Vec3.sub_eq, Mat3.apply, matrix, Vec3.cross, axis]
  ring

end Quat

end Ring

section Ordered

variable [Field K] [LinearOrder K] [IsStrictOrderedRing K]

theorem Vec3.dot_self_eq_zero {v : Vec3 K} (h : v.dot v = 0) : v = 0 := by
  have hx := mul_self_nonneg v.x
  have hy := mul_self_nonneg v.y
  have hz := mul_self_nonneg v.z
  simp only [Vec3.dot] at h
  apply Vec3.ext
  · exact mul_self_eq_zero.mp (show v.x * v.x = 0 by linarith)
  · exact mul_self_eq_zero.mp (show v.y * v.y = 0 by linarith)
  · exact mul_self_eq_zero.mp (show v.z * v.z = 0 by linarith)

namespace Quat

variable {q r : Quat K}

/-- A turn fixes the vectors along its axis, and no others. -/
theorem apply_eq_self_iff {v : Vec3 K} : r.matrix.apply v = v ↔ r.axis.cross v = 0 := by
  constructor
  · intro h
    have hsub := apply_sub_self r v
    rw [h] at hsub
    simp only [Vec3.dot, Vec3.sub_eq, sub_self, mul_zero, add_zero] at hsub
    apply Vec3.dot_self_eq_zero
    simp only [Vec3.dot]
    linarith
  · intro h
    have hx : r.y * v.z - r.z * v.y = 0 := congrArg (·.x) h
    have hy : r.z * v.x - r.x * v.z = 0 := congrArg (·.y) h
    have hz : r.x * v.y - r.y * v.x = 0 := congrArg (·.z) h
    apply Vec3.ext <;> simp only [Mat3.apply, matrix, Vec3.dot]
    · linear_combination 2 * r.w * hx + 2 * r.y * hz - 2 * r.z * hy
    · linear_combination 2 * r.w * hy + 2 * r.z * hx - 2 * r.x * hz
    · linear_combination 2 * r.w * hz + 2 * r.x * hy - 2 * r.y * hx

theorem about_apply_eq_self_iff {a v : Vec3 K} {t c : K} :
    (about a t c).matrix.apply v = v ↔ t = 0 ∨ a.cross v = 0 := by
  have hcross : (about a t c).axis.cross v =
      ⟨t * (a.cross v).x, t * (a.cross v).y, t * (a.cross v).z⟩ := by
    apply Vec3.ext <;> simp only [about, axis, Vec3.cross] <;> ring
  rw [apply_eq_self_iff, hcross]
  by_cases ht : t = 0
  · simp [Vec3.ext_iff, ht]
  · simp [Vec3.ext_iff, ht]

/-- Two orientations take a vector to one place when the turn from the first to
the second is about that vector. -/
theorem apply_eq_iff (hq : q.Unit) (hr : r.Unit) {v : Vec3 K} :
    q.matrix.apply v = r.matrix.apply v ↔ (q.conj * r).axis.cross v = 0 := by
  rw [← apply_eq_self_iff, matrix_mul_apply hq.conj hr]
  constructor
  · intro h
    rw [← h, conj_apply_apply hq]
  · intro h
    apply apply_injective hq.conj
    rw [conj_apply_apply hq, h]

end Quat

end Ordered

end HakRobot.Geometry
