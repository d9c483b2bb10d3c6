import HakRobot.Geometry.Quaternion
import Mathlib.LinearAlgebra.UnitaryGroup

/-!
# Rigid motions

A map of space is a rigid motion when it keeps the distances and the volumes
with their signs, and is one to one. Distances are compared by their squares, so
that no roots are needed.

* `matrix_mem_specialOrthogonalGroup` — the matrix of a unit quaternion is
  orthogonal and has determinant 1;
* `isRigid_apply_add` — so a turn and a shift make a rigid motion.
-/

namespace HakRobot.Geometry

open Matrix

variable {K : Type}

section Ring

variable [CommRing K]

/-- The coordinates, as Mathlib has them. -/
def Vec3.coords (v : Vec3 K) : Fin 3 → K := ![v.x, v.y, v.z]

/-- The matrix, as Mathlib has it. -/
def Mat3.toMatrix (m : Mat3 K) : Matrix (Fin 3) (Fin 3) K :=
  .of ![m.x.coords, m.y.coords, m.z.coords]

/-- The volume of the parallelepiped on three vectors, with its sign. -/
def Vec3.volume (u v w : Vec3 K) : K := u.dot (v.cross w)

/-- See the module docstring. -/
structure IsRigid (f : Vec3 K → Vec3 K) : Prop where
  distance : ∀ u v, (f u - f v).dot (f u - f v) = (u - v).dot (u - v)
  volume : ∀ p u v w,
    (f u - f p).volume (f v - f p) (f w - f p) = (u - p).volume (v - p) (w - p)
  bijective : Function.Bijective f

theorem Vec3.add_left_inj {u v t : Vec3 K} : u + t = v + t ↔ u = v := by
  simp [Vec3.ext_iff]

theorem Vec3.sub_add_cancel (u t : Vec3 K) : u - t + t = u := by
  simp

omit [CommRing K] in
theorem Vec3.coords_mk (c : Fin 3 → K) : Vec3.coords ⟨c 0, c 1, c 2⟩ = c := by
  funext i
  fin_cases i <;> rfl

theorem Vec3.dot_eq_dotProduct (u v : Vec3 K) : u.dot v = u.coords ⬝ᵥ v.coords := by
  simp [Vec3.dot, Vec3.coords, dotProduct, Fin.sum_univ_three]

namespace Mat3

variable {m : Mat3 K}

theorem coords_apply (m : Mat3 K) (v : Vec3 K) : (m.apply v).coords = m.toMatrix *ᵥ v.coords := by
  funext i
  fin_cases i <;> simp [apply, Vec3.dot_eq_dotProduct, Vec3.coords, toMatrix, mulVec]

theorem apply_sub (m : Mat3 K) (u v : Vec3 K) : m.apply (u - v) = m.apply u - m.apply v := by
  apply Vec3.ext <;> simp only [apply, Vec3.dot, Vec3.sub_eq] <;> ring

/-- An orthogonal matrix keeps the scalar product. -/
theorem dot_apply (hm : m.toMatrix ∈ orthogonalGroup (Fin 3) K) (u v : Vec3 K) :
    (m.apply u).dot (m.apply v) = u.dot v := by
  have horth : m.toMatrixᵀ * m.toMatrix = 1 := (mem_orthogonalGroup_iff' (Fin 3) K).mp hm
  rw [Vec3.dot_eq_dotProduct, Vec3.dot_eq_dotProduct, coords_apply, coords_apply,
    dotProduct_mulVec, ← mulVec_transpose, mulVec_mulVec, horth, one_mulVec]

/-- A matrix scales the volumes by its determinant. -/
theorem volume_apply (m : Mat3 K) (u v w : Vec3 K) :
    (m.apply u).volume (m.apply v) (m.apply w) = m.toMatrix.det * u.volume v w := by
  rw [det_fin_three]
  simp only [Vec3.volume, Vec3.cross, apply, Vec3.dot, toMatrix, Vec3.coords, of_apply, cons_val]
  ring

end Mat3

namespace Quat

variable {q : Quat K}

/-- The matrix of the turn back is the transpose. -/
theorem toMatrix_conj (q : Quat K) : q.conj.matrix.toMatrix = q.matrix.toMatrixᵀ := by
  ext i j
  fin_cases i <;> fin_cases j <;> simp [conj, matrix, Mat3.toMatrix, Vec3.coords] <;> ring

theorem transpose_mul_toMatrix (hq : q.Unit) : q.matrix.toMatrixᵀ * q.matrix.toMatrix = 1 := by
  apply mulVec_injective
  funext c
  have hback := congrArg Vec3.coords (conj_apply_apply hq ⟨c 0, c 1, c 2⟩)
  rwa [Mat3.coords_apply, Mat3.coords_apply, Vec3.coords_mk, toMatrix_conj, mulVec_mulVec,
    ← one_mulVec c, mulVec_mulVec, mul_one] at hback

@[simp] theorem conj_conj (q : Quat K) : q.conj.conj = q := by
  simp [conj]

theorem apply_conj_apply (hq : q.Unit) (v : Vec3 K) :
    q.matrix.apply (q.conj.matrix.apply v) = v := by
  have hback := conj_apply_apply hq.conj v
  rwa [conj_conj] at hback

theorem det_matrix (hq : q.Unit) : q.matrix.toMatrix.det = 1 := by
  have h : q.x ^ 2 + q.y ^ 2 + q.z ^ 2 + q.w ^ 2 = 1 := hq
  rw [det_fin_three]
  simp only [matrix, Mat3.toMatrix, Vec3.coords, of_apply, cons_val]
  linear_combination 4 * (q.x ^ 2 + q.y ^ 2 + q.z ^ 2) * h

theorem matrix_mem_specialOrthogonalGroup (hq : q.Unit) :
    q.matrix.toMatrix ∈ specialOrthogonalGroup (Fin 3) K := by
  refine mem_specialOrthogonalGroup_iff.mpr ⟨?_, det_matrix hq⟩
  exact (mem_orthogonalGroup_iff' (Fin 3) K).mpr (transpose_mul_toMatrix hq)

/-- A turn, then a shift. -/
theorem isRigid_apply_add (hq : q.Unit) (t : Vec3 K) :
    IsRigid fun v => q.matrix.apply v + t := by
  obtain ⟨horth, hdet⟩ := mem_specialOrthogonalGroup_iff.mp
    (matrix_mem_specialOrthogonalGroup hq)
  -- the shift drops out of the differences
  have hdiff : ∀ u v, q.matrix.apply u + t - (q.matrix.apply v + t) = q.matrix.apply (u - v) := by
    intro u v
    rw [Mat3.apply_sub]
    apply Vec3.ext <;> simp
  refine ⟨?_, ?_, ?_, ?_⟩
  · intro u v
    rw [hdiff, Mat3.dot_apply horth]
  · intro p u v w
    rw [hdiff, hdiff, hdiff, Mat3.volume_apply, hdet, one_mul]
  · intro u v huv
    exact apply_injective hq (Vec3.add_left_inj.mp huv)
  · intro p
    refine ⟨q.conj.matrix.apply (p - t), ?_⟩
    show q.matrix.apply (q.conj.matrix.apply (p - t)) + t = p
    rw [apply_conj_apply hq, Vec3.sub_add_cancel]

end Quat

end Ring

section Ordered

variable [Field K] [LinearOrder K]

/-- The length of the vector is `ℓ`. -/
def Vec3.IsLength (v : Vec3 K) (ℓ : K) : Prop := 0 ≤ ℓ ∧ ℓ * ℓ = v.dot v

theorem Vec3.IsLength.congr {u v : Vec3 K} {ℓ : K} (hu : u.IsLength ℓ)
    (hdot : v.dot v = u.dot u) : v.IsLength ℓ :=
  ⟨hu.1, hu.2.trans hdot.symm⟩

/-- There is at most one length. -/
theorem Vec3.IsLength.iff_eq [IsStrictOrderedRing K] {v : Vec3 K} {ℓ m : K}
    (hℓ : v.IsLength ℓ) : v.IsLength m ↔ m = ℓ := by
  constructor
  · intro hm
    exact (mul_self_inj hm.1 hℓ.1).mp (hm.2.trans hℓ.2.symm)
  · intro hm
    rwa [hm]

end Ordered

end HakRobot.Geometry
