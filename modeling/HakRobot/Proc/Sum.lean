import HakRobot.Proc.Machine

/-!
# Two components

A client and the server it calls have operations and a state each. `Prog.left` and
`Prog.right` are programs of one of them as programs of both, and `wp_left` lets a
specification of the first component be used of the two: the state of the second stays
as it is.
-/

namespace HakRobot.Proc

/-- The operations of two components. -/
abbrev Sig.sum (σ τ : Sig) : Sig := ⟨σ.Op ⊕ τ.Op, Sum.elim σ.Res τ.Res⟩

namespace Prog

variable {σ τ : Sig} {ε α : Type}

/-- A program of the first component. -/
def left : Prog σ ε α → Prog (σ.sum τ) ε α
  | .ret a => .ret a
  | .raise e => .raise e
  | .op o k => .op (.inl o) fun x => (k x).left

/-- A program of the second. -/
def right : Prog τ ε α → Prog (σ.sum τ) ε α
  | .ret a => .ret a
  | .raise e => .raise e
  | .op o k => .op (.inr o) fun x => (k x).right

end Prog

namespace Machine

variable {σ τ : Sig} {S T ε α : Type} {M : Machine σ S} {N : Machine τ T}

/-- Both components, each on its own state. -/
def sum (M : Machine σ S) (N : Machine τ T) : Machine (σ.sum τ) (S × T) where
  Choice := Sum.elim M.Choice N.Choice
  exec
    | .inl o, c, s => ((M.exec o c s.1).1, (M.exec o c s.1).2, s.2)
    | .inr o, c, s => ((N.exec o c s.2).1, s.1, (N.exec o c s.2).2)

variable {G : S × T → (σ.sum τ).Op → Prop} {Q : α → S × T → Prop} {E : ε → S × T → Prop}

theorem wp_left {p : Prog σ ε α} {s : S} {t : T}
    (h : M.wp M.anyChoice (fun s o => G (s, t) (.inl o)) p (fun a s => Q a (s, t))
      (fun e s => E e (s, t)) s) :
    (M.sum N).wp (M.sum N).anyChoice G p.left Q E (s, t) := by
  induction p generalizing s with
  | ret a => exact h
  | raise e => exact h
  | op o k ih => exact ⟨h.1, fun c _ => ih _ (h.2 c trivial)⟩

end Machine

end HakRobot.Proc
