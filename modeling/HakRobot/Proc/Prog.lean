import Mathlib.Tactic.Common

/-!
# Programs over atomic operations

A method of one of the nodes is a finite tree: a result, an exception, or an
atomic operation followed by one subtree for each result the operation can
have. The same tree is run alone (`Machine`), next to other trees on a shared
state (`Pool`), or against an environment that may answer anything
(`Machine.monitor`), so what is one atomic step is decided once, where the
method is written.
-/

namespace HakRobot.Proc

/-- The operations a program may perform, each with the type of its result. -/
structure Sig where
  Op : Type
  Res : Op → Type

/-- A terminating program over `σ` that returns an `α` or raises an `ε`. -/
inductive Prog (σ : Sig) (ε α : Type) : Type
  | ret (a : α)
  | raise (e : ε)
  | op (o : σ.Op) (k : σ.Res o → Prog σ ε α)

namespace Prog

variable {σ : Sig} {ε α β : Type}

/-- Run `p`, then `f` on its result. Exceptions skip `f`. -/
def bind : Prog σ ε α → (α → Prog σ ε β) → Prog σ ε β
  | .ret a, f => f a
  | .raise e, _ => .raise e
  | .op o k, f => .op o fun x => (k x).bind f

/-- `try: p  except e: h e`. -/
def tryCatch : Prog σ ε α → (ε → Prog σ ε α) → Prog σ ε α
  | .ret a, _ => .ret a
  | .raise e, h => h e
  | .op o k, h => .op o fun x => (k x).tryCatch h

instance : Monad (Prog σ ε) where
  pure := .ret
  bind := .bind

/-- One operation that cannot raise. -/
def perform (o : σ.Op) : Prog σ ε (σ.Res o) := .op o .ret

/-- A result that may be an exception. -/
def ofExcept : Except ε α → Prog σ ε α
  | .ok a => .ret a
  | .error e => .raise e

/-- `try: p  finally: q`, where `q` has no result of its own. -/
def tryFinally (p : Prog σ ε α) (q : Prog σ ε Unit) : Prog σ ε α := do
  let a ← p.tryCatch fun e => q.bind fun _ => .raise e
  q
  return a

/-- Run a list of programs one after another. -/
def forEach {γ : Type} (f : γ → Prog σ ε Unit) : List γ → Prog σ ε Unit
  | [] => .ret ()
  | c :: cs => (f c).bind fun _ => forEach f cs

/-- Run a program for its effect. -/
def discard (p : Prog σ ε α) : Prog σ ε Unit := p.bind fun _ => .ret ()

/-- Every operation the program can come to perform is a `P`. -/
def Uses (P : σ.Op → Prop) : Prog σ ε α → Prop
  | .ret _ => True
  | .raise _ => True
  | .op o k => P o ∧ ∀ x, (k x).Uses P

/-- The operation the program performs next, when it has not ended. -/
def next : Prog σ ε α → Option σ.Op
  | .op o _ => some o
  | _ => none

/-- How the program ended, when it has. -/
def outcome : Prog σ ε α → Option (Except ε α)
  | .ret a => some (.ok a)
  | .raise e => some (.error e)
  | .op _ _ => none

theorem eq_ret_of_outcome {p : Prog σ ε α} {a : α} (h : p.outcome = some (.ok a)) :
    p = .ret a := by
  cases p with
  | ret b => rw [Except.ok.inj (Option.some.inj h)]
  | raise e => cases h
  | op o k => cases h

/-- The program returned or raised. -/
def Done : Prog σ ε α → Prop
  | .op _ _ => False
  | _ => True

instance : ∀ p : Prog σ ε α, Decidable p.Done
  | .ret _ => inferInstanceAs (Decidable True)
  | .raise _ => inferInstanceAs (Decidable True)
  | .op _ _ => inferInstanceAs (Decidable False)

/-! ## Equations -/

@[simp] theorem pure_eq (a : α) : (pure a : Prog σ ε α) = .ret a := rfl

@[simp] theorem bind_eq (p : Prog σ ε α) (f : α → Prog σ ε β) : p >>= f = p.bind f := rfl

@[simp] theorem bind_ret (a : α) (f : α → Prog σ ε β) : (ret a : Prog σ ε α).bind f = f a := rfl

@[simp] theorem bind_raise (e : ε) (f : α → Prog σ ε β) :
    (raise e : Prog σ ε α).bind f = .raise e := rfl

@[simp] theorem bind_op (o : σ.Op) (k : σ.Res o → Prog σ ε α) (f : α → Prog σ ε β) :
    (op o k).bind f = .op o fun x => (k x).bind f := rfl

@[simp] theorem tryCatch_ret (a : α) (h : ε → Prog σ ε α) :
    (ret a : Prog σ ε α).tryCatch h = .ret a := rfl

@[simp] theorem tryCatch_raise (e : ε) (h : ε → Prog σ ε α) :
    (raise e : Prog σ ε α).tryCatch h = h e := rfl

@[simp] theorem tryCatch_op (o : σ.Op) (k : σ.Res o → Prog σ ε α) (h : ε → Prog σ ε α) :
    (op o k).tryCatch h = .op o fun x => (k x).tryCatch h := rfl

@[simp] theorem ofExcept_ok (a : α) : (ofExcept (.ok a) : Prog σ ε α) = .ret a := rfl

@[simp] theorem ofExcept_error (e : ε) : (ofExcept (.error e) : Prog σ ε α) = .raise e := rfl

/-! ## The operations of a program -/

variable {P P' : σ.Op → Prop}

@[simp] theorem uses_ret (a : α) : (ret a : Prog σ ε α).Uses P := trivial

@[simp] theorem uses_raise (e : ε) : (raise e : Prog σ ε α).Uses P := trivial

@[simp] theorem uses_op (o : σ.Op) (k : σ.Res o → Prog σ ε α) :
    (op o k).Uses P ↔ P o ∧ ∀ x, (k x).Uses P := Iff.rfl

theorem Uses.next {p : Prog σ ε α} (h : p.Uses P) {o : σ.Op} (ho : p.next = some o) : P o := by
  cases p with
  | ret a => cases ho
  | raise e => cases ho
  | op o' k =>
      obtain rfl : o' = o := Option.some.inj ho
      exact h.1

@[simp] theorem uses_ofExcept (r : Except ε α) : (ofExcept r : Prog σ ε α).Uses P := by
  cases r with
  | ok a => exact trivial
  | error e => exact trivial

@[simp] theorem uses_perform (o : σ.Op) : (perform o : Prog σ ε _).Uses P ↔ P o :=
  and_iff_left fun _ => trivial

theorem Uses.mono (h : ∀ o, P o → P' o) {p : Prog σ ε α} (hp : p.Uses P) : p.Uses P' := by
  induction p with
  | ret a => exact trivial
  | raise e => exact trivial
  | op o k ih => exact ⟨h o hp.1, fun x => ih x (hp.2 x)⟩

theorem uses_bind {p : Prog σ ε α} {f : α → Prog σ ε β} (hp : p.Uses P)
    (hf : ∀ a, (f a).Uses P) : (p.bind f).Uses P := by
  induction p with
  | ret a => exact hf a
  | raise e => exact trivial
  | op o k ih => exact ⟨hp.1, fun x => ih x (hp.2 x)⟩

theorem uses_tryCatch {p : Prog σ ε α} {h : ε → Prog σ ε α} (hp : p.Uses P)
    (hh : ∀ e, (h e).Uses P) : (p.tryCatch h).Uses P := by
  induction p with
  | ret a => exact trivial
  | raise e => exact hh e
  | op o k ih => exact ⟨hp.1, fun x => ih x (hp.2 x)⟩

end Prog

end HakRobot.Proc
