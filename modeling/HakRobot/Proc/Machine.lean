import HakRobot.Proc.Prog
import Mathlib.Logic.Relation

/-!
# Machines and weakest preconditions

A machine gives every operation its effect on a state. What the outside world
decides (a socket that fails, a planner that finds no path) is an explicit
`Choice`, so a property proved for all choices holds for every pattern of
failures, and a run on fixed choices can be evaluated.

`wp R G p Q E s` is a rely/guarantee reading of `p` started in `s`: if every
choice of the outside world meets `R`, then `G` holds before every operation,
`Q` when `p` returns and `E` when it raises. `wp_steps` is its soundness for
the small-step relation, and the `wp_*` equations are the rules of the
calculus.
-/

namespace HakRobot.Proc

/-- The effect of each operation on a state, for each choice of the outside
world. -/
structure Machine (σ : Sig) (S : Type) where
  Choice : σ.Op → Type
  exec : (o : σ.Op) → Choice o → S → σ.Res o × S

namespace Machine

variable {σ : Sig} {S ε α β : Type}

/-- A condition on the choices of the outside world, step by step. -/
abbrev Rely (M : Machine σ S) := S → (o : σ.Op) → M.Choice o → Prop

/-- The outside world may do anything. -/
def anyChoice (M : Machine σ S) : M.Rely := fun _ _ _ => True

/-- The machine whose outside world answers anything and whose state only
follows the answers through `δ`. -/
def monitor (σ : Sig) {L : Type} (δ : L → (o : σ.Op) → σ.Res o → L) : Machine σ L where
  Choice := σ.Res
  exec o x ℓ := (x, δ ℓ o x)

variable (M : Machine σ S)

/-- One operation of a program. -/
inductive Step (R : M.Rely) : Prog σ ε α × S → Prog σ ε α × S → Prop
  | op {o : σ.Op} {k : σ.Res o → Prog σ ε α} {s : S} (c : M.Choice o) (h : R s o c) :
      Step R (.op o k, s) (k (M.exec o c s).1, (M.exec o c s).2)

/-- Any number of operations. -/
def Steps (R : M.Rely) : Prog σ ε α × S → Prog σ ε α × S → Prop :=
  Relation.ReflTransGen (M.Step R)

/-- See the module docstring. -/
def wp (R : M.Rely) (G : S → σ.Op → Prop) :
    Prog σ ε α → (α → S → Prop) → (ε → S → Prop) → S → Prop
  | .ret a, Q, _, s => Q a s
  | .raise e, _, E, s => E e s
  | .op o k, Q, E, s =>
      G s o ∧ ∀ c, R s o c → wp R G (k (M.exec o c s).1) Q E (M.exec o c s).2

/-- Every run of `p` from `s` comes to an end (a program is a finite tree): in
`Q` with the value it returns, or in `E` with the exception it raises. -/
abbrev Ends (R : M.Rely) (p : Prog σ ε α) (Q : α → S → Prop) (E : ε → S → Prop) (s : S) :
    Prop :=
  M.wp R (fun _ _ => True) p Q E s

/-! ## Running on fixed choices -/

/-- Run to the end, each operation with the choice `pick` makes. -/
def run (pick : S → (o : σ.Op) → M.Choice o) : Prog σ ε α → S → Except ε α × S
  | .ret a, s => (.ok a, s)
  | .raise e, s => (.error e, s)
  | .op o k, s => run pick (k (M.exec o (pick s o) s).1) (M.exec o (pick s o) s).2

/-- At most `n` operations of such a run. -/
def runFor (pick : S → (o : σ.Op) → M.Choice o) : Nat → Prog σ ε α × S → Prog σ ε α × S
  | n + 1, (.op o k, s) => runFor pick n (k (M.exec o (pick s o) s).1, (M.exec o (pick s o) s).2)
  | _, c => c

variable {M} {R : M.Rely} {G : S → σ.Op → Prop}

theorem Step.head {o : σ.Op} {k : σ.Res o → Prog σ ε α} {s : S} (c : M.Choice o)
    (hc : R s o c) {d : Prog σ ε α × S}
    (hd : M.Steps R (k (M.exec o c s).1, (M.exec o c s).2) d) :
    M.Steps R (.op o k, s) d :=
  Relation.ReflTransGen.head (.op c hc) hd

theorem run_steps {pick : S → (o : σ.Op) → M.Choice o}
    (hpick : ∀ s o, R s o (pick s o)) (p : Prog σ ε α) (s : S) :
    M.Steps R (p, s) (.ofExcept (M.run pick p s).1, (M.run pick p s).2) := by
  induction p generalizing s with
  | ret a => exact .refl
  | raise e => exact .refl
  | op o k ih => exact Step.head (pick s o) (hpick s o) (ih _ _)

theorem runFor_steps {pick : S → (o : σ.Op) → M.Choice o} (hpick : ∀ s o, R s o (pick s o)) :
    ∀ (n : Nat) (c : Prog σ ε α × S), M.Steps R c (M.runFor pick n c)
  | 0, _ => .refl
  | _ + 1, (.ret _, _) => .refl
  | _ + 1, (.raise _, _) => .refl
  | n + 1, (.op _ _, s) => Step.head (pick s _) (hpick s _) (runFor_steps hpick n _)

/-! ## The rules -/

@[simp] theorem wp_ret (a : α) (Q : α → S → Prop) (E : ε → S → Prop) :
    M.wp R G (.ret a) Q E = Q a := rfl

@[simp] theorem wp_raise (e : ε) (Q : α → S → Prop) (E : ε → S → Prop) :
    M.wp R G (.raise e) Q E = E e := rfl

theorem wp_op (o : σ.Op) (k : σ.Res o → Prog σ ε α) (Q : α → S → Prop)
    (E : ε → S → Prop) (s : S) :
    M.wp R G (.op o k) Q E s ↔
      G s o ∧ ∀ c, R s o c → M.wp R G (k (M.exec o c s).1) Q E (M.exec o c s).2 :=
  Iff.rfl

theorem wp_bind (p : Prog σ ε α) (f : α → Prog σ ε β) (Q : β → S → Prop)
    (E : ε → S → Prop) :
    M.wp R G (p.bind f) Q E = M.wp R G p (fun a => M.wp R G (f a) Q E) E := by
  funext s
  induction p generalizing s with
  | ret a => rfl
  | raise e => rfl
  | op o k ih => simp only [Prog.bind_op, wp_op, ih]

theorem wp_tryCatch (p : Prog σ ε α) (h : ε → Prog σ ε α) (Q : α → S → Prop)
    (E : ε → S → Prop) :
    M.wp R G (p.tryCatch h) Q E = M.wp R G p Q (fun e => M.wp R G (h e) Q E) := by
  funext s
  induction p generalizing s with
  | ret a => rfl
  | raise e => rfl
  | op o k ih => simp only [Prog.tryCatch_op, wp_op, ih]

/-- Consequence. -/
theorem wp_weaken {G' : S → σ.Op → Prop} {p : Prog σ ε α} {Q Q' : α → S → Prop}
    {E E' : ε → S → Prop} {s : S} (hG : ∀ s o, G s o → G' s o)
    (hQ : ∀ a s, Q a s → Q' a s) (hE : ∀ e s, E e s → E' e s)
    (h : M.wp R G p Q E s) : M.wp R G' p Q' E' s := by
  induction p generalizing s with
  | ret a => exact hQ a s h
  | raise e => exact hE e s h
  | op o k ih => exact ⟨hG s o h.1, fun c hc => ih _ (h.2 c hc)⟩

theorem wp_mono {p : Prog σ ε α} {Q Q' : α → S → Prop} {E E' : ε → S → Prop} {s : S}
    (hQ : ∀ a s, Q a s → Q' a s) (hE : ∀ e s, E e s → E' e s)
    (h : M.wp R G p Q E s) : M.wp R G p Q' E' s :=
  wp_weaken (fun _ _ hG => hG) hQ hE h

/-- Sequencing with a middle assertion. -/
theorem wp_seq {p : Prog σ ε α} {f : α → Prog σ ε β} {P : α → S → Prop}
    {Q : β → S → Prop} {E E' : ε → S → Prop} {s : S}
    (hp : M.wp R G p P E' s) (hf : ∀ a s, P a s → M.wp R G (f a) Q E s)
    (hE : ∀ e s, E' e s → E e s) :
    M.wp R G (p.bind f) Q E s :=
  (wp_bind p f Q E) ▸ wp_mono hf hE hp

/-- A program and its exception handler. -/
theorem wp_catch {p : Prog σ ε α} {h : ε → Prog σ ε α} {F : ε → S → Prop}
    {Q : α → S → Prop} {E : ε → S → Prop} {s : S}
    (hp : M.wp R G p Q F s) (hh : ∀ e s, F e s → M.wp R G (h e) Q E s) :
    M.wp R G (p.tryCatch h) Q E s :=
  (wp_tryCatch p h Q E) ▸ wp_mono (fun _ _ hq => hq) hh hp

theorem wp_tryFinally (p : Prog σ ε α) (q : Prog σ ε Unit) (Q : α → S → Prop)
    (E : ε → S → Prop) (s : S) :
    M.wp R G (p.tryFinally q) Q E s ↔
      M.wp R G p (fun a => M.wp R G q (fun _ => Q a) E)
        (fun e => M.wp R G q (fun _ => E e) E) s := by
  simp [Prog.tryFinally, wp_bind, wp_tryCatch]

/-- A loop over a list keeps an invariant its body keeps. -/
theorem wp_forEach {γ : Type} {f : γ → Prog σ ε Unit} {I : S → Prop} {E : ε → S → Prop}
    (hf : ∀ c s, I s → M.wp R G (f c) (fun _ => I) E s) :
    ∀ (cs : List γ) {s : S}, I s → M.wp R G (Prog.forEach f cs) (fun _ => I) E s
  | [], _, hs => hs
  | c :: cs, s, hs =>
      wp_seq (hf c s hs) (fun _ _ hs' => wp_forEach hf cs hs') fun _ _ he => he

/-- An invariant of the operations a program uses is an invariant of the
program. -/
theorem wp_of_uses {P : σ.Op → Prop} {I : S → Prop}
    (hI : ∀ s o, I s → P o → G s o ∧ ∀ c, R s o c → I (M.exec o c s).2)
    {p : Prog σ ε α} (hp : p.Uses P) {s : S} (hs : I s) :
    M.wp R G p (fun _ => I) (fun _ => I) s := by
  induction p generalizing s with
  | ret a => exact hs
  | raise e => exact hs
  | op o k ih =>
      obtain ⟨hG, hstep⟩ := hI s o hs hp.1
      exact ⟨hG, fun c hc => ih _ (hp.2 _) (hstep c hc)⟩

/-! ## Soundness -/

/-- One step keeps the weakest precondition of what is left to run. -/
theorem wp_step {Q : α → S → Prop} {E : ε → S → Prop} {c d : Prog σ ε α × S}
    (h : M.wp R G c.1 Q E c.2) (hstep : M.Step R c d) : M.wp R G d.1 Q E d.2 := by
  cases hstep with
  | op c hc => exact h.2 c hc

theorem wp_steps {Q : α → S → Prop} {E : ε → S → Prop} {c d : Prog σ ε α × S}
    (h : M.wp R G c.1 Q E c.2) (hsteps : M.Steps R c d) : M.wp R G d.1 Q E d.2 := by
  induction hsteps with
  | refl => exact h
  | tail _ hstep ih => exact wp_step ih hstep

/-- A program that returned left `Q`. -/
theorem wp_returns {p : Prog σ ε α} {Q : α → S → Prop} {E : ε → S → Prop} {s s' : S} {a : α}
    (h : M.wp R G p Q E s) (hsteps : M.Steps R (p, s) (.ret a, s')) : Q a s' :=
  wp_steps (c := (p, s)) h hsteps

theorem wp_raises {p : Prog σ ε α} {Q : α → S → Prop} {E : ε → S → Prop} {s s' : S} {e : ε}
    (h : M.wp R G p Q E s) (hsteps : M.Steps R (p, s) (.raise e, s')) : E e s' :=
  wp_steps (c := (p, s)) h hsteps

/-- What every operation keeps, every run keeps. -/
theorem Steps.invariant {I : S → Prop}
    (hI : ∀ s o c, I s → R s o c → I (M.exec o c s).2) {c d : Prog σ ε α × S}
    (hsteps : M.Steps R c d) (hc : I c.2) : I d.2 := by
  induction hsteps with
  | refl => exact hc
  | tail _ hstep ih =>
      cases hstep with
      | op c hR => exact hI _ _ _ ih hR

/-- The guarantee holds before the next operation. -/
theorem wp_next {Q : α → S → Prop} {E : ε → S → Prop} {p : Prog σ ε α} {s : S} {o : σ.Op}
    (h : M.wp R G p Q E s) (hnext : p.next = some o) : G s o := by
  cases p with
  | ret a => cases hnext
  | raise e => cases hnext
  | op o' k =>
      obtain rfl : o' = o := Option.some.inj hnext
      exact h.1

/-- An invariant that holds before every operation and at both exits holds now. -/
theorem wp_now {I : S → Prop} {p : Prog σ ε α} {s : S}
    (h : M.wp R (fun s _ => I s) p (fun _ => I) (fun _ => I) s) : I s := by
  cases p with
  | ret a => exact h
  | raise e => exact h
  | op o k => exact h.1

/-- And it holds in every state a run passes through. -/
theorem wp_invariant {I : S → Prop} {p : Prog σ ε α} {s : S}
    (h : M.wp R (fun s _ => I s) p (fun _ => I) (fun _ => I) s) {d : Prog σ ε α × S}
    (hsteps : M.Steps R (p, s) d) : I d.2 :=
  wp_now (wp_steps (c := (p, s)) h hsteps)

end Machine

end HakRobot.Proc
