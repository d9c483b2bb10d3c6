import HakRobot.Proc.Machine

/-!
# Ghost state

What a property speaks of and the machine forgets (a choice of the outside world
that no answer shows) is noted beside its state. A run of the noting machine is a
run of the machine (`ghost_steps`), and every run of the machine has its notes
(`Steps.ghost`).
-/

namespace HakRobot.Proc.Machine

variable {σ : Sig} {S G ε α : Type}

/-- The machine `M` with notes beside its state, which `note` extends and no
operation reads. -/
def ghost (M : Machine σ S) (note : S → (o : σ.Op) → M.Choice o → G → G) :
    Machine σ (S × G) where
  Choice := M.Choice
  exec o c s := ((M.exec o c s.1).1, (M.exec o c s.1).2, note s.1 o c s.2)

variable {M : Machine σ S} {note : S → (o : σ.Op) → M.Choice o → G → G} {R : M.Rely}

/-- A condition on the outside world, which sees the state only. -/
def Rely.ghost (R : M.Rely) : (M.ghost note).Rely := fun s o c => R s.1 o c

theorem ghost_steps {p q : Prog σ ε α} {s s' : S × G}
    (h : (M.ghost note).Steps R.ghost (p, s) (q, s')) : M.Steps R (p, s.1) (q, s'.1) := by
  generalize hfirst : (p, s) = first at h
  generalize hlast : (q, s') = last at h
  induction h generalizing q s' with
  | refl =>
      rw [← hfirst] at hlast
      cases hlast
      exact .refl
  | tail _ hstep ih =>
      cases hstep with
      | @op o k t c hc =>
          cases hlast
          exact (ih rfl).tail (.op (M := M) (s := t.1) c hc)

theorem Steps.ghost {p q : Prog σ ε α} {s s' : S} (h : M.Steps R (p, s) (q, s')) (g : G) :
    ∃ g', (M.ghost note).Steps R.ghost (p, s, g) (q, s', g') := by
  generalize hlast : (q, s') = last at h
  induction h generalizing q s' with
  | refl =>
      cases hlast
      exact ⟨g, .refl⟩
  | tail _ hstep ih =>
      cases hstep with
      | @op o k t c hc =>
          cases hlast
          obtain ⟨g', hg'⟩ := ih rfl
          exact ⟨note t o c g', hg'.tail (.op (M := M.ghost note) (s := (t, g')) c hc)⟩

end HakRobot.Proc.Machine
