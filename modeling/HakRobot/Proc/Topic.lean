import Mathlib.Tactic.Common

/-!
# Topics

A topic with one subscription of queue size one. Published messages are on their
way for any time and arrive in order; the subscription keeps only the newest
message that arrived; the outgoing queue of the publisher may drop its oldest.

`Topic.All P` says that everything on the topic is a `P`. What is taken from a
topic is then a `P`, whatever happened to it on the way. `Topic.held` lists what is
on the topic: it is taken from the front, published at the end, and on the way
messages only drop out.
-/

namespace HakRobot.Proc

variable {α : Type}

structure Topic (α : Type) where
  /-- published, not yet arrived, the oldest first -/
  transit : List α
  /-- arrived, not yet handled -/
  queue : Option α
deriving DecidableEq

/-- What happens to a message on its way. -/
inductive Transport
  | lose
  | arrive

namespace Topic

def empty : Topic α := ⟨[], none⟩

def publish (t : Topic α) (ms : List α) : Topic α := { t with transit := t.transit ++ ms }

/-- `none` when nothing is on its way. -/
def move (t : Topic α) : Transport → Option (Topic α)
  | .lose =>
      match t.transit with
      | [] => none
      | _ :: rest => some { t with transit := rest }
  | .arrive =>
      match t.transit with
      | [] => none
      -- a message that was waiting is overwritten
      | m :: rest => some ⟨rest, some m⟩

/-- The message for the callback, and the topic without it. -/
def take (t : Topic α) : Option (α × Topic α) := t.queue.map fun m => (m, { t with queue := none })

/-- Every message on the topic is a `P`. -/
structure All (P : α → Prop) (t : Topic α) : Prop where
  transit : ∀ m ∈ t.transit, P m
  queue : ∀ m ∈ t.queue, P m

variable {P Q : α → Prop} {t t' : Topic α}

theorem all_empty : All P (empty : Topic α) where
  transit _ hm := absurd hm List.not_mem_nil
  queue _ hm := absurd hm (by simp [empty])

theorem All.mono (h : t.All P) (hPQ : ∀ m, P m → Q m) : t.All Q where
  transit m hm := hPQ m (h.transit m hm)
  queue m hm := hPQ m (h.queue m hm)

theorem All.publish (h : t.All P) {ms : List α} (hms : ∀ m ∈ ms, P m) : (t.publish ms).All P where
  transit m hm := by
    rcases List.mem_append.mp hm with hm | hm
    · exact h.transit m hm
    · exact hms m hm
  queue := h.queue

theorem All.move (h : t.All P) {x : Transport} (hmove : t.move x = some t') : t'.All P := by
  obtain ⟨transit, queue⟩ := t
  cases transit with
  | nil => cases x <;> exact absurd hmove (by simp [Topic.move])
  | cons m rest =>
      have hrest : ∀ m' ∈ rest, P m' := fun m' hm' => h.transit m' (List.mem_cons_of_mem m hm')
      cases x with
      | lose =>
          obtain rfl := Option.some.inj hmove
          exact ⟨hrest, h.queue⟩
      | arrive =>
          obtain rfl := Option.some.inj hmove
          refine ⟨hrest, fun m' hm' => ?_⟩
          obtain rfl := Option.some.inj hm'
          exact h.transit m List.mem_cons_self

theorem All.take (h : t.All P) {m : α} (htake : t.take = some (m, t')) : P m ∧ t'.All P := by
  obtain ⟨transit, queue⟩ := t
  cases queue with
  | none => exact absurd htake (by simp [Topic.take])
  | some m' =>
      obtain ⟨rfl, rfl⟩ := Prod.mk.inj (Option.some.inj htake)
      exact ⟨h.queue m' rfl, h.transit, fun _ hm => absurd hm (by simp)⟩

/-! ## The order of the messages -/

/-- What is on the topic, the oldest first. -/
def held (t : Topic α) : List α := t.queue.toList ++ t.transit

@[simp] theorem held_empty : (empty : Topic α).held = [] := rfl

@[simp] theorem held_publish (t : Topic α) (ms : List α) :
    (t.publish ms).held = t.held ++ ms := by
  simp [held, publish]

theorem held_move {x : Transport} (hmove : t.move x = some t') : t'.held.Sublist t.held := by
  obtain ⟨transit, queue⟩ := t
  cases transit with
  | nil => cases x <;> exact absurd hmove (by simp [Topic.move])
  | cons m rest =>
      cases x with
      | lose =>
          obtain rfl := Option.some.inj hmove
          exact (List.Sublist.refl _).append (List.sublist_cons_self m rest)
      | arrive =>
          obtain rfl := Option.some.inj hmove
          exact List.sublist_append_right _ _

theorem held_take {m : α} (htake : t.take = some (m, t')) : t.held = m :: t'.held := by
  obtain ⟨transit, queue⟩ := t
  cases queue with
  | none => exact absurd htake (by simp [Topic.take])
  | some m' =>
      obtain ⟨rfl, rfl⟩ := Prod.mk.inj (Option.some.inj htake)
      rfl

end Topic

end HakRobot.Proc
