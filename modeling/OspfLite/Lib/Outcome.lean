import Mathlib.Tactic

/-!
# Outcomes

The result of code that may never come back: it completes with a value, or
it ends in one of the ways in which the process is lost.
-/

namespace OspfLite

/-- How a handler fails to complete. -/
inductive Fault where
  /-- A failed `assert`. -/
  | assertion
  /-- A null pointer is dereferenced. -/
  | nullDereference
  /-- A pointer loop has run past the end it compares with. -/
  | endlessLoop
  /-- `pop_front` on an empty list. -/
  | popFront
deriving DecidableEq, Repr

abbrev Outcome (α : Type*) := Except Fault α

namespace Outcome

variable {α β : Type*}

@[simp] theorem bind_ok (a : α) (f : α → Outcome β) :
    (Except.ok a : Outcome α).bind f = f a := rfl

@[simp] theorem bind_error (e : Fault) (f : α → Outcome β) :
    (Except.error e : Outcome α).bind f = .error e := rfl

@[simp] theorem map_ok (a : α) (f : α → β) :
    (Except.ok a : Outcome α).map f = .ok (f a) := rfl

@[simp] theorem map_error (e : Fault) (f : α → β) :
    (Except.error e : Outcome α).map f = .error e := rfl

theorem bind_eq_ok {x : Outcome α} {f : α → Outcome β} {b : β} :
    x.bind f = .ok b ↔ ∃ a, x = .ok a ∧ f a = .ok b := by
  cases x <;> simp

theorem map_eq_ok {x : Outcome α} {f : α → β} {b : β} :
    x.map f = .ok b ↔ ∃ a, x = .ok a ∧ f a = b := by
  cases x <;> simp

theorem map_eq_error {x : Outcome α} {f : α → β} {e : Fault} :
    x.map f = .error e ↔ x = .error e := by
  cases x <;> simp

/-- Evaluate an outcome: it completes, and with a value that has the
property. -/
def completesWith (x : Outcome α) (p : α → Prop) [DecidablePred p] : Bool :=
  match x with
  | .ok a => decide (p a)
  | .error _ => false

theorem exists_of_completesWith {x : Outcome α} {p : α → Prop}
    [DecidablePred p] (h : completesWith x p = true) :
    ∃ a, x = .ok a ∧ p a := by
  cases x with
  | error e => cases h
  | ok a => exact ⟨a, rfl, of_decide_eq_true h⟩

/-- A condition on the value, if there is one. -/
instance (x : Outcome α) (p : α → Prop) [DecidablePred p] :
    Decidable (∀ a, x = .ok a → p a) :=
  match x with
  | .ok a => decidable_of_iff (p a)
      ⟨fun h _ ha => Except.ok.inj ha ▸ h, fun h => h a rfl⟩
  | .error _ => isTrue fun _ ha => by cases ha

/-- An optional result whose absence is the given fault. -/
def ofOption (e : Fault) : Option α → Outcome α
  | some a => .ok a
  | none => .error e

theorem ofOption_eq_ok {e : Fault} {x : Option α} {a : α} :
    ofOption e x = .ok a ↔ x = some a := by
  cases x <;> simp [ofOption]

end Outcome

end OspfLite
