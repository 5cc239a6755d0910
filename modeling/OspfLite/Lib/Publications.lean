import Mathlib.Data.Set.Basic

/-!
# Numbered publications

Processes publish items, each under numbers of its own that only grow.  An item
is determined by its author, its kind and its number.
-/

namespace OspfLite

/-- No process has used a number that is still to come, and none has published
two items of a kind under one number. -/
structure Numbered {ι α κ : Type*} (kind : α → κ) (number : α → ℕ)
    (upcoming : ι → ℕ) (published : ι → Set α) : Prop where
  lt : ∀ i, ∀ a ∈ published i, number a < upcoming i
  unique : ∀ i, ∀ a ∈ published i, ∀ b ∈ published i,
    kind a = kind b → number a = number b → a = b

/-- A process adds to what it has published. -/
def publish {ι α : Type*} (published : ι → Set α) (i : ι) (news : Set α) :
    ι → Set α :=
  fun j => {a | a ∈ published j ∨ j = i ∧ a ∈ news}

section Publish

variable {ι α : Type*} {published : ι → Set α} {i j : ι} {news : Set α}

theorem publish_of_ne (h : j ≠ i) :
    publish published i news j = published j :=
  Set.ext fun _ => or_iff_left fun hnew => h hnew.1

theorem publish_empty (published : ι → Set α) (i j : ι) :
    publish published i ∅ j = published j :=
  Set.ext fun _ => or_iff_left fun hnew => hnew.2

end Publish

namespace Numbered

variable {ι α κ : Type*} {kind : α → κ} {number : α → ℕ}
  {upcoming upcoming' : ι → ℕ} {published : ι → Set α} {i : ι} {news : Set α}

/-- At the start nothing has been published. -/
theorem none (kind : α → κ) (number : α → ℕ) (upcoming : ι → ℕ) :
    Numbered kind number upcoming fun _ => ∅ :=
  ⟨fun _ _ ha => absurd ha (Set.notMem_empty _),
    fun _ _ ha => absurd ha (Set.notMem_empty _)⟩

/-- A process publishes items of different kinds, under numbers that it has not
used. -/
theorem publish (h : Numbered kind number upcoming published)
    (hmono : ∀ j, upcoming j ≤ upcoming' j)
    (hnews : ∀ a ∈ news, upcoming i ≤ number a ∧ number a < upcoming' i)
    (hkinds : ∀ a ∈ news, ∀ b ∈ news, kind a = kind b → a = b) :
    Numbered kind number upcoming' (OspfLite.publish published i news) := by
  constructor
  · rintro j a (hold | ⟨rfl, hnew⟩)
    · exact (h.lt j a hold).trans_le (hmono j)
    · exact (hnews a hnew).2
  · rintro j a (hold | ⟨rfl, hnew⟩) b (hold' | ⟨hj, hnew'⟩) hkind hnumber
    · exact h.unique j a hold b hold' hkind hnumber
    · have hlt := h.lt j a hold
      have hle := (hnews b hnew').1
      rw [hj] at hlt
      omega
    · have hlt := h.lt j b hold'
      have hle := (hnews a hnew).1
      omega
    · exact hkinds a hnew b hnew' hkind

end Numbered

end OspfLite
