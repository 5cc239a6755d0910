import Mathlib.Tactic

/-!
# Lock-step exchanges

A leader and a follower exchange numbered messages over two order-preserving
channels that lose and repeat messages.  The leader answers the message with
the next number by moving on to it, the follower answers the message with its
own number by moving on to the next one, and either may send its last message
again.
-/

namespace OspfLite

/-- How far the two have come, and the numbers of the messages in flight, the
oldest one first. -/
structure LockStep where
  leader : ℕ
  follower : ℕ
  toLeader : List ℕ
  toFollower : List ℕ

namespace LockStep

/-- The two are at most one message apart, and so are the messages in flight
from the one that receives them. -/
structure Ordered (s : LockStep) : Prop where
  leader_le : s.leader ≤ s.follower
  follower_le : s.follower ≤ s.leader + 1
  toLeader_sorted : s.toLeader.Pairwise (· ≤ ·)
  toFollower_sorted : s.toFollower.Pairwise (· ≤ ·)
  toLeader_bounds : ∀ x ∈ s.toLeader, s.leader ≤ x ∧ x ≤ s.follower
  toFollower_bounds : ∀ x ∈ s.toFollower, s.follower ≤ x + 1 ∧ x ≤ s.leader

/-- Nothing has been sent yet. -/
def initial : LockStep := ⟨0, 0, [], []⟩

/-- The leader sends its last message. -/
def leaderSends (s : LockStep) : LockStep :=
  { s with toFollower := s.toFollower ++ [s.leader] }

/-- The follower sends its last message. -/
def followerSends (s : LockStep) : LockStep :=
  { s with toLeader := s.toLeader ++ [s.follower] }

/-- The leader moves on and sends its next message. -/
def leaderAdvances (s : LockStep) : LockStep :=
  { s with leader := s.leader + 1 }.leaderSends

/-- The follower moves on and sends its next message. -/
def followerAdvances (s : LockStep) : LockStep :=
  { s with follower := s.follower + 1 }.followerSends

theorem ordered_initial : initial.Ordered where
  leader_le := le_rfl
  follower_le := Nat.zero_le _
  toLeader_sorted := List.Pairwise.nil
  toFollower_sorted := List.Pairwise.nil
  toLeader_bounds x hx := by cases hx
  toFollower_bounds x hx := by cases hx

/-- A list stays sorted when a largest number is appended. -/
theorem sorted_append_singleton {xs : List ℕ} {y : ℕ}
    (hxs : xs.Pairwise (· ≤ ·)) (hy : ∀ x ∈ xs, x ≤ y) :
    (xs ++ [y]).Pairwise (· ≤ ·) :=
  List.pairwise_append.mpr ⟨hxs, List.pairwise_singleton _ _,
    fun x hx _ hz => (List.mem_singleton.mp hz) ▸ hy x hx⟩

namespace Ordered

variable {s : LockStep}

theorem leaderSends (h : s.Ordered) : s.leaderSends.Ordered where
  leader_le := h.leader_le
  follower_le := h.follower_le
  toLeader_sorted := h.toLeader_sorted
  toFollower_sorted := sorted_append_singleton h.toFollower_sorted
    fun x hx => (h.toFollower_bounds x hx).2
  toLeader_bounds := h.toLeader_bounds
  toFollower_bounds x hx := by
    rcases List.mem_append.mp hx with hold | hnew
    · exact h.toFollower_bounds x hold
    · rw [List.mem_singleton.mp hnew]
      exact ⟨h.follower_le, le_rfl⟩

theorem followerSends (h : s.Ordered) : s.followerSends.Ordered where
  leader_le := h.leader_le
  follower_le := h.follower_le
  toLeader_sorted := sorted_append_singleton h.toLeader_sorted
    fun x hx => (h.toLeader_bounds x hx).2
  toFollower_sorted := h.toFollower_sorted
  toLeader_bounds x hx := by
    rcases List.mem_append.mp hx with hold | hnew
    · exact h.toLeader_bounds x hold
    · rw [List.mem_singleton.mp hnew]
      exact ⟨h.leader_le, le_rfl⟩
  toFollower_bounds := h.toFollower_bounds

/-- Messages get lost. -/
theorem lose (h : s.Ordered) {xs ys : List ℕ}
    (hxs : List.Sublist xs s.toLeader)
    (hys : List.Sublist ys s.toFollower) :
    Ordered { s with toLeader := xs, toFollower := ys } where
  leader_le := h.leader_le
  follower_le := h.follower_le
  toLeader_sorted := h.toLeader_sorted.sublist hxs
  toFollower_sorted := h.toFollower_sorted.sublist hys
  toLeader_bounds x hx := h.toLeader_bounds x (hxs.subset hx)
  toFollower_bounds x hx := h.toFollower_bounds x (hys.subset hx)

/-- The message the leader receives is the last answer it had, or the next
one. -/
theorem toLeader_head (h : s.Ordered) {x : ℕ} {rest : List ℕ}
    (hhead : s.toLeader = x :: rest) : x = s.leader ∨ x = s.leader + 1 := by
  have hbounds := h.toLeader_bounds x (hhead ▸ List.mem_cons_self)
  have hfollower := h.follower_le
  omega

/-- The message the follower receives is the last one it answered, or the
next one. -/
theorem toFollower_head (h : s.Ordered) {x : ℕ} {rest : List ℕ}
    (hhead : s.toFollower = x :: rest) :
    x + 1 = s.follower ∨ x = s.follower := by
  have hbounds := h.toFollower_bounds x (hhead ▸ List.mem_cons_self)
  have hleader := h.leader_le
  omega

/-- A leader that receives the next answer may move on. -/
theorem leaderAdvances (h : s.Ordered) {rest : List ℕ}
    (hhead : s.toLeader = (s.leader + 1) :: rest) :
    s.leaderAdvances.Ordered := by
  have hsorted := h.toLeader_sorted
  rw [hhead, List.pairwise_cons] at hsorted
  have hfollower :=
    (h.toLeader_bounds (s.leader + 1) (hhead ▸ List.mem_cons_self)).2
  refine leaderSends (s := { s with leader := s.leader + 1 })
    ⟨hfollower, le_trans h.follower_le (Nat.le_succ _), h.toLeader_sorted,
      h.toFollower_sorted, ?_, ?_⟩
  · intro x hx
    refine ⟨?_, (h.toLeader_bounds x hx).2⟩
    rw [hhead] at hx
    rcases List.mem_cons.mp hx with hfirst | hrest
    · exact hfirst.ge
    · exact hsorted.1 x hrest
  · intro x hx
    have hbounds := h.toFollower_bounds x hx
    exact ⟨hbounds.1, le_trans hbounds.2 (Nat.le_succ _)⟩

/-- A follower that receives the next message may move on. -/
theorem followerAdvances (h : s.Ordered) {rest : List ℕ}
    (hhead : s.toFollower = s.follower :: rest) :
    s.followerAdvances.Ordered := by
  have hsorted := h.toFollower_sorted
  rw [hhead, List.pairwise_cons] at hsorted
  have hleader :=
    (h.toFollower_bounds s.follower (hhead ▸ List.mem_cons_self)).2
  refine followerSends (s := { s with follower := s.follower + 1 })
    ⟨le_trans h.leader_le (Nat.le_succ _), Nat.succ_le_succ hleader,
      h.toLeader_sorted, h.toFollower_sorted, ?_, ?_⟩
  · intro x hx
    have hbounds := h.toLeader_bounds x hx
    exact ⟨hbounds.1, le_trans hbounds.2 (Nat.le_succ _)⟩
  · intro x hx
    refine ⟨?_, (h.toFollower_bounds x hx).2⟩
    rw [hhead] at hx
    rcases List.mem_cons.mp hx with hfirst | hrest
    · exact Nat.succ_le_succ hfirst.ge
    · exact Nat.succ_le_succ (hsorted.1 x hrest)

end Ordered

end LockStep

end OspfLite
