import OspfLite.Lib.Bytes

/-!
# Weighted sums of bytes

The sums that checksums are made of: every byte behind a pointer counts with
the weight of its offset.  Nothing here refers to a packet format.
-/

namespace OspfLite
namespace Memory

variable (weight : ℕ → ℕ) (p q : Memory)

/-- The first `n` bytes, each times the weight of its offset. -/
def weighted (n : ℕ) : ℕ :=
  ∑ i ∈ Finset.range n, weight i * (p i).toNat

@[simp] theorem weighted_zero : weighted weight p 0 = 0 := rfl

theorem weighted_succ (n : ℕ) :
    weighted weight p (n + 1) =
      weighted weight p n + weight n * (p n).toNat :=
  Finset.sum_range_succ _ n

variable {weight p q} in
/-- The sum depends on the bytes that are added up. -/
theorem weighted_congr {n : ℕ} (h : ∀ i < n, p i = q i) :
    weighted weight p n = weighted weight q n :=
  Finset.sum_congr rfl fun i hi => by rw [h i (Finset.mem_range.mp hi)]

/-- A 16-bit store exchanges two summands. -/
theorem weighted_write16 {k n : ℕ} (hk : k + 1 < n) (x : UInt16) :
    weighted weight (p.write16 k x) n +
        (weight k * (p k).toNat + weight (k + 1) * (p (k + 1)).toNat) =
      weighted weight p n +
        (weight k * (x.toNat % 256) + weight (k + 1) * (x.toNat / 256)) := by
  obtain ⟨m, rfl⟩ : ∃ m, n = k + 2 + m := ⟨n - (k + 2), by omega⟩
  have hx : x.toNat < 65536 := x.toNat_lt
  have hlow : (p.write16 k x k).toNat = x.toNat % 256 := by
    rw [write16, if_pos rfl, UInt8.toNat_ofNat']
  have hhigh : (p.write16 k x (k + 1)).toNat = x.toNat / 256 := by
    rw [write16, if_neg (Nat.succ_ne_self k), if_pos rfl,
      UInt8.toNat_ofNat']
    omega
  have hbefore : weighted weight (p.write16 k x) k = weighted weight p k :=
    weighted_congr fun i hi =>
      write16_apply_of_ne p x (by omega) (by omega)
  induction m with
  | zero =>
      simp only [Nat.add_zero, weighted_succ, hbefore, hlow, hhigh]
      omega
  | succ m ih =>
      have hnext : p.write16 k x (k + 2 + m) = p (k + 2 + m) :=
        write16_apply_of_ne p x (by omega) (by omega)
      have hsucc : ∀ r : Memory, weighted weight r (k + 2 + (m + 1)) =
          weighted weight r (k + 2 + m) +
            weight (k + 2 + m) * (r (k + 2 + m)).toNat :=
        fun r => weighted_succ weight r _
      have hearlier := ih (by omega)
      rw [hsucc, hsucc, hnext]
      omega

variable (n : ℕ)

/-- The sum of the first `n` bytes. -/
def total : ℕ := weighted (fun _ => 1) p n

/-- The sum of the running sums over the first `n` bytes. -/
def running : ℕ := ∑ k ∈ Finset.range n, p.total (k + 1)

theorem total_succ : p.total (n + 1) = p.total n + (p n).toNat := by
  rw [total, weighted_succ, Nat.one_mul, total]

theorem running_succ :
    p.running (n + 1) = p.running n + p.total (n + 1) :=
  Finset.sum_range_succ _ n

/-- In the sum of the running sums a byte counts once for every running sum it
is part of. -/
theorem running_eq_weighted :
    p.running n = weighted (fun i => n - i) p n := by
  induction n with
  | zero => rfl
  | succ n ih =>
      have hmore : ∀ i ∈ Finset.range (n + 1),
          (n + 1 - i) * (p i).toNat =
            (n - i) * (p i).toNat + 1 * (p i).toNat := by
        intro i hi
        have hle : i ≤ n := Finset.mem_range_succ_iff.mp hi
        rw [← Nat.add_mul, ← Nat.sub_add_comm hle]
      have hlast : ∑ i ∈ Finset.range (n + 1), (n - i) * (p i).toNat =
          weighted (fun i => n - i) p n := by
        rw [Finset.sum_range_succ, Nat.sub_self, Nat.zero_mul, Nat.add_zero,
          weighted]
      calc p.running (n + 1)
          = weighted (fun i => n - i) p n +
              ∑ i ∈ Finset.range (n + 1), 1 * (p i).toNat := by
            rw [running_succ, ih, total, weighted, weighted]
        _ = ∑ i ∈ Finset.range (n + 1), (n + 1 - i) * (p i).toNat := by
            rw [Finset.sum_congr rfl hmore, Finset.sum_add_distrib, hlast]

/-- Two bytes stored where there were none, in the sum. -/
theorem total_write16 {k : ℕ} (hk : k + 1 < n) (hlow : p k = 0)
    (hhigh : p (k + 1) = 0) (x : UInt16) :
    (p.write16 k x).total n =
      p.total n + (x.toNat % 256 + x.toNat / 256) := by
  have h := weighted_write16 (fun _ => 1) p hk x
  rw [hlow, hhigh, UInt8.toNat_zero] at h
  rw [total, total]
  omega

/-- Two bytes stored where there were none, in the sum of the running
sums. -/
theorem running_write16 {k : ℕ} (hk : k + 1 < n) (hlow : p k = 0)
    (hhigh : p (k + 1) = 0) (x : UInt16) :
    (p.write16 k x).running n = p.running n +
      ((n - k) * (x.toNat % 256) + (n - (k + 1)) * (x.toNat / 256)) := by
  have h := weighted_write16 (fun i => n - i) p hk x
  rw [hlow, hhigh, UInt8.toNat_zero] at h
  rw [running_eq_weighted, running_eq_weighted]
  omega

end Memory
end OspfLite
