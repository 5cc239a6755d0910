import OspfLite.LinkState.Header

/-!
# The LSA checksum

`fletcher16_ru` and `lsa_checksum` as the source computes them: unsigned sums,
then a signed adjustment with the remainder of C.
-/

namespace OspfLite

/-- The two running sums `c0` and `c1` after the first `length` bytes. -/
def fletcherSums (data : Memory) (length : ℕ) : UInt32 × UInt32 :=
  (List.range length).foldl
    (fun c index =>
      let c0 := c.1 + (data index).toUInt32
      (c0, c.2 + c0))
    (0, 0)

/-- `fletcher16_ru`.  `x` and `y` are 32-bit signed, `%` is the remainder
that takes the sign of the dividend. -/
def fletcher16Ru (data : Memory) (length : ℤ) (checksumOffset : ℤ) : UInt16 :=
  let c := fletcherSums data length.toNat
  let c0 := c.1 % 255
  let c1 := c.2 % 255
  let mul := UInt32.ofInt (length - checksumOffset) * c0
  let x := (mul - c0 - c1).toInt32
  let y := (c1 - mul - 1).toInt32
  let y := if 0 ≤ y then y + 1 else y
  let x := if x < 0 then x - 1 else x
  let x := x % 255
  let y := y % 255
  let x := if x = 0 then 255 else x
  let y := if y = 0 then 255 else y
  let y := y &&& 0x00FF
  ((x <<< 8) ||| y).toUInt32.toUInt16

/-- `lsa_checksum`: the checksum of a copy whose checksum field is zero, from
the third byte on. -/
def lsaChecksum (lsaHeader : Memory) (length : UInt16) : UInt16 :=
  let copy : Memory := fun i => if i = 16 ∨ i = 17 then 0 else lsaHeader i
  fletcher16Ru (copy.advance 2) (length.toNat - 2) 14

/-! ## What the checksum depends on -/

/-- The sums read the first `length` bytes. -/
theorem fletcherSums_congr {p q : Memory} {length : ℕ}
    (h : ∀ i < length, p i = q i) :
    fletcherSums p length = fletcherSums q length := by
  rw [fletcherSums, fletcherSums]
  apply List.foldl_ext
  intro c i hi
  simp only [h i (List.mem_range.mp hi)]

/-- The checksum depends neither on the age, in the first two bytes, nor on
the checksum field. -/
theorem lsaChecksum_congr {p q : Memory} {length : UInt16}
    (h : ∀ i, 2 ≤ i → i < length.toNat → i ≠ 16 → i ≠ 17 → p i = q i) :
    lsaChecksum p length = lsaChecksum q length := by
  have hsums : fletcherSums
      (Memory.advance (fun i => if i = 16 ∨ i = 17 then 0 else p i) 2)
        ((length.toNat : ℤ) - 2).toNat =
      fletcherSums
        (Memory.advance (fun i => if i = 16 ∨ i = 17 then 0 else q i) 2)
        ((length.toNat : ℤ) - 2).toNat := by
    apply fletcherSums_congr
    intro i hi
    simp only [Memory.advance_apply]
    split_ifs with hfield
    · rfl
    · rw [not_or] at hfield
      exact h (2 + i) (by omega) (by omega) hfield.1 hfield.2
  simp only [lsaChecksum, fletcher16Ru, hsums]

/-! ## The checksum is never zero -/

/-- The low byte of a nonzero number between -254 and 255 is not zero. -/
theorem checksum_ne_zero_of_low {y : Int32} (hlo : -255 < y.toInt)
    (hhi : y.toInt ≤ 255) (hy : y ≠ 0) (x : Int32) :
    ((x <<< 8) ||| (y &&& 0x00FF)).toUInt32.toUInt16 ≠ 0 := by
  intro h
  have hlow : y.toBitVec.setWidth 8 = 0#8 := by
    ext i hi
    have hbit := congrArg (fun w : UInt16 => w.toBitVec.getLsbD i) h
    have hmask : (255#16)[i] = true := by
      interval_cases i <;> simp
    have hshift : BitVec.smod 8#32 32#32 = 8#32 := by decide
    simp [hi, hmask, hshift, show i < 16 by omega,
      show i < 32 by omega] at hbit ⊢
    exact hbit
  have hnat : y.toBitVec.toNat % 256 = 0 := by
    simpa using congrArg BitVec.toNat hlow
  have hint : y.toInt = y.toBitVec.toInt := rfl
  rw [hint, BitVec.toInt_eq_toNat_cond] at hlo hhi
  apply hy
  apply Int32.toBitVec_inj.mp
  apply BitVec.eq_of_toNat_eq
  have hlt := y.toBitVec.isLt
  simp only [Int32.toBitVec_zero, BitVec.toNat_zero]
  split_ifs at hlo hhi <;> omega

/-- `fletcher16_ru` replaces a remainder of zero by 255, so neither byte of
its result is zero. -/
theorem fletcher16Ru_ne_zero (data : Memory) (length checksumOffset : ℤ) :
    fletcher16Ru data length checksumOffset ≠ 0 := by
  have hadjusted : ∀ y : Int32,
      -255 < (if y % 255 = 0 then 255 else y % 255).toInt ∧
        (if y % 255 = 0 then 255 else y % 255).toInt ≤ 255 ∧
        (if y % 255 = 0 then 255 else y % 255) ≠ 0 := by
    intro y
    split_ifs with hzero
    · decide
    · have hmod : (y % 255).toInt = y.toInt.tmod 255 := Int32.toInt_mod y 255
      rw [hmod]
      exact ⟨Int.lt_tmod_of_pos _ (by decide),
        (Int.tmod_lt_of_pos _ (by decide)).le, hzero⟩
  obtain ⟨hlo, hhi, hy⟩ := hadjusted _
  exact checksum_ne_zero_of_low hlo hhi hy _

/-- A computed checksum is never the zero that stands in an LSA before its
checksum is computed. -/
theorem lsaChecksum_ne_zero (lsaHeader : Memory) (length : UInt16) :
    lsaChecksum lsaHeader length ≠ 0 :=
  fletcher16Ru_ne_zero _ _ _

end OspfLite
