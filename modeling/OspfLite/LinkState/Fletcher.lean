import OspfLite.LinkState.Checksum
import OspfLite.Lib.ByteSums

/-!
# The LSA checksum as a Fletcher checksum

`fletcher16_ru` against the check of ISO 8473: over the bytes from the third on
the sum and the sum of the running sums are multiples of 255.  The two bytes of
the checksum are adjusted by sign before the remainder is taken.
-/

namespace OspfLite

/-! ## The final adjustment -/

/-- The result is made of the low bytes of `x` and `y`. -/
theorem toNat_packBytes (x y : Int32) :
    ((x <<< 8) ||| (y &&& 0x00FF)).toUInt32.toUInt16.toNat =
      (x.toInt % 256).toNat * 256 + (y.toInt % 256).toNat := by
  have happend : (((x <<< 8) ||| (y &&& 0x00FF)).toUInt32.toUInt16).toBitVec =
      x.toBitVec.setWidth 8 ++ y.toBitVec.setWidth 8 := by
    ext i hi
    have hmask : (255#16)[i] = decide (i < 8) := by
      interval_cases i <;> simp
    have hshift : BitVec.smod 8#32 32#32 = 8#32 := by decide
    have hbit := BitVec.getElem_append (x := x.toBitVec.setWidth 8)
      (y := y.toBitVec.setWidth 8) hi
    refine Eq.trans ?_ hbit.symm
    by_cases hlow : i < 8
    · simp [hmask, hshift, hlow]
    · simp [hmask, hshift, hlow]
  have hx : x.toInt = x.toBitVec.toInt := rfl
  have hy : y.toInt = y.toBitVec.toInt := rfl
  have hlow : (y.toBitVec.setWidth 8).toNat < 2 ^ 8 := BitVec.isLt _
  have hnat := congrArg BitVec.toNat happend
  rw [BitVec.toNat_append, ← Nat.shiftLeft_add_eq_or_of_lt hlow,
    Nat.shiftLeft_eq, BitVec.toNat_setWidth, BitVec.toNat_setWidth] at hnat
  rw [hx, hy, BitVec.toInt_eq_toNat_cond, BitVec.toInt_eq_toNat_cond]
  refine Eq.trans hnat ?_
  split_ifs <;> omega

/-- A remainder of C as the byte that stands for it: 255 replaces 0. -/
def remByte (v : ℤ) : ℕ :=
  ((if v.tmod 255 = 0 then 255 else v.tmod 255) % 256).toNat

/-- The byte of an adjusted number is right modulo 255, but for a negative
number of residue 1: the number below it has remainder 0. -/
theorem remByte_emod {u v : ℤ}
    (h : 0 ≤ u ∧ v = u ∨ u ≤ 0 ∧ v = u - 1) :
    (remByte v : ℤ) % 255 =
      if u ≤ 0 ∧ u % 255 = 1 then 0 else u % 255 := by
  rw [remByte, Int.tmod_eq_emod]
  split_ifs <;> omega


theorem toInt_sub_of_fits {a b : Int32}
    (hlo : -2147483648 ≤ a.toInt - b.toInt)
    (hhi : a.toInt - b.toInt < 2147483648) :
    (a - b).toInt = a.toInt - b.toInt := by
  rw [Int32.toInt_sub]
  exact Int.bmod_eq_of_le (by omega) (by omega)

/-- The final remainder of `fletcher16_ru`, with 255 in place of 0. -/
theorem remByte_toInt (v : Int32) :
    (remByte v.toInt : ℤ) =
      (if v % 255 = 0 then 255 else v % 255).toInt % 256 := by
  have hmod : (v % 255).toInt = v.toInt.tmod 255 := Int32.toInt_mod v 255
  have hzero : v % 255 = 0 ↔ v.toInt.tmod 255 = 0 := by
    rw [← hmod, ← Int32.toInt_inj]
    rfl
  rw [remByte, Int.toNat_of_nonneg (Int.emod_nonneg _ (by decide))]
  by_cases h : v % 255 = 0
  · rw [if_pos h, if_pos (hzero.mp h)]
    rfl
  · rw [if_neg h, if_neg (fun h' => h (hzero.mpr h')), hmod]

/-- The adjustment at the end of `fletcher16_ru`. -/
theorem toNat_adjusted {x y : Int32} (hx : -1000000 < x.toInt)
    (hy : y.toInt < 1000000) :
    (((let x := if x < 0 then x - 1 else x
        let x := x % 255
        if x = 0 then 255 else x) <<< 8) |||
      ((let y := if 0 ≤ y then y + 1 else y
        let y := y % 255
        if y = 0 then 255 else y) &&& 0x00FF)).toUInt32.toUInt16.toNat =
      remByte (if x.toInt < 0 then x.toInt - 1 else x.toInt) * 256 +
        remByte (if 0 ≤ y.toInt then y.toInt + 1 else y.toInt) := by
  have hxlo := x.le_toInt
  have hylo := y.le_toInt
  have hxhi := x.toInt_lt
  have hone : (1 : Int32).toInt = 1 := rfl
  have hzero : (0 : Int32).toInt = 0 := rfl
  have hx' : (if x < 0 then x - 1 else x).toInt =
      if x.toInt < 0 then x.toInt - 1 else x.toInt := by
    simp only [Int32.lt_iff_toInt_lt, hzero]
    split_ifs
    · rw [toInt_sub_of_fits (by omega) (by omega), hone]
    · rfl
  have hy' : (if 0 ≤ y then y + 1 else y).toInt =
      if 0 ≤ y.toInt then y.toInt + 1 else y.toInt := by
    simp only [Int32.le_iff_toInt_le, hzero]
    split_ifs
    · rw [Int32.toInt_add, hone]
      exact Int.bmod_eq_of_le (by omega) (by omega)
    · rfl
  rw [toNat_packBytes, ← hx', ← hy']
  simp only [← remByte_toInt, Int.toNat_natCast]

/-- The two bytes of `fletcher16_ru`, in terms of the residues of the sums. -/
theorem toNat_fletcher16Ru (data : Memory) {length offset : ℕ}
    (hoffset : offset ≤ length) (hlength : length ≤ 1480) {c0 c1 : ℕ}
    (hc0 : c0 = (fletcherSums data length).1.toNat % 255)
    (hc1 : c1 = (fletcherSums data length).2.toNat % 255) {x y : ℤ}
    (hx : x = ((length - offset) * c0 : ℕ) - c0 - c1)
    (hy : y = c1 - ((length - offset) * c0 : ℕ) - 1) :
    (fletcher16Ru data length offset).toNat =
      remByte (if x < 0 then x - 1 else x) * 256 +
        remByte (if 0 ≤ y then y + 1 else y) := by
  have hlt0 : c0 < 255 := hc0 ▸ Nat.mod_lt _ (by decide)
  have hlt1 : c1 < 255 := hc1 ▸ Nat.mod_lt _ (by decide)
  have hbound : (length - offset) * c0 ≤ 1480 * 254 :=
    Nat.mul_le_mul (by omega) (by omega)
  have hfactor : (UInt32.ofInt ((length : ℤ) - offset)).toNat =
      length - offset := by
    rw [UInt32.ofInt, UInt32.toNat_ofNat']
    omega
  obtain ⟨u0, hu0⟩ : ∃ u, u = (fletcherSums data length).1 % 255 := ⟨_, rfl⟩
  obtain ⟨u1, hu1⟩ : ∃ u, u = (fletcherSums data length).2 % 255 := ⟨_, rfl⟩
  have hn0 : u0.toNat = c0 := by
    rw [hu0, hc0]
    exact UInt32.toNat_mod _ 255
  have hn1 : u1.toNat = c1 := by
    rw [hu1, hc1]
    exact UInt32.toNat_mod _ 255
  obtain ⟨mul, hmul⟩ : ∃ mul,
      mul = UInt32.ofInt ((length : ℤ) - offset) * u0 := ⟨_, rfl⟩
  have hnmul : mul.toNat = (length - offset) * c0 := by
    rw [hmul, UInt32.toNat_mul, hfactor, hn0]
    omega
  have hi0 := toInt_toInt32 (u := u0) (by omega)
  have hi1 := toInt_toInt32 (u := u1) (by omega)
  have himul := toInt_toInt32 (u := mul) (by omega)
  have hone : (1 : UInt32).toInt32.toInt = 1 := rfl
  have hix : (mul - u0 - u1).toInt32.toInt = x := by
    have hfirst : (mul.toInt32 - u0.toInt32).toInt =
        mul.toInt32.toInt - u0.toInt32.toInt :=
      toInt_sub_of_fits (by omega) (by omega)
    rw [UInt32.toInt32_sub, UInt32.toInt32_sub,
      toInt_sub_of_fits (by omega) (by omega)]
    omega
  have hiy : (u1 - mul - 1).toInt32.toInt = y := by
    have hfirst : (u1.toInt32 - mul.toInt32).toInt =
        u1.toInt32.toInt - mul.toInt32.toInt :=
      toInt_sub_of_fits (by omega) (by omega)
    rw [UInt32.toInt32_sub, UInt32.toInt32_sub,
      toInt_sub_of_fits (by omega) (by omega)]
    omega
  rw [← hix, ← hiy, ← toNat_adjusted (by omega) (by omega)]
  rw [fletcher16Ru, Int.toNat_natCast, ← hu0, ← hu1, ← hmul]

/-! ## The sums -/

/-- No addition to the sums leaves the 32 bits. -/
theorem toNat_fletcherSums (data : Memory) {n : ℕ} (hn : n ≤ 1480) :
    (fletcherSums data n).1.toNat = data.total n ∧
      (fletcherSums data n).2.toNat = data.running n ∧
      data.total n ≤ 255 * n ∧ data.running n ≤ 377400 * n := by
  induction n with
  | zero => exact ⟨rfl, rfl, Nat.zero_le _, Nat.zero_le _⟩
  | succ n ih =>
      obtain ⟨htotal, hrunning, hboundTotal, hboundRunning⟩ := ih (by omega)
      have hbyte : (data n).toNat < 256 := (data n).toNat_lt
      have hsucc : fletcherSums data (n + 1) =
          ((fletcherSums data n).1 + (data n).toUInt32,
            (fletcherSums data n).2 +
              ((fletcherSums data n).1 + (data n).toUInt32)) := by
        rw [fletcherSums, List.range_succ, List.foldl_append,
          List.foldl_cons, List.foldl_nil, ← fletcherSums]
      have hfirst : ((fletcherSums data n).1 + (data n).toUInt32).toNat =
          data.total (n + 1) := by
        rw [UInt32.toNat_add, UInt8.toNat_toUInt32, data.total_succ]
        omega
      have htotal' := data.total_succ n
      have hrunning' := data.running_succ n
      rw [hsucc]
      refine ⟨hfirst, ?_, by omega, by omega⟩
      rw [UInt32.toNat_add, hfirst]
      omega

/-! ## The check -/

/-- The check of ISO 8473 over the first `n` bytes. -/
def PassesFletcher (p : Memory) (n : ℕ) : Prop :=
  p.total n % 255 = 0 ∧ p.running n % 255 = 0

instance (p : Memory) (n : ℕ) : Decidable (PassesFletcher p n) :=
  inferInstanceAs (Decidable (_ ∧ _))

/-- The bytes that cancel both sums, each of them perhaps one too small: the
check succeeds exactly if neither is. -/
theorem cancels_iff {t r m high low ex ey : ℤ}
    (hhigh : high ≡ m * t - t - r - ex [ZMOD 255])
    (hlow : low ≡ r - m * t - ey [ZMOD 255])
    (hex : ex = 0 ∨ ex = 1) (hey : ey = 0 ∨ ey = 1) :
    ((t + (high + low)) % 255 = 0 ∧
        (r + (m * high + (m - 1) * low)) % 255 = 0) ↔ ex = 0 ∧ ey = 0 := by
  have htotal : t + (high + low) ≡ -(ex + ey) [ZMOD 255] :=
    calc t + (high + low)
        ≡ t + (m * t - t - r - ex + (r - m * t - ey)) [ZMOD 255] :=
          (hhigh.add hlow).add_left t
      _ = -(ex + ey) := by ring
  have hrunning : r + (m * high + (m - 1) * low) ≡
      -(m * ex + (m - 1) * ey) [ZMOD 255] :=
    calc r + (m * high + (m - 1) * low)
        ≡ r + (m * (m * t - t - r - ex) + (m - 1) * (r - m * t - ey))
            [ZMOD 255] :=
          ((hhigh.mul_left m).add (hlow.mul_left (m - 1))).add_left r
      _ = -(m * ex + (m - 1) * ey) := by ring
  constructor
  · rintro ⟨hzero, -⟩
    rw [htotal.eq] at hzero
    omega
  · rintro ⟨rfl, rfl⟩
    rw [htotal.eq, hrunning.eq, Int.mul_zero, Int.mul_zero]
    exact ⟨rfl, rfl⟩

/-- What the adjustment makes of a number. -/
theorem remByte_modEq {u v : ℤ} (h : 0 ≤ u ∧ v = u ∨ u ≤ 0 ∧ v = u - 1) :
    ∃ e : ℤ, (e = 0 ∨ e = 1) ∧ (remByte v : ℤ) ≡ u - e [ZMOD 255] ∧
      (e = 0 ↔ ¬(u ≤ 0 ∧ u % 255 = 1)) := by
  have hbyte := remByte_emod h
  by_cases hlost : u ≤ 0 ∧ u % 255 = 1
  · rw [if_pos hlost] at hbyte
    refine ⟨1, Or.inr rfl, ?_, by omega⟩
    rw [Int.ModEq]
    omega
  · rw [if_neg hlost] at hbyte
    exact ⟨0, Or.inl rfl, by rw [Int.sub_zero, Int.ModEq, hbyte], by omega⟩

/-- When the high byte is lost. -/
theorem high_lost_iff (c0 : ℕ) {c1 m : ℕ} (hm : 4 ≤ m) (hc1 : c1 < 255) :
    (((m * c0 : ℕ) : ℤ) - c0 - c1 ≤ 0 ∧
        (((m * c0 : ℕ) : ℤ) - c0 - c1) % 255 = 1) ↔
      c0 = 0 ∧ c1 = 254 := by
  constructor
  · have hmul : 4 * c0 ≤ m * c0 := Nat.mul_le_mul_right c0 hm
    omega
  · rintro ⟨rfl, rfl⟩
    rw [Nat.mul_zero]
    decide

/-- When the low byte is lost. -/
theorem low_lost_iff (m c0 : ℕ) {c1 : ℕ} (hc1 : c1 < 255) :
    ((c1 : ℤ) - ((m * c0 : ℕ) : ℤ) ≤ 0 ∧
        ((c1 : ℤ) - ((m * c0 : ℕ) : ℤ)) % 255 = 1) ↔
      c1 ≡ m * c0 + 1 [MOD 255] ∧ c1 ≠ m * c0 + 1 := by
  rw [Nat.ModEq]
  generalize m * c0 = q
  omega

/-! ## The checksum of an LSA -/

/-- What the checksum covers, with the checksum field zero. -/
def coveredBytes (lsa : Memory) : Memory := (lsa.write16 16 0).advance 2

/-- The residues of the two sums over an LSA of `n` bytes. -/
def fletcherResidues (lsa : Memory) (n : ℕ) : ℕ × ℕ :=
  ((coveredBytes lsa).total (n - 2) % 255,
    (coveredBytes lsa).running (n - 2) % 255)

/-- The residues for which the adjustment leaves both bytes right: the high
byte is lost for the residues 0 and 254, the low one where the second residue
only wraps around to one more than the multiple of the first. -/
def BytesKept (n : ℕ) (c : ℕ × ℕ) : Prop :=
  ¬(c.1 = 0 ∧ c.2 = 254) ∧
    (c.2 ≡ (n - 16) * c.1 + 1 [MOD 255] → c.2 = (n - 16) * c.1 + 1)

instance (n : ℕ) (c : ℕ × ℕ) : Decidable (BytesKept n c) :=
  inferInstanceAs (Decidable (_ ∧ (_ → _)))

theorem lsaChecksum_eq (lsa : Memory) {length : UInt16}
    (hmin : 20 ≤ length.toNat) :
    lsaChecksum lsa length =
      fletcher16Ru (coveredBytes lsa) (length.toNat - 2 : ℕ) (14 : ℕ) := by
  have hcopy : (fun i => if i = 16 ∨ i = 17 then 0 else lsa i) =
      lsa.write16 16 0 := by
    funext i
    rw [Memory.write16]
    split_ifs <;> first | rfl | omega
  have hlength : (length.toNat : ℤ) - 2 = (length.toNat - 2 : ℕ) := by omega
  rw [lsaChecksum, hlength, coveredBytes, ← hcopy]
  rfl

/-- The sums with a checksum in place. -/
theorem stored_sums (lsa : Memory) {n : ℕ} (hmin : 20 ≤ n) (x : UInt16) :
    ((lsa.write16 16 (htons x)).advance 2).total (n - 2) =
        (coveredBytes lsa).total (n - 2) +
          (x.toNat / 256 + x.toNat % 256) ∧
      ((lsa.write16 16 (htons x)).advance 2).running (n - 2) =
        (coveredBytes lsa).running (n - 2) +
          ((n - 16) * (x.toNat / 256) + (n - 17) * (x.toNat % 256)) := by
  have hx : x.toNat < 65536 := x.toNat_lt
  have hstored : (lsa.write16 16 (htons x)).advance 2 =
      (coveredBytes lsa).write16 14 (htons x) := by
    rw [coveredBytes, ← Memory.advance_write16, Memory.write16_write16]
  have hlow : (htons x).toNat % 256 = x.toNat / 256 := by
    rw [toNat_htons]
    omega
  have hhigh : (htons x).toNat / 256 = x.toNat % 256 := by
    rw [toNat_htons]
    omega
  rw [hstored, Memory.total_write16 _ _ (by omega) rfl rfl,
    Memory.running_write16 _ _ (by omega) rfl rfl, hlow, hhigh]
  exact ⟨rfl, rfl⟩

/-- The two bytes of the checksum, up to the loss of the adjustment. -/
theorem lsaChecksum_bytes (lsa : Memory) (length : UInt16)
    (hmin : 20 ≤ length.toNat) (hmax : length.toNat ≤ 1480) {n c0 c1 : ℕ}
    (hn : n = length.toNat) (hc : fletcherResidues lsa n = (c0, c1)) :
    ∃ ex ey : ℤ, (ex = 0 ∨ ex = 1) ∧ (ey = 0 ∨ ey = 1) ∧
      (((lsaChecksum lsa length).toNat / 256 : ℕ) : ℤ) ≡
        ((n - 16) * c0 : ℕ) - c0 - c1 - ex [ZMOD 255] ∧
      (((lsaChecksum lsa length).toNat % 256 : ℕ) : ℤ) ≡
        c1 - ((n - 16) * c0 : ℕ) - ey [ZMOD 255] ∧
      (ex = 0 ∧ ey = 0 ↔ BytesKept n (c0, c1)) := by
  obtain ⟨hsum0, hsum1, -, -⟩ :=
    toNat_fletcherSums (coveredBytes lsa) (n := n - 2) (by omega)
  obtain ⟨hc0, hc1⟩ := Prod.mk.inj hc
  rw [← hsum0] at hc0
  rw [← hsum1] at hc1
  have hlt : c1 < 255 := hc1 ▸ Nat.mod_lt _ (by decide)
  have hfactor : n - 2 - 14 = n - 16 := by omega
  have hoffset : 14 ≤ n - 2 := by omega
  have hlength : n - 2 ≤ 1480 := by omega
  have hbytes := toNat_fletcher16Ru (coveredBytes lsa) hoffset hlength
    hc0.symm hc1.symm rfl rfl
  rw [hfactor, hn, ← lsaChecksum_eq lsa hmin, ← hn] at hbytes
  have hlost0 := high_lost_iff c0 (show 4 ≤ n - 16 by omega) hlt
  have hlost1 := low_lost_iff (n - 16) c0 hlt
  obtain ⟨u, hu⟩ : ∃ u : ℤ, u = ((n - 16) * c0 : ℕ) - c0 - c1 := ⟨_, rfl⟩
  obtain ⟨w, hw⟩ : ∃ w : ℤ, w = c1 - ((n - 16) * c0 : ℕ) := ⟨_, rfl⟩
  rw [← hu, ← hw] at hbytes
  rw [← hu] at hlost0
  rw [← hw] at hlost1
  have hhigh : 0 ≤ u ∧ (if u < 0 then u - 1 else u) = u ∨
      u ≤ 0 ∧ (if u < 0 then u - 1 else u) = u - 1 := by
    split_ifs <;> omega
  have hlow : 0 ≤ w ∧ (if 0 ≤ w - 1 then w - 1 + 1 else w - 1) = w ∨
      w ≤ 0 ∧ (if 0 ≤ w - 1 then w - 1 + 1 else w - 1) = w - 1 := by
    split_ifs <;> omega
  obtain ⟨ex, hex, hx, hkeptx⟩ := remByte_modEq hhigh
  obtain ⟨ey, hey, hy, hkepty⟩ := remByte_modEq hlow
  have hsmall : ∀ v, remByte v < 256 := by
    intro v
    rw [remByte]
    omega
  have hdiv : (lsaChecksum lsa length).toNat / 256 =
      remByte (if u < 0 then u - 1 else u) := by
    have := hsmall (if 0 ≤ w - 1 then w - 1 + 1 else w - 1)
    omega
  have hmod : (lsaChecksum lsa length).toNat % 256 =
      remByte (if 0 ≤ w - 1 then w - 1 + 1 else w - 1) := by
    have := hsmall (if 0 ≤ w - 1 then w - 1 + 1 else w - 1)
    omega
  rw [← hdiv] at hx
  rw [← hmod] at hy
  refine ⟨ex, ey, hex, hey, hu ▸ hx, hw ▸ hy, ?_⟩
  rw [hkeptx, hkepty, hlost0, hlost1, BytesKept]
  exact and_congr Iff.rfl not_and_not_right

/-- An LSA of 20 to 1480 bytes passes the check with its checksum in place if
and only if its residues leave both bytes right. -/
theorem lsaChecksum_passes_iff (lsa : Memory) (length : UInt16)
    (hmin : 20 ≤ length.toNat) (hmax : length.toNat ≤ 1480) :
    PassesFletcher
        ((lsa.write16 16 (htons (lsaChecksum lsa length))).advance 2)
        (length.toNat - 2) ↔
      BytesKept length.toNat (fletcherResidues lsa length.toNat) := by
  obtain ⟨htotal, hrunning⟩ :=
    stored_sums lsa hmin (lsaChecksum lsa length)
  obtain ⟨n, hn⟩ : ∃ n, n = length.toNat := ⟨_, rfl⟩
  obtain ⟨ex, ey, hex, hey, hhigh, hlow, hkept⟩ :=
    lsaChecksum_bytes lsa length hmin hmax hn rfl
  rw [← hn] at htotal hrunning ⊢
  rw [PassesFletcher, htotal, hrunning, fletcherResidues, ← hkept]
  generalize (lsaChecksum lsa length).toNat / 256 = high at *
  generalize (lsaChecksum lsa length).toNat % 256 = low at *
  generalize hm : n - 16 = m at *
  have hm' : n - 17 = m - 1 := by omega
  have hpos : 1 ≤ m := by omega
  generalize (coveredBytes lsa).total (n - 2) = t at *
  generalize (coveredBytes lsa).running (n - 2) = r at *
  have ht : ((t % 255 : ℕ) : ℤ) ≡ t [ZMOD 255] := Int.mod_modEq t 255
  have hr : ((r % 255 : ℕ) : ℤ) ≡ r [ZMOD 255] := Int.mod_modEq r 255
  have hmt : (((m * (t % 255) : ℕ) : ℤ)) ≡ m * t [ZMOD 255] := by
    rw [Nat.cast_mul]
    exact ht.mul_left m
  have hcancels := cancels_iff
    (hhigh.trans (((hmt.sub ht).sub hr).sub_right ex))
    (hlow.trans ((hr.sub hmt).sub_right ey)) hex hey
  rw [← hcancels, hm']
  have hpred : ((m - 1 : ℕ) : ℤ) = m - 1 := by omega
  have hweighted : (((m * high + (m - 1) * low : ℕ)) : ℤ) =
      m * high + (m - 1) * low := by
    rw [Nat.cast_add, Nat.cast_mul, Nat.cast_mul, hpred]
  rw [← hweighted]
  omega

/-- The Router LSA of 1.1.1.1 without links. -/
def linklessLsa (lsSeqNum : UInt32) : Memory :=
  Memory.ofList ((LSAHeader.hton
    ⟨1, 2, 1, 0x01010101, 0x01010101, lsSeqNum, 0, 24⟩).store ++ [0, 0, 0, 0])

/-- The first instance, which passes. -/
theorem lsaChecksum_passes_iff_firstInstance :
    PassesFletcher (((linklessLsa 0x80000001).write16 16
        (htons (lsaChecksum (linklessLsa 0x80000001) 24))).advance 2) 22 ↔
      BytesKept 24 (fletcherResidues (linklessLsa 0x80000001) 24) :=
  lsaChecksum_passes_iff (linklessLsa 0x80000001) 24 (by decide) (by decide)

/-- A later instance does not pass: its low byte is 255 instead of 1. -/
theorem later_instance_fails :
    ntohs ((linklessLsa 0x800000d9).load16 18) = 24 ∧
      ¬PassesFletcher (((linklessLsa 0x800000d9).write16 16
        (htons (lsaChecksum (linklessLsa 0x800000d9) 24))).advance 2) 22 := by
  decide +kernel

end OspfLite
