import OspfLite.Lib.ByteSums
import OspfLite.Router.Basic

/-!
# The checksum of OSPF packets

`ospf_checksum` against residues modulo 65535.  A word counts by its bytes: the
lower one with weight 1, the upper one with weight 256, and so does the byte
that is left over in a packet of odd length.
-/

namespace OspfLite

/-! ## The carry loop -/

theorem toNat_foldCarry (sum : UInt32) :
    (foldCarry sum).toNat = sum.toNat % 65536 + sum.toNat / 65536 := by
  have hsum : sum.toNat < 4294967296 := sum.toNat_lt
  have hlow : (sum &&& (0xffff : UInt32)).toNat = sum.toNat % 65536 :=
    Nat.and_two_pow_sub_one_eq_mod sum.toNat 16
  have hhigh : (sum >>> (16 : UInt32)).toNat = sum.toNat / 65536 :=
    Nat.shiftRight_eq_div_pow sum.toNat 16
  rw [foldCarry, UInt32.toNat_add, hlow, hhigh]
  omega

/-- The condition of the loop. -/
theorem carry_eq_zero_iff (sum : UInt32) :
    sum >>> (16 : UInt32) = 0 ↔ sum.toNat < 65536 := by
  have hhigh : (sum >>> (16 : UInt32)).toNat = sum.toNat / 65536 :=
    Nat.shiftRight_eq_div_pow sum.toNat 16
  rw [← UInt32.toNat_inj, hhigh, UInt32.toNat_zero]
  omega

/-- `while (sum >> 16)`, with a bound on the number of its tests. -/
def foldLoop : ℕ → UInt32 → Option UInt32
  | 0, _ => none
  | fuel + 1, sum =>
      if sum >>> (16 : UInt32) = 0 then some sum
      else foldLoop fuel (foldCarry sum)

/-- The loop ends after at most two rounds. -/
theorem foldLoop_eq {fuel : ℕ} (hfuel : 3 ≤ fuel) (sum : UInt32) :
    foldLoop fuel sum = some (foldCarries sum) := by
  obtain ⟨more, rfl⟩ : ∃ more, fuel = more + 3 := ⟨fuel - 3, by omega⟩
  have hsum : sum.toNat < 4294967296 := sum.toNat_lt
  have hdone : foldCarry (foldCarry sum) >>> (16 : UInt32) = 0 := by
    rw [carry_eq_zero_iff, toNat_foldCarry, toNat_foldCarry]
    omega
  rw [foldCarries]
  simp only [foldLoop, hdone, if_true]
  split_ifs <;> rfl

/-- The folded sum is the residue of the sum, where 65535 stands for 0 unless
the sum is 0. -/
theorem toNat_foldCarries (sum : UInt32) :
    (foldCarries sum).toNat < 65536 ∧
      (foldCarries sum).toNat % 65535 = sum.toNat % 65535 ∧
      ((foldCarries sum).toNat = 0 ↔ sum.toNat = 0) := by
  have hsum : sum.toNat < 4294967296 := sum.toNat_lt
  have hfirst := toNat_foldCarry sum
  have hsecond := toNat_foldCarry (foldCarry sum)
  rw [foldCarries]
  split_ifs with hdone hdone'
  · rw [carry_eq_zero_iff] at hdone
    omega
  · rw [carry_eq_zero_iff] at hdone'
    omega
  · omega

/-! ## The sum of the words -/

/-- `sum` after `n` rounds of the loop over the words. -/
def wordSum (data : Memory) (n : ℕ) : UInt32 :=
  (List.range n).foldl
    (fun sum i => sum + (data.load16 (2 * i)).toUInt32) 0

/-- `sum` before the carries are folded. -/
def ospfSum (data : Memory) (len : ℕ) : UInt32 :=
  if len % 2 = 1 then wordSum data (len / 2) + (data (len - 1)).toUInt32
  else wordSum data (len / 2)

theorem ospfChecksum_eq (data : Memory) (len : ℕ) :
    ospfChecksum data len =
      ~~~(foldCarries (ospfSum data len)).toUInt16 := rfl

theorem wordSum_succ (data : Memory) (n : ℕ) :
    wordSum data (n + 1) =
      wordSum data n + (data.load16 (2 * n)).toUInt32 := by
  rw [wordSum, List.range_succ, List.foldl_append, List.foldl_cons,
    List.foldl_nil, ← wordSum]

/-- No addition to the sum of the words leaves the 32 bits. -/
structure NeverOverflows (data : Memory) (len : ℕ) : Prop where
  words : ∀ i < len / 2, (wordSum data i).toNat +
    (data.load16 (2 * i)).toNat < 2 ^ 32
  trailing : len % 2 = 1 →
    (wordSum data (len / 2)).toNat + (data (len - 1)).toNat < 2 ^ 32

/-- The weight of a byte in the sum of little-endian words. -/
def wordWeight (i : ℕ) : ℕ := 256 ^ (i % 2)

theorem toNat_load16 (data : Memory) (k : ℕ) :
    (data.load16 k).toNat =
      (data k).toNat + (data (k + 1)).toNat * 256 := by
  have hlow : (data k).toNat < 256 := (data k).toNat_lt
  have hhigh : (data (k + 1)).toNat < 256 := (data (k + 1)).toNat_lt
  rw [Memory.load16, UInt16.toNat_ofNat']
  omega

/-- The sum of the words weighs their bytes, while it fits. -/
theorem toNat_wordSum (data : Memory) {n : ℕ} (hn : n ≤ 65536) :
    (wordSum data n).toNat = Memory.weighted wordWeight data (2 * n) ∧
      (wordSum data n).toNat ≤ 65535 * n := by
  induction n with
  | zero => exact ⟨rfl, Nat.zero_le _⟩
  | succ n ih =>
      obtain ⟨hsum, hbound⟩ := ih (by omega)
      have hword : (data.load16 (2 * n)).toNat < 65536 :=
        (data.load16 (2 * n)).toNat_lt
      have hadd : (wordSum data (n + 1)).toNat =
          (wordSum data n).toNat + (data.load16 (2 * n)).toNat := by
        rw [wordSum_succ, UInt32.toNat_add, UInt16.toNat_toUInt32]
        omega
      have heven : wordWeight (2 * n) = 1 := by
        rw [wordWeight, Nat.mul_mod_right, pow_zero]
      have hodd : wordWeight (2 * n + 1) = 256 := by
        rw [wordWeight, Nat.mul_add_mod, Nat.one_mod, pow_one]
      have hbytes := toNat_load16 data (2 * n)
      have hnext : Memory.weighted wordWeight data (2 * (n + 1)) =
          Memory.weighted wordWeight data (2 * n) +
            ((data (2 * n)).toNat + (data (2 * n + 1)).toNat * 256) := by
        rw [Nat.mul_add, Memory.weighted_succ, Memory.weighted_succ, heven,
          hodd]
        omega
      omega

/-- The accumulator is wide enough for two words of bytes. -/
theorem neverOverflows (data : Memory) {len : ℕ} (hlen : len ≤ 65536) :
    NeverOverflows data len where
  words i hi := by
    have hsum := (toNat_wordSum data (n := i) (by omega)).2
    have hword : (data.load16 (2 * i)).toNat < 65536 :=
      (data.load16 (2 * i)).toNat_lt
    omega
  trailing _ := by
    have hsum := (toNat_wordSum data (n := len / 2) (by omega)).2
    have hbyte : (data (len - 1)).toNat < 256 := (data (len - 1)).toNat_lt
    omega

/-- The sum weighs all bytes of the packet alike, also the last one of an odd
number. -/
theorem toNat_ospfSum (data : Memory) {len : ℕ} (hlen : len ≤ 65536) :
    (ospfSum data len).toNat = Memory.weighted wordWeight data len := by
  have hsum := (toNat_wordSum data (n := len / 2) (by omega)).1
  rw [ospfSum]
  split_ifs with hodd
  · have hlast : len = 2 * (len / 2) + 1 := by omega
    have heven : wordWeight (2 * (len / 2)) = 1 := by
      rw [wordWeight, Nat.mul_mod_right, pow_zero]
    have hfits := (neverOverflows data hlen).trailing hodd
    have hadd : (wordSum data (len / 2) +
        (data (len - 1)).toUInt32).toNat =
          (wordSum data (len / 2)).toNat + (data (len - 1)).toNat := by
      rw [UInt32.toNat_add, UInt8.toNat_toUInt32]
      exact Nat.mod_eq_of_lt hfits
    have hbyte : len - 1 = 2 * (len / 2) := by omega
    rw [hadd, hsum, hbyte, ← Nat.one_mul (data _).toNat, ← heven,
      ← Memory.weighted_succ, ← hlast]
  · have hall : 2 * (len / 2) = len := by omega
    rw [hsum, hall]

/-- The checksum is the complement of the folded sum. -/
theorem toNat_ospfChecksum (data : Memory) (len : ℕ) :
    (ospfChecksum data len).toNat =
      65535 - (foldCarries (ospfSum data len)).toNat := by
  have hfolded := (toNat_foldCarries (ospfSum data len)).1
  have hsize : UInt16.size = 65536 := rfl
  rw [ospfChecksum_eq, UInt16.toNat_not, UInt32.toNat_toUInt16]
  omega

/-- A packet passes if its sum is a multiple of 65535, but not 0. -/
theorem ospfChecksum_eq_zero_iff (data : Memory) {len : ℕ}
    (hlen : len ≤ 65536) :
    ospfChecksum data len = 0 ↔
      Memory.weighted wordWeight data len % 65535 = 0 ∧
        Memory.weighted wordWeight data len ≠ 0 := by
  obtain ⟨hlt, hres, hzero⟩ := toNat_foldCarries (ospfSum data len)
  rw [toNat_ospfSum data hlen] at hres hzero
  rw [← UInt16.toNat_inj, toNat_ospfChecksum, UInt16.toNat_zero]
  omega

/-! ## Storing words -/

/-- The bytes of a word weigh as much as the word, wherever it lies. -/
theorem wordWeight_bytes (k low high : ℕ) :
    wordWeight k * low + wordWeight (k + 1) * high ≡
      wordWeight k * (low + high * 256) [MOD 65535] := by
  rcases Nat.mod_two_eq_zero_or_one k with heven | hodd
  · have hnext : (k + 1) % 2 = 1 := by omega
    rw [wordWeight, wordWeight, heven, hnext, pow_zero, pow_one,
      Nat.one_mul, Nat.one_mul, Nat.mul_comm 256]
  · have hnext : (k + 1) % 2 = 0 := by omega
    rw [wordWeight, wordWeight, hodd, hnext, pow_zero, pow_one, Nat.ModEq]
    omega

/-- Exchanging a word moves the sum by the difference of the words, times the
weight of the word. -/
theorem weighted_write16_modEq (data : Memory) {k len : ℕ}
    (hk : k + 1 < len) (x : UInt16) :
    Memory.weighted wordWeight (data.write16 k x) len +
        wordWeight k * (data.load16 k).toNat ≡
      Memory.weighted wordWeight data len + wordWeight k * x.toNat
        [MOD 65535] := by
  have hbytes : x.toNat % 256 + x.toNat / 256 * 256 = x.toNat := by omega
  have hold := wordWeight_bytes k (data k).toNat (data (k + 1)).toNat
  have hnew := wordWeight_bytes k (x.toNat % 256) (x.toNat / 256)
  rw [← toNat_load16] at hold
  rw [hbytes] at hnew
  have hexchange := data.weighted_write16 wordWeight hk x
  calc _ ≡ Memory.weighted wordWeight (data.write16 k x) len +
        (wordWeight k * (data k).toNat +
          wordWeight (k + 1) * (data (k + 1)).toNat) [MOD 65535] :=
      (hold.add_left _).symm
    _ = Memory.weighted wordWeight data len +
        (wordWeight k * (x.toNat % 256) +
          wordWeight (k + 1) * (x.toNat / 256)) := hexchange
    _ ≡ _ [MOD 65535] := hnew.add_left _

/-- The weights can be cancelled: 256 times 256 is 1. -/
theorem wordWeight_cancel {k a b : ℕ}
    (h : wordWeight k * a ≡ wordWeight k * b [MOD 65535]) :
    a ≡ b [MOD 65535] := by
  have hcoprime : Nat.gcd 65535 (wordWeight k) = 1 := by
    rcases Nat.mod_two_eq_zero_or_one k with heven | hodd
    · rw [wordWeight, heven]
      decide
    · rw [wordWeight, hodd]
      decide
  exact Nat.ModEq.cancel_left_of_coprime hcoprime h

/-- With the checksum in place of a word that was 0 the packet passes. -/
theorem ospfChecksum_write16 (data : Memory) {len k : ℕ}
    (hlen : len ≤ 65536) (hk : 2 * k + 1 < len)
    (hzero : data.load16 (2 * k) = 0) :
    ospfChecksum (data.write16 (2 * k) (ospfChecksum data len)) len = 0 := by
  obtain ⟨hlt, hres, hnull⟩ := toNat_foldCarries (ospfSum data len)
  rw [toNat_ospfSum data hlen] at hres hnull
  have hexact := data.weighted_write16 wordWeight hk (ospfChecksum data len)
  have heven : wordWeight (2 * k) = 1 := by
    rw [wordWeight, Nat.mul_mod_right, pow_zero]
  have hodd : wordWeight (2 * k + 1) = 256 := by
    rw [wordWeight, Nat.mul_add_mod, Nat.one_mod, pow_one]
  have hbytes := toNat_load16 data (2 * k)
  rw [hzero, UInt16.toNat_zero] at hbytes
  rw [heven, hodd, toNat_ospfChecksum] at hexact
  rw [ospfChecksum_eq_zero_iff _ hlen]
  omega

/-- A packet that passes does not pass with one word exchanged for another
residue. -/
theorem ospfChecksum_write16_ne_zero (data : Memory) {len k : ℕ}
    (hlen : len ≤ 65536) (hk : k + 1 < len)
    (hpasses : ospfChecksum data len = 0) {x : UInt16}
    (hx : ¬x.toNat ≡ (data.load16 k).toNat [MOD 65535]) :
    ospfChecksum (data.write16 k x) len ≠ 0 := by
  intro hpasses'
  have hold := ((ospfChecksum_eq_zero_iff data hlen).mp hpasses).1
  have hnew := ((ospfChecksum_eq_zero_iff _ hlen).mp hpasses').1
  have hsum := weighted_write16_modEq data hk x
  have hsame : Memory.weighted wordWeight (data.write16 k x) len ≡
      Memory.weighted wordWeight data len [MOD 65535] :=
    hnew.trans hold.symm
  exact hx (wordWeight_cancel (Nat.ModEq.add_left_cancel hsame hsum)).symm

/-- What `send_ospf_packet` assembles passes. -/
theorem Router.ospfPacket_passes (r : Router) (auType : UInt32)
    (type : UInt8) (data : List UInt8)
    (hdata : data.length + ospfHeaderSize ≤ 65536) :
    ospfChecksum (Memory.ofList (r.ospfPacket auType type data))
      (data.length + ospfHeaderSize) = 0 := by
  rw [ospfPacket, Memory.ofList_store16 _ _ 0]
  exact ospfChecksum_write16 _ (k := 6) (by omega)
    (by rw [ospfHeaderSize]; omega) (Memory.load16_of_drop rfl)

/-- `ospf_checksum` completes a packet of at most 1480 bytes: the fold ends,
no addition overflows, the packet with its checksum passes, and with any of its
words exchanged for another residue it does not. -/
theorem ospfChecksum_correct (data : Memory) (len k : ℕ) (hlen : len ≤ 1480)
    (hk : k < len / 2) (hzero : data.load16 (2 * k) = 0) :
    let filled := data.write16 (2 * k) (ospfChecksum data len)
    ospfChecksum filled len = 0 ∧
      (∀ packet : Memory, NeverOverflows packet len ∧ ∀ fuel ≥ 3,
        foldLoop fuel (ospfSum packet len) =
          some (foldCarries (ospfSum packet len))) ∧
      ∀ offset x, offset + 1 < len →
        ¬x.toNat ≡ (filled.load16 offset).toNat [MOD 65535] →
        ospfChecksum (filled.write16 offset x) len ≠ 0 := by
  intro filled
  have hpasses : ospfChecksum filled len = 0 :=
    ospfChecksum_write16 data (by omega) (by omega) hzero
  refine ⟨hpasses, fun packet => ⟨neverOverflows packet (by omega),
    fun fuel hfuel => foldLoop_eq hfuel _⟩, ?_⟩
  intro offset x hoffset hx
  exact ospfChecksum_write16_ne_zero filled (by omega) hoffset hpasses hx

/-- A packet of odd length with the field at offset 12. -/
theorem ospfChecksum_correct_hello :
    ospfChecksum ((Memory.ofList [2, 1, 0, 45]).write16 12
      (ospfChecksum (Memory.ofList [2, 1, 0, 45]) 45)) 45 = 0 :=
  (ospfChecksum_correct (Memory.ofList [2, 1, 0, 45]) 45 6 (by decide)
    (by decide) (by decide)).1

end OspfLite
