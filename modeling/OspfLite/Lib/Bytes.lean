import Mathlib.Tactic

/-!
# Memory of a little-endian host

Bytes behind a pointer, words loaded from and stored to them in little-endian
order, and the conversions between host and network byte order.  Nothing here
refers to a packet format.
-/

namespace OspfLite

/-- The memory behind a pointer: the byte at every offset.  A load past the
object the pointer was meant for returns whatever lies there. -/
abbrev Memory := ℕ → UInt8

namespace Memory

/-- The memory that starts with the given bytes. -/
def ofList (bytes : List UInt8) : Memory :=
  fun i => bytes.getD i 0

/-- Pointer arithmetic: the memory behind `p + k`. -/
def advance (p : Memory) (k : ℕ) : Memory :=
  fun i => p (k + i)

/-- The first `n` bytes, as `memcpy` takes them. -/
def take (p : Memory) (n : ℕ) : List UInt8 :=
  (List.range n).map p

def load16 (p : Memory) (k : ℕ) : UInt16 :=
  UInt16.ofNat ((p k).toNat + (p (k + 1)).toNat * 256)

def load32 (p : Memory) (k : ℕ) : UInt32 :=
  UInt32.ofNat ((p k).toNat + (p (k + 1)).toNat * 256 +
    (p (k + 2)).toNat * 65536 + (p (k + 3)).toNat * 16777216)

/-- The memory after a 16-bit store at an offset. -/
def write16 (p : Memory) (k : ℕ) (x : UInt16) : Memory :=
  fun i => if i = k then UInt8.ofNat x.toNat
    else if i = k + 1 then UInt8.ofNat (x.toNat / 256) else p i

end Memory

def store16 (x : UInt16) : List UInt8 :=
  [UInt8.ofNat x.toNat, UInt8.ofNat (x.toNat / 256)]

def store32 (x : UInt32) : List UInt8 :=
  [UInt8.ofNat x.toNat, UInt8.ofNat (x.toNat / 256),
    UInt8.ofNat (x.toNat / 65536), UInt8.ofNat (x.toNat / 16777216)]

/-- The number of rounds of `for (; p != end; p += step)`, where `p` starts at
`start`.  The test is for equality, so the loop ends only if the end lies
ahead by a multiple of the step. -/
def pointerSteps (start stop step : ℕ) : Option ℕ :=
  if start ≤ stop ∧ (stop - start) % step = 0 then
    some ((stop - start) / step)
  else
    none

/-! ## Byte order -/

/-- `htons` on a little-endian host exchanges the two bytes. -/
def htons (x : UInt16) : UInt16 :=
  UInt16.ofNat (x.toNat % 256 * 256 + x.toNat / 256)

/-- `htonl` on a little-endian host reverses the four bytes. -/
def htonl (x : UInt32) : UInt32 :=
  UInt32.ofNat (x.toNat % 256 * 16777216 + x.toNat / 256 % 256 * 65536 +
    x.toNat / 65536 % 256 * 256 + x.toNat / 16777216)

/-- The inverse conversion is the same exchange of bytes. -/
def ntohs (x : UInt16) : UInt16 := htons x

/-- The inverse conversion is the same reversal of bytes. -/
def ntohl (x : UInt32) : UInt32 := htonl x

theorem toNat_htons (x : UInt16) :
    (htons x).toNat = x.toNat % 256 * 256 + x.toNat / 256 := by
  have hx : x.toNat < 65536 := x.toNat_lt
  rw [htons, UInt16.toNat_ofNat']
  apply Nat.mod_eq_of_lt
  omega

theorem toNat_htonl (x : UInt32) :
    (htonl x).toNat = x.toNat % 256 * 16777216 +
      x.toNat / 256 % 256 * 65536 + x.toNat / 65536 % 256 * 256 +
      x.toNat / 16777216 := by
  have hx : x.toNat < 4294967296 := x.toNat_lt
  rw [htonl, UInt32.toNat_ofNat']
  apply Nat.mod_eq_of_lt
  omega

/-- The four bytes of a 32-bit number. -/
theorem exists_four_bytes (n : ℕ) (hn : n < 4294967296) :
    ∃ a b c d, a < 256 ∧ b < 256 ∧ c < 256 ∧ d < 256 ∧
      n = a + b * 256 + c * 65536 + d * 16777216 :=
  ⟨n % 256, n / 256 % 256, n / 65536 % 256, n / 16777216,
    by omega, by omega, by omega, by omega, by omega⟩

/-- `htonl` on a number given by its bytes. -/
theorem toNat_htonl_of_bytes {x : UInt32} {a b c d : ℕ}
    (ha : a < 256) (hb : b < 256) (hc : c < 256)
    (hx : x.toNat = a + b * 256 + c * 65536 + d * 16777216) :
    (htonl x).toNat = d + c * 256 + b * 65536 + a * 16777216 := by
  rw [toNat_htonl, hx]
  have h₀ : (a + b * 256 + c * 65536 + d * 16777216) % 256 = a := by omega
  have h₁ : (a + b * 256 + c * 65536 + d * 16777216) / 256 % 256 = b := by
    omega
  have h₂ : (a + b * 256 + c * 65536 + d * 16777216) / 65536 % 256 = c := by
    omega
  have h₃ : (a + b * 256 + c * 65536 + d * 16777216) / 16777216 = d := by
    omega
  rw [h₀, h₁, h₂, h₃]
  omega

@[simp] theorem htons_htons (x : UInt16) : htons (htons x) = x := by
  have hx : x.toNat < 65536 := x.toNat_lt
  apply UInt16.toNat_inj.mp
  rw [toNat_htons, toNat_htons]
  omega

@[simp] theorem htonl_htonl (x : UInt32) : htonl (htonl x) = x := by
  obtain ⟨a, b, c, d, ha, hb, hc, hd, hx⟩ :=
    exists_four_bytes x.toNat x.toNat_lt
  have hswap := toNat_htonl_of_bytes ha hb hc hx
  apply UInt32.toNat_inj.mp
  rw [toNat_htonl_of_bytes hd hc hb hswap, hx]

@[simp] theorem ntohs_htons (x : UInt16) : ntohs (htons x) = x :=
  htons_htons x

@[simp] theorem ntohl_htonl (x : UInt32) : ntohl (htonl x) = x :=
  htonl_htonl x

/-- A 16-bit value widened to 32 bits, byte-reversed and narrowed again is
lost: its two bytes end up in the upper half. -/
@[simp] theorem toUInt16_htonl_toUInt32 (x : UInt16) :
    (htonl x.toUInt32).toUInt16 = 0 := by
  have hx : x.toNat < 65536 := x.toNat_lt
  have hwide : x.toUInt32.toNat =
      x.toNat % 256 + x.toNat / 256 * 256 + 0 * 65536 + 0 * 16777216 := by
    rw [UInt16.toNat_toUInt32]
    omega
  apply UInt16.toNat_inj.mp
  rw [UInt32.toNat_toUInt16,
    toNat_htonl_of_bytes (by omega) (by omega) (by omega) hwide,
    UInt16.toNat_zero]
  omega

/-- A 32-bit value that is small is the same when it is taken as signed. -/
theorem toInt_toInt32 {u : UInt32} (hu : u.toNat < 2147483648) :
    u.toInt32.toInt = u.toNat := by
  have hdef : u.toInt32.toInt = u.toBitVec.toInt := rfl
  have hnat : u.toBitVec.toNat = u.toNat := rfl
  rw [hdef, BitVec.toInt_eq_toNat_cond, hnat, if_pos (by omega)]

/-! ## Loading what was stored -/

@[simp] theorem length_store16 (x : UInt16) : (store16 x).length = 2 := rfl

@[simp] theorem length_store32 (x : UInt32) : (store32 x).length = 4 := rfl

namespace Memory

@[simp] theorem advance_apply (p : Memory) (k i : ℕ) :
    p.advance k i = p (k + i) := rfl

@[simp] theorem advance_zero (p : Memory) : p.advance 0 = p := by
  funext i
  simp

@[simp] theorem advance_advance (p : Memory) (j k : ℕ) :
    (p.advance j).advance k = p.advance (j + k) := by
  funext i
  simp [Nat.add_assoc]

@[simp] theorem load16_advance (p : Memory) (j k : ℕ) :
    (p.advance j).load16 k = p.load16 (j + k) := rfl

@[simp] theorem load32_advance (p : Memory) (j k : ℕ) :
    (p.advance j).load32 k = p.load32 (j + k) := rfl

/-- Advancing past a list that starts the memory. -/
theorem advance_ofList_append (xs ys : List UInt8) (k : ℕ)
    (hk : k = xs.length) :
    (ofList (xs ++ ys)).advance k = ofList ys := by
  funext i
  subst hk
  simp [ofList, List.getElem?_append_right]

/-- `memcpy` of a list that starts the memory. -/
@[simp] theorem take_ofList_append (xs ys : List UInt8) :
    (ofList (xs ++ ys)).take xs.length = xs := by
  apply List.ext_getElem
  · simp [take]
  · intro i hi hi'
    simp [take, ofList, List.getElem?_append_left hi',
      List.getElem?_eq_getElem hi']

@[simp] theorem load16_store16 (x : UInt16) (rest : List UInt8) :
    (ofList (store16 x ++ rest)).load16 0 = x := by
  have hx : x.toNat < 65536 := x.toNat_lt
  apply UInt16.toNat_inj.mp
  simp only [load16, ofList, store16, UInt16.toNat_ofNat', List.cons_append,
    List.getD_cons_zero, List.getD_cons_succ, UInt8.toNat_ofNat']
  omega

@[simp] theorem load32_store32 (x : UInt32) (rest : List UInt8) :
    (ofList (store32 x ++ rest)).load32 0 = x := by
  have hx : x.toNat < 4294967296 := x.toNat_lt
  apply UInt32.toNat_inj.mp
  simp only [load32, ofList, store32, UInt32.toNat_ofNat', List.cons_append,
    List.getD_cons_zero, List.getD_cons_succ, UInt8.toNat_ofNat']
  omega

theorem ofList_apply_eq_drop (bytes : List UInt8) (k i : ℕ) :
    ofList bytes (k + i) = ofList (bytes.drop k) i := by
  simp [ofList]

/-- A 16-bit load finds the word stored at its offset. -/
theorem load16_of_drop {bytes rest : List UInt8} {k : ℕ} {x : UInt16}
    (h : bytes.drop k = store16 x ++ rest) :
    (ofList bytes).load16 k = x := by
  have hload := load16_store16 x rest
  rw [← h] at hload
  simpa only [load16, ← ofList_apply_eq_drop, Nat.zero_add, Nat.add_zero]
    using hload

/-- A 32-bit load finds the word stored at its offset. -/
theorem load32_of_drop {bytes rest : List UInt8} {k : ℕ} {x : UInt32}
    (h : bytes.drop k = store32 x ++ rest) :
    (ofList bytes).load32 k = x := by
  have hload := load32_store32 x rest
  rw [← h] at hload
  simpa only [load32, ← ofList_apply_eq_drop, Nat.zero_add, Nat.add_zero]
    using hload

/-- The bytes next to a stored word stay. -/
theorem write16_apply_of_ne (p : Memory) {k i : ℕ} (x : UInt16) (hi : i ≠ k)
    (hi' : i ≠ k + 1) : p.write16 k x i = p i := by
  rw [write16, if_neg hi, if_neg hi']

theorem write16_write16 (p : Memory) (k : ℕ) (x y : UInt16) :
    (p.write16 k x).write16 k y = p.write16 k y := by
  funext i
  simp only [write16]
  split_ifs <;> rfl

theorem advance_write16 (p : Memory) (j k : ℕ) (x : UInt16) :
    (p.write16 (j + k) x).advance j = (p.advance j).write16 k x := by
  funext i
  simp only [write16, advance_apply, Nat.add_assoc, Nat.add_left_cancel_iff]

theorem ofList_append_apply (before after : List UInt8) (i : ℕ) :
    ofList (before ++ after) (before.length + i) = ofList after i :=
  congrFun (advance_ofList_append before after _ rfl) i

/-- A stored word exchanged for another one. -/
theorem ofList_store16 (before after : List UInt8) (x y : UInt16) :
    ofList (before ++ store16 y ++ after) =
      (ofList (before ++ store16 x ++ after)).write16 before.length y := by
  funext i
  rw [write16]
  by_cases hi : i < before.length
  · rw [if_neg (by omega), if_neg (by omega), List.append_assoc,
      List.append_assoc]
    simp [ofList, List.getElem?_append_left hi]
  · obtain ⟨j, rfl⟩ : ∃ j, i = before.length + j :=
      ⟨i - before.length, by omega⟩
    rw [List.append_assoc, List.append_assoc, ofList_append_apply,
      ofList_append_apply]
    match j with
    | 0 =>
        rw [if_pos (Nat.add_zero _)]
        rfl
    | 1 =>
        rw [if_neg (by omega), if_pos rfl]
        rfl
    | j + 2 =>
        rw [if_neg (by omega), if_neg (by omega)]
        rfl

/-- Records of one size that were stored one after the other are loaded one
after the other, whatever follows them. -/
theorem map_load_flatMap_store {α : Type*} {load : Memory → α}
    {store : α → List UInt8} {size : ℕ}
    (hsize : ∀ a, (store a).length = size)
    (hload : ∀ a rest, load (ofList (store a ++ rest)) = a) (as : List α)
    (rest : List UInt8) :
    (List.range as.length).map
      (fun i => load ((ofList (as.flatMap store ++ rest)).advance
        (size * i))) = as := by
  induction as with
  | nil => rfl
  | cons a as ih =>
      have hfirst : load ((ofList ((a :: as).flatMap store ++ rest)).advance
          (size * 0)) = a := by
        rw [Nat.mul_zero, advance_zero, List.flatMap_cons, List.append_assoc]
        exact hload a _
      have hrest : ∀ i, (ofList ((a :: as).flatMap store ++ rest)).advance
          (size * (i + 1)) =
            (ofList (as.flatMap store ++ rest)).advance (size * i) := by
        intro i
        rw [Nat.mul_succ, Nat.add_comm, ← advance_advance, List.flatMap_cons,
          List.append_assoc, advance_ofList_append _ _ _ (hsize a).symm]
      rw [List.length_cons, List.range_succ_eq_map, List.map_cons, hfirst,
        List.map_map]
      have htail := ih
      simp only [← hrest] at htail
      exact congrArg (a :: ·) htail

/-! ## A part of the memory -/

/-- The memories agree on the first `n` bytes. -/
def AgreeBelow (n : ℕ) (p q : Memory) : Prop :=
  ∀ i < n, p i = q i

/-- The memory starts with the given bytes, whatever lies behind them. -/
def StartsWith (p : Memory) (bytes : List UInt8) : Prop :=
  AgreeBelow bytes.length p (ofList bytes)

variable {p q : Memory} {n k : ℕ} {xs ys : List UInt8}

theorem AgreeBelow.mono (h : AgreeBelow n p q) (hk : k ≤ n) :
    AgreeBelow k p q :=
  fun i hi => h i (Nat.lt_of_lt_of_le hi hk)

theorem AgreeBelow.advance (h : AgreeBelow (k + n) p q) :
    AgreeBelow n (p.advance k) (q.advance k) :=
  fun i hi => h (k + i) (Nat.add_lt_add_left hi k)

theorem AgreeBelow.load16 (h : AgreeBelow n p q) (hk : k + 2 ≤ n) :
    p.load16 k = q.load16 k := by
  rw [Memory.load16, Memory.load16, h k (by omega), h (k + 1) (by omega)]

theorem AgreeBelow.load32 (h : AgreeBelow n p q) (hk : k + 4 ≤ n) :
    p.load32 k = q.load32 k := by
  rw [Memory.load32, Memory.load32, h k (by omega), h (k + 1) (by omega),
    h (k + 2) (by omega), h (k + 3) (by omega)]

theorem AgreeBelow.take (h : AgreeBelow n p q) (hk : k ≤ n) :
    p.take k = q.take k :=
  List.map_congr_left fun i hi =>
    h i (Nat.lt_of_lt_of_le (List.mem_range.mp hi) hk)

theorem ofList_append_of_lt {i : ℕ} (hi : i < xs.length) :
    ofList (xs ++ ys) i = ofList xs i := by
  simp [ofList, List.getElem?_append_left hi]

theorem StartsWith.left (h : p.StartsWith (xs ++ ys)) : p.StartsWith xs := by
  intro i hi
  rw [h i (by rw [List.length_append]; omega), ofList_append_of_lt hi]

theorem StartsWith.right (h : p.StartsWith (xs ++ ys)) :
    (p.advance xs.length).StartsWith ys := by
  intro i hi
  rw [advance_apply, h _ (by rw [List.length_append]; omega),
    ofList_append_apply]

/-- As many of the bytes behind them as are needed can be written down. -/
theorem StartsWith.exists_agreeBelow (h : p.StartsWith xs) (n : ℕ) :
    ∃ rest, AgreeBelow n p (ofList (xs ++ rest)) := by
  refine ⟨(p.advance xs.length).take n, fun i hi => ?_⟩
  by_cases hx : i < xs.length
  · rw [h i hx, ofList_append_of_lt hx]
  · obtain ⟨j, rfl⟩ := Nat.exists_eq_add_of_le (Nat.le_of_not_lt hx)
    rw [ofList_append_apply]
    have hj : j < n := by omega
    simp [ofList, Memory.take, hj]

end Memory

end OspfLite
