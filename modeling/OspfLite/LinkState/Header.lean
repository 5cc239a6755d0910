import OspfLite.Lib.Bytes

/-!
# LSA headers

The twenty bytes every LSA starts with, their conversion between host and
network order, and the comparison that decides which of two instances of an
LSA is the more recent one.
-/

namespace OspfLite

/-- `MAX_AGE` of `const.h`. -/
def maxAge : UInt16 := 3600

/-- `MAX_AGE_DIFF` of `const.h`. -/
def maxAgeDiff : ℕ := 900

/-- `INITIAL_SEQUENCE_NUMBER` of `const.h`. -/
def initialSequenceNumber : UInt32 := 0x80000001

/-- `LSA_ROUTER` of `LSAType`. -/
def lsaRouter : UInt8 := 1

/-- `LSA_NETWORK` of `LSAType`. -/
def lsaNetwork : UInt8 := 2

/-- `LSA_ASEXTERNAL` of `LSAType`. -/
def lsaAsExternal : UInt8 := 5

/-- `LSAHeader`.  The same record is used for a header in host order and for
the raw fields of one in network order. -/
structure LSAHeader where
  lsAge : UInt16
  options : UInt8
  lsType : UInt8
  linkStateId : UInt32
  advertisingRouter : UInt32
  lsSeqNum : UInt32
  lsChecksum : UInt16
  length : UInt16
deriving DecidableEq, Repr

namespace LSAHeader

/-- An LSA is of one kind only. -/
theorem ne_router_of_network {h : LSAHeader}
    (hnetwork : h.lsType = lsaNetwork) : h.lsType ≠ lsaRouter := by
  rw [hnetwork]
  decide

/-- `sizeof(LSAHeader)`. -/
def size : ℕ := 20

/-- The raw fields a cast of the pointer to `LSAHeader*` gives. -/
def load (p : Memory) : LSAHeader where
  lsAge := p.load16 0
  options := p 2
  lsType := p 3
  linkStateId := p.load32 4
  advertisingRouter := p.load32 8
  lsSeqNum := p.load32 12
  lsChecksum := p.load16 16
  length := p.load16 18

/-- The bytes of the record as it lies in memory. -/
def store (h : LSAHeader) : List UInt8 :=
  store16 h.lsAge ++ [h.options, h.lsType] ++ store32 h.linkStateId ++
    store32 h.advertisingRouter ++ store32 h.lsSeqNum ++
    store16 h.lsChecksum ++ store16 h.length

/-- `LSAHeader::ntoh`.  The age goes through the 32-bit conversion although
the field has 16 bits. -/
def ntoh (netHeader : LSAHeader) : LSAHeader where
  lsAge := (ntohl netHeader.lsAge.toUInt32).toUInt16
  options := netHeader.options
  lsType := netHeader.lsType
  linkStateId := ntohl netHeader.linkStateId
  advertisingRouter := ntohl netHeader.advertisingRouter
  lsSeqNum := ntohl netHeader.lsSeqNum
  lsChecksum := ntohs netHeader.lsChecksum
  length := ntohs netHeader.length

/-- `LSAHeader::hton`, with the same 32-bit conversion of the age. -/
def hton (headerHost : LSAHeader) : LSAHeader where
  lsAge := (htonl headerHost.lsAge.toUInt32).toUInt16
  options := headerHost.options
  lsType := headerHost.lsType
  linkStateId := htonl headerHost.linkStateId
  advertisingRouter := htonl headerHost.advertisingRouter
  lsSeqNum := htonl headerHost.lsSeqNum
  lsChecksum := htons headerHost.lsChecksum
  length := htons headerHost.length

/-- What identifies an LSA: `(ls_type, link_state_id, advertising_router)`. -/
def SameLsa (a b : LSAHeader) : Prop :=
  a.lsType = b.lsType ∧ a.linkStateId = b.linkStateId ∧
    a.advertisingRouter = b.advertisingRouter

instance (a b : LSAHeader) : Decidable (SameLsa a b) :=
  inferInstanceAs (Decidable (_ ∧ _ ∧ _))

end LSAHeader

/-- `lsa_header_cmp`: negative when `a` is the more recent instance. -/
def lsaHeaderCmp (a b : LSAHeader) : ℤ :=
  if a.lsSeqNum ≠ b.lsSeqNum then
    if a.lsSeqNum < b.lsSeqNum then 1 else -1
  else if a.lsChecksum ≠ b.lsChecksum then
    if a.lsChecksum < b.lsChecksum then 1 else -1
  else if a.lsAge = maxAge ∧ b.lsAge = maxAge then
    0
  else if a.lsAge = maxAge then
    -1
  else if b.lsAge = maxAge then
    1
  else if maxAgeDiff ≤ ((a.lsAge.toNat : ℤ) - b.lsAge.toNat).natAbs then
    if b.lsAge < a.lsAge then 1 else -1
  else
    0

/-- An instance is never more recent than itself. -/
@[simp] theorem lsaHeaderCmp_self (a : LSAHeader) : lsaHeaderCmp a a = 0 := by
  by_cases hage : a.lsAge = maxAge
  · simp [lsaHeaderCmp, hage]
  · simp [lsaHeaderCmp, hage, maxAgeDiff]

/-- When a header is the more recent instance. -/
theorem lsaHeaderCmp_neg_iff (a b : LSAHeader) :
    lsaHeaderCmp a b < 0 ↔
      b.lsSeqNum.toNat < a.lsSeqNum.toNat ∨
        (b.lsSeqNum.toNat = a.lsSeqNum.toNat ∧
          (b.lsChecksum.toNat < a.lsChecksum.toNat ∨
            (b.lsChecksum.toNat = a.lsChecksum.toNat ∧
              b.lsAge.toNat ≠ maxAge.toNat ∧
              (a.lsAge.toNat = maxAge.toNat ∨
                a.lsAge.toNat + maxAgeDiff ≤ b.lsAge.toNat)))) := by
  have hmax : (3600 : UInt16).toNat = 3600 := rfl
  simp only [lsaHeaderCmp, maxAge, maxAgeDiff, UInt32.lt_iff_toNat_lt,
    UInt16.lt_iff_toNat_lt, ← UInt32.toNat_inj, ← UInt16.toNat_inj, ne_eq,
    hmax]
  split_ifs <;> omega

/-- Exactly where one instance is newer, the other one is older. -/
theorem lsaHeaderCmp_pos_iff (a b : LSAHeader) :
    0 < lsaHeaderCmp a b ↔ lsaHeaderCmp b a < 0 := by
  have hmax : (3600 : UInt16).toNat = 3600 := rfl
  rw [lsaHeaderCmp_neg_iff]
  simp only [lsaHeaderCmp, maxAge, maxAgeDiff, UInt32.lt_iff_toNat_lt,
    UInt16.lt_iff_toNat_lt, ← UInt32.toNat_inj, ← UInt16.toNat_inj, ne_eq,
    hmax]
  split_ifs <;> omega

/-- The comparison has three results. -/
theorem lsaHeaderCmp_cases (a b : LSAHeader) :
    lsaHeaderCmp a b = -1 ∨ lsaHeaderCmp a b = 0 ∨ lsaHeaderCmp a b = 1 := by
  rw [lsaHeaderCmp]
  split_ifs <;> simp

/-- Exchanging the instances turns the result round. -/
theorem lsaHeaderCmp_swap (a b : LSAHeader) :
    lsaHeaderCmp a b = -lsaHeaderCmp b a := by
  have hab := lsaHeaderCmp_pos_iff a b
  have hba := lsaHeaderCmp_pos_iff b a
  rcases lsaHeaderCmp_cases a b with h | h | h <;>
    rcases lsaHeaderCmp_cases b a with h' | h' | h' <;> omega

/-- Of three instances, one that is newer than a newer one is newer. -/
theorem lsaHeaderCmp_trans {a b c : LSAHeader} (hab : lsaHeaderCmp a b < 0)
    (hbc : lsaHeaderCmp b c < 0) : lsaHeaderCmp a c < 0 := by
  rw [lsaHeaderCmp_neg_iff] at hab hbc ⊢
  omega

/-- What is not newer than an instance is not newer than one that replaces
it. -/
theorem lsaHeaderCmp_nonneg_of_newer {a b c : LSAHeader}
    (hac : 0 ≤ lsaHeaderCmp a c) (hbc : lsaHeaderCmp b c < 0) :
    0 ≤ lsaHeaderCmp a b := by
  by_contra hab
  exact absurd (lsaHeaderCmp_trans (not_le.mp hab) hbc) (not_lt.mpr hac)

/-- An instance that is not newer has no greater sequence number. -/
theorem lsSeqNum_le_of_not_newer {a b : LSAHeader}
    (h : ¬lsaHeaderCmp a b < 0) : a.lsSeqNum ≤ b.lsSeqNum := by
  rw [lsaHeaderCmp_neg_iff] at h
  rw [UInt32.le_iff_toNat_le]
  omega

namespace LSAHeader

@[simp] theorem length_store (h : LSAHeader) : h.store.length = size := rfl

/-- The age of a received header is always decoded as zero. -/
@[simp] theorem ntoh_lsAge (h : LSAHeader) : (ntoh h).lsAge = 0 :=
  toUInt16_htonl_toUInt32 h.lsAge

/-- The age of a sent header is always encoded as zero. -/
@[simp] theorem hton_lsAge (h : LSAHeader) : (hton h).lsAge = 0 :=
  toUInt16_htonl_toUInt32 h.lsAge

/-- A header that starts the memory is loaded unchanged. -/
@[simp] theorem load_store (h : LSAHeader) (rest : List UInt8) :
    load (Memory.ofList (h.store ++ rest)) = h := by
  have hage : (Memory.ofList (h.store ++ rest)).load16 0 = h.lsAge :=
    Memory.load16_of_drop rfl
  have hid : (Memory.ofList (h.store ++ rest)).load32 4 = h.linkStateId :=
    Memory.load32_of_drop rfl
  have hadv :
      (Memory.ofList (h.store ++ rest)).load32 8 = h.advertisingRouter :=
    Memory.load32_of_drop rfl
  have hseq : (Memory.ofList (h.store ++ rest)).load32 12 = h.lsSeqNum :=
    Memory.load32_of_drop rfl
  have hsum : (Memory.ofList (h.store ++ rest)).load16 16 = h.lsChecksum :=
    Memory.load16_of_drop rfl
  have hlen : (Memory.ofList (h.store ++ rest)).load16 18 = h.length :=
    Memory.load16_of_drop rfl
  rw [load, hage, hid, hadv, hseq, hsum, hlen]
  rfl

/-- A header sent through `hton` and decoded field by field, as the Database
Description handler does, keeps every field but the age. -/
theorem ntoh_hton (h : LSAHeader) : ntoh (hton h) = { h with lsAge := 0 } := by
  rw [ntoh, ← hton_lsAge (hton h)]
  simp [hton, ntohl, ntohs]

end LSAHeader

end OspfLite
