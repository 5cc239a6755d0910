import OspfLite.Router.HelloSender

/-!
# What the LSU loop reads

A round reads a bounded part of the memory behind its pointer, as the length
field and the number of links have 16 bits.  So the LSAs that a frame conveys
decide what becomes of it, whatever else is in the receive buffer.
-/

namespace OspfLite

open Memory

variable {p q : Memory} {n : ℕ}

/-- A round reads no further behind its pointer than a Router LSA with as many
links as can be counted. -/
def lsaReach : ℕ := LSARouter.linksOffset + LSARouterLink.size * 65536

theorem lsaReach_eq : lsaReach = 786456 := rfl

theorem LSAHeader.load_congr (h : AgreeBelow n p q)
    (hn : LSAHeader.size ≤ n) : LSAHeader.load p = LSAHeader.load q := by
  rw [LSAHeader.size] at hn
  rw [LSAHeader.load, LSAHeader.load, h 2 (by omega), h 3 (by omega),
    h.load16 (k := 0) (by omega), h.load32 (k := 4) (by omega),
    h.load32 (k := 8) (by omega), h.load32 (k := 12) (by omega),
    h.load16 (k := 16) (by omega), h.load16 (k := 18) (by omega)]

theorem LSARouterLink.decode_congr (h : AgreeBelow LSARouterLink.size p q) :
    LSARouterLink.decode p = LSARouterLink.decode q := by
  have hsize : LSARouterLink.size = 12 := rfl
  rw [hsize] at h
  rw [LSARouterLink.decode, LSARouterLink.decode, h 8 (by omega),
    h 9 (by omega), h.load32 (k := 0) (by omega),
    h.load32 (k := 4) (by omega), h.load16 (k := 10) (by omega)]

section Reach

variable (h : AgreeBelow lsaReach p q)

include h

theorem load_of_reach : LSAHeader.load p = LSAHeader.load q :=
  LSAHeader.load_congr h (by decide)

/-- The length field has 16 bits. -/
theorem take_of_reach (length : UInt16) :
    p.take length.toNat = q.take length.toNat := by
  have hlt := length.toNat_lt
  have hreach := lsaReach_eq
  exact h.take (by omega)

theorem take_size_of_reach :
    p.take LSAHeader.size = q.take LSAHeader.size :=
  h.take (by decide)

/-- `install_router_lsa`. -/
theorem decode_router_of_reach : LSARouter.decode p = LSARouter.decode q := by
  have hreach := lsaReach_eq
  have hsize : LSARouterLink.size = 12 := rfl
  have hoffset : LSARouter.linksOffset = 24 := rfl
  have hfixed : AgreeBelow LSARouter.linksOffset p q := h.mono (by omega)
  have hnum : p.load16 22 = q.load16 22 := hfixed.load16 (by decide)
  have hflags : p 20 = q 20 := hfixed 20 (by decide)
  have hlt := (ntohs (q.load16 22)).toNat_lt
  have hlinks : ∀ i ∈ List.range (ntohs (q.load16 22)).toNat,
      LSARouterLink.decode (p.advance
          (LSARouter.linksOffset + LSARouterLink.size * i)) =
        LSARouterLink.decode (q.advance
          (LSARouter.linksOffset + LSARouterLink.size * i)) := by
    intro i hi
    rw [List.mem_range] at hi
    apply LSARouterLink.decode_congr
    apply AgreeBelow.advance
    apply h.mono
    rw [hsize]
    omega
  rw [LSARouter.decode, LSARouter.decode, load_of_reach h, hnum, hflags,
    List.map_congr_left hlinks]

/-- `install_network_lsa`. -/
theorem decode_network_of_reach (mask : UInt32) :
    LSANetwork.decode mask p = LSANetwork.decode mask q := by
  rw [LSANetwork.decode, LSANetwork.decode, load_of_reach h]
  refine Option.map_congr fun steps hsteps => ?_
  have hlt := (LSAHeader.ntoh (LSAHeader.load q)).length.toNat_lt
  have hreach := lsaReach_eq
  have hend := (PointerLoop.pointerSteps_eq_some_iff (by decide)).mp hsteps
  have hrouters : ∀ i ∈ List.range steps,
      ntohl (p.load32 (LSANetwork.routersOffset + 4 * i)) =
        ntohl (q.load32 (LSANetwork.routersOffset + 4 * i)) := by
    intro i hi
    rw [List.mem_range] at hi
    exact congrArg ntohl (h.load32 (by omega))
  rw [List.map_congr_left hrouters]

/-- Step 1. -/
theorem checksumOk_of_reach : ChecksumOk p ↔ ChecksumOk q := by
  have hreach := lsaReach_eq
  have hlt := (htons (LSAHeader.load q).length).toNat_lt
  have hsum : lsaChecksum p (htons (LSAHeader.load q).length) =
      lsaChecksum q (htons (LSAHeader.load q).length) := by
    apply lsaChecksum_congr
    intro i _ hi _ _
    exact h i (by omega)
  rw [ChecksumOk, ChecksumOk, load_of_reach h, hsum]

theorem lsaHeaderHost_of_reach : lsaHeaderHost p = lsaHeaderHost q :=
  congrArg LSAHeader.ntoh (load_of_reach h)

/-- Step 5 d. -/
theorem install_of_reach (lsdb : LSDB) (mask : UInt32) :
    lsdb.install mask p = lsdb.install mask q := by
  rw [LSDB.install, LSDB.install, lsaHeaderHost_of_reach h,
    LSDB.installRouterLsa, LSDB.installRouterLsa, LSDB.installNetworkLsa,
    LSDB.installNetworkLsa, decode_router_of_reach h,
    decode_network_of_reach h]

namespace Router

/-- Step 5 b. -/
theorem floodArea_of_reach (r : Router) (src : UInt32) :
    r.floodArea p src = r.floodArea q src := by
  have hflood : r.floodingLsa p src = r.floodingLsa q src := by
    funext inter
    rw [floodingLsa, floodingLsa, lsaHeaderHost_of_reach h, floodData,
      floodData, take_of_reach h]
  rw [floodArea, floodArea, hflood]

theorem acceptLsa_of_reach (src : UInt32) (s : LsuState) :
    acceptLsa src p s = acceptLsa src q s := by
  simp only [acceptLsa, lsaHeaderHost_of_reach h, floodArea_of_reach h,
    install_of_reach h, take_size_of_reach h]

theorem rejectLsa_of_reach (src : UInt32) (same : Bool) (s : LsuState) :
    rejectLsa src p same s = rejectLsa src q same s := by
  simp only [rejectLsa, settleOlder, lsaHeaderHost_of_reach h,
    install_of_reach h]

/-- A round does the same over memories that agree as far as it reads. -/
theorem lsuRound_of_reach (src : UInt32) (s : LsuState) :
    lsuRound src s p = lsuRound src s q := by
  simp only [lsuRound, lsuStep, checksumOk_of_reach h,
    lsaHeaderHost_of_reach h, take_size_of_reach h, acceptLsa_of_reach h,
    rejectLsa_of_reach h]

end Router

end Reach

/-! ## The LSAs of a frame -/

namespace Router

variable {r : Router} {auType : UInt32} {type : UInt8} {data : List UInt8}
  {packet : Memory} {src dst : UInt32}

/-- The body behind the OSPF header. -/
theorem body_of_conveys
    (h : Conveys packet src dst (r.ospfPacket auType type data)) :
    (packet.advance bodyOffset).StartsWith data := by
  intro i hi
  rw [advance_apply, bodyOffset, h.byte i (by rw [length_ospfPacket]; omega)]
  exact congrFun (r.ospfPacket_advance auType type data) i

/-- The length field is among the bytes of the LSA. -/
theorem LengthCounts.of_startsWith {lsa : List UInt8} (h : LengthCounts lsa)
    (hp : p.StartsWith lsa) :
    (ntohs (LSAHeader.load p).length).toNat = lsa.length := by
  obtain ⟨rest, hrest⟩ := hp.exists_agreeBelow LSAHeader.size
  rw [LSAHeader.load_congr hrest le_rfl]
  exact h rest

/-- The pointers of the LSU loop point to the LSAs that were put into the
packet. -/
theorem lsuPointers_of_conveys {lsas : List (List UInt8)}
    (hlengths : ∀ lsa ∈ lsas, LengthCounts lsa)
    (hcount : lsas.length < 2147483648)
    (h : Conveys packet src dst
      (r.ospfPacket auType typeLsu (lsuData lsas))) :
    List.Forall₂ Memory.StartsWith (lsuPointers packet) lsas := by
  have hbody := body_of_conveys h
  have hnum : packet.load32 bodyOffset =
      htonl (UInt32.ofNat lsas.length) := by
    have hload := hbody.load32 (k := 0) (by
      rw [lsuData, List.length_append, length_store32]
      omega)
    rw [lsuData, load32_store32] at hload
    exact hload
  have hlsas := hbody.right
  rw [length_store32, advance_advance] at hlsas
  have hvisits := (lsaWalk_spec_of (fun _ _ _ h => h.left)
    (fun _ _ _ h => h.right)
    (fun lsa hlsa p hp => (hlengths lsa hlsa).of_startsWith hp) hlsas).2
  rw [lsuPointers_eq, List.forall₂_map_left_iff, lsuWalk, hnum,
    (lsuCount_htonl hcount).1]
  exact hvisits

end Router

end OspfLite
