import OspfLite.Lib.PointerLoops
import OspfLite.Router.EmittedLsu
import OspfLite.Router.Retransmission
import OspfLite.Router.Acceptance
import OspfLite.Interface.MissingDr

/-!
# Walks over a received packet

The handlers go through the body of a packet with pointers that are compared
with the end given by `packet_length`, or with a count that the packet gives.
Neither is checked against the number of bytes received.
-/

namespace OspfLite

/-- What `recv` leaves: the buffer behind the Ethernet header, and how many
bytes of it have been received with this frame. -/
structure ReceivedFrame where
  packet : Memory
  received : ℕ
  fits : received ≤ frameSize

/-- The offset of the end given by `packet_length`. -/
def packetEnd (packet : Memory) : ℕ :=
  ipHeaderSize + (ntohs (packet.load16 22)).toNat

namespace ReceivedFrame

/-- Where the elements of the body have to end: they have been received, and
belong to the packet. -/
def bound (f : ReceivedFrame) : ℕ := min f.received (packetEnd f.packet)

/-- From an offset on, the packet holds whole elements of a size, and what it
holds has been received. -/
def HoldsWhole (f : ReceivedFrame) (start size : ℕ) : Prop :=
  ∃ n, start + size * n = packetEnd f.packet ∧
    (n = 0 ∨ packetEnd f.packet ≤ f.received)

end ReceivedFrame

/-! ## The loops -/

/-- A loop over the elements of the body, up to the end of the packet. -/
def bodyLoop (packet : Memory) (start size : ℕ) (exit : ℕ → Prop) :
    PointerLoop where
  start := start
  stop := packetEnd packet
  size := size
  exit := exit

/-- The offset of the first neighbor in a Hello. -/
def helloNeighborsOffset : ℕ := bodyOffset + OSPFHello.size

/-- The search for `router_id` in a Hello. -/
def helloLoop (routerId : UInt32) (packet : Memory) : PointerLoop :=
  bodyLoop packet helloNeighborsOffset 4 fun p =>
    packet.load32 p = htonl routerId

/-- The offset of the first header in a DD packet. -/
def ddHeadersOffset : ℕ := bodyOffset + OSPFDD.size

/-- Either loop over the headers of a DD packet. -/
def ddLoop (packet : Memory) : PointerLoop :=
  bodyLoop packet ddHeadersOffset LSAHeader.size fun _ => False

/-- The loop over the entries of an LSR, left with one that cannot be met. -/
def lsrLoop (lsdb : LSDB) (packet : Memory) : PointerLoop :=
  bodyLoop packet bodyOffset OSPFLsr.size fun p =>
    lsdb.answer (OSPFLsr.load (packet.advance p)) = none

/-- The loop over the headers of an LSAck. -/
def lsackLoop (packet : Memory) : PointerLoop :=
  bodyLoop packet bodyOffset LSAHeader.size fun _ => False

/-- The length field of the LSA at an offset. -/
def lsaLengthAt (packet : Memory) (offset : ℕ) : ℕ :=
  (ntohs (LSAHeader.load (packet.advance offset)).length).toNat

/-- The loop of `install_network_lsa` over the attached routers of the LSA at
an offset. -/
def attachedRoutersLoop (packet : Memory) (offset : ℕ) : PointerLoop where
  start := offset + LSANetwork.routersOffset
  stop := offset + lsaLengthAt packet offset
  size := 4
  exit _ := False

variable {start size bound offset : ℕ} {packet : Memory}

/-- A body loop stays inside the packet if it is left there, or the packet
holds whole elements. -/
theorem bodyLoop_inside_iff (f : ReceivedFrame) (start : ℕ)
    (exit : ℕ → Prop) (hsize : 0 < size) :
    (bodyLoop f.packet start size exit).Inside f.bound ↔
      (∃ i, exit (start + size * i) ∧ start + size * (i + 1) ≤ f.bound) ∨
        f.HoldsWhole start size := by
  have hend : packetEnd f.packet ≤ f.bound ↔
      packetEnd f.packet ≤ f.received := by
    rw [ReceivedFrame.bound, le_min_iff, and_iff_left le_rfl]
  have hexit : (bodyLoop f.packet start size exit).ExitsInside f.bound ↔
      ∃ i, exit (start + size * i) ∧ start + size * (i + 1) ≤ f.bound :=
    PointerLoop.exitsInside_iff hsize (min_le_right _ _)
  rw [PointerLoop.inside_iff hsize, hexit, PointerLoop.EndsInside,
    ReceivedFrame.HoldsWhole]
  change _ ∨ (∃ n, start + size * n = packetEnd f.packet ∧
    (n = 0 ∨ packetEnd f.packet ≤ f.bound)) ↔ _
  rw [hend]

/-- A body loop without a `break`. -/
theorem bodyLoop_inside_iff_of_no_exit (f : ReceivedFrame) (start : ℕ)
    (hsize : 0 < size) :
    (bodyLoop f.packet start size fun _ => False).Inside f.bound ↔
      f.HoldsWhole start size := by
  rw [bodyLoop_inside_iff f start _ hsize, or_iff_right]
  rintro ⟨_, hexit, -⟩
  exact hexit

/-! ## The LSAs of an LSU -/

/-- What a round of the LSU loop reads at an offset has been received and lies
in the packet: the header, and the bytes that the checksum is taken over. -/
def LsaInside (packet : Memory) (bound offset : ℕ) : Prop :=
  offset + LSAHeader.size ≤ bound ∧ offset + lsaLengthAt packet offset ≤ bound

instance (packet : Memory) (bound offset : ℕ) :
    Decidable (LsaInside packet bound offset) :=
  inferInstanceAs (Decidable (_ ∧ _))

theorem le_of_mem_lsaWalk {num : ℕ} :
    ∀ {start : ℕ}, offset ∈ (Router.lsaWalk packet num start).1 →
      start ≤ offset := by
  induction num with
  | zero =>
      intro start h
      cases h
  | succ num ih =>
      intro start h
      rcases List.mem_cons.mp h with rfl | hrest
      · exact le_rfl
      · exact le_trans (Nat.le_add_right _ _) (ih hrest)

/-- Every LSA ends where a later one begins, or before. -/
theorem lsaWalk_ends_before {num : ℕ} {offsets : List ℕ} {last : ℕ} :
    ∀ {start : ℕ},
      offsets ++ [last] <+: (Router.lsaWalk packet num start).1 →
        ∀ x ∈ offsets, x + lsaLengthAt packet x ≤ last := by
  induction num generalizing offsets with
  | zero =>
      intro start h
      exact absurd (List.prefix_nil.mp h) (by simp)
  | succ num ih =>
      intro start h x hx
      cases offsets with
      | nil => cases hx
      | cons a offsets =>
          obtain ⟨rfl, hrest⟩ := List.cons_prefix_cons.mp h
          rcases List.mem_cons.mp hx with rfl | hmem
          · exact le_of_mem_lsaWalk
              (hrest.subset (List.mem_append_right _ (by simp)))
          · exact ih hrest x hmem

/-- The LSAs that the loop comes to lie inside the packet if the last one
does. -/
theorem lsaInside_iff_last {num : ℕ} {offsets : List ℕ}
    (hwalk : offsets <+: (Router.lsaWalk packet num start).1) :
    (∀ x ∈ offsets, LsaInside packet bound x) ↔
      ∀ x ∈ offsets.getLast?, LsaInside packet bound x := by
  constructor
  · intro h x hx
    exact h x (List.mem_of_getLast? hx)
  · intro h x hx
    obtain ⟨before, last, rfl⟩ :=
      (List.eq_nil_or_concat' offsets).resolve_left (List.ne_nil_of_mem hx)
    have hlast := h last (by simp)
    rcases List.mem_append.mp hx with hbefore | hself
    · have hends := lsaWalk_ends_before hwalk x hbefore
      have hle := hlast.1
      exact ⟨by omega, by omega⟩
    · rwa [List.mem_singleton.mp hself]

namespace Router

variable {r : Router} {src : UInt32} {s s' : LsuState} {data : Memory}

/-- The round goes through the attached routers of a received Network LSA, in
step 5 d or in step 8. -/
def InstallsNetwork (src : UInt32) (s : LsuState) (data : Memory) : Prop :=
  s.badLsReq = false ∧ ChecksumOk data ∧
    (lsaHeaderHost data).lsType = lsaNetwork ∧
    (s.router.NewOrNewer (lsaHeaderHost data) ∨
      ¬s.router.Requested src (lsaHeaderHost data))

instance (src : UInt32) (s : LsuState) (data : Memory) :
    Decidable (InstallsNetwork src s data) :=
  inferInstanceAs (Decidable (_ ∧ _ ∧ _ ∧ (_ ∨ _)))

/-- A round of the LSU loop, for the LSA at an offset of the packet. -/
def lsuRoundAt (packet : Memory) (s : LsuState) (offset : ℕ) :
    Outcome LsuState :=
  lsuRound (packet.load32 12) s (packet.advance offset)

/-- The offsets of the LSAs that the LSU loop comes to: all of them, or those
up to the one that sets `bad_ls_req`. -/
def lsaOffsets (r : Router) (packet : Memory) : List ℕ :=
  labelsUntil (lsuRoundAt packet) LsuState.badLsReq ⟨r, [], false⟩
    (lsuWalk packet).1

/-- Wherever a round goes through attached routers, their loop has a
property. -/
def EachAttachedRouters (P : Memory → ℕ → Prop) (r : Router)
    (packet : Memory) : Prop :=
  Along (lsuRoundAt packet) (fun s offset =>
      InstallsNetwork (packet.load32 12) s (packet.advance offset) →
        P packet offset) ⟨r, [], false⟩ (lsuWalk packet).1

/-- After the `break` no round is taken. -/
theorem badLsReq_lsuRoundAt {packet : Memory} {offset : ℕ}
    (hbad : s.badLsReq = true) (h : lsuRoundAt packet s offset = .ok s') :
    s'.badLsReq = true := by
  rw [lsuRoundAt, lsuRound, if_pos hbad, Except.ok.injEq] at h
  rwa [← h]

/-- The loop over the attached routers of an LSA that lies inside the
packet. -/
theorem attachedRoutersLoop_inside_iff
    (hinside : LsaInside packet bound offset) :
    (attachedRoutersLoop packet offset).Inside bound ↔
      LSDB.WholeRouters (packet.advance offset) := by
  have hlength : (lsaHeaderHost (packet.advance offset)).length.toNat =
      lsaLengthAt packet offset := rfl
  have hbound := hinside.2
  rw [PointerLoop.inside_iff_of_no_exit (Nat.succ_pos 3) fun _ h => h,
    LSDB.WholeRouters, PointerLoop.EndsInside, hlength]
  change (∃ n, offset + 24 + 4 * n = offset + lsaLengthAt packet offset ∧
    (n = 0 ∨ offset + lsaLengthAt packet offset ≤ bound)) ↔ _
  refine exists_congr fun n => ?_
  constructor
  · rintro ⟨hstop, -⟩
    omega
  · intro hcount
    exact ⟨by omega, Or.inr hbound⟩

/-! ## The packet as a whole -/

/-- The walks over the body of a packet end and stay inside the packet: the
search of a Hello, either loop of a DD packet, the loops of an LSR and of an
LSAck, and in an LSU the loop over the LSAs and those over attached routers. -/
structure WalksInside (r : Router) (f : ReceivedFrame) : Prop where
  hello : f.packet 21 = typeHello →
    r.HelloMatches (OSPFHello.load (f.packet.advance bodyOffset)) →
      (helloLoop r.routerId f.packet).Inside f.bound
  dd : f.packet 21 = typeDd →
    r.acceptedDd (ntohl (f.packet.load32 12))
        (OSPFDD.load (f.packet.advance bodyOffset)) ≠ none →
      (ddLoop f.packet).Inside f.bound
  lsr : f.packet 21 = typeLsr →
    (∃ n ∈ r.findNeighbor (ntohl (f.packet.load32 12)),
      NeighborState.exchange ≤ n.state) →
      (lsrLoop r.lsdb f.packet).Inside f.bound
  lsu : f.packet 21 = typeLsu →
    r.findNeighbor (ntohl (f.packet.load32 12)) ≠ none →
      (∀ offset ∈ r.lsaOffsets f.packet,
        LsaInside f.packet f.bound offset) ∧
      r.EachAttachedRouters (fun packet offset =>
        (attachedRoutersLoop packet offset).Inside f.bound) f.packet
  lsack : f.packet 21 = typeLsAck →
    (∃ n ∈ r.findNeighbor (ntohl (f.packet.load32 12)),
      NeighborState.exchange ≤ n.state) →
      (lsackLoop f.packet).Inside f.bound

/-- What the fields of the packet have to be for that: whole elements up to
the end of the packet, all received, or an early exit; and in an LSU a last LSA
that lies inside the packet, and Network LSAs with whole attached routers. -/
structure FieldsFit (r : Router) (f : ReceivedFrame) : Prop where
  hello : f.packet 21 = typeHello →
    r.HelloMatches (OSPFHello.load (f.packet.advance bodyOffset)) →
      (∃ i, f.packet.load32 (helloNeighborsOffset + 4 * i) =
          htonl r.routerId ∧
        helloNeighborsOffset + 4 * (i + 1) ≤ f.bound) ∨
      f.HoldsWhole helloNeighborsOffset 4
  dd : f.packet 21 = typeDd →
    r.acceptedDd (ntohl (f.packet.load32 12))
        (OSPFDD.load (f.packet.advance bodyOffset)) ≠ none →
      f.HoldsWhole ddHeadersOffset LSAHeader.size
  lsr : f.packet 21 = typeLsr →
    (∃ n ∈ r.findNeighbor (ntohl (f.packet.load32 12)),
      NeighborState.exchange ≤ n.state) →
      (∃ i, r.lsdb.answer (OSPFLsr.load
          (f.packet.advance (bodyOffset + OSPFLsr.size * i))) = none ∧
        bodyOffset + OSPFLsr.size * (i + 1) ≤ f.bound) ∨
      f.HoldsWhole bodyOffset OSPFLsr.size
  lsu : f.packet 21 = typeLsu →
    r.findNeighbor (ntohl (f.packet.load32 12)) ≠ none →
      (∀ offset ∈ (r.lsaOffsets f.packet).getLast?,
        LsaInside f.packet f.bound offset) ∧
      r.EachAttachedRouters (fun packet offset =>
        LSDB.WholeRouters (packet.advance offset)) f.packet
  lsack : f.packet 21 = typeLsAck →
    (∃ n ∈ r.findNeighbor (ntohl (f.packet.load32 12)),
      NeighborState.exchange ≤ n.state) →
      f.HoldsWhole bodyOffset LSAHeader.size

/-- The walks over the LSAs of an LSU and over their attached routers. -/
theorem lsuWalks_iff (r : Router) (packet : Memory) (bound : ℕ) :
    ((∀ offset ∈ r.lsaOffsets packet, LsaInside packet bound offset) ∧
      r.EachAttachedRouters (fun packet offset =>
        (attachedRoutersLoop packet offset).Inside bound) packet) ↔
    (∀ offset ∈ (r.lsaOffsets packet).getLast?,
        LsaInside packet bound offset) ∧
      r.EachAttachedRouters (fun packet offset =>
        LSDB.WholeRouters (packet.advance offset)) packet := by
  have hwalk : r.lsaOffsets packet <+: (lsuWalk packet).1 :=
    labelsUntil_prefix _ _ _
  rw [← lsaInside_iff_last hwalk]
  apply and_congr_right
  intro hinside
  have halong : Along (lsuRoundAt packet)
      (fun s offset => s.badLsReq = false → LsaInside packet bound offset)
      ⟨r, [], false⟩ (lsuWalk packet).1 :=
    (along_until_iff (fun _ _ _ => badLsReq_lsuRoundAt) _ _).mpr hinside
  constructor
  · intro h
    refine along_mono ?_ (along_and halong h)
    rintro s offset ⟨hlsa, hloop⟩ hinstalls
    exact (attachedRoutersLoop_inside_iff (hlsa hinstalls.1)).mp
      (hloop hinstalls)
  · intro h
    refine along_mono ?_ (along_and halong h)
    rintro s offset ⟨hlsa, hwhole⟩ hinstalls
    exact (attachedRoutersLoop_inside_iff (hlsa hinstalls.1)).mpr
      (hwhole hinstalls)

theorem walksInside_iff_fieldsFit (r : Router) (f : ReceivedFrame) :
    r.WalksInside f ↔ r.FieldsFit f := by
  have hhello := bodyLoop_inside_iff f helloNeighborsOffset
    (fun p => f.packet.load32 p = htonl r.routerId) (Nat.succ_pos 3)
  have hdd := bodyLoop_inside_iff_of_no_exit f ddHeadersOffset
    (show 0 < LSAHeader.size by decide)
  have hlsr := bodyLoop_inside_iff f bodyOffset (fun p =>
    r.lsdb.answer (OSPFLsr.load (f.packet.advance p)) = none)
    (show 0 < OSPFLsr.size by decide)
  have hlsack := bodyLoop_inside_iff_of_no_exit f bodyOffset
    (show 0 < LSAHeader.size by decide)
  constructor
  · intro h
    exact ⟨fun htype hmatch => hhello.mp (h.hello htype hmatch),
      fun htype haccepted => hdd.mp (h.dd htype haccepted),
      fun htype hserved => hlsr.mp (h.lsr htype hserved),
      fun htype hknown => (lsuWalks_iff r _ _).mp (h.lsu htype hknown),
      fun htype hserved => hlsack.mp (h.lsack htype hserved)⟩
  · intro h
    exact ⟨fun htype hmatch => hhello.mpr (h.hello htype hmatch),
      fun htype haccepted => hdd.mpr (h.dd htype haccepted),
      fun htype hserved => hlsr.mpr (h.lsr htype hserved),
      fun htype hknown => (lsuWalks_iff r _ _).mpr (h.lsu htype hknown),
      fun htype hserved => hlsack.mpr (h.lsack htype hserved)⟩

/-- The walks over a received packet that passes the header checks end inside
it exactly when its fields fit. -/
theorem walksInside_iff (r : Router) (f : ReceivedFrame) :
    (r.Admits f.packet → r.WalksInside f) ↔
      (r.Admits f.packet → r.FieldsFit f) :=
  imp_congr_right fun _ => walksInside_iff_fieldsFit r f

/-- A Hello of the peer with two bytes in place of a neighbor. -/
def splitHello : ReceivedFrame where
  packet := fromPeer typeHello (peerHello.take 22)
  received := 66
  fits := by decide

/-- A router that has just been started receives a Hello of `packet_length` 46:
the search passes the end of the packet between two elements. -/
theorem split_hello_walks_outside :
      ¬((Router.start 0x01010101 initialSequenceNumber 0
        ⟨0, 0, 0, false, false, false⟩ [] 0x0a000001 0xffffff00
        []).Admits splitHello.packet →
      (Router.start 0x01010101 initialSequenceNumber 0
        ⟨0, 0, 0, false, false, false⟩ [] 0x0a000001 0xffffff00
        []).WalksInside splitHello) := by
  intro h
  have hend : packetEnd splitHello.packet = 66 := by decide +kernel
  have hbound : splitHello.bound = 66 := by
    rw [ReceivedFrame.bound, hend]
    rfl
  have hstart : helloNeighborsOffset = 64 := rfl
  have hmatch : (Router.start 0x01010101 initialSequenceNumber 0
      ⟨0, 0, 0, false, false, false⟩ [] 0x0a000001 0xffffff00
      []).HelloMatches (OSPFHello.load (splitHello.packet.advance
        bodyOffset)) := by
    decide +kernel
  rcases ((walksInside_iff_fieldsFit _ _).mp
      (h (by decide +kernel))).hello rfl hmatch with ⟨i, -, hi⟩ | ⟨n, hn, -⟩
  · omega
  · omega

/-! ## What the handlers make of it -/

/-- A walk that ends inside the packet has the outcome of the loop. -/
theorem exists_helloLists {routerId : UInt32} {f : ReceivedFrame}
    (h : (helloLoop routerId f.packet).Inside f.bound) :
    ∃ listed, helloLists f.packet routerId = .ok listed := by
  have hbound : f.bound ≤ 1500 := le_trans (min_le_left _ _) f.fits
  have hoffset : helloNeighborsOffset = 64 := rfl
  rcases (bodyLoop_inside_iff f helloNeighborsOffset
      (fun p => f.packet.load32 p = htonl routerId)
      (Nat.succ_pos 3)).mp h with ⟨i, hfound, hi⟩ | ⟨n, hstop, -⟩
  · have hany : ((List.range ((frameSize - helloNeighborsOffset) / 4)).any
        fun i => decide (f.packet.load32 (helloNeighborsOffset + 4 * i) =
          htonl routerId)) = true := by
      rw [List.any_eq_true]
      refine ⟨i, List.mem_range.mpr ?_, decide_eq_true hfound⟩
      rw [hoffset, frameSize]
      omega
    cases hsteps : pointerSteps (bodyOffset + OSPFHello.size)
      (ipHeaderSize + (ntohs (f.packet.load16 22)).toNat) 4 with
    | none =>
        rw [helloLists, hsteps]
        exact ⟨true, if_pos hany⟩
    | some n =>
        rw [helloLists, hsteps]
        exact ⟨_, rfl⟩
  · have hsteps : pointerSteps (bodyOffset + OSPFHello.size)
        (ipHeaderSize + (ntohs (f.packet.load16 22)).toNat) 4 = some n :=
      (PointerLoop.pointerSteps_eq_some_iff (Nat.succ_pos 3)).mpr hstop
    rw [helloLists, hsteps]
    exact ⟨_, rfl⟩

/-- A loop without a `break` ends exactly when the pointer arithmetic gives it
a number of rounds. -/
theorem bodyLoop_terminates_iff (packet : Memory) (start : ℕ)
    (hsize : 0 < size) :
    (bodyLoop packet start size fun _ => False).Terminates ↔
      ∃ n, pointerSteps start (packetEnd packet) size = some n := by
  rw [PointerLoop.terminates_iff hsize fun _ h => h]
  exact exists_congr fun n =>
    (PointerLoop.pointerSteps_eq_some_iff hsize).symm

/-- The elements of a loop that ends are what `bodyEntries` finds. -/
theorem exists_bodyEntries {α : Type} (hsize : 0 < size) (load : Memory → α)
    (h : (bodyLoop packet bodyOffset size fun _ => False).Terminates) :
    ∃ entries, bodyEntries size load packet = some entries := by
  obtain ⟨n, hsteps⟩ := (bodyLoop_terminates_iff packet _ hsize).mp h
  rw [packetEnd] at hsteps
  rw [bodyEntries, hsteps]
  exact ⟨_, rfl⟩

/-- The headers of a loop that ends are those of the DD packet. -/
theorem exists_ddHeaders (h : (ddLoop packet).Terminates) :
    ∃ headers, ddHeaders packet = some headers := by
  obtain ⟨n, hsteps⟩ := (bodyLoop_terminates_iff packet _ (by decide)).mp h
  rw [packetEnd, ddHeadersOffset] at hsteps
  rw [ddHeaders, hsteps]
  exact ⟨_, rfl⟩

/-- A round comes to its end unless it goes through attached routers that are
not whole. -/
theorem exists_lsuRound_iff (src : UInt32) (s : LsuState) (data : Memory) :
    (∃ s', lsuRound src s data = .ok s') ↔
      (InstallsNetwork src s data → LSDB.WholeRouters data) := by
  by_cases hbad : s.badLsReq = true
  · rw [lsuRound, if_pos hbad]
    refine iff_of_true ⟨s, rfl⟩ fun h => ?_
    exact absurd hbad (by rw [h.1]; decide)
  · have hbreak := Bool.eq_false_of_not_eq_true hbad
    rw [lsuRound, if_neg hbad]
    rcases lsuStep_cases src data s with ⟨hskip, hstep⟩ |
      ⟨hsum, htype, hnew, hstep⟩ | ⟨hsum, htype, hold, same, hstep⟩
    · rw [hstep]
      refine iff_of_true ⟨s, rfl⟩ fun h => absurd ⟨h.2.1, ?_⟩ hskip
      rw [LSAHeader.TypeOk, h.2.2.1]
      decide
    · rw [hstep, exists_acceptLsa_iff]
      refine imp_congr_left ?_
      simp only [InstallsNetwork, hbreak, hsum, hnew, true_and, true_or,
        and_true]
    · rw [hstep, rejectLsa]
      by_cases hrequested : s.router.Requested src (lsaHeaderHost data)
      · simp only [if_pos hrequested]
        refine iff_of_true ⟨_, rfl⟩ fun h => ?_
        rcases h.2.2.2 with hnew | hnot
        · exact absurd hnew hold
        · exact absurd hrequested hnot
      · have hsettle : ∀ t : LsuState, (∃ s', settleOlder data t = .ok s') ↔
            (InstallsNetwork src s data → LSDB.WholeRouters data) := by
          intro t
          have hinstalls : InstallsNetwork src s data ↔
              (lsaHeaderHost data).lsType = lsaNetwork := by
            simp only [InstallsNetwork, hbreak, hsum, hrequested, true_and,
              not_false_eq_true, or_true, and_true]
          rw [settleOlder, hinstalls]
          split_ifs with hnetwork
          · exact exists_map_install_iff _ _ _ _
          · exact iff_of_true ⟨t, rfl⟩ fun h => absurd h hnetwork
        simp only [if_neg hrequested]
        split_ifs
        · exact hsettle _
        · exact hsettle _

/-- Behind the search of a Hello only an election can fault. -/
theorem interface_recvHello_ne_endlessLoop (inter : Interface)
    (routerId : UInt32) (uninit : Uninit) (now : ℤ) (ip : UInt32)
    (fields : HelloFields) (listed : Bool) :
    inter.recvHello routerId uninit now ip fields listed ≠
      .error .endlessLoop := by
  intro herror
  rw [Interface.recvHello] at herror
  cases hfind : (inter.ensureNeighbor uninit ip).findNeighbor ip with
  | none =>
      simp only [hfind] at herror
      cases herror
  | some n =>
      simp only [hfind] at herror
      split_ifs at herror
      split at herror
      · cases herror
      · cases (Interface.handle_eq_error_iff.mp herror).2.2

/-- The Hello branch, behind the search. -/
theorem recvHello_ne_endlessLoop {f : ReceivedFrame} (now : ℤ)
    (h : r.HelloMatches (OSPFHello.load (f.packet.advance bodyOffset)) →
      (helloLoop r.routerId f.packet).Inside f.bound) :
    r.recvHello now f.packet ≠ .error .endlessLoop := by
  rw [recvHello]
  split_ifs with hmatch
  · obtain ⟨listed, hlisted⟩ := exists_helloLists (h hmatch)
    rw [hlisted, Outcome.bind_ok, ne_eq, Outcome.map_eq_error]
    exact interface_recvHello_ne_endlessLoop _ _ _ _ _ _ _
  · exact fun herror => by cases herror

/-- The DD branch, with whole headers. -/
theorem handleDd_ne_endlessLoop {ip : UInt32} {dd : OSPFDD}
    {headers : Option (List LSAHeader)}
    (h : r.acceptedDd ip dd ≠ none → ∃ hs, headers = some hs) :
    r.handleDd ip dd headers ≠ .error .endlessLoop := by
  intro herror
  cases haccepted : r.acceptedDd ip dd with
  | some n =>
      obtain ⟨hs, rfl⟩ := h (by simp [haccepted])
      rw [handleDd_of_accepted haccepted, Outcome.map_eq_error,
        Neighbor.popAcknowledged] at herror
      split_ifs at herror
      cases herror
  | none =>
      cases hfind : r.findNeighbor ip with
      | none =>
          rw [handleDd, hfind] at herror
          cases herror
      | some m =>
          rw [acceptedDd, hfind, Option.bind_some] at haccepted
          rw [handleDd_eq hfind] at herror
          cases hverdict : (m.beginDd r.interface dd).ddVerdict r.routerId
              r.lsdb (decide (m.IsDuplicate dd)) dd with
          | accept n =>
              simp only [hverdict] at haccepted
              cases haccepted
          | _ =>
              simp only [hverdict] at herror
              cases herror

/-- A loop of an LSR that stays inside the packet and misses its end has met a
request that it cannot answer. -/
theorem unmet_of_no_entries {lsdb : LSDB} {f : ReceivedFrame}
    (h : (lsrLoop lsdb f.packet).Inside f.bound)
    (hentries : bodyEntries OSPFLsr.size OSPFLsr.load f.packet = none) :
    ∃ lsr ∈ bufferEntries OSPFLsr.size OSPFLsr.load f.packet,
      lsdb.answer lsr = none := by
  have hbound : f.bound ≤ 1500 := le_trans (min_le_left _ _) f.fits
  have hsize : OSPFLsr.size = 12 := rfl
  have hoffset : bodyOffset = 44 := rfl
  rcases (bodyLoop_inside_iff f bodyOffset
      (fun p => lsdb.answer (OSPFLsr.load (f.packet.advance p)) = none)
      (show 0 < OSPFLsr.size by decide)).mp h with ⟨i, hexit, hi⟩ | hwhole
  · refine ⟨_, List.mem_map.mpr ⟨i, List.mem_range.mpr ?_, rfl⟩, hexit⟩
    rw [hsize, hoffset] at hi ⊢
    rw [frameSize]
    omega
  · obtain ⟨entries, hsome⟩ :=
      exists_bodyEntries (by decide) OSPFLsr.load
        ((bodyLoop_inside_iff_of_no_exit f bodyOffset
          (by decide)).mpr hwhole).terminates
    rw [hentries] at hsome
    cases hsome

/-- The LSR branch, left at a request that cannot be met or at the end. -/
theorem recvLsr_ne_endlessLoop {f : ReceivedFrame}
    (h : (∃ n ∈ r.findNeighbor (ntohl (f.packet.load32 12)),
      NeighborState.exchange ≤ n.state) →
      (lsrLoop r.lsdb f.packet).Inside f.bound) :
    r.recvLsr f.packet ≠ .error .endlessLoop := by
  intro herror
  rw [recvLsr] at herror
  cases hfind : r.findNeighbor (ntohl (f.packet.load32 12)) with
  | none =>
      simp only [hfind] at herror
      cases herror
  | some n =>
      simp only [hfind] at herror
      by_cases hidle : n.state ≠ .exchange ∧ n.state ≠ .loading ∧
          n.state ≠ .full
      · rw [if_pos hidle] at herror
        cases herror
      · rw [if_neg hidle] at herror
        have hserved : NeighborState.exchange ≤ n.state := by
          revert hidle
          cases n.state <;> decide
        cases hentries : bodyEntries OSPFLsr.size OSPFLsr.load f.packet with
        | none =>
            simp only [hentries] at herror
            rw [if_pos (unmet_of_no_entries (h ⟨n, hfind, hserved⟩) hentries)]
              at herror
            cases herror
        | some requests =>
            simp only [hentries] at herror
            cases hanswer : requests.mapM r.lsdb.answer <;>
              simp only [hanswer] at herror <;> cases herror

/-- The LSAck branch. -/
theorem recvLsAck_ne_endlessLoop {f : ReceivedFrame}
    (h : (∃ n ∈ r.findNeighbor (ntohl (f.packet.load32 12)),
      NeighborState.exchange ≤ n.state) →
      (lsackLoop f.packet).Inside f.bound) :
    r.recvLsAck f.packet ≠ .error .endlessLoop := by
  intro herror
  rw [recvLsAck] at herror
  cases hfind : r.findNeighbor (ntohl (f.packet.load32 12)) with
  | none =>
      simp only [hfind] at herror
      cases herror
  | some n =>
      simp only [hfind] at herror
      split_ifs at herror with hstate
      obtain ⟨headers, hheaders⟩ := exists_bodyEntries (by decide)
        LSAHeader.load (h ⟨n, hfind, not_lt.mp hstate⟩).terminates
      simp only [hheaders] at herror
      cases herror

/-- The LSU branch, with whole attached routers. -/
theorem recvLsu_ne_endlessLoop {f : ReceivedFrame}
    (h : r.findNeighbor (ntohl (f.packet.load32 12)) ≠ none →
      r.EachAttachedRouters (fun packet offset =>
        LSDB.WholeRouters (packet.advance offset)) f.packet) :
    r.recvLsu f.packet ≠ .error .endlessLoop := by
  rw [recvLsu_eq]
  split_ifs with hknown
  · exact fun herror => by cases herror
  · have hround : ∀ (s : LsuState) (offset : ℕ), True →
        (InstallsNetwork (f.packet.load32 12) s (f.packet.advance offset) →
          LSDB.WholeRouters (f.packet.advance offset)) →
        ∃ s', lsuRoundAt f.packet s offset = .ok s' ∧ True := by
      intro s offset _ hwhole
      obtain ⟨s', hs'⟩ := (exists_lsuRound_iff (f.packet.load32 12) s
        (f.packet.advance offset)).mpr hwhole
      exact ⟨s', hs', trivial⟩
    obtain ⟨s, hrun, -⟩ := exists_runFrom hround trivial (h hknown)
    rw [lsuPointers_eq, runFrom_map]
    change (runFrom (lsuRoundAt f.packet) _ _).map sendLsack ≠ _
    rw [hrun]
    exact fun herror => by cases herror

/-- A packet whose walks end inside it keeps no handler in a loop. -/
theorem recvOspfPacket_ne_endlessLoop {f : ReceivedFrame} (now : ℤ)
    (h : r.Admits f.packet → r.WalksInside f) :
    r.recvOspfPacket now f.packet ≠ .error .endlessLoop := by
  rw [recvOspfPacket]
  split_ifs with hadmits hhello hdd hlsr hlsu hlsack
  · exact recvHello_ne_endlessLoop now ((h hadmits).hello hhello)
  · refine handleDd_ne_endlessLoop fun haccepted => ?_
    exact exists_ddHeaders ((h hadmits).dd hdd haccepted).terminates
  · exact recvLsr_ne_endlessLoop ((h hadmits).lsr hlsr)
  · refine recvLsu_ne_endlessLoop fun hknown => ?_
    exact ((lsuWalks_iff r _ _).mp ((h hadmits).lsu hlsu hknown)).2
  · exact recvLsAck_ne_endlessLoop ((h hadmits).lsack hlsack)
  · exact fun herror => by cases herror
  · exact fun herror => by cases herror

end Router
end OspfLite
