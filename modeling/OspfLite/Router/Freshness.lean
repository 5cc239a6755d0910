import OspfLite.Router.Update
import OspfLite.Lib.Runs

/-!
# Freshness of the database

What an LSU may do to the entries of the database: an entry stays, or a newer
instance takes its place.  The rounds of the LSU loop obey this with one
exception, the Network LSA that step 8 installs over an entry that is the same
or newer.
-/

namespace OspfLite

/-- What the search for one key has found before and after a round: the entry
is still there, or the received instance has replaced it and is newer. -/
def Survives {α : Type} (header : α → LSAHeader) (received : LSAHeader)
    (stored : α) (after : Option α) : Prop :=
  ∃ now, after = some now ∧
    (now = stored ∨
      header now = received ∧ lsaHeaderCmp received (header stored) < 0)

/-- No entry disappears, and none is replaced except by the received instance
when that is newer. -/
structure Fresh (received : LSAHeader) (before after : LSDB) : Prop where
  router : ∀ id adv stored, before.findRouterLsa id adv = some stored →
    Survives LSARouter.header received stored (after.findRouterLsa id adv)
  network : ∀ id adv stored, before.findNetworkLsa id adv = some stored →
    Survives LSANetwork.header received stored (after.findNetworkLsa id adv)

/-- A round that leaves the database alone. -/
theorem fresh_refl (received : LSAHeader) (lsdb : LSDB) :
    Fresh received lsdb lsdb :=
  ⟨fun _ _ stored h => ⟨stored, h, Or.inl rfl⟩,
    fun _ _ stored h => ⟨stored, h, Or.inl rfl⟩⟩

namespace LSDB

variable {lsdb after : LSDB} {data : Memory} {mask : UInt32}

/-- Installing a Router LSA that is newer than the entry under its key. -/
theorem fresh_installRouterLsa
    (hnewer : ∀ stored, lsdb.findRouterLsa
        (lsaHeaderHost data).linkStateId
        (lsaHeaderHost data).advertisingRouter =
          some stored →
      lsaHeaderCmp (lsaHeaderHost data) stored.header < 0) :
    Fresh (lsaHeaderHost data) lsdb
      (lsdb.installRouterLsa data) := by
  constructor
  · intro id adv stored hstored
    by_cases hkey : (id, adv) = (LSARouter.decode data).key
    · obtain ⟨rfl, rfl⟩ := Prod.mk.inj hkey
      exact ⟨LSARouter.decode data, KeyedList.lookup_insert_self _ _,
        Or.inr ⟨rfl, hnewer stored hstored⟩⟩
    · refine ⟨stored, ?_, Or.inl rfl⟩
      rw [← hstored]
      exact KeyedList.lookup_insert_of_ne hkey _
  · intro id adv stored hstored
    exact ⟨stored, hstored, Or.inl rfl⟩

/-- Installing a Network LSA keeps the database fresh exactly when every entry
under its key is older or has the very value installed. -/
theorem fresh_installNetworkLsa_iff {lsa : LSANetwork}
    (hdecode : LSANetwork.decode mask data = some lsa)
    (hinstall : lsdb.installNetworkLsa mask data = some after) :
    Fresh lsa.header lsdb after ↔
      ∀ stored, lsdb.findNetworkLsa lsa.header.linkStateId
          lsa.header.advertisingRouter = some stored →
        lsa = stored ∨ lsaHeaderCmp lsa.header stored.header < 0 := by
  rw [installNetworkLsa, hdecode, Option.map_some, Option.some.injEq]
    at hinstall
  subst hinstall
  have hself : KeyedList.lookup LSANetwork.key
      (KeyedList.insert LSANetwork.key lsdb.networkLsas lsa) lsa.key =
        some lsa := KeyedList.lookup_insert_self _ _
  constructor
  · intro hfresh stored hstored
    obtain ⟨now, hnow, hcase⟩ := hfresh.network _ _ stored hstored
    have hlsa : lsa = now := Option.some.inj (hself.symm.trans hnow)
    rw [← hlsa] at hcase
    exact hcase.imp_right And.right
  · intro hnewer
    constructor
    · intro id adv stored hstored
      exact ⟨stored, hstored, Or.inl rfl⟩
    · intro id adv stored hstored
      by_cases hkey : (id, adv) = lsa.key
      · obtain ⟨rfl, rfl⟩ := Prod.mk.inj hkey
        exact ⟨lsa, hself, (hnewer stored hstored).imp_right (⟨rfl, ·⟩)⟩
      · refine ⟨stored, ?_, Or.inl rfl⟩
        rw [← hstored]
        exact KeyedList.lookup_insert_of_ne hkey _

/-- Step 5 d for an LSA that is newer than the entry under its key, or for
which there is none. -/
theorem fresh_install
    (hnewer : ∀ stored ∈ lsdb.findInstance
        (lsaHeaderHost data),
      lsaHeaderCmp (lsaHeaderHost data) stored < 0)
    (hinstall : lsdb.install mask data = .ok after) :
    Fresh (lsaHeaderHost data) lsdb after := by
  by_cases hrouter : (lsaHeaderHost data).lsType = lsaRouter
  · rw [install, if_pos hrouter, Except.ok.injEq] at hinstall
    rw [← hinstall]
    refine fresh_installRouterLsa fun stored hstored => hnewer _ ?_
    simp [findInstance, findHeader, hrouter, hstored]
  · by_cases hnetwork : (lsaHeaderHost data).lsType = lsaNetwork
    · rw [install_of_network hnetwork] at hinstall
      have hsome := Outcome.ofOption_eq_ok.mp hinstall
      obtain ⟨lsa, hdecode, -⟩ := Option.map_eq_some_iff.mp hsome
      have hheader : lsa.header = lsaHeaderHost data :=
        LSANetwork.header_of_decode hdecode
      rw [← hheader]
      refine (fresh_installNetworkLsa_iff hdecode hsome).mpr
        fun stored hstored => Or.inr ?_
      rw [hheader]
      rw [hheader] at hstored
      refine hnewer _ ?_
      simp [findInstance, findHeader, hnetwork, hstored, lsaNetwork,
        lsaRouter]
    · rw [install, if_neg hrouter, if_neg hnetwork, Except.ok.injEq]
        at hinstall
      exact hinstall ▸ fresh_refl _ _

end LSDB

namespace Router

variable {src : UInt32} {data : Memory} {s : LsuState}

/-! ## One round -/

/-- However the round ends, the database is fresh. -/
def FreshRound (src : UInt32) (s : LsuState) (data : Memory) : Prop :=
  ∀ s', lsuRound src s data = .ok s' →
    Fresh (lsaHeaderHost data) s.router.lsdb s'.router.lsdb

/-- The LSA is a Network LSA that the sender is not asked for, and the entry
under its key is not older and has another value. -/
def StaleLsa (src : UInt32) (r : Router) (data : Memory) : Prop :=
  ChecksumOk data ∧ (lsaHeaderHost data).lsType = lsaNetwork ∧
    ¬r.Requested src (lsaHeaderHost data) ∧
    ∃ stored lsa,
      r.lsdb.findNetworkLsa (lsaHeaderHost data).linkStateId
          (lsaHeaderHost data).advertisingRouter = some stored ∧
      0 ≤ lsaHeaderCmp (lsaHeaderHost data) stored.header ∧
      LSANetwork.decode r.uninit.networkMask data = some lsa ∧
      lsa ≠ stored

/-- The round installs a stale LSA. -/
def InstallsStale (src : UInt32) (s : LsuState) (data : Memory) : Prop :=
  s.badLsReq = false ∧ StaleLsa src s.router data

/-- Without a request for the LSA, steps 7 and 8 come down to `settleOlder`
with the same database. -/
theorem rejectLsa_of_not_requested
    (hreq : ¬s.router.Requested src (lsaHeaderHost data)) (same : Bool) :
    ∃ r, rejectLsa src data same s = settleOlder data { s with router := r } ∧
      r.lsdb = s.router.lsdb ∧ r.uninit = s.router.uninit := by
  cases same with
  | true =>
      refine ⟨s.router.modifyNeighbor (ntohl src)
        (Neighbor.purgeRetransmissions (lsaHeaderHost data)), ?_, rfl, rfl⟩
      rw [rejectLsa, if_neg hreq, if_pos rfl]
  | false =>
      refine ⟨s.router, ?_, rfl, rfl⟩
      rw [rejectLsa, if_neg hreq, if_neg Bool.false_ne_true]

/-- Step 8 keeps the database fresh unless it installs a Network LSA over an
entry that is not older and has another value. -/
theorem settleOlder_fresh_iff (data : Memory) (s : LsuState) :
    (∀ s', settleOlder data s = .ok s' →
        Fresh (lsaHeaderHost data) s.router.lsdb s'.router.lsdb) ↔
      ((lsaHeaderHost data).lsType = lsaNetwork →
        ∀ lsa, LSANetwork.decode s.router.uninit.networkMask data =
            some lsa →
          ∀ stored, s.router.lsdb.findNetworkLsa
              (lsaHeaderHost data).linkStateId
              (lsaHeaderHost data).advertisingRouter = some stored →
          lsa = stored ∨
            lsaHeaderCmp (lsaHeaderHost data) stored.header < 0) := by
  by_cases hnetwork : (lsaHeaderHost data).lsType = lsaNetwork
  · have hsettle : settleOlder data s =
        (Outcome.ofOption .endlessLoop (s.router.lsdb.installNetworkLsa
          s.router.uninit.networkMask data)).map fun lsdb =>
            { s with router := { s.router with lsdb := lsdb } } := by
      simp only [settleOlder, hnetwork, if_true,
        LSDB.install_of_network hnetwork]
    simp only [hnetwork, forall_const, hsettle]
    cases hdecode : LSANetwork.decode s.router.uninit.networkMask data with
    | none =>
        simp [LSDB.installNetworkLsa, hdecode, Outcome.ofOption]
    | some lsa =>
        obtain ⟨after, hafter⟩ : ∃ after,
            s.router.lsdb.installNetworkLsa s.router.uninit.networkMask
              data = some after := by
          simp [LSDB.installNetworkLsa, hdecode]
        have hfresh := LSDB.fresh_installNetworkLsa_iff hdecode hafter
        have hheader : lsa.header = lsaHeaderHost data :=
          LSANetwork.header_of_decode hdecode
        rw [hheader] at hfresh
        simp [hafter, Outcome.ofOption, hfresh]
  · simp [settleOlder, hnetwork, fresh_refl]

/-- Before the `break`, what a round does to the database is fresh exactly
when it installs no stale Network LSA. -/
theorem freshStep_iff (src : UInt32) (s : LsuState) (data : Memory) :
    (∀ s', lsuStep src data s = .ok s' →
        Fresh (lsaHeaderHost data) s.router.lsdb s'.router.lsdb) ↔
      ¬StaleLsa src s.router data := by
  rcases lsuStep_cases src data s with ⟨hbad, hstep⟩ |
    ⟨-, -, hnew, hstep⟩ | ⟨hsum, -, hold, same, hstep⟩
  · refine iff_of_true ?_ ?_
    · intro s' hs'
      rw [hstep, Except.ok.injEq] at hs'
      exact hs' ▸ fresh_refl _ _
    · rintro ⟨hsum, htype, -⟩
      refine hbad ⟨hsum, ?_⟩
      rw [LSAHeader.TypeOk, htype]
      decide
  · refine iff_of_true ?_ ?_
    · intro s' hs'
      rw [hstep] at hs'
      exact LSDB.fresh_install hnew (acceptLsa_lsdb hs')
    · rintro ⟨-, htype, -, stored, -, hstored, hcmp, -⟩
      refine absurd (hnew stored.header ?_) (not_lt.mpr hcmp)
      simp [LSDB.findInstance, LSDB.findHeader, htype, hstored, lsaNetwork,
        lsaRouter]
  · by_cases hreq : s.router.Requested src (lsaHeaderHost data)
    · refine iff_of_true ?_ fun h => h.2.2.1 hreq
      intro s' hs'
      rw [hstep, rejectLsa, if_pos hreq, Except.ok.injEq] at hs'
      exact hs' ▸ fresh_refl _ _
    · obtain ⟨r, hreject, hlsdb, huninit⟩ :=
        rejectLsa_of_not_requested hreq same
      have hfresh := settleOlder_fresh_iff data { s with router := r }
      rw [← hreject, ← hstep, hlsdb, huninit] at hfresh
      rw [hfresh]
      constructor
      · rintro h ⟨-, htype, -, stored, lsa, hstored, hcmp, hdecode, hne⟩
        exact (h htype lsa hdecode stored hstored).elim hne
          (not_lt.mpr hcmp)
      · intro h htype lsa hdecode stored hstored
        by_contra hno
        rw [not_or, not_lt] at hno
        exact h ⟨hsum, htype, hreq, stored, lsa, hstored, hno.2, hdecode,
          hno.1⟩

/-- The rounds that keep the database fresh are exactly those that do not
install a stale Network LSA. -/
theorem freshRound_iff (src : UInt32) (s : LsuState) (data : Memory) :
    FreshRound src s data ↔ ¬InstallsStale src s data := by
  cases hbreak : s.badLsReq with
  | true =>
      refine iff_of_true ?_ fun h => by simp [InstallsStale, hbreak] at h
      intro s' hs'
      rw [lsuRound, if_pos hbreak, Except.ok.injEq] at hs'
      exact hs' ▸ fresh_refl _ _
  | false =>
      have hround : lsuRound src s data = lsuStep src data s := by
        rw [lsuRound, hbreak, if_neg Bool.false_ne_true]
      rw [FreshRound, hround, freshStep_iff]
      simp only [InstallsStale, hbreak, true_and]

/-! ## Runs -/

/-- Every round of the packet keeps the database fresh.  An LSU from an
unknown source has no rounds. -/
def FreshPacket (r : Router) (packet : Memory) : Prop :=
  r.findNeighbor (ntohl (packet.load32 12)) ≠ none →
    Along (lsuRound (packet.load32 12)) (FreshRound (packet.load32 12))
      ⟨r, [], false⟩ (lsuPointers packet)

/-- No round of the packet installs a stale Network LSA. -/
def NoStaleLsa (r : Router) (packet : Memory) : Prop :=
  r.findNeighbor (ntohl (packet.load32 12)) ≠ none →
    Along (lsuRound (packet.load32 12))
      (fun s data => ¬InstallsStale (packet.load32 12) s data)
      ⟨r, [], false⟩ (lsuPointers packet)

/-- In a sequence of LSUs, handled from any database, every LSA keeps the
database fresh exactly when none of them is a stale Network LSA that gets
installed. -/
theorem lsdb_fresh_iff (r : Router) (packets : List Memory) :
    Along recvLsu FreshPacket r packets ↔
      Along recvLsu NoStaleLsa r packets :=
  along_congr
    (fun _ _ => imp_congr_right fun _ =>
      along_congr (fun s data => freshRound_iff _ s data) _ _) r packets

/-- A Network LSA on the wire, from the router 2.2.2.2 for the segment of
10.0.0.2. -/
def segmentLsa (lsSeqNum : UInt32) : List UInt8 :=
  sealLsa 1 ⟨1, 2, lsaNetwork, 0x0a000002, 0x02020202, lsSeqNum, 0, 28⟩
    [255, 255, 255, 0, 2, 2, 2, 2]

/-- A router that is FULL with its DR 10.0.0.2 and holds the fifth instance
of the Network LSA. -/
def segmentRouter : Router :=
  { new 0x01010101 initialSequenceNumber 0 ⟨0, 0, 0, false, false, false⟩ []
      { Interface.new 0x0a000001 0xffffff00 with
        state := .backup
        dr := 0x0a000002
        bdr := 0x0a000001
        neighbors :=
          [{ Neighbor.new ⟨0, 0, 0, false, false, false⟩ 0x0a000002 with
              state := .full, id := 0x02020202, pri := 1 }] } [] with
    lsdb := ⟨[], [⟨⟨0, 2, lsaNetwork, 0x0a000002, 0x02020202, 0x80000005,
      57947, 28⟩, 0, [0x02020202]⟩]⟩ }

/-- The LSU in which the neighbor sends the fourth instance. -/
def segmentLsu : Memory :=
  ipDatagram 0x0a000002 0xe0000005
    ({ segmentRouter with routerId := 0x02020202 }.ospfPacket 0 typeLsu
      (lsuData [segmentLsa 0x80000004]))

/-- The older instance of the Network LSA replaces the newer one. -/
theorem older_network_lsa_replaces_newer :
    ¬Along recvLsu FreshPacket segmentRouter [segmentLsu] := by
  intro h
  have hrounds := h.1 (by decide +kernel)
  have hone : lsuPointers segmentLsu =
      [segmentLsu.advance (bodyOffset + 4)] := by
    have hcount : lsuCount (segmentLsu.load32 bodyOffset) = 1 := by
      decide +kernel
    rw [lsuPointers, hcount]
    rfl
  rw [hone, along_cons, freshRound_iff] at hrounds
  refine hrounds.1 ⟨rfl, by decide +kernel, by decide +kernel,
    by decide +kernel, ?_⟩
  exact ⟨_, _, rfl, by decide +kernel, rfl, by decide +kernel⟩

end Router
end OspfLite
