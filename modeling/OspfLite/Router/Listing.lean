import OspfLite.Router.SummaryPops
import OspfLite.Router.Instances

/-!
# Listed by a neighbor

In its Database Description packets a neighbor lists what its database holds.
Each LSA listed should end up in the own database, unless an instance is
there that is not older; until then it is on the request list.
-/

namespace OspfLite

/-! ## What has been listed -/

/-- The headers accepted from the neighbor at `ip` after one more entry of the
log; `event_negotiation_done` starts anew. -/
def noteListed (ip : UInt32) (listed : List LSAHeader) (entry : LogEntry) :
    List LSAHeader :=
  if entry.snapshotFor ip ≠ none then []
  else listed ++ entry.acceptedFrom ip

/-- The headers the neighbor at `ip` has listed in the packets accepted since
the latest `event_negotiation_done`. -/
def listedBy (ip : UInt32) (log : List LogEntry) : List LSAHeader :=
  log.foldl (noteListed ip) []

/-- Entries that say nothing of packets accepted from the neighbor. -/
theorem foldl_noteListed_of_silent {ip : UInt32} {entries : List LogEntry}
    (h : ∀ entry ∈ entries,
      entry.snapshotFor ip = none ∧ entry.acceptedFrom ip = [])
    (listed : List LSAHeader) :
    entries.foldl (noteListed ip) listed = listed := by
  induction entries with
  | nil => rfl
  | cons entry entries ih =>
      rw [List.forall_mem_cons] at h
      rw [List.foldl_cons, noteListed, if_neg (not_not.mpr h.1.1), h.1.2,
        List.append_nil]
      exact ih h.2

/-- Other entries leave what has been listed as it is. -/
theorem listedBy_append_of_silent {ip : UInt32} {entries : List LogEntry}
    (h : ∀ entry ∈ entries,
      entry.snapshotFor ip = none ∧ entry.acceptedFrom ip = [])
    (log : List LogEntry) : listedBy ip (log ++ entries) = listedBy ip log := by
  rw [listedBy, List.foldl_append, foldl_noteListed_of_silent h, listedBy]

theorem silent_of_plain {entry : LogEntry} (h : entry.Plain) (ip : UInt32) :
    entry.snapshotFor ip = none ∧ entry.acceptedFrom ip = [] := by
  cases entry with
  | sent | raised => exact ⟨rfl, rfl⟩
  | negotiated | accepted => exact h.elim

namespace Router

variable {r r' : Router} {ip : UInt32} {n popped : Neighbor} {dd : OSPFDD}
  {headers : List LSAHeader} {src : UInt32} {data : Memory}
  {s s' : LsuState}

/-- What the neighbor has listed once one more packet has been accepted. -/
theorem listedBy_acceptanceLog (r : Router) (ip : UInt32)
    (headers : List LSAHeader) (n : Neighbor) :
    listedBy ip (r.log ++ r.acceptanceLog ip headers n) =
      (if r.Negotiates ip then [] else listedBy ip r.log) ++
        headers.map LSAHeader.ddDecode := by
  have hraised : ∀ entry ∈ (headers.filter fun h =>
      decide (Neighbor.BadType h)).map
        (fun _ => LogEntry.raised ip .seqNumberMismatch),
      entry.snapshotFor ip = none ∧ entry.acceptedFrom ip = [] := by
    intro entry hentry
    obtain ⟨_, -, rfl⟩ := List.mem_map.mp hentry
    exact ⟨rfl, rfl⟩
  have haccepted (listed : List LSAHeader) :
      noteListed ip listed (.accepted ip (headers.map LSAHeader.ddDecode)) =
        listed ++ headers.map LSAHeader.ddDecode := by
    rw [noteListed, LogEntry.acceptedFrom, if_pos rfl]
    exact if_neg fun h => h rfl
  rw [listedBy, acceptanceLog, List.foldl_append, List.foldl_append,
    List.foldl_append, foldl_noteListed_of_silent hraised, List.foldl_cons,
    List.foldl_nil, haccepted]
  split_ifs with hnegotiates
  · have hstart (listed : List LSAHeader) :
        noteListed ip listed (.negotiated ip n.databaseSummaryList) = [] := by
      rw [noteListed, LogEntry.snapshotFor, if_pos rfl]
      exact if_pos (Option.some_ne_none _)
    rw [List.foldl_cons, List.foldl_nil, hstart]
  · rfl

/-- The packet says nothing of the other neighbors. -/
theorem listedBy_acceptanceLog_of_ne {ip' : UInt32} (hne : ip' ≠ ip)
    (headers : List LSAHeader) (n : Neighbor) :
    listedBy ip' (r.log ++ r.acceptanceLog ip headers n) =
      listedBy ip' r.log := by
  refine listedBy_append_of_silent (fun entry hentry => ?_) r.log
  refine ⟨acceptanceLog_snapshotFor hne hentry, ?_⟩
  rw [acceptanceLog] at hentry
  rcases List.mem_append.mp hentry with hbefore | haccepted
  · rcases List.mem_append.mp hbefore with hnegotiated | hraised
    · split_ifs at hnegotiated
      · rw [List.mem_singleton.mp hnegotiated]
        rfl
      · cases hnegotiated
    · obtain ⟨_, -, rfl⟩ := List.mem_map.mp hraised
      rfl
  · rw [List.mem_singleton.mp haccepted, LogEntry.acceptedFrom,
      if_neg (Ne.symm hne)]

end Router

/-! ## What the database covers -/

namespace LSDB

/-- The database holds an instance of the LSA that is not older. -/
def Covers (lsdb : LSDB) (header : LSAHeader) : Prop :=
  ∃ stored ∈ lsdb.findInstance header, 0 ≤ lsaHeaderCmp header stored

instance (lsdb : LSDB) (header : LSAHeader) :
    Decidable (lsdb.Covers header) :=
  inferInstanceAs (Decidable (∃ stored ∈ lsdb.findInstance header, _))

variable {lsdb after : LSDB} {mask : UInt32} {data : Memory}
  {header : LSAHeader}

/-- Installing an LSA keeps what is covered, if the instance does. -/
theorem Covers.install (h : lsdb.Covers header)
    (hinstall : lsdb.install mask data = .ok after)
    (hreceived : LSAHeader.SameLsa header (lsaHeaderHost data) →
      0 ≤ lsaHeaderCmp header (lsaHeaderHost data)) :
    after.Covers header := by
  rw [Covers, findInstance_install hinstall]
  split_ifs with hsame
  · exact ⟨_, rfl, hreceived hsame.2⟩
  · exact h

/-- Instances of one LSA are found alike. -/
theorem findInstance_of_sameLsa {h : LSAHeader}
    (hsame : LSAHeader.SameLsa header h) :
    lsdb.findInstance header = lsdb.findInstance h := by
  rw [findInstance, findInstance, hsame.1, hsame.2.1, hsame.2.2]

/-- What has been requested is covered by what is installed in its place. -/
theorem covers_of_install (hinstall : lsdb.install mask data = .ok after)
    (hstorable : header.Storable)
    (hsame : LSAHeader.SameLsa header (lsaHeaderHost data))
    (hcmp : lsaHeaderCmp (lsaHeaderHost data) header ≤ 0) :
    after.Covers header := by
  rw [Covers, findInstance_install hinstall, if_pos ⟨hstorable, hsame⟩]
  refine ⟨_, rfl, ?_⟩
  by_contra hnewer
  exact absurd ((lsaHeaderCmp_pos_iff _ _).mpr (not_le.mp hnewer))
    (not_lt.mpr hcmp)

end LSDB

namespace Router

variable {r : Router} {header : LSAHeader}

/-- `update_lsas` erases the Network LSA of the router, and adds none. -/
def ErasesNetworkLsa (r : Router) : Prop :=
  r.EmitsNetworkLsa ∧
    r.lsdb.findNetworkLsa r.interface.ipInterfaceAddress r.routerId ≠ none

instance (r : Router) : Decidable r.ErasesNetworkLsa :=
  inferInstanceAs (Decidable (_ ∧ _))

/-- The LSA is the Network LSA of the router. -/
def IsOwnNetworkLsa (r : Router) (header : LSAHeader) : Prop :=
  header.lsType = lsaNetwork ∧
    header.key = (r.interface.ipInterfaceAddress, r.routerId)

instance (r : Router) (header : LSAHeader) :
    Decidable (r.IsOwnNetworkLsa header) :=
  inferInstanceAs (Decidable (_ ∧ _))

/-- What is covered stays so when the router originates its LSAs, unless it
is the Network LSA that is erased. -/
theorem covers_updateLsas (h : r.lsdb.Covers header)
    (herased : r.ErasesNetworkLsa → ¬r.IsOwnNetworkLsa header) :
    r.updateLsas.lsdb.Covers header := by
  obtain ⟨stored, hstored, hcmp⟩ := h
  rw [LSDB.findInstance, LSDB.findHeader] at hstored
  rw [LSDB.Covers, LSDB.findInstance, LSDB.findHeader,
    findRouterLsa_updateLsas, findNetworkLsa_updateLsas]
  split_ifs at hstored with hrouter hnetwork
  · obtain ⟨old, hold, rfl⟩ := Option.map_eq_some_iff.mp hstored
    rw [if_pos hrouter]
    by_cases hown : r.EmitsRouterLsa ∧
        (header.linkStateId, header.advertisingRouter) =
          (r.routerId, r.routerId)
    · rw [if_pos hown]
      obtain ⟨hid, hadv⟩ := Prod.mk.inj hown.2
      rw [hid, hadv] at hold
      exact ⟨_, rfl, lsaHeaderCmp_nonneg_of_newer hcmp
        (r.emitsRouterLsa_iff.mp hown.1 old hold)⟩
    · rw [if_neg hown, hold]
      exact ⟨_, rfl, hcmp⟩
  · obtain ⟨old, hold, rfl⟩ := Option.map_eq_some_iff.mp hstored
    rw [if_neg hrouter, if_pos hnetwork]
    by_cases hown : r.EmitsNetworkLsa ∧
        (header.linkStateId, header.advertisingRouter) =
          (r.interface.ipInterfaceAddress, r.routerId)
    · obtain ⟨hid, hadv⟩ := Prod.mk.inj hown.2
      rw [hid, hadv] at hold
      refine absurd ⟨hnetwork, hown.2⟩ (herased ⟨hown.1, ?_⟩)
      rw [hold]
      exact Option.some_ne_none old
    · rw [if_neg hown, hold]
      exact ⟨_, rfl, hcmp⟩
  · cases hstored

end Router

end OspfLite
