import OspfLite.Router.Addresses
import OspfLite.Router.Backing
import OspfLite.Router.Listing

/-!
# FULL means synchronised

A neighbor should become FULL when the database has every LSA it has listed.
`event_exchange_done` does not look at the request list, and not everything
that is missing gets on it or stays on it.
-/

namespace OspfLite
namespace Neighbor

/-- A change after which an exchange goes on, if at all, and every request is
still there or met by the database. -/
structure KeepsRequests (lsdb : LSDB) (n n' : Neighbor) : Prop where
  ip : n'.ip = n.ip
  goesOn : NeighborState.exchange ≤ n'.state →
    n'.state = n.state ∧
      n'.linkStateRequestList ⊆ n.linkStateRequestList ∧
      ∀ h ∈ n.linkStateRequestList, h.Storable →
        lsdb.Covers h ∨ h ∈ n'.linkStateRequestList

variable {n n' : Neighbor} {lsdb after : LSDB} {mask : UInt32}
  {data : Memory}

theorem keepsRequests_of_eq (hip : n'.ip = n.ip) (hstate : n'.state = n.state)
    (hrequests : n'.linkStateRequestList = n.linkStateRequestList) :
    n.KeepsRequests lsdb n' := by
  refine ⟨hip, fun _ => ⟨hstate, ?_, ?_⟩⟩
  · rw [hrequests]
    exact List.Subset.refl _
  · intro h hh _
    rw [hrequests]
    exact Or.inr hh

theorem Recedes.keepsRequests (h : n.Recedes n') :
    n.KeepsRequests lsdb n' := by
  rcases h.exchange with hkeep | hfall
  · have hlists := hkeep.lists
    simp only [lists, Prod.mk.injEq] at hlists
    exact keepsRequests_of_eq h.ip hkeep.state hlists.2.2
  · exact ⟨h.ip, fun hstate => absurd hfall.state (not_lt.mpr hstate)⟩

theorem pushAll_keepsRequests (headers : List LSAHeader) (n : Neighbor) :
    n.KeepsRequests lsdb (n.pushAll headers) := by
  refine keepsRequests_of_eq (n.pushAll_ip headers) (n.pushAll_state headers)
    ?_
  rw [pushAll]
  split_ifs <;> rfl

/-! ## Flooding -/

/-- Flooding takes a request off for an instance that is not older. -/
theorem flood_requests (header : LSAHeader) (src : UInt32) (n : Neighbor) :
    (n.flood header src).1.linkStateRequestList = n.linkStateRequestList ∨
      ∃ entry, n.linkStateRequestList.find? header.matchesId = some entry ∧
        lsaHeaderCmp header entry ≤ 0 ∧
        (n.flood header src).1.linkStateRequestList =
          n.linkStateRequestList.eraseP header.matchesId := by
  by_cases hlow : n.state < .exchange
  · rw [flood, if_pos hlow]
    exact Or.inl rfl
  by_cases hstate : n.state = .exchange ∨ n.state = .loading
  · rw [flood, if_neg hlow, if_pos hstate]
    cases hfind : n.linkStateRequestList.find? header.matchesId with
    | none => exact Or.inl rfl
    | some entry =>
        simp only
        split_ifs with hsame hnewer
        · exact Or.inr ⟨entry, rfl, hsame.le, rfl⟩
        · exact Or.inr ⟨entry, rfl, hnewer.le, rfl⟩
        · exact Or.inr ⟨entry, rfl, hnewer.le, rfl⟩
        · exact Or.inl rfl
  · rw [flood, if_neg hlow, if_neg hstate]
    exact Or.inl rfl

/-- The request that flooding takes off, which is found without its type, is
one for this LSA. -/
def MeetsRequest (header : LSAHeader) (n : Neighbor) : Prop :=
  NeighborState.exchange ≤ n.state →
    ∀ entry ∈ n.linkStateRequestList.find? header.matchesId,
      lsaHeaderCmp header entry ≤ 0 → entry.Storable →
        entry.lsType = header.lsType

instance (header : LSAHeader) (n : Neighbor) :
    Decidable (n.MeetsRequest header) :=
  inferInstanceAs (Decidable (_ → ∀ entry ∈ n.linkStateRequestList.find? _,
    _ → _ → _))

/-- The request that flooding takes off is met by the instance installed
after it. -/
theorem flood_keepsRequests (src : UInt32)
    (hinstall : lsdb.install mask data = .ok after)
    (hmeets : n.MeetsRequest (lsaHeaderHost data)) :
    n.KeepsRequests after (n.flood (lsaHeaderHost data) src).1 := by
  have hip : (n.flood (lsaHeaderHost data) src).1.ip = n.ip := by
    obtain ⟨_, _, -, -, hflood⟩ := flood_eq (lsaHeaderHost data) src n
    rw [hflood]
  have hstate := n.flood_state (lsaHeaderHost data) src
  rcases n.flood_requests (lsaHeaderHost data) src with hsame |
    ⟨entry, hfind, hcmp, herase⟩
  · exact keepsRequests_of_eq hip hstate hsame
  refine ⟨hip, fun hgoes => ⟨hstate, ?_, ?_⟩⟩
  · rw [herase]
    exact List.eraseP_sublist.subset
  · intro h hh hstorable
    by_cases hentry : h = entry
    · subst hentry
      have hmatches := List.find?_some hfind
      rw [LSAHeader.matchesId, decide_eq_true_iff] at hmatches
      exact Or.inl (LSDB.covers_of_install hinstall hstorable
        ⟨hmeets (hstate ▸ hgoes) h hfind hcmp hstorable, hmatches.1,
          hmatches.2⟩ hcmp)
    · rw [herase]
      exact Or.inr (mem_eraseP_of_ne hfind hh hentry)

end Neighbor

namespace Router

/-- What a neighbor has listed is covered by the database or requested, and
nothing is requested of a FULL neighbor. -/
def Synchronising (r : Router) : Prop :=
  ∀ ip n, r.findNeighbor ip = some n → NeighborState.exchange ≤ n.state →
    (n.state = .full → n.linkStateRequestList = []) ∧
      ∀ h ∈ listedBy ip r.log, h.Storable →
        r.lsdb.Covers h ∨ h ∈ n.linkStateRequestList

/-- No exchange begins or is concluded, and the database goes on covering what
has been listed. -/
structure KeepsListed (r r' : Router) : Prop where
  neighbors : ∀ ip n', r'.findNeighbor ip = some n' →
    NeighborState.exchange ≤ n'.state →
      ∃ n, r.findNeighbor ip = some n ∧ n.KeepsRequests r'.lsdb n'
  log : ∃ entries, (∀ entry ∈ entries, entry.Plain) ∧
    r'.log = r.log ++ entries
  covers : ∀ ip n, r.findNeighbor ip = some n →
    NeighborState.exchange ≤ n.state → ∀ h ∈ listedBy ip r.log,
      r.lsdb.Covers h → r'.lsdb.Covers h

variable {r r' : Router} {ip : UInt32} {n popped : Neighbor} {dd : OSPFDD}
  {headers : List LSAHeader} {src : UInt32} {data : Memory}
  {s s' : LsuState}

theorem Synchronising.keeps (h : r.Synchronising)
    (hkeeps : r.KeepsListed r') : r'.Synchronising := by
  intro ip n' hn' hstate'
  obtain ⟨n, hn, hrequests⟩ := hkeeps.neighbors ip n' hn' hstate'
  obtain ⟨hstate, hsub, hmet⟩ := hrequests.goesOn hstate'
  have hbefore : NeighborState.exchange ≤ n.state := hstate ▸ hstate'
  obtain ⟨hfull, hlisted⟩ := h ip n hn hbefore
  obtain ⟨entries, hplain, hlog⟩ := hkeeps.log
  constructor
  · intro hfull'
    rw [hfull (hstate ▸ hfull')] at hsub
    exact List.subset_nil.mp hsub
  · intro header hheader hstorable
    rw [hlog, listedBy_append_of_silent fun entry hentry =>
      silent_of_plain (hplain entry hentry) ip] at hheader
    rcases hlisted header hheader hstorable with hcovers | hrequested
    · exact Or.inl (hkeeps.covers ip n hn hbefore header hheader hcovers)
    · exact hmet header hrequested hstorable

/-- Changes entry by entry, with sent packets and raised events. -/
theorem keepsListed_of_forall₂ {entries : List LogEntry}
    (hneighbors : List.Forall₂ (Neighbor.KeepsRequests r'.lsdb)
      r.interface.neighbors r'.interface.neighbors)
    (hplain : ∀ entry ∈ entries, entry.Plain)
    (hlog : r'.log = r.log ++ entries)
    (hcovers : ∀ ip n, r.findNeighbor ip = some n →
      NeighborState.exchange ≤ n.state → ∀ h ∈ listedBy ip r.log,
        r.lsdb.Covers h → r'.lsdb.Covers h) : r.KeepsListed r' :=
  ⟨fun _ _ hn' _ =>
      exists_find_of_forall₂ (fun _ _ h => h.ip) hneighbors hn',
    ⟨entries, hplain, hlog⟩, hcovers⟩

/-- Changing the record found. -/
theorem keepsListed_modifyNeighbor {f : Neighbor → Neighbor}
    (hf : ∀ n, r.findNeighbor ip = some n →
      n.KeepsRequests r.lsdb (f n)) :
    r.KeepsListed (r.modifyNeighbor ip f) := by
  have hlog : (r.modifyNeighbor ip f).log = r.log ++ [] :=
    (List.append_nil r.log).symm
  exact keepsListed_of_forall₂
    (forall₂_modifyNeighbor
      (fun n => Neighbor.keepsRequests_of_eq rfl rfl rfl) hf)
    (by simp) hlog (fun _ _ _ _ _ _ h => h)

theorem keepsListed_addLog {entry : LogEntry} (h : entry.Plain) :
    r.KeepsListed (r.addLog entry) :=
  ⟨fun _ n hn _ => ⟨n, hn, Neighbor.keepsRequests_of_eq rfl rfl rfl⟩,
    ⟨[entry], by simpa using h, rfl⟩, fun _ _ _ _ _ _ h => h⟩

/-- A new neighbor is in no exchange. -/
theorem Recedes.keepsListed (h : r.Recedes r') : r.KeepsListed r' := by
  obtain ⟨⟨base, hbase, hinter⟩, entries, hplain, hr'⟩ := h
  have hlsdb : r'.lsdb = r.lsdb := by rw [hr']
  refine ⟨?_, ⟨entries, hplain, by rw [hr']⟩, ?_⟩
  · intro ip n' hn' hstate
    have hforall : List.Forall₂ (Neighbor.KeepsRequests r'.lsdb)
        base.neighbors r'.interface.neighbors :=
      hinter.neighbors.imp fun _ _ h => Neighbor.Recedes.keepsRequests h
    obtain ⟨n, hn, hkeeps⟩ := exists_find_of_forall₂ (fun _ _ h => h.ip)
      hforall hn'
    refine ⟨n, ?_, hkeeps⟩
    rcases hbase with rfl | ⟨new, rfl⟩
    · exact hn
    · rw [Interface.ensureNeighbor] at hn
      split_ifs at hn
      · rw [Interface.addNeighbor, List.find?_append,
          Option.or_eq_some_iff] at hn
        rcases hn with hold | ⟨-, hnew⟩
        · exact hold
        · have hsame : n = Neighbor.new r.uninit new :=
            List.mem_singleton.mp (List.mem_of_find?_eq_some hnew)
          have hbefore := (hkeeps.goesOn hstate).1
          rw [hbefore, hsame] at hstate
          exact absurd hstate
            (show ¬NeighborState.exchange ≤ .down by decide)
      · exact hn
  · intro ip n hn hstate header hheader hcovers
    rw [hlsdb]
    exact hcovers

/-! ## Link State Updates -/

/-- A Network LSA that step 8 installs is not older than any instance that a
neighbor has listed. -/
def SettlesListed (r : Router) (header : LSAHeader) : Prop :=
  ∀ n ∈ r.interface.neighbors, NeighborState.exchange ≤ n.state →
    ∀ h ∈ listedBy n.ip r.log, LSAHeader.SameLsa h header →
      0 ≤ lsaHeaderCmp h header

instance (r : Router) (header : LSAHeader) :
    Decidable (r.SettlesListed header) :=
  inferInstanceAs (Decidable (∀ n ∈ r.interface.neighbors, _ →
    ∀ h ∈ listedBy n.ip r.log, _ → _))

/-- What a round does with an LSA that passes the checks: flooding takes off
no request for another one, and step 8 goes back behind nothing listed. -/
def ServesListed (src : UInt32) (s : LsuState) (data : Memory) : Prop :=
  s.badLsReq = false → ChecksumOk data → (lsaHeaderHost data).TypeOk →
    if s.router.NewOrNewer (lsaHeaderHost data) then
      ∀ n ∈ s.router.interface.neighbors,
        n.MeetsRequest (lsaHeaderHost data)
    else
      ¬s.router.Requested src (lsaHeaderHost data) →
        (lsaHeaderHost data).lsType = lsaNetwork →
          s.router.SettlesListed (lsaHeaderHost data)

instance (src : UInt32) (s : LsuState) (data : Memory) :
    Decidable (ServesListed src s data) :=
  inferInstanceAs (Decidable (_ → _ → _ → ite _ _ _))

theorem acceptLsa_keepsListed
    (hnew : s.router.NewOrNewer (lsaHeaderHost data))
    (hmeets : ∀ n ∈ s.router.interface.neighbors,
      n.MeetsRequest (lsaHeaderHost data))
    (hs' : acceptLsa src data s = .ok s') :
    s.router.KeepsListed s'.router := by
  have hinstall := acceptLsa_lsdb hs'
  have hneighbors : List.Forall₂ (Neighbor.KeepsRequests s'.router.lsdb)
      s.router.interface.neighbors s'.router.interface.neighbors := by
    refine acceptLsa_forall₂ (fun n hn => ?_) (fun n _ => ?_) hs'
    · have hflood := n.flood_keepsRequests src hinstall (hmeets n hn)
      exact ⟨hflood.ip, hflood.goesOn⟩
    · exact Neighbor.keepsRequests_of_eq rfl rfl rfl
  obtain ⟨entries, hplain, hlog⟩ := s.router.floodArea_log data src
  obtain ⟨lsdb, -, rfl⟩ := Outcome.map_eq_ok.mp hs'
  refine keepsListed_of_forall₂ hneighbors hplain hlog ?_
  intro ip n _ _ h _ hcovers
  refine hcovers.install hinstall fun hsame => ?_
  obtain ⟨stored, hstored, hcmp⟩ := hcovers
  rw [LSDB.findInstance_of_sameLsa hsame] at hstored
  exact lsaHeaderCmp_nonneg_of_newer hcmp (hnew stored hstored)

theorem rejectLsa_keepsListed {same : Bool}
    (hsettles : ¬s.router.Requested src (lsaHeaderHost data) →
      (lsaHeaderHost data).lsType = lsaNetwork →
        s.router.SettlesListed (lsaHeaderHost data))
    (hs' : rejectLsa src data same s = .ok s') :
    s.router.KeepsListed s'.router := by
  rcases rejectLsa_cases hs' with
    ⟨-, hrouter⟩ | ⟨hrequested, r, lsdb, hr, hrouter, hlsdb⟩
  · rw [hrouter]
    exact (restart_recedes (ntohl src) .badLsReq s.router).keepsListed
  -- the requests stay as they are, whatever is installed
  · have hneighbors : List.Forall₂ (Neighbor.KeepsRequests lsdb)
        s.router.interface.neighbors r.interface.neighbors ∧
          r.log = s.router.log ++ [] := by
      rcases hr with rfl | rfl
      · refine ⟨List.forall₂_same.mpr fun n _ => ?_, (List.append_nil _).symm⟩
        exact Neighbor.keepsRequests_of_eq rfl rfl rfl
      · refine ⟨forall₂_modifyNeighbor (fun n => ?_) fun n _ => ?_,
          (List.append_nil _).symm⟩
        · exact Neighbor.keepsRequests_of_eq rfl rfl rfl
        · exact Neighbor.keepsRequests_of_eq rfl rfl rfl
    rw [hrouter]
    refine keepsListed_of_forall₂ hneighbors.1 (by simp) hneighbors.2 ?_
    intro ip n hn hstate h hh hcovers
    rcases hlsdb with rfl | ⟨hnetwork, hinstall⟩
    · exact hcovers
    · refine hcovers.install hinstall fun hsame => ?_
      rw [← findNeighbor_ip hn] at hh
      exact hsettles hrequested hnetwork n (List.mem_of_find?_eq_some hn)
        hstate h hh hsame

/-- A round of the LSU loop. -/
theorem lsuRound_synchronising (h : s.router.Synchronising)
    (hserves : ServesListed src s data)
    (hs' : lsuRound src s data = .ok s') : s'.router.Synchronising := by
  rcases lsuRound_cases hs' with
    rfl | ⟨hbad, hsum, htype, ⟨hnew, haccept⟩ | ⟨hnew, same, hreject⟩⟩
  · exact h
  · have hmeets := hserves hbad hsum htype
    rw [if_pos hnew] at hmeets
    exact h.keeps (acceptLsa_keepsListed hnew hmeets haccept)
  · have hsettles := hserves hbad hsum htype
    rw [if_neg hnew] at hsettles
    exact h.keeps (rejectLsa_keepsListed hsettles hreject)

/-! ## Accepted packets -/

/-- Every Network LSA that the packet lists is looked for, which takes an age
of 2, or covered. -/
def NoticesNetworkLsas (r : Router) (headers : List LSAHeader) : Prop :=
  (∀ h ∈ headers, ¬Neighbor.BadType h) →
    ∀ h ∈ headers.map LSAHeader.ddDecode, h.lsType = lsaNetwork →
      h.lsAge ≠ 2 → r.lsdb.Covers h

/-- The neighbors that exchange databases, the one that sends the packet
included, have not listed the Network LSA of the router. -/
def OwnNetworkLsaUnlisted (r : Router) (headers : List LSAHeader) : Prop :=
  (∀ h ∈ headers.map LSAHeader.ddDecode, ¬r.IsOwnNetworkLsa h) ∧
    ∀ n ∈ r.interface.neighbors, NeighborState.exchange ≤ n.state →
      ∀ h ∈ listedBy n.ip r.log, ¬r.IsOwnNetworkLsa h

/-- A packet that concludes the exchange finds nothing requested and requests
nothing, and the `update_lsas` it leads to erases nothing listed. -/
def ConcludesSynchronised (r : Router) (_ip : UInt32) (dd : OSPFDD)
    (headers : List LSAHeader) (n : Neighbor) : Prop :=
  r.NoticesNetworkLsas headers ∧
    (n.Completes dd headers →
      n.linkStateRequestList = [] ∧
        (∀ h ∈ headers, ¬Neighbor.Lacks r.lsdb h.ddDecode) ∧
        (r.ErasesNetworkLsa → r.OwnNetworkLsaUnlisted headers))

instance (r : Router) (headers : List LSAHeader) :
    Decidable (r.NoticesNetworkLsas headers) :=
  inferInstanceAs (Decidable ((∀ h ∈ headers, _) →
    ∀ h ∈ headers.map LSAHeader.ddDecode, _ → _ → _))

instance (r : Router) (headers : List LSAHeader) :
    Decidable (r.OwnNetworkLsaUnlisted headers) :=
  inferInstanceAs (Decidable ((∀ h ∈ headers.map LSAHeader.ddDecode, _) ∧
    ∀ n ∈ r.interface.neighbors, _ → ∀ h ∈ listedBy n.ip r.log, _))

instance (r : Router) (ip : UInt32) (dd : OSPFDD) (headers : List LSAHeader)
    (n : Neighbor) : Decidable (r.ConcludesSynchronised ip dd headers n) :=
  inferInstanceAs (Decidable (_ ∧ (_ → _ ∧ (∀ h ∈ headers, _) ∧ (_ → _))))

/-- What the packet lists is covered or wanted. -/
theorem covers_or_wanted (hnotices : r.NoticesNetworkLsas headers)
    (hgood : ∀ h ∈ headers, ¬Neighbor.BadType h) :
    ∀ h ∈ headers.map LSAHeader.ddDecode, h.Storable →
      r.lsdb.Covers h ∨ h ∈ Neighbor.wanted r.lsdb headers := by
  intro h hh hstorable
  by_cases hcovers : r.lsdb.Covers h
  · exact Or.inl hcovers
  have hlacks : Neighbor.Lacks r.lsdb h := by
    by_cases hrouter : h.lsType = lsaRouter
    · refine Or.inl ⟨hrouter, fun lsa hlsa => ?_⟩
      by_contra hcmp
      refine hcovers ⟨lsa.header, ?_, not_lt.mp hcmp⟩
      rw [LSDB.findInstance, LSDB.findHeader, if_pos hrouter, hlsa]
      rfl
    · have hnetwork : h.lsType = lsaNetwork := hstorable.resolve_left hrouter
      by_cases hage : h.lsAge = 2
      · refine Or.inr ⟨hrouter, hage, fun lsa hlsa => ?_⟩
        by_contra hcmp
        refine hcovers ⟨lsa.header, ?_, not_lt.mp hcmp⟩
        rw [LSDB.findInstance, LSDB.findHeader, if_neg hrouter,
          if_pos hnetwork, hlsa]
        rfl
      · exact absurd (hnotices hgood h hh hnetwork hage) hcovers
  refine Or.inr (List.mem_filter.mpr ⟨hh, ?_⟩)
  simpa using hlacks

/-- What the sender has listed, the packet included, is covered or requested
when the packet has been taken in. -/
theorem popped_synchronising {m : Neighbor} (h : r.Synchronising)
    (hm : r.findNeighbor ip = some m)
    (hfrom : Neighbor.AcceptedFrom r.lsdb m n)
    (hnotices : r.NoticesNetworkLsas headers)
    (hpopped : (n.takeIn r.lsdb dd headers).popAcknowledged = .ok popped)
    (hstate : NeighborState.exchange ≤ popped.state) :
    popped.state = .exchange ∧
      popped.linkStateRequestList =
        n.linkStateRequestList ++ Neighbor.wanted r.lsdb headers ∧
      ∀ h ∈ listedBy ip (r.log ++ r.acceptanceLog ip headers n), h.Storable →
        r.lsdb.Covers h ∨ h ∈ popped.linkStateRequestList := by
  obtain ⟨-, rfl⟩ := Neighbor.popAcknowledged_eq_ok.mp hpopped
  have hgood : ∀ header ∈ headers, ¬Neighbor.BadType header := by
    intro header hheader hbad
    have hstart := (Neighbor.takeIn_of_badType ⟨header, hheader, hbad⟩ r.lsdb
      dd hfrom.state).1
    change NeighborState.exchange ≤ (n.takeIn r.lsdb dd headers).state
      at hstate
    rw [hstart] at hstate
    exact absurd hstate (by decide)
  obtain ⟨hsame, hlists, -⟩ := Neighbor.takeIn_of_goodTypes hgood r.lsdb dd n
  simp only [Neighbor.lists, Prod.mk.injEq] at hlists
  refine ⟨hsame.trans hfrom.state, hlists.2.2, ?_⟩
  intro header hheader hstorable
  change _ ∨ header ∈ (n.takeIn r.lsdb dd headers).linkStateRequestList
  rw [hlists.2.2, List.mem_append]
  rw [listedBy_acceptanceLog, List.mem_append] at hheader
  rcases hheader with hbefore | hnew
  · split_ifs at hbefore with hnegotiates
    · cases hbefore
    · have hexchange : m.state = .exchange := by
        by_contra hne
        exact hnegotiates ⟨m, hm, hne⟩
      rcases (h ip m hm hexchange.ge).2 header hbefore hstorable with
        hcovers | hrequested
      · exact Or.inl hcovers
      · rw [hfrom.requests]
        exact Or.inr (Or.inl hrequested)
  · rcases covers_or_wanted hnotices hgood header hnew hstorable with
      hcovers | hwanted
    · exact Or.inl hcovers
    · exact Or.inr (Or.inr hwanted)

/-- Putting the record of the sender in place. -/
theorem Synchronising.putNeighbor {m k : Neighbor} (h : r.Synchronising)
    (hm : r.findNeighbor ip = some m) (hip : k.ip = ip)
    (hk : NeighborState.exchange ≤ k.state →
      (k.state = .full → k.linkStateRequestList = []) ∧
        ∀ h ∈ listedBy ip (r.log ++ r.acceptanceLog ip headers n),
          h.Storable → r.lsdb.Covers h ∨ h ∈ k.linkStateRequestList) :
    (r.putNeighbor ip k (r.acceptanceLog ip headers n)).Synchronising := by
  intro ip' n' hn' hstate
  by_cases hne : ip' = ip
  · subst hne
    rw [findNeighbor_putNeighbor hm hip, Option.some.injEq] at hn'
    subst hn'
    exact hk hstate
  · rw [findNeighbor_putNeighbor_of_ne hip hne] at hn'
    have hsame := listedBy_acceptanceLog_of_ne (r := r) hne headers n
    change _ ∧ ∀ h ∈ listedBy ip' (r.log ++ r.acceptanceLog ip headers n), _
    rw [hsame]
    exact h ip' n' hn' hstate

/-- `update_lsas`, where it erases nothing that has been listed. -/
theorem updateLsas_keepsListed (hunlisted : ∀ ip n,
      r.findNeighbor ip = some n → NeighborState.exchange ≤ n.state →
        ∀ h ∈ listedBy ip r.log,
          r.ErasesNetworkLsa → ¬r.IsOwnNetworkLsa h) :
    r.KeepsListed r.updateLsas := by
  obtain ⟨r', entries, ⟨_, _, _, rfl⟩, heq, hsent⟩ := r.updateLsas_eq
  have hplain : ∀ entry ∈ entries, entry.Plain := by
    intro entry hentry
    obtain ⟨_, _, rfl, -⟩ := hsent entry hentry
    trivial
  have hlog : r.updateLsas.log = r.log ++ entries := by rw [heq]
  refine keepsListed_of_forall₂ ?_ hplain hlog ?_
  · rw [updateLsas_interface_eq]
    change List.Forall₂ _ r.interface.neighbors
      (r.interface.neighbors.map (Neighbor.pushAll r.emittedHeaders))
    rw [List.forall₂_map_right_iff]
    exact List.forall₂_same.mpr fun n _ => n.pushAll_keepsRequests _
  · intro ip n hn hstate h hh hcovers
    exact covers_updateLsas hcovers (hunlisted ip n hn hstate h hh)

theorem replyDd_keepsListed (hfind : r.findNeighbor ip = some n) :
    r.KeepsListed (r.replyDd ip) := by
  rw [replyDd_eq hfind]
  refine keepsListed_of_forall₂ (forall₂_modifyNeighbor
    (fun n => Neighbor.keepsRequests_of_eq rfl rfl rfl) ?_)
    (fun entry hentry => ?_) rfl (fun _ _ _ _ _ _ h => h)
  · intro k hk
    change r.interface.findNeighbor ip = some n at hfind
    change r.interface.findNeighbor ip = some k at hk
    rw [hfind, Option.some.injEq] at hk
    subst hk
    have hlists : (n.reply r.interface.mtu r.ospfOptions
        r.uninit.ddOther).lists = n.lists := Neighbor.reply_lists _ _ _
    simp only [Neighbor.lists, Prod.mk.injEq] at hlists
    exact Neighbor.keepsRequests_of_eq (n.reply_ip _ _ _)
      (n.reply_state _ _ _) hlists.2.2
  · rw [List.mem_singleton.mp hentry]
    trivial

/-- Handling an accepted packet that meets the condition. -/
theorem acceptedDd_synchronising {m : Neighbor} (h : r.Synchronising)
    (hm : r.findNeighbor ip = some m)
    (hfrom : Neighbor.AcceptedFrom r.lsdb m n)
    (hpopped : (n.takeIn r.lsdb dd headers).popAcknowledged = .ok popped)
    (hcond : r.ConcludesSynchronised ip dd headers n) :
    (((r.putNeighbor ip popped
      (r.acceptanceLog ip headers n)).concludeDd ip dd popped).replyDd
        ip).Synchronising := by
  have hip := popped_ip hm hfrom hpopped
  rw [concludeDd_putNeighbor hm hip]
  split_ifs with hdone
  · obtain ⟨hnone, hlacks, hunlisted⟩ := hcond.2
      ((Neighbor.completes_iff hfrom.state hpopped).mpr hdone)
    obtain ⟨-, hrequests, hlisted⟩ := popped_synchronising h hm hfrom hcond.1
      hpopped hdone.2.2.ge
    have hwanted : Neighbor.wanted r.lsdb headers = [] := by
      rw [Neighbor.wanted, List.filter_eq_nil_iff]
      intro header hheader
      obtain ⟨raw, hraw, rfl⟩ := List.mem_map.mp hheader
      simpa using hlacks raw hraw
    rw [hnone, hwanted, List.append_nil] at hrequests
    have hfull := popped.reachFull_ip.trans hip
    have hput := h.putNeighbor hm hfull fun _ => ⟨fun _ => hrequests, hlisted⟩
    refine (hput.keeps (updateLsas_keepsListed ?_)).keeps
      (replyDd_keepsListed (findNeighbor_updateLsas
        (findNeighbor_putNeighbor hm hfull _)))
    intro ip' n' hn' hstate header hheader herases
    have hnobody := hunlisted herases
    change header ∈ listedBy ip' (r.log ++ r.acceptanceLog ip headers n)
      at hheader
    by_cases hne : ip' = ip
    · subst hne
      rw [listedBy_acceptanceLog, List.mem_append] at hheader
      rcases hheader with hbefore | hnew
      · split_ifs at hbefore with hnegotiates
        · cases hbefore
        · have hexchange : m.state = .exchange := by
            by_contra hne
            exact hnegotiates ⟨m, hm, hne⟩
          rw [← findNeighbor_ip hm] at hbefore
          exact hnobody.2 m (List.mem_of_find?_eq_some hm) hexchange.ge
            header hbefore
      · exact hnobody.1 header hnew
    · rw [listedBy_acceptanceLog_of_ne hne] at hheader
      rw [findNeighbor_putNeighbor_of_ne hfull hne] at hn'
      rw [← findNeighbor_ip hn'] at hheader
      exact hnobody.2 n' (List.mem_of_find?_eq_some hn') hstate header hheader
  · refine Synchronising.keeps ?_
      (replyDd_keepsListed (findNeighbor_putNeighbor hm hip _))
    refine h.putNeighbor hm hip fun hstate => ?_
    obtain ⟨hexchange, -, hlisted⟩ := popped_synchronising h hm hfrom hcond.1
      hpopped hstate
    refine ⟨fun hfull => ?_, hlisted⟩
    rw [hexchange] at hfull
    cases hfull

/-! ## Runs -/

/-- What a step must not do to what has been listed. -/
def StaysSynchronised (r : Router) (step : Step) : Prop :=
  r.EachAcceptedDd ConcludesSynchronised step ∧
    r.EachLsuRound ServesListed step

instance (r : Router) (step : Step) : Decidable (r.StaysSynchronised step) :=
  inferInstanceAs (Decidable (_ ∧ _))

theorem Synchronising.step {step : Step} (h : r.Synchronising)
    (hcond : r.StaysSynchronised step) (hr' : r.step step = .ok r') :
    r'.Synchronising := by
  cases step_moves hr' with
  | recedes hrecedes => exact h.keeps hrecedes.keepsListed
  | describes hadmits htype hheaders haccepted hpopped =>
      obtain ⟨m, hm, hfrom⟩ := acceptedDd_spec haccepted
      exact acceptedDd_synchronising h hm hfrom hpopped
        (hcond.1 hadmits htype _ hheaders _ haccepted)
  | updates hadmits htype hknown hrun =>
      have hrounds := runFrom_invariant
        (I := fun s : LsuState => s.router.Synchronising)
        (fun s data s' hs hround hs' => lsuRound_synchronising hs hround hs')
        h (hcond.2 hadmits htype hknown) hrun
      rw [sendLsack]
      split_ifs
      · exact hrounds.keeps (keepsListed_addLog trivial)
      · exact hrounds
  | acknowledges =>
      exact h.keeps (keepsListed_modifyNeighbor fun n _ =>
        Neighbor.keepsRequests_of_eq rfl rfl rfl)

/-- A FULL neighbor has an empty request list, and for every Router and
Network LSA it has listed since the latest negotiation the database holds an
instance that is not older. -/
def FullSynchronised (r : Router) : Prop :=
  ∀ n ∈ r.interface.neighbors, n.state = .full →
    n.linkStateRequestList = [] ∧
      ∀ h ∈ listedBy n.ip r.log, h.Storable → r.lsdb.Covers h

instance (r : Router) : Decidable r.FullSynchronised :=
  inferInstanceAs (Decidable (∀ n ∈ r.interface.neighbors, _ →
    _ ∧ ∀ h ∈ listedBy n.ip r.log, _ → _))

/-- In every run of the process in which exchanges are concluded with nothing
left to request, every Network LSA listed is looked for, and neither flooding
nor step 8 nor `update_lsas` gives up what has been listed, FULL means
synchronised in every state. -/
theorem fullSynchronised_of_run (routerId areaId : UInt32) (uninit : Uninit)
    (loopbacks : List (UInt32 × UInt32)) (address mask : UInt32)
    (steps : List Step)
    (hcond : Along step StaysSynchronised
      (boot routerId areaId uninit loopbacks address mask) steps) :
    Throughout step FullSynchronised
      (boot routerId areaId uninit loopbacks address mask) steps := by
  intro js t hsteps hjs n hn hfull
  have hboot : (boot routerId areaId uninit loopbacks address
      mask).Synchronising := fun _ _ hfind => by cases hfind
  obtain ⟨hsync, hunique⟩ := runFrom_invariant
    (I := fun r => r.Synchronising ∧ r.AddressesUnique)
    (fun r step r' h hstep hr' => ⟨h.1.step hstep hr', h.2.step hr'⟩)
    ⟨hboot, boot_addressesUnique routerId areaId uninit loopbacks address
      mask⟩ (along_of_beginning hcond hsteps) hjs
  have hlate : NeighborState.exchange ≤ n.state := by
    rw [hfull]
    decide
  obtain ⟨hnone, hlisted⟩ := hsync n.ip n (hunique.find hn) hlate
  refine ⟨hnone hfull, fun h hh hstorable => ?_⟩
  rcases hlisted h hh hstorable with hcovers | hrequested
  · exact hcovers
  · rw [hnone hfull] at hrequested
    cases hrequested

/-- The run in which 1.1.1.1 becomes DR and concludes an exchange. -/
theorem fullSynchronised_of_run_peerExchange :
    Throughout step FullSynchronised
      (boot 0x01010101 0 ⟨0, 0, 0, false, false, false⟩ [] 0x0a000001
        0xffffff00)
      ([.waitingTimeout, .timers 0] ++ peerExchange) :=
  fullSynchronised_of_run _ _ _ _ _ _ _ (by decide +kernel)

/-- The last DD packet of the peer, which lists a Router LSA and a Network
LSA. -/
def listingDd : List UInt8 :=
  [5, 220, 2, 1, 0, 0, 0, 1] ++
    (LSAHeader.hton
      ⟨1, 2, lsaRouter, 0x03030303, 0x03030303, 0x80000001, 0, 24⟩).store ++
    (LSAHeader.hton
      ⟨1, 2, lsaNetwork, 0x0a000003, 0x03030303, 0x80000001, 0, 32⟩).store

/-- The peer has become FULL; the Router LSA is requested of it, the Network
LSA is not, and the database has neither. -/
theorem full_without_listed_lsas :
    ¬Throughout step FullSynchronised
      (boot 0x01010101 0 ⟨0, 0, 0, false, false, false⟩ [] 0x0a000001
        0xffffff00)
      [.frame 0 (fromPeer typeHello peerHello),
        .frame 0 (fromPeer typeDd peerDd),
        .frame 0 (fromPeer typeDd listingDd)] := by
  have hreached : ∃ t, runFrom step
      (boot 0x01010101 0 ⟨0, 0, 0, false, false, false⟩ [] 0x0a000001
        0xffffff00)
      [.frame 0 (fromPeer typeHello peerHello),
        .frame 0 (fromPeer typeDd peerDd),
        .frame 0 (fromPeer typeDd listingDd)] = .ok t ∧
      ¬t.FullSynchronised :=
    Outcome.exists_of_completesWith (by decide +kernel)
  obtain ⟨t, hrun, hnot⟩ := hreached
  exact not_throughout_of_run hrun hnot

end Router
end OspfLite
