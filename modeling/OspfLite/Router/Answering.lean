import OspfLite.Router.Synchronised

/-!
# What an accepted Database Description packet leaves behind

The record of the neighbor after the reply, and the headers of the packet that
are on the request list then.
-/

namespace OspfLite
namespace Router

variable {r r' : Router} {ip : UInt32} {dd : OSPFDD} {m n : Neighbor}
  {headers : List LSAHeader}

/-- The packet `replyDd` sends for the record `n`. -/
def replyPacket (r : Router) (n : Neighbor) : List UInt8 :=
  r.ospfPacket r.interface.auType typeDd
    (n.numberReply.ddReply r.interface.mtu r.ospfOptions r.uninit.ddOther)

/-- The process `before` sends its reply for the record `concluded`: the
record that has taken in the packet, or the same one that has become FULL, and
for which the own LSAs have been pushed. -/
structure Answers (ip : UInt32) (popped : Neighbor) (before : Router)
    (concluded : Neighbor) (r' : Router) : Prop where
  found : before.findNeighbor ip = some concluded
  address : concluded.ip = ip
  record : concluded = popped ∨
    (popped.state = .exchange ∧
      ∃ pushed, concluded = popped.reachFull.pushAll pushed)
  replied : r' = before.putNeighbor ip
    (concluded.reply before.interface.mtu before.ospfOptions
      before.uninit.ddOther) [.sent ip (before.replyPacket concluded)]

/-- An accepted packet is answered. -/
theorem exists_answers (h : r.acceptedDd ip dd = some n)
    (hr' : r.handleDd ip dd (some headers) = .ok r') :
    ∃ popped before concluded,
      (n.takeIn r.lsdb dd headers).popAcknowledged = .ok popped ∧
        Answers ip popped before concluded r' := by
  obtain ⟨m, hm, hfrom⟩ := acceptedDd_spec h
  rw [handleDd_of_accepted h] at hr'
  obtain ⟨popped, hpopped, rfl⟩ := Outcome.map_eq_ok.mp hr'
  have hip := popped_ip hm hfrom hpopped
  rw [concludeDd_putNeighbor hm hip]
  split_ifs with hdone
  · have hfound := findNeighbor_updateLsas (findNeighbor_putNeighbor hm
      (popped.reachFull_ip.trans hip) (r.acceptanceLog ip headers n))
    refine ⟨popped, _, _, hpopped, hfound, ?_,
      Or.inr ⟨hdone.2.2, _, rfl⟩, replyDd_eq hfound⟩
    rw [Neighbor.pushAll_ip, popped.reachFull_ip, hip]
  · have hfound := findNeighbor_putNeighbor hm hip
      (r.acceptanceLog ip headers n)
    exact ⟨popped, _, _, hpopped, hfound, hip, Or.inl rfl, replyDd_eq hfound⟩

variable {popped concluded : Neighbor} {before : Router}

/-- The record after the reply. -/
theorem Answers.findNeighbor (h : Answers ip popped before concluded r') :
    r'.findNeighbor ip = some (concluded.reply before.interface.mtu
      before.ospfOptions before.uninit.ddOther) := by
  rw [h.replied]
  exact findNeighbor_putNeighbor h.found
    ((Neighbor.reply_ip _ _ _).trans h.address) _

/-- Neither the conclusion nor the reply touches the request list. -/
theorem Answers.requests (h : Answers ip popped before concluded r') :
    concluded.linkStateRequestList = popped.linkStateRequestList := by
  rcases h.record with rfl | ⟨-, pushed, rfl⟩
  · rfl
  · rw [Neighbor.pushAll]
    split_ifs <;> rfl

end Router

/-! ## Requests -/

namespace LSDB

/-- The header is one of a Router or Network LSA of which the database has no
instance, or an older one. -/
def Misses (lsdb : LSDB) (header : LSAHeader) : Prop :=
  header.Storable ∧
    ∀ stored ∈ lsdb.findInstance header, lsaHeaderCmp header stored < 0

instance (lsdb : LSDB) (header : LSAHeader) :
    Decidable (lsdb.Misses header) :=
  inferInstanceAs (Decidable (_ ∧ ∀ stored ∈ lsdb.findInstance header, _))

/-- Nothing is missed or requested in vain because of the age, by which the
request loop tells the headers of Network LSAs: one without the age 2 is
covered, and one of another type with the age 2 has the identity of a Network
LSA in the database and is not newer. -/
def ToldByAge (lsdb : LSDB) (header : LSAHeader) : Prop :=
  (header.lsType = lsaNetwork → header.lsAge ≠ 2 → lsdb.Covers header) ∧
    (¬header.Storable → header.lsAge = 2 →
      ∃ lsa ∈ lsdb.findNetworkLsa header.linkStateId header.advertisingRouter,
        0 ≤ lsaHeaderCmp header lsa.header)

instance (lsdb : LSDB) (header : LSAHeader) :
    Decidable (lsdb.ToldByAge header) :=
  inferInstanceAs (Decidable ((_ → _ → _) ∧
    (_ → _ → ∃ lsa ∈ lsdb.findNetworkLsa _ _, _)))

/-- The request loop takes a header for missing exactly where it is, if its
age does not mislead the loop. -/
theorem lacks_iff_misses (lsdb : LSDB) (header : LSAHeader) :
    (Neighbor.Lacks lsdb header ↔ lsdb.Misses header) ↔
      lsdb.ToldByAge header := by
  have hne : lsaRouter ≠ lsaNetwork := by decide
  rw [ToldByAge, Covers, Misses, Neighbor.Lacks, findInstance, findHeader]
  by_cases hrouter : header.lsType = lsaRouter
  · have hstorable : header.Storable := Or.inl hrouter
    cases lsdb.findRouterLsa header.linkStateId
      header.advertisingRouter <;> simp [hrouter, hne, hstorable]
  by_cases hnetwork : header.lsType = lsaNetwork
  · have hstorable : header.Storable := Or.inr hnetwork
    by_cases hage : header.lsAge = 2 <;>
      cases lsdb.findNetworkLsa header.linkStateId
        header.advertisingRouter <;>
      simp [hnetwork, hne.symm, hstorable, hage]
  · have hstorable : ¬header.Storable := not_or.mpr ⟨hrouter, hnetwork⟩
    by_cases hage : header.lsAge = 2 <;>
      cases lsdb.findNetworkLsa header.linkStateId
        header.advertisingRouter <;>
      simp [hrouter, hnetwork, hstorable, hage]

end LSDB

namespace Router

variable {r r' : Router} {ip : UInt32} {dd : OSPFDD} {m n : Neighbor}
  {headers : List LSAHeader}

/-- After the packet the request list is the previous one, followed by the
headers of the packet that the database misses. -/
def RequestsMissing (r : Router) (ip : UInt32) (headers : List LSAHeader)
    (m : Neighbor) (r' : Router) : Prop :=
  ∃ m' ∈ r'.findNeighbor ip, m'.linkStateRequestList =
    m.linkStateRequestList ++ (headers.map LSAHeader.ddDecode).filter
      fun h => decide (r.lsdb.Misses h)

instance (r : Router) (ip : UInt32) (headers : List LSAHeader)
    (m : Neighbor) (r' : Router) :
    Decidable (r.RequestsMissing ip headers m r') :=
  inferInstanceAs (Decidable (∃ m' ∈ r'.findNeighbor ip, _))

/-- An accepted packet whose headers have types 1 to 5 puts exactly what is
missing on the request list if and only if no header misleads the request loop
by its age. -/
theorem requestsMissing_iff (hm : r.findNeighbor ip = some m)
    (haccepted : r.acceptedDd ip dd = some n)
    (hgood : ∀ h ∈ headers, ¬Neighbor.BadType h)
    (hr' : r.handleDd ip dd (some headers) = .ok r') :
    r.RequestsMissing ip headers m r' ↔
      ∀ h ∈ headers.map LSAHeader.ddDecode, r.lsdb.ToldByAge h := by
  obtain ⟨popped, before, concluded, hpopped, hanswers⟩ :=
    exists_answers haccepted hr'
  obtain ⟨m₀, hm₀, hfrom⟩ := acceptedDd_spec haccepted
  have hsame : m₀ = m := Option.some.inj (hm₀.symm.trans hm)
  subst hsame
  have hrequests : concluded.linkStateRequestList =
      m₀.linkStateRequestList ++ Neighbor.wanted r.lsdb headers := by
    obtain ⟨-, rfl⟩ := Neighbor.popAcknowledged_eq_ok.mp hpopped
    obtain ⟨-, hlists, -⟩ :=
      Neighbor.takeIn_of_goodTypes hgood r.lsdb dd n
    simp only [Neighbor.lists, Prod.mk.injEq] at hlists
    rw [hanswers.requests, ← hfrom.requests]
    exact hlists.2.2
  have hreply := Neighbor.reply_lists (n := concluded)
    before.interface.mtu before.ospfOptions before.uninit.ddOther
  simp only [Neighbor.lists, Prod.mk.injEq] at hreply
  rw [RequestsMissing, hanswers.findNeighbor]
  simp only [Option.mem_some_iff, exists_eq_left', hreply.2.2, hrequests,
    List.append_cancel_left_eq, Neighbor.wanted, filter_eq_filter_iff,
    decide_eq_decide, LSDB.lacks_iff_misses]

/-- The neighbor 2.2.2.2 in EXCHANGE, as master or slave. -/
def exchangingNeighbor (isMaster : Bool) : Neighbor :=
  { Neighbor.new ⟨0, 0, 0, false, false, false⟩ 0x0a000002 with
    state := .exchange
    isMaster := isMaster
    id := 0x02020202 }

/-- The router 1.1.1.1 with one neighbor. -/
def routerWith (n : Neighbor) : Router :=
  new 0x01010101 initialSequenceNumber 0 ⟨0, 0, 0, false, false, false⟩ []
    { Interface.new 0x0a000001 0xffffff00 with neighbors := [n] } []

/-- The header of a Router or Network LSA of 3.3.3.3, as it lies in a
packet. -/
def foreignHeader (lsAge : UInt16) (lsType : UInt8) : LSAHeader :=
  ⟨htons lsAge, 2, lsType, htonl 0x0a000003, htonl 0x03030303,
    htonl 0x80000001, 0, htons 32⟩

/-- A DD packet of a master, with more to follow. -/
def masterDd (seqNum : UInt32) : OSPFDD :=
  ⟨htons 1500, 2, true, true, false, 0, htonl seqNum⟩

/-- A packet with the header of a Network LSA of age 2. -/
theorem requestsMissing_iff_ageTwo :
    ∃ r', (routerWith (exchangingNeighbor true)).handleDd 0x0a000002
        (masterDd 1) (some [foreignHeader 2 lsaNetwork]) = .ok r' ∧
      ((routerWith (exchangingNeighbor true)).RequestsMissing 0x0a000002
          [foreignHeader 2 lsaNetwork] (exchangingNeighbor true) r' ↔
        ∀ h ∈ [foreignHeader 2 lsaNetwork].map LSAHeader.ddDecode,
          LSDB.empty.ToldByAge h) := by
  have hreached : ∃ r', (routerWith (exchangingNeighbor true)).handleDd
      0x0a000002 (masterDd 1) (some [foreignHeader 2 lsaNetwork]) = .ok r' ∧
      True := Outcome.exists_of_completesWith (by decide +kernel)
  obtain ⟨r', hr', -⟩ := hreached
  have hsome : (routerWith (exchangingNeighbor true)).acceptedDd 0x0a000002
      (masterDd 1) ≠ none := by decide +kernel
  obtain ⟨n, hn⟩ := Option.ne_none_iff_exists'.mp hsome
  exact ⟨r', hr', requestsMissing_iff rfl hn (by decide +kernel) hr'⟩

/-- The header of a Network LSA of age 1 is not requested, although the
database has no instance. -/
theorem network_header_not_requested :
    ∃ r', (routerWith (exchangingNeighbor true)).handleDd 0x0a000002
        (masterDd 1) (some [foreignHeader 1 lsaNetwork]) = .ok r' ∧
      (routerWith (exchangingNeighbor true)).acceptedDd 0x0a000002
        (masterDd 1) ≠ none ∧
      ¬(routerWith (exchangingNeighbor true)).RequestsMissing 0x0a000002
          [foreignHeader 1 lsaNetwork] (exchangingNeighbor true) r' :=
  Outcome.exists_of_completesWith (by decide +kernel)

end Router
end OspfLite
