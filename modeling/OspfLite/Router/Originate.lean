import OspfLite.Router.Basic
import OspfLite.LinkState.Checksum

/-!
# Originating LSAs

`generate_router_lsa`, `generate_network_lsa` and `update_lsas`, and the two
neighbor events that end in `update_lsas`.
-/

namespace OspfLite

/-! ## Generated LSAs -/

/-- The link of one interface in `generate_router_lsa`.  `tos_num` is never
assigned. -/
def Interface.routerLink (inter : Interface) (tosNum : UInt8) :
    LSARouterLink :=
  if inter.state = .loopback then
    { linkId := inter.ipInterfaceAddress
      linkData := 0xffffffff
      type := 3
      tosNum := tosNum
      metric := 0 }
  else if inter.state ≠ .waiting ∧ ∃ n ∈ inter.neighbors,
      n.state = .full ∧ (inter.state = .dr ∨ n.ip = inter.dr) then
    { linkId := inter.dr
      linkData := inter.ipInterfaceAddress
      type := 2
      tosNum := tosNum
      metric := inter.cost }
  else
    { linkId := inter.ipInterfaceAddress &&& inter.ipInterfaceMask
      linkData := inter.ipInterfaceMask
      type := 3
      tosNum := tosNum
      metric := inter.cost }

namespace Router

/-- The object of `generate_router_lsa`. -/
def generateRouterLsa (r : Router) : LSARouter :=
  let links := r.interfaces.map fun inter =>
    inter.routerLink r.uninit.tosNum
  { header :=
      { lsAge := 1
        options := r.ospfOptions
        lsType := lsaRouter
        linkStateId := r.routerId
        advertisingRouter := r.routerId
        lsSeqNum := r.lsSequenceCnt
        lsChecksum := 0
        length := UInt16.ofNat
          (LSARouter.linksOffset + LSARouterLink.size * links.length) }
    zero0 := 0
    bV := false
    bE := false
    bB := false
    zero1 := 0
    linksNum := UInt16.ofNat links.length
    links := links }

/-- The object of `generate_network_lsa`. -/
def generateNetworkLsa (r : Router) : LSANetwork :=
  let attached := (r.interface.neighbors.filter fun n =>
    decide (n.state = .full)).map Neighbor.id
  { header :=
      { lsAge := 1
        options := r.ospfOptions
        lsType := lsaNetwork
        linkStateId := r.interface.ipInterfaceAddress
        advertisingRouter := r.routerId
        lsSeqNum := r.lsSequenceCnt
        lsChecksum := 0
        length := UInt16.ofNat
          (LSANetwork.routersOffset + 4 * attached.length) }
    networkMask := r.interface.ipInterfaceMask
    attachedRouters := attached }

/-- `++ myconfig.ls_sequence_cnt`. -/
def countSequence (r : Router) : Router :=
  { r with lsSequenceCnt := r.lsSequenceCnt + 1 }

end Router

/-! ## The database -/

namespace LSDB

/-- The first `if` chain of `update_lsas`, for a Network LSA, with
`is_flooding`.  The branch of a newer LSA erases the old entry and adds
none. -/
def updateNetworkLsa (lsdb : LSDB) (lsa : LSANetwork) : LSDB × Bool :=
  match lsdb.findNetworkLsa lsa.header.linkStateId
      lsa.header.advertisingRouter with
  | none => ({ lsdb with networkLsas := lsdb.networkLsas ++ [lsa] }, true)
  | some old =>
      if lsaHeaderCmp lsa.header old.header < 0 then
        (lsdb.removeNetworkLsa lsa.header.linkStateId
          lsa.header.advertisingRouter, true)
      else
        (lsdb, false)

/-- The same chain for a Router LSA, where the new entry is added. -/
def updateRouterLsa (lsdb : LSDB) (lsa : LSARouter) : LSDB × Bool :=
  match lsdb.findRouterLsa lsa.header.linkStateId
      lsa.header.advertisingRouter with
  | none => ({ lsdb with routerLsas := lsdb.routerLsas ++ [lsa] }, true)
  | some old =>
      if lsaHeaderCmp lsa.header old.header < 0 then
        let removed := lsdb.removeRouterLsa lsa.header.linkStateId
          lsa.header.advertisingRouter
        ({ removed with routerLsas := removed.routerLsas ++ [lsa] }, true)
      else
        (lsdb, false)

end LSDB

/-- `link_state_retransmission_list.push_back(..)`. -/
def Neighbor.pushRetransmission (n : Neighbor) (header : LSAHeader) :
    Neighbor :=
  { n with
    linkStateRetransmissionList := n.linkStateRetransmissionList ++ [header] }

namespace Router

/-! ## `update_lsas` -/

/-- Append the header to the retransmission list of every FULL neighbor. -/
def pushRetransmissions (header : LSAHeader) (neighbors : List Neighbor) :
    List Neighbor :=
  neighbors.map fun n =>
    if n.state = .full then n.pushRetransmission header else n

/-- The wire form of an LSA in `update_lsas`: the checksum is taken over the
bytes just written, then the age is raised. -/
def sealLsa (infTransDelay : UInt32) (header : LSAHeader)
    (body : List UInt8) : List UInt8 :=
  let headerNet := LSAHeader.hton header
  let checksum := lsaChecksum (Memory.ofList (headerNet.store ++ body))
    (ntohs headerNet.length)
  let age := (ntohs headerNet.lsAge).toUInt32 + infTransDelay
  { headerNet with
    lsChecksum := htons checksum
    lsAge := htons age.toUInt16 }.store ++ body

/-- The part of `update_lsas` that is shared by both kinds of LSA: with
`is_flooding`, the FULL neighbors get the header and the packet gets the
LSA. -/
def floodOwnLsa (r : Router) (isFlooding : Bool) (header : LSAHeader)
    (body : List UInt8) : Router × List (List UInt8) :=
  if isFlooding then
    ({ r with
        interface :=
          { r.interface with
            neighbors := pushRetransmissions header r.interface.neighbors } },
      [sealLsa r.interface.infTransDelay header body])
  else
    (r, [])

/-- The first block of `update_lsas`, entered by a DR only. -/
def updateOwnNetworkLsa (r : Router) : Router × List (List UInt8) :=
  if r.interface.state = .dr then
    let lsa := r.generateNetworkLsa
    let updated := r.lsdb.updateNetworkLsa lsa
    { r.countSequence with lsdb := updated.1 }.floodOwnLsa updated.2
      lsa.header lsa.encodeBody
  else
    (r, [])

/-- The second block of `update_lsas`. -/
def updateOwnRouterLsa (r : Router) : Router × List (List UInt8) :=
  let lsa := r.generateRouterLsa
  let updated := r.lsdb.updateRouterLsa lsa
  { r.countSequence with lsdb := updated.1 }.floodOwnLsa updated.2
    lsa.header lsa.encodeBody

/-- The destination of LSUs and LSAcks to the segment. -/
def segmentAddress (r : Router) : UInt32 :=
  if r.interface.state = .dr ∨ r.interface.state = .backup then
    allSpfRouters
  else
    allDRouters

/-- The body of the LSU that carries the given LSAs. -/
def lsuData (lsas : List (List UInt8)) : List UInt8 :=
  store32 (htonl (UInt32.ofNat lsas.length)) ++ lsas.flatten

/-- `update_lsas(interface)`. -/
def updateLsas (r : Router) : Router :=
  let network := r.updateOwnNetworkLsa
  let router := network.1.updateOwnRouterLsa
  let lsas := network.2 ++ router.2
  if lsas = [] then
    router.1
  else
    router.1.sendOspfPacket router.1.segmentAddress typeLsu (lsuData lsas)

/-! ## What `update_lsas` leaves alone -/

end Router

/-- Append headers to the retransmission list of a FULL neighbor. -/
def Neighbor.pushAll (headers : List LSAHeader) (n : Neighbor) : Neighbor :=
  if n.state = .full then
    { n with
      linkStateRetransmissionList :=
        n.linkStateRetransmissionList ++ headers }
  else
    n

namespace Neighbor

@[simp] theorem pushAll_nil (n : Neighbor) : n.pushAll [] = n := by
  rw [pushAll]
  split_ifs <;> simp

@[simp] theorem pushAll_state (headers : List LSAHeader) (n : Neighbor) :
    (n.pushAll headers).state = n.state := by
  rw [pushAll]
  split_ifs <;> rfl

@[simp] theorem pushAll_ip (headers : List LSAHeader) (n : Neighbor) :
    (n.pushAll headers).ip = n.ip := by
  rw [pushAll]
  split_ifs <;> rfl

theorem pushAll_pushAll (headers headers' : List LSAHeader) (n : Neighbor) :
    (n.pushAll headers).pushAll headers' = n.pushAll (headers ++ headers') := by
  by_cases hfull : n.state = .full <;> simp [pushAll, hfull]

end Neighbor

/-- Append headers to the retransmission lists of the FULL neighbors. -/
def Interface.pushAll (headers : List LSAHeader) (inter : Interface) :
    Interface :=
  { inter with neighbors := inter.neighbors.map (Neighbor.pushAll headers) }

theorem Interface.pushAll_nil (inter : Interface) :
    inter.pushAll [] = inter := by
  have hid : inter.neighbors.map (Neighbor.pushAll []) = inter.neighbors :=
    List.map_id'' Neighbor.pushAll_nil inter.neighbors
  rw [Interface.pushAll, hid]

theorem Interface.pushAll_pushAll (headers headers' : List LSAHeader)
    (inter : Interface) :
    (inter.pushAll headers).pushAll headers' =
      inter.pushAll (headers ++ headers') := by
  have hcomp : (inter.neighbors.map (Neighbor.pushAll headers)).map
      (Neighbor.pushAll headers') =
        inter.neighbors.map (Neighbor.pushAll (headers ++ headers')) := by
    rw [List.map_map]
    exact List.map_congr_left fun n _ => n.pushAll_pushAll headers headers'
  rw [Interface.pushAll, Interface.pushAll, Interface.pushAll, hcomp]

namespace Router

/-- What originating an LSA can change: the database, the sequence counter,
and the retransmission lists of the FULL neighbors, which all get the same
headers. -/
def Originates (r r' : Router) : Prop :=
  ∃ lsdb count headers, r' =
    { r with
      lsdb := lsdb
      lsSequenceCnt := count
      interface := r.interface.pushAll headers }

theorem Originates.trans {r r' r'' : Router} (h : r.Originates r')
    (h' : r'.Originates r'') : r.Originates r'' := by
  obtain ⟨lsdb, count, first, rfl⟩ := h
  obtain ⟨lsdb', count', second, rfl⟩ := h'
  refine ⟨lsdb', count', first ++ second, ?_⟩
  rw [← Interface.pushAll_pushAll]

theorem floodOwnLsa_originates (r : Router) (lsdb : LSDB) (count : UInt32)
    (isFlooding : Bool) (header : LSAHeader) (body : List UInt8) :
    r.Originates ({ r with lsdb := lsdb, lsSequenceCnt := count }.floodOwnLsa
      isFlooding header body).1 := by
  cases isFlooding with
  | true => exact ⟨lsdb, count, [header], rfl⟩
  | false =>
      refine ⟨lsdb, count, [], ?_⟩
      rw [Interface.pushAll_nil]
      rfl

theorem updateOwnNetworkLsa_originates (r : Router) :
    r.Originates r.updateOwnNetworkLsa.1 := by
  rw [updateOwnNetworkLsa]
  split_ifs
  · exact floodOwnLsa_originates r _ _ _ _ _
  · refine ⟨r.lsdb, r.lsSequenceCnt, [], ?_⟩
    rw [Interface.pushAll_nil]

theorem updateOwnRouterLsa_originates (r : Router) :
    r.Originates r.updateOwnRouterLsa.1 :=
  floodOwnLsa_originates r _ _ _ _ _

/-- Besides originating LSAs, `update_lsas` can only send an LSU. -/
theorem updateLsas_eq (r : Router) :
    ∃ r' entries, r.Originates r' ∧
      r.updateLsas = { r' with log := r'.log ++ entries } ∧
      ∀ entry ∈ entries, ∃ dst packet, entry = .sent dst packet ∧
        packet[1]? = some typeLsu := by
  have horig : r.Originates r.updateOwnNetworkLsa.1.updateOwnRouterLsa.1 :=
    r.updateOwnNetworkLsa_originates.trans
      (updateOwnRouterLsa_originates _)
  by_cases hnone : r.updateOwnNetworkLsa.2 ++
      r.updateOwnNetworkLsa.1.updateOwnRouterLsa.2 = []
  · refine ⟨_, [], horig, ?_, fun _ h => by cases h⟩
    rw [updateLsas, if_pos hnone, List.append_nil]
  · have hsend : r.updateLsas = sendOspfPacket _ _ _ _ := if_neg hnone
    refine ⟨_, [_], horig, hsend, ?_⟩
    intro entry hentry
    exact ⟨_, _, List.mem_singleton.mp hentry, rfl⟩

/-- `update_lsas` changes the interface only by appending the same headers to
the retransmission lists of the FULL neighbors. -/
theorem updateLsas_interface (r : Router) :
    ∃ headers, r.updateLsas.interface = r.interface.pushAll headers := by
  obtain ⟨r', _, ⟨_, _, headers, horig⟩, heq, _⟩ := r.updateLsas_eq
  exact ⟨headers, by rw [heq, horig]⟩

/-! ## Events that end in `update_lsas` -/

/-- `Neighbor::event_exchange_done`. -/
def eventExchangeDone (r : Router) (ip : UInt32) : Router :=
  match r.findNeighbor ip with
  | none => r
  | some n =>
      let moved := r.modifyNeighbor ip fun n => n.exchangeDoneState.1
      if n.exchangeDoneState.2 then moved.updateLsas else moved

/-- `Neighbor::event_loading_done`. -/
def eventLoadingDone (r : Router) (ip : UInt32) : Router :=
  match r.findNeighbor ip with
  | none => r
  | some n =>
      let moved := r.modifyNeighbor ip fun n => n.loadingDoneState.1
      if n.loadingDoneState.2 then moved.updateLsas else moved

end Router

end OspfLite
