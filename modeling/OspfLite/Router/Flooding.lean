import OspfLite.Router.Originate

/-!
# Flooding

`flooding_lsa`: which neighbors of an interface have to acknowledge an LSA
that was received, and whether it is sent on.
-/

namespace OspfLite

/-- `lsa_header_host`: the header of the LSA at `data`, in host order. -/
abbrev lsaHeaderHost (data : Memory) : LSAHeader :=
  LSAHeader.ntoh (LSAHeader.load data)

/-- The predicate by which the handlers look for an LSA in a list of headers:
it leaves the type out. -/
def LSAHeader.matchesId (h lsa : LSAHeader) : Bool :=
  decide (lsa.linkStateId = h.linkStateId ∧
    lsa.advertisingRouter = h.advertisingRouter)

namespace Neighbor

/-- Erase the entry of the request list that `find_if` has found. -/
def eraseRequest (n : Neighbor) (header : LSAHeader) : Neighbor :=
  { n with
    linkStateRequestList := n.linkStateRequestList.eraseP header.matchesId }

/-- One round of the neighbor loop of `flooding_lsa`, with the new value of
`add_new_lsa_transmission` when the round sets it.  `src` is in network
order. -/
def flood (header : LSAHeader) (src : UInt32) (n : Neighbor) :
    Neighbor × Bool :=
  if n.state < .exchange then
    (n, false)
  else if n.state = .exchange ∨ n.state = .loading then
    match n.linkStateRequestList.find? header.matchesId with
    | some entry =>
        if lsaHeaderCmp header entry = 0 then
          (n.eraseRequest header, false)
        else if lsaHeaderCmp header entry < 0 then
          if src = htonl n.ip then
            (n.eraseRequest header, false)
          else
            ((n.eraseRequest header).pushRetransmission header, true)
        else
          (n, false)
    | none => (n.pushRetransmission header, true)
  else
    (n, false)

/-- A round can append the header to the retransmission list and take entries
off the request list. -/
theorem flood_eq (header : LSAHeader) (src : UInt32) (n : Neighbor) :
    ∃ added requests, added ⊆ [header] ∧
      requests.Sublist n.linkStateRequestList ∧
      (n.flood header src).1 =
        { n with
          linkStateRetransmissionList :=
            n.linkStateRetransmissionList ++ added
          linkStateRequestList := requests } := by
  have hsame : n = { n with
      linkStateRetransmissionList := n.linkStateRetransmissionList ++ []
      linkStateRequestList := n.linkStateRequestList } := by
    rw [List.append_nil]
  have herase : n.eraseRequest header = { n with
      linkStateRetransmissionList := n.linkStateRetransmissionList ++ []
      linkStateRequestList :=
        n.linkStateRequestList.eraseP header.matchesId } := by
    rw [List.append_nil]
    rfl
  by_cases hlow : n.state < .exchange
  · rw [flood, if_pos hlow]
    exact ⟨[], _, List.nil_subset _, List.Sublist.refl _, hsame⟩
  by_cases hstate : n.state = .exchange ∨ n.state = .loading
  · rw [flood, if_neg hlow, if_pos hstate]
    cases n.linkStateRequestList.find? header.matchesId with
    | none =>
        exact ⟨[header], _, List.Subset.refl _, List.Sublist.refl _, rfl⟩
    | some entry =>
        simp only
        split_ifs
        · exact ⟨[], _, List.nil_subset _, List.eraseP_sublist, herase⟩
        · exact ⟨[], _, List.nil_subset _, List.eraseP_sublist, herase⟩
        · exact ⟨[header], _, List.Subset.refl _, List.eraseP_sublist, rfl⟩
        · exact ⟨[], _, List.nil_subset _, List.Sublist.refl _, hsame⟩
  · rw [flood, if_neg hlow, if_neg hstate]
    exact ⟨[], _, List.nil_subset _, List.Sublist.refl _, hsame⟩

@[simp] theorem flood_state (header : LSAHeader) (src : UInt32)
    (n : Neighbor) : (n.flood header src).1.state = n.state := by
  obtain ⟨_, _, -, -, h⟩ := flood_eq header src n
  rw [h]

end Neighbor

/-- The neighbor loop of `flooding_lsa`; the second component is
`add_new_lsa_transmission`. -/
def Interface.floodNeighbors (header : LSAHeader) (src : UInt32)
    (inter : Interface) : Interface × Bool :=
  let flooded := inter.neighbors.map (Neighbor.flood header src)
  ({ inter with neighbors := flooded.map Prod.fst },
    flooded.any Prod.snd)

namespace Router

/-- The destination `flooding_lsa` passes to `send_ospf_packet`, which takes
it for an address in host order although it is in network order. -/
def floodAddress (inter : Interface) : UInt32 :=
  if inter.state = .dr ∨ inter.state = .backup then
    htonl allSpfRouters
  else
    htonl allDRouters

/-- Whether the LSA is sent on through the interface. -/
def FloodsOut (inter : Interface) (src : UInt32) (added : Bool) : Prop :=
  added = true ∧ src ≠ htonl inter.dr ∧ src ≠ htonl inter.bdr ∧
    inter.state ≠ .backup

instance (inter : Interface) (src : UInt32) (added : Bool) :
    Decidable (FloodsOut inter src added) :=
  inferInstanceAs (Decidable (_ ∧ _ ∧ _ ∧ _))

/-- The body of the LSU `flooding_lsa` sends. -/
def floodData (data : Memory) (header : LSAHeader) : List UInt8 :=
  store32 (htonl 1) ++ data.take header.length.toNat

/-- `flooding_lsa` on one interface: the interface, the packets sent, and
whether it has returned 0. -/
def floodingLsa (r : Router) (data : Memory) (src : UInt32)
    (inter : Interface) : Interface × List LogEntry × Bool :=
  let header := lsaHeaderHost data
  if header.lsType = lsaAsExternal then
    (inter, [], false)
  else
    let flooded := inter.floodNeighbors header src
    if FloodsOut flooded.1 src flooded.2 then
      (flooded.1,
        [.sent (floodAddress flooded.1)
          (r.ospfPacket flooded.1.auType typeLsu (floodData data header))],
        true)
    else
      (flooded.1, [], false)

/-- What `flooding_lsa` does to an interface, unless the LSA is external. -/
theorem floodingLsa_fst (r : Router) {data : Memory} (src : UInt32)
    (inter : Interface)
    (hinternal : (lsaHeaderHost data).lsType ≠ lsaAsExternal) :
    (r.floodingLsa data src inter).1 =
      { inter with
        neighbors := inter.neighbors.map fun n =>
          (n.flood (lsaHeaderHost data) src).1 } := by
  simp only [floodingLsa, if_neg hinternal, Interface.floodNeighbors,
    List.map_map]
  split_ifs <;> rfl

/-- The loop of step 5 b: `flooding_lsa` on every interface of the area.  The
second component is `flooding_from_this_interface`. -/
def floodArea (r : Router) (data : Memory) (src : UInt32) : Router × Bool :=
  let before := r.interfacesBefore.map (r.floodingLsa data src)
  let this := r.floodingLsa data src r.interface
  let after := r.interfacesAfter.map (r.floodingLsa data src)
  ({ r with
      interfacesBefore := before.map Prod.fst
      interface := this.1
      interfacesAfter := after.map Prod.fst
      log := r.log ++ before.flatMap (fun flooded => flooded.2.1) ++
        this.2.1 ++ after.flatMap (fun flooded => flooded.2.1) },
    this.2.2)

end Router

end OspfLite
