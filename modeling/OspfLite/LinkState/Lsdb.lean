import OspfLite.LinkState.Header
import OspfLite.Lib.KeyedList

/-!
# The link state database

Router and Network LSAs, decoded from and written to the wire, and the
database that keeps one list of each.  Stored LSAs are taken by value.
-/

namespace OspfLite

/-- `LSARouterLink`. -/
structure LSARouterLink where
  linkId : UInt32
  linkData : UInt32
  type : UInt8
  tosNum : UInt8
  metric : UInt16
deriving DecidableEq, Repr

/-- `LSARouter`.  `zero0` has five bits. -/
structure LSARouter where
  header : LSAHeader
  zero0 : UInt8
  bV : Bool
  bE : Bool
  bB : Bool
  zero1 : UInt8
  linksNum : UInt16
  links : List LSARouterLink
deriving DecidableEq, Repr

/-- `LSANetwork`. -/
structure LSANetwork where
  header : LSAHeader
  networkMask : UInt32
  attachedRouters : List UInt32
deriving DecidableEq, Repr

/-- The arguments of a search: `(link_state_id, advertising_router)`. -/
abbrev LsaKey := UInt32 × UInt32

def LSAHeader.key (h : LSAHeader) : LsaKey :=
  (h.linkStateId, h.advertisingRouter)

def LSARouter.key (lsa : LSARouter) : LsaKey := lsa.header.key

def LSANetwork.key (lsa : LSANetwork) : LsaKey := lsa.header.key

/-! ## Wire layout -/

/-- `sizeof(LSARouterLink)`. -/
def LSARouterLink.size : ℕ := 12

/-- One round of the link loop of `install_router_lsa`. -/
def LSARouterLink.decode (linkNet : Memory) : LSARouterLink where
  linkId := ntohl (linkNet.load32 0)
  linkData := ntohl (linkNet.load32 4)
  type := linkNet 8
  tosNum := linkNet 9
  metric := ntohs (linkNet.load16 10)

/-- A link as every sender writes it. -/
def LSARouterLink.encode (link : LSARouterLink) : List UInt8 :=
  store32 (htonl link.linkId) ++ store32 (htonl link.linkData) ++
    [link.type, link.tosNum] ++ store16 (htons link.metric)

/-- The offset of the first link: the header, two bytes and the count. -/
def LSARouter.linksOffset : ℕ := LSAHeader.size + 2 + 2

/-- The two bytes after the header and the number of links, as every sender
writes them. -/
def LSARouter.encodeFixed (lsa : LSARouter) : List UInt8 :=
  [UInt8.ofNat (lsa.zero0.toNat % 32 + 32 * lsa.bV.toNat +
      64 * lsa.bE.toNat + 128 * lsa.bB.toNat), lsa.zero1] ++
    store16 (htons lsa.linksNum)

/-- What follows the header of a Router LSA on the wire. -/
def LSARouter.encodeBody (lsa : LSARouter) : List UInt8 :=
  lsa.encodeFixed ++ lsa.links.flatMap LSARouterLink.encode

/-- The object `install_router_lsa` builds from the received bytes. -/
def LSARouter.decode (data : Memory) : LSARouter where
  header := LSAHeader.ntoh (LSAHeader.load data)
  zero0 := 0
  bV := decide ((data 20).toNat / 32 % 2 = 1)
  bE := decide ((data 20).toNat / 64 % 2 = 1)
  bB := decide ((data 20).toNat / 128 % 2 = 1)
  zero1 := 0
  linksNum := ntohs (data.load16 22)
  links := (List.range (ntohs (data.load16 22)).toNat).map fun i =>
    LSARouterLink.decode
      (data.advance (LSARouter.linksOffset + LSARouterLink.size * i))

/-- The offset of the first attached router. -/
def LSANetwork.routersOffset : ℕ := LSAHeader.size + 4

/-- What follows the header of a Network LSA on the wire. -/
def LSANetwork.encodeBody (lsa : LSANetwork) : List UInt8 :=
  store32 (htonl lsa.networkMask) ++
    lsa.attachedRouters.flatMap fun router => store32 (htonl router)

/-- The object `install_network_lsa` builds from the received bytes.  Its
`network_mask` is never assigned, so it holds what the allocation left there;
without a result the loop over the attached routers never meets its end. -/
def LSANetwork.decode (uninitMask : UInt32) (data : Memory) :
    Option LSANetwork :=
  let header := LSAHeader.ntoh (LSAHeader.load data)
  (pointerSteps LSANetwork.routersOffset header.length.toNat 4).map fun n =>
    { header := header
      networkMask := uninitMask
      attachedRouters := (List.range n).map fun i =>
        ntohl (data.load32 (LSANetwork.routersOffset + 4 * i)) }

/-- The header of a decoded Network LSA. -/
theorem LSANetwork.header_of_decode {uninitMask : UInt32} {data : Memory}
    {lsa : LSANetwork} (h : LSANetwork.decode uninitMask data = some lsa) :
    lsa.header = LSAHeader.ntoh (LSAHeader.load data) := by
  obtain ⟨n, -, rfl⟩ := Option.map_eq_some_iff.mp h
  rfl

/-! ## The database -/

/-- `LSDB`. -/
structure LSDB where
  routerLsas : List LSARouter
  networkLsas : List LSANetwork
deriving DecidableEq, Repr

namespace LSDB

/-- The database of a new area. -/
def empty : LSDB := ⟨[], []⟩

/-- `LSDB::find_router_lsa`. -/
def findRouterLsa (lsdb : LSDB) (linkStateId advertisingRouter : UInt32) :
    Option LSARouter :=
  KeyedList.lookup LSARouter.key lsdb.routerLsas
    (linkStateId, advertisingRouter)

/-- `LSDB::find_network_lsa`. -/
def findNetworkLsa (lsdb : LSDB) (linkStateId advertisingRouter : UInt32) :
    Option LSANetwork :=
  KeyedList.lookup LSANetwork.key lsdb.networkLsas
    (linkStateId, advertisingRouter)

/-- `LSDB::remove_router_lsa`. -/
def removeRouterLsa (lsdb : LSDB) (linkStateId advertisingRouter : UInt32) :
    LSDB :=
  { lsdb with
    routerLsas := KeyedList.erase LSARouter.key lsdb.routerLsas
      (linkStateId, advertisingRouter) }

/-- `LSDB::remove_network_lsa`. -/
def removeNetworkLsa (lsdb : LSDB) (linkStateId advertisingRouter : UInt32) :
    LSDB :=
  { lsdb with
    networkLsas := KeyedList.erase LSANetwork.key lsdb.networkLsas
      (linkStateId, advertisingRouter) }

/-- `LSDB::install_router_lsa`: erase the entries under the key, then append
the decoded object. -/
def installRouterLsa (lsdb : LSDB) (data : Memory) : LSDB :=
  { lsdb with
    routerLsas := KeyedList.insert LSARouter.key lsdb.routerLsas
      (LSARouter.decode data) }

/-- `LSDB::install_network_lsa`, in the same order. -/
def installNetworkLsa (lsdb : LSDB) (uninitMask : UInt32) (data : Memory) :
    Option LSDB :=
  (LSANetwork.decode uninitMask data).map fun lsa =>
    { lsdb with
      networkLsas := KeyedList.insert LSANetwork.key lsdb.networkLsas lsa }

/-- The headers in the order in which `event_negotiation_done` lists them. -/
def headers (lsdb : LSDB) : List LSAHeader :=
  lsdb.routerLsas.map LSARouter.header ++
    lsdb.networkLsas.map LSANetwork.header

/-- The header stored for an LSA of the given type.  Only Router and Network
LSAs are ever stored. -/
def findHeader (lsdb : LSDB) (lsType : UInt8)
    (linkStateId advertisingRouter : UInt32) : Option LSAHeader :=
  if lsType = lsaRouter then
    (lsdb.findRouterLsa linkStateId advertisingRouter).map LSARouter.header
  else if lsType = lsaNetwork then
    (lsdb.findNetworkLsa linkStateId advertisingRouter).map LSANetwork.header
  else
    none

end LSDB

end OspfLite
