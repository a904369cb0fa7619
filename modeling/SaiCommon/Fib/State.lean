import SaiCommon.Base
import SaiCommon.Lib.KeyTree
import SaiCommon.Lib.WtList

namespace SaiCommon

abbrev Mac : Type := BitVec 48

inductive IpAddress
  | v4 (addr : BitVec 32)
  | v6 (addr : BitVec 128)
  | other (family : Int)
deriving DecidableEq

inductive IpPrefix
  | v4 (addr mask : BitVec 32)
  | v6 (addr mask : BitVec 128)
  | other (family : Int)
deriving DecidableEq

inductive PacketAction
  | drop
  | forward
  | trap
  | log
  | other (value : Int)
deriving DecidableEq

/-- What the routing code asks of code that is not in the repository. -/
structure Platform where
  switchMac : Mac
  cpuPort : ObjectId
  packetActionValidate : PacketAction → Bool
  isIpAddrZero : IpAddress → Bool
  isIpAddrLoopback : IpAddress → Bool
  isValidVlanId : BitVec 16 → Bool
  v4MaskToPrefixLen : BitVec 32 → Nat
  v6MaskToPrefixLen : BitVec 128 → Nat

structure Vrf where
  v4AdminState : Bool
  v6AdminState : Bool
  srcMac : Mac
  ipOptionsPktAction : PacketAction
  ttlPktAction : PacketAction
  numRif : Nat
deriving DecidableEq

inductive RifType
  | port
  | vlan
  | none
  | other (value : Int)
deriving DecidableEq

inductive RifAttachment
  | port (portId : ObjectId)
  | vlan (vlanId : BitVec 16)
deriving DecidableEq

def RifAttachment.portId : RifAttachment → ObjectId
  | .port portId => portId
  | .vlan vlanId => ⟨.null, vlanId.toNat⟩

def RifAttachment.vlanId : RifAttachment → BitVec 16
  | .port portId => BitVec.ofNat 16 portId.npuObjectId
  | .vlan vlanId => vlanId

structure Rif where
  vrfId : ObjectId
  rifType : RifType
  attachment : RifAttachment
  srcMac : Mac
  v4AdminState : Bool
  v6AdminState : Bool
  mtu : BitVec 32
  ipOptionsPktAction : PacketAction
  refCount : Nat
deriving DecidableEq

inductive NextHopType
  | ip
  | other (value : Int)
deriving DecidableEq

structure NhKey where
  nhType : NextHopType
  rifId : ObjectId
  ipAddr : IpAddress
deriving DecidableEq

/-- The address of a next-hop node. A node lives in the next-hop tree of its
VRF under its key from its creation to its end, and neither ever changes. -/
structure NhRef where
  vrfId : ObjectId
  key : NhKey
deriving DecidableEq

structure NhOwner where
  nextHop : Bool
  neighbor : Bool
deriving DecidableEq

/-- The address of a next-hop-group node. -/
abbrev GroupPtr : Type := Nat

structure Nh where
  nextHopId : ObjectId
  ownerFlag : NhOwner
  refCount : Nat
  macAddr : Mac
  packetAction : PacketAction
  noHostRoute : Bool
  metaData : BitVec 32
  portId : ObjectId
  nhGroupList : WtList GroupPtr
deriving DecidableEq

inductive NhGroupType
  | ecmp
  | other (value : Int)
deriving DecidableEq

structure NhGroup where
  groupId : ObjectId
  groupType : NhGroupType
  nhCount : Nat
  refCount : Nat
  nhList : WtList NhRef
deriving DecidableEq

/-- `nh_type` with the arm of `nh_info` that it selects. -/
inductive RouteNh
  | none
  | nextHop (nhNode : NhRef)
  | group (groupNode : GroupPtr)
deriving DecidableEq

/-- The leading bits of a route's prefix, under which the tree of its VRF
holds it. -/
structure RouteKey where
  vrfId : ObjectId
  isV6 : Bool
  prefixLen : Nat
  prefixBits : Nat
deriving DecidableEq

structure Route where
  nhInfo : RouteNh
  packetAction : PacketAction
  trapPriority : BitVec 8
  metaData : BitVec 32
deriving DecidableEq

structure NeighborMacKey where
  vlanId : BitVec 16
  macAddr : Mac
deriving DecidableEq

inductive PortFwdMode
  | unknown
  | switching
  | routing
deriving DecidableEq

structure LagMember where
  memberId : ObjectId
  portId : ObjectId
deriving DecidableEq

structure Lag where
  rifId : ObjectId
  members : List LagMember
deriving DecidableEq

/-- The NPU's own groups: the next hops it was handed, and whether a call
handed it an empty slot or took out what it did not hold. -/
structure NpuNhGroups where
  members : KeyTree GroupPtr (List NhRef)
  fault : Bool
deriving DecidableEq

structure FibState where
  vrfTree : KeyTree ObjectId Vrf
  numVirtualRouters : Nat
  routerInterfaceTree : KeyTree ObjectId Rif
  nhTree : KeyTree NhRef Nh
  nhIdTree : KeyTree ObjectId NhRef
  groups : KeyTree GroupPtr NhGroup
  nhGroupTree : KeyTree ObjectId GroupPtr
  routeTree : KeyTree RouteKey Route
  neighborMacTree : KeyTree NeighborMacKey (List NhRef)
  /-- Some node was taken off a list that it was not on. -/
  unlinkFault : Bool
  maxEcmpPaths : Nat
  portTree : KeyTree ObjectId PortFwdMode
  lagTree : KeyTree ObjectId Lag
  npuGroups : NpuNhGroups
deriving DecidableEq

/-- An attribute error carries the position of the attribute. -/
def fibAttrStatusCodeGet (status : SaiStatus) (index : Nat) : SaiStatus :=
  match status with
  | .invalidAttribute _ => .invalidAttribute index
  | .invalidAttrValue _ => .invalidAttrValue index
  | .attrNotImplemented _ => .attrNotImplemented index
  | .unknownAttribute _ => .unknownAttribute index
  | .attrNotSupported _ => .attrNotSupported index
  | status => status

def fibVrfNodeGet (s : FibState) (vrId : ObjectId) : Option Vrf := s.vrfTree.get vrId

def fibRouterInterfaceNodeGet (s : FibState) (rifId : ObjectId) : Option Rif :=
  s.routerInterfaceTree.get rifId

/-- The id of the VRF that a router interface names, if both are stored. -/
def fibGetVrfNodeForRif (s : FibState) (rifId : ObjectId) : Option ObjectId :=
  match fibRouterInterfaceNodeGet s rifId with
  | none => none
  | some rif =>
    match fibVrfNodeGet s rif.vrfId with
    | none => none
    | some _ => some rif.vrfId

/-- The address of the stored node of an IP next hop. -/
def fibIpNextHopNodeGet (s : FibState) (rifId : ObjectId) (ipAddr : IpAddress) : Option NhRef :=
  match fibGetVrfNodeForRif s rifId with
  | none => none
  | some vrfId =>
    let ref : NhRef := ⟨vrfId, .ip, rifId, ipAddr⟩
    match s.nhTree.get ref with
    | none => none
    | some _ => some ref

def fibNextHopNodeGetFromId (s : FibState) (nextHopId : ObjectId) : Option NhRef :=
  s.nhIdTree.get nextHopId

def fibNextHopGroupGet (s : FibState) (groupId : ObjectId) : Option GroupPtr :=
  s.nhGroupTree.get groupId

def FibState.modifyNh (s : FibState) (ref : NhRef) (f : Nh → Nh) : FibState :=
  { s with nhTree := s.nhTree.modify ref f }

def FibState.modifyGroup (s : FibState) (group : GroupPtr) (f : NhGroup → NhGroup) : FibState :=
  { s with groups := s.groups.modify group f }

end SaiCommon
