import SaiCommon.Fib.State

namespace SaiCommon

inductive RouteAttr
  | nextHopId (oid : ObjectId)
  | packetAction (pktAction : PacketAction)
  | trapPriority (value : BitVec 8)
  | metaData (value : BitVec 32)
  | other
deriving DecidableEq

structure RouteEntry where
  vrId : ObjectId
  destination : IpPrefix
deriving DecidableEq

def fibRouteMaxAttrCount : Nat := 4

def fibUcRouteEntryValidate (entry : RouteEntry) : SaiStatus :=
  match entry.destination with
  | .other _ => .invalidParameter
  | _ => .success

def fibRouteInputParamsValidate (entry : RouteEntry) (attrCount : Nat) : SaiStatus :=
  match fibUcRouteEntryValidate entry with
  | .success => if attrCount = 0 ∨ attrCount > fibRouteMaxAttrCount then .invalidParameter else .success
  | error => error

def fibRouteNhRefCountIncr (s : FibState) (route : Route) : FibState :=
  match route.nhInfo with
  | .nextHop ref => s.modifyNh ref fun node => { node with refCount := node.refCount + 1 }
  | .group group => s.modifyGroup group fun node => { node with refCount := node.refCount + 1 }
  | .none => s

def fibRouteNhRefCountDecr (s : FibState) (route : Route) : FibState :=
  match route.nhInfo with
  | .nextHop ref => s.modifyNh ref fun node => { node with refCount := node.refCount - 1 }
  | .group group => s.modifyGroup group fun node => { node with refCount := node.refCount - 1 }
  | .none => s

def fibRouteNhIdAttrSet (s : FibState) (route : Route) (nhId : ObjectId) : Except SaiStatus Route :=
  match fibNextHopNodeGetFromId s nhId with
  | none => .error (.invalidAttrValue 0)
  | some ref => .ok { route with nhInfo := .nextHop ref }

def fibRouteNhGrpIdAttrSet (s : FibState) (route : Route) (nhGrpId : ObjectId) : Except SaiStatus Route :=
  match fibNextHopGroupGet s nhGrpId with
  | none => .error (.invalidAttrValue 0)
  | some group => .ok { route with nhInfo := .group group }

section Attributes
variable (p : Platform)

def fibRouteAttrSet (s : FibState) (metaRange : Except SaiStatus (BitVec 32 × BitVec 32)) (route : Route) :
    RouteAttr → Except SaiStatus Route
  | .nextHopId oid =>
    if oid.objType = .nextHop then fibRouteNhIdAttrSet s route oid
    else if oid.objType = .nextHopGroup then fibRouteNhGrpIdAttrSet s route oid
    else .error (.invalidAttrValue 0)
  | .packetAction pktAction =>
    if p.packetActionValidate pktAction then .ok { route with packetAction := pktAction }
    else .error (.invalidAttrValue 0)
  | .trapPriority value => .ok { route with trapPriority := value }
  | .metaData value =>
    match metaRange with
    | .error error => .error error
    | .ok (least, most) =>
      if value < least ∨ value > most then .error (.invalidAttrValue 0)
      else .ok { route with metaData := value }
  | .other => .error (.unknownAttribute 0)

def fibRouteAttributesLoop (s : FibState) (metaRange : Except SaiStatus (BitVec 32 × BitVec 32)) :
    List RouteAttr → Nat → Route → Except SaiStatus Route
  | [], _, route => .ok route
  | attr :: rest, listIdx, route =>
    match fibRouteAttrSet p s metaRange route attr with
    | .error error => .error (fibAttrStatusCodeGet error listIdx)
    | .ok next => fibRouteAttributesLoop s metaRange rest (listIdx + 1) next

def fibRouteAttributesParse (s : FibState) (metaRange : Except SaiStatus (BitVec 32 × BitVec 32))
    (route : Route) (attrs : List RouteAttr) : Except SaiStatus Route :=
  match fibRouteAttributesLoop p s metaRange attrs 0 route with
  | .error error => .error error
  | .ok parsed =>
    if (parsed.packetAction = .forward ∨ parsed.packetAction = .log) ∧ parsed.nhInfo = .none then
      .error .mandatoryAttributeMissing
    else .ok parsed

/-- `sai_fib_route_entry_prefix_len_get` and `_ip_prefix_fill`, up to the bits
that the tree compares. -/
def fibRouteKey (entry : RouteEntry) : RouteKey :=
  match entry.destination with
  | .v4 addr mask =>
    let prefixLen := p.v4MaskToPrefixLen mask
    ⟨entry.vrId, false, prefixLen, addr.toNat / 2 ^ (32 - prefixLen)⟩
  | .v6 addr mask =>
    let prefixLen := p.v6MaskToPrefixLen mask
    ⟨entry.vrId, true, prefixLen, addr.toNat / 2 ^ (128 - prefixLen)⟩
  | .other _ => ⟨entry.vrId, false, 0, 0⟩

end Attributes

def fibRouteNodeInit : Route where
  nhInfo := .none
  packetAction := .forward
  trapPriority := 0
  metaData := 0

structure RouteCreateEnv where
  allocOk : Bool
  metaRange : Except SaiStatus (BitVec 32 × BitVec 32)
  npu : SaiStatus
  treeOk : Bool

def fibRouteCreate (p : Platform) (s : FibState) (entry : RouteEntry) (attrs : List RouteAttr)
    (env : RouteCreateEnv) : FibState × SaiStatus :=
  match fibRouteInputParamsValidate entry attrs.length with
  | .success =>
    match fibVrfNodeGet s entry.vrId with
    | none => (s, .invalidObjectId)
    | some _ =>
      match s.routeTree.get (fibRouteKey p entry) with
      | some _ => (s, .itemAlreadyExists)
      | none =>
        if env.allocOk = false then (s, .noMemory)
        else match fibRouteAttributesParse p s env.metaRange fibRouteNodeInit attrs with
          | .error error => (s, error)
          | .ok route =>
            match env.npu with
            | .success =>
              if env.treeOk = false then (s, .failure)
              else (fibRouteNhRefCountIncr
                { s with routeTree := s.routeTree.put (fibRouteKey p entry) route } route, .success)
            | error => (s, error)
  | error => (s, error)

def fibRouteRemove (p : Platform) (s : FibState) (entry : RouteEntry) (npu : SaiStatus) : FibState × SaiStatus :=
  match fibUcRouteEntryValidate entry with
  | .success =>
    match fibVrfNodeGet s entry.vrId with
    | none => (s, .invalidObjectId)
    | some _ =>
      match s.routeTree.get (fibRouteKey p entry) with
      | none => (s, .itemNotFound)
      | some route =>
        match npu with
        | .success =>
          let released := fibRouteNhRefCountDecr s route
          ({ released with routeTree := released.routeTree.del (fibRouteKey p entry) }, .success)
        | error => (s, error)
  | error => (s, error)

structure RouteSetEnv where
  metaRange : Except SaiStatus (BitVec 32 × BitVec 32)
  npu : SaiStatus

def fibRouteAttributeSet (p : Platform) (s : FibState) (entry : RouteEntry) (attr : RouteAttr)
    (env : RouteSetEnv) : FibState × SaiStatus :=
  match fibRouteInputParamsValidate entry 1 with
  | .success =>
    match fibVrfNodeGet s entry.vrId with
    | none => (s, .invalidObjectId)
    | some _ =>
      match s.routeTree.get (fibRouteKey p entry) with
      | none => (s, .itemNotFound)
      | some route =>
        match fibRouteAttributesParse p s env.metaRange route [attr] with
        | .error error => (s, error)
        | .ok parsed =>
          match env.npu with
          | .success =>
            let counted := if route.nhInfo = parsed.nhInfo then s
              else fibRouteNhRefCountIncr (fibRouteNhRefCountDecr s route) parsed
            ({ counted with routeTree := counted.routeTree.put (fibRouteKey p entry) parsed }, .success)
          | error => (s, error)
  | error => (s, error)

end SaiCommon
