import SaiCommon.Fib.State

namespace SaiCommon

inductive NextHopAttr
  | type (nhType : NextHopType)
  | ip (ipAddr : IpAddress)
  | routerInterfaceId (rifId : ObjectId)
  | other
deriving DecidableEq

/-- A next-hop node that is being filled in, with the place it will have. -/
structure NhInfo where
  ref : NhRef
  node : Nh
deriving DecidableEq

structure NhNodeEnv where
  allocOk : Bool
  treeOk : Bool
deriving DecidableEq

structure NextHopCreateEnv where
  node : NhNodeEnv
  npu : SaiStatus
  npuObjectId : Nat
  idTreeOk : Bool
  npuRemove : SaiStatus
deriving DecidableEq

def Nh.setOwnerNextHop (node : Nh) : Nh := { node with ownerFlag := { node.ownerFlag with nextHop := true } }

def Nh.setOwnerNeighbor (node : Nh) : Nh := { node with ownerFlag := { node.ownerFlag with neighbor := true } }

def nhInfoInit : NhInfo where
  ref := ⟨nullObjectId, .ip, nullObjectId, .v4 0⟩
  node :=
    { nextHopId := nullObjectId
      ownerFlag := ⟨false, false⟩
      refCount := 0
      macAddr := 0
      packetAction := .other 0
      noHostRoute := false
      metaData := 0
      portId := nullObjectId
      nhGroupList := [] }

def fibNextHopDefaultAttrSet (info : NhInfo) : NhInfo :=
  { info with node := { info.node with packetAction := .trap } }

def fibNextHopInfoReset (node : Nh) : Nh :=
  { node with ownerFlag := { node.ownerFlag with nextHop := false }, nextHopId := nullObjectId }

def fibNextHopTypeSet (info : NhInfo) (nhType : NextHopType) : Except SaiStatus NhInfo :=
  if nhType = .ip then .ok { info with ref := { info.ref with key := { info.ref.key with nhType := nhType } } }
  else .error (.invalidAttrValue 0)

def fibNextHopRifSet (s : FibState) (info : NhInfo) (rifId : ObjectId) : Except SaiStatus NhInfo :=
  if rifId.objType ≠ .routerInterface then .error (.invalidAttrValue 0)
  else match fibRouterInterfaceNodeGet s rifId with
    | none => .error (.invalidAttrValue 0)
    | some _ =>
      match fibGetVrfNodeForRif s rifId with
      | none => .error .invalidObjectId
      | some vrfId => .ok { info with ref := ⟨vrfId, { info.ref.key with rifId := rifId }⟩ }

section Attributes
variable (p : Platform)

def fibNextHopIpAddressValidate (ipAddr : IpAddress) : SaiStatus :=
  match ipAddr with
  | .other _ => .invalidParameter
  | ipAddr => if p.isIpAddrZero ipAddr ∨ p.isIpAddrLoopback ipAddr then .invalidParameter else .success

def fibNextHopIpAddrSet (info : NhInfo) (ipAddr : IpAddress) : Except SaiStatus NhInfo :=
  match fibNextHopIpAddressValidate p ipAddr with
  | .success => .ok { info with ref := { info.ref with key := { info.ref.key with ipAddr := ipAddr } } }
  | _ => .error (.invalidAttrValue 0)

def fibNextHopAttrSet (s : FibState) (info : NhInfo) : NextHopAttr → Except SaiStatus NhInfo
  | .type nhType => fibNextHopTypeSet info nhType
  | .ip ipAddr => fibNextHopIpAddrSet p info ipAddr
  | .routerInterfaceId rifId => fibNextHopRifSet s info rifId
  | .other => .error (.unknownAttribute 0)

def fibNextHopInfoLoop (s : FibState) : List NextHopAttr → Nat → NhInfo → Except SaiStatus NhInfo
  | [], _, info => .ok info
  | attr :: rest, attrIndex, info =>
    match fibNextHopAttrSet p s info attr with
    | .error error => .error (fibAttrStatusCodeGet error attrIndex)
    | .ok next => fibNextHopInfoLoop s rest (attrIndex + 1) next

def NextHopAttr.isType : NextHopAttr → Bool
  | .type _ => true
  | _ => false

def NextHopAttr.isIp : NextHopAttr → Bool
  | .ip _ => true
  | _ => false

def NextHopAttr.isRif : NextHopAttr → Bool
  | .routerInterfaceId _ => true
  | _ => false

def fibNextHopInfoFill (s : FibState) (info : NhInfo) (attrs : List NextHopAttr) : Except SaiStatus NhInfo :=
  if attrs = [] then .error .invalidParameter
  else match fibNextHopInfoLoop p s attrs 0 info with
    | .error error => .error error
    | .ok filled =>
      if attrs.any NextHopAttr.isType = false ∨ attrs.any NextHopAttr.isRif = false then
        .error .mandatoryAttributeMissing
      else if filled.ref.key.nhType = .ip ∧ attrs.any NextHopAttr.isIp = false then
        .error .mandatoryAttributeMissing
      else .ok filled

end Attributes

def fibNhRifRefCountIncr (s : FibState) (ref : NhRef) : FibState :=
  { s with routerInterfaceTree := s.routerInterfaceTree.modify ref.key.rifId fun rif =>
    { rif with refCount := rif.refCount + 1 } }

def fibNhRifRefCountDecr (s : FibState) (ref : NhRef) : FibState :=
  { s with routerInterfaceTree := s.routerInterfaceTree.modify ref.key.rifId fun rif =>
    { rif with refCount := rif.refCount - 1 } }

def fibIpNextHopNodeCreate (s : FibState) (info : NhInfo) (env : NhNodeEnv) : Except SaiStatus FibState :=
  match fibVrfNodeGet s info.ref.vrfId with
  | none => .error .invalidObjectId
  | some _ =>
    if env.allocOk = false then .error .noMemory
    else match env.treeOk, s.nhTree.get info.ref with
      | true, none =>
        let node := { info.node with nhGroupList := [] }
        .ok (fibNhRifRefCountIncr { s with nhTree := s.nhTree.put info.ref node } info.ref)
      | _, _ => .error .failure

/-- The node goes when it has no owner left. -/
def fibCheckAndDeleteIpNextHopNode (s : FibState) (ref : NhRef) : FibState × SaiStatus :=
  match s.nhTree.get ref with
  | none => (s, .success)
  | some node =>
    if node.ownerFlag ≠ ⟨false, false⟩ then (s, .success)
    else match fibVrfNodeGet s ref.vrfId with
      | none => (s, .invalidObjectId)
      | some _ => (fibNhRifRefCountDecr { s with nhTree := s.nhTree.del ref } ref, .success)

/-- The part of `sai_fib_ip_next_hop_create` after the node has been found or
made. -/
def fibIpNextHopOwn (s : FibState) (ref : NhRef) (env : NextHopCreateEnv) : FibState × Except SaiStatus NhRef :=
  let owned := s.modifyNh ref Nh.setOwnerNextHop
  match env.npu with
  | .success =>
    (owned.modifyNh ref fun node => { node with nextHopId := ⟨.nextHop, env.npuObjectId⟩ }, .ok ref)
  | error => ((fibCheckAndDeleteIpNextHopNode (owned.modifyNh ref fibNextHopInfoReset) ref).1, .error error)

def fibIsOwnerNextHop (s : FibState) (ref : NhRef) : Bool :=
  match s.nhTree.get ref with
  | none => false
  | some node => node.ownerFlag.nextHop

def fibIsOwnerNeighbor (s : FibState) (ref : NhRef) : Bool :=
  match s.nhTree.get ref with
  | none => false
  | some node => node.ownerFlag.neighbor

def fibIpNextHopCreate (s : FibState) (info : NhInfo) (env : NextHopCreateEnv) :
    FibState × Except SaiStatus NhRef :=
  match fibIpNextHopNodeGet s info.ref.key.rifId info.ref.key.ipAddr with
  | some ref =>
    if fibIsOwnerNextHop s ref then (s, .error .itemAlreadyExists) else fibIpNextHopOwn s ref env
  | none =>
    match fibIpNextHopNodeCreate s info env.node with
    | .error error => (s, .error error)
    | .ok t => fibIpNextHopOwn t info.ref env

def fibIsNextHopInNhGroup (s : FibState) (ref : NhRef) : Bool :=
  match s.nhTree.get ref with
  | none => false
  | some node => node.nhGroupList ≠ []

def fibIsNextHopUsed (s : FibState) (ref : NhRef) : Bool :=
  match s.nhTree.get ref with
  | none => false
  | some node => node.refCount ≠ 0

def fibIpNextHopRemove (s : FibState) (ref : NhRef) (npu : SaiStatus) : FibState × SaiStatus :=
  if fibIsNextHopInNhGroup s ref then (s, .failure)
  else match npu with
    | .success => ((fibCheckAndDeleteIpNextHopNode (s.modifyNh ref fibNextHopInfoReset) ref).1, .success)
    | error => (s, error)

def fibNhNextHopId (s : FibState) (ref : NhRef) : ObjectId :=
  match s.nhTree.get ref with
  | none => nullObjectId
  | some node => node.nextHopId

def fibInsertNhNodeInNhIdDatabase (s : FibState) (ref : NhRef) (idTreeOk : Bool) : FibState × SaiStatus :=
  match idTreeOk, s.nhIdTree.get (fibNhNextHopId s ref) with
  | true, none => ({ s with nhIdTree := s.nhIdTree.put (fibNhNextHopId s ref) ref }, .success)
  | _, _ => (s, .failure)

/-- What the tree held under the id is gone even if it was another node. -/
def fibRemoveNhNodeFromNhIdDatabase (s : FibState) (ref : NhRef) : FibState × SaiStatus :=
  let t := { s with nhIdTree := s.nhIdTree.del (fibNhNextHopId s ref) }
  if s.nhIdTree.get (fibNhNextHopId s ref) = some ref then (t, .success) else (t, .failure)

def fibNextHopCreate (p : Platform) (s : FibState) (attrs : List NextHopAttr) (env : NextHopCreateEnv) :
    FibState × SaiStatus :=
  match fibNextHopInfoFill p s (fibNextHopDefaultAttrSet nhInfoInit) attrs with
  | .error error => (s, error)
  | .ok info =>
    if info.ref.key.nhType = .ip then
      match fibIpNextHopCreate s info env with
      | (t, .error error) => (t, error)
      | (t, .ok ref) =>
        match fibInsertNhNodeInNhIdDatabase t ref env.idTreeOk with
        | (u, .success) => (u, .success)
        | (u, error) => ((fibIpNextHopRemove u ref env.npuRemove).1, error)
    else (s, .notSupported)

/-- There is no other type of next hop that could be removed. -/
def fibNextHopRemoveByType (s : FibState) (ref : NhRef) (npu : SaiStatus) : FibState × SaiStatus :=
  if ref.key.nhType = .ip then fibIpNextHopRemove s ref npu else (s, .notSupported)

def fibNextHopRemove (s : FibState) (nextHopId : ObjectId) (npu : SaiStatus) (idTreeOk : Bool) :
    FibState × SaiStatus :=
  if nextHopId.objType ≠ .nextHop then (s, .invalidObjectType)
  else match fibNextHopNodeGetFromId s nextHopId with
    | none => (s, .invalidObjectId)
    | some ref =>
      if fibIsOwnerNextHop s ref = false then (s, .invalidObjectId)
      else if fibIsNextHopUsed s ref then (s, .objectInUse)
      else match fibRemoveNhNodeFromNhIdDatabase s ref with
        | (t, .success) =>
          match fibNextHopRemoveByType t ref npu with
          | (u, .success) => (u, .success)
          | (u, error) => ((fibInsertNhNodeInNhIdDatabase u ref idTreeOk).1, error)
        | (t, _) => (t, .failure)

def fibNextHopAttributeSet (s : FibState) : FibState × SaiStatus := (s, .notSupported)

end SaiCommon
