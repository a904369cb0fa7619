import SaiCommon.Fib.State

namespace SaiCommon

inductive VrfAttr
  | srcMacAddress (mac : Mac)
  | adminV4State (state : Bool)
  | adminV6State (state : Bool)
  | violationTtl1Action (pktAction : PacketAction)
  | violationIpOptions (pktAction : PacketAction)
  | other
deriving DecidableEq

def fibVrfMaxAttrCount : Nat := 5

structure VrfDefaults where
  v4AdminState : Bool
  v6AdminState : Bool
  ipOptPktAction : PacketAction
  ttlViolationPktAction : PacketAction
deriving DecidableEq

structure VrfCreateEnv where
  allocOk : Bool
  validate : Nat → SaiStatus
  npu : SaiStatus
  npuObjectId : Nat
  treesOk : Bool
  treeOk : Bool

section Attributes
variable (p : Platform)

def fibVrfAttributesInit (defaults : VrfDefaults) : Vrf where
  v4AdminState := defaults.v4AdminState
  v6AdminState := defaults.v6AdminState
  srcMac := p.switchMac
  ipOptionsPktAction := defaults.ipOptPktAction
  ttlPktAction := defaults.ttlViolationPktAction
  numRif := 0

def fibVrfAttrSet (node : Vrf) : VrfAttr → Except SaiStatus Vrf
  | .srcMacAddress mac =>
    if mac = 0 then .error (.invalidAttrValue 0) else .ok { node with srcMac := mac }
  | .adminV4State state => .ok { node with v4AdminState := state }
  | .adminV6State state => .ok { node with v6AdminState := state }
  | .violationTtl1Action pktAction =>
    if p.packetActionValidate pktAction then .ok { node with ttlPktAction := pktAction }
    else .error (.invalidAttrValue 0)
  | .violationIpOptions pktAction =>
    if p.packetActionValidate pktAction then .ok { node with ipOptionsPktAction := pktAction }
    else .error (.invalidAttrValue 0)
  | .other => .error (.unknownAttribute 0)

def fibVrfAttributesLoop (validate : Nat → SaiStatus) : List VrfAttr → Nat → Vrf → Except SaiStatus Vrf
  | [], _, node => .ok node
  | attr :: rest, listIdx, node =>
    match fibVrfAttrSet p node attr with
    | .error error => .error (fibAttrStatusCodeGet error listIdx)
    | .ok next =>
      match validate listIdx with
      | .success => fibVrfAttributesLoop validate rest (listIdx + 1) next
      | error => .error (fibAttrStatusCodeGet error listIdx)

def fibVrfAttributesParse (validate : Nat → SaiStatus) (node : Vrf) (attrs : List VrfAttr) : Except SaiStatus Vrf :=
  match fibVrfAttributesLoop p validate attrs 0 node with
  | .error error => .error error
  | .ok parsed => if parsed.srcMac = 0 then .error .addrNotFound else .ok parsed

def fibVirtualRouterCreate (s : FibState) (defaults : VrfDefaults) (attrs : List VrfAttr)
    (env : VrfCreateEnv) : FibState × SaiStatus :=
  if attrs.length > fibVrfMaxAttrCount then (s, .invalidParameter)
  else if env.allocOk = false then (s, .noMemory)
  else match fibVrfAttributesParse p env.validate (fibVrfAttributesInit p defaults) attrs with
    | .error error => (s, error)
    | .ok node =>
      match env.npu with
      | .success =>
        let vrId : ObjectId := ⟨.virtualRouter, env.npuObjectId⟩
        if env.treesOk = false then (s, .noMemory)
        else match env.treeOk, s.vrfTree.get vrId with
          | true, none =>
            ({ s with vrfTree := s.vrfTree.put vrId node, numVirtualRouters := s.numVirtualRouters + 1 },
              .success)
          | _, _ => (s, .failure)
      | error => (s, error)

def fibVirtualRouterAttributeSet (s : FibState) (vrId : ObjectId) (attr : VrfAttr)
    (validate npu : SaiStatus) : FibState × SaiStatus :=
  if vrId.objType ≠ .virtualRouter then (s, .invalidObjectType)
  else match fibVrfNodeGet s vrId with
    | none => (s, .invalidObjectId)
    | some node =>
      match fibVrfAttributesParse p (fun _ => validate) node [attr] with
      | .error error => (s, error)
      | .ok parsed =>
        match npu with
        | .success => ({ s with vrfTree := s.vrfTree.put vrId parsed }, .success)
        | error => (s, error)

end Attributes

/-- No next-hop node is stored in the tree of this VRF. -/
def fibVrfIsNhTreeEmpty (s : FibState) (vrId : ObjectId) : Bool :=
  s.nhTree.tally (fun ref _ => ref.vrfId = vrId) = 0

def fibVrfIsRouteTreeEmpty (s : FibState) (vrId : ObjectId) : Bool :=
  s.routeTree.tally (fun key _ => key.vrfId = vrId) = 0

def fibVirtualRouterRemove (s : FibState) (vrId : ObjectId) (npu : SaiStatus) : FibState × SaiStatus :=
  if vrId.objType ≠ .virtualRouter then (s, .invalidObjectType)
  else match fibVrfNodeGet s vrId with
    | none => (s, .invalidObjectId)
    | some node =>
      if node.numRif ≠ 0 then (s, .objectInUse)
      else if fibVrfIsNhTreeEmpty s vrId = false then (s, .objectInUse)
      else if fibVrfIsRouteTreeEmpty s vrId = false then (s, .objectInUse)
      else match npu with
        | .success =>
          ({ s with vrfTree := s.vrfTree.del vrId, numVirtualRouters := s.numVirtualRouters - 1 }, .success)
        | error => (s, error)

/-- The count half of `sai_fib_vrf_rif_list_update`; nothing reads the list. -/
def fibVrfRifListUpdate (s : FibState) (vrfId : ObjectId) (isAdd : Bool) : FibState × SaiStatus :=
  match fibVrfNodeGet s vrfId with
  | none => (s, .failure)
  | some node =>
    let numRif := if isAdd then node.numRif + 1 else node.numRif - 1
    ({ s with vrfTree := s.vrfTree.put vrfId { node with numRif := numRif } }, .success)

def routerEcmpMaxPathsSet (s : FibState) (maxPaths : BitVec 32) (npu : SaiStatus) : FibState × SaiStatus :=
  match npu with
  | .success => ({ s with maxEcmpPaths := maxPaths.toNat }, .success)
  | error => (s, error)

end SaiCommon
