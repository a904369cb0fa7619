import SaiCommon.Lib.KeyTree
import SaiCommon.Base

namespace SaiCommon

structure VlanPlatform where
  /-- `sai_is_valid_vlan_id` -/
  isValidVlanId : Nat → Bool
  /-- `sai_internal_vlan_id_get` -/
  internalVlanId : Nat

/-- `SAI_INIT_DEFAULT_VLAN` -/
def initDefaultVlan : Nat := 1

/-- The VLAN operation that holds the VLAN lock and the next step it takes:
`update` is `sai_stp_default_stp_vlan_update` of a VLAN that is created,
`destroy` is `sai_l2_delete_vlan`, `handle` is `sai_stp_vlan_handle`. `old` is
what was read from `g_stp_vlan_map`. -/
inductive VlanOp
  | updateRead (vlanId : Nat)
  | updateRemove (vlanId : Nat) (old : ObjectId)
  | updateClear (vlanId : Nat)
  | updateAdd (vlanId : Nat)
  | updateMap (vlanId : Nat)
  | destroyRead (vlanId : Nat)
  | destroyRemove (vlanId : Nat) (old : ObjectId)
  | destroyClear (vlanId : Nat)
  | destroyNpu (vlanId : Nat)
  | handleCheck (vlanId : Nat) (stpInstId : ObjectId)
  | handleRead (vlanId : Nat) (stpInstId : ObjectId)
  | handleRemove (vlanId : Nat) (stpInstId old : ObjectId)
  | handleAdd (vlanId : Nat) (stpInstId : ObjectId)
  | handleReread (vlanId : Nat)
  | handleReadd (vlanId : Nat) (old : ObjectId)
  | handleMap (vlanId : Nat) (stpInstId : ObjectId)
deriving DecidableEq

/-- The instances with their VLAN trees, the default instance, `g_stp_vlan_map`
(NULL for 0), the VLANs in the VLAN list and the VLAN operation in progress. -/
structure StpState where
  stpInfoTree : KeyTree ObjectId (List Nat)
  defStpId : ObjectId
  stpVlanMap : Nat → ObjectId
  vlanList : List Nat
  op : Option VlanOp

structure StpEnv where
  alloc : Bool
  npu : SaiStatus
  npuObjectId : Nat
  insertOk : Bool
  treeOk : Bool

namespace StpState
variable (s : StpState)

def instanceCreate (env : StpEnv) : StpState × SaiStatus :=
  if env.alloc = false then (s, .noMemory)
  else match env.npu with
    | .success =>
      let stpInstId : ObjectId := ⟨.stpInstance, env.npuObjectId⟩
      match env.insertOk, s.stpInfoTree.get stpInstId with
      | true, none =>
        if env.treeOk = false then (s, .failure)
        else ({ s with stpInfoTree := s.stpInfoTree.put stpInstId [] }, .success)
      | _, _ => (s, .failure)
    | error => (s, error)

/-- `sai_stp_instance_remove`: any instance without VLANs, the default one too. -/
def instanceRemove (stpInstId : ObjectId) (npu : SaiStatus) : StpState × SaiStatus :=
  if stpInstId.objType ≠ .stpInstance then (s, .invalidObjectType)
  else match s.stpInfoTree.get stpInstId with
    | none => (s, .invalidObjectId)
    | some vlans =>
      if vlans ≠ [] then (s, .objectInUse)
      else match npu with
        | .success => ({ s with stpInfoTree := s.stpInfoTree.del stpInstId }, .success)
        | error => (s, error)

def vlanAdd (stpInstId : ObjectId) (vlanId : Nat) (env : StpEnv) : StpState × SaiStatus :=
  if stpInstId.objType ≠ .stpInstance then (s, .invalidObjectType)
  else match s.stpInfoTree.get stpInstId with
    | none => (s, .invalidObjectId)
    | some vlans =>
      if vlanId ∈ vlans then (s, .itemAlreadyExists)
      else if env.alloc = false then (s, .noMemory)
      else match env.npu with
        | .success =>
          if env.insertOk = false then (s, .failure)
          else ({ s with stpInfoTree := s.stpInfoTree.put stpInstId (vlans ++ [vlanId]) }, .success)
        | error => (s, error)

def vlanRemove (stpInstId : ObjectId) (vlanId : Nat) (npu : SaiStatus) : StpState × SaiStatus :=
  if stpInstId.objType ≠ .stpInstance then (s, .invalidObjectType)
  else match s.stpInfoTree.get stpInstId with
    | none => (s, .invalidObjectId)
    | some vlans =>
      if vlanId ∉ vlans then (s, .itemNotFound)
      else match npu with
        | .success => ({ s with stpInfoTree := s.stpInfoTree.put stpInstId (vlans.erase vlanId) }, .success)
        | error => (s, error)

def goOn (next : Option VlanOp) : StpState := { s with op := next }

def writeMap (vlanId : Nat) (stpInstId : ObjectId) : StpState :=
  { s with stpVlanMap := Function.update s.stpVlanMap vlanId stpInstId }

def advance (env : StpEnv) : StpState :=
  match s.op with
  | none => s
  | some (.updateRead vlanId) =>
    s.goOn (if s.stpVlanMap vlanId ≠ nullObjectId then some (.updateRemove vlanId (s.stpVlanMap vlanId))
      else some (.updateAdd vlanId))
  | some (.updateRemove vlanId old) =>
    match s.vlanRemove old vlanId env.npu with
    | (s, .success) => s.goOn (some (.updateClear vlanId))
    | (s, _) => s.goOn none
  | some (.updateClear vlanId) => (s.writeMap vlanId nullObjectId).goOn (some (.updateAdd vlanId))
  | some (.updateAdd vlanId) =>
    match s.vlanAdd s.defStpId vlanId env with
    | (s, .success) => s.goOn (some (.updateMap vlanId))
    | (s, _) => s.goOn none
  | some (.updateMap vlanId) => (s.writeMap vlanId s.defStpId).goOn none
  | some (.destroyRead vlanId) => s.goOn (some (.destroyRemove vlanId (s.stpVlanMap vlanId)))
  | some (.destroyRemove vlanId old) =>
    match s.vlanRemove old vlanId env.npu with
    | (s, .success) => s.goOn (some (.destroyClear vlanId))
    | (s, _) => s.goOn none
  | some (.destroyClear vlanId) => (s.writeMap vlanId nullObjectId).goOn (some (.destroyNpu vlanId))
  | some (.destroyNpu vlanId) =>
    match env.npu with
    | .success => { s with vlanList := s.vlanList.filter fun other => other ≠ vlanId, op := none }
    | _ => s.goOn none
  | some (.handleCheck vlanId stpInstId) =>
    s.goOn (if (s.stpInfoTree.get stpInstId).isSome then some (.handleRead vlanId stpInstId) else none)
  | some (.handleRead vlanId stpInstId) => s.goOn (some (.handleRemove vlanId stpInstId (s.stpVlanMap vlanId)))
  | some (.handleRemove vlanId stpInstId old) =>
    match s.vlanRemove old vlanId env.npu with
    | (s, .success) => s.goOn (some (.handleAdd vlanId stpInstId))
    | (s, _) => s.goOn none
  | some (.handleAdd vlanId stpInstId) =>
    match s.vlanAdd stpInstId vlanId env with
    | (s, .success) => s.goOn (some (.handleMap vlanId stpInstId))
    | (s, _) => s.goOn (some (.handleReread vlanId))
  | some (.handleReread vlanId) => s.goOn (some (.handleReadd vlanId (s.stpVlanMap vlanId)))
  | some (.handleReadd vlanId old) => (s.vlanAdd old vlanId env).1.goOn none
  | some (.handleMap vlanId stpInstId) => (s.writeMap vlanId stpInstId).goOn none

def isVlanIdAvailable (platform : VlanPlatform) (vlanId : Nat) : Bool :=
  platform.isValidVlanId vlanId && vlanId ≠ platform.internalVlanId

/-- `sai_l2_create_vlan` as far as the spanning tree: the VLAN enters the list
and the NPU makes it. -/
def createVlan (platform : VlanPlatform) (vlanId : Nat) (env : StpEnv) : StpState :=
  if isVlanIdAvailable platform vlanId = false ∨ vlanId ∈ s.vlanList ∨ env.insertOk = false then s
  else if env.npu ≠ .success ∧ env.npu ≠ .itemAlreadyExists then s
  else
    { s with
      vlanList := s.vlanList ++ [vlanId]
      op := if vlanId ≠ initDefaultVlan then some (.updateRead vlanId) else none }

def removeVlan (platform : VlanPlatform) (vlanId : Nat) : StpState :=
  if isVlanIdAvailable platform vlanId = false ∨ vlanId ∉ s.vlanList then s
  else s.goOn (some (.destroyRead vlanId))

/-- `sai_l2_set_vlan_attribute` of the STP instance as far as the spanning tree. -/
def setVlanStpInstance (platform : VlanPlatform) (vlanId : Nat) (stpInstId : ObjectId) : StpState :=
  if platform.isValidVlanId vlanId = false ∨ vlanId ∉ s.vlanList then s
  else s.goOn (some (.handleCheck vlanId stpInstId))

end StpState

/-- One atomic step of some client. A VLAN operation begins when it has the VLAN
lock, so when none is in progress. -/
inductive StpEvent
  | instanceCreate (env : StpEnv)
  | instanceRemove (stpInstId : ObjectId) (npu : SaiStatus)
  | createVlan (vlanId : Nat) (env : StpEnv)
  | removeVlan (vlanId : Nat)
  | setVlanStpInstance (vlanId : Nat) (stpInstId : ObjectId)
  | advance (env : StpEnv)

def StpEvent.step (platform : VlanPlatform) (s : StpState) : StpEvent → StpState
  | .instanceCreate env => (s.instanceCreate env).1
  | .instanceRemove stpInstId npu => (s.instanceRemove stpInstId npu).1
  | .createVlan vlanId env => if s.op = none then s.createVlan platform vlanId env else s
  | .removeVlan vlanId => if s.op = none then s.removeVlan platform vlanId else s
  | .setVlanStpInstance vlanId stpInstId => if s.op = none then s.setVlanStpInstance platform vlanId stpInstId else s
  | .advance env => s.advance env

end SaiCommon
