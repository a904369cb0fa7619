import SaiCommon.Switching.Lag
import SaiCommon.Switching.Vlan

namespace SaiCommon

/-- What the routing, the VLAN and the LAG code ask of code that is not in the
repository. -/
structure AttachPlatform where
  routing : Platform
  /-- `sai_internal_vlan_id_get` -/
  internalVlanId : Nat
  /-- `SAI_MIN_VLAN_TAG_ID` -/
  minVlanTagId : Nat
  /-- `SAI_MAX_VLAN_TAG_ID` -/
  maxVlanTagId : Nat

def AttachPlatform.vlan (platform : AttachPlatform) : VlanPlatform :=
  ⟨fun vlanId => platform.routing.isValidVlanId (BitVec.ofNat 16 vlanId), platform.internalVlanId⟩

/-- The routing database, which has the LAGs, with the VLANs that are created. -/
structure AttachState where
  fib : FibState
  vlanList : List (BitVec 16)
deriving DecidableEq

/-- How the spanning tree and the NPU answer to the removal of a VLAN. -/
structure VlanDeleteEnv where
  stp : SaiStatus
  npu : SaiStatus

structure VlanCreateEnv where
  insert : SaiStatus
  npu : SaiStatus
  stp : SaiStatus

namespace AttachState
variable (platform : AttachPlatform) (s : AttachState)

def isVlanCreated (vlanId : BitVec 16) : Bool := vlanId ∈ s.vlanList

def insertVlanInList (vlanId : BitVec 16) (status : SaiStatus) : AttachState × SaiStatus :=
  if vlanId ∈ s.vlanList then (s, .itemAlreadyExists)
  else match status with
    | .success => ({ s with vlanList := s.vlanList ++ [vlanId] }, .success)
    | error => (s, error)

def removeVlanFromList (vlanId : BitVec 16) : AttachState :=
  { s with vlanList := s.vlanList.filter fun other => other ≠ vlanId }

/-- `sai_l2_create_vlan`: a VLAN that the NPU already has is kept, and a failure
of the spanning tree does not take it back. -/
def createVlan (vlanId : BitVec 16) (env : VlanCreateEnv) : AttachState × SaiStatus :=
  match vlanIdAvailable platform.vlan vlanId.toNat with
  | .success =>
    match s.insertVlanInList vlanId env.insert with
    | (t, .success) =>
      if env.npu ≠ .success ∧ env.npu ≠ .itemAlreadyExists then (t.removeVlanFromList vlanId, env.npu)
      else (t, if vlanId.toNat ≠ initDefaultVlan then env.stp else env.npu)
    | (t, error) => (t, error)
  | error => (s, error)

def deleteVlan (vlanId : BitVec 16) (env : VlanDeleteEnv) : AttachState × SaiStatus :=
  match env.stp with
  | .success =>
    match env.npu with
    | .success => (s.removeVlanFromList vlanId, .success)
    | error => (s, error)
  | error => (s, error)

def removeVlan (vlanId : BitVec 16) (env : VlanDeleteEnv) : AttachState × SaiStatus :=
  match vlanIdAvailable platform.vlan vlanId.toNat with
  | .success => if s.isVlanCreated vlanId then s.deleteVlan vlanId env else (s, .itemNotFound)
  | error => (s, error)

def removeVlanIfCreated (env : BitVec 16 → VlanDeleteEnv) (vlanId : Nat) : AttachState :=
  if vlanId = platform.internalVlanId then s
  else if s.isVlanCreated (BitVec.ofNat 16 vlanId) then
    (s.deleteVlan (BitVec.ofNat 16 vlanId) (env (BitVec.ofNat 16 vlanId))).1
  else s

def vlanTagIds : List Nat := List.range' platform.minVlanTagId (platform.maxVlanTagId + 1 - platform.minVlanTagId)

def removeAllVlans (env : BitVec 16 → VlanDeleteEnv) : AttachState × SaiStatus :=
  ((vlanTagIds platform).foldl (fun t vlanId => t.removeVlanIfCreated platform env vlanId) s, .success)

end AttachState

namespace FibState
variable (s : FibState) (lagId : ObjectId)

def lagNodeAdd : SaiStatus → FibState × SaiStatus
  | .success => ({ s with lagTree := s.lagTree.put lagId ⟨nullObjectId, []⟩ }, .success)
  | error => (s, error)

def removeAllLagPortNodes : FibState :=
  { s with lagTree := s.lagTree.modify lagId fun lag => { lag with members := [] } }

def lagNodeRemove : FibState × SaiStatus :=
  if isLagCreated s lagId then ({ s with lagTree := s.lagTree.del lagId }, .success) else (s, .itemNotFound)

def removeAllLagPorts (npuRemove : SaiStatus) : FibState × SaiStatus :=
  match lagPortListGet s lagId with
  | none => (s, .itemNotFound)
  | some ports =>
    if ports = [] then (s, .success)
    else match npuRemove with
      | .success => (s.removeAllLagPortNodes lagId, .success)
      | error => (s, error)

/-- The loop of `sai_l2_lag_port_list_set`: the LAGs after it, `non_dup_list` and
the status. -/
def lagPortListLoop (lagId : ObjectId) (nodeAdd : ObjectId → SaiStatus) (s : FibState) (nonDup : List ObjectId) :
    List ObjectId → FibState × List ObjectId × SaiStatus
  | [] => (s, nonDup, .success)
  | port :: rest =>
    if isPortPartOfDifferentLag s lagId port then (s, nonDup, .invalidPortMember)
    else if isPortLagMember s lagId port then lagPortListLoop lagId nodeAdd s nonDup rest
    else match nodeAdd port with
      | .success => lagPortListLoop lagId nodeAdd (lagPortNodeAdd s lagId port nullObjectId) (nonDup ++ [port]) rest
      | error => (s, nonDup ++ [port], error)

def removeLagPortNodes (ports : List ObjectId) : FibState :=
  ports.foldl (fun t port => lagPortNodeRemove t lagId port) s

def lagPortListSet (ports : List ObjectId) (env : LagPortListEnv) : FibState × SaiStatus :=
  if ports.all (isPortValid s) = false then (s, .invalidParameter)
  else if isLagCreated s lagId = false then (s, .itemNotFound)
  else match s.removeAllLagPorts lagId env.npuRemove with
    | (t, .success) =>
      match lagPortListLoop lagId env.nodeAdd t [] ports with
      | (u, nonDup, .success) =>
        match env.npuAdd with
        | .success => (u, .success)
        | error => (u.removeLagPortNodes lagId nonDup, error)
      | (u, nonDup, error) => (u.removeLagPortNodes lagId nonDup, error)
    | (t, error) => (t, error)

/-- The loop over the attributes of a LAG create, also run when the LAG is not in
the cache. -/
def createLagLoop (s : FibState) (lagId : ObjectId) (portList : Nat → LagPortListEnv) (index : Nat)
    (ret : SaiStatus) : List LagAttr → FibState × SaiStatus
  | [] => (s, ret)
  | .portList ports :: rest =>
    match s.lagPortListSet lagId ports (portList index) with
    | (t, .success) => createLagLoop t lagId portList (index + 1) .success rest
    | (t, error) => (t, error)
  | .unknown :: _ => (s, .unknownAttribute index)

/-- `sai_l2_create_lag`; the NPU makes the LAG under an id that no LAG has. -/
def createLag (attrs : List LagAttr) (env : LagCreateEnv) : FibState × SaiStatus :=
  match env.create with
  | .error error => (s, error)
  | .ok lagId =>
    if isLagCreated s lagId then (s, .failure)
    else match s.lagNodeAdd lagId env.nodeAdd with
      | (t, status) =>
        match createLagLoop t lagId env.portList 0 status attrs with
        | (u, .success) => (u, .success)
        | (u, error) => (((u.removeAllLagPortNodes lagId).lagNodeRemove lagId).1, error)

/-- `sai_l2_remove_lag`: when the NPU refuses, the LAG is added again, without a
RIF and without ports. -/
def removeLag (npu : SaiStatus) : FibState × SaiStatus :=
  match s.lagTree.get lagId with
  | none => (s, .itemNotFound)
  | some lag =>
    if lag.rifId.objType = .routerInterface then (s, .objectInUse)
    else match (s.removeAllLagPortNodes lagId).lagNodeRemove lagId with
      | (t, .success) =>
        match npu with
        | .success => (t, .success)
        | error => ((t.lagNodeAdd lagId .success).1, error)
      | (t, error) => (t, error)

end FibState

/-- The calls on router interfaces, VLANs and LAGs. What a RIF create asks of
the created VLANs is answered by the state. -/
inductive AttachCall
  | createRif (defaults : RifDefaults) (attrs : List RifAttr) (env : RifCreateEnv)
  | removeRif (rifId : ObjectId) (npu : SaiStatus)
  | createVlan (vlanId : BitVec 16) (env : VlanCreateEnv)
  | removeVlan (vlanId : BitVec 16) (env : VlanDeleteEnv)
  | removeAllVlans (env : BitVec 16 → VlanDeleteEnv)
  | createLag (attrs : List LagAttr) (env : LagCreateEnv)
  | removeLag (lagId : ObjectId) (npu : SaiStatus)

namespace AttachState

/-- A call that changes only the routing database. -/
def onFib (s : AttachState) (run : FibState × SaiStatus) : AttachState × SaiStatus := ({ s with fib := run.1 }, run.2)

end AttachState

def AttachCall.run (platform : AttachPlatform) (s : AttachState) : AttachCall → AttachState × SaiStatus
  | .createRif defaults attrs env =>
    s.onFib (fibRouterInterfaceCreate platform.routing s.fib defaults attrs { env with vlanCreated := s.isVlanCreated })
  | .removeRif rifId npu => s.onFib (fibRouterInterfaceRemove s.fib rifId npu)
  | .createVlan vlanId env => s.createVlan platform vlanId env
  | .removeVlan vlanId env => s.removeVlan platform vlanId env
  | .removeAllVlans env => s.removeAllVlans platform env
  | .createLag attrs env => s.onFib (s.fib.createLag attrs env)
  | .removeLag lagId npu => s.onFib (s.fib.removeLag lagId npu)

def AttachCall.step (platform : AttachPlatform) (s : AttachState) (call : AttachCall) : AttachState :=
  (call.run platform s).1

end SaiCommon
