import SaiCommon.Fib.State
import SaiCommon.Udf.Group

namespace SaiCommon

/-- The traps of `valid_traps`; any other id is not valid. -/
inductive HostifTrapId
  | stp
  | lacp
  | eapol
  | lldp
  | pvrst
  | igmpTypeQuery
  | igmpTypeLeave
  | igmpTypeV1Report
  | igmpTypeV2Report
  | igmpTypeV3Report
  | samplepacket
  | arpRequest
  | arpResponse
  | dhcp
  | ospf
  | pim
  | vrrp
  | bgp
  | dhcpv6
  | ospfv6
  | vrrpv6
  | bgpv6
  | ipv6NeighborDiscovery
  | ipv6MldV1V2
  | ipv6MldV1Report
  | ipv6MldV1Done
  | mldV2Report
  | l3MtuError
  | ttlError
  | other (code : Int)
deriving DecidableEq

/-- `valid_traps`: each trap with its default action. -/
def validTraps : List (HostifTrapId × PacketAction) :=
  [(.stp, .drop), (.lacp, .drop), (.eapol, .drop), (.lldp, .drop), (.pvrst, .drop), (.igmpTypeQuery, .forward),
    (.igmpTypeLeave, .forward), (.igmpTypeV1Report, .forward), (.igmpTypeV2Report, .forward),
    (.igmpTypeV3Report, .forward), (.samplepacket, .trap), (.arpRequest, .forward), (.arpResponse, .forward),
    (.dhcp, .forward), (.ospf, .forward), (.pim, .forward), (.vrrp, .forward), (.bgp, .forward),
    (.dhcpv6, .forward), (.ospfv6, .forward), (.vrrpv6, .forward), (.bgpv6, .forward),
    (.ipv6NeighborDiscovery, .forward), (.ipv6MldV1V2, .forward), (.ipv6MldV1Report, .forward),
    (.ipv6MldV1Done, .forward), (.mldV2Report, .forward), (.l3MtuError, .trap), (.ttlError, .trap)]

def isValidTrapId (trapId : HostifTrapId) : Bool := validTraps.any fun entry => entry.1 = trapId

def getDefaultAction (trapId : HostifTrapId) : PacketAction :=
  match validTraps.find? fun entry => entry.1 = trapId with
  | some entry => entry.2
  | none => .forward

structure TrapGroup where
  adminState : Bool
  groupPrio : Nat
  cpuQueue : Nat
  policerId : ObjectId
  trapCount : Nat
  trapList : List HostifTrapId
deriving DecidableEq

structure Trap where
  trapAction : PacketAction
  trapPrio : Nat
  trapGroup : ObjectId
  portList : List ObjectId
deriving DecidableEq

/-- `g_hostif_info`; a free index is set in the bitmap. -/
structure HostifState where
  trapTree : KeyTree HostifTrapId Trap
  trapGroupTree : KeyTree ObjectId TrapGroup
  trapGroupBitmap : Nat → Bool
  defaultTrapGroupId : ObjectId

inductive TrapGroupAttrId
  | adminState
  | prio
  | queue
  | policer
  | other (code : Int)
deriving DecidableEq

inductive TrapGroupAttr
  | adminState (value : Bool)
  | prio (value : Nat)
  | queue (value : Nat)
  | policer (value : ObjectId)
  | other (code : Int)
deriving DecidableEq

def TrapGroupAttr.attrId : TrapGroupAttr → TrapGroupAttrId
  | .adminState _ => .adminState
  | .prio _ => .prio
  | .queue _ => .queue
  | .policer _ => .policer
  | .other code => .other code

inductive HostifOp
  | create
  | set
deriving DecidableEq

/-- An entry of `trap_group_attrs`. -/
structure TrapGroupAttrProperty where
  attrId : TrapGroupAttrId
  mandatoryInCreate : Bool
  validInSet : Bool

def trapGroupAttrs : List TrapGroupAttrProperty :=
  [⟨.adminState, false, true⟩, ⟨.prio, true, false⟩, ⟨.queue, false, true⟩, ⟨.policer, false, true⟩]

def mandatoryTrapGroupAttrCount : Nat := trapGroupAttrs.countP TrapGroupAttrProperty.mandatoryInCreate

def maxTrapGroups : Nat := 128

/-- What the host interface takes from outside of the repository. -/
structure HostifPlatform where
  /-- `DN_SAI_HOSTIF_DEFAULT_QUEUE` -/
  defaultQueue : Nat
  /-- `dn_sai_check_duplicate_attr` -/
  duplicateAttr : List TrapGroupAttrId → Option Nat
  nodup_of_duplicateAttr : ∀ ids, duplicateAttr ids = none → ids.Nodup

section TrapGroups
variable (platform : HostifPlatform)

/-- The loop of `dn_sai_hostif_validate_trapgroup_attrlist`: the mandatory
attributes found, or the first error. `npuValidate` is `npu_validate_trapgroup`. -/
def validateTrapgroupLoop (npuValidate : TrapGroupAttr → SaiStatus) (operation : HostifOp) :
    Nat → Nat → List TrapGroupAttr → Except SaiStatus Nat
  | _, mandAttrCount, [] => .ok mandAttrCount
  | attrIdx, mandAttrCount, attr :: rest =>
    match trapGroupAttrs.find? fun property => property.attrId = attr.attrId with
    | none => .error (.unknownAttribute attrIdx)
    | some property =>
      if operation = .set ∧ property.validInSet = false then .error (.invalidAttribute attrIdx)
      else match npuValidate attr with
        | .success => validateTrapgroupLoop npuValidate operation (attrIdx + 1)
            (if operation = .create ∧ property.mandatoryInCreate = true then mandAttrCount + 1 else
              mandAttrCount) rest
        | .invalidAttrValue 0 => .error (.invalidAttrValue attrIdx)
        | .attrNotSupported 0 => .error (.attrNotSupported attrIdx)
        | error => .error error

def validateTrapgroupAttrlist (npuValidate : TrapGroupAttr → SaiStatus) (attrs : List TrapGroupAttr)
    (operation : HostifOp) : SaiStatus :=
  if attrs = [] then .invalidParameter
  else match platform.duplicateAttr (attrs.map TrapGroupAttr.attrId) with
    | some dupIndex => .invalidAttribute dupIndex
    | none =>
      match validateTrapgroupLoop npuValidate operation 0 0 attrs with
      | .error error => error
      | .ok mandAttrCount =>
        if operation = .create ∧ mandAttrCount < mandatoryTrapGroupAttrCount then .mandatoryAttributeMissing
        else .success

/-- `sai_find_attr_in_attrlist` of QUEUE -/
def findQueue : List TrapGroupAttr → Option Nat
  | [] => none
  | .queue value :: _ => some value
  | _ :: rest => findQueue rest

def TrapGroup.zero : TrapGroup := ⟨false, 0, 0, nullObjectId, 0, []⟩

def TrapGroup.fill (group : TrapGroup) : TrapGroupAttr → TrapGroup
  | .adminState value => { group with adminState := value }
  | .prio value => { group with groupPrio := value }
  | .queue value => { group with cpuQueue := value }
  | .policer value => { group with policerId := value }
  | .other _ => group

namespace HostifState
variable (s : HostifState)

def queueInUse (cpuQueue : Nat) : Bool :=
  decide (∃ id ∈ s.trapGroupTree.keys, (s.trapGroupTree.get id).any (fun group => group.cpuQueue = cpuQueue) = true)

/-- `std_find_first_bit` from bit 1 on. -/
def freeIndex : Option Nat := (List.range' 1 (maxTrapGroups - 1)).find? s.trapGroupBitmap

/-- `STD_BIT_ARRAY_CLR` and `STD_BIT_ARRAY_SET` -/
def setFree (index : Nat) (free : Bool) : HostifState :=
  { s with trapGroupBitmap := Function.update s.trapGroupBitmap index free }

def addTrapToTrapgroup (trapId : HostifTrapId) (groupId : ObjectId) : HostifState :=
  { s with trapGroupTree := s.trapGroupTree.modify groupId fun group =>
      { group with trapList := group.trapList ++ [trapId], trapCount := group.trapCount + 1 } }

def removeTrapToTrapgroup (trapId : HostifTrapId) (groupId : ObjectId) : HostifState :=
  { s with trapGroupTree := s.trapGroupTree.modify groupId fun group =>
      { group with trapList := group.trapList.erase trapId, trapCount := group.trapCount - 1 } }

end HostifState

structure TrapGroupCreateEnv where
  npuValidate : TrapGroupAttr → SaiStatus
  allocOk : Bool
  insertOk : Bool

/-- `dn_sai_hostif_alloc_trapgroup`: the index that is taken and the group. -/
def allocTrapgroup (s : HostifState) (attrs : List TrapGroupAttr) (allocOk : Bool) :
    Except SaiStatus (Nat × TrapGroup) :=
  match s.freeIndex with
  | none => .error .insufficientResources
  | some id => if allocOk = false then .error .noMemory else .ok (id, attrs.foldl TrapGroup.fill .zero)

def createHostifTrapGroup (s : HostifState) (attrs : List TrapGroupAttr) (env : TrapGroupCreateEnv) :
    HostifState × Except SaiStatus ObjectId :=
  match validateTrapgroupAttrlist platform env.npuValidate attrs .create with
  | .success =>
    if s.queueInUse ((findQueue attrs).getD platform.defaultQueue) then (s, .error .itemAlreadyExists)
    else match allocTrapgroup s attrs env.allocOk with
      | .error error => (s, .error error)
      | .ok (id, group) =>
        if env.insertOk = true ∧ s.trapGroupTree.get ⟨.trapGroup, id⟩ = none then
          ({ s.setFree id false with trapGroupTree := s.trapGroupTree.put ⟨.trapGroup, id⟩ group },
            .ok ⟨.trapGroup, id⟩)
        else ((s.setFree id false).setFree id true, .error .failure)
  | error => (s, .error error)

def removeHostifTrapGroup (s : HostifState) (groupId : ObjectId) : HostifState × SaiStatus :=
  if groupId.objType ≠ .trapGroup then (s, .invalidObjectType)
  else match s.trapGroupTree.get groupId with
    | none => (s, .invalidObjectId)
    | some group =>
      if 0 < group.trapCount then (s, .objectInUse)
      else if s.defaultTrapGroupId = groupId then (s, .objectInUse)
      else ({ s.setFree groupId.npuObjectId true with trapGroupTree := s.trapGroupTree.del groupId }, .success)

/-- `dn_sai_hostif_update_trapgroup`; `npuUpdate` answers `npu_update_trapgroup`
of each trap of the group. -/
def updateTrapgroup (s : HostifState) (groupId : ObjectId) (group : TrapGroup) (attr : TrapGroupAttr)
    (npuUpdate : HostifTrapId → SaiStatus) : HostifState × SaiStatus :=
  match group.trapList.find? fun trapId => npuUpdate trapId ≠ .success with
  | some trapId => (s, npuUpdate trapId)
  | none => ({ s with trapGroupTree := s.trapGroupTree.put groupId (group.fill attr) }, .success)

structure TrapGroupSetEnv where
  npuValidate : TrapGroupAttr → SaiStatus
  npuUpdate : HostifTrapId → SaiStatus

def setHostifTrapGroup (s : HostifState) (groupId : ObjectId) (attr : TrapGroupAttr) (env : TrapGroupSetEnv) :
    HostifState × SaiStatus :=
  if groupId.objType ≠ .trapGroup then (s, .invalidObjectType)
  else match validateTrapgroupAttrlist platform env.npuValidate [attr] .set with
    | .success =>
      match s.trapGroupTree.get groupId with
      | none => (s, .invalidObjectId)
      | some group =>
        match attr with
        | .adminState value =>
          if group.adminState = value then (s, .success) else updateTrapgroup s groupId group attr env.npuUpdate
        | .queue value =>
          if group.cpuQueue = value then (s, .success)
          else if s.queueInUse value then (s, .itemAlreadyExists)
          else updateTrapgroup s groupId group attr env.npuUpdate
        | _ => (s, .attrNotSupported 0)
    | error => (s, error)

end TrapGroups

inductive TrapAttr
  | packetAction (value : PacketAction)
  | trapPriority (value : Nat)
  | trapChannel (value : Int)
  | fd (value : ObjectId)
  | portList (value : List ObjectId)
  | trapGroup (value : ObjectId)
  | other (code : Int)
deriving DecidableEq

structure TrapSetEnv where
  isPortValid : ObjectId → Bool
  npuValidate : SaiStatus
  nodeAllocOk : Bool
  insertOk : Bool
  npuSet : SaiStatus
  listAllocOk : Bool

section Traps
variable (s : HostifState)

def validateTrapgroupOid (oid : ObjectId) : SaiStatus :=
  if oid ≠ nullObjectId ∧ s.trapGroupTree.get oid = none then .invalidObjectId else .success

def validateTrapAction : PacketAction → SaiStatus
  | .drop => .success
  | .trap => .success
  | .log => .success
  | .forward => .success
  | .other _ => .invalidAttrValue 0

/-- The `check_attr_func` of an attribute in `trap_attrs`; none for an attribute
that is not in the table. -/
def checkTrapAttr (env : TrapSetEnv) : TrapAttr → Option SaiStatus
  | .packetAction value => some (validateTrapAction value)
  | .trapPriority _ => some .success
  | .trapChannel _ => some .success
  | .fd _ => some .success
  | .portList value => some (if value.all env.isPortValid then .success else .invalidObjectId)
  | .trapGroup value => some (validateTrapgroupOid s value)
  | .other _ => none

/-- `dn_sai_hostif_validate_trap` of a set -/
def validateTrap (trapId : HostifTrapId) (attr : TrapAttr) (env : TrapSetEnv) : SaiStatus :=
  if isValidTrapId trapId = false then .invalidParameter
  else match checkTrapAttr s env attr with
    | none => .unknownAttribute 0
    | some .success => env.npuValidate
    | some error => error

/-- `dn_sai_hostif_add_trap_node`: the new trap joins the default group. -/
def addTrapNode (trapId : HostifTrapId) (env : TrapSetEnv) : Option (HostifState × Trap) :=
  if env.nodeAllocOk = false ∨ env.insertOk = false then none
  else
    let trap : Trap := ⟨getDefaultAction trapId, 0, s.defaultTrapGroupId, []⟩
    let stored := { s with trapTree := s.trapTree.put trapId trap }
    if s.defaultTrapGroupId ≠ nullObjectId then some (stored.addTrapToTrapgroup trapId s.defaultTrapGroupId, trap)
    else some (stored, trap)

def updateTrapNode (trapId : HostifTrapId) (trap : Trap) (env : TrapSetEnv) : TrapAttr → HostifState × SaiStatus
  | .packetAction value => ({ s with trapTree := s.trapTree.put trapId { trap with trapAction := value } }, .success)
  | .trapPriority value => ({ s with trapTree := s.trapTree.put trapId { trap with trapPrio := value } }, .success)
  | .trapGroup value =>
    let left := s.removeTrapToTrapgroup trapId trap.trapGroup
    let joined := if value ≠ nullObjectId then left.addTrapToTrapgroup trapId value else left
    ({ joined with trapTree := joined.trapTree.put trapId { trap with trapGroup := value } }, .success)
  | .portList value =>
    if env.listAllocOk = false then (s, .noMemory)
    else ({ s with trapTree := s.trapTree.put trapId { trap with portList := value } }, .success)
  | _ => (s, .success)

/-- The tests of `dn_sai_hostif_update_trap` that the trap has the value already. -/
def Trap.unchanged (trap : Trap) : TrapAttr → Bool
  | .packetAction value => trap.trapAction = value
  | .trapPriority value => trap.trapPrio = value
  | .trapGroup value => trap.trapGroup = value
  | _ => false

def updateTrap (trapId : HostifTrapId) (trap : Trap) (attr : TrapAttr) (isNewTrap : Bool) (env : TrapSetEnv) :
    HostifState × SaiStatus :=
  if trap.unchanged attr = true ∧ isNewTrap = false then (s, .success)
  else match env.npuSet with
    | .success => updateTrapNode s trapId trap env attr
    | error => (s, error)

def setHostifTrap (trapId : HostifTrapId) (attr : TrapAttr) (env : TrapSetEnv) : HostifState × SaiStatus :=
  match validateTrap s trapId attr env with
  | .success =>
    match s.trapTree.get trapId with
    | some trap => updateTrap s trapId trap attr false env
    | none =>
      match addTrapNode s trapId env with
      | none => (s, .failure)
      | some (s, trap) => updateTrap s trapId trap attr true env
  | error => (s, error)

end Traps

def HostifState.empty : HostifState := ⟨∅, ∅, fun _ => true, nullObjectId⟩

/-- `sai_hostintf_init` creates the default group. -/
def hostintfInit (platform : HostifPlatform) (env : TrapGroupCreateEnv) : Option HostifState :=
  match createHostifTrapGroup platform .empty [.adminState true, .queue platform.defaultQueue, .prio 0] env with
  | (s, .ok id) => some { s with defaultTrapGroupId := id }
  | (_, .error _) => none

inductive HostifCall
  | createTrapGroup (attrs : List TrapGroupAttr) (env : TrapGroupCreateEnv)
  | removeTrapGroup (groupId : ObjectId)
  | setTrapGroup (groupId : ObjectId) (attr : TrapGroupAttr) (env : TrapGroupSetEnv)
  | setTrap (trapId : HostifTrapId) (attr : TrapAttr) (env : TrapSetEnv)

def HostifState.call (platform : HostifPlatform) (s : HostifState) : HostifCall → HostifState
  | .createTrapGroup attrs env => (createHostifTrapGroup platform s attrs env).1
  | .removeTrapGroup groupId => (removeHostifTrapGroup s groupId).1
  | .setTrapGroup groupId attr env => (setHostifTrapGroup platform s groupId attr env).1
  | .setTrap trapId attr env => (setHostifTrap s trapId attr env).1

end SaiCommon
