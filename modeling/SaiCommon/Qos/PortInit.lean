import SaiCommon.Lib.ErrorLoop
import SaiCommon.Qos.SchedGroup

namespace SaiCommon

inductive HqosChildType
  | scheduler (level : BitVec 32)
  | queue (queueType : QueueType)
deriving DecidableEq

structure HqosChild where
  childType : HqosChildType
  childIndex : Nat
deriving DecidableEq

structure HqosGroup where
  nodeId : Nat
  childInfo : List HqosChild
deriving DecidableEq

/-- What the switch and the configuration say of the ports. The default
hierarchies give the groups of each level. -/
structure QosPlatform where
  isHierarchyQosSupported : Bool
  isSeparateUcastOrMcastSupported : ObjectId → Bool
  maxUcQueuesPerPort : ObjectId → Nat
  maxMcQueuesPerPort : ObjectId → Nat
  maxQueuesPerPort : ObjectId → Nat
  maxHierarchyLevels : BitVec 32
  leafHierarchyLevel : BitVec 32
  isCpuPort : ObjectId → Bool
  defaultHqos : BitVec 32 → List HqosGroup
  defaultCpuHqos : BitVec 32 → List HqosGroup
  /-- `sai_qos_port_get_indexed_queue_object` and its variants for one queue type -/
  indexedQueueObject : QosState → QosPort → QueueType → Nat → Option ObjectId

def qosPortNodeInit : QosPort where
  schedulerId := nullObjectId
  bufferProfileId := nullObjectId
  queueList := []
  schedGroupList := []

/-- The answers to the calls that one port initialisation makes. The queues and
the groups are counted in the order of their creation, and the last two fields
belong to the undoing of a failed one and to the children's schedulers. -/
structure PortInitEnv where
  allocOk : Bool
  npu : SaiStatus
  schedGroupHeadsOk : Bool
  portInfoOk : Bool
  queueCreate : Nat → CreateEnv
  rootSchedGroupInit : SaiStatus
  groupCreate : Nat → SchedGroupCreateEnv
  addChild : Nat → SaiStatus
  childScheduler : ObjectId → SaiStatus
  queueRemove : ObjectId → SaiStatus

structure PortDeinitEnv where
  removeChild : ObjectId → SaiStatus
  groupRemove : ObjectId → SaiStatus
  queueRemove : ObjectId → SaiStatus

section
variable (platform : QosPlatform) (s : QosState) (portId : ObjectId)

def qosPortGlobalInit (env : PortInitEnv) : QosState × SaiStatus :=
  if env.allocOk = false then (s, .noMemory)
  else match env.npu with
    | .success =>
      if platform.isHierarchyQosSupported = true ∧ env.schedGroupHeadsOk = false then (s, .noMemory)
      else if env.portInfoOk = false then (s, .failure)
      else ({ s with portTree := s.portTree.put portId qosPortNodeInit }, .success)
    | error => (s, error)

def qosPortGlobalDeinit : QosState × SaiStatus :=
  if portId.objType ≠ .port then (s, .invalidObjectType)
  else match s.portTree.get portId with
    | none => (s, .invalidObjectId)
    | some _ => ({ s with portTree := s.portTree.del portId }, .success)

/-- The types of the queues that `sai_qos_port_queue_all_init` creates, in order. -/
def QosPlatform.queueTypes : List QueueType :=
  if platform.isSeparateUcastOrMcastSupported portId then
    List.replicate (platform.maxUcQueuesPerPort portId) .unicast ++
      List.replicate (platform.maxMcQueuesPerPort portId) .multicast
  else List.replicate (platform.maxQueuesPerPort portId) .all

def QosPlatform.queueCreates (env : PortInitEnv) : List (QueueType × CreateEnv) :=
  (platform.queueTypes portId).mapIdx fun queue queueType => (queueType, env.queueCreate queue)

def qosPortQueueAllInit (env : PortInitEnv) : QosState × SaiStatus :=
  ErrorLoop.run .success (fun call s => qosQueueCreate s portId call.1 call.2) (platform.queueCreates portId env) s

def qosPortQueueAllDeinit (npu : ObjectId → SaiStatus) : QosState × SaiStatus :=
  match s.portTree.get portId with
  | none => (s, .invalidObjectId)
  | some port =>
    ErrorLoop.run .success (fun queueId s => qosQueueRemove s queueId (npu queueId)) port.queueList s

def QosPlatform.hierarchyLevels : List (BitVec 32) :=
  (List.range platform.maxHierarchyLevels.toNat).map (BitVec.ofNat 32)

/-- The groups of the port's default hierarchy with their levels, in the order
of the loops over them. -/
def QosPlatform.hqosGroups : List (BitVec 32 × HqosGroup) :=
  platform.hierarchyLevels.flatMap fun level =>
    (if platform.isCpuPort portId then platform.defaultCpuHqos level else platform.defaultHqos level).map
      fun group => (level, group)

def QosPlatform.groupCreates (env : PortInitEnv) : List ((BitVec 32 × HqosGroup) × SchedGroupCreateEnv) :=
  (platform.hqosGroups portId).mapIdx fun count group => (group, env.groupCreate count)

def qosHqosGroupAttrs (level : BitVec 32) (group : HqosGroup) : List SchedGroupAttr :=
  [.portId portId, .level level, .maxChilds (BitVec.ofNat 32 group.childInfo.length)]

/-- QoS is still being initialised when a port is, so preparing the port for a
group from the application takes no part in the creations. -/
def qosPortSchedGroupsInit (env : PortInitEnv) : QosState × SaiStatus :=
  match s.portTree.get portId, env.rootSchedGroupInit with
  | none, _ => (s, .invalidObjectId)
  | some _, .success =>
    ErrorLoop.run .success
      (fun call s =>
        qosSchedGroupCreate s (qosHqosGroupAttrs portId call.1.1 call.1.2) { call.2 with ready := .success })
      (platform.groupCreates portId env) s
  | some _, error => (s, error)

/-- The scheduler groups of a port at one level, in the order of its list. -/
def QosPort.groupsAt (port : QosPort) (level : BitVec 32) : List ObjectId :=
  (port.schedGroupList.filter fun entry => entry.1 = level).map Prod.snd

def qosIndexedSchedGroupIdGet (level : BitVec 32) (childIdx : Nat) : Except SaiStatus ObjectId :=
  match s.portTree.get portId with
  | none => .error .invalidObjectId
  | some port =>
    match (port.groupsAt level)[childIdx]? with
    | none => .error .failure
    | some sgId => .ok sgId

/-- One turn of the loop over the children in `sai_qos_port_hierarchy_create`. -/
def qosHqosChildGet (port : QosPort) (child : HqosChild) : Except SaiStatus ObjectId :=
  match child.childType with
  | .scheduler level => qosIndexedSchedGroupIdGet s portId level child.childIndex
  | .queue queueType =>
    match platform.indexedQueueObject s port queueType child.childIndex with
    | none => .error .itemNotFound
    | some queueId => .ok queueId

def qosHqosChildrenGet (port : QosPort) : List HqosChild → Except SaiStatus (List ObjectId)
  | [] => .ok []
  | child :: rest =>
    match qosHqosChildGet platform s portId port child with
    | .error error => .error error
    | .ok childId =>
      match qosHqosChildrenGet port rest with
      | .error error => .error error
      | .ok childList => .ok (childId :: childList)

end

def qosHqosGroupLink (platform : QosPlatform) (portId : ObjectId) (port : QosPort) (level : BitVec 32)
    (group : HqosGroup) (addChild : SaiStatus) (childScheduler : ObjectId → SaiStatus) (s : QosState) :
    Option (QosState × SaiStatus) :=
  match qosIndexedSchedGroupIdGet s portId level group.nodeId with
  | .error error => some (s, error)
  | .ok parentSgId =>
    if group.childInfo.length = 0 then some (s, .success)
    else match qosHqosChildrenGet platform s portId port group.childInfo with
      | .error error => some (s, error)
      | .ok childList =>
        match addChildObjectToGroup s parentSgId childList addChild with
        | none => none
        | some (t, .success) => some (setDefaultScheduler t childList childScheduler)
        | some (t, error) => some (t, error)

def qosHqosGroupsLink (platform : QosPlatform) (portId : ObjectId) (port : QosPort)
    (childScheduler : ObjectId → SaiStatus) :
    List ((BitVec 32 × HqosGroup) × SaiStatus) → QosState → Option (QosState × SaiStatus)
  | [], s => some (s, .success)
  | ((level, group), addChild) :: rest, s =>
    match qosHqosGroupLink platform portId port level group addChild childScheduler s with
    | none => none
    | some (t, .success) => qosHqosGroupsLink platform portId port childScheduler rest t
    | some (t, error) => some (t, error)

section
variable (platform : QosPlatform) (s : QosState) (portId : ObjectId)

def QosPlatform.groupLinks (env : PortInitEnv) : List ((BitVec 32 × HqosGroup) × SaiStatus) :=
  (platform.hqosGroups portId).mapIdx fun count group => (group, env.addChild count)

def qosHierarchyCreate (env : PortInitEnv) : Option (QosState × SaiStatus) :=
  match s.portTree.get portId with
  | none => some (s, .invalidObjectId)
  | some port => qosHqosGroupsLink platform portId port env.childScheduler (platform.groupLinks portId env) s

def qosPortDefaultHierarchyInit (env : PortInitEnv) : Option (QosState × SaiStatus) :=
  match qosPortSchedGroupsInit platform s portId env with
  | (t, .success) => qosHierarchyCreate platform t portId env
  | (t, error) => some (t, error)

/-- One turn of the two loops that undo the hierarchy: a child that has a parent
leaves it. `none` is a list entry without its node. -/
def qosChildHierarchyRemove (childId : ObjectId) (npu : SaiStatus) : Option (QosState × SaiStatus) :=
  match qosChildParentIdGet s childId with
  | none => none
  | some parentSgId =>
    if parentSgId = nullObjectId then some (s, .success)
    else removeChildObjectFromGroup s parentSgId [childId] npu

end

def qosChildrenHierarchyRemove (npu : ObjectId → SaiStatus) :
    List ObjectId → QosState → Option (QosState × SaiStatus)
  | [], s => some (s, .success)
  | childId :: rest, s =>
    match qosChildHierarchyRemove s childId (npu childId) with
    | none => none
    | some (t, .success) => qosChildrenHierarchyRemove npu rest t
    | some (t, error) => some (t, error)

def QosPlatform.nonRootLevels (platform : QosPlatform) : List (BitVec 32) :=
  ((List.range platform.leafHierarchyLevel.toNat).map fun level => BitVec.ofNat 32 (level + 1)).reverse

section
variable (platform : QosPlatform) (s : QosState) (portId : ObjectId)

def qosLeafLevelHierarchyRemove (env : PortDeinitEnv) : Option (QosState × SaiStatus) :=
  match s.portTree.get portId with
  | none => some (s, .invalidObjectId)
  | some port => qosChildrenHierarchyRemove env.removeChild port.queueList s

def qosNonLeafLevelHierarchyRemove (env : PortDeinitEnv) : Option (QosState × SaiStatus) :=
  match s.portTree.get portId with
  | none => some (s, .invalidObjectId)
  | some port => qosChildrenHierarchyRemove env.removeChild (platform.nonRootLevels.flatMap port.groupsAt) s

def qosHierarchyRemove (env : PortDeinitEnv) : Option (QosState × SaiStatus) :=
  match qosLeafLevelHierarchyRemove s portId env with
  | none => none
  | some (t, .success) => qosNonLeafLevelHierarchyRemove platform t portId env
  | some (t, error) => some (t, error)

def qosPortSchedGroupsDeinit (env : PortDeinitEnv) : QosState × SaiStatus :=
  match s.portTree.get portId with
  | none => (s, .invalidObjectId)
  | some port =>
    ErrorLoop.run .success (fun sgId s => qosSchedGroupRemove s sgId (env.groupRemove sgId))
      (platform.hierarchyLevels.flatMap port.groupsAt) s

def qosPortHierarchyDeinit (env : PortDeinitEnv) : Option (QosState × SaiStatus) :=
  match qosHierarchyRemove platform s portId env with
  | none => none
  | some (t, .success) => some (qosPortSchedGroupsDeinit platform t portId env)
  | some (t, error) => some (t, error)

/-- A failed phase counts as not begun: what it left is not undone. The flag of
the hierarchy is set with the last phase, so no failure comes with it. -/
def qosPortHandleInitFailure (env : PortInitEnv) (isPortQueueInit : Bool) : QosState :=
  let t := if isPortQueueInit then (qosPortQueueAllDeinit s portId env.queueRemove).1 else s
  (qosPortGlobalDeinit t portId).1

def qosPortInit (env : PortInitEnv) : Option (QosState × SaiStatus) :=
  match qosPortGlobalInit platform s portId env with
  | (s, .success) =>
    match qosPortQueueAllInit platform s portId env with
    | (s, .success) =>
      if platform.isHierarchyQosSupported = true then
        match qosPortDefaultHierarchyInit platform s portId env with
        | none => none
        | some (s, .success) => some (s, .success)
        | some (s, error) => some (qosPortHandleInitFailure s portId env true, error)
      else some (s, .success)
    | (s, error) => some (qosPortHandleInitFailure s portId env false, error)
  | (s, error) => some (s, error)

/-- `sai_qos_port_deinit`; a port is never in use. -/
def qosPortDeinit (env : PortDeinitEnv) : Option (QosState × SaiStatus) :=
  if portId.objType ≠ .port then some (s, .invalidObjectType)
  else match s.portTree.get portId with
    | none => some (s, .invalidObjectId)
    | some _ =>
      let hierarchy := if platform.isHierarchyQosSupported = true then qosPortHierarchyDeinit platform s portId env
        else some (s, .success)
      match hierarchy with
      | none => none
      | some (s, .success) =>
        match qosPortQueueAllDeinit s portId env.queueRemove with
        | (s, .success) => some (qosPortGlobalDeinit s portId)
        | (s, error) => some (s, error)
      | some (s, error) => some (s, error)

end

end SaiCommon
