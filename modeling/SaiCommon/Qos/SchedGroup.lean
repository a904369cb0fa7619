import SaiCommon.Qos.Hierarchy
import SaiCommon.Qos.Queue

namespace SaiCommon

inductive SchedGroupAttr
  | portId (oid : ObjectId)
  | level (value : BitVec 32)
  | schedulerProfileId (oid : ObjectId)
  | maxChilds (value : BitVec 32)
  | other
deriving DecidableEq

def qosSchedGroupNodeInit : SchedGroup where
  portId := nullObjectId
  hierarchyLevel := 0
  maxChilds := 0
  schedulerId := nullObjectId
  hqosInfo :=
    { parentSchedGroupId := nullObjectId
      childCount := 0
      childSchedGroupList := []
      childQueueList := [] }

/-- The default scheduler does not count as a use. -/
def qosSchedGroupIsInUse (s : QosState) (node : SchedGroup) : Bool :=
  node.hqosInfo.childSchedGroupList ≠ [] || node.hqosInfo.childQueueList ≠ [] ||
    node.hqosInfo.parentSchedGroupId ≠ nullObjectId ||
    (node.schedulerId ≠ nullObjectId && node.schedulerId ≠ s.defaultSchedId)

def qosSchedGroupAttrSet (node : SchedGroup) : List SchedGroupAttr → SchedGroup
  | [] => node
  | .portId oid :: rest => qosSchedGroupAttrSet { node with portId := oid } rest
  | .level value :: rest => qosSchedGroupAttrSet { node with hierarchyLevel := value } rest
  | .schedulerProfileId oid :: rest => qosSchedGroupAttrSet { node with schedulerId := oid } rest
  | .maxChilds value :: rest => qosSchedGroupAttrSet { node with maxChilds := value } rest
  | .other :: rest => qosSchedGroupAttrSet node rest

def qosSchedGroupAttributesValidate (attrs : List SchedGroupAttr) (vendor : SaiStatus) : SaiStatus :=
  if attrs.length = 0 then .invalidParameter else vendor

/-- The first port id of the list. -/
def qosSchedGroupPortAttributeGet : List SchedGroupAttr → Option ObjectId
  | [] => none
  | .portId oid :: _ => some oid
  | _ :: rest => qosSchedGroupPortAttributeGet rest

def qosPortSchedGroupListUpdate (s : QosState) (sgId : ObjectId) (node : SchedGroup) (isAdd : Bool) :
    QosState × SaiStatus :=
  match s.portTree.get node.portId with
  | none => (s, .invalidObjectId)
  | some port =>
    let entry := (node.hierarchyLevel, sgId)
    let schedGroupList := if isAdd then port.schedGroupList ++ [entry] else port.schedGroupList.erase entry
    ({ s with portTree := s.portTree.put node.portId { port with schedGroupList := schedGroupList } },
      .success)

/-- What the world outside answers to a group creation. `ready` is the status
of preparing the port; where that removes the port's default hierarchy, the
removals are calls of their own that come before. -/
structure SchedGroupCreateEnv where
  vendor : SaiStatus
  ready : SaiStatus
  allocOk : Bool
  bitmapOk : Bool
  npu : SaiStatus
  npuObjectId : Nat
  treeOk : Bool
deriving DecidableEq

def qosSchedGroupCreate (s : QosState) (attrs : List SchedGroupAttr) (env : SchedGroupCreateEnv) :
    QosState × SaiStatus :=
  match qosSchedGroupAttributesValidate attrs env.vendor with
  | .success =>
    match qosSchedGroupPortAttributeGet attrs, env.ready with
    | none, _ => (s, .failure)
    | some _, .success =>
      if env.allocOk = false then (s, .noMemory)
      else if env.bitmapOk = false then (s, .noMemory)
      else
        let node := qosSchedGroupAttrSet qosSchedGroupNodeInit attrs
        match env.npu with
        | .success =>
          let sgId : ObjectId := ⟨.schedulerGroup, env.npuObjectId⟩
          match qosPortSchedGroupListUpdate s sgId node true with
          | (t, .success) =>
            match env.treeOk, t.schedGroupTree.get sgId with
            | true, none => ({ t with schedGroupTree := t.schedGroupTree.put sgId node }, .success)
            | _, _ => (s, .failure)
          | (_, error) => (s, error)
        | error => (s, error)
    | some _, error => (s, error)
  | error => (s, error)

def qosSchedGroupRemove (s : QosState) (sgId : ObjectId) (npu : SaiStatus) : QosState × SaiStatus :=
  if sgId.objType ≠ .schedulerGroup then (s, .invalidObjectType)
  else match s.schedGroupTree.get sgId with
    | none => (s, .invalidObjectId)
    | some node =>
      if qosSchedGroupIsInUse s node then (s, .objectInUse)
      else match npu with
        | .success =>
          let t := (qosPortSchedGroupListUpdate s sgId node false).1
          ({ t with schedGroupTree := t.schedGroupTree.del sgId }, .success)
        | error => (s, error)

theorem qosSchedGroupCreate_cases (s : QosState) (attrs : List SchedGroupAttr) (env : SchedGroupCreateEnv) :
    (∃ error, error ≠ .success ∧ qosSchedGroupCreate s attrs env = (s, error)) ∨
    ∃ t, (env.vendor = .success ∧ env.ready = .success ∧ env.allocOk = true ∧ env.bitmapOk = true ∧
        env.npu = .success) ∧
      qosPortSchedGroupListUpdate s ⟨.schedulerGroup, env.npuObjectId⟩
        (qosSchedGroupAttrSet qosSchedGroupNodeInit attrs) true = (t, .success) ∧
      t.schedGroupTree.get ⟨.schedulerGroup, env.npuObjectId⟩ = none ∧
      qosSchedGroupCreate s attrs env = ({ t with
        schedGroupTree := t.schedGroupTree.put ⟨.schedulerGroup, env.npuObjectId⟩
          (qosSchedGroupAttrSet qosSchedGroupNodeInit attrs) }, .success) := by
  unfold qosSchedGroupCreate
  split
  · rename_i valid
    have vendor : env.vendor = .success := by
      unfold qosSchedGroupAttributesValidate at valid
      split at valid
      · cases valid
      · exact valid
    split
    · exact .inl ⟨_, SaiStatus.noConfusion, rfl⟩
    · rename_i ready
      split
      · exact .inl ⟨_, SaiStatus.noConfusion, rfl⟩
      rename_i alloc
      split
      · exact .inl ⟨_, SaiStatus.noConfusion, rfl⟩
      rename_i bitmap
      dsimp only
      split
      · rename_i npu
        split
        · rename_i t updated
          split
          · exact .inr ⟨t, ⟨vendor, ready, Bool.eq_true_of_not_eq_false alloc, Bool.eq_true_of_not_eq_false bitmap,
              npu⟩, updated, ‹_›, rfl⟩
          · exact .inl ⟨_, SaiStatus.noConfusion, rfl⟩
        · exact .inl ⟨_, ‹_›, rfl⟩
      · exact .inl ⟨_, ‹_›, rfl⟩
    · exact .inl ⟨_, ‹_›, rfl⟩
  · exact .inl ⟨_, ‹_›, rfl⟩

/-- A removal is refused, or it takes a group that is not in use out of its port's list. -/
theorem qosSchedGroupRemove_cases (s : QosState) (sgId : ObjectId) (npu : SaiStatus) :
    (∃ error, error ≠ .success ∧ qosSchedGroupRemove s sgId npu = (s, error)) ∨
    ∃ node, s.schedGroupTree.get sgId = some node ∧ qosSchedGroupIsInUse s node = false ∧ npu = .success ∧
      qosSchedGroupRemove s sgId npu = ({ (qosPortSchedGroupListUpdate s sgId node false).1 with
        schedGroupTree := (qosPortSchedGroupListUpdate s sgId node false).1.schedGroupTree.del sgId }, .success) := by
  unfold qosSchedGroupRemove
  split
  · exact .inl ⟨_, SaiStatus.noConfusion, rfl⟩
  split
  · exact .inl ⟨_, SaiStatus.noConfusion, rfl⟩
  rename_i node stored
  split
  · exact .inl ⟨_, SaiStatus.noConfusion, rfl⟩
  rename_i idle
  split
  · exact .inr ⟨node, stored, Bool.eq_false_iff.mpr idle, rfl, rfl⟩
  · exact .inl ⟨_, ‹_›, rfl⟩

def qosSchedGroupIsDuplicateSet (node : SchedGroup) : SchedGroupAttr → Bool
  | .schedulerProfileId oid => node.schedulerId = oid
  | _ => false

/-- The node takes the value whatever the set returned. -/
def qosSchedGroupAttributeSet (s : QosState) (sgId : ObjectId) (attr : SchedGroupAttr)
    (vendor npu : SaiStatus) : QosState × SaiStatus :=
  if sgId.objType ≠ .schedulerGroup then (s, .invalidObjectType)
  else match s.schedGroupTree.get sgId with
    | none => (s, .invalidObjectId)
    | some node =>
      match qosSchedGroupAttributesValidate [attr] vendor with
      | .success =>
        if qosSchedGroupIsDuplicateSet node attr then (s, .success)
        else
          let set := match attr with
            | .schedulerProfileId oid => qosSchedGroupSchedulerSet s sgId node oid npu
            | _ => (s, npu)
          ({ set.1 with schedGroupTree := set.1.schedGroupTree.modify sgId fun g =>
              qosSchedGroupAttrSet g [attr] }, set.2)
      | error => (s, error)

def setDefaultSchedulerLoop (npu : ObjectId → SaiStatus) : List ObjectId → QosState → QosState × SaiStatus
  | [], s => (s, .success)
  | childId :: rest, s =>
    match childId.objType with
    | .schedulerGroup =>
      match s.schedGroupTree.get childId with
      | none => (s, .invalidObjectId)
      | some node =>
        match qosSchedGroupSchedulerSet s childId node s.defaultSchedId (npu childId) with
        | (t, .success) =>
          setDefaultSchedulerLoop npu rest
            { t with schedGroupTree := t.schedGroupTree.modify childId fun g =>
                { g with schedulerId := t.defaultSchedId } }
        | (t, error) => (t, error)
    | .queue =>
      match s.queueTree.get childId with
      | none => (s, .invalidObjectId)
      | some node =>
        match qosQueueSchedulerSet s childId node s.defaultSchedId (npu childId) with
        | (t, .success) =>
          setDefaultSchedulerLoop npu rest
            { t with queueTree := t.queueTree.modify childId fun q =>
                { q with schedulerId := t.defaultSchedId } }
        | (t, error) => (t, error)
    | _ => (s, .invalidObjectId)

def setDefaultScheduler (s : QosState) (childList : List ObjectId) (npu : ObjectId → SaiStatus) :
    QosState × SaiStatus :=
  if s.defaultSchedId = nullObjectId then (s, .invalidObjectId)
  else setDefaultSchedulerLoop npu childList s

/-- The calls that attach schedulers, create or remove what they are attached
to, or decide whether it can be removed. -/
inductive SchedulerCall
  | create (defaults : SchedulerDefaults) (attrs : List SchedulerAttr) (env : CreateEnv)
  | remove (schedId : ObjectId) (npu : SaiStatus)
  | attributeSet (schedId : ObjectId) (attr : SchedulerAttr) (env : SchedulerSetEnv)
  | createDefault (defaults : SchedulerDefaults) (env : CreateEnv)
  | removeDefault (npu : SaiStatus)
  | portSet (portId schedId : ObjectId) (npu : SaiStatus)
  | queueCreate (portId : ObjectId) (queueType : QueueType) (env : CreateEnv)
  | queueRemove (queueId : ObjectId) (npu : SaiStatus)
  | queueSet (queueId schedId : ObjectId) (vendor npu : SaiStatus)
  | groupCreate (attrs : List SchedGroupAttr) (env : SchedGroupCreateEnv)
  | groupRemove (sgId : ObjectId) (npu : SaiStatus)
  | groupAttrSet (sgId : ObjectId) (attr : SchedGroupAttr) (vendor npu : SaiStatus)
  | setDefault (childList : List ObjectId) (npu : ObjectId → SaiStatus)
  | hierarchy (call : HierarchyCall)

def SchedulerCall.run (s : QosState) : SchedulerCall → Option (QosState × SaiStatus)
  | .create defaults attrs env => some (qosSchedulerCreate s defaults attrs env)
  | .remove schedId npu => some (qosSchedulerRemove s schedId npu)
  | .attributeSet schedId attr env => some (qosSchedulerAttributeSet s schedId attr env)
  | .createDefault defaults env => some (qosCreateDefaultScheduler s defaults env)
  | .removeDefault npu => some (qosRemoveDefaultScheduler s npu)
  | .portSet portId schedId npu => some (qosPortSchedulerSet s portId schedId npu)
  | .queueCreate portId queueType env => some (qosQueueCreate s portId queueType env)
  | .queueRemove queueId npu => some (qosQueueRemove s queueId npu)
  | .queueSet queueId schedId vendor npu => some (qosQueueSchedulerProfileSet s queueId schedId vendor npu)
  | .groupCreate attrs env => some (qosSchedGroupCreate s attrs env)
  | .groupRemove sgId npu => some (qosSchedGroupRemove s sgId npu)
  | .groupAttrSet sgId attr vendor npu => some (qosSchedGroupAttributeSet s sgId attr vendor npu)
  | .setDefault childList npu => some (setDefaultScheduler s childList npu)
  | .hierarchy call => call.run s

end SaiCommon
