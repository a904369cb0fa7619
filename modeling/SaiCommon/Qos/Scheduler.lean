import SaiCommon.Qos.State

namespace SaiCommon

inductive SchedulerAttr
  | schedulingAlgorithm (value : SchedulingAlgo)
  | schedulingWeight (value : BitVec 8)
  | shaperType (value : Int)
  | minBandwidthRate (value : BitVec 64)
  | minBandwidthBurstRate (value : BitVec 64)
  | maxBandwidthRate (value : BitVec 64)
  | maxBandwidthBurstRate (value : BitVec 64)
  | other
deriving DecidableEq

inductive SchedulerUser
  | port
  | queue
  | schedGroup
deriving DecidableEq

def Scheduler.userList (sched : Scheduler) : SchedulerUser → List ObjectId
  | .port => sched.portList
  | .queue => sched.queueList
  | .schedGroup => sched.schedGroupList

def Scheduler.unlink (sched : Scheduler) (user : SchedulerUser) (objectId : ObjectId) : Scheduler :=
  match user with
  | .port => { sched with portList := sched.portList.erase objectId }
  | .queue => { sched with queueList := sched.queueList.erase objectId }
  | .schedGroup => { sched with schedGroupList := sched.schedGroupList.erase objectId }

def Scheduler.link (sched : Scheduler) (user : SchedulerUser) (objectId : ObjectId) : Scheduler :=
  match user with
  | .port => { sched with portList := sched.portList ++ [objectId] }
  | .queue => { sched with queueList := sched.queueList ++ [objectId] }
  | .schedGroup => { sched with schedGroupList := sched.schedGroupList ++ [objectId] }

structure SchedulerDefaults where
  weight : BitVec 8
  shapeType : Int
deriving DecidableEq

def qosSchedulerNodeInit (defaults : SchedulerDefaults) : Scheduler where
  params :=
    { schedAlgo := .wrr
      weight := defaults.weight
      shapeType := defaults.shapeType
      minBandwidthRate := 0
      minBandwidthBurst := 0
      maxBandwidthRate := 0
      maxBandwidthBurst := 0 }
  portList := []
  queueList := []
  schedGroupList := []

def qosSchedulerIsInUse (sched : Scheduler) : Bool :=
  sched.queueList ≠ [] || sched.schedGroupList ≠ [] || sched.portList ≠ []

def qosSchedulerAttrSet (params : SchedulerParams) : List SchedulerAttr → SchedulerParams
  | [] => params
  | .schedulingAlgorithm value :: rest => qosSchedulerAttrSet { params with schedAlgo := value } rest
  | .schedulingWeight value :: rest => qosSchedulerAttrSet { params with weight := value } rest
  | .shaperType value :: rest => qosSchedulerAttrSet { params with shapeType := value } rest
  | .minBandwidthRate value :: rest => qosSchedulerAttrSet { params with minBandwidthRate := value } rest
  | .minBandwidthBurstRate value :: rest =>
    qosSchedulerAttrSet { params with minBandwidthBurst := value } rest
  | .maxBandwidthRate value :: rest => qosSchedulerAttrSet { params with maxBandwidthRate := value } rest
  | .maxBandwidthBurstRate value :: rest =>
    qosSchedulerAttrSet { params with maxBandwidthBurst := value } rest
  | .other :: rest => qosSchedulerAttrSet params rest

def qosSchedulerIsDuplicateSet (params : SchedulerParams) : SchedulerAttr → Bool
  | .schedulingAlgorithm value => params.schedAlgo = value
  | .schedulingWeight value => params.weight = value
  | .shaperType value => params.shapeType = value
  | .minBandwidthRate value => params.minBandwidthRate = value
  | .minBandwidthBurstRate value => params.minBandwidthBurst = value
  | .maxBandwidthRate value => params.maxBandwidthRate = value
  | .maxBandwidthBurstRate value => params.maxBandwidthBurst = value
  | .other => false

def qosSchedulerNodeInsertToTree (s : QosState) (schedId : ObjectId) (sched : Scheduler)
    (treeOk : Bool) : QosState × SaiStatus :=
  match treeOk, s.schedulerTree.get schedId with
  | true, none => ({ s with schedulerTree := s.schedulerTree.put schedId sched }, .success)
  | _, _ => (s, .failure)

def qosSchedulerCreate (s : QosState) (defaults : SchedulerDefaults) (attrs : List SchedulerAttr)
    (env : CreateEnv) : QosState × SaiStatus :=
  match env.vendor with
  | .success =>
    if env.allocOk = false then (s, .noMemory)
    else
      let node := qosSchedulerNodeInit defaults
      let sched := { node with params := qosSchedulerAttrSet node.params attrs }
      match env.npu with
      | .success => qosSchedulerNodeInsertToTree s ⟨.scheduler, env.npuObjectId⟩ sched env.treeOk
      | error => (s, error)
  | error => (s, error)

def qosSchedulerRemove (s : QosState) (schedId : ObjectId) (npu : SaiStatus) : QosState × SaiStatus :=
  if schedId.objType ≠ .scheduler then (s, .invalidObjectType)
  else match s.schedulerTree.get schedId with
    | none => (s, .invalidObjectId)
    | some sched =>
      if qosSchedulerIsInUse sched then (s, .objectInUse)
      else match npu with
        | .success => ({ s with schedulerTree := s.schedulerTree.del schedId }, .success)
        | error => (s, error)

/-- The loop that hands the new parameters to the objects of one list. -/
def qosSchedulerListReapply (npu : ObjectId → SaiStatus) : List ObjectId → SaiStatus
  | [] => .success
  | objectId :: rest =>
    match npu objectId with
    | .success => qosSchedulerListReapply npu rest
    | error => error

/-- The status of `sai_qos_scheduler_reapply`. On an error the objects served
so far get the old parameters again from the NPU; the database takes no part
in that. -/
def qosSchedulerReapply (sched : Scheduler) (npu : ObjectId → SaiStatus) : SaiStatus :=
  match qosSchedulerListReapply npu sched.queueList with
  | .success =>
    match qosSchedulerListReapply npu sched.schedGroupList with
    | .success => qosSchedulerListReapply npu sched.portList
    | error => error
  | error => error

structure SchedulerSetEnv where
  vendor : SaiStatus
  npu : SaiStatus
  isHwObject : Bool
  users : ObjectId → SaiStatus

/-- The parameters are written also when the reapply failed. -/
def qosSchedulerAttributeSet (s : QosState) (schedId : ObjectId) (attr : SchedulerAttr)
    (env : SchedulerSetEnv) : QosState × SaiStatus :=
  if schedId.objType ≠ .scheduler then (s, .invalidObjectType)
  else match s.schedulerTree.get schedId with
    | none => (s, .invalidObjectId)
    | some sched =>
      match env.vendor with
      | .success =>
        if qosSchedulerIsDuplicateSet sched.params attr then (s, .success)
        else match env.npu with
          | .success =>
            let newSched := { sched with params := qosSchedulerAttrSet sched.params [attr] }
            ({ s with schedulerTree := s.schedulerTree.put schedId newSched },
              if env.isHwObject then .success else qosSchedulerReapply sched env.users)
          | error => (s, error)
      | error => (s, error)

/-- `sai_qos_scheduler_queue_list_update`, `_sched_group_list_update` and
`_port_list_update` differ in the list only. What the first half did to the
previous scheduler stays when the second half fails. -/
def qosSchedulerListUpdate (user : SchedulerUser) (s : QosState)
    (objectId prevSchedId newSchedId : ObjectId) : QosState × SaiStatus :=
  if prevSchedId ≠ nullObjectId ∧ s.schedulerTree.get prevSchedId = none then (s, .invalidObjectId)
  else
    let t := if prevSchedId ≠ nullObjectId
      then { s with schedulerTree := s.schedulerTree.modify prevSchedId fun p => p.unlink user objectId }
      else s
    if newSchedId ≠ nullObjectId ∧ t.schedulerTree.get newSchedId = none then (t, .invalidObjectId)
    else if newSchedId ≠ nullObjectId then
      ({ t with schedulerTree := t.schedulerTree.modify newSchedId fun p => p.link user objectId },
        .success)
    else (t, .success)

def qosSchedulerQueueListUpdate := qosSchedulerListUpdate .queue

def qosSchedulerSchedGroupListUpdate := qosSchedulerListUpdate .schedGroup

def qosSchedulerPortListUpdate := qosSchedulerListUpdate .port

/-- The body that the three `*_scheduler_set` functions share: the scheduler is
looked up, the NPU applies it, and the lists follow. -/
def qosUserSchedulerSet (listUpdate : QosState → ObjectId → ObjectId → ObjectId → QosState × SaiStatus)
    (s : QosState) (objectId prevSchedId schedId : ObjectId) (npu : SaiStatus) : QosState × SaiStatus :=
  if schedId ≠ nullObjectId ∧ s.schedulerTree.get schedId = none then (s, .invalidObjectId)
  else match npu with
    | .success => listUpdate s objectId prevSchedId schedId
    | error => (s, error)

def qosQueueSchedulerSet (s : QosState) (queueId : ObjectId) (node : Queue) (schedId : ObjectId)
    (npu : SaiStatus) : QosState × SaiStatus :=
  qosUserSchedulerSet qosSchedulerQueueListUpdate s queueId node.schedulerId schedId npu

def qosSchedGroupSchedulerSet (s : QosState) (sgId : ObjectId) (node : SchedGroup) (schedId : ObjectId)
    (npu : SaiStatus) : QosState × SaiStatus :=
  qosUserSchedulerSet qosSchedulerSchedGroupListUpdate s sgId node.schedulerId schedId npu

def qosPortSchedulerSet (s : QosState) (portId schedId : ObjectId) (npu : SaiStatus) : QosState × SaiStatus :=
  match s.portTree.get portId with
  | none => (s, .invalidObjectId)
  | some node =>
    if node.schedulerId = schedId then (s, .itemAlreadyExists)
    else match qosUserSchedulerSet qosSchedulerPortListUpdate s portId node.schedulerId schedId npu with
      | (t, .success) =>
        ({ t with portTree := t.portTree.modify portId fun p => { p with schedulerId := schedId } },
          .success)
      | (t, error) => (t, error)

/-- `sai_qos_create_default_scheduler`, with the id kept by the caller. -/
def qosCreateDefaultScheduler (s : QosState) (defaults : SchedulerDefaults) (env : CreateEnv) :
    QosState × SaiStatus :=
  match qosSchedulerCreate s defaults [.schedulingAlgorithm .wrr, .schedulingWeight 1] env with
  | (t, .success) => ({ t with defaultSchedId := ⟨.scheduler, env.npuObjectId⟩ }, .success)
  | (t, error) => (t, error)

def qosRemoveDefaultScheduler (s : QosState) (npu : SaiStatus) : QosState × SaiStatus :=
  if s.defaultSchedId ≠ nullObjectId then
    match qosSchedulerRemove s s.defaultSchedId npu with
    | (t, .success) => ({ t with defaultSchedId := nullObjectId }, .success)
    | (t, error) => (t, error)
  else (s, .success)

end SaiCommon
