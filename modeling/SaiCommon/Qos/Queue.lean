import SaiCommon.Qos.Scheduler

namespace SaiCommon

def qosQueueNodeInit (portId : ObjectId) (queueType : QueueType) : Queue where
  portId := portId
  queueType := queueType
  wredId := nullObjectId
  bufferProfileId := nullObjectId
  parentSchedGroupId := nullObjectId
  schedulerId := nullObjectId

def qosQueueIsInUse (node : Queue) : Bool :=
  node.wredId ≠ nullObjectId || node.parentSchedGroupId ≠ nullObjectId ||
    node.schedulerId ≠ nullObjectId

def qosPortQueueListUpdate (s : QosState) (queueId : ObjectId) (node : Queue) (isAdd : Bool) :
    QosState × SaiStatus :=
  match s.portTree.get node.portId with
  | none => (s, .invalidObjectId)
  | some port =>
    let queueList := if isAdd then port.queueList ++ [queueId] else port.queueList.erase queueId
    ({ s with portTree := s.portTree.put node.portId { port with queueList := queueList } }, .success)

/-- A queue that cannot go into the tree leaves its port's list again. -/
def qosQueueCreate (s : QosState) (portId : ObjectId) (queueType : QueueType) (env : CreateEnv) :
    QosState × SaiStatus :=
  if env.allocOk = false then (s, .noMemory)
  else
    let node := qosQueueNodeInit portId queueType
    match env.npu with
    | .success =>
      let queueId : ObjectId := ⟨.queue, env.npuObjectId⟩
      match qosPortQueueListUpdate s queueId node true with
      | (t, .success) =>
        match env.treeOk, t.queueTree.get queueId with
        | true, none => ({ t with queueTree := t.queueTree.put queueId node }, .success)
        | _, _ => (s, .failure)
      | (_, error) => (s, error)
    | error => (s, error)

def qosQueueRemove (s : QosState) (queueId : ObjectId) (npu : SaiStatus) : QosState × SaiStatus :=
  if queueId.objType ≠ .queue then (s, .invalidObjectType)
  else match s.queueTree.get queueId with
    | none => (s, .invalidObjectId)
    | some node =>
      if qosQueueIsInUse node then (s, .objectInUse)
      else match npu with
        | .success =>
          let t := (qosPortQueueListUpdate s queueId node false).1
          ({ t with queueTree := t.queueTree.del queueId }, .success)
        | error => (s, error)

theorem qosQueueCreate_cases (s : QosState) (portId : ObjectId) (queueType : QueueType) (env : CreateEnv) :
    (∃ error, error ≠ .success ∧ qosQueueCreate s portId queueType env = (s, error)) ∨
    ∃ t, qosPortQueueListUpdate s ⟨.queue, env.npuObjectId⟩ (qosQueueNodeInit portId queueType) true =
      (t, .success) ∧
      t.queueTree.get ⟨.queue, env.npuObjectId⟩ = none ∧ qosQueueCreate s portId queueType env = ({ t with
        queueTree :=
          t.queueTree.put ⟨.queue, env.npuObjectId⟩ (qosQueueNodeInit portId queueType) }, .success) := by
  unfold qosQueueCreate
  split
  · exact .inl ⟨_, SaiStatus.noConfusion, rfl⟩
  dsimp only
  split
  · split
    · rename_i t updated
      split
      · exact .inr ⟨t, updated, ‹_›, rfl⟩
      · exact .inl ⟨_, SaiStatus.noConfusion, rfl⟩
    · exact .inl ⟨_, ‹_›, rfl⟩
  · exact .inl ⟨_, ‹_›, rfl⟩

/-- A removal is refused, or it takes a queue that is not in use out of its port's list. -/
theorem qosQueueRemove_cases (s : QosState) (queueId : ObjectId) (npu : SaiStatus) :
    (∃ error, error ≠ .success ∧ qosQueueRemove s queueId npu = (s, error)) ∨
    ∃ node, queueId.objType = .queue ∧ s.queueTree.get queueId = some node ∧ qosQueueIsInUse node = false ∧
      npu = .success ∧ qosQueueRemove s queueId npu = ({ (qosPortQueueListUpdate s queueId node false).1 with
        queueTree := (qosPortQueueListUpdate s queueId node false).1.queueTree.del queueId }, .success) := by
  unfold qosQueueRemove
  split
  · exact .inl ⟨_, SaiStatus.noConfusion, rfl⟩
  rename_i isQueue
  split
  · exact .inl ⟨_, SaiStatus.noConfusion, rfl⟩
  rename_i node stored
  split
  · exact .inl ⟨_, SaiStatus.noConfusion, rfl⟩
  rename_i idle
  split
  · exact .inr ⟨node, not_not.mp isQueue, stored, Bool.eq_false_iff.mpr idle, rfl, rfl⟩
  · exact .inl ⟨_, ‹_›, rfl⟩

def qosQueueSchedulerProfileSet (s : QosState) (queueId schedId : ObjectId) (vendor npu : SaiStatus) :
    QosState × SaiStatus :=
  if queueId.objType ≠ .queue then (s, .invalidObjectType)
  else match s.queueTree.get queueId with
    | none => (s, .invalidObjectId)
    | some node =>
      match vendor with
      | .success =>
        if node.schedulerId = schedId then (s, .success)
        else match qosQueueSchedulerSet s queueId node schedId npu with
          | (t, .success) =>
            ({ t with queueTree := t.queueTree.modify queueId fun q =>
                { q with schedulerId := schedId } }, .success)
          | (t, error) => (t, error)
      | error => (s, error)

end SaiCommon
