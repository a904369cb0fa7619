import SaiCommon.Lib.Attachment
import SaiCommon.Qos.Buffer
import SaiCommon.Qos.PortInitLinks
import SaiCommon.Qos.Wred

namespace SaiCommon

inductive QueueAttr
  | type (queueType : QueueType)
  | schedulerProfileId (oid : ObjectId)
  | wredProfileId (oid : ObjectId)
  | bufferProfileId (oid : ObjectId)
  | other
deriving DecidableEq

def qosQueueAttrSet (node : Queue) : List QueueAttr → Queue
  | [] => node
  | .type queueType :: rest => qosQueueAttrSet { node with queueType := queueType } rest
  | .schedulerProfileId oid :: rest => qosQueueAttrSet { node with schedulerId := oid } rest
  | .wredProfileId oid :: rest => qosQueueAttrSet { node with wredId := oid } rest
  | .bufferProfileId oid :: rest => qosQueueAttrSet { node with bufferProfileId := oid } rest
  | .other :: rest => qosQueueAttrSet node rest

def qosQueueIsDuplicateSet (node : Queue) : QueueAttr → Bool
  | .schedulerProfileId oid => node.schedulerId = oid
  | .wredProfileId oid => node.wredId = oid
  | .bufferProfileId oid => node.bufferProfileId = oid
  | _ => false

structure QueueSetEnv where
  vendor : SaiStatus
  npu : SaiStatus
  buffer : ProfileApplyEnv

/-- A call that changes only the QoS database. -/
def WredState.onQos (s : WredState) (run : QosState × SaiStatus) : WredState × SaiStatus :=
  ({ s with qos := run.1 }, run.2)

/-- The `switch` of `sai_qos_queue_attribute_set`. -/
def qosQueueAttributeApply (s : WredState) (queueId : ObjectId) (node : Queue) (attr : QueueAttr)
    (env : QueueSetEnv) : WredState × SaiStatus :=
  match attr with
  | .schedulerProfileId oid => s.onQos (qosQueueSchedulerSet s.qos queueId node oid env.npu)
  | .wredProfileId oid => qosWredSetOnQueue s queueId oid env.npu
  | .bufferProfileId oid => s.onQos (qosObjUpdateBufferProfile s.qos queueId oid env.buffer)
  | _ => (s, env.npu)

def qosQueueAttributeSet (s : WredState) (queueId : ObjectId) (attr : QueueAttr) (env : QueueSetEnv) :
    WredState × SaiStatus :=
  if queueId.objType ≠ .queue then (s, .invalidObjectType)
  else match s.qos.queueTree.get queueId with
    | none => (s, .invalidObjectId)
    | some node =>
      match env.vendor with
      | .success =>
        if qosQueueIsDuplicateSet node attr then (s, .success)
        else match qosQueueAttributeApply s queueId node attr env with
          | (t, .success) =>
            let queueTree := t.qos.queueTree.modify queueId fun q => qosQueueAttrSet q [attr]
            ({ t with qos := { t.qos with queueTree := queueTree } }, .success)
          | (t, error) => (t, error)
      | error => (s, error)

/-- The calls that make and unmake ports, queues and scheduler groups or set
their attributes. `hierarchyDeinit` is the removal of a port's default hierarchy
before the application's first group. -/
inductive PortListCall
  | portInit (portId : ObjectId) (env : PortInitEnv)
  | portDeinit (portId : ObjectId) (env : PortDeinitEnv)
  | hierarchyDeinit (portId : ObjectId) (env : PortDeinitEnv)
  | queueCreate (portId : ObjectId) (queueType : QueueType) (env : CreateEnv)
  | queueRemove (queueId : ObjectId) (npu : SaiStatus)
  | queueAttributeSet (queueId : ObjectId) (attr : QueueAttr) (env : QueueSetEnv)
  | groupCreate (attrs : List SchedGroupAttr) (env : SchedGroupCreateEnv)
  | groupRemove (sgId : ObjectId) (npu : SaiStatus)
  | groupAttributeSet (sgId : ObjectId) (attr : SchedGroupAttr) (vendor npu : SaiStatus)
  | hierarchy (call : HierarchyCall)

/-- `none` is a failed assertion. -/
def PortListCall.run (platform : QosPlatform) (s : WredState) : PortListCall → Option (WredState × SaiStatus)
  | .portInit portId env => (qosPortInit platform s.qos portId env).map s.onQos
  | .portDeinit portId env => (qosPortDeinit platform s.qos portId env).map s.onQos
  | .hierarchyDeinit portId env => (qosPortHierarchyDeinit platform s.qos portId env).map s.onQos
  | .queueCreate portId queueType env => some (s.onQos (qosQueueCreate s.qos portId queueType env))
  | .queueRemove queueId npu => some (s.onQos (qosQueueRemove s.qos queueId npu))
  | .queueAttributeSet queueId attr env => some (qosQueueAttributeSet s queueId attr env)
  | .groupCreate attrs env => some (s.onQos (qosSchedGroupCreate s.qos attrs env))
  | .groupRemove sgId npu => some (s.onQos (qosSchedGroupRemove s.qos sgId npu))
  | .groupAttributeSet sgId attr vendor npu => some (s.onQos (qosSchedGroupAttributeSet s.qos sgId attr vendor npu))
  | .hierarchy call => (call.run s.qos).map s.onQos

/-- The length of the array of lists that a port gets for its scheduler groups. -/
def QosPlatform.schedGroupHeads (platform : QosPlatform) : Nat :=
  if platform.isHierarchyQosSupported then platform.maxHierarchyLevels.toNat else 0

/-- Every stored queue and scheduler group is linked once, in the list of its
port and level, and nothing else is linked. -/
structure PortListsExact (platform : QosPlatform) (s : QosState) : Prop where
  queueOnce : ∀ q node, s.queueTree.get q = some node →
    ∃ port, s.portTree.get node.portId = some port ∧ port.queueList.count q = 1
  queueOnly : ∀ portId port q, s.portTree.get portId = some port → q ∈ port.queueList →
    ∃ node, s.queueTree.get q = some node ∧ node.portId = portId
  groupOnce : ∀ sg node, s.schedGroupTree.get sg = some node →
    ∃ port, s.portTree.get node.portId = some port ∧ (port.groupsAt node.hierarchyLevel).count sg = 1 ∧
      node.hierarchyLevel.toNat < platform.schedGroupHeads
  groupOnly : ∀ portId port level sg, s.portTree.get portId = some port → sg ∈ port.groupsAt level →
    ∃ node, s.schedGroupTree.get sg = some node ∧ node.portId = portId ∧ node.hierarchyLevel = level

/-- A port of a group's entry: the one of the stored group with that level. -/
def groupNamed (s : QosState) (entry : BitVec 32 × ObjectId) : Option ObjectId :=
  ((s.schedGroupTree.get entry.2).map fun g => (g.portId, g.hierarchyLevel)).bind fun place =>
    if place.2 = entry.1 then some place.1 else none

def queueNamed (s : QosState) (q : ObjectId) : Option ObjectId := (s.queueTree.get q).map Queue.portId

/-- The lists of the ports against the ports of the nodes. -/
structure PortListsKept (platform : QosPlatform) (s : QosState) : Prop where
  queues : Attached (Attached.ofTree s.portTree QosPort.queueList) (queueNamed s)
  groups : Attached (Attached.ofTree s.portTree QosPort.schedGroupList) (groupNamed s)
  levels : ∀ sg node, s.schedGroupTree.get sg = some node →
    node.hierarchyLevel.toNat < platform.schedGroupHeads

section Exact
variable {platform : QosPlatform} {s t u : QosState}

theorem groupNamed_some {entry : BitVec 32 × ObjectId} {portId : ObjectId}
    (named : groupNamed s entry = some portId) :
    ∃ node, s.schedGroupTree.get entry.2 = some node ∧ node.portId = portId ∧ node.hierarchyLevel = entry.1 := by
  obtain ⟨place, found, isPort⟩ := Option.bind_eq_some_iff.mp named
  obtain ⟨node, stored, rfl⟩ := Option.map_eq_some_iff.mp found
  split at isPort
  · rename_i level
    exact ⟨node, stored, Option.some.inj isPort, level⟩
  · cases isPort

theorem groupNamed_of_stored {sg : ObjectId} {node : SchedGroup} (stored : s.schedGroupTree.get sg = some node) :
    groupNamed s (node.hierarchyLevel, sg) = some node.portId := by
  unfold groupNamed
  rw [stored]
  exact if_pos rfl

theorem groupNamed_absent {sg : ObjectId} (absent : s.schedGroupTree.get sg = none) (level : BitVec 32) :
    groupNamed s (level, sg) = none := by
  unfold groupNamed
  rw [absent]
  rfl

theorem QosPort.count_groupsAt (port : QosPort) (level : BitVec 32) (sg : ObjectId) :
    (port.groupsAt level).count sg = port.schedGroupList.countP fun entry => entry = (level, sg) := by
  unfold QosPort.groupsAt
  induction port.schedGroupList with
  | nil => rfl
  | cons entry rest ih =>
    obtain ⟨other, id⟩ := entry
    rw [List.countP_cons, ← ih]
    by_cases same : other = level
    · rw [List.filter_cons, if_pos (decide_eq_true same), List.map_cons, List.count_cons, same]
      simp only [beq_iff_eq, Prod.mk.injEq, true_and, decide_eq_true_eq]
    · rw [List.filter_cons, if_neg fun yes => same (of_decide_eq_true yes), if_neg, Nat.add_zero]
      rw [decide_eq_true_eq]
      exact fun both => same (Prod.mk.inj both).1

theorem PortListsKept.exact (kept : PortListsKept platform s) : PortListsExact platform s where
  queueOnce q node stored := by
    have named : queueNamed s q = some node.portId := by rw [queueNamed, stored, Option.map_some]
    obtain ⟨l, found⟩ := Option.ne_none_iff_exists'.mp (kept.queues.held q _ named)
    have once := kept.queues.once _ l found q
    obtain ⟨port, atPort, rfl⟩ := Option.map_eq_some_iff.mp found
    rw [if_pos named] at once
    exact ⟨port, atPort, once⟩
  queueOnly portId port q atPort listed := by
    have found : Attached.ofTree s.portTree QosPort.queueList portId = some port.queueList := by
      rw [Attached.ofTree, atPort, Option.map_some]
    exact Option.map_eq_some_iff.mp (kept.queues.named_of_mem found listed)
  groupOnce sg node stored := by
    have named := groupNamed_of_stored stored
    obtain ⟨l, found⟩ := Option.ne_none_iff_exists'.mp (kept.groups.held _ _ named)
    have once := kept.groups.once _ l found (node.hierarchyLevel, sg)
    obtain ⟨port, atPort, rfl⟩ := Option.map_eq_some_iff.mp found
    rw [if_pos named] at once
    refine ⟨port, atPort, ?_, kept.levels sg node stored⟩
    rw [port.count_groupsAt]
    exact once
  groupOnly portId port level sg atPort listed := by
    have found : Attached.ofTree s.portTree QosPort.schedGroupList portId = some port.schedGroupList := by
      rw [Attached.ofTree, atPort, Option.map_some]
    have member : (level, sg) ∈ port.schedGroupList := by
      have positive := List.count_pos_iff.mpr listed
      rw [port.count_groupsAt, List.countP_pos_iff] at positive
      obtain ⟨entry, member, isEntry⟩ := positive
      rw [← of_decide_eq_true isEntry]
      exact member
    exact groupNamed_some (kept.groups.named_of_mem found member)

/-- The lists and what decides in which one a node belongs are as before. -/
structure SameLists (s t : QosState) : Prop where
  queueLists : ∀ p, Attached.ofTree t.portTree QosPort.queueList p = Attached.ofTree s.portTree QosPort.queueList p
  groupLists : ∀ p,
    Attached.ofTree t.portTree QosPort.schedGroupList p = Attached.ofTree s.portTree QosPort.schedGroupList p
  queues : ∀ q, queueNamed t q = queueNamed s q
  groups : ∀ sg, (t.schedGroupTree.get sg).map (fun g => (g.portId, g.hierarchyLevel)) =
    (s.schedGroupTree.get sg).map fun g => (g.portId, g.hierarchyLevel)

theorem SameLists.refl (s : QosState) : SameLists s s := ⟨fun _ => rfl, fun _ => rfl, fun _ => rfl, fun _ => rfl⟩

theorem SameLists.trans (first : SameLists s t) (second : SameLists t u) : SameLists s u where
  queueLists p := (second.queueLists p).trans (first.queueLists p)
  groupLists p := (second.groupLists p).trans (first.groupLists p)
  queues q := (second.queues q).trans (first.queues q)
  groups sg := (second.groups sg).trans (first.groups sg)

theorem SameLists.of_trees (ports : t.portTree = s.portTree) (queues : t.queueTree = s.queueTree)
    (groups : t.schedGroupTree = s.schedGroupTree) : SameLists s t where
  queueLists p := by rw [ports]
  groupLists p := by rw [ports]
  queues q := by rw [queueNamed, queues, queueNamed]
  groups sg := by rw [groups]

theorem SameLists.setQueue {f : Queue → Queue} {q : ObjectId} (keep : ∀ q, (f q).portId = q.portId) :
    SameLists s { s with queueTree := s.queueTree.modify q f } where
  queueLists _ := rfl
  groupLists _ := rfl
  queues other := KeyTree.map_get_modify keep other
  groups _ := rfl

theorem SameLists.setGroup {f : SchedGroup → SchedGroup} {sg : ObjectId}
    (keep : ∀ g, ((f g).portId, (f g).hierarchyLevel) = (g.portId, g.hierarchyLevel)) :
    SameLists s { s with schedGroupTree := s.schedGroupTree.modify sg f } where
  queueLists _ := rfl
  groupLists _ := rfl
  queues _ := rfl
  groups other := by
    refine KeyTree.map_get_modify (g := fun g : SchedGroup => (g.portId, g.hierarchyLevel)) (fun g => ?_) other
    exact keep g

theorem SameLists.groupNamed (same : SameLists s t) (entry : BitVec 32 × ObjectId) :
    groupNamed t entry = groupNamed s entry := by
  unfold SaiCommon.groupNamed
  rw [same.groups]

theorem PortListsKept.same (kept : PortListsKept platform s) (same : SameLists s t) : PortListsKept platform t where
  queues := kept.queues.congr same.queueLists same.queues
  groups := kept.groups.congr same.groupLists same.groupNamed
  levels sg node stored := by
    have place := same.groups sg
    rw [stored, Option.map_some] at place
    obtain ⟨old, atOld, alike⟩ := Option.map_eq_some_iff.mp place.symm
    have level := kept.levels sg old atOld
    rw [(Prod.mk.inj alike).2] at level
    exact level

end Exact

section Frames
variable {s t : QosState}

theorem qosUserSchedulerSet_lists {user : SchedulerUser} {o prev new : ObjectId} {npu : SaiStatus} :
    SameLists s (qosUserSchedulerSet (qosSchedulerListUpdate user) s o prev new npu).1 := by
  have frame := qosUserSchedulerSet_frame (Prod.mk.eta (p := qosUserSchedulerSet (qosSchedulerListUpdate user)
    s o prev new npu)).symm
  exact .of_trees (by rw [frame]) (by rw [frame]) (by rw [frame])

theorem qosSchedGroupAndChildNodeUpdate_lists (s : QosState) (sgId childId : ObjectId) (isAdd : Bool) :
    SameLists s (qosSchedGroupAndChildNodeUpdate s sgId childId isAdd) := by
  have child : ∀ parentId, SameLists s (qosChildParentIdSet s childId parentId) := by
    intro parentId
    unfold qosChildParentIdSet
    split
    · exact .setQueue fun _ => rfl
    · exact .setGroup fun _ => rfl
    · exact .refl s
  exact (child (if isAdd then sgId else nullObjectId)).trans (.setGroup fun _ => rfl)

theorem qosSchedGroupAndChildNodesLoop_lists (sgId : ObjectId) (isAdd : Bool) (children : List ObjectId) :
    ∀ s, SameLists s (qosSchedGroupAndChildNodesLoop sgId isAdd children s).1 := by
  induction children with
  | nil => exact .refl
  | cons childId rest ih =>
    intro s
    have one := qosSchedGroupAndChildNodeUpdate_lists s sgId childId isAdd
    unfold qosSchedGroupAndChildNodesLoop
    split
    · split
      · exact .refl s
      · exact one.trans (ih _)
    · split
      · exact .refl s
      · exact one.trans (ih _)
    · exact .refl s

theorem HierarchyCall.run_lists {call : HierarchyCall} {status : SaiStatus}
    (run : call.run s = some (t, status)) : SameLists s t := by
  rcases HierarchyCall.run_cases run with ⟨rfl, _⟩ | ⟨sgId, children, isAdd, _, _, _, loop⟩
  · exact .refl t
  have kept := qosSchedGroupAndChildNodesLoop_lists sgId isAdd children s
  rw [loop] at kept
  exact kept

theorem qosSchedulerIdSet_lists (s : QosState) (user : SchedulerUser) (o new : ObjectId) (notPort : user ≠ .port) :
    SameLists s (qosSchedulerIdSet s user o new) := by
  cases user with
  | port => exact absurd rfl notPort
  | queue => exact .setQueue fun _ => rfl
  | schedGroup => exact .setGroup fun _ => rfl

theorem setDefaultSchedulerLoop_lists (npu : ObjectId → SaiStatus) (children : List ObjectId) :
    ∀ s, SameLists s (setDefaultSchedulerLoop npu children s).1 := by
  induction children with
  | nil => exact .refl
  | cons childId rest ih =>
    intro s
    rcases setDefaultSchedulerLoop_cons npu childId rest s with
      ⟨_, ended⟩ | ⟨user, prev, v, result, notPort, _, _, run, ⟨_, ended⟩ | ⟨_, goesOn⟩⟩
    · rw [ended]
      exact .refl s
    all_goals have set := @qosUserSchedulerSet_lists s user childId prev s.defaultSchedId (npu childId)
    all_goals rw [run] at set
    · rw [ended]
      exact set
    · rw [goesOn]
      exact (set.trans (qosSchedulerIdSet_lists v user childId _ notPort)).trans (ih _)

theorem setDefaultScheduler_lists (s : QosState) (children : List ObjectId) (npu : ObjectId → SaiStatus) :
    SameLists s (setDefaultScheduler s children npu).1 := by
  unfold setDefaultScheduler
  split
  · exact .refl s
  · exact setDefaultSchedulerLoop_lists npu children s

theorem qosBufferPoolSizeRecalc_lists (s : QosState) (poolId : ObjectId) (size : BitVec 32) (isAdd : Bool)
    (npu : SaiStatus) : SameLists s (qosBufferPoolSizeRecalc s poolId size isAdd npu).1 := by
  unfold qosBufferPoolSizeRecalc
  split
  · exact .refl s
  split
  · exact .refl s
  · dsimp only
    cases isAdd <;> split <;> exact .of_trees rfl rfl rfl

theorem qosObjProfileRecalc_lists (s : QosState) (oldPoolId newPoolId : ObjectId)
    (oldSize newSize tmpSize : BitVec 32) (isAdd : Bool) (env : ProfileApplyEnv) :
    SameLists s (qosObjProfileRecalc s oldPoolId newPoolId oldSize newSize tmpSize isAdd env) := by
  unfold qosObjProfileRecalc
  split
  · exact qosBufferPoolSizeRecalc_lists ..
  have old : SameLists s (if oldPoolId ≠ nullObjectId
      then (qosBufferPoolSizeRecalc s oldPoolId oldSize false env.recalc).1 else s) := by
    split
    · exact qosBufferPoolSizeRecalc_lists ..
    · exact .refl s
  dsimp only
  split
  · exact old.trans (qosBufferPoolSizeRecalc_lists ..)
  · exact old

theorem qosSetBufferProfileId_lists (s : QosState) (objectId profileId : ObjectId) :
    SameLists s (qosSetBufferProfileId s objectId profileId) := by
  unfold qosSetBufferProfileId
  split
  · exact ⟨Attached.ofTree_modify_keep fun _ => rfl, Attached.ofTree_modify_keep fun _ => rfl,
      fun _ => rfl, fun _ => rfl⟩
  · exact .setQueue fun _ => rfl
  · exact .of_trees rfl rfl rfl
  · exact .refl s

theorem qosObjUpdateBufferProfile_lists (s : QosState) (objectId profileId : ObjectId) (env : ProfileApplyEnv) :
    SameLists s (qosObjUpdateBufferProfile s objectId profileId env).1 := by
  have node : SameLists s (qosObjUpdateBufferProfileNode s objectId profileId).1 := by
    unfold qosObjUpdateBufferProfileNode
    split
    · exact .refl s
    split
    · exact .refl s
    · exact (qosSetBufferProfileId_lists s objectId profileId).trans (.of_trees rfl rfl rfl)
  unfold qosObjUpdateBufferProfile
  split
  · exact .refl s
  split
  · exact .refl s
  split
  · split
    · rename_i t done
      rw [done] at node
      exact node.trans (qosObjProfileRecalc_lists ..)
    · rename_i t error _ failed
      rw [failed] at node
      exact node
  · exact .refl s

theorem qosWredSetOnQueue_lists (s : WredState) (queueId oid : ObjectId) (npu : SaiStatus) :
    SameLists s.qos (qosWredSetOnQueue s queueId oid npu).1.qos := by
  unfold qosWredSetOnQueue
  split
  · exact .refl s.qos
  rename_i queue stored
  have written : ∀ wredId, SameLists s.qos
      { s.qos with queueTree := s.qos.queueTree.put queueId { queue with wredId := wredId } } := by
    intro wredId
    rw [← KeyTree.modify_of_get (f := fun q => { q with wredId := wredId }) stored]
    exact .setQueue fun _ => rfl
  split
  · exact .refl s.qos
  split
  · exact .refl s.qos
  dsimp only
  split
  · exact .refl s.qos
  split
  · unfold wredQueueNodeUpdate
    dsimp only
    split
    · exact written _
    · exact written _
  · exact .refl s.qos

theorem qosQueueAttributeSet_lists (s : WredState) (queueId : ObjectId) (attr : QueueAttr) (env : QueueSetEnv) :
    SameLists s.qos (qosQueueAttributeSet s queueId attr env).1.qos := by
  unfold qosQueueAttributeSet
  split
  · exact .refl s.qos
  split
  · exact .refl s.qos
  rename_i node _
  split
  · split
    · exact .refl s.qos
    have applied : SameLists s.qos (qosQueueAttributeApply s queueId node attr env).1.qos := by
      unfold qosQueueAttributeApply
      split
      · exact qosUserSchedulerSet_lists
      · exact qosWredSetOnQueue_lists s queueId _ env.npu
      · exact qosObjUpdateBufferProfile_lists s.qos queueId _ env.buffer
      · exact .refl s.qos
    split
    · rename_i t done
      rw [done] at applied
      refine applied.trans (.setQueue fun q => ?_)
      cases attr <;> rfl
    · rename_i t error _ failed
      rw [failed] at applied
      exact applied
  · exact .refl s.qos

end Frames

end SaiCommon
