import Mathlib.Data.List.Nodup
import SaiCommon.Qos.PortInit
import SaiCommon.Qos.SchedulerAttachment

namespace SaiCommon

open KeyTree

variable {entry : BitVec 32 × ObjectId} {rest queues : List ObjectId} {queueId portId : ObjectId} {env : PortInitEnv}
  {groups : List (BitVec 32 × ObjectId)} {s t : QosState}

structure PortAbsent (s : QosState) (portId : ObjectId) : Prop where
  kind : portId.objType = .port
  port : s.portTree.get portId = none
  queue : ∀ q node, s.queueTree.get q = some node → node.portId ≠ portId
  group : ∀ sg node, s.schedGroupTree.get sg = some node → node.portId ≠ portId

/-- Nothing of the port is left, and no scheduler names what it did not name
before. -/
structure PortInitClean (s t : QosState) (portId : ObjectId) : Prop where
  port : t.portTree.get portId = none
  queue : ∀ q node, t.queueTree.get q = some node → node.portId ≠ portId
  group : ∀ sg node, t.schedGroupTree.get sg = some node → node.portId ≠ portId
  links : ∀ schedId sched user id, t.schedulerTree.get schedId = some sched → id ∈ sched.userList user →
    ∃ before, s.schedulerTree.get schedId = some before ∧ id ∈ before.userList user

/-- The queues, the scheduler groups, the port nodes and the schedulers with
their lists are those of before. -/
structure PortRestored (s t : QosState) : Prop where
  ports : t.portTree = s.portTree
  queues : t.queueTree = s.queueTree
  groups : t.schedGroupTree = s.schedGroupTree
  schedulers : t.schedulerTree = s.schedulerTree

def qosHqosGroupNode (portId : ObjectId) (level maxChilds : BitVec 32) : SchedGroup :=
  { qosSchedGroupNodeInit with
    portId := portId
    hierarchyLevel := level
    maxChilds := maxChilds }

/-- `t` is `s` with the port's node, these queues and these groups, none of them
linked yet. -/
structure PortBuilt (s t : QosState) (portId : ObjectId) (queues : List ObjectId)
    (groups : List (BitVec 32 × ObjectId)) : Prop where
  ports : t.portTree =
    s.portTree.put portId { qosPortNodeInit with queueList := queues, schedGroupList := groups }
  otherQueues : ∀ q, q ∉ queues → t.queueTree.get q = s.queueTree.get q
  queue : ∀ q ∈ queues, q.objType = .queue ∧ s.queueTree.get q = none ∧
    ∃ queueType, t.queueTree.get q = some (qosQueueNodeInit portId queueType)
  queueNodup : queues.Nodup
  otherGroups : ∀ sg, sg ∉ groups.map Prod.snd → t.schedGroupTree.get sg = s.schedGroupTree.get sg
  group : ∀ entry ∈ groups, entry.2.objType = .schedulerGroup ∧ s.schedGroupTree.get entry.2 = none ∧
    ∃ maxChilds, t.schedGroupTree.get entry.2 = some (qosHqosGroupNode portId entry.1 maxChilds)
  groupNodup : (groups.map Prod.snd).Nodup
  schedulers : t.schedulerTree = s.schedulerTree
  default : t.defaultSchedId = s.defaultSchedId

structure QueueCreateAccepted (s : QosState) (done : List ObjectId) (call : QueueType × CreateEnv) : Prop where
  alloc : call.2.allocOk = true
  npu : call.2.npu = .success
  inserted : call.2.treeOk = true
  unused : s.queueTree.get ⟨.queue, call.2.npuObjectId⟩ = none
  fresh : ⟨.queue, call.2.npuObjectId⟩ ∉ done

structure GroupCreateAccepted (s : QosState) (done : List (BitVec 32 × ObjectId))
    (call : (BitVec 32 × HqosGroup) × SchedGroupCreateEnv) : Prop where
  vendor : call.2.vendor = .success
  alloc : call.2.allocOk = true
  bitmap : call.2.bitmapOk = true
  npu : call.2.npu = .success
  inserted : call.2.treeOk = true
  unused : s.schedGroupTree.get ⟨.schedulerGroup, call.2.npuObjectId⟩ = none
  fresh : ⟨.schedulerGroup, call.2.npuObjectId⟩ ∉ done.map Prod.snd

section Built

theorem PortBuilt.port (built : PortBuilt s t portId queues groups) :
    t.portTree.get portId = some { qosPortNodeInit with queueList := queues, schedGroupList := groups } := by
  rw [built.ports, get_put_self]

theorem PortBuilt.first (s : QosState) (portId : ObjectId) :
    PortBuilt s { s with portTree := s.portTree.put portId qosPortNodeInit } portId [] [] where
  ports := rfl
  otherQueues := fun _ _ => rfl
  queue := fun _ member => absurd member List.not_mem_nil
  queueNodup := List.nodup_nil
  otherGroups := fun _ _ => rfl
  group := fun _ member => absurd member List.not_mem_nil
  groupNodup := List.nodup_nil
  schedulers := rfl
  default := rfl

section
variable (built : PortBuilt s t portId queues groups)
include built

theorem PortBuilt.queueStored_iff (q : ObjectId) :
    t.queueTree.get q = none ↔ s.queueTree.get q = none ∧ q ∉ queues := by
  by_cases member : q ∈ queues
  · obtain ⟨_, _, _, stored⟩ := built.queue q member
    rw [stored]
    exact iff_of_false (Option.some_ne_none _) fun both => both.2 member
  · rw [built.otherQueues q member, and_iff_left member]

theorem PortBuilt.groupStored_iff (sg : ObjectId) :
    t.schedGroupTree.get sg = none ↔ s.schedGroupTree.get sg = none ∧ sg ∉ groups.map Prod.snd := by
  by_cases member : sg ∈ groups.map Prod.snd
  · obtain ⟨entry, listed, rfl⟩ := List.mem_map.mp member
    obtain ⟨_, _, _, stored⟩ := built.group entry listed
    rw [stored]
    exact iff_of_false (Option.some_ne_none _) fun both => both.2 member
  · rw [built.otherGroups sg member, and_iff_left member]

theorem PortBuilt.addQueue (queueType : QueueType)
    (kind : queueId.objType = .queue) (unused : s.queueTree.get queueId = none) (fresh : queueId ∉ queues) :
    PortBuilt s
      { t with
        portTree := t.portTree.put portId
          { qosPortNodeInit with queueList := queues ++ [queueId], schedGroupList := groups }
        queueTree := t.queueTree.put queueId (qosQueueNodeInit portId queueType) }
      portId (queues ++ [queueId]) groups where
  ports := by rw [built.ports, put_put]
  otherQueues := by
    intro q away
    rw [List.mem_append, not_or, List.mem_singleton] at away
    rw [get_put_ne away.2, built.otherQueues q away.1]
  queue := by
    intro q member
    rcases List.mem_append.mp member with old | new
    · have other : q ≠ queueId := fun same => fresh (same ▸ old)
      obtain ⟨kind, unused, queueType, stored⟩ := built.queue q old
      exact ⟨kind, unused, queueType, by rw [get_put_ne other, stored]⟩
    · rw [List.mem_singleton.mp new]
      exact ⟨kind, unused, queueType, get_put_self ..⟩
  queueNodup := by
    rw [List.nodup_append]
    refine ⟨built.queueNodup, List.nodup_singleton _, fun q old q' new same => fresh ?_⟩
    rw [← List.mem_singleton.mp new, ← same]
    exact old
  otherGroups := built.otherGroups
  group := built.group
  groupNodup := built.groupNodup
  schedulers := built.schedulers
  default := built.default

theorem PortBuilt.addGroup {sgId : ObjectId} (level maxChilds : BitVec 32)
    (kind : sgId.objType = .schedulerGroup) (unused : s.schedGroupTree.get sgId = none)
    (fresh : sgId ∉ groups.map Prod.snd) :
    PortBuilt s
      { t with
        portTree := t.portTree.put portId
          { qosPortNodeInit with queueList := queues, schedGroupList := groups ++ [(level, sgId)] }
        schedGroupTree := t.schedGroupTree.put sgId (qosHqosGroupNode portId level maxChilds) }
      portId queues (groups ++ [(level, sgId)]) where
  ports := by rw [built.ports, put_put]
  otherQueues := built.otherQueues
  queue := built.queue
  queueNodup := built.queueNodup
  otherGroups := by
    intro sg away
    rw [List.map_append, List.mem_append, not_or, List.map_singleton, List.mem_singleton] at away
    rw [get_put_ne away.2, built.otherGroups sg away.1]
  group := by
    intro entry member
    rcases List.mem_append.mp member with old | new
    · have other : entry.2 ≠ sgId := fun same => fresh (same ▸ List.mem_map_of_mem old)
      obtain ⟨kind, unused, maxChilds, stored⟩ := built.group entry old
      exact ⟨kind, unused, maxChilds, by rw [get_put_ne other, stored]⟩
    · rw [List.mem_singleton.mp new]
      exact ⟨kind, unused, maxChilds, get_put_self ..⟩
  groupNodup := by
    rw [List.map_append, List.nodup_append]
    refine ⟨built.groupNodup, List.nodup_singleton _, fun sg old sg' new same => fresh ?_⟩
    have isNew : sg' = sgId := List.mem_singleton.mp new
    rw [← isNew, ← same]
    exact old
  schedulers := built.schedulers
  default := built.default

end

theorem PortBuilt.dropQueue (built : PortBuilt s t portId (queueId :: rest) groups) :
    PortBuilt s
      { t with
        portTree := t.portTree.put portId { qosPortNodeInit with queueList := rest, schedGroupList := groups }
        queueTree := t.queueTree.del queueId }
      portId rest groups where
  ports := by rw [built.ports, put_put]
  otherQueues := by
    intro q away
    by_cases same : q = queueId
    · rw [same, get_del_self, (built.queue queueId List.mem_cons_self).2.1]
    rw [get_del_ne same]
    refine built.otherQueues q fun member => ?_
    rcases List.mem_cons.mp member with head | tail
    · exact same head
    · exact away tail
  queue := by
    intro q member
    have other : q ≠ queueId := fun same => (List.nodup_cons.mp built.queueNodup).1 (same ▸ member)
    obtain ⟨kind, unused, queueType, stored⟩ := built.queue q (List.mem_cons_of_mem _ member)
    exact ⟨kind, unused, queueType, by rw [get_del_ne other, stored]⟩
  queueNodup := (List.nodup_cons.mp built.queueNodup).2
  otherGroups := built.otherGroups
  group := built.group
  groupNodup := built.groupNodup
  schedulers := built.schedulers
  default := built.default

theorem PortBuilt.dropGroup (built : PortBuilt s t portId queues groups) (member : entry ∈ groups) :
    PortBuilt s
      { t with
        portTree := t.portTree.put portId
          { qosPortNodeInit with queueList := queues, schedGroupList := groups.erase entry }
        schedGroupTree := t.schedGroupTree.del entry.2 }
      portId queues (groups.erase entry) := by
  have order : (groups.map Prod.snd).Perm (entry.2 :: (groups.erase entry).map Prod.snd) :=
    (List.perm_cons_erase member).map Prod.snd
  have split := List.nodup_cons.mp (order.nodup_iff.mp built.groupNodup)
  refine ⟨?_, built.otherQueues, built.queue, built.queueNodup, fun sg away => ?_, fun e listed => ?_, split.2,
    built.schedulers, built.default⟩
  · rw [built.ports, put_put]
  · by_cases same : sg = entry.2
    · rw [same, get_del_self, (built.group entry member).2.1]
    rw [get_del_ne same]
    refine built.otherGroups sg fun listed => ?_
    rcases List.mem_cons.mp (order.mem_iff.mp listed) with head | tail
    · exact same head
    · exact away tail
  · have other : e.2 ≠ entry.2 := fun same => split.1 (same ▸ List.mem_map_of_mem listed)
    obtain ⟨kind, unused, maxChilds, stored⟩ := built.group e (List.mem_of_mem_erase listed)
    exact ⟨kind, unused, maxChilds, by rw [get_del_ne other, stored]⟩

theorem PortBuilt.done (built : PortBuilt s t portId [] []) (fresh : s.portTree.get portId = none) :
    PortRestored s { t with portTree := t.portTree.del portId } where
  ports := by
    rw [built.ports, del_put]
    refine KeyTree.ext fun k => ?_
    rw [get_del]
    split
    · rename_i same
      rw [same, fresh]
    · rfl
  queues := KeyTree.ext fun q => built.otherQueues q List.not_mem_nil
  groups := KeyTree.ext fun sg => built.otherGroups sg List.not_mem_nil
  schedulers := built.schedulers

section Steps
variable (built : PortBuilt s t portId queues groups)
include built

theorem PortBuilt.queueCreate (call : QueueType × CreateEnv) :
    QueueCreateAccepted s queues call ∧ (qosQueueCreate t portId call.1 call.2).2 = .success ∧
      PortBuilt s (qosQueueCreate t portId call.1 call.2).1 portId
      (queues ++ [⟨.queue, call.2.npuObjectId⟩]) groups ∨
    ¬ QueueCreateAccepted s queues call ∧ (qosQueueCreate t portId call.1 call.2).2 ≠ .success ∧
      (qosQueueCreate t portId call.1 call.2).1 = t := by
  unfold qosQueueCreate
  split
  · rename_i noAlloc
    refine .inr ⟨fun accepted => ?_, SaiStatus.noConfusion, rfl⟩
    rw [accepted.alloc] at noAlloc
    cases noAlloc
  rename_i alloc
  dsimp only
  split
  · rename_i npu
    have updated : qosPortQueueListUpdate t ⟨.queue, call.2.npuObjectId⟩ (qosQueueNodeInit portId call.1) true =
        ({ t with
          portTree := t.portTree.put portId { qosPortNodeInit with
            queueList := queues ++ [⟨.queue, call.2.npuObjectId⟩]
            schedGroupList := groups } }, .success) := by
      unfold qosPortQueueListUpdate
      simp only [qosQueueNodeInit, built.port, if_true]
    rw [updated]
    dsimp only
    split
    · rename_i inserted absent
      obtain ⟨unused, fresh⟩ := (built.queueStored_iff _).mp absent
      refine .inl ⟨⟨(Bool.not_eq_false _).mp alloc, npu, inserted, unused, fresh⟩, rfl, ?_⟩
      exact built.addQueue call.1 rfl unused fresh
    · rename_i refused
      refine .inr ⟨fun accepted => ?_, SaiStatus.noConfusion, rfl⟩
      exact refused accepted.inserted ((built.queueStored_iff _).mpr ⟨accepted.unused, accepted.fresh⟩)
  · rename_i error
    exact .inr ⟨fun accepted => error accepted.npu, error, rfl⟩

theorem PortBuilt.groupCreate (call : (BitVec 32 × HqosGroup) × SchedGroupCreateEnv) {r : QosState × SaiStatus}
    (run : qosSchedGroupCreate t (qosHqosGroupAttrs portId call.1.1 call.1.2) { call.2 with ready := .success } = r) :
    GroupCreateAccepted s groups call ∧ r.2 = .success ∧
      PortBuilt s r.1 portId queues (groups ++ [(call.1.1, ⟨.schedulerGroup, call.2.npuObjectId⟩)]) ∨
    ¬ GroupCreateAccepted s groups call ∧ r.2 ≠ .success ∧ r.1 = t := by
  rw [← run]
  unfold qosSchedGroupCreate
  split
  · rename_i vendor
    have port : qosSchedGroupPortAttributeGet (qosHqosGroupAttrs portId call.1.1 call.1.2) = some portId := rfl
    have node : qosSchedGroupAttrSet qosSchedGroupNodeInit (qosHqosGroupAttrs portId call.1.1 call.1.2) =
        qosHqosGroupNode portId call.1.1 (BitVec.ofNat 32 call.1.2.childInfo.length) := rfl
    rw [port, node]
    dsimp only
    split
    · rename_i noAlloc
      refine .inr ⟨fun accepted => ?_, SaiStatus.noConfusion, rfl⟩
      rw [accepted.alloc] at noAlloc
      cases noAlloc
    rename_i alloc
    split
    · rename_i noBitmap
      refine .inr ⟨fun accepted => ?_, SaiStatus.noConfusion, rfl⟩
      rw [accepted.bitmap] at noBitmap
      cases noBitmap
    rename_i bitmap
    split
    · rename_i npu
      have updated : qosPortSchedGroupListUpdate t ⟨.schedulerGroup, call.2.npuObjectId⟩
          (qosHqosGroupNode portId call.1.1 (BitVec.ofNat 32 call.1.2.childInfo.length)) true =
          ({ t with
            portTree := t.portTree.put portId
              { qosPortNodeInit with
                queueList := queues
                schedGroupList := groups ++ [(call.1.1, ⟨.schedulerGroup, call.2.npuObjectId⟩)] } },
            .success) := by
        unfold qosPortSchedGroupListUpdate
        simp only [qosHqosGroupNode, built.port, if_true]
      rw [updated]
      dsimp only
      split
      · rename_i inserted absent
        obtain ⟨unused, fresh⟩ := (built.groupStored_iff _).mp absent
        refine .inl ⟨⟨vendor, (Bool.not_eq_false _).mp alloc, (Bool.not_eq_false _).mp bitmap, npu, inserted,
          unused, fresh⟩, rfl, ?_⟩
        exact built.addGroup call.1.1 _ rfl unused fresh
      · rename_i refused
        refine .inr ⟨fun accepted => ?_, SaiStatus.noConfusion, rfl⟩
        exact refused accepted.inserted ((built.groupStored_iff _).mpr ⟨accepted.unused, accepted.fresh⟩)
    · rename_i error
      exact .inr ⟨fun accepted => error accepted.npu, error, rfl⟩
  · rename_i error
    refine .inr ⟨fun accepted => error ?_, error, rfl⟩
    exact accepted.vendor

theorem PortBuilt.groupRemove (member : entry ∈ groups) (npu : SaiStatus) :
    npu = .success ∧ (qosSchedGroupRemove t entry.2 npu).2 = .success ∧
      PortBuilt s (qosSchedGroupRemove t entry.2 npu).1 portId queues (groups.erase entry) ∨
    npu ≠ .success ∧ (qosSchedGroupRemove t entry.2 npu).2 ≠ .success ∧
    (qosSchedGroupRemove t entry.2 npu).1 = t := by
  obtain ⟨kind, _, maxChilds, stored⟩ := built.group entry member
  have unused : ¬ qosSchedGroupIsInUse t (qosHqosGroupNode portId entry.1 maxChilds) = true := fun inUse => by
    cases inUse
  unfold qosSchedGroupRemove
  rw [if_neg (not_not.mpr kind), stored]
  dsimp only
  rw [if_neg unused]
  split
  · have updated : qosPortSchedGroupListUpdate t entry.2 (qosHqosGroupNode portId entry.1 maxChilds) false =
        ({ t with
          portTree := t.portTree.put portId
            { qosPortNodeInit with queueList := queues, schedGroupList := groups.erase entry } }, .success) := by
      unfold qosPortSchedGroupListUpdate
      simp only [qosHqosGroupNode, built.port, Bool.false_eq_true, if_false]
    rw [updated]
    exact .inl ⟨rfl, rfl, built.dropGroup member⟩
  · rename_i error
    exact .inr ⟨error, error, rfl⟩

end Steps

theorem PortBuilt.queueRemove (built : PortBuilt s t portId (queueId :: rest) groups) (npu : SaiStatus) :
    npu = .success ∧ (qosQueueRemove t queueId npu).2 = .success ∧
      PortBuilt s (qosQueueRemove t queueId npu).1 portId rest groups ∨
    npu ≠ .success ∧ (qosQueueRemove t queueId npu).2 ≠ .success ∧ (qosQueueRemove t queueId npu).1 = t := by
  obtain ⟨kind, _, queueType, stored⟩ := built.queue queueId List.mem_cons_self
  have unused : ¬ qosQueueIsInUse (qosQueueNodeInit portId queueType) = true := fun inUse => by cases inUse
  unfold qosQueueRemove
  rw [if_neg (not_not.mpr kind), stored]
  dsimp only
  rw [if_neg unused]
  split
  · have updated : qosPortQueueListUpdate t queueId (qosQueueNodeInit portId queueType) false =
        ({ t with
          portTree := t.portTree.put portId { qosPortNodeInit with queueList := rest, schedGroupList := groups } },
          .success) := by
      unfold qosPortQueueListUpdate
      simp only [qosQueueNodeInit, built.port, Bool.false_eq_true, if_false, List.erase_cons_head]
    rw [updated]
    exact .inl ⟨rfl, rfl, built.dropQueue⟩
  · rename_i error
    exact .inr ⟨error, error, rfl⟩

end Built

/-- The queue and the entry of a group that a creation adds to the port's lists. -/
def queueCreateId (call : QueueType × CreateEnv) : ObjectId := ⟨.queue, call.2.npuObjectId⟩

def groupCreateEntry (call : (BitVec 32 × HqosGroup) × SchedGroupCreateEnv) : BitVec 32 × ObjectId :=
  (call.1.1, ⟨.schedulerGroup, call.2.npuObjectId⟩)

def QueuesAccepted (s : QosState) (calls : List (QueueType × CreateEnv)) : Prop :=
  ErrorLoop.AllAccepted queueCreateId (QueueCreateAccepted s) [] calls

def GroupsAccepted (s : QosState) (calls : List ((BitVec 32 × HqosGroup) × SchedGroupCreateEnv)) : Prop :=
  ErrorLoop.AllAccepted groupCreateEntry (GroupCreateAccepted s) [] calls

section Loops
variable {platform : QosPlatform}

variable (platform) in
theorem PortBuilt.queueAllInit (built : PortBuilt s t portId [] []) (env : PortInitEnv) :
    (∃ u, qosPortQueueAllInit platform t portId env = (u, .success) ∧
      QueuesAccepted s (platform.queueCreates portId env) ∧
      PortBuilt s u portId ((platform.queueCreates portId env).map queueCreateId) []) ∨
    ∃ u error part, qosPortQueueAllInit platform t portId env = (u, error) ∧ error ≠ .success ∧
      ¬ QueuesAccepted s (platform.queueCreates portId env) ∧ PortBuilt s u portId part [] ∧
      (part = [] ↔ ∃ call rest, platform.queueCreates portId env = call :: rest ∧
        ¬ QueueCreateAccepted s [] call) := by
  have loop := ErrorLoop.run_creates SaiStatus.success (fun call u => qosQueueCreate u portId call.1 call.2)
    queueCreateId (QueueCreateAccepted s) (fun done u => PortBuilt s u portId done []) (by
      intro done call u built
      rcases built.queueCreate call with accepted | ⟨refused, error, same⟩
      · exact .inl accepted
      refine .inr ⟨refused, error, ?_⟩
      rw [same]
      exact built) (platform.queueCreates portId env) [] t built
  rcases loop with ⟨all, success, whole⟩ | ⟨notAll, error, part, some, first⟩
  · exact .inl ⟨_, Prod.ext rfl success, all, whole⟩
  · exact .inr ⟨_, _, part, rfl, error, notAll, some, first⟩

theorem PortBuilt.queueAllDeinit (built : PortBuilt s t portId queues groups) (npu : ObjectId → SaiStatus) :
    (∃ u, qosPortQueueAllDeinit t portId npu = (u, .success) ∧ (∀ q ∈ queues, npu q = .success) ∧
      PortBuilt s u portId [] groups) ∨
    ∃ u error q rest, qosPortQueueAllDeinit t portId npu = (u, error) ∧ error ≠ .success ∧
      ¬ (∀ q ∈ queues, npu q = .success) ∧ PortBuilt s u portId (q :: rest) groups := by
  have loop := ErrorLoop.run_removes SaiStatus.success (fun q u => qosQueueRemove u q (npu q))
    (fun q => npu q = .success) (fun left u => PortBuilt s u portId left groups) (by
      intro q rest u built
      rcases built.queueRemove (npu q) with accepted | ⟨refused, error, same⟩
      · exact .inl accepted
      refine .inr ⟨refused, error, ?_⟩
      rw [same]
      exact built) queues t built
  have unfolded : qosPortQueueAllDeinit t portId npu =
      ErrorLoop.run .success (fun q u => qosQueueRemove u q (npu q)) queues t := by
    unfold qosPortQueueAllDeinit
    rw [built.port]
  rw [unfolded]
  rcases loop with ⟨all, success, none⟩ | ⟨notAll, error, q, rest, left⟩
  · exact .inl ⟨_, Prod.ext rfl success, all, none⟩
  · exact .inr ⟨_, _, q, rest, rfl, error, notAll, left⟩

variable (platform) in
theorem PortBuilt.schedGroupsInit (built : PortBuilt s t portId queues []) (env : PortInitEnv)
    (root : env.rootSchedGroupInit = .success) :
    (∃ u, qosPortSchedGroupsInit platform t portId env = (u, .success) ∧
      GroupsAccepted s (platform.groupCreates portId env) ∧
      PortBuilt s u portId queues ((platform.groupCreates portId env).map groupCreateEntry)) ∨
    ∃ u error part, qosPortSchedGroupsInit platform t portId env = (u, error) ∧ error ≠ .success ∧
      ¬ GroupsAccepted s (platform.groupCreates portId env) ∧ PortBuilt s u portId queues part ∧ (part = [] ↔
        ∃ call rest, platform.groupCreates portId env = call :: rest ∧ ¬ GroupCreateAccepted s [] call) := by
  have loop := ErrorLoop.run_creates SaiStatus.success
    (fun call u =>
      qosSchedGroupCreate u (qosHqosGroupAttrs portId call.1.1 call.1.2) { call.2 with ready := .success })
    groupCreateEntry (GroupCreateAccepted s) (fun done u => PortBuilt s u portId queues done) (by
      intro done call u built
      rcases built.groupCreate call rfl with accepted | ⟨refused, error, same⟩
      · exact .inl accepted
      refine .inr ⟨refused, error, ?_⟩
      rw [same]
      exact built) (platform.groupCreates portId env) [] t built
  have unfolded : qosPortSchedGroupsInit platform t portId env = ErrorLoop.run .success
      (fun call u =>
        qosSchedGroupCreate u (qosHqosGroupAttrs portId call.1.1 call.1.2) { call.2 with ready := .success })
      (platform.groupCreates portId env) t := by
    unfold qosPortSchedGroupsInit
    rw [built.port, root]
  rw [unfolded]
  rcases loop with ⟨all, success, whole⟩ | ⟨notAll, error, part, some, first⟩
  · exact .inl ⟨_, Prod.ext rfl success, all, whole⟩
  · exact .inr ⟨_, _, part, rfl, error, notAll, some, first⟩

theorem PortBuilt.schedGroupsInit_root (built : PortBuilt s t portId queues groups)
    (refused : env.rootSchedGroupInit ≠ .success) :
    qosPortSchedGroupsInit platform t portId env = (t, env.rootSchedGroupInit) := by
  unfold qosPortSchedGroupsInit
  rw [built.port]
  split
  · rename_i none
    cases none
  · rename_i success
    exact absurd success refused
  · rfl

theorem qosPortDefaultHierarchyInit_failed {error : SaiStatus}
    (failed : qosPortSchedGroupsInit platform s portId env = (t, error)) (isError : error ≠ .success) :
    qosPortDefaultHierarchyInit platform s portId env = some (t, error) := by
  unfold qosPortDefaultHierarchyInit
  rw [failed]
  split
  · rename_i isPair
    exact absurd (congrArg Prod.snd isPair) isError
  · rename_i isPair
    rw [isPair]

theorem QosPlatform.hierarchyLevels_nodup (platform : QosPlatform) : platform.hierarchyLevels.Nodup := by
  refine List.Nodup.map_on (fun level below level' below' same => ?_) List.nodup_range
  rw [List.mem_range] at below below'
  have bound := platform.maxHierarchyLevels.isLt
  have numbers := congrArg BitVec.toNat same
  rw [BitVec.toNat_ofNat, BitVec.toNat_ofNat, Nat.mod_eq_of_lt (by omega), Nat.mod_eq_of_lt (by omega)] at numbers
  exact numbers

theorem QosPort.mem_groupsAt {port : QosPort} {level : BitVec 32} {sg : ObjectId} :
    sg ∈ port.groupsAt level ↔ (level, sg) ∈ port.schedGroupList := by
  unfold QosPort.groupsAt
  rw [List.mem_map]
  constructor
  · rintro ⟨⟨level', _⟩, listed, rfl⟩
    obtain ⟨member, same⟩ := List.mem_filter.mp listed
    rw [← of_decide_eq_true same]
    exact member
  · intro member
    exact ⟨(level, sg), List.mem_filter.mpr ⟨member, decide_eq_true rfl⟩, rfl⟩

theorem QosPort.groupsAt_perm (platform : QosPlatform) (port : QosPort)
    (nodup : (port.schedGroupList.map Prod.snd).Nodup)
    (levels : ∀ entry ∈ port.schedGroupList, entry.1 ∈ platform.hierarchyLevels) :
    (platform.hierarchyLevels.flatMap port.groupsAt).Perm (port.schedGroupList.map Prod.snd) := by
  have one := List.inj_on_of_nodup_map nodup
  have walk : (platform.hierarchyLevels.flatMap port.groupsAt).Nodup := by
    refine List.nodup_flatMap.mpr ⟨fun level _ => ?_, ?_⟩
    · exact nodup.sublist (List.filter_sublist.map Prod.snd)
    · refine platform.hierarchyLevels_nodup.imp fun differ sg here there => differ ?_
      exact congrArg Prod.fst (one (QosPort.mem_groupsAt.mp here) (QosPort.mem_groupsAt.mp there) rfl)
  refine (List.perm_ext_iff_of_nodup walk nodup).mpr fun sg => ?_
  rw [List.mem_flatMap, List.mem_map]
  constructor
  · rintro ⟨level, _, listed⟩
    exact ⟨(level, sg), QosPort.mem_groupsAt.mp listed, rfl⟩
  · rintro ⟨entry, listed, rfl⟩
    exact ⟨entry.1, levels entry listed, QosPort.mem_groupsAt.mpr listed⟩

section
variable (built : PortBuilt s t portId queues groups)
include built

theorem PortBuilt.schedGroupsDeinit
    (levels : ∀ entry ∈ groups, entry.1 ∈ platform.hierarchyLevels) (env : PortDeinitEnv) :
    (∃ u, qosPortSchedGroupsDeinit platform t portId env = (u, .success) ∧
      (∀ entry ∈ groups, env.groupRemove entry.2 = .success) ∧ PortBuilt s u portId queues []) ∨
    ∃ u error, qosPortSchedGroupsDeinit platform t portId env = (u, error) ∧ error ≠ .success ∧
      ¬ ∀ entry ∈ groups, env.groupRemove entry.2 = .success := by
  have loop := ErrorLoop.run_removes SaiStatus.success (fun sg u => qosSchedGroupRemove u sg (env.groupRemove sg))
    (fun sg => env.groupRemove sg = .success)
    (fun left u => ∃ groups, PortBuilt s u portId queues groups ∧ (groups.map Prod.snd).Perm left) (by
      rintro sg rest u ⟨groups, built, order⟩
      obtain ⟨entry, member, rfl⟩ := List.mem_map.mp (order.mem_iff.mpr List.mem_cons_self)
      rcases built.groupRemove member (env.groupRemove entry.2) with
        ⟨npu, success, less⟩ | ⟨refused, error, same⟩
      · refine .inl ⟨npu, success, groups.erase entry, less, ?_⟩
        exact (((List.perm_cons_erase member).map Prod.snd).symm.trans order).cons_inv
      · refine .inr ⟨refused, error, groups, ?_, order⟩
        rw [same]
        exact built)
    (platform.hierarchyLevels.flatMap fun level => QosPort.groupsAt
      { qosPortNodeInit with queueList := queues, schedGroupList := groups } level) t
  have walk := QosPort.groupsAt_perm platform
    { qosPortNodeInit with queueList := queues, schedGroupList := groups } built.groupNodup levels
  have unfolded : qosPortSchedGroupsDeinit platform t portId env = ErrorLoop.run .success
      (fun sg u => qosSchedGroupRemove u sg (env.groupRemove sg)) (platform.hierarchyLevels.flatMap fun level =>
        QosPort.groupsAt { qosPortNodeInit with queueList := queues, schedGroupList := groups } level) t := by
    unfold qosPortSchedGroupsDeinit
    rw [built.port]
  have all : (∀ sg ∈ platform.hierarchyLevels.flatMap fun level => QosPort.groupsAt
      { qosPortNodeInit with queueList := queues, schedGroupList := groups } level, env.groupRemove sg = .success) ↔
      ∀ entry ∈ groups, env.groupRemove entry.2 = .success := by
    refine (forall_congr' fun sg => imp_congr_left walk.mem_iff).trans ?_
    exact List.forall_mem_map
  rw [unfolded]
  rcases loop ⟨groups, built, walk.symm⟩ with
    ⟨accepted, success, left, leftBuilt, none⟩ | ⟨notAll, error, _⟩
  · refine .inl ⟨_, Prod.ext rfl success, all.mp accepted, ?_⟩
    rw [List.map_eq_nil_iff.mp none.eq_nil] at leftBuilt
    exact leftBuilt
  · exact .inr ⟨_, _, rfl, error, fun accepted => notAll (all.mpr accepted)⟩

theorem PortBuilt.parent {id : ObjectId}
    (listed : id ∈ queues ∨ id ∈ groups.map Prod.snd) : qosChildParentIdGet t id = some nullObjectId := by
  unfold qosChildParentIdGet
  rcases listed with member | member
  · obtain ⟨kind, _, queueType, stored⟩ := built.queue id member
    rw [kind]
    dsimp only
    rw [stored]
    rfl
  · obtain ⟨entry, listed, rfl⟩ := List.mem_map.mp member
    obtain ⟨kind, _, maxChilds, stored⟩ := built.group entry listed
    rw [kind]
    dsimp only
    rw [stored]
    rfl

theorem PortBuilt.childrenHierarchyRemove (npu : ObjectId → SaiStatus)
    {ids : List ObjectId} (listed : ∀ id ∈ ids, id ∈ queues ∨ id ∈ groups.map Prod.snd) :
    qosChildrenHierarchyRemove npu ids t = some (t, .success) := by
  induction ids with
  | nil => rfl
  | cons id rest ih =>
    have here : qosChildHierarchyRemove t id (npu id) = some (t, .success) := by
      unfold qosChildHierarchyRemove
      rw [built.parent (listed id List.mem_cons_self)]
      exact if_pos rfl
    unfold qosChildrenHierarchyRemove
    rw [here]
    exact ih fun other member => listed other (List.mem_cons_of_mem _ member)

theorem PortBuilt.hierarchyRemove (env : PortDeinitEnv) :
    qosHierarchyRemove platform t portId env = some (t, .success) := by
  have leaf : qosLeafLevelHierarchyRemove t portId env = some (t, .success) := by
    unfold qosLeafLevelHierarchyRemove
    rw [built.port]
    exact built.childrenHierarchyRemove env.removeChild fun id member => .inl member
  have nonLeaf : qosNonLeafLevelHierarchyRemove platform t portId env = some (t, .success) := by
    unfold qosNonLeafLevelHierarchyRemove
    rw [built.port]
    refine built.childrenHierarchyRemove env.removeChild fun id member => .inr ?_
    obtain ⟨level, _, listed⟩ := List.mem_flatMap.mp member
    exact List.mem_map.mpr ⟨(level, id), QosPort.mem_groupsAt.mp listed, rfl⟩
  unfold qosHierarchyRemove
  rw [leaf]
  exact nonLeaf

end

end Loops

end SaiCommon
