import SaiCommon.Qos.PortInitLinks

namespace SaiCommon

variable {portId : ObjectId} {platform : QosPlatform} {s t u : QosState}

section Frames
variable {status : SaiStatus}

theorem qosQueueRemove_frame (s : QosState) (queueId : ObjectId) (npu : SaiStatus) :
    (qosQueueRemove s queueId npu).1.schedGroupTree = s.schedGroupTree ∧
      (qosQueueRemove s queueId npu).1.schedulerTree = s.schedulerTree := by
  rcases qosQueueRemove_cases s queueId npu with ⟨_, _, same⟩ | ⟨node, _, _, _, _, removed⟩
  · rw [same]
    exact ⟨rfl, rfl⟩
  · rw [removed]
    unfold qosPortQueueListUpdate
    split <;> exact ⟨rfl, rfl⟩

theorem qosSchedGroupRemove_schedulers (s : QosState) (sgId : ObjectId) (npu : SaiStatus) :
    (qosSchedGroupRemove s sgId npu).1.schedulerTree = s.schedulerTree := by
  rcases qosSchedGroupRemove_cases s sgId npu with ⟨_, _, same⟩ | ⟨node, _, _, _, removed⟩
  · rw [same]
  · rw [removed]
    unfold qosPortSchedGroupListUpdate
    split <;> rfl

theorem qosPortQueueAllDeinit_frame (s : QosState) (portId : ObjectId) (npu : ObjectId → SaiStatus) :
    (qosPortQueueAllDeinit s portId npu).1.schedGroupTree = s.schedGroupTree ∧
      (qosPortQueueAllDeinit s portId npu).1.schedulerTree = s.schedulerTree := by
  unfold qosPortQueueAllDeinit
  split
  · exact ⟨rfl, rfl⟩
  rename_i port _
  refine ErrorLoop.run_keeps SaiStatus.success (fun q s => qosQueueRemove s q (npu q))
    (fun s t => t.schedGroupTree = s.schedGroupTree ∧ t.schedulerTree = s.schedulerTree) (fun s => ⟨rfl, rfl⟩)
    (fun s t u first rest => ?_) (fun q s => qosQueueRemove_frame s q (npu q)) port.queueList s
  exact ⟨rest.1.trans first.1, rest.2.trans first.2⟩

theorem qosPortGlobalDeinit_frame (s : QosState) (portId : ObjectId) :
    (qosPortGlobalDeinit s portId).1.schedGroupTree = s.schedGroupTree ∧
      (qosPortGlobalDeinit s portId).1.schedulerTree = s.schedulerTree := by
  unfold qosPortGlobalDeinit
  split
  · exact ⟨rfl, rfl⟩
  · split <;> exact ⟨rfl, rfl⟩

theorem qosPortSchedGroupsDeinit_schedulers (platform : QosPlatform) (s : QosState) (portId : ObjectId)
    (env : PortDeinitEnv) : (qosPortSchedGroupsDeinit platform s portId env).1.schedulerTree = s.schedulerTree := by
  unfold qosPortSchedGroupsDeinit
  split
  · rfl
  rename_i port _
  exact ErrorLoop.run_keeps SaiStatus.success (fun sg s => qosSchedGroupRemove s sg (env.groupRemove sg))
    (fun s t => t.schedulerTree = s.schedulerTree) (fun s => rfl) (fun s t u first rest => rest.trans first)
    (fun sg s => qosSchedGroupRemove_schedulers s sg (env.groupRemove sg)) _ s

theorem qosChildrenHierarchyRemove_schedulers (npu : ObjectId → SaiStatus) (ids : List ObjectId) :
    ∀ s t status, qosChildrenHierarchyRemove npu ids s = some (t, status) → t.schedulerTree = s.schedulerTree := by
  have one : ∀ s t status id, qosChildHierarchyRemove s id (npu id) = some (t, status) →
      t.schedulerTree = s.schedulerTree := by
    intro s t status id run
    unfold qosChildHierarchyRemove at run
    split at run
    · cases run
    rename_i parentSgId _
    split at run
    · cases run
      rfl
    rcases @HierarchyCall.run_cases s t (.removeChild parentSgId [id] (npu id)) status run with
      ⟨rfl, _⟩ | ⟨sgId, children, isAdd, _, _, _, loop⟩
    · rfl
    · exact (qosSchedGroupAndChildNodesLoop_keeps sgId isAdd children s t status loop).1
  induction ids with
  | nil =>
    intro s t status run
    cases run
    rfl
  | cons id rest ih =>
    intro s t status run
    unfold qosChildrenHierarchyRemove at run
    split at run
    · cases run
    · rename_i v removed
      exact (ih v t status run).trans (one s v .success id removed)
    · rename_i v error refused removed
      cases run
      exact one s t status id removed

theorem qosHierarchyRemove_schedulers {env : PortDeinitEnv}
    (run : qosHierarchyRemove platform s portId env = some (t, status)) : t.schedulerTree = s.schedulerTree := by
  have leaf : ∀ s t status, qosLeafLevelHierarchyRemove s portId env = some (t, status) →
      t.schedulerTree = s.schedulerTree := by
    intro s t status run
    unfold qosLeafLevelHierarchyRemove at run
    split at run
    · cases run
      rfl
    · exact qosChildrenHierarchyRemove_schedulers _ _ _ _ _ run
  have nonLeaf : ∀ s t status, qosNonLeafLevelHierarchyRemove platform s portId env = some (t, status) →
      t.schedulerTree = s.schedulerTree := by
    intro s t status run
    unfold qosNonLeafLevelHierarchyRemove at run
    split at run
    · cases run
      rfl
    · exact qosChildrenHierarchyRemove_schedulers _ _ _ _ _ run
  unfold qosHierarchyRemove at run
  split at run
  · cases run
  · rename_i v removed
    exact (nonLeaf _ _ _ run).trans (leaf _ _ _ removed)
  · rename_i v error refused removed
    cases run
    exact leaf _ _ _ removed

theorem qosPortDeinit_schedulers {env : PortDeinitEnv}
    (run : qosPortDeinit platform s portId env = some (t, status)) : t.schedulerTree = s.schedulerTree := by
  have hierarchy : ∀ v status, (if platform.isHierarchyQosSupported = true
      then qosPortHierarchyDeinit platform s portId env else some (s, .success)) = some (v, status) →
      v.schedulerTree = s.schedulerTree := by
    intro v status run
    split at run
    · unfold qosPortHierarchyDeinit at run
      split at run
      · cases run
      · rename_i w removed
        have groups := qosPortSchedGroupsDeinit_schedulers platform w portId env
        rw [Option.some.inj run] at groups
        exact groups.trans (qosHierarchyRemove_schedulers removed)
      · rename_i w error refused removed
        cases run
        exact qosHierarchyRemove_schedulers removed
    · cases run
      rfl
  unfold qosPortDeinit at run
  split at run
  · cases run
    rfl
  split at run
  · cases run
    rfl
  dsimp only at run
  split at run
  · cases run
  · rename_i v done
    have queues := (qosPortQueueAllDeinit_frame v portId env.queueRemove).2
    split at run
    · rename_i w isPair
      have port := (qosPortGlobalDeinit_frame w portId).2
      rw [Option.some.inj run] at port
      rw [isPair] at queues
      exact port.trans (queues.trans (hierarchy v _ done))
    · rename_i w error refused isPair
      cases run
      rw [isPair] at queues
      exact queues.trans (hierarchy v _ done)
  · rename_i v error refused failed
    cases run
    exact hierarchy _ _ failed

end Frames

/-- A failed initialisation leaves nothing of the port, and a removal after a
successful one succeeds and restores what was there. -/
def PortInitReversible (platform : QosPlatform) (s : QosState) (portId : ObjectId) (env : PortInitEnv)
    (deinit : PortDeinitEnv) : Prop :=
  ∃ t status, qosPortInit platform s portId env = some (t, status) ∧
    (status ≠ .success → PortInitClean s t portId) ∧
    (status = .success → ∃ u, qosPortDeinit platform t portId deinit = some (u, .success) ∧ PortRestored s u)

structure PortGlobalAccepted (platform : QosPlatform) (env : PortInitEnv) : Prop where
  alloc : env.allocOk = true
  npu : env.npu = .success
  heads : platform.isHierarchyQosSupported = true → env.schedGroupHeadsOk = true
  info : env.portInfoOk = true

/-- The answers let the default hierarchy be created, and it links no child. -/
structure PortHierarchyFlat (platform : QosPlatform) (s : QosState) (portId : ObjectId) (env : PortInitEnv) : Prop where
  root : env.rootSchedGroupInit = .success
  groups : GroupsAccepted s (platform.groupCreates portId env)
  childless : ∀ group ∈ platform.hqosGroups portId, group.2.childInfo = []
  listed : ∀ group ∈ platform.hqosGroups portId,
    group.2.nodeId < ((platform.hqosGroups portId).filter fun other => other.1 = group.1).length

/-- When an initialisation is undone, by itself or by the removal: it failed
before the first queue was there, it failed before the first group was there and
the queues could be removed, or it gave no child to a group and the removals are
accepted. -/
inductive PortInitUndoable (platform : QosPlatform) (s : QosState) (portId : ObjectId) (env : PortInitEnv)
    (deinit : PortDeinitEnv) : Prop
  | port (refused : ¬ PortGlobalAccepted platform env)
  | queue (refused : ∃ call rest, platform.queueCreates portId env = call :: rest ∧
    ¬ QueueCreateAccepted s [] call)
  | group (queues : QueuesAccepted s (platform.queueCreates portId env))
      (hierarchy : platform.isHierarchyQosSupported = true)
      (refused : env.rootSchedGroupInit ≠ .success ∨
        ∃ call rest, platform.groupCreates portId env = call :: rest ∧ ¬ GroupCreateAccepted s [] call)
      (undone : ∀ call ∈ platform.queueCreates portId env, env.queueRemove (queueCreateId call) = .success)
  | whole (queues : QueuesAccepted s (platform.queueCreates portId env))
      (hierarchy : platform.isHierarchyQosSupported = true → PortHierarchyFlat platform s portId env ∧
        ∀ call ∈ platform.groupCreates portId env, deinit.groupRemove (groupCreateEntry call).2 = .success)
      (removed : ∀ call ∈ platform.queueCreates portId env, deinit.queueRemove (queueCreateId call) = .success)

section Phases
variable {queues : List ObjectId} {groups : List (BitVec 32 × ObjectId)}

theorem PortRestored.clean (absent : PortAbsent s portId) (restored : PortRestored s t) :
    PortInitClean s t portId where
  port := by rw [restored.ports, absent.port]
  queue := fun q node stored => absent.queue q node (restored.queues ▸ stored)
  group := fun sg node stored => absent.group sg node (restored.groups ▸ stored)
  links := fun schedId sched user id stored listed => ⟨sched, restored.schedulers ▸ stored, listed⟩

theorem PortBuilt.globalDeinit (built : PortBuilt s t portId queues groups) (kind : portId.objType = .port) :
    qosPortGlobalDeinit t portId = ({ t with portTree := t.portTree.del portId }, .success) := by
  unfold qosPortGlobalDeinit
  rw [if_neg (not_not.mpr kind), built.port]

theorem PortBuilt.clean_iff (absent : PortAbsent s portId) (built : PortBuilt s t portId queues groups) :
    PortInitClean s (qosPortGlobalDeinit t portId).1 portId ↔ queues = [] ∧ groups = [] := by
  rw [built.globalDeinit absent.kind]
  constructor
  · intro clean
    constructor
    · cases queues with
      | nil => rfl
      | cons q rest =>
        obtain ⟨_, _, queueType, stored⟩ := built.queue q List.mem_cons_self
        exact absurd rfl (clean.queue q _ stored)
    · cases groups with
      | nil => rfl
      | cons entry rest =>
        obtain ⟨_, _, maxChilds, stored⟩ := built.group entry List.mem_cons_self
        exact absurd rfl (clean.group entry.2 _ stored)
  · rintro ⟨rfl, rfl⟩
    exact (built.done absent.port).clean absent

/-- After a failure of the hierarchy the port is gone exactly when the queues can
be removed and no group was there yet. -/
theorem PortBuilt.initFailure_clean_iff (absent : PortAbsent s portId) (built : PortBuilt s t portId queues groups)
    (env : PortInitEnv) : PortInitClean s (qosPortHandleInitFailure t portId env true) portId ↔
      (∀ q ∈ queues, env.queueRemove q = .success) ∧ groups = [] := by
  unfold qosPortHandleInitFailure
  rw [if_pos rfl]
  dsimp only
  rcases built.queueAllDeinit env.queueRemove with
    ⟨u, done, all, none⟩ | ⟨u, error, q, rest, failed, _, notAll, left⟩
  · rw [done, none.clean_iff absent, and_iff_right rfl, and_iff_right all]
  · rw [failed, left.clean_iff absent]
    exact iff_of_false (fun both => by cases both.1) fun both => notAll both.1

theorem PortBuilt.group_left (built : PortBuilt s t portId queues groups) (nonempty : groups ≠ [])
    (kept : groupPorts u = groupPorts t) (env : PortInitEnv) :
    ¬ PortInitClean s (qosPortHandleInitFailure u portId env true) portId := by
  intro clean
  obtain ⟨entry, rest, isCons⟩ := List.exists_cons_of_ne_nil nonempty
  obtain ⟨_, _, maxChilds, stored⟩ := built.group entry (isCons ▸ List.mem_cons_self)
  have named : groupPorts (qosPortHandleInitFailure u portId env true) entry.2 = some portId := by
    have tree : (qosPortHandleInitFailure u portId env true).schedGroupTree = u.schedGroupTree := by
      unfold qosPortHandleInitFailure
      rw [if_pos rfl]
      exact (qosPortGlobalDeinit_frame _ portId).1.trans (qosPortQueueAllDeinit_frame u portId env.queueRemove).1
    unfold groupPorts
    rw [tree]
    change groupPorts u entry.2 = _
    rw [kept]
    unfold groupPorts
    rw [stored]
    rfl
  obtain ⟨node, left, isPort⟩ := Option.map_eq_some_iff.mp named
  exact clean.group entry.2 node left isPort

variable (platform) in
theorem PortBuilt.deinit_iff (absent : PortAbsent s portId) (built : PortBuilt s t portId queues groups)
    (levels : ∀ entry ∈ groups, entry.1 ∈ platform.hierarchyLevels)
    (flat : platform.isHierarchyQosSupported = false → groups = []) (env : PortDeinitEnv) :
    (∃ u, qosPortDeinit platform t portId env = some (u, .success) ∧ PortRestored s u) ↔
      (∀ entry ∈ groups, env.groupRemove entry.2 = .success) ∧
      ∀ q ∈ queues, env.queueRemove q = .success := by
  -- What is left of the removal once the groups are gone; `r` is the last `match`.
  have rest : ∀ v (r : Option (QosState × SaiStatus)), PortBuilt s v portId queues [] →
      (∀ w, qosPortQueueAllDeinit v portId env.queueRemove = (w, .success) →
        r = some (qosPortGlobalDeinit w portId)) →
      (∀ w error, qosPortQueueAllDeinit v portId env.queueRemove = (w, error) → error ≠ .success →
        r = some (w, error)) →
      ((∃ u, r = some (u, .success) ∧ PortRestored s u) ↔ ∀ q ∈ queues, env.queueRemove q = .success) := by
    intro v r left goesOn stops
    rcases left.queueAllDeinit env.queueRemove with
      ⟨w, done, all, none⟩ | ⟨w, error, _, _, failed, refused, notAll, _⟩
    · rw [goesOn w done, none.globalDeinit absent.kind]
      exact iff_of_true ⟨_, rfl, none.done absent.port⟩ all
    rw [stops w error failed refused]
    refine iff_of_false ?_ notAll
    rintro ⟨x, isDone, _⟩
    exact refused (congrArg Prod.snd (Option.some.inj isDone))
  unfold qosPortDeinit
  rw [if_neg (not_not.mpr absent.kind), built.port]
  dsimp only
  by_cases hierarchy : platform.isHierarchyQosSupported = true
  · rw [if_pos hierarchy]
    unfold qosPortHierarchyDeinit
    rw [built.hierarchyRemove env]
    dsimp only
    rcases built.schedGroupsDeinit levels env with ⟨v, done, all, left⟩ | ⟨v, error, failed, refused, notAll⟩
    · rw [done]
      dsimp only
      refine (rest v _ left (fun w removed => by rw [removed]) fun w error failed refused => ?_).trans
        (and_iff_right all).symm
      rw [failed]
      cases error <;> first | rfl | exact absurd rfl refused
    · rw [failed]
      refine iff_of_false ?_ fun both => notAll both.1
      rintro ⟨x, isDone, _⟩
      split at isDone
      · cases isDone
      · rename_i isPair
        exact refused (congrArg Prod.snd (Option.some.inj isPair))
      · rename_i isPair
        cases isPair
        exact refused (congrArg Prod.snd (Option.some.inj isDone))
  · rw [if_neg hierarchy]
    have none := flat ((Bool.not_eq_true _).mp hierarchy)
    subst none
    dsimp only
    refine (rest t _ built (fun w removed => by rw [removed]) fun w error failed refused => ?_).trans
      (and_iff_right fun entry member => absurd member List.not_mem_nil).symm
    rw [failed]
    cases error <;> first | rfl | exact absurd rfl refused

theorem qosPortGlobalInit_cases (platform : QosPlatform) (s : QosState) (portId : ObjectId) (env : PortInitEnv) :
    PortGlobalAccepted platform env ∧ qosPortGlobalInit platform s portId env =
      ({ s with portTree := s.portTree.put portId qosPortNodeInit }, .success) ∨
      ¬ PortGlobalAccepted platform env ∧
      ∃ error, qosPortGlobalInit platform s portId env = (s, error) ∧ error ≠ .success := by
  unfold qosPortGlobalInit
  split
  · rename_i noAlloc
    refine .inr ⟨fun accepted => ?_, _, rfl, nofun⟩
    rw [accepted.alloc] at noAlloc
    cases noAlloc
  rename_i alloc
  split
  · rename_i npu
    split
    · rename_i noHeads
      refine .inr ⟨fun accepted => ?_, _, rfl, nofun⟩
      have heads := accepted.heads noHeads.1
      rw [noHeads.2] at heads
      cases heads
    · rename_i heads
      split
      · rename_i noInfo
        refine .inr ⟨fun accepted => ?_, _, rfl, nofun⟩
        rw [accepted.info] at noInfo
        cases noInfo
      · rename_i info
        refine .inl ⟨⟨(Bool.not_eq_false _).mp alloc, npu, fun hierarchy => ?_, (Bool.not_eq_false _).mp info⟩,
          rfl⟩
        exact (Bool.not_eq_false _).mp fun noHeads => heads ⟨hierarchy, noHeads⟩
  · rename_i error
    exact .inr ⟨fun accepted => error accepted.npu, _, rfl, error⟩

theorem mem_groupLinks {env : PortInitEnv} {link : (BitVec 32 × HqosGroup) × SaiStatus}
    (member : link ∈ platform.groupLinks portId env) : link.1 ∈ platform.hqosGroups portId := by
  obtain ⟨count, bound, isLink⟩ := List.mem_mapIdx.mp member
  rw [← isLink]
  exact List.getElem_mem bound

theorem exists_groupLink {group : BitVec 32 × HqosGroup} (member : group ∈ platform.hqosGroups portId)
    (env : PortInitEnv) : ∃ link ∈ platform.groupLinks portId env, link.1 = group := by
  obtain ⟨count, bound, isGroup⟩ := List.getElem_of_mem member
  exact ⟨(group, env.addChild count), List.mem_mapIdx.mpr ⟨count, bound, by rw [isGroup]⟩, rfl⟩

theorem groupCreates_fst (platform : QosPlatform) (portId : ObjectId) (env : PortInitEnv) :
    (platform.groupCreates portId env).map Prod.fst = platform.hqosGroups portId := by
  refine List.ext_getElem ?_ fun count here there => ?_
  · rw [List.length_map, QosPlatform.groupCreates, List.length_mapIdx]
  · rw [List.getElem_map]
    unfold QosPlatform.groupCreates
    rw [List.getElem_mapIdx]

theorem groupsAt_length (platform : QosPlatform) (env : PortInitEnv) (port : QosPort)
    (isList : port.schedGroupList = (platform.groupCreates portId env).map groupCreateEntry) (level : BitVec 32) :
    (port.groupsAt level).length = ((platform.hqosGroups portId).filter fun other => other.1 = level).length := by
  unfold QosPort.groupsAt
  rw [List.length_map, isList, ← groupCreates_fst platform portId env, ← List.countP_eq_length_filter,
    ← List.countP_eq_length_filter, List.countP_map, List.countP_map]
  rfl

theorem mem_hierarchyLevels {env : PortInitEnv} {entry : BitVec 32 × ObjectId}
    (member : entry ∈ (platform.groupCreates portId env).map groupCreateEntry) :
    entry.1 ∈ platform.hierarchyLevels := by
  obtain ⟨call, created, rfl⟩ := List.mem_map.mp member
  have group : call.1 ∈ platform.hqosGroups portId := by
    rw [← groupCreates_fst platform portId env]
    exact List.mem_map_of_mem created
  obtain ⟨level, isLevel, inLevel⟩ := List.mem_flatMap.mp group
  obtain ⟨_, _, same⟩ := List.mem_map.mp inLevel
  change call.1.1 ∈ _
  rw [← same]
  exact isLevel

/-- How the phase of the hierarchy ends: before all groups are there, with all of
them and no links, or with links begun. -/
theorem PortBuilt.defaultHierarchyInit (indexes : platform.IndexesQueues) (built : PortBuilt s t portId queues [])
    (env : PortInitEnv) :
    (∃ u error part, qosPortDefaultHierarchyInit platform t portId env = some (u, error) ∧ error ≠ .success ∧
      PortBuilt s u portId queues part ∧ ¬ PortHierarchyFlat platform s portId env ∧
      (part = [] ↔ env.rootSchedGroupInit ≠ .success ∨
        ∃ call rest, platform.groupCreates portId env = call :: rest ∧ ¬ GroupCreateAccepted s [] call)) ∨
    (∃ u, qosPortDefaultHierarchyInit platform t portId env = some (u, .success) ∧
      PortBuilt s u portId queues ((platform.groupCreates portId env).map groupCreateEntry) ∧
      PortHierarchyFlat platform s portId env) ∨
    ∃ v, PortBuilt s v portId queues ((platform.groupCreates portId env).map groupCreateEntry) ∧
      ¬ PortHierarchyFlat platform s portId env ∧ platform.groupCreates portId env ≠ [] ∧
      env.rootSchedGroupInit = .success ∧ GroupsAccepted s (platform.groupCreates portId env) ∧
      ∀ u status, qosPortDefaultHierarchyInit platform t portId env = some (u, status) →
        LinksKept v u status ∧ (status = .success → defaultLinks v < defaultLinks u) := by
  by_cases root : env.rootSchedGroupInit = .success
  · rcases built.schedGroupsInit platform env root with
      ⟨v, done, all, whole⟩ | ⟨v, error, part, failed, refused, notAll, some, first⟩
    · unfold qosPortDefaultHierarchyInit
      rw [done]
      dsimp only
      have length := groupsAt_length platform env ({ qosPortNodeInit with
        queueList := queues
        schedGroupList := (platform.groupCreates portId env).map groupCreateEntry }) rfl
      have unfolded : qosHierarchyCreate platform v portId env = qosHqosGroupsLink platform portId
          { qosPortNodeInit with
            queueList := queues
            schedGroupList := (platform.groupCreates portId env).map groupCreateEntry }
          env.childScheduler (platform.groupLinks portId env) v := by
        unfold qosHierarchyCreate
        rw [whole.port]
      rw [unfolded]
      by_cases flat : PortHierarchyFlat platform s portId env
      · refine .inr (.inl ⟨v, whole.groupsLink_flat rfl _ fun link member => ?_, whole, flat⟩)
        have group := mem_groupLinks member
        refine ⟨flat.childless _ group, ?_⟩
        rw [length]
        exact flat.listed _ group
      refine .inr
        (.inr ⟨v, whole, flat, ?_, root, all, fun u status linked =>
          ⟨qosHqosGroupsLink_kept _ _ _ _ linked, ?_⟩⟩)
      · intro empty
        have none : platform.hqosGroups portId = [] := by
          rw [← groupCreates_fst platform portId env, empty]
          rfl
        refine flat ⟨root, all, fun group member => ?_, fun group member => ?_⟩
        · rw [none] at member
          exact absurd member List.not_mem_nil
        · rw [none] at member
          exact absurd member List.not_mem_nil
      · intro success
        rw [success] at linked
        rcases whole.groupsLink indexes rfl _ u linked with all' | grown
        · refine absurd ⟨root, all, fun group member => ?_, fun group member => ?_⟩ flat
          · obtain ⟨link, listed, rfl⟩ := exists_groupLink member env
            exact (all' link listed).childless
          · obtain ⟨link, listed, rfl⟩ := exists_groupLink member env
            rw [← length]
            exact (all' link listed).listed
        · exact grown
    · refine .inl ⟨v, error, part, qosPortDefaultHierarchyInit_failed failed refused, refused, some,
        fun flat => notAll flat.groups, ?_⟩
      rw [first]
      exact (or_iff_right (not_not.mpr root)).symm
  · exact .inl ⟨t, env.rootSchedGroupInit, [],
      qosPortDefaultHierarchyInit_failed (built.schedGroupsInit_root root) root,
      root, built, fun flat => root flat.root, iff_of_true rfl (.inl root)⟩

end Phases

/-- A port initialisation is undone exactly when it is undoable. -/
theorem portInit_reversible {platform : QosPlatform} {s : QosState} {portId : ObjectId} {env : PortInitEnv}
    {deinit : PortDeinitEnv} (absent : PortAbsent s portId) (indexes : platform.IndexesQueues) :
    PortInitReversible platform s portId env deinit ↔ PortInitUndoable platform s portId env deinit := by
  unfold PortInitReversible qosPortInit
  rcases qosPortGlobalInit_cases platform s portId env with ⟨accepted, done⟩ | ⟨refused, error, failed, isError⟩
  · rw [done]
    dsimp only
    have first := PortBuilt.first s portId
    rcases first.queueAllInit platform env with
      ⟨t, done, all, built⟩ | ⟨t, error, part, failed, isError, notAll, built, none⟩
    · rw [done]
      dsimp only
      have notFirst : ¬ ∃ call rest, platform.queueCreates portId env = call :: rest ∧
        ¬ QueueCreateAccepted s [] call := by
        rintro ⟨call, rest, isCons, refused⟩
        rw [isCons] at all
        exact refused all.1
      by_cases hierarchy : platform.isHierarchyQosSupported = true
      · rw [if_pos hierarchy]
        rcases built.defaultHierarchyInit indexes env with
          ⟨u, error, part, failed, isError, left, notFlat, begun⟩ | ⟨u, done, whole, flat⟩ |
            ⟨v, whole, notFlat, nonempty, root, groups, linked⟩
        · have clean := left.initFailure_clean_iff absent env
          rw [List.forall_mem_map] at clean
          rw [failed]
          constructor
          · rintro ⟨x, status, isResult, ifError, _⟩
            split at isResult
            · cases isResult
            · rename_i isPair
              exact absurd (congrArg Prod.snd (Option.some.inj isPair)) isError
            · rename_i isPair
              cases isPair
              cases isResult
              have both := clean.mp (ifError isError)
              exact .group all hierarchy (begun.mp both.2) both.1
          · intro undoable
            refine ⟨qosPortHandleInitFailure u portId env true, error, ?_, fun _ => clean.mpr ?_,
              fun success => absurd success isError⟩
            · split
              · rename_i isPair
                cases isPair
              · rename_i isPair
                exact absurd (congrArg Prod.snd (Option.some.inj isPair)) isError
              · rename_i isPair
                cases isPair
                rfl
            · cases undoable with
              | port refused => exact absurd accepted refused
              | queue refused => exact absurd refused notFirst
              | group _ _ refused undone => exact ⟨undone, begun.mpr refused⟩
              | whole _ flat _ => exact absurd (flat hierarchy).1 notFlat
        · have restores := whole.deinit_iff platform absent (fun entry member => mem_hierarchyLevels member)
            (fun flat => by rw [hierarchy] at flat; cases flat) deinit
          rw [List.forall_mem_map, List.forall_mem_map] at restores
          rw [done]
          dsimp only
          constructor
          · rintro ⟨x, status, isResult, _, ifSuccess⟩
            cases isResult
            have both := restores.mp (ifSuccess rfl)
            exact .whole all (fun _ => ⟨flat, both.1⟩) both.2
          · intro undoable
            refine ⟨u, .success, rfl, fun error => absurd rfl error, fun _ => restores.mpr ?_⟩
            cases undoable with
            | port refused => exact absurd accepted refused
            | queue refused => exact absurd refused notFirst
            | group _ _ refused _ =>
              rcases refused with noRoot | ⟨call, rest, isCons, refused⟩
              · exact absurd flat.root noRoot
              have groups := flat.groups
              rw [isCons] at groups
              exact absurd groups.1 refused
            | whole _ hierarchical removed => exact ⟨(hierarchical hierarchy).2, removed⟩
        · refine iff_of_false ?_ fun undoable => ?_
          · rintro ⟨x, status, isResult, ifError, ifSuccess⟩
            split at isResult
            · cases isResult
            · rename_i u isPair
              cases isResult
              have grown := (linked x .success isPair).2 rfl
              obtain ⟨w, removed, restored⟩ := ifSuccess rfl
              have schedulers : x.schedulerTree = v.schedulerTree := by
                rw [← qosPortDeinit_schedulers removed, restored.schedulers, whole.schedulers]
              unfold defaultLinks at grown
              rw [schedulers, (linked x .success isPair).1.default] at grown
              exact absurd grown (lt_irrefl _)
            · rename_i u error isError isPair
              cases isResult
              refine whole.group_left ?_ (linked u _ isPair).1.groups env (ifError isError)
              exact fun empty => nonempty (List.map_eq_nil_iff.mp empty)
          · cases undoable with
            | port refused => exact refused accepted
            | queue refused => exact notFirst refused
            | group _ _ refused _ =>
              rcases refused with noRoot | ⟨call, rest, isCons, refused⟩
              · exact noRoot root
              · rw [isCons] at groups
                exact refused groups.1
            | whole _ hierarchical _ => exact notFlat (hierarchical hierarchy).1
      · have restores := built.deinit_iff platform absent
          (fun entry member => absurd member List.not_mem_nil) (fun _ => rfl) deinit
        rw [List.forall_mem_map] at restores
        rw [if_neg hierarchy]
        constructor
        · rintro ⟨x, status, isResult, _, ifSuccess⟩
          cases isResult
          exact .whole all (fun flag => absurd flag hierarchy) (restores.mp (ifSuccess rfl)).2
        · intro undoable
          refine ⟨t, .success, rfl, fun error => absurd rfl error, fun _ => restores.mpr ⟨?_, ?_⟩⟩
          · exact fun entry member => absurd member List.not_mem_nil
          · cases undoable with
            | port refused => exact absurd accepted refused
            | queue refused => exact absurd refused notFirst
            | group _ flag _ _ => exact absurd flag hierarchy
            | whole _ _ removed => exact removed
    · have clean := built.clean_iff absent
      rw [and_iff_left rfl] at clean
      have unfolded : qosPortHandleInitFailure t portId env false = (qosPortGlobalDeinit t portId).1 := rfl
      rw [failed]
      constructor
      · rintro ⟨x, status, isResult, ifError, _⟩
        split at isResult
        · rename_i isPair
          exact absurd (congrArg Prod.snd isPair) isError
        rename_i isPair
        cases isPair
        cases isResult
        exact .queue (none.mp (clean.mp (ifError isError)))
      · intro undoable
        refine ⟨(qosPortGlobalDeinit t portId).1, error, ?_, fun _ => clean.mpr (none.mpr ?_),
          fun success => absurd success isError⟩
        · split
          · rename_i isPair
            exact absurd (congrArg Prod.snd isPair) isError
          rename_i isPair
          cases isPair
          rfl
        · cases undoable with
          | port refused => exact absurd accepted refused
          | queue refused => exact refused
          | group all _ _ _ => exact absurd all notAll
          | whole all _ _ => exact absurd all notAll
  · rw [failed]
    refine iff_of_true ⟨s, error, ?_, fun _ => ?_, fun success => absurd success isError⟩ (.port refused)
    · split
      · rename_i isPair
        exact absurd (congrArg Prod.snd isPair) isError
      · rename_i isPair
        rw [isPair]
    · exact ⟨absent.port, absent.queue, absent.group, fun schedId sched user id stored listed =>
        ⟨sched, stored, listed⟩⟩

def portInitSample : QosState where
  portTree := ∅
  queueTree := ∅
  pgTree := ∅
  schedGroupTree := ∅
  schedulerTree := (∅ : KeyTree ObjectId Scheduler).put ⟨.scheduler, 1⟩ (qosSchedulerNodeInit ⟨1, 0⟩)
  bufferPoolTree := ∅
  bufferProfileTree := ∅
  defaultSchedId := ⟨.scheduler, 1⟩

def portInitSamplePlatform (childInfo : List HqosChild) : QosPlatform where
  isHierarchyQosSupported := true
  isSeparateUcastOrMcastSupported := fun _ => false
  maxUcQueuesPerPort := fun _ => 0
  maxMcQueuesPerPort := fun _ => 0
  maxQueuesPerPort := fun _ => 2
  maxHierarchyLevels := 1
  leafHierarchyLevel := 0
  isCpuPort := fun _ => false
  defaultHqos := fun _ => [⟨0, childInfo⟩]
  defaultCpuHqos := fun _ => []
  indexedQueueObject := fun s port queueType childIdx =>
    (port.queueList.filter fun q => (s.queueTree.get q).map Queue.queueType = some queueType)[childIdx]?

/-- Every call is accepted but the creation of the queues from `failing` on. -/
def portInitSampleEnv (failing : Nat) : PortInitEnv where
  allocOk := true
  npu := .success
  schedGroupHeadsOk := true
  portInfoOk := true
  queueCreate := fun queue => ⟨.success, true, if queue < failing then .success else .failure, queue, true⟩
  rootSchedGroupInit := .success
  groupCreate := fun group => ⟨.success, .success, true, true, .success, group, true⟩
  addChild := fun _ => .success
  childScheduler := fun _ => .success
  queueRemove := fun _ => .success

def portDeinitSampleEnv : PortDeinitEnv := ⟨fun _ => .success, fun _ => .success, fun _ => .success⟩

theorem portInitSamplePlatform_indexes (childInfo : List HqosChild) :
    (portInitSamplePlatform childInfo).IndexesQueues := by
  intro s port queueType childIdx queueId found
  exact List.mem_of_mem_filter (List.mem_of_getElem? found)

theorem portInitSample_absent : PortAbsent portInitSample ⟨.port, 1⟩ where
  kind := rfl
  port := KeyTree.get_empty _
  queue := fun q node stored => by cases (KeyTree.get_empty q).symm.trans stored
  group := fun sg node stored => by cases (KeyTree.get_empty sg).symm.trans stored

/-- A group without children is removed with the queues. -/
theorem portInit_reversible_sample :
    PortInitReversible (portInitSamplePlatform []) portInitSample ⟨.port, 1⟩ (portInitSampleEnv 2)
      portDeinitSampleEnv := by
  refine (portInit_reversible portInitSample_absent (portInitSamplePlatform_indexes [])).mpr
    (.whole ?_ (fun _ => ?_) ?_)
  · change QueueCreateAccepted _ _ _ ∧ QueueCreateAccepted _ _ _ ∧ True
    exact ⟨⟨rfl, rfl, rfl, rfl, by decide⟩, ⟨rfl, rfl, rfl, rfl, by decide⟩, trivial⟩
  · refine ⟨⟨rfl, ?_, ?_, ?_⟩, fun _ _ => rfl⟩
    · change GroupCreateAccepted _ _ _ ∧ True
      exact ⟨⟨rfl, rfl, rfl, rfl, rfl, rfl, by decide⟩, trivial⟩
    · decide
    · decide
  · exact fun _ _ => rfl

/-- A queue with the default scheduler cannot be removed again, and a queue whose
successor failed is left. -/
theorem portInit_not_reversible :
    ¬ (∀ platform s portId env deinit, PortAbsent s portId → platform.IndexesQueues → ∀ t,
      qosPortInit platform s portId env = some (t, .success) →
      ∃ u, qosPortDeinit platform t portId deinit = some (u, .success) ∧ PortRestored s u) ∧
    ¬ (∀ platform s portId env, PortAbsent s portId → platform.IndexesQueues → ∀ t status,
      qosPortInit platform s portId env = some (t, status) → status ≠ .success → PortInitClean s t portId) := by
  constructor
  · intro all
    obtain ⟨⟨t, status⟩, run⟩ := Option.isSome_iff_exists.mp (by decide : (qosPortInit
      (portInitSamplePlatform [⟨.queue .all, 0⟩]) portInitSample ⟨.port, 1⟩ (portInitSampleEnv 2)).isSome =
      true)
    have success : (qosPortInit (portInitSamplePlatform [⟨.queue .all, 0⟩]) portInitSample ⟨.port, 1⟩
      (portInitSampleEnv 2)).map Prod.snd = some .success := by decide
    have inUse : ((qosPortInit (portInitSamplePlatform [⟨.queue .all, 0⟩]) portInitSample ⟨.port, 1⟩
      (portInitSampleEnv 2)).bind fun r =>
      qosPortDeinit (portInitSamplePlatform [⟨.queue .all, 0⟩]) r.1 ⟨.port, 1⟩
        portDeinitSampleEnv).map Prod.snd = some .objectInUse := by decide
    rw [run] at success inUse
    cases Option.some.inj success
    obtain ⟨u, removed, _⟩ := all _ _ _ _ portDeinitSampleEnv portInitSample_absent
      (portInitSamplePlatform_indexes [⟨.queue .all, 0⟩]) t run
    change (qosPortDeinit _ t _ _).map Prod.snd = _ at inUse
    rw [removed] at inUse
    cases inUse
  · intro all
    obtain ⟨⟨t, status⟩, run⟩ := Option.isSome_iff_exists.mp (by decide : (qosPortInit
      (portInitSamplePlatform []) portInitSample ⟨.port, 1⟩ (portInitSampleEnv 1)).isSome = true)
    have failed : (qosPortInit (portInitSamplePlatform []) portInitSample ⟨.port, 1⟩
      (portInitSampleEnv 1)).map Prod.snd = some .failure := by decide
    have left : (qosPortInit (portInitSamplePlatform []) portInitSample ⟨.port, 1⟩
      (portInitSampleEnv 1)).bind (fun r => r.1.queueTree.get ⟨.queue, 0⟩) =
        some (qosQueueNodeInit ⟨.port, 1⟩ .all) := by decide
    rw [run] at failed left
    cases Option.some.inj failed
    have clean := all _ _ _ _ portInitSample_absent (portInitSamplePlatform_indexes []) t _ run nofun
    exact clean.queue _ _ left rfl

end SaiCommon
