import SaiCommon.Qos.PortInitReversible

namespace SaiCommon

/-- A child that can be given the default scheduler: it is stored, the NPU takes
the scheduler, and the one it had is there to be left. -/
structure ChildSchedulable (s : QosState) (npu : ObjectId → SaiStatus) (childId : ObjectId) : Prop where
  left : ∃ prev, qosChildSchedulerIdGet s childId = some prev ∧
    (prev ≠ nullObjectId → s.schedulerTree.get prev ≠ none)
  npu : npu childId = .success

/-- What a group of the configuration needs in the state that it is linked in: it
is on the port, and its children are found and free, the NPU takes them, and they
can be given the default scheduler. -/
inductive HqosGroupAccepted (platform : QosPlatform) (portId : ObjectId) (port : QosPort) (level : BitVec 32)
    (group : HqosGroup) (addChild : SaiStatus) (childScheduler : ObjectId → SaiStatus) (s : QosState) : Prop
  | childless (listed : ∃ sgId, qosIndexedSchedGroupIdGet s portId level group.nodeId = .ok sgId)
      (childless : group.childInfo = [])
  | children {sgId : ObjectId} {childList : List ObjectId}
      (listed : qosIndexedSchedGroupIdGet s portId level group.nodeId = .ok sgId)
      (found : qosHqosChildrenGet platform s portId port group.childInfo = .ok childList)
      (free : qosSchedGroupChildListValidate s sgId childList true = .success)
      (stored : s.schedGroupTree.get sgId ≠ none) (taken : addChild = .success)
      (notNull : s.defaultSchedId ≠ nullObjectId) (default : s.schedulerTree.get s.defaultSchedId ≠ none)
      (scheduled : ∀ childId ∈ childList, ChildSchedulable s childScheduler childId)

/-- Each group is accepted in the state that the groups before it leave. -/
def HqosGroupsAccepted (platform : QosPlatform) (portId : ObjectId) (port : QosPort)
    (childScheduler : ObjectId → SaiStatus) : List ((BitVec 32 × HqosGroup) × SaiStatus) → QosState → Prop
  | [], _ => True
  | ((level, group), addChild) :: rest, s =>
    HqosGroupAccepted platform portId port level group addChild childScheduler s ∧
      ∀ t status, qosHqosGroupLink platform portId port level group addChild childScheduler s = some (t, status) →
        HqosGroupsAccepted platform portId port childScheduler rest t

section Schedulers
variable {s t : QosState} {user : SchedulerUser} {o prev new : ObjectId} {npu status : SaiStatus}

theorem qosSchedulerListUpdate_stored (user : SchedulerUser) (o prev : ObjectId)
    (stored : s.schedulerTree.get new ≠ none) :
    ((qosSchedulerListUpdate user s o prev new).2 = .success ↔
      (prev ≠ nullObjectId → s.schedulerTree.get prev ≠ none)) ∧
    ∀ k, (qosSchedulerListUpdate user s o prev new).1.schedulerTree.get k = none ↔
      s.schedulerTree.get k = none := by
  unfold qosSchedulerListUpdate
  by_cases gone : prev ≠ nullObjectId ∧ s.schedulerTree.get prev = none
  · rw [if_pos gone]
    exact ⟨iff_of_false SaiStatus.noConfusion fun left => left gone.1 gone.2, fun _ => Iff.rfl⟩
  rw [if_neg gone]
  dsimp only
  generalize released : (if prev ≠ nullObjectId then _ else s) = u
  have kept : ∀ k, u.schedulerTree.get k = none ↔ s.schedulerTree.get k = none := by
    intro k
    rw [← released]
    split
    · exact KeyTree.get_modify_eq_none
    · exact Iff.rfl
  rw [if_neg fun missing => stored ((kept new).mp missing.2)]
  refine ⟨iff_of_true ?_ fun nonnull absent => gone ⟨nonnull, absent⟩, fun k => ?_⟩
  · split <;> rfl
  · split
    · exact KeyTree.get_modify_eq_none.trans (kept k)
    · exact kept k

/-- A set to a stored scheduler takes none away. -/
theorem qosUserSchedulerSet_stored (stored : s.schedulerTree.get new ≠ none)
    (run : qosUserSchedulerSet (qosSchedulerListUpdate user) s o prev new npu = (t, status)) :
    (status = .success ↔ npu = .success ∧ (prev ≠ nullObjectId → s.schedulerTree.get prev ≠ none)) ∧
    ∀ k, t.schedulerTree.get k = none ↔ s.schedulerTree.get k = none := by
  unfold qosUserSchedulerSet at run
  rw [if_neg fun missing => stored missing.2] at run
  by_cases accepts : npu = .success
  · rw [accepts] at run
    have listed := qosSchedulerListUpdate_stored user o prev stored
    dsimp only at run
    rw [run] at listed
    exact ⟨listed.1.trans (and_iff_right accepts).symm, listed.2⟩
  · have refused : (s, npu) = (t, status) := by
      cases npu with
      | success => exact absurd rfl accepts
      | _ => exact run
    cases refused
    exact ⟨iff_of_false accepts fun both => accepts both.1, fun _ => Iff.rfl⟩

end Schedulers

theorem setDefaultSchedulerLoop_success_iff (npu : ObjectId → SaiStatus) (children : List ObjectId) :
    ∀ s : QosState, s.schedulerTree.get s.defaultSchedId ≠ none →
      ((setDefaultSchedulerLoop npu children s).2 = .success ↔
        ∀ childId ∈ children, ChildSchedulable s npu childId) := by
  induction children with
  | nil => exact fun s _ => iff_of_true rfl fun childId member => absurd member List.not_mem_nil
  | cons childId rest ih =>
    intro s default
    rw [List.forall_mem_cons]
    rcases setDefaultSchedulerLoop_cons npu childId rest s with
      ⟨none, ended⟩ | ⟨user, prev, v, result, _, reads, found, run, ended⟩
    · rw [ended]
      refine iff_of_false SaiStatus.noConfusion fun both => ?_
      obtain ⟨prev, held, _⟩ := both.1.left
      rw [none] at held
      cases held
    have accepted : result = .success ↔ ChildSchedulable s npu childId := by
      refine (qosUserSchedulerSet_stored default run).1.trans
        ⟨fun both => ⟨⟨prev, ?_, both.2⟩, both.1⟩, fun able => ?_⟩
      · rw [reads, found]
      · obtain ⟨old, held, left⟩ := able.left
        rw [reads, found] at held
        cases held
        exact ⟨able.npu, left⟩
    rcases ended with ⟨error, ended⟩ | ⟨success, goesOn⟩
    · rw [ended]
      exact iff_of_false error fun both => error (accepted.mpr both.1)
    have frame := qosUserSchedulerSet_frame run
    have sameDefault : v.defaultSchedId = s.defaultSchedId := by rw [frame]
    rw [sameDefault] at goesOn
    have ids : ∀ other o, qosSchedulerIdGet (qosSchedulerIdSet v user childId s.defaultSchedId) other o =
        if other = user ∧ o = childId then some s.defaultSchedId else qosSchedulerIdGet s other o :=
      qosSchedulerIdSet_ids found frame
    have tree : ∀ k, (qosSchedulerIdSet v user childId s.defaultSchedId).schedulerTree.get k = none ↔
        s.schedulerTree.get k = none := by
      intro k
      rw [← (qosUserSchedulerSet_stored default run).2 k]
      cases user <;> exact Iff.rfl
    have isDefault : (qosSchedulerIdSet v user childId s.defaultSchedId).defaultSchedId = s.defaultSchedId := by
      rw [← sameDefault]
      cases user <;> rfl
    rw [goesOn, ih _ (by rw [isDefault]; exact fun gone => default ((tree _).mp gone)),
      and_iff_right (accepted.mp success)]
    -- what the turn did changes nothing for the children after it
    refine forall₂_congr fun other _ => ?_
    by_cases same : other = childId
    · rw [same]
      refine iff_of_true ⟨⟨s.defaultSchedId, ?_, fun _ gone => default ((tree _).mp gone)⟩, ?_⟩
        (accepted.mp success)
      · rw [reads, ids, if_pos ⟨rfl, rfl⟩]
      · exact (accepted.mp success).npu
    have held : qosChildSchedulerIdGet (qosSchedulerIdSet v user childId s.defaultSchedId) other =
        qosChildSchedulerIdGet s other := by
      unfold qosChildSchedulerIdGet
      split
      · exact (ids _ other).trans (if_neg fun both => same both.2)
      · exact (ids _ other).trans (if_neg fun both => same both.2)
      · rfl
    constructor
    · rintro ⟨⟨prev, names, left⟩, takes⟩
      exact ⟨⟨prev, held ▸ names, fun nonnull gone => left nonnull ((tree prev).mpr gone)⟩, takes⟩
    · rintro ⟨⟨prev, names, left⟩, takes⟩
      exact ⟨⟨prev, held.trans names, fun nonnull gone => left nonnull ((tree prev).mp gone)⟩, takes⟩

theorem setDefaultSchedulerLoop_default {s t : QosState} {npu : ObjectId → SaiStatus} {children : List ObjectId}
    (notNull : s.defaultSchedId ≠ nullObjectId) (nonempty : children ≠ [])
    (run : setDefaultSchedulerLoop npu children s = (t, .success)) : s.schedulerTree.get s.defaultSchedId ≠ none := by
  obtain ⟨childId, rest, rfl⟩ := List.exists_cons_of_ne_nil nonempty
  rcases setDefaultSchedulerLoop_cons npu childId rest s with
    ⟨_, ended⟩ | ⟨user, prev, v, result, _, _, _, set, ⟨error, ended⟩ | ⟨rfl, _⟩⟩
  · cases ended.symm.trans run
  · cases ended.symm.trans run
    exact absurd rfl error
  · intro gone
    unfold qosUserSchedulerSet at set
    rw [if_pos ⟨notNull, gone⟩] at set
    cases set

theorem addChildObjectToGroup_success_iff {s : QosState} {sgId : ObjectId} {children : List ObjectId}
    {npu : SaiStatus} : (∃ t, addChildObjectToGroup s sgId children npu = some (t, .success)) ↔
      qosSchedGroupChildListValidate s sgId children true = .success ∧ s.schedGroupTree.get sgId ≠ none ∧
        npu = .success := by
  constructor
  · rintro ⟨t, run⟩
    rcases @HierarchyCall.run_cases s t (.addChild sgId children npu) _ run with
      ⟨_, error⟩ | ⟨_, _, isAdd, ⟨same, rfl⟩ | ⟨same, _⟩, free, stored, _⟩
    · exact absurd rfl error
    · cases same
      exact ⟨free, stored, rfl⟩
    · cases same
  · rintro ⟨free, stored, rfl⟩
    obtain ⟨group, found⟩ := Option.ne_none_iff_exists'.mp stored
    have known := (qosSchedGroupChildListValidate_success free).2
    refine ⟨(qosSchedGroupAndChildNodesLoop sgId true children s).1, ?_⟩
    unfold addChildObjectToGroup qosSchedGroupAndChildNodesUpdate
    rw [free, found]
    exact congrArg some (Prod.ext rfl (qosSchedGroupAndChildNodesLoop_status sgId true children s
      fun childId member => ⟨_, known childId member⟩))

section Link
variable {platform : QosPlatform} {s t : QosState} {portId : ObjectId} {port : QosPort} {level : BitVec 32}
  {group : HqosGroup} {addChild : SaiStatus} {childScheduler : ObjectId → SaiStatus}

theorem qosHqosGroupLink_success_iff :
    (∃ t, qosHqosGroupLink platform portId port level group addChild childScheduler s = some (t, .success)) ↔
      HqosGroupAccepted platform portId port level group addChild childScheduler s := by
  -- an addition leaves the schedulers alone, so that the children can be looked at before it
  have before : ∀ {v : QosState} {sgId : ObjectId} {childList : List ObjectId},
      addChildObjectToGroup s sgId childList addChild = some (v, .success) →
      v.defaultSchedId = s.defaultSchedId ∧ v.schedulerTree = s.schedulerTree ∧
        ∀ childId, ChildSchedulable v childScheduler childId ↔ ChildSchedulable s childScheduler childId := by
    intro v sgId childList added
    obtain ⟨kept, tree, ids⟩ := addChildObjectToGroup_kept added
    have reads : ∀ childId, qosChildSchedulerIdGet v childId = qosChildSchedulerIdGet s childId := by
      intro childId
      unfold qosChildSchedulerIdGet
      rw [ids, ids]
    refine ⟨kept.default, tree, fun childId => ⟨fun able => ?_, fun able => ?_⟩⟩
    · have left := able.left
      rw [reads, tree] at left
      exact ⟨left, able.npu⟩
    · have left := able.left
      rw [← reads, ← tree] at left
      exact ⟨left, able.npu⟩
  constructor
  · rintro ⟨t, run⟩
    unfold qosHqosGroupLink at run
    split at run
    · rename_i failed
      cases run
      exact absurd rfl (qosIndexedSchedGroupIdGet_error failed)
    rename_i sgId listed
    split at run
    · rename_i childless
      exact .childless ⟨sgId, listed⟩ (List.length_eq_zero_iff.mp childless)
    split at run
    · rename_i failed
      cases run
      exact absurd rfl (qosHqosChildrenGet_error failed)
    rename_i childList found
    split at run
    · cases run
    · rename_i v added
      obtain ⟨free, stored, taken⟩ := addChildObjectToGroup_success_iff.mp ⟨v, added⟩
      obtain ⟨default, tree, able⟩ := before added
      have nonempty : childList ≠ [] := by
        rintro rfl
        unfold qosSchedGroupChildListValidate at free
        rw [if_pos List.length_nil, ite_self] at free
        cases free
      have loop := Option.some.inj run
      unfold setDefaultScheduler at loop
      split at loop
      · cases loop
      rename_i notNull
      have there := setDefaultSchedulerLoop_default notNull nonempty loop
      have all := (setDefaultSchedulerLoop_success_iff childScheduler childList v there).mp (congrArg Prod.snd loop)
      rw [default] at notNull there
      rw [tree] at there
      exact .children listed found free stored taken notNull there
        fun childId member => (able childId).mp (all childId member)
    · rename_i error _
      cases run
      exact absurd rfl error
  · intro accepted
    unfold qosHqosGroupLink
    cases accepted with
    | childless listed childless =>
      obtain ⟨sgId, listed⟩ := listed
      rw [listed, childless]
      exact ⟨s, rfl⟩
    | @children sgId childList listed found free stored taken notNull default scheduled =>
      rw [listed]
      dsimp only
      split
      · exact ⟨s, rfl⟩
      rw [found]
      dsimp only
      obtain ⟨v, added⟩ := addChildObjectToGroup_success_iff.mpr ⟨free, stored, taken⟩
      obtain ⟨same, tree, able⟩ := before added
      rw [added]
      refine ⟨(setDefaultScheduler v childList childScheduler).1, congrArg some (Prod.ext rfl ?_)⟩
      unfold setDefaultScheduler
      rw [same, if_neg notNull]
      exact (setDefaultSchedulerLoop_success_iff childScheduler childList v (by rw [same, tree]; exact default)).mpr
        fun childId member => (able childId).mpr (scheduled childId member)

theorem qosHqosGroupsLink_success_iff (links : List ((BitVec 32 × HqosGroup) × SaiStatus)) :
    ∀ s, (∃ t, qosHqosGroupsLink platform portId port childScheduler links s = some (t, .success)) ↔
      HqosGroupsAccepted platform portId port childScheduler links s := by
  induction links with
  | nil => exact fun s => iff_of_true ⟨s, rfl⟩ trivial
  | cons link rest ih =>
    intro s
    obtain ⟨⟨level, group⟩, addChild⟩ := link
    unfold HqosGroupsAccepted
    rw [← qosHqosGroupLink_success_iff]
    constructor
    · rintro ⟨t, run⟩
      unfold qosHqosGroupsLink at run
      split at run
      · cases run
      · rename_i v linked
        refine ⟨⟨v, linked⟩, fun u status again => ?_⟩
        cases linked.symm.trans again
        exact (ih v).mp ⟨t, run⟩
      · rename_i error _
        cases run
        exact absurd rfl error
    · rintro ⟨⟨v, linked⟩, later⟩
      obtain ⟨t, run⟩ := (ih v).mpr (later v .success linked)
      refine ⟨t, ?_⟩
      unfold qosHqosGroupsLink
      rw [linked]
      exact run

end Link

/-- The port's node with all queues and groups of the configuration in its lists. -/
def qosPortNodeBuilt (platform : QosPlatform) (portId : ObjectId) (env : PortInitEnv) : QosPort :=
  { qosPortNodeInit with
    queueList := (platform.queueCreates portId env).map queueCreateId
    schedGroupList := (platform.groupCreates portId env).map groupCreateEntry }

/-- The answers let the default hierarchy be created and linked; the groups are
linked in the state that their creation leaves. -/
structure PortHierarchyAccepted (platform : QosPlatform) (s : QosState) (portId : ObjectId) (env : PortInitEnv) :
    Prop where
  root : env.rootSchedGroupInit = .success
  groups : GroupsAccepted s (platform.groupCreates portId env)
  links : HqosGroupsAccepted platform portId (qosPortNodeBuilt platform portId env) env.childScheduler
    (platform.groupLinks portId env) (qosPortSchedGroupsInit platform (qosPortQueueAllInit platform
      { s with portTree := s.portTree.put portId qosPortNodeInit } portId env).1 portId env).1

/-- After the queues, the phase of the hierarchy succeeds exactly on these answers. -/
theorem PortBuilt.hierarchy_success_iff {platform : QosPlatform} {s t : QosState} {portId : ObjectId}
    {env : PortInitEnv}
    (built : PortBuilt s t portId ((platform.queueCreates portId env).map queueCreateId) [])
    (queues : (qosPortQueueAllInit platform { s with portTree := s.portTree.put portId qosPortNodeInit } portId
      env).1 = t) :
    (∃ u, qosPortDefaultHierarchyInit platform t portId env = some (u, .success)) ↔
      PortHierarchyAccepted platform s portId env := by
  by_cases root : env.rootSchedGroupInit = .success
  · rcases built.schedGroupsInit platform env root with
      ⟨v, done, all, whole⟩ | ⟨v, error, part, failed, refused, notAll, _⟩
    · have linked : qosHierarchyCreate platform v portId env = qosHqosGroupsLink platform portId
          (qosPortNodeBuilt platform portId env) env.childScheduler (platform.groupLinks portId env) v := by
        unfold qosHierarchyCreate
        rw [whole.port]
        rfl
      unfold qosPortDefaultHierarchyInit
      rw [done]
      dsimp only
      rw [linked, qosHqosGroupsLink_success_iff]
      constructor
      · intro links
        refine ⟨root, all, ?_⟩
        rw [queues, done]
        exact links
      · intro accepted
        have links := accepted.links
        rw [queues, done] at links
        exact links
    · rw [qosPortDefaultHierarchyInit_failed failed refused]
      refine iff_of_false ?_ fun accepted => notAll accepted.groups
      rintro ⟨u, run⟩
      cases run
      exact refused rfl
  · rw [qosPortDefaultHierarchyInit_failed (built.schedGroupsInit_root root) root]
    refine iff_of_false ?_ fun accepted => root accepted.root
    rintro ⟨u, run⟩
    exact root (congrArg Prod.snd (Option.some.inj run))

end SaiCommon
