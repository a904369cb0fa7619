import SaiCommon.Lib.Forest
import SaiCommon.Lib.Runs
import SaiCommon.Qos.Hierarchy

namespace SaiCommon

open KeyTree

variable {call : HierarchyCall} {cs : List ObjectId} {d c sgId g : ObjectId} {t s : QosState} {status : SaiStatus}
  {info : HierarchyInfo} {isAdd : Bool}

/-- All linked children of a group, whatever their kind. -/
def HierarchyInfo.children (info : HierarchyInfo) : List ObjectId :=
  info.childQueueList ++ info.childSchedGroupList

/-- `c` names `g` as its parent group. -/
def hierarchyParent (s : QosState) (c g : ObjectId) : Prop :=
  qosChildParentIdGet s c = some g ∧ g ≠ nullObjectId

/-- How often `c` is linked, over the child lists of all groups. -/
def hierarchyLinkCount (s : QosState) (c : ObjectId) : Nat :=
  s.schedGroupTree.weigh fun _ node => node.hqosInfo.children.count c

structure HierarchyLinked (s : QosState) : Prop where
  groupKey : ∀ g node, s.schedGroupTree.get g = some node → g.objType = .schedulerGroup
  queueKind : ∀ g node c, s.schedGroupTree.get g = some node →
    c ∈ node.hqosInfo.childQueueList → c.objType = .queue
  groupKind : ∀ g node c, s.schedGroupTree.get g = some node →
    c ∈ node.hqosInfo.childSchedGroupList → c.objType = .schedulerGroup
  nodup : ∀ g node, s.schedGroupTree.get g = some node → node.hqosInfo.children.Nodup
  linked : ∀ g node c, s.schedGroupTree.get g = some node →
    (c ∈ node.hqosInfo.children ↔ qosChildParentIdGet s c = some g)
  parentStored : ∀ c g, hierarchyParent s c g → s.schedGroupTree.get g ≠ none
  counted : ∀ g node, s.schedGroupTree.get g = some node →
    node.hqosInfo.childCount = node.hqosInfo.children.length

@[simp] theorem HierarchyInfo.childUpdate_parent (info : HierarchyInfo) (c : ObjectId) (isAdd : Bool) :
    (info.childUpdate c isAdd).parentSchedGroupId = info.parentSchedGroupId := by
  unfold childUpdate
  split <;> rfl

theorem HierarchyInfo.childUpdate_congr {info' : HierarchyInfo}
    (queues : info.childQueueList = info'.childQueueList)
    (groups : info.childSchedGroupList = info'.childSchedGroupList) (count : info.childCount = info'.childCount) :
    (info.childUpdate c isAdd).childQueueList = (info'.childUpdate c isAdd).childQueueList ∧
    (info.childUpdate c isAdd).childSchedGroupList = (info'.childUpdate c isAdd).childSchedGroupList ∧
    (info.childUpdate c isAdd).childCount = (info'.childUpdate c isAdd).childCount := by
  unfold childUpdate
  rw [queues, groups, count]
  split <;> exact ⟨rfl, rfl, rfl⟩

theorem HierarchyInfo.mem_childQueueList (member : d ∈ (info.childUpdate c isAdd).childQueueList) :
    d ∈ info.childQueueList ∨ d = c ∧ c.objType = .queue := by
  unfold childUpdate at member
  split at member
  · rename_i kind
    rcases List.mem_append.mp member with before | last
    · exact Or.inl before
    · exact Or.inr ⟨List.mem_singleton.mp last, kind⟩
  · exact Or.inl (List.mem_of_mem_erase member)
  · exact Or.inl member
  · exact Or.inl member

theorem HierarchyInfo.mem_childSchedGroupList (member : d ∈ (info.childUpdate c isAdd).childSchedGroupList) :
    d ∈ info.childSchedGroupList ∨ d = c ∧ c.objType ≠ .queue := by
  unfold childUpdate at member
  split at member
  · exact Or.inl member
  · exact Or.inl member
  · rename_i other
    rcases List.mem_append.mp member with before | last
    · exact Or.inl before
    · exact Or.inr ⟨List.mem_singleton.mp last, other⟩
  · exact Or.inl (List.mem_of_mem_erase member)

theorem HierarchyInfo.childUpdate_count (info : HierarchyInfo) (c : ObjectId) (isAdd : Bool) :
    (info.childUpdate c isAdd).childCount = info.childCount + if isAdd then 1 else -1 := by
  unfold childUpdate
  split <;> simp only [if_true, Bool.false_eq_true, if_false, Int.sub_eq_add_neg]

theorem HierarchyInfo.children_add (info : HierarchyInfo) (c : ObjectId) :
    ((info.childUpdate c true).children).Perm (c :: info.children) := by
  have back : (info.childQueueList ++ [c] ++ info.childSchedGroupList).Perm
      (c :: (info.childQueueList ++ info.childSchedGroupList)) := by
    rw [List.append_assoc]
    exact List.perm_middle
  have last : (info.childQueueList ++ (info.childSchedGroupList ++ [c])).Perm
      (c :: (info.childQueueList ++ info.childSchedGroupList)) := by
    rw [← List.append_assoc]
    exact List.perm_append_singleton c _
  unfold childUpdate children
  split
  · exact back
  · contradiction
  · exact last
  · contradiction

theorem HierarchyInfo.children_remove (queueKind : ∀ d ∈ info.childQueueList, d.objType = .queue)
    (groupKind : ∀ d ∈ info.childSchedGroupList, d.objType = .schedulerGroup) (member : c ∈ info.children) :
    (info.childUpdate c false).children = info.children.erase c := by
  unfold childUpdate children at *
  split
  · contradiction
  · rename_i kind _
    rcases List.mem_append.mp member with inQueues | inGroups
    · rw [List.erase_append_left _ inQueues]
    · rw [groupKind c inGroups] at kind
      cases kind
  · contradiction
  · rename_i other
    have outside : c ∉ info.childQueueList := fun inQueues => other (queueKind c inQueues)
    rw [List.erase_append_right _ outside]

theorem qosChildParentIdGet_update {old : ObjectId}
    (named : qosChildParentIdGet s c = some old) (sgId : ObjectId) (isAdd : Bool) (d : ObjectId) :
    qosChildParentIdGet (qosSchedGroupAndChildNodeUpdate s sgId c isAdd) d =
      if d = c then some (if isAdd then sgId else nullObjectId) else qosChildParentIdGet s d := by
  have groups : ∀ (tree : KeyTree ObjectId SchedGroup) (e : ObjectId),
      ((tree.modify sgId fun g => { g with hqosInfo := g.hqosInfo.childUpdate c isAdd }).get e).map
        (fun g => g.hqosInfo.parentSchedGroupId) =
      (tree.get e).map fun g => g.hqosInfo.parentSchedGroupId := by
    intro tree e
    rw [get_modify]
    split
    · rw [Option.map_map]
      congr 1
      funext g
      exact g.hqosInfo.childUpdate_parent c isAdd
    · rfl
  by_cases same : d = c
  · subst same
    rw [if_pos rfl]
    unfold qosChildParentIdGet at named ⊢
    unfold qosSchedGroupAndChildNodeUpdate qosChildParentIdSet
    split at named
    · obtain ⟨q, stored, _⟩ := Option.map_eq_some_iff.mp named
      simp only [get_modify_self, stored, Option.map_some]
    · obtain ⟨g, stored, _⟩ := Option.map_eq_some_iff.mp named
      simp only [groups, get_modify_self, stored, Option.map_some]
    · cases named
  · rw [if_neg same]
    unfold qosChildParentIdGet qosSchedGroupAndChildNodeUpdate qosChildParentIdSet
    cases c.objType <;> cases d.objType <;>
      simp only [groups, get_modify_ne same]

theorem schedGroup_of_update {node' : SchedGroup}
    (stored : (qosSchedGroupAndChildNodeUpdate s sgId c isAdd).schedGroupTree.get g = some node') :
    ∃ node, s.schedGroupTree.get g = some node ∧ node'.hqosInfo.childQueueList =
        (if g = sgId then node.hqosInfo.childUpdate c isAdd else node.hqosInfo).childQueueList ∧
      node'.hqosInfo.childSchedGroupList =
        (if g = sgId then node.hqosInfo.childUpdate c isAdd else node.hqosInfo).childSchedGroupList ∧
      node'.hqosInfo.childCount =
        (if g = sgId then node.hqosInfo.childUpdate c isAdd else node.hqosInfo).childCount := by
  have named : ∀ parentId node', (qosChildParentIdSet s c parentId).schedGroupTree.get g = some node' →
      ∃ node, s.schedGroupTree.get g = some node ∧
        node'.hqosInfo.childQueueList = node.hqosInfo.childQueueList ∧
        node'.hqosInfo.childSchedGroupList = node.hqosInfo.childSchedGroupList ∧
        node'.hqosInfo.childCount = node.hqosInfo.childCount := by
    intro parentId node' found
    unfold qosChildParentIdSet at found
    split at found
    · exact ⟨node', found, rfl, rfl, rfl⟩
    · rw [get_modify] at found
      split at found
      · obtain ⟨node, old, rfl⟩ := Option.map_eq_some_iff.mp found
        exact ⟨node, old, rfl, rfl, rfl⟩
      · exact ⟨node', found, rfl, rfl, rfl⟩
    · exact ⟨node', found, rfl, rfl, rfl⟩
  unfold qosSchedGroupAndChildNodeUpdate at stored
  rw [get_modify] at stored
  split at stored
  · rename_i same
    obtain ⟨mid, found, rfl⟩ := Option.map_eq_some_iff.mp stored
    obtain ⟨node, old, queues, groups, count⟩ := named _ mid found
    refine ⟨node, old, ?_⟩
    simp only [if_pos same]
    exact HierarchyInfo.childUpdate_congr queues groups count
  · rename_i other
    obtain ⟨node, old, queues, groups, count⟩ := named _ node' stored
    simp only [if_neg other]
    exact ⟨node, old, queues, groups, count⟩

theorem schedGroup_stored_update (g : ObjectId) :
    (qosSchedGroupAndChildNodeUpdate s sgId c isAdd).schedGroupTree.get g = none ↔
      s.schedGroupTree.get g = none := by
  have absent : ∀ (tree : KeyTree ObjectId SchedGroup) (k : ObjectId) (f : SchedGroup → SchedGroup),
      (tree.modify k f).get g = none ↔ tree.get g = none := by
    intro tree k f
    rw [get_modify]
    split
    · exact Option.map_eq_none_iff
    · exact Iff.rfl
  unfold qosSchedGroupAndChildNodeUpdate qosChildParentIdSet
  rw [absent]
  cases c.objType <;> simp only [absent]

theorem objType_of_parent (named : qosChildParentIdGet s c = some g) :
    c.objType = .queue ∨ c.objType = .schedulerGroup := by
  unfold qosChildParentIdGet at named
  split at named
  · exact Or.inl ‹_›
  · exact Or.inr ‹_›
  · cases named

theorem nullObjectId_ne_group (kind : g.objType = .schedulerGroup) : g ≠ nullObjectId := by
  rintro rfl
  cases kind

theorem HierarchyLinked.kinds_update (linked : HierarchyLinked s)
    (sgId : ObjectId) (isAdd : Bool) (kind : c.objType = .queue ∨ c.objType = .schedulerGroup) :
    (∀ g node, (qosSchedGroupAndChildNodeUpdate s sgId c isAdd).schedGroupTree.get g = some node →
      g.objType = .schedulerGroup) ∧
    (∀ g node d, (qosSchedGroupAndChildNodeUpdate s sgId c isAdd).schedGroupTree.get g = some node →
      d ∈ node.hqosInfo.childQueueList → d.objType = .queue) ∧
    ∀ g node d, (qosSchedGroupAndChildNodeUpdate s sgId c isAdd).schedGroupTree.get g = some node →
      d ∈ node.hqosInfo.childSchedGroupList → d.objType = .schedulerGroup := by
  refine ⟨?_, ?_, ?_⟩
  · intro g node' stored
    obtain ⟨node, old, _⟩ := schedGroup_of_update stored
    exact linked.groupKey g node old
  · intro g node' d stored member
    obtain ⟨node, old, queues, _⟩ := schedGroup_of_update stored
    rw [queues] at member
    split at member
    · rcases HierarchyInfo.mem_childQueueList member with before | ⟨rfl, isQueue⟩
      · exact linked.queueKind g node d old before
      · exact isQueue
    · exact linked.queueKind g node d old member
  · intro g node' d stored member
    obtain ⟨node, old, _, groups, _⟩ := schedGroup_of_update stored
    rw [groups] at member
    split at member
    · rcases HierarchyInfo.mem_childSchedGroupList member with before | ⟨rfl, notQueue⟩
      · exact linked.groupKind g node d old before
      · exact kind.resolve_left notQueue
    · exact linked.groupKind g node d old member

theorem HierarchyLinked.add (linked : HierarchyLinked s) (group : s.schedGroupTree.get sgId ≠ none)
    (free : qosChildParentIdGet s c = some nullObjectId) :
    HierarchyLinked (qosSchedGroupAndChildNodeUpdate s sgId c true) := by
  have kindOf := objType_of_parent free
  have fresh : ∀ g node, s.schedGroupTree.get g = some node → c ∉ node.hqosInfo.children := by
    intro g node stored member
    have parent := (linked.linked g node c stored).mp member
    rw [free] at parent
    exact nullObjectId_ne_group (linked.groupKey g node stored) (Option.some.inj parent).symm
  have perm : ∀ g node', (qosSchedGroupAndChildNodeUpdate s sgId c true).schedGroupTree.get g = some node' →
      ∃ node, s.schedGroupTree.get g = some node ∧
        node'.hqosInfo.children.Perm (if g = sgId then c :: node.hqosInfo.children
          else node.hqosInfo.children) ∧
        node'.hqosInfo.childCount =
          (if g = sgId then node.hqosInfo.childUpdate c true else node.hqosInfo).childCount := by
    intro g node' stored
    obtain ⟨node, old, queues, groups, count⟩ := schedGroup_of_update stored
    refine ⟨node, old, ?_, count⟩
    unfold HierarchyInfo.children at *
    rw [queues, groups]
    split
    · exact node.hqosInfo.children_add c
    · exact .refl _
  obtain ⟨groupKey, queueKind, groupKind⟩ := linked.kinds_update sgId true kindOf
  refine ⟨groupKey, queueKind, groupKind, ?_, ?_, ?_, ?_⟩
  · intro g node' stored
    obtain ⟨node, old, same, _⟩ := perm g node' stored
    rw [same.nodup_iff]
    split
    · exact List.nodup_cons.mpr ⟨fresh g node old, linked.nodup g node old⟩
    · exact linked.nodup g node old
  · intro g node' d stored
    obtain ⟨node, old, same, _⟩ := perm g node' stored
    rw [same.mem_iff, qosChildParentIdGet_update free]
    have before := linked.linked g node d old
    by_cases here : d = c
    · subst here
      by_cases target : g = sgId
      · simp only [target, if_true, List.mem_cons, true_or]
      · simp only [if_neg target, if_true, fresh g node old, false_iff, Option.some.injEq]
        exact fun equal => target equal.symm
    · rw [if_neg here, ← before]
      split
      · simp only [List.mem_cons, here, false_or]
      · rfl
  · intro d g ⟨parent, nonnull⟩
    rw [Ne, schedGroup_stored_update]
    rw [qosChildParentIdGet_update free] at parent
    split at parent
    · cases Option.some.inj parent
      exact group
    · exact linked.parentStored d g ⟨parent, nonnull⟩
  · intro g node' stored
    obtain ⟨node, old, same, count⟩ := perm g node' stored
    rw [count, same.length_eq]
    have before := linked.counted g node old
    split
    · rw [HierarchyInfo.childUpdate_count, List.length_cons, if_pos rfl]
      omega
    · exact before

theorem HierarchyLinked.remove (linked : HierarchyLinked s) (attached : hierarchyParent s c sgId) :
    HierarchyLinked (qosSchedGroupAndChildNodeUpdate s sgId c false) := by
  obtain ⟨parent, nonnull⟩ := attached
  have erased : ∀ g node', (qosSchedGroupAndChildNodeUpdate s sgId c false).schedGroupTree.get g = some node' →
      ∃ node, s.schedGroupTree.get g = some node ∧
        node'.hqosInfo.children = (if g = sgId then node.hqosInfo.children.erase c
          else node.hqosInfo.children) ∧
        node'.hqosInfo.childCount =
          (if g = sgId then node.hqosInfo.childUpdate c false else node.hqosInfo).childCount := by
    intro g node' stored
    obtain ⟨node, old, queues, groups, count⟩ := schedGroup_of_update stored
    refine ⟨node, old, ?_, count⟩
    have lists : node'.hqosInfo.children =
        (if g = sgId then node.hqosInfo.childUpdate c false else node.hqosInfo).children := by
      unfold HierarchyInfo.children
      rw [queues, groups]
    rw [lists]
    split
    · rename_i same
      subst same
      exact HierarchyInfo.children_remove (fun d => linked.queueKind g node d old)
        (fun d => linked.groupKind g node d old) ((linked.linked g node c old).mpr parent)
    · rfl
  obtain ⟨groupKey, queueKind, groupKind⟩ :=
    linked.kinds_update sgId false (objType_of_parent parent)
  refine ⟨groupKey, queueKind, groupKind, ?_, ?_, ?_, ?_⟩
  · intro g node' stored
    obtain ⟨node, old, same, _⟩ := erased g node' stored
    rw [same]
    split
    · exact (linked.nodup g node old).erase c
    · exact linked.nodup g node old
  · intro g node' d stored
    obtain ⟨node, old, same, _⟩ := erased g node' stored
    rw [same, qosChildParentIdGet_update parent]
    have before := linked.linked g node d old
    have notNull := nullObjectId_ne_group (linked.groupKey g node old)
    by_cases here : d = c
    · subst here
      rw [if_pos rfl]
      have gone : ¬ some nullObjectId = some g := fun equal => notNull (Option.some.inj equal).symm
      split
      · simp only [(linked.nodup g node old).mem_erase_iff, ne_eq, not_true_eq_false, false_and,
          Bool.false_eq_true, if_false, gone]
      rename_i other
      rw [before, parent]
      simp only [Option.some.injEq, Bool.false_eq_true, if_false]
      exact ⟨fun equal => absurd equal.symm other, fun equal => absurd equal.symm notNull⟩
    · rw [if_neg here, ← before]
      split
      · rw [List.mem_erase_of_ne here]
      · rfl
  · intro d g ⟨named, notNull⟩
    rw [Ne, schedGroup_stored_update]
    rw [qosChildParentIdGet_update parent] at named
    split at named
    · exact absurd (Option.some.inj named).symm notNull
    · exact linked.parentStored d g ⟨named, notNull⟩
  · intro g node' stored
    obtain ⟨node, old, same, count⟩ := erased g node' stored
    rw [count, same]
    have before := linked.counted g node old
    split
    · rename_i target
      subst target
      have member := (linked.linked g node c old).mpr parent
      have positive := List.length_pos_of_mem member
      rw [HierarchyInfo.childUpdate_count, List.length_erase_of_mem member]
      simp only [Bool.false_eq_true, if_false]
      omega
    · exact before

/-- The loop over an accepted list without repetitions. Each child is as the
validation found it when its turn comes, as earlier turns touch other children. -/
theorem qosSchedGroupAndChildNodesLoop_linked (cs : List ObjectId) :
    ∀ s : QosState, HierarchyLinked s → s.schedGroupTree.get sgId ≠ none → cs.Nodup →
      sgId ≠ nullObjectId →
      (∀ c ∈ cs, qosChildParentIdGet s c = some (if isAdd then nullObjectId else sgId)) →
      ∃ t, qosSchedGroupAndChildNodesLoop sgId isAdd cs s = (t, .success) ∧ HierarchyLinked t ∧
        ∀ d, qosChildParentIdGet t d = if d ∈ cs then some (if isAdd then sgId else nullObjectId)
          else qosChildParentIdGet s d := by
  induction cs with
  | nil =>
    intro s linked _ _ _ _
    exact ⟨s, rfl, linked, fun d => by simp only [List.not_mem_nil, if_false]⟩
  | cons c cs ih =>
    intro s linked group distinct nonnull accepted
    obtain ⟨notLater, distinct⟩ := List.nodup_cons.mp distinct
    have named := accepted c (List.mem_cons_self ..)
    have step : HierarchyLinked (qosSchedGroupAndChildNodeUpdate s sgId c isAdd) := by
      cases isAdd with
      | true => exact linked.add group named
      | false => exact linked.remove ⟨named, nonnull⟩
    have parents := qosChildParentIdGet_update named sgId isAdd
    obtain ⟨t, done, linkedT, parentsT⟩ := ih (qosSchedGroupAndChildNodeUpdate s sgId c isAdd) step
      (by rw [Ne, schedGroup_stored_update]; exact group) distinct nonnull (by
        intro d member
        have other : d ≠ c := fun same => notLater (same ▸ member)
        rw [parents d, if_neg other]
        exact accepted d (List.mem_cons_of_mem c member))
    refine ⟨t, ?_, linkedT, ?_⟩
    · unfold qosSchedGroupAndChildNodesLoop
      unfold qosChildParentIdGet at named
      split at named
      · obtain ⟨q, stored, _⟩ := Option.map_eq_some_iff.mp named
        simp only [stored, done]
      · obtain ⟨g, stored, _⟩ := Option.map_eq_some_iff.mp named
        simp only [stored, done]
      · cases named
    · intro d
      rw [parentsT d, parents d]
      by_cases here : d = c
      · simp only [here, List.mem_cons, true_or, if_true, ite_self]
      · simp only [List.mem_cons, here, false_or, if_false]

theorem qosSchedGroupChildrenValidate_success (accepted : qosSchedGroupChildrenValidate s sgId isAdd cs = .success) :
    ∀ c ∈ cs, qosChildParentIdGet s c = some (if isAdd then nullObjectId else sgId) := by
  induction cs with
  | nil => simp only [List.not_mem_nil, false_implies, implies_true]
  | cons c cs ih =>
    unfold qosSchedGroupChildrenValidate at accepted
    split at accepted
    · rename_i one
      intro d member
      rcases List.mem_cons.mp member with rfl | later
      · unfold qosSchedGroupChildValidate at one
        split at one
        · cases one
        split at one
        · cases one
        rename_i parentId named
        rw [named]
        cases isAdd <;> simp only [Bool.false_eq_true, if_true, if_false, ne_eq, ite_not] at one ⊢
        · split at one
          · cases one
          split at one
          · rename_i same
            rw [same]
          · cases one
        · split at one
          · cases one
          split at one
          · rename_i same
            rw [same]
          · cases one
      · exact ih accepted d later
    · rename_i error
      exact absurd accepted error

theorem qosSchedGroupChildListValidate_success (accepted : qosSchedGroupChildListValidate s sgId cs isAdd = .success) :
    sgId.objType = .schedulerGroup ∧
      ∀ c ∈ cs, qosChildParentIdGet s c = some (if isAdd then nullObjectId else sgId) := by
  unfold qosSchedGroupChildListValidate at accepted
  split at accepted
  · cases accepted
  rename_i kind
  split at accepted
  · cases accepted
  · exact ⟨Decidable.not_not.mp kind, qosSchedGroupChildrenValidate_success accepted⟩

/-- A call that passes is the update of an accepted list; any other call
leaves the database as it was. -/
theorem HierarchyCall.run_cases {t : QosState} {call : HierarchyCall} {status : SaiStatus}
    (run : call.run s = some (t, status)) : t = s ∧ status ≠ .success ∨
    ∃ sgId cs isAdd, (call = .addChild sgId cs .success ∧ isAdd = true ∨
        call = .removeChild sgId cs .success ∧ isAdd = false) ∧
      qosSchedGroupChildListValidate s sgId cs isAdd = .success ∧ s.schedGroupTree.get sgId ≠ none ∧
      qosSchedGroupAndChildNodesLoop sgId isAdd cs s = (t, status) := by
  have updated : ∀ sgId cs isAdd, qosSchedGroupAndChildNodesUpdate s sgId cs isAdd = some (t, status) →
      s.schedGroupTree.get sgId ≠ none ∧
        qosSchedGroupAndChildNodesLoop sgId isAdd cs s = (t, status) := by
    intro sgId cs isAdd update
    unfold qosSchedGroupAndChildNodesUpdate at update
    split at update
    · cases update
    · rename_i stored
      exact ⟨by rw [stored]; exact Option.some_ne_none _, Option.some.inj update⟩
  cases call with
  | addChild sgId cs npu =>
    unfold HierarchyCall.run addChildObjectToGroup at run
    simp only at run
    split at run
    · rename_i accepted
      split at run
      · exact Or.inr ⟨sgId, cs, true, Or.inl ⟨rfl, rfl⟩, accepted, updated sgId cs true run⟩
      rename_i error
      cases run
      exact Or.inl ⟨rfl, error⟩
    · rename_i error
      cases run
      exact Or.inl ⟨rfl, error⟩
  | removeChild sgId cs npu =>
    unfold HierarchyCall.run removeChildObjectFromGroup at run
    simp only at run
    split at run
    · rename_i accepted
      split at run
      · exact Or.inr ⟨sgId, cs, false, Or.inr ⟨rfl, rfl⟩, accepted, updated sgId cs false run⟩
      rename_i error
      cases run
      exact Or.inl ⟨rfl, error⟩
    · rename_i error
      cases run
      exact Or.inl ⟨rfl, error⟩

theorem qosSchedGroupAndChildNodesLoop_status (sgId : ObjectId) (isAdd : Bool) (cs : List ObjectId) :
    ∀ s : QosState, (∀ c ∈ cs, ∃ parentId, qosChildParentIdGet s c = some parentId) →
      (qosSchedGroupAndChildNodesLoop sgId isAdd cs s).2 = .success := by
  induction cs with
  | nil => exact fun _ _ => rfl
  | cons c cs ih =>
    intro s known
    obtain ⟨parentId, named⟩ := known c (List.mem_cons_self ..)
    have later := ih (qosSchedGroupAndChildNodeUpdate s sgId c isAdd) (by
      intro d member
      rw [qosChildParentIdGet_update named]
      split
      · exact ⟨_, rfl⟩
      · exact known d (List.mem_cons_of_mem c member))
    unfold qosSchedGroupAndChildNodesLoop
    unfold qosChildParentIdGet at named
    split at named
    · obtain ⟨q, stored, _⟩ := Option.map_eq_some_iff.mp named
      simp only [stored, later]
    · obtain ⟨g, stored, _⟩ := Option.map_eq_some_iff.mp named
      simp only [stored, later]
    · cases named

theorem HierarchyCall.unchanged_of_error
    (run : call.run s = some (t, status)) (error : status ≠ .success) : t = s := by
  rcases HierarchyCall.run_cases run with ⟨same, _⟩ | ⟨sgId, cs, isAdd, _, accepted, _, loop⟩
  · exact same
  have children := (qosSchedGroupChildListValidate_success accepted).2
  have done := qosSchedGroupAndChildNodesLoop_status sgId isAdd cs s
    fun c member => ⟨_, children c member⟩
  rw [loop] at done
  exact absurd done error

/-- The scheduler groups and queues as their creation leaves them, under ids
of their own kind. -/
structure HierarchyFresh (s : QosState) : Prop where
  groups : ∀ g node, s.schedGroupTree.get g = some node →
    g.objType = .schedulerGroup ∧ node.hqosInfo = ⟨nullObjectId, 0, [], []⟩
  queues : ∀ q node, s.queueTree.get q = some node → node.parentSchedGroupId = nullObjectId

theorem HierarchyFresh.parent (fresh : HierarchyFresh s)
    (named : qosChildParentIdGet s c = some g) : g = nullObjectId := by
  unfold qosChildParentIdGet at named
  split at named
  · obtain ⟨q, stored, rfl⟩ := Option.map_eq_some_iff.mp named
    exact fresh.queues c q stored
  · obtain ⟨node, stored, rfl⟩ := Option.map_eq_some_iff.mp named
    rw [(fresh.groups c node stored).2]
  · cases named

theorem HierarchyFresh.linked (fresh : HierarchyFresh s) : HierarchyLinked s := by
  have noChild : ∀ g node, s.schedGroupTree.get g = some node → node.hqosInfo.children = [] := by
    intro g node stored
    rw [(fresh.groups g node stored).2]
    rfl
  refine ⟨fun g node stored => (fresh.groups g node stored).1, ?_, ?_, ?_, ?_, ?_, ?_⟩
  · intro g node c stored member
    rw [(fresh.groups g node stored).2] at member
    cases member
  · intro g node c stored member
    rw [(fresh.groups g node stored).2] at member
    cases member
  · intro g node stored
    rw [noChild g node stored]
    exact .nil
  · intro g node c stored
    rw [noChild g node stored]
    refine ⟨fun member => absurd member List.not_mem_nil, fun named => ?_⟩
    exact absurd (fresh.parent named) (nullObjectId_ne_group (fresh.groups g node stored).1)
  · intro c g ⟨named, nonnull⟩
    exact absurd (fresh.parent named) nonnull
  · intro g node stored
    rw [noChild g node stored, (fresh.groups g node stored).2]
    rfl

structure HierarchyForest (s : QosState) : Prop where
  linkedOnce : ∀ c, hierarchyLinkCount s c ≤ 1
  linked : ∀ g node c, s.schedGroupTree.get g = some node →
    (c ∈ node.hqosInfo.children ↔ qosChildParentIdGet s c = some g)
  parentStored : ∀ c g, hierarchyParent s c g → s.schedGroupTree.get g ≠ none
  counted : ∀ g node, s.schedGroupTree.get g = some node →
    node.hqosInfo.childCount = node.hqosInfo.children.length
  acyclic : Forest.Acyclic (hierarchyParent s)

theorem HierarchyLinked.linkCount_le_one (linked : HierarchyLinked s) (c : ObjectId) :
    hierarchyLinkCount s c ≤ 1 := by
  unfold hierarchyLinkCount
  refine weigh_le_one ?_ ?_
  · intro g node stored
    exact List.nodup_iff_count_le_one.mp (linked.nodup g node stored) c
  · intro g node g' node' stored stored' here here'
    have parent := (linked.linked g node c stored).mp (List.count_pos_iff.mp here)
    have parent' := (linked.linked g' node' c stored').mp (List.count_pos_iff.mp here')
    exact Option.some.inj (parent.symm.trans parent')

/-- An accepted list fits the forest when it names each child once and, on an
add, neither the group itself nor a group above it. -/
def HierarchyCall.Fits (s : QosState) : HierarchyCall → Prop
  | .addChild sgId cs npu =>
    qosSchedGroupChildListValidate s sgId cs true = .success → npu = .success →
      cs.Nodup ∧ ∀ c ∈ cs, ¬ Relation.ReflTransGen (hierarchyParent s) sgId c
  | .removeChild sgId cs npu =>
    qosSchedGroupChildListValidate s sgId cs false = .success → npu = .success → cs.Nodup

def hierarchyStep (ok : QosState → HierarchyCall → Prop) (s : QosState) (call : HierarchyCall)
    (t : QosState) : Prop :=
  ok s call ∧ ∃ status, call.run s = some (t, status)

theorem HierarchyLinked.step (linked : HierarchyLinked s) (acyclic : Forest.Acyclic (hierarchyParent s))
    (fits : call.Fits s) (run : call.run s = some (t, status)) :
    HierarchyLinked t ∧ Forest.Acyclic (hierarchyParent t) := by
  rcases HierarchyCall.run_cases run with ⟨rfl, _⟩ | ⟨sgId, cs, isAdd, which, accepted, group, loop⟩
  · exact ⟨linked, acyclic⟩
  obtain ⟨kind, children⟩ := qosSchedGroupChildListValidate_success accepted
  have distinct : cs.Nodup := by
    rcases which with ⟨rfl, rfl⟩ | ⟨rfl, rfl⟩
    · exact (fits accepted rfl).1
    · exact fits accepted rfl
  obtain ⟨t', done, linkedT, parents⟩ := qosSchedGroupAndChildNodesLoop_linked cs s linked group
    distinct (nullObjectId_ne_group kind) children
  cases (loop.symm.trans done)
  refine ⟨linkedT, ?_⟩
  rcases which with ⟨rfl, rfl⟩ | ⟨rfl, rfl⟩
  · refine acyclic.attach cs sgId ?_ (fits accepted rfl).2
    intro c g ⟨named, nonnull⟩
    rw [parents c] at named
    split at named
    · rename_i member
      exact Or.inr ⟨member, (Option.some.inj named).symm⟩
    · exact Or.inl ⟨named, nonnull⟩
  · refine acyclic.of_le ?_
    intro c g ⟨named, nonnull⟩
    rw [parents c] at named
    split at named
    · exact absurd (Option.some.inj named).symm nonnull
    · exact ⟨named, nonnull⟩

/-- In every run whose accepted lists fit, the scheduler hierarchy stays a
forest whose links, parent ids and child counts agree, and a call that
returns an error changes nothing. -/
theorem hierarchy_forest {s : QosState}
    (reach : Runs.Reach HierarchyFresh (hierarchyStep fun s call => call.Fits s) s) :
    HierarchyForest s ∧ ∀ (call : HierarchyCall) (t : QosState) (status : SaiStatus),
      call.run s = some (t, status) → status ≠ .success → t = s := by
  have invariant : HierarchyLinked s ∧ Forest.Acyclic (hierarchyParent s) := by
    refine reach.invariant (fun s => HierarchyLinked s ∧ Forest.Acyclic (hierarchyParent s)) ?_ ?_
    · intro s fresh
      refine ⟨fresh.linked, ?_⟩
      exact Forest.acyclic_of_rootless fun c g ⟨named, nonnull⟩ => nonnull (fresh.parent named)
    · intro s call t ⟨linked, acyclic⟩ ⟨fits, status, run⟩
      exact linked.step acyclic fits run
  obtain ⟨linked, acyclic⟩ := invariant
  refine ⟨⟨linked.linkCount_le_one, linked.linked, linked.parentStored, linked.counted, acyclic⟩, ?_⟩
  intro call t status run error
  exact HierarchyCall.unchanged_of_error run error

def hierarchySample : QosState where
  portTree := ∅
  queueTree := ((∅ : KeyTree ObjectId Queue).put ⟨.queue, 1⟩
    ⟨⟨.port, 1⟩, .unicast, nullObjectId, nullObjectId, nullObjectId, nullObjectId⟩).put ⟨.queue, 2⟩
    ⟨⟨.port, 1⟩, .multicast, nullObjectId, nullObjectId, nullObjectId, nullObjectId⟩
  pgTree := ∅
  schedGroupTree := ((∅ : KeyTree ObjectId SchedGroup).put ⟨.schedulerGroup, 1⟩
    ⟨⟨.port, 1⟩, 0, 8, nullObjectId, ⟨nullObjectId, 0, [], []⟩⟩).put ⟨.schedulerGroup, 2⟩
    ⟨⟨.port, 1⟩, 1, 8, nullObjectId, ⟨nullObjectId, 0, [], []⟩⟩
  schedulerTree := ∅
  bufferPoolTree := ∅
  bufferProfileTree := ∅
  defaultSchedId := nullObjectId

theorem hierarchySample_fresh : HierarchyFresh hierarchySample := by
  constructor
  · intro g node stored
    simp only [hierarchySample, get_put, get_empty] at stored
    split at stored
    · rename_i same
      cases stored
      exact ⟨by rw [same], rfl⟩
    split at stored
    · rename_i same
      cases stored
      exact ⟨by rw [same], rfl⟩
    · cases stored
  · intro q node stored
    simp only [hierarchySample, get_put, get_empty] at stored
    split at stored
    · cases stored
      rfl
    split at stored
    · cases stored
      rfl
    · cases stored

/-- Under a group that hangs under no other, no list of other objects closes a cycle. -/
theorem HierarchyCall.fits_root {sgId : ObjectId} {cs : List ObjectId} (distinct : cs.Nodup) (apart : sgId ∉ cs)
    (root : qosChildParentIdGet s sgId = some nullObjectId) (npu : SaiStatus) :
    (HierarchyCall.addChild sgId cs npu).Fits s := by
  refine fun _ _ => ⟨distinct, fun c member path => ?_⟩
  rcases Relation.ReflTransGen.cases_head path with rfl | ⟨g, ⟨named, nonnull⟩, _⟩
  · exact apart member
  · exact nonnull (Option.some.inj (named.symm.trans root))

def hierarchySampleQueues : HierarchyCall :=
  .addChild ⟨.schedulerGroup, 2⟩ [⟨.queue, 1⟩, ⟨.queue, 2⟩] .success

def hierarchySampleGroup : HierarchyCall := .addChild ⟨.schedulerGroup, 1⟩ [⟨.schedulerGroup, 2⟩] .success

/-- Two queues go under a group, which then goes under another. -/
theorem hierarchy_forest_sample : ∃ t u, hierarchySampleQueues.run hierarchySample = some (t, .success) ∧
    hierarchySampleGroup.run t = some (u, .success) ∧ HierarchyForest u ∧
    qosChildParentIdGet u ⟨.queue, 2⟩ = some ⟨.schedulerGroup, 2⟩ ∧
    qosChildParentIdGet u ⟨.schedulerGroup, 2⟩ = some ⟨.schedulerGroup, 1⟩ := by
  obtain ⟨t, u, first, second, root, parents⟩ : ∃ t u,
      hierarchySampleQueues.run hierarchySample = some (t, .success) ∧
      hierarchySampleGroup.run t = some (u, .success) ∧
      qosChildParentIdGet t ⟨.schedulerGroup, 1⟩ = some nullObjectId ∧
      qosChildParentIdGet u ⟨.queue, 2⟩ = some ⟨.schedulerGroup, 2⟩ ∧
      qosChildParentIdGet u ⟨.schedulerGroup, 2⟩ = some ⟨.schedulerGroup, 1⟩ :=
      ⟨_, _, rfl, rfl, rfl, rfl, rfl⟩
  have fitsFirst : hierarchySampleQueues.Fits hierarchySample :=
    HierarchyCall.fits_root (by decide) (by decide) rfl .success
  have fitsSecond : hierarchySampleGroup.Fits t := HierarchyCall.fits_root (by decide) (by decide) root .success
  exact ⟨t, u, first, second, (hierarchy_forest (.next (.next (.start hierarchySample_fresh)
    ⟨fitsFirst, _, first⟩) ⟨fitsSecond, _, second⟩)).1, parents⟩

/-- A queue given twice in one accepted list is linked twice. -/
theorem hierarchy_not_forest : ¬ ∀ s, Runs.Reach HierarchyFresh (hierarchyStep fun _ _ => True) s →
    HierarchyForest s := by
  intro all
  let twice := HierarchyCall.addChild ⟨.schedulerGroup, 1⟩ [⟨.queue, 1⟩, ⟨.queue, 1⟩] .success
  have run : ∃ t, twice.run hierarchySample = some (t, .success) ∧
      hierarchyLinkCount t ⟨.queue, 1⟩ = 2 := ⟨_, rfl, by decide⟩
  obtain ⟨t, run, count⟩ := run
  have forest := all t (.next (.start hierarchySample_fresh) ⟨trivial, _, run⟩)
  have once := forest.linkedOnce ⟨.queue, 1⟩
  omega

end SaiCommon
