import SaiCommon.Qos.PortHierarchy
import SaiCommon.Qos.PortLists

namespace SaiCommon

variable {q sg sgId : ObjectId} {node : Queue} {attr : SchedGroupAttr} {status : SaiStatus}

section Objects
variable {platform : QosPlatform} {s t : QosState}

theorem qosPortQueueListUpdate_cases (s : QosState) (queueId : ObjectId) (node : Queue) (isAdd : Bool) :
    s.portTree.get node.portId = none ∧
      qosPortQueueListUpdate s queueId node isAdd = (s, .invalidObjectId) ∨
    s.portTree.get node.portId ≠ none ∧ qosPortQueueListUpdate s queueId node isAdd =
      ({ s with portTree := s.portTree.modify node.portId fun port => { port with
          queueList := if isAdd then port.queueList ++ [queueId] else port.queueList.erase queueId } }, .success) := by
  unfold qosPortQueueListUpdate
  split
  · rename_i absent
    exact .inl ⟨absent, rfl⟩
  rename_i port stored
  refine .inr ⟨by rw [stored]; exact Option.some_ne_none port, ?_⟩
  rw [KeyTree.modify_of_get stored]

theorem qosPortSchedGroupListUpdate_cases (s : QosState) (sgId : ObjectId) (node : SchedGroup) (isAdd : Bool) :
    s.portTree.get node.portId = none ∧
      qosPortSchedGroupListUpdate s sgId node isAdd = (s, .invalidObjectId) ∨
    s.portTree.get node.portId ≠ none ∧ qosPortSchedGroupListUpdate s sgId node isAdd =
      ({ s with portTree := s.portTree.modify node.portId fun port => { port with
          schedGroupList := if isAdd then port.schedGroupList ++ [(node.hierarchyLevel, sgId)]
            else port.schedGroupList.erase (node.hierarchyLevel, sgId) } }, .success) := by
  unfold qosPortSchedGroupListUpdate
  split
  · rename_i absent
    exact .inl ⟨absent, rfl⟩
  rename_i port stored
  refine .inr ⟨by rw [stored]; exact Option.some_ne_none port, ?_⟩
  rw [KeyTree.modify_of_get stored]

theorem ofTree_ne_none {K H U : Type} [DecidableEq K] {tree : KeyTree K H} {list : H → List U} {k : K}
    (stored : tree.get k ≠ none) : Attached.ofTree tree list k ≠ none :=
  fun absent => stored (Option.map_eq_none_iff.mp absent)

section
variable (kept : PortListsKept platform s)
include kept

theorem PortListsKept.putQueue (absent : s.queueTree.get q = none) (port : s.portTree.get node.portId ≠ none) :
    PortListsKept platform { s with
      portTree := s.portTree.modify node.portId fun port => { port with queueList := port.queueList ++ [q] }
      queueTree := s.queueTree.put q node } where
  queues := by
    have free : queueNamed s q = none := by rw [queueNamed, absent, Option.map_none]
    refine (kept.queues.join free (ofTree_ne_none port)).congr (Attached.ofTree_modify fun _ => rfl) fun other => ?_
    unfold queueNamed
    rw [KeyTree.get_put, Function.update_apply]
    split <;> rfl
  groups := kept.groups.congr (Attached.ofTree_modify_keep fun _ => rfl) fun _ => rfl
  levels := kept.levels

theorem PortListsKept.dropQueue (stored : s.queueTree.get q = some node) :
    PortListsKept platform { s with
      portTree := s.portTree.modify node.portId fun port => { port with queueList := port.queueList.erase q }
      queueTree := s.queueTree.del q } where
  queues := by
    have named : queueNamed s q = some node.portId := by rw [queueNamed, stored, Option.map_some]
    refine (kept.queues.leave named).congr (Attached.ofTree_modify fun _ => rfl) fun other => ?_
    unfold queueNamed
    rw [KeyTree.get_del, Function.update_apply]
    split <;> rfl
  groups := kept.groups.congr (Attached.ofTree_modify_keep fun _ => rfl) fun _ => rfl
  levels := kept.levels

theorem PortListsKept.putGroup {node : SchedGroup}
    (absent : s.schedGroupTree.get sg = none) (port : s.portTree.get node.portId ≠ none)
    (level : node.hierarchyLevel.toNat < platform.schedGroupHeads) :
    PortListsKept platform { s with
      portTree := s.portTree.modify node.portId fun port => { port with
        schedGroupList := port.schedGroupList ++ [(node.hierarchyLevel, sg)] }
      schedGroupTree := s.schedGroupTree.put sg node } where
  queues := kept.queues.congr (Attached.ofTree_modify_keep fun _ => rfl) fun _ => rfl
  groups := by
    refine (kept.groups.join (groupNamed_absent absent _) (ofTree_ne_none port)).congr
      (Attached.ofTree_modify fun _ => rfl) fun entry => ?_
    obtain ⟨other, id⟩ := entry
    rw [Function.update_apply]
    by_cases same : id = sg
    · unfold groupNamed
      rw [same, KeyTree.get_put_self, Option.map_some, Option.bind_some]
      by_cases atLevel : node.hierarchyLevel = other
      · rw [if_pos atLevel, if_pos (by rw [atLevel])]
      · rw [if_neg atLevel, if_neg fun eq => atLevel (Prod.mk.inj eq).1.symm, absent]
        rfl
    · rw [if_neg fun eq => same (Prod.mk.inj eq).2]
      unfold groupNamed
      rw [KeyTree.get_put_ne same]
  levels other old stored := by
    rw [KeyTree.get_put] at stored
    split at stored
    · cases stored
      exact level
    · exact kept.levels other old stored

theorem PortListsKept.dropGroup {node : SchedGroup} (stored : s.schedGroupTree.get sg = some node) :
    PortListsKept platform { s with
      portTree := s.portTree.modify node.portId fun port => { port with
        schedGroupList := port.schedGroupList.erase (node.hierarchyLevel, sg) }
      schedGroupTree := s.schedGroupTree.del sg } where
  queues := kept.queues.congr (Attached.ofTree_modify_keep fun _ => rfl) fun _ => rfl
  groups := by
    -- `erase` compares pairs by components, the library by decidable equality
    have compare : (instBEqProd : BEq (BitVec 32 × ObjectId)) = instBEqOfDecidableEq := lawful_beq_subsingleton _ _
    refine (kept.groups.leave (groupNamed_of_stored stored)).congr
      (Attached.ofTree_modify fun port => congrArg
        (fun beq => @List.erase _ beq port.schedGroupList (node.hierarchyLevel, sg)) compare) fun entry => ?_
    obtain ⟨other, id⟩ := entry
    rw [Function.update_apply]
    by_cases same : id = sg
    · rw [same, groupNamed_absent (KeyTree.get_del_self _ _)]
      by_cases atLevel : node.hierarchyLevel = other
      · rw [if_pos (by rw [atLevel])]
      rw [if_neg fun eq => atLevel (Prod.mk.inj eq).1.symm]
      unfold groupNamed
      rw [stored]
      exact (if_neg atLevel).symm
    · rw [if_neg fun eq => same (Prod.mk.inj eq).2]
      unfold groupNamed
      rw [KeyTree.get_del_ne same]
  levels other old found := by
    exact kept.levels other old (KeyTree.get_of_del found)

theorem PortListsKept.queueCreate (portId : ObjectId) (queueType : QueueType)
    (env : CreateEnv) : PortListsKept platform (qosQueueCreate s portId queueType env).1 := by
  rcases qosQueueCreate_cases s portId queueType env with ⟨_, _, same⟩ | ⟨t, updated, absent, created⟩
  · rwa [same]
  rcases qosPortQueueListUpdate_cases s ⟨.queue, env.npuObjectId⟩ (qosQueueNodeInit portId queueType) true with
    ⟨_, same⟩ | ⟨port, same⟩
  · cases same.symm.trans updated
  · cases same.symm.trans updated
    rw [created]
    exact kept.putQueue absent port

theorem PortListsKept.queueRemoved (queueId : ObjectId) (npu : SaiStatus) :
    (qosQueueRemove s queueId npu).1 = s ∧ (qosQueueRemove s queueId npu).2 ≠ .success ∨
    (∃ node, s.queueTree.get queueId = some node ∧ (qosQueueRemove s queueId npu).1 = { s with
      portTree := s.portTree.modify node.portId fun port => { port with queueList := port.queueList.erase queueId }
      queueTree := s.queueTree.del queueId }) := by
  rcases qosQueueRemove_cases s queueId npu with ⟨error, failed, same⟩ | ⟨node, _, stored, _, _, removed⟩
  · rw [same]
    exact .inl ⟨rfl, failed⟩
  refine .inr ⟨node, stored, ?_⟩
  have named : queueNamed s queueId = some node.portId := by rw [queueNamed, stored, Option.map_some]
  rcases qosPortQueueListUpdate_cases s queueId node false with ⟨absent, _⟩ | ⟨_, same⟩
  · refine absurd ?_ (kept.queues.held queueId _ named)
    rw [Attached.ofTree, absent, Option.map_none]
  · rw [removed, same]
    rfl

theorem PortListsKept.queueRemove (queueId : ObjectId) (npu : SaiStatus) :
    PortListsKept platform (qosQueueRemove s queueId npu).1 := by
  rcases kept.queueRemoved queueId npu with ⟨same, _⟩ | ⟨node, stored, removed⟩
  · rw [same]
    exact kept
  · rw [removed]
    exact kept.dropQueue stored

end

def schedGroupLevelOk (platform : QosPlatform) (s : QosState) (attrs : List SchedGroupAttr)
    (env : SchedGroupCreateEnv) : Prop :=
  env.vendor = .success → env.ready = .success → env.allocOk = true → env.bitmapOk = true →
    env.npu = .success →
    s.portTree.get (qosSchedGroupAttrSet qosSchedGroupNodeInit attrs).portId ≠ none →
    (qosSchedGroupAttrSet qosSchedGroupNodeInit attrs).hierarchyLevel.toNat < platform.schedGroupHeads

section
variable (kept : PortListsKept platform s)
include kept

theorem PortListsKept.groupCreate (attrs : List SchedGroupAttr)
    (env : SchedGroupCreateEnv) (level : schedGroupLevelOk platform s attrs env) :
    PortListsKept platform (qosSchedGroupCreate s attrs env).1 := by
  rcases qosSchedGroupCreate_cases s attrs env with
    ⟨_, _, same⟩ | ⟨t, ⟨vendor, ready, alloc, bitmap, npu⟩, updated, absent, created⟩
  · rwa [same]
  rcases qosPortSchedGroupListUpdate_cases s ⟨.schedulerGroup, env.npuObjectId⟩
    (qosSchedGroupAttrSet qosSchedGroupNodeInit attrs) true with ⟨_, same⟩ | ⟨port, same⟩
  · cases same.symm.trans updated
  · cases same.symm.trans updated
    rw [created]
    exact kept.putGroup absent port (level vendor ready alloc bitmap npu port)

theorem PortListsKept.groupRemoved (sgId : ObjectId) (npu : SaiStatus) :
    (qosSchedGroupRemove s sgId npu).1 = s ∧ (qosSchedGroupRemove s sgId npu).2 ≠ .success ∨
    (∃ node, s.schedGroupTree.get sgId = some node ∧ (qosSchedGroupRemove s sgId npu).1 = { s with
      portTree := s.portTree.modify node.portId fun port => { port with
        schedGroupList := port.schedGroupList.erase (node.hierarchyLevel, sgId) }
      schedGroupTree := s.schedGroupTree.del sgId }) := by
  rcases qosSchedGroupRemove_cases s sgId npu with ⟨error, failed, same⟩ | ⟨node, stored, _, _, removed⟩
  · rw [same]
    exact .inl ⟨rfl, failed⟩
  refine .inr ⟨node, stored, ?_⟩
  rcases qosPortSchedGroupListUpdate_cases s sgId node false with ⟨absent, _⟩ | ⟨_, same⟩
  · refine absurd ?_ (kept.groups.held _ _ (groupNamed_of_stored stored))
    rw [Attached.ofTree, absent, Option.map_none]
  · rw [removed, same]
    rfl

theorem PortListsKept.groupRemove (sgId : ObjectId) (npu : SaiStatus) :
    PortListsKept platform (qosSchedGroupRemove s sgId npu).1 := by
  rcases kept.groupRemoved sgId npu with ⟨same, _⟩ | ⟨node, stored, removed⟩
  · rw [same]
    exact kept
  · rw [removed]
    exact kept.dropGroup stored

end

/-- A set that passes the vendor's table writes no other port and no other level. -/
def schedGroupSetOk (s : QosState) (sgId : ObjectId) (attr : SchedGroupAttr) (vendor : SaiStatus) : Prop :=
  vendor = .success → ∀ node, s.schedGroupTree.get sgId = some node →
    (∀ oid, attr = .portId oid → node.portId = oid) ∧ ∀ value, attr = .level value →
    node.hierarchyLevel = value

theorem qosSchedGroupAttrSet_lists (keep : ∀ node, s.schedGroupTree.get sgId = some node →
      (∀ oid, attr = .portId oid → node.portId = oid) ∧ ∀ value, attr = .level value →
      node.hierarchyLevel = value) :
    SameLists s { s with schedGroupTree := s.schedGroupTree.modify sgId fun g => qosSchedGroupAttrSet g [attr] } := by
  have unwritten : (∀ node, s.schedGroupTree.get sgId = some node → qosSchedGroupAttrSet node [attr] = node) →
      SameLists s { s with schedGroupTree := s.schedGroupTree.modify sgId fun g => qosSchedGroupAttrSet g [attr] } := by
    intro same
    rw [KeyTree.modify_same same]
    exact .refl s
  cases attr with
  | portId oid =>
    refine unwritten fun node stored => ?_
    simp only [qosSchedGroupAttrSet, ← (keep node stored).1 oid rfl]
  | level value =>
    refine unwritten fun node stored => ?_
    simp only [qosSchedGroupAttrSet, ← (keep node stored).2 value rfl]
  | schedulerProfileId oid => exact .setGroup fun _ => rfl
  | maxChilds value => exact .setGroup fun _ => rfl
  | other => exact .setGroup fun _ => rfl

theorem qosSchedGroupAttributeSet_lists {vendor npu : SaiStatus}
    (ok : schedGroupSetOk s sgId attr vendor) : SameLists s (qosSchedGroupAttributeSet s sgId attr vendor npu).1 := by
  unfold qosSchedGroupAttributeSet
  split
  · exact .refl s
  split
  · exact .refl s
  rename_i node stored
  split
  · rename_i valid
    split
    · exact .refl s
    have passed : vendor = .success := valid
    cases attr with
    | schedulerProfileId oid =>
      have set : SameLists s (qosSchedGroupSchedulerSet s sgId node oid npu).1 := qosUserSchedulerSet_lists
      have written : SameLists (qosSchedGroupSchedulerSet s sgId node oid npu).1
          { (qosSchedGroupSchedulerSet s sgId node oid npu).1 with
            schedGroupTree := (qosSchedGroupSchedulerSet s sgId node oid npu).1.schedGroupTree.modify sgId
              fun g => qosSchedGroupAttrSet g [.schedulerProfileId oid] } := .setGroup fun _ => rfl
      exact set.trans written
    | portId oid => exact qosSchedGroupAttrSet_lists (ok passed)
    | level value => exact qosSchedGroupAttrSet_lists (ok passed)
    | maxChilds value => exact qosSchedGroupAttrSet_lists (ok passed)
    | other => exact qosSchedGroupAttrSet_lists (ok passed)
  · exact .refl s

end Objects

section Removes
variable {platform : QosPlatform} {s t : QosState} {portId : ObjectId}

theorem PortListsKept.queueRemoves (npu : ObjectId → SaiStatus) (ids : List ObjectId) (s : QosState)
    (kept : PortListsKept platform s) :
    PortListsKept platform (ErrorLoop.run .success (fun q u => qosQueueRemove u q (npu q)) ids s).1 ∧
      ((ErrorLoop.run .success (fun q u => qosQueueRemove u q (npu q)) ids s).2 = .success →
        ∀ q node,
          (ErrorLoop.run .success (fun q u => qosQueueRemove u q (npu q)) ids s).1.queueTree.get q = some node →
          s.queueTree.get q = some node ∧ q ∉ ids) := by
  refine ErrorLoop.run_gone .success _ (fun u q => u.queueTree.get q)
    (fun q u kept => kept.queueRemove q (npu q)) (fun id u kept passed q => ?_) ids s kept
  rcases kept.queueRemoved id (npu id) with ⟨_, failed⟩ | ⟨old, _, removed⟩
  · exact absurd passed failed
  · rw [removed]
    exact KeyTree.get_del _ _ _

theorem PortListsKept.groupRemoves (npu : ObjectId → SaiStatus) (ids : List ObjectId) (s : QosState)
    (kept : PortListsKept platform s) :
    PortListsKept platform (ErrorLoop.run .success (fun sg u => qosSchedGroupRemove u sg (npu sg)) ids s).1 ∧
      ((ErrorLoop.run .success (fun sg u => qosSchedGroupRemove u sg (npu sg)) ids s).2 = .success → ∀ sg node,
          (ErrorLoop.run .success (fun sg u => qosSchedGroupRemove u sg (npu sg)) ids s).1.schedGroupTree.get sg =
            some node → s.schedGroupTree.get sg = some node ∧ sg ∉ ids) := by
  refine ErrorLoop.run_gone .success _ (fun u sg => u.schedGroupTree.get sg)
    (fun sg u kept => kept.groupRemove sg (npu sg)) (fun id u kept passed sg => ?_) ids s kept
  rcases kept.groupRemoved id (npu id) with ⟨_, failed⟩ | ⟨old, _, removed⟩
  · exact absurd passed failed
  · rw [removed]
    exact KeyTree.get_del _ _ _

/-- Removing all queues of a port keeps the lists exact and, when it succeeds,
leaves no queue of the port. -/
theorem PortListsKept.queueAllDeinit (kept : PortListsKept platform s) (portId : ObjectId)
    (npu : ObjectId → SaiStatus) : PortListsKept platform (qosPortQueueAllDeinit s portId npu).1 ∧
      ((qosPortQueueAllDeinit s portId npu).2 = .success →
        ∀ q node, (qosPortQueueAllDeinit s portId npu).1.queueTree.get q = some node → node.portId ≠ portId) := by
  unfold qosPortQueueAllDeinit
  split
  · exact ⟨kept, fun success => by cases success⟩
  rename_i port atPort
  obtain ⟨keptAll, gone⟩ := PortListsKept.queueRemoves npu port.queueList s kept
  refine ⟨keptAll, fun success q node stored onPort => ?_⟩
  obtain ⟨before, unlisted⟩ := gone success q node stored
  refine unlisted (kept.queues.mem_of_named (k := portId) ?_ ?_)
  · rw [Attached.ofTree, atPort, Option.map_some]
  · rw [queueNamed, before, Option.map_some, onPort]

theorem QosPlatform.mem_hierarchyLevels (supported : platform.isHierarchyQosSupported = true) {level : BitVec 32}
    (below : level.toNat < platform.schedGroupHeads) : level ∈ platform.hierarchyLevels := by
  unfold QosPlatform.schedGroupHeads at below
  rw [if_pos supported] at below
  exact List.mem_map.mpr ⟨level.toNat, List.mem_range.mpr below, by rw [BitVec.ofNat_toNat, BitVec.setWidth_eq]⟩

theorem QosPlatform.hierarchyLevel_below (supported : platform.isHierarchyQosSupported = true) {level : BitVec 32}
    (member : level ∈ platform.hierarchyLevels) : level.toNat < platform.schedGroupHeads := by
  obtain ⟨n, below, rfl⟩ := List.mem_map.mp member
  have bound := List.mem_range.mp below
  have wide := platform.maxHierarchyLevels.isLt
  unfold QosPlatform.schedGroupHeads
  rw [if_pos supported, BitVec.toNat_ofNat, Nat.mod_eq_of_lt (by omega)]
  exact bound

theorem PortListsKept.schedGroupsDeinit (kept : PortListsKept platform s)
    (supported : platform.isHierarchyQosSupported = true) (portId : ObjectId) (env : PortDeinitEnv) :
    PortListsKept platform (qosPortSchedGroupsDeinit platform s portId env).1 ∧
      ((qosPortSchedGroupsDeinit platform s portId env).2 = .success →
        ∀ sg node, (qosPortSchedGroupsDeinit platform s portId env).1.schedGroupTree.get sg = some node →
          node.portId ≠ portId) := by
  unfold qosPortSchedGroupsDeinit
  split
  · exact ⟨kept, fun success => by cases success⟩
  rename_i port atPort
  obtain ⟨keptAll, gone⟩ := PortListsKept.groupRemoves env.groupRemove
    (platform.hierarchyLevels.flatMap port.groupsAt) s kept
  refine ⟨keptAll, fun success sg node stored onPort => ?_⟩
  obtain ⟨before, unlisted⟩ := gone success sg node stored
  obtain ⟨found, atFound, once, below⟩ := kept.exact.groupOnce sg node before
  rw [onPort, atPort] at atFound
  cases atFound
  refine unlisted (List.mem_flatMap.mpr ⟨node.hierarchyLevel, ?_, ?_⟩)
  · exact platform.mem_hierarchyLevels supported below
  · exact List.count_pos_iff.mp (by omega)

theorem qosChildrenHierarchyRemove_lists (npu : ObjectId → SaiStatus) (ids : List ObjectId) :
    ∀ s t status, qosChildrenHierarchyRemove npu ids s = some (t, status) → SameLists s t := by
  induction ids with
  | nil =>
    intro s t status run
    cases run
    exact .refl s
  | cons id rest ih =>
    intro s t status run
    have one : ∀ u status, qosChildHierarchyRemove s id (npu id) = some (u, status) → SameLists s u := by
      intro u status removed
      unfold qosChildHierarchyRemove at removed
      split at removed
      · cases removed
      rename_i parent _
      split at removed
      · cases removed
        exact .refl s
      · exact @HierarchyCall.run_lists s u (.removeChild parent [id] (npu id)) status removed
    unfold qosChildrenHierarchyRemove at run
    split at run
    · cases run
    · rename_i u removed
      exact (one u _ removed).trans (ih _ _ _ run)
    · rename_i error _ removed
      cases run
      exact one t _ removed

theorem qosHierarchyRemove_lists {env : PortDeinitEnv}
    (run : qosHierarchyRemove platform s portId env = some (t, status)) : SameLists s t := by
  have leaf : ∀ u status, qosLeafLevelHierarchyRemove s portId env = some (u, status) → SameLists s u := by
    intro u status removed
    unfold qosLeafLevelHierarchyRemove at removed
    split at removed
    · cases removed
      exact .refl s
    · exact qosChildrenHierarchyRemove_lists _ _ _ _ _ removed
  unfold qosHierarchyRemove at run
  split at run
  · cases run
  · rename_i u removed
    unfold qosNonLeafLevelHierarchyRemove at run
    split at run
    · cases run
      exact leaf _ _ removed
    · exact (leaf u _ removed).trans (qosChildrenHierarchyRemove_lists _ _ _ _ _ run)
  · rename_i u error _ removed
    cases run
    exact leaf _ _ removed

section
variable (kept : PortListsKept platform s)
include kept

theorem PortListsKept.hierarchyDeinit {env : PortDeinitEnv} (supported : platform.isHierarchyQosSupported = true)
    (run : qosPortHierarchyDeinit platform s portId env = some (t, status)) : PortListsKept platform t ∧
      (status = .success → ∀ sg node, t.schedGroupTree.get sg = some node → node.portId ≠ portId) := by
  unfold qosPortHierarchyDeinit at run
  split at run
  · cases run
  · rename_i u removed
    have groups := (kept.same (qosHierarchyRemove_lists removed)).schedGroupsDeinit supported portId env
    rw [Option.some.inj run] at groups
    exact groups
  · rename_i u error failed removed
    cases run
    exact ⟨kept.same (qosHierarchyRemove_lists removed), fun success => absurd success failed⟩

theorem PortListsKept.dropPort (stored : s.portTree.get portId ≠ none)
    (queues : ∀ q node, s.queueTree.get q = some node → node.portId ≠ portId)
    (groups : ∀ sg node, s.schedGroupTree.get sg = some node → node.portId ≠ portId) :
    PortListsKept platform { s with portTree := s.portTree.del portId } where
  queues := by
    have listed : Attached.ofTree s.portTree QosPort.queueList portId ≠ none := ofTree_ne_none stored
    obtain ⟨l, found⟩ := Option.ne_none_iff_exists'.mp listed
    have empty := kept.queues.empty_of_unnamed found fun q named => by
      obtain ⟨node, atNode, onPort⟩ := Option.map_eq_some_iff.mp named
      exact queues q node atNode onPort
    rw [empty] at found
    exact (kept.queues.erase found).congr (fun k => Attached.ofTree_del k) fun _ => rfl
  groups := by
    have listed : Attached.ofTree s.portTree QosPort.schedGroupList portId ≠ none := ofTree_ne_none stored
    obtain ⟨l, found⟩ := Option.ne_none_iff_exists'.mp listed
    have empty := kept.groups.empty_of_unnamed found fun entry named => by
      obtain ⟨node, atNode, onPort, _⟩ := groupNamed_some named
      exact groups entry.2 node atNode onPort
    rw [empty] at found
    exact (kept.groups.erase found).congr (fun k => Attached.ofTree_del k) fun _ => rfl
  levels := kept.levels

theorem PortListsKept.globalDeinit (queues : ∀ q node, s.queueTree.get q = some node → node.portId ≠ portId)
    (groups : ∀ sg node, s.schedGroupTree.get sg = some node → node.portId ≠ portId) :
    PortListsKept platform (qosPortGlobalDeinit s portId).1 := by
  unfold qosPortGlobalDeinit
  split
  · exact kept
  split
  · exact kept
  · rename_i port stored
    exact kept.dropPort (by rw [stored]; exact Option.some_ne_none port) queues groups

theorem PortListsKept.portDeinit {env : PortDeinitEnv}
    (run : qosPortDeinit platform s portId env = some (t, status)) : PortListsKept platform t := by
  have hierarchy : ∀ u status, (if platform.isHierarchyQosSupported = true then
      qosPortHierarchyDeinit platform s portId env else some (s, .success)) = some (u, status) →
      PortListsKept platform u ∧
        (status = .success → ∀ sg node, u.schedGroupTree.get sg = some node → node.portId ≠ portId) := by
    intro u status run
    split at run
    · rename_i supported
      exact kept.hierarchyDeinit supported run
    rename_i flat
    cases run
    refine ⟨kept, fun _ sg node stored => ?_⟩
    have below := kept.levels sg node stored
    unfold QosPlatform.schedGroupHeads at below
    rw [if_neg flat] at below
    omega
  unfold qosPortDeinit at run
  split at run
  · cases run
    exact kept
  split at run
  · cases run
    exact kept
  dsimp only at run
  split at run
  · cases run
  · rename_i u done
    obtain ⟨keptGroups, noGroups⟩ := hierarchy u _ done
    obtain ⟨keptQueues, noQueues⟩ := keptGroups.queueAllDeinit portId env.queueRemove
    have sameGroups := (qosPortQueueAllDeinit_frame u portId env.queueRemove).1
    split at run
    · rename_i w isPair
      rw [isPair] at keptQueues noQueues sameGroups
      have gone : PortListsKept platform (qosPortGlobalDeinit w portId).1 := by
        refine keptQueues.globalDeinit (noQueues rfl) fun sg node stored => ?_
        rw [show w.schedGroupTree = u.schedGroupTree from sameGroups] at stored
        exact noGroups rfl sg node stored
      rw [Option.some.inj run] at gone
      exact gone
    · rename_i w error _ isPair
      cases run
      rw [isPair] at keptQueues
      exact keptQueues
  · rename_i u error _ failed
    cases run
    exact (hierarchy _ _ failed).1

end

end Removes

/-- When a port initialisation leaves the lists exact: its node is refused, or
there is no node of the port yet and what fails leaves nothing of it, or all is
accepted. A node of an id that is no port is never taken back. -/
inductive PortInitSpares (platform : QosPlatform) (s : QosState) (portId : ObjectId) (env : PortInitEnv) : Prop
  | port (refused : ¬ PortGlobalAccepted platform env)
  | kind (absent : s.portTree.get portId = none) (other : portId.objType ≠ .port)
  | queue (absent : s.portTree.get portId = none)
      (refused : ∃ call rest, platform.queueCreates portId env = call :: rest ∧ ¬ QueueCreateAccepted s [] call)
  | group (absent : s.portTree.get portId = none) (queues : QueuesAccepted s (platform.queueCreates portId env))
      (hierarchy : platform.isHierarchyQosSupported = true)
      (refused : env.rootSchedGroupInit ≠ .success ∨
        ∃ call rest, platform.groupCreates portId env = call :: rest ∧ ¬ GroupCreateAccepted s [] call)
      (undone : ∀ call ∈ platform.queueCreates portId env, env.queueRemove (queueCreateId call) = .success)
  | whole (absent : s.portTree.get portId = none) (queues : QueuesAccepted s (platform.queueCreates portId env))
      (hierarchy : platform.isHierarchyQosSupported = true → PortHierarchyAccepted platform s portId env)

section Init
variable {platform : QosPlatform} {s t u : QosState} {portId : ObjectId} {env : PortInitEnv}

section
variable (kept : PortListsKept platform s)
include kept

theorem PortListsKept.putPort (absent : s.portTree.get portId = none) :
    PortListsKept platform { s with portTree := s.portTree.put portId qosPortNodeInit } where
  queues := by
    have none : Attached.ofTree s.portTree QosPort.queueList portId = none := by
      rw [Attached.ofTree, absent, Option.map_none]
    exact (kept.queues.insert none).congr (fun k => Attached.ofTree_put k) fun _ => rfl
  groups := by
    have none : Attached.ofTree s.portTree QosPort.schedGroupList portId = none := by
      rw [Attached.ofTree, absent, Option.map_none]
    exact (kept.groups.insert none).congr (fun k => Attached.ofTree_put k) fun _ => rfl
  levels := kept.levels

theorem PortListsKept.queueAllInit (portId : ObjectId) (env : PortInitEnv) :
    PortListsKept platform (qosPortQueueAllInit platform s portId env).1 :=
  ErrorLoop.run_keeps SaiStatus.success (fun (call : QueueType × CreateEnv) s => qosQueueCreate s portId call.1 call.2)
    (fun s t => PortListsKept platform s → PortListsKept platform t) (fun _ => id)
    (fun _ _ _ first second kept => second (first kept)) (fun call _ kept => kept.queueCreate portId call.1 call.2)
    (platform.queueCreates portId env) s kept

theorem PortListsKept.schedGroupsInit
    (supported : platform.isHierarchyQosSupported = true) (portId : ObjectId) (env : PortInitEnv) :
    PortListsKept platform (qosPortSchedGroupsInit platform s portId env).1 := by
  unfold qosPortSchedGroupsInit
  split
  · exact kept
  · refine ErrorLoop.run_keeps_of_mem SaiStatus.success
      (fun (call : (BitVec 32 × HqosGroup) × SchedGroupCreateEnv) s =>
        qosSchedGroupCreate s (qosHqosGroupAttrs portId call.1.1 call.1.2) { call.2 with ready := .success })
      (fun s t => PortListsKept platform s → PortListsKept platform t) (fun _ => id)
      (fun _ _ _ first second kept => second (first kept)) (platform.groupCreates portId env) ?_ s kept
    intro call listed s kept
    refine kept.groupCreate _ _ fun _ _ _ _ _ _ => ?_
    have level : (groupCreateEntry call).1 ∈ platform.hierarchyLevels :=
      mem_hierarchyLevels (List.mem_map_of_mem listed)
    exact platform.hierarchyLevel_below supported level
  · exact kept

end

theorem qosHqosGroupsLink_lists {port : QosPort} {childScheduler : ObjectId → SaiStatus}
    (links : List ((BitVec 32 × HqosGroup) × SaiStatus)) :
    ∀ s t status, qosHqosGroupsLink platform portId port childScheduler links s = some (t, status) →
      SameLists s t := by
  induction links with
  | nil =>
    intro s t status run
    cases run
    exact .refl s
  | cons link rest ih =>
    intro s t status run
    obtain ⟨⟨level, group⟩, addChild⟩ := link
    have one : ∀ u status, qosHqosGroupLink platform portId port level group addChild childScheduler s =
        some (u, status) → SameLists s u := by
      intro u status linked
      unfold qosHqosGroupLink at linked
      split at linked
      · cases linked
        exact .refl s
      rename_i parent _
      split at linked
      · cases linked
        exact .refl s
      split at linked
      · cases linked
        exact .refl s
      rename_i childList _
      split at linked
      · cases linked
      · rename_i v added
        have children := @HierarchyCall.run_lists s v (.addChild parent childList addChild) _ added
        have scheduled := setDefaultScheduler_lists v childList childScheduler
        rw [Option.some.inj linked] at scheduled
        exact children.trans scheduled
      · rename_i v error _ added
        cases linked
        exact @HierarchyCall.run_lists s _ (.addChild parent childList addChild) _ added
    unfold qosHqosGroupsLink at run
    split at run
    · cases run
    · rename_i v linked
      exact (one v _ linked).trans (ih _ _ _ run)
    · rename_i error _ linked
      cases run
      exact one t _ linked

theorem PortListsKept.defaultHierarchyInit (kept : PortListsKept platform s)
    (supported : platform.isHierarchyQosSupported = true)
    (run : qosPortDefaultHierarchyInit platform s portId env = some (t, status)) : PortListsKept platform t := by
  have groups := kept.schedGroupsInit supported portId env
  unfold qosPortDefaultHierarchyInit at run
  split at run
  · rename_i u created
    rw [created] at groups
    unfold qosHierarchyCreate at run
    split at run
    · cases run
      exact groups
    · exact groups.same (qosHqosGroupsLink_lists _ _ _ _ run)
  · rename_i u error _ failed
    cases run
    rw [failed] at groups
    exact groups

theorem PortListsKept.undone (kept : PortListsKept platform s) (keptBuilt : PortListsKept platform t)
    (built : PortBuilt s t portId [] []) (absent : s.portTree.get portId = none) :
    PortListsKept platform (qosPortGlobalDeinit t portId).1 := by
  by_cases kind : portId.objType = .port
  · rw [built.globalDeinit kind]
    have restored := built.done absent
    exact kept.same (.of_trees restored.ports restored.queues restored.groups)
  · unfold qosPortGlobalDeinit
    rw [if_pos kind]
    exact keptBuilt

theorem PortListsKept.handleInitFailure (kept : PortListsKept platform t) (kind : portId.objType ≠ .port)
    (isPortQueueInit : Bool) : PortListsKept platform (qosPortHandleInitFailure t portId env isPortQueueInit) := by
  unfold qosPortHandleInitFailure qosPortGlobalDeinit
  dsimp only
  rw [if_pos kind]
  split
  · exact (kept.queueAllDeinit portId env.queueRemove).1
  · exact kept

theorem PortBuilt.noGroups {queues : List ObjectId} (built : PortBuilt s t portId queues [])
    (refused : env.rootSchedGroupInit ≠ .success ∨
      ∃ call rest, platform.groupCreates portId env = call :: rest ∧ ¬ GroupCreateAccepted s [] call) :
    ∃ u error, qosPortDefaultHierarchyInit platform t portId env = some (u, error) ∧ error ≠ .success ∧
      PortBuilt s u portId queues [] := by
  by_cases root : env.rootSchedGroupInit = .success
  · rcases built.schedGroupsInit platform env root with
      ⟨u, _, all, _⟩ | ⟨u, error, part, failed, isError, _, some, first⟩
    · rcases refused with noRoot | ⟨call, rest, isCons, notFirst⟩
      · exact absurd root noRoot
      · rw [isCons] at all
        exact absurd all.1 notFirst
    · rcases refused with noRoot | notFirst
      · exact absurd root noRoot
      · rw [first.mpr notFirst] at some
        exact ⟨u, error, qosPortDefaultHierarchyInit_failed failed isError, isError, some⟩
  · exact ⟨t, env.rootSchedGroupInit,
      qosPortDefaultHierarchyInit_failed (built.schedGroupsInit_root root) root, root,
      built⟩

/-- How the calls of a port initialisation follow each other once the port's node
is there. -/
theorem qosPortInit_phases (accepted : PortGlobalAccepted platform env)
    (run : qosPortInit platform s portId env = some (t, status)) :
    ∃ v result, qosPortQueueAllInit platform { s with portTree := s.portTree.put portId qosPortNodeInit } portId env =
        (v, result) ∧ (result ≠ .success ∧ t = qosPortHandleInitFailure v portId env false ∨
        result = .success ∧ platform.isHierarchyQosSupported = false ∧ t = v ∨
        result = .success ∧ platform.isHierarchyQosSupported = true ∧
          ∃ w ended, qosPortDefaultHierarchyInit platform v portId env = some (w, ended) ∧
            (ended = .success ∧ t = w ∨ ended ≠ .success ∧
              t = qosPortHandleInitFailure w portId env true)) := by
  rcases qosPortGlobalInit_cases platform s portId env with ⟨_, done⟩ | ⟨refused, _⟩
  · unfold qosPortInit at run
    rw [done] at run
    dsimp only at run
    rcases phase : qosPortQueueAllInit platform { s with portTree := s.portTree.put portId qosPortNodeInit } portId env
      with ⟨v, result⟩
    rw [phase] at run
    refine ⟨v, result, rfl, ?_⟩
    split at run
    · rename_i x isPair
      cases isPair
      split at run
      · rename_i supported
        refine .inr (.inr ⟨rfl, supported, ?_⟩)
        split at run
        · cases run
        · rename_i w linked
          cases run
          exact ⟨t, .success, linked, .inl ⟨rfl, rfl⟩⟩
        · rename_i w error failed linked
          cases run
          exact ⟨w, status, linked, .inr ⟨failed, rfl⟩⟩
      · rename_i flat
        cases run
        exact .inr (.inl ⟨rfl, (Bool.not_eq_true _).mp flat, rfl⟩)
    · rename_i x error failed isPair
      cases isPair
      cases run
      exact .inl ⟨failed, rfl⟩
  · exact absurd accepted refused

theorem PortListsKept.portInit (kept : PortListsKept platform s)
    (spares : PortInitSpares platform s portId env) (run : qosPortInit platform s portId env = some (t, status)) :
    PortListsKept platform t := by
  by_cases accepted : PortGlobalAccepted platform env
  · obtain ⟨v, result, queues, ends⟩ := qosPortInit_phases accepted run
    have first := PortBuilt.first s portId
    have built := first.queueAllInit platform env
    rw [queues] at built
    -- the state after the queue phase, for a port without a node
    have keptQueues : s.portTree.get portId = none → PortListsKept platform v := by
      intro absent
      have phase := (kept.putPort absent).queueAllInit portId env
      rw [queues] at phase
      exact phase
    have allQueues : QueuesAccepted s (platform.queueCreates portId env) → result = .success ∧
        PortBuilt s v portId ((platform.queueCreates portId env).map queueCreateId) [] := by
      intro all
      rcases built with ⟨u, done, _, whole⟩ | ⟨u, error, part, failed, isError, notAll, _⟩
      · cases done
        exact ⟨rfl, whole⟩
      · exact absurd all notAll
    cases spares with
    | port refused => exact absurd accepted refused
    | kind absent other =>
      have begun := keptQueues absent
      rcases ends with
        ⟨_, rfl⟩ | ⟨_, _, rfl⟩ | ⟨_, supported, w, ended, linked, ⟨_, rfl⟩ | ⟨_, rfl⟩⟩
      · exact begun.handleInitFailure other false
      · exact begun
      · exact begun.defaultHierarchyInit supported linked
      · exact (begun.defaultHierarchyInit supported linked).handleInitFailure other true
    | queue absent refused =>
      rcases built with ⟨u, done, all, _⟩ | ⟨u, error, part, failed, isError, _, some, none⟩
      · obtain ⟨call, rest, isCons, notFirst⟩ := refused
        rw [isCons] at all
        exact absurd all.1 notFirst
      rw [none.mpr refused] at some
      cases failed
      rcases ends with ⟨_, rfl⟩ | ⟨success, _⟩ | ⟨success, _⟩
      · exact kept.undone (keptQueues absent) some absent
      · exact absurd success isError
      · exact absurd success isError
    | group absent all hierarchy refused undone =>
      obtain ⟨success, whole⟩ := allQueues all
      rcases ends with ⟨failed, _⟩ | ⟨_, flat, _⟩ |
        ⟨_, supported, w, ended, linked, ⟨done, _⟩ | ⟨_, rfl⟩⟩
      · exact absurd success failed
      · rw [hierarchy] at flat
        cases flat
      · obtain ⟨u, error, failed, isError, _⟩ := whole.noGroups refused
        rw [failed] at linked
        cases linked
        exact absurd done isError
      · obtain ⟨u, error, failed, _, left⟩ := whole.noGroups refused
        rw [failed] at linked
        cases linked
        have keptGroups := (keptQueues absent).defaultHierarchyInit supported failed
        have keptAll := (keptGroups.queueAllDeinit portId env.queueRemove).1
        unfold qosPortHandleInitFailure
        dsimp only
        rw [if_pos rfl]
        rcases left.queueAllDeinit env.queueRemove with ⟨x, gone, _, none⟩ | ⟨_, _, _, _, _, _, notAll, _⟩
        · rw [gone] at keptAll ⊢
          exact kept.undone keptAll none absent
        · exact absurd (List.forall_mem_map.mpr undone) notAll
    | whole absent all passes =>
      obtain ⟨success, whole⟩ := allQueues all
      rcases ends with ⟨failed, _⟩ | ⟨_, _, rfl⟩ |
        ⟨_, supported, w, ended, linked, ⟨_, rfl⟩ | ⟨failed, _⟩⟩
      · exact absurd success failed
      · exact keptQueues absent
      · exact (keptQueues absent).defaultHierarchyInit supported linked
      · obtain ⟨u, passed⟩ := (whole.hierarchy_success_iff (congrArg Prod.fst queues)).mpr (passes supported)
        cases passed.symm.trans linked
        exact absurd rfl failed
  · rcases qosPortGlobalInit_cases platform s portId env with ⟨yes, _⟩ | ⟨_, error, failed, isError⟩
    · exact absurd yes accepted
    unfold qosPortInit at run
    rw [failed] at run
    split at run
    · rename_i isPair
      exact absurd (congrArg Prod.snd isPair) isError
    rename_i isPair
    cases isPair
    cases run
    exact kept

end Init

namespace PortListCall
variable {platform : QosPlatform} {s t : WredState}

/-- What the calls must leave alone: a port initialisation does not start over
and leaves nothing when it fails, a group's level has a list, and a set moves no
group to another port or level. -/
def spares (platform : QosPlatform) (s : WredState) : PortListCall → Prop
  | .portInit portId env => PortInitSpares platform s.qos portId env
  | .hierarchyDeinit _ _ => platform.isHierarchyQosSupported = true
  | .groupCreate attrs env => schedGroupLevelOk platform s.qos attrs env
  | .groupAttributeSet sgId attr vendor _ => schedGroupSetOk s.qos sgId attr vendor
  | _ => True

def Steps (platform : QosPlatform) (s : WredState) (call : PortListCall) (t : WredState) : Prop :=
  ∃ status, call.run platform s = some (t, status)

theorem steps_kept {call : PortListCall} (kept : PortListsKept platform s.qos) (spares : call.spares platform s)
    (steps : Steps platform s call t) : PortListsKept platform t.qos := by
  obtain ⟨status, run⟩ := steps
  cases call with
  | portInit portId env =>
    obtain ⟨⟨u, result⟩, done, same⟩ := Option.map_eq_some_iff.mp run
    cases same
    exact kept.portInit spares done
  | portDeinit portId env =>
    obtain ⟨⟨u, result⟩, done, same⟩ := Option.map_eq_some_iff.mp run
    cases same
    exact kept.portDeinit done
  | hierarchyDeinit portId env =>
    obtain ⟨⟨u, result⟩, done, same⟩ := Option.map_eq_some_iff.mp run
    cases same
    exact (kept.hierarchyDeinit spares done).1
  | queueCreate portId queueType env =>
    cases run
    exact kept.queueCreate portId queueType env
  | queueRemove queueId npu =>
    cases run
    exact kept.queueRemove queueId npu
  | queueAttributeSet queueId attr env =>
    have same := qosQueueAttributeSet_lists s queueId attr env
    rw [Option.some.inj run] at same
    exact kept.same same
  | groupCreate attrs env =>
    cases run
    exact kept.groupCreate attrs env spares
  | groupRemove sgId npu =>
    cases run
    exact kept.groupRemove sgId npu
  | groupAttributeSet sgId attr vendor npu =>
    cases run
    exact kept.same (qosSchedGroupAttributeSet_lists spares)
  | hierarchy call =>
    obtain ⟨⟨u, result⟩, done, same⟩ := Option.map_eq_some_iff.mp run
    cases same
    exact kept.same (HierarchyCall.run_lists done)

end PortListCall

structure NoPorts (s : WredState) : Prop where
  ports : s.qos.portTree = ∅
  queues : s.qos.queueTree = ∅
  groups : s.qos.schedGroupTree = ∅

theorem NoPorts.kept {platform : QosPlatform} {s : WredState} (noPorts : NoPorts s) :
    PortListsKept platform s.qos where
  queues := by
    refine .of_empty (fun p => ?_) fun q => ?_
    · rw [Attached.ofTree, noPorts.ports, KeyTree.get_empty, Option.map_none]
    · rw [queueNamed, noPorts.queues, KeyTree.get_empty, Option.map_none]
  groups := by
    refine .of_empty (fun p => ?_) fun entry => ?_
    · rw [Attached.ofTree, noPorts.ports, KeyTree.get_empty, Option.map_none]
    · rw [groupNamed, noPorts.groups, KeyTree.get_empty]
      rfl
  levels sg node stored := by
    rw [noPorts.groups, KeyTree.get_empty] at stored
    cases stored

/-- In every run whose calls spare the lists, every stored queue and scheduler
group is linked once, in the list of its port and level, and nothing else is. -/
theorem portLists_exact {platform : QosPlatform} {s : WredState}
    (reach : Runs.Reach NoPorts (fun s call t => call.spares platform s ∧ PortListCall.Steps platform s call t) s) :
    PortListsExact platform s.qos := by
  have kept : PortListsKept platform s.qos := by
    refine reach.invariant (fun s => PortListsKept platform s.qos) (fun s noPorts => noPorts.kept) ?_
    rintro s call t kept ⟨spares, steps⟩
    exact PortListCall.steps_kept kept spares steps
  exact kept.exact

section Sample

def portListsSample : WredState := ⟨portInitSample, ∅, ⟨true, 1000, ∅, ∅⟩⟩

theorem portListsSample_noPorts : NoPorts portListsSample := ⟨rfl, rfl, rfl⟩

def PortListCall.next (platform : QosPlatform) (s : WredState) (call : PortListCall) : WredState :=
  ((call.run platform s).map Prod.fst).getD s

theorem PortListCall.reach_next {platform : QosPlatform} {s : WredState}
    (reach : Runs.Reach NoPorts (fun s call t => call.spares platform s ∧ Steps platform s call t) s)
    (call : PortListCall) (spares : call.spares platform s) (ends : (call.run platform s).isSome = true) :
    Runs.Reach NoPorts (fun s call t => call.spares platform s ∧ Steps platform s call t) (call.next platform s) := by
  obtain ⟨⟨t, status⟩, run⟩ := Option.isSome_iff_exists.mp ends
  refine .next reach ⟨spares, status, ?_⟩
  unfold next
  rw [run]
  rfl

def portListsSampleInit (failing : Nat) : PortListCall := .portInit ⟨.port, 1⟩ (portInitSampleEnv failing)

def portListsSampleGroup (level : BitVec 32) : PortListCall :=
  .groupCreate [.portId ⟨.port, 1⟩, .level level] ⟨.success, .success, true, true, .success, 5, true⟩

/-- Two queues and two groups of a port; a group and a queue go again. -/
def portListsSampleRun : List PortListCall :=
  [portListsSampleInit 2, portListsSampleGroup 0, .groupRemove ⟨.schedulerGroup, 0⟩ .success,
    .queueAttributeSet ⟨.queue, 0⟩ (.bufferProfileId nullObjectId)
    ⟨.success, .success, ⟨.success, .success, .success⟩⟩,
    .queueRemove ⟨.queue, 1⟩ .success]

theorem portListsSampleInit_spares : (portListsSampleInit 2).spares (portInitSamplePlatform []) portListsSample := by
  refine .whole rfl ?_ fun _ => ⟨rfl, ?_, ?_⟩
  · change QueueCreateAccepted _ _ _ ∧ QueueCreateAccepted _ _ _ ∧ True
    exact ⟨⟨rfl, rfl, rfl, rfl, by decide⟩, ⟨rfl, rfl, rfl, rfl, by decide⟩, trivial⟩
  · exact ⟨⟨rfl, rfl, rfl, rfl, rfl, rfl, by decide⟩, trivial⟩
  · exact ⟨.childless ⟨_, rfl⟩ rfl, fun _ _ _ => trivial⟩

theorem portListsSampleRun_exact : PortListsExact (portInitSamplePlatform [])
    (portListsSampleRun.foldl (PortListCall.next (portInitSamplePlatform [])) portListsSample).qos := by
  have reach := PortListCall.reach_next (.start portListsSample_noPorts) (portListsSampleInit 2)
    portListsSampleInit_spares (by decide)
  have grown := PortListCall.reach_next reach (portListsSampleGroup 0) (fun _ _ _ _ _ _ => (by decide)) (by decide)
  have less := PortListCall.reach_next grown (.groupRemove ⟨.schedulerGroup, 0⟩ .success) trivial (by decide)
  have set := PortListCall.reach_next less (.queueAttributeSet ⟨.queue, 0⟩ (.bufferProfileId nullObjectId)
    ⟨.success, .success, ⟨.success, .success, .success⟩⟩) trivial (by decide)
  have last := PortListCall.reach_next set (.queueRemove ⟨.queue, 1⟩ .success) trivial (by decide)
  exact portLists_exact last

/-- A set of the level that the NPU refuses, an initialisation that the NPU
refuses after its first queue, and a level without a list. -/
theorem portLists_not_exact : ¬ PortListsExact (portInitSamplePlatform []) (([portListsSampleInit 2,
      .groupAttributeSet ⟨.schedulerGroup, 0⟩ (.level 1) .success .failure] : List PortListCall).foldl
        (PortListCall.next (portInitSamplePlatform [])) portListsSample).qos ∧
    ¬ PortListsExact (portInitSamplePlatform []) (([portListsSampleInit 1] : List PortListCall).foldl
        (PortListCall.next (portInitSamplePlatform [])) portListsSample).qos ∧
    ¬ PortListsExact (portInitSamplePlatform []) (([portListsSampleInit 2, portListsSampleGroup 7] :
      List PortListCall).foldl (PortListCall.next (portInitSamplePlatform [])) portListsSample).qos := by
  refine ⟨fun exact => ?_, fun exact => ?_, fun exact => ?_⟩
  · obtain ⟨port, _, _, level⟩ := exact.groupOnce ⟨.schedulerGroup, 0⟩ _ rfl
    revert level
    decide
  · obtain ⟨port, there, _⟩ := exact.queueOnce ⟨.queue, 0⟩ _ rfl
    cases there
  · obtain ⟨port, _, _, level⟩ := exact.groupOnce ⟨.schedulerGroup, 5⟩ _ rfl
    revert level
    decide

end Sample

end SaiCommon
