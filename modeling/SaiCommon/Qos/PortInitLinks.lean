import SaiCommon.Qos.PortInitUndo

namespace SaiCommon

variable {s t u : QosState} {status : SaiStatus}

def Scheduler.links (sched : Scheduler) : Nat :=
  sched.portList.length + sched.queueList.length + sched.schedGroupList.length

theorem Scheduler.links_link (sched : Scheduler) (user : SchedulerUser) (o : ObjectId) :
    (sched.link user o).links = sched.links + 1 := by
  cases user <;> simp only [Scheduler.link, Scheduler.links, List.length_append, List.length_singleton] <;> omega

theorem Scheduler.links_unlink (sched : Scheduler) (user : SchedulerUser) (o : ObjectId) :
    sched.links ≤ (sched.unlink user o).links + 1 := by
  have one : ∀ l : List ObjectId, l.length ≤ (l.erase o).length + 1 := by
    intro l
    have shorter := List.length_erase (a := o) (l := l)
    split at shorter <;> omega
  cases user with
  | port =>
    have less := one sched.portList
    simp only [Scheduler.unlink, Scheduler.links]
    omega
  | queue =>
    have less := one sched.queueList
    simp only [Scheduler.unlink, Scheduler.links]
    omega
  | schedGroup =>
    have less := one sched.schedGroupList
    simp only [Scheduler.unlink, Scheduler.links]
    omega

def defaultLinks (s : QosState) : Nat :=
  ((s.schedulerTree.get s.defaultSchedId).map Scheduler.links).getD 0

def groupPorts (s : QosState) (sg : ObjectId) : Option ObjectId :=
  (s.schedGroupTree.get sg).map SchedGroup.portId

section ListUpdate
variable {user : SchedulerUser} {o prev new : ObjectId} {npu : SaiStatus}

theorem qosSchedulerListUpdate_links (notNull : s.defaultSchedId ≠ nullObjectId)
    (run : qosSchedulerListUpdate user s o prev s.defaultSchedId = (t, .success)) :
    defaultLinks s ≤ defaultLinks t ∧ (prev = nullObjectId → defaultLinks s < defaultLinks t) := by
  have joined : ∀ tree : KeyTree ObjectId Scheduler, tree.get s.defaultSchedId ≠ none →
      t = { s with schedulerTree := tree.modify s.defaultSchedId fun p => p.link user o } →
      defaultLinks t = ((tree.get s.defaultSchedId).map Scheduler.links).getD 0 + 1 := by
    intro tree stored isT
    obtain ⟨sched, got⟩ := Option.ne_none_iff_exists'.mp stored
    unfold defaultLinks
    rw [isT]
    dsimp only
    rw [KeyTree.get_modify_self, got]
    exact sched.links_link user o
  unfold qosSchedulerListUpdate at run
  split at run
  · cases run
  by_cases prevNull : prev = nullObjectId
  · rw [if_neg (not_not.mpr prevNull)] at run
    dsimp only at run
    split at run
    · cases run
    rename_i stored
    have grown := joined s.schedulerTree (fun absent => stored ⟨notNull, absent⟩) (congrArg Prod.fst run).symm
    have same : defaultLinks t = defaultLinks s + 1 := grown
    exact ⟨by omega, fun _ => by omega⟩
  · rw [if_pos prevNull] at run
    dsimp only at run
    split at run
    · cases run
    rename_i stored
    have grown := joined (s.schedulerTree.modify prev fun p => p.unlink user o)
      (fun absent => stored ⟨notNull, absent⟩) (congrArg Prod.fst run).symm
    refine ⟨?_, fun null => absurd null prevNull⟩
    rw [grown, KeyTree.get_modify]
    unfold defaultLinks
    cases s.schedulerTree.get s.defaultSchedId with
    | none => exact Nat.zero_le _
    | some sched =>
      split
      · exact sched.links_unlink user o
      · exact Nat.le_succ _

theorem qosUserSchedulerSet_links (notNull : s.defaultSchedId ≠ nullObjectId)
    (run : qosUserSchedulerSet (qosSchedulerListUpdate user) s o prev s.defaultSchedId npu = (t, .success)) :
    defaultLinks s ≤ defaultLinks t ∧ (prev = nullObjectId → defaultLinks s < defaultLinks t) := by
  unfold qosUserSchedulerSet at run
  split at run
  · cases run
  split at run
  · exact qosSchedulerListUpdate_links notNull run
  · rename_i error
    exact absurd (congrArg Prod.snd run) error

end ListUpdate

/-- What a call that links keeps: whose the groups are, who is the default
scheduler and, when it succeeds, what that one lists. -/
structure LinksKept (s t : QosState) (status : SaiStatus) : Prop where
  groups : groupPorts t = groupPorts s
  default : t.defaultSchedId = s.defaultSchedId
  links : status = .success → defaultLinks s ≤ defaultLinks t

section Kept

theorem LinksKept.refl (s : QosState) (status : SaiStatus) : LinksKept s s status :=
  ⟨rfl, rfl, fun _ => Nat.le_refl _⟩

theorem LinksKept.trans (first : LinksKept s t .success) (rest : LinksKept t u status) : LinksKept s u status :=
  ⟨rest.groups.trans first.groups, rest.default.trans first.default,
    fun success => (first.links rfl).trans (rest.links success)⟩

theorem qosSchedGroupAndChildNodeUpdate_kept (s : QosState) (sgId childId : ObjectId) (isAdd : Bool) :
    LinksKept s (qosSchedGroupAndChildNodeUpdate s sgId childId isAdd) .success := by
  have child : ∀ parentId, groupPorts (qosChildParentIdSet s childId parentId) = groupPorts s ∧
      (qosChildParentIdSet s childId parentId).defaultSchedId = s.defaultSchedId := by
    intro parentId
    unfold qosChildParentIdSet
    split
    · exact ⟨rfl, rfl⟩
    · refine ⟨funext fun sg => ?_, rfl⟩
      unfold groupPorts
      dsimp only
      rw [KeyTree.map_get_modify]
      exact fun _ => rfl
    · exact ⟨rfl, rfl⟩
  obtain ⟨groups, default⟩ := child (if isAdd then sgId else nullObjectId)
  have tree := (qosSchedGroupAndChildNodeUpdate_keeps s sgId childId isAdd).1
  have same : (qosSchedGroupAndChildNodeUpdate s sgId childId isAdd).defaultSchedId = s.defaultSchedId := default
  refine ⟨?_, same, fun _ => ?_⟩
  · rw [← groups]
    funext sg
    unfold groupPorts qosSchedGroupAndChildNodeUpdate
    dsimp only
    rw [KeyTree.map_get_modify]
    exact fun _ => rfl
  · unfold defaultLinks
    rw [tree, same]

theorem qosSchedGroupAndChildNodesLoop_kept (sgId : ObjectId) (isAdd : Bool) (children : List ObjectId) :
    ∀ s t status, qosSchedGroupAndChildNodesLoop sgId isAdd children s = (t, status) → LinksKept s t status := by
  induction children with
  | nil =>
    intro s t status loop
    cases loop
    exact .refl s _
  | cons childId rest ih =>
    intro s t status loop
    have one := qosSchedGroupAndChildNodeUpdate_kept s sgId childId isAdd
    unfold qosSchedGroupAndChildNodesLoop at loop
    split at loop
    · split at loop
      · cases loop
        exact .refl s _
      · exact one.trans (ih _ _ _ loop)
    · split at loop
      · cases loop
        exact .refl s _
      · exact one.trans (ih _ _ _ loop)
    · cases loop
      exact .refl s _

theorem addChildObjectToGroup_kept {sgId : ObjectId} {childObjects : List ObjectId} {npu : SaiStatus}
    (run : addChildObjectToGroup s sgId childObjects npu = some (t, status)) :
    LinksKept s t status ∧ t.schedulerTree = s.schedulerTree ∧
      ∀ user o, qosSchedulerIdGet t user o = qosSchedulerIdGet s user o := by
  rcases @HierarchyCall.run_cases s t (.addChild sgId childObjects npu) status run with
    ⟨rfl, _⟩ | ⟨sgId', children, isAdd, _, _, _, loop⟩
  · exact ⟨.refl t _, rfl, fun _ _ => rfl⟩
  · exact ⟨qosSchedGroupAndChildNodesLoop_kept sgId' isAdd children s t status loop,
      qosSchedGroupAndChildNodesLoop_keeps sgId' isAdd children s t status loop⟩

theorem qosUserSchedulerSet_kept {user : SchedulerUser} {o prev : ObjectId} {npu : SaiStatus}
    (notNull : s.defaultSchedId ≠ nullObjectId)
    (run : qosUserSchedulerSet (qosSchedulerListUpdate user) s o prev s.defaultSchedId npu = (t, status)) :
    LinksKept s t status ∧ (prev = nullObjectId → status = .success → defaultLinks s < defaultLinks t) := by
  have frame := qosUserSchedulerSet_frame run
  refine ⟨⟨by rw [frame]; rfl, by rw [frame], fun success => ?_⟩, fun null success => ?_⟩
  · rw [success] at run
    exact (qosUserSchedulerSet_links notNull run).1
  · rw [success] at run
    exact (qosUserSchedulerSet_links notNull run).2 null

theorem qosSchedulerIdSet_kept (s : QosState) (user : SchedulerUser) (o new : ObjectId) :
    LinksKept s (qosSchedulerIdSet s user o new) .success := by
  cases user with
  | schedGroup =>
    refine ⟨funext fun sg => ?_, rfl, fun _ => Nat.le_refl _⟩
    unfold groupPorts qosSchedulerIdSet
    dsimp only
    rw [KeyTree.map_get_modify]
    exact fun _ => rfl
  | _ => exact ⟨rfl, rfl, fun _ => Nat.le_refl _⟩

theorem setDefaultSchedulerLoop_kept (npu : ObjectId → SaiStatus) (children : List ObjectId) :
    ∀ s t status, s.defaultSchedId ≠ nullObjectId → setDefaultSchedulerLoop npu children s = (t, status) →
      LinksKept s t status ∧ ∀ childId rest, children = childId :: rest →
        qosChildSchedulerIdGet s childId = some nullObjectId → status = .success →
        defaultLinks s < defaultLinks t := by
  induction children with
  | nil =>
    intro s t status _ loop
    cases loop
    exact ⟨.refl s _, fun _ _ same => by cases same⟩
  | cons childId rest ih =>
    intro s t status notNull loop
    rcases setDefaultSchedulerLoop_cons npu childId rest s with
      ⟨_, ended⟩ | ⟨user, prev, v, result, _, reads, found, run, ⟨error, ended⟩ | ⟨rfl, goesOn⟩⟩
    · cases ended.symm.trans loop
      exact ⟨.refl s _, fun _ _ _ _ error => by cases error⟩
    all_goals obtain ⟨kept, grows⟩ := qosUserSchedulerSet_kept notNull run
    · cases ended.symm.trans loop
      exact ⟨kept, fun _ _ _ _ success => absurd success error⟩
    · have written := kept.trans (qosSchedulerIdSet_kept v user childId v.defaultSchedId)
      obtain ⟨rest', _⟩ := ih _ _ _ (written.default ▸ notNull) (goesOn.symm.trans loop)
      refine ⟨written.trans rest', ?_⟩
      rintro first _ same unset success
      cases same
      rw [reads, found] at unset
      exact (grows (Option.some.inj unset) rfl).trans_le
        (((qosSchedulerIdSet_kept v user childId v.defaultSchedId).links rfl).trans (rest'.links success))

theorem setDefaultScheduler_kept {children : List ObjectId} {npu : ObjectId → SaiStatus}
    (run : setDefaultScheduler s children npu = (t, status)) :
    LinksKept s t status ∧ ∀ childId rest, children = childId :: rest →
      qosChildSchedulerIdGet s childId = some nullObjectId → status = .success →
      defaultLinks s < defaultLinks t := by
  unfold setDefaultScheduler at run
  split at run
  · cases run
    exact ⟨.refl s _, fun _ _ _ _ error => by cases error⟩
  · rename_i notNull
    exact setDefaultSchedulerLoop_kept npu children s t status notNull run

end Kept

/-- A queue looked up by its index is one of the port's. -/
def QosPlatform.IndexesQueues (platform : QosPlatform) : Prop :=
  ∀ s port queueType childIdx queueId,
    platform.indexedQueueObject s port queueType childIdx = some queueId → queueId ∈ port.queueList

section Link
variable {platform : QosPlatform} {portId : ObjectId} {port : QosPort} {level : BitVec 32} {group : HqosGroup}
  {addChild : SaiStatus} {childScheduler : ObjectId → SaiStatus}

theorem qosHqosGroupLink_kept
    (run : qosHqosGroupLink platform portId port level group addChild childScheduler s = some (t, status)) :
    LinksKept s t status := by
  unfold qosHqosGroupLink at run
  split at run
  · cases run
    exact .refl s _
  split at run
  · cases run
    exact .refl s _
  split at run
  · cases run
    exact .refl s _
  split at run
  · cases run
  · rename_i v added
    have kept := addChildObjectToGroup_kept added
    exact kept.1.trans (setDefaultScheduler_kept (Option.some.inj run)).1
  · rename_i v error refused added
    cases run
    exact (addChildObjectToGroup_kept added).1

theorem qosHqosGroupsLink_kept (links : List ((BitVec 32 × HqosGroup) × SaiStatus)) :
    ∀ s t status, qosHqosGroupsLink platform portId port childScheduler links s = some (t, status) →
      LinksKept s t status := by
  induction links with
  | nil =>
    intro s t status run
    cases run
    exact .refl s _
  | cons link rest ih =>
    intro s t status run
    obtain ⟨⟨level, group⟩, addChild⟩ := link
    unfold qosHqosGroupsLink at run
    split at run
    · cases run
    · rename_i v linked
      exact (qosHqosGroupLink_kept linked).trans (ih _ _ _ run)
    · rename_i v error refused linked
      cases run
      exact qosHqosGroupLink_kept linked

theorem qosHqosChildrenGet_cons {child : HqosChild} {rest : List HqosChild} {childList : List ObjectId}
    (run : qosHqosChildrenGet platform s portId port (child :: rest) = .ok childList) :
    ∃ childId more, childList = childId :: more ∧ qosHqosChildGet platform s portId port child = .ok childId := by
  unfold qosHqosChildrenGet at run
  split at run
  · cases run
  rename_i childId found
  split at run
  · cases run
  rename_i more _
  cases run
  exact ⟨childId, more, rfl, found⟩

theorem qosIndexedSchedGroupIdGet_error {childIdx : Nat} {error : SaiStatus}
    (run : qosIndexedSchedGroupIdGet s portId level childIdx = .error error) : error ≠ .success := by
  unfold qosIndexedSchedGroupIdGet at run
  split at run
  · cases run
    exact nofun
  split at run
  · cases run
    exact nofun
  · cases run

theorem qosHqosChildrenGet_error {children : List HqosChild} {error : SaiStatus}
    (run : qosHqosChildrenGet platform s portId port children = .error error) : error ≠ .success := by
  induction children with
  | nil => cases run
  | cons child rest ih =>
    unfold qosHqosChildrenGet at run
    split at run
    · rename_i found
      cases run
      unfold qosHqosChildGet at found
      split at found
      · exact qosIndexedSchedGroupIdGet_error found
      split at found
      · cases found
        exact nofun
      · cases found
    · split at run
      · rename_i failed
        cases run
        exact ih failed
      · cases run

/-- A group of the configuration that is on the port and has no children. -/
structure HqosGroupFlat (port : QosPort) (level : BitVec 32) (group : HqosGroup) : Prop where
  childless : group.childInfo = []
  listed : group.nodeId < (port.groupsAt level).length

theorem qosIndexedSchedGroupIdGet_cases (found : s.portTree.get portId = some port) (level : BitVec 32)
    (childIdx : Nat) :
    (∃ sgId, qosIndexedSchedGroupIdGet s portId level childIdx = .ok sgId ∧ sgId ∈ port.groupsAt level) ∧
      childIdx < (port.groupsAt level).length ∨
    (∃ error, qosIndexedSchedGroupIdGet s portId level childIdx = .error error ∧ error ≠ .success) ∧
      ¬ childIdx < (port.groupsAt level).length := by
  unfold qosIndexedSchedGroupIdGet
  rw [found]
  dsimp only
  by_cases listed : childIdx < (port.groupsAt level).length
  · rw [List.getElem?_eq_getElem listed]
    exact .inl ⟨⟨_, rfl, List.getElem_mem listed⟩, listed⟩
  · rw [List.getElem?_eq_none (not_lt.mp listed)]
    exact .inr ⟨⟨_, rfl, nofun⟩, listed⟩

variable {queues : List ObjectId} {groups : List (BitVec 32 × ObjectId)}

theorem PortBuilt.unset (built : PortBuilt s t portId queues groups) {id : ObjectId}
    (listed : id ∈ queues ∨ id ∈ groups.map Prod.snd) : qosChildSchedulerIdGet t id = some nullObjectId := by
  unfold qosChildSchedulerIdGet qosSchedulerIdGet
  rcases listed with member | member
  · obtain ⟨kind, _, queueType, stored⟩ := built.queue id member
    rw [kind]
    dsimp only
    rw [stored]
    rfl
  · obtain ⟨entry, listed, rfl⟩ := List.mem_map.mp member
    obtain ⟨kind, _, maxChilds, stored⟩ := built.group entry listed
    rw [kind]
    dsimp only
    rw [stored]
    rfl

/-- A group on a port whose queues and groups are still unset: without children
nothing happens, and the first child enters the default scheduler's list. -/
theorem PortBuilt.groupLink (indexes : platform.IndexesQueues) (built : PortBuilt s t portId queues groups)
    (isPort : port = { qosPortNodeInit with queueList := queues, schedGroupList := groups })
    (run : qosHqosGroupLink platform portId port level group addChild childScheduler t = some (u, .success)) :
    HqosGroupFlat port level group ∧ u = t ∨ defaultLinks t < defaultLinks u := by
  have stored : t.portTree.get portId = some port := isPort ▸ built.port
  unfold qosHqosGroupLink at run
  rcases qosIndexedSchedGroupIdGet_cases stored level group.nodeId with
    ⟨⟨sgId, found, _⟩, listed⟩ | ⟨⟨error, missing, refused⟩, _⟩
  · rw [found] at run
    dsimp only at run
    split at run
    · rename_i childless
      cases run
      exact .inl ⟨⟨List.length_eq_zero_iff.mp childless, listed⟩, rfl⟩
    rename_i parent
    split at run
    · rename_i failed
      cases run
      exact absurd rfl (qosHqosChildrenGet_error failed)
    rename_i childList children
    split at run
    · cases run
    · rename_i v added
      obtain ⟨kept, _, ids⟩ := addChildObjectToGroup_kept added
      obtain ⟨child, rest, info⟩ := List.exists_cons_of_ne_nil fun empty =>
        parent (List.length_eq_zero_iff.mpr empty)
      rw [info] at children
      obtain ⟨childId, more, isList, got⟩ := qosHqosChildrenGet_cons children
      have member : childId ∈ queues ∨ childId ∈ groups.map Prod.snd := by
        unfold qosHqosChildGet at got
        split at got
        · rename_i childLevel _
          rcases qosIndexedSchedGroupIdGet_cases stored childLevel child.childIndex with
            ⟨⟨sgId, found, inLevel⟩, _⟩ | ⟨⟨error, missing, _⟩, _⟩
          · rw [found] at got
            cases got
            have entry := QosPort.mem_groupsAt.mp inLevel
            rw [isPort] at entry
            exact .inr (List.mem_map.mpr ⟨_, entry, rfl⟩)
          · rw [missing] at got
            cases got
        · split at got
          · cases got
          rename_i queueId indexed
          cases got
          have inList := indexes _ _ _ _ _ indexed
          rw [isPort] at inList
          exact .inl inList
      have unset : qosChildSchedulerIdGet v childId = some nullObjectId := by
        rw [← built.unset member]
        unfold qosChildSchedulerIdGet
        rw [ids, ids]
      have grown := (setDefaultScheduler_kept (Option.some.inj run)).2 childId more isList unset rfl
      exact .inr ((kept.links rfl).trans_lt grown)
    · rename_i v error refused added
      cases run
      exact absurd rfl refused
  · rw [missing] at run
    cases run
    exact absurd rfl refused

theorem PortBuilt.groupLink_flat (built : PortBuilt s t portId queues groups)
    (isPort : port = { qosPortNodeInit with queueList := queues, schedGroupList := groups })
    (flat : HqosGroupFlat port level group) :
    qosHqosGroupLink platform portId port level group addChild childScheduler t = some (t, .success) := by
  have stored : t.portTree.get portId = some port := isPort ▸ built.port
  unfold qosHqosGroupLink
  rcases qosIndexedSchedGroupIdGet_cases stored level group.nodeId with
    ⟨⟨sgId, found, _⟩, _⟩ | ⟨_, unlisted⟩
  · rw [found]
    dsimp only
    rw [if_pos (List.length_eq_zero_iff.mpr flat.childless)]
  · exact absurd flat.listed unlisted

theorem PortBuilt.groupsLink (indexes : platform.IndexesQueues) (built : PortBuilt s t portId queues groups)
    (isPort : port = { qosPortNodeInit with queueList := queues, schedGroupList := groups })
    (links : List ((BitVec 32 × HqosGroup) × SaiStatus)) (u : QosState)
    (run : qosHqosGroupsLink platform portId port childScheduler links t = some (u, .success)) :
    (∀ link ∈ links, HqosGroupFlat port link.1.1 link.1.2) ∨ defaultLinks t < defaultLinks u := by
  induction links with
  | nil => exact .inl fun link member => absurd member List.not_mem_nil
  | cons link rest ih =>
    obtain ⟨⟨level, group⟩, addChild⟩ := link
    unfold qosHqosGroupsLink at run
    split at run
    · cases run
    · rename_i v linked
      rcases built.groupLink indexes isPort linked with ⟨flat, rfl⟩ | grown
      · rcases ih run with others | grown
        · refine .inl fun link member => ?_
          rcases List.mem_cons.mp member with rfl | member
          · exact flat
          · exact others link member
        · exact .inr grown
      · exact .inr (grown.trans_le ((qosHqosGroupsLink_kept rest v u .success run).links rfl))
    · rename_i v error refused linked
      cases run
      exact absurd rfl refused

theorem PortBuilt.groupsLink_flat (built : PortBuilt s t portId queues groups)
    (isPort : port = { qosPortNodeInit with queueList := queues, schedGroupList := groups })
    (links : List ((BitVec 32 × HqosGroup) × SaiStatus))
    (flat : ∀ link ∈ links, HqosGroupFlat port link.1.1 link.1.2) :
    qosHqosGroupsLink platform portId port childScheduler links t = some (t, .success) := by
  induction links with
  | nil => rfl
  | cons link rest ih =>
    obtain ⟨⟨level, group⟩, addChild⟩ := link
    unfold qosHqosGroupsLink
    rw [built.groupLink_flat isPort (flat _ List.mem_cons_self)]
    exact ih fun link member => flat link (List.mem_cons_of_mem _ member)

end Link

end SaiCommon
