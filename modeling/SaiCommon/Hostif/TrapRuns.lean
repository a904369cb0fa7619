import SaiCommon.Hostif.TrapLinks

namespace SaiCommon

open KeyTree

variable {t s : HostifState} {bitmap : Nat → Bool} {id : ObjectId} {attr : TrapAttr} {group : TrapGroup}
  {env : TrapGroupCreateEnv} {trapId : HostifTrapId} {trap : Trap}

/-- The links and the default group, which is always stored. -/
structure TrapsKept (s : HostifState) : Prop where
  linked : TrapsLinked s
  default : s.trapGroupTree.get s.defaultTrapGroupId ≠ none

/-- A create that stores queue 0, which is in use, while it tests the default queue,
which is not: the attributes validate and give no queue, and nothing else fails. -/
def HostifState.Duplicates (platform : HostifPlatform) (s : HostifState) : HostifCall → Prop
  | .createTrapGroup attrs env =>
    validateTrapgroupAttrlist platform env.npuValidate attrs .create = .success ∧ findQueue attrs = none ∧
      s.queueInUse platform.defaultQueue = false ∧ s.queueInUse 0 = true ∧ s.freeIndex ≠ none ∧
      env.allocOk = true ∧ env.insertOk = true
  | _ => False

section Queues

theorem queuesApart_congr (apart : s.QueuesApart)
    (same : ∀ id, (t.trapGroupTree.get id).map TrapGroup.cpuQueue = (s.trapGroupTree.get id).map TrapGroup.cpuQueue) :
    t.QueuesApart := by
  have before : ∀ id group, t.trapGroupTree.get id = some group →
      ∃ old, s.trapGroupTree.get id = some old ∧ old.cpuQueue = group.cpuQueue := by
    intro id group stored
    have eq := same id
    rw [stored] at eq
    exact Option.map_eq_some_iff.mp eq.symm
  intro id id' group group' stored stored' queues
  obtain ⟨old, atOld, eq⟩ := before id group stored
  obtain ⟨old', atOld', eq'⟩ := before id' group' stored'
  exact apart id id' old old' atOld atOld' (by rw [eq, eq', queues])

theorem queueInUse_eq_false {cpuQueue : Nat} :
    s.queueInUse cpuQueue = false ↔ ∀ id group, s.trapGroupTree.get id = some group →
    group.cpuQueue ≠ cpuQueue := by
  rw [← Bool.not_eq_true, HostifState.queueInUse_iff]
  push Not
  rfl

theorem queuesApart_create (apart : s.QueuesApart) (absent : s.trapGroupTree.get id = none) :
    HostifState.QueuesApart { s with trapGroupBitmap := bitmap, trapGroupTree := s.trapGroupTree.put id group } ↔
      s.queueInUse group.cpuQueue = false := by
  rw [queueInUse_eq_false]
  constructor
  · intro after k old stored queues
    have other : k ≠ id := by
      rintro rfl
      rw [absent] at stored
      cases stored
    refine other (after k id old group ?_ ?_ queues)
    · exact (get_put_ne other).trans stored
    · exact get_put_self _ _ _
  · intro unused j k old old' stored stored' queues
    dsimp only at stored stored'
    rw [get_put] at stored stored'
    split at stored
    · rename_i atJ
      split at stored'
      · rename_i atK
        rw [atJ, atK]
      · cases stored
        exact absurd queues.symm (unused k old' stored')
    · split at stored'
      · cases stored'
        exact absurd queues (unused j old stored)
      · exact apart j k old old' stored stored' queues

theorem queuesApart_write (apart : s.QueuesApart) {next : TrapGroup} (stored : s.trapGroupTree.get id = some group)
    (unused : next.cpuQueue = group.cpuQueue ∨ s.queueInUse next.cpuQueue = false) :
    HostifState.QueuesApart { s with trapGroupTree := s.trapGroupTree.put id next } := by
  rcases unused with same | unused
  · refine queuesApart_congr apart fun k => ?_
    dsimp only
    rw [get_put]
    split
    · rename_i eq
      rw [eq, stored, Option.map_some, Option.map_some, same]
    · rfl
  · rw [queueInUse_eq_false] at unused
    intro j k old old' atJ atK queues
    dsimp only at atJ atK
    rw [get_put] at atJ atK
    split at atJ
    · rename_i isJ
      split at atK
      · rename_i isK
        rw [isJ, isK]
      · cases atJ
        exact absurd queues.symm (unused k old' atK)
    · split at atK
      · cases atK
        exact absurd queues (unused j old atJ)
      · exact apart j k old old' atJ atK queues

theorem queuesApart_remove (apart : s.QueuesApart) (id : ObjectId) :
    HostifState.QueuesApart { s with trapGroupBitmap := bitmap, trapGroupTree := s.trapGroupTree.del id } := by
  intro j k old old' atJ atK queues
  dsimp only at atJ atK
  rw [get_del] at atJ atK
  split at atJ
  · cases atJ
  split at atK
  · cases atK
  · exact apart j k old old' atJ atK queues

end Queues

section Calls
variable {platform : HostifPlatform}

theorem HostifState.named_of_stored (stored : s.trapTree.get trapId = some trap) :
    s.named trapId = trap.trapGroup.nonNull := by
  unfold HostifState.named Attached.nameIn
  rw [stored]
  rfl

theorem HostifState.named_of_absent (absent : s.trapTree.get trapId = none) : s.named trapId = none := by
  unfold HostifState.named Attached.nameIn
  rw [absent]
  rfl

theorem fillAll_queue {platform : HostifPlatform} {attrs : List TrapGroupAttr} {index : Nat}
    (created : TrapGroupCreated platform s attrs env index) :
    (attrs.foldl TrapGroup.fill .zero).cpuQueue = (findQueue attrs).getD 0 :=
  fillAll_cpuQueue (nodup_of_validate created.valid) .zero

theorem kept_createTrapGroup (kept : TrapsKept s) (attrs : List TrapGroupAttr) (env : TrapGroupCreateEnv) :
    TrapsKept (s.call platform (.createTrapGroup attrs env)) := by
  unfold HostifState.call
  dsimp only
  rcases createHostifTrapGroup_cases platform kept.linked attrs env with
    ⟨⟨error, refused⟩, _⟩ | ⟨index, created, result⟩
  · rw [refused]
    exact kept
  · rw [result]
    refine ⟨kept.linked.create created.index (fillAll_trapCount attrs _) (fillAll_trapList attrs _), ?_⟩
    change (s.trapGroupTree.put _ _).get s.defaultTrapGroupId ≠ none
    exact get_put_ne_none kept.default

/-- A create keeps the queues apart exactly when it does not store a queue that it
has not tested. -/
theorem queuesApart_createTrapGroup (kept : TrapsKept s) (apart : s.QueuesApart) (attrs : List TrapGroupAttr)
    (env : TrapGroupCreateEnv) : (s.call platform (.createTrapGroup attrs env)).QueuesApart ↔
      ¬ s.Duplicates platform (.createTrapGroup attrs env) := by
  unfold HostifState.call
  dsimp only
  rcases createHostifTrapGroup_cases platform kept.linked attrs env with
    ⟨⟨error, refused⟩, notCreated⟩ | ⟨index, created, result⟩
  · rw [refused]
    refine iff_of_true apart ?_
    rintro ⟨valid, unqueued, unused, _, room, allocOk, insertOk⟩
    obtain ⟨index, found⟩ := Option.ne_none_iff_exists'.mp room
    refine notCreated index ⟨valid, ?_, found, allocOk, insertOk⟩
    rw [unqueued]
    exact unused
  · rw [result]
    have free := HostifState.freeIndex_some created.index
    have absent := (kept.linked.free index free.2).mp free.1
    refine (queuesApart_create apart absent).trans ?_
    rw [fillAll_queue created]
    have unused := created.unused
    cases found : findQueue attrs with
    | some queue =>
      rw [found] at unused
      refine iff_of_true unused ?_
      rintro ⟨_, unqueued, _⟩
      rw [found] at unqueued
      cases unqueued
    | none =>
      rw [found] at unused
      rw [Option.getD_none, ← Bool.not_eq_true]
      refine not_congr ⟨fun zeroUsed =>
        ⟨created.valid, found, unused, zeroUsed, ?_, created.allocOk, created.insertOk⟩,
        fun duplicates => duplicates.2.2.2.1⟩
      rw [created.index]
      exact Option.some_ne_none index

theorem removeTrapGroup_cases (s : HostifState) (groupId : ObjectId) :
    (∃ error, removeHostifTrapGroup s groupId = (s, error)) ∨
      ∃ group, s.trapGroupTree.get groupId = some group ∧ group.trapCount = 0 ∧
        s.defaultTrapGroupId ≠ groupId ∧
        removeHostifTrapGroup s groupId =
          ({ s.setFree groupId.npuObjectId true with trapGroupTree := s.trapGroupTree.del groupId }, .success) := by
  unfold removeHostifTrapGroup
  split
  · exact .inl ⟨_, rfl⟩
  split
  · exact .inl ⟨_, rfl⟩
  rename_i group stored
  split
  · exact .inl ⟨_, rfl⟩
  rename_i unused
  split
  · exact .inl ⟨_, rfl⟩
  · rename_i notDefault
    exact .inr ⟨group, stored, by omega, notDefault, rfl⟩

theorem kept_removeTrapGroup (kept : TrapsKept s) (groupId : ObjectId) :
    TrapsKept (s.call platform (.removeTrapGroup groupId)) ∧
      (s.QueuesApart → (s.call platform (.removeTrapGroup groupId)).QueuesApart) := by
  unfold HostifState.call
  dsimp only
  rcases removeTrapGroup_cases s groupId with ⟨error, refused⟩ | ⟨group, stored, unused, notDefault, result⟩
  · rw [refused]
    exact ⟨kept, id⟩
  rw [result]
  refine ⟨⟨kept.linked.remove stored unused, ?_⟩, fun apart => queuesApart_remove apart groupId⟩
  change (s.trapGroupTree.del groupId).get s.defaultTrapGroupId ≠ none
  rw [get_del_ne notDefault]
  exact kept.default

/-- How a set of a group ends: nothing is written, or the attribute is, with a
queue that is not in use. -/
def TrapGroupSetEnds (s : HostifState) (groupId : ObjectId) (attr : TrapGroupAttr)
    (ended : HostifState × SaiStatus) : Prop :=
  (∃ status, ended = (s, status)) ∨ ∃ group, s.trapGroupTree.get groupId = some group ∧
    ((group.fill attr).cpuQueue = group.cpuQueue ∨ s.queueInUse (group.fill attr).cpuQueue = false) ∧
    ended = ({ s with trapGroupTree := s.trapGroupTree.put groupId (group.fill attr) }, .success)

theorem updateTrapgroup_ends {groupId : ObjectId} {attr : TrapGroupAttr}
    (stored : s.trapGroupTree.get groupId = some group)
    (unused : (group.fill attr).cpuQueue = group.cpuQueue ∨ s.queueInUse (group.fill attr).cpuQueue = false)
    (npuUpdate : HostifTrapId → SaiStatus) :
    TrapGroupSetEnds s groupId attr (updateTrapgroup s groupId group attr npuUpdate) := by
  unfold updateTrapgroup
  split
  · exact .inl ⟨_, rfl⟩
  · exact .inr ⟨group, stored, unused, rfl⟩

variable (platform) in
theorem setHostifTrapGroup_ends (s : HostifState) (groupId : ObjectId) (attr : TrapGroupAttr)
    (env : TrapGroupSetEnv) : TrapGroupSetEnds s groupId attr (setHostifTrapGroup platform s groupId attr env) := by
  unfold setHostifTrapGroup
  split
  · exact .inl ⟨_, rfl⟩
  split
  · split
    · exact .inl ⟨_, rfl⟩
    rename_i group stored
    cases attr with
    | adminState value =>
      dsimp only
      split
      · exact .inl ⟨_, rfl⟩
      · exact updateTrapgroup_ends stored (.inl rfl) env.npuUpdate
    | queue value =>
      dsimp only
      split
      · exact .inl ⟨_, rfl⟩
      split
      · exact .inl ⟨_, rfl⟩
      · rename_i unused
        exact updateTrapgroup_ends stored (.inr (Bool.not_eq_true _ ▸ unused)) env.npuUpdate
    | _ => exact .inl ⟨_, rfl⟩
  · exact .inl ⟨_, rfl⟩

theorem kept_setTrapGroup (kept : TrapsKept s) (groupId : ObjectId) (attr : TrapGroupAttr) (env : TrapGroupSetEnv) :
    TrapsKept (s.call platform (.setTrapGroup groupId attr env)) ∧
      (s.QueuesApart → (s.call platform (.setTrapGroup groupId attr env)).QueuesApart) := by
  unfold HostifState.call
  dsimp only
  rcases setHostifTrapGroup_ends platform s groupId attr env with
    ⟨status, unchanged⟩ | ⟨group, stored, unused, written⟩
  · rw [unchanged]
    exact ⟨kept, id⟩
  · rw [written]
    refine ⟨⟨kept.linked.write stored (group.fill_trapList attr) (group.fill_trapCount attr), ?_⟩,
      fun apart => queuesApart_write apart stored unused⟩
    dsimp only
    rw [ne_eq, get_put_eq_none stored]
    exact kept.default

/-- What a set of a trap keeps: the links, and of the groups everything but their
traps. -/
def TrapSetKeeps (s t : HostifState) : Prop := TrapsLinked t ∧ SameGroups s t

theorem updateTrapNode_keeps (linked : TrapsLinked s)
    (stored : s.trapTree.get trapId = some trap) (valid : ∀ oid, attr = .trapGroup oid →
      oid = nullObjectId ∨ s.trapGroupTree.get oid ≠ none) (env : TrapSetEnv) :
    TrapSetKeeps s (updateTrapNode s trapId trap env attr).1 := by
  cases attr with
  | packetAction value => exact ⟨linked.writeTrap stored rfl, rfl, rfl, fun _ => rfl⟩
  | trapPriority value => exact ⟨linked.writeTrap stored rfl, rfl, rfl, fun _ => rfl⟩
  | trapGroup value =>
    have named := HostifState.named_of_stored stored
    have regrouped : TrapsLinked { s.regroup trapId trap.trapGroup value with
        trapTree := s.trapTree.put trapId { trap with trapGroup := value } } :=
      linked.regroup named (valid value rfl)
    have same := sameGroups_regroup (s := s) trapId trap.trapGroup value
    rw [← regroup_trapTree trapId trap.trapGroup value] at regrouped
    exact ⟨regrouped, same.bitmap, same.default, same.queues⟩
  | portList value =>
    unfold updateTrapNode
    dsimp only
    split
    · exact ⟨linked, .refl s⟩
    · exact ⟨linked.writeTrap stored rfl, rfl, rfl, fun _ => rfl⟩
  | _ => exact ⟨linked, .refl s⟩

theorem updateTrap_keeps (linked : TrapsLinked s)
    (stored : s.trapTree.get trapId = some trap) (valid : ∀ oid, attr = .trapGroup oid →
      oid = nullObjectId ∨ s.trapGroupTree.get oid ≠ none) (isNewTrap : Bool) (env : TrapSetEnv) :
    TrapSetKeeps s (updateTrap s trapId trap attr isNewTrap env).1 := by
  unfold updateTrap
  split
  · exact ⟨linked, .refl s⟩
  split
  · exact updateTrapNode_keeps linked stored valid env
  · exact ⟨linked, .refl s⟩

theorem validateTrap_trapGroup {env : TrapSetEnv}
    (valid : validateTrap s trapId attr env = .success) (oid : ObjectId) (isGroup : attr = .trapGroup oid) :
    oid = nullObjectId ∨ s.trapGroupTree.get oid ≠ none := by
  by_contra neither
  rw [not_or, not_not] at neither
  have refused : checkTrapAttr s env attr = some .invalidObjectId := by
    rw [isGroup]
    exact congrArg some (if_pos neither)
  unfold validateTrap at valid
  rw [refused] at valid
  split at valid
  · cases valid
  · cases valid

section
variable (kept : TrapsKept s)
include kept

theorem addTrapNode_keeps {env : TrapSetEnv} (absent : s.trapTree.get trapId = none)
    (added : addTrapNode s trapId env = some (t, trap)) :
    TrapSetKeeps s t ∧ t.trapTree.get trapId = some trap := by
  have notNull : s.defaultTrapGroupId ≠ nullObjectId := by
    intro null
    exact kept.default (null ▸ kept.linked.null_absent)
  have unnamed : s.named trapId = nullObjectId.nonNull :=
    (HostifState.named_of_absent absent).trans nonNull_null.symm
  have unlinked : s.removeTrapToTrapgroup trapId nullObjectId = s := by
    unfold HostifState.removeTrapToTrapgroup
    rw [modify_null kept.linked]
  unfold addTrapNode at added
  split at added
  · cases added
  dsimp only at added
  cases added
  have regrouped : TrapsLinked { s.regroup trapId nullObjectId s.defaultTrapGroupId with
      trapTree := s.trapTree.put trapId ⟨getDefaultAction trapId, 0, s.defaultTrapGroupId, []⟩ } :=
    kept.linked.regroup unnamed (.inr kept.default)
  have same := sameGroups_add (s := s) trapId s.defaultTrapGroupId
  unfold HostifState.regroup at regrouped
  dsimp only at regrouped
  rw [if_pos notNull, unlinked] at regrouped
  exact ⟨⟨regrouped, same.bitmap, same.default, same.queues⟩, get_put_self _ _ _⟩

theorem setHostifTrap_keeps (trapId : HostifTrapId) (attr : TrapAttr) (env : TrapSetEnv) :
    TrapSetKeeps s (setHostifTrap s trapId attr env).1 := by
  unfold setHostifTrap
  split
  · rename_i valid
    have groupStored := validateTrap_trapGroup valid
    split
    · rename_i trap stored
      exact updateTrap_keeps kept.linked stored groupStored false env
    rename_i absent
    split
    · exact ⟨kept.linked, .refl s⟩
    rename_i t trap added
    obtain ⟨⟨linked, same⟩, stored⟩ := addTrapNode_keeps kept absent added
    have groupStored' : ∀ oid, attr = .trapGroup oid → oid = nullObjectId ∨ t.trapGroupTree.get oid ≠ none := by
      intro oid isGroup
      rw [ne_eq, same.stored]
      exact groupStored oid isGroup
    obtain ⟨linked', same'⟩ := updateTrap_keeps linked stored groupStored' true env
    exact ⟨linked', same.trans same'⟩
  · exact ⟨kept.linked, .refl s⟩

theorem kept_setTrap (trapId : HostifTrapId) (attr : TrapAttr) (env : TrapSetEnv) :
    TrapsKept (s.call platform (.setTrap trapId attr env)) ∧
      (s.QueuesApart → (s.call platform (.setTrap trapId attr env)).QueuesApart) := by
  obtain ⟨linked, same⟩ := setHostifTrap_keeps kept trapId attr env
  refine ⟨⟨linked, ?_⟩, fun apart => queuesApart_congr apart same.queues⟩
  change (setHostifTrap s trapId attr env).1.trapGroupTree.get
    (setHostifTrap s trapId attr env).1.defaultTrapGroupId ≠ none
  rw [same.default, ne_eq, same.stored]
  exact kept.default

theorem kept_hostifCall (call : HostifCall) : TrapsKept (s.call platform call) := by
  cases call with
  | createTrapGroup attrs env => exact kept_createTrapGroup kept attrs env
  | removeTrapGroup groupId => exact (kept_removeTrapGroup kept groupId).1
  | setTrapGroup groupId attr env => exact (kept_setTrapGroup kept groupId attr env).1
  | setTrap trapId attr env => exact (kept_setTrap kept trapId attr env).1

theorem queuesApart_call (apart : s.QueuesApart) (call : HostifCall) :
    (s.call platform call).QueuesApart ↔ ¬ s.Duplicates platform call := by
  cases call with
  | createTrapGroup attrs env => exact queuesApart_createTrapGroup kept apart attrs env
  | removeTrapGroup groupId => exact iff_of_true ((kept_removeTrapGroup kept groupId).2 apart) not_false
  | setTrapGroup groupId attr env => exact iff_of_true ((kept_setTrapGroup kept groupId attr env).2 apart) not_false
  | setTrap trapId attr env => exact iff_of_true ((kept_setTrap kept trapId attr env).2 apart) not_false

end

end Calls

/-- What the traps and the groups hold for each other. -/
structure HostifConsistent (s : HostifState) : Prop where
  /-- A trap is linked once in the group that it names and in no other one. -/
  linked : ∀ trapId trap, s.trapTree.get trapId = some trap → ∀ id group, s.trapGroupTree.get id = some group →
    group.trapList.count trapId = if trap.trapGroup = id then 1 else 0
  /-- Only traps are linked. -/
  traps : ∀ id group, s.trapGroupTree.get id = some group →
    ∀ trapId ∈ group.trapList, s.trapTree.get trapId ≠ none
  counted : ∀ id group, s.trapGroupTree.get id = some group → group.trapCount = group.trapList.length
  queues : s.QueuesApart
  /-- An index is free exactly when no stored group has it. -/
  free : ∀ i < maxTrapGroups, s.trapGroupBitmap i = true ↔ ∀ id, s.trapGroupTree.get id ≠ none →
    id.npuObjectId ≠ i
  distinct : ∀ id id', s.trapGroupTree.get id ≠ none → s.trapGroupTree.get id' ≠ none →
    id.npuObjectId = id'.npuObjectId → id = id'
  default : s.trapGroupTree.get s.defaultTrapGroupId ≠ none
  named : ∀ trapId trap, s.trapTree.get trapId = some trap →
    trap.trapGroup = nullObjectId ∨ s.trapGroupTree.get trap.trapGroup ≠ none

section Consistent

theorem TrapsLinked.eq_of_stored (linked : TrapsLinked s) (stored : s.trapGroupTree.get id ≠ none) :
    id = ⟨.trapGroup, id.npuObjectId⟩ := by
  rw [← (linked.kinds id stored).1]

theorem TrapsKept.consistent (kept : TrapsKept s) (apart : s.QueuesApart) : HostifConsistent s where
  linked trapId trap stored id group atId := by
    have listed : s.lists id = some group.trapList := congrArg (Option.map TrapGroup.trapList) atId
    rw [kept.linked.attached.once id _ listed trapId]
    refine if_congr ?_ rfl rfl
    rw [HostifState.named_of_stored stored, ObjectId.nonNull_eq_some, and_iff_left_of_imp]
    rintro - rfl
    rw [kept.linked.null_absent] at atId
    cases atId
  traps id group atId trapId member absent := by
    have listed : s.lists id = some group.trapList := congrArg (Option.map TrapGroup.trapList) atId
    have name := kept.linked.attached.named_of_mem listed member
    rw [HostifState.named_of_absent absent] at name
    cases name
  counted := kept.linked.counted
  queues := apart
  free i small := by
    rw [kept.linked.free i small]
    constructor
    · intro absent id stored same
      have eq := kept.linked.eq_of_stored stored
      rw [same] at eq
      exact stored (eq ▸ absent)
    · intro others
      by_contra stored
      exact others _ stored rfl
  distinct id id' stored stored' same := by
    rw [kept.linked.eq_of_stored stored, kept.linked.eq_of_stored stored', same]
  default := kept.default
  named trapId trap stored := by
    by_cases null : trap.trapGroup = nullObjectId
    · exact .inl null
    have name : s.named trapId = some trap.trapGroup :=
      (HostifState.named_of_stored stored).trans (nonNull_of_ne null)
    exact .inr fun absent => kept.linked.attached.held trapId _ name (congrArg (Option.map _) absent)

theorem linked_empty : TrapsLinked HostifState.empty where
  attached := .of_empty (fun _ => rfl) fun _ => rfl
  counted _ _ stored := by cases stored
  free _ _ := iff_of_true rfl rfl
  kinds _ stored := absurd rfl stored

theorem kept_hostintfInit {platform : HostifPlatform}
    (started : hostintfInit platform env = some s) : TrapsKept s ∧ s.QueuesApart := by
  unfold hostintfInit at started
  rcases createHostifTrapGroup_cases platform linked_empty
    [.adminState true, .queue platform.defaultQueue, .prio 0] env with
    ⟨⟨error, refused⟩, _⟩ | ⟨index, created, result⟩
  · rw [refused] at started
    cases started
  · rw [result] at started
    cases started
    refine ⟨⟨?_, ?_⟩, ?_⟩
    · have list := fillAll_trapList [.adminState true, .queue platform.defaultQueue, .prio 0] .zero
      have count := fillAll_trapCount [.adminState true, .queue platform.defaultQueue, .prio 0] .zero
      have linked := linked_empty.create created.index count list
      exact ⟨linked.attached, linked.counted, linked.free, linked.kinds⟩
    · dsimp only
      rw [get_put_self]
      exact Option.some_ne_none _
    · intro id id' group group' stored stored' _
      dsimp only at stored stored'
      have only : ∀ k g, (HostifState.empty.trapGroupTree.put ⟨.trapGroup, index⟩
          ([.adminState true, .queue platform.defaultQueue, .prio 0].foldl TrapGroup.fill .zero)).get k = some g →
          k = ⟨.trapGroup, index⟩ := by
        intro k g found
        rw [get_put] at found
        split at found
        · rename_i same
          exact same
        · cases found
      rw [only id group stored, only id' group' stored']

end Consistent

/-- As long as no create stores queue 0 untested, the traps and the groups hold what
they should for each other. -/
theorem hostif_consistent (platform : HostifPlatform) (s : HostifState)
    (reach : Runs.Reach (fun s => ∃ env, hostintfInit platform env = some s)
      (Runs.guarded (fun s call => ¬ s.Duplicates platform call) (HostifState.call platform)) s) :
    HostifConsistent s := by
  have kept : TrapsKept s ∧ s.QueuesApart := by
    refine reach.invariant (fun s => TrapsKept s ∧ s.QueuesApart) ?_ ?_
    · rintro s ⟨env, started⟩
      exact kept_hostintfInit started
    · rintro s call _ ⟨kept, apart⟩ ⟨allowed, rfl⟩
      exact ⟨kept_hostifCall kept call, (queuesApart_call kept apart call).mpr allowed⟩
  exact kept.1.consistent kept.2

def sampleHostifPlatform : HostifPlatform where
  defaultQueue := 7
  duplicateAttr ids := if ids.Nodup then none else some 0
  nodup_of_duplicateAttr ids none := by
    by_contra twice
    rw [if_neg twice] at none
    cases none

def sampleTrapGroupEnv : TrapGroupCreateEnv := ⟨fun _ => .success, true, true⟩

def sampleTrapSetEnv : TrapSetEnv := ⟨fun _ => true, .success, true, true, .success, true⟩

def sampleHostifStart : HostifState :=
  ⟨∅, (∅ : KeyTree ObjectId TrapGroup).put ⟨.trapGroup, 1⟩ ⟨true, 0, 7, nullObjectId, 0, []⟩,
    Function.update (fun _ => true) 1 false, ⟨.trapGroup, 1⟩⟩

theorem sampleHostifStart_started : hostintfInit sampleHostifPlatform sampleTrapGroupEnv = some sampleHostifStart :=
  rfl

def sampleHostifRun : List HostifCall :=
  [.createTrapGroup [.prio 1, .queue 3] sampleTrapGroupEnv,
    .setTrap .lacp (.trapGroup ⟨.trapGroup, 2⟩) sampleTrapSetEnv,
    .removeTrapGroup ⟨.trapGroup, 2⟩]

theorem sampleHostifRun_consistent :
    HostifConsistent (sampleHostifRun.foldl (HostifState.call sampleHostifPlatform) sampleHostifStart) :=
  hostif_consistent sampleHostifPlatform _
    (.run (.start ⟨sampleTrapGroupEnv, sampleHostifStart_started⟩)
      ⟨fun duplicates => (by cases duplicates.2.1), id, id, trivial⟩)

def sampleQueueRun : List HostifCall :=
  [.setTrapGroup ⟨.trapGroup, 1⟩ (.queue 3) ⟨fun _ => .success, fun _ => .success⟩,
    .createTrapGroup [.prio 1] sampleTrapGroupEnv, .createTrapGroup [.prio 1] sampleTrapGroupEnv]

theorem hostif_not_consistent : ¬ ∀ platform s, Runs.Reach (fun s => ∃ env, hostintfInit platform env = some s)
      (Runs.guarded (fun _ _ => True) (HostifState.call platform)) s → HostifConsistent s := by
  intro all
  have consistent := all sampleHostifPlatform _
    (.run (.start ⟨sampleTrapGroupEnv, sampleHostifStart_started⟩)
      (Runs.allowedRun_of_forall (fun _ _ => trivial) sampleHostifStart sampleQueueRun))
  have queues := consistent.queues ⟨.trapGroup, 2⟩ ⟨.trapGroup, 3⟩
    ⟨false, 1, 0, nullObjectId, 0, []⟩ ⟨false, 1, 0, nullObjectId, 0, []⟩ (by decide) (by decide) rfl
  cases queues

end SaiCommon
