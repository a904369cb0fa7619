import SaiCommon.Hostif.TrapGroup
import SaiCommon.Lib.Attachment
import SaiCommon.Lib.Runs

namespace SaiCommon

open KeyTree

variable {t s : HostifState} {trapId : HostifTrapId} {attrs : List TrapGroupAttr} {index : Nat} {groupId : ObjectId}
  {next : Trap} {group : TrapGroup}

def HostifState.lists (s : HostifState) : ObjectId → Option (List HostifTrapId) :=
  Attached.ofTree s.trapGroupTree TrapGroup.trapList

def HostifState.named (s : HostifState) : HostifTrapId → Option ObjectId :=
  Attached.nameIn s.trapTree fun trap => trap.trapGroup.nonNull

/-- Traps and groups agree, apart from the queues of the groups. -/
structure TrapsLinked (s : HostifState) : Prop where
  attached : Attached s.lists s.named
  counted : ∀ id group, s.trapGroupTree.get id = some group → group.trapCount = group.trapList.length
  free : ∀ i < maxTrapGroups, s.trapGroupBitmap i = true ↔ s.trapGroupTree.get ⟨.trapGroup, i⟩ = none
  kinds : ∀ id, s.trapGroupTree.get id ≠ none → id.objType = .trapGroup ∧ id.npuObjectId < maxTrapGroups

/-- No two stored groups have the same queue. -/
def HostifState.QueuesApart (s : HostifState) : Prop :=
  ∀ id id' group group', s.trapGroupTree.get id = some group → s.trapGroupTree.get id' = some group' →
    group.cpuQueue = group'.cpuQueue → id = id'

theorem HostifState.queueInUse_iff {cpuQueue : Nat} :
    s.queueInUse cpuQueue = true ↔ ∃ id group, s.trapGroupTree.get id = some group ∧
    group.cpuQueue = cpuQueue := by
  unfold HostifState.queueInUse
  rw [decide_eq_true_eq]
  constructor
  · rintro ⟨id, _, found⟩
    cases stored : s.trapGroupTree.get id with
    | none =>
      rw [stored] at found
      cases found
    | some group =>
      rw [stored] at found
      exact ⟨id, group, stored, of_decide_eq_true found⟩
  · rintro ⟨id, group, stored, same⟩
    refine ⟨id, KeyTree.mem_keys.mpr (by rw [stored]; rfl), ?_⟩
    rw [stored]
    exact decide_eq_true same

section Attrs

@[simp] theorem TrapGroup.fill_trapList (group : TrapGroup) (attr : TrapGroupAttr) :
    (group.fill attr).trapList = group.trapList := by cases attr <;> rfl

@[simp] theorem TrapGroup.fill_trapCount (group : TrapGroup) (attr : TrapGroupAttr) :
    (group.fill attr).trapCount = group.trapCount := by cases attr <;> rfl

theorem fillAll_trapList (attrs : List TrapGroupAttr) (group : TrapGroup) :
    (attrs.foldl TrapGroup.fill group).trapList = group.trapList := by
  induction attrs generalizing group with
  | nil => rfl
  | cons attr rest ih => rw [List.foldl_cons, ih, TrapGroup.fill_trapList]

theorem fillAll_trapCount (attrs : List TrapGroupAttr) (group : TrapGroup) :
    (attrs.foldl TrapGroup.fill group).trapCount = group.trapCount := by
  induction attrs generalizing group with
  | nil => rfl
  | cons attr rest ih => rw [List.foldl_cons, ih, TrapGroup.fill_trapCount]

theorem findQueue_eq_none (absent : .queue ∉ attrs.map TrapGroupAttr.attrId) : findQueue attrs = none := by
  induction attrs with
  | nil => rfl
  | cons attr rest ih =>
    rw [List.map_cons, List.mem_cons, not_or] at absent
    cases attr with
    | queue value => exact absurd rfl absent.1
    | _ => exact ih absent.2

theorem fillAll_cpuQueue (nodup : (attrs.map TrapGroupAttr.attrId).Nodup)
    (group : TrapGroup) : (attrs.foldl TrapGroup.fill group).cpuQueue = (findQueue attrs).getD group.cpuQueue := by
  induction attrs generalizing group with
  | nil => rfl
  | cons attr rest ih =>
    rw [List.map_cons, List.nodup_cons] at nodup
    rw [List.foldl_cons, ih nodup.2]
    cases attr with
    | queue value =>
      rw [findQueue_eq_none nodup.1]
      rfl
    | _ => rfl

theorem nodup_of_validate {platform : HostifPlatform} {npuValidate : TrapGroupAttr → SaiStatus} {operation : HostifOp}
    (valid : validateTrapgroupAttrlist platform npuValidate attrs operation = .success) :
    (attrs.map TrapGroupAttr.attrId).Nodup := by
  unfold validateTrapgroupAttrlist at valid
  split at valid
  · cases valid
  split at valid
  · cases valid
  · rename_i none
    exact platform.nodup_of_duplicateAttr _ none

end Attrs

section Create
variable {platform : HostifPlatform}

theorem HostifState.freeIndex_some (found : s.freeIndex = some index) :
    s.trapGroupBitmap index = true ∧ index < maxTrapGroups := by
  refine ⟨List.find?_some found, ?_⟩
  have inRange := List.mem_of_find?_eq_some found
  rw [List.mem_range'_1] at inRange
  have bound : 1 + (maxTrapGroups - 1) = maxTrapGroups := rfl
  omega

theorem HostifState.setFree_back (free : s.trapGroupBitmap index = true) :
    (s.setFree index false).setFree index true = s := by
  unfold setFree
  dsimp only
  rw [Function.update_idem, Function.update_eq_self_iff.mpr free.symm]

structure TrapGroupCreated (platform : HostifPlatform) (s : HostifState) (attrs : List TrapGroupAttr)
    (env : TrapGroupCreateEnv) (index : Nat) : Prop where
  valid : validateTrapgroupAttrlist platform env.npuValidate attrs .create = .success
  unused : s.queueInUse ((findQueue attrs).getD platform.defaultQueue) = false
  index : s.freeIndex = some index
  allocOk : env.allocOk = true
  insertOk : env.insertOk = true

variable (platform) in
theorem createHostifTrapGroup_cases (linked : TrapsLinked s) (attrs : List TrapGroupAttr)
    (env : TrapGroupCreateEnv) :
    (∃ error, createHostifTrapGroup platform s attrs env = (s, .error error)) ∧
        (∀ index, ¬ TrapGroupCreated platform s attrs env index) ∨
      ∃ index, TrapGroupCreated platform s attrs env index ∧ createHostifTrapGroup platform s attrs env =
        ({ s.setFree index false with
            trapGroupTree := s.trapGroupTree.put ⟨.trapGroup, index⟩ (attrs.foldl TrapGroup.fill .zero) },
          .ok ⟨.trapGroup, index⟩) := by
  unfold createHostifTrapGroup allocTrapgroup
  cases valid : validateTrapgroupAttrlist platform env.npuValidate attrs .create with
  | success =>
    dsimp only
    cases unused : s.queueInUse ((findQueue attrs).getD platform.defaultQueue) with
    | true =>
      refine .inl ⟨⟨_, if_pos rfl⟩, fun index created => ?_⟩
      rw [created.unused] at unused
      cases unused
    | false =>
      rw [if_neg Bool.false_ne_true]
      cases found : s.freeIndex with
      | none =>
        refine .inl ⟨⟨_, rfl⟩, fun index created => ?_⟩
        rw [created.index] at found
        cases found
      | some index =>
        dsimp only
        cases allocOk : env.allocOk with
        | false =>
          refine .inl ⟨⟨_, rfl⟩, fun index created => ?_⟩
          rw [created.allocOk] at allocOk
          cases allocOk
        | true =>
          rw [if_neg (by decide)]
          dsimp only
          have free := HostifState.freeIndex_some found
          have absent := (linked.free index free.2).mp free.1
          cases insertOk : env.insertOk with
          | false =>
            rw [if_neg (by simp), HostifState.setFree_back free.1]
            refine .inl ⟨⟨_, rfl⟩, fun index created => ?_⟩
            rw [created.insertOk] at insertOk
            cases insertOk
          | true =>
            rw [if_pos ⟨rfl, absent⟩]
            exact .inr ⟨index, ⟨valid, unused, found, allocOk, insertOk⟩, rfl⟩
  | _ =>
    refine .inl ⟨⟨_, rfl⟩, fun index created => ?_⟩
    rw [created.valid] at valid
    cases valid

theorem TrapsLinked.create (linked : TrapsLinked s)
    (found : s.freeIndex = some index) (count : group.trapCount = 0) (list : group.trapList = []) :
    TrapsLinked { s.setFree index false with
      trapGroupTree := s.trapGroupTree.put ⟨.trapGroup, index⟩ group } := by
  have free := HostifState.freeIndex_some found
  have absent := (linked.free index free.2).mp free.1
  refine ⟨?_, fun id g stored => ?_, fun i small => ?_, fun id stored => ?_⟩
  · have missing : s.lists ⟨.trapGroup, index⟩ = none := by
      unfold HostifState.lists Attached.ofTree
      rw [absent]
      rfl
    refine (linked.attached.insert missing).congr (fun id => ?_) fun _ => rfl
    change Attached.ofTree (s.trapGroupTree.put _ _) _ id = _
    rw [Attached.ofTree_put, list]
    rfl
  · dsimp only at stored
    rw [get_put] at stored
    split at stored
    · cases stored
      rw [count, list]
      rfl
    · exact linked.counted id g stored
  · change Function.update s.trapGroupBitmap index false i = true ↔ _
    dsimp only
    rw [get_put, Function.update_apply]
    by_cases same : i = index
    · rw [if_pos same, if_pos (by rw [same])]
      simp
    · rw [if_neg same, if_neg fun eq => same (congrArg ObjectId.npuObjectId eq)]
      exact linked.free i small
  · dsimp only at stored
    rw [get_put] at stored
    split at stored
    · rename_i same
      rw [same]
      exact ⟨rfl, free.2⟩
    · exact linked.kinds id stored

end Create

section Groups

theorem TrapsLinked.remove (linked : TrapsLinked s)
    (stored : s.trapGroupTree.get groupId = some group) (unused : group.trapCount = 0) :
    TrapsLinked { s.setFree groupId.npuObjectId true with trapGroupTree := s.trapGroupTree.del groupId } := by
  have empty : group.trapList = [] := by
    rw [← List.length_eq_zero_iff, ← linked.counted groupId group stored]
    exact unused
  have kind := linked.kinds groupId (by rw [stored]; exact Option.some_ne_none group)
  refine ⟨?_, fun id g left => ?_, fun i small => ?_, fun id left => ?_⟩
  · have listed : s.lists groupId = some [] := by
      unfold HostifState.lists Attached.ofTree
      rw [stored, Option.map_some, empty]
    exact (linked.attached.erase listed).congr (fun id => Attached.ofTree_del id) fun _ => rfl
  · dsimp only at left
    exact linked.counted id g (get_of_del left)
  · change Function.update s.trapGroupBitmap groupId.npuObjectId true i = true ↔ _
    dsimp only
    rw [get_del, Function.update_apply]
    by_cases same : i = groupId.npuObjectId
    · have sameId : (⟨.trapGroup, i⟩ : ObjectId) = groupId := by
        rw [same, ← kind.1]
      rw [if_pos same, if_pos sameId]
      simp
    · have otherId : (⟨.trapGroup, i⟩ : ObjectId) ≠ groupId := fun eq => same (congrArg ObjectId.npuObjectId eq)
      rw [if_neg same, if_neg otherId]
      exact linked.free i small
  · dsimp only at left
    rw [get_del] at left
    split at left
    · exact absurd rfl left
    · exact linked.kinds id left

theorem TrapsLinked.write (linked : TrapsLinked s) {next : TrapGroup}
    (stored : s.trapGroupTree.get groupId = some group) (list : next.trapList = group.trapList)
    (count : next.trapCount = group.trapCount) :
    TrapsLinked { s with trapGroupTree := s.trapGroupTree.put groupId next } where
  attached := linked.attached.congr (fun id => Attached.ofTree_put_keep stored list id) fun _ => rfl
  counted id g found := by
    dsimp only at found
    rw [get_put] at found
    split at found
    · cases found
      rw [count, list]
      exact linked.counted groupId group stored
    · exact linked.counted id g found
  free i small := by
    dsimp only
    rw [get_put_eq_none stored]
    exact linked.free i small
  kinds id found := by
    dsimp only at found
    rw [ne_eq, get_put_eq_none stored] at found
    exact linked.kinds id found

end Groups

section Traps

section
variable (linked : TrapsLinked s)
include linked

theorem TrapsLinked.writeTrap {trap : Trap}
    (stored : s.trapTree.get trapId = some trap) (same : next.trapGroup = trap.trapGroup) :
    TrapsLinked { s with trapTree := s.trapTree.put trapId next } where
  attached := linked.attached.congr (fun _ => rfl)
    fun id => Attached.nameIn_put_keep stored (congrArg ObjectId.nonNull same) id
  counted := linked.counted
  free := linked.free
  kinds := linked.kinds

theorem TrapsLinked.null_absent : s.trapGroupTree.get nullObjectId = none := by
  by_contra stored
  cases (linked.kinds nullObjectId stored).1

theorem modify_null (edit : TrapGroup → TrapGroup) : s.trapGroupTree.modify nullObjectId edit = s.trapGroupTree :=
  modify_of_absent linked.null_absent

theorem TrapsLinked.release_lists (trapId : HostifTrapId) (groupId : ObjectId) :
    (s.removeTrapToTrapgroup trapId groupId).lists = Attached.release s.lists trapId groupId.nonNull := by
  by_cases null : groupId = nullObjectId
  · rw [null, nonNull_null]
    unfold HostifState.lists HostifState.removeTrapToTrapgroup
    rw [modify_null linked]
    rfl
  · rw [nonNull_of_ne null]
    funext id
    change Attached.ofTree (s.trapGroupTree.modify groupId _) _ id =
      Attached.edit s.lists groupId (List.erase · trapId) id
    refine Attached.ofTree_modify (fun group => ?_) id
    rfl

end

theorem take_lists (trapId : HostifTrapId) (notNull : groupId ≠ nullObjectId) :
    (s.addTrapToTrapgroup trapId groupId).lists = Attached.take s.lists trapId groupId.nonNull := by
  rw [nonNull_of_ne notNull]
  funext id
  change Attached.ofTree (s.trapGroupTree.modify groupId _) _ id = Attached.edit s.lists groupId (· ++ [trapId]) id
  refine Attached.ofTree_modify (fun group => ?_) id
  rfl

/-- The count of every stored group is the length of its list. -/
def HostifState.Counted (s : HostifState) : Prop :=
  ∀ id group, s.trapGroupTree.get id = some group → group.trapCount = group.trapList.length

theorem HostifState.Counted.add (counted : s.Counted) (trapId : HostifTrapId) (groupId : ObjectId) :
    (s.addTrapToTrapgroup trapId groupId).Counted := by
  intro id group stored
  unfold addTrapToTrapgroup at stored
  dsimp only at stored
  rw [get_modify] at stored
  split at stored
  · obtain ⟨old, atOld, rfl⟩ := Option.map_eq_some_iff.mp stored
    dsimp only
    rw [counted id old atOld, List.length_append, List.length_singleton]
  · exact counted id group stored

theorem TrapsLinked.counted_remove (linked : TrapsLinked s)
    (named : s.named trapId = groupId.nonNull) : (s.removeTrapToTrapgroup trapId groupId).Counted := by
  intro id group stored
  unfold HostifState.removeTrapToTrapgroup at stored
  dsimp only at stored
  rw [get_modify] at stored
  split at stored
  · rename_i same
    obtain ⟨old, atOld, rfl⟩ := Option.map_eq_some_iff.mp stored
    have notNull : groupId ≠ nullObjectId := by
      rintro rfl
      rw [same, linked.null_absent] at atOld
      cases atOld
    have listed : s.lists groupId = some old.trapList := by
      unfold HostifState.lists Attached.ofTree
      rw [← same, atOld]
      rfl
    have member := linked.attached.mem_of_named listed (named.trans (nonNull_of_ne notNull))
    dsimp only
    rw [linked.counted id old atOld, List.length_erase_of_mem member]
  · exact linked.counted id group stored

structure SameGroups (s t : HostifState) : Prop where
  bitmap : t.trapGroupBitmap = s.trapGroupBitmap
  default : t.defaultTrapGroupId = s.defaultTrapGroupId
  queues : ∀ id, (t.trapGroupTree.get id).map TrapGroup.cpuQueue = (s.trapGroupTree.get id).map TrapGroup.cpuQueue

theorem SameGroups.refl (s : HostifState) : SameGroups s s := ⟨rfl, rfl, fun _ => rfl⟩

theorem SameGroups.trans {u : HostifState} (one : SameGroups s t) (two : SameGroups t u) : SameGroups s u :=
  ⟨two.bitmap.trans one.bitmap, two.default.trans one.default, fun id => (two.queues id).trans (one.queues id)⟩

theorem SameGroups.stored (same : SameGroups s t) (id : ObjectId) :
    t.trapGroupTree.get id = none ↔ s.trapGroupTree.get id = none := by
  rw [← Option.map_eq_none_iff (f := TrapGroup.cpuQueue), same.queues, Option.map_eq_none_iff]

theorem sameGroups_add (trapId : HostifTrapId) (groupId : ObjectId) :
    SameGroups s (s.addTrapToTrapgroup trapId groupId) := by
  refine ⟨rfl, rfl, fun id => ?_⟩
  change ((s.trapGroupTree.modify groupId _).get id).map TrapGroup.cpuQueue = _
  refine map_get_modify (fun group => ?_) id
  rfl

theorem sameGroups_remove (trapId : HostifTrapId) (groupId : ObjectId) :
    SameGroups s (s.removeTrapToTrapgroup trapId groupId) := by
  refine ⟨rfl, rfl, fun id => ?_⟩
  change ((s.trapGroupTree.modify groupId _).get id).map TrapGroup.cpuQueue = _
  refine map_get_modify (fun group => ?_) id
  rfl

/-- `joined` of `updateTrapNode`: the trap leaves a group and joins another one. -/
def HostifState.regroup (s : HostifState) (trapId : HostifTrapId) (old next : ObjectId) : HostifState :=
  let left := s.removeTrapToTrapgroup trapId old
  if next ≠ nullObjectId then left.addTrapToTrapgroup trapId next else left

theorem sameGroups_regroup (trapId : HostifTrapId) (old next : ObjectId) :
    SameGroups s (s.regroup trapId old next) := by
  unfold HostifState.regroup
  dsimp only
  split
  · exact (sameGroups_remove trapId old).trans (sameGroups_add trapId next)
  · exact sameGroups_remove trapId old

theorem regroup_trapTree (trapId : HostifTrapId) (old next : ObjectId) :
    (s.regroup trapId old next).trapTree = s.trapTree := by
  unfold HostifState.regroup
  dsimp only
  split <;> rfl

theorem TrapsLinked.regroup (linked : TrapsLinked s) {old : ObjectId} (named : s.named trapId = old.nonNull)
    (valid : next.trapGroup = nullObjectId ∨ s.trapGroupTree.get next.trapGroup ≠ none) :
    TrapsLinked { s.regroup trapId old next.trapGroup with trapTree := s.trapTree.put trapId next } := by
  have same := sameGroups_regroup (s := s) trapId old next.trapGroup
  refine ⟨?_, ?_, fun i small => ?_, fun id stored => ?_⟩
  · have moved := linked.attached.move trapId next.trapGroup.nonNull fun k isIt => by
      obtain ⟨rfl, notNull⟩ := ObjectId.nonNull_eq_some.mp isIt
      rcases valid with null | stored
      · exact absurd null notNull
      · exact fun absent => stored (Option.map_eq_none_iff.mp absent)
    refine moved.congr (fun id => congrFun ?_ id) fun id => Attached.nameIn_put trapId next id
    rw [named]
    change (s.regroup trapId old next.trapGroup).lists = _
    unfold HostifState.regroup
    dsimp only
    by_cases null : next.trapGroup = nullObjectId
    · rw [if_neg (not_not.mpr null), linked.release_lists, null, nonNull_null]
      rfl
    · rw [if_pos null, take_lists trapId null, linked.release_lists]
  · change (s.regroup trapId old next.trapGroup).Counted
    unfold HostifState.regroup
    dsimp only
    split
    · exact (linked.counted_remove named).add trapId next.trapGroup
    · exact linked.counted_remove named
  · dsimp only
    rw [same.bitmap, same.stored]
    exact linked.free i small
  · dsimp only at stored
    rw [ne_eq, same.stored] at stored
    exact linked.kinds id stored

end Traps

end SaiCommon
