import SaiCommon.Lib.Attachment
import SaiCommon.Lib.Runs
import SaiCommon.Udf.Udf

namespace SaiCommon

variable {groupId : ObjectId} {group : UdfGroup} {udf filled : Udf} {allocOk : Bool}

/-- The mask that the type of the group asks for. -/
structure UdfMasked (group : UdfGroup) (mask : Option (List (BitVec 8))) : Prop where
  hash : group.type = .hash → ∃ bytes, mask = some bytes ∧ bytes.length = group.length
  generic : group.type = .generic → mask = none

/-- The groups that the tree of groups lists UDFs in. -/
def UdfState.lists (s : UdfState) : ObjectId → Option (List ObjectId) :=
  Attached.ofTree s.udfGroupTree UdfGroup.udfList

def UdfState.groupOf (s : UdfState) : ObjectId → Option ObjectId :=
  Attached.nameIn s.udfObjTree Udf.udfGroup

/-- Each group lists the UDFs of the tree whose group it is, once each, and
counts them; the group of a stored UDF is stored, and the UDF has the mask that
the group asks for. -/
structure UdfGroupsExact (s : UdfState) : Prop where
  listed : Attached s.lists s.groupOf
  counted : ∀ groupId group, s.udfGroupTree.get groupId = some group → group.udfCount = group.udfList.length
  masked : ∀ udfId udf, s.udfObjTree.get udfId = some udf →
    ∃ group, udf.group s.udfGroupTree = some group ∧ UdfMasked group udf.hashMask

inductive UdfEvent
  | groupCreate (attrs : List UdfGroupAttr) (env : UdfGroupCreateEnv)
  | groupRemove (groupId : ObjectId) (env : UdfRemoveEnv)
  | create (attrs : List UdfAttr) (env : UdfCreateEnv)
  | remove (udfId : ObjectId) (env : UdfRemoveEnv)
  | set (udfId : ObjectId) (attr : UdfAttr) (env : UdfSetEnv)

def UdfEvent.step (s : UdfState) : UdfEvent → UdfState
  | .groupCreate attrs env => (udfGroupCreate s attrs env).1
  | .groupRemove groupId env => (udfGroupRemove s groupId env).1
  | .create attrs env => (udfCreate s attrs env).1
  | .remove udfId env => (udfRemove s udfId env).1
  | .set udfId attr env => (udfSetAttribute s udfId attr env).1

/-- What `sai_attribute_validate` lets pass is in the table: a set only of
attributes that are valid for set. -/
def UdfEvent.ordered (_ : UdfState) : UdfEvent → Prop
  | .set _ attr env => env.validate = .success → ∃ kind, attr.kind = some kind ∧
    (udfAttrTable kind).validForSet = true
  | _ => True

/-- No insertion into a tree fails. -/
def UdfEvent.inserted (s : UdfState) : UdfEvent → Prop
  | .groupCreate _ env => env.insertOk = true ∧ s.udfGroupTree.get ⟨.udfGroup, env.hwId⟩ = none
  | .create _ env => env.insertOk = true ∧ s.udfObjTree.get ⟨.udf, env.hwId⟩ = none
  | .remove _ env => env.npu ≠ .success → env.insertOk = true
  | _ => True

/-- A removal of a group finds an unused group that the NPU gives up or that
cannot be put back, unless the id is of another type. -/
def UdfEvent.answered (s : UdfState) : UdfEvent → Prop
  | .groupRemove groupId env => groupId.objType ≠ .udfGroup ∨
    (∃ group, s.udfGroupTree.get groupId = some group ∧ group.udfCount = 0) ∧
      (env.npu = .success ∨ env.insertOk = false)
  | _ => True

/-- SUCCESS says what happened to the object of the call. -/
def UdfEvent.Exact (s : UdfState) : UdfEvent → Prop
  | .groupCreate attrs env =>
    match udfGroupCreate s attrs env with
    | (t, .ok groupId) => s.udfGroupTree.get groupId = none ∧
      ∃ group, t = { s with udfGroupTree := s.udfGroupTree.put groupId group }
    | (t, .error _) => t = s
  | .groupRemove groupId env => (udfGroupRemove s groupId env).2 = .success ↔
    s.udfGroupTree.get groupId ≠ none ∧ (udfGroupRemove s groupId env).1.udfGroupTree.get groupId = none
  | .create attrs env =>
    match udfCreate s attrs env with
    | (t, .ok udfId) => s.udfObjTree.get udfId = none ∧ ∃ udf, t.udfObjTree = s.udfObjTree.put udfId udf
    | (t, .error _) => t = s
  | .remove udfId env => (udfRemove s udfId env).2 = .success ↔
    s.udfObjTree.get udfId ≠ none ∧ (udfRemove s udfId env).1.udfObjTree.get udfId = none
  | .set _ _ _ => True

variable {s : UdfState}

theorem UdfGroupsExact.empty (exact : UdfGroupsExact s)
    (stored : s.udfGroupTree.get groupId = some group) (unused : group.udfCount = 0) : s.lists groupId = some [] := by
  have none : group.udfList = [] :=
    List.eq_nil_of_length_eq_zero ((exact.counted groupId group stored).symm.trans unused)
  unfold UdfState.lists Attached.ofTree
  rw [stored, Option.map_some, none]

section Group

theorem udfGroupAttrSet_keeps (attrs : List UdfGroupAttr) : ∀ index group filled,
    udfGroupAttrSet index group attrs = .ok filled →
      filled.udfList = group.udfList ∧ filled.udfCount = group.udfCount := by
  have one : ∀ group attr filled, udfGroupAttrSetOne group attr = .ok filled →
      filled.udfList = group.udfList ∧ filled.udfCount = group.udfCount := by
    intro group attr filled result
    cases attr with
    | type value =>
      cases value with
      | generic | hash =>
        cases result
        exact ⟨rfl, rfl⟩
      | other value => cases result
    | length value =>
      unfold udfGroupAttrSetOne udfGroupLengthSet at result
      dsimp only at result
      split at result
      · cases result
      · cases result
        exact ⟨rfl, rfl⟩
    | udfList value => cases result
    | other => cases result
  induction attrs with
  | nil =>
    intro index group filled result
    cases result
    exact ⟨rfl, rfl⟩
  | cons attr rest ih =>
    intro index group filled result
    unfold udfGroupAttrSet at result
    split at result
    · cases result
    rename_i next set
    obtain ⟨list, count⟩ := ih (index + 1) next filled result
    obtain ⟨list', count'⟩ := one group attr next set
    exact ⟨list.trans list', count.trans count'⟩

theorem UdfGroupsExact.regroup (exact : UdfGroupsExact s) {tree : KeyTree ObjectId UdfGroup}
    (others : ∀ k, k ≠ groupId → tree.get k = s.udfGroupTree.get k)
    (listed : Attached (Attached.ofTree tree UdfGroup.udfList) s.groupOf)
    (counted : ∀ group, tree.get groupId = some group → group.udfCount = group.udfList.length)
    (unnamed : ∀ udfId, s.groupOf udfId ≠ some groupId) : UdfGroupsExact { s with udfGroupTree := tree } := by
  refine ⟨listed, fun k group stored => ?_, fun udfId udf stored => ?_⟩
  · dsimp only at stored
    by_cases same : k = groupId
    · rw [same] at stored
      exact counted group stored
    · rw [others k same] at stored
      exact exact.counted k group stored
  · obtain ⟨group, found, masked⟩ := exact.masked udfId udf stored
    refine ⟨group, ?_, masked⟩
    obtain ⟨k, name, here⟩ := Option.bind_eq_some_iff.mp found
    have apart : k ≠ groupId := by
      rintro rfl
      refine unnamed udfId ?_
      unfold UdfState.groupOf Attached.nameIn
      rw [stored]
      exact name
    unfold Udf.group
    rw [name, Option.bind_some, others k apart]
    exact here

theorem UdfGroupsExact.groupPut (exact : UdfGroupsExact s)
    (absent : s.udfGroupTree.get groupId = none) (list : group.udfList = []) (count : group.udfCount = 0) :
    UdfGroupsExact { s with udfGroupTree := s.udfGroupTree.put groupId group } := by
  have noList : s.lists groupId = none := by
    unfold UdfState.lists Attached.ofTree
    rw [absent]
    rfl
  refine exact.regroup (fun k other => KeyTree.get_put_ne other) ?_ (fun other stored => ?_) ?_
  · refine (exact.listed.insert noList).congr (fun k => ?_) fun _ => rfl
    rw [← list]
    exact Attached.ofTree_put k
  · rw [KeyTree.get_put_self] at stored
    cases stored
    rw [list, count]
    rfl
  · exact exact.listed.unnamed_of_absent noList

theorem UdfGroupsExact.groupDel (exact : UdfGroupsExact s)
    (stored : s.udfGroupTree.get groupId = some group) (unused : group.udfCount = 0) :
    UdfGroupsExact { s with udfGroupTree := s.udfGroupTree.del groupId } := by
  have empty := exact.empty stored unused
  refine exact.regroup (fun k other => KeyTree.get_del_ne other) ?_ (fun other here => ?_) ?_
  · exact (exact.listed.erase empty).congr (fun k => Attached.ofTree_del k) fun _ => rfl
  · rw [KeyTree.get_del_self] at here
    cases here
  · exact exact.listed.unnamed empty

theorem udfGroupCreate_cases {attrs : List UdfGroupAttr} {env : UdfGroupCreateEnv}
    (inserted : (UdfEvent.groupCreate attrs env).inserted s) :
    (∃ status, udfGroupCreate s attrs env = (s, .error status)) ∨
      ∃ group, udfGroupAttrSet 0 .init attrs = .ok group ∧ udfGroupCreate s attrs env =
          ({ s with udfGroupTree := s.udfGroupTree.put ⟨.udfGroup, env.hwId⟩ group }, .ok
            ⟨.udfGroup, env.hwId⟩) := by
  unfold udfGroupCreate
  split
  · exact .inl ⟨_, rfl⟩
  split
  · exact .inl ⟨_, rfl⟩
  split
  · exact .inl ⟨_, rfl⟩
  rename_i group filled
  split
  · refine .inr ⟨group, filled, ?_⟩
    unfold UdfState.groupInserted
    unfold UdfEvent.inserted at inserted
    dsimp only at inserted ⊢
    rw [if_pos inserted]
  · exact .inl ⟨_, rfl⟩

theorem udfGroupRemove_unused (kind : groupId.objType = .udfGroup)
    (stored : s.udfGroupTree.get groupId = some group) (unused : group.udfCount = 0) (env : UdfRemoveEnv) :
    udfGroupRemove s groupId env = (if env.npu ≠ .success ∧ env.insertOk = true then s
        else { s with udfGroupTree := s.udfGroupTree.del groupId }, .success) := by
  unfold udfGroupRemove
  rw [if_neg (not_not.mpr kind), stored]
  dsimp only
  rw [if_neg (not_not.mpr unused)]
  split
  · rename_i accepted
    rw [if_neg fun both => both.1 accepted]
  rename_i refused
  unfold UdfState.groupInserted
  dsimp only
  rw [KeyTree.get_del_self, KeyTree.put_del stored]
  by_cases again : env.insertOk = true
  · rw [if_pos ⟨again, rfl⟩, if_pos ⟨refused, again⟩]
  · rw [if_neg fun both => again both.1, if_neg fun both => again both.2]

theorem udfGroupRemove_exact (exact : UdfGroupsExact s) (groupId : ObjectId) (env : UdfRemoveEnv) :
    UdfGroupsExact (udfGroupRemove s groupId env).1 := by
  by_cases kind : groupId.objType = .udfGroup
  swap
  · unfold udfGroupRemove
    rw [if_pos kind]
    exact exact
  cases stored : s.udfGroupTree.get groupId with
  | none =>
    unfold udfGroupRemove
    rw [if_neg (not_not.mpr kind), stored]
    exact exact
  | some group =>
    by_cases unused : group.udfCount = 0
    · rw [udfGroupRemove_unused kind stored unused]
      dsimp only
      split
      · exact exact
      · exact exact.groupDel stored unused
    · unfold udfGroupRemove
      rw [if_neg (not_not.mpr kind), stored]
      dsimp only
      rw [if_pos unused]
      exact exact

end Group

section Udf
variable {groups : KeyTree ObjectId UdfGroup}

/-- Along the attributes a UDF keeps its mask, and its group, if it has one, is
stored. -/
theorem udfAttrSetLoop_keeps (attrs : List UdfAttr) : ∀ index udf filled,
    udfAttrSetLoop groups index udf attrs = .ok filled → filled.hashMask = udf.hashMask := by
  have one : ∀ udf attr filled, udfAttrSetOne groups udf attr = .ok filled → filled.hashMask = udf.hashMask := by
    intro udf attr filled result
    cases attr with
    | matchId value =>
      unfold udfAttrSetOne udfMatchIdSet at result
      dsimp only at result
      split at result
      · cases result
      · cases result
        rfl
    | groupId value =>
      unfold udfAttrSetOne udfGroupIdSet at result
      dsimp only at result
      split at result
      · cases result
      split at result
      · cases result
      · cases result
        rfl
    | base value =>
      cases value with
      | l2 | l3 | l4 =>
        cases result
        rfl
      | other value => cases result
    | offset value | hashMask value =>
      cases result
      rfl
    | other => cases result
  induction attrs with
  | nil =>
    intro index udf filled result
    cases result
    rfl
  | cons attr rest ih =>
    intro index udf filled result
    unfold udfAttrSetLoop at result
    split at result
    · cases result
    · rename_i next set
      exact (ih (index + 1) next filled result).trans (one udf attr next set)

theorem udfHashMaskSet_masked {mask : List (BitVec 8)}
    (result : udfHashMaskSet groups udf mask allocOk = .ok filled) :
    filled.udfGroup = udf.udfGroup ∧ ∃ group, udf.group groups = some group ∧
    UdfMasked group filled.hashMask := by
  unfold udfHashMaskSet at result
  split at result
  · cases result
  rename_i group found
  split at result
  · cases result
  rename_i kind
  split at result
  · cases result
  split at result
  · cases result
  rename_i length
  split at result
  · cases result
  cases result
  refine ⟨rfl, group, found, fun _ => ⟨mask, rfl, (not_not.mp length).symm⟩, fun generic => ?_⟩
  rw [not_not.mp kind] at generic
  cases generic

theorem udfDefaultHashMaskFill_masked (bare : udf.hashMask = none)
    (result : udfDefaultHashMaskFill groups udf allocOk = .ok filled) :
    filled.udfGroup = udf.udfGroup ∧ ∃ group, udf.group groups = some group ∧
    UdfMasked group filled.hashMask := by
  unfold udfDefaultHashMaskFill at result
  split at result
  · cases result
  rename_i group found
  split at result
  · rename_i kind
    cases result
    exact ⟨rfl, group, found, fun hash => absurd hash kind, fun _ => bare⟩
  rename_i kind
  split at result
  · cases result
  cases result
  refine ⟨rfl, group, found, fun _ => ⟨_, rfl, List.length_replicate⟩, fun generic => ?_⟩
  rw [not_not.mp kind] at generic
  cases generic

theorem Udf.group_congr (same : filled.udfGroup = udf.udfGroup) : filled.group groups = udf.group groups := by
  unfold Udf.group
  rw [same]

theorem udfAttrSet_create {attrs : List UdfAttr}
    (result : udfAttrSet groups .init attrs .create allocOk = .ok filled) :
    ∃ group, filled.group groups = some group ∧ UdfMasked group filled.hashMask := by
  unfold udfAttrSet at result
  split at result
  · cases result
  rename_i udf set
  have bare : udf.hashMask = none := udfAttrSetLoop_keeps attrs 0 .init udf set
  split at result
  · rename_i index mask _
    cases masked : udfHashMaskSet groups udf mask allocOk with
    | error status =>
      rw [masked] at result
      cases result
    | ok other =>
      rw [masked] at result
      cases result
      obtain ⟨same, group, found, isMasked⟩ := udfHashMaskSet_masked masked
      exact ⟨group, (Udf.group_congr same).trans found, isMasked⟩
  · obtain ⟨same, group, found, isMasked⟩ := udfDefaultHashMaskFill_masked bare result
    exact ⟨group, (Udf.group_congr same).trans found, isMasked⟩

/-- A set of an attribute that is valid for set keeps the group, and its mask
is one that the group asks for if the old one was. -/
theorem udfAttrSet_set {attr : UdfAttr} {kind : UdfAttrKind} (isKind : attr.kind = some kind)
    (settable : (udfAttrTable kind).validForSet = true)
    (result : udfAttrSet groups udf [attr] .set allocOk = .ok filled) :
    filled.udfGroup = udf.udfGroup ∧ (filled.hashMask = udf.hashMask ∨
      ∃ group, udf.group groups = some group ∧ UdfMasked group filled.hashMask) := by
  cases attr with
  | matchId value | groupId value =>
    cases isKind
    cases settable
  | base value =>
    cases value with
    | l2 | l3 | l4 =>
      cases result
      exact ⟨rfl, .inl rfl⟩
    | other value => cases result
  | offset value =>
    cases result
    exact ⟨rfl, .inl rfl⟩
  | hashMask mask =>
    cases masked : udfHashMaskSet groups udf mask allocOk with
    | error status =>
      unfold udfAttrSet at result
      dsimp only [udfAttrSetLoop, udfAttrSetOne, udfHashMaskAttr, Option.none_or] at result
      rw [masked] at result
      cases result
    | ok other =>
      unfold udfAttrSet at result
      dsimp only [udfAttrSetLoop, udfAttrSetOne, udfHashMaskAttr, Option.none_or] at result
      rw [masked] at result
      cases result
      obtain ⟨same, group, found, isMasked⟩ := udfHashMaskSet_masked masked
      exact ⟨same, .inr ⟨group, found, isMasked⟩⟩
  | other => cases isKind

end Udf
end SaiCommon
