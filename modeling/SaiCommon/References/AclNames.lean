import SaiCommon.Acl.Ownership
import SaiCommon.Acl.RuleUpdateLists

namespace SaiCommon

variable {filter scan : AclFilter} {enable : Bool} {dst src : List ObjectId} {lookups : AclLookups}
  {platform : AclPlatform} {s : AclState} {table : AclTable} {group mirror : ObjectId → Prop}

def aclMirrorAction : AclActionId → Bool
  | .mirrorIngress => true
  | .mirrorEgress => true
  | _ => false

section
variable (mirror group : ObjectId → Prop)

/-- The user defined field of a filter names a UDF group that can be named. -/
def AclFilter.NamesGroup (filter : AclFilter) : Prop :=
  ∀ udf, filter.udfField = some udf → group udf.udfGroupId

/-- A mirror action names sessions that can be named, and none when it is disabled. -/
def AclAction.NamesSessions (action : AclAction) : Prop :=
  aclMirrorAction action.action = true →
    (action.enable = false → action.parameter.objList = []) ∧ ∀ id ∈ action.parameter.objList, mirror id

structure AclRule.NamesWell (rule : AclRule) : Prop where
  filters : ∀ filter ∈ rule.filterList, filter.NamesGroup group
  actions : ∀ action ∈ rule.actionList, action.NamesSessions mirror

def AclTable.NamesGroups (table : AclTable) : Prop := ∀ udf ∈ table.udfFieldList, group udf.udfGroupId

structure AclNames (s : AclState) : Prop where
  tables : ∀ tableId table, s.tableTree.get tableId = some table → table.NamesGroups group
  rules : ∀ ruleId rule, s.ruleTree.get ruleId = some rule → rule.NamesWell mirror group

/-- What the other modules answer goes by what can be named. -/
structure AclLookups.Tell (lookups : AclLookups) : Prop where
  mirror : ∀ id, lookups.mirrorValid id = true → mirror id
  group : ∀ id, lookups.udfGroupStatus id = .success → group id

end

section Populate
variable {index : Nat} {rule next : AclRule} {attrs : List AclRuleAttr}

theorem aclTableFindUdfGroupId_names (names : table.NamesGroups group) {udfIndex : Nat}
    (found : aclTableFindUdfGroupId table udfIndex ≠ nullObjectId) :
    group (aclTableFindUdfGroupId table udfIndex) := by
  unfold aclTableFindUdfGroupId at found ⊢
  split
  · rename_i udf isIt
    exact names udf (List.mem_of_find?_eq_some isIt)
  rename_i absent
  rw [absent] at found
  exact absurd rfl found

theorem aclFilterPopulate_names (names : table.NamesGroups group) {id : AclFieldId} {value : AclFieldValue}
    (ok : aclFilterPopulate lookups index table id enable value = .ok filter) : filter.NamesGroup group := by
  unfold aclFilterPopulate at ok
  dsimp only at ok
  split at ok
  · cases ok
  split at ok
  · split at ok
    · cases ok
    rename_i udfField made
    cases ok
    intro udf isUdf
    cases isUdf
    unfold aclUdfFilterPopulate at made
    dsimp only at made
    split at made
    · cases made
    rename_i found
    split at made
    · cases made
      exact aclTableFindUdfGroupId_names names found
    · cases made
  · cases ok
    intro udf isUdf
    cases isUdf

section
variable (tell : lookups.Tell mirror group)
include tell

/-- The list of an enabled mirror action has been looked up; a disabled one is not read. -/
theorem aclActionPopulateAttrType_names {id : AclActionId}
    {parameter stored : AclParameter} (ok : aclActionPopulateAttrType lookups index id enable parameter = .ok stored) :
    AclAction.NamesSessions mirror ⟨id, enable, stored⟩ := by
  have listed : (id = .mirrorIngress ∨ id = .mirrorEgress) →
      aclActionPopulateObjectList lookups index id enable parameter.objList = .ok stored →
      (enable = false → stored.objList = []) ∧ ∀ session ∈ stored.objList, mirror session := by
    intro isMirror made
    unfold aclActionPopulateObjectList at made
    split at made
    · cases made
      exact ⟨fun _ => rfl, fun session member => absurd member List.not_mem_nil⟩
    rename_i on
    split at made
    · cases made
    split at made
    · cases made
    split at made
    · cases made
    rename_i valid
    split at made
    · cases made
    split at made
    · cases made
    cases made
    refine ⟨fun off => absurd off on, fun session member => tell.mirror session ?_⟩
    rw [not_and, Bool.not_eq_false, List.all_eq_true] at valid
    exact valid isMirror session member
  intro isMirror
  unfold aclActionPopulateAttrType at ok
  cases id <;> cases isMirror
  · exact listed (.inl rfl) ok
  · exact listed (.inr rfl) ok

theorem aclRulePopulateAttr_names (names : table.NamesGroups group)
    (well : rule.NamesWell mirror group) {attr : AclRuleAttr}
    (ok : aclRulePopulateAttr lookups index platform table rule attr = .ok next) : next.NamesWell mirror group := by
  unfold aclRulePopulateAttr at ok
  split at ok
  · split at ok
    · cases ok
    rename_i filter made
    cases ok
    refine ⟨?_, well.actions⟩
    exact List.forall_mem_append.mpr ⟨well.filters,
      List.forall_mem_singleton.mpr (aclFilterPopulate_names names made)⟩
  · split at ok
    · cases ok
    rename_i stored made
    split at ok
    · cases ok
    rename_i effect
    cases ok
    refine ⟨?_, ?_⟩
    · rw [(aclActionEffect_frame effect).2]
      exact well.filters
    · exact List.forall_mem_append.mpr ⟨well.actions,
        List.forall_mem_singleton.mpr (aclActionPopulateAttrType_names tell made)⟩
  · cases ok
    exact ⟨well.filters, well.actions⟩
  · cases ok
    exact ⟨well.filters, well.actions⟩
  · cases ok
    exact ⟨well.filters, well.actions⟩
  · cases ok
  · cases ok

theorem aclRulePopulate_names (names : table.NamesGroups group)
    (ok : aclRulePopulate lookups platform table attrs = .ok rule) : rule.NamesWell mirror group :=
  aclRulePopulate_runs (p := fun _ rule => rule.NamesWell mirror group)
    ⟨fun _ member => absurd member List.not_mem_nil, fun _ member => absurd member List.not_mem_nil⟩
    (fun _ _ _ _ _ well made => aclRulePopulateAttr_names tell names well made)
    (fun _ _ well => ⟨well.filters, well.actions⟩) ok

end

end Populate

section Update
variable {env : AclUpdateEnv}

theorem aclFilterUpdate_names {given : AclFilter} (scanned : scan.NamesGroup group) (well : given.NamesGroup group) :
    (aclFilterUpdate env scan given).1.NamesGroup group := by
  unfold aclFilterUpdate
  split
  · split
    · exact well
    · exact well
  · split
    · split
      · exact well
      · exact well
    · exact scanned

theorem aclFilterNew_names (scanned : scan.NamesGroup group)
    (ok : aclFilterNew env scan = .ok filter) : filter.NamesGroup group := by
  unfold aclFilterNew at ok
  split at ok
  · split at ok
    · cases ok
    cases ok
    intro udf isUdf
    cases isUdf
  · split at ok
    · split at ok
      · cases ok
      cases ok
      intro udf isUdf
      cases isUdf
    · cases ok
      exact scanned

/-- A list that is set is the new one, the old one or empty, and empty when it is disabled. -/
theorem aclRuleUpdateObjectList_cases {list : List ObjectId}
    (ok : aclRuleUpdateObjectList env src dst enable = .ok list) :
    (enable = false → list = []) ∧ (list = [] ∨ list = src ∨ list = dst) := by
  unfold aclRuleUpdateObjectList at ok
  split at ok
  · split at ok
    · cases ok
      exact ⟨fun _ => rfl, .inl rfl⟩
    rename_i on
    split at ok
    · split at ok
      · cases ok
      · cases ok
        exact ⟨fun off => absurd off on, .inr (.inl rfl)⟩
    · split at ok
      · cases ok
        exact ⟨fun off => absurd off on, .inr (.inl rfl)⟩
      · cases ok
        exact ⟨fun off => absurd off on, .inr (.inr rfl)⟩
  · split at ok
    · rename_i both
      split at ok
      · cases ok
      · cases ok
        exact ⟨fun off => absurd (both.1.symm.trans off) Bool.true_eq_false.mp, .inr (.inl rfl)⟩
    · cases ok
      exact ⟨fun _ => rfl, .inl rfl⟩

theorem aclRuleUpdateObjectList_error {status : SaiStatus}
    (failed : aclRuleUpdateObjectList env src dst enable = .error status) : enable = true := by
  cases enable with
  | true => rfl
  | false =>
    unfold aclRuleUpdateObjectList at failed
    simp only [if_true, Bool.false_eq_true, false_and, if_false] at failed
    split at failed <;> cases failed

theorem aclActionUpdate_names {scan given : AclAction} (same : given.action = scan.action)
    (scanned : scan.NamesSessions mirror) (well : given.NamesSessions mirror) :
    (aclActionUpdate env scan given).1.NamesSessions mirror := by
  unfold aclActionUpdate
  split
  · split
    · rename_i failed
      intro isMirror
      have on := aclRuleUpdateObjectList_error failed
      exact ⟨fun off => absurd (on.symm.trans off) Bool.true_eq_false.mp, (well isMirror).2⟩
    rename_i list made
    intro isMirror
    obtain ⟨off, none | isNew | isOld⟩ := aclRuleUpdateObjectList_cases made
    · exact ⟨off, fun id member => by rw [none] at member; cases member⟩
    · refine ⟨off, fun id member => (scanned ?_).2 id (isNew ▸ member)⟩
      rw [← same]
      exact isMirror
    · exact ⟨off, fun id member => (well isMirror).2 id (isOld ▸ member)⟩
  · exact scanned

theorem aclActionNew_names {scan action : AclAction} (scanned : scan.NamesSessions mirror)
    (ok : aclActionNew env scan = .ok action) : action.NamesSessions mirror := by
  unfold aclActionNew at ok
  split at ok
  · split at ok
    · cases ok
    rename_i list made
    cases ok
    intro isMirror
    obtain ⟨off, none | isNew | isOld⟩ := aclRuleUpdateObjectList_cases made
    · exact ⟨off, fun id member => by rw [none] at member; cases member⟩
    · exact ⟨off, fun id member => (scanned isMirror).2 id (isNew ▸ member)⟩
    · exact ⟨off, fun id member => by rw [isOld] at member; cases member⟩
  · cases ok
    exact scanned

section Rule
variable {attr : AclRuleAttr} {given modify : AclRule}

theorem AclRule.NamesWell.update (well : given.NamesWell mirror group) (tell : lookups.Tell mirror group)
    (names : table.NamesGroups group) (ok : aclRuleModify lookups platform table attr given = .ok modify) :
    (aclRuleUpdate s platform env modify given).NamesWell mirror group := by
  have keep (noFilter : modify.filterList = []) (noAction : modify.actionList = []) :
      (aclRuleUpdate s platform env modify given).NamesWell mirror group := by
    obtain ⟨filters, actions⟩ :
        (aclRuleUpdate s platform env modify given).filterList = given.filterList ∧
          (aclRuleUpdate s platform env modify given).actionList = given.actionList :=
      aclRuleUpdate_none noFilter noAction
    constructor
    · rw [filters]
      exact well.filters
    · rw [actions]
      exact well.actions
  cases attr with
  | field id enable value =>
    obtain ⟨scan, made, one, noAction⟩ := aclRuleModify_field ok
    have scanned : scan.NamesGroup group := aclFilterPopulate_names names made
    obtain ⟨actions, filters⟩ :
        (aclRuleUpdate s platform env modify given).actionList = given.actionList ∧
          (aclRuleUpdate s platform env modify given).filterList = aclFilterListSet env scan given.filterList :=
      aclRuleUpdate_filter one noAction
    constructor
    · rw [filters]
      exact (aclFilterListSet_keyed _ _ _).all well.filters
        (fun filter member _ => aclFilterUpdate_names scanned (well.filters filter member))
        fun filter isNew => aclFilterNew_names scanned isNew
    · rw [actions]
      exact well.actions
  | action id enable parameter =>
    obtain ⟨stored, made, noFilter, one⟩ := aclRuleModify_action ok
    have scanned : AclAction.NamesSessions mirror ⟨id, enable, stored⟩ := aclActionPopulateAttrType_names tell made
    obtain ⟨filters, actions⟩ :
        (aclRuleUpdate s platform env modify given).filterList = given.filterList ∧
          ((aclRuleUpdate s platform env modify given).actionList =
            aclActionListSet env ⟨id, enable, stored⟩ given.actionList ∨ id = .counter ∧
          (aclRuleUpdate s platform env modify given).actionList = given.actionList) :=
      aclRuleUpdate_action noFilter one
    constructor
    · rw [filters]
      exact well.filters
    · rcases actions with set | ⟨_, kept⟩
      · rw [set]
        exact (aclActionListSet_keyed _ _ _).all well.actions
          (fun action member same => aclActionUpdate_names same scanned (well.actions action member))
          fun action isNew => aclActionNew_names scanned isNew
      · rw [kept]
        exact well.actions
  | tableId id =>
    obtain ⟨noFilter, noAction⟩ := aclRuleModify_rest (by simp) (by simp) ok
    exact keep noFilter noAction
  | priority value =>
    obtain ⟨noFilter, noAction⟩ := aclRuleModify_rest (by simp) (by simp) ok
    exact keep noFilter noAction
  | adminState state =>
    obtain ⟨noFilter, noAction⟩ := aclRuleModify_rest (by simp) (by simp) ok
    exact keep noFilter noAction
  | unknown id =>
    obtain ⟨noFilter, noAction⟩ := aclRuleModify_rest (by simp) (by simp) ok
    exact keep noFilter noAction
  | outOfRange id =>
    obtain ⟨noFilter, noAction⟩ := aclRuleModify_rest (by simp) (by simp) ok
    exact keep noFilter noAction

end Rule
end Update

def AclState.SameUdfs (s t : AclState) : Prop :=
  ∀ k table, t.tableTree.get k = some table →
    ∃ old, s.tableTree.get k = some old ∧ table.udfFieldList = old.udfFieldList

section Calls
variable {t : AclState}

theorem AclState.SameUdfs.of_tree (same : t.tableTree = s.tableTree) : s.SameUdfs t := by
  intro k table stored
  rw [same] at stored
  exact ⟨table, stored, rfl⟩

theorem AclState.SameUdfs.trans {u : AclState} (one : s.SameUdfs t) (two : t.SameUdfs u) : s.SameUdfs u := by
  intro k table stored
  obtain ⟨middle, there, same⟩ := two k table stored
  obtain ⟨old, first, also⟩ := one k middle there
  exact ⟨old, first, same.trans also⟩

theorem AclState.SameUdfs.modify {k : ObjectId} {g : AclTable → AclTable}
    (tree : t.tableTree = s.tableTree.modify k g)
    (keep : ∀ table, (g table).udfFieldList = table.udfFieldList) : s.SameUdfs t := by
  intro j table stored
  rw [tree, KeyTree.get_modify] at stored
  split at stored
  · obtain ⟨old, found, isIt⟩ := Option.map_eq_some_iff.mp stored
    exact ⟨old, found, by rw [← isIt, keep]⟩
  · exact ⟨table, stored, rfl⟩

theorem AclState.SameUdfs.writeTable {g : AclTable → AclTable}
    (keep : ∀ table, (g table).udfFieldList = table.udfFieldList) : s.SameUdfs (s.writeTable table g) := by
  unfold AclState.writeTable
  split
  · exact .modify rfl keep
  · exact .of_tree rfl

section
variable (names : AclNames mirror group s)
include names

theorem AclNames.of (tables : s.SameUdfs t)
    (rules : ∀ k rule, t.ruleTree.get k = some rule → s.ruleTree.get k = some rule ∨
      rule.NamesWell mirror group) :
    AclNames mirror group t := by
  constructor
  · intro k table stored udf member
    obtain ⟨old, found, same⟩ := tables k table stored
    rw [same] at member
    exact names.tables k old found udf member
  · intro k rule stored
    rcases rules k rule stored with old | well
    · exact names.rules k rule old
    · exact well

theorem AclNames.sameRules (tables : s.SameUdfs t) (rules : t.ruleTree = s.ruleTree) : AclNames mirror group t := by
  refine names.of tables fun k rule stored => .inl ?_
  rw [rules] at stored
  exact stored

theorem AclNames.putRule (tables : s.SameUdfs t) {ruleId : ObjectId} {rule : AclRule}
    (rules : t.ruleTree = s.ruleTree.put ruleId rule) (well : rule.NamesWell mirror group) :
    AclNames mirror group t := by
  refine names.of tables fun k other stored => ?_
  rw [rules, KeyTree.get_put] at stored
  split at stored
  · cases stored
    exact .inr well
  · exact .inl stored

end

theorem aclTableValidateLoop_names (tell : lookups.Tell mirror group) {stage : AclStage}
    {index : Nat} {attrs : List AclTableAttr} (ok : aclTableValidateLoop s lookups stage index attrs = .success)
    {place : Nat} {groupId : ObjectId} (member : AclTableAttr.udfField place groupId ∈ attrs) : group groupId := by
  induction attrs generalizing index with
  | nil => cases member
  | cons attr rest ih =>
    unfold aclTableValidateLoop at ok
    split at ok
    · rename_i valid
      split at ok
      · rcases List.mem_cons.mp member with rfl | later
        · simp only [aclTableValidateAttr] at valid
          split at valid
          · cases valid
          refine tell.group groupId ?_
          unfold indexedRetVal at valid
          split at valid <;> first | cases valid | assumption
        · exact ih ok later
      · cases ok
    · rename_i failed
      exact absurd ok failed

theorem aclTablePopulateLoop_names {next : AclTable} {attrs : List AclTableAttr} (names : table.NamesGroups group)
    (named : ∀ place groupId, AclTableAttr.udfField place groupId ∈ attrs → group groupId)
    (ok : aclTablePopulateLoop lookups table attrs = .ok next) : next.NamesGroups group := by
  induction attrs generalizing table with
  | nil =>
    cases ok
    exact names
  | cons attr rest ih =>
    unfold aclTablePopulateLoop at ok
    split at ok
    · cases ok
    rename_i middle made
    refine ih ?_ (fun place groupId member => named place groupId (List.mem_cons_of_mem attr member)) ok
    unfold aclTablePopulateAttr at made
    split at made
    · cases made
      exact names
    · cases made
      exact names
    · cases made
      exact names
    · cases made
      exact names
    · rename_i index groupId
      split at made
      · cases made
        exact List.forall_mem_append.mpr ⟨names,
          List.forall_mem_singleton.mpr (named index groupId List.mem_cons_self)⟩
      · cases made
    · cases made
      exact names

section
variable (names : AclNames mirror group s)
include names

theorem AclNames.createTable (tell : lookups.Tell mirror group)
    (attrs : List AclTableAttr) (allocOk : Bool) (env : AclTableCreateEnv) :
    AclNames mirror group (createAclTable platform s attrs lookups allocOk env).1 := by
  unfold createAclTable
  split
  · rename_i began
    have named : ∀ place groupId, AclTableAttr.udfField place groupId ∈ attrs → group groupId := by
      intro place groupId member
      unfold createAclTableBegin at began
      split at began
      · cases began
      split at began
      · rename_i validated
        unfold aclTableValidateAttributes at validated
        split at validated
        · rename_i failed
          obtain ⟨place, rfl⟩ := aclTableStageLoop_error failed
          exact SaiStatus.noConfusion validated
        · split at validated
          · rename_i valid
            exact aclTableValidateLoop_names tell valid member
          · rename_i failed
            exact absurd validated failed
      · rename_i failed
        exact absurd began failed
    obtain ⟨⟨rules, _⟩, kept | ⟨table, number, stores, put⟩⟩ :=
      createAclTableLocked_cases platform s attrs env
    · exact names.sameRules (.of_tree kept) rules
    have populated := stores.populated
    unfold aclTablePopulate at populated
    split at populated
    · cases populated
    have well : table.NamesGroups group :=
      aclTablePopulateLoop_names (fun udf member => absurd member List.not_mem_nil) named populated
    refine ⟨fun k other stored => ?_, fun k rule stored => ?_⟩
    · rw [put, KeyTree.get_put] at stored
      split at stored
      · cases stored
        exact well
      · exact names.tables k other stored
    · rw [rules] at stored
      exact names.rules k rule stored
  · exact names

theorem AclNames.deleteTable (tableId : ObjectId) (npu : SaiStatus) :
    AclNames mirror group (deleteAclTable s tableId npu).1 := by
  obtain ⟨⟨rules, _⟩, kept | ⟨table, _, _, _, removed⟩⟩ := deleteAclTable_cases s tableId npu
  · exact names.sameRules (.of_tree kept) rules
  refine names.sameRules (fun k table stored => ?_) rules
  rw [removed, KeyTree.get_del] at stored
  split at stored
  · cases stored
  · exact ⟨table, stored, rfl⟩

theorem AclNames.createCounter (attrs : List AclCounterAttr)
    (env : AclCounterCreateEnv) : AclNames mirror group (createAclCounter s attrs env).1 := by
  rcases createAclCounter_cases s attrs env with same | ⟨counter, table, _, found, rfl, ends⟩
  · rwa [same]
  have marked : s.SameUdfs { s with tableTree := s.tableTree.put counter.tableId { table with npuTable := true } } := by
    intro k other stored
    dsimp only at stored
    rw [KeyTree.get_put] at stored
    split at stored
    · rename_i here
      cases stored
      rw [here]
      exact ⟨table, found, rfl⟩
    · exact ⟨other, stored, rfl⟩
  rcases ends with same | ⟨_, _, same⟩
  · rw [same]
    exact names.sameRules marked rfl
  · rw [same]
    exact names.sameRules (marked.trans (.modify rfl fun _ => rfl)) rfl

theorem AclNames.deleteCounter (counterId : ObjectId) (sharedCount : Nat)
    (npu : SaiStatus) : AclNames mirror group (deleteAclCounter s counterId sharedCount npu).1 := by
  unfold deleteAclCounter
  split
  · exact names
  split
  · exact names
  split
  · exact names
  split
  · exact names.sameRules (.modify rfl fun _ => rfl) rfl
  · exact names

end

theorem AclState.SameUdfs.installed (table : AclTable) (env : AclRuleCreateEnv) :
    s.SameUdfs (s.installed table env) := by
  rcases s.installed_cases table env with same | marked
  · rw [same]
    exact .of_tree rfl
  · rw [marked]
    exact .writeTable fun _ => rfl

section
variable (names : AclNames mirror group s)
include names

theorem AclState.deref_names {tableId : ObjectId}
    (found : s.tableTree.get tableId = some table) : (s.deref table).NamesGroups group := by
  unfold AclState.deref
  split
  · rename_i stored there
    split
    · exact names.tables _ stored there
    · exact names.tables tableId table found
  · exact names.tables tableId table found

theorem AclNames.createRule {env : AclRuleCreateEnv}
    (tell : env.lookups.Tell mirror group) (attrs : List AclRuleAttr) (allocOk : Bool) :
    AclNames mirror group (createAclRule platform s attrs allocOk env).1 := by
  unfold createAclRule
  split
  · exact names
  rename_i table began
  have found := createAclRuleBegin_ok began
  rcases createAclRuleLocked_cases platform s table attrs env with
    ⟨t, status, same | installed, refused, _⟩ | ⟨rule, _, _, _, _, refused⟩ |
    ⟨rule, accepted, _, _, _, stored⟩
  · rw [refused, same]
    exact names
  · rw [refused, installed]
    exact names.sameRules (.installed table env) AclState.installed_ruleTree
  · rw [refused]
    refine names.sameRules ((AclState.SameUdfs.installed table env).trans (.of_tree ?_)) ?_
    · exact AclState.policed_tableTree
    · dsimp only
      rw [AclState.policed_ruleTree, AclState.installed_ruleTree]
  · rw [stored]
    have well := aclRulePopulate_names tell (AclState.deref_names names found) accepted.populated
    have tables : s.SameUdfs ((s.installed table env).addRule table env.ruleId rule) := by
      refine (AclState.SameUdfs.installed table env).trans (.trans ?_ (.writeTable fun _ => rfl))
      exact .of_tree AclState.policed_tableTree
    have rules : ((s.installed table env).addRule table env.ruleId rule).ruleTree
        = s.ruleTree.put env.ruleId rule := by
      unfold AclState.addRule
      dsimp only
      rw [AclState.writeTable_ruleTree]
      unfold AclState.putRule
      dsimp only
      rw [AclState.policed_ruleTree, AclState.installed_ruleTree]
    exact names.putRule tables rules well

theorem AclNames.deleteRule (ruleId : ObjectId) (env : AclRuleDeleteEnv) :
    AclNames mirror group (deleteAclRule s ruleId env).1 := by
  rcases deleteAclRule_cases s ruleId env with
    ⟨status, _, same⟩ | ⟨rule, status, _, _, _, again⟩ | ⟨rule, table, _, _, _, _, removed⟩
  · rw [same]
    exact names
  · rw [again]
    refine names.sameRules (.of_tree ?_) ?_
    · dsimp only
      rw [AclState.policed_tableTree, AclState.unpoliced_tableTree]
    · dsimp only
      rw [AclState.policed_ruleTree, AclState.unpoliced_ruleTree]
  · rw [removed]
    refine names.of ?_ fun k other stored => .inl ?_
    · exact .trans (.of_tree AclState.unpoliced_tableTree) (.modify rfl fun _ => rfl)
    · unfold AclState.dropRule at stored
      dsimp only at stored
      rw [AclState.unpoliced_ruleTree, KeyTree.get_del] at stored
      split at stored
      · cases stored
      · exact stored

theorem AclNames.setRule {env : AclRuleSetEnv}
    (tell : env.lookups.Tell mirror group) (ruleId : ObjectId) (attr : AclRuleAttr) :
    AclNames mirror group (setAclRule platform s ruleId attr env).1 := by
  rcases setAclRule_cases platform s ruleId attr env with
    same | ⟨present, rule, stored, _, _, isRule, written⟩ | ⟨present, modify, table, accepted⟩
  · rw [same]
    exact names
  · rw [written]
    refine names.putRule (.of_tree rfl) rfl ?_
    rcases isRule with isOld | ⟨modify, table, taken, isNew⟩
    · rw [isOld]
      exact names.rules ruleId present stored
    · rw [isNew]
      exact (names.rules ruleId present stored).update tell (names.tables _ table taken.found) taken.populated
  · rw [accepted.result]
    obtain ⟨owners, _⟩ := aclRulePolicerUpdate_owners s ruleId
      (aclRuleUpdate s platform env.update modify present) modify.policerId
    obtain ⟨filters, actions⟩ := aclRulePolicerUpdate_lists s ruleId
      (aclRuleUpdate s platform env.update modify present) modify.policerId
    have well : (aclRuleUpdate s platform env.update modify present).NamesWell mirror group :=
      (names.rules ruleId present accepted.stored).update tell (names.tables _ table accepted.found)
        accepted.populated
    refine names.putRule (.of_tree owners.1) (owners.putRule.2.1) ⟨?_, ?_⟩
    · rw [filters]
      exact well.filters
    · rw [actions]
      exact well.actions

theorem AclNames.mono {mirror' group' : ObjectId → Prop}
    (tables : ∀ tableId table, s.tableTree.get tableId = some table → table.NamesGroups group →
      table.NamesGroups group')
    (rules : ∀ ruleId rule, s.ruleTree.get ruleId = some rule → rule.NamesWell mirror group →
      rule.NamesWell mirror' group') : AclNames mirror' group' s :=
  ⟨fun k table stored => tables k table stored (names.tables k table stored),
    fun k rule stored => rules k rule stored (names.rules k rule stored)⟩

end

end Calls
end SaiCommon
