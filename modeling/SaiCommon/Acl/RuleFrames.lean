import SaiCommon.Acl.System

namespace SaiCommon

variable {platform : AclPlatform} {s : AclState} {table : AclTable}

section Pointer
variable {g : AclTable → AclTable}

@[simp] theorem AclState.writeTable_qos : (s.writeTable table g).qos = s.qos := by
  unfold AclState.writeTable
  split
  · rfl
  · rfl

@[simp] theorem AclState.writeTable_ruleTree : (s.writeTable table g).ruleTree = s.ruleTree := by
  unfold AclState.writeTable
  split
  · rfl
  · rfl

theorem AclState.writeTable_of_live (live : s.isLive table) :
    s.writeTable table g = { s with tableTree := s.tableTree.modify table.tableId g } := by
  unfold AclState.writeTable
  exact if_pos live

end Pointer

section Policers
variable {ruleId : ObjectId} {rule : AclRule}

variable (ruleId) in
theorem attachPolicerToAclRule_of_get {node : Policer} (stored : s.qos.policerTree.get rule.policerId = some node) :
    attachPolicerToAclRule s ruleId rule =
      (s.editPolicer rule.policerId fun node => node.linkRule ruleId, .success) := by
  unfold attachPolicerToAclRule
  rw [stored]

variable (ruleId) in
theorem attachPolicerToAclRule_of_absent (absent : s.qos.policerTree.get rule.policerId = none) :
    attachPolicerToAclRule s ruleId rule = (s, .invalidObjectId) := by
  unfold attachPolicerToAclRule
  rw [absent]

theorem detachPolicerFromAclRule_of_get {node : Policer}
    (stored : s.qos.policerTree.get rule.policerId = some node) : detachPolicerFromAclRule s ruleId rule =
      (s.editPolicer rule.policerId fun node => node.unlinkRule ruleId, .success) := by
  unfold detachPolicerFromAclRule
  rw [stored]

variable (ruleId) in
theorem detachPolicerFromAclRule_of_absent (absent : s.qos.policerTree.get rule.policerId = none) :
    detachPolicerFromAclRule s ruleId rule = (s, .invalidObjectId) := by
  unfold detachPolicerFromAclRule
  rw [absent]

end Policers

section Create
variable {attrs : List AclRuleAttr} {env : AclRuleCreateEnv}

def AclRuleCreateEnv.ruleId (env : AclRuleCreateEnv) : ObjectId := ⟨.aclEntry, env.npuObjectId⟩

def AclState.installed (s : AclState) (table : AclTable) (env : AclRuleCreateEnv) : AclState :=
  (installAclRule s table env).1

theorem AclState.installed_cases (s : AclState) (table : AclTable) (env : AclRuleCreateEnv) :
    s.installed table env = s ∨
      s.installed table env = s.writeTable table fun table => { table with npuTable := true } := by
  unfold AclState.installed installAclRule
  split
  · exact .inl rfl
  split
  · exact .inr rfl
  · exact .inl rfl

@[simp] theorem AclState.installed_qos : (s.installed table env).qos = s.qos := by
  rcases s.installed_cases table env with same | marked
  · rw [same]
  · rw [marked, AclState.writeTable_qos]

@[simp] theorem AclState.installed_ruleTree : (s.installed table env).ruleTree = s.ruleTree := by
  rcases s.installed_cases table env with same | marked
  · rw [same]
  · rw [marked, AclState.writeTable_ruleTree]

/-- A rule creation that has come as far as the policer. -/
structure RuleAccepted (platform : AclPlatform) (s : AclState) (table : AclTable) (attrs : List AclRuleAttr)
    (env : AclRuleCreateEnv) (rule : AclRule) : Prop where
  populated : aclRulePopulate env.lookups platform (s.deref table) attrs = .ok rule
  valid : aclValidateCreateRule s rule = .success
  installed : (installAclRule s table env).2 = .success
  users : aclRuleCreateUsers (s.installed table env) rule env = .success

def AclState.policed (s : AclState) (ruleId : ObjectId) (rule : AclRule) : AclState :=
  if rule.policerId ≠ nullObjectId then s.editPolicer rule.policerId fun node => node.linkRule ruleId else s

@[simp] theorem AclState.policed_ruleTree {ruleId : ObjectId} {rule : AclRule} :
    (s.policed ruleId rule).ruleTree = s.ruleTree := by
  unfold AclState.policed
  split
  · rfl
  · rfl

@[simp] theorem AclState.policed_tableTree {ruleId : ObjectId} {rule : AclRule} :
    (s.policed ruleId rule).tableTree = s.tableTree := by
  unfold AclState.policed
  split
  · rfl
  · rfl

@[simp] theorem AclState.policed_counterTree {ruleId : ObjectId} {rule : AclRule} :
    (s.policed ruleId rule).counterTree = s.counterTree := by
  unfold AclState.policed
  split
  · rfl
  · rfl

def AclTable.linkRule (table : AclTable) (priorityOf : ObjectId → Nat) (ruleId : ObjectId) : AclTable :=
  { table with
    ruleHead := aclRuleInsertSorted priorityOf ruleId table.ruleHead
    ruleCount := table.ruleCount + 1 }

def AclState.addRule (s : AclState) (table : AclTable) (ruleId : ObjectId) (rule : AclRule) : AclState :=
  let s := (s.policed ruleId rule).putRule ruleId rule
  s.writeTable table fun table =>
    table.linkRule (fun id => ((s.ruleTree.get id).map AclRule.aclRulePriority).getD 0) ruleId

variable (table env) in
theorem AclState.installed_policed {rule : AclRule}
    (present : rule.policerId ≠ nullObjectId → s.qos.policerTree.get rule.policerId ≠ none) :
    (if rule.policerId ≠ nullObjectId then attachPolicerToAclRule (s.installed table env) env.ruleId rule
      else (s.installed table env, .success)) = ((s.installed table env).policed env.ruleId rule, .success) := by
  unfold AclState.policed
  split
  · rename_i named
    obtain ⟨node, found⟩ := Option.ne_none_iff_exists'.mp (present named)
    exact attachPolicerToAclRule_of_get _ (by rw [AclState.installed_qos]; exact found)
  · rfl

theorem RuleAccepted.stored {rule : AclRule} (accepted : RuleAccepted platform s table attrs env rule)
    (present : rule.policerId ≠ nullObjectId → s.qos.policerTree.get rule.policerId ≠ none)
    (treeOk : env.treeOk = true) (fresh : s.ruleTree.get env.ruleId = none) :
    createAclRuleLocked platform s table attrs env =
      ((s.installed table env).addRule table env.ruleId rule, .success) := by
  have split : installAclRule s table env = (s.installed table env, .success) := Prod.ext rfl accepted.installed
  have linked := AclState.installed_policed table env present
  unfold AclRuleCreateEnv.ruleId at linked fresh
  simp only [createAclRuleLocked, accepted.populated, accepted.valid, split, accepted.users, linked,
    AclState.policed_ruleTree, AclState.installed_ruleTree, treeOk, fresh, AclState.addRule, AclState.putRule]
  rfl

variable (platform s table attrs env) in
/-- What the locked part of a rule creation can do: refuse, free a rule that
its policer lists, or store the rule. -/
theorem createAclRuleLocked_cases :
    (∃ t status, (t = s ∨ t = s.installed table env) ∧
      createAclRuleLocked platform s table attrs env = (t, status) ∧
      ∀ rule, aclRulePopulate env.lookups platform (s.deref table) attrs = .ok rule → status ≠ .success) ∨
    (∃ rule, RuleAccepted platform s table attrs env rule ∧ rule.policerId ≠ nullObjectId ∧
      s.qos.policerTree.get rule.policerId ≠ none ∧ ¬ (env.treeOk = true ∧ s.ruleTree.get env.ruleId = none) ∧
      createAclRuleLocked platform s table attrs env =
        ((s.installed table env).policed env.ruleId rule, .failure)) ∨
    ∃ rule, RuleAccepted platform s table attrs env rule ∧
      (rule.policerId ≠ nullObjectId → s.qos.policerTree.get rule.policerId ≠ none) ∧
      env.treeOk = true ∧ s.ruleTree.get env.ruleId = none ∧ createAclRuleLocked platform s table attrs env =
        ((s.installed table env).addRule table env.ruleId rule, .success) := by
  cases populated : aclRulePopulate env.lookups platform (s.deref table) attrs with
  | error status =>
    refine .inl ⟨s, status, .inl rfl, ?_, fun rule isOk => by cases isOk⟩
    simp only [createAclRuleLocked, populated]
  | ok rule =>
    by_cases valid : aclValidateCreateRule s rule = .success
    swap
    · refine .inl ⟨s, _, .inl rfl, ?_, fun _ _ => valid⟩
      simp only [createAclRuleLocked, populated]
    by_cases installed : (installAclRule s table env).2 = .success
    swap
    · refine .inl ⟨s.installed table env, _, .inr rfl, ?_, fun _ _ => installed⟩
      simp only [createAclRuleLocked, populated, valid]
      rfl
    have split : installAclRule s table env = (s.installed table env, .success) := Prod.ext rfl installed
    by_cases users : aclRuleCreateUsers (s.installed table env) rule env = .success
    swap
    · refine .inl ⟨s.installed table env, _, .inr rfl, ?_, fun _ _ => users⟩
      simp only [createAclRuleLocked, populated, valid, split]
    have accepted : RuleAccepted platform s table attrs env rule := ⟨populated, valid, installed, users⟩
    by_cases missing : rule.policerId ≠ nullObjectId ∧ s.qos.policerTree.get rule.policerId = none
    · refine .inl ⟨s.installed table env, .invalidObjectId, .inr rfl, ?_, fun _ _ => by decide⟩
      have refused := attachPolicerToAclRule_of_absent (s := s.installed table env) env.ruleId
        (by rw [AclState.installed_qos]; exact missing.2)
      unfold AclRuleCreateEnv.ruleId at refused
      simp only [createAclRuleLocked, populated, valid, split, users, if_pos missing.1, refused]
    have present : rule.policerId ≠ nullObjectId → s.qos.policerTree.get rule.policerId ≠ none :=
      fun named absent => missing ⟨named, absent⟩
    have linked := AclState.installed_policed table env present
    unfold AclRuleCreateEnv.ruleId at linked
    by_cases fits : env.treeOk = true ∧ s.ruleTree.get env.ruleId = none
    · exact .inr (.inr ⟨rule, accepted, present, fits.1, fits.2, accepted.stored present fits.1 fits.2⟩)
    have refused : createAclRuleLocked platform s table attrs env =
        ((s.installed table env).policed env.ruleId rule, .failure) := by
      simp only [createAclRuleLocked, populated, valid, split, users, linked, AclState.policed_ruleTree,
        AclState.installed_ruleTree]
      split
      · rename_i treeOk fresh
        exact absurd ⟨treeOk, fresh⟩ fits
      · rfl
    by_cases named : rule.policerId = nullObjectId
    · refine .inl ⟨s.installed table env, .failure, .inr rfl, ?_, fun _ _ => by decide⟩
      rw [refused]
      exact congrArg (·, SaiStatus.failure) (if_neg (not_not_intro named))
    · exact .inr (.inl ⟨rule, accepted, named, present named, fits, refused⟩)

end Create

section Delete
variable {ruleId : ObjectId} {env : AclRuleDeleteEnv}

def AclState.unpoliced (s : AclState) (ruleId : ObjectId) (rule : AclRule) : AclState :=
  if rule.policerId ≠ nullObjectId then s.editPolicer rule.policerId fun node => node.unlinkRule ruleId else s

@[simp] theorem AclState.unpoliced_ruleTree {rule : AclRule} : (s.unpoliced ruleId rule).ruleTree = s.ruleTree := by
  unfold AclState.unpoliced
  split
  · rfl
  · rfl

@[simp]
theorem AclState.unpoliced_tableTree {rule : AclRule} : (s.unpoliced ruleId rule).tableTree = s.tableTree := by
  unfold AclState.unpoliced
  split
  · rfl
  · rfl

@[simp] theorem AclState.unpoliced_counterTree {rule : AclRule} :
    (s.unpoliced ruleId rule).counterTree = s.counterTree := by
  unfold AclState.unpoliced
  split
  · rfl
  · rfl

theorem AclState.editPolicer_ne_none {policerId k : ObjectId} {g : Policer → Policer} :
    (s.editPolicer policerId g).qos.policerTree.get k ≠ none ↔ s.qos.policerTree.get k ≠ none :=
  not_congr KeyTree.get_modify_eq_none

theorem AclState.unpoliced_policer_ne_none (ruleId : ObjectId) (rule : AclRule) {k : ObjectId} :
    (s.unpoliced ruleId rule).qos.policerTree.get k ≠ none ↔ s.qos.policerTree.get k ≠ none := by
  unfold AclState.unpoliced
  split
  · exact AclState.editPolicer_ne_none
  · exact Iff.rfl

def AclTable.unlinkRule (table : AclTable) (ruleId : ObjectId) : AclTable :=
  { table with
    ruleHead := table.ruleHead.erase ruleId
    ruleCount := table.ruleCount - 1 }

def AclState.dropRule (s : AclState) (ruleId : ObjectId) (rule : AclRule) : AclState :=
  { s with
    ruleTree := s.ruleTree.del ruleId
    tableTree := s.tableTree.modify rule.tableId fun table => table.unlinkRule ruleId }

variable (s ruleId env) in
/-- What a rule removal can do: refuse, refuse after the policer was detached
and attached again, or remove the rule. -/
theorem deleteAclRule_cases : (∃ status, status ≠ .success ∧ deleteAclRule s ruleId env = (s, status)) ∨
    (∃ rule status, s.ruleTree.get ruleId = some rule ∧
      (rule.policerId ≠ nullObjectId → s.qos.policerTree.get rule.policerId ≠ none) ∧ status ≠ .success ∧
      deleteAclRule s ruleId env = ((s.unpoliced ruleId rule).policed ruleId rule, status)) ∨
    ∃ rule table, s.ruleTree.get ruleId = some rule ∧ s.tableTree.get rule.tableId = some table ∧
      ruleId ∈ table.ruleHead ∧
      (rule.policerId ≠ nullObjectId → s.qos.policerTree.get rule.policerId ≠ none) ∧
      deleteAclRule s ruleId env = ((s.unpoliced ruleId rule).dropRule ruleId rule, .success) := by
  by_cases kind : ruleId.objType = .aclEntry
  swap
  · exact .inl
      ⟨.invalidObjectType, by decide, by simp only [deleteAclRule, ne_eq, kind, not_false_eq_true, if_true]⟩
  cases stored : s.ruleTree.get ruleId with
  | none =>
    refine .inl ⟨.invalidObjectId, by decide, ?_⟩
    simp only [deleteAclRule, ne_eq, kind, not_true_eq_false, if_false, stored]
  | some rule =>
    cases found : s.tableTree.get rule.tableId with
    | none =>
      refine .inl ⟨.invalidObjectId, by decide, ?_⟩
      simp only [deleteAclRule, ne_eq, kind, not_true_eq_false, if_false, stored, found]
    | some table =>
      by_cases member : ruleId ∈ table.ruleHead
      swap
      · refine .inl ⟨.failure, by decide, ?_⟩
        simp only [deleteAclRule, ne_eq, kind, not_true_eq_false, if_false, stored, found, member,
          not_false_eq_true, if_true]
      by_cases users : aclRuleDeleteUsers s rule env = .success
      swap
      · refine .inl ⟨_, users, ?_⟩
        simp only [deleteAclRule, ne_eq, kind, not_true_eq_false, if_false, stored, found, member]
      by_cases missing : rule.policerId ≠ nullObjectId ∧ s.qos.policerTree.get rule.policerId = none
      · have refused := detachPolicerFromAclRule_of_absent ruleId missing.2
        refine .inl ⟨.invalidObjectId, by decide, ?_⟩
        simp only [deleteAclRule, ne_eq, kind, not_true_eq_false, if_false, stored, found, member, users, refused,
          missing.1, not_false_eq_true, if_true]
      have present : rule.policerId ≠ nullObjectId → s.qos.policerTree.get rule.policerId ≠ none :=
        fun named absent => missing ⟨named, absent⟩
      have detached : (if rule.policerId ≠ nullObjectId then detachPolicerFromAclRule s ruleId rule
          else (s, .success)) = (s.unpoliced ruleId rule, .success) := by
        unfold AclState.unpoliced
        split
        · rename_i named
          obtain ⟨node, there⟩ := Option.ne_none_iff_exists'.mp (present named)
          exact detachPolicerFromAclRule_of_get there
        · rfl
      refine .inr ?_
      by_cases npu : env.npu = .success
      · refine .inr ⟨rule, table, rfl, found, member, present, ?_⟩
        simp only [deleteAclRule, kind, not_true_eq_false, if_false, stored, found, member, users,
          detached, npu]
        rfl
      refine .inl ⟨rule, env.npu, rfl, present, npu, ?_⟩
      have again : (if rule.policerId ≠ nullObjectId
          then ((attachPolicerToAclRule (s.unpoliced ruleId rule) ruleId rule).1, env.npu)
          else (s.unpoliced ruleId rule, env.npu)) = ((s.unpoliced ruleId rule).policed ruleId rule, env.npu) := by
        unfold AclState.policed
        split
        · rename_i named
          obtain ⟨node, there⟩ := Option.ne_none_iff_exists'.mp
            ((AclState.unpoliced_policer_ne_none ruleId rule).mpr (present named))
          rw [attachPolicerToAclRule_of_get ruleId there]
        · rfl
      simp only [deleteAclRule, kind, ne_eq, not_true_eq_false, if_false, stored, found, member, users]
      simp only [ne_eq] at detached again
      rw [detached]
      exact again

end Delete

section Edit

/-- An update of filters, actions and counter that keeps the rest of the rule. -/
structure AclRule.Edited (given next : AclRule) : Prop where
  tableId : next.tableId = given.tableId
  aclRulePriority : next.aclRulePriority = given.aclRulePriority
  aclRuleState : next.aclRuleState = given.aclRuleState
  policerId : next.policerId = given.policerId
  ingressSamplePacketId : next.ingressSamplePacketId = given.ingressSamplePacketId
  egressSamplePacketId : next.egressSamplePacketId = given.egressSamplePacketId

variable {env : AclUpdateEnv} {given next last modify : AclRule}

theorem AclRule.Edited.refl (rule : AclRule) : AclRule.Edited rule rule :=
  ⟨rfl, rfl, rfl, rfl, rfl, rfl⟩

theorem AclRule.Edited.trans (one : AclRule.Edited given next) (two : AclRule.Edited next last) :
    AclRule.Edited given last where
  tableId := two.tableId.trans one.tableId
  aclRulePriority := two.aclRulePriority.trans one.aclRulePriority
  aclRuleState := two.aclRuleState.trans one.aclRuleState
  policerId := two.policerId.trans one.policerId
  ingressSamplePacketId := two.ingressSamplePacketId.trans one.ingressSamplePacketId
  egressSamplePacketId := two.egressSamplePacketId.trans one.egressSamplePacketId

theorem AclRule.Edited.filters (rule : AclRule) (filters : List AclFilter) :
    AclRule.Edited rule { rule with filterList := filters } :=
  ⟨rfl, rfl, rfl, rfl, rfl, rfl⟩

theorem AclRule.Edited.actions (rule : AclRule) (actions : List AclAction) :
    AclRule.Edited rule { rule with actionList := actions } :=
  ⟨rfl, rfl, rfl, rfl, rfl, rfl⟩

theorem AclRule.Edited.counter (rule : AclRule) (counterId : ObjectId) :
    AclRule.Edited rule { rule with counterId := counterId } :=
  ⟨rfl, rfl, rfl, rfl, rfl, rfl⟩

variable (env) in
theorem aclFilterChangeLoop_edited (marks : AclFilter → AclMark) (scans : List AclFilter) (given : AclRule) :
    AclRule.Edited given (aclFilterChangeLoop env marks given scans).1 := by
  induction scans generalizing given with
  | nil => exact .refl given
  | cons scan rest ih =>
    unfold aclFilterChangeLoop
    split
    · split
      · rename_i filters _
        have later := ih { given with filterList := filters }
        exact (AclRule.Edited.filters given filters).trans later
      · exact .filters given _
    · exact ih given

theorem aclRuleUpdateCounterAction_edited (counterAction : Bool) :
    AclRule.Edited given (aclRuleUpdateCounterAction s env modify given counterAction).1 := by
  unfold aclRuleUpdateCounterAction
  split
  · split
    · split
      · exact .counter given _
      · exact .refl given
    · exact .refl given
  · split
    · split
      · split
        · exact .counter given _
        · exact .refl given
      · exact .refl given
    · exact .counter given _

variable (s env modify given) in
theorem aclCounterStep_edited (scan : AclAction) : AclRule.Edited given (if scan.action = .counter
      then aclRuleUpdateCounterAction s env modify given scan.enable else (given, .success)).1 := by
  split
  · exact aclRuleUpdateCounterAction_edited scan.enable
  · exact .refl given

variable (s env modify) in
theorem aclActionChangeLoop_edited (marks : AclAction → AclMark) (scans : List AclAction) (given : AclRule) :
    AclRule.Edited given (aclActionChangeLoop s env marks modify given scans).1 := by
  induction scans generalizing given with
  | nil => exact .refl given
  | cons scan rest ih =>
    have counted := aclCounterStep_edited s env given modify scan
    unfold aclActionChangeLoop
    split
    · split
      · rename_i moved isMoved
        rw [isMoved] at counted
        split
        · rename_i actions _
          have later := ih { moved with actionList := actions }
          exact counted.trans ((AclRule.Edited.actions moved actions).trans later)
        · rename_i actions _ _ _
          exact counted.trans (.actions moved actions)
      · rename_i moved _ _ isMoved
        rw [isMoved] at counted
        exact counted
    · exact ih given

variable (s env modify) in
theorem aclNewActions_edited (marks : AclAction → AclMark) (scans : List AclAction) (given : AclRule) :
    AclRule.Edited given (aclNewActions s env marks modify given scans).1 := by
  induction scans generalizing given with
  | nil => exact .refl given
  | cons scan rest ih =>
    have counted := aclCounterStep_edited s env given modify scan
    unfold aclNewActions
    split
    · split
      · exact .refl given
      split
      · rename_i moved isMoved
        rw [isMoved] at counted
        have later := ih moved
        split
        · rename_i isLast
          rw [isLast] at later
          exact counted.trans later
        · rename_i isLast
          rw [isLast] at later
          exact counted.trans later
      · rename_i moved _ _ isMoved
        rw [isMoved] at counted
        exact counted
    · exact ih given

theorem aclRuleUpdateNewFields_edited (marks : AclFilter → AclMark) :
    AclRule.Edited given (aclRuleUpdateNewFields env marks modify given).1 := by
  unfold aclRuleUpdateNewFields
  split
  · exact .refl given
  split
  · exact .refl given
  · exact .filters given _

theorem aclRuleUpdateNewActions_edited (marks : AclAction → AclMark) :
    AclRule.Edited given (aclRuleUpdateNewActions s env marks modify given).1 := by
  have later := aclNewActions_edited s env modify marks modify.actionList given
  unfold aclRuleUpdateNewActions
  split
  · exact .refl given
  split
  · rename_i isLast
    rw [isLast] at later
    exact later
  · rename_i last actions isLast
    rw [isLast] at later
    exact later.trans (.actions last _)

theorem aclRuleUpdateFieldAction_edited : AclRule.Edited given (aclRuleUpdateFieldAction s env modify given).1 := by
  have filtered := aclFilterChangeLoop_edited env (aclFilterMark given.filterList) modify.filterList given
  unfold aclRuleUpdateFieldAction
  dsimp only
  split
  · rename_i one isOne
    rw [isOne] at filtered
    have acted := aclActionChangeLoop_edited s env modify
      (aclActionMark given.actionList) modify.actionList one
    split
    · rename_i two isTwo
      rw [isTwo] at acted
      have fields : AclRule.Edited two
          (if modify.filterList.any fun scan => aclFilterMark given.filterList scan = .new then
            aclRuleUpdateNewFields env (aclFilterMark given.filterList) modify two else (two, .success)).1 := by
        split
        · exact aclRuleUpdateNewFields_edited _
        · exact .refl two
      split
      · rename_i three isThree
        rw [isThree] at fields
        split
        · exact (filtered.trans acted).trans (fields.trans (aclRuleUpdateNewActions_edited _))
        · exact (filtered.trans acted).trans fields
      · rename_i three _ _ isThree
        rw [isThree] at fields
        exact (filtered.trans acted).trans fields
    · rename_i two _ _ isTwo
      rw [isTwo] at acted
      exact filtered.trans acted
  · rename_i one _ _ isOne
    rw [isOne] at filtered
    exact filtered

theorem aclRuleUpdate_tableId : (aclRuleUpdate s platform env modify given).tableId = given.tableId := by
  unfold aclRuleUpdate
  rw [aclRuleUpdateFieldAction_edited.tableId]

theorem aclRuleUpdate_priority :
    (aclRuleUpdate s platform env modify given).aclRulePriority = modify.aclRulePriority := by
  unfold aclRuleUpdate
  rw [aclRuleUpdateFieldAction_edited.aclRulePriority]

theorem aclRuleUpdate_policerId : (aclRuleUpdate s platform env modify given).policerId = given.policerId := by
  unfold aclRuleUpdate
  rw [aclRuleUpdateFieldAction_edited.policerId]

end Edit

section Set
variable {ruleId : ObjectId} {attr : AclRuleAttr} {env : AclRuleSetEnv}

structure RuleToSet (platform : AclPlatform) (s : AclState) (ruleId : ObjectId) (attr : AclRuleAttr)
    (env : AclRuleSetEnv) (present modify : AclRule) (table : AclTable) : Prop where
  kind : ruleId.objType = .aclEntry
  checked : aclCheckRuleLoop 0 [attr] = .success
  stored : s.ruleTree.get ruleId = some present
  found : s.tableTree.get present.tableId = some table
  alloc : env.allocOk = true
  populated : aclRuleModify env.lookups platform table attr present = .ok modify
  valid : aclValidateSetRule s modify present = .success

structure RuleSetTaken (platform : AclPlatform) (s : AclState) (ruleId : ObjectId) (attr : AclRuleAttr)
    (env : AclRuleSetEnv) (present modify : AclRule) (table : AclTable) : Prop
    extends RuleToSet platform s ruleId attr env present modify table where
  sampleValidate : env.sampleValidate = .success
  copy : env.copy = .success
  npu : env.npu = .success

structure RuleSetAccepted (platform : AclPlatform) (s : AclState) (ruleId : ObjectId) (attr : AclRuleAttr)
    (env : AclRuleSetEnv) (present modify : AclRule) (table : AclTable) : Prop
    extends RuleSetTaken platform s ruleId attr env present modify table where
  sampleUpdate : env.sampleUpdate = .success

theorem RuleSetAccepted.result {present modify : AclRule}
    (accepted : RuleSetAccepted platform s ruleId attr env present modify table) :
    setAclRule platform s ruleId attr env =
      ((aclRulePolicerUpdate s ruleId (aclRuleUpdate s platform env.update modify present) modify.policerId).1.putRule
          ruleId
          (aclRulePolicerUpdate s ruleId (aclRuleUpdate s platform env.update modify present) modify.policerId).2.1,
        (aclRulePolicerUpdate s ruleId (aclRuleUpdate s platform env.update modify present)
          modify.policerId).2.2) := by
  obtain ⟨⟨⟨kind, checked, stored, found, alloc, populated, valid⟩, sampleValidate, copy, npu⟩,
    sampleUpdate⟩ := accepted
  simp only [setAclRule, ne_eq, kind, not_true_eq_false, if_false, checked, stored, found, alloc, Bool.true_eq_false,
    populated, valid, sampleValidate, aclRuleScanAndMod, copy, npu, sampleUpdate]

variable (s platform env) in
theorem aclRuleScanAndMod_refused (modify given : AclRule) (refused : ¬ (env.copy = .success ∧ env.npu = .success)) :
    ∃ error, error ≠ .success ∧ aclRuleScanAndMod s platform modify given env = (given, error) := by
  by_cases copy : env.copy = .success
  · have npu : env.npu ≠ .success := fun npu => refused ⟨copy, npu⟩
    refine ⟨env.npu, npu, ?_⟩
    simp only [aclRuleScanAndMod, copy]
  · refine ⟨env.copy, copy, ?_⟩
    simp only [aclRuleScanAndMod]

variable (platform s ruleId attr env) in
/-- A set that does not get as far as the NPU leaves the database as it is. -/
theorem setAclRule_reached : (setAclRule platform s ruleId attr env).1 = s ∨
    ∃ present modify table, RuleToSet platform s ruleId attr env present modify table := by
  by_cases kind : ruleId.objType = .aclEntry
  swap
  · exact .inl (by simp only [setAclRule, ne_eq, kind, not_false_eq_true, if_true])
  by_cases checked : aclCheckRuleLoop 0 [attr] = .success
  swap
  · exact .inl (by simp only [setAclRule, ne_eq, kind, not_true_eq_false, if_false])
  cases stored : s.ruleTree.get ruleId with
  | none => exact .inl (by simp only [setAclRule, ne_eq, kind, not_true_eq_false, if_false, checked, stored])
  | some present =>
    cases found : s.tableTree.get present.tableId with
    | none =>
      exact .inl (by simp only [setAclRule, ne_eq, kind, not_true_eq_false, if_false, checked, stored, found])
    | some table =>
      cases alloc : env.allocOk with
      | false =>
        refine .inl ?_
        simp only [setAclRule, ne_eq, kind, not_true_eq_false, if_false, checked, stored, found, alloc, if_true]
      | true =>
        cases populated : aclRuleModify env.lookups platform table attr present with
        | error status =>
          refine .inl ?_
          simp only [setAclRule, ne_eq, kind, not_true_eq_false, if_false, checked, stored, found, alloc,
            Bool.true_eq_false, populated]
        | ok modify =>
          by_cases valid : aclValidateSetRule s modify present = .success
          · exact .inr ⟨present, modify, table, kind, checked, stored, found, alloc, populated, valid⟩
          · refine .inl ?_
            simp only [setAclRule, ne_eq, kind, not_true_eq_false, if_false, checked, stored, found, alloc,
              Bool.true_eq_false, populated]

variable (platform s ruleId attr env) in
/-- What a set can do: leave the database as it is, write the rule as it was or
as the NPU took it, with the same policer, or come as far as the policer. -/
theorem setAclRule_cases : (setAclRule platform s ruleId attr env).1 = s ∨
    (∃ present rule, s.ruleTree.get ruleId = some present ∧ rule.policerId = present.policerId ∧
      rule.tableId = present.tableId ∧
      (rule = present ∨ ∃ modify table, RuleSetTaken platform s ruleId attr env present modify table ∧
        rule = aclRuleUpdate s platform env.update modify present) ∧
      (setAclRule platform s ruleId attr env).1 = s.putRule ruleId rule) ∨
    ∃ present modify table, RuleSetAccepted platform s ruleId attr env present modify table := by
  rcases setAclRule_reached platform s ruleId attr env with same | ⟨present, modify, table, reached⟩
  · exact .inl same
  have ⟨kind, checked, stored, found, alloc, populated, valid⟩ := reached
  by_cases sampleValidate : env.sampleValidate = .success
  swap
  · refine .inl ?_
    simp only [setAclRule, ne_eq, kind, not_true_eq_false, if_false, checked, stored, found, alloc,
      Bool.true_eq_false, populated, valid]
  by_cases scanned : env.copy = .success ∧ env.npu = .success
  · obtain ⟨copy, npu⟩ := scanned
    have taken : RuleSetTaken platform s ruleId attr env present modify table :=
      ⟨⟨kind, checked, stored, found, alloc, populated, valid⟩, sampleValidate, copy, npu⟩
    by_cases sampleUpdate : env.sampleUpdate = .success
    · exact .inr (.inr ⟨present, modify, table, taken, sampleUpdate⟩)
    refine .inr (.inl ⟨present, aclRuleUpdate s platform env.update modify present, stored,
      aclRuleUpdate_policerId, aclRuleUpdate_tableId, .inr ⟨modify, table, taken, rfl⟩, ?_⟩)
    simp only [setAclRule, ne_eq, kind, not_true_eq_false, if_false, checked, stored, found, alloc,
      Bool.true_eq_false, populated, valid, sampleValidate, aclRuleScanAndMod, copy, npu]
  · refine .inr (.inl ⟨present, present, stored, rfl, rfl, .inl rfl, ?_⟩)
    obtain ⟨error, isError, result⟩ := aclRuleScanAndMod_refused platform s env
      modify present scanned
    simp only [setAclRule, ne_eq, kind, not_true_eq_false, if_false, checked, stored, found, alloc,
      Bool.true_eq_false, populated, valid, sampleValidate, result]

end Set
end SaiCommon
