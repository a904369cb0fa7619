import SaiCommon.Acl.Ownership
import SaiCommon.Acl.RuleUpdateLists
import SaiCommon.Acl.RuleSamplepacket

namespace SaiCommon

variable {platform : AclPlatform} {rule : AclRule} {s : AclState} {ruleId : ObjectId}

section Create
variable {table : AclTable} {attrs : List AclRuleAttr} {env : AclRuleCreateEnv}

structure RuleToSample (platform : AclPlatform) (s : AclState) (table : AclTable) (attrs : List AclRuleAttr)
    (env : AclRuleCreateEnv) (rule : AclRule) : Prop where
  populated : aclRulePopulate env.lookups platform (s.deref table) attrs = .ok rule
  valid : aclValidateCreateRule s rule = .success
  installed : (installAclRule s table env).2 = .success
  samples : rule.samplesPackets = true

theorem aclRuleToSample_iff : aclRuleToSample platform s table attrs env = some rule ↔
    RuleToSample platform s table attrs env rule := by
  constructor
  · intro reached
    unfold aclRuleToSample at reached
    split at reached
    · cases reached
    rename_i populated
    split at reached
    · rename_i valid installed
      split at reached
      · rename_i samples
        cases reached
        exact ⟨populated, valid, installed, samples⟩
      · cases reached
    · cases reached
  · rintro ⟨populated, valid, installed, samples⟩
    simp only [aclRuleToSample, populated, valid, installed, samples, if_true]

/-- The other steps of a creation do not come before the samplepacket step: what
it answers decides whether they are taken. -/
theorem RuleToSample.result (reached : RuleToSample platform s table attrs env rule) (answer : SaiStatus) :
    ((createAclRuleLocked platform s table attrs { env with samplePacket := answer }).2 ≠ .success ∧
      (createAclRuleLocked platform s table attrs { env with samplePacket := answer }).1.ruleTree = s.ruleTree ∧
      ¬ RuleStores platform s table attrs { env with samplePacket := answer }) ∨ (answer = .success ∧
      (createAclRuleLocked platform s table attrs { env with samplePacket := answer }).2 = .success ∧
      s.ruleTree.get env.ruleId = none ∧
      (createAclRuleLocked platform s table attrs { env with samplePacket := answer }).1.ruleTree =
        s.ruleTree.put env.ruleId rule) := by
  have unstored : (createAclRuleLocked platform s table attrs { env with samplePacket := answer }).2 ≠ .success →
      ¬ RuleStores platform s table attrs { env with samplePacket := answer } := by
    rintro failed ⟨other, accepted, policer, treeOk, fresh⟩
    rw [accepted.stored policer treeOk fresh] at failed
    exact failed rfl
  rcases createAclRuleLocked_cases platform s table attrs { env with samplePacket := answer } with
    ⟨t, status, same | installed, refused, failed⟩ | ⟨other, _, _, _, _, refused⟩ |
      ⟨other, accepted, policer, treeOk, fresh, stored⟩
  · rw [refused, same] at unstored ⊢
    have isError := failed rule reached.populated
    exact .inl ⟨isError, rfl, unstored isError⟩
  · rw [refused, installed] at unstored ⊢
    have isError := failed rule reached.populated
    exact .inl ⟨isError, AclState.installed_ruleTree, unstored isError⟩
  · rw [refused] at unstored ⊢
    have isError : SaiStatus.failure ≠ .success := fun same => by cases same
    refine .inl ⟨isError, ?_, unstored isError⟩
    dsimp only
    rw [AclState.policed_ruleTree, AclState.installed_ruleTree]
  · have populated := accepted.populated
    rw [reached.populated] at populated
    cases populated
    have answered : answer = .success := by
      have users := accepted.users
      unfold aclRuleCreateUsers at users
      rw [reached.samples, if_pos rfl] at users
      split at users
      · assumption
      · rename_i failed
        exact absurd users failed
    subst answered
    refine .inr ⟨rfl, ?_, fresh, ?_⟩
    · rw [stored]
    · rw [stored]
      unfold AclState.addRule
      dsimp only
      rw [AclState.writeTable_ruleTree]
      unfold AclState.putRule
      dsimp only
      rw [AclState.policed_ruleTree, AclState.installed_ruleTree]
      rfl

/-- A creation that does not come to its samplepacket step stores no rule that samples. -/
theorem createAclRuleLocked_unsampled (notReached : aclRuleToSample platform s table attrs env = none) :
    (createAclRuleLocked platform s table attrs env).1.ruleTree = s.ruleTree ∨
      ∃ rule, aclRulePopulate env.lookups platform (s.deref table) attrs = .ok rule ∧
        rule.samplesPackets = false ∧
        s.ruleTree.get env.ruleId = none ∧
        (createAclRuleLocked platform s table attrs env).1.ruleTree = s.ruleTree.put env.ruleId rule := by
  rcases createAclRuleLocked_cases platform s table attrs env with
    ⟨t, status, same | installed, refused, _⟩ | ⟨rule, _, _, _, _, refused⟩ |
      ⟨rule, accepted, policer, treeOk, fresh, stored⟩
  · refine .inl ?_
    rw [refused, same]
  · refine .inl ?_
    rw [refused, installed]
    exact AclState.installed_ruleTree
  · refine .inl ?_
    rw [refused]
    dsimp only
    rw [AclState.policed_ruleTree, AclState.installed_ruleTree]
  · refine .inr ⟨rule, accepted.populated, ?_, fresh, ?_⟩
    · cases samples : rule.samplesPackets with
      | false => rfl
      | true =>
        have reached := aclRuleToSample_iff.mpr ⟨accepted.populated, accepted.valid, accepted.installed, samples⟩
        rw [notReached] at reached
        cases reached
    · rw [stored]
      unfold AclState.addRule
      dsimp only
      rw [AclState.writeTable_ruleTree]
      unfold AclState.putRule
      dsimp only
      rw [AclState.policed_ruleTree, AclState.installed_ruleTree]

end Create

section Delete
variable {env : AclRuleDeleteEnv}

structure RuleToRelease (s : AclState) (ruleId : ObjectId) (rule : AclRule) : Prop where
  kind : ruleId.objType = .aclEntry
  stored : s.ruleTree.get ruleId = some rule
  linked : ∃ table, s.tableTree.get rule.tableId = some table ∧ ruleId ∈ table.ruleHead
  samples : rule.samplesPackets = true

theorem aclRuleToRelease_iff : aclRuleToRelease s ruleId = some rule ↔ RuleToRelease s ruleId rule := by
  constructor
  · intro reached
    unfold aclRuleToRelease at reached
    split at reached
    · cases reached
    rename_i kind
    split at reached
    · cases reached
    rename_i stored
    split at reached
    · cases reached
    rename_i table found
    split at reached
    · rename_i both
      cases reached
      exact ⟨not_not.mp kind, stored, ⟨table, found, both.1⟩, both.2⟩
    · cases reached
  · rintro ⟨kind, stored, ⟨table, found, member⟩, samples⟩
    simp only [aclRuleToRelease, ne_eq, kind, not_true_eq_false, if_false, stored, found, member, samples, and_self,
      if_true]

structure RuleReleases (s : AclState) (rule : AclRule) (env : AclRuleDeleteEnv) : Prop where
  counter : rule.counterId ≠ nullObjectId → detachCntrFromAclRule s rule env.detachCntr = .success
  policer : rule.policerId ≠ nullObjectId → s.qos.policerTree.get rule.policerId ≠ none
  npu : env.npu = .success

theorem RuleToRelease.released (reached : RuleToRelease s ruleId rule) (releases : RuleReleases s rule env) :
    (deleteAclRule s ruleId { env with samplePacket := .success }).2 = .success := by
  obtain ⟨kind, stored, ⟨table, found, member⟩, samples⟩ := reached
  have users : aclRuleDeleteUsers s rule { env with samplePacket := .success } = .success := by
    unfold aclRuleDeleteUsers
    rw [samples, if_pos rfl]
    dsimp only
    split
    · rename_i named
      exact releases.counter named
    · rfl
  have detached : ∃ t, (if rule.policerId ≠ nullObjectId then detachPolicerFromAclRule s ruleId rule
      else (s, .success)) = (t, .success) := by
    split
    · rename_i named
      obtain ⟨node, there⟩ := Option.ne_none_iff_exists'.mp (releases.policer named)
      exact ⟨_, detachPolicerFromAclRule_of_get there⟩
    · exact ⟨s, rfl⟩
  obtain ⟨t, detached⟩ := detached
  simp only [deleteAclRule, kind, ne_eq, not_true_eq_false, if_false, stored, found, member, users]
  simp only [ne_eq] at detached
  rw [detached]
  simp only [releases.npu]

theorem deleteAclRule_ruleTree (s : AclState) (ruleId : ObjectId) (env : AclRuleDeleteEnv) :
    ((deleteAclRule s ruleId env).2 ≠ .success ∧ (deleteAclRule s ruleId env).1.ruleTree = s.ruleTree) ∨
    ((deleteAclRule s ruleId env).2 = .success ∧
      (deleteAclRule s ruleId env).1.ruleTree = s.ruleTree.del ruleId) := by
  rcases deleteAclRule_cases s ruleId env with
    ⟨status, failed, same⟩ | ⟨rule, status, _, _, failed, again⟩ | ⟨other, table, stored, _, _, _, removed⟩
  · rw [same]
    exact .inl ⟨failed, rfl⟩
  · rw [again]
    refine .inl ⟨failed, ?_⟩
    dsimp only
    rw [AclState.policed_ruleTree, AclState.unpoliced_ruleTree]
  · rw [removed]
    refine .inr ⟨rfl, ?_⟩
    unfold AclState.dropRule
    dsimp only
    rw [AclState.unpoliced_ruleTree]

theorem deleteAclRule_unsampled (notReached : aclRuleToRelease s ruleId = none) :
    (deleteAclRule s ruleId env).1.ruleTree = s.ruleTree ∨
      ∃ rule, s.ruleTree.get ruleId = some rule ∧ rule.samplesPackets = false ∧
        (deleteAclRule s ruleId env).1.ruleTree = s.ruleTree.del ruleId := by
  by_cases kind : ruleId.objType = .aclEntry
  swap
  · refine .inl ?_
    simp only [deleteAclRule, ne_eq, kind, not_false_eq_true, if_true]
  rcases deleteAclRule_cases s ruleId env with
    ⟨status, failed, same⟩ | ⟨rule, status, _, _, failed, again⟩ |
    ⟨rule, table, stored, found, member, _, removed⟩
  · rw [same]
    exact .inl rfl
  · rw [again]
    refine .inl ?_
    dsimp only
    rw [AclState.policed_ruleTree, AclState.unpoliced_ruleTree]
  · refine .inr ⟨rule, stored, ?_, ?_⟩
    · cases samples : rule.samplesPackets with
      | false => rfl
      | true =>
        have reached := aclRuleToRelease_iff.mpr ⟨kind, stored, ⟨table, found, member⟩, samples⟩
        rw [notReached] at reached
        cases reached
    · rw [removed]
      unfold AclState.dropRule
      dsimp only
      rw [AclState.unpoliced_ruleTree]

end Delete

section Set
variable {attr : AclRuleAttr} {env : AclRuleSetEnv} {present modify : AclRule}

theorem aclRuleToSet_iff : aclRuleToSet platform s ruleId attr env = some (present, modify) ↔
    ∃ table, RuleToSet platform s ruleId attr env present modify table := by
  constructor
  · intro reached
    unfold aclRuleToSet at reached
    split at reached
    · cases reached
    rename_i kind
    split at reached
    · rename_i checked
      split at reached
      · cases reached
      rename_i stored
      split at reached
      · cases reached
      rename_i table found
      split at reached
      · cases reached
      rename_i alloc
      split at reached
      · cases reached
      rename_i populated
      split at reached
      · rename_i valid
        cases reached
        exact ⟨table, not_not.mp kind, checked, stored, found, (Bool.not_eq_false _).mp alloc, populated,
          valid⟩
      · cases reached
    · cases reached
  · rintro ⟨table, kind, checked, stored, found, alloc, populated, valid⟩
    simp only [aclRuleToSet, ne_eq, kind, not_true_eq_false, if_false, checked, stored, found, alloc,
      Bool.true_eq_false, populated, valid]

theorem RuleToSet.result {table : AclTable} (reached : RuleToSet platform s ruleId attr env present modify table)
    (validated updated : SaiStatus) : (¬ (validated = .success ∧ env.copy = .success ∧ env.npu = .success) →
      (setAclRule platform s ruleId attr { env with sampleValidate := validated, sampleUpdate := updated }).1.ruleTree =
        s.ruleTree) ∧ (validated = .success → env.copy = .success → env.npu = .success → ∃ next : AclRule,
      next.filterList = (aclRuleUpdate s platform env.update modify present).filterList ∧
      next.actionList = (aclRuleUpdate s platform env.update modify present).actionList ∧
      (setAclRule platform s ruleId attr { env with sampleValidate := validated, sampleUpdate := updated }).1.ruleTree =
        s.ruleTree.put ruleId next) := by
  obtain ⟨kind, checked, stored, found, alloc, populated, valid⟩ := reached
  constructor
  · intro refused
    by_cases validOk : validated = .success
    · obtain ⟨error, isError, scanned⟩ := aclRuleScanAndMod_refused platform s
        { env with sampleValidate := validated, sampleUpdate := updated } modify present fun both =>
        refused ⟨validOk, both⟩
      simp only [setAclRule, ne_eq, kind, not_true_eq_false, if_false, checked, stored, found, alloc,
        Bool.true_eq_false, populated, valid, validOk] at scanned ⊢
      simp only [scanned]
      exact KeyTree.put_same stored
    · simp only [setAclRule, ne_eq, kind, not_true_eq_false, if_false, checked, stored, found, alloc,
        Bool.true_eq_false, populated, valid]
  · intro validOk copy npu
    subst validOk
    by_cases updatedOk : updated = .success
    · subst updatedOk
      obtain ⟨filters, actions⟩ := aclRulePolicerUpdate_lists s ruleId
        (aclRuleUpdate s platform env.update modify present) modify.policerId
      have owners := (aclRulePolicerUpdate_owners s ruleId (aclRuleUpdate s platform env.update modify present)
        modify.policerId).1
      refine ⟨_, filters, actions, ?_⟩
      simp only [setAclRule, ne_eq, kind, not_true_eq_false, if_false, checked, stored, found, alloc,
        Bool.true_eq_false, populated, valid, aclRuleScanAndMod, copy, npu]
      exact owners.putRule.2.1
    · refine ⟨_, rfl, rfl, ?_⟩
      simp only [setAclRule, ne_eq, kind, not_true_eq_false, if_false, checked, stored, found, alloc,
        Bool.true_eq_false, populated, valid, aclRuleScanAndMod, copy, npu]
      rfl

theorem setAclRule_unsampled (notReached : aclRuleToSet platform s ruleId attr env = none) :
    (setAclRule platform s ruleId attr env).1 = s := by
  rcases setAclRule_reached platform s ruleId attr env with same | ⟨present, modify, reached⟩
  · exact same
  · rw [aclRuleToSet_iff.mpr reached] at notReached
    cases notReached

end Set
end SaiCommon
