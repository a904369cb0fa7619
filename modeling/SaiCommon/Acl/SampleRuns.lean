import SaiCommon.Acl.SampleFieldSets

namespace SaiCommon

open KeyTree

variable {scan : AclFilter} {next : AclRule} {platform : AclPlatform} {s : SampledAcl}

structure SampledAcl.SetsWell (platform : AclPlatform) (s : SampledAcl) (ruleId : ObjectId) (attr : AclRuleAttr)
    (env : AclRuleSetEnv) (sampleEnv : SampleEnv) : Prop where
  granted : sampleEnv.grants
  action : ∀ present modify direction scan, aclRuleToSet platform s.acl ruleId attr env = some (present, modify) →
    aclSampleSetAction modify.actionList = some (direction, scan) → s.SetsAction present env direction scan
  field : ∀ present modify scan, aclRuleToSet platform s.acl ruleId attr env = some (present, modify) →
    modify.filterList = [scan] → s.SetsField present env scan

section Set
variable {ruleId : ObjectId} {attr : AclRuleAttr} {env : AclRuleSetEnv} {sampleEnv : SampleEnv}
  {present modify : AclRule} {table : AclTable} {t : SampleAcl} {validated : SaiStatus}

theorem RuleToSet.sampled (step : RuleToSet platform s.acl ruleId attr env present modify table)
    (first : aclRuleValidateUpdateSamplepacket present true false modify (sampleEnv.sub 0) s.sample = (t, validated)) :
    (¬ (validated = .success ∧ env.copy = .success ∧ env.npu = .success) → ∃ acl : AclState,
      (setAclRuleSampled platform s ruleId attr env sampleEnv).1 = ⟨acl, t⟩ ∧ acl.ruleTree = s.acl.ruleTree) ∧
    (validated = .success → env.copy = .success → env.npu = .success → ∃ (acl : AclState) (next : AclRule),
      next.filterList = (aclRuleUpdate s.acl platform env.update modify present).filterList ∧
      next.actionList = (aclRuleUpdate s.acl platform env.update modify present).actionList ∧
      acl.ruleTree = s.acl.ruleTree.put ruleId next ∧ (setAclRuleSampled platform s ruleId attr env sampleEnv).1 =
        ⟨acl, (aclRuleValidateUpdateSamplepacket (aclRuleUpdate s.acl platform env.update modify present) false true
          modify (sampleEnv.sub 1) t).1⟩) := by
  have reached := aclRuleToSet_iff.mpr ⟨table, step⟩
  constructor
  · intro refused
    have idle : ¬ (validated = .success ∧ (aclRuleScanAndMod s.acl platform modify present env).2 = .success) := by
      intro both
      by_cases scanned : env.copy = .success ∧ env.npu = .success
      · exact refused ⟨both.1, scanned⟩
      obtain ⟨error, isError, refusal⟩ := aclRuleScanAndMod_refused platform s.acl env modify present scanned
      rw [refusal] at both
      exact isError both.2
    refine ⟨(setAclRule platform s.acl ruleId attr
      { env with sampleValidate := validated, sampleUpdate := .success }).1, ?_, ?_⟩
    · unfold setAclRuleSampled
      rw [reached]
      dsimp only
      rw [first]
      dsimp only
      rw [if_neg idle]
    · exact (step.result validated .success).1 refused
  · intro validOk copy npu
    have scanned : aclRuleScanAndMod s.acl platform modify present env =
        (aclRuleUpdate s.acl platform env.update modify present, .success) := by
      unfold aclRuleScanAndMod
      rw [copy, npu]
    obtain ⟨next, filters, actions, rules⟩ := (step.result validated
      (aclRuleValidateUpdateSamplepacket (aclRuleUpdate s.acl platform env.update modify present) false true
        modify (sampleEnv.sub 1) t).2).2 validOk copy npu
    refine ⟨_, next, filters, actions, rules, ?_⟩
    unfold setAclRuleSampled
    rw [reached]
    dsimp only
    rw [first]
    dsimp only
    rw [scanned, if_pos ⟨validOk, rfl⟩]

theorem SampleCounted.idleSet (counted : SampleCounted s)
    (step : RuleToSet platform s.acl ruleId attr env present modify table)
    (first : aclRuleValidateUpdateSamplepacket present true false modify (sampleEnv.sub 0) s.sample =
      (s.sample, .success))
    (second : aclRuleValidateUpdateSamplepacket (aclRuleUpdate s.acl platform env.update modify present) false true
      modify (sampleEnv.sub 1) s.sample = (s.sample, .success)) (samples : ∀ next : AclRule,
      next.filterList = (aclRuleUpdate s.acl platform env.update modify present).filterList →
      next.actionList = (aclRuleUpdate s.acl platform env.update modify present).actionList →
      next.SamplesWell s.sample ∧
      ∀ e, aclSampleSession next.actionList e = aclSampleSession present.actionList e ∧
        (aclSampleSession present.actionList e ≠ none →
          next.samplePorts s.sample e = present.samplePorts s.sample e)) :
    SampleCounted (setAclRuleSampled platform s ruleId attr env sampleEnv).1 := by
  obtain ⟨refused, set⟩ := step.sampled first
  by_cases taken : env.copy = .success ∧ env.npu = .success
  · obtain ⟨acl, next, filters, actions, rules, result⟩ := set rfl taken.1 taken.2
    obtain ⟨well, same⟩ := samples next filters actions
    rw [result, second]
    exact counted.sameSamples step.stored rules well (.refl _) counted.flows same
  · obtain ⟨acl, result, rules⟩ := refused fun all => taken all.2
    rw [result]
    exact counted.keep rules (.refl _) counted.flows

theorem aclRuleValidateUpdateSamplepacket_idle (orig : AclRule) (validate update : Bool) (sampleEnv : SampleEnv)
    (t : SampleAcl) (noAction : aclSampleSetAction modify.actionList = none)
    (noList : (modify.filterList.findIdx? fun filter => aclPortlistAttr filter.field) = none) :
    aclRuleValidateUpdateSamplepacket orig validate update modify sampleEnv t = (t, .success) := by
  unfold aclRuleValidateUpdateSamplepacket
  rw [noAction, noList]

theorem AclRule.SamplesWell.sameLists {sample : SampleAcl} (well : present.SamplesWell sample)
    (filters : next.filterList = present.filterList) (unique : (next.actionList.map AclAction.action).Nodup)
    (actions : ∀ e, aclSampleAction next.actionList e = aclSampleAction present.actionList e) :
    next.SamplesWell sample ∧ ∀ e, aclSampleSession next.actionList e = aclSampleSession present.actionList e ∧
      (aclSampleSession present.actionList e ≠ none →
        next.samplePorts sample e = present.samplePorts sample e) := by
  have portlist : ∀ e, next.samplePortlist e = present.samplePortlist e := by
    intro e
    cases e with
    | egress => rfl
    | ingress => exact congrArg aclFirstPortlist filters
  refine ⟨⟨unique, fun e some => ?_⟩, fun e => ⟨?_, fun _ => ?_⟩⟩
  · rw [portlist]
    refine well.named e ?_
    unfold aclSampleNamed at some ⊢
    rw [← actions e]
    exact some
  · unfold aclSampleSession
    rw [actions e]
  · unfold AclRule.samplePorts
    rw [portlist]

theorem SampleCounted.setAction (counted : SampleCounted s)
    (step : RuleToSet platform s.acl ruleId attr env present modify table)
    (good : s.SetsWell platform ruleId attr env sampleEnv) {scan : AclAction} (noFilter : modify.filterList = [])
    (one : modify.actionList = [scan]) :
    SampleCounted (setAclRuleSampled platform s ruleId attr env sampleEnv).1 := by
  have reached := aclRuleToSet_iff.mpr ⟨table, step⟩
  have well := counted.rules ruleId present step.stored
  obtain ⟨filters, actions⟩ :
      (aclRuleUpdate s.acl platform env.update modify present).filterList = present.filterList ∧
        ((aclRuleUpdate s.acl platform env.update modify present).actionList =
          aclActionListSet env.update scan present.actionList ∨ scan.action = .counter ∧
        (aclRuleUpdate s.acl platform env.update modify present).actionList = present.actionList) :=
    aclRuleUpdate_action noFilter one
  cases isOne : aclSampleDirection scan.action with
  | none =>
    have noAction : aclSampleSetAction modify.actionList = none := by
      rw [one]
      unfold aclSampleSetAction
      rw [isOne]
      rfl
    have noList : (modify.filterList.findIdx? fun filter => aclPortlistAttr filter.field) = none := by
      rw [noFilter]
      rfl
    refine counted.idleSet step (aclRuleValidateUpdateSamplepacket_idle _ _ _ _ _ noAction noList)
      (aclRuleValidateUpdateSamplepacket_idle _ _ _ _ _ noAction noList) fun next sameFilters sameActions => ?_
    rw [filters] at sameFilters
    rcases actions with set | ⟨_, kept⟩
    · rw [set] at sameActions
      refine well.sameLists sameFilters ?_ fun e => ?_
      · rw [sameActions]
        exact aclActionListSet_nodup well.unique
      · rw [sameActions]
        refine aclActionListSet_find (q := fun id => aclSampleDirection id == some e) (fun action found same => ?_)
          fun _ => ?_
        · have isIt := (aclSampleAction_some found).2
          rw [same, isOne] at isIt
          cases isIt
        · rw [isOne]
          rfl
    · rw [kept] at sameActions
      refine well.sameLists sameFilters ?_ fun e => ?_
      · rw [sameActions]
        exact well.unique
      · rw [sameActions]
  | some direction =>
    have setAction : aclSampleSetAction modify.actionList = some (direction, scan) := by
      rw [one]
      unfold aclSampleSetAction
      rw [isOne]
      rfl
    have sets := good.action present modify direction scan reached setAction
    have phase : ∀ orig validate update env t, aclRuleValidateUpdateSamplepacket orig validate update modify env t =
        aclSampleActionSet orig validate update env t direction scan := by
      intro orig validate update env t
      unfold aclRuleValidateUpdateSamplepacket
      rw [setAction]
    have notCounter : scan.action ≠ .counter := fun isCounter => by
      rw [isCounter] at isOne
      cases isOne
    have set := actions.resolve_right fun both => notCounter both.1
    have valid := counted.validateAction step.stored (good.granted.sub 0) sets
    cases first : aclSampleActionSet present true false (sampleEnv.sub 0) s.sample direction scan with
    | mk t rc =>
      rw [first] at valid
      rw [← phase] at first
      obtain ⟨refused, taken⟩ := step.sampled first
      obtain ⟨same, ⟨failed, flows⟩ | ⟨ok, flows, free⟩⟩ := valid
      · obtain ⟨acl, result, rules⟩ := refused fun all => failed all.1
        rw [result]
        exact counted.keep rules same flows
      · obtain ⟨acl, next, nextFilters, nextActions, rules, result⟩ := taken ok sets.memory.1 sets.memory.2.1
        rw [result, phase]
        exact counted.actionSet step.stored (good.granted.sub 1) sets isOne rules (nextFilters.trans filters)
          (nextActions.trans set) filters same flows free

theorem aclFirstPortlist_other (notPort : aclSamplePortAttr scan.field = false)
    (env : AclUpdateEnv) (filters : List AclFilter) :
    aclFirstPortlist (aclFilterListSet env scan filters) = aclFirstPortlist filters := by
  rw [aclFirstPortlist_find, aclFirstPortlist_find]
  refine congrArg _ (aclFilterListSet_find (q := aclSamplePortAttr) (fun filter found same => ?_) fun _ => notPort)
  have isOne : aclSamplePortAttr filter.field = true := by
    have first := List.find?_some found
    exact first
  rw [same, notPort] at isOne
  cases isOne

theorem SampledAcl.SetsField.samples (good : s.SetsField present env scan)
    (well : present.SamplesWell s.sample) (notList : aclPortlistAttr scan.field = false)
    (filters : next.filterList = aclFilterListSet env.update scan present.filterList)
    (actions : next.actionList = present.actionList) :
    next.SamplesWell s.sample ∧ ∀ e, aclSampleSession next.actionList e = aclSampleSession present.actionList e ∧
      (aclSampleSession present.actionList e ≠ none →
        next.samplePorts s.sample e = present.samplePorts s.sample e) := by
  have portsOf : ∀ {rule : AclRule}, rule.samplePorts s.sample .ingress =
      (aclFirstPortlist rule.filterList).getD s.sample.portList := rfl
  have isEmpty : aclPortlistAttr scan.field = true → (scan.fieldValue.objList = [] ↔ scan.enable = false) :=
    fun isList => absurd (notList.symm.trans isList) Bool.false_ne_true
  have scanPorts : scan.ports = [scan.fieldValue.oid] := by
    unfold AclFilter.ports
    rw [notList]
    rfl
  have oldNamed : aclSampleAction present.actionList .ingress ≠ none →
      nullObjectId ∉ present.samplePorts s.sample .ingress := by
    intro some
    refine well.named .ingress fun none => some ?_
    unfold aclSampleNamed at none
    exact Option.map_eq_none_iff.mp none
  refine ⟨well.fieldSet actions fun some => ?_, fun e => ⟨by rw [actions], fun some => ?_⟩⟩
  · cases isPort : aclPortAttr scan.field with
    | false =>
      have notPort : aclSamplePortAttr scan.field = false := by
        unfold aclSamplePortAttr
        rw [notList, isPort]
        rfl
      rw [portsOf, filters, aclFirstPortlist_other notPort]
      exact oldNamed some
    | true =>
      obtain ⟨alloc, named⟩ := good.memory isPort some
      rw [portsOf, filters]
      rcases aclFilterListSet_ports alloc isEmpty with ⟨kept, _⟩ | ⟨_, set⟩
      · rw [kept]
        exact oldNamed some
      · rw [set, scanPorts]
        exact fun member => named (List.mem_singleton.mp member).symm
  · cases e with
    | egress => rfl
    | ingress =>
      rw [portsOf, portsOf, filters]
      congr 1
      cases isPort : aclPortAttr scan.field with
      | false =>
        have notPort : aclSamplePortAttr scan.field = false := by
          unfold aclSamplePortAttr
          rw [notList, isPort]
          rfl
        exact aclFirstPortlist_other notPort _ _
      | true =>
        have anAction : aclSampleAction present.actionList .ingress ≠ none := by
          intro none
          refine some ?_
          unfold aclSampleSession
          rw [none]
        obtain ⟨first, isFirst, sameOid⟩ := good.port isPort some
        rcases aclFilterListSet_ports (good.memory isPort anAction).1 isEmpty with ⟨kept, _⟩ | ⟨_, set⟩
        · exact kept
        by_cases same : first.field = scan.field
        · have firstPorts : first.ports = [first.fieldValue.oid] := by
            unfold AclFilter.ports
            rw [same, notList]
            rfl
          rw [set, scanPorts, aclFirstPortlist_find, isFirst, Option.map_some, firstPorts, sameOid same]
        · rw [aclFirstPortlist_find, aclFirstPortlist_find]
          refine congrArg _ (aclFilterListSet_find (q := aclSamplePortAttr) (fun filter found isIt => ?_) fun none =>
            ?_)
          · rw [isFirst] at found
            cases found
            exact same isIt
          · rw [isFirst] at none
            cases none

theorem SampleCounted.setField (counted : SampleCounted s)
    (step : RuleToSet platform s.acl ruleId attr env present modify table)
    (good : s.SetsWell platform ruleId attr env sampleEnv) (one : modify.filterList = [scan])
    (noAction : modify.actionList = [])
    (isEmpty : aclPortlistAttr scan.field = true → (scan.fieldValue.objList = [] ↔ scan.enable = false)) :
    SampleCounted (setAclRuleSampled platform s ruleId attr env sampleEnv).1 := by
  have reached := aclRuleToSet_iff.mpr ⟨table, step⟩
  have well := counted.rules ruleId present step.stored
  have sets := good.field present modify scan reached one
  have noSet : aclSampleSetAction modify.actionList = none := by
    rw [noAction]
    rfl
  obtain ⟨actions, filters⟩ :
      (aclRuleUpdate s.acl platform env.update modify present).actionList = present.actionList ∧
        (aclRuleUpdate s.acl platform env.update modify present).filterList =
          aclFilterListSet env.update scan present.filterList := aclRuleUpdate_filter one noAction
  cases isList : aclPortlistAttr scan.field with
  | false =>
    have noList : (modify.filterList.findIdx? fun filter => aclPortlistAttr filter.field) = none := by
      rw [one, List.findIdx?_singleton, isList]
      rfl
    exact counted.idleSet step (aclRuleValidateUpdateSamplepacket_idle _ _ _ _ _ noSet noList)
      (aclRuleValidateUpdateSamplepacket_idle _ _ _ _ _ noSet noList) fun next sameFilters sameActions =>
        sets.samples well isList (sameFilters.trans filters) (sameActions.trans actions)
  | true =>
    have place : (modify.filterList.findIdx? fun filter => aclPortlistAttr filter.field) = some 0 := by
      rw [one, List.findIdx?_singleton, isList]
      rfl
    have phase : ∀ orig validate update env t, aclRuleValidateUpdateSamplepacket orig validate update modify env t =
        aclSamplePortsSet orig validate update env t 0 scan.fieldValue.objList := by
      intro orig validate update env t
      unfold aclRuleValidateUpdateSamplepacket
      rw [noSet, place, one]
      rfl
    cases found : aclSampleAction present.actionList .ingress with
    | none =>
      have idle : ∀ orig : AclRule, orig.actionList = present.actionList → ∀ validate update env t,
          aclSamplePortsSet orig validate update env t 0 scan.fieldValue.objList = (t, .success) := by
        intro orig same validate update env t
        unfold aclSamplePortsSet
        rw [aclSampleAction_ingress, same, found]
      refine counted.idleSet step ?_ ?_ fun next _ sameActions => ?_
      · rw [phase]
        exact idle present rfl _ _ _ _
      · rw [phase]
        exact idle _ actions _ _ _ _
      · have same := sameActions.trans actions
        refine ⟨well.fieldSet same fun some => absurd found some, fun e => ⟨by rw [same], fun some => ?_⟩⟩
        cases e with
        | egress => rfl
        | ingress =>
          refine absurd ?_ some
          unfold aclSampleSession
          rw [found]
    | some action =>
      have lists := sets.portlist isList action found
      have valid := counted.validatePortlist step.stored (good.granted.sub 0) found lists isList
      cases first : aclSamplePortsSet present true false (sampleEnv.sub 0) s.sample 0 scan.fieldValue.objList with
      | mk t rc =>
        rw [first] at valid
        rw [← phase] at first
        obtain ⟨refused, taken⟩ := step.sampled first
        by_cases ok : rc = .success
        · obtain ⟨acl, next, nextFilters, nextActions, rules, result⟩ := taken ok lists.memory.1 lists.memory.2.1
          rw [result, phase]
          exact counted.portlistSet step.stored (good.granted.sub 1) found lists isList (isEmpty isList) rules
            (nextActions.trans actions) (nextFilters.trans filters) actions valid ok
        · obtain ⟨acl, result, rules⟩ := refused fun all => ok all.1
          rw [result]
          obtain ⟨same, ⟨_, flows⟩ | ⟨isOk, _⟩⟩ := valid
          · exact counted.keep rules same flows
          · exact absurd isOk ok

theorem SampleCounted.setRule (counted : SampleCounted s) (good : s.SetsWell platform ruleId attr env sampleEnv) :
    SampleCounted (setAclRuleSampled platform s ruleId attr env sampleEnv).1 := by
  cases reached : aclRuleToSet platform s.acl ruleId attr env with
  | none =>
    have kept := setAclRule_unsampled reached
    unfold setAclRuleSampled
    rw [reached]
    dsimp only
    rw [kept]
    exact counted
  | some pair =>
    obtain ⟨present, modify⟩ := pair
    obtain ⟨table, step⟩ := aclRuleToSet_iff.mp reached
    have well := counted.rules ruleId present step.stored
    have rest (noFilter : modify.filterList = []) (noAction : modify.actionList = []) :
        SampleCounted (setAclRuleSampled platform s ruleId attr env sampleEnv).1 := by
      obtain ⟨filters, actions⟩ :
          (aclRuleUpdate s.acl platform env.update modify present).filterList = present.filterList ∧
            (aclRuleUpdate s.acl platform env.update modify present).actionList = present.actionList :=
        aclRuleUpdate_none noFilter noAction
      have noSet : aclSampleSetAction modify.actionList = none := by
        rw [noAction]
        rfl
      have noList : (modify.filterList.findIdx? fun filter => aclPortlistAttr filter.field) = none := by
        rw [noFilter]
        rfl
      refine counted.idleSet step (aclRuleValidateUpdateSamplepacket_idle _ _ _ _ _ noSet noList)
        (aclRuleValidateUpdateSamplepacket_idle _ _ _ _ _ noSet noList) fun next sameFilters sameActions => ?_
      have same := sameActions.trans actions
      refine well.sameLists (sameFilters.trans filters) ?_ fun e => by rw [same]
      rw [same]
      exact well.unique
    have populated := step.populated
    cases attr with
    | field id enable value =>
      obtain ⟨filter, made, one, noAction⟩ := aclRuleModify_field populated
      exact counted.setField step good one noAction (aclFilterPopulate_list made)
    | action id enable parameter =>
      obtain ⟨stored, _, noFilter, one⟩ := aclRuleModify_action populated
      exact counted.setAction step good noFilter one
    | tableId id =>
      obtain ⟨noFilter, noAction⟩ := aclRuleModify_rest (by simp) (by simp) populated
      exact rest noFilter noAction
    | priority value =>
      obtain ⟨noFilter, noAction⟩ := aclRuleModify_rest (by simp) (by simp) populated
      exact rest noFilter noAction
    | adminState state =>
      obtain ⟨noFilter, noAction⟩ := aclRuleModify_rest (by simp) (by simp) populated
      exact rest noFilter noAction
    | unknown id =>
      obtain ⟨noFilter, noAction⟩ := aclRuleModify_rest (by simp) (by simp) populated
      exact rest noFilter noAction
    | outOfRange id =>
      obtain ⟨noFilter, noAction⟩ := aclRuleModify_rest (by simp) (by simp) populated
      exact rest noFilter noAction

end Set

def SampledCall.KeepsCounts (platform : AclPlatform) (s : SampledAcl) : SampledCall → Prop
  | .createRule attrs allocOk env sampleEnv => s.CreatesWell platform attrs allocOk env sampleEnv
  | .deleteRule ruleId env sampleEnv => s.DeletesWell ruleId env sampleEnv
  | .setRule ruleId attr env sampleEnv => s.SetsWell platform ruleId attr env sampleEnv

def SampledCall.Granted : SampledCall → Prop
  | .createRule _ _ env sampleEnv => sampleEnv.grants ∧ env.npuTableCreate = .success ∧ env.npu = .success
  | .deleteRule _ env sampleEnv => sampleEnv.grants ∧ env.npu = .success
  | .setRule _ _ env sampleEnv => sampleEnv.grants ∧ env.npu = .success

def SampledCall.step (platform : AclPlatform) (s : SampledAcl) (call : SampledCall) : SampledAcl :=
  (call.run platform s).1

structure FlowFresh (s : SampledAcl) : Prop where
  noRules : s.acl.ruleTree = ∅
  typed : ∀ id, s.sample.sessions.sessionTree.get id ≠ none → id.objType = .samplePacket
  noPorts : ∀ id session, s.sample.sessions.sessionTree.get id = some session → session.portTree = ∅
  noInfo : s.sample.aclInfo = ∅
  ports : nullObjectId ∉ s.sample.portList

def SampleSession.portCount (session : SampleSession) (direction : SampleDirection) (p : ObjectId) : Int :=
  match session.portTree.get ⟨p, direction⟩ with
  | some node => node.refCount
  | none => 0

/-- Every session counts for every port and direction what the stored rules
sample to it there, and can be removed when none of them samples to it. -/
def SampledAcl.CountsMirrorRules (s : SampledAcl) : Prop :=
  ∀ id session, s.sample.sessions.sessionTree.get id = some session →
    (∀ direction p, session.portCount direction p =
      (s.acl.ruleTree.weigh fun _ rule => rule.sampleDemand s.sample id direction p : Nat)) ∧
    ((∀ ruleId rule, s.acl.ruleTree.get ruleId = some rule → ∀ direction, rule.samplesTo id direction = 0) →
      session.portTree = ∅ ∧ (samplepacketSessionRemove s.sample.sessions id .success).2 = .success)

section Runs

theorem FlowFresh.counted (fresh : FlowFresh s) : SampleCounted s := by
  have noFlow : ∀ id direction p, s.flows id direction p = 0 := by
    intro id direction p
    unfold SampledAcl.flows
    rw [fresh.noRules]
    split
    · rfl
    · exact weigh_empty _
  refine ⟨⟨fresh.typed, fun id session stored key => ?_, fun id _ => noFlow id, fun p _ id direction => ?_,
    fun id direction => noFlow id direction _, fun p direction id id' used => ?_⟩, fun ruleId rule stored => ?_,
    fresh.ports⟩
  · rw [fresh.noPorts id session stored, get_empty, noFlow]
    rfl
  · rw [fresh.noInfo, get_empty, noFlow]
    exact iff_of_false (not_not_intro rfl) (lt_irrefl 0)
  · rw [noFlow] at used
    cases used
  · rw [fresh.noRules, get_empty] at stored
    cases stored

theorem SampleCounted.step (counted : SampleCounted s) (call : SampledCall) (keeps : call.KeepsCounts platform s) :
    SampleCounted (call.step platform s) := by
  cases call with
  | createRule attrs allocOk env sampleEnv => exact counted.create keeps
  | deleteRule ruleId env sampleEnv => exact counted.delete keeps
  | setRule ruleId attr env sampleEnv => exact counted.setRule keeps

theorem SampleCounted.mirror (counted : SampleCounted s) : s.CountsMirrorRules := by
  intro id session stored
  have live : s.sample.sessions.sessionTree.get id ≠ none := by
    rw [stored]
    exact Option.some_ne_none session
  have flows : ∀ direction p, s.flows id direction p =
      s.acl.ruleTree.weigh fun _ rule => rule.sampleDemand s.sample id direction p := fun direction p => if_neg live
  have nodes := counted.flows.nodes id session stored
  refine ⟨fun direction p => ?_, fun unused => ?_⟩
  · rw [← flows]
    unfold SampleSession.portCount
    rw [nodes]
    unfold flowNode
    by_cases none : s.flows id direction p = 0
    · rw [if_pos none, none]
      rfl
    · rw [if_neg none]
  · have noFlow : ∀ direction p, s.flows id direction p = 0 := by
      intro direction p
      by_contra used
      rw [flows] at used
      obtain ⟨ruleId, rule, found, demand⟩ := KeyTree.exists_of_weigh (Nat.pos_of_ne_zero used)
      unfold AclRule.sampleDemand at demand
      rw [unused ruleId rule found, Nat.zero_mul] at demand
      cases demand
    have noPorts : session.portTree = ∅ := by
      refine KeyTree.ext fun key => ?_
      rw [nodes, noFlow, get_empty]
      rfl
    refine ⟨noPorts, ?_⟩
    unfold samplepacketSessionRemove
    rw [if_neg (not_not_intro (counted.flows.typed id live)), stored]
    dsimp only
    rw [if_neg (not_not_intro noPorts)]

/-- In every run whose calls keep the counts, the sessions count what the stored
rules sample. -/
theorem sampleCounts_mirror_rules
    (reach : Runs.Reach FlowFresh (Runs.guarded (SampledCall.KeepsCounts platform) (SampledCall.step platform)) s) :
    s.CountsMirrorRules := by
  have counted : SampleCounted s := by
    refine reach.invariant SampleCounted (fun _ fresh => fresh.counted) ?_
    intro s call t counted moved
    rw [moved.2]
    exact counted.step call moved.1
  exact counted.mirror

end Runs

def sampledAclSample : SampledAcl where
  acl := ((aclSampleRun.take 2).foldl (AclEvent.step aclSamplePlatform) aclSampleSystem).db
  sample :=
    { sessions := { sessionTree := (∅ : KeyTree ObjectId SampleSession).put ⟨.samplePacket, 5⟩ ⟨0, 100, ∅⟩ }
      aclInfo := ∅
      portList := [⟨.port, 1⟩, ⟨.port, 2⟩] }

def sampleEnvGranted : SampleEnv := fun _ => ⟨⟨true, true, .success⟩, true, .success⟩

theorem sampledAclSample_fresh : FlowFresh sampledAclSample := by
  refine ⟨rfl, fun id live => ?_, fun id session stored => ?_, rfl, by decide⟩
  · unfold sampledAclSample at live
    rw [get_put] at live
    split at live
    · rename_i same
      rw [same]
    · exact absurd (get_empty _) live
  · unfold sampledAclSample at stored
    rw [get_put] at stored
    split at stored
    · cases stored
      rfl
    · rw [get_empty] at stored
      cases stored

/-- A rule that samples the packets of one port, with `actions` behind. -/
def flowRuleAttrs (actions : List AclRuleAttr) : List AclRuleAttr :=
  aclSampleRule ++ [.field .inPorts true { objList := [⟨.port, 1⟩] },
    .action .ingressSamplePacket true { oid := ⟨.samplePacket, 5⟩ }] ++ actions

def flowRun : List SampledCall :=
  [.createRule (flowRuleAttrs []) true aclSampleRuleEnv sampleEnvGranted,
    .deleteRule ⟨.aclEntry, 7⟩ ⟨.success, .success, .success⟩ sampleEnvGranted]

theorem sampleCounts_mirror_rules_sample :
    (flowRun.foldl (SampledCall.step aclSamplePlatform) sampledAclSample).CountsMirrorRules := by
  refine sampleCounts_mirror_rules (Runs.Reach.run (.start sampledAclSample_fresh) ?_)
  refine ⟨⟨fun _ => rfl, ?_, ?_⟩, ⟨fun _ => rfl, ?_, ?_, ?_⟩, trivial⟩
  · intro table rule began populated
    cases began
    cases populated
    intro direction _
    cases direction <;> decide
  · intro table rule began reached
    cases began
    cases reached
    refine .inl ⟨rfl, fun direction id isId => ?_, .inr fun direction action found off => ?_⟩
    · cases direction with
      | ingress =>
        cases isId
        exact .inr ⟨by decide, by decide, by decide⟩
      | egress => cases isId
    · cases direction with
      | ingress =>
        cases found
        cases off
      | egress => cases found
  · intro rule stored none
    cases stored
    cases none
  · intro rule reached direction action found off
    cases reached
    cases direction with
    | ingress =>
      cases found
      cases off
    | egress => cases found
  · intro rule reached
    cases reached
    exact .inl rfl

/-- A rule with an action of another kind behind the sampling action counts its
port twice, and once still when it is removed. -/
theorem sampleCounts_not_mirror_rules :
    ¬ ∀ platform s, Runs.Reach FlowFresh
    (Runs.guarded (fun _ call => call.Granted) (SampledCall.step platform)) s →
      s.CountsMirrorRules := by
  intro all
  let calls : List SampledCall :=
    [.createRule (flowRuleAttrs [.action (.value 0) true {}]) true aclSampleRuleEnv sampleEnvGranted,
      .deleteRule ⟨.aclEntry, 7⟩ ⟨.success, .success, .success⟩ sampleEnvGranted]
  let last := calls.foldl (SampledCall.step aclSamplePlatform) sampledAclSample
  have mirrors : last.CountsMirrorRules := all aclSamplePlatform _ (Runs.Reach.run (.start sampledAclSample_fresh)
    ⟨⟨fun _ => rfl, rfl, rfl⟩, ⟨fun _ => rfl, rfl⟩, trivial⟩)
  have counts : (last.sample.sessions.sessionTree.get ⟨.samplePacket, 5⟩).map (fun session =>
      session.portCount .ingress ⟨.port, 1⟩) = some 1 := by decide
  have noRule : last.acl.ruleTree.keys = ∅ := by decide
  obtain ⟨session, found, isOne⟩ := Option.map_eq_some_iff.mp counts
  have isSum := (mirrors _ session found).1 .ingress ⟨.port, 1⟩
  rw [isOne, weigh_eq_sum, noRule, Finset.sum_empty] at isSum
  cases isSum

end SaiCommon
