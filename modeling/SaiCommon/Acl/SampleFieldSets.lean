import SaiCommon.Acl.SampleSetSteps

namespace SaiCommon

variable {given scan : AclFilter} {acl : AclState} {enable : Bool}

def aclSamplePortAttr (field : AclFieldId) : Bool := aclPortlistAttr field || aclPortAttr field

def AclFilter.ports (filter : AclFilter) : List ObjectId :=
  if aclPortlistAttr filter.field then filter.fieldValue.objList else [filter.fieldValue.oid]

/-- The list that is taken for the one a list of ports replaces. -/
def AclRule.firstObjList (rule : AclRule) : List ObjectId :=
  ((rule.filterList[0]?).map fun filter => filter.fieldValue.objList).getD []

section Filters
variable {env : AclUpdateEnv} {filters : List AclFilter}

theorem aclFirstPortlist_find (filters : List AclFilter) :
    aclFirstPortlist filters = (filters.find? fun filter => aclSamplePortAttr filter.field).map AclFilter.ports := by
  induction filters with
  | nil => rfl
  | cons filter rest ih =>
    unfold aclFirstPortlist
    rw [List.find?_cons]
    unfold aclSamplePortAttr AclFilter.ports
    cases isList : aclPortlistAttr filter.field with
    | true => simp only [if_true, Bool.true_or, Option.map_some, isList]
    | false =>
      cases isPort : aclPortAttr filter.field with
      | true => simp only [Bool.false_eq_true, if_false, if_true, Bool.or_true, Option.map_some, isList]
      | false =>
        simp only [Bool.false_eq_true, if_false, Bool.or_self]
        exact ih

theorem aclFilterPopulate_list {lookups : AclLookups} {index : Nat} {table : AclTable} {id : AclFieldId}
    {value : AclFieldValue} (ok : aclFilterPopulate lookups index table id enable value = .ok scan)
    (isList : aclPortlistAttr scan.field = true) : scan.fieldValue.objList = [] ↔ scan.enable = false := by
  have listed : ∀ stored, aclFilterPopulateObjectList lookups index (aclStoredField table id) enable value.objList =
      .ok stored → (stored.objList = [] ↔ enable = false) := by
    intro stored made
    unfold aclFilterPopulateObjectList at made
    split at made
    · rename_i off
      cases made
      exact iff_of_true rfl off
    rename_i on
    split at made
    · cases made
    rename_i some
    split at made
    · cases made
    split at made
    · cases made
    split at made
    · cases made
    · cases made
      exact iff_of_false some on
  unfold aclFilterPopulate at ok
  dsimp only at ok
  split at ok
  · cases ok
  rename_i stored made
  split at ok
  · split at ok
    · cases ok
    cases ok
    rename_i kind _ _ _
    rw [kind] at isList
    cases isList
  · cases ok
    dsimp only at isList ⊢
    unfold aclFilterPopulateAttrType at made
    cases kind : aclStoredField table id <;> rw [kind] at isList made listed <;> cases isList
    · exact listed stored made
    · exact listed stored made

theorem aclRuleUpdateObjectList_ok (alloc : env.alloc = true) {src : List ObjectId}
    (isEmpty : src = [] ↔ enable = false) (dst : List ObjectId) :
    aclRuleUpdateObjectList env src dst enable = .ok src := by
  unfold aclRuleUpdateObjectList
  rw [alloc]
  cases enable with
  | false =>
    rw [isEmpty.mpr rfl]
    simp only [if_true, Bool.false_eq_true, false_and, if_false, ite_self]
  | true =>
    have some : src ≠ [] := fun none => Bool.false_ne_true (isEmpty.mp none).symm
    simp only [Bool.true_eq_false, if_false, ne_eq, some, not_false_eq_true, true_and, and_self, if_true]
    split
    · split
      · rfl
      · rename_i same
        rw [if_pos (not_not.mp same)]
    · rfl

section Ports
variable (isPort : aclSamplePortAttr scan.field = true)
  (isEmpty : aclPortlistAttr scan.field = true → (scan.fieldValue.objList = [] ↔ scan.enable = false))
include isPort

theorem AclFilter.samplePort_cases : aclPortlistAttr scan.field = true ∨
      aclPortlistAttr scan.field = false ∧ (scan.field = .inPort ∨ scan.field = .outPort) := by
  cases kind : scan.field <;> rw [kind] at isPort <;> cases isPort
  · exact .inr ⟨rfl, .inl rfl⟩
  · exact .inr ⟨rfl, .inr rfl⟩
  · exact .inl rfl
  · exact .inl rfl

include isEmpty

theorem aclFilterNew_ports (alloc : env.alloc = true) :
    ∃ filter, aclFilterNew env scan = .ok filter ∧ filter.field = scan.field ∧ filter.ports = scan.ports := by
  rcases AclFilter.samplePort_cases isPort with isList | ⟨notList, kind⟩
  · refine ⟨⟨scan.field, scan.enable, { objList := scan.fieldValue.objList }, none⟩, ?_, rfl, ?_⟩
    · unfold aclFilterNew
      rw [if_pos isList, aclRuleUpdateObjectList_ok alloc (isEmpty isList)]
    · unfold AclFilter.ports
      rw [if_pos isList, if_pos isList]
  · refine ⟨scan, ?_, rfl, rfl⟩
    unfold aclFilterNew
    rw [notList, if_neg Bool.false_ne_true]
    rcases kind with kind | kind <;> rw [kind]

theorem aclFilterUpdate_ports (alloc : env.alloc = true) (same : given.field = scan.field) :
    (aclFilterUpdate env scan given).1.ports = scan.ports := by
  rcases AclFilter.samplePort_cases isPort with isList | ⟨notList, kind⟩
  · unfold aclFilterUpdate
    rw [same, if_pos isList, aclRuleUpdateObjectList_ok alloc (isEmpty isList)]
    unfold AclFilter.ports
    dsimp only
    rw [if_pos isList, if_pos isList]
  · unfold aclFilterUpdate
    rw [same, notList, if_neg Bool.false_ne_true]
    rcases kind with kind | kind <;> rw [kind]

omit isEmpty in
theorem aclCheckFilterChange_ports (same : given.field = scan.field)
    (kept : aclCheckFilterChange given scan = false) : given.ports = scan.ports := by
  unfold aclCheckFilterChange at kept
  rcases AclFilter.samplePort_cases isPort with isList | ⟨notList, kind⟩
  · cases kind : scan.field <;> rw [kind] at isList kept <;> cases isList
    · rw [Bool.or_true] at kept
      cases kept
    · rw [Bool.or_true] at kept
      cases kept
  · have value : scan.fieldValue = given.fieldValue := by
      rcases kind with kind | kind <;> rw [kind] at kept <;>
        simp only [Bool.or_eq_false_iff, decide_eq_false_iff_not, ne_eq, not_not] at kept <;> exact kept.2
    unfold AclFilter.ports
    rw [same, value]

end Ports

theorem aclFilterListSet_new {filter : AclFilter} (alloc : env.alloc = true) (made : aclFilterNew env scan = .ok filter)
    (absent : (filters.find? fun filter => filter.field == scan.field) = none) :
    aclFilterListSet env scan filters = filters ++ [filter] := by
  unfold aclFilterListSet aclFilterMark
  rw [absent, alloc, if_neg Bool.true_eq_false.mp, made]

theorem aclFilterListSet_ports (alloc : env.alloc = true)
    (isEmpty : aclPortlistAttr scan.field = true → (scan.fieldValue.objList = [] ↔ scan.enable = false)) :
    aclFirstPortlist (aclFilterListSet env scan filters) = aclFirstPortlist filters ∧
        (aclSamplePortAttr scan.field = true → ∃ first,
          (filters.find? fun filter => aclSamplePortAttr filter.field) = some first ∧ first.field ≠ scan.field) ∨
      aclSamplePortAttr scan.field = true ∧
        aclFirstPortlist (aclFilterListSet env scan filters) = some scan.ports := by
  rw [aclFirstPortlist_find, aclFirstPortlist_find]
  cases isPort : aclSamplePortAttr scan.field with
  | false =>
    refine .inl ⟨congrArg _ (aclFilterListSet_find (q := aclSamplePortAttr) (fun filter found same => ?_)
      fun _ => isPort), fun is => (by cases is)⟩
    have isOne : aclSamplePortAttr filter.field = true := by
      have first := List.find?_some found
      exact first
    rw [same, isPort] at isOne
    cases isOne
  | true =>
    cases found : filters.find? fun filter => aclSamplePortAttr filter.field with
    | none =>
      refine .inr ⟨rfl, ?_⟩
      obtain ⟨filter, made, field, ports⟩ := aclFilterNew_ports isPort isEmpty alloc
      have absent : (filters.find? fun filter => filter.field == scan.field) = none := by
        refine List.find?_eq_none.mpr fun other member same => ?_
        refine List.find?_eq_none.mp found other member ?_
        rw [beq_iff_eq.mp same]
        exact isPort
      rw [aclFilterListSet_new alloc made absent, List.find?_append, found, Option.none_or, List.find?_singleton, field,
        isPort, if_pos rfl, Option.map_some, ports]
    | some given =>
      by_cases same : given.field = scan.field
      · refine .inr ⟨rfl, ?_⟩
        rw [aclFilterListSet_first (q := aclSamplePortAttr) found same, Option.map_some]
        cases changed : aclCheckFilterChange given scan with
        | true => rw [if_pos rfl, aclFilterUpdate_ports isPort isEmpty alloc same]
        | false => rw [if_neg Bool.false_ne_true, aclCheckFilterChange_ports isPort same changed]
      · refine .inl ⟨?_, fun _ => ⟨given, rfl, same⟩⟩
        rw [aclFilterListSet_find (q := aclSamplePortAttr), found]
        · intro filter isIt
          rw [found] at isIt
          cases isIt
          exact same
        · intro none
          rw [found] at none
          cases none

end Filters

/-- A set of a list of ports after which the sessions count what the rules
sample. The first filter, which is read as a list of ports, must be one. A disabled action
must be recorded with no session that is applied on it; for an enabled one the first filter
must be the one that is set, and the recorded session its own, applied for no other rule on
the last port. -/
structure SampledAcl.SetsPortlist (s : SampledAcl) (present : AclRule) (env : AclRuleSetEnv) (action : AclAction)
    (scan : AclFilter) : Prop where
  memory : env.copy = .success ∧ env.npu = .success ∧ env.update.alloc = true
  named : nullObjectId ∉ scan.fieldValue.objList
  oldNamed : nullObjectId ∉ present.firstObjList
  oldList : ∃ head, present.filterList.head? = some head ∧ aclPortlistAttr head.field = true
  off : action.enable = false → ∀ p ∈ present.firstObjList, s.flows present.ingressSamplePacketId .ingress p = 0
  own : action.enable = true → present.ingressSamplePacketId = action.parameter.oid
  first : action.enable = true → ∃ head, present.filterList.head? = some head ∧ head.field = scan.field
  last : action.enable = true → ∀ p, present.firstObjList.getLast? = some p →
    s.flows present.ingressSamplePacketId .ingress p ≤ present.firstObjList.count p

/-- A set of a field after which the sessions count what the rules sample. A
single port is not looked at, so that it must leave the ports of a rule with an
enabled ingress sampling action. -/
structure SampledAcl.SetsField (s : SampledAcl) (present : AclRule) (env : AclRuleSetEnv) (scan : AclFilter) :
    Prop where
  portlist : aclPortlistAttr scan.field = true →
    ∀ action, aclSampleAction present.actionList .ingress = some action →
    s.SetsPortlist present env action scan
  memory : aclPortAttr scan.field = true → aclSampleAction present.actionList .ingress ≠ none →
    env.update.alloc = true ∧ scan.fieldValue.oid ≠ nullObjectId
  port : aclPortAttr scan.field = true → aclSampleSession present.actionList .ingress ≠ none → ∃ first,
    (present.filterList.find? fun filter => aclSamplePortAttr filter.field) = some first ∧
      (first.field = scan.field → first.fieldValue.oid = scan.fieldValue.oid)

section Portlist
variable {s : SampledAcl} {ruleId : ObjectId} {present next rule : AclRule} {env : SampleEnv} {setEnv : AclRuleSetEnv}
  {action : AclAction} {t : SampleAcl} {m : SampleFlows}

theorem aclSampleAction_ingress (actions : List AclAction) :
    (actions.find? fun action => action.action == .ingressSamplePacket) = aclSampleAction actions .ingress := by
  unfold aclSampleAction
  congr 1
  funext action
  cases action.action <;> rfl

theorem aclSampleSession_of_action {actions : List AclAction} {direction : SampleDirection}
    (found : aclSampleAction actions direction = some action) :
    aclSampleSession actions direction = if action.enable then some action.parameter.oid else none := by
  unfold aclSampleSession
  rw [found]

theorem SampledAcl.SetsPortlist.ports (good : s.SetsPortlist present setEnv action scan)
    (isList : aclPortlistAttr scan.field = true) (on : action.enable = true) :
    present.samplePorts s.sample .ingress = present.firstObjList ∧
      ∃ head, (present.filterList.find? fun filter => aclSamplePortAttr filter.field) = some head ∧
        head.field = scan.field := by
  obtain ⟨head, isHead, same⟩ := good.first on
  obtain ⟨rest, filters⟩ : ∃ rest, present.filterList = head :: rest := by
    cases listed : present.filterList with
    | nil =>
      rw [listed] at isHead
      cases isHead
    | cons other rest =>
      rw [listed] at isHead
      cases isHead
      exact ⟨rest, rfl⟩
  have headList : aclPortlistAttr head.field = true := by
    rw [same]
    exact isList
  constructor
  · unfold AclRule.samplePorts SampleAcl.ports AclRule.firstObjList
    change (aclFirstPortlist present.filterList).getD _ = _
    rw [filters]
    unfold aclFirstPortlist
    rw [if_pos headList]
    rfl
  · refine ⟨head, ?_, same⟩
    rw [filters, List.find?_cons]
    unfold aclSamplePortAttr
    rw [headList]
    rfl

/-- What the first phase of a set of a list of ports leaves. -/
def SampledAcl.ListValidated (s : SampledAcl) (present : AclRule) (action : AclAction) (scan : AclFilter)
    (t : SampleAcl) (rc : SaiStatus) : Prop :=
  s.sample.SameSessions t ∧ ((rc ≠ .success ∧ SampledFlows t s.flows) ∨
    (rc = .success ∧ if action.enable then
        SampledFlows t (s.flows.sub action.parameter.oid .ingress present.firstObjList) ∧
          (s.flows.sub action.parameter.oid .ingress present.firstObjList).Free action.parameter.oid .ingress
            scan.fieldValue.objList
      else SampledFlows t s.flows))

theorem SampleCounted.validatePortlist (counted : SampleCounted s) (stored : s.acl.ruleTree.get ruleId = some present)
    (granted : env.grants) (found : aclSampleAction present.actionList .ingress = some action)
    (good : s.SetsPortlist present setEnv action scan) (isList : aclPortlistAttr scan.field = true) :
    s.ListValidated present action scan
      (aclSamplePortsSet present true false env s.sample 0 scan.fieldValue.objList).1
      (aclSamplePortsSet present true false env s.sample 0 scan.fieldValue.objList).2 := by
  have old : ((present.filterList[0]?).map fun filter => filter.fieldValue.objList).getD [] = present.firstObjList :=
    rfl
  have oldNamed : nullObjectId ∉ s.sample.ports (some present.firstObjList) := good.oldNamed
  obtain ⟨t, rc, removed, same, taken, idle, last⟩ := counted.flows.detach present.ingressSamplePacketId .ingress
    (granted.sub 0) oldNamed
  change SampledFlows t (s.flows.sub present.ingressSamplePacketId .ingress present.firstObjList) at taken
  have session := aclSampleSession_of_action found
  unfold aclSamplePortsSet
  rw [aclSampleAction_ingress, found]
  simp only [if_true, old, removed]
  cases on : action.enable with
  | false =>
    have ok : rc = .success := idle (good.off on)
    rw [SampleFlows.sub_unused (good.off on)] at taken
    subst ok
    simp only [Bool.false_eq_true, if_false]
    refine ⟨same, .inr ⟨rfl, ?_⟩⟩
    rw [on, if_neg Bool.false_ne_true]
    exact taken
  | true =>
    rw [on, if_pos rfl] at session
    have own := good.own on
    obtain ⟨isPorts, _⟩ := good.ports isList on
    have has : (∀ p, present.firstObjList.count p ≤ s.flows action.parameter.oid .ingress p) ∨
        (∀ p ∈ present.firstObjList, s.flows action.parameter.oid .ingress p = 0) ∧
          s.sample.sessions.sessionTree.get action.parameter.oid = none := by
      by_cases live : s.sample.sessions.sessionTree.get action.parameter.oid = none
      · exact .inr ⟨fun p _ => if_pos live, live⟩
      · rw [← isPorts]
        exact .inl (counted.demand_le stored session live)
    rw [own] at removed taken idle last
    have ok : rc = .success := by
      rcases has with has | ⟨unused, _⟩
      · refine last has fun p isLast => ?_
        have bound := good.last on p isLast
        rw [own] at bound
        exact Nat.le_antisymm bound (has p)
      · exact idle unused
    subst ok
    have checked : samplepacketValidateObject t action.parameter.oid .ingress (env.sub 1)
        (some scan.fieldValue.objList) true false =
        (t, samplepacketValidateObjectOnPortlist t action.parameter.oid .ingress scan.fieldValue.objList) := by
      rw [samplepacketValidateObject_validate (granted.sub 1), if_neg fun both => Option.some_ne_none _ both.1]
      rfl
    have free :
      samplepacketValidateObjectOnPortlist t action.parameter.oid .ingress scan.fieldValue.objList = .success ↔
        (s.flows.sub action.parameter.oid .ingress present.firstObjList).Free action.parameter.oid .ingress
          scan.fieldValue.objList := taken.validate_iff good.named
    simp only [if_true, checked, own, true_and]
    unfold SampledAcl.ListValidated
    rw [on, if_pos rfl]
    by_cases can : (s.flows.sub action.parameter.oid .ingress present.firstObjList).Free action.parameter.oid .ingress
        scan.fieldValue.objList
    · rw [if_neg (not_not_intro (free.mpr can))]
      exact ⟨same, .inr ⟨free.mpr can, taken, can⟩⟩
    · have failed : samplepacketValidateObjectOnPortlist t action.parameter.oid .ingress scan.fieldValue.objList ≠
          .success := fun ok => can (free.mp ok)
      have back := counted.flows.reattach (granted.sub 2) same taken oldNamed
        (has.imp_right fun both => ⟨both.1, .inl both.2⟩)
      rw [if_pos failed]
      exact ⟨same.trans back.1, .inl ⟨failed, back.2⟩⟩

theorem SampleCounted.sameSamples (counted : SampleCounted s) (stored : s.acl.ruleTree.get ruleId = some present)
    (rules : acl.ruleTree = s.acl.ruleTree.put ruleId next) (well : next.SamplesWell s.sample)
    (same : s.sample.SameSessions t) (flows : SampledFlows t s.flows)
    (samples : ∀ e, aclSampleSession next.actionList e = aclSampleSession present.actionList e ∧
      (aclSampleSession present.actionList e ≠ none →
        next.samplePorts s.sample e = present.samplePorts s.sample e)) : SampleCounted ⟨acl, t⟩ := by
  refine counted.set stored well rules same flows fun id e p _ => ?_
  obtain ⟨session, ports⟩ := samples e
  rw [session]
  split
  · rename_i isId
    rw [ports (by rw [isId]; exact Option.some_ne_none id)]
  · rfl

theorem AclRule.SamplesWell.fieldSet (well : present.SamplesWell s.sample)
    (actions : next.actionList = present.actionList) (ports : aclSampleAction present.actionList .ingress ≠ none →
      nullObjectId ∉ next.samplePorts s.sample .ingress) : next.SamplesWell s.sample := by
  constructor
  · rw [actions]
    exact well.unique
  · intro e some
    rw [actions] at some
    cases e with
    | egress => exact well.named .egress some
    | ingress =>
      refine ports fun none => some ?_
      unfold aclSampleNamed
      rw [none]
      rfl

theorem SampleCounted.portlistSet (counted : SampleCounted s) (stored : s.acl.ruleTree.get ruleId = some present)
    (granted : env.grants) (found : aclSampleAction present.actionList .ingress = some action)
    (good : s.SetsPortlist present setEnv action scan) (isList : aclPortlistAttr scan.field = true)
    (isEmpty : scan.fieldValue.objList = [] ↔ scan.enable = false)
    (rules : acl.ruleTree = s.acl.ruleTree.put ruleId next) (actions : next.actionList = present.actionList)
    (filters : next.filterList = aclFilterListSet setEnv.update scan present.filterList)
    (sameActions : rule.actionList = present.actionList) {rc : SaiStatus}
    (validated : s.ListValidated present action scan t rc) (ok : rc = .success) :
    SampleCounted ⟨acl, (aclSamplePortsSet rule false true env t 0 scan.fieldValue.objList).1⟩ := by
  obtain ⟨same, ⟨failed, _⟩ | ⟨_, taken⟩⟩ := validated
  · exact absurd ok failed
  have well := counted.rules ruleId present stored
  have session := aclSampleSession_of_action found
  have nextPorts : next.samplePorts s.sample .ingress = present.samplePorts s.sample .ingress ∧
      (∃ first, (present.filterList.find? fun filter => aclSamplePortAttr filter.field) = some first ∧
        first.field ≠ scan.field) ∨ next.samplePorts s.sample .ingress = scan.fieldValue.objList := by
    unfold AclRule.samplePorts SampleAcl.ports
    change (aclFirstPortlist next.filterList).getD _ = (aclFirstPortlist present.filterList).getD _ ∧ _ ∨
      (aclFirstPortlist next.filterList).getD _ = _
    rw [filters]
    have isPort : aclSamplePortAttr scan.field = true := by
      unfold aclSamplePortAttr
      rw [isList]
      rfl
    rcases aclFilterListSet_ports good.memory.2.2 fun _ => isEmpty with ⟨kept, other⟩ | ⟨_, set⟩
    · exact .inl ⟨by rw [kept], other isPort⟩
    refine .inr ?_
    rw [set]
    exact if_pos isList
  have nextWell : next.SamplesWell s.sample := by
    refine well.fieldSet actions fun some => ?_
    rcases nextPorts with ⟨kept, _⟩ | set
    · rw [kept]
      refine well.named .ingress ?_
      unfold aclSampleNamed
      rw [found]
      exact Option.some_ne_none _
    · rw [set]
      exact good.named
  unfold aclSamplePortsSet
  rw [sameActions, aclSampleAction_ingress, found]
  cases on : action.enable with
  | false =>
    rw [on, if_neg Bool.false_ne_true] at session
    simp only [on, Bool.false_eq_true, if_false] at taken ⊢
    refine counted.sameSamples stored rules nextWell same taken fun e => ?_
    rw [actions]
    refine ⟨rfl, fun some => ?_⟩
    cases e with
    | egress => rfl
    | ingress => exact absurd session some
  | true =>
    rw [on, if_pos rfl] at session
    simp only [on, if_true] at taken
    obtain ⟨flows, free⟩ := taken
    obtain ⟨isPorts, head, isFirst, isSame⟩ := good.ports isList on
    have isNext : next.samplePorts s.sample .ingress = scan.fieldValue.objList := by
      rcases nextPorts with ⟨_, first, isIt, other⟩ | set
      · rw [isFirst] at isIt
        cases isIt
        exact absurd isSame other
      · exact set
    have newNamed : nullObjectId ∉ t.ports (some scan.fieldValue.objList) := good.named
    obtain ⟨u, rc', applied, sameU, counts⟩ :=
      flows.apply action.parameter.oid .ingress (granted.sub 1) newNamed free
    simp only [on, Bool.false_eq_true, if_false, if_true, false_and, applied]
    refine counted.set stored nextWell rules (same.trans sameU) counts fun id e p live => ?_
    have liveT : t.sessions.sessionTree.get id ≠ none := fun dead => live ((same.2 id).mp dead)
    rw [actions]
    cases e with
    | egress =>
      have kept : (if t.sessions.sessionTree.get action.parameter.oid = none then
          s.flows.sub action.parameter.oid .ingress present.firstObjList
          else (s.flows.sub action.parameter.oid .ingress present.firstObjList).add action.parameter.oid .ingress
            (t.ports (some scan.fieldValue.objList))) id .egress p = s.flows id .egress p := by
        have notTaken : s.flows.sub action.parameter.oid .ingress present.firstObjList id .egress p =
            s.flows id .egress p := by
          unfold SampleFlows.sub
          rw [if_neg fun both => (by cases both.2)]
          rfl
        split
        · exact notTaken
        unfold SampleFlows.add
        rw [if_neg fun both => (by cases both.2)]
        exact notTaken
      rw [kept]
      rfl
    | ingress =>
      rw [session, isNext, isPorts]
      by_cases isIt : action.parameter.oid = id
      · subst isIt
        have has := counted.demand_le stored session live p
        rw [isPorts] at has
        rw [if_neg liveT, if_pos rfl, if_pos rfl]
        unfold SampleFlows.add SampleFlows.sub
        rw [if_pos ⟨rfl, rfl⟩, if_pos ⟨rfl, rfl⟩, show t.ports (some scan.fieldValue.objList) =
          scan.fieldValue.objList from rfl]
        omega
      · have apart : ¬ (id = action.parameter.oid ∧ SampleDirection.ingress = .ingress) := fun both =>
          isIt both.1.symm
        have otherId : some action.parameter.oid ≠ some id := fun same => isIt (Option.some.inj same)
        rw [if_neg otherId, if_neg otherId]
        split
        · unfold SampleFlows.sub
          rw [if_neg apart]
          rfl
        · unfold SampleFlows.add SampleFlows.sub
          rw [if_neg apart, if_neg apart]
          rfl

end Portlist
end SaiCommon
