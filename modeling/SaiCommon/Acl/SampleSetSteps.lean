import SaiCommon.Acl.SampleSets

namespace SaiCommon

theorem SampleFlows.sub_covered {n : SampleFlows} {id : ObjectId} {direction : SampleDirection}
    {one two : List ObjectId} (less : ∀ p, n id direction p ≤ one.count p)
    (more : ∀ p, one.count p ≤ two.count p) :
    n.sub id direction two = n.sub id direction one := by
  funext id' direction' p
  unfold sub
  split
  · rename_i here
    rw [here.1, here.2]
    have bound := less p
    have covers := more p
    omega
  · rfl

theorem aclFirstList_prefix {filters : List AclFilter} {list : List ObjectId}
    (first : aclFirstList filters = some list) : ∃ rest, aclAllLists filters = list ++ rest := by
  induction filters with
  | nil => cases first
  | cons filter rest ih =>
    unfold aclAllLists
    cases isList : aclPortlistAttr filter.field with
    | true =>
      rw [aclFirstList_cons_list isList] at first
      cases first
      rw [List.filter_cons, if_pos isList, List.flatMap_cons]
      exact ⟨_, rfl⟩
    | false =>
      rw [aclFirstList_cons_other isList] at first
      rw [List.filter_cons, isList, if_neg Bool.false_ne_true]
      exact ih first

/-- A set of the sampling action of a direction after which the sessions count
what the rules sample. The code goes by the session recorded in the rule, which has to
be the one its action samples to, or be applied nowhere on its ports; for the ingress
direction by the first list of ports, which has to be what the first filter on ports
gives. A session is disabled on all ports by the status of the last one, and what is
taken back from all ports is not applied again. -/
structure SampledAcl.SetsAction (s : SampledAcl) (present : AclRule) (env : AclRuleSetEnv)
    (direction : SampleDirection) (scan : AclAction) : Prop where
  memory : env.copy = .success ∧ env.npu = .success ∧ env.update.alloc = true
  named : nullObjectId ∉ present.samplePorts s.sample direction
  lists : direction = .ingress → aclFirstPortlist present.filterList = aclFirstList present.filterList
  recorded : ∀ id, aclSampleSession present.actionList direction = some id → present.samplepacketId direction = id
  unrecorded : aclSampleSession present.actionList direction = none →
    ∀ p ∈ present.samplePorts s.sample direction,
    s.flows (present.samplepacketId direction) direction p = 0
  offList : scan.enable = false → present.samplePortlist direction ≠ none →
    nullObjectId ∉ aclAllLists present.filterList ∧
    ∀ p, s.flows (present.samplepacketId direction) direction p ≤
      present.sampleDemand s.sample (present.samplepacketId direction) direction p
  offAll : scan.enable = false → present.samplePortlist direction = none →
    ∀ p, s.sample.portList.getLast? = some p →
    s.flows (present.samplepacketId direction) direction p ≤
      present.sampleDemand s.sample (present.samplepacketId direction) direction p
  onAll : scan.enable = true → present.samplePortlist direction = none →
    aclSampleSession present.actionList direction = none ∨
    ∀ p ∈ s.sample.portList, ∀ id, id ≠ scan.parameter.oid →
      s.flows id direction p ≤ present.sampleDemand s.sample id direction p

section Action
variable {s : SampledAcl} {ruleId : ObjectId} {present next rule : AclRule} {env : SampleEnv} {setEnv : AclRuleSetEnv}
  {direction : SampleDirection} {scan : AclAction} {t : SampleAcl} {m : SampleFlows}

theorem SampleCounted.set (counted : SampleCounted s) (stored : s.acl.ruleTree.get ruleId = some present)
    (well : next.SamplesWell s.sample) {acl : AclState} (rules : acl.ruleTree = s.acl.ruleTree.put ruleId next)
    (same : s.sample.SameSessions t) (flows : SampledFlows t m)
    (moved : ∀ id direction p, s.sample.sessions.sessionTree.get id ≠ none →
      m id direction p + (if aclSampleSession present.actionList direction = some id then
          (present.samplePorts s.sample direction).count p else 0) =
        s.flows id direction p + if aclSampleSession next.actionList direction = some id then
          (next.samplePorts s.sample direction).count p else 0) : SampleCounted ⟨acl, t⟩ := by
  have isFlows : SampledAcl.flows ⟨acl, t⟩ = m := by
    funext id direction p
    by_cases live : s.sample.sessions.sessionTree.get id = none
    · have dead := (same.2 id).mpr live
      rw [flows.absent id dead direction p]
      unfold SampledAcl.flows
      rw [if_pos dead]
    · have here :=
        SampledAcl.flows_set (counted.rules ruleId present stored) well same stored rules id direction p live
      have there := moved id direction p live
      omega
  refine ⟨?_, fun other rule found => ?_, ?_⟩
  · rw [isFlows]
    exact flows
  · dsimp only at found
    rw [rules, KeyTree.get_put] at found
    split at found
    · cases found
      exact well.same same
    · exact (counted.rules other rule found).same same
  · dsimp only
    rw [same.1]
    exact counted.ports

theorem SampleCounted.own (counted : SampleCounted s) (stored : s.acl.ruleTree.get ruleId = some present)
    (good : s.SetsAction present setEnv direction scan) : (∀ p, (present.samplePorts s.sample direction).count p ≤
        s.flows (present.samplepacketId direction) direction p) ∧
        aclSampleSession present.actionList direction = some (present.samplepacketId direction) ∨
      ∀ p ∈ present.samplePorts s.sample direction, s.flows (present.samplepacketId direction) direction p = 0 := by
  cases isId : aclSampleSession present.actionList direction with
  | none => exact .inr (good.unrecorded isId)
  | some id =>
    have recorded := good.recorded id isId
    by_cases live : s.sample.sessions.sessionTree.get id = none
    · rw [recorded]
      exact .inr fun p _ => if_pos live
    · rw [recorded]
      exact .inl ⟨counted.demand_le stored isId live, rfl⟩

theorem SampleCounted.demand (counted : SampleCounted s) (stored : s.acl.ruleTree.get ruleId = some present)
    (id : ObjectId) (direction : SampleDirection) (p : ObjectId) :
    present.sampleDemand s.sample id direction p = if aclSampleSession present.actionList direction = some id
      then (present.samplePorts s.sample direction).count p else 0 :=
  (counted.rules ruleId present stored).demand s.sample id direction p

theorem SampledAcl.SetsAction.noList (good : s.SetsAction present setEnv direction scan)
    (all : present.samplePortlist direction = none) (isIngress : direction = .ingress) :
    aclFirstList present.filterList = none := by
  rw [← good.lists isIngress]
  rw [isIngress] at all
  exact all

theorem SampledAcl.SetsAction.list (good : s.SetsAction present setEnv direction scan) {list : List ObjectId}
    (listed : present.samplePortlist direction = some list) :
    direction = .ingress ∧ aclFirstList present.filterList = some list := by
  cases direction with
  | egress => cases listed
  | ingress => exact ⟨rfl, (good.lists rfl).symm.trans listed⟩

/-- What the first phase of a set of a sampling action leaves: a refusal leaves
the counts, otherwise the recorded session is taken back, and an enabled one can
be applied. -/
def SampledAcl.Validated (s : SampledAcl) (present : AclRule) (direction : SampleDirection) (scan : AclAction)
    (t : SampleAcl) (rc : SaiStatus) : Prop :=
  s.sample.SameSessions t ∧ ((rc ≠ .success ∧ SampledFlows t s.flows) ∨
    (rc = .success ∧
      SampledFlows t (s.flows.sub (present.samplepacketId direction) direction
        (present.samplePorts s.sample direction)) ∧
      (scan.enable = true → (s.flows.sub (present.samplepacketId direction) direction
        (present.samplePorts s.sample direction)).Free scan.parameter.oid direction
          (present.samplePorts s.sample direction))))

section
variable (counted : SampleCounted s)
include counted

theorem SampleCounted.validateList (stored : s.acl.ruleTree.get ruleId = some present)
    (granted : env.grants) (good : s.SetsAction present setEnv direction scan) {list : List ObjectId}
    (listed : present.samplePortlist direction = some list) :
    s.Validated present direction scan (aclSampleListSet present true false env scan s.sample list).1
      (aclSampleListSet present true false env scan s.sample list).2 := by
  obtain ⟨isIngress, _⟩ := good.list listed
  subst isIngress
  have ports : present.samplePorts s.sample .ingress = list := by
    unfold AclRule.samplePorts SampleAcl.ports
    rw [listed]
    rfl
  have own := counted.own stored good
  have named := good.named
  unfold SampledAcl.Validated
  rw [ports] at own named ⊢
  have listNamed : nullObjectId ∉ s.sample.ports (some list) := named
  obtain ⟨t, rc, removed, same, taken, _⟩ := counted.flows.detach present.ingressSamplePacketId .ingress
    (granted.sub 0) listNamed
  have checked : samplepacketValidateObject t scan.parameter.oid .ingress (env.sub 1) (some list) true false =
      (t, samplepacketValidateObjectOnPortlist t scan.parameter.oid .ingress list) := by
    rw [samplepacketValidateObject_validate (granted.sub 1), if_neg fun both => Option.some_ne_none list both.1]
    rfl
  unfold aclSampleListSet
  rw [if_pos rfl, removed]
  dsimp only
  rw [checked]
  dsimp only
  have free : samplepacketValidateObjectOnPortlist t scan.parameter.oid .ingress list = .success ↔
      (s.flows.sub present.ingressSamplePacketId .ingress list).Free scan.parameter.oid .ingress list :=
    taken.validate_iff named
  by_cases can : (s.flows.sub present.ingressSamplePacketId .ingress list).Free scan.parameter.oid .ingress list
  · have ok : samplepacketValidateObjectOnPortlist t scan.parameter.oid .ingress list = .success := free.mpr can
    rw [ok, if_neg fun both => both.2 rfl]
    exact ⟨same, .inr ⟨rfl, taken, fun _ => can⟩⟩
  have failed : samplepacketValidateObjectOnPortlist t scan.parameter.oid .ingress list ≠ .success :=
    fun ok => can (free.mp ok)
  rw [if_pos ⟨rfl, failed⟩]
  have back := counted.flows.reattach (granted.sub 2) same taken listNamed (by
    rcases own with ⟨has, _⟩ | unused
    · exact .inl has
    refine .inr ⟨unused, .inr ?_⟩
    change ∀ p ∈ list, s.flows present.ingressSamplePacketId .ingress p = 0 at unused
    rw [SampleFlows.sub_unused unused] at can
    unfold SampleFlows.Free at can
    push Not at can
    obtain ⟨p, member, other, used, _⟩ := can
    exact ⟨p, member, other, used⟩)
  exact ⟨same.trans back.1, .inl ⟨failed, back.2⟩⟩

theorem SampleCounted.validateAll (stored : s.acl.ruleTree.get ruleId = some present)
    (granted : env.grants) (good : s.SetsAction present setEnv direction scan) (on : scan.enable = true)
    (all : present.samplePortlist direction = none) :
    ∃ t rc, samplepacketRemoveObject s.sample (present.samplepacketId direction) direction (env.sub 1) none =
      (t, rc) ∧
      s.Validated present direction scan
        (samplepacketValidateObject t scan.parameter.oid direction (env.sub 2) none true false).1
        (samplepacketValidateObject t scan.parameter.oid direction (env.sub 2) none true false).2 := by
  have ports : present.samplePorts s.sample direction = s.sample.portList := by
    unfold AclRule.samplePorts SampleAcl.ports
    rw [all]
    rfl
  have own := counted.own stored good
  have named := good.named
  unfold SampledAcl.Validated
  rw [ports] at own named ⊢
  have allNamed : nullObjectId ∉ s.sample.ports none := named
  obtain ⟨t, rc, removed, same, taken, _⟩ := counted.flows.detach (present.samplepacketId direction) direction
    (granted.sub 1) allNamed
  refine ⟨t, rc, removed, ?_⟩
  rw [samplepacketValidateObject_validate (granted.sub 2)]
  change SampledFlows t (s.flows.sub (present.samplepacketId direction) direction s.sample.portList) at taken
  refine ⟨same, ?_⟩
  have portsT : t.ports none = s.sample.portList := same.1
  by_cases some : s.sample.portList = []
  · refine .inl ⟨?_, ?_⟩
    · rw [if_pos ⟨rfl, same.1.trans some⟩]
      exact fun isOk => by cases isOk
    · rw [some, SampleFlows.sub_nil] at taken
      exact taken
  rw [if_neg fun both => some (same.1.symm.trans both.2), portsT]
  have free : samplepacketValidateObjectOnPortlist t scan.parameter.oid direction s.sample.portList = .success ↔
      (s.flows.sub (present.samplepacketId direction) direction s.sample.portList).Free scan.parameter.oid direction
        s.sample.portList := taken.validate_iff named
  by_cases can : (s.flows.sub (present.samplepacketId direction) direction s.sample.portList).Free scan.parameter.oid
      direction s.sample.portList
  · exact .inr ⟨free.mpr can, taken, fun _ => can⟩
  · refine .inl ⟨fun ok => can (free.mp ok), ?_⟩
    have unused : ∀ p ∈ s.sample.portList, s.flows (present.samplepacketId direction) direction p = 0 := by
      rcases own with ⟨_, isId⟩ | unused
      · rcases good.onAll on all with none | alone
        · rw [none] at isId
          cases isId
        refine absurd (fun p member id used => ?_) can
        by_contra other
        have bound := alone p member id other
        rw [counted.demand stored, ports] at bound
        unfold SampleFlows.sub at used
        by_cases isOwn : id = present.samplepacketId direction
        · rw [isOwn] at bound used
          rw [if_pos isId] at bound
          rw [if_pos ⟨rfl, rfl⟩] at used
          omega
        · rw [if_neg fun same => isOwn (Option.some.inj (same.symm.trans isId))] at bound
          omega
      · exact unused
    rw [SampleFlows.sub_unused unused] at taken
    exact taken

theorem SampleCounted.validateOff (stored : s.acl.ruleTree.get ruleId = some present)
    (granted : env.grants) (good : s.SetsAction present setEnv direction scan) (off : scan.enable = false)
    {before : SampleAcl} {lists : List ObjectId} (same : s.sample.SameSessions before)
    (taken : SampledFlows before (s.flows.sub (present.samplepacketId direction) direction lists))
    (isLists : lists = if present.samplePortlist direction = none then [] else aclAllLists present.filterList) :
    s.Validated present direction scan
      (samplepacketRemoveObject before (present.samplepacketId direction) direction env none).1
      (samplepacketRemoveObject before (present.samplepacketId direction) direction env none).2 := by
  have named : nullObjectId ∉ before.ports none := by
    rw [same.ports]
    exact counted.ports
  have portsB : before.ports none = s.sample.portList := same.1
  obtain ⟨t, rc, removed, sameT, all, idle, last⟩ :=
    taken.detach (present.samplepacketId direction) direction granted
    named
  rw [removed]
  rw [portsB] at all idle last
  refine ⟨same.trans sameT, .inr ?_⟩
  have noFree : ∀ n : SampleFlows, scan.enable = true → n.Free scan.parameter.oid direction
      (present.samplePorts s.sample direction) := fun n on => by
    rw [off] at on
    cases on
  cases listed : present.samplePortlist direction with
  | none =>
    rw [if_pos listed] at isLists
    have ports : present.samplePorts s.sample direction = s.sample.portList := by
      unfold AclRule.samplePorts SampleAcl.ports
      rw [listed]
      rfl
    have own := counted.own stored good
    rw [isLists, SampleFlows.sub_nil] at all idle last
    rw [ports] at own noFree ⊢
    refine ⟨?_, all, noFree _⟩
    rcases own with ⟨has, isId⟩ | unused
    · refine last has fun p isLast => ?_
      have bound := good.offAll off listed p isLast
      rw [counted.demand stored, if_pos isId, ports] at bound
      exact Nat.le_antisymm bound (has p)
    · exact idle unused
  | some list =>
    rw [if_neg (by rw [listed]; exact Option.some_ne_none list)] at isLists
    obtain ⟨isIngress, first⟩ := good.list listed
    obtain ⟨rest, isAll⟩ := aclFirstList_prefix first
    have ports : present.samplePorts s.sample direction = list := by
      unfold AclRule.samplePorts SampleAcl.ports
      rw [listed]
      rfl
    obtain ⟨_, alone⟩ := good.offList off (by rw [listed]; exact Option.some_ne_none list)
    have less : ∀ p, s.flows (present.samplepacketId direction) direction p ≤ list.count p := by
      intro p
      have bound := alone p
      rw [counted.demand stored, ports] at bound
      split at bound
      · exact bound
      · omega
    rw [isLists, isAll] at all idle
    rw [ports] at noFree ⊢
    refine ⟨idle fun p _ => ?_, ?_, noFree _⟩
    · rw [SampleFlows.sub_here, List.count_append]
      have bound := less p
      omega
    · rw [← SampleFlows.sub_append, SampleFlows.sub_covered less fun p => ?_] at all
      · exact all
      · rw [List.count_append, List.count_append]
        omega

theorem SampleCounted.validateAction (stored : s.acl.ruleTree.get ruleId = some present)
    (granted : env.grants) (good : s.SetsAction present setEnv direction scan) :
    s.Validated present direction scan (aclSampleActionSet present true false env s.sample direction scan).1
      (aclSampleActionSet present true false env s.sample direction scan).2 := by
  unfold aclSampleActionSet
  cases on : scan.enable with
  | true =>
    cases listed : present.samplePortlist direction with
    | some list =>
      obtain ⟨isIngress, first⟩ := good.list listed
      obtain ⟨turn, walked⟩ := aclSampleFilterLoop_on present true false s.sample (env.sub 0) on first 0
        .success
      rw [if_pos isIngress, walked]
      exact counted.validateList stored ((granted.sub 0).sub turn) good listed
    | none =>
      have skipped : (if direction = .ingress then
          aclSampleFilterLoop present true false (env.sub 0) scan s.sample 0 .success present.filterList
          else (s.sample, .success, false)) = (s.sample, .success, false) := by
        split
        · rename_i isIngress
          exact aclSampleFilterLoop_none (good.noList listed isIngress) 0 .success
        · rfl
      rw [skipped]
      obtain ⟨t, rc, removed, validated⟩ := counted.validateAll stored granted good on listed
      simp only [if_true, removed]
      exact validated
  | false =>
    have looped : ∃ t rc, (if direction = .ingress then
        aclSampleFilterLoop present true false (env.sub 0) scan s.sample 0 .success present.filterList
        else (s.sample, .success, false)) = (t, rc, false) ∧ s.sample.SameSessions t ∧
          SampledFlows t (s.flows.sub (present.samplepacketId direction) direction
            (if present.samplePortlist direction = none then [] else aclAllLists present.filterList)) := by
      cases listed : present.samplePortlist direction with
      | none =>
        refine ⟨s.sample, .success, ?_, .refl _, ?_⟩
        · split
          · rename_i isIngress
            exact aclSampleFilterLoop_none (good.noList listed isIngress) 0 .success
          · rfl
        · rw [if_pos rfl, SampleFlows.sub_nil]
          exact counted.flows
      | some list =>
        obtain ⟨isIngress, _⟩ := good.list listed
        obtain ⟨named, _⟩ := good.offList on (by rw [listed]; exact Option.some_ne_none list)
        subst isIngress
        obtain ⟨t, rc, walked, same, all⟩ := counted.flows.filterLoop_off present false (granted.sub 0) on named 0
          .success
        refine ⟨t, rc, ?_, same, ?_⟩
        · rw [if_pos rfl]
          exact walked
        · rw [if_neg (Option.some_ne_none list)]
          exact all
    obtain ⟨t, rc, walked, same, taken⟩ := looped
    rw [walked]
    simp only [if_true, Bool.false_eq_true, if_false]
    exact counted.validateOff stored (granted.sub 1) good on same taken rfl

end

theorem SampledFlows.updateAction (flows : SampledFlows t m) (granted : env.grants)
    (good : s.SetsAction present setEnv direction scan) (same : s.sample.SameSessions t)
    (filters : rule.filterList = present.filterList)
    (free : scan.enable = true → m.Free scan.parameter.oid direction (present.samplePorts s.sample direction)) :
    ∃ u rc, aclSampleActionSet rule false true env t direction scan = (u, rc) ∧ t.SameSessions u ∧
      SampledFlows u (if scan.enable = false ∨ t.sessions.sessionTree.get scan.parameter.oid = none then m
        else m.add scan.parameter.oid direction (present.samplePorts s.sample direction)) := by
  unfold aclSampleActionSet
  cases on : scan.enable with
  | false =>
    refine ⟨t, .success, ?_, .refl t, ?_⟩
    · rw [aclSampleFilterLoop_idle on]
      simp only [ite_self, Bool.false_eq_true, if_false]
    · rw [if_pos (.inl rfl)]
      exact flows
  | true =>
    have ports : t.ports (present.samplePortlist direction) = present.samplePorts s.sample direction := same.ports _
    have named : nullObjectId ∉ t.ports (present.samplePortlist direction) := by
      rw [ports]
      exact good.named
    have alone : (true = false ∨ t.sessions.sessionTree.get scan.parameter.oid = none) ↔
        t.sessions.sessionTree.get scan.parameter.oid = none := or_iff_right Bool.true_eq_false.mp
    simp only [alone]
    cases listed : present.samplePortlist direction with
    | some list =>
      obtain ⟨isIngress, first⟩ := good.list listed
      rw [← filters] at first
      obtain ⟨turn, walked⟩ := aclSampleFilterLoop_on rule false true t (env.sub 0) on first 0 .success
      rw [listed] at named ports
      obtain ⟨u, rc, applied, sameU, counted⟩ := flows.apply scan.parameter.oid direction
        (((granted.sub 0).sub turn).sub 1) named (by rw [ports]; exact free on)
      refine ⟨u, rc, ?_, sameU, ?_⟩
      · rw [isIngress] at applied
        rw [if_pos isIngress, walked]
        unfold aclSampleListSet
        simp only [Bool.false_eq_true, if_false, false_and, applied]
      · rw [ports] at counted
        exact counted
    | none =>
      have skipped : (if direction = .ingress then
          aclSampleFilterLoop rule false true (env.sub 0) scan t 0 .success rule.filterList
          else (t, .success, false)) = (t, .success, false) := by
        split
        · rename_i isIngress
          exact aclSampleFilterLoop_none (by rw [filters]; exact good.noList listed isIngress) 0 .success
        · rfl
      rw [listed] at named ports
      obtain ⟨u, rc, applied, sameU, counted⟩ := flows.apply scan.parameter.oid direction
        (granted.sub 2) named (by rw [ports]; exact free on)
      refine ⟨u, rc, ?_, sameU, ?_⟩
      · rw [skipped]
        simp only [Bool.false_eq_true, if_false, if_true, applied]
      · rw [ports] at counted
        exact counted

/-- After both phases of a set of a sampling action the counts are those of the
rule with the action set. -/
theorem SampleCounted.actionSet (counted : SampleCounted s) (stored : s.acl.ruleTree.get ruleId = some present)
    (granted : env.grants) (good : s.SetsAction present setEnv direction scan)
    (isOne : aclSampleDirection scan.action = some direction) {acl : AclState}
    (rules : acl.ruleTree = s.acl.ruleTree.put ruleId next) (filters : next.filterList = present.filterList)
    (actions : next.actionList = aclActionListSet setEnv.update scan present.actionList)
    (sameFilters : rule.filterList = present.filterList) (same : s.sample.SameSessions t)
    (taken : SampledFlows t (s.flows.sub (present.samplepacketId direction) direction
      (present.samplePorts s.sample direction)))
    (free : scan.enable = true → (s.flows.sub (present.samplepacketId direction) direction
      (present.samplePorts s.sample direction)).Free scan.parameter.oid direction
        (present.samplePorts s.sample direction)) :
    SampleCounted ⟨acl, (aclSampleActionSet rule false true env t direction scan).1⟩ := by
  have well := counted.rules ruleId present stored
  obtain ⟨u, rc, updated, sameU, flows⟩ := taken.updateAction granted good same sameFilters free
  rw [updated]
  have portlist : ∀ e, next.samplePortlist e = present.samplePortlist e := by
    intro e
    cases e with
    | egress => rfl
    | ingress => exact congrArg aclFirstPortlist filters
  have ports : ∀ e, next.samplePorts s.sample e = present.samplePorts s.sample e := fun e => by
    unfold AclRule.samplePorts
    rw [portlist]
  have plain : aclObjectListActionAttr scan.action = false := by
    cases kind : scan.action <;> rw [kind] at isOne <;> cases isOne <;> rfl
  have here : aclSampleAction next.actionList direction = some scan := by
    rw [actions]
    exact aclActionListSet_plain (q := fun id => aclSampleDirection id == some direction) good.memory.2.2 plain
      (beq_iff_eq.mpr isOne) (fun id isId => aclSampleDirection_inj (beq_iff_eq.mp isId) isOne) _
  have there : ∀ e, e ≠ direction → aclSampleAction next.actionList e = aclSampleAction present.actionList e := by
    intro e other
    have apart : ∀ id, aclSampleDirection id = some e → id ≠ scan.action := by
      intro id isId sameId
      rw [sameId, isOne] at isId
      exact other (Option.some.inj isId).symm
    rw [actions]
    refine aclActionListSet_find (q := fun id => aclSampleDirection id == some e) (fun action found => ?_) fun _ => ?_
    · exact apart action.action (aclSampleAction_some found).2
    · refine beq_eq_false_iff_ne.mpr fun isId => ?_
      exact apart scan.action isId rfl
  refine counted.set stored ⟨?_, fun e some => ?_⟩ rules (same.trans sameU) flows fun id e p live => ?_
  · rw [actions]
    exact aclActionListSet_nodup well.unique
  · rw [portlist]
    by_cases isHere : e = direction
    · rw [isHere]
      exact good.named
    refine well.named e ?_
    unfold aclSampleNamed at some ⊢
    rw [← there e isHere]
    exact some
  · rw [ports]
    by_cases isHere : e = direction
    · subst isHere
      have session : aclSampleSession next.actionList e = if scan.enable then some scan.parameter.oid else none := by
        unfold aclSampleSession
        rw [here]
      -- what is taken back is what the rule sampled
      have took : s.flows.sub (present.samplepacketId e) e (present.samplePorts s.sample e) id e p +
          (if aclSampleSession present.actionList e = some id then (present.samplePorts s.sample e).count p else 0) =
          s.flows id e p := by
        rcases counted.own stored good with ⟨has, isId⟩ | unused
        · rw [isId]
          unfold SampleFlows.sub
          by_cases isOwn : id = present.samplepacketId e
          · have bound := has p
            rw [isOwn, if_pos ⟨rfl, rfl⟩, if_pos rfl]
            omega
          · rw [if_neg fun both => isOwn both.1, if_neg fun isSome => isOwn (Option.some.inj isSome).symm]
            rfl
        · rw [SampleFlows.sub_unused unused]
          split
          · rename_i isId
            have recorded := good.recorded id isId
            rw [recorded] at unused
            have own := counted.demand_le stored isId live p
            by_cases member : p ∈ present.samplePorts s.sample e
            · have zero := unused p member
              omega
            · rw [List.count_eq_zero_of_not_mem member]
              rfl
          · rfl
      have liveT : t.sessions.sessionTree.get id ≠ none := fun dead => live ((same.2 id).mp dead)
      rw [session]
      cases on : scan.enable with
      | false =>
        rw [if_pos (.inl rfl), if_neg Bool.false_ne_true, if_neg (Option.some_ne_none id).symm]
        exact took
      | true =>
        simp only [Bool.true_eq_false, false_or, if_true, Option.some.injEq]
        by_cases isIt : scan.parameter.oid = id
        · rw [isIt, if_neg liveT, if_pos rfl]
          unfold SampleFlows.add
          rw [if_pos ⟨rfl, rfl⟩]
          omega
        · rw [if_neg isIt]
          split
          · exact took
          unfold SampleFlows.add
          rw [if_neg fun both => isIt both.1.symm]
          exact took
    · have session : aclSampleSession next.actionList e = aclSampleSession present.actionList e := by
        unfold aclSampleSession
        rw [there e isHere]
      rw [session]
      congr 1
      have notTaken : s.flows.sub (present.samplepacketId direction) direction (present.samplePorts s.sample direction)
          id e p = s.flows id e p := by
        unfold SampleFlows.sub
        rw [if_neg fun both => isHere both.2]
        rfl
      split
      · exact notTaken
      unfold SampleFlows.add
      rw [if_neg fun both => isHere both.2]
      exact notTaken

end Action
end SaiCommon
