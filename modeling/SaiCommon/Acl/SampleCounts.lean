import SaiCommon.Acl.SampleCalls
import SaiCommon.Acl.SampleLoops

namespace SaiCommon

/-- The enabled sampling actions of a rule to a session in a direction. -/
def AclRule.samplesTo (rule : AclRule) (id : ObjectId) (direction : SampleDirection) : Nat :=
  rule.actionList.countP fun action =>
    aclSampleDirection action.action == some direction && action.enable && action.parameter.oid == id

/-- How often a rule samples to a session on a port: its sampling actions to it,
times the places of the port in the rule's list, all ports being listed when
there is none. -/
def AclRule.sampleDemand (rule : AclRule) (sample : SampleAcl) (id : ObjectId) (direction : SampleDirection)
    (p : ObjectId) : Nat :=
  rule.samplesTo id direction * (sample.ports (rule.samplePortlist direction)).count p

def SampledAcl.flows (s : SampledAcl) : SampleFlows := fun id direction p =>
  if s.sample.sessions.sessionTree.get id = none then 0
  else s.acl.ruleTree.weigh fun _ rule => rule.sampleDemand s.sample id direction p

/-- A rule has one action of each id, and one that samples lists only ports. -/
structure AclRule.SamplesWell (rule : AclRule) (sample : SampleAcl) : Prop where
  unique : (rule.actionList.map AclAction.action).Nodup
  named : ∀ direction, aclSampleNamed rule.actionList direction ≠ none →
    nullObjectId ∉ sample.ports (rule.samplePortlist direction)

structure SampleCounted (s : SampledAcl) : Prop where
  flows : SampledFlows s.sample s.flows
  rules : ∀ ruleId rule, s.acl.ruleTree.get ruleId = some rule → rule.SamplesWell s.sample
  ports : nullObjectId ∉ s.sample.portList

section Demand
variable {rule next : AclRule} {sample t : SampleAcl} {id : ObjectId} {direction : SampleDirection} {p : ObjectId}

theorem aclSampleSession_countP {actions : List AclAction} (unique : (actions.map AclAction.action).Nodup)
    (id : ObjectId) (direction : SampleDirection) :
    (actions.countP fun action =>
      aclSampleDirection action.action == some direction && action.enable && action.parameter.oid == id) =
      if aclSampleSession actions direction = some id then 1 else 0 := by
  induction actions with
  | nil => rfl
  | cons action rest ih =>
    have tail : (rest.map AclAction.action).Nodup := (List.nodup_cons.mp unique).2
    rw [List.countP_cons, ih tail]
    by_cases isOne : aclSampleDirection action.action = some direction
    · rw [aclSampleSession_cons_self isOne, aclSampleSession_tail unique isOne, isOne]
      cases action.enable with
      | false => simp only [Bool.and_false, Bool.false_and, Bool.false_eq_true, if_false, reduceCtorEq]
      | true =>
        simp only [beq_self_eq_true, Bool.true_and, if_true, reduceCtorEq, if_false, Nat.zero_add, beq_iff_eq,
          Option.some.injEq]
    · rw [aclSampleSession_cons_ne isOne, beq_eq_false_iff_ne.mpr isOne]
      rfl

theorem AclRule.SamplesWell.demand (well : rule.SamplesWell sample) (t : SampleAcl) (id : ObjectId)
    (direction : SampleDirection) (p : ObjectId) :
    rule.sampleDemand t id direction p = if aclSampleSession rule.actionList direction = some id
      then (t.ports (rule.samplePortlist direction)).count p else 0 := by
  unfold AclRule.sampleDemand AclRule.samplesTo
  rw [aclSampleSession_countP well.unique]
  split
  · exact Nat.one_mul _
  · exact Nat.zero_mul _

theorem AclRule.sampleDemand_same (same : sample.SameSessions t) (rule : AclRule) :
    rule.sampleDemand t = rule.sampleDemand sample := by
  funext id direction p
  unfold AclRule.sampleDemand
  rw [same.ports]

theorem AclRule.SamplesWell.same (well : rule.SamplesWell sample) (same : sample.SameSessions t) :
    rule.SamplesWell t := by
  refine ⟨well.unique, fun direction some => ?_⟩
  rw [same.ports]
  exact well.named direction some

theorem aclSampleNamed_of_session {actions : List AclAction} (sampled : aclSampleSession actions direction ≠ none) :
    aclSampleNamed actions direction ≠ none := by
  unfold aclSampleSession at sampled
  unfold aclSampleNamed
  split at sampled
  · rename_i action found
    rw [found]
    exact Option.some_ne_none _
  · exact absurd rfl sampled

end Demand

section Flows
variable {s : SampledAcl} {acl : AclState} {sample : SampleAcl} {rule next : AclRule} {ruleId : ObjectId}

def AclRule.samplePorts (rule : AclRule) (sample : SampleAcl) (direction : SampleDirection) : List ObjectId :=
  sample.ports (rule.samplePortlist direction)

theorem SampledAcl.flows_same (same : s.sample.SameSessions sample) (rules : acl.ruleTree = s.acl.ruleTree) :
    SampledAcl.flows ⟨acl, sample⟩ = s.flows := by
  funext id direction p
  unfold SampledAcl.flows
  dsimp only
  rw [rules]
  simp only [same.2 id, AclRule.sampleDemand_same same]

section
variable (well : rule.SamplesWell s.sample)
include well

theorem SampledAcl.flows_put (same : s.sample.SameSessions sample)
    (fresh : s.acl.ruleTree.get ruleId = none) (rules : acl.ruleTree = s.acl.ruleTree.put ruleId rule)
    (attached : ∀ direction id, aclSampleSession rule.actionList direction = some id →
      s.sample.Attachable id direction (rule.samplePortlist direction)) :
    SampledAcl.flows ⟨acl, sample⟩ = s.flows.gain (aclSampleSession rule.actionList)
    (rule.samplePorts s.sample) := by
  funext id direction p
  unfold SampledAcl.flows SampleFlows.gain
  dsimp only
  rw [rules]
  simp only [same.2 id, AclRule.sampleDemand_same same]
  split
  · rename_i dead
    split
    · rename_i isId
      rcases attached direction id isId with empty | ⟨live, _⟩
      · unfold AclRule.samplePorts SampleAcl.ports
        rw [empty]
        rfl
      · exact absurd dead live
    · rfl
  · rw [KeyTree.weigh_put_new _ fresh, well.demand]
    exact Nat.add_comm _ _

theorem SampledAcl.flows_del (same : s.sample.SameSessions sample)
    (stored : s.acl.ruleTree.get ruleId = some rule) (rules : acl.ruleTree = s.acl.ruleTree.del ruleId) :
    SampledAcl.flows ⟨acl, sample⟩ = s.flows.loss (aclSampleSession rule.actionList)
    (rule.samplePorts s.sample) := by
  funext id direction p
  unfold SampledAcl.flows SampleFlows.loss
  dsimp only
  rw [rules]
  simp only [same.2 id, AclRule.sampleDemand_same same]
  split
  · exact (Nat.zero_sub _).symm
  have split := KeyTree.weigh_del_old (fun _ rule => rule.sampleDemand s.sample id direction p) stored
  rw [well.demand] at split
  unfold AclRule.samplePorts
  omega

theorem SampledAcl.flows_set (nextWell : next.SamplesWell s.sample)
    (same : s.sample.SameSessions sample) (stored : s.acl.ruleTree.get ruleId = some rule)
    (rules : acl.ruleTree = s.acl.ruleTree.put ruleId next) (id : ObjectId) (direction : SampleDirection)
    (p : ObjectId) (live : s.sample.sessions.sessionTree.get id ≠ none) :
    SampledAcl.flows ⟨acl, sample⟩ id direction p +
        (if aclSampleSession rule.actionList direction = some id then (rule.samplePorts s.sample direction).count p
          else 0) = s.flows id direction p +
        if aclSampleSession next.actionList direction = some id then (next.samplePorts s.sample direction).count p
          else 0 := by
  have moved := KeyTree.weigh_put_old (v := next) (fun _ rule => rule.sampleDemand s.sample id direction p) stored
  rw [well.demand, nextWell.demand] at moved
  have after : SampledAcl.flows ⟨acl, sample⟩ id direction p = (s.acl.ruleTree.put ruleId next).weigh
      fun _ rule => rule.sampleDemand s.sample id direction p := by
    unfold SampledAcl.flows
    dsimp only
    rw [rules, if_neg fun dead => live ((same.2 id).mp dead)]
    simp only [AclRule.sampleDemand_same same]
  have before : s.flows id direction p = s.acl.ruleTree.weigh
      fun _ rule => rule.sampleDemand s.sample id direction p := if_neg live
  rw [after, before]
  unfold AclRule.samplePorts
  omega

end

theorem SampleCounted.demand_le (counted : SampleCounted s) (stored : s.acl.ruleTree.get ruleId = some rule)
    {id : ObjectId} {direction : SampleDirection} (isId : aclSampleSession rule.actionList direction = some id)
    (live : s.sample.sessions.sessionTree.get id ≠ none) (p : ObjectId) :
    (rule.samplePorts s.sample direction).count p ≤ s.flows id direction p := by
  have one := KeyTree.weigh_le (fun _ rule => rule.sampleDemand s.sample id direction p) stored
  rw [(counted.rules ruleId rule stored).demand, if_pos isId] at one
  have all : s.flows id direction p = s.acl.ruleTree.weigh
      fun _ rule => rule.sampleDemand s.sample id direction p := if_neg live
  rw [all]
  exact one

end Flows
end SaiCommon
