import SaiCommon.Acl.SampleCounts

namespace SaiCommon

section Populate
variable {lookups : AclLookups} {platform : AclPlatform} {table : AclTable} {index : Nat}
  {rule next : AclRule} {attrs : List AclRuleAttr}

def AclRuleAttr.actionId : AclRuleAttr → Option AclActionId
  | .action id _ _ => some id
  | _ => none

/-- A rule names a session of its own in a direction when it samples in it. -/
def AclRule.Recorded (rule : AclRule) : Prop :=
  ∀ direction, rule.samplepacketId direction ≠ nullObjectId ↔
    ∃ action ∈ rule.actionList, aclSampleDirection action.action = some direction ∧ action.enable = true

theorem AclRule.Recorded.keep (recorded : rule.Recorded)
    (ingress : next.ingressSamplePacketId = rule.ingressSamplePacketId)
    (egress : next.egressSamplePacketId = rule.egressSamplePacketId) (actions : next.actionList = rule.actionList) :
    next.Recorded := by
  intro direction
  rw [actions, ← recorded direction]
  cases direction with
  | ingress =>
    exact not_congr (by rw [show next.samplepacketId .ingress = next.ingressSamplePacketId from rfl, ingress]; rfl)
  | egress =>
    exact not_congr (by rw [show next.samplepacketId .egress = next.egressSamplePacketId from rfl, egress]; rfl)

theorem aclActionEffect_sessions {id : AclActionId} {enable : Bool} {oid : ObjectId}
    (ok : aclActionEffect index platform rule id enable oid = .ok next) :
    next.actionList = rule.actionList ∧ ∀ direction, (aclSampleDirection id = some direction ∧ enable = true →
        next.samplepacketId direction = oid ∧ oid ≠ nullObjectId) ∧
      (¬ (aclSampleDirection id = some direction ∧ enable = true) →
        next.samplepacketId direction = rule.samplepacketId direction) := by
  unfold aclActionEffect at ok
  split at ok
  · rename_i off
    cases ok
    refine ⟨rfl, fun direction => ⟨fun both => ?_, fun _ => rfl⟩⟩
    rw [off] at both
    cases both.2
  rename_i on
  split at ok
  · split at ok
    · cases ok
    · cases ok
      exact ⟨rfl, fun direction => ⟨fun both => (by cases both.1), fun _ => (by cases direction <;> rfl)⟩⟩
  · split at ok
    · cases ok
    rename_i named
    cases ok
    refine ⟨rfl, fun direction => ?_⟩
    cases direction with
    | ingress => exact ⟨fun _ => ⟨rfl, named⟩, fun other => absurd ⟨rfl, (Bool.not_eq_false _).mp on⟩ other⟩
    | egress => exact ⟨fun both => (by cases both.1), fun _ => rfl⟩
  · split at ok
    · cases ok
    rename_i named
    cases ok
    refine ⟨rfl, fun direction => ?_⟩
    cases direction with
    | ingress => exact ⟨fun both => (by cases both.1), fun _ => rfl⟩
    | egress => exact ⟨fun _ => ⟨rfl, named⟩, fun other => absurd ⟨rfl, (Bool.not_eq_false _).mp on⟩ other⟩
  · split at ok
    · cases ok
    split at ok
    · cases ok
    · cases ok
      exact ⟨rfl, fun direction => ⟨fun both => (by cases both.1), fun _ => (by cases direction <;> rfl)⟩⟩
  · rename_i notCounter notIngress notEgress notPolicer
    cases ok
    refine ⟨rfl, fun direction => ⟨fun both => ?_, fun _ => rfl⟩⟩
    cases direction with
    | ingress => exact absurd (aclSampleDirection_inj both.1 rfl) notIngress
    | egress => exact absurd (aclSampleDirection_inj both.1 rfl) notEgress

theorem aclRulePopulateAttr_recorded {attr : AclRuleAttr} (recorded : rule.Recorded)
    (ok : aclRulePopulateAttr lookups index platform table rule attr = .ok next) :
    next.Recorded ∧ next.actionList.map AclAction.action =
      rule.actionList.map AclAction.action ++ attr.actionId.toList := by
  unfold aclRulePopulateAttr at ok
  split at ok
  · split at ok
    · cases ok
    · cases ok
      exact ⟨recorded.keep rfl rfl rfl, (List.append_nil _).symm⟩
  · rename_i id enable parameter
    split at ok
    · cases ok
    rename_i stored _
    split at ok
    · cases ok
    rename_i effect made
    cases ok
    obtain ⟨actions, sessions⟩ := aclActionEffect_sessions made
    refine ⟨fun direction => ?_, List.map_append⟩
    have member : (∃ action ∈ rule.actionList ++ [⟨id, enable, stored⟩],
        aclSampleDirection action.action = some direction ∧ action.enable = true) ↔
        (∃ action ∈ rule.actionList, aclSampleDirection action.action = some direction ∧ action.enable = true) ∨
          aclSampleDirection id = some direction ∧ enable = true := by
      simp only [List.mem_append, List.mem_singleton, or_and_right, exists_or, exists_eq_left]
    refine Iff.trans ?_ member.symm
    rw [← recorded direction]
    by_cases both : aclSampleDirection id = some direction ∧ enable = true
    · obtain ⟨isOid, named⟩ := (sessions direction).1 both
      refine iff_of_true ?_ (.inr both)
      change effect.samplepacketId direction ≠ nullObjectId
      rw [isOid]
      exact named
    · have same := (sessions direction).2 both
      change effect.samplepacketId direction ≠ nullObjectId ↔ _
      rw [same]
      exact ⟨.inl, fun either => either.resolve_right both⟩
  · cases ok
    exact ⟨recorded.keep rfl rfl rfl, (List.append_nil _).symm⟩
  · cases ok
    exact ⟨recorded.keep rfl rfl rfl, (List.append_nil _).symm⟩
  · cases ok
    exact ⟨recorded.keep rfl rfl rfl, (List.append_nil _).symm⟩
  · cases ok
  · cases ok

theorem AclRule.zero_recorded : AclRule.zero.Recorded := by
  intro direction
  refine iff_of_false ?_ fun some => ?_
  · cases direction <;> exact not_not_intro rfl
  · obtain ⟨action, member, _⟩ := some
    cases member

theorem aclRulePopulate_recorded (ok : aclRulePopulate lookups platform table attrs = .ok rule) :
    rule.Recorded ∧ rule.actionList.map AclAction.action = attrs.filterMap AclRuleAttr.actionId := by
  have all := aclRulePopulate_runs (p := fun rest rule => rule.Recorded ∧
    rule.actionList.map AclAction.action ++ rest.filterMap AclRuleAttr.actionId =
      attrs.filterMap AclRuleAttr.actionId) ⟨AclRule.zero_recorded, rfl⟩ ?_
    (fun rule _ holds => ⟨holds.1.keep rfl rfl rfl, holds.2⟩) ok
  · exact ⟨all.1, (List.append_nil _).symm.trans all.2⟩
  intro index rule attr rest next ⟨recorded, whole⟩ made
  obtain ⟨nextRecorded, ids⟩ := aclRulePopulateAttr_recorded recorded made
  refine ⟨nextRecorded, ?_⟩
  rw [← whole, ids, List.append_assoc]
  cases kind : attr.actionId with
  | none => rw [List.filterMap_cons_none kind]; rfl
  | some id => rw [List.filterMap_cons_some kind]; rfl

theorem aclCheckRuleLoop_nodup (ok : aclCheckRuleLoop index attrs = .success) : (attrs.map AclRuleAttr.id).Nodup := by
  induction attrs generalizing index with
  | nil => exact List.nodup_nil
  | cons attr rest ih =>
    unfold aclCheckRuleLoop at ok
    split at ok
    · cases ok
    split at ok
    · rename_i single
      refine List.nodup_cons.mpr ⟨fun member => ?_, ih ok⟩
      have found : ∀ i, aclRuleDuplicate attr.id i rest ≠ none := by
        clear ok single ih
        intro i
        induction rest generalizing i with
        | nil => cases member
        | cons other later ih =>
          unfold aclRuleDuplicate
          split
          · exact Option.some_ne_none _
          rename_i apart
          rcases List.mem_cons.mp member with same | inLater
          · exact absurd same apart
          · exact ih inLater (i + 1)
      exact found _ single
    · cases ok

theorem AclRuleAttr.nodup_actionIds (unique : (attrs.map AclRuleAttr.id).Nodup) :
    (attrs.filterMap AclRuleAttr.actionId).Nodup := by
  induction attrs with
  | nil => exact List.nodup_nil
  | cons attr rest ih =>
    obtain ⟨single, tail⟩ := List.nodup_cons.mp unique
    cases kind : attr.actionId with
    | none =>
      rw [List.filterMap_cons_none kind]
      exact ih tail
    | some id =>
      rw [List.filterMap_cons_some kind]
      refine List.nodup_cons.mpr ⟨fun member => single ?_, ih tail⟩
      obtain ⟨other, inRest, isId⟩ := List.mem_filterMap.mp member
      have same : ∀ attr : AclRuleAttr, attr.actionId = some id → attr.id = .action id := by
        intro attr isOne
        cases attr <;> cases isOne
        rfl
      rw [same attr kind, ← same other isId]
      exact List.mem_map_of_mem inRest

end Populate
end SaiCommon
