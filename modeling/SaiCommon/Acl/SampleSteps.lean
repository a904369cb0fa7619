import SaiCommon.Acl.SampleRules

namespace SaiCommon

variable {acl : AclState} {actions : List AclAction} {id : ObjectId} {sample t : SampleAcl}
  {direction : SampleDirection} {rule : AclRule} {sampleEnv : SampleEnv}

/-- No rule samples to the sessions that the disabled sampling actions of the rule name. -/
def SampleAcl.DisabledFree (s : SampleAcl) (rule : AclRule) : Prop :=
  ∀ direction action, aclSampleAction rule.actionList direction = some action → action.enable = false →
    ∀ p ∈ rule.samplePorts s direction, s.aclInfo.get ⟨p, action.parameter.oid, direction⟩ = none

/-- The ports on which a rule names a session are none of them NULL. -/
def AclRule.SamplesPorts (rule : AclRule) (sample : SampleAcl) : Prop :=
  ∀ direction, aclSampleNamed rule.actionList direction ≠ none →
    nullObjectId ∉ rule.samplePorts sample direction

/-- The sampling actions of a rule are applied once each: behind an enabled one
comes no action of another kind. -/
def AclRule.AppliesOnce (rule : AclRule) : Prop := aclSamplesOnce false rule.actionList = true

section Rule
variable {s : SampleAcl} {n : SampleFlows} {env : SampleEnv}

theorem AclRule.Recorded.samples (recorded : rule.Recorded) (samples : rule.samplesPackets = true) :
    ∃ action ∈ rule.actionList, aclSampleDirection action.action ≠ none ∧ action.enable = true := by
  have some : ∃ direction, rule.samplepacketId direction ≠ nullObjectId := by
    unfold AclRule.samplesPackets at samples
    rw [Bool.or_eq_true, decide_eq_true_iff, decide_eq_true_iff] at samples
    rcases samples with ingress | egress
    · exact ⟨.ingress, ingress⟩
    · exact ⟨.egress, egress⟩
  obtain ⟨direction, named⟩ := some
  obtain ⟨action, member, isOne, on⟩ := (recorded direction).mp named
  exact ⟨action, member, by rw [isOne]; exact Option.some_ne_none _, on⟩

theorem aclSampleSession_some (sampled : aclSampleSession actions direction = some id) :
    ∃ action ∈ actions, aclSampleDirection action.action = some direction ∧ action.enable = true ∧
      action.parameter.oid = id := by
  unfold aclSampleSession at sampled
  split at sampled
  · rename_i action found
    obtain ⟨member, isOne⟩ := aclSampleAction_some found
    split at sampled
    · rename_i on
      exact ⟨action, member, isOne, on, Option.some.inj sampled⟩
    · cases sampled
  · cases sampled

theorem AclRule.Recorded.unsampled (recorded : rule.Recorded) (off : rule.samplesPackets = false)
    (direction : SampleDirection) : aclSampleSession rule.actionList direction = none := by
  cases sampled : aclSampleSession rule.actionList direction with
  | none => rfl
  | some id =>
    obtain ⟨action, member, isOne, on, _⟩ := aclSampleSession_some sampled
    have named := (recorded direction).mpr ⟨action, member, isOne, on⟩
    unfold AclRule.samplesPackets at off
    rw [Bool.or_eq_false_iff, decide_eq_false_iff_not, decide_eq_false_iff_not, not_not, not_not] at off
    cases direction with
    | ingress => exact absurd off.1 named
    | egress => exact absurd off.2 named

theorem SampleFlows.loss_named {ports : SampleDirection → List ObjectId}
    (free : ∀ direction action, aclSampleAction actions direction = some action → action.enable = false →
      ∀ p ∈ ports direction, n action.parameter.oid direction p = 0) :
    n.loss (aclSampleNamed actions) ports = n.loss (aclSampleSession actions) ports := by
  funext id direction p
  unfold loss
  cases found : aclSampleAction actions direction with
  | none =>
    have noName : aclSampleNamed actions direction = none := by
      unfold aclSampleNamed
      rw [found, Option.map_none]
    have noSession : aclSampleSession actions direction = none := by
      unfold aclSampleSession
      rw [found]
    rw [noName, noSession]
  | some action =>
    have named : aclSampleNamed actions direction = some action.parameter.oid := by
      unfold aclSampleNamed
      rw [found, Option.map_some]
    have session : aclSampleSession actions direction = if action.enable then some action.parameter.oid else none := by
      unfold aclSampleSession
      rw [found]
    rw [named]
    cases on : action.enable with
    | true =>
      rw [on, if_pos rfl] at session
      rw [session]
    | false =>
      rw [on, if_neg Bool.false_ne_true] at session
      rw [session, if_neg (Option.some_ne_none id).symm, Nat.sub_zero]
      split
      · rename_i isId
        rw [Option.some.injEq] at isId
        by_cases member : p ∈ ports direction
        · rw [← isId, free direction action found on p member]
          exact Nat.zero_sub _
        · rw [List.count_eq_zero_of_not_mem member, Nat.sub_zero]
      · exact Nat.sub_zero _

theorem SampleFlows.gain_loss (n : SampleFlows) (sessions : SampleDirection → Option ObjectId)
    (ports : SampleDirection → List ObjectId) : (n.gain sessions ports).loss sessions ports = n := by
  funext id direction p
  unfold gain loss
  exact Nat.add_sub_cancel _ _

theorem SampledFlows.disabledFree (sampled : SampledFlows s n) (ports : rule.SamplesPorts s)
    (free : s.DisabledFree rule) (direction : SampleDirection) (action : AclAction)
    (found : aclSampleAction rule.actionList direction = some action) (off : action.enable = false) (p : ObjectId)
    (member : p ∈ rule.samplePorts s direction) : n action.parameter.oid direction p = 0 := by
  have named : aclSampleNamed rule.actionList direction ≠ none := by
    unfold aclSampleNamed
    rw [found]
    exact Option.some_ne_none _
  have notNull : p ≠ nullObjectId := fun same => ports direction named (same ▸ member)
  by_contra used
  exact (sampled.entries p notNull _ direction).mpr (Nat.pos_of_ne_zero used) (free direction action found off p member)

theorem AclRule.samplePorts_same (same : s.SameSessions t) : rule.samplePorts t = rule.samplePorts s :=
  funext fun direction => same.ports (rule.samplePortlist direction)

theorem SampledFlows.createAll (sampled : SampledFlows s n) (granted : env.grants)
    (unique : (rule.actionList.map AclAction.action).Nodup) (once : rule.AppliesOnce) (ports : rule.SamplesPorts s)
    (can : ∀ direction id, aclSampleSession rule.actionList direction = some id →
      s.Attachable id direction (rule.samplePortlist direction)) :
    ∃ t, aclRuleCreateSamplepacket rule env s = (t, .success) ∧ s.SameSessions t ∧
      SampledFlows t (n.gain (aclSampleSession rule.actionList) (rule.samplePorts s)) := by
  have choice : ∀ direction, SampleChoice s rule rule.actionList (aclSampleSession rule.actionList) direction := by
    intro direction
    cases isId : aclSampleSession rule.actionList direction with
    | none => exact .inl ⟨isId, isId⟩
    | some id =>
      refine .inr ⟨id, isId, ports direction (aclSampleNamed_of_session ?_), .inl ⟨isId, can direction id isId⟩⟩
      rw [isId]
      exact Option.some_ne_none id
  have onceNone : aclSamplesOnce (none : Option (ObjectId × SampleDirection)).isSome rule.actionList = true := once
  obtain ⟨t, rc, walked, same, counted, status⟩ :=
    aclRuleCreateSamplepacketLoop_gain granted unique onceNone sampled choice 0 .success
  have ok := status (fun _ => rfl) rfl
  rw [ok] at walked
  exact ⟨t, walked, same, counted⟩

theorem aclRuleCreateSamplepacket_refused (granted : env.grants) (unique : (rule.actionList.map AclAction.action).Nodup)
    (recorded : rule.Recorded) (samples : rule.samplesPackets = true)
    (cannot : ∀ direction id, aclSampleSession rule.actionList direction = some id →
      ¬ s.Attachable id direction (rule.samplePortlist direction)) :
    ∃ error, error ≠ SaiStatus.success ∧ aclRuleCreateSamplepacket rule env s = (s, error) := by
  have none : ∀ id direction, (none : Option (ObjectId × SampleDirection)) = some (id, direction) →
      ¬ s.Attachable id direction (rule.samplePortlist direction) := fun _ _ isIt => by cases isIt
  obtain ⟨error, walked, failed⟩ := aclRuleCreateSamplepacketLoop_refused granted none
    (fun action member direction isOne on =>
      cannot direction _ (aclSampleSession_of_mem unique member isOne on)) 0 .success
  exact ⟨error, failed (.inr (recorded.samples samples)), walked⟩

theorem SampledFlows.removeAll (sampled : SampledFlows s n) (granted : env.grants)
    (unique : (rule.actionList.map AclAction.action).Nodup) (ports : rule.SamplesPorts s)
    (free : ∀ direction action, aclSampleAction rule.actionList direction = some action → action.enable = false →
      ∀ p ∈ rule.samplePorts s direction, n action.parameter.oid direction p = 0) :
    s.SameSessions (aclRuleRemoveSamplepacket rule env s) ∧ SampledFlows (aclRuleRemoveSamplepacket rule env s)
        (n.loss (aclSampleSession rule.actionList) (rule.samplePorts s)) := by
  obtain ⟨same, counted⟩ := aclRuleRemoveSamplepacketLoop_loss granted unique sampled ports 0
  refine ⟨same, ?_⟩
  have lost : n.loss (aclSampleNamed rule.actionList) (rule.samplePorts s) =
      n.loss (aclSampleSession rule.actionList) (rule.samplePorts s) := SampleFlows.loss_named free
  rw [← lost]
  exact counted

end Rule

section Create
variable {platform : AclPlatform} {s : SampledAcl} {attrs : List AclRuleAttr} {allocOk : Bool}
  {env : AclRuleCreateEnv} {table : AclTable}

/-- A creation that comes to its samplepacket step applies every session of the
rule, or none; one that applies them and fails later takes back only these. -/
def SampledAcl.CreatesWhole (platform : AclPlatform) (s : SampledAcl) (table : AclTable) (attrs : List AclRuleAttr)
    (env : AclRuleCreateEnv) (rule : AclRule) : Prop :=
  (rule.AppliesOnce ∧
    (∀ direction id, aclSampleSession rule.actionList direction = some id →
      s.sample.Attachable id direction (rule.samplePortlist direction)) ∧
    (RuleStores platform s.acl table attrs { env with samplePacket := .success } ∨ s.sample.DisabledFree rule)) ∨
  ∀ direction id, aclSampleSession rule.actionList direction = some id →
    ¬ s.sample.Attachable id direction (rule.samplePortlist direction)

structure SampledAcl.CreatesWell (platform : AclPlatform) (s : SampledAcl) (attrs : List AclRuleAttr) (allocOk : Bool)
    (env : AclRuleCreateEnv) (sampleEnv : SampleEnv) : Prop where
  granted : sampleEnv.grants
  ports : ∀ table rule, createAclRuleBegin s.acl attrs allocOk = .ok table →
    aclRulePopulate env.lookups platform (s.acl.deref table) attrs = .ok rule → rule.SamplesPorts s.sample
  whole : ∀ table rule, createAclRuleBegin s.acl attrs allocOk = .ok table →
    aclRuleToSample platform s.acl table attrs env = some rule → s.CreatesWhole platform table attrs env rule

theorem createAclRuleBegin_nodup (began : createAclRuleBegin s.acl attrs allocOk = .ok table) :
    (attrs.map AclRuleAttr.id).Nodup := by
  unfold createAclRuleBegin at began
  split at began
  · cases began
  split at began
  · rename_i checked
    exact aclCheckRuleLoop_nodup checked
  · cases began

theorem SampleCounted.keep (counted : SampleCounted s)
    (rules : acl.ruleTree = s.acl.ruleTree) (same : s.sample.SameSessions sample)
    (flows : SampledFlows sample s.flows) : SampleCounted ⟨acl, sample⟩ := by
  refine ⟨?_, fun ruleId rule stored => ?_, ?_⟩
  · rw [SampledAcl.flows_same same rules]
    exact flows
  · dsimp only at stored
    rw [rules] at stored
    exact (counted.rules ruleId rule stored).same same
  · dsimp only
    rw [same.1]
    exact counted.ports

theorem SampleCounted.put (counted : SampleCounted s) {ruleId : ObjectId}
    (well : rule.SamplesWell s.sample) (fresh : s.acl.ruleTree.get ruleId = none)
    (rules : acl.ruleTree = s.acl.ruleTree.put ruleId rule) (same : s.sample.SameSessions sample)
    (attached : ∀ direction id, aclSampleSession rule.actionList direction = some id →
      s.sample.Attachable id direction (rule.samplePortlist direction))
    (flows : SampledFlows sample (s.flows.gain (aclSampleSession rule.actionList) (rule.samplePorts s.sample))) :
    SampleCounted ⟨acl, sample⟩ := by
  refine ⟨?_, fun other next stored => ?_, ?_⟩
  · rw [SampledAcl.flows_put well same fresh rules attached]
    exact flows
  · dsimp only at stored
    rw [rules, KeyTree.get_put] at stored
    split at stored
    · cases stored
      exact well.same same
    · exact (counted.rules other next stored).same same
  · dsimp only
    rw [same.1]
    exact counted.ports

theorem SampleCounted.create (counted : SampleCounted s)
    (good : s.CreatesWell platform attrs allocOk env sampleEnv) :
    SampleCounted (createAclRuleSampled platform s attrs allocOk env sampleEnv).1 := by
  unfold createAclRuleSampled
  cases began : createAclRuleBegin s.acl attrs allocOk with
  | error status => exact counted
  | ok table =>
    have unique := createAclRuleBegin_nodup began
    dsimp only
    have wellOf : ∀ rule, aclRulePopulate env.lookups platform (s.acl.deref table) attrs = .ok rule →
        rule.Recorded ∧ rule.SamplesWell s.sample := by
      intro rule populated
      obtain ⟨recorded, ids⟩ := aclRulePopulate_recorded populated
      refine ⟨recorded, ?_, good.ports table rule began populated⟩
      rw [ids]
      exact AclRuleAttr.nodup_actionIds unique
    cases reached : aclRuleToSample platform s.acl table attrs env with
    | none =>
      rcases createAclRuleLocked_unsampled reached with kept | ⟨rule, populated, none, fresh, stored⟩
      · exact counted.keep kept (.refl _) counted.flows
      obtain ⟨recorded, well⟩ := wellOf rule populated
      have unsampled := recorded.unsampled none
      refine counted.put well fresh stored (.refl _) (fun direction id isId => ?_) ?_
      · rw [unsampled] at isId
        cases isId
      · rw [SampleFlows.gain_none unsampled]
        exact counted.flows
    | some rule =>
      have step := aclRuleToSample_iff.mp reached
      obtain ⟨recorded, well⟩ := wellOf rule step.populated
      dsimp only
      rcases good.whole table rule began reached with ⟨once, can, undone⟩ | cannot
      · obtain ⟨t, applied, same, gained⟩ :=
          counted.flows.createAll (good.granted.sub 0) well.unique once well.named can
        rw [applied]
        dsimp only
        rcases step.result .success with ⟨failed, kept, notStored⟩ | ⟨_, ok, fresh, stored⟩
        · rw [if_pos ⟨rfl, failed⟩]
          have disabled := undone.resolve_left notStored
          obtain ⟨sameBack, lost⟩ := gained.removeAll (good.granted.sub 1) well.unique (well.same same).named
            fun direction action found off p member => by
              rw [AclRule.samplePorts_same same] at member
              have none : aclSampleSession rule.actionList direction = none := by
                unfold aclSampleSession
                rw [found]
                simp only [off, Bool.false_eq_true, if_false]
              unfold SampleFlows.gain
              rw [none, if_neg (Option.some_ne_none _).symm, Nat.add_zero]
              exact counted.flows.disabledFree well.named disabled direction action found off p member
          rw [AclRule.samplePorts_same same, SampleFlows.gain_loss] at lost
          exact counted.keep kept (same.trans sameBack) lost
        · rw [if_neg fun both => both.2 ok]
          exact counted.put well fresh stored same can gained
      · obtain ⟨error, isError, refused⟩ :=
          aclRuleCreateSamplepacket_refused (good.granted.sub 0) well.unique recorded step.samples cannot
        rw [refused]
        dsimp only
        rw [if_neg fun both => isError both.1]
        rcases step.result error with ⟨_, kept, _⟩ | ⟨ok, _⟩
        · exact counted.keep kept (.refl _) counted.flows
        · exact absurd ok isError

end Create

section Delete
variable {s : SampledAcl} {ruleId : ObjectId} {env : AclRuleDeleteEnv}

/-- A removal after which the sessions count what the rules sample. A rule
without a session of its own samples to none; otherwise nothing is applied for
its disabled actions, and what is applied again when a later step fails is
applied once. -/
structure SampledAcl.DeletesWell (s : SampledAcl) (ruleId : ObjectId) (env : AclRuleDeleteEnv)
    (sampleEnv : SampleEnv) : Prop where
  granted : sampleEnv.grants
  unsampled : ∀ rule, s.acl.ruleTree.get ruleId = some rule → rule.samplesPackets = false →
    ∀ direction, aclSampleSession rule.actionList direction = none
  disabled : ∀ rule, aclRuleToRelease s.acl ruleId = some rule → s.sample.DisabledFree rule
  undone : ∀ rule, aclRuleToRelease s.acl ruleId = some rule → rule.AppliesOnce ∨ RuleReleases s.acl rule env

section
variable (counted : SampleCounted s)
include counted

theorem SampleCounted.del (stored : s.acl.ruleTree.get ruleId = some rule)
    (rules : acl.ruleTree = s.acl.ruleTree.del ruleId) (same : s.sample.SameSessions t)
    (flows : SampledFlows t (s.flows.loss (aclSampleSession rule.actionList) (rule.samplePorts s.sample))) :
    SampleCounted ⟨acl, t⟩ := by
  refine ⟨?_, fun other next found => ?_, ?_⟩
  · rw [SampledAcl.flows_del (counted.rules ruleId rule stored) same stored rules]
    exact flows
  · dsimp only at found
    rw [rules, KeyTree.get_del] at found
    split at found
    · cases found
    · exact (counted.rules other next found).same same
  · dsimp only
    rw [same.1]
    exact counted.ports

theorem SampleCounted.freeAgain (stored : s.acl.ruleTree.get ruleId = some rule)
    (isId : aclSampleSession rule.actionList direction = some id)
    (live : s.sample.sessions.sessionTree.get id ≠ none) {n : SampleFlows}
    (less : ∀ id' p, n id' direction p ≤ s.flows id' direction p) :
    n.Free id direction (rule.samplePorts s.sample direction) := by
  intro p member id' used
  have own := counted.demand_le stored isId live p
  have some := List.count_pos_iff.mpr member
  have all := less id' p
  exact counted.flows.single p direction id' id (by omega) (by omega)

theorem SampleCounted.regain (stored : s.acl.ruleTree.get ruleId = some rule) (same : s.sample.SameSessions t)
    (lost : SampledFlows t (s.flows.loss (aclSampleSession rule.actionList) (rule.samplePorts s.sample)))
    {sessions : SampleDirection → Option ObjectId}
    (chosen : ∀ direction, SampleChoice t rule rule.actionList sessions direction) :
    (s.flows.loss (aclSampleSession rule.actionList) (rule.samplePorts s.sample)).gain sessions
      (rule.samplePorts s.sample) = s.flows := by
  funext id direction p
  unfold SampleFlows.gain SampleFlows.loss
  rcases chosen direction with
    ⟨none, noSession⟩ | ⟨id', isId, named, ⟨isChosen, can⟩ | ⟨noSession, cannot⟩⟩
  · rw [none, noSession, if_neg (Option.some_ne_none id).symm]
    rfl
  · rw [isId, isChosen]
    split
    · rename_i isSame
      rw [Option.some.injEq] at isSame
      rw [isSame] at isId can
      refine Nat.sub_add_cancel ?_
      rcases can with empty | ⟨live, _⟩
      · have nothing : rule.samplePorts s.sample direction = [] := by
          unfold AclRule.samplePorts SampleAcl.ports
          rw [empty]
          rfl
        rw [nothing]
        exact Nat.zero_le _
      · exact counted.demand_le stored isId (fun dead => live ((same.2 id).mpr dead)) p
    · rfl
  · rw [isId, noSession, if_neg (Option.some_ne_none id).symm, Nat.add_zero]
    split
    · rename_i isSame
      rw [Option.some.injEq] at isSame
      rw [isSame] at isId cannot
      have none : s.flows id direction p = 0 ∨ rule.samplePorts s.sample direction = [] := by
        by_contra some
        obtain ⟨used, somePorts⟩ := not_or.mp some
        obtain ⟨session, there⟩ := counted.flows.live (Nat.pos_of_ne_zero used)
        have live : s.sample.sessions.sessionTree.get id ≠ Option.none := by
          rw [there]
          exact Option.some_ne_none session
        refine cannot ((lost.attachable_iff named).mpr (.inr ⟨fun dead => live ((same.2 id).mp dead), ?_, ?_⟩))
        · rw [same.ports]
          exact somePorts
        · rw [same.ports]
          exact counted.freeAgain stored isId live fun _ _ => Nat.sub_le _ _
      rcases none with unused | noPorts
      · rw [unused]
        exact Nat.zero_sub _
      · rw [noPorts]
        rfl
    · rfl

theorem SampleCounted.restore (stored : s.acl.ruleTree.get ruleId = some rule)
    (once : rule.AppliesOnce) (granted : sampleEnv.grants) (same : s.sample.SameSessions t)
    (lost : SampledFlows t (s.flows.loss (aclSampleSession rule.actionList) (rule.samplePorts s.sample))) :
    t.SameSessions (aclRuleCreateSamplepacket rule sampleEnv t).1 ∧
      SampledFlows (aclRuleCreateSamplepacket rule sampleEnv t).1 s.flows := by
  have well := counted.rules ruleId rule stored
  have namedOf : ∀ direction, aclSampleSession rule.actionList direction ≠ none →
      nullObjectId ∉ t.ports (rule.samplePortlist direction) := by
    intro direction some
    rw [same.ports]
    exact well.named direction (aclSampleNamed_of_session some)
  have each : ∀ direction, ∃ chosen : Option ObjectId,
      SampleChoice t rule rule.actionList (fun _ => chosen) direction := by
    intro direction
    cases isId : aclSampleSession rule.actionList direction with
    | none => exact ⟨none, .inl ⟨isId, rfl⟩⟩
    | some id =>
      have named := namedOf direction (by rw [isId]; exact Option.some_ne_none id)
      by_cases can : t.Attachable id direction (rule.samplePortlist direction)
      · exact ⟨some id, .inr ⟨id, isId, named, .inl ⟨rfl, can⟩⟩⟩
      · exact ⟨none, .inr ⟨id, isId, named, .inr ⟨rfl, can⟩⟩⟩
  choose sessions choice using each
  have chosen : ∀ direction, SampleChoice t rule rule.actionList sessions direction := choice
  have onceNone : aclSamplesOnce (none : Option (ObjectId × SampleDirection)).isSome rule.actionList = true := once
  obtain ⟨u, rc, walked, sameU, gained, _⟩ :=
    aclRuleCreateSamplepacketLoop_gain granted well.unique onceNone lost chosen 0 .success
  have applied : aclRuleCreateSamplepacket rule sampleEnv t = (u, rc) := walked
  rw [applied]
  refine ⟨sameU, ?_⟩
  have ports : (fun direction => t.ports (rule.samplePortlist direction)) = rule.samplePorts s.sample :=
    AclRule.samplePorts_same same
  rw [ports] at gained
  rw [counted.regain stored same lost chosen] at gained
  exact gained

theorem SampleCounted.delete (good : s.DeletesWell ruleId env sampleEnv) :
    SampleCounted (deleteAclRuleSampled s ruleId env sampleEnv).1 := by
  unfold deleteAclRuleSampled
  cases reached : aclRuleToRelease s.acl ruleId with
  | none =>
    rcases deleteAclRule_unsampled reached with kept | ⟨rule, stored, none, gone⟩
    · exact counted.keep kept (.refl _) counted.flows
    refine counted.del stored gone (.refl _) ?_
    rw [SampleFlows.loss_none (good.unsampled rule stored none)]
    exact counted.flows
  | some rule =>
    have step := aclRuleToRelease_iff.mp reached
    have well := counted.rules ruleId rule step.stored
    obtain ⟨same, lost⟩ := counted.flows.removeAll (good.granted.sub 0) well.unique well.named
      (counted.flows.disabledFree well.named (good.disabled rule reached))
    dsimp only
    rcases deleteAclRule_ruleTree s.acl ruleId { env with samplePacket := .success } with
      ⟨failed, kept⟩ | ⟨ok, gone⟩
    · rw [if_pos failed]
      have once : rule.AppliesOnce := by
        rcases good.undone rule reached with once | releases
        · exact once
        · exact absurd (step.released releases) failed
      obtain ⟨sameBack, restored⟩ := counted.restore step.stored once (good.granted.sub 1) same lost
      exact counted.keep kept (same.trans sameBack) restored
    · rw [if_neg (not_not_intro ok)]
      exact counted.del step.stored gone same lost

end

end Delete
end SaiCommon
