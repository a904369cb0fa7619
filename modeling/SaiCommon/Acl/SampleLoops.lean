import SaiCommon.Acl.RuleSamplepacket
import SaiCommon.Samplepacket.FlowCounts

namespace SaiCommon

variable {current : Option (ObjectId × SampleDirection)} {later : SampleDirection → Option ObjectId}
  {actions : List AclAction}

namespace SampleFlows
variable (n : SampleFlows) (sessions : SampleDirection → Option ObjectId) (ports : SampleDirection → List ObjectId)

/-- In each direction a session, if any, is applied on the ports. -/
def gain : SampleFlows :=
  fun id direction p => n id direction p + if sessions direction = some id then (ports direction).count p else 0

/-- In each direction a session, if any, is taken back from the ports. -/
def loss : SampleFlows :=
  fun id direction p => n id direction p - if sessions direction = some id then (ports direction).count p else 0

variable {n sessions ports}

theorem gain_none (none : ∀ direction, sessions direction = none) : n.gain sessions ports = n := by
  funext id direction p
  unfold gain
  rw [none direction]
  rfl

theorem loss_none (none : ∀ direction, sessions direction = none) : n.loss sessions ports = n := by
  funext id direction p
  unfold loss
  rw [none direction]
  rfl

variable (ports) in
theorem add_gain {id : ObjectId} {direction : SampleDirection}
    (here : sessions direction = some id) (free : later direction = none)
    (others : ∀ e, e ≠ direction → sessions e = later e) :
    (n.add id direction (ports direction)).gain later ports = n.gain sessions ports := by
  funext id' e p
  unfold gain add
  by_cases same : e = direction
  · rw [same, here, free]
    simp only [and_true, Option.some.injEq, reduceCtorEq, if_false, Nat.add_zero, eq_comm]
  · rw [others e same, if_neg fun both => same both.2, Nat.add_zero]

variable (ports) in
theorem sub_loss {id : ObjectId} {direction : SampleDirection}
    (here : sessions direction = some id) (free : later direction = none)
    (others : ∀ e, e ≠ direction → sessions e = later e) :
    (n.sub id direction (ports direction)).loss later ports = n.loss sessions ports := by
  funext id' e p
  unfold loss sub
  by_cases same : e = direction
  · rw [same, here, free]
    simp only [and_true, Option.some.injEq, reduceCtorEq, if_false, Nat.sub_zero, eq_comm]
  · rw [others e same, if_neg fun both => same both.2, Nat.sub_zero]

end SampleFlows

def aclSampleAction (actions : List AclAction) (direction : SampleDirection) : Option AclAction :=
  actions.find? fun action => aclSampleDirection action.action == some direction

def aclSampleNamed (actions : List AclAction) (direction : SampleDirection) : Option ObjectId :=
  (aclSampleAction actions direction).map fun action => action.parameter.oid

def aclSampleSession (actions : List AclAction) (direction : SampleDirection) : Option ObjectId :=
  match aclSampleAction actions direction with
  | some action => if action.enable then some action.parameter.oid else none
  | none => none

/-- No action of another kind comes while the last sampling action is an enabled one. -/
def aclSamplesOnce : Bool → List AclAction → Bool
  | _, [] => true
  | on, action :: rest =>
    match aclSampleDirection action.action with
    | some _ => aclSamplesOnce action.enable rest
    | none => !on && aclSamplesOnce on rest

section Actions
variable {action : AclAction} {rest : List AclAction} {direction : SampleDirection}

theorem aclSampleDirection_inj {id id' : AclActionId} (isOne : aclSampleDirection id = some direction)
    (other : aclSampleDirection id' = some direction) : id = id' := by
  cases id <;> cases id' <;> cases isOne <;> cases other <;> rfl

theorem aclSampleAction_cons_self (isOne : aclSampleDirection action.action = some direction) :
    aclSampleAction (action :: rest) direction = some action := by
  unfold aclSampleAction
  rw [List.find?_cons, isOne, beq_self_eq_true]

theorem aclSampleAction_cons_ne (other : aclSampleDirection action.action ≠ some direction) :
    aclSampleAction (action :: rest) direction = aclSampleAction rest direction := by
  unfold aclSampleAction
  rw [List.find?_cons, beq_eq_false_iff_ne.mpr other]

theorem aclSampleAction_tail (unique : ((action :: rest).map AclAction.action).Nodup)
    (isOne : aclSampleDirection action.action = some direction) : aclSampleAction rest direction = none := by
  rw [List.map_cons, List.nodup_cons] at unique
  refine List.find?_eq_none.mpr fun other member isSame => unique.1 ?_
  rw [aclSampleDirection_inj isOne (beq_iff_eq.mp isSame)]
  exact List.mem_map_of_mem member

theorem aclSampleSession_cons_self (isOne : aclSampleDirection action.action = some direction) :
    aclSampleSession (action :: rest) direction = if action.enable then some action.parameter.oid else none := by
  unfold aclSampleSession
  rw [aclSampleAction_cons_self isOne]

theorem aclSampleSession_cons_ne (other : aclSampleDirection action.action ≠ some direction) :
    aclSampleSession (action :: rest) direction = aclSampleSession rest direction := by
  unfold aclSampleSession
  rw [aclSampleAction_cons_ne other]

theorem aclSampleSession_tail (unique : ((action :: rest).map AclAction.action).Nodup)
    (isOne : aclSampleDirection action.action = some direction) : aclSampleSession rest direction = none := by
  unfold aclSampleSession
  rw [aclSampleAction_tail unique isOne]

theorem aclSampleNamed_cons_self (isOne : aclSampleDirection action.action = some direction) :
    aclSampleNamed (action :: rest) direction = some action.parameter.oid := by
  unfold aclSampleNamed
  rw [aclSampleAction_cons_self isOne]
  rfl

theorem aclSampleNamed_cons_ne (other : aclSampleDirection action.action ≠ some direction) :
    aclSampleNamed (action :: rest) direction = aclSampleNamed rest direction := by
  unfold aclSampleNamed
  rw [aclSampleAction_cons_ne other]

theorem aclSampleNamed_tail (unique : ((action :: rest).map AclAction.action).Nodup)
    (isOne : aclSampleDirection action.action = some direction) : aclSampleNamed rest direction = none := by
  unfold aclSampleNamed
  rw [aclSampleAction_tail unique isOne]
  rfl

theorem aclSampleAction_of_mem (unique : (actions.map AclAction.action).Nodup)
    (member : action ∈ actions) (isOne : aclSampleDirection action.action = some direction) :
    aclSampleAction actions direction = some action := by
  induction actions with
  | nil => cases member
  | cons first rest ih =>
    rcases List.mem_cons.mp member with rfl | later
    · exact aclSampleAction_cons_self isOne
    rw [List.map_cons, List.nodup_cons] at unique
    rw [aclSampleAction_cons_ne, ih unique.2 later]
    intro same
    refine unique.1 ?_
    rw [aclSampleDirection_inj same isOne]
    exact List.mem_map_of_mem later

theorem aclSampleSession_of_mem (unique : (actions.map AclAction.action).Nodup)
    (member : action ∈ actions) (isOne : aclSampleDirection action.action = some direction)
    (on : action.enable = true) : aclSampleSession actions direction = some action.parameter.oid := by
  unfold aclSampleSession
  rw [aclSampleAction_of_mem unique member isOne]
  dsimp only
  rw [if_pos on]

theorem aclSampleAction_some (found : aclSampleAction actions direction = some action) :
    action ∈ actions ∧ aclSampleDirection action.action = some direction := by
  have isOne := List.find?_some found
  exact ⟨List.mem_of_find?_eq_some found, beq_iff_eq.mp isOne⟩

end Actions

section Loops
variable {s t : SampleAcl} {n n' : SampleFlows} {id : ObjectId} {direction : SampleDirection} {env : SampleEnv}
  {portlist : Option (List ObjectId)} {rule : AclRule}

theorem SampleAcl.SameSessions.ports (same : s.SameSessions t) (portlist : Option (List ObjectId)) :
    t.ports portlist = s.ports portlist := by
  unfold SampleAcl.ports
  rw [same.1]

theorem SampledFlows.attachable_iff (sampled : SampledFlows s n) (named : nullObjectId ∉ s.ports portlist) :
    s.Attachable id direction portlist ↔ portlist = some [] ∨ s.sessions.sessionTree.get id ≠ none ∧
      s.ports portlist ≠ [] ∧ n.Free id direction (s.ports portlist) := by
  unfold SampleAcl.Attachable
  rw [sampled.validate_iff named]

theorem SampledFlows.attachable_congr (sampled : SampledFlows s n) (later : SampledFlows t n')
    (same : s.SameSessions t) (named : nullObjectId ∉ s.ports portlist)
    (flows : ∀ id p, n' id direction p = n id direction p) :
    t.Attachable id direction portlist ↔ s.Attachable id direction portlist := by
  have named' : nullObjectId ∉ t.ports portlist := by
    rw [same.ports]
    exact named
  rw [sampled.attachable_iff named, later.attachable_iff named', same.ports, ne_eq, same.2 id]
  unfold SampleFlows.Free
  simp only [flows]

theorem SampledFlows.attach_of (granted : env.grants) (sampled : SampledFlows s n)
    (named : nullObjectId ∉ s.ports portlist) (can : s.Attachable id direction portlist) :
    ∃ t, samplepacketValidateObject s id direction env portlist true true = (t, .success) ∧ s.SameSessions t ∧
      SampledFlows t (n.add id direction (s.ports portlist)) := by
  rcases (sampled.attachable_iff named).mp can with empty | ⟨live, some, free⟩
  · rw [empty]
    exact ⟨s, rfl, .refl s, by rw [show s.ports (some []) = [] from rfl, SampleFlows.add_nil]; exact sampled⟩
  · exact sampled.attach granted live some named free true

/-- What a rule applies in a direction: the session of its actions, if that can be
applied. -/
def SampleChoice (s : SampleAcl) (rule : AclRule) (actions : List AclAction)
    (sessions : SampleDirection → Option ObjectId) (direction : SampleDirection) : Prop :=
  aclSampleSession actions direction = none ∧ sessions direction = none ∨
    ∃ id, aclSampleSession actions direction = some id ∧
      nullObjectId ∉ s.ports (rule.samplePortlist direction) ∧
      (sessions direction = some id ∧ s.Attachable id direction (rule.samplePortlist direction) ∨
        sessions direction = none ∧ ¬ s.Attachable id direction (rule.samplePortlist direction))

section
variable {sessions : SampleDirection → Option ObjectId} (choice : SampleChoice s rule actions sessions direction)
include choice

theorem SampleChoice.congr {actions' : List AclAction}
    (same : aclSampleSession actions' direction = aclSampleSession actions direction) :
    SampleChoice s rule actions' sessions direction := by
  unfold SampleChoice at choice ⊢
  rw [same]
  exact choice

theorem SampleChoice.after {sessions' : SampleDirection → Option ObjectId} (sampled : SampledFlows s n)
    (later : SampledFlows t n')
    (same : s.SameSessions t) (flows : ∀ id p, n' id direction p = n id direction p)
    (chosen : sessions' direction = sessions direction) : SampleChoice t rule actions sessions' direction := by
  rcases choice with ⟨none, noSession⟩ | ⟨id, isId, named, choose⟩
  · exact .inl ⟨none, chosen.trans noSession⟩
  refine .inr ⟨id, isId, ?_, ?_⟩
  · rw [same.ports]
    exact named
  · rw [chosen, sampled.attachable_congr later same named flows]
    exact choose

end

theorem SampleEnv.grants.sub (granted : env.grants) (place : Nat) : (env.sub place).grants :=
  fun path => granted (place :: path)

/-- A rule whose sampling actions come last applies each of them once, if it can
be applied. -/
theorem aclRuleCreateSamplepacketLoop_gain (granted : env.grants)
    (unique : (actions.map AclAction.action).Nodup)
    (once : aclSamplesOnce current.isSome actions = true) (sampled : SampledFlows s n)
    {sessions : SampleDirection → Option ObjectId}
    (choice : ∀ direction, SampleChoice s rule actions sessions direction) (place : Nat) (rc : SaiStatus) :
    ∃ t rc', aclRuleCreateSamplepacketLoop rule env s place current rc actions = (t, rc') ∧ s.SameSessions t ∧
      SampledFlows t (n.gain sessions fun direction => s.ports (rule.samplePortlist direction)) ∧
      ((∀ direction, aclSampleSession actions direction = sessions direction) → rc = .success →
        rc' = .success) := by
  induction actions generalizing s n current sessions place rc with
  | nil =>
    have noSession : ∀ direction, sessions direction = none := by
      intro direction
      rcases choice direction with ⟨_, none⟩ | ⟨id, isId, _⟩
      · exact none
      · cases isId
    exact ⟨s, rc, rfl, .refl s, by rw [SampleFlows.gain_none noSession]; exact sampled, fun _ ok => ok⟩
  | cons action rest ih =>
    have tail : (rest.map AclAction.action).Nodup := (List.nodup_cons.mp unique).2
    unfold aclSamplesOnce at once
    unfold aclRuleCreateSamplepacketLoop
    cases kind : aclSampleDirection action.action with
    | none =>
      rw [kind] at once
      have notOne : ∀ direction, aclSampleSession (action :: rest) direction = aclSampleSession rest direction :=
        fun direction => aclSampleSession_cons_ne (by rw [kind]; exact (Option.some_ne_none direction).symm)
      obtain ⟨off, onceRest⟩ := (Bool.and_eq_true_iff).mp once
      cases current with
      | some pair => cases off
      | none =>
        obtain ⟨t, rc', walked, same, counted, status⟩ := ih tail onceRest sampled
          (fun direction => (choice direction).congr (notOne direction).symm) (place + 1) rc
        refine ⟨t, rc', walked, same, counted, fun all => status fun direction => ?_⟩
        rw [← notOne]
        exact all direction
    | some e =>
      rw [kind] at once
      dsimp only at once ⊢
      have here : aclSampleSession (action :: rest) e = if action.enable then some action.parameter.oid else none :=
        aclSampleSession_cons_self kind
      have free : aclSampleSession rest e = none := aclSampleSession_tail unique kind
      have others : ∀ direction, direction ≠ e →
          aclSampleSession (action :: rest) direction = aclSampleSession rest direction :=
        fun direction other => aclSampleSession_cons_ne (by
          rw [kind]
          exact fun same => other (Option.some.inj same).symm)
      have later : sessions e = none → ∀ direction, SampleChoice s rule rest sessions direction := by
        intro noSession direction
        by_cases isE : direction = e
        · rw [isE]
          exact .inl ⟨free, noSession⟩
        · exact (choice direction).congr (others direction isE).symm
      cases on : action.enable with
      | false =>
        rw [on] at here once
        have noSession : sessions e = none := by
          rcases choice e with ⟨_, none⟩ | ⟨id, isId, _⟩
          · exact none
          · rw [here] at isId
            cases isId
        have onceRest : aclSamplesOnce (none : Option (ObjectId × SampleDirection)).isSome rest = true := once
        obtain ⟨t, rc', walked, same, counted, status⟩ := ih tail onceRest sampled (later noSession) (place + 1) rc
        refine ⟨t, rc', walked, same, counted, fun all => status fun direction => ?_⟩
        by_cases isE : direction = e
        · rw [isE, free, noSession]
        · rw [← others direction isE]
          exact all direction
      | true =>
        rw [on] at here once
        rw [if_pos rfl] at here
        have onceRest : aclSamplesOnce (some (action.parameter.oid, e)).isSome rest = true := once
        rcases choice e with ⟨absent, _⟩ | ⟨id, isId, named, ⟨chosen, can⟩ | ⟨noSession, cannot⟩⟩
        · rw [here] at absent
          cases absent
        · rw [here] at isId
          cases isId
          obtain ⟨u, attached, sameU, countedU⟩ := sampled.attach_of (granted.sub place) named can
          obtain ⟨t, rc', walked, same, counted, status⟩ := ih tail onceRest countedU (fun direction => by
            by_cases isE : direction = e
            · rw [isE]
              exact .inl ⟨free, Function.update_self e none sessions⟩
            refine ((choice direction).congr (others direction isE).symm).after sampled countedU sameU
              (fun id' p => ?_) (Function.update_of_ne isE none sessions)
            unfold SampleFlows.add
            rw [if_neg fun both => isE both.2, Nat.add_zero]) (place + 1) .success
          have gained : (n.add action.parameter.oid e (s.ports (rule.samplePortlist e))).gain
              (Function.update sessions e none) (fun direction => s.ports (rule.samplePortlist direction)) =
              n.gain sessions fun direction => s.ports (rule.samplePortlist direction) :=
            SampleFlows.add_gain (fun direction => s.ports (rule.samplePortlist direction)) chosen
            (Function.update_self e none sessions)
              fun direction other => (Function.update_of_ne other none sessions).symm
          refine ⟨t, rc', ?_, sameU.trans same, ?_, fun all _ => status (fun direction => ?_) rfl⟩
          · simp only [if_true, attached]
            exact walked
          · simp only [sameU.ports] at counted
            rw [gained] at counted
            exact counted
          · by_cases isE : direction = e
            · rw [isE, free, Function.update_self]
            · rw [Function.update_of_ne isE, ← others direction isE]
              exact all direction
        · rw [here] at isId
          cases isId
          obtain ⟨error, isError, refused⟩ := samplepacketValidateObject_refused (granted.sub place) cannot
          obtain ⟨t, rc', walked, same, counted, status⟩ :=
            ih tail onceRest sampled (later noSession) (place + 1) error
          refine ⟨t, rc', ?_, same, counted, fun all => ?_⟩
          · simp only [if_true, refused]
            exact walked
          · have wrong := all e
            rw [here, noSession] at wrong
            cases wrong

/-- A rule none of whose sampling actions can be applied is refused, and nothing
changes. -/
theorem aclRuleCreateSamplepacketLoop_refused (granted : env.grants)
    (held : ∀ id direction, current = some (id, direction) →
      ¬ s.Attachable id direction (rule.samplePortlist direction))
    (cannot : ∀ action ∈ actions, ∀ direction, aclSampleDirection action.action = some direction →
      action.enable = true → ¬ s.Attachable action.parameter.oid direction (rule.samplePortlist direction))
    (place : Nat) (rc : SaiStatus) :
    ∃ rc', aclRuleCreateSamplepacketLoop rule env s place current rc actions = (s, rc') ∧
      ((rc ≠ .success ∨ ∃ action ∈ actions, aclSampleDirection action.action ≠ none ∧
        action.enable = true) →
        rc' ≠ .success) := by
  induction actions generalizing current place rc with
  | nil =>
    refine ⟨rc, rfl, fun some => ?_⟩
    rcases some with failed | ⟨action, member, _⟩
    · exact failed
    · cases member
  | cons action rest ih =>
    have cannotRest : ∀ other ∈ rest, ∀ direction, aclSampleDirection other.action = some direction →
        other.enable = true → ¬ s.Attachable other.parameter.oid direction (rule.samplePortlist direction) :=
      fun other member => cannot other (List.mem_cons_of_mem action member)
    have holdsNone : ∀ id direction, (none : Option (ObjectId × SampleDirection)) = some (id, direction) →
        ¬ s.Attachable id direction (rule.samplePortlist direction) := fun _ _ isIt => by cases isIt
    have attempt : ∀ id direction, ¬ s.Attachable id direction (rule.samplePortlist direction) →
        ∃ error rc', error ≠ SaiStatus.success ∧
          samplepacketValidateObject s id direction (env.sub place) (rule.samplePortlist direction) true true =
            (s, error) ∧
          aclRuleCreateSamplepacketLoop rule env s (place + 1) (some (id, direction)) error rest = (s, rc') ∧
          rc' ≠ .success := by
      intro id direction no
      obtain ⟨error, isError, refused⟩ := samplepacketValidateObject_refused (granted.sub place) no
      have holds : ∀ id' direction', some (id, direction) = some (id', direction') →
          ¬ s.Attachable id' direction' (rule.samplePortlist direction') := fun id' direction' isIt => by
        cases isIt
        exact no
      obtain ⟨rc', walked, failed⟩ := ih holds cannotRest (place + 1) error
      exact ⟨error, rc', isError, refused, walked, failed (.inl isError)⟩
    unfold aclRuleCreateSamplepacketLoop
    cases kind : aclSampleDirection action.action with
    | none =>
      cases current with
      | none =>
        obtain ⟨rc', walked, failed⟩ := ih holdsNone cannotRest (place + 1) rc
        refine ⟨rc', walked, fun some => failed ?_⟩
        rcases some with error | ⟨other, member, isOne, on⟩
        · exact .inl error
        rcases List.mem_cons.mp member with rfl | later
        · exact absurd kind isOne
        · exact .inr ⟨other, later, isOne, on⟩
      | some pair =>
        obtain ⟨error, rc', _, refused, walked, failed⟩ := attempt pair.1 pair.2 (held _ _ rfl)
        refine ⟨rc', ?_, fun _ => failed⟩
        simp only [refused]
        exact walked
    | some e =>
      cases on : action.enable with
      | false =>
        obtain ⟨rc', walked, failed⟩ := ih holdsNone cannotRest (place + 1) rc
        refine ⟨rc', walked, fun some => failed ?_⟩
        rcases some with error | ⟨other, member, isOne, isOn⟩
        · exact .inl error
        rcases List.mem_cons.mp member with rfl | later
        · rw [on] at isOn
          cases isOn
        · exact .inr ⟨other, later, isOne, isOn⟩
      | true =>
        obtain ⟨error, rc', _, refused, walked, failed⟩ := attempt _ e (cannot action List.mem_cons_self e kind on)
        refine ⟨rc', ?_, fun _ => failed⟩
        simp only [if_true, refused]
        exact walked

theorem aclRuleRemoveSamplepacketLoop_loss (granted : env.grants)
    (unique : (actions.map AclAction.action).Nodup) (sampled : SampledFlows s n)
    (named : ∀ direction, aclSampleNamed actions direction ≠ none →
      nullObjectId ∉ s.ports (rule.samplePortlist direction)) (place : Nat) :
    s.SameSessions (aclRuleRemoveSamplepacketLoop rule env s place actions) ∧
      SampledFlows (aclRuleRemoveSamplepacketLoop rule env s place actions)
        (n.loss (aclSampleNamed actions) fun direction => s.ports (rule.samplePortlist direction)) := by
  induction actions generalizing s n place with
  | nil =>
    have nothing : n.loss (aclSampleNamed []) (fun direction => s.ports (rule.samplePortlist direction)) = n :=
      SampleFlows.loss_none fun _ => rfl
    rw [nothing]
    exact ⟨.refl s, sampled⟩
  | cons action rest ih =>
    have tail : (rest.map AclAction.action).Nodup := (List.nodup_cons.mp unique).2
    unfold aclRuleRemoveSamplepacketLoop
    cases kind : aclSampleDirection action.action with
    | none =>
      have notOne : aclSampleNamed (action :: rest) = aclSampleNamed rest :=
        funext fun direction => aclSampleNamed_cons_ne (by rw [kind]; exact (Option.some_ne_none direction).symm)
      rw [notOne] at named ⊢
      exact ih tail sampled named (place + 1)
    | some e =>
      have here : aclSampleNamed (action :: rest) e = some action.parameter.oid := aclSampleNamed_cons_self kind
      have free : aclSampleNamed rest e = none := aclSampleNamed_tail unique kind
      have others : ∀ direction, direction ≠ e →
          aclSampleNamed (action :: rest) direction = aclSampleNamed rest direction :=
        fun direction other => aclSampleNamed_cons_ne (by
          rw [kind]
          exact fun same => other (Option.some.inj same).symm)
      have hereNamed := named e (by rw [here]; exact Option.some_ne_none _)
      obtain ⟨u, rc, removed, sameU, counted, _⟩ := sampled.detach action.parameter.oid e (granted.sub place)
        hereNamed
      obtain ⟨same, all⟩ := ih tail counted (fun direction some => by
        rw [sameU.ports]
        refine named direction ?_
        rw [others direction fun isE => some (by rw [isE, free])]
        exact some) (place + 1)
      have lost := SampleFlows.sub_loss (n := n) (fun direction => s.ports (rule.samplePortlist direction)) here free
        others
      simp only [removed]
      simp only [sameU.ports, lost] at all
      exact ⟨sameU.trans same, all⟩

end Loops
end SaiCommon
