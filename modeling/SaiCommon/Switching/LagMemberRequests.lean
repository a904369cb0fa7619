import SaiCommon.Switching.LagHeld

namespace SaiCommon

open LagState

inductive LagMemberAttrId
  | lagId
  | portId
  | egressDisable
  | ingressDisable
  | other
deriving DecidableEq

def LagMemberAttr.attrId : LagMemberAttr → LagMemberAttrId
  | .lagId _ => .lagId
  | .portId _ => .portId
  | .egressDisable _ => .egressDisable
  | .ingressDisable _ => .ingressDisable
  | .other => .other

def LagMemberAttr.lagValue : LagMemberAttr → Option ObjectId
  | .lagId value => some value
  | _ => none

def LagMemberAttr.portValue : LagMemberAttr → Option ObjectId
  | .portId value => some value
  | _ => none

def LagMemberAttr.ingressValue : LagMemberAttr → Option Bool
  | .ingressDisable value => some value
  | _ => none

def LagMemberAttr.egressValue : LagMemberAttr → Option Bool
  | .egressDisable value => some value
  | _ => none

/-- The attributes of each id stand in the same order. -/
def LagMemberSameOrder (attrs attrs' : List LagMemberAttr) : Prop :=
  ∀ id, attrs.filter (fun attr => attr.attrId = id) = attrs'.filter fun attr => attr.attrId = id

def lagMemberRequest (attrs : List LagMemberAttr) : Except SaiStatus (ObjectId × ObjectId × LagMemberParse) :=
  match lagMemberAttributesLoop ⟨none, none, none, none⟩ attrs with
  | .error error => .error error
  | .ok parse =>
    match parse.lag, parse.portId with
    | some lagId, some portId => .ok (lagId, portId, parse)
    | _, _ => .error .mandatoryAttributeMissing

/-- The part after it. -/
def LagState.createMemberOf (s : LagState) (lagId portId : ObjectId) (parse : LagMemberParse)
    (env : L2LagMemberEnv) : LagState × SaiStatus :=
  match s.validatePortAdd lagId portId with
  | .success =>
    match s.addPort lagId portId env with
    | (s, .success) =>
      match s.finishMember lagId portId parse env with
      | (s, .success) => (s, .success)
      | (s, error) => (s.removePort lagId portId .success, error)
    | (s, error) => (s, error)
  | error => (s, error)

/-- Only known attributes, the two ids are given, and each with one value. -/
structure LagMemberConsistent (attrs : List LagMemberAttr) : Prop where
  known : .other ∉ attrs
  lag : ∃ lagId, .lagId lagId ∈ attrs
  port : ∃ portId, .portId portId ∈ attrs
  oneLag : ∀ lagId lagId', .lagId lagId ∈ attrs → .lagId lagId' ∈ attrs → lagId = lagId'
  onePort : ∀ portId portId', .portId portId ∈ attrs → .portId portId' ∈ attrs → portId = portId'

/-- A consistent request proceeds and no other does, and what a failure after
the validation leaves. -/
structure LagMemberRight (s : LagState) (attrs : List LagMemberAttr) (env : L2LagMemberEnv) : Prop where
  proceeds : (∃ request, lagMemberRequest attrs = .ok request) ↔ LagMemberConsistent attrs
  refused : ¬ LagMemberConsistent attrs → (s.createMember attrs env).1 = s ∧
    (s.createMember attrs env).2 ≠ .success
  failed : ∀ lagId portId parse, lagMemberRequest attrs = .ok (lagId, portId, parse) →
    s.validatePortAdd lagId portId = .success → (s.createMember attrs env).2 ≠ .success →
    portId ∉ (s.createMember attrs env).1.cached lagId ∧
    portId ∉ (s.createMember attrs env).1.npuMembers lagId ∧
    s.Unheard (s.createMember attrs env).1 env.rifAdd

section Request
variable {attrs attrs' : List LagMemberAttr}

/-- The first value of each of the two ids, and the last of each flag, unless an
attribute is unknown. -/
theorem lagMemberAttributesLoop_eq (parse : LagMemberParse) (attrs : List LagMemberAttr) :
    lagMemberAttributesLoop parse attrs = if .other ∈ attrs then .error (.unknownAttribute 0) else .ok {
        lag := parse.lag.or (attrs.filterMap LagMemberAttr.lagValue).head?
        portId := parse.portId.or (attrs.filterMap LagMemberAttr.portValue).head?
        ingDisable := (attrs.filterMap LagMemberAttr.ingressValue).getLast?.or parse.ingDisable
        egrDisable := (attrs.filterMap LagMemberAttr.egressValue).getLast?.or parse.egrDisable } := by
  induction attrs generalizing parse with
  | nil => simp [lagMemberAttributesLoop]
  | cons attr rest ih =>
    cases attr with
    | other => simp [lagMemberAttributesLoop]
    | lagId value =>
      unfold lagMemberAttributesLoop
      rw [ih]
      simp only [List.mem_cons, reduceCtorEq, false_or, List.filterMap_cons, LagMemberAttr.lagValue,
        LagMemberAttr.portValue, LagMemberAttr.ingressValue, LagMemberAttr.egressValue, List.head?_cons]
      cases parse.lag <;> rfl
    | portId value =>
      unfold lagMemberAttributesLoop
      rw [ih]
      simp only [List.mem_cons, reduceCtorEq, false_or, List.filterMap_cons, LagMemberAttr.lagValue,
        LagMemberAttr.portValue, LagMemberAttr.ingressValue, LagMemberAttr.egressValue, List.head?_cons]
      cases parse.portId <;> rfl
    | egressDisable value =>
      unfold lagMemberAttributesLoop
      rw [ih]
      simp only [List.mem_cons, reduceCtorEq, false_or, List.filterMap_cons, LagMemberAttr.lagValue,
        LagMemberAttr.portValue, LagMemberAttr.ingressValue, LagMemberAttr.egressValue, List.getLast?_cons]
      cases (rest.filterMap LagMemberAttr.egressValue).getLast? <;> rfl
    | ingressDisable value =>
      unfold lagMemberAttributesLoop
      rw [ih]
      simp only [List.mem_cons, reduceCtorEq, false_or, List.filterMap_cons, LagMemberAttr.lagValue,
        LagMemberAttr.portValue, LagMemberAttr.ingressValue, LagMemberAttr.egressValue, List.getLast?_cons]
      cases (rest.filterMap LagMemberAttr.ingressValue).getLast? <;> rfl

theorem filterMap_ofId {α : Type} {value : LagMemberAttr → Option α} {id : LagMemberAttrId}
    (only : ∀ attr, attr.attrId ≠ id → value attr = none) (attrs : List LagMemberAttr) :
    attrs.filterMap value = (attrs.filter fun attr => attr.attrId = id).filterMap value := by
  induction attrs with
  | nil => rfl
  | cons attr rest ih =>
    by_cases isId : attr.attrId = id
    · rw [List.filter_cons, if_pos (decide_eq_true isId), List.filterMap_cons, List.filterMap_cons, ih]
    · rw [List.filter_cons, if_neg (fun is => isId (of_decide_eq_true is)), List.filterMap_cons, only attr isId, ih]

theorem LagMemberSameOrder.other (same : LagMemberSameOrder attrs attrs') : .other ∈ attrs ↔ .other ∈ attrs' := by
  have stands : ∀ list : List LagMemberAttr, .other ∈ list ↔
      .other ∈ list.filter fun attr => attr.attrId = .other := by
    intro list
    rw [List.mem_filter]
    exact (and_iff_left rfl).symm
  rw [stands attrs, stands attrs', same .other]

theorem LagMemberSameOrder.loop (same : LagMemberSameOrder attrs attrs') (parse : LagMemberParse) :
    lagMemberAttributesLoop parse attrs = lagMemberAttributesLoop parse attrs' := by
  have values : ∀ {α : Type} {value : LagMemberAttr → Option α} (id : LagMemberAttrId),
      (∀ attr, attr.attrId ≠ id → value attr = none) → attrs.filterMap value = attrs'.filterMap value := by
    intro α value id only
    rw [filterMap_ofId only attrs, filterMap_ofId only attrs', same id]
  have lags : attrs.filterMap LagMemberAttr.lagValue = attrs'.filterMap LagMemberAttr.lagValue := by
    refine values .lagId fun attr other => ?_
    cases attr with
    | lagId value => exact absurd rfl other
    | _ => rfl
  have ports : attrs.filterMap LagMemberAttr.portValue = attrs'.filterMap LagMemberAttr.portValue := by
    refine values .portId fun attr other => ?_
    cases attr with
    | portId value => exact absurd rfl other
    | _ => rfl
  have ingress : attrs.filterMap LagMemberAttr.ingressValue = attrs'.filterMap LagMemberAttr.ingressValue := by
    refine values .ingressDisable fun attr other => ?_
    cases attr with
    | ingressDisable value => exact absurd rfl other
    | _ => rfl
  have egress : attrs.filterMap LagMemberAttr.egressValue = attrs'.filterMap LagMemberAttr.egressValue := by
    refine values .egressDisable fun attr other => ?_
    cases attr with
    | egressDisable value => exact absurd rfl other
    | _ => rfl
  rw [lagMemberAttributesLoop_eq, lagMemberAttributesLoop_eq, lags, ports, ingress, egress]
  by_cases unknown : .other ∈ attrs
  · rw [if_pos unknown, if_pos (same.other.mp unknown)]
  · rw [if_neg unknown, if_neg fun is => unknown (same.other.mpr is)]

theorem mem_lagValues {lagId : ObjectId} :
    lagId ∈ attrs.filterMap LagMemberAttr.lagValue ↔ .lagId lagId ∈ attrs := by
  rw [List.mem_filterMap]
  constructor
  · rintro ⟨attr, listed, isIt⟩
    cases attr with
    | lagId value =>
      cases isIt
      exact listed
    | _ => cases isIt
  · exact fun listed => ⟨_, listed, rfl⟩

theorem mem_portValues {port : ObjectId} :
    port ∈ attrs.filterMap LagMemberAttr.portValue ↔ .portId port ∈ attrs := by
  rw [List.mem_filterMap]
  constructor
  · rintro ⟨attr, listed, isIt⟩
    cases attr with
    | portId value =>
      cases isIt
      exact listed
    | _ => cases isIt
  · exact fun listed => ⟨_, listed, rfl⟩

theorem lagMemberRequest_ok : (∃ request, lagMemberRequest attrs = .ok request) ↔
    .other ∉ attrs ∧ (∃ lagId, .lagId lagId ∈ attrs) ∧ ∃ portId, .portId portId ∈ attrs := by
  unfold lagMemberRequest
  rw [lagMemberAttributesLoop_eq]
  by_cases unknown : .other ∈ attrs
  · rw [if_pos unknown]
    refine iff_of_false ?_ fun is => is.1 unknown
    rintro ⟨_, isIt⟩
    cases isIt
  rw [if_neg unknown]
  dsimp only
  rw [Option.none_or, Option.none_or]
  cases lags : attrs.filterMap LagMemberAttr.lagValue with
  | nil =>
    refine iff_of_false ?_ ?_
    · rintro ⟨_, isIt⟩
      cases isIt
    · rintro ⟨_, ⟨lagId, listed⟩, _⟩
      rw [← mem_lagValues, lags] at listed
      cases listed
  | cons lagId lagRest =>
    cases ports : attrs.filterMap LagMemberAttr.portValue with
    | nil =>
      refine iff_of_false ?_ ?_
      · rintro ⟨_, isIt⟩
        cases isIt
      · rintro ⟨_, _, port, listed⟩
        rw [← mem_portValues, ports] at listed
        cases listed
    | cons port portRest =>
      refine iff_of_true ⟨_, rfl⟩ ⟨unknown, ⟨lagId, ?_⟩, port, ?_⟩
      · rw [← mem_lagValues, lags]
        exact List.mem_cons_self
      · rw [← mem_portValues, ports]
        exact List.mem_cons_self

theorem lagMemberConsistent_iff : LagMemberConsistent attrs ↔ (∃ request, lagMemberRequest attrs = .ok request) ∧
    (∀ lagId lagId', .lagId lagId ∈ attrs → .lagId lagId' ∈ attrs → lagId = lagId') ∧
    ∀ portId portId', .portId portId ∈ attrs → .portId portId' ∈ attrs → portId = portId' := by
  rw [lagMemberRequest_ok]
  constructor
  · exact fun good => ⟨⟨good.known, good.lag, good.port⟩, good.oneLag, good.onePort⟩
  · exact fun parts => ⟨parts.1.1, parts.1.2.1, parts.1.2.2, parts.2.1, parts.2.2⟩

variable {s : LagState} {env : L2LagMemberEnv} {lagId portId : ObjectId} {parse : LagMemberParse}

theorem LagState.createMember_of (isOk : lagMemberRequest attrs = .ok (lagId, portId, parse)) :
    s.createMember attrs env = s.createMemberOf lagId portId parse env := by
  unfold lagMemberRequest at isOk
  unfold LagState.createMember
  cases parsed : lagMemberAttributesLoop ⟨none, none, none, none⟩ attrs with
  | error error =>
    rw [parsed] at isOk
    cases isOk
  | ok result =>
    rw [parsed] at isOk
    dsimp only at isOk ⊢
    cases isLag : result.lag with
    | none =>
      rw [isLag] at isOk
      cases isOk
    | some lag =>
      cases isPort : result.portId with
      | none =>
        rw [isLag, isPort] at isOk
        cases isOk
      | some port =>
        rw [isLag, isPort] at isOk
        cases isOk
        rfl

theorem LagState.createMember_refused (refused : ¬ ∃ request, lagMemberRequest attrs = .ok request) :
    (s.createMember attrs env).1 = s ∧ (s.createMember attrs env).2 ≠ .success := by
  unfold lagMemberRequest at refused
  unfold LagState.createMember
  rw [lagMemberAttributesLoop_eq] at refused ⊢
  by_cases unknown : .other ∈ attrs
  · rw [if_pos unknown]
    exact ⟨rfl, SaiStatus.noConfusion⟩
  rw [if_neg unknown] at refused ⊢
  dsimp only at refused ⊢
  split
  · rename_i isLag isPort
    rw [isLag, isPort] at refused
    exact absurd ⟨_, rfl⟩ refused
  · exact ⟨rfl, SaiStatus.noConfusion⟩

end Request

section Failure
variable {s t : LagState} {lagId portId : ObjectId} {parse : LagMemberParse} {env : L2LagMemberEnv}

theorem LagState.npuRemovePorts_gone (s : LagState) (lagId portId : ObjectId) :
    portId ∉ (s.npuRemovePorts lagId [portId] .success).1.npuMembers lagId := by
  unfold LagState.npuMembers
  rw [npuRemovePorts_get, if_pos rfl]
  cases s.npu.get lagId with
  | none => exact Finset.notMem_empty portId
  | some members =>
    change portId ∉ members \ [portId].toFinset
    intro member
    exact (Finset.mem_sdiff.mp member).2 (List.mem_toFinset.mpr List.mem_cons_self)

theorem LagState.removePort_gone (s : LagState) (lagId portId : ObjectId) :
    portId ∉ (s.removePort lagId portId .success).cached lagId ∧
      portId ∉ (s.removePort lagId portId .success).npuMembers lagId := by
  refine ⟨fun member => ?_, s.npuRemovePorts_gone lagId portId⟩
  rw [cached_removePort, if_pos rfl] at member
  exact (Finset.mem_sdiff.mp member).2 (List.mem_toFinset.mpr List.mem_cons_self)

theorem LagState.givenFlagSet_told (s : LagState) (lagId portId : ObjectId) (isIngress : Bool)
    (value : Option Bool) (npu : SaiStatus) : (s.givenFlagSet lagId portId isIngress value npu).1.told = s.told := by
  unfold LagState.givenFlagSet
  split
  · rfl
  unfold LagState.portFlagSet
  split
  · rfl
  rename_i value _ node _
  by_cases same : (if isIngress then node.ingressDisable else node.egressDisable) = value
  · rw [if_pos same]
  · rw [if_neg same]
    cases npu <;> rfl

variable (parse env) in
theorem LagState.finishMember_told (failed : (s.finishMember lagId portId parse env).2 ≠ .success) :
    s.Unheard (s.finishMember lagId portId parse env).1 env.rifAdd := by
  have ingress := s.givenFlagSet_told lagId portId true parse.ingDisable env.ingDisable
  unfold LagState.finishMember at failed ⊢
  split
  · rename_i u isIt
    rw [isIt] at ingress failed
    have egress := u.givenFlagSet_told lagId portId false parse.egrDisable env.egrDisable
    dsimp only at ingress failed
    split
    · rename_i v isIt'
      rw [isIt'] at egress failed
      dsimp only at egress failed
      rcases v.rifNotify_told lagId .addPorts [portId] env.rifAdd with ⟨_, ok⟩ | ⟨answer, _, told⟩
      · exact absurd ok failed
      rw [answer] at failed
      rw [egress, ingress] at told
      exact .inr ⟨failed, _, told⟩
    · rename_i isIt'
      rw [isIt'] at egress
      exact .inl (egress.trans ingress)
  · rename_i isIt
    rw [isIt] at ingress
    exact .inl ingress

theorem LagState.createMemberOf_failed (valid : s.validatePortAdd lagId portId = .success)
    (failed : (s.createMemberOf lagId portId parse env).2 ≠ .success) :
    portId ∉ (s.createMemberOf lagId portId parse env).1.cached lagId ∧
    (portId ∈ (s.createMemberOf lagId portId parse env).1.npuMembers lagId ↔
      env.npuAdd ≠ .success ∧ portId ∈ s.npuMembers lagId) ∧
    s.Unheard (s.createMemberOf lagId portId parse env).1 env.rifAdd := by
  have new := (validatePortAdd_success valid).2.1
  unfold LagState.createMemberOf at failed ⊢
  rw [valid] at failed ⊢
  dsimp only at failed ⊢
  unfold LagState.addPort at failed ⊢
  cases added : env.npuAdd with
  | success =>
    rw [added, npuAddPorts_success] at failed
    rw [npuAddPorts_success]
    dsimp only at failed ⊢
    have joined : ∀ q : LagState, portId ∉ q.npuMembers lagId →
        (portId ∈ q.npuMembers lagId ↔ SaiStatus.success ≠ .success ∧ portId ∈ s.npuMembers lagId) :=
      fun q gone => iff_of_false gone fun both => both.1 rfl
    cases inserted : env.nodeAdd with
    | success =>
      rw [inserted] at failed
      unfold LagState.portNodeAdd at failed ⊢
      dsimp only at failed ⊢
      split
      · rename_i isFinished
        rw [isFinished] at failed
        exact absurd rfl failed
      · rename_i u error isError isFinished
        have told := finishMember_told parse env (by rw [isFinished]; exact isError)
        rw [isFinished] at told
        obtain ⟨gone, npuGone⟩ := u.removePort_gone lagId portId
        exact ⟨gone, joined _ npuGone, told⟩
    | _ => exact ⟨new, joined _ (npuRemovePorts_gone _ lagId portId), .inl rfl⟩
  | _ => exact ⟨new, (and_iff_right SaiStatus.noConfusion).symm, .inl rfl⟩

theorem lagMemberRequest_mem {attrs : List LagMemberAttr}
    (isOk : lagMemberRequest attrs = .ok (lagId, portId, parse)) : .lagId lagId ∈ attrs ∧ .portId
    portId ∈ attrs := by
  unfold lagMemberRequest at isOk
  rw [lagMemberAttributesLoop_eq] at isOk
  by_cases unknown : .other ∈ attrs
  · rw [if_pos unknown] at isOk
    cases isOk
  rw [if_neg unknown] at isOk
  dsimp only at isOk
  rw [Option.none_or, Option.none_or] at isOk
  split at isOk
  · rename_i isLag isPort
    cases isOk
    exact ⟨mem_lagValues.mp (List.mem_of_mem_head? isLag), mem_portValues.mp (List.mem_of_mem_head? isPort)⟩
  · cases isOk

/-- A known request gives each id one value, and the NPU does not refuse a port
that it holds for the LAG although the port may be added. -/
def LagMemberUnambiguous (s : LagState) (attrs : List LagMemberAttr) (env : L2LagMemberEnv) : Prop :=
  .other ∉ attrs → ∀ lagId lagId' portId portId', .lagId lagId ∈ attrs → .lagId lagId' ∈ attrs →
    .portId portId ∈ attrs → .portId portId' ∈ attrs → lagId = lagId' ∧ portId = portId' ∧
      (s.validatePortAdd lagId portId = .success → env.npuAdd ≠ .success → portId ∉ s.npuMembers lagId)

theorem lagMemberRight_iff (s : LagState) (attrs : List LagMemberAttr) (env : L2LagMemberEnv) :
    LagMemberRight s attrs env ↔ LagMemberUnambiguous s attrs env := by
  constructor
  · intro right known lagId lagId' portId portId' isLag isLag' isPort isPort'
    have proceeds := lagMemberRequest_ok.mpr ⟨known, ⟨lagId, isLag⟩, portId, isPort⟩
    have good := right.proceeds.mp proceeds
    refine ⟨good.oneLag _ _ isLag isLag', good.onePort _ _ isPort isPort', fun valid refused member => ?_⟩
    obtain ⟨⟨j, port, parse⟩, isOk⟩ := proceeds
    obtain ⟨jListed, portListed⟩ := lagMemberRequest_mem isOk
    cases good.oneLag _ _ isLag jListed
    cases good.onePort _ _ isPort portListed
    have answer : (s.createMember attrs env).2 ≠ .success := by
      rw [createMember_of isOk]
      unfold LagState.createMemberOf LagState.addPort
      rw [valid]
      dsimp only
      cases added : env.npuAdd with
      | success => exact absurd added refused
      | _ => exact SaiStatus.noConfusion
    have gone := (right.failed lagId portId parse isOk valid answer).2.1
    rw [createMember_of isOk] at gone answer
    exact gone ((createMemberOf_failed valid answer).2.1.mpr ⟨refused, member⟩)
  · intro clear
    have proceeds : (∃ request, lagMemberRequest attrs = .ok request) ↔ LagMemberConsistent attrs := by
      refine ⟨fun is => lagMemberConsistent_iff.mpr ⟨is, ?_⟩, fun good => (lagMemberConsistent_iff.mp good).1⟩
      obtain ⟨known, ⟨j, jListed⟩, port, portListed⟩ := lagMemberRequest_ok.mp is
      constructor
      · intro lagId lagId' isLag isLag'
        exact (clear known lagId lagId' port port isLag isLag' portListed portListed).1
      · intro portId portId' isPort isPort'
        exact (clear known j j portId portId' jListed jListed isPort isPort').2.1
    refine ⟨proceeds, fun bad => ?_, fun lagId portId parse isOk valid failed => ?_⟩
    · exact createMember_refused fun is => bad (proceeds.mp is)
    · obtain ⟨isLag, isPort⟩ := lagMemberRequest_mem isOk
      have known := (lagMemberRequest_ok.mp ⟨_, isOk⟩).1
      rw [createMember_of isOk] at failed ⊢
      obtain ⟨new, npu, told⟩ := createMemberOf_failed valid failed
      refine ⟨new, fun member => ?_, told⟩
      obtain ⟨refused, held⟩ := npu.mp member
      exact (clear known lagId lagId portId portId isLag isLag isPort isPort).2.2 valid refused held

/-- In every state a member creation is right exactly when it is unambiguous; where the cache and the NPU are in step
the NPU never holds a port
that may be added. The order of attributes of different ids does not matter. -/
theorem lagMember_consistent (s : LagState) :
    (∀ attrs env, LagMemberRight s attrs env ↔ LagMemberUnambiguous s attrs env) ∧
    (LagReachable s → ∀ lagId portId, s.validatePortAdd lagId portId = .success →
      portId ∉ s.npuMembers lagId) ∧
    ∀ attrs attrs' env, LagMemberSameOrder attrs attrs' → s.createMember attrs env = s.createMember attrs' env := by
  refine ⟨lagMemberRight_iff s, fun reach lagId portId valid member => ?_, fun attrs attrs' env same => ?_⟩
  · rw [← reach.sync.agree lagId] at member
    exact (validatePortAdd_success valid).2.1 member
  · unfold LagState.createMember
    rw [same.loop]

end Failure

def lagNoMember : LagState :=
  [LagCall.createLag [] ⟨.ok ⟨.lag, 1⟩, .success, fun _ => lagSamplePortList⟩].foldl LagCall.step lagSample

theorem lagNoMember_run : LagRun lagNoMember :=
  Runs.Reach.run (.start lagSample_fresh) (Runs.allowedRun_of_forall (fun _ _ => trivial) _ _)

theorem lagMember_consistent_sample :
    (∀ attrs env, LagMemberRight lagNoMember attrs env ↔ LagMemberUnambiguous lagNoMember attrs env) ∧
    (LagReachable lagNoMember → ∀ lagId portId, lagNoMember.validatePortAdd lagId portId = .success →
      portId ∉ lagNoMember.npuMembers lagId) ∧ ∀ attrs attrs' env, LagMemberSameOrder attrs attrs' →
      lagNoMember.createMember attrs env = lagNoMember.createMember attrs' env :=
  lagMember_consistent lagNoMember

/-- A second, different LAG id is dropped, and the member is created. -/
theorem lagMember_not_consistent : ¬ ∀ s, LagRun s → ∀ attrs env, LagMemberRight s attrs env := by
  intro all
  have right := all _ lagNoMember_run [.lagId ⟨.lag, 1⟩, .lagId ⟨.lag, 2⟩, .portId ⟨.port, 1⟩]
    ⟨.success, nullObjectId, .success, .success, .success, .success⟩
  have good := right.proceeds.mp ⟨_, rfl⟩
  have same := good.oneLag ⟨.lag, 1⟩ ⟨.lag, 2⟩ (by decide) (by decide)
  revert same
  decide

end SaiCommon
