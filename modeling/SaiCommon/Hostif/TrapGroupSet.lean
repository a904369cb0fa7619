import SaiCommon.Hostif.TrapRuns
import SaiCommon.Lib.Push

namespace SaiCommon

structure TrapGroupValue where
  adminState : Bool
  cpuQueue : Nat
deriving DecidableEq

/-- What a trap that takes an attribute of its group makes of it. -/
def TrapGroupAttr.put (attr : TrapGroupAttr) (held : TrapGroupValue) : TrapGroupValue :=
  match attr with
  | .adminState value => { held with adminState := value }
  | .queue value => { held with cpuQueue := value }
  | _ => held

theorem TrapGroupAttr.put_idem (attr : TrapGroupAttr) (held : TrapGroupValue) :
    attr.put (attr.put held) = attr.put held := by
  cases attr <;> rfl

def npuUpdateTrapgroup (s : HostifState) (npu : HostifTrapId → TrapGroupValue) (groupId : ObjectId)
    (group : TrapGroup)
    (attr : TrapGroupAttr) (npuUpdate : HostifTrapId → SaiStatus) :
    HostifState × (HostifTrapId → TrapGroupValue) × SaiStatus :=
  match Push.run .success npuUpdate attr.put group.trapList npu with
  | (npu, .success) => ({ s with trapGroupTree := s.trapGroupTree.put groupId (group.fill attr) }, npu, .success)
  | (npu, error) => (s, npu, error)

def npuSetHostifTrapGroup (platform : HostifPlatform) (s : HostifState) (npu : HostifTrapId → TrapGroupValue)
    (groupId : ObjectId) (attr : TrapGroupAttr) (env : TrapGroupSetEnv) :
    HostifState × (HostifTrapId → TrapGroupValue) × SaiStatus :=
  if groupId.objType ≠ .trapGroup then (s, npu, .invalidObjectType)
  else match validateTrapgroupAttrlist platform env.npuValidate [attr] .set with
    | .success =>
      match s.trapGroupTree.get groupId with
      | none => (s, npu, .invalidObjectId)
      | some group =>
        match attr with
        | .adminState value =>
          if group.adminState = value then (s, npu, .success)
          else npuUpdateTrapgroup s npu groupId group attr env.npuUpdate
        | .queue value =>
          if group.cpuQueue = value then (s, npu, .success)
          else if s.queueInUse value then (s, npu, .itemAlreadyExists)
          else npuUpdateTrapgroup s npu groupId group attr env.npuUpdate
        | _ => (s, npu, .attrNotSupported 0)
    | error => (s, npu, error)

section Database
variable (s : HostifState) (npu : HostifTrapId → TrapGroupValue) (groupId : ObjectId) (attr : TrapGroupAttr)

theorem npuUpdateTrapgroup_database (group : TrapGroup) (npuUpdate : HostifTrapId → SaiStatus) :
    ((npuUpdateTrapgroup s npu groupId group attr npuUpdate).1,
      (npuUpdateTrapgroup s npu groupId group attr npuUpdate).2.2) =
      updateTrapgroup s groupId group attr npuUpdate := by
  have status := Push.run_status SaiStatus.success npuUpdate attr.put group.trapList npu
  unfold npuUpdateTrapgroup updateTrapgroup
  generalize Push.run SaiStatus.success npuUpdate attr.put group.trapList npu = pushed at status ⊢
  obtain ⟨told, result⟩ := pushed
  cases found : group.trapList.find? fun trapId => npuUpdate trapId ≠ .success with
  | none =>
    rw [found] at status
    change result = .success at status
    subst status
    rfl
  | some trapId =>
    have refuses :=
      of_decide_eq_true (List.find?_some (p := fun trapId => decide (npuUpdate trapId ≠ .success)) found)
    rw [found] at status
    change result = npuUpdate trapId at status
    dsimp only
    rw [← status] at refuses ⊢
    cases result <;> first | rfl | exact absurd rfl refuses

theorem npuSetHostifTrapGroup_database (platform : HostifPlatform) (env : TrapGroupSetEnv) :
    ((npuSetHostifTrapGroup platform s npu groupId attr env).1,
      (npuSetHostifTrapGroup platform s npu groupId attr env).2.2) =
      setHostifTrapGroup platform s groupId attr env := by
  unfold npuSetHostifTrapGroup setHostifTrapGroup
  by_cases kind : groupId.objType ≠ .trapGroup
  · rw [if_pos kind, if_pos kind]
  rw [if_neg kind, if_neg kind]
  cases validateTrapgroupAttrlist platform env.npuValidate [attr] .set with
  | success =>
    cases s.trapGroupTree.get groupId with
    | none => rfl
    | some group =>
      have update := npuUpdateTrapgroup_database s npu groupId attr group env.npuUpdate
      cases attr with
      | adminState value =>
        dsimp only
        split
        · rfl
        · exact update
      | queue value =>
        dsimp only
        split
        · rfl
        split
        · rfl
        · exact update
      | _ => rfl
  | _ => rfl

end Database

/-- How a set of a group should end: an error leaves the group and what its traps
have, with success they all have the new value. -/
structure TrapGroupAllOrNone (s : HostifState) (npu : HostifTrapId → TrapGroupValue) (groupId : ObjectId)
    (attr : TrapGroupAttr) (ended : HostifState × (HostifTrapId → TrapGroupValue) × SaiStatus) : Prop where
  error : ended.2.2 ≠ .success → ended.1 = s ∧
    ∀ group, s.trapGroupTree.get groupId = some group → ∀ trapId ∈ group.trapList, ended.2.1 trapId = npu trapId
  success : ended.2.2 = .success → ∃ group, s.trapGroupTree.get groupId = some group ∧
    ended.1.trapGroupTree.get groupId = some (group.fill attr) ∧
    ∀ trapId ∈ group.trapList, ended.2.1 trapId = attr.put (npu trapId)

/-- A value that the group has already is in the NPU for all its traps; of another
value that can be set, the first trap that refuses it is the first of the group, or
the ones before it had it already. -/
def TrapGroupSetWhen (platform : HostifPlatform) (s : HostifState) (npu : HostifTrapId → TrapGroupValue)
    (groupId : ObjectId) (attr : TrapGroupAttr) (env : TrapGroupSetEnv) : Prop :=
  groupId.objType = .trapGroup → validateTrapgroupAttrlist platform env.npuValidate [attr] .set = .success →
  ∀ group, s.trapGroupTree.get groupId = some group →
    if group.fill attr = group then ∀ trapId ∈ group.trapList, attr.put (npu trapId) = npu trapId
    else (∀ value, attr = .queue value → s.queueInUse value = false) →
      (∃ trapId ∈ group.trapList, env.npuUpdate trapId ≠ .success) →
      ∀ trapId ∈ Push.told .success env.npuUpdate group.trapList, attr.put (npu trapId) = npu trapId

section Set
variable {platform : HostifPlatform} {s : HostifState} {npu : HostifTrapId → TrapGroupValue} {groupId : ObjectId}
  {group : TrapGroup} {attr : TrapGroupAttr} {env : TrapGroupSetEnv}

theorem TrapGroupAllOrNone.refused {status : SaiStatus} (error : status ≠ .success) :
    TrapGroupAllOrNone s npu groupId attr (s, npu, status) :=
  ⟨fun _ => ⟨rfl, fun _ _ _ _ => rfl⟩, fun success => absurd success error⟩

theorem TrapGroupAllOrNone.unchanged_iff (stored : s.trapGroupTree.get groupId = some group)
    (same : group.fill attr = group) : TrapGroupAllOrNone s npu groupId attr (s, npu, .success) ↔
      ∀ trapId ∈ group.trapList, attr.put (npu trapId) = npu trapId := by
  constructor
  · intro right trapId member
    obtain ⟨found, isIt, _, has⟩ := right.success rfl
    cases stored.symm.trans isIt
    exact (has trapId member).symm
  · intro has
    refine ⟨fun error => absurd rfl error, fun _ =>
      ⟨group, stored, ?_, fun trapId member => (has trapId member).symm⟩⟩
    rw [same]
    exact stored

theorem npuUpdateTrapgroup_iff (stored : s.trapGroupTree.get groupId = some group)
    (npuUpdate : HostifTrapId → SaiStatus) :
    TrapGroupAllOrNone s npu groupId attr (npuUpdateTrapgroup s npu groupId group attr npuUpdate) ↔
      ((∃ trapId ∈ group.trapList, npuUpdate trapId ≠ .success) →
        ∀ trapId ∈ Push.told .success npuUpdate group.trapList, attr.put (npu trapId) = npu trapId) := by
  have same : (∀ trapId ∈ group.trapList,
      (Push.run .success npuUpdate attr.put group.trapList npu).1 trapId = npu trapId) ↔ _ :=
    Push.run_same_iff attr.put_idem
  have ok : (Push.run .success npuUpdate attr.put group.trapList npu).2 = .success ↔ _ :=
    Push.run_ok_iff group.trapList npu
  by_cases all : ∀ trapId ∈ group.trapList, npuUpdate trapId = .success
  · have has : ∀ trapId ∈ group.trapList, (Push.run .success npuUpdate attr.put group.trapList npu).1 trapId =
        attr.put (npu trapId) := fun _ member => Push.run_all attr.put_idem all member
    have accepted := ok.mpr all
    unfold npuUpdateTrapgroup
    generalize Push.run .success npuUpdate attr.put group.trapList npu = told at accepted has
    obtain ⟨told, status⟩ := told
    cases accepted
    refine iff_of_true ⟨fun error => absurd rfl error, fun _ => ⟨group, stored, ?_, has⟩⟩ ?_
    · exact KeyTree.get_put_self _ _ _
    · rintro ⟨trapId, member, refuses⟩
      exact absurd (all trapId member) refuses
  · have refused : ∃ trapId ∈ group.trapList, npuUpdate trapId ≠ .success := by
      obtain ⟨trapId, both⟩ := not_forall.mp all
      obtain ⟨member, refuses⟩ := Classical.not_imp.mp both
      exact ⟨trapId, member, refuses⟩
    have failed := mt ok.mp all
    rw [← same, forall_prop_of_true refused]
    unfold npuUpdateTrapgroup
    generalize Push.run .success npuUpdate attr.put group.trapList npu = told at failed
    obtain ⟨told, status⟩ := told
    split
    · rename_i isIt
      cases isIt
      exact absurd rfl failed
    rename_i isIt
    cases isIt
    constructor
    · exact fun right => (right.error failed).2 group stored
    · intro kept
      refine ⟨fun _ => ⟨rfl, fun found isIt => ?_⟩, fun success => absurd success failed⟩
      cases stored.symm.trans isIt
      exact kept

/-- A set of a trap group reaches all its traps or none exactly when the traps
before a refusal, and those of a group that has the value already, had it. -/
theorem trapGroupSet_allOrNone (platform : HostifPlatform) (s : HostifState) (npu : HostifTrapId → TrapGroupValue)
    (groupId : ObjectId) (attr : TrapGroupAttr) (env : TrapGroupSetEnv) :
    TrapGroupAllOrNone s npu groupId attr (npuSetHostifTrapGroup platform s npu groupId attr env) ↔
      TrapGroupSetWhen platform s npu groupId attr env := by
  unfold npuSetHostifTrapGroup TrapGroupSetWhen
  by_cases kind : groupId.objType = .trapGroup
  swap
  · rw [if_pos kind]
    exact iff_of_true (.refused SaiStatus.noConfusion) fun is => absurd is kind
  rw [if_neg (not_not.mpr kind), forall_prop_of_true kind]
  cases valid : validateTrapgroupAttrlist platform env.npuValidate [attr] .set with
  | success =>
    rw [forall_prop_of_true rfl]
    cases stored : s.trapGroupTree.get groupId with
    | none => exact iff_of_true (.refused SaiStatus.noConfusion) fun _ isIt => by cases isIt
    | some group =>
      have only : ∀ condition : TrapGroup → Prop, (∀ found, some group = some found → condition found) ↔
          condition group := fun _ => ⟨fun each => each group rfl, fun has _ isIt => Option.some.inj isIt ▸ has⟩
      rw [only]
      cases attr with
      | adminState value =>
        dsimp only
        by_cases same : group.adminState = value
        · subst same
          rw [if_pos rfl, if_pos (by rfl)]
          exact TrapGroupAllOrNone.unchanged_iff stored rfl
        · have changed : group.fill (.adminState value) ≠ group := fun is =>
            same (congrArg TrapGroup.adminState is).symm
          rw [if_neg same, if_neg changed, npuUpdateTrapgroup_iff stored]
          exact (imp_iff_right fun _ is => TrapGroupAttr.noConfusion is).symm
      | queue value =>
        dsimp only
        by_cases same : group.cpuQueue = value
        · subst same
          rw [if_pos rfl, if_pos (by rfl)]
          exact TrapGroupAllOrNone.unchanged_iff stored rfl
        have changed : group.fill (.queue value) ≠ group := fun is => same (congrArg TrapGroup.cpuQueue is).symm
        rw [if_neg same, if_neg changed]
        by_cases used : s.queueInUse value = true
        · rw [if_pos used]
          refine iff_of_true (.refused SaiStatus.noConfusion) fun free => ?_
          rw [free value rfl] at used
          cases used
        · rw [if_neg used, npuUpdateTrapgroup_iff stored]
          refine (imp_iff_right ?_).symm
          intro other is
          cases is
          exact (Bool.not_eq_true _).mp used
      | _ =>
        refine iff_of_true (.refused SaiStatus.noConfusion) ?_
        split
        · exact fun _ _ => rfl
        · exact fun _ _ _ _ => rfl
  | _ => exact iff_of_true (.refused SaiStatus.noConfusion) fun is => by cases is

end Set

def sampleTwoTraps : HostifState :=
  { sampleHostifStart with trapGroupTree :=
      (∅ : KeyTree ObjectId TrapGroup).put ⟨.trapGroup, 1⟩ ⟨true, 0, 3, nullObjectId, 2, [.lacp, .stp]⟩ }

/-- The NPU takes queue 5 for the first trap and refuses the second. -/
theorem trapGroupSet_not_allOrNone : ¬ ∀ platform s npu groupId attr env, TrapGroupAllOrNone s npu groupId attr
    (npuSetHostifTrapGroup platform s npu groupId attr env) := by
  intro all
  have right := all sampleHostifPlatform sampleTwoTraps (fun _ => ⟨true, 3⟩) ⟨.trapGroup, 1⟩ (.queue 5)
    ⟨fun _ => .success, fun trapId => if trapId = .stp then .failure else .success⟩
  have kept :=
    (right.error (by decide)).2 ⟨true, 0, 3, nullObjectId, 2, [.lacp, .stp]⟩ (by decide) .lacp (by decide)
  exact absurd kept (by decide)

end SaiCommon
