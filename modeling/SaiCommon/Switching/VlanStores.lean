import SaiCommon.Switching.VlanMembership
import SaiCommon.Switching.StpVlans

namespace SaiCommon

/-- The three stores that a VLAN is in: the VLAN list and the spanning-tree
instances of the cache, and the VLANs that the NPU holds. -/
structure VlanStores where
  stp : StpState
  npu : Finset Nat

/-- What is answered to a VLAN that is created: by the insertion in the list, by
the NPU, and by the two steps of the spanning tree. -/
structure L2VlanCreateEnv where
  insert : SaiStatus
  npu : SaiStatus
  stpRemove : SaiStatus
  stpAdd : StpEnv

structure L2VlanDeleteEnv where
  stp : SaiStatus
  npu : SaiStatus
deriving DecidableEq

def stpVlanDestroy (s : StpState) (vlanId : Nat) (npu : SaiStatus) : StpState × SaiStatus :=
  match s.vlanRemove (s.stpVlanMap vlanId) vlanId npu with
  | (s, .success) => (s.writeMap vlanId nullObjectId, .success)
  | (s, error) => (s, error)

def stpDefaultVlanUpdate (s : StpState) (vlanId : Nat) (env : L2VlanCreateEnv) : StpState × SaiStatus :=
  match (if s.stpVlanMap vlanId ≠ nullObjectId then stpVlanDestroy s vlanId env.stpRemove else (s, .success)) with
  | (s, .success) =>
    match s.vlanAdd s.defStpId vlanId env.stpAdd with
    | (s, .success) => (s.writeMap vlanId s.defStpId, .success)
    | (s, error) => (s, error)
  | (s, error) => (s, error)

namespace VlanStores
variable (s : VlanStores)

def insertVlan (vlanId : Nat) (insert : SaiStatus) : VlanStores × SaiStatus :=
  if vlanId ∈ s.stp.vlanList then (s, .itemAlreadyExists)
  else match insert with
    | .success => ({ s with stp := { s.stp with vlanList := s.stp.vlanList ++ [vlanId] } }, .success)
    | error => (s, error)

def removeVlan (vlanId : Nat) : VlanStores :=
  { s with stp := { s.stp with vlanList := s.stp.vlanList.filter fun other => other ≠ vlanId } }

/-- `vlan_create` of the NPU, which says ITEM_ALREADY_EXISTS of the VLANs that it
holds and of no other. -/
def npuCreate (vlanId : Nat) : SaiStatus → VlanStores × SaiStatus
  | .success => if vlanId ∈ s.npu then (s, .itemAlreadyExists) else ({ s with npu := insert vlanId s.npu }, .success)
  | .itemAlreadyExists => if vlanId ∈ s.npu then (s, .itemAlreadyExists) else (s, .failure)
  | error => (s, error)

end VlanStores

def l2DeleteVlan (s : VlanStores) (vlanId : Nat) (env : L2VlanDeleteEnv) : VlanStores × SaiStatus :=
  match stpVlanDestroy s.stp vlanId env.stp with
  | (stp, .success) =>
    match env.npu with
    | .success => (VlanStores.removeVlan ⟨stp, s.npu.erase vlanId⟩ vlanId, .success)
    | error => (⟨stp, s.npu⟩, error)
  | (stp, error) => (⟨stp, s.npu⟩, error)

def l2CreateListedVlan (s : VlanStores) (vlanId : Nat) (env : L2VlanCreateEnv) : VlanStores × SaiStatus :=
  let (s, status) := s.npuCreate vlanId env.npu
  if status ≠ .success ∧ status ≠ .itemAlreadyExists then (s.removeVlan vlanId, status)
  else if vlanId ≠ initDefaultVlan then
    let (stp, status) := stpDefaultVlanUpdate s.stp vlanId env
    (⟨stp, s.npu⟩, status)
  else (s, status)

section Calls
variable (platform : VlanPlatform)

def l2CreateVlan (s : VlanStores) (vlanId : Nat) (env : L2VlanCreateEnv) : VlanStores × SaiStatus :=
  match vlanIdAvailable platform vlanId with
  | .success =>
    match s.insertVlan vlanId env.insert with
    | (s, .success) => l2CreateListedVlan s vlanId env
    | (s, error) => (s, error)
  | error => (s, error)

def l2RemoveVlan (s : VlanStores) (vlanId : Nat) (env : L2VlanDeleteEnv) : VlanStores × SaiStatus :=
  match vlanIdAvailable platform vlanId with
  | .success => if vlanId ∉ s.stp.vlanList then (s, .itemNotFound) else l2DeleteVlan s vlanId env
  | error => (s, error)

/-- The loop of `sai_l2_remove_all_vlans`; what the deletions return is ignored. -/
def l2RemoveVlans (s : VlanStores) (vlanIds : List Nat) (env : Nat → L2VlanDeleteEnv) : VlanStores :=
  vlanIds.foldl (fun s vlanId =>
    if vlanId = platform.internalVlanId then s
    else if vlanId ∈ s.stp.vlanList then (l2DeleteVlan s vlanId (env vlanId)).1
    else s) s

/-- `sai_l2_remove_all_vlans`, from `SAI_MIN_VLAN_TAG_ID` to `SAI_MAX_VLAN_TAG_ID`. -/
def l2RemoveAllVlans (s : VlanStores) (minVlanTagId maxVlanTagId : Nat) (env : Nat → L2VlanDeleteEnv) :
    VlanStores × SaiStatus :=
  (l2RemoveVlans platform s (List.range' minVlanTagId (maxVlanTagId + 1 - minVlanTagId)) env, .success)

end Calls

def StpState.Holds (s : StpState) (stpInstId : ObjectId) (vlanId : Nat) : Prop :=
  ∃ vlans, s.stpInfoTree.get stpInstId = some vlans ∧ vlanId ∈ vlans

def VlanStores.Exists (s : VlanStores) (vlanId : Nat) : Prop :=
  vlanId ∈ s.stp.vlanList ∨ vlanId ∈ s.npu ∨ ∃ stpInstId, s.stp.Holds stpInstId vlanId

inductive VlanStoreCall
  | create (vlanId : Nat) (env : L2VlanCreateEnv)
  | remove (vlanId : Nat) (env : L2VlanDeleteEnv)
  | removeAll (minVlanTagId maxVlanTagId : Nat) (env : Nat → L2VlanDeleteEnv)

/-- The VLAN is in the stores that it was in, and can be deleted when everything goes well. -/
structure VlanStays (s t : VlanStores) (vlanId : Nat) : Prop where
  list : vlanId ∈ t.stp.vlanList
  npu : vlanId ∈ s.npu → vlanId ∈ t.npu
  stp : ∀ stpInstId, s.stp.Holds stpInstId vlanId → t.stp.Holds stpInstId vlanId
  again : (l2DeleteVlan t vlanId ⟨.success, .success⟩).2 = .success

section Right
variable (platform : VlanPlatform)

/-- A VLAN that cannot be created is nowhere, unless it existed before, and one that cannot be
deleted is where it was. -/
def VlanStoreCall.Right (s : VlanStores) : VlanStoreCall → Prop
  | .create vlanId env =>
    (l2CreateVlan platform s vlanId env).2 ≠ .success → ¬ s.Exists vlanId →
      ¬ (l2CreateVlan platform s vlanId env).1.Exists vlanId
  | .remove vlanId env =>
    vlanIdAvailable platform vlanId = .success → vlanId ∈ s.stp.vlanList →
      (l2RemoveVlan platform s vlanId env).2 ≠ .success → VlanStays s (l2RemoveVlan platform s vlanId env).1 vlanId
  | .removeAll minVlanTagId maxVlanTagId env =>
    ∀ before vlanId after,
      List.range' minVlanTagId (maxVlanTagId + 1 - minVlanTagId) = before ++ vlanId :: after →
      vlanId ≠ platform.internalVlanId → vlanId ∈ s.stp.vlanList →
      (l2DeleteVlan (l2RemoveVlans platform s before env) vlanId (env vlanId)).2 ≠ .success →
      VlanStays s (l2RemoveAllVlans platform s minVlanTagId maxVlanTagId env).1 vlanId

/-- The VLAN is in the instance that `g_stp_vlan_map` names. -/
structure StpState.Mapped (s : StpState) (vlanId : Nat) : Prop where
  kind : (s.stpVlanMap vlanId).objType = .stpInstance
  holds : s.Holds (s.stpVlanMap vlanId) vlanId

/-- The default instance takes a VLAN that is new. -/
structure StpUpdateAccepted (s : StpState) (vlanId : Nat) (env : L2VlanCreateEnv) : Prop where
  unmapped : s.stpVlanMap vlanId = nullObjectId
  kind : s.defStpId.objType = .stpInstance
  stored : s.stpInfoTree.get s.defStpId ≠ none
  alloc : env.stpAdd.alloc = true
  npu : env.stpAdd.npu = .success
  inserted : env.stpAdd.insertOk = true

/-- The VLAN is in an instance, and the NPU does not refuse it after the instance has let it go. -/
structure VlanDeleteSafe (s : StpState) (vlanId : Nat) (env : L2VlanDeleteEnv) : Prop where
  mapped : s.Mapped vlanId
  refusedFirst : env.stp = .success → env.npu = .success

/-- No step fails after an earlier one that is not taken back. -/
def VlanStoreCall.Safe (s : VlanStores) : VlanStoreCall → Prop
  | .create vlanId env =>
    vlanIdAvailable platform vlanId = .success → ¬ s.Exists vlanId → env.insert = .success →
    env.npu = .success →
      vlanId ≠ initDefaultVlan → StpUpdateAccepted s.stp vlanId env
  | .remove vlanId env =>
    vlanIdAvailable platform vlanId = .success → vlanId ∈ s.stp.vlanList → VlanDeleteSafe s.stp vlanId env
  | .removeAll minVlanTagId maxVlanTagId env =>
    ∀ vlanId, minVlanTagId ≤ vlanId → vlanId ≤ maxVlanTagId → vlanId ≠ platform.internalVlanId →
      vlanId ∈ s.stp.vlanList → VlanDeleteSafe s.stp vlanId (env vlanId)

end Right

section Deletions
variable {platform : VlanPlatform} {s t u : VlanStores} {vlanId : Nat}

theorem stpVlanDestroy_cases (s : StpState) (vlanId : Nat) (npu : SaiStatus) :
    s.Mapped vlanId ∧ npu = .success ∧ (∃ vlans, s.stpInfoTree.get (s.stpVlanMap vlanId) = some vlans ∧
      stpVlanDestroy s vlanId npu =
        (StpState.writeMap { s with stpInfoTree := s.stpInfoTree.put (s.stpVlanMap vlanId) (vlans.erase vlanId) } vlanId
          nullObjectId, .success)) ∨
    ¬ (s.Mapped vlanId ∧ npu = .success) ∧ ∃ error, error ≠ .success ∧
    stpVlanDestroy s vlanId npu = (s, error) := by
  have refused : ∀ error, error ≠ .success → s.vlanRemove (s.stpVlanMap vlanId) vlanId npu = (s, error) →
      ∃ error, error ≠ .success ∧ stpVlanDestroy s vlanId npu = (s, error) := by
    intro error isError removed
    refine ⟨error, isError, ?_⟩
    unfold stpVlanDestroy
    rw [removed]
    cases error <;> first | rfl | exact absurd rfl isError
  by_cases kind : (s.stpVlanMap vlanId).objType = .stpInstance
  swap
  · refine .inr ⟨fun both => kind both.1.kind, refused .invalidObjectType SaiStatus.noConfusion ?_⟩
    exact if_pos kind
  cases stored : s.stpInfoTree.get (s.stpVlanMap vlanId) with
  | none =>
    refine .inr ⟨?_, refused .invalidObjectId SaiStatus.noConfusion ?_⟩
    · rintro ⟨⟨_, vlans, found, _⟩, _⟩
      rw [stored] at found
      cases found
    · simp only [StpState.vlanRemove, kind, stored, ne_eq, not_true_eq_false, if_false]
  | some vlans =>
    by_cases member : vlanId ∈ vlans
    swap
    · refine .inr ⟨?_, refused .itemNotFound SaiStatus.noConfusion ?_⟩
      · rintro ⟨⟨_, vlans', found, held⟩, _⟩
        rw [stored] at found
        cases found
        exact member held
      · simp only [StpState.vlanRemove, kind, stored, member, ne_eq, not_true_eq_false, if_false, not_false_eq_true,
          if_true]
    by_cases answered : npu = .success
    · refine .inl ⟨⟨kind, vlans, stored, member⟩, answered, vlans, rfl, ?_⟩
      unfold stpVlanDestroy
      simp only [StpState.vlanRemove, kind, stored, member, answered, ne_eq, not_true_eq_false, if_false]
    · refine .inr ⟨fun both => answered both.2, refused npu answered ?_⟩
      simp only [StpState.vlanRemove, kind, stored, member, ne_eq, not_true_eq_false, if_false]

theorem l2DeleteVlan_cases (s : VlanStores) (vlanId : Nat) (env : L2VlanDeleteEnv) :
    s.stp.Mapped vlanId ∧ env.stp = .success ∧
    (∃ vlans, s.stp.stpInfoTree.get (s.stp.stpVlanMap vlanId) = some vlans ∧
      (l2DeleteVlan s vlanId env).1.stp.stpInfoTree =
        s.stp.stpInfoTree.put (s.stp.stpVlanMap vlanId) (vlans.erase vlanId)) ∧
      (l2DeleteVlan s vlanId env).1.stp.stpVlanMap = Function.update s.stp.stpVlanMap vlanId nullObjectId ∧
      (env.npu = .success ∧ (l2DeleteVlan s vlanId env).2 = .success ∧
          (l2DeleteVlan s vlanId env).1.stp.vlanList = s.stp.vlanList.filter (fun other => other ≠ vlanId) ∧
          (l2DeleteVlan s vlanId env).1.npu = s.npu.erase vlanId ∨
        env.npu ≠ .success ∧ (l2DeleteVlan s vlanId env).2 ≠ .success ∧
          (l2DeleteVlan s vlanId env).1.stp.vlanList = s.stp.vlanList ∧ (l2DeleteVlan s vlanId env).1.npu = s.npu) ∨
    ¬ (s.stp.Mapped vlanId ∧ env.stp = .success) ∧ (l2DeleteVlan s vlanId env).2 ≠ .success ∧
      (l2DeleteVlan s vlanId env).1 = s := by
  unfold l2DeleteVlan
  rcases stpVlanDestroy_cases s.stp vlanId env.stp with
    ⟨mapped, answered, vlans, stored, destroyed⟩ | ⟨refused, error, isError, destroyed⟩
  · rw [destroyed]
    dsimp only
    split
    · rename_i npu
      exact .inl ⟨mapped, answered, ⟨vlans, stored, rfl⟩, rfl, .inl ⟨npu, rfl, rfl, rfl⟩⟩
    · rename_i npu
      exact .inl ⟨mapped, answered, ⟨vlans, stored, rfl⟩, rfl, .inr ⟨npu, npu, rfl, rfl⟩⟩
  · rw [destroyed]
    cases error
    · exact absurd rfl isError
    all_goals exact .inr ⟨refused, isError, rfl⟩

structure VlanUntouched (s t : VlanStores) (vlanId : Nat) : Prop where
  list : vlanId ∈ t.stp.vlanList ↔ vlanId ∈ s.stp.vlanList
  npu : vlanId ∈ t.npu ↔ vlanId ∈ s.npu
  holds : ∀ stpInstId, t.stp.Holds stpInstId vlanId ↔ s.stp.Holds stpInstId vlanId
  map : t.stp.stpVlanMap vlanId = s.stp.stpVlanMap vlanId

theorem VlanUntouched.refl (s : VlanStores) (vlanId : Nat) : VlanUntouched s s vlanId :=
  ⟨Iff.rfl, Iff.rfl, fun _ => Iff.rfl, rfl⟩

theorem VlanUntouched.trans (first : VlanUntouched s t vlanId) (second : VlanUntouched t u vlanId) :
    VlanUntouched s u vlanId :=
  ⟨second.list.trans first.list, second.npu.trans first.npu, fun k => (second.holds k).trans (first.holds k),
    second.map.trans first.map⟩

theorem VlanUntouched.mapped (untouched : VlanUntouched s t vlanId) : t.stp.Mapped vlanId ↔ s.stp.Mapped vlanId := by
  constructor
  · rintro ⟨kind, holds⟩
    rw [untouched.map] at kind holds
    exact ⟨kind, (untouched.holds _).mp holds⟩
  · rintro ⟨kind, holds⟩
    refine ⟨?_, ?_⟩
    · rw [untouched.map]
      exact kind
    · rw [untouched.map]
      exact (untouched.holds _).mpr holds

theorem holds_erase {tree : KeyTree ObjectId (List Nat)} {k : ObjectId} {vlans : List Nat} {v w : Nat}
    (stored : tree.get k = some vlans) (other : w ≠ v) (j : ObjectId) :
    (∃ held, (tree.put k (vlans.erase v)).get j = some held ∧ w ∈ held) ↔ ∃ held, tree.get j = some held ∧
    w ∈ held := by
  rw [KeyTree.get_put]
  split
  · rename_i same
    rw [same, stored]
    simp only [Option.some.injEq, exists_eq_left', List.mem_erase_of_ne other]
  · rfl

theorem l2DeleteVlan_other {other : Nat} (differ : vlanId ≠ other) (env : L2VlanDeleteEnv) :
    VlanUntouched s (l2DeleteVlan s other env).1 vlanId := by
  rcases l2DeleteVlan_cases s other env with ⟨_, _, ⟨vlans, stored, tree⟩, map, rest⟩ | ⟨_, _, same⟩
  · have holds : ∀ k, (l2DeleteVlan s other env).1.stp.Holds k vlanId ↔ s.stp.Holds k vlanId := by
      intro k
      unfold StpState.Holds
      rw [tree]
      exact holds_erase stored differ k
    have mapped : (l2DeleteVlan s other env).1.stp.stpVlanMap vlanId = s.stp.stpVlanMap vlanId := by
      rw [map, Function.update_of_ne differ]
    rcases rest with ⟨_, _, list, npu⟩ | ⟨_, _, list, npu⟩
    · refine ⟨?_, ?_, holds, mapped⟩
      · rw [list, List.mem_filter, decide_eq_true_iff]
        exact and_iff_left differ
      · rw [npu, Finset.mem_erase]
        exact and_iff_right differ
    · refine ⟨?_, ?_, holds, mapped⟩
      · rw [list]
      · rw [npu]
  · rw [same]
    exact .refl s vlanId

variable (platform) in
theorem l2RemoveVlans_other (env : Nat → L2VlanDeleteEnv) (vlanIds : List Nat) :
    ∀ s, vlanId ∉ vlanIds → VlanUntouched s (l2RemoveVlans platform s vlanIds env) vlanId := by
  induction vlanIds with
  | nil => exact fun s _ => .refl s vlanId
  | cons first rest ih =>
    intro s absent
    obtain ⟨differ, later⟩ := not_or.mp (List.mem_cons.not.mp absent)
    unfold l2RemoveVlans
    rw [List.foldl_cons]
    refine VlanUntouched.trans ?_ (ih _ later)
    split
    · exact .refl s vlanId
    split
    · exact l2DeleteVlan_other differ (env first)
    · exact .refl s vlanId

theorem l2DeleteVlan_success_iff (s : VlanStores) (vlanId : Nat) :
    (l2DeleteVlan s vlanId ⟨.success, .success⟩).2 = .success ↔ s.stp.Mapped vlanId := by
  rcases l2DeleteVlan_cases s vlanId ⟨.success, .success⟩ with
    ⟨mapped, _, _, _, ⟨_, done, _⟩ | ⟨refused, _⟩⟩ | ⟨refused, failed, _⟩
  · exact iff_of_true done mapped
  · exact absurd rfl refused
  · exact iff_of_false failed fun mapped => refused ⟨mapped, rfl⟩

theorem l2DeleteVlan_stays_iff (listed : vlanId ∈ s.stp.vlanList) (env : L2VlanDeleteEnv) :
    ((l2DeleteVlan s vlanId env).2 ≠ .success → VlanStays s (l2DeleteVlan s vlanId env).1 vlanId) ↔
      VlanDeleteSafe s.stp vlanId env := by
  rcases l2DeleteVlan_cases s vlanId env with
    ⟨mapped, answered, _, map, ⟨npu, done, _⟩ | ⟨npu, failed, _⟩⟩ | ⟨refused, failed, same⟩
  · exact iff_of_true (fun failed => absurd done failed) ⟨mapped, fun _ => npu⟩
  · refine iff_of_false (fun stays => ?_) fun safe => npu (safe.refusedFirst answered)
    have again := (l2DeleteVlan_success_iff _ _).mp (stays failed).again
    have kind := again.kind
    rw [map, Function.update_self] at kind
    cases kind
  · rw [same]
    constructor
    · intro stays
      have mapped := (l2DeleteVlan_success_iff _ _).mp (stays failed).again
      exact ⟨mapped, fun answered => absurd ⟨mapped, answered⟩ refused⟩
    · intro safe _
      exact ⟨listed, id, fun _ => id, (l2DeleteVlan_success_iff _ _).mpr safe.mapped⟩

theorem VlanStays.congr {s' t' : VlanStores} (before : VlanUntouched s s' vlanId) (after : VlanUntouched t t' vlanId) :
    VlanStays s' t vlanId ↔ VlanStays s t' vlanId := by
  have again : (l2DeleteVlan t' vlanId ⟨.success, .success⟩).2 = .success ↔
      (l2DeleteVlan t vlanId ⟨.success, .success⟩).2 = .success := by
    rw [l2DeleteVlan_success_iff, l2DeleteVlan_success_iff]
    exact after.mapped
  constructor
  · intro stays
    exact ⟨after.list.mpr stays.list, fun held => after.npu.mpr (stays.npu (before.npu.mpr held)),
      fun k held => (after.holds k).mpr (stays.stp k ((before.holds k).mpr held)), again.mpr stays.again⟩
  · intro stays
    exact ⟨after.list.mp stays.list, fun held => after.npu.mp (stays.npu (before.npu.mp held)),
      fun k held => (after.holds k).mp (stays.stp k ((before.holds k).mp held)), again.mp stays.again⟩

theorem VlanDeleteSafe.congr (untouched : VlanUntouched s t vlanId) {env : L2VlanDeleteEnv} :
    VlanDeleteSafe t.stp vlanId env ↔ VlanDeleteSafe s.stp vlanId env :=
  ⟨fun safe => ⟨untouched.mapped.mp safe.mapped, safe.refusedFirst⟩,
    fun safe => ⟨untouched.mapped.mpr safe.mapped, safe.refusedFirst⟩⟩

theorem l2RemoveVlans_append (env : Nat → L2VlanDeleteEnv) (before after : List Nat) :
    l2RemoveVlans platform s (before ++ after) env =
      l2RemoveVlans platform (l2RemoveVlans platform s before env) after env :=
  List.foldl_append

theorem l2RemoveVlans_listed {rest : List Nat} (env : Nat → L2VlanDeleteEnv)
    (notInternal : vlanId ≠ platform.internalVlanId)
    (listed : vlanId ∈ s.stp.vlanList) : l2RemoveVlans platform s (vlanId :: rest) env =
      l2RemoveVlans platform (l2DeleteVlan s vlanId (env vlanId)).1 rest env := by
  unfold l2RemoveVlans
  rw [List.foldl_cons, if_neg notInternal, if_pos listed]

theorem l2RemoveVlans_stays_iff {before after : List Nat} (env : Nat → L2VlanDeleteEnv)
    (distinct : (before ++ vlanId :: after).Nodup) (notInternal : vlanId ≠ platform.internalVlanId)
    (listed : vlanId ∈ s.stp.vlanList) :
    ((l2DeleteVlan (l2RemoveVlans platform s before env) vlanId (env vlanId)).2 ≠ .success →
      VlanStays s (l2RemoveVlans platform s (before ++ vlanId :: after) env) vlanId) ↔
      VlanDeleteSafe s.stp vlanId (env vlanId) := by
  obtain ⟨_, inRest, apart⟩ := List.nodup_append.mp distinct
  have earlier := l2RemoveVlans_other platform env before s fun member =>
    apart vlanId member vlanId List.mem_cons_self rfl
  have listed' := earlier.list.mpr listed
  have later := l2RemoveVlans_other platform env after
    (l2DeleteVlan (l2RemoveVlans platform s before env) vlanId (env vlanId)).1 (List.nodup_cons.mp inRest).1
  rw [l2RemoveVlans_append, l2RemoveVlans_listed env notInternal listed', ← VlanStays.congr earlier later,
    l2DeleteVlan_stays_iff listed']
  exact VlanDeleteSafe.congr earlier

end Deletions

section Creation
variable {platform : VlanPlatform} {s : VlanStores} {vlanId : Nat} {env : L2VlanCreateEnv}

theorem stpVlanDestroy_list (s : StpState) (vlanId : Nat) (npu : SaiStatus) :
    (stpVlanDestroy s vlanId npu).1.vlanList = s.vlanList := by
  rcases stpVlanDestroy_cases s vlanId npu with ⟨_, _, _, _, done⟩ | ⟨_, _, _, failed⟩
  · rw [done]
    rfl
  · rw [failed]

theorem stpDefaultVlanUpdate_list (s : StpState) (vlanId : Nat) (env : L2VlanCreateEnv) :
    (stpDefaultVlanUpdate s vlanId env).1.vlanList = s.vlanList := by
  unfold stpDefaultVlanUpdate
  have first : (if s.stpVlanMap vlanId ≠ nullObjectId then stpVlanDestroy s vlanId env.stpRemove
      else (s, .success)).1.vlanList = s.vlanList := by
    split
    · exact stpVlanDestroy_list s vlanId env.stpRemove
    · rfl
  split
  · rename_i t destroyed
    rw [destroyed] at first
    rcases t.vlanAdd_cases t.defStpId vlanId env.stpAdd with ⟨_, error, isError, refused⟩ | ⟨vlans, _, added⟩
    · rw [refused]
      cases error
      · exact absurd rfl isError
      all_goals exact first
    · rw [added]
      exact first
  · rename_i t error _ destroyed
    rw [destroyed] at first
    exact first

theorem vlanAdd_success {s t : StpState} {stpInstId : ObjectId} {env : StpEnv}
    (added : s.vlanAdd stpInstId vlanId env = (t, .success)) :
    stpInstId.objType = .stpInstance ∧ env.alloc = true ∧ env.npu = .success ∧ env.insertOk = true := by
  unfold StpState.vlanAdd at added
  split at added
  · cases added
  rename_i kind
  split at added
  · cases added
  split at added
  · cases added
  split at added
  · cases added
  rename_i alloc
  split at added
  · split at added
    · cases added
    · rename_i npu inserted
      exact ⟨not_not.mp kind, Bool.eq_true_of_not_eq_false alloc, npu, Bool.eq_true_of_not_eq_false inserted⟩
  · rename_i error
    exact absurd (congrArg Prod.snd added) error

theorem stpDefaultVlanUpdate_success_iff {s : StpState} (nowhere : ∀ k, ¬ s.Holds k vlanId) :
    (stpDefaultVlanUpdate s vlanId env).2 = .success ↔ StpUpdateAccepted s vlanId env := by
  unfold stpDefaultVlanUpdate
  by_cases unmapped : s.stpVlanMap vlanId = nullObjectId
  · rw [if_neg (not_not.mpr unmapped)]
    dsimp only
    rcases s.vlanAdd_cases s.defStpId vlanId env.stpAdd with
      ⟨refused, error, isError, added⟩ | ⟨vlans, stored, added⟩
    · rw [added]
      refine iff_of_false ?_ fun accepted => refused ?_
      · cases error
        · exact absurd rfl isError
        all_goals exact SaiStatus.noConfusion
      · obtain ⟨vlans, stored⟩ := Option.ne_none_iff_exists'.mp accepted.stored
        exact ⟨accepted.kind, ⟨vlans, stored, fun held => nowhere _ ⟨vlans, stored, held⟩⟩, accepted.alloc,
          accepted.npu,
          accepted.inserted⟩
    · rw [added]
      refine iff_of_true rfl ?_
      obtain ⟨kind, alloc, npu, inserted⟩ := vlanAdd_success added
      exact ⟨unmapped, kind, by rw [stored]; exact Option.some_ne_none _, alloc, npu, inserted⟩
  · rw [if_pos unmapped]
    rcases stpVlanDestroy_cases s vlanId env.stpRemove with ⟨mapped, _⟩ | ⟨_, error, isError, destroyed⟩
    · exact absurd mapped.holds (nowhere _)
    rw [destroyed]
    refine iff_of_false ?_ fun accepted => unmapped accepted.unmapped
    cases error
    · exact absurd rfl isError
    all_goals exact SaiStatus.noConfusion

/-- A creation that fails leaves the VLAN nowhere exactly when the spanning tree takes it
whenever the list and the NPU have. -/
theorem l2CreateVlan_nowhere_iff : ((l2CreateVlan platform s vlanId env).2 ≠ .success → ¬ s.Exists vlanId →
      ¬ (l2CreateVlan platform s vlanId env).1.Exists vlanId) ↔
      (VlanStoreCall.create vlanId env).Safe platform s := by
  unfold VlanStoreCall.Safe l2CreateVlan
  cases available : vlanIdAvailable platform vlanId
  case success =>
    by_cases exist : s.Exists vlanId
    · exact iff_of_true (fun _ absent => absurd exist absent) fun _ absent => absurd exist absent
    obtain ⟨unlisted, notHeld, nowhere⟩ : vlanId ∉ s.stp.vlanList ∧ vlanId ∉ s.npu ∧
      ∀ k, ¬ s.stp.Holds k vlanId :=
      ⟨fun member => exist (.inl member), fun member => exist (.inr (.inl member)),
        fun k holds => exist (.inr (.inr ⟨k, holds⟩))⟩
    dsimp only
    unfold VlanStores.insertVlan
    rw [if_neg unlisted]
    by_cases inserted : env.insert = .success
    swap
    · refine iff_of_true ?_ fun _ _ answered => absurd answered inserted
      cases answer : env.insert
      · exact absurd answer inserted
      all_goals exact fun _ absent => absent
    rw [inserted]
    dsimp only
    unfold l2CreateListedVlan
    by_cases created : env.npu = .success
    · simp only [created, VlanStores.npuCreate, if_neg notHeld, ne_eq, not_true_eq_false, false_and, if_false, exist,
        not_false_eq_true, true_imp_iff]
      by_cases isDefault : vlanId = initDefaultVlan
      · rw [if_neg (not_not.mpr isDefault)]
        exact iff_of_true (fun failed => absurd rfl failed) fun _ other => absurd isDefault other
      rw [if_pos isDefault]
      have updated :
          (stpDefaultVlanUpdate { s.stp with vlanList := s.stp.vlanList ++ [vlanId] } vlanId env).2 = .success ↔
            StpUpdateAccepted { s.stp with vlanList := s.stp.vlanList ++ [vlanId] } vlanId env :=
        stpDefaultVlanUpdate_success_iff nowhere
      have list := stpDefaultVlanUpdate_list { s.stp with vlanList := s.stp.vlanList ++ [vlanId] } vlanId env
      constructor
      · intro right _ _
        by_contra refused
        refine right (fun success => refused ?_) (.inl ?_)
        · obtain ⟨unmapped, kind, stored, alloc, npu, insertOk⟩ := updated.mp success
          exact ⟨unmapped, kind, stored, alloc, npu, insertOk⟩
        · rw [list]
          exact List.mem_append_right _ (List.mem_singleton_self vlanId)
      · intro accepted failed
        obtain ⟨unmapped, kind, stored, alloc, npu, insertOk⟩ := accepted available isDefault
        exact absurd (updated.mpr ⟨unmapped, kind, stored, alloc, npu, insertOk⟩) failed
    · refine iff_of_true ?_ fun _ _ _ answered => absurd answered created
      intro _ _
      obtain ⟨error, npuFailed⟩ : ∃ error, VlanStores.npuCreate
          { s with stp := { s.stp with vlanList := s.stp.vlanList ++ [vlanId] } } vlanId env.npu =
            ({ s with stp := { s.stp with vlanList := s.stp.vlanList ++ [vlanId] } }, error) ∧
          (error ≠ .success ∧ error ≠ .itemAlreadyExists) := by
        unfold VlanStores.npuCreate
        dsimp only
        rw [if_neg notHeld, if_neg notHeld]
        cases answer : env.npu
        · exact absurd answer created
        all_goals refine ⟨_, rfl, ?_, ?_⟩ <;> exact SaiStatus.noConfusion
      rw [npuFailed.1]
      dsimp only
      rw [if_pos npuFailed.2]
      rintro (member | member | ⟨k, holds⟩)
      · exact of_decide_eq_true (List.mem_filter.mp member).2 rfl
      · exact notHeld member
      · exact nowhere k holds
  all_goals
    refine iff_of_true (fun _ absent => absent) fun isAvailable => ?_
    rw [available] at isAvailable
    cases isAvailable

end Creation

variable (platform : VlanPlatform) (s : VlanStores) in
/-- Creating and deleting VLANs is all or nothing exactly when no step fails behind one that is
not taken back. -/
theorem vlanStoreCall_right_iff (call : VlanStoreCall) : call.Right platform s ↔ call.Safe platform s := by
  cases call with
  | create vlanId env => exact l2CreateVlan_nowhere_iff
  | remove vlanId env =>
    refine forall_congr' fun available => forall_congr' fun listed => ?_
    unfold l2RemoveVlan
    rw [available]
    dsimp only
    rw [if_neg (not_not.mpr listed)]
    exact l2DeleteVlan_stays_iff listed env
  | removeAll minVlanTagId maxVlanTagId env =>
    have range : ∀ v, v ∈ List.range' minVlanTagId (maxVlanTagId + 1 - minVlanTagId) ↔
        minVlanTagId ≤ v ∧ v ≤ maxVlanTagId := by
      intro v
      rw [List.mem_range'_1]
      omega
    have distinct : (List.range' minVlanTagId (maxVlanTagId + 1 - minVlanTagId)).Nodup := List.nodup_range'
    constructor
    · intro right vlanId low high notInternal listed
      obtain ⟨before, after, split⟩ := List.append_of_mem ((range vlanId).mpr ⟨low, high⟩)
      have stays := right before vlanId after split notInternal listed
      unfold l2RemoveAllVlans at stays
      rw [split] at stays distinct
      exact (l2RemoveVlans_stays_iff env distinct notInternal listed).mp stays
    · intro safe before vlanId after split notInternal listed
      obtain ⟨low, high⟩ := (range vlanId).mp (split ▸ List.mem_append_right before List.mem_cons_self)
      unfold l2RemoveAllVlans
      rw [split] at distinct ⊢
      exact (l2RemoveVlans_stays_iff env distinct notInternal listed).mpr (safe vlanId low high notInternal listed)

def sampleStpStart : StpState where
  stpInfoTree := (∅ : KeyTree ObjectId (List Nat)).put ⟨.stpInstance, 0⟩ []
  defStpId := ⟨.stpInstance, 0⟩
  stpVlanMap _ := nullObjectId
  vlanList := []
  op := none

def sampleVlanCreate (stpAdd : SaiStatus) : L2VlanCreateEnv :=
  ⟨.success, .success, .success, ⟨true, stpAdd, 0, true, true⟩⟩

def sampleVlanStores : VlanStores :=
    (l2CreateVlan samplePlatform ⟨sampleStpStart, ∅⟩ 10 (sampleVlanCreate .success)).1

/-- A VLAN that the spanning tree refuses stays in the list and in the NPU, and one that the NPU
does not delete has left its instance. -/
theorem vlanStores_not_right :
    ¬ (VlanStoreCall.create 11 (sampleVlanCreate .failure)).Right samplePlatform sampleVlanStores ∧
      ¬ (VlanStoreCall.remove 10 ⟨.success, .failure⟩).Right samplePlatform sampleVlanStores := by
  constructor
  · intro right
    refine right (by decide) ?_ (.inl (by decide))
    rintro (listed | held | ⟨k, vlans, stored, member⟩)
    · exact absurd listed (by decide)
    · exact absurd held (by decide)
    · have isDefault : k = ⟨.stpInstance, 0⟩ := by
        by_contra other
        have absent : sampleVlanStores.stp.stpInfoTree.get k = none := by
          change (((∅ : KeyTree ObjectId (List Nat)).put ⟨.stpInstance, 0⟩ []).put
            ⟨.stpInstance, 0⟩ [10]).get k = none
          rw [KeyTree.get_put_ne other, KeyTree.get_put_ne other, KeyTree.get_empty]
        rw [absent] at stored
        cases stored
      subst isDefault
      have isTen : vlans = [10] := (Option.some.inj stored).symm
      rw [isTen] at member
      exact absurd member (by decide)
  · intro right
    have stays := right (by decide) (by decide) (by decide)
    exact absurd stays.again (by decide)

end SaiCommon
