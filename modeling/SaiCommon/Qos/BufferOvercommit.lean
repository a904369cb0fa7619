import SaiCommon.Qos.BufferBudget

namespace SaiCommon

variable {old value : BitVec 32} {call : BufferCall} {pool : BufferPool} {attr : BufferProfileAttr} {rest users : Nat}
  {k objectId poolId profileId : ObjectId} {env : ProfileSetEnv} {t : QosState} {profile : BufferProfile}

/-- What is reserved in a pool fits into it. -/
def BufferBounded (s : QosState) : Prop :=
  ∀ k pool, s.bufferPoolTree.get k = some pool → bufferReserved s k ≤ pool.size.toNat

def bufferPoolSize (s : QosState) (k : ObjectId) : Option (BitVec 32) :=
  (s.bufferPoolTree.get k).map BufferPool.size

theorem bufferPoolSize_of_budget {s : QosState}
    (budget : bufferPoolBudget t k = bufferPoolBudget s k) : bufferPoolSize t k = bufferPoolSize s k := by
  have first := congrArg (Option.map Prod.fst) budget
  unfold bufferPoolBudget at first
  rw [Option.map_map, Option.map_map] at first
  exact first

/-- Within the budget law, a pool that is not over-committed has exactly what
is not reserved free. -/
theorem BufferConserved.free {s : QosState}
    (conserved : BufferConserved s) (bounded : BufferBounded s) (stored : s.bufferPoolTree.get k = some pool) :
    pool.sharedSize.toNat + bufferReserved s k = pool.size.toNat := by
  have law := conserved k pool stored
  have fits := bounded k pool stored
  have small := pool.size.isLt
  have cut : (BitVec.ofNat 32 (bufferReserved s k)).toNat = bufferReserved s k := by
    rw [BitVec.toNat_ofNat]
    exact Nat.mod_eq_of_lt (by omega)
  have below : BitVec.ofNat 32 (bufferReserved s k) ≤ pool.size := by
    rw [BitVec.le_def, cut]
    exact fits
  rw [law, BitVec.toNat_sub_of_le below, cut]
  omega

theorem BufferBounded.of_sizes {s : QosState} (size : ∀ k, bufferPoolSize t k = bufferPoolSize s k)
    (fits : ∀ k pool, s.bufferPoolTree.get k = some pool → bufferReserved t k ≤ pool.size.toNat) :
    BufferBounded t := by
  intro k pool stored
  have equal := size k
  unfold bufferPoolSize at equal
  rw [stored, Option.map_some] at equal
  obtain ⟨before, found, same⟩ := Option.map_eq_some_iff.mp equal.symm
  rw [← same]
  exact fits k before found

section Recalc
variable (s : QosState)

theorem bufferSizes_recalc (poolId : ObjectId) (size : BitVec 32) (isAdd : Bool) (npu : SaiStatus) :
    (∀ k, bufferPoolSize (qosBufferPoolSizeRecalc s poolId size isAdd npu).1 k = bufferPoolSize s k) ∧
    ∀ k, bufferReserved (qosBufferPoolSizeRecalc s poolId size isAdd npu).1 k = bufferReserved s k := by
  rcases qosBufferPoolSizeRecalc_cases s poolId size isAdd npu with ⟨pool, stored, _, _, moved⟩ | ⟨same, _⟩
  · rw [moved]
    refine ⟨fun k => ?_, fun _ => rfl⟩
    unfold bufferPoolSize
    by_cases here : k = poolId
    · subst here
      rw [KeyTree.get_put_self, stored]
      rfl
    · rw [KeyTree.get_put_ne here]
  · rw [same]
    exact ⟨fun _ => rfl, fun _ => rfl⟩

theorem bufferSizes_attrRecalc (attr : BufferProfileAttr) (oldPoolId : ObjectId)
    (bufSize : BitVec 32) (isAdd : Bool) (env : ProfileSetEnv) :
    (∀ k, bufferPoolSize (qosBufferProfileAttrRecalc s attr oldPoolId bufSize isAdd env) k = bufferPoolSize s k) ∧
    ∀ k, bufferReserved (qosBufferProfileAttrRecalc s attr oldPoolId bufSize isAdd env) k = bufferReserved s k := by
  unfold qosBufferProfileAttrRecalc
  cases attr with
  | poolId oid =>
    obtain ⟨first, kept⟩ := bufferSizes_recalc s oldPoolId bufSize false env.recalc
    obtain ⟨second, keptNew⟩ := bufferSizes_recalc
      (qosBufferPoolSizeRecalc s oldPoolId bufSize false env.recalc).1 oid bufSize true env.recalcNew
    exact ⟨fun k => (second k).trans (first k), fun k => (keptNew k).trans (kept k)⟩
  | bufferSize => exact bufferSizes_recalc s oldPoolId bufSize isAdd env.recalc
  | xoffTh => exact bufferSizes_recalc s oldPoolId bufSize isAdd env.recalc
  | _ => exact ⟨fun _ => rfl, fun _ => rfl⟩

theorem bufferSizes_objRecalc (oldPoolId newPoolId : ObjectId) (oldSize newSize tmpSize : BitVec 32)
    (isAdd : Bool) (env : ProfileApplyEnv) :
    (∀ k, bufferPoolSize (qosObjProfileRecalc s oldPoolId newPoolId oldSize newSize tmpSize isAdd env) k =
      bufferPoolSize s k) ∧
    ∀ k, bufferReserved (qosObjProfileRecalc s oldPoolId newPoolId oldSize newSize tmpSize isAdd env) k =
      bufferReserved s k := by
  unfold qosObjProfileRecalc
  split
  · exact bufferSizes_recalc s oldPoolId tmpSize isAdd env.recalc
  have released : (∀ k, bufferPoolSize (if oldPoolId ≠ nullObjectId
        then (qosBufferPoolSizeRecalc s oldPoolId oldSize false env.recalc).1 else s) k = bufferPoolSize s k) ∧
      ∀ k, bufferReserved (if oldPoolId ≠ nullObjectId
        then (qosBufferPoolSizeRecalc s oldPoolId oldSize false env.recalc).1 else s) k =
        bufferReserved s k := by
    split
    · exact bufferSizes_recalc s oldPoolId oldSize false env.recalc
    · exact ⟨fun _ => rfl, fun _ => rfl⟩
  simp only
  split
  · obtain ⟨second, keptNew⟩ := bufferSizes_recalc (if oldPoolId ≠ nullObjectId
      then (qosBufferPoolSizeRecalc s oldPoolId oldSize false env.recalc).1 else s)
      newPoolId newSize true env.recalcNew
    exact ⟨fun k => (second k).trans (released.1 k), fun k => (keptNew k).trans (released.2 k)⟩
  · exact released

end Recalc

/-- The NPU accepts everything that the call asks of it. -/
def BufferCall.NpuSucceeds : BufferCall → Prop
  | .poolCreate _ env => env.npu = .success
  | .poolRemove _ npu => npu = .success
  | .poolAttrSet _ _ _ npu => npu = .success
  | .profileCreate _ env => env.npu = .success
  | .profileRemove _ npu => npu = .success
  | .profileAttrSet _ _ env =>
    (∀ objectId, env.users objectId = .success) ∧ env.recalc = .success ∧ env.recalcNew = .success
  | .profileApply _ _ env => env.apply = .success ∧ env.recalc = .success ∧ env.recalcNew = .success

/-- The amount fits 32 bits, or what the cut leaves of it is not free in the
pool either. -/
def bufferCutRefused (s : QosState) (poolId : ObjectId) (amount : Nat) : Prop :=
  amount < 2 ^ 32 ∨ ∀ pool, s.bufferPoolTree.get poolId = some pool →
    pool.sharedSize.toNat ≤ amount % 2 ^ 32

/-- The inputs that the admission checks judge by exact integers: a pool is not
set below what is reserved in it, a profile does not grow by an amount whose
cut passes the check, and an admitted profile's size and XOFF sum fits 32 bits. -/
def BufferCall.WithinPool (s : QosState) : BufferCall → Prop
  | .poolAttrSet poolId (.size value) vendor _ =>
    vendor = .success → bufferReserved s poolId ≤ value.toNat
  | .profileAttrSet profileId (.bufferSize value) env => env.vendor = .success →
    ∀ profile, s.bufferProfileTree.get profileId = some profile →
      bufferCutRefused s profile.bufferPoolId (profile.numRef * (value.toNat - profile.size.toNat))
  | .profileAttrSet profileId (.xoffTh value) env => env.vendor = .success →
    ∀ profile, s.bufferProfileTree.get profileId = some profile →
      qosBufferProfileIsValidThresholdApplied s profile (.xoffTh value) = true →
      bufferCutRefused s profile.bufferPoolId (profile.numRef * (value.toNat - profile.xoffTh.toNat))
  | .profileApply objectId profileId _ => ∀ oldProfileId amount,
    qosGetBufferProfileId s objectId = .ok oldProfileId →
    qosObjProfileCheck s objectId oldProfileId profileId = .ok amount →
    ∀ profile, bufferProfileGet s profileId = some profile → profile.need < 2 ^ 32
  | _ => True

theorem qosIsBufferPoolAvailable_lt {s : QosState} {size : BitVec 32}
    (available : qosIsBufferPoolAvailable s poolId size = true) :
    ∃ pool, s.bufferPoolTree.get poolId = some pool ∧ size.toNat < pool.sharedSize.toNat := by
  unfold qosIsBufferPoolAvailable at available
  split at available
  · cases available
  rename_i pool stored
  simp only [gt_iff_lt, decide_eq_true_eq, BitVec.lt_def] at available
  exact ⟨pool, stored, available⟩

theorem bufferCutRefused.exact {s : QosState}
    (fits : bufferCutRefused s poolId (users * (value.toNat - old.toNat))) (grows : old < value)
    (available : qosIsBufferPoolAvailable s poolId (BitVec.ofNat 32 users * (value - old)) = true) :
    (BitVec.ofNat 32 users * (value - old)).toNat = users * (value.toNat - old.toNat) := by
  have cut : (BitVec.ofNat 32 users * (value - old)).toNat =
      users * (value.toNat - old.toNat) % 2 ^ 32 := by
    rw [BitVec.toNat_mul, BitVec.toNat_sub_of_le (BitVec.le_of_lt grows), BitVec.toNat_ofNat,
      Nat.mod_mul_mod]
  obtain ⟨pool, stored, room⟩ := qosIsBufferPoolAvailable_lt available
  rw [cut] at room ⊢
  rcases fits with small | refused
  · exact Nat.mod_eq_of_lt small
  · have full := refused pool stored
    omega

/-- One user's need changes from `old` to `value` beside a fixed rest; where it
grows, the growth of all users was free. -/
theorem bufferGrow_fits {s : QosState} {reserved reserved' : Nat}
    (fits : bufferCutRefused s poolId (users * (value.toNat - old.toNat))) (available : old < value →
      qosIsBufferPoolAvailable s poolId (BitVec.ofNat 32 users * (value - old)) = true)
    (stored : s.bufferPoolTree.get poolId = some pool) (free : pool.sharedSize.toNat + reserved = pool.size.toNat)
    (moved : reserved' + users * (old.toNat + rest) = reserved + users * (value.toNat + rest)) :
    reserved' ≤ pool.size.toNat := by
  by_cases grows : old < value
  · have room := available grows
    have amount := fits.exact grows room
    obtain ⟨found, there, less⟩ := qosIsBufferPoolAvailable_lt room
    cases Option.some.inj (stored.symm.trans there)
    have order := BitVec.lt_def.mp grows
    have split : users * (value.toNat + rest) =
        users * (old.toNat + rest) + users * (value.toNat - old.toNat) := by
      rw [← Nat.mul_add]
      congr 1
      omega
    omega
  · have order := Nat.le_of_not_lt fun less => grows (BitVec.lt_def.mpr less)
    have shrinks : users * (value.toNat + rest) ≤ users * (old.toNat + rest) :=
      Nat.mul_le_mul_left users (by omega)
    omega

theorem BufferProfile.share_le (s : QosState) (k : ObjectId)
    (stored : s.bufferProfileTree.get profileId = some profile) :
    profile.share k ≤ bufferReserved s k :=
  KeyTree.weigh_le (fun _ p => p.share k) stored

theorem BufferBounded.users_lt {s : QosState} (bounded : BufferBounded s) (linked : BufferLinked s)
    (stored : s.bufferProfileTree.get profileId = some profile) : profile.numRef * profile.need < 2 ^ 32 := by
  obtain ⟨pool, found⟩ := Option.ne_none_iff_exists'.mp (linked.poolStored profileId profile stored)
  have part := profile.share_le s profile.bufferPoolId stored
  have fits := bounded _ pool found
  have small := pool.size.isLt
  unfold BufferProfile.share at part
  rw [if_pos rfl] at part
  omega

theorem BufferProfile.toNat_amount (small : profile.numRef * profile.need < 2 ^ 32) :
    (BitVec.ofNat 32 profile.numRef * (profile.size + profile.xoffTh)).toNat = profile.numRef * profile.need := by
  rw [← profile.ofNat_need, ← BitVec.ofNat_mul, BitVec.toNat_ofNat]
  exact Nat.mod_eq_of_lt small

theorem qosBufferProfileAttrSet_refused {s : QosState} (error : env.vendor ≠ .success) :
    (qosBufferProfileAttrSet s profileId attr env).1 = s := by
  unfold qosBufferProfileAttrSet qosBufferProfileAttributesValidate
  rw [if_neg (by simp only [List.length_singleton, Nat.one_ne_zero, not_false_eq_true])]
  generalize env.vendor = vendor at error ⊢
  cases vendor <;> first | exact absurd rfl error | rfl

theorem BufferBounded.profileAttrSet {s : QosState} (linked : BufferLinked s)
    (conserved : BufferConserved s) (bounded : BufferBounded s)
    (within : (BufferCall.profileAttrSet profileId attr env).WithinPool s) :
    BufferBounded (qosBufferProfileAttrSet s profileId attr env).1 := by
  by_cases vendor : env.vendor = .success
  · generalize run : qosBufferProfileAttrSet s profileId attr env = result
    obtain ⟨t, status⟩ := result
    rcases qosBufferProfileAttrSet_cases run with
      ⟨rfl, _⟩ | ⟨_, profile, bufSize, isAdd, u, node, stored, valid, admitted, written, rfl⟩
    · exact bounded
    obtain ⟨same, _, budget⟩ := qosUpdateBufferProfileNode_frame written
    have tree : u.bufferProfileTree = s.bufferProfileTree := by rw [same]
    obtain ⟨size, reserved⟩ := bufferSizes_attrRecalc
      { u with bufferProfileTree := u.bufferProfileTree.put profileId node } attr profile.bufferPoolId
      bufSize isAdd env
    refine BufferBounded.of_sizes (fun k => (size k).trans (bufferPoolSize_of_budget (budget k))) ?_
    intro k pool found
    rw [reserved k]
    have free := conserved.free bounded found
    have moved := bufferReserved_write node stored tree k
    obtain ⟨count, poolId, sizeAfter, xoffAfter⟩ := qosUpdateBufferProfileNode_one written
    unfold BufferProfile.share BufferProfile.need at moved
    rw [count, poolId, sizeAfter, xoffAfter] at moved
    cases attr with
    | bufferSize value =>
      simp only at moved
      by_cases here : profile.bufferPoolId = k
      · subst here
        rw [if_pos rfl, if_pos rfl] at moved
        refine bufferGrow_fits (within vendor profile stored) ?_ found free moved
        intro grows
        unfold qosCheckBufferSize at admitted
        simp only [gt_iff_lt, if_pos grows] at admitted
        split at admitted
        · assumption
        · cases admitted
      · rw [if_neg here, if_neg here] at moved
        omega
    | xoffTh value =>
      simp only at moved
      by_cases here : profile.bufferPoolId = k
      · subst here
        rw [if_pos rfl, if_pos rfl, Nat.add_comm profile.size.toNat, Nat.add_comm profile.size.toNat] at moved
        have threshold : qosBufferProfileIsValidThresholdApplied s profile (.xoffTh value) = true := by
          unfold qosCheckBufferProfileAttrValue at valid
          simp only at valid
          split at valid
          · assumption
          · cases valid
        refine bufferGrow_fits (within vendor profile stored threshold) ?_ found free moved
        intro grows
        unfold qosCheckBufferSize at admitted
        simp only [gt_iff_lt, if_pos grows] at admitted
        split at admitted
        · assumption
        · cases admitted
      · rw [if_neg here, if_neg here] at moved
        omega
    | poolId oid =>
      simp only at moved
      obtain ⟨amount, available⟩ := qosCheckBufferSize_poolId admitted
      obtain ⟨target, there, room⟩ := qosIsBufferPoolAvailable_lt available
      rw [amount, BufferProfile.toNat_amount (bounded.users_lt linked stored)] at room
      unfold BufferProfile.need at room
      by_cases here : oid = k
      · subst here
        cases Option.some.inj (found.symm.trans there)
        split at moved <;> rw [if_pos rfl] at moved <;> omega
      · rw [if_neg here] at moved
        omega
    | _ =>
      simp only at moved
      omega
  · rw [qosBufferProfileAttrSet_refused vendor]
    exact bounded

theorem bufferNeedAt_toNat {s : QosState} (k : ObjectId)
    (small : ∀ profile, bufferProfileGet s profileId = some profile → profile.need < 2 ^ 32) :
    bufferNeedAt s profileId k =
      if bufferProfilePool s profileId = k then (bufferProfileSize s profileId).toNat else 0 := by
  have cut := congrArg BitVec.toNat (ofNat_bufferNeedAt s profileId k)
  have fits : bufferNeedAt s profileId k < 2 ^ 32 := by
    unfold bufferNeedAt
    cases node : bufferProfileGet s profileId with
    | none => exact Nat.two_pow_pos 32
    | some profile =>
      have bound := small profile node
      simp only [Option.elim_some]
      split <;> omega
  rw [BitVec.toNat_ofNat, Nat.mod_eq_of_lt fits] at cut
  rw [cut]
  split <;> rfl

theorem BufferBounded.old_need_lt {s : QosState} {oldProfileId : ObjectId}
    (bounded : BufferBounded s) (linked : BufferLinked s)
    (found : qosGetBufferProfileId s objectId = .ok oldProfileId) (differ : oldProfileId ≠ profileId) :
    ∀ profile, bufferProfileGet s oldProfileId = some profile → profile.need < 2 ^ 32 := by
  intro profile got
  unfold bufferProfileGet at got
  split at got
  · cases got
  have used := linked.used found differ got
  have all := bounded.users_lt linked got
  have one : profile.need ≤ profile.numRef * profile.need := Nat.le_mul_of_pos_left _ used
  omega

theorem qosCalcPoolSize_grow {s : QosState} {checkTh : Bool}
    {oldSize newSize : BitVec 32} {amount : BitVec 32 × Bool}
    (admitted : qosCalcPoolSize s poolId poolId checkTh oldSize newSize = .ok amount)
    (notNull : poolId ≠ nullObjectId) (grows : oldSize < newSize) :
    qosIsBufferPoolAvailable s poolId (newSize - oldSize) = true := by
  unfold qosCalcPoolSize at admitted
  simp only [if_true, gt_iff_lt, if_pos grows] at admitted
  split at admitted
  · cases admitted
  · rename_i refused
    exact by_contra fun full => refused ⟨notNull, Bool.eq_false_iff.mpr full⟩

theorem BufferBounded.profileApply {s : QosState}
    {env : ProfileApplyEnv} (linked : BufferLinked s) (conserved : BufferConserved s) (bounded : BufferBounded s)
    (within : (BufferCall.profileApply objectId profileId env).WithinPool s) :
    BufferBounded (qosObjUpdateBufferProfile s objectId profileId env).1 := by
  generalize run : qosObjUpdateBufferProfile s objectId profileId env = result
  obtain ⟨t, status⟩ := result
  rcases qosObjUpdateBufferProfile_cases run with
    ⟨rfl, _⟩ | ⟨_, oldProfileId, tmpSize, isAdd, found, admitted, rfl⟩
  · exact bounded
  obtain ⟨differ, newStored, oldStored, checkTh, sized⟩ := qosObjProfileCheck_ok admitted
  obtain ⟨pools, _⟩ := qosSetBufferProfileId_trees s objectId profileId
  obtain ⟨size, reserved⟩ := bufferSizes_objRecalc { qosSetBufferProfileId s objectId profileId with
      bufferProfileTree := bufferProfileRelink s.bufferProfileTree objectId oldProfileId profileId }
    (bufferProfilePool s oldProfileId) (bufferProfilePool s profileId)
    (bufferProfileSize s oldProfileId) (bufferProfileSize s profileId) tmpSize isAdd env
  refine BufferBounded.of_sizes (s := s) (fun k => (size k).trans ?_) ?_
  · unfold bufferPoolSize
    simp only [pools]
  intro k pool stored
  rw [reserved k]
  have free := conserved.free bounded stored
  have moved := linked.reserved_relink found differ newStored oldStored k
  rw [bufferNeedAt_toNat k (bounded.old_need_lt linked found differ),
    bufferNeedAt_toNat k (within oldProfileId _ found admitted)] at moved
  have notNull : k ≠ nullObjectId := by
    rintro rfl
    rw [linked.poolKey] at stored
    cases stored
  by_cases here : bufferProfilePool s profileId = k
  · subst here
    rw [if_pos rfl] at moved
    by_cases same : bufferProfilePool s oldProfileId = bufferProfilePool s profileId
    · rw [same] at sized
      rw [if_pos same] at moved
      by_cases grows : bufferProfileSize s oldProfileId < bufferProfileSize s profileId
      · obtain ⟨target, there, room⟩ :=
          qosIsBufferPoolAvailable_lt (qosCalcPoolSize_grow sized notNull grows)
        cases Option.some.inj (stored.symm.trans there)
        rw [BitVec.toNat_sub_of_le (BitVec.le_of_lt grows)] at room
        have order := BitVec.lt_def.mp grows
        omega
      · have order := Nat.le_of_not_lt fun less => grows (BitVec.lt_def.mpr less)
        omega
    · obtain ⟨target, there, room⟩ :=
        qosIsBufferPoolAvailable_lt (qosCalcPoolSize_differ same sized notNull)
      cases Option.some.inj (stored.symm.trans there)
      omega
  · rw [if_neg here] at moved
    omega

theorem BufferBounded.putPool {s : QosState}
    (bounded : BufferBounded s) (fits : bufferReserved s k ≤ pool.size.toNat) :
    BufferBounded { s with bufferPoolTree := s.bufferPoolTree.put k pool } := by
  intro j found present
  simp only [KeyTree.get_put] at present
  show bufferReserved s j ≤ found.size.toNat
  split at present
  · rename_i here
    cases Option.some.inj present
    rw [here]
    exact fits
  · exact bounded j found present

theorem BufferBounded.poolCreate {s : QosState} (linked : BufferLinked s) (bounded : BufferBounded s)
    (attrs : List BufferPoolAttr) (env : CreateEnv) : BufferBounded (qosCreateBufferPool s attrs env).1 := by
  rcases qosCreateBufferPool_cases s attrs env with ⟨_, _, same⟩ | ⟨node, _, absent, created⟩
  · rwa [same]
  rw [created]
  refine bounded.putPool ?_
  rw [linked.reserved_absent absent]
  exact Nat.zero_le _

theorem BufferBounded.poolRemove {s : QosState} (bounded : BufferBounded s) (poolId : ObjectId)
    (npu : SaiStatus) : BufferBounded (qosRemoveBufferPool s poolId npu).1 := by
  rcases qosRemoveBufferPool_cases s poolId npu with ⟨_, _, same⟩ | ⟨_, _, _, removed⟩
  · rwa [same]
  rw [removed]
  exact fun k pool stored => bounded k pool (KeyTree.get_of_del stored)

theorem BufferBounded.poolAttrSet {s : QosState} {attr : BufferPoolAttr}
    {vendor npu : SaiStatus} (bounded : BufferBounded s)
    (within : (BufferCall.poolAttrSet poolId attr vendor npu).WithinPool s) :
    BufferBounded (qosBufferPoolAttrSet s poolId attr vendor npu).1 := by
  rcases qosBufferPoolAttrSet_cases s poolId attr vendor npu with
    ⟨_, _, same⟩ | ⟨oldPool, pool, value, accepted, stored, rfl, rfl, written⟩
  · rwa [same]
  rw [written]
  refine bounded.putPool (within ?_)
  unfold qosBufferPoolAttributesValidate at accepted
  rwa [if_neg (by simp only [List.length_singleton, Nat.one_ne_zero, not_false_eq_true])] at accepted

theorem BufferBounded.run {s : QosState} (linked : BufferLinked s)
    (conserved : BufferConserved s) (bounded : BufferBounded s) (within : call.WithinPool s) :
    BufferBounded (call.run s).1 := by
  cases call with
  | poolCreate attrs env => exact bounded.poolCreate linked attrs env
  | poolRemove poolId npu => exact bounded.poolRemove poolId npu
  | poolAttrSet poolId attr vendor npu => exact bounded.poolAttrSet within
  | profileCreate attrs env =>
    obtain ⟨budget, same⟩ := qosCreateBufferProfile_keeps s attrs env
    refine BufferBounded.of_sizes (fun k => bufferPoolSize_of_budget (budget k)) fun k pool stored => ?_
    exact (same k).le.trans (bounded k pool stored)
  | profileRemove profileId npu =>
    obtain ⟨budget, same⟩ := qosRemoveBufferProfile_keeps s profileId npu
    refine BufferBounded.of_sizes (fun k => bufferPoolSize_of_budget (budget k)) fun k pool stored => ?_
    exact (same k).le.trans (bounded k pool stored)
  | profileAttrSet profileId attr env => exact bounded.profileAttrSet linked conserved within
  | profileApply objectId profileId env => exact bounded.profileApply linked conserved within

/-- With an NPU that accepts everything, and no pool over-committed, every
recalculation takes effect. -/
theorem BufferBounded.effect {s : QosState} (linked : BufferLinked s)
    (conserved : BufferConserved s) (bounded : BufferBounded s) (npu : call.NpuSucceeds) :
    call.RecalcTakesEffect s := by
  cases call with
  | profileAttrSet profileId attr env =>
    obtain ⟨_, recalc, recalcNew⟩ := npu
    cases attr with
    | poolId oid =>
      intro profile stored
      refine Or.inr ?_
      by_cases own : oid = profile.bufferPoolId
      · refine Or.inr ⟨own, by rw [recalc, recalcNew], fun _ pool found => ?_⟩
        rw [own] at found
        have free := conserved.free bounded found
        have part := profile.share_le s profile.bufferPoolId stored
        have small := pool.size.isLt
        unfold BufferProfile.share at part
        rw [if_pos rfl] at part
        rw [BufferProfile.toNat_amount (bounded.users_lt linked stored)]
        omega
      · exact Or.inl ⟨own, recalc, recalcNew⟩
    | bufferSize value => exact fun _ _ => Or.inr recalc
    | xoffTh value => exact fun _ _ => Or.inr recalc
    | _ => trivial
  | profileApply objectId profileId env =>
    obtain ⟨_, recalc, recalcNew⟩ := npu
    intro oldProfileId _
    split
    · exact Or.inr recalc
    · exact ⟨Or.inr recalc, Or.inr recalcNew⟩
  | _ => trivial

/-- What a profile attribute changes for the users of a profile, in exact integers. -/
def BufferProfile.amount (profile : BufferProfile) : BufferProfileAttr → Nat
  | .poolId _ => profile.numRef * profile.need
  | .bufferSize value => profile.numRef *
    (if profile.size < value then value.toNat - profile.size.toNat else profile.size.toNat - value.toNat)
  | .xoffTh value => profile.numRef *
    (if profile.xoffTh < value then value.toNat - profile.xoffTh.toNat
      else profile.xoffTh.toNat - value.toNat)
  | _ => 0

theorem toNat_shrink (shrinks : ¬ old < value) (small : users * (old.toNat + rest) < 2 ^ 32) :
    (BitVec.ofNat 32 users * (old - value)).toNat = users * (old.toNat - value.toNat) := by
  have order := Nat.le_of_not_lt fun less => shrinks (BitVec.lt_def.mpr less)
  have less : users * (old.toNat - value.toNat) ≤ users * (old.toNat + rest) :=
    Nat.mul_le_mul_left users (by omega)
  rw [BitVec.toNat_mul, BitVec.toNat_sub_of_le (BitVec.le_def.mpr order), BitVec.toNat_ofNat,
    Nat.mod_mul_mod]
  exact Nat.mod_eq_of_lt (by omega)

theorem BufferBounded.attr_amount {s : QosState} {amount : BitVec 32} {isAdd : Bool}
    (bounded : BufferBounded s) (linked : BufferLinked s) (vendor : env.vendor = .success)
    (within : (BufferCall.profileAttrSet profileId attr env).WithinPool s)
    (stored : s.bufferProfileTree.get profileId = some profile)
    (valid : qosCheckBufferProfileAttrValue s attr profile = .success)
    (admitted : qosCheckBufferSize s attr profile = .ok (amount, isAdd)) : amount.toNat = profile.amount attr := by
  have small := bounded.users_lt linked stored
  unfold BufferProfile.amount
  cases attr with
  | poolId oid =>
    rw [(qosCheckBufferSize_poolId admitted).1]
    exact BufferProfile.toNat_amount small
  | bufferSize value =>
    have fits := within vendor profile stored
    unfold qosCheckBufferSize at admitted
    simp only [gt_iff_lt] at admitted ⊢
    split at admitted
    · rename_i grows
      split at admitted
      · rename_i available
        cases admitted
        rw [if_pos grows]
        exact fits.exact grows available
      · cases admitted
    · rename_i shrinks
      cases admitted
      rw [if_neg shrinks]
      exact toNat_shrink shrinks small
  | xoffTh value =>
    have threshold : qosBufferProfileIsValidThresholdApplied s profile (.xoffTh value) = true := by
      unfold qosCheckBufferProfileAttrValue at valid
      simp only at valid
      split at valid
      · assumption
      · cases valid
    have fits := within vendor profile stored threshold
    unfold BufferProfile.need at small
    rw [Nat.add_comm] at small
    unfold qosCheckBufferSize at admitted
    simp only [gt_iff_lt] at admitted ⊢
    split at admitted
    · rename_i grows
      split at admitted
      · rename_i available
        cases admitted
        rw [if_pos grows]
        exact fits.exact grows available
      · cases admitted
    · rename_i shrinks
      cases admitted
      rw [if_neg shrinks]
      exact toNat_shrink shrinks small
  | _ =>
    cases admitted
    rfl

/-- The integers that a call computes with are the exact ones: the amount of
an attribute set, the needs of both profiles of an application, and the change
of what is free in each pool. -/
structure BufferCall.Exact (s : QosState) (call : BufferCall) : Prop where
  attrAmount : ∀ profileId attr env profile amount isAdd,
    call = .profileAttrSet profileId attr env → env.vendor = .success →
    s.bufferProfileTree.get profileId = some profile →
    qosCheckBufferProfileAttrValue s attr profile = .success →
    qosCheckBufferSize s attr profile = .ok (amount, isAdd) → amount.toNat = profile.amount attr
  applyNeed : ∀ objectId profileId env oldProfileId amount k,
    call = .profileApply objectId profileId env →
    qosGetBufferProfileId s objectId = .ok oldProfileId →
    qosObjProfileCheck s objectId oldProfileId profileId = .ok amount →
    ∀ id ∈ [oldProfileId, profileId], bufferNeedAt s id k =
      if bufferProfilePool s id = k then (bufferProfileSize s id).toNat else 0
  moved : ∀ k before after, s.bufferPoolTree.get k = some before →
    (call.run s).1.bufferPoolTree.get k = some after →
    (after.sharedSize.toNat : Int) - before.sharedSize.toNat =
      (after.size.toNat - before.size.toNat) - (bufferReserved (call.run s).1 k - bufferReserved s k)

/-- In every run in which the NPU accepts everything and each call stays within
the pools, no pool is over-committed: what is free and what is reserved add up
to the size, in exact integers, and no call's arithmetic wraps. -/
theorem bufferPool_not_overcommitted {s : QosState} (reach : Runs.Reach BufferFresh (Runs.guarded
      (fun s call => BufferCall.NpuSucceeds call ∧ BufferCall.WithinPool s call) BufferCall.step) s) :
    (∀ k pool, s.bufferPoolTree.get k = some pool → bufferReserved s k ≤ pool.size.toNat ∧
      pool.sharedSize ≤ pool.size ∧ pool.sharedSize.toNat + bufferReserved s k = pool.size.toNat) ∧
    ∀ call : BufferCall, call.NpuSucceeds → call.WithinPool s → call.Exact s := by
  have invariant : BufferLinked s ∧ BufferConserved s ∧ BufferBounded s := by
    refine reach.invariant (fun s => BufferLinked s ∧ BufferConserved s ∧ BufferBounded s) ?_ ?_
    · intro s fresh
      refine ⟨fresh.linked, fresh.conserved, fun k pool stored => ?_⟩
      rw [fresh.pools, KeyTree.get_empty] at stored
      cases stored
    · rintro s call t ⟨linked, conserved, bounded⟩ ⟨⟨npu, within⟩, rfl⟩
      have effect := bounded.effect linked conserved npu
      exact ⟨linked.run call, conserved.run linked effect, bounded.run linked conserved within⟩
  obtain ⟨linked, conserved, bounded⟩ := invariant
  constructor
  · intro k pool stored
    have free := conserved.free bounded stored
    exact ⟨bounded k pool stored, BitVec.le_def.mpr (by omega), free⟩
  · intro call npu within
    refine ⟨?_, ?_, ?_⟩
    · rintro profileId attr env profile amount isAdd rfl vendor stored valid admitted
      exact bounded.attr_amount linked vendor within stored valid admitted
    · rintro objectId profileId env oldProfileId amount k rfl found admitted id member
      have differ := (qosObjProfileCheck_ok admitted).1
      rcases List.mem_pair.mp member with rfl | rfl
      · exact bufferNeedAt_toNat k (bounded.old_need_lt linked found differ)
      · exact bufferNeedAt_toNat k (within oldProfileId _ found admitted)
    · intro k before after stored storedAfter
      have free := conserved.free bounded stored
      have effect := bounded.effect linked conserved npu
      have freeAfter := (conserved.run linked effect).free (bounded.run linked conserved within) storedAfter
      omega

theorem bufferPool_not_overcommitted_sample : ∃ pool,
    ((bufferSampleRun 100 10 .success).foldl BufferCall.step bufferSample).bufferPoolTree.get ⟨.bufferPool, 1⟩ =
      some pool ∧ pool.sharedSize ≤ pool.size := by
  have allowed : Runs.AllowedRun (fun s call => BufferCall.NpuSucceeds call ∧ BufferCall.WithinPool s call)
      BufferCall.step bufferSample (bufferSampleRun 100 10 .success) := by
    refine ⟨⟨rfl, trivial⟩, ⟨rfl, trivial⟩, ⟨⟨rfl, rfl, rfl⟩, ?_⟩, trivial⟩
    intro oldProfileId amount _ _ profile got
    cases got
    decide
  obtain ⟨pool, stored⟩ : ∃ pool, ((bufferSampleRun 100 10 .success).foldl BufferCall.step
    bufferSample).bufferPoolTree.get ⟨.bufferPool, 1⟩ = some pool := ⟨_, rfl⟩
  exact ⟨pool, stored, ((bufferPool_not_overcommitted (Runs.Reach.run (.start bufferSample_fresh) allowed)).1
    ⟨.bufferPool, 1⟩ pool stored).2.1⟩

/-- A pool of 100 with 60 reserved takes the size 10. -/
theorem bufferPool_overcommitted : ¬ ∀ s, Runs.Reach BufferFresh
    (Runs.guarded (fun _ call => BufferCall.NpuSucceeds call) BufferCall.step) s → BufferBounded s := by
  intro all
  let calls := bufferSampleRun 100 60 .success ++
    [.poolAttrSet ⟨.bufferPool, 1⟩ (.size 10) .success .success]
  have allowed : Runs.AllowedRun (fun _ call => BufferCall.NpuSucceeds call) BufferCall.step
      bufferSample calls := ⟨rfl, rfl, ⟨rfl, rfl, rfl⟩, rfl, trivial⟩
  have bounded := all _ (Runs.Reach.run (.start bufferSample_fresh) allowed)
  have broken : ∃ pool, (calls.foldl BufferCall.step bufferSample).bufferPoolTree.get ⟨.bufferPool, 1⟩ =
      some pool ∧ pool.size.toNat = 10 ∧
      bufferReserved (calls.foldl BufferCall.step bufferSample) ⟨.bufferPool, 1⟩ = 60 :=
    ⟨_, rfl, by decide, by decide⟩
  obtain ⟨pool, stored, size, reserved⟩ := broken
  have fits := bounded _ pool stored
  omega

end SaiCommon
