import Mathlib.Tactic.LinearCombination
import Mathlib.Tactic.Ring
import SaiCommon.Qos.BufferLinks

namespace SaiCommon

open KeyTree

variable {checkTh isAdd : Bool} {call : BufferCall} {node profile : BufferProfile}
  {tree : KeyTree ObjectId BufferProfile} {newPoolId objectId oldPoolId oldProfileId k poolId profileId : ObjectId}
  {env : ProfileApplyEnv} {u s t : QosState} {npu npuNew : SaiStatus} {size oldSize newSize : BitVec 32}

/-- What one user of a profile takes from its pool, in exact integers. -/
def BufferProfile.need (profile : BufferProfile) : Nat :=
  profile.size.toNat + profile.xoffTh.toNat

def BufferProfile.share (profile : BufferProfile) (k : ObjectId) : Nat :=
  if profile.bufferPoolId = k then profile.numRef * profile.need else 0

def bufferReserved (s : QosState) (k : ObjectId) : Nat :=
  s.bufferProfileTree.weigh fun _ profile => profile.share k

/-- The budget law: what is free is the size less what is reserved, modulo 2^32. -/
def BufferConserved (s : QosState) : Prop :=
  ∀ k pool, s.bufferPoolTree.get k = some pool →
    pool.sharedSize = pool.size - BitVec.ofNat 32 (bufferReserved s k)

/-- By how much a pool is off the budget law. -/
def bufferGap (s : QosState) (k : ObjectId) : BitVec 32 :=
  (bufferPoolBudget s k).elim 0 fun budget =>
    budget.2 + BitVec.ofNat 32 (bufferReserved s k) - budget.1

theorem bufferConserved_iff : BufferConserved s ↔ ∀ k, bufferGap s k = 0 := by
  unfold BufferConserved bufferGap bufferPoolBudget
  refine forall_congr' fun k => ?_
  cases s.bufferPoolTree.get k with
  | none => simp only [reduceCtorEq, false_implies, implies_true, Option.map_none, Option.elim_none]
  | some pool =>
    simp only [Option.some.injEq, forall_eq', Option.map_some, Option.elim_some, BufferPool.budget]
    constructor
    · intro law
      rw [law]
      ring
    · intro gap
      linear_combination gap

theorem bufferGap_of_reserved {out into : Nat} (budget : bufferPoolBudget t k = bufferPoolBudget s k)
    (stored : s.bufferPoolTree.get k ≠ none) (moved : bufferReserved t k + out = bufferReserved s k + into) :
    bufferGap t k + BitVec.ofNat 32 out = bufferGap s k + BitVec.ofNat 32 into := by
  obtain ⟨pool, found⟩ := Option.ne_none_iff_exists'.mp stored
  have sum := congrArg (BitVec.ofNat 32) moved
  rw [BitVec.ofNat_add, BitVec.ofNat_add] at sum
  unfold bufferGap
  rw [budget]
  unfold bufferPoolBudget
  rw [found]
  simp only [Option.map_some, Option.elim_some]
  linear_combination sum

theorem bufferGap_congr (budget : bufferPoolBudget t k = bufferPoolBudget s k)
    (same : bufferReserved t k = bufferReserved s k) : bufferGap t k = bufferGap s k := by
  unfold bufferGap
  rw [budget, same]

/-- A recalculation that finds room closes the gap by its amount when the NPU
accepts it, and does nothing otherwise. -/
theorem bufferGap_recalc (npu : SaiStatus)
    (room : isAdd = true → ∀ pool, s.bufferPoolTree.get poolId = some pool → ¬ pool.sharedSize < size)
    (k : ObjectId) (stored : s.bufferPoolTree.get k ≠ none) :
    bufferGap (qosBufferPoolSizeRecalc s poolId size isAdd npu).1 k =
      bufferGap s k + if k = poolId ∧ npu = .success then (if isAdd then -size else size) else 0 := by
  rcases qosBufferPoolSizeRecalc_cases s poolId size isAdd npu with
    ⟨pool, found, accepted, _, moved⟩ | ⟨same, refused⟩
  · rw [moved]
    by_cases here : k = poolId
    · subst here
      rw [if_pos ⟨rfl, accepted⟩]
      unfold bufferGap bufferPoolBudget bufferReserved
      simp only [get_put_self, found, Option.map_some, Option.elim_some, BufferPool.budget,
        BufferPool.move]
      cases isAdd with
      | true =>
        simp only [if_true]
        ring
      | false =>
        simp only [Bool.false_eq_true, if_false]
        ring
    · rw [if_neg fun both => here both.1, add_zero]
      refine bufferGap_congr ?_ rfl
      unfold bufferPoolBudget
      simp only [get_put_ne here]
  · rw [same]
    by_cases here : k = poolId
    · subst here
      obtain ⟨pool, found⟩ := Option.ne_none_iff_exists'.mp stored
      rcases refused pool found with failed | ⟨add, full⟩
      · rw [if_neg fun both => failed both.2, add_zero]
      · exact absurd full (room add pool found)
    · rw [if_neg fun both => here both.1, add_zero]

@[simp] theorem BufferProfile.ofNat_need (profile : BufferProfile) :
    BitVec.ofNat 32 profile.need = profile.size + profile.xoffTh := by
  unfold need
  rw [BitVec.ofNat_add, BitVec.ofNat_toNat, BitVec.ofNat_toNat, BitVec.setWidth_eq, BitVec.setWidth_eq]

theorem BufferProfile.ofNat_share (profile : BufferProfile) (k : ObjectId) :
    BitVec.ofNat 32 (profile.share k) = if profile.bufferPoolId = k
      then BitVec.ofNat 32 profile.numRef * (profile.size + profile.xoffTh) else 0 := by
  unfold share
  split
  · rw [BitVec.ofNat_mul, ofNat_need]
  · rfl

/-- What one user of the profile behind an id takes from pool `k`. -/
def bufferNeedAt (s : QosState) (profileId k : ObjectId) : Nat :=
  (bufferProfileGet s profileId).elim 0 fun profile =>
    if profile.bufferPoolId = k then profile.need else 0

theorem ofNat_bufferNeedAt (s : QosState) (profileId k : ObjectId) : BitVec.ofNat 32 (bufferNeedAt s profileId k) =
      if bufferProfilePool s profileId = k then bufferProfileSize s profileId else 0 := by
  by_cases here : bufferProfilePool s profileId = k
  · rw [if_pos here]
    unfold bufferNeedAt bufferProfileSize
    unfold bufferProfilePool at here
    cases node : bufferProfileGet s profileId with
    | none => rfl
    | some profile =>
      rw [node] at here
      simp only [Option.elim_some] at here ⊢
      rw [if_pos here]
      exact profile.ofNat_need
  · rw [if_neg here]
    unfold bufferNeedAt
    unfold bufferProfilePool at here
    cases node : bufferProfileGet s profileId with
    | none => rfl
    | some profile =>
      rw [node] at here
      simp only [Option.elim_some] at here ⊢
      rw [if_neg here]
      rfl

theorem bufferReserved_write (node : BufferProfile) (stored : s.bufferProfileTree.get profileId = some profile)
    (same : u.bufferProfileTree = s.bufferProfileTree) (k : ObjectId) :
    bufferReserved { u with bufferProfileTree := u.bufferProfileTree.put profileId node } k +
      profile.share k = bufferReserved s k + node.share k := by
  have moved := weigh_put_old (fun _ (p : BufferProfile) => p.share k) (v := node) stored
  unfold bufferReserved
  simp only [same]
  omega

theorem bufferReserved_release (objectId k : ObjectId) (stored : tree.get profileId = some profile)
    (used : 0 < profile.numRef) : ((tree.modify profileId fun p => p.unlink objectId).weigh fun _ p => p.share k) +
      (if profile.bufferPoolId = k then profile.need else 0) = tree.weigh fun _ p => p.share k := by
  obtain ⟨count, pool, size, xoff⟩ := profile.unlink_terms objectId
  have moved := weigh_modify_old (fun _ (p : BufferProfile) => p.share k)
    (g := fun p => p.unlink objectId) stored
  have before : profile.share k = (profile.unlink objectId).share k +
      if profile.bufferPoolId = k then profile.need else 0 := by
    unfold BufferProfile.share BufferProfile.need
    rw [pool, count, size, xoff]
    split
    · obtain ⟨n, isSucc⟩ := Nat.exists_eq_add_of_lt used
      rw [isSucc, Nat.zero_add, Nat.add_sub_cancel, Nat.succ_mul]
    · rfl
  omega

theorem bufferReserved_take (objectId k : ObjectId) (stored : tree.get profileId = some profile) :
    ((tree.modify profileId fun p => p.link objectId).weigh fun _ p => p.share k) =
      (tree.weigh fun _ p => p.share k) + if profile.bufferPoolId = k then profile.need else 0 := by
  obtain ⟨count, pool, size, xoff⟩ := profile.link_terms objectId
  have moved := weigh_modify_old (fun _ (p : BufferProfile) => p.share k)
    (g := fun p => p.link objectId) stored
  have after : (profile.link objectId).share k = profile.share k +
      if profile.bufferPoolId = k then profile.need else 0 := by
    unfold BufferProfile.share BufferProfile.need
    rw [pool, count, size, xoff]
    split
    · rw [Nat.succ_mul]
    · rfl
  omega

theorem BufferLinked.used (linked : BufferLinked s) (found : qosGetBufferProfileId s objectId = .ok oldProfileId)
    (differ : oldProfileId ≠ profileId)
    (stored : s.bufferProfileTree.get oldProfileId = some profile) : 0 < profile.numRef := by
  have users := bufferProfileUsers_set found profileId oldProfileId
  have count := linked.profileRef oldProfileId profile stored
  rw [if_pos rfl, if_neg differ.symm] at users
  omega

theorem BufferLinked.reserved_relink
    (linked : BufferLinked s) (found : qosGetBufferProfileId s objectId = .ok oldProfileId)
    (differ : oldProfileId ≠ profileId)
    (newStored : profileId ≠ nullObjectId → s.bufferProfileTree.get profileId ≠ none)
    (oldStored : oldProfileId ≠ nullObjectId → s.bufferProfileTree.get oldProfileId ≠ none)
    (k : ObjectId) :
    bufferReserved { qosSetBufferProfileId s objectId profileId with
        bufferProfileTree := bufferProfileRelink s.bufferProfileTree objectId oldProfileId profileId } k +
      bufferNeedAt s oldProfileId k = bufferReserved s k + bufferNeedAt s profileId k := by
  have released : ((bufferProfileRelease s.bufferProfileTree objectId oldProfileId).weigh
      fun _ p => p.share k) + bufferNeedAt s oldProfileId k = bufferReserved s k := by
    unfold bufferProfileRelease bufferNeedAt bufferProfileGet bufferReserved
    by_cases null : oldProfileId = nullObjectId
    · rw [if_neg (not_not_intro null), if_pos null]
      rfl
    · obtain ⟨profile, stored⟩ := Option.ne_none_iff_exists'.mp (oldStored null)
      rw [if_pos null, if_neg null, stored]
      exact bufferReserved_release objectId k stored (linked.used found differ stored)
  have taken : ((bufferProfileRelink s.bufferProfileTree objectId oldProfileId profileId).weigh
      fun _ p => p.share k) = ((bufferProfileRelease s.bufferProfileTree objectId oldProfileId).weigh
      fun _ p => p.share k) + bufferNeedAt s profileId k := by
    unfold bufferProfileRelink bufferProfileTake bufferNeedAt bufferProfileGet
    by_cases null : profileId = nullObjectId
    · rw [if_neg (not_not_intro null), if_pos null]
      rfl
    obtain ⟨profile, stored⟩ := Option.ne_none_iff_exists'.mp (newStored null)
    rw [if_pos null, if_neg null, stored]
    refine bufferReserved_take objectId k ?_
    unfold bufferProfileRelease
    split
    · rw [get_modify_ne differ.symm, stored]
    · exact stored
  show ((bufferProfileRelink s.bufferProfileTree objectId oldProfileId profileId).weigh
    fun _ p => p.share k) + bufferNeedAt s oldProfileId k = _
  omega

theorem qosUpdateBufferProfileNode_one {index : Nat} {attr : BufferProfileAttr}
    (written : qosUpdateBufferProfileNode profileId index [attr] s profile = (u, node, .success)) :
    node.numRef = profile.numRef ∧
    node.bufferPoolId = (match attr with | .poolId oid => oid | _ => profile.bufferPoolId) ∧
    node.size = (match attr with | .bufferSize value => value | _ => profile.size) ∧
    node.xoffTh = (match attr with | .xoffTh value => value | _ => profile.xoffTh) := by
  cases attr with
  | poolId oid =>
    unfold qosUpdateBufferProfileNode at written
    split at written
    · cases written
    · cases written
      exact ⟨rfl, rfl, rfl, rfl⟩
  | unknown => cases written
  | _ =>
    cases written
    exact ⟨rfl, rfl, rfl, rfl⟩

/-- The recalculation that takes from a pool finds the room that the check
before it has found. -/
theorem room_of_available (available : qosIsBufferPoolAvailable s poolId size = true)
    (budget : bufferPoolBudget t poolId = bufferPoolBudget s poolId) :
    ∀ pool, t.bufferPoolTree.get poolId = some pool → ¬ pool.sharedSize < size := by
  intro pool stored small
  unfold qosIsBufferPoolAvailable at available
  unfold bufferPoolBudget at budget
  rw [stored] at budget
  split at available
  · cases available
  rename_i before found
  rw [found] at budget
  simp only [Option.map_some, Option.some.injEq, BufferPool.budget, Prod.mk.injEq] at budget
  rw [budget.2] at small
  simp only [gt_iff_lt, decide_eq_true_eq] at available
  exact absurd (BitVec.lt_trans available small) (BitVec.lt_irrefl _)

/-- The recalculations of the call take effect: each one that moves a nonzero
amount is accepted by the NPU, and a pool id set to the profile's own pool
either gives back and takes again without overflow or does neither. -/
def BufferCall.RecalcTakesEffect (s : QosState) : BufferCall → Prop
  | .profileAttrSet profileId (.poolId oid) env => ∀ profile,
    s.bufferProfileTree.get profileId = some profile →
      let amount := BitVec.ofNat 32 profile.numRef * (profile.size + profile.xoffTh)
      amount = 0 ∨
      oid ≠ profile.bufferPoolId ∧ env.recalc = .success ∧ env.recalcNew = .success ∨
      oid = profile.bufferPoolId ∧ (env.recalc = .success ↔ env.recalcNew = .success) ∧
        (env.recalc = .success → ∀ pool, s.bufferPoolTree.get oid = some pool →
          pool.sharedSize.toNat + amount.toNat < 2 ^ 32)
  | .profileAttrSet profileId (.bufferSize value) env => ∀ profile,
    s.bufferProfileTree.get profileId = some profile →
      BitVec.ofNat 32 profile.numRef * (value - profile.size) = 0 ∨ env.recalc = .success
  | .profileAttrSet profileId (.xoffTh value) env => ∀ profile,
    s.bufferProfileTree.get profileId = some profile →
      BitVec.ofNat 32 profile.numRef * (value - profile.xoffTh) = 0 ∨ env.recalc = .success
  | .profileApply objectId profileId env => ∀ oldProfileId,
    qosGetBufferProfileId s objectId = .ok oldProfileId →
      if bufferProfilePool s oldProfileId = bufferProfilePool s profileId then
        bufferProfileSize s oldProfileId = bufferProfileSize s profileId ∨ env.recalc = .success
      else
        (bufferProfileSize s oldProfileId = 0 ∨ env.recalc = .success) ∧
        (bufferProfileSize s profileId = 0 ∨ env.recalcNew = .success)
  | _ => True

theorem bufferPool_stored_recalc (size : BitVec 32) (isAdd : Bool) (npu : SaiStatus) (k : ObjectId) :
    (qosBufferPoolSizeRecalc s poolId size isAdd npu).1.bufferPoolTree.get k = none ↔
      s.bufferPoolTree.get k = none := by
  rcases qosBufferPoolSizeRecalc_cases s poolId size isAdd npu with ⟨pool, found, _, _, moved⟩ | ⟨same, _⟩
  · rw [moved]
    simp only [get_put]
    split
    · rename_i here
      rw [here, found]
      exact ⟨fun none => absurd none (Option.some_ne_none _), fun none => absurd none (Option.some_ne_none _)⟩
    · exact Iff.rfl
  · rw [same]

theorem bufferGap_absent (absent : s.bufferPoolTree.get k = none) : bufferGap s k = 0 := by
  unfold bufferGap bufferPoolBudget
  rw [absent]
  rfl

/-- One recalculation closes a gap of `amount` in one pool. -/
theorem bufferConserved_recalc (amount : BitVec 32)
    (gap : ∀ k, s.bufferPoolTree.get k ≠ none → bufferGap s k = if k = poolId then amount else 0)
    (sign : size = if isAdd then amount else -amount)
    (room : isAdd = true → ∀ pool, s.bufferPoolTree.get poolId = some pool → ¬ pool.sharedSize < size)
    (effect : amount = 0 ∨ npu = .success) :
    BufferConserved (qosBufferPoolSizeRecalc s poolId size isAdd npu).1 := by
  refine bufferConserved_iff.mpr fun k => ?_
  by_cases absent : s.bufferPoolTree.get k = none
  · exact bufferGap_absent ((bufferPool_stored_recalc size isAdd npu k).mpr absent)
  rw [bufferGap_recalc npu room k absent, gap k absent, sign]
  by_cases here : k = poolId
  · rcases effect with zero | accepted
    · rw [zero]
      simp only [neg_zero, ite_self, add_zero]
    · cases isAdd <;> simp only [here, accepted, true_and, if_true, Bool.false_eq_true, if_false] <;> ring
  · rw [if_neg here, if_neg fun both => here both.1, add_zero]

section Resize
variable {attr : BufferProfileAttr} {value old : BitVec 32}
  (resizes : attr = .bufferSize value ∧ old = profile.size ∨
  attr = .xoffTh value ∧ old = profile.xoffTh)
include resizes

/-- A new size and a new threshold are checked alike. -/
theorem qosCheckBufferSize_resize : qosCheckBufferSize s attr profile =
      if old < value then
        if qosIsBufferPoolAvailable s profile.bufferPoolId (BitVec.ofNat 32 profile.numRef * (value - old))
        then .ok (BitVec.ofNat 32 profile.numRef * (value - old), true)
        else .error .insufficientResources
      else .ok (BitVec.ofNat 32 profile.numRef * (old - value), false) := by
  rcases resizes with ⟨rfl, rfl⟩ | ⟨rfl, rfl⟩ <;> rfl

theorem qosCheckBufferSize_resized (admitted : qosCheckBufferSize s attr profile = .ok (size, isAdd)) :
    size = (if isAdd then BitVec.ofNat 32 profile.numRef * (value - old)
      else -(BitVec.ofNat 32 profile.numRef * (value - old))) ∧
    (isAdd = true → qosIsBufferPoolAvailable s profile.bufferPoolId size = true) := by
  rw [qosCheckBufferSize_resize resizes] at admitted
  split at admitted
  · split at admitted
    · rename_i available
      cases admitted
      exact ⟨rfl, fun _ => available⟩
    · cases admitted
  · cases admitted
    refine ⟨?_, fun add => by cases add⟩
    simp only [Bool.false_eq_true, if_false]
    ring

end Resize

theorem qosCheckBufferSize_poolId {oid : ObjectId}
    (admitted : qosCheckBufferSize s (.poolId oid) profile = .ok (size, isAdd)) :
    size = BitVec.ofNat 32 profile.numRef * (profile.size + profile.xoffTh) ∧
    qosIsBufferPoolAvailable s oid size = true := by
  unfold qosCheckBufferSize at admitted
  simp only at admitted
  split at admitted
  · rename_i available
    cases admitted
    exact ⟨rfl, available⟩
  · cases admitted

/-- Giving `amount` back to one pool and taking it from another. -/
theorem bufferConserved_recalc_two (differ : oldPoolId ≠ newPoolId) (gap : ∀ k, s.bufferPoolTree.get k ≠ none →
      bufferGap s k + (if k = oldPoolId then oldSize else 0) = if k = newPoolId then newSize else 0)
    (room : ∀ pool, s.bufferPoolTree.get newPoolId = some pool → ¬ pool.sharedSize < newSize)
    (effect : oldSize = 0 ∨ npu = .success) (effectNew : newSize = 0 ∨ npuNew = .success) :
    BufferConserved (qosBufferPoolSizeRecalc
      (qosBufferPoolSizeRecalc s oldPoolId oldSize false npu).1 newPoolId newSize true npuNew).1 := by
  refine bufferConserved_recalc newSize ?_ rfl ?_ effectNew
  · intro k stored
    rw [Ne, bufferPool_stored_recalc] at stored
    rw [bufferGap_recalc npu (fun add => by cases add) k stored, ← gap k stored]
    congr 1
    by_cases here : k = oldPoolId
    · rcases effect with zero | accepted
      · rw [zero]
        simp only [Bool.false_eq_true, if_false, ite_self]
      · simp only [here, accepted, true_and, if_true, Bool.false_eq_true, if_false]
    · rw [if_neg here, if_neg fun both => here both.1]
  · intro _ pool stored
    rcases qosBufferPoolSizeRecalc_cases s oldPoolId oldSize false npu with ⟨before, _, _, _, moved⟩ | ⟨same, _⟩
    · rw [moved] at stored
      simp only [get_put_ne differ.symm] at stored
      exact room pool stored
    · rw [same] at stored
      exact room pool stored

/-- Giving `amount` back to a pool and taking it from the same pool. -/
theorem bufferConserved_recalc_back (even : ∀ k, s.bufferPoolTree.get k ≠ none → bufferGap s k = 0)
    (room : ∀ pool, s.bufferPoolTree.get poolId = some pool → ¬ pool.sharedSize < size)
    (effect : size = 0 ∨ (npu = .success ↔ npuNew = .success) ∧
      (npu = .success → ∀ pool, s.bufferPoolTree.get poolId = some pool →
        pool.sharedSize.toNat + size.toNat < 2 ^ 32)) : BufferConserved (qosBufferPoolSizeRecalc
      (qosBufferPoolSizeRecalc s poolId size false npu).1 poolId size true npuNew).1 := by
  have roomNew : ∀ pool, (qosBufferPoolSizeRecalc s poolId size false npu).1.bufferPoolTree.get poolId =
      some pool → ¬ pool.sharedSize < size := by
    intro pool stored
    rcases qosBufferPoolSizeRecalc_cases s poolId size false npu with
      ⟨before, found, accepted, _, moved⟩ | ⟨same, _⟩
    · rw [moved] at stored
      simp only [get_put_self, Option.some.injEq] at stored
      rw [← stored]
      simp only [BufferPool.move, Bool.false_eq_true, if_false, BitVec.lt_def, BitVec.toNat_add]
      rcases effect with zero | ⟨_, fits⟩
      · rw [zero]
        exact Nat.not_lt_zero _
      · have bound := fits accepted before found
        rw [Nat.mod_eq_of_lt bound]
        omega
    · rw [same] at stored
      exact room pool stored
  refine bufferConserved_iff.mpr fun k => ?_
  by_cases absent : s.bufferPoolTree.get k = none
  · refine bufferGap_absent ?_
    rw [bufferPool_stored_recalc, bufferPool_stored_recalc]
    exact absent
  have present : (qosBufferPoolSizeRecalc s poolId size false npu).1.bufferPoolTree.get k ≠ none := by
    rw [Ne, bufferPool_stored_recalc]
    exact absent
  rw [bufferGap_recalc npuNew (fun _ => roomNew) k present,
    bufferGap_recalc npu (fun add => by cases add) k absent, even k absent]
  by_cases here : k = poolId
  · rcases effect with zero | ⟨both, _⟩
    · simp only [zero, neg_zero, ite_self, add_zero]
    · simp only [here, true_and, both, if_true, Bool.false_eq_true, if_false]
      split <;> ring
  · rw [if_neg fun both => here both.1, if_neg fun both => here both.1, add_zero, add_zero]

theorem bufferGap_write {attr : BufferProfileAttr} (conserved : BufferConserved s)
    (stored : s.bufferProfileTree.get profileId = some profile)
    (written : qosUpdateBufferProfileNode profileId 0 [attr] s profile = (u, node, .success))
    (k : ObjectId) (present : s.bufferPoolTree.get k ≠ none) :
    bufferGap { u with bufferProfileTree := u.bufferProfileTree.put profileId node } k +
      BitVec.ofNat 32 (profile.share k) = BitVec.ofNat 32 (node.share k) := by
  obtain ⟨same, _, budget⟩ := qosUpdateBufferProfileNode_frame written
  have tree : u.bufferProfileTree = s.bufferProfileTree := by rw [same]
  have moved := bufferReserved_write node stored tree k
  have gap := bufferGap_of_reserved
    (t := { u with bufferProfileTree := u.bufferProfileTree.put profileId node }) (budget k) present moved
  rw [bufferConserved_iff.mp conserved k, zero_add] at gap
  exact gap

theorem BufferConserved.profileAttrSet
    {attr : BufferProfileAttr} {env : ProfileSetEnv} (conserved : BufferConserved s)
    (effect : (BufferCall.profileAttrSet profileId attr env).RecalcTakesEffect s) :
    BufferConserved (qosBufferProfileAttrSet s profileId attr env).1 := by
  generalize run : qosBufferProfileAttrSet s profileId attr env = result
  obtain ⟨t, status⟩ := result
  rcases qosBufferProfileAttrSet_cases run with
    ⟨rfl, _⟩ | ⟨_, profile, bufSize, isAdd, u, node, stored, _, admitted, written, rfl⟩
  · exact conserved
  have gap := bufferGap_write conserved stored written
  obtain ⟨_, _, budget⟩ := qosUpdateBufferProfileNode_frame written
  have pools := qosUpdateBufferProfileNode_pools written
  obtain ⟨count, pool, size, xoff⟩ := qosUpdateBufferProfileNode_one written
  unfold qosBufferProfileAttrRecalc
  simp only [BufferProfile.ofNat_share, count, pool, size, xoff] at gap
  cases attr with
  | bufferSize value
  | xoffTh value =>
    obtain ⟨sign, available⟩ := qosCheckBufferSize_resized
      (by first | exact .inl ⟨rfl, rfl⟩ | exact .inr ⟨rfl, rfl⟩) admitted
    refine bufferConserved_recalc _ ?_ sign (fun add => room_of_available (available add) (budget _))
      (effect profile stored)
    intro k present
    simp only [ne_eq, pools] at present
    have open_ := gap k present
    simp only at open_
    by_cases here : k = profile.bufferPoolId
    · rw [if_pos here.symm, if_pos here.symm] at open_
      rw [if_pos here]
      linear_combination open_
    · rw [if_neg (Ne.symm here), if_neg (Ne.symm here)] at open_
      rw [if_neg here]
      linear_combination open_
  | poolId oid =>
    obtain ⟨amount, available⟩ := qosCheckBufferSize_poolId admitted
    have room := room_of_available available (budget oid)
    simp only
    have effect := effect profile stored
    simp only [← amount] at effect gap
    by_cases own : oid = profile.bufferPoolId
    · subst own
      have even : ∀ k, u.bufferPoolTree.get k ≠ none → bufferGap
          { u with bufferProfileTree := u.bufferProfileTree.put profileId node } k = 0 := by
        intro k present
        rw [Ne, pools] at present
        have open_ := gap k present
        linear_combination open_
      refine bufferConserved_recalc_back even room ?_
      rcases effect with zero | ⟨other, _⟩ | ⟨_, both, fits⟩
      · exact Or.inl zero
      · exact absurd rfl other
      · refine Or.inr ⟨both, fun accepted pool present => ?_⟩
        obtain ⟨before, found⟩ := Option.ne_none_iff_exists'.mp
          (show s.bufferPoolTree.get profile.bufferPoolId ≠ none by
            rw [Ne, ← pools, present]
            exact Option.some_ne_none pool)
        have kept := budget profile.bufferPoolId
        unfold bufferPoolBudget at kept
        rw [present, found] at kept
        simp only [Option.map_some, Option.some.injEq, BufferPool.budget, Prod.mk.injEq] at kept
        rw [kept.2]
        exact fits accepted before found
    · have effects : (bufSize = 0 ∨ env.recalc = .success) ∧ (bufSize = 0 ∨ env.recalcNew = .success) := by
        rcases effect with zero | ⟨_, first, second⟩ | ⟨same, _⟩
        · exact ⟨Or.inl zero, Or.inl zero⟩
        · exact ⟨Or.inr first, Or.inr second⟩
        · exact absurd same own
      refine bufferConserved_recalc_two (Ne.symm own) ?_ room effects.1 effects.2
      intro k present
      simp only [ne_eq, pools] at present
      have open_ := gap k present
      simp only [eq_comm (a := k)]
      exact open_
  | _ =>
    refine bufferConserved_iff.mpr fun k => ?_
    by_cases absent : s.bufferPoolTree.get k = none
    · exact bufferGap_absent ((pools k).mpr absent)
    · have open_ := gap k absent
      linear_combination open_

theorem qosCalcPoolSize_same
    (admitted : qosCalcPoolSize s poolId poolId checkTh oldSize newSize = .ok (size, isAdd)) :
    size = (if isAdd then newSize - oldSize else -(newSize - oldSize)) ∧
    (poolId ≠ nullObjectId → qosIsBufferPoolAvailable s poolId size = true) := by
  unfold qosCalcPoolSize at admitted
  simp only [if_true] at admitted
  split at admitted
  · split at admitted
    · cases admitted
    rename_i refused
    cases admitted
    exact ⟨rfl, fun notNull => by_contra fun full => refused ⟨notNull, Bool.eq_false_iff.mpr full⟩⟩
  · split at admitted
    · cases admitted
    rename_i refused
    cases admitted
    refine ⟨?_, fun notNull => by_contra fun full => refused ⟨notNull, Bool.eq_false_iff.mpr full⟩⟩
    simp only [Bool.false_eq_true, if_false]
    ring

theorem qosCalcPoolSize_differ {amount : BitVec 32 × Bool} (differ : oldPoolId ≠ newPoolId)
    (admitted : qosCalcPoolSize s oldPoolId newPoolId checkTh oldSize newSize = .ok amount)
    (notNull : newPoolId ≠ nullObjectId) : qosIsBufferPoolAvailable s newPoolId newSize = true := by
  unfold qosCalcPoolSize at admitted
  simp only [if_neg differ, if_pos notNull] at admitted
  split at admitted
  · cases admitted
  split at admitted
  · cases admitted
  · rename_i refused
    exact by_contra fun full => refused ⟨notNull, Bool.eq_false_iff.mpr full⟩

theorem qosObjProfileRecalc_differ {tmpSize : BitVec 32}
    (nullKey : s.bufferPoolTree.get nullObjectId = none) (differ : oldPoolId ≠ newPoolId) :
    qosObjProfileRecalc s oldPoolId newPoolId oldSize newSize tmpSize isAdd env =
      (qosBufferPoolSizeRecalc (qosBufferPoolSizeRecalc s oldPoolId oldSize false env.recalc).1
        newPoolId newSize true env.recalcNew).1 := by
  have skip : ∀ (t : QosState) (size : BitVec 32) (add : Bool) (npu : SaiStatus),
      t.bufferPoolTree.get nullObjectId = none →
      (qosBufferPoolSizeRecalc t nullObjectId size add npu).1 = t := by
    intro t size add npu none
    unfold qosBufferPoolSizeRecalc
    rw [none]
  unfold qosObjProfileRecalc
  rw [if_neg differ]
  have first : (if oldPoolId ≠ nullObjectId
      then (qosBufferPoolSizeRecalc s oldPoolId oldSize false env.recalc).1 else s) =
      (qosBufferPoolSizeRecalc s oldPoolId oldSize false env.recalc).1 := by
    split
    · rfl
    · rename_i null
      rw [not_not.mp null, skip s _ _ _ nullKey]
  simp only [first]
  split
  · rfl
  rename_i null
  rw [not_not.mp null, skip]
  exact (bufferPool_stored_recalc _ _ _ _).mpr nullKey

theorem BufferConserved.profileApply (linked : BufferLinked s) (conserved : BufferConserved s)
    (effect : (BufferCall.profileApply objectId profileId env).RecalcTakesEffect s) :
    BufferConserved (qosObjUpdateBufferProfile s objectId profileId env).1 := by
  generalize run : qosObjUpdateBufferProfile s objectId profileId env = result
  obtain ⟨t, status⟩ := result
  rcases qosObjUpdateBufferProfile_cases run with
    ⟨rfl, _⟩ | ⟨_, oldProfileId, tmpSize, isAdd, found, admitted, rfl⟩
  · exact conserved
  obtain ⟨differ, newStored, oldStored, checkTh, sized⟩ := qosObjProfileCheck_ok admitted
  obtain ⟨pools, _⟩ := qosSetBufferProfileId_trees s objectId profileId
  have gap : ∀ k, s.bufferPoolTree.get k ≠ none →
      bufferGap { qosSetBufferProfileId s objectId profileId with
          bufferProfileTree := bufferProfileRelink s.bufferProfileTree objectId oldProfileId profileId } k +
        (if bufferProfilePool s oldProfileId = k then bufferProfileSize s oldProfileId else 0) =
      if bufferProfilePool s profileId = k then bufferProfileSize s profileId else 0 := by
    intro k present
    have moved := linked.reserved_relink found differ newStored oldStored k
    have gap := bufferGap_of_reserved (by unfold bufferPoolBudget; simp only [pools]) present moved
    rw [bufferConserved_iff.mp conserved k, zero_add, ofNat_bufferNeedAt, ofNat_bufferNeedAt] at gap
    exact gap
  have budget : ∀ k, bufferPoolBudget { qosSetBufferProfileId s objectId profileId with
      bufferProfileTree := bufferProfileRelink s.bufferProfileTree objectId oldProfileId profileId } k =
      bufferPoolBudget s k := by
    intro k
    unfold bufferPoolBudget
    simp only [pools]
  have effect := effect oldProfileId found
  by_cases same : bufferProfilePool s oldProfileId = bufferProfilePool s profileId
  · rw [if_pos same] at effect
    rw [same] at sized gap
    obtain ⟨sign, available⟩ := qosCalcPoolSize_same sized
    unfold qosObjProfileRecalc
    rw [if_pos same, same]
    refine bufferConserved_recalc _ ?_ sign ?_ ?_
    · intro k present
      simp only [pools] at present
      have open_ := gap k present
      by_cases here : k = bufferProfilePool s profileId
      · rw [if_pos here.symm, if_pos here.symm] at open_
        rw [if_pos here]
        linear_combination open_
      · rw [if_neg (Ne.symm here), if_neg (Ne.symm here)] at open_
        rw [if_neg here]
        linear_combination open_
    · intro _ pool stored
      refine room_of_available (available ?_) (budget _) pool stored
      intro null
      rw [null, pools, linked.poolKey] at stored
      cases stored
    · exact effect.imp_left fun equal => by rw [equal, BitVec.sub_self]; rfl
  · rw [if_neg same] at effect
    rw [qosObjProfileRecalc_differ (by simp only [pools]; exact linked.poolKey) same]
    refine bufferConserved_recalc_two same ?_ ?_ effect.1 effect.2
    · intro k present
      simp only [pools] at present
      have open_ := gap k present
      simp only [eq_comm (a := k)]
      exact open_
    · intro pool stored
      refine room_of_available (qosCalcPoolSize_differ same sized ?_) (budget _) pool stored
      intro null
      rw [null, pools, linked.poolKey] at stored
      cases stored

theorem qosUpdateBufferPoolNode_used (attrs : List BufferPoolAttr) : ∀ (index : Nat) (pool : BufferPool),
      (qosUpdateBufferPoolNode index attrs pool).1.size - (qosUpdateBufferPoolNode index attrs pool).1.sharedSize =
        pool.size - pool.sharedSize := by
  induction attrs with
  | nil => exact fun _ _ => rfl
  | cons attr rest ih =>
    intro index pool
    cases attr with
    | sharedSize => rfl
    | unknown => rfl
    | size value =>
      unfold qosUpdateBufferPoolNode
      rw [ih]
      ring
    | _ =>
      unfold qosUpdateBufferPoolNode
      rw [ih]

theorem BufferConserved.putPool {pool : BufferPool} (conserved : BufferConserved s)
    (used : pool.size - pool.sharedSize = BitVec.ofNat 32 (bufferReserved s k)) :
    BufferConserved { s with bufferPoolTree := s.bufferPoolTree.put k pool } := by
  intro j found present
  simp only [get_put] at present
  show found.sharedSize = found.size - BitVec.ofNat 32 (bufferReserved s j)
  split at present
  · rename_i here
    cases Option.some.inj present
    rw [here, ← used]
    ring
  · exact conserved j found present

theorem BufferLinked.reserved_absent (linked : BufferLinked s)
    (absent : s.bufferPoolTree.get k = none) : bufferReserved s k = 0 := by
  by_contra positive
  obtain ⟨id, profile, stored, part⟩ := KeyTree.exists_of_weigh (Nat.pos_of_ne_zero positive)
  have named := linked.poolStored id profile stored
  unfold BufferProfile.share at part
  split at part
  · rename_i here
    exact named (here ▸ absent)
  · omega

theorem BufferConserved.poolCreate (linked : BufferLinked s)
    (conserved : BufferConserved s) (attrs : List BufferPoolAttr) (env : CreateEnv) :
    BufferConserved (qosCreateBufferPool s attrs env).1 := by
  rcases qosCreateBufferPool_cases s attrs env with ⟨_, _, same⟩ | ⟨node, rfl, absent, created⟩
  · rwa [same]
  rw [created]
  refine conserved.putPool ?_
  rw [linked.reserved_absent absent, qosUpdateBufferPoolNode_used]
  rfl

theorem BufferConserved.poolRemove (conserved : BufferConserved s) (poolId : ObjectId)
    (npu : SaiStatus) : BufferConserved (qosRemoveBufferPool s poolId npu).1 := by
  rcases qosRemoveBufferPool_cases s poolId npu with ⟨_, _, same⟩ | ⟨_, _, _, removed⟩
  · rwa [same]
  rw [removed]
  exact fun k pool stored => conserved k pool (get_of_del stored)

theorem BufferConserved.poolAttrSet (conserved : BufferConserved s)
    (poolId : ObjectId) (attr : BufferPoolAttr) (vendor npu : SaiStatus) :
    BufferConserved (qosBufferPoolAttrSet s poolId attr vendor npu).1 := by
  rcases qosBufferPoolAttrSet_cases s poolId attr vendor npu with
    ⟨_, _, same⟩ | ⟨oldPool, pool, _, _, stored, _, rfl, written⟩
  · rwa [same]
  rw [written]
  have law := conserved poolId oldPool stored
  have old : oldPool.size - oldPool.sharedSize = BitVec.ofNat 32 (bufferReserved s poolId) := by
    rw [law]
    ring
  exact conserved.putPool ((qosUpdateBufferPoolNode_used [attr] 0 oldPool).trans old)

theorem BufferConserved.congr (conserved : BufferConserved s)
    (budget : ∀ k, bufferPoolBudget t k = bufferPoolBudget s k)
    (same : ∀ k, bufferReserved t k = bufferReserved s k) : BufferConserved t := by
  refine bufferConserved_iff.mpr fun k => ?_
  rw [bufferGap_congr (budget k) (same k)]
  exact bufferConserved_iff.mp conserved k

theorem qosCreateBufferProfile_keeps (s : QosState) (attrs : List BufferProfileAttr) (env : CreateEnv) :
    (∀ k, bufferPoolBudget (qosCreateBufferProfile s attrs env).1 k = bufferPoolBudget s k) ∧
    ∀ k, bufferReserved (qosCreateBufferProfile s attrs env).1 k = bufferReserved s k := by
  generalize created : qosCreateBufferProfile s attrs env = result
  obtain ⟨t, status⟩ := result
  rcases qosCreateBufferProfile_cases created with ⟨rfl, _⟩ | ⟨_, _, u, node, wrote, run, ended⟩
  · exact ⟨fun _ => rfl, fun _ => rfl⟩
  obtain ⟨same, count, budget⟩ := qosUpdateBufferProfileNode_frame run
  have tree : u.bufferProfileTree = s.bufferProfileTree := by rw [same]
  rcases ended with ⟨rfl, _⟩ | ⟨_, _, absent, rfl⟩
  · refine ⟨budget, fun k => ?_⟩
    unfold bufferReserved
    rw [tree]
  refine ⟨budget, fun k => ?_⟩
  have added := weigh_put_new (fun _ (p : BufferProfile) => p.share k) (v := node) absent
  have none : node.share k = 0 := by
    unfold BufferProfile.share
    rw [count]
    split
    · exact Nat.zero_mul _
    · rfl
  unfold bufferReserved
  simp only
  rw [added, none, tree, Nat.zero_add]

theorem qosRemoveBufferProfile_keeps (s : QosState) (profileId : ObjectId) (npu : SaiStatus) :
    (∀ k, bufferPoolBudget (qosRemoveBufferProfile s profileId npu).1 k = bufferPoolBudget s k) ∧
    ∀ k, bufferReserved (qosRemoveBufferProfile s profileId npu).1 k = bufferReserved s k := by
  rcases qosRemoveBufferProfile_cases s profileId npu with ⟨_, _, same⟩ | ⟨profile, stored, unused, removed⟩
  · rw [same]
    exact ⟨fun _ => rfl, fun _ => rfl⟩
  rw [removed]
  refine ⟨fun k => ?_, fun k => ?_⟩
  · exact map_get_modify (fun pool => pool.budget_unlink profileId) k
  · have split := weigh_del_old (fun _ (p : BufferProfile) => p.share k) stored
    have none : profile.share k = 0 := by
      unfold BufferProfile.share
      rw [unused, Nat.zero_mul, ite_self]
    unfold bufferReserved
    simp only
    omega

theorem BufferConserved.run (linked : BufferLinked s)
    (conserved : BufferConserved s) (effect : call.RecalcTakesEffect s) : BufferConserved (call.run s).1 := by
  cases call with
  | poolCreate attrs env => exact conserved.poolCreate linked attrs env
  | poolRemove poolId npu => exact conserved.poolRemove poolId npu
  | poolAttrSet poolId attr vendor npu => exact conserved.poolAttrSet poolId attr vendor npu
  | profileCreate attrs env =>
    obtain ⟨budget, same⟩ := qosCreateBufferProfile_keeps s attrs env
    exact conserved.congr budget same
  | profileRemove profileId npu =>
    obtain ⟨budget, same⟩ := qosRemoveBufferProfile_keeps s profileId npu
    exact conserved.congr budget same
  | profileAttrSet profileId attr env => exact conserved.profileAttrSet effect
  | profileApply objectId profileId env => exact conserved.profileApply linked effect

theorem BufferCall.error_keeps {status : SaiStatus} (run : call.run s = (t, status)) (error : status ≠ .success) :
    (∀ k, bufferPoolBudget t k = bufferPoolBudget s k) ∧ ∀ k, bufferReserved t k = bufferReserved s k := by
  cases call with
  | poolCreate attrs env =>
    rcases qosCreateBufferPool_cases s attrs env with ⟨_, _, same⟩ | ⟨_, _, _, created⟩
    · cases same.symm.trans run
      exact ⟨fun _ => rfl, fun _ => rfl⟩
    · cases created.symm.trans run
      exact absurd rfl error
  | poolRemove poolId npu =>
    rcases qosRemoveBufferPool_cases s poolId npu with ⟨_, _, same⟩ | ⟨_, _, _, removed⟩
    · cases same.symm.trans run
      exact ⟨fun _ => rfl, fun _ => rfl⟩
    · cases removed.symm.trans run
      exact absurd rfl error
  | poolAttrSet poolId attr vendor npu =>
    rcases qosBufferPoolAttrSet_cases s poolId attr vendor npu with
      ⟨_, _, same⟩ | ⟨_, _, _, _, _, _, _, written⟩
    · cases same.symm.trans run
      exact ⟨fun _ => rfl, fun _ => rfl⟩
    · cases written.symm.trans run
      exact absurd rfl error
  | profileCreate attrs env =>
    have keeps := qosCreateBufferProfile_keeps s attrs env
    rw [show qosCreateBufferProfile s attrs env = (t, status) from run] at keeps
    exact keeps
  | profileRemove profileId npu =>
    have keeps := qosRemoveBufferProfile_keeps s profileId npu
    rw [show qosRemoveBufferProfile s profileId npu = (t, status) from run] at keeps
    exact keeps
  | profileAttrSet profileId attr env =>
    rcases qosBufferProfileAttrSet_cases run with ⟨rfl, _⟩ | ⟨done, _⟩
    · exact ⟨fun _ => rfl, fun _ => rfl⟩
    · exact absurd done error
  | profileApply objectId profileId env =>
    rcases qosObjUpdateBufferProfile_cases run with ⟨rfl, _⟩ | ⟨done, _⟩
    · exact ⟨fun _ => rfl, fun _ => rfl⟩
    · exact absurd done error

/-- What a call that succeeds, and one that fails, did to the budgets. -/
structure BufferCall.Accounted (s : QosState) (call : BufferCall) : Prop where
  success : (call.run s).2 = .success → ∀ k before after,
    s.bufferPoolTree.get k = some before → (call.run s).1.bufferPoolTree.get k = some after →
    after.sharedSize - before.sharedSize = (after.size - before.size) -
      (BitVec.ofNat 32 (bufferReserved (call.run s).1 k) - BitVec.ofNat 32 (bufferReserved s k))
  error : (call.run s).2 ≠ .success → ∀ k,
    bufferPoolBudget (call.run s).1 k = bufferPoolBudget s k ∧
    bufferReserved (call.run s).1 k = bufferReserved s k

theorem BufferFresh.conserved (fresh : BufferFresh s) : BufferConserved s := by
  intro k pool stored
  rw [fresh.pools, get_empty] at stored
  cases stored

/-- In every run whose recalculations take effect, the budget law holds in
every state and every call accounts for what it changed. -/
theorem bufferBudget_conserved {s : QosState} (reach : Runs.Reach BufferFresh
      (Runs.guarded (fun s call => BufferCall.RecalcTakesEffect s call) BufferCall.step) s) :
    BufferConserved s ∧ ∀ call : BufferCall, call.RecalcTakesEffect s → call.Accounted s := by
  have invariant : BufferLinked s ∧ BufferConserved s := by
    refine reach.invariant (fun s => BufferLinked s ∧ BufferConserved s) ?_ ?_
    · exact fun s fresh => ⟨fresh.linked, fresh.conserved⟩
    · rintro s call t ⟨linked, conserved⟩ ⟨effect, rfl⟩
      exact ⟨linked.run call, conserved.run linked effect⟩
  obtain ⟨linked, conserved⟩ := invariant
  refine ⟨conserved, fun call effect => ⟨?_, ?_⟩⟩
  · intro _ k before after stored storedAfter
    have lawBefore := conserved k before stored
    have lawAfter := conserved.run linked effect k after storedAfter
    rw [lawBefore, lawAfter]
    ring
  · intro error k
    obtain ⟨budget, same⟩ := BufferCall.error_keeps (show call.run s = (_, _) from rfl) error
    exact ⟨budget k, same k⟩

def bufferSample : QosState where
  portTree := (∅ : KeyTree ObjectId QosPort).put ⟨.port, 1⟩ ⟨nullObjectId, nullObjectId, [], []⟩
  queueTree := ∅
  pgTree := ∅
  schedGroupTree := ∅
  schedulerTree := ∅
  bufferPoolTree := ∅
  bufferProfileTree := ∅
  defaultSchedId := nullObjectId

theorem bufferSample_fresh : BufferFresh bufferSample := by
  refine ⟨rfl, rfl, ?_, ?_, ?_⟩
  · intro id node stored
    simp only [bufferSample, get_put, get_empty] at stored
    split at stored
    · cases Option.some.inj stored
      rfl
    · cases stored
  · intro id node stored
    cases stored
  · intro id node stored
    cases stored

/-- A pool of `size`, a profile of `need` and its application to the port. -/
def bufferSampleRun (size need : BitVec 32) (recalcNew : SaiStatus) : List BufferCall :=
  [.poolCreate [.size size, .thMode .static] ⟨.success, true, .success, 1, true⟩,
    .profileCreate [.poolId ⟨.bufferPool, 1⟩, .bufferSize need, .sharedStaticTh 0]
      ⟨.success, true, .success, 1, true⟩,
    .profileApply ⟨.port, 1⟩ ⟨.bufferProfile, 1⟩ ⟨.success, .success, recalcNew⟩]

theorem bufferBudget_conserved_sample : BufferConserved
    ((bufferSampleRun 100 10 .success).foldl BufferCall.step bufferSample) := by
  refine (bufferBudget_conserved (Runs.Reach.run (.start bufferSample_fresh) ?_)).1
  refine ⟨trivial, trivial, ?_, trivial⟩
  intro oldProfileId _
  split
  · exact Or.inr rfl
  · exact ⟨Or.inr rfl, Or.inr rfl⟩

/-- An application that returns success while the NPU refuses the new size of
the pool has reserved what the pool still takes for free. -/
theorem bufferBudget_not_conserved : ¬ ∀ s, Runs.Reach BufferFresh
    (Runs.guarded (fun _ _ => True) BufferCall.step) s → BufferConserved s := by
  intro all
  have conserved := all _ (Runs.Reach.run (.start bufferSample_fresh)
    (Runs.allowedRun_of_forall (fun _ _ => trivial) _ (bufferSampleRun 100 10 .failure)))
  have broken :
    ∃ pool, ((bufferSampleRun 100 10 .failure).foldl BufferCall.step bufferSample).bufferPoolTree.get
      ⟨.bufferPool, 1⟩ = some pool ∧ pool.sharedSize = 100 ∧
      pool.size - BitVec.ofNat 32 (bufferReserved ((bufferSampleRun 100 10 .failure).foldl
        BufferCall.step bufferSample) ⟨.bufferPool, 1⟩) = 90 :=
    ⟨_, rfl, by decide, by decide⟩
  obtain ⟨pool, stored, free, law⟩ := broken
  have equal := conserved _ pool stored
  rw [free, law] at equal
  exact absurd equal (by decide)

end SaiCommon
