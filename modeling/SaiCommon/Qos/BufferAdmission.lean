import Mathlib.Data.Nat.Dist
import SaiCommon.Qos.BufferOvercommit

namespace SaiCommon

variable {pool : BufferPool} {profileId : ObjectId} {s : QosState}

/-- An amount that is cut to 32 bits and must stay below what is free is judged
like the exact amount that must not exceed it. -/
def bufferAmountExact (free amount : Nat) : Prop :=
  free ≠ amount ∧ (amount < 2 ^ 32 ∨ free ≤ amount % 2 ^ 32)

/-- The same for a move within a pool from a need `old` to a need `new`, where
growth and shrinkage are compared with what is free. -/
def bufferMoveExact (free old new : Nat) : Prop :=
  if old < 2 ^ 32 ∧ new < 2 ^ 32 then (old < new → free ≠ new - old) ∧ (new ≤ old → old - new < free)
  else (free + old < new → free ≤ Nat.dist (old % 2 ^ 32) (new % 2 ^ 32)) ∧
    (new ≤ free + old → Nat.dist (old % 2 ^ 32) (new % 2 ^ 32) < free)

/-- The pool of which an attribute takes more for all users of a profile, and how
much, in exact integers. -/
def BufferProfile.additional (profile : BufferProfile) : BufferProfileAttr → Option (ObjectId × Nat)
  | .poolId oid => some (oid, if oid = profile.bufferPoolId then 0 else profile.numRef * profile.need)
  | .bufferSize value => some (profile.bufferPoolId, profile.numRef * (value.toNat - profile.size.toNat))
  | .xoffTh value => some (profile.bufferPoolId, profile.numRef * (value.toNat - profile.xoffTh.toNat))
  | _ => none

/-- The set passes the other checks, and the pool cannot hold what it takes more. -/
def BufferSetShort (s : QosState) (profileId : ObjectId) (attr : BufferProfileAttr) (env : ProfileSetEnv) : Prop :=
  env.vendor = .success ∧ ∃ profile pool poolId amount, s.bufferProfileTree.get profileId = some profile ∧
    qosCheckBufferProfileAttrValue s attr profile = .success ∧
    profile.additional attr = some (poolId, amount) ∧ s.bufferPoolTree.get poolId = some pool ∧
    pool.sharedSize.toNat < amount

/-- A set is refused for space exactly when the pool cannot hold it. -/
def BufferSetRight (s : QosState) (profileId : ObjectId) (attr : BufferProfileAttr) (env : ProfileSetEnv) : Prop :=
  (qosBufferProfileAttrSet s profileId attr env).2 = .insufficientResources ↔ BufferSetShort s profileId attr env

/-- An amount of a set for which the check judges right: the users of a pool that
is set again are counted once more, and growth is compared as it stands. -/
def BufferProfile.SetExact (profile : BufferProfile) (free : Nat) : BufferProfileAttr → Prop
  | .poolId oid =>
    if oid = profile.bufferPoolId then profile.numRef * profile.need % 2 ^ 32 < free
    else bufferAmountExact free (profile.numRef * profile.need)
  | .bufferSize value =>
    profile.size < value → bufferAmountExact free (profile.numRef * (value.toNat - profile.size.toNat))
  | .xoffTh value =>
    profile.xoffTh < value → bufferAmountExact free (profile.numRef * (value.toNat - profile.xoffTh.toNat))
  | _ => True

/-- The check of the space judges right what a set takes more, where it is made. -/
def BufferSetWhen (s : QosState) (profileId : ObjectId) (attr : BufferProfileAttr) (env : ProfileSetEnv) : Prop :=
  env.vendor = .success → ∀ profile pool poolId amount, s.bufferProfileTree.get profileId = some profile →
    qosCheckBufferProfileAttrValue s attr profile = .success →
    profile.additional attr = some (poolId, amount) → s.bufferPoolTree.get poolId = some pool →
    profile.SetExact pool.sharedSize.toNat attr

/-- The ids differ, both profiles are NULL or known, the new one fits the object,
and pools of two profiles are compatible. -/
structure BufferMoveChecked (s : QosState) (objectId oldProfileId profileId : ObjectId) : Prop where
  differ : oldProfileId ≠ profileId
  old : oldProfileId ≠ nullObjectId → bufferProfileGet s oldProfileId ≠ none
  new : profileId ≠ nullObjectId → ∃ profile, s.bufferProfileTree.get profileId = some profile ∧
    qosIsObjectBufferProfileCompatible s objectId profile = true
  pools : bufferProfilePool s oldProfileId ≠ bufferProfilePool s profileId →
    bufferProfilePool s oldProfileId ≠ nullObjectId → bufferProfilePool s profileId ≠ nullObjectId →
    qosIsBufferPoolCompatible s (bufferProfilePool s oldProfileId) (bufferProfilePool s profileId)
      ((bufferProfileGet s oldProfileId).elim true fun profile => !profile.profileThEnable) = true

/-- The move passes the other checks, and the pool of the new profile, with what the
object holds of it given back, cannot hold the new profile. -/
def BufferMoveShort (s : QosState) (objectId profileId : ObjectId) : Prop :=
  ∃ oldProfileId profile pool, qosGetBufferProfileId s objectId = .ok oldProfileId ∧
    BufferMoveChecked s objectId oldProfileId profileId ∧ bufferProfileGet s profileId = some profile ∧
    s.bufferPoolTree.get profile.bufferPoolId = some pool ∧
    pool.sharedSize.toNat + bufferNeedAt s oldProfileId profile.bufferPoolId < profile.need

def BufferMoveRight (s : QosState) (objectId profileId : ObjectId) (env : ProfileApplyEnv) : Prop :=
  (qosObjUpdateBufferProfile s objectId profileId env).2 = .insufficientResources ↔
    BufferMoveShort s objectId profileId

/-- The check judges a move right: within a pool by growth and shrinkage, into
another pool by the whole need. -/
def BufferMoveWhen (s : QosState) (objectId profileId : ObjectId) : Prop :=
  ∀ oldProfileId profile pool, qosGetBufferProfileId s objectId = .ok oldProfileId →
    BufferMoveChecked s objectId oldProfileId profileId → bufferProfileGet s profileId = some profile →
    s.bufferPoolTree.get profile.bufferPoolId = some pool →
    if bufferProfilePool s oldProfileId = profile.bufferPoolId
    then bufferMoveExact pool.sharedSize.toNat (bufferNeedAt s oldProfileId profile.bufferPoolId) profile.need
    else bufferAmountExact pool.sharedSize.toNat profile.need

section Arithmetic
variable {free amount old new : Nat}

theorem bufferAmountExact_iff (small : free < 2 ^ 32) :
    (free ≤ amount % 2 ^ 32 ↔ free < amount) ↔ bufferAmountExact free amount := by
  unfold bufferAmountExact
  by_cases fits : amount < 2 ^ 32
  · rw [Nat.mod_eq_of_lt fits]
    omega
  have short : free < amount := by omega
  constructor
  · exact fun judged => ⟨by omega, .inr (judged.mpr short)⟩
  · exact fun exact => iff_of_true (exact.2.resolve_left fits) short

theorem bufferMoveExact_iff :
    (free ≤ Nat.dist (old % 2 ^ 32) (new % 2 ^ 32) ↔ free + old < new) ↔ bufferMoveExact free old new := by
  unfold bufferMoveExact
  by_cases fits : old < 2 ^ 32 ∧ new < 2 ^ 32
  · rw [if_pos fits, Nat.mod_eq_of_lt fits.1, Nat.mod_eq_of_lt fits.2]
    unfold Nat.dist
    omega
  · rw [if_neg fits]
    generalize Nat.dist (old % 2 ^ 32) (new % 2 ^ 32) = moved
    omega

theorem toNat_distance (old new : BitVec 32) :
    (if new > old then new - old else old - new).toNat = Nat.dist old.toNat new.toNat := by
  unfold Nat.dist
  split
  · rename_i grows
    have less := BitVec.lt_def.mp grows
    rw [BitVec.toNat_sub_of_le (BitVec.le_of_lt grows)]
    omega
  · rename_i shrinks
    have order : new ≤ old := BitVec.le_def.mpr (Nat.le_of_not_lt fun less => shrinks (BitVec.lt_def.mpr less))
    have less := BitVec.le_def.mp order
    rw [BitVec.toNat_sub_of_le order]
    omega

end Arithmetic

section Available
variable {poolId : ObjectId}

theorem qosIsBufferPoolAvailable_eq_false (stored : s.bufferPoolTree.get poolId = some pool) (size : BitVec 32) :
    qosIsBufferPoolAvailable s poolId size = false ↔ pool.sharedSize.toNat ≤ size.toNat := by
  unfold qosIsBufferPoolAvailable
  rw [stored]
  simp only [gt_iff_lt, decide_eq_false_iff_not, BitVec.lt_def, not_lt]

theorem toNat_users (users : Nat) (value : BitVec 32) :
    (BitVec.ofNat 32 users * value).toNat = users * value.toNat % 2 ^ 32 := by
  rw [BitVec.toNat_mul, BitVec.toNat_ofNat, Nat.mod_mul_mod]

theorem BufferProfile.toNat_size (profile : BufferProfile) :
    (profile.size + profile.xoffTh).toNat = profile.need % 2 ^ 32 := by
  rw [BitVec.toNat_add]
  rfl

end Available

section AttrSet
variable {profile : BufferProfile} {attr : BufferProfileAttr} {env : ProfileSetEnv}

section
variable {status : SaiStatus} {npu : ObjectId → SaiStatus} (others : ∀ objectId, npu objectId ≠ status)
include others

theorem qosUpdateBufferProfileList_ne (success : .success ≠ status) (stop : ObjectId)
    (list : List ObjectId) : (qosUpdateBufferProfileList npu stop list).1 ≠ status := by
  induction list with
  | nil => exact success
  | cons objectId rest ih =>
    unfold qosUpdateBufferProfileList
    split
    · exact success
    split
    · exact ih
    · exact others objectId

/-- The NPU's answers are the only ones that handing an attribute to the users gives. -/
theorem qosUpdateBufferProfileUsers_ne (success : .success ≠ status) (profile : BufferProfile)
    (attr : BufferProfileAttr) : qosUpdateBufferProfileUsers profile attr npu ≠ status := by
  have list := qosUpdateBufferProfileList_ne others success nullObjectId
  unfold qosUpdateBufferProfileUsers
  split
  · exact success
  · exact list profile.pgList
  · exact list profile.pgList
  · split
    · split
      · exact list profile.pgList
      · exact list profile.queueList
    · exact list profile.portList

end

theorem qosUpdateBufferProfileObjects_ne (others : ∀ objectId, env.users objectId ≠ .insufficientResources) :
    (qosUpdateBufferProfileObjects s profileId profile attr env.users).2 ≠ .insufficientResources := by
  have users := qosUpdateBufferProfileUsers_ne others SaiStatus.noConfusion profile attr
  unfold qosUpdateBufferProfileObjects
  split
  · cases attr with
    | poolId oid =>
      unfold qosUpdateBufferProfileNode
      cases s.bufferPoolTree.get oid <;> exact SaiStatus.noConfusion
    | _ => exact SaiStatus.noConfusion
  · exact users

theorem qosCheckBufferProfileAttrValue_ne :
    qosCheckBufferProfileAttrValue s attr profile ≠ .insufficientResources := by
  intro refused
  unfold qosCheckBufferProfileAttrValue at refused
  cases attr with
  | bufferSize value => cases refused
  | thMode mode => cases refused
  | unknown => cases refused
  | _ =>
    dsimp only at refused
    split at refused
    · cases refused
    · cases refused

theorem qosBufferProfileAttrSet_vendor (refused : env.vendor ≠ .success) :
    (qosBufferProfileAttrSet s profileId attr env).2 = env.vendor := by
  have reached : qosBufferProfileAttributesValidate s [attr] false env.vendor = env.vendor := by
    generalize env.vendor = vendor
    cases vendor <;> rfl
  unfold qosBufferProfileAttrSet
  rw [reached]
  split
  · rename_i accepted
    exact absurd accepted refused
  · rfl

theorem qosBufferProfileAttrSet_refused_iff (vendor : env.vendor = .success)
    (others : ∀ objectId, env.users objectId ≠ .insufficientResources) :
    (qosBufferProfileAttrSet s profileId attr env).2 = .insufficientResources ↔
      ∃ profile, s.bufferProfileTree.get profileId = some profile ∧
        qosCheckBufferProfileAttrValue s attr profile = .success ∧
        qosCheckBufferSize s attr profile = .error .insufficientResources := by
  have reached : qosBufferProfileAttributesValidate s [attr] false env.vendor = .success := by
    rw [vendor]
    rfl
  unfold qosBufferProfileAttrSet
  rw [reached]
  dsimp only
  cases stored : s.bufferProfileTree.get profileId with
  | none =>
    refine iff_of_false SaiStatus.noConfusion ?_
    rintro ⟨_, isIt, _⟩
    cases isIt
  | some profile =>
    have objects : (qosUpdateBufferProfileObjects s profileId profile attr env.users).2 ≠ .insufficientResources :=
      qosUpdateBufferProfileObjects_ne others
    have value : qosCheckBufferProfileAttrValue s attr profile ≠ .insufficientResources :=
      qosCheckBufferProfileAttrValue_ne
    dsimp only
    split
    · rename_i checked
      split
      · rename_i status refused
        constructor
        · intro isIt
          rw [show status = .insufficientResources from isIt] at refused
          exact ⟨profile, rfl, checked, refused⟩
        · rintro ⟨_, same, _, isIt⟩
          cases same
          rw [refused] at isIt
          exact Except.error.inj isIt
      · rename_i admitted
        refine iff_of_false ?_ ?_
        · split
          · exact SaiStatus.noConfusion
          rename_i isError isIt
          rw [isIt] at objects
          exact objects
        · rintro ⟨_, same, _, isIt⟩
          cases same
          rw [admitted] at isIt
          cases isIt
    · rename_i isError
      refine iff_of_false value ?_
      rintro ⟨_, same, checked, _⟩
      cases same
      exact isError checked

section
variable {poolId : ObjectId} (found : s.bufferPoolTree.get poolId = some pool)
include found

/-- The check of a growth by `value - old` for all users. -/
theorem bufferGrowth_refused_iff {value old : BitVec 32} {users : Nat} (grows : old < value) :
    qosIsBufferPoolAvailable s poolId (BitVec.ofNat 32 users * (value - old)) = false ↔
      pool.sharedSize.toNat ≤ users * (value.toNat - old.toNat) % 2 ^ 32 := by
  rw [qosIsBufferPoolAvailable_eq_false found, toNat_users, BitVec.toNat_sub_of_le (BitVec.le_of_lt grows)]

theorem bufferGrowth_iff {value old : BitVec 32} {users : Nat} :
    (old < value ∧ qosIsBufferPoolAvailable s poolId (BitVec.ofNat 32 users * (value - old)) = false ↔
        pool.sharedSize.toNat < users * (value.toNat - old.toNat)) ↔
      (old < value → bufferAmountExact pool.sharedSize.toNat (users * (value.toNat - old.toNat))) := by
  have small := pool.sharedSize.isLt
  by_cases grows : old < value
  · rw [bufferGrowth_refused_iff found grows, and_iff_right grows, bufferAmountExact_iff small]
    exact ⟨fun exact _ => exact, fun exact => exact grows⟩
  have order := Nat.le_of_not_lt fun less => grows (BitVec.lt_def.mpr less)
  refine iff_of_true (iff_of_false (fun both => grows both.1) ?_) fun is => absurd is grows
  rw [Nat.sub_eq_zero_of_le order, Nat.mul_zero]
  exact Nat.not_lt_zero _

end

theorem qosCheckBufferSize_poolId_refused {poolId : ObjectId} :
    qosCheckBufferSize s (.poolId poolId) profile = .error .insufficientResources ↔
      qosIsBufferPoolAvailable s poolId
        (BitVec.ofNat 32 profile.numRef * (profile.size + profile.xoffTh)) = false := by
  unfold qosCheckBufferSize
  dsimp only
  split
  · rename_i available
    refine iff_of_false (fun is => by cases is) ?_
    rw [available]
    exact Bool.noConfusion
  · rename_i full
    exact iff_of_true rfl ((Bool.not_eq_true _).mp full)

theorem qosCheckBufferSize_resize_refused {value old : BitVec 32}
    (resizes : attr = .bufferSize value ∧ old = profile.size ∨ attr = .xoffTh value ∧ old = profile.xoffTh) :
    qosCheckBufferSize s attr profile = .error .insufficientResources ↔
      old < value ∧ qosIsBufferPoolAvailable s profile.bufferPoolId
        (BitVec.ofNat 32 profile.numRef * (value - old)) = false := by
  rw [qosCheckBufferSize_resize resizes]
  split
  · rename_i grows
    split
    · rename_i available
      refine iff_of_false (fun is => by cases is) fun both => ?_
      rw [available] at both
      cases both.2
    · rename_i full
      exact iff_of_true rfl ⟨grows, (Bool.not_eq_true _).mp full⟩
  · rename_i shrinks
    exact iff_of_false (fun is => by cases is) fun both => shrinks both.1

theorem qosCheckBufferSize_refused_iff {poolId : ObjectId} {amount : Nat}
    (additional : profile.additional attr = some (poolId, amount)) (found : s.bufferPoolTree.get poolId = some pool) :
    (qosCheckBufferSize s attr profile = .error .insufficientResources ↔ pool.sharedSize.toNat < amount) ↔
      profile.SetExact pool.sharedSize.toNat attr := by
  have small := pool.sharedSize.isLt
  cases attr with
  | poolId oid =>
    cases additional
    have wrapped : (BitVec.ofNat 32 profile.numRef * (profile.size + profile.xoffTh)).toNat =
        profile.numRef * profile.need % 2 ^ 32 := by
      rw [toNat_users, profile.toNat_size, Nat.mul_mod_mod]
    unfold BufferProfile.SetExact
    rw [qosCheckBufferSize_poolId_refused, qosIsBufferPoolAvailable_eq_false found, wrapped]
    dsimp only
    by_cases same : poolId = profile.bufferPoolId
    · rw [if_pos same, if_pos same]
      omega
    · rw [if_neg same, if_neg same]
      exact bufferAmountExact_iff small
  | bufferSize value =>
    cases additional
    rw [qosCheckBufferSize_resize_refused (.inl ⟨rfl, rfl⟩)]
    exact bufferGrowth_iff found
  | xoffTh value =>
    cases additional
    rw [qosCheckBufferSize_resize_refused (.inr ⟨rfl, rfl⟩)]
    exact bufferGrowth_iff found
  | _ => cases additional

theorem qosCheckBufferSize_refused_additional (linked : BufferLinked s)
    (stored : s.bufferProfileTree.get profileId = some profile)
    (checked : qosCheckBufferProfileAttrValue s attr profile = .success)
    (refused : qosCheckBufferSize s attr profile = .error .insufficientResources) :
    ∃ pool poolId amount, profile.additional attr = some (poolId, amount) ∧
      s.bufferPoolTree.get poolId = some pool := by
  obtain ⟨own, found⟩ := Option.ne_none_iff_exists'.mp (linked.poolStored profileId profile stored)
  cases attr with
  | poolId oid =>
    have compatible : qosIsBufferPoolCompatible s oid profile.bufferPoolId (!profile.profileThEnable) = true := by
      unfold qosCheckBufferProfileAttrValue at checked
      dsimp only at checked
      split at checked
      · assumption
      · cases checked
    cases target : s.bufferPoolTree.get oid with
    | none =>
      unfold qosIsBufferPoolCompatible at compatible
      rw [target] at compatible
      cases compatible
    | some pool => exact ⟨pool, oid, _, rfl, target⟩
  | bufferSize value => exact ⟨own, _, _, rfl, found⟩
  | xoffTh value => exact ⟨own, _, _, rfl, found⟩
  | _ => cases refused

/-- A set is refused for space exactly when the pool cannot hold it, exactly when
the check judges its amount right. -/
theorem bufferSet_right_iff (linked : BufferLinked s) (vendor : env.vendor ≠ .insufficientResources)
    (others : ∀ objectId, env.users objectId ≠ .insufficientResources) :
    BufferSetRight s profileId attr env ↔ BufferSetWhen s profileId attr env := by
  unfold BufferSetRight BufferSetShort BufferSetWhen
  by_cases accepted : env.vendor = .success
  swap
  · refine iff_of_true (iff_of_false ?_ fun short => accepted short.1) fun is => absurd is accepted
    rw [qosBufferProfileAttrSet_vendor accepted]
    exact vendor
  rw [qosBufferProfileAttrSet_refused_iff accepted others, and_iff_right accepted]
  constructor
  · intro right _ profile pool poolId amount stored checked additional found
    refine (qosCheckBufferSize_refused_iff additional found).mp ⟨fun refused => ?_, fun short => ?_⟩
    · obtain ⟨_, _, _, _, isIt, _, takes, there, short⟩ := right.mp ⟨profile, stored, checked, refused⟩
      cases stored.symm.trans isIt
      cases additional.symm.trans takes
      cases found.symm.trans there
      exact short
    · obtain ⟨_, isIt, _, refused⟩ :=
        right.mpr ⟨profile, pool, poolId, amount, stored, checked, additional, found, short⟩
      cases stored.symm.trans isIt
      exact refused
  · intro exact_
    constructor
    · rintro ⟨profile, stored, checked, refused⟩
      obtain ⟨pool, poolId, amount, additional, found⟩ :=
        qosCheckBufferSize_refused_additional linked stored checked refused
      have judged := (qosCheckBufferSize_refused_iff additional found).mpr
        (exact_ accepted profile pool poolId amount stored checked additional found)
      exact ⟨profile, pool, poolId, amount, stored, checked, additional, found, judged.mp refused⟩
    · rintro ⟨profile, pool, poolId, amount, stored, checked, additional, found, short⟩
      have judged := (qosCheckBufferSize_refused_iff additional found).mpr
        (exact_ accepted profile pool poolId amount stored checked additional found)
      exact ⟨profile, stored, checked, judged.mpr short⟩

end AttrSet

section Apply
variable {objectId oldProfileId : ObjectId} {env : ProfileApplyEnv}

/-- The check of a move asks for the distance within a pool and for the whole
size in another one. -/
theorem qosCalcPoolSize_refused_iff {oldPoolId newPoolId : ObjectId} {checkTh : Bool} {oldSize newSize : BitVec 32} :
    qosCalcPoolSize s oldPoolId newPoolId checkTh oldSize newSize = .error .insufficientResources ↔
      (oldPoolId ≠ newPoolId → oldPoolId ≠ nullObjectId → newPoolId ≠ nullObjectId →
        qosIsBufferPoolCompatible s oldPoolId newPoolId checkTh = true) ∧
      newPoolId ≠ nullObjectId ∧ qosIsBufferPoolAvailable s newPoolId (if oldPoolId = newPoolId
        then if newSize > oldSize then newSize - oldSize else oldSize - newSize else newSize) = false := by
  have asked : ∀ (size : BitVec 32) (isAdd : Bool),
      (if newPoolId ≠ nullObjectId ∧ qosIsBufferPoolAvailable s newPoolId size = false
        then Except.error SaiStatus.insufficientResources else .ok (size, isAdd)) =
        .error .insufficientResources ↔
      newPoolId ≠ nullObjectId ∧ qosIsBufferPoolAvailable s newPoolId size = false := by
    intro size isAdd
    split
    · rename_i full
      exact iff_of_true rfl full
    · rename_i available
      exact iff_of_false (fun is => by cases is) available
  unfold qosCalcPoolSize
  dsimp only
  by_cases same : oldPoolId = newPoolId
  · rw [if_pos same, if_pos same, and_iff_right fun differ => absurd same differ]
    split
    · exact asked _ _
    · exact asked _ _
  rw [if_neg same, if_neg same]
  by_cases null : newPoolId = nullObjectId
  · rw [if_neg (not_not.mpr null), if_neg fun both => both.1 null]
    exact iff_of_false (fun is => by cases is) fun all => all.2.1 null
  rw [if_pos null]
  split
  · rename_i apart
    refine iff_of_false (fun is => by cases is) fun all => ?_
    rw [all.1 same apart.1 null] at apart
    cases apart.2
  · rename_i compatible
    refine (asked _ _).trans (and_iff_right ?_).symm
    exact fun _ notNull _ => by_contra fun apart => compatible ⟨notNull, (Bool.not_eq_true _).mp apart⟩

theorem qosObjProfileCheck_refused_iff :
    qosObjProfileCheck s objectId oldProfileId profileId = .error .insufficientResources ↔
      BufferMoveChecked s objectId oldProfileId profileId ∧
      bufferProfilePool s profileId ≠ nullObjectId ∧ qosIsBufferPoolAvailable s (bufferProfilePool s profileId)
        (if bufferProfilePool s oldProfileId = bufferProfilePool s profileId
          then if bufferProfileSize s profileId > bufferProfileSize s oldProfileId
            then bufferProfileSize s profileId - bufferProfileSize s oldProfileId
            else bufferProfileSize s oldProfileId - bufferProfileSize s profileId
          else bufferProfileSize s profileId) = false := by
  unfold qosObjProfileCheck
  by_cases differ : oldProfileId = profileId
  · rw [if_pos differ]
    exact iff_of_false (fun is => by cases is) fun both => both.1.differ differ
  rw [if_neg differ]
  dsimp only
  split
  · rename_i passed
    have new : profileId ≠ nullObjectId → ∃ profile, s.bufferProfileTree.get profileId = some profile ∧
        qosIsObjectBufferProfileCompatible s objectId profile = true := by
      intro notNull
      rw [if_neg notNull] at passed
      split at passed
      · cases passed
      rename_i profile stored
      split at passed
      · rename_i compatible
        exact ⟨profile, stored, compatible⟩
      · cases passed
    split
    · rename_i unknown
      exact iff_of_false (fun is => by cases is) fun both => both.1.old unknown.1 unknown.2
    rename_i known
    rw [qosCalcPoolSize_refused_iff]
    constructor
    · exact fun refused => ⟨⟨differ, fun notNull none => known ⟨notNull, none⟩, new, refused.1⟩, refused.2⟩
    · exact fun refused => ⟨refused.1.pools, refused.2⟩
  · rename_i error
    refine iff_of_false ?_ fun both => error ?_
    · split
      · exact fun is => by cases is
      split
      · exact fun is => by cases is
      split
      · exact fun is => by cases is
      · exact fun is => by cases is
    · split
      · rfl
      rename_i notNull
      obtain ⟨profile, stored, compatible⟩ := both.1.new notNull
      rw [stored]
      dsimp only
      rw [if_pos compatible]

theorem qosObjUpdateBufferProfile_refused_iff (answer : env.apply ≠ .insufficientResources) :
    (qosObjUpdateBufferProfile s objectId profileId env).2 = .insufficientResources ↔
      ∃ oldProfileId, qosGetBufferProfileId s objectId = .ok oldProfileId ∧
        qosObjProfileCheck s objectId oldProfileId profileId = .error .insufficientResources := by
  unfold qosObjUpdateBufferProfile
  cases got : qosGetBufferProfileId s objectId with
  | error status =>
    refine iff_of_false ?_ ?_
    · intro (is : status = .insufficientResources)
      rw [is] at got
      unfold qosGetBufferProfileId at got
      split at got
      · split at got <;> cases got
      · split at got <;> cases got
      · split at got <;> cases got
      · cases got
    · rintro ⟨_, isIt, _⟩
      cases isIt
  | ok oldProfileId =>
    dsimp only
    cases check : qosObjProfileCheck s objectId oldProfileId profileId with
    | error status =>
      constructor
      · intro (is : status = .insufficientResources)
        rw [is] at check
        exact ⟨oldProfileId, rfl, check⟩
      · rintro ⟨_, same, isIt⟩
        cases same
        exact Except.error.inj (check.symm.trans isIt)
    | ok amount =>
      refine iff_of_false ?_ ?_
      · obtain ⟨tmpSize, isAdd⟩ := amount
        obtain ⟨_, newStored, _⟩ := qosObjProfileCheck_ok check
        dsimp only
        split
        · unfold qosObjUpdateBufferProfileNode
          rw [if_neg fun both => newStored both.1 both.2, got]
          exact SaiStatus.noConfusion
        · exact answer
      · rintro ⟨_, same, isIt⟩
        cases same
        cases check.symm.trans isIt

theorem toNat_moved {profile : BufferProfile} (found : bufferProfileGet s profileId = some profile) :
    (if bufferProfilePool s oldProfileId = bufferProfilePool s profileId
      then if bufferProfileSize s profileId > bufferProfileSize s oldProfileId
        then bufferProfileSize s profileId - bufferProfileSize s oldProfileId
        else bufferProfileSize s oldProfileId - bufferProfileSize s profileId
      else bufferProfileSize s profileId).toNat = if bufferProfilePool s oldProfileId = profile.bufferPoolId
      then Nat.dist (bufferNeedAt s oldProfileId profile.bufferPoolId % 2 ^ 32) (profile.need % 2 ^ 32)
      else profile.need % 2 ^ 32 := by
  have pool : bufferProfilePool s profileId = profile.bufferPoolId := by
    unfold bufferProfilePool
    rw [found, Option.elim_some]
  have size : (bufferProfileSize s profileId).toNat = profile.need % 2 ^ 32 := by
    unfold bufferProfileSize
    rw [found, Option.elim_some, profile.toNat_size]
  rw [pool]
  split
  · rename_i same
    have held := congrArg BitVec.toNat (ofNat_bufferNeedAt s oldProfileId profile.bufferPoolId)
    rw [if_pos same, BitVec.toNat_ofNat] at held
    rw [toNat_distance, size, held]
  · exact size

/-- Within its pool or into another one, a move is judged right exactly for these needs. -/
theorem bufferMove_judged_iff {profile : BufferProfile} (linked : BufferLinked s)
    (checked : BufferMoveChecked s objectId oldProfileId profileId)
    (found : bufferProfileGet s profileId = some profile)
    (stored : s.bufferPoolTree.get profile.bufferPoolId = some pool) :
    (qosObjProfileCheck s objectId oldProfileId profileId = .error .insufficientResources ↔
        pool.sharedSize.toNat + bufferNeedAt s oldProfileId profile.bufferPoolId < profile.need) ↔
      if bufferProfilePool s oldProfileId = profile.bufferPoolId
      then bufferMoveExact pool.sharedSize.toNat (bufferNeedAt s oldProfileId profile.bufferPoolId) profile.need
      else bufferAmountExact pool.sharedSize.toNat profile.need := by
  have target : bufferProfilePool s profileId = profile.bufferPoolId := by
    unfold bufferProfilePool
    rw [found, Option.elim_some]
  have notNull : profile.bufferPoolId ≠ nullObjectId := by
    intro null
    rw [null, linked.poolKey] at stored
    cases stored
  rw [qosObjProfileCheck_refused_iff, and_iff_right checked]
  have refused : bufferProfilePool s profileId ≠ nullObjectId ∧
      qosIsBufferPoolAvailable s (bufferProfilePool s profileId)
        (if bufferProfilePool s oldProfileId = bufferProfilePool s profileId
          then if bufferProfileSize s profileId > bufferProfileSize s oldProfileId
            then bufferProfileSize s profileId - bufferProfileSize s oldProfileId
            else bufferProfileSize s oldProfileId - bufferProfileSize s profileId
          else bufferProfileSize s profileId) = false ↔
      pool.sharedSize.toNat ≤ if bufferProfilePool s oldProfileId = profile.bufferPoolId
        then Nat.dist (bufferNeedAt s oldProfileId profile.bufferPoolId % 2 ^ 32) (profile.need % 2 ^ 32)
        else profile.need % 2 ^ 32 := by
    rw [← toNat_moved found, ← qosIsBufferPoolAvailable_eq_false stored, target, and_iff_right notNull]
  rw [refused]
  by_cases same : bufferProfilePool s oldProfileId = profile.bufferPoolId
  · rw [if_pos same, if_pos same]
    exact bufferMoveExact_iff
  have none : bufferNeedAt s oldProfileId profile.bufferPoolId = 0 := by
    unfold bufferNeedAt
    unfold bufferProfilePool at same
    cases node : bufferProfileGet s oldProfileId with
    | none => rfl
    | some held =>
      rw [node, Option.elim_some] at same
      rw [Option.elim_some, if_neg same]
  rw [if_neg same, if_neg same, none, Nat.add_zero]
  exact bufferAmountExact_iff pool.sharedSize.isLt

/-- A move that is refused for space has a new profile and a pool that it takes from. -/
theorem qosObjProfileCheck_refused_profile (linked : BufferLinked s)
    (refused : qosObjProfileCheck s objectId oldProfileId profileId = .error .insufficientResources) :
    BufferMoveChecked s objectId oldProfileId profileId ∧ ∃ profile pool,
      bufferProfileGet s profileId = some profile ∧ s.bufferPoolTree.get profile.bufferPoolId = some pool := by
  obtain ⟨checked, notNull, _⟩ := qosObjProfileCheck_refused_iff.mp refused
  refine ⟨checked, ?_⟩
  cases found : bufferProfileGet s profileId with
  | none =>
    unfold bufferProfilePool at notNull
    rw [found] at notNull
    exact absurd rfl notNull
  | some profile =>
    have stored : s.bufferProfileTree.get profileId = some profile := by
      unfold bufferProfileGet at found
      split at found
      · cases found
      · exact found
    obtain ⟨pool, there⟩ := Option.ne_none_iff_exists'.mp (linked.poolStored profileId profile stored)
    exact ⟨profile, pool, rfl, there⟩

/-- A move is refused for space exactly when the pool cannot hold it, exactly when
the check judges it right. -/
theorem bufferMove_right_iff (linked : BufferLinked s) (answer : env.apply ≠ .insufficientResources) :
    BufferMoveRight s objectId profileId env ↔ BufferMoveWhen s objectId profileId := by
  unfold BufferMoveRight BufferMoveShort BufferMoveWhen
  rw [qosObjUpdateBufferProfile_refused_iff answer]
  constructor
  · intro right oldProfileId profile pool got checked found stored
    refine (bufferMove_judged_iff linked checked found stored).mp ⟨fun refused => ?_, fun short => ?_⟩
    · obtain ⟨_, _, _, isIt, _, same, there, short⟩ := right.mp ⟨oldProfileId, got, refused⟩
      cases got.symm.trans isIt
      cases found.symm.trans same
      cases stored.symm.trans there
      exact short
    · obtain ⟨_, isIt, refused⟩ := right.mpr ⟨oldProfileId, profile, pool, got, checked, found, stored, short⟩
      cases got.symm.trans isIt
      exact refused
  · intro judged
    constructor
    · rintro ⟨oldProfileId, got, refused⟩
      obtain ⟨checked, profile, pool, found, stored⟩ := qosObjProfileCheck_refused_profile linked refused
      have exact_ := judged oldProfileId profile pool got checked found stored
      exact ⟨oldProfileId, profile, pool, got, checked, found, stored,
        ((bufferMove_judged_iff linked checked found stored).mpr exact_).mp refused⟩
    · rintro ⟨oldProfileId, profile, pool, got, checked, found, stored, short⟩
      have exact_ := judged oldProfileId profile pool got checked found stored
      exact ⟨oldProfileId, got, ((bufferMove_judged_iff linked checked found stored).mpr exact_).mpr short⟩

end Apply

/-- In every reachable state, the admission of a move and of a set is exact
exactly for the amounts that the checks judge right. -/
theorem bufferAdmission_exact {s : QosState}
    (reach : Runs.Reach BufferFresh (Runs.guarded (fun _ _ => True) BufferCall.step) s) :
    (∀ objectId profileId env, env.apply ≠ .insufficientResources →
      (BufferMoveRight s objectId profileId env ↔ BufferMoveWhen s objectId profileId)) ∧
    ∀ profileId attr env, env.vendor ≠ .insufficientResources →
      (∀ objectId, env.users objectId ≠ .insufficientResources) →
      (BufferSetRight s profileId attr env ↔ BufferSetWhen s profileId attr env) := by
  have linked : BufferLinked s := by
    refine reach.invariant BufferLinked (fun _ fresh => fresh.linked) ?_
    rintro s call _ linked ⟨_, rfl⟩
    exact linked.run call
  exact ⟨fun _ _ _ answer => bufferMove_right_iff linked answer,
    fun _ _ _ vendor others => bufferSet_right_iff linked vendor others⟩

/-- A profile of 10 goes to the port and then grows to 20 in a pool of 100. -/
theorem bufferAdmission_exact_sample :
    BufferMoveRight (((bufferSampleRun 100 10 .success).take 2).foldl BufferCall.step bufferSample) ⟨.port, 1⟩
      ⟨.bufferProfile, 1⟩ ⟨.success, .success, .success⟩ ∧
    BufferSetRight ((bufferSampleRun 100 10 .success).foldl BufferCall.step bufferSample) ⟨.bufferProfile, 1⟩
      (.bufferSize 20) ⟨.success, fun _ => .success, .success, .success⟩ := by
  have reached : ∀ calls : List BufferCall, Runs.Reach BufferFresh (Runs.guarded (fun _ _ => True) BufferCall.step)
      (calls.foldl BufferCall.step bufferSample) := fun calls =>
    .run (.start bufferSample_fresh) (Runs.allowedRun_of_forall (fun _ _ => trivial) _ calls)
  constructor
  · refine ((bufferAdmission_exact (reached _)).1 _ _ _ SaiStatus.noConfusion).mpr ?_
    intro oldProfileId profile pool got _ found stored
    cases Except.ok.inj got
    cases Option.some.inj found
    cases Option.some.inj stored
    rw [if_neg (by decide)]
    exact ⟨by decide, .inl (by decide)⟩
  · refine ((bufferAdmission_exact (reached _)).2 _ _ _ SaiStatus.noConfusion fun _ => SaiStatus.noConfusion).mpr ?_
    intro _ profile pool poolId amount stored _ additional found
    cases Option.some.inj stored
    cases additional
    cases Option.some.inj found
    exact fun _ => ⟨by decide, .inl (by decide)⟩

/-- In a pool of 10 the port leaves a profile of 8 for one of 2: the 6 that it gives
back are more than the 2 that are free, and the move is refused. -/
theorem bufferAdmission_not_exact : ¬ ∀ s, Runs.Reach BufferFresh
    (Runs.guarded (fun _ _ => True) BufferCall.step) s → ∀ objectId profileId env,
    env.apply ≠ .insufficientResources → BufferMoveRight s objectId profileId env := by
  intro all
  have right := all _ (.run (.start bufferSample_fresh) (Runs.allowedRun_of_forall (fun _ _ => trivial) _
    (bufferSampleRun 10 8 .success ++ [.profileCreate [.poolId ⟨.bufferPool, 1⟩, .bufferSize 2, .sharedStaticTh 0]
      ⟨.success, true, .success, 2, true⟩]))) ⟨.port, 1⟩ ⟨.bufferProfile, 2⟩
      ⟨.success, .success, .success⟩
    SaiStatus.noConfusion
  obtain ⟨oldProfileId, profile, pool, got, _, found, stored, short⟩ := right.mp (by decide)
  cases Except.ok.inj got
  cases Option.some.inj found
  cases Option.some.inj stored
  exact absurd short (by decide)

end SaiCommon
