import Mathlib.Tactic.FinCases
import SaiCommon.Qos.BufferAttachment
import SaiCommon.Qos.BufferBudget

namespace SaiCommon

open KeyTree

def bufferPoolOf (s : QosState) (profileId : ObjectId) : Option ObjectId :=
  Attached.nameIn s.bufferProfileTree (fun profile => profile.bufferPoolId.nonNull) profileId

def BufferProfileAttr.accepted (s : QosState) : BufferProfileAttr → Bool
  | .poolId oid => (s.bufferPoolTree.get oid).isSome
  | .unknown => false
  | _ => true

@[simp] theorem BufferProfileAttr.accepted_poolId (s : QosState) (oid : ObjectId) :
    BufferProfileAttr.accepted s (.poolId oid) = (s.bufferPoolTree.get oid).isSome := rfl

def BufferProfileAttr.isPoolId : BufferProfileAttr → Bool
  | .poolId _ => true
  | _ => false

/-- A profile creation goes through once it has linked the profile into a pool:
nothing takes the link back. It may stop at an attribute before that. -/
def BufferCall.completes (s : QosState) : BufferCall → Prop
  | .profileCreate attrs env =>
    qosBufferProfileAttributesValidate s attrs true env.vendor = .success → env.allocOk = true →
      ((∀ attr ∈ attrs, attr.accepted s = true) ∧ env.npu = .success ∧ env.treeOk = true ∧
        s.bufferProfileTree.get ⟨.bufferProfile, env.npuObjectId⟩ = none) ∨
      ∀ attr ∈ attrs.takeWhile (BufferProfileAttr.accepted s), attr.isPoolId = false
  | _ => True

/-- The profiles in the lists of the pools, against the pool each of them names. -/
structure BufferPoolsCount (s : QosState) (names : ObjectId → Option ObjectId) : Prop where
  nullKey : s.bufferPoolTree.get nullObjectId = none
  lists : Attached (Attached.ofTree s.bufferPoolTree BufferPool.bufferProfileList) names
  numRef : ∀ k pool, s.bufferPoolTree.get k = some pool → pool.numRef = pool.bufferProfileList.length

section Link
variable {s : QosState} {names : ObjectId → Option ObjectId} {profileId oid : ObjectId}

section
variable (count : BufferPoolsCount s names)
include count

theorem BufferPoolsCount.release {oldPoolId : ObjectId} (named : names profileId = oldPoolId.nonNull) :
    BufferPoolsCount { s with bufferPoolTree := bufferPoolRelease s.bufferPoolTree profileId oldPoolId }
      (Function.update names profileId none) := by
  have moved := count.lists.move profileId none (fun k none => nomatch none)
  unfold bufferPoolRelease
  constructor
  · simp only
    split
    · exact get_modify_eq_none.mpr count.nullKey
    · exact count.nullKey
  · refine moved.congr (fun k => ?_) fun _ => rfl
    rw [named]
    unfold ObjectId.nonNull
    by_cases null : oldPoolId = nullObjectId
    · rw [if_pos null, if_neg (not_not_intro null)]
      rfl
    · rw [if_neg null, if_pos null]
      refine Attached.ofTree_modify (fun pool => ?_) k
      rfl
  · intro k pool stored
    simp only at stored
    split at stored
    · rename_i notNull
      rw [get_modify] at stored
      split at stored
      · rename_i same
        obtain ⟨old, found, rfl⟩ := Option.map_eq_some_iff.mp stored
        have counted := count.numRef k old found
        have member := count.lists.mem_of_named (l := old.bufferProfileList) (u := profileId) (k := k)
          (by unfold Attached.ofTree; rw [found]; rfl) (by rw [named, same]; exact if_neg notNull)
        have shorter := List.length_erase_of_mem member
        simp only [BufferPool.unlink]
        omega
      · exact count.numRef k pool stored
    · exact count.numRef k pool stored

theorem BufferPoolsCount.link (unnamed : names profileId = none) (present : s.bufferPoolTree.get oid ≠ none) :
    BufferPoolsCount { s with bufferPoolTree := s.bufferPoolTree.modify oid fun pool => pool.link profileId }
      (Function.update names profileId oid.nonNull) := by
  have notNull : oid ≠ nullObjectId := by
    rintro rfl
    exact present count.nullKey
  have isIt : oid.nonNull = some oid := if_neg notNull
  constructor
  · exact get_modify_eq_none.mpr count.nullKey
  · have moved := count.lists.move profileId (some oid) (by
      intro k same
      cases same
      unfold Attached.ofTree
      rw [ne_eq, Option.map_eq_none_iff]
      exact present)
    rw [isIt]
    refine moved.congr (fun k => ?_) fun _ => rfl
    rw [unnamed]
    refine Attached.ofTree_modify (fun pool => ?_) k
    rfl
  · intro k pool stored
    simp only at stored
    rw [get_modify] at stored
    split at stored
    · obtain ⟨old, found, rfl⟩ := Option.map_eq_some_iff.mp stored
      have counted := count.numRef k old found
      simp only [BufferPool.link, List.length_append, List.length_singleton]
      omega
    · exact count.numRef k pool stored

theorem BufferPoolsCount.congr {t : QosState} {names' : ObjectId → Option ObjectId}
    (pools : t.bufferPoolTree = s.bufferPoolTree)
    (same : ∀ id, names' id = names id) : BufferPoolsCount t names' := by
  refine ⟨?_, ?_, ?_⟩
  · rw [pools]
    exact count.nullKey
  · rw [pools]
    exact count.lists.congr (fun _ => rfl) same
  · rw [pools]
    exact count.numRef

end

theorem BufferPoolsCount.attrLoop {attrs : List BufferProfileAttr} {index : Nat} {t : QosState}
    {node node' : BufferProfile} {status : SaiStatus}
    (run : qosUpdateBufferProfileNode profileId index attrs s node = (t, node', status))
    (start : BufferPoolsCount s (Function.update names profileId node.bufferPoolId.nonNull)) :
    BufferPoolsCount t (Function.update names profileId node'.bufferPoolId.nonNull) := by
  refine qosUpdateBufferProfileNode_keeps (motive := fun u v => BufferPoolsCount u
    (Function.update names profileId v.bufferPoolId.nonNull)) ?_ ?_ attrs index s t node node' status run start
  · intro u v oid found count
    have released := count.release (Function.update_self _ _ _)
    rw [Function.update_idem] at released
    have present : (bufferPoolRelease u.bufferPoolTree profileId v.bufferPoolId).get oid ≠ none :=
      bufferPoolRelease_stored.not.mpr found
    have joined := released.link (Function.update_self _ _ _) present
    rwa [Function.update_idem] at joined
  · intro u v v' _ same count
    rwa [same]

theorem BufferPoolsCount.putPool {k : ObjectId} {old pool : BufferPool} (count : BufferPoolsCount s names)
    (stored : s.bufferPoolTree.get k = some old) (ref : pool.numRef = old.numRef)
    (list : pool.bufferProfileList = old.bufferProfileList) :
    BufferPoolsCount { s with bufferPoolTree := s.bufferPoolTree.put k pool } names := by
  constructor
  · simp only [get_put]
    split
    · rename_i null
      rw [← null, count.nullKey] at stored
      cases stored
    · exact count.nullKey
  · exact count.lists.congr (fun j => Attached.ofTree_put_keep stored list j) fun _ => rfl
  · intro j other found
    simp only [get_put] at found
    split at found
    · cases Option.some.inj found
      rw [ref, list]
      exact count.numRef k old stored
    · exact count.numRef j other found

theorem BufferPoolsCount.recalc (count : BufferPoolsCount s names) (poolId : ObjectId) (size : BitVec 32)
    (isAdd : Bool) (npu : SaiStatus) : BufferPoolsCount (qosBufferPoolSizeRecalc s poolId size isAdd npu).1 names := by
  rcases qosBufferPoolSizeRecalc_cases s poolId size isAdd npu with ⟨pool, stored, _, _, moved⟩ | ⟨same, _⟩
  · rw [moved]
    exact count.putPool stored rfl rfl
  · rw [same]
    exact count

theorem qosUpdateBufferPoolNode_profiles (attrs : List BufferPoolAttr) : ∀ (index : Nat) (pool : BufferPool),
      (qosUpdateBufferPoolNode index attrs pool).1.bufferProfileList = pool.bufferProfileList := by
  induction attrs with
  | nil => exact fun _ _ => rfl
  | cons attr rest ih =>
    intro index pool
    cases attr with
    | sharedSize => rfl
    | unknown => rfl
    | _ =>
      unfold qosUpdateBufferPoolNode
      rw [ih]

end Link

section Calls
variable {s : QosState}

def BufferPoolsExact (s : QosState) : Prop := BufferPoolsCount s (bufferPoolOf s)

theorem BufferPoolsExact.poolCreate (counts : BufferPoolsExact s) (attrs : List BufferPoolAttr)
    (env : CreateEnv) : BufferPoolsExact (qosCreateBufferPool s attrs env).1 := by
  rcases qosCreateBufferPool_cases s attrs env with ⟨_, _, same⟩ | ⟨node, rfl, absent, created⟩
  · rwa [same]
  rw [created]
  have ref := qosUpdateBufferPoolNode_numRef attrs 0 qosInitBufferPoolNode
  have list := qosUpdateBufferPoolNode_profiles attrs 0 qosInitBufferPoolNode
  constructor
  · have notNull : (⟨.bufferPool, env.npuObjectId⟩ : ObjectId) ≠ nullObjectId :=
      ne_nullObjectId ObjectType.noConfusion
    simp only
    rw [get_put_ne notNull.symm]
    exact counts.nullKey
  · have noList : Attached.ofTree s.bufferPoolTree BufferPool.bufferProfileList
        ⟨.bufferPool, env.npuObjectId⟩ = none := by
      unfold Attached.ofTree
      rw [absent]
      rfl
    refine (counts.lists.insert noList).congr (fun k => ?_) fun _ => rfl
    rw [Attached.ofTree_put, list]
    rfl
  · intro k pool found
    simp only [get_put] at found
    split at found
    · cases Option.some.inj found
      rw [ref, list]
      rfl
    · exact counts.numRef k pool found

theorem BufferPoolsExact.poolRemove (counts : BufferPoolsExact s) (poolId : ObjectId) (npu : SaiStatus) :
    BufferPoolsExact (qosRemoveBufferPool s poolId npu).1 := by
  rcases qosRemoveBufferPool_cases s poolId npu with ⟨_, _, same⟩ | ⟨pool, stored, unused, removed⟩
  · rwa [same]
  rw [removed]
  have counted := counts.numRef poolId pool stored
  have empty : pool.bufferProfileList = [] := List.length_eq_zero_iff.mp (by omega)
  have noProfile : Attached.ofTree s.bufferPoolTree BufferPool.bufferProfileList poolId = some [] := by
    unfold Attached.ofTree
    rw [stored, Option.map_some, empty]
  constructor
  · exact get_del_none counts.nullKey
  · exact (counts.lists.erase noProfile).congr (fun k => Attached.ofTree_del k) fun _ => rfl
  · exact fun k other found => counts.numRef k other (get_of_del found)

theorem BufferPoolsExact.poolAttrSet (counts : BufferPoolsExact s) (poolId : ObjectId) (attr : BufferPoolAttr)
    (vendor npu : SaiStatus) : BufferPoolsExact (qosBufferPoolAttrSet s poolId attr vendor npu).1 := by
  rcases qosBufferPoolAttrSet_cases s poolId attr vendor npu with
    ⟨_, _, same⟩ | ⟨oldPool, pool, _, _, stored, _, rfl, written⟩
  · rwa [same]
  · rw [written]
    exact BufferPoolsCount.putPool counts stored (qosUpdateBufferPoolNode_numRef [attr] 0 oldPool)
      (qosUpdateBufferPoolNode_profiles [attr] 0 oldPool)

/-- Up to the attribute it stops at, a loop without a pool id leaves the pools alone. -/
theorem qosUpdateBufferProfileNode_unlinked {profileId : ObjectId} (attrs : List BufferProfileAttr) :
    ∀ (index : Nat) (s t : QosState) (node node' : BufferProfile) (status : SaiStatus),
      qosUpdateBufferProfileNode profileId index attrs s node = (t, node', status) →
      (∀ attr ∈ attrs.takeWhile (BufferProfileAttr.accepted s), attr.isPoolId = false) →
      t = s ∧ node'.bufferPoolId = node.bufferPoolId := by
  induction attrs with
  | nil =>
    intro index s t node node' status run _
    cases run
    exact ⟨rfl, rfl⟩
  | cons attr rest ih =>
    intro index s t node node' status run free
    cases attr with
    | poolId oid =>
      unfold qosUpdateBufferProfileNode at run
      split at run
      · cases run
        exact ⟨rfl, rfl⟩
      rename_i pool found
      have accepted : BufferProfileAttr.accepted s (.poolId oid) = true := by
        rw [BufferProfileAttr.accepted_poolId, found]
        rfl
      rw [List.takeWhile_cons_of_pos accepted] at free
      have named := free _ List.mem_cons_self
      cases named
    | unknown =>
      cases run
      exact ⟨rfl, rfl⟩
    | _ =>
      unfold qosUpdateBufferProfileNode at run
      rw [List.takeWhile_cons_of_pos rfl] at free
      have later := ih _ _ _ _ _ _ run fun attr member => free attr (List.mem_cons_of_mem _ member)
      exact later

theorem qosUpdateBufferProfileNode_success {profileId : ObjectId} (attrs : List BufferProfileAttr) :
    ∀ (index : Nat) (s t : QosState) (node node' : BufferProfile) (status : SaiStatus),
      qosUpdateBufferProfileNode profileId index attrs s node = (t, node', status) →
      (∀ attr ∈ attrs, attr.accepted s = true) → status = .success := by
  induction attrs with
  | nil =>
    intro index s t node node' status run _
    cases run
    rfl
  | cons attr rest ih =>
    intro index s t node node' status run accepted
    have here := accepted attr List.mem_cons_self
    cases attr with
    | poolId oid =>
      unfold qosUpdateBufferProfileNode at run
      split at run
      · rename_i absent
        rw [BufferProfileAttr.accepted_poolId, absent] at here
        cases here
      rename_i pool found
      refine ih _ _ _ _ _ _ run fun attr member => ?_
      have before := accepted attr (List.mem_cons_of_mem _ member)
      cases attr with
      | poolId other =>
        rw [BufferProfileAttr.accepted_poolId, Option.isSome_iff_ne_none] at before ⊢
        exact fun none => before (bufferPoolRelease_stored.mp (get_modify_eq_none.mp none))
      | unknown => exact before
      | _ => rfl
    | unknown => cases here
    | _ =>
      unfold qosUpdateBufferProfileNode at run
      exact ih _ _ _ _ _ _ run fun attr member => accepted attr (List.mem_cons_of_mem _ member)

section
variable (counts : BufferPoolsExact s)
include counts

theorem BufferPoolsExact.profileCreate (attrs : List BufferProfileAttr)
    (env : CreateEnv) (completes : (BufferCall.profileCreate attrs env).completes s) :
    BufferPoolsExact (qosCreateBufferProfile s attrs env).1 := by
  generalize created : qosCreateBufferProfile s attrs env = result
  obtain ⟨t, status⟩ := result
  rcases qosCreateBufferProfile_cases created with ⟨rfl, _⟩ | ⟨accepted, allocOk, u, node, wrote, run, ended⟩
  · exact counts
  obtain ⟨same, _, _⟩ := qosUpdateBufferProfileNode_frame run
  have profiles : u.bufferProfileTree = s.bufferProfileTree := by rw [same]
  rcases completes accepted allocOk with ⟨all, npuOk, treeOk, absent⟩ | free
  · have done := qosUpdateBufferProfileNode_success attrs 0 s u _ _ wrote run all
    subst done
    have unnamed : bufferPoolOf s ⟨.bufferProfile, env.npuObjectId⟩ = none := by
      unfold bufferPoolOf Attached.nameIn
      rw [absent]
      rfl
    have blank : Function.update (bufferPoolOf s) ⟨.bufferProfile, env.npuObjectId⟩
        qosInitBufferProfileNode.bufferPoolId.nonNull = bufferPoolOf s := by
      rw [show qosInitBufferProfileNode.bufferPoolId.nonNull = none from rfl, ← unnamed]
      exact Function.update_eq_self _ _
    have start : BufferPoolsCount s (Function.update (bufferPoolOf s) ⟨.bufferProfile, env.npuObjectId⟩
        qosInitBufferProfileNode.bufferPoolId.nonNull) := counts.congr rfl fun id => congrFun blank id
    have looped := BufferPoolsCount.attrLoop run start
    rcases ended with ⟨_, _, stopped⟩ | ⟨_, _, _, rfl⟩
    · exact absurd ⟨rfl, npuOk, treeOk, profiles ▸ absent⟩ stopped
    refine looped.congr rfl fun id => ?_
    unfold bufferPoolOf
    rw [profiles, Attached.nameIn_put]
  · obtain ⟨rfl, noPool⟩ := qosUpdateBufferProfileNode_unlinked attrs 0 s u _ _ wrote run free
    have unnamed : node.bufferPoolId.nonNull = none := by
      rw [noPool]
      rfl
    rcases ended with ⟨rfl, _⟩ | ⟨_, _, absent, rfl⟩
    · exact counts
    refine counts.congr rfl fun id => ?_
    unfold bufferPoolOf
    refine Attached.nameIn_put_unnamed ?_ ?_ id
    · unfold Attached.nameIn
      rw [absent]
      rfl
    · exact unnamed

theorem BufferPoolsExact.profileRemove (profileId : ObjectId) (npu : SaiStatus) :
    BufferPoolsExact (qosRemoveBufferProfile s profileId npu).1 := by
  rcases qosRemoveBufferProfile_cases s profileId npu with ⟨_, _, same⟩ | ⟨profile, stored, _, removed⟩
  · rwa [same]
  rw [removed]
  have named : bufferPoolOf s profileId = profile.bufferPoolId.nonNull := by
    unfold bufferPoolOf Attached.nameIn
    rw [stored, Option.bind_some]
  have released := BufferPoolsCount.release counts named
  refine released.congr ?_ fun id => ?_
  · unfold bufferPoolRelease
    simp only
    by_cases null : profile.bufferPoolId = nullObjectId
    · rw [if_neg (not_not_intro null), null, modify_of_absent counts.nullKey]
    · rw [if_pos null]
  · unfold bufferPoolOf Attached.nameIn
    rw [get_del, Function.update_apply]
    split
    · rfl
    · rfl

theorem BufferPoolsExact.recalc (poolId : ObjectId) (size : BitVec 32)
    (isAdd : Bool) (npu : SaiStatus) : BufferPoolsExact (qosBufferPoolSizeRecalc s poolId size isAdd npu).1 := by
  have moved := BufferPoolsCount.recalc counts poolId size isAdd npu
  refine moved.congr rfl fun id => ?_
  rcases qosBufferPoolSizeRecalc_cases s poolId size isAdd npu with ⟨pool, _, _, _, wrote⟩ | ⟨same, _⟩
  · rw [wrote]
    rfl
  · rw [same]

theorem BufferPoolsExact.profileAttrSet (profileId : ObjectId) (attr : BufferProfileAttr) (env : ProfileSetEnv) :
    BufferPoolsExact (qosBufferProfileAttrSet s profileId attr env).1 := by
  generalize run : qosBufferProfileAttrSet s profileId attr env = result
  obtain ⟨t, status⟩ := result
  rcases qosBufferProfileAttrSet_cases run with
    ⟨rfl, _⟩ | ⟨_, profile, bufSize, isAdd, u, node, stored, _, _, written, rfl⟩
  · exact counts
  · obtain ⟨same, _, _⟩ := qosUpdateBufferProfileNode_frame written
    have profiles : u.bufferProfileTree = s.bufferProfileTree := by rw [same]
    have named : bufferPoolOf s profileId = profile.bufferPoolId.nonNull := by
      unfold bufferPoolOf Attached.nameIn
      rw [stored, Option.bind_some]
    have start : BufferPoolsCount s
        (Function.update (bufferPoolOf s) profileId profile.bufferPoolId.nonNull) := by
      rw [← named, Function.update_eq_self]
      exact counts
    have looped := BufferPoolsCount.attrLoop written start
    have wrote : BufferPoolsExact { u with bufferProfileTree := u.bufferProfileTree.put profileId node } := by
      refine looped.congr rfl fun id => ?_
      unfold bufferPoolOf
      simp only [profiles]
      exact Attached.nameIn_put profileId node id
    unfold qosBufferProfileAttrRecalc
    cases attr with
    | poolId oid => exact (wrote.recalc _ _ _ _).recalc _ _ _ _
    | bufferSize => exact wrote.recalc _ _ _ _
    | xoffTh => exact wrote.recalc _ _ _ _
    | _ => exact wrote

end

theorem bufferPoolOf_relink {objectId oldProfileId profileId : ObjectId} (id : ObjectId) :
    Attached.nameIn (bufferProfileRelink s.bufferProfileTree objectId oldProfileId profileId)
      (fun profile => profile.bufferPoolId.nonNull) id = bufferPoolOf s id := by
  have linkKeep := fun profile : BufferProfile => (profile.link_terms objectId).2.1
  have unlinkKeep := fun profile : BufferProfile => (profile.unlink_terms objectId).2.1
  have released : Attached.nameIn (bufferProfileRelease s.bufferProfileTree objectId oldProfileId)
      (fun profile => profile.bufferPoolId.nonNull) id = bufferPoolOf s id := by
    unfold bufferProfileRelease
    split
    · exact Attached.nameIn_modify_keep (fun profile => by rw [unlinkKeep]) id
    · rfl
  rw [← released]
  unfold bufferProfileRelink bufferProfileTake
  split
  · exact Attached.nameIn_modify_keep (fun profile => by rw [linkKeep]) id
  · rfl

theorem BufferPoolsExact.profileApply (counts : BufferPoolsExact s) (objectId profileId : ObjectId)
    (env : ProfileApplyEnv) : BufferPoolsExact (qosObjUpdateBufferProfile s objectId profileId env).1 := by
  generalize run : qosObjUpdateBufferProfile s objectId profileId env = result
  obtain ⟨t, status⟩ := result
  rcases qosObjUpdateBufferProfile_cases run with ⟨rfl, _⟩ | ⟨_, oldProfileId, tmpSize, isAdd, _, _, rfl⟩
  · exact counts
  obtain ⟨pools, _⟩ := qosSetBufferProfileId_trees s objectId profileId
  have moved : BufferPoolsExact { qosSetBufferProfileId s objectId profileId with
      bufferProfileTree := bufferProfileRelink s.bufferProfileTree objectId oldProfileId profileId } :=
    counts.congr pools fun id => bufferPoolOf_relink id
  unfold qosObjProfileRecalc
  split
  · exact moved.recalc _ _ _ _
  simp only
  split
  · split
    · exact (moved.recalc _ _ _ _).recalc _ _ _ _
    · exact moved.recalc _ _ _ _
  · split
    · exact moved.recalc _ _ _ _
    · exact moved

theorem BufferPoolsExact.run (counts : BufferPoolsExact s) (call : BufferCall) (completes : call.completes s) :
    BufferPoolsExact (call.run s).1 := by
  cases call with
  | poolCreate attrs env => exact counts.poolCreate attrs env
  | poolRemove poolId npu => exact counts.poolRemove poolId npu
  | poolAttrSet poolId attr vendor npu => exact counts.poolAttrSet poolId attr vendor npu
  | profileCreate attrs env => exact counts.profileCreate attrs env completes
  | profileRemove profileId npu => exact counts.profileRemove profileId npu
  | profileAttrSet profileId attr env => exact counts.profileAttrSet profileId attr env
  | profileApply objectId profileId env => exact counts.profileApply objectId profileId env

theorem BufferFresh.poolsExact (fresh : BufferFresh s) : BufferPoolsExact s := by
  constructor
  · rw [fresh.pools, get_empty]
  · refine Attached.of_empty (fun k => ?_) fun id => ?_
    · unfold Attached.ofTree
      rw [fresh.pools, get_empty]
      rfl
    · unfold bufferPoolOf Attached.nameIn
      rw [fresh.profiles, get_empty]
      rfl
  · intro k pool stored
    rw [fresh.pools, get_empty] at stored
    cases stored

end Calls

/-- A pool counts and lists exactly the stored profiles that name it. -/
def BufferPoolCountsExact (s : QosState) : Prop :=
  ∀ poolId pool, s.bufferPoolTree.get poolId = some pool →
    pool.numRef = bufferPoolUsers s poolId ∧
    ∀ profileId, pool.bufferProfileList.count profileId =
      if (s.bufferProfileTree.get profileId).map BufferProfile.bufferPoolId = some poolId then 1 else 0

theorem bufferPoolOf_eq_some {s : QosState} {profileId poolId : ObjectId} (notNull : poolId ≠ nullObjectId) :
    bufferPoolOf s profileId = some poolId ↔
      (s.bufferProfileTree.get profileId).map BufferProfile.bufferPoolId = some poolId := by
  unfold bufferPoolOf Attached.nameIn
  cases s.bufferProfileTree.get profileId with
  | none => exact Iff.rfl
  | some profile =>
    rw [Option.bind_some, Option.map_some, ObjectId.nonNull_eq_some, Option.some.injEq]
    exact and_iff_left notNull

theorem BufferPoolsExact.exact {s : QosState} (counts : BufferPoolsExact s) : BufferPoolCountsExact s := by
  intro poolId pool stored
  have notNull : poolId ≠ nullObjectId := by
    rintro rfl
    rw [counts.nullKey] at stored
    cases stored
  have listed : Attached.ofTree s.bufferPoolTree BufferPool.bufferProfileList poolId =
      some pool.bufferProfileList := by
    unfold Attached.ofTree
    rw [stored, Option.map_some]
  refine ⟨?_, fun profileId => ?_⟩
  · rw [counts.numRef poolId pool stored, Attached.length_eq_tally counts.lists listed]
    refine tally_congr fun id profile _ => ?_
    simp only [ObjectId.nonNull_eq_some, and_iff_left notNull]
  · rw [counts.lists.once poolId _ listed profileId]
    simp only [bufferPoolOf_eq_some notNull]

/-- A creation that completes or stops before the first link leaves the pools
alone when it fails. -/
theorem qosCreateBufferProfile_error {s : QosState} {attrs : List BufferProfileAttr} {env : CreateEnv}
    (completes : (BufferCall.profileCreate attrs env).completes s)
    (error : (qosCreateBufferProfile s attrs env).2 ≠ .success) : (qosCreateBufferProfile s attrs env).1 = s := by
  generalize created : qosCreateBufferProfile s attrs env = result at error ⊢
  obtain ⟨t, status⟩ := result
  rcases qosCreateBufferProfile_cases created with ⟨rfl, _⟩ | ⟨accepted, allocOk, u, node, wrote, run, ended⟩
  · rfl
  rcases ended with ⟨rfl, _, stopped⟩ | ⟨_, rfl, _⟩
  · obtain ⟨same, _, _⟩ := qosUpdateBufferProfileNode_frame run
    have profiles : t.bufferProfileTree = s.bufferProfileTree := by rw [same]
    rcases completes accepted allocOk with ⟨all, npuOk, treeOk, absent⟩ | free
    · have done := qosUpdateBufferProfileNode_success attrs 0 s t _ _ wrote run all
      exact absurd ⟨done, npuOk, treeOk, profiles ▸ absent⟩ stopped
    · exact (qosUpdateBufferProfileNode_unlinked attrs 0 s t _ _ wrote run free).1
  · exact absurd rfl error

/-- In every run whose profile creations complete or stop before they link the
profile, a pool counts exactly the stored profiles that name it, a creation
that fails leaves the pools alone, and a pool without profiles can be removed. -/
theorem bufferPoolCounts_exact {s : QosState} (reach : Runs.Reach BufferFresh
      (Runs.guarded (fun s call => BufferCall.completes s call) BufferCall.step) s) : BufferPoolCountsExact s ∧
    (∀ attrs env, (BufferCall.profileCreate attrs env).completes s →
      (qosCreateBufferProfile s attrs env).2 ≠ .success → (qosCreateBufferProfile s attrs env).1 = s) ∧
    ∀ poolId, s.bufferPoolTree.get poolId ≠ none →
      (∀ profileId profile, s.bufferProfileTree.get profileId = some profile → profile.bufferPoolId ≠ poolId) →
      (qosRemoveBufferPool s poolId .success).2 = .success := by
  have counts : BufferPoolsExact s := by
    refine reach.invariant BufferPoolsExact (fun s fresh => fresh.poolsExact) ?_
    rintro s call t counts ⟨completes, rfl⟩
    exact counts.run call completes
  refine ⟨counts.exact, fun attrs env => qosCreateBufferProfile_error, fun poolId present free => ?_⟩
  unfold qosRemoveBufferPool
  split
  · rename_i absent
    exact absurd absent present
  rename_i pool stored
  have unused : bufferPoolUsers s poolId = 0 :=
    tally_eq_zero fun id profile found => decide_eq_false (free id profile found)
  rw [if_neg (not_not_intro ((counts.exact poolId pool stored).1.trans unused))]

theorem bufferPoolCounts_exact_sample : BufferPoolCountsExact
    ((bufferSampleRun 100 10 .success).foldl BufferCall.step bufferSample) := by
  refine (bufferPoolCounts_exact (Runs.Reach.run (.start bufferSample_fresh) ?_)).1
  refine ⟨trivial, ?_, trivial, trivial⟩
  intro _ _
  refine Or.inl ⟨?_, rfl, rfl, rfl⟩
  intro attr member
  fin_cases member <;> rfl

/-- A profile creation that the NPU refuses has already counted the profile. -/
theorem bufferPoolCounts_not_exact : ¬ ∀ s, Runs.Reach BufferFresh
    (Runs.guarded (fun _ _ => True) BufferCall.step) s → BufferPoolCountsExact s := by
  intro all
  let calls : List BufferCall :=
    [.poolCreate [.size 100, .thMode .static] ⟨.success, true, .success, 1, true⟩,
      .profileCreate [.poolId ⟨.bufferPool, 1⟩, .bufferSize 10, .sharedStaticTh 0]
        ⟨.success, true, .failure, 1, true⟩]
  have counts := all _ (Runs.Reach.run (.start bufferSample_fresh)
    (Runs.allowedRun_of_forall (fun _ _ => trivial) _ calls))
  have broken : ∃ pool, (calls.foldl BufferCall.step bufferSample).bufferPoolTree.get ⟨.bufferPool, 1⟩ =
      some pool ∧ pool.numRef = 1 ∧
      bufferPoolUsers (calls.foldl BufferCall.step bufferSample) ⟨.bufferPool, 1⟩ = 0 :=
    ⟨_, rfl, by decide, by decide⟩
  obtain ⟨pool, stored, one, zero⟩ := broken
  have counted := (counts _ pool stored).1
  rw [one, zero] at counted
  cases counted

end SaiCommon
