import SaiCommon.Qos.BufferAttachment

namespace SaiCommon

open KeyTree

variable {call : BufferCall} {profile : BufferProfile} {kind : BufferUser}
  {id named poolId objectId profileId : ObjectId} {attrs : List BufferProfileAttr}

def bufferPoolType (s : QosState) (poolId : ObjectId) : Option BufferPoolType :=
  (s.bufferPoolTree.get poolId).map BufferPool.poolType

/-- The type of the pool that a stored profile is in. -/
def bufferProfileType (s : QosState) (profileId : ObjectId) : Option BufferPoolType :=
  (s.bufferProfileTree.get profileId).bind fun profile => bufferPoolType s profile.bufferPoolId

/-- The pools that objects of the kind may use. -/
def BufferUser.poolType : BufferUser → BufferPoolType
  | .port => .ingress
  | .queue => .egress
  | .priorityGroup => .ingress

/-- Every profile that stays has a pool of the type that it had. -/
def BufferTypesStay (s t : QosState) : Prop := ∀ profileId, s.bufferProfileTree.get profileId ≠ none →
  t.bufferProfileTree.get profileId ≠ none → bufferProfileType t profileId = bufferProfileType s profileId

/-- A call that keeps the type of every profile that stays, and the profile that every
object names. -/
structure BufferTypesKept (s t : QosState) : Prop where
  types : BufferTypesStay s t
  named : ∀ kind objectId, bufferProfileOf t kind objectId = bufferProfileOf s kind objectId

section Kept
variable {s t u : QosState}

theorem BufferTypesKept.refl (s : QosState) : BufferTypesKept s s :=
  ⟨fun _ _ _ => rfl, fun _ _ => rfl⟩

theorem BufferTypesKept.pools (profiles : t.bufferProfileTree = s.bufferProfileTree)
    (named : ∀ kind objectId, bufferProfileOf t kind objectId = bufferProfileOf s kind objectId)
    (types : ∀ profileId profile, s.bufferProfileTree.get profileId = some profile →
      bufferPoolType t profile.bufferPoolId = bufferPoolType s profile.bufferPoolId) : BufferTypesKept s t := by
  refine ⟨fun profileId stored _ => ?_, named⟩
  obtain ⟨profile, found⟩ := Option.ne_none_iff_exists'.mp stored
  unfold bufferProfileType
  rw [profiles, found]
  exact types profileId profile found

theorem bufferPoolType_put {old pool : BufferPool}
    (stored : s.bufferPoolTree.get poolId = some old) (same : pool.poolType = old.poolType) (k : ObjectId) :
    bufferPoolType { s with bufferPoolTree := s.bufferPoolTree.put poolId pool } k = bufferPoolType s k := by
  unfold bufferPoolType
  dsimp only
  rw [get_put]
  split
  · next isIt =>
    rw [isIt, stored]
    exact congrArg some same
  · rfl

theorem bufferPoolType_modify {tree : KeyTree ObjectId BufferPool} {f : BufferPool → BufferPool}
    (same : ∀ pool, (f pool).poolType = pool.poolType) (k : ObjectId) :
    ((tree.modify poolId f).get k).map BufferPool.poolType = (tree.get k).map BufferPool.poolType := by
  rw [get_modify]
  split
  · rw [Option.map_map]
    exact congrArg (fun g => (tree.get k).map g) (funext same)
  · rfl

theorem bufferPoolType_recalc (poolId : ObjectId) (size : BitVec 32) (isAdd : Bool) (npu : SaiStatus) (k : ObjectId) :
    bufferPoolType (qosBufferPoolSizeRecalc s poolId size isAdd npu).1 k = bufferPoolType s k := by
  rcases qosBufferPoolSizeRecalc_cases s poolId size isAdd npu with ⟨pool, stored, _, _, moved⟩ | ⟨same, _⟩
  · rw [moved]
    have moving : (pool.move size isAdd).poolType = pool.poolType := rfl
    exact bufferPoolType_put stored moving k
  · rw [same]

theorem recalc_trees (poolId : ObjectId) (size : BitVec 32) (isAdd : Bool) (npu : SaiStatus) :
    (qosBufferPoolSizeRecalc s poolId size isAdd npu).1.bufferProfileTree = s.bufferProfileTree ∧
      ∀ kind objectId, bufferProfileOf (qosBufferPoolSizeRecalc s poolId size isAdd npu).1 kind objectId =
        bufferProfileOf s kind objectId := by
  rcases qosBufferPoolSizeRecalc_cases s poolId size isAdd npu with ⟨pool, stored, _, _, moved⟩ | ⟨same, _⟩
  · rw [moved]
    exact ⟨rfl, fun kind _ => by cases kind <;> rfl⟩
  · rw [same]
    exact ⟨rfl, fun _ _ => rfl⟩

theorem BufferTypesStay.recalc (stay : BufferTypesStay s t) (poolId : ObjectId) (size : BitVec 32) (isAdd : Bool)
    (npu : SaiStatus) : BufferTypesStay s (qosBufferPoolSizeRecalc t poolId size isAdd npu).1 := by
  intro profileId stored remains
  have profiles := (@recalc_trees t poolId size isAdd npu).1
  rw [profiles] at remains
  rw [← stay profileId stored remains]
  unfold bufferProfileType
  rw [profiles]
  exact congrArg (fun g => (t.bufferProfileTree.get profileId).bind g)
    (funext fun profile => bufferPoolType_recalc poolId size isAdd npu profile.bufferPoolId)

theorem BufferTypesKept.recalc (kept : BufferTypesKept s t) (poolId : ObjectId) (size : BitVec 32) (isAdd : Bool)
    (npu : SaiStatus) : BufferTypesKept s (qosBufferPoolSizeRecalc t poolId size isAdd npu).1 :=
  ⟨kept.types.recalc poolId size isAdd npu, fun kind objectId =>
    ((@recalc_trees t poolId size isAdd npu).2 kind objectId).trans (kept.named kind objectId)⟩

theorem qosUpdateBufferProfileNode_types {index : Nat}
    {s t : QosState} {node node' : BufferProfile} {status : SaiStatus}
    (run : qosUpdateBufferProfileNode profileId index attrs s node = (t, node', status)) (k : ObjectId) :
    bufferPoolType t k = bufferPoolType s k := by
  refine qosUpdateBufferProfileNode_keeps (motive := fun u _ => bufferPoolType u k = bufferPoolType s k) ?_
    (fun _ _ _ _ _ kept => kept) attrs index s t node node' status run rfl
  intro u v oid _ kept
  rw [← kept]
  unfold bufferPoolType bufferPoolRelease
  dsimp only
  have linking : ∀ pool : BufferPool, (pool.link profileId).poolType = pool.poolType := fun _ => rfl
  have unlinking : ∀ pool : BufferPool, (pool.unlink profileId).poolType = pool.poolType := fun _ => rfl
  rw [bufferPoolType_modify linking]
  split
  · exact bufferPoolType_modify unlinking k
  · rfl

theorem BufferTypesKept.poolCreate (linked : BufferLinked s) (attrs : List BufferPoolAttr) (env : CreateEnv) :
    BufferTypesKept s (qosCreateBufferPool s attrs env).1 := by
  rcases qosCreateBufferPool_cases s attrs env with ⟨_, _, same⟩ | ⟨node, _, absent, created⟩
  · rw [same]
    exact .refl s
  rw [created]
  refine .pools rfl (fun kind _ => by cases kind <;> rfl) fun profileId profile stored => ?_
  unfold bufferPoolType
  dsimp only
  rw [get_put, if_neg]
  intro same
  exact linked.poolStored profileId profile stored (same ▸ absent)

theorem BufferTypesKept.poolRemove (linked : BufferLinked s) (poolId : ObjectId) (npu : SaiStatus) :
    BufferTypesKept s (qosRemoveBufferPool s poolId npu).1 := by
  rcases qosRemoveBufferPool_cases s poolId npu with ⟨_, _, same⟩ | ⟨pool, found, unused, removed⟩
  · rw [same]
    exact .refl s
  rw [removed]
  refine .pools rfl (fun kind _ => by cases kind <;> rfl) fun profileId profile stored => ?_
  unfold bufferPoolType
  dsimp only
  rw [get_del, if_neg]
  intro same
  have users := linked.poolRef poolId pool found
  have counted : 0 < bufferPoolUsers s poolId := tally_pos stored (decide_eq_true same)
  omega

theorem BufferTypesKept.poolAttrSet (poolId : ObjectId) (attr : BufferPoolAttr) (vendor npu : SaiStatus) :
    BufferTypesKept s (qosBufferPoolAttrSet s poolId attr vendor npu).1 := by
  rcases qosBufferPoolAttrSet_cases s poolId attr vendor npu with
    ⟨_, _, same⟩ | ⟨old, pool, value, _, found, rfl, rfl, written⟩
  · rw [same]
    exact .refl s
  · rw [written]
    exact .pools rfl (fun kind _ => by cases kind <;> rfl) fun _ _ _ =>
      bufferPoolType_put found (show (qosUpdateBufferPoolNode 0 [.size value] old).1.poolType = _ from rfl) _

theorem BufferTypesKept.profileCreate (attrs : List BufferProfileAttr) (env : CreateEnv) :
    BufferTypesKept s (qosCreateBufferProfile s attrs env).1 := by
  generalize created : qosCreateBufferProfile s attrs env = result
  obtain ⟨t, status⟩ := result
  rcases qosCreateBufferProfile_cases created with ⟨rfl, _⟩ | ⟨_, _, u, node, wrote, run, ended⟩
  · exact .refl t
  obtain ⟨same, _, _⟩ := qosUpdateBufferProfileNode_frame run
  have types := qosUpdateBufferProfileNode_types run
  have kept : BufferTypesKept s u := by
    refine .pools (by rw [same]) (fun kind id => ?_) fun _ _ _ => types _
    rw [same]
    cases kind <;> rfl
  rcases ended with ⟨rfl, _⟩ | ⟨_, _, absent, rfl⟩
  · exact kept
  refine ⟨fun profileId stored _ => ?_, fun kind id => (by cases kind <;> rfl :
    bufferProfileOf _ kind id = bufferProfileOf u kind id).trans (kept.named kind id)⟩
  have other : profileId ≠ ⟨.bufferProfile, env.npuObjectId⟩ := by
    rintro rfl
    rw [same] at absent
    exact stored absent
  have before := kept.types profileId stored (by rw [same]; exact stored)
  rw [← before]
  unfold bufferProfileType
  dsimp only
  rw [get_put, if_neg other]
  rfl

theorem BufferTypesKept.profileRemove (profileId : ObjectId) (npu : SaiStatus) :
    BufferTypesKept s (qosRemoveBufferProfile s profileId npu).1 := by
  rcases qosRemoveBufferProfile_cases s profileId npu with ⟨_, _, same⟩ | ⟨profile, found, _, removed⟩
  · rw [same]
    exact .refl s
  rw [removed]
  refine ⟨fun other stored remains => ?_, fun kind _ => by cases kind <;> rfl⟩
  have unlinking : ∀ pool : BufferPool, (pool.unlink profileId).poolType = pool.poolType := fun _ => rfl
  have apart : other ≠ profileId := by
    rintro rfl
    exact remains (get_del_self _ _)
  unfold bufferProfileType bufferPoolType
  dsimp only
  rw [get_del, if_neg apart]
  exact congrArg (fun g => (s.bufferProfileTree.get other).bind g)
    (funext fun stays => bufferPoolType_modify unlinking stays.bufferPoolId)

theorem qosIsBufferPoolCompatible_type {oid : ObjectId}
    (valid : qosCheckBufferProfileAttrValue s (.poolId oid) profile = .success) :
    bufferPoolType s oid = bufferPoolType s profile.bufferPoolId := by
  unfold qosCheckBufferProfileAttrValue at valid
  dsimp only at valid
  split at valid
  · rename_i compatible
    unfold qosIsBufferPoolCompatible at compatible
    split at compatible
    · rename_i first second atFirst atSecond
      rw [Bool.and_eq_true, decide_eq_true_eq] at compatible
      unfold bufferPoolType
      rw [atFirst, atSecond]
      exact congrArg some compatible.1
    · cases compatible
  · cases valid

theorem BufferTypesKept.profileAttrSet (profileId : ObjectId) (attr : BufferProfileAttr) (env : ProfileSetEnv) :
    BufferTypesKept s (qosBufferProfileAttrSet s profileId attr env).1 := by
  generalize run : qosBufferProfileAttrSet s profileId attr env = result
  obtain ⟨t, status⟩ := result
  rcases qosBufferProfileAttrSet_cases run with
    ⟨rfl, _⟩ | ⟨_, profile, bufSize, isAdd, u, node, stored, valid, _, written, rfl⟩
  · exact .refl t
  · obtain ⟨same, _, _⟩ := qosUpdateBufferProfileNode_frame written
    have types := qosUpdateBufferProfileNode_types written
    have sameType : bufferPoolType s node.bufferPoolId = bufferPoolType s profile.bufferPoolId := by
      cases attr with
      | poolId oid =>
        have moved : node.bufferPoolId = oid := by
          unfold qosUpdateBufferProfileNode at written
          split at written
          · cases written
          · cases written
            rfl
        rw [moved]
        exact qosIsBufferPoolCompatible_type valid
      | unknown => cases written
      | _ =>
        cases written
        rfl
    have wrote : BufferTypesKept s { u with bufferProfileTree := u.bufferProfileTree.put profileId node } := by
      have profiles : u.bufferProfileTree = s.bufferProfileTree := by rw [same]
      refine ⟨fun other before _ => ?_, fun kind id => ?_⟩
      · unfold bufferProfileType
        dsimp only
        rw [get_put, profiles]
        split
        · next isIt =>
          rw [isIt, stored]
          exact (types node.bufferPoolId).trans sameType
        · exact congrArg (fun g => (s.bufferProfileTree.get other).bind g)
            (funext fun stays => types stays.bufferPoolId)
      · rw [same]
        cases kind <;> rfl
    unfold qosBufferProfileAttrRecalc
    cases attr with
    | poolId oid => exact (wrote.recalc _ _ _ _).recalc _ _ _ _
    | bufferSize => exact wrote.recalc _ _ _ _
    | xoffTh => exact wrote.recalc _ _ _ _
    | _ => exact wrote

theorem BufferTypesStay.profileApply (objectId profileId : ObjectId) (env : ProfileApplyEnv) :
    BufferTypesStay s (qosObjUpdateBufferProfile s objectId profileId env).1 := by
  generalize run : qosObjUpdateBufferProfile s objectId profileId env = result
  obtain ⟨t, status⟩ := result
  rcases qosObjUpdateBufferProfile_cases run with
    ⟨rfl, _⟩ | ⟨_, oldProfileId, tmpSize, isAdd, found, admitted, rfl⟩
  · exact fun _ _ _ => rfl
  have moved : BufferTypesStay s { qosSetBufferProfileId s objectId profileId with
      bufferProfileTree := bufferProfileRelink s.bufferProfileTree objectId oldProfileId profileId } := by
    intro other before remains
    obtain ⟨after, isAfter⟩ := Option.ne_none_iff_exists'.mp remains
    obtain ⟨profile, stored, pool, -⟩ := bufferProfileRelink_get isAfter
    unfold bufferProfileType bufferPoolType
    dsimp only at isAfter ⊢
    rw [isAfter, stored, (qosSetBufferProfileId_trees s objectId profileId).1]
    exact congrArg (fun poolId => (s.bufferPoolTree.get poolId).map BufferPool.poolType) pool
  unfold qosObjProfileRecalc
  split
  · exact moved.recalc _ _ _ _
  dsimp only
  split
  · split
    · exact (moved.recalc _ _ _ _).recalc _ _ _ _
    · exact moved.recalc _ _ _ _
  · split
    · exact moved.recalc _ _ _ _
    · exact moved

theorem bufferProfileOf_objRecalc (oldPoolId newPoolId : ObjectId) (oldSize newSize tmpSize : BitVec 32)
    (isAdd : Bool) (env : ProfileApplyEnv) (kind : BufferUser) (id : ObjectId) :
    bufferProfileOf (qosObjProfileRecalc s oldPoolId newPoolId oldSize newSize tmpSize isAdd env) kind id =
      bufferProfileOf s kind id := by
  have one := fun s poolId size isAdd npu => (@recalc_trees s poolId size isAdd npu).2 kind id
  unfold qosObjProfileRecalc
  split
  · exact one _ _ _ _ _
  dsimp only
  split
  · split
    · exact (one _ _ _ _ _).trans (one _ _ _ _ _)
    · exact one _ _ _ _ _
  · split
    · exact one _ _ _ _ _
    · rfl

theorem qosObjProfileCheck_compatible {oldProfileId : ObjectId} {amount : BitVec 32 × Bool}
    (admitted : qosObjProfileCheck s objectId oldProfileId profileId = .ok amount)
    (notNull : profileId ≠ nullObjectId) :
    ∃ profile, s.bufferProfileTree.get profileId = some profile ∧
      qosIsObjectBufferProfileCompatible s objectId profile = true := by
  unfold qosObjProfileCheck at admitted
  split at admitted
  · cases admitted
  dsimp only at admitted
  cases stored : s.bufferProfileTree.get profileId with
  | none =>
    rw [stored] at admitted
    cases admitted
  | some profile =>
    refine ⟨profile, rfl, ?_⟩
    by_contra clash
    rw [stored] at admitted
    dsimp only at admitted
    rw [if_neg clash] at admitted
    cases admitted

theorem bufferProfileType_of_compatible {own : BufferUser}
    (is : objectId.objType = own.objType) (stored : s.bufferProfileTree.get profileId = some profile)
    (compatible : qosIsObjectBufferProfileCompatible s objectId profile = true) :
    bufferProfileType s profileId = some own.poolType := by
  unfold qosIsObjectBufferProfileCompatible at compatible
  unfold bufferProfileType bufferPoolType
  rw [stored, Option.bind_some]
  split at compatible
  · cases compatible
  rename_i pool found
  rw [found, Option.map_some]
  rw [is] at compatible
  cases own <;> simp_all [BufferUser.objType, BufferUser.poolType]

/-- Only the object that a profile is applied to gets a new one, and that profile is in a
pool of the object's direction. -/
theorem bufferProfileOf_apply {env : ProfileApplyEnv}
    (names : bufferProfileOf (qosObjUpdateBufferProfile s objectId profileId env).1 kind id = some named) :
    bufferProfileOf s kind id = some named ∨ id.objType = kind.objType ∧ s.bufferProfileTree.get named ≠ none ∧
        bufferProfileType s named = some kind.poolType := by
  generalize run : qosObjUpdateBufferProfile s objectId profileId env = result at names
  obtain ⟨t, status⟩ := result
  rcases qosObjUpdateBufferProfile_cases run with
    ⟨rfl, _⟩ | ⟨_, oldProfileId, tmpSize, isAdd, found, admitted, rfl⟩
  · exact .inl names
  obtain ⟨own, is, -⟩ := bufferUser_of_get found
  rw [bufferProfileOf_objRecalc] at names
  have set := @bufferProfileOf_set s objectId oldProfileId profileId own found is kind id
  have names : bufferProfileOf (qosSetBufferProfileId s objectId profileId) kind id = some named := by
    rw [← names]
    cases kind <;> rfl
  rw [set] at names
  split at names
  · next same =>
    rw [Function.update_apply] at names
    split at names
    · next isIt =>
      obtain ⟨rfl, notNull⟩ := ObjectId.nonNull_eq_some.mp names
      obtain ⟨profile, stored, compatible⟩ := qosObjProfileCheck_compatible admitted notNull
      refine .inr ⟨by rw [isIt, same, is], by rw [stored]; exact Option.some_ne_none _, ?_⟩
      rw [same]
      exact bufferProfileType_of_compatible is stored compatible
    · exact .inl names
  · exact .inl names

end Kept

/-- The state with a mark on every profile that was created with a PFC threshold. -/
structure BufferHistory where
  state : QosState
  pfc : ObjectId → Bool

def BufferProfileAttr.isPfc : BufferProfileAttr → Bool
  | .xoffTh _ => true
  | .xonTh _ => true
  | _ => false

/-- A profile that is created is marked for the attributes that it is created with. -/
def BufferCall.marks (pfc : ObjectId → Bool) (status : SaiStatus) : BufferCall → ObjectId → Bool
  | .profileCreate attrs env =>
    if status = .success then
      Function.update pfc ⟨.bufferProfile, env.npuObjectId⟩ (attrs.any BufferProfileAttr.isPfc)
    else pfc
  | _ => pfc

def BufferHistory.step (h : BufferHistory) (call : BufferCall) : BufferHistory :=
  ⟨(call.run h.state).1, call.marks h.pfc (call.run h.state).2⟩

/-- Objects have profiles of pools of their direction, and a profile with a PFC threshold is
in no egress pool. -/
structure BufferDirected (h : BufferHistory) : Prop where
  linked : BufferLinked h.state
  attached : BufferAttached h.state
  fits : ∀ kind objectId profileId, bufferProfileOf h.state kind objectId = some profileId →
    bufferProfileType h.state profileId = some kind.poolType
  pfc : ∀ profileId, h.state.bufferProfileTree.get profileId ≠ none → h.pfc profileId = true →
    bufferProfileType h.state profileId ≠ some .egress

section Runs
variable {h : BufferHistory}

theorem BufferAttached.stored_of_named {s : QosState} (attached : BufferAttached s)
    (named : bufferProfileOf s kind objectId = some profileId) :
    s.bufferProfileTree.get profileId ≠ none := by
  obtain ⟨profile, stored, -⟩ := attached.exact.named kind objectId profileId named
  rw [stored]
  exact Option.some_ne_none profile

def BufferProfileAttr.poolIdValue : BufferProfileAttr → Option ObjectId
  | .poolId oid => some oid
  | _ => none

theorem qosUpdateBufferProfileNode_lastPool (attrs : List BufferProfileAttr) :
    ∀ (index : Nat) (s t : QosState) (node node' : BufferProfile),
      qosUpdateBufferProfileNode profileId index attrs s node = (t, node', .success) →
      node'.bufferPoolId = (attrs.filterMap BufferProfileAttr.poolIdValue).getLast?.getD node.bufferPoolId := by
  induction attrs with
  | nil =>
    intro index s t node node' run
    cases run
    rfl
  | cons attr rest ih =>
    intro index s t node node' run
    cases attr with
    | poolId oid =>
      unfold qosUpdateBufferProfileNode at run
      split at run
      · cases run
      rw [ih _ _ _ _ _ run, List.filterMap_cons]
      dsimp only [BufferProfileAttr.poolIdValue]
      rw [List.getLast?_cons]
      rfl
    | unknown => cases run
    | _ =>
      unfold qosUpdateBufferProfileNode at run
      rw [ih _ _ _ _ _ run]
      rfl

theorem bufferProfilePoolIds_fst (attrs : List BufferProfileAttr) :
    (bufferProfilePoolIds attrs).map Prod.fst = attrs.filterMap BufferProfileAttr.poolIdValue := by
  have indexed : attrs.filterMap BufferProfileAttr.poolIdValue =
      attrs.zipIdx.filterMap fun attr => attr.1.poolIdValue := by
    conv_lhs => rw [← List.zipIdx_map_fst 0 attrs, List.filterMap_map]
    rfl
  rw [indexed]
  unfold bufferProfilePoolIds
  rw [List.map_filterMap]
  congr 1
  funext attr
  obtain ⟨attr, index⟩ := attr
  cases attr <;> rfl

/-- A list with a PFC threshold goes through the checks for a pool that is not an egress one. -/
theorem pfc_of_validate {s : QosState} {vendor : SaiStatus}
    (accepted : qosBufferProfileAttributesValidate s attrs true vendor = .success)
    (pfc : attrs.any BufferProfileAttr.isPfc = true) :
    ∃ oid pool, (attrs.filterMap BufferProfileAttr.poolIdValue).getLast? = some oid ∧
      s.bufferPoolTree.get oid = some pool ∧ pool.poolType ≠ .egress := by
  have checked : qosBufferProfileIsPfcThresholdValid s attrs = .success := by
    unfold qosBufferProfileAttributesValidate at accepted
    split at accepted
    · cases accepted
    split at accepted
    · simp only [if_true] at accepted
      split at accepted
      · exact accepted
      · rename_i error
        exact absurd accepted error
    · rename_i error
      exact absurd accepted error
  unfold qosBufferProfileIsPfcThresholdValid at checked
  dsimp only at checked
  split at checked
  · cases checked
  rename_i pool last
  unfold bufferProfileLastPool at last
  obtain ⟨⟨oid, index⟩, isLast, found⟩ := Option.bind_eq_some_iff.mp last
  refine ⟨oid, pool, ?_, found, ?_⟩
  · rw [← bufferProfilePoolIds_fst, List.getLast?_map, isLast]
    rfl
  · intro egress
    split at checked
    · rw [if_pos egress] at checked
      cases checked
    rename_i none
    have empty := List.getLast?_eq_none_iff.mp none
    rw [List.filterMap_eq_nil_iff] at empty
    obtain ⟨attr, member, isPfc⟩ := List.any_eq_true.mp pfc
    rw [← List.zipIdx_map_fst 0 attrs] at member
    obtain ⟨⟨same, index⟩, listed, rfl⟩ := List.mem_map.mp member
    have skipped := empty _ listed
    cases same with
    | xoffTh value => cases skipped
    | xonTh value => cases skipped
    | _ => cases isPfc

theorem profileCreate_pfc {s t : QosState} {env : CreateEnv}
    (run : qosCreateBufferProfile s attrs env = (t, .success)) (pfc : attrs.any BufferProfileAttr.isPfc = true) :
    bufferProfileType t ⟨.bufferProfile, env.npuObjectId⟩ ≠ some .egress := by
  rcases qosCreateBufferProfile_cases run with
    ⟨_, failed⟩ | ⟨accepted, _, u, node, _, written, ⟨_, failed, _⟩ | ⟨rfl, _, _, rfl⟩⟩
  · exact absurd rfl failed
  · exact absurd rfl failed
  obtain ⟨oid, pool, isLast, found, notEgress⟩ := pfc_of_validate accepted pfc
  have types := qosUpdateBufferProfileNode_types written oid
  have last := qosUpdateBufferProfileNode_lastPool attrs 0 s u _ _ written
  rw [isLast, Option.getD_some] at last
  unfold bufferProfileType
  dsimp only
  rw [get_put_self, Option.bind_some, last]
  refine fun egress => notEgress ?_
  have same : bufferPoolType s oid = some .egress := types.symm.trans egress
  unfold bufferPoolType at same
  rw [found, Option.map_some] at same
  exact Option.some.inj same

theorem attrRecalc_profiles {s : QosState} (attr : BufferProfileAttr) (oldPoolId : ObjectId) (bufSize : BitVec 32)
    (isAdd : Bool) (env : ProfileSetEnv) :
    (qosBufferProfileAttrRecalc s attr oldPoolId bufSize isAdd env).bufferProfileTree = s.bufferProfileTree := by
  have one := fun s poolId size isAdd npu => (@recalc_trees s poolId size isAdd npu).1
  unfold qosBufferProfileAttrRecalc
  split
  · exact (one _ _ _ _ _).trans (one _ _ _ _ _)
  · exact one _ _ _ _ _
  · exact one _ _ _ _ _
  · rfl

theorem objRecalc_profiles {s : QosState} (oldPoolId newPoolId : ObjectId) (oldSize newSize tmpSize : BitVec 32)
    (isAdd : Bool) (env : ProfileApplyEnv) :
    (qosObjProfileRecalc s oldPoolId newPoolId oldSize newSize tmpSize isAdd env).bufferProfileTree =
      s.bufferProfileTree := by
  have one := fun s poolId size isAdd npu => (@recalc_trees s poolId size isAdd npu).1
  unfold qosObjProfileRecalc
  split
  · exact one _ _ _ _ _
  dsimp only
  split
  · split
    · exact (one _ _ _ _ _).trans (one _ _ _ _ _)
    · exact one _ _ _ _ _
  · split
    · exact one _ _ _ _ _
    · rfl

theorem stored_before {s : QosState} (stored : (call.run s).1.bufferProfileTree.get profileId ≠ none) :
    s.bufferProfileTree.get profileId ≠ none ∨ ∃ attrs env, call = .profileCreate attrs env ∧
      (call.run s).2 = .success ∧ profileId = ⟨.bufferProfile, env.npuObjectId⟩ := by
  cases call with
  | poolCreate attrs env =>
    left
    dsimp only [BufferCall.run] at stored
    rcases qosCreateBufferPool_cases s attrs env with ⟨_, _, same⟩ | ⟨_, _, _, created⟩
    · rwa [same] at stored
    · rwa [created] at stored
  | poolRemove poolId npu =>
    left
    dsimp only [BufferCall.run] at stored
    rcases qosRemoveBufferPool_cases s poolId npu with ⟨_, _, same⟩ | ⟨_, _, _, removed⟩
    · rwa [same] at stored
    · rwa [removed] at stored
  | poolAttrSet poolId attr vendor npu =>
    left
    dsimp only [BufferCall.run] at stored
    rcases qosBufferPoolAttrSet_cases s poolId attr vendor npu with
      ⟨_, _, same⟩ | ⟨_, _, _, _, _, _, _, written⟩
    · rwa [same] at stored
    · rwa [written] at stored
  | profileCreate attrs env =>
    dsimp only [BufferCall.run] at stored ⊢
    generalize run : qosCreateBufferProfile s attrs env = result at stored ⊢
    obtain ⟨t, status⟩ := result
    rcases qosCreateBufferProfile_cases run with ⟨rfl, _⟩ | ⟨_, _, u, node, _, written, ended⟩
    · exact .inl stored
    obtain ⟨same, _, _⟩ := qosUpdateBufferProfileNode_frame written
    rcases ended with ⟨rfl, _⟩ | ⟨_, rfl, _, rfl⟩
    · rw [same] at stored
      exact .inl stored
    by_cases new : profileId = ⟨.bufferProfile, env.npuObjectId⟩
    · exact .inr ⟨attrs, env, rfl, rfl, new⟩
    dsimp only at stored
    rw [get_put, if_neg new, same] at stored
    exact .inl stored
  | profileRemove removed npu =>
    left
    dsimp only [BufferCall.run] at stored
    intro absent
    refine stored ?_
    rcases qosRemoveBufferProfile_cases s removed npu with ⟨_, _, same⟩ | ⟨_, _, _, done⟩
    · rwa [same]
    rw [done]
    dsimp only
    exact get_del_none absent
  | profileAttrSet changed attr env =>
    left
    dsimp only [BufferCall.run] at stored
    generalize run : qosBufferProfileAttrSet s changed attr env = result at stored
    obtain ⟨t, status⟩ := result
    rcases qosBufferProfileAttrSet_cases run with
      ⟨rfl, _⟩ | ⟨_, profile, bufSize, isAdd, u, node, found, _, _, written, rfl⟩
    · exact stored
    · obtain ⟨same, _, _⟩ := qosUpdateBufferProfileNode_frame written
      have profiles : u.bufferProfileTree = s.bufferProfileTree := by rw [same]
      intro absent
      refine stored ?_
      dsimp only
      rw [attrRecalc_profiles]
      dsimp only
      rw [get_put, profiles]
      split
      · next isIt =>
        rw [isIt, found] at absent
        cases absent
      · exact absent
  | profileApply objectId applied env =>
    left
    dsimp only [BufferCall.run] at stored
    generalize run : qosObjUpdateBufferProfile s objectId applied env = result at stored
    obtain ⟨t, status⟩ := result
    rcases qosObjUpdateBufferProfile_cases run with
      ⟨rfl, _⟩ | ⟨_, oldProfileId, tmpSize, isAdd, found, admitted, rfl⟩
    · exact stored
    · intro absent
      refine stored ?_
      dsimp only
      rw [objRecalc_profiles]
      exact (bufferProfileRelink_stored profileId).mpr absent

theorem BufferTypesStay.run {s : QosState} (linked : BufferLinked s) (call : BufferCall) :
    BufferTypesStay s (call.run s).1 := by
  cases call with
  | poolCreate attrs env => exact (BufferTypesKept.poolCreate linked attrs env).types
  | poolRemove poolId npu => exact (BufferTypesKept.poolRemove linked poolId npu).types
  | poolAttrSet poolId attr vendor npu => exact (BufferTypesKept.poolAttrSet poolId attr vendor npu).types
  | profileCreate attrs env => exact (BufferTypesKept.profileCreate attrs env).types
  | profileRemove profileId npu => exact (BufferTypesKept.profileRemove profileId npu).types
  | profileAttrSet profileId attr env => exact (BufferTypesKept.profileAttrSet profileId attr env).types
  | profileApply objectId profileId env => exact BufferTypesStay.profileApply objectId profileId env

theorem bufferProfileOf_run {s : QosState} (linked : BufferLinked s)
    (names : bufferProfileOf (call.run s).1 kind id = some named) :
    bufferProfileOf s kind id = some named ∨ id.objType = kind.objType ∧ s.bufferProfileTree.get named ≠ none ∧
      bufferProfileType s named = some kind.poolType := by
  have kept : ∀ {t}, BufferTypesKept s t → bufferProfileOf t kind id = some named →
      bufferProfileOf s kind id = some named ∨ id.objType = kind.objType ∧
      s.bufferProfileTree.get named ≠ none ∧
        bufferProfileType s named = some kind.poolType := fun kept names =>
    .inl ((kept.named kind id).symm.trans names)
  cases call with
  | poolCreate attrs env => exact kept (BufferTypesKept.poolCreate linked attrs env) names
  | poolRemove poolId npu => exact kept (BufferTypesKept.poolRemove linked poolId npu) names
  | poolAttrSet poolId attr vendor npu => exact kept (BufferTypesKept.poolAttrSet poolId attr vendor npu) names
  | profileCreate attrs env => exact kept (BufferTypesKept.profileCreate attrs env) names
  | profileRemove profileId npu => exact kept (BufferTypesKept.profileRemove profileId npu) names
  | profileAttrSet profileId attr env => exact kept (BufferTypesKept.profileAttrSet profileId attr env) names
  | profileApply objectId profileId env => exact bufferProfileOf_apply names

theorem BufferDirected.step (directed : BufferDirected h) (call : BufferCall) : BufferDirected (h.step call) := by
  obtain ⟨linked, attached, fits, pfc⟩ := directed
  have stay := BufferTypesStay.run linked call
  have attachedAfter : BufferAttached (call.run h.state).1 := attached.run (.buffer call) trivial
  refine ⟨linked.run call, attachedAfter, ?_, ?_⟩
  · intro kind objectId profileId names
    have remains := attachedAfter.stored_of_named names
    rcases bufferProfileOf_run linked names with before | ⟨-, stored, fitting⟩
    · exact (stay profileId (attached.stored_of_named before) remains).trans (fits kind objectId profileId before)
    · exact (stay profileId stored remains).trans fitting
  · intro profileId stored marked egress
    have notNew : (∃ attrs env, call = .profileCreate attrs env ∧ (call.run h.state).2 = .success ∧
        profileId = ⟨.bufferProfile, env.npuObjectId⟩) → False := by
      rintro ⟨attrs, env, rfl, success, rfl⟩
      generalize run : (BufferCall.profileCreate attrs env).run h.state = result at *
      obtain ⟨t, status⟩ := result
      dsimp only at success
      subst success
      dsimp only [BufferHistory.step, BufferCall.marks] at marked egress
      rw [run] at marked egress
      dsimp only at marked egress
      rw [if_pos rfl, Function.update_self] at marked
      exact profileCreate_pfc run marked egress
    have before := (stored_before stored).resolve_right notNew
    have same : (h.step call).pfc profileId = h.pfc profileId := by
      dsimp only [BufferHistory.step]
      unfold BufferCall.marks
      split
      · rename_i attrs env
        split
        · next success =>
          rw [Function.update_of_ne fun new => notNew ⟨attrs, env, rfl, success, new⟩]
        · rfl
      · rfl
    rw [same] at marked
    exact pfc profileId before marked ((stay profileId before stored).symm.trans egress)

structure BufferHistory.Fresh (h : BufferHistory) : Prop where
  state : BufferFresh h.state
  pfc : ∀ profileId, h.pfc profileId = false

theorem BufferHistory.Fresh.directed (fresh : h.Fresh) : BufferDirected h := by
  refine ⟨fresh.state.linked, fresh.state.attached, ?_, ?_⟩
  · intro kind objectId profileId names
    rw [fresh.state.unnamed] at names
    cases names
  · intro profileId _ marked
    rw [fresh.pfc] at marked
    cases marked

end Runs

/-- The profile is stored and in a live pool of the type. -/
def BufferProfileIn (s : QosState) (profileId : ObjectId) (type : BufferPoolType) : Prop :=
  ∃ profile pool, s.bufferProfileTree.get profileId = some profile ∧
    s.bufferPoolTree.get profile.bufferPoolId = some pool ∧ pool.poolType = type

theorem bufferProfileType_eq_some {s : QosState} {type : BufferPoolType} :
    bufferProfileType s profileId = some type ↔ BufferProfileIn s profileId type := by
  constructor
  · intro typed
    obtain ⟨profile, stored, inPool⟩ := Option.bind_eq_some_iff.mp typed
    obtain ⟨pool, live, isType⟩ := Option.map_eq_some_iff.mp inPool
    exact ⟨profile, pool, stored, live, isType⟩
  · rintro ⟨profile, pool, stored, live, isType⟩
    unfold bufferProfileType bufferPoolType
    rw [stored, Option.bind_some, live, Option.map_some, isType]

/-- Every profile is in a live pool, every object has a profile of its direction, and no
profile that was created with a PFC threshold is in an egress pool. -/
structure BufferDirections (h : BufferHistory) : Prop where
  live : ∀ profileId profile, h.state.bufferProfileTree.get profileId = some profile →
    h.state.bufferPoolTree.get profile.bufferPoolId ≠ none
  ports : ∀ portId node, h.state.portTree.get portId = some node → node.bufferProfileId ≠ nullObjectId →
    BufferProfileIn h.state node.bufferProfileId .ingress
  queues : ∀ queueId node, h.state.queueTree.get queueId = some node → node.bufferProfileId ≠ nullObjectId →
    BufferProfileIn h.state node.bufferProfileId .egress
  pgs : ∀ pgId node, h.state.pgTree.get pgId = some node → node.bufferProfileId ≠ nullObjectId →
    BufferProfileIn h.state node.bufferProfileId .ingress
  pfc : ∀ profileId, h.pfc profileId = true → ¬ BufferProfileIn h.state profileId .egress

theorem BufferDirected.directions {h : BufferHistory} (directed : BufferDirected h) : BufferDirections h := by
  obtain ⟨linked, -, fits, pfc⟩ := directed
  refine ⟨linked.poolStored, ?_, ?_, ?_, ?_⟩
  · intro portId node stored notNull
    refine bufferProfileType_eq_some.mp (fits .port portId _ ?_)
    unfold bufferProfileOf
    rw [stored]
    exact ObjectId.nonNull_eq_some.mpr ⟨rfl, notNull⟩
  · intro queueId node stored notNull
    refine bufferProfileType_eq_some.mp (fits .queue queueId _ ?_)
    unfold bufferProfileOf
    rw [stored]
    exact ObjectId.nonNull_eq_some.mpr ⟨rfl, notNull⟩
  · intro pgId node stored notNull
    refine bufferProfileType_eq_some.mp (fits .priorityGroup pgId _ ?_)
    unfold bufferProfileOf
    rw [stored]
    exact ObjectId.nonNull_eq_some.mpr ⟨rfl, notNull⟩
  · rintro profileId marked ⟨profile, pool, stored, inPool⟩
    have there : h.state.bufferProfileTree.get profileId ≠ none := by
      rw [stored]
      exact Option.some_ne_none profile
    exact pfc profileId there marked (bufferProfileType_eq_some.mpr ⟨profile, pool, stored, inPool⟩)

/-- Pools, profiles and applications keep the directions in every run. -/
theorem bufferProfiles_directed {h : BufferHistory}
    (reach : Runs.Reach BufferHistory.Fresh (Runs.guarded (fun _ _ => True) BufferHistory.step) h) :
    BufferDirections h :=
  (reach.invariant BufferDirected (fun _ fresh => fresh.directed)
    fun _ call _ directed moved => moved.2 ▸ directed.step call).directions

def bufferDirectionRun : List BufferCall :=
  [.poolCreate [.type .ingress, .size 100, .thMode .static] ⟨.success, true, .success, 1, true⟩,
    .poolCreate [.type .egress, .size 100, .thMode .static] ⟨.success, true, .success, 2, true⟩,
    .poolCreate [.type .ingress, .size 100, .thMode .static] ⟨.success, true, .success, 3, true⟩,
    .profileCreate [.poolId ⟨.bufferPool, 1⟩, .bufferSize 10, .sharedStaticTh 0, .xoffTh 1]
      ⟨.success, true, .success, 1, true⟩,
    .profileCreate [.poolId ⟨.bufferPool, 2⟩, .bufferSize 10, .sharedStaticTh 0]
      ⟨.success, true, .success, 2, true⟩,
    .profileApply ⟨.queue, 1⟩ ⟨.bufferProfile, 2⟩ ⟨.success, .success, .success⟩,
    .profileApply ⟨.port, 1⟩ ⟨.bufferProfile, 1⟩ ⟨.success, .success, .success⟩,
    .profileApply ⟨.port, 1⟩ ⟨.bufferProfile, 2⟩ ⟨.success, .success, .success⟩,
    .profileAttrSet ⟨.bufferProfile, 1⟩ (.poolId ⟨.bufferPool, 3⟩)
      ⟨.success, fun _ => .success, .success, .success⟩]

theorem bufferProfiles_directed_sample : BufferDirections
    (bufferDirectionRun.foldl BufferHistory.step ⟨bufferUserSample, fun _ => false⟩) :=
  bufferProfiles_directed (Runs.Reach.run (.start ⟨bufferUserSample_fresh, fun _ => rfl⟩)
    (Runs.allowedRun_of_forall (fun _ _ => trivial) _ bufferDirectionRun))

example : bufferProfileOf (bufferDirectionRun.foldl BufferHistory.step ⟨bufferUserSample, fun _ => false⟩).state
    .port ⟨.port, 1⟩ = some ⟨.bufferProfile, 1⟩ := by decide

end SaiCommon
