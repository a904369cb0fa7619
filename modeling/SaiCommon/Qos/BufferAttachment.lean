import SaiCommon.Lib.Attachment
import SaiCommon.Qos.BufferLinks
import SaiCommon.Qos.Queue

namespace SaiCommon

open KeyTree

variable {profile : BufferProfile} {s : QosState}

inductive BufferUser
  | port
  | queue
  | priorityGroup
deriving DecidableEq

def bufferProfileOf (s : QosState) (kind : BufferUser) (objectId : ObjectId) : Option ObjectId :=
  match kind with
  | .port => (s.portTree.get objectId).bind fun node => node.bufferProfileId.nonNull
  | .queue => (s.queueTree.get objectId).bind fun node => node.bufferProfileId.nonNull
  | .priorityGroup => (s.pgTree.get objectId).bind fun node => node.bufferProfileId.nonNull

def BufferProfile.userList (kind : BufferUser) (profile : BufferProfile) : List ObjectId :=
  match kind with
  | .port => profile.portList
  | .queue => profile.queueList
  | .priorityGroup => profile.pgList

def BufferProfile.listed (profile : BufferProfile) : Nat :=
  profile.portList.length + profile.queueList.length + profile.pgList.length

/-- The references between buffer profiles and the objects that name them. -/
structure BufferAttached (s : QosState) : Prop where
  lists : ∀ kind, Attached (Attached.ofTree s.bufferProfileTree (BufferProfile.userList kind))
    (bufferProfileOf s kind)
  numRef : ∀ id profile, s.bufferProfileTree.get id = some profile → profile.numRef = profile.listed

/-- A buffer call, or the removal of a queue. -/
inductive BufferUserCall
  | buffer (call : BufferCall)
  | queueRemove (queueId : ObjectId) (npu : SaiStatus)

def BufferUserCall.run (s : QosState) : BufferUserCall → QosState × SaiStatus
  | .buffer call => call.run s
  | .queueRemove queueId npu => qosQueueRemove s queueId npu

def BufferUserCall.step (s : QosState) (call : BufferUserCall) : QosState := (call.run s).1

/-- A queue goes only while it names no buffer profile; `sai_qos_queue_is_in_use`
does not look at the profile. -/
def BufferUserCall.releases (s : QosState) : BufferUserCall → Prop
  | .buffer _ => True
  | .queueRemove queueId npu => ∀ node, queueId.objType = .queue → s.queueTree.get queueId = some node →
      qosQueueIsInUse node = false → npu = .success → node.bufferProfileId = nullObjectId

section Keep

theorem BufferAttached.pools (attached : BufferAttached s) (pools : KeyTree ObjectId BufferPool) :
    BufferAttached { s with bufferPoolTree := pools } :=
  ⟨attached.lists, attached.numRef⟩

theorem BufferProfile.of_users {other : BufferProfile} (same : profile.users = other.users) :
    profile.numRef = other.numRef ∧ profile.listed = other.listed ∧
    ∀ kind, profile.userList kind = other.userList kind := by
  simp only [BufferProfile.users, Prod.mk.injEq] at same
  obtain ⟨count, ports, queues, pgs⟩ := same
  refine ⟨count, ?_, fun kind => ?_⟩
  · unfold BufferProfile.listed
    rw [ports, queues, pgs]
  · cases kind with
    | port => exact ports
    | queue => exact queues
    | priorityGroup => exact pgs

theorem BufferAttached.putProfile {profileId : ObjectId} {old : BufferProfile}
    (attached : BufferAttached s) (stored : s.bufferProfileTree.get profileId = some old)
    (same : profile.users = old.users) :
    BufferAttached { s with bufferProfileTree := s.bufferProfileTree.put profileId profile } := by
  obtain ⟨count, listed, users⟩ := BufferProfile.of_users same
  constructor
  · intro kind
    refine (attached.lists kind).congr (fun k => Attached.ofTree_put_keep stored (users kind) k) ?_
    cases kind <;> exact fun _ => rfl
  · intro id other found
    simp only [get_put] at found
    split at found
    · cases Option.some.inj found
      rw [count, listed]
      exact attached.numRef profileId old stored
    · exact attached.numRef id other found

theorem BufferAttached.newProfile {profileId : ObjectId}
    (attached : BufferAttached s) (absent : s.bufferProfileTree.get profileId = none)
    (blank : profile.users = (0, [], [], [])) :
    BufferAttached { s with bufferProfileTree := s.bufferProfileTree.put profileId profile } := by
  obtain ⟨count, listed, users⟩ := BufferProfile.of_users (blank.trans (rfl : _ = qosInitBufferProfileNode.users))
  constructor
  · intro kind
    have noList : Attached.ofTree s.bufferProfileTree (BufferProfile.userList kind) profileId = none := by
      unfold Attached.ofTree
      rw [absent]
      rfl
    have empty : profile.userList kind = [] := by
      rw [users kind]
      cases kind <;> rfl
    refine ((attached.lists kind).insert noList).congr (fun k => ?_) ?_
    · rw [← empty]
      exact Attached.ofTree_put k
    · cases kind <;> exact fun _ => rfl
  · intro id other found
    simp only [get_put] at found
    split at found
    · cases Option.some.inj found
      rw [count, listed]
      rfl
    · exact attached.numRef id other found

theorem BufferAttached.delProfile {profileId : ObjectId}
    (attached : BufferAttached s) (stored : s.bufferProfileTree.get profileId = some profile)
    (unused : profile.numRef = 0) :
    BufferAttached { s with bufferProfileTree := s.bufferProfileTree.del profileId } where
  lists := by
    intro kind
    have counted := attached.numRef profileId profile stored
    have empty : profile.userList kind = [] := by
      unfold BufferProfile.listed at counted
      refine List.length_eq_zero_iff.mp ?_
      cases kind with
      | port =>
        show profile.portList.length = 0
        omega
      | queue =>
        show profile.queueList.length = 0
        omega
      | priorityGroup =>
        show profile.pgList.length = 0
        omega
    have noUser : Attached.ofTree s.bufferProfileTree (BufferProfile.userList kind) profileId = some [] := by
      unfold Attached.ofTree
      rw [stored, Option.map_some, empty]
    refine ((attached.lists kind).erase noUser).congr (fun k => Attached.ofTree_del k) ?_
    cases kind <;> exact fun _ => rfl
  numRef := by
    exact fun id other found => attached.numRef id other (get_of_del found)

end Keep

def BufferUser.objType : BufferUser → ObjectType
  | .port => .port
  | .queue => .queue
  | .priorityGroup => .priorityGroup

section Relink
variable {objectId oldProfileId profileId : ObjectId} {own : BufferUser}

theorem bufferUser_of_get (found : qosGetBufferProfileId s objectId = .ok oldProfileId) :
    ∃ own : BufferUser, objectId.objType = own.objType ∧ bufferProfileOf s own objectId = oldProfileId.nonNull := by
  unfold qosGetBufferProfileId at found
  split at found
  · rename_i isPort
    split at found
    · cases found
    rename_i node stored
    cases found
    refine ⟨.port, isPort, ?_⟩
    simp only [bufferProfileOf, stored, Option.bind_some]
  · rename_i isQueue
    split at found
    · cases found
    rename_i node stored
    cases found
    refine ⟨.queue, isQueue, ?_⟩
    simp only [bufferProfileOf, stored, Option.bind_some]
  · rename_i isPg
    split at found
    · cases found
    rename_i node stored
    cases found
    refine ⟨.priorityGroup, isPg, ?_⟩
    simp only [bufferProfileOf, stored, Option.bind_some]
  · cases found

theorem BufferProfile.userList_unlink (is : objectId.objType = own.objType) (profile : BufferProfile)
    (kind : BufferUser) : (profile.unlink objectId).userList kind =
      if kind = own then (profile.userList kind).erase objectId else profile.userList kind := by
  cases own <;> simp only [BufferProfile.unlink, is, BufferUser.objType] <;> cases kind <;> rfl

theorem BufferProfile.userList_link (is : objectId.objType = own.objType) (profile : BufferProfile)
    (kind : BufferUser) : (profile.link objectId).userList kind =
      if kind = own then profile.userList kind ++ [objectId] else profile.userList kind := by
  cases own <;> simp only [BufferProfile.link, is, BufferUser.objType] <;> cases kind <;> rfl

theorem bufferProfileOf_set (live : qosGetBufferProfileId s objectId = .ok oldProfileId)
    (is : objectId.objType = own.objType) (kind : BufferUser) (id : ObjectId) :
    bufferProfileOf (qosSetBufferProfileId s objectId profileId) kind id =
      if kind = own then Function.update (bufferProfileOf s kind) objectId profileId.nonNull id
      else bufferProfileOf s kind id := by
  unfold qosGetBufferProfileId at live
  cases own with
  | port =>
    simp only [is, BufferUser.objType] at live
    simp only [qosSetBufferProfileId, is, BufferUser.objType]
    split at live
    · cases live
    rename_i node stored
    cases kind with
    | port => exact Attached.nameIn_modify stored rfl id
    | _ => rfl
  | queue =>
    simp only [is, BufferUser.objType] at live
    simp only [qosSetBufferProfileId, is, BufferUser.objType]
    split at live
    · cases live
    rename_i node stored
    cases kind with
    | queue => exact Attached.nameIn_modify stored rfl id
    | _ => rfl
  | priorityGroup =>
    simp only [is, BufferUser.objType] at live
    simp only [qosSetBufferProfileId, is, BufferUser.objType]
    split at live
    · cases live
    rename_i node stored
    cases kind with
    | priorityGroup => exact Attached.nameIn_modify stored rfl id
    | _ => rfl

theorem ofTree_relink (is : objectId.objType = own.objType) (tree : KeyTree ObjectId BufferProfile)
    (kind : BufferUser) (id : ObjectId) :
    Attached.ofTree (bufferProfileRelink tree objectId oldProfileId profileId) (BufferProfile.userList kind) id =
      if kind = own then
        Attached.take (Attached.release (Attached.ofTree tree (BufferProfile.userList kind)) objectId
          oldProfileId.nonNull) objectId profileId.nonNull id
      else Attached.ofTree tree (BufferProfile.userList kind) id := by
  have released : Attached.ofTree (bufferProfileRelease tree objectId oldProfileId) (BufferProfile.userList kind) =
      if kind = own then Attached.release (Attached.ofTree tree (BufferProfile.userList kind)) objectId
        oldProfileId.nonNull else Attached.ofTree tree (BufferProfile.userList kind) := by
    funext k
    unfold bufferProfileRelease ObjectId.nonNull
    by_cases null : oldProfileId = nullObjectId
    · rw [if_neg (not_not_intro null), if_pos null]
      split <;> rfl
    rw [if_pos null, if_neg null]
    split
    · rename_i same
      refine Attached.ofTree_modify (fun profile => ?_) k
      rw [BufferProfile.userList_unlink is, if_pos same]
    · rename_i other
      refine Attached.ofTree_modify_keep (fun profile => ?_) k
      rw [BufferProfile.userList_unlink is, if_neg other]
  unfold bufferProfileRelink bufferProfileTake
  by_cases null : profileId = nullObjectId
  · rw [if_neg (not_not_intro null), released, show profileId.nonNull = none from if_pos null]
    split <;> rfl
  rw [if_pos null, show profileId.nonNull = some profileId from if_neg null]
  split
  · rename_i same
    rw [if_pos same] at released
    rw [← released]
    refine Attached.ofTree_modify (fun profile => ?_) id
    rw [BufferProfile.userList_link is, if_pos same]
  · rename_i other
    rw [if_neg other] at released
    rw [← released]
    refine Attached.ofTree_modify_keep (fun profile => ?_) id
    rw [BufferProfile.userList_link is, if_neg other]

theorem bufferProfileRelink_some {tree : KeyTree ObjectId BufferProfile} {id : ObjectId} {after : BufferProfile}
    (stored : (bufferProfileRelink tree objectId oldProfileId profileId).get id = some after) :
    ∃ before, tree.get id = some before ∧ after = if profileId.nonNull = some id then
          (if oldProfileId.nonNull = some id then before.unlink objectId else before).link objectId
        else if oldProfileId.nonNull = some id then before.unlink objectId else before := by
  have step : ∀ {tree : KeyTree ObjectId BufferProfile} {f : BufferProfile → BufferProfile} {k : ObjectId} {after},
      (if k ≠ nullObjectId then tree.modify k f else tree).get id = some after →
      ∃ before, tree.get id = some before ∧ after = if k.nonNull = some id then f before else before := by
    intro tree f k after found
    unfold ObjectId.nonNull
    by_cases null : k = nullObjectId
    · rw [if_neg (not_not_intro null)] at found
      rw [if_pos null]
      exact ⟨after, found, rfl⟩
    rw [if_pos null, get_modify] at found
    rw [if_neg null]
    split at found
    · rename_i same
      obtain ⟨before, old, rfl⟩ := Option.map_eq_some_iff.mp found
      exact ⟨before, old, by rw [same, if_pos rfl]⟩
    · rename_i other
      exact ⟨after, found, (if_neg fun same => other (Option.some.inj same).symm).symm⟩
  obtain ⟨middle, found, linked⟩ := step stored
  obtain ⟨before, old, unlinked⟩ := step found
  exact ⟨before, old, by rw [linked, unlinked]⟩

theorem BufferProfile.listed_unlink (is : objectId.objType = own.objType)
    (member : objectId ∈ profile.userList own) : (profile.unlink objectId).listed + 1 = profile.listed ∧
    (profile.unlink objectId).numRef = profile.numRef - 1 := by
  have shorter := List.length_erase_of_mem member
  have positive := List.length_pos_of_mem member
  cases own <;>
    simp only [BufferProfile.unlink, is, BufferUser.objType, BufferProfile.listed,
      BufferProfile.userList, and_true] at * <;> omega

theorem BufferProfile.listed_link (is : objectId.objType = own.objType) (profile : BufferProfile) :
    (profile.link objectId).listed = profile.listed + 1 ∧ (profile.link objectId).numRef = profile.numRef + 1 := by
  cases own <;>
    simp only [BufferProfile.link, is, BufferUser.objType, BufferProfile.listed, List.length_append,
      List.length_singleton, and_true] <;> omega

theorem BufferAttached.relink (attached : BufferAttached s)
    (found : qosGetBufferProfileId s objectId = .ok oldProfileId)
    (newStored : profileId ≠ nullObjectId → s.bufferProfileTree.get profileId ≠ none) :
    BufferAttached { qosSetBufferProfileId s objectId profileId with
      bufferProfileTree := bufferProfileRelink s.bufferProfileTree objectId oldProfileId profileId } := by
  obtain ⟨own, is, named⟩ := bufferUser_of_get found
  constructor
  · intro kind
    have names : ∀ id, bufferProfileOf { qosSetBufferProfileId s objectId profileId with
          bufferProfileTree := bufferProfileRelink s.bufferProfileTree objectId oldProfileId profileId } kind id =
        bufferProfileOf (qosSetBufferProfileId s objectId profileId) kind id := by
      cases kind <;> exact fun _ => rfl
    by_cases same : kind = own
    · have held : ∀ k, profileId.nonNull = some k →
          Attached.ofTree s.bufferProfileTree (BufferProfile.userList kind) k ≠ none := by
        intro k isIt
        obtain ⟨rfl, notNull⟩ := ObjectId.nonNull_eq_some.mp isIt
        unfold Attached.ofTree
        rw [ne_eq, Option.map_eq_none_iff]
        exact newStored notNull
      have moved := (attached.lists kind).move objectId profileId.nonNull held
      refine moved.congr (fun k => ?_) fun id => ?_
      · rw [ofTree_relink is, if_pos same, same, named]
      · rw [names, bufferProfileOf_set found is, if_pos same]
    · refine (attached.lists kind).congr (fun k => ?_) fun id => ?_
      · exact (ofTree_relink is _ kind k).trans (if_neg same)
      · rw [names, bufferProfileOf_set found is, if_neg same]
  · intro id after stored
    obtain ⟨before, old, rfl⟩ := bufferProfileRelink_some stored
    have counted := attached.numRef id before old
    have left : (if oldProfileId.nonNull = some id then before.unlink objectId else before).numRef =
        (if oldProfileId.nonNull = some id then before.unlink objectId else before).listed := by
      split
      · rename_i isOld
        have listed : Attached.ofTree s.bufferProfileTree (BufferProfile.userList own) id =
            some (before.userList own) := by
          unfold Attached.ofTree
          rw [old, Option.map_some]
        have member := (attached.lists own).mem_of_named listed (named.trans isOld)
        obtain ⟨shorter, less⟩ := BufferProfile.listed_unlink is member
        omega
      · exact counted
    split
    · obtain ⟨longer, more⟩ := BufferProfile.listed_link is
        (if oldProfileId.nonNull = some id then before.unlink objectId else before)
      rw [longer, more, left]
    · exact left

end Relink

section Calls

section
variable (attached : BufferAttached s)
include attached

theorem BufferAttached.recalc (poolId : ObjectId) (size : BitVec 32)
    (isAdd : Bool) (npu : SaiStatus) : BufferAttached (qosBufferPoolSizeRecalc s poolId size isAdd npu).1 := by
  rcases qosBufferPoolSizeRecalc_cases s poolId size isAdd npu with ⟨pool, _, _, _, moved⟩ | ⟨same, _⟩
  · rw [moved]
    exact attached.pools _
  · rw [same]
    exact attached

theorem BufferAttached.poolCreate (attrs : List BufferPoolAttr)
    (env : CreateEnv) : BufferAttached (qosCreateBufferPool s attrs env).1 := by
  rcases qosCreateBufferPool_cases s attrs env with ⟨_, _, same⟩ | ⟨node, _, _, created⟩
  · rwa [same]
  · rw [created]
    exact attached.pools _

theorem BufferAttached.poolRemove (poolId : ObjectId) (npu : SaiStatus) :
    BufferAttached (qosRemoveBufferPool s poolId npu).1 := by
  rcases qosRemoveBufferPool_cases s poolId npu with ⟨_, _, same⟩ | ⟨pool, _, _, removed⟩
  · rwa [same]
  · rw [removed]
    exact attached.pools _

theorem BufferAttached.poolAttrSet (poolId : ObjectId) (attr : BufferPoolAttr)
    (vendor npu : SaiStatus) : BufferAttached (qosBufferPoolAttrSet s poolId attr vendor npu).1 := by
  rcases qosBufferPoolAttrSet_cases s poolId attr vendor npu with
    ⟨_, _, same⟩ | ⟨_, pool, _, _, _, _, _, written⟩
  · rwa [same]
  · rw [written]
    exact attached.pools _

theorem BufferAttached.profileCreate (attrs : List BufferProfileAttr)
    (env : CreateEnv) : BufferAttached (qosCreateBufferProfile s attrs env).1 := by
  generalize created : qosCreateBufferProfile s attrs env = result
  obtain ⟨t, status⟩ := result
  rcases qosCreateBufferProfile_cases created with ⟨rfl, _⟩ | ⟨_, _, u, node, wrote, run, ended⟩
  · exact attached
  obtain ⟨same, _, _⟩ := qosUpdateBufferProfileNode_frame run
  have users := qosUpdateBufferProfileNode_users run
  have kept : BufferAttached u := by
    rw [same]
    exact attached.pools _
  rcases ended with ⟨rfl, _⟩ | ⟨_, _, absent, rfl⟩
  · exact kept
  · exact kept.newProfile absent users

theorem BufferAttached.profileRemove (profileId : ObjectId) (npu : SaiStatus) :
    BufferAttached (qosRemoveBufferProfile s profileId npu).1 := by
  rcases qosRemoveBufferProfile_cases s profileId npu with ⟨_, _, same⟩ | ⟨profile, stored, unused, removed⟩
  · rwa [same]
  · rw [removed]
    exact (attached.delProfile stored unused).pools _

theorem BufferAttached.profileAttrSet (profileId : ObjectId) (attr : BufferProfileAttr) (env : ProfileSetEnv) :
    BufferAttached (qosBufferProfileAttrSet s profileId attr env).1 := by
  generalize run : qosBufferProfileAttrSet s profileId attr env = result
  obtain ⟨t, status⟩ := result
  rcases qosBufferProfileAttrSet_cases run with
    ⟨rfl, _⟩ | ⟨_, profile, bufSize, isAdd, u, node, stored, _, _, written, rfl⟩
  · exact attached
  · obtain ⟨same, _, _⟩ := qosUpdateBufferProfileNode_frame written
    have users := qosUpdateBufferProfileNode_users written
    have kept : BufferAttached u := by
      rw [same]
      exact attached.pools _
    have there : u.bufferProfileTree.get profileId = some profile := by
      rw [same]
      exact stored
    have wrote := kept.putProfile there users
    unfold qosBufferProfileAttrRecalc
    cases attr with
    | poolId oid => exact (wrote.recalc _ _ _ _).recalc _ _ _ _
    | bufferSize => exact wrote.recalc _ _ _ _
    | xoffTh => exact wrote.recalc _ _ _ _
    | _ => exact wrote

theorem BufferAttached.profileApply (objectId profileId : ObjectId)
    (env : ProfileApplyEnv) : BufferAttached (qosObjUpdateBufferProfile s objectId profileId env).1 := by
  generalize run : qosObjUpdateBufferProfile s objectId profileId env = result
  obtain ⟨t, status⟩ := result
  rcases qosObjUpdateBufferProfile_cases run with
    ⟨rfl, _⟩ | ⟨_, oldProfileId, tmpSize, isAdd, found, admitted, rfl⟩
  · exact attached
  · obtain ⟨_, newStored, _⟩ := qosObjProfileCheck_ok admitted
    have moved := attached.relink found newStored
    unfold qosObjProfileRecalc
    split
    · exact moved.recalc _ _ _ _
    simp only
    split
    · split
      · exact (moved.recalc _ _ _ _).recalc _ _ _ _
      · exact moved.recalc _ _ _ _
    · split
      · exact moved.recalc _ _ _ _
      · exact moved

end

theorem bufferProfileOf_portQueueList (queueId : ObjectId) (node : Queue) (isAdd : Bool) (kind : BufferUser)
    (id : ObjectId) :
    bufferProfileOf (qosPortQueueListUpdate s queueId node isAdd).1 kind id = bufferProfileOf s kind id := by
  unfold qosPortQueueListUpdate
  split
  · rfl
  rename_i port stored
  cases kind with
  | port =>
    simp only [bufferProfileOf]
    refine Attached.nameIn_put_keep stored ?_ id
    rfl
  | _ => rfl

theorem BufferAttached.portQueueList (attached : BufferAttached s) (queueId : ObjectId) (node : Queue)
    (isAdd : Bool) : BufferAttached (qosPortQueueListUpdate s queueId node isAdd).1 := by
  have tree : (qosPortQueueListUpdate s queueId node isAdd).1.bufferProfileTree = s.bufferProfileTree := by
    unfold qosPortQueueListUpdate
    split <;> rfl
  constructor
  · intro kind
    rw [tree]
    refine (attached.lists kind).congr (fun _ => rfl) fun id => ?_
    exact bufferProfileOf_portQueueList queueId node isAdd kind id
  · rw [tree]
    exact attached.numRef

theorem BufferAttached.queueRemove (attached : BufferAttached s) (queueId : ObjectId) (npu : SaiStatus)
    (releases : BufferUserCall.releases s (.queueRemove queueId npu)) :
    BufferAttached (qosQueueRemove s queueId npu).1 := by
  rcases qosQueueRemove_cases s queueId npu with ⟨_, _, same⟩ | ⟨node, isQueue, stored, idle, answer, removed⟩
  · rwa [same]
  have null := releases node isQueue stored idle answer
  have left := attached.portQueueList queueId node false
  have unnamed : bufferProfileOf (qosPortQueueListUpdate s queueId node false).1 .queue queueId = none := by
    rw [bufferProfileOf_portQueueList]
    simp only [bufferProfileOf, stored, Option.bind_some, null]
    rfl
  rw [removed]
  refine ⟨fun kind => ?_, left.numRef⟩
  refine (left.lists kind).congr (fun _ => rfl) ?_
  cases kind with
  | queue => exact Attached.nameIn_del_unnamed unnamed
  | _ => exact fun _ => rfl

theorem BufferAttached.run (attached : BufferAttached s) (call : BufferUserCall) (releases : call.releases s) :
    BufferAttached (call.run s).1 := by
  cases call with
  | buffer call =>
    cases call with
    | poolCreate attrs env => exact attached.poolCreate attrs env
    | poolRemove poolId npu => exact attached.poolRemove poolId npu
    | poolAttrSet poolId attr vendor npu => exact attached.poolAttrSet poolId attr vendor npu
    | profileCreate attrs env => exact attached.profileCreate attrs env
    | profileRemove profileId npu => exact attached.profileRemove profileId npu
    | profileAttrSet profileId attr env => exact attached.profileAttrSet profileId attr env
    | profileApply objectId profileId env => exact attached.profileApply objectId profileId env
  | queueRemove queueId npu => exact attached.queueRemove queueId npu releases

theorem BufferFresh.unnamed (fresh : BufferFresh s) (kind : BufferUser) (id : ObjectId) :
    bufferProfileOf s kind id = none := by
  cases kind with
  | port =>
    refine Attached.nameIn_eq_none fun node stored => ?_
    rw [fresh.ports id node stored]
    rfl
  | queue =>
    refine Attached.nameIn_eq_none fun node stored => ?_
    rw [fresh.queues id node stored]
    rfl
  | priorityGroup =>
    refine Attached.nameIn_eq_none fun node stored => ?_
    rw [fresh.pgs id node stored]
    rfl

theorem BufferFresh.attached (fresh : BufferFresh s) : BufferAttached s := by
  constructor
  · intro kind
    refine Attached.of_empty (fun k => ?_) (fresh.unnamed kind)
    unfold Attached.ofTree
    rw [fresh.profiles, get_empty]
    rfl
  · intro id profile stored
    rw [fresh.profiles, get_empty] at stored
    cases stored

end Calls

def BufferUser.stored (s : QosState) (objectId : ObjectId) : BufferUser → Prop
  | .port => s.portTree.get objectId ≠ none
  | .queue => s.queueTree.get objectId ≠ none
  | .priorityGroup => s.pgTree.get objectId ≠ none

/-- Every reference between a profile and an object is there on both sides. -/
structure BufferReferencesExact (s : QosState) : Prop where
  linked : ∀ profileId profile, s.bufferProfileTree.get profileId = some profile → ∀ kind objectId,
    (profile.userList kind).count objectId = if bufferProfileOf s kind objectId = some profileId then 1 else 0
  named : ∀ kind objectId profileId, bufferProfileOf s kind objectId = some profileId →
    ∃ profile, s.bufferProfileTree.get profileId = some profile ∧ objectId ∈ profile.userList kind
  live : ∀ profileId profile, s.bufferProfileTree.get profileId = some profile → ∀ kind,
    ∀ objectId ∈ profile.userList kind, kind.stored s objectId
  numRef : ∀ profileId profile, s.bufferProfileTree.get profileId = some profile →
    profile.numRef = profile.portList.length + profile.queueList.length + profile.pgList.length

theorem BufferUser.stored_of_named {kind : BufferUser} {objectId profileId : ObjectId}
    (named : bufferProfileOf s kind objectId = some profileId) : kind.stored s objectId := by
  have absent : ∀ {V : Type} {tree : KeyTree ObjectId V} {name : V → Option ObjectId},
      (tree.get objectId).bind name = some profileId → tree.get objectId ≠ none := by
    intro V tree name found none
    rw [none] at found
    cases found
  cases kind with
  | port => exact absent named
  | queue => exact absent named
  | priorityGroup => exact absent named

theorem BufferAttached.exact (attached : BufferAttached s) : BufferReferencesExact s := by
  have listed : ∀ {kind profileId profile}, s.bufferProfileTree.get profileId = some profile →
      Attached.ofTree s.bufferProfileTree (BufferProfile.userList kind) profileId =
        some (profile.userList kind) := by
    intro kind profileId profile stored
    unfold Attached.ofTree
    rw [stored, Option.map_some]
  constructor
  · intro profileId profile stored kind objectId
    exact (attached.lists kind).once profileId _ (listed stored) objectId
  · intro kind objectId profileId named
    cases stored : s.bufferProfileTree.get profileId with
    | none =>
      refine absurd ?_ ((attached.lists kind).held objectId profileId named)
      unfold Attached.ofTree
      rw [stored]
      rfl
    | some profile => exact ⟨profile, rfl, (attached.lists kind).mem_of_named (listed stored) named⟩
  · intro profileId profile stored kind objectId member
    exact BufferUser.stored_of_named ((attached.lists kind).named_of_mem (listed stored) member)
  · exact attached.numRef

/-- In every run in which a queue goes only without a buffer profile, the
references are exact in every state, and a profile that has been removed is
named by nobody. -/
theorem bufferReferences_exact {s : QosState}
    (reach : Runs.Reach BufferFresh (Runs.guarded BufferUserCall.releases BufferUserCall.step) s) :
    BufferReferencesExact s ∧ ∀ profileId npu t, qosRemoveBufferProfile s profileId npu = (t, .success) →
      t.bufferProfileTree.get profileId = none ∧
      ∀ kind objectId, bufferProfileOf t kind objectId ≠ some profileId := by
  have attached : BufferAttached s := by
    refine reach.invariant BufferAttached (fun s fresh => fresh.attached) ?_
    rintro s call t attached ⟨releases, rfl⟩
    exact attached.run call releases
  refine ⟨attached.exact, fun profileId npu t removed => ?_⟩
  have left := attached.profileRemove profileId npu
  rw [removed] at left
  have gone : t.bufferProfileTree.get profileId = none := by
    rcases qosRemoveBufferProfile_cases s profileId npu with ⟨error, failed, same⟩ | ⟨_, _, _, done⟩
    · rw [removed] at same
      cases same
      exact absurd rfl failed
    · rw [removed] at done
      cases done
      exact get_del_self _ _
  refine ⟨gone, fun kind objectId named => ?_⟩
  obtain ⟨profile, stored, _⟩ := left.exact.named kind objectId profileId named
  rw [gone] at stored
  cases stored

def bufferUserSample : QosState where
  portTree :=
    (∅ : KeyTree ObjectId QosPort).put ⟨.port, 1⟩ ⟨nullObjectId, nullObjectId, [⟨.queue, 1⟩], []⟩
  queueTree := (∅ : KeyTree ObjectId Queue).put ⟨.queue, 1⟩ (qosQueueNodeInit ⟨.port, 1⟩ .unicast)
  pgTree := ∅
  schedGroupTree := ∅
  schedulerTree := ∅
  bufferPoolTree := ∅
  bufferProfileTree := ∅
  defaultSchedId := nullObjectId

theorem bufferUserSample_fresh : BufferFresh bufferUserSample := by
  refine ⟨rfl, rfl, ?_, ?_, ?_⟩
  · intro id node stored
    simp only [bufferUserSample, get_put, get_empty] at stored
    split at stored
    · cases Option.some.inj stored
      rfl
    · cases stored
  · intro id node stored
    simp only [bufferUserSample, get_put, get_empty] at stored
    split at stored
    · cases Option.some.inj stored
      rfl
    · cases stored
  · intro id node stored
    cases stored

/-- A profile of an egress pool is applied to the queue, then `profileId` is,
and the queue is removed. -/
def bufferUserSampleRun (profileId : ObjectId) : List BufferUserCall :=
  [.buffer (.poolCreate [.type .egress, .size 100, .thMode .static] ⟨.success, true, .success, 1, true⟩),
    .buffer (.profileCreate [.poolId ⟨.bufferPool, 1⟩, .bufferSize 10, .sharedStaticTh 0]
      ⟨.success, true, .success, 1, true⟩),
    .buffer (.profileApply ⟨.queue, 1⟩ ⟨.bufferProfile, 1⟩ ⟨.success, .success, .success⟩),
    .buffer (.profileApply ⟨.queue, 1⟩ profileId ⟨.success, .success, .success⟩),
    .queueRemove ⟨.queue, 1⟩ .success]

theorem bufferReferences_exact_sample : BufferReferencesExact
    ((bufferUserSampleRun nullObjectId).foldl BufferUserCall.step bufferUserSample) := by
  refine (bufferReferences_exact (Runs.Reach.run (.start bufferUserSample_fresh) ?_)).1
  refine ⟨trivial, trivial, trivial, trivial, ?_, trivial⟩
  intro node _ stored _ _
  have unnamed : ∃ found, (((bufferUserSampleRun nullObjectId).take 4).foldl BufferUserCall.step
      bufferUserSample).queueTree.get ⟨.queue, 1⟩ = some found ∧ found.bufferProfileId = nullObjectId :=
    ⟨_, rfl, by decide⟩
  obtain ⟨found, there, null⟩ := unnamed
  cases Option.some.inj (there.symm.trans stored)
  exact null

/-- A queue that is removed while it names a profile stays in the profile's
list and count. -/
theorem bufferReferences_not_exact : ¬ ∀ s, Runs.Reach BufferFresh
    (Runs.guarded (fun _ _ => True) BufferUserCall.step) s → BufferReferencesExact s := by
  intro all
  have references := all _ (Runs.Reach.run (.start bufferUserSample_fresh)
    (Runs.allowedRun_of_forall (fun _ _ => trivial) _ (bufferUserSampleRun ⟨.bufferProfile, 1⟩)))
  have broken : ∃ profile, ((bufferUserSampleRun ⟨.bufferProfile, 1⟩).foldl
      BufferUserCall.step bufferUserSample).bufferProfileTree.get ⟨.bufferProfile, 1⟩ = some profile ∧
      (⟨.queue, 1⟩ : ObjectId) ∈ profile.queueList ∧ ((bufferUserSampleRun ⟨.bufferProfile, 1⟩).foldl
      BufferUserCall.step bufferUserSample).queueTree.get ⟨.queue, 1⟩ = none := ⟨_, rfl, by decide, by decide⟩
  obtain ⟨profile, stored, member, freed⟩ := broken
  exact references.live _ profile stored .queue _ member freed

end SaiCommon
