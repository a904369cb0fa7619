import SaiCommon.Qos.SchedulerAttachment
import SaiCommon.Qos.SchedulerReapply

namespace SaiCommon

open KeyTree

variable {k o' schedId sgId : ObjectId} {users : ObjectId → SaiStatus} {ok : QosState → SchedulerCall → Prop}
  {vendor : SaiStatus} {attr : SchedGroupAttr} {call : SchedulerCall} {other : SchedulerUser} {v w : SchedulerWorld}
  {sched : Scheduler}

/-- The scheduler and the parameters that the NPU last applied to an object.
An object given the NULL scheduler is back on defaults. -/
abbrev SchedulerGiven : Type := SchedulerUser → ObjectId → Option (ObjectId × SchedulerParams)

def SchedulerGiven.put (given : SchedulerGiven) (user : SchedulerUser) (objectId : ObjectId)
    (value : Option (ObjectId × SchedulerParams)) : SchedulerGiven :=
  fun other o => if other = user ∧ o = objectId then value else given other o

section
variable (s : QosState) (given : SchedulerGiven)

def userSchedulerGiven (user : SchedulerUser) (objectId schedId : ObjectId) (npu : SaiStatus) : SchedulerGiven :=
  if npu = .success ∧ (schedId = nullObjectId ∨ s.schedulerTree.get schedId ≠ none) then
    given.put user objectId ((s.schedulerTree.get schedId).map fun sched => (schedId, sched.params))
  else given

/-- A hardware object changes for all that use it; otherwise each listed object
is set by a call. -/
def attributeSetGiven (schedId : ObjectId) (attr : SchedulerAttr) (env : SchedulerSetEnv) : SchedulerGiven :=
  if schedId.objType ≠ .scheduler then given
  else match s.schedulerTree.get schedId with
    | none => given
    | some sched =>
      if env.vendor = .success ∧ qosSchedulerIsDuplicateSet sched.params attr = false ∧ env.npu = .success then
        let newParams := qosSchedulerAttrSet sched.params [attr]
        if env.isHwObject then fun user o =>
          (given user o).map fun (held : ObjectId × SchedulerParams) =>
            if held.1 = schedId then (schedId, newParams) else held
        else fun user o =>
          if o ∈ sched.userList user then
            (schedulerHeld (schedulerReapplySets (fun _ => env.users) ⟨schedId, sched.params, true⟩
              ⟨schedId, newParams, false⟩ sched.userList []).1 o).or (given user o)
          else given user o
      else given

def portSetGiven (portId schedId : ObjectId) (npu : SaiStatus) : SchedulerGiven :=
  match s.portTree.get portId with
  | none => given
  | some node =>
    if node.schedulerId = schedId then given else userSchedulerGiven s given .port portId schedId npu

def queueSetGiven (queueId schedId : ObjectId) (vendor npu : SaiStatus) : SchedulerGiven :=
  if queueId.objType ≠ .queue then given
  else match s.queueTree.get queueId with
    | none => given
    | some node =>
      if vendor ≠ .success ∨ node.schedulerId = schedId then given
      else userSchedulerGiven s given .queue queueId schedId npu

def groupAttrSetGiven (sgId : ObjectId) (attr : SchedGroupAttr) (vendor npu : SaiStatus) : SchedulerGiven :=
  if sgId.objType ≠ .schedulerGroup then given
  else match s.schedGroupTree.get sgId, attr with
    | some node, .schedulerProfileId oid =>
      if vendor ≠ .success ∨ node.schedulerId = oid then given
      else userSchedulerGiven s given .schedGroup sgId oid npu
    | _, _ => given

end

def setDefaultGivenLoop (npu : ObjectId → SaiStatus) :
    List ObjectId → QosState → SchedulerGiven → SchedulerGiven
  | [], _, given => given
  | childId :: rest, s, given =>
    match childId.objType with
    | .schedulerGroup =>
      match s.schedGroupTree.get childId with
      | none => given
      | some node =>
        let later := userSchedulerGiven s given .schedGroup childId s.defaultSchedId (npu childId)
        match qosSchedGroupSchedulerSet s childId node s.defaultSchedId (npu childId) with
        | (t, .success) =>
          setDefaultGivenLoop npu rest
            { t with schedGroupTree := t.schedGroupTree.modify childId fun g =>
                { g with schedulerId := t.defaultSchedId } } later
        | _ => later
    | .queue =>
      match s.queueTree.get childId with
      | none => given
      | some node =>
        let later := userSchedulerGiven s given .queue childId s.defaultSchedId (npu childId)
        match qosQueueSchedulerSet s childId node s.defaultSchedId (npu childId) with
        | (t, .success) =>
          setDefaultGivenLoop npu rest
            { t with queueTree := t.queueTree.modify childId fun q =>
                { q with schedulerId := t.defaultSchedId } } later
        | _ => later
    | _ => given

/-- What a call leaves applied. An object that is gone holds nothing. -/
def SchedulerCall.given (s : QosState) (given : SchedulerGiven) : SchedulerCall → SchedulerGiven
  | .attributeSet schedId attr env => attributeSetGiven s given schedId attr env
  | .portSet portId schedId npu => portSetGiven s given portId schedId npu
  | .queueSet queueId schedId vendor npu => queueSetGiven s given queueId schedId vendor npu
  | .groupAttrSet sgId attr vendor npu => groupAttrSetGiven s given sgId attr vendor npu
  | .setDefault childList npu =>
    if s.defaultSchedId = nullObjectId then given else setDefaultGivenLoop npu childList s given
  | .queueRemove queueId npu =>
    if (qosQueueRemove s queueId npu).2 = .success then given.put .queue queueId none else given
  | .groupRemove sgId npu =>
    if (qosSchedGroupRemove s sgId npu).2 = .success then given.put .schedGroup sgId none else given
  | _ => given

structure SchedulerWorld where
  db : QosState
  given : SchedulerGiven

/-- An object is attached to the scheduler that it names and that lists it. -/
def SchedulerAttachedTo (s : QosState) (user : SchedulerUser) (objectId schedId : ObjectId) : Prop :=
  qosSchedulerIdGet s user objectId = some schedId ∧
    ∃ sched, s.schedulerTree.get schedId = some sched ∧ objectId ∈ sched.userList user

/-- The cached parameters of every scheduler are what its objects were given. -/
structure SchedulerInSync (w : SchedulerWorld) : Prop where
  schedKey : w.db.schedulerTree.get nullObjectId = none
  sync : ∀ k sched, w.db.schedulerTree.get k = some sched → ∀ user, ∀ o ∈ sched.userList user,
    qosSchedulerIdGet w.db user o = some k → w.given user o = some (k, sched.params)

theorem SchedulerInSync.of_kept (sync : SchedulerInSync w) (schedKey : v.db.schedulerTree.get nullObjectId = none)
    (kept : ∀ k sched, v.db.schedulerTree.get k = some sched → ∀ user, ∀ o ∈ sched.userList user,
      qosSchedulerIdGet v.db user o = some k → v.given user o = some (k, sched.params) ∨
        v.given user o = w.given user o ∧ qosSchedulerIdGet w.db user o = some k ∧
          ∃ old, w.db.schedulerTree.get k = some old ∧ old.params = sched.params ∧ o ∈ old.userList user) :
    SchedulerInSync v := by
  refine ⟨schedKey, fun k sched stored user o listed names => ?_⟩
  rcases kept k sched stored user o listed names with given | ⟨same, named, old, before, params, member⟩
  · exact given
  · rw [same, ← params]
    exact sync.sync k old before user o member named

theorem SchedulerInSync.objects (sync : SchedulerInSync w) (tree : v.db.schedulerTree = w.db.schedulerTree)
    (ids : ∀ user o k, k ≠ nullObjectId → qosSchedulerIdGet v.db user o = some k →
      qosSchedulerIdGet w.db user o = some k ∧ v.given user o = w.given user o ∨
      ∀ sched, w.db.schedulerTree.get k = some sched → o ∉ sched.userList user) : SchedulerInSync v := by
  have key := sync.schedKey
  rw [← tree] at key
  refine sync.of_kept key fun k sched stored user o listed names => ?_
  have nonnull : k ≠ nullObjectId := by
    rintro rfl
    rw [key] at stored
    cases stored
  rw [tree] at stored
  rcases ids user o k nonnull names with ⟨named, same⟩ | unlisted
  · exact .inr ⟨same, named, sched, stored, rfl, listed⟩
  · exact absurd listed (unlisted sched stored)

theorem schedulerTree_modify {tree : KeyTree ObjectId Scheduler} {id : ObjectId} {f : Scheduler → Scheduler}
    (got : (tree.modify id f).get k = some sched) :
    ∃ old, tree.get k = some old ∧ (sched = old ∨ k = id ∧ sched = f old) := by
  rw [get_modify] at got
  split at got
  · rename_i here
    obtain ⟨old, stored, rfl⟩ := Option.map_eq_some_iff.mp got
    exact ⟨old, stored, .inr ⟨here, rfl⟩⟩
  · exact ⟨sched, got, .inl rfl⟩

theorem Scheduler.unlink_params (sched : Scheduler) (user : SchedulerUser) (o : ObjectId) :
    (sched.unlink user o).params = sched.params := by
  cases user <;> rfl

theorem Scheduler.link_params (sched : Scheduler) (user : SchedulerUser) (o : ObjectId) :
    (sched.link user o).params = sched.params := by
  cases user <;> rfl

theorem Scheduler.mem_unlink {user : SchedulerUser} {o : ObjectId}
    (listed : o' ∈ (sched.unlink user o).userList other) : o' ∈ sched.userList other := by
  rw [sched.userList_unlink] at listed
  split at listed
  · exact List.mem_of_mem_erase listed
  · exact listed

theorem Scheduler.mem_link {user : SchedulerUser} {o : ObjectId}
    (listed : o' ∈ (sched.link user o).userList other) : o' ∈ sched.userList other ∨ other = user ∧ o' = o := by
  rw [sched.userList_link] at listed
  split at listed
  · rename_i isUser
    rcases List.mem_append.mp listed with old | new
    · exact .inl old
    · exact .inr ⟨isUser, List.mem_singleton.mp new⟩
  · exact .inl listed

section Move
variable {s t : QosState} {user : SchedulerUser} {o prev new : ObjectId} {npu status : SaiStatus}

/-- The lists after an update: what they held, less at most the object, and the
object on its new list. -/
theorem qosSchedulerListUpdate_lists (run : qosSchedulerListUpdate user s o prev new = (t, status))
    (named : new ≠ nullObjectId → s.schedulerTree.get new ≠ none) :
    t = s ∧ status ≠ .success ∧ prev ≠ nullObjectId ∧ s.schedulerTree.get prev = none ∨
    status = .success ∧ t = { s with schedulerTree := t.schedulerTree } ∧
      (s.schedulerTree.get nullObjectId = none → t.schedulerTree.get nullObjectId = none) ∧
      ∀ k sched, t.schedulerTree.get k = some sched → ∃ old, s.schedulerTree.get k = some old ∧
        old.params = sched.params ∧ ∀ other o', o' ∈ sched.userList other →
          o' ∈ old.userList other ∨ k = new ∧ other = user ∧ o' = o := by
  unfold qosSchedulerListUpdate at run
  split at run
  · rename_i missing
    cases run
    exact .inl ⟨rfl, SaiStatus.noConfusion, missing⟩
  dsimp only at run
  generalize released : (if prev ≠ nullObjectId
    then { s with schedulerTree := s.schedulerTree.modify prev fun p => p.unlink user o } else s) = r at run
  have same : r = { s with schedulerTree := r.schedulerTree } := by
    rw [← released]
    split <;> rfl
  have stored : ∀ k, r.schedulerTree.get k = none ↔ s.schedulerTree.get k = none := by
    intro k
    rw [← released]
    split
    · exact get_modify_eq_none
    · exact Iff.rfl
  have kept : ∀ k sched, r.schedulerTree.get k = some sched → ∃ old, s.schedulerTree.get k = some old ∧
      old.params = sched.params ∧ ∀ other o', o' ∈ sched.userList other → o' ∈ old.userList other := by
    intro k sched got
    rw [← released] at got
    split at got
    · obtain ⟨old, before, rfl | ⟨_, rfl⟩⟩ := schedulerTree_modify got
      · exact ⟨sched, before, rfl, fun _ _ listed => listed⟩
      · exact ⟨old, before, (old.unlink_params user o).symm, fun _ _ listed => Scheduler.mem_unlink listed⟩
    · exact ⟨sched, got, rfl, fun _ _ listed => listed⟩
  split at run
  · rename_i missing
    exact absurd ((stored new).mp missing.2) (named missing.1)
  split at run
  · cases run
    refine .inr ⟨rfl, ?_, fun key => get_modify_eq_none.mpr ((stored _).mpr key), ?_⟩
    · rw [same]
    · intro k sched got
      obtain ⟨mid, between, rfl | ⟨here, rfl⟩⟩ := schedulerTree_modify got
      · obtain ⟨old, before, params, lists⟩ := kept k sched between
        exact ⟨old, before, params, fun other o' listed => .inl (lists other o' listed)⟩
      obtain ⟨old, before, params, lists⟩ := kept k mid between
      refine ⟨old, before, params.trans (mid.link_params user o).symm, fun other o' listed => ?_⟩
      rcases Scheduler.mem_link listed with listed | isIt
      · exact .inl (lists other o' listed)
      · exact .inr ⟨here, isIt⟩
  · cases run
    refine .inr ⟨rfl, same, (stored _).mpr, fun k sched got => ?_⟩
    obtain ⟨old, before, params, lists⟩ := kept k sched got
    exact ⟨old, before, params, fun other o' listed => .inl (lists other o' listed)⟩

/-- A scheduler set is refused with nothing changed, or fails after the NPU took
it because the previous scheduler is gone, or the lists follow. -/
theorem qosUserSchedulerSet_given
    (run : qosUserSchedulerSet (qosSchedulerListUpdate user) s o prev new npu = (t, status))
    (given : SchedulerGiven) : t = s ∧ status ≠ .success ∧ userSchedulerGiven s given user o new npu = given ∨
    t = s ∧ status ≠ .success ∧ prev ≠ nullObjectId ∧ s.schedulerTree.get prev = none ∨
    status = .success ∧ t = { s with schedulerTree := t.schedulerTree } ∧
      userSchedulerGiven s given user o new npu = given.put user o
        ((s.schedulerTree.get new).map fun sched => (new, sched.params)) ∧
      (s.schedulerTree.get nullObjectId = none → t.schedulerTree.get nullObjectId = none) ∧
      ∀ k sched, t.schedulerTree.get k = some sched → ∃ old, s.schedulerTree.get k = some old ∧
        old.params = sched.params ∧ ∀ other o', o' ∈ sched.userList other →
          o' ∈ old.userList other ∨ k = new ∧ other = user ∧ o' = o := by
  unfold qosUserSchedulerSet at run
  unfold userSchedulerGiven
  split at run
  · rename_i missing
    cases run
    refine .inl ⟨rfl, SaiStatus.noConfusion, if_neg ?_⟩
    rintro ⟨_, null | stored⟩
    · exact missing.1 null
    · exact stored missing.2
  · rename_i known
    have named : new ≠ nullObjectId → s.schedulerTree.get new ≠ none :=
      fun nonnull absent => known ⟨nonnull, absent⟩
    split at run
    · rcases qosSchedulerListUpdate_lists run named with ⟨same, failed, gone⟩ | ⟨done, same, key, lists⟩
      · exact .inr (.inl ⟨same, failed, gone⟩)
      refine .inr (.inr ⟨done, same, if_pos ⟨rfl, ?_⟩, key, lists⟩)
      by_cases null : new = nullObjectId
      · exact .inl null
      · exact .inr (named null)
    · rename_i error
      cases run
      exact .inl ⟨rfl, error, if_neg fun both => error both.1⟩

theorem SchedulerGiven.put_self (given : SchedulerGiven) (user : SchedulerUser) (objectId : ObjectId)
    (value : Option (ObjectId × SchedulerParams)) : given.put user objectId value user objectId = value :=
  if_pos ⟨rfl, rfl⟩

theorem SchedulerGiven.put_other {user : SchedulerUser} {objectId : ObjectId}
    (apart : ¬ (other = user ∧ o' = objectId)) (given : SchedulerGiven)
    (value : Option (ObjectId × SchedulerParams)) : given.put user objectId value other o' = given other o' :=
  if_neg apart

/-- A set keeps the schedulers in sync: the object that moves was given the
parameters of the scheduler that it names afterwards. -/
theorem SchedulerInSync.move (sync : SchedulerInSync w) (found : qosSchedulerIdGet w.db user o = some prev)
    (run : qosUserSchedulerSet (qosSchedulerListUpdate user) w.db o prev new npu = (t, status))
    (given : v.given = userSchedulerGiven w.db w.given user o new npu) (tree : v.db.schedulerTree = t.schedulerTree)
    (ids : ∀ other o', qosSchedulerIdGet v.db other o' =
      if status = .success ∧ other = user ∧ o' = o then some new else qosSchedulerIdGet w.db other o') :
    SchedulerInSync v := by
  rcases qosUserSchedulerSet_given run w.given with
    ⟨same, failed, kept⟩ | ⟨same, failed, nonnull, gone⟩ | ⟨done, _, taken, key, lists⟩
  · refine sync.objects (by rw [tree, same]) fun other o' k _ names => .inl ⟨?_, by rw [given, kept]⟩
    rw [ids, if_neg fun both => failed both.1] at names
    exact names
  · refine sync.objects (by rw [tree, same]) fun other o' k _ names => ?_
    rw [ids, if_neg fun both => failed both.1] at names
    by_cases isIt : other = user ∧ o' = o
    · obtain ⟨rfl, rfl⟩ := isIt
      cases found.symm.trans names
      refine .inr fun sched stored => ?_
      rw [gone] at stored
      cases stored
    · refine .inl ⟨names, ?_⟩
      rw [given]
      unfold userSchedulerGiven
      split
      · exact SchedulerGiven.put_other isIt _ _
      · rfl
  · refine sync.of_kept (by rw [tree]; exact key sync.schedKey) fun k sched stored other o' listed names => ?_
    rw [tree] at stored
    rw [ids] at names
    rw [given, taken]
    obtain ⟨old, before, params, members⟩ := lists k sched stored
    by_cases isIt : other = user ∧ o' = o
    · rw [if_pos ⟨done, isIt⟩] at names
      cases names
      obtain ⟨rfl, rfl⟩ := isIt
      refine .inl ?_
      rw [SchedulerGiven.put_self, before, Option.map_some, params]
    · rw [if_neg fun both => isIt both.2] at names
      refine .inr ⟨SchedulerGiven.put_other isIt _ _, names, old, before, params, ?_⟩
      rcases members other o' listed with member | ⟨_, isMoved⟩
      · exact member
      · exact absurd isMoved isIt

theorem SchedulerInSync.moveFailed (sync : SchedulerInSync w) (found : qosSchedulerIdGet w.db user o = some prev)
    (run : qosUserSchedulerSet (qosSchedulerListUpdate user) w.db o prev new npu = (t, status))
    (failed : status ≠ .success) : SchedulerInSync ⟨t, userSchedulerGiven w.db w.given user o new npu⟩ := by
  have kept := qosUserSchedulerSet_frame run
  refine sync.move found run rfl rfl fun other o' => ?_
  rw [if_neg fun both => failed both.1]
  dsimp only
  rw [kept]
  cases other <;> rfl

theorem SchedulerInSync.moved {after : QosState} (sync : SchedulerInSync w)
    (found : qosSchedulerIdGet w.db user o = some prev)
    (run : qosUserSchedulerSet (qosSchedulerListUpdate user) w.db o prev new npu = (t, .success))
    (tree : after.schedulerTree = t.schedulerTree) (ids : ∀ other o', qosSchedulerIdGet after other o' =
      if other = user ∧ o' = o then some new
      else qosSchedulerIdGet { w.db with schedulerTree := t.schedulerTree } other o') :
    SchedulerInSync ⟨after, userSchedulerGiven w.db w.given user o new npu⟩ := by
  refine sync.move found run rfl tree fun other o' => ?_
  dsimp only
  rw [ids]
  simp only [true_and]
  split
  · rfl
  · cases other <;> rfl

end Move

section
variable (sync : SchedulerInSync w)
include sync

theorem SchedulerInSync.schedCreate (defaults : SchedulerDefaults) (attrs : List SchedulerAttr) (env : CreateEnv) :
    SchedulerInSync ⟨(qosSchedulerCreate w.db defaults attrs env).1, w.given⟩ := by
  unfold qosSchedulerCreate
  split
  · split
    · exact sync
    dsimp only
    split
    · unfold qosSchedulerNodeInsertToTree
      split
      · have fresh : (⟨.scheduler, env.npuObjectId⟩ : ObjectId) ≠ nullObjectId :=
          ne_nullObjectId ObjectType.noConfusion
        refine sync.of_kept ?_ fun k sched stored user o listed names => ?_
        · rw [get_put_ne fresh.symm]
          exact sync.schedKey
        · rw [get_put] at stored
          split at stored
          · cases stored
            have nobody : ∀ user, (qosSchedulerNodeInit defaults).userList user = [] := by
              intro user
              cases user <;> rfl
            have listed' : o ∈ (qosSchedulerNodeInit defaults).userList user := by
              cases user <;> exact listed
            rw [nobody] at listed'
            exact absurd listed' List.not_mem_nil
          · have named : qosSchedulerIdGet w.db user o = some k := by
              cases user <;> exact names
            exact .inr ⟨rfl, named, sched, stored, rfl, listed⟩
      · exact sync
    · exact sync
  · exact sync

theorem SchedulerInSync.schedRemove (schedId : ObjectId)
    (npu : SaiStatus) : SchedulerInSync ⟨(qosSchedulerRemove w.db schedId npu).1, w.given⟩ := by
  unfold qosSchedulerRemove
  split
  · exact sync
  split
  · exact sync
  split
  · exact sync
  split
  · refine sync.of_kept ?_ fun k sched stored user o listed names => ?_
    · exact get_del_none sync.schedKey
    · replace stored := get_of_del stored
      have named : qosSchedulerIdGet w.db user o = some k := by
        cases user <;> exact names
      exact .inr ⟨rfl, named, sched, stored, rfl, listed⟩
  · exact sync

theorem SchedulerInSync.default (schedId : ObjectId) :
    SchedulerInSync ⟨{ w.db with defaultSchedId := schedId }, w.given⟩ := by
  refine sync.objects rfl fun user o k _ names => .inl ⟨?_, rfl⟩
  cases user <;> exact names

theorem SchedulerInSync.createDefault (defaults : SchedulerDefaults) (env : CreateEnv) :
    SchedulerInSync ⟨(qosCreateDefaultScheduler w.db defaults env).1, w.given⟩ := by
  have created := sync.schedCreate defaults [.schedulingAlgorithm .wrr, .schedulingWeight 1] env
  unfold qosCreateDefaultScheduler
  split
  · rename_i t done
    rw [done] at created
    exact created.default _
  · rename_i t _ _ failed
    rw [failed] at created
    exact created

theorem SchedulerInSync.removeDefault (npu : SaiStatus) :
    SchedulerInSync ⟨(qosRemoveDefaultScheduler w.db npu).1, w.given⟩ := by
  have removed := sync.schedRemove w.db.defaultSchedId npu
  unfold qosRemoveDefaultScheduler
  split
  · split
    · rename_i t done
      rw [done] at removed
      exact removed.default _
    · rename_i t _ _ failed
      rw [failed] at removed
      exact removed
  · exact sync

end

theorem qosSchedulerListReapply_success {objects : List ObjectId}
    (all : ∀ o ∈ objects, users o = .success) : qosSchedulerListReapply users objects = .success := by
  induction objects with
  | nil => rfl
  | cons o rest ih =>
    rw [qosSchedulerListReapply, all o List.mem_cons_self]
    exact ih fun o' listed => all o' (List.mem_cons_of_mem _ listed)

theorem qosSchedulerReapply_success
    (all : ∀ user, ∀ o ∈ sched.userList user, users o = .success) :
    qosSchedulerReapply sched users = .success := by
  have queues : qosSchedulerListReapply users sched.queueList = .success :=
    qosSchedulerListReapply_success (all .queue)
  have groups : qosSchedulerListReapply users sched.schedGroupList = .success :=
    qosSchedulerListReapply_success (all .schedGroup)
  unfold qosSchedulerReapply
  rw [queues, groups]
  exact qosSchedulerListReapply_success (all .port)

section
variable {npu : Nat → ObjectId → SaiStatus} {old new : SchedulerNode}

theorem schedulerHeld_alike {log : List SchedulerSet} {params : SchedulerParams}
    (alike : ∀ call ∈ log, call.newNode.schedulerId = k ∧ call.newNode.params = params) (o : ObjectId) :
    schedulerHeld log o = none ∨ schedulerHeld log o = some (k, params) := by
  unfold schedulerHeld
  cases found : log.reverse.find? fun call => decide (call.objectId = o ∧ call.status = .success) with
  | none => exact .inl rfl
  | some call =>
    obtain ⟨sameId, sameParams⟩ := alike call (List.mem_reverse.mp (List.mem_of_find?_eq_some found))
    refine .inr ?_
    rw [Option.map_some, sameId, sameParams]

theorem schedulerSetAll_newNode (objects : List ObjectId) : ∀ log,
    ∀ call ∈ (schedulerSetAll npu old new objects log).1, call ∈ log ∨ call.newNode = new := by
  induction objects with
  | nil => exact fun log call member => .inl member
  | cons o rest ih =>
    intro log call member
    have last : ∀ status, call ∈ log ++ [(⟨o, old, new, status⟩ : SchedulerSet)] →
        call ∈ log ∨ call.newNode = new := by
      intro status among
      rcases List.mem_append.mp among with before | here
      · exact .inl before
      · exact .inr (by rw [List.mem_singleton.mp here])
    by_cases passed : npu log.length o = .success
    · rw [schedulerSetAll_passed passed] at member
      rcases ih _ call member with among | isNew
      · exact last _ among
      · exact .inr isNew
    · rw [schedulerSetAll_failed passed] at member
      exact last _ member

theorem schedulerReapplySets_newNode (lists : SchedulerUser → List ObjectId) :
    ∀ call ∈ (schedulerReapplySets npu old new lists []).1, call.newNode = new ∨ call.newNode = old := by
  intro call member
  unfold schedulerReapplySets at member
  dsimp only at member
  have first : call ∈ (schedulerSetAll npu old new
      (lists .queue ++ lists .schedGroup ++ lists .port) []).1 → call.newNode = new ∨ call.newNode = old := by
    intro among
    rcases schedulerSetAll_newNode _ _ call among with before | isNew
    · exact absurd before List.not_mem_nil
    · exact .inl isNew
  split at member
  · exact first member
  rcases schedulerSetAll_newNode _ _ call member with groups | isOld
  · rcases schedulerSetAll_newNode _ _ call groups with queues | isOld
    · rcases schedulerSetAll_newNode _ _ call queues with among | isOld
      · exact first among
      · exact .inr isOld
    · exact .inr isOld
  · exact .inr isOld

end

/-- What a reapply gives a listed object: the new parameters where all take
them, and nothing else where old and new are the same. -/
theorem schedulerReapplySets_given {newParams : SchedulerParams}
    (taken : (∀ user, ∀ o ∈ sched.userList user, users o = .success) ∨ newParams = sched.params)
    {user : SchedulerUser} {o : ObjectId} (listed : o ∈ sched.userList user)
    {before : Option (ObjectId × SchedulerParams)} (synced : before = some (schedId, sched.params)) :
    (schedulerHeld (schedulerReapplySets (fun _ => users) ⟨schedId, sched.params, true⟩
      ⟨schedId, newParams, false⟩ sched.userList []).1 o).or before = some (schedId, newParams) := by
  rcases taken with all | same
  · have attached : o ∈ sched.userList .queue ++ sched.userList .schedGroup ++ sched.userList .port := by
      cases user with
      | queue => exact List.mem_append_left _ (List.mem_append_left _ listed)
      | schedGroup => exact List.mem_append_left _ (List.mem_append_right _ listed)
      | port => exact List.mem_append_right _ listed
    rcases schedulerReapplySets_cases ⟨schedId, sched.params, true⟩ ⟨schedId, newParams, false⟩
        (fun _ => users) sched.userList [] with ⟨_, _, held⟩ | ⟨failed, _⟩
    · rw [held o attached, Option.some_or]
    · rw [schedulerReapplySets_status] at failed
      exact absurd (qosSchedulerReapply_success all) failed
  · subst same
    have alike : ∀ call ∈ (schedulerReapplySets (fun _ => users) ⟨schedId, sched.params, true⟩
        ⟨schedId, sched.params, false⟩ sched.userList []).1,
        call.newNode.schedulerId = schedId ∧ call.newNode.params = sched.params := by
      intro call member
      rcases schedulerReapplySets_newNode sched.userList call member with isNew | isOld
      · rw [isNew]
        exact ⟨rfl, rfl⟩
      · rw [isOld]
        exact ⟨rfl, rfl⟩
    rcases schedulerHeld_alike alike o with none | held
    · rw [none, Option.none_or, synced]
    · rw [held, Option.some_or]

/-- The calls that leave the cache and the hardware alike. A reapply that changes
a parameter of attached objects is taken by every listed object, and none of
them is attached to another scheduler; a new group does not name a scheduler
that still lists its id; what is set on a group is taken, and its schedulers
exist. -/
def SchedulerCall.HardwareFollows (s : QosState) : SchedulerCall → Prop
  | .attributeSet schedId attr env => ∀ sched, schedId.objType = .scheduler →
    s.schedulerTree.get schedId = some sched → env.vendor = .success →
    qosSchedulerIsDuplicateSet sched.params attr = false → env.npu = .success → env.isHwObject = false →
    ((∀ user, ∀ o ∈ sched.userList user, env.users o = .success) ∨
      qosSchedulerAttrSet sched.params [attr] = sched.params ∨
      ∀ user o, ¬ SchedulerAttachedTo s user o schedId) ∧
    ∀ user, ∀ o ∈ sched.userList user, ∀ k, SchedulerAttachedTo s user o k → k = schedId
  | .groupCreate attrs env => ∀ sched,
    s.schedulerTree.get (qosSchedGroupAttrSet qosSchedGroupNodeInit attrs).schedulerId = some sched →
    (⟨.schedulerGroup, env.npuObjectId⟩ : ObjectId) ∉ sched.userList .schedGroup
  | .groupAttrSet sgId attr vendor npu => ∀ node, sgId.objType = .schedulerGroup →
    s.schedGroupTree.get sgId = some node → vendor = .success →
    qosSchedGroupIsDuplicateSet node attr = false →
    (npu = .success ∧ ∀ oid, attr = .schedulerProfileId oid →
      (oid ≠ nullObjectId → s.schedulerTree.get oid ≠ none) ∧
      (node.schedulerId ≠ nullObjectId → s.schedulerTree.get node.schedulerId ≠ none)) ∨
    qosSchedGroupAttrSet node [attr] = node
  | _ => True

theorem SchedulerInSync.attributeSet (sync : SchedulerInSync w) {attr : SchedulerAttr} {env : SchedulerSetEnv}
    (follows : (SchedulerCall.attributeSet schedId attr env).HardwareFollows w.db) :
    SchedulerInSync ⟨(qosSchedulerAttributeSet w.db schedId attr env).1,
      attributeSetGiven w.db w.given schedId attr env⟩ := by
  unfold qosSchedulerAttributeSet attributeSetGiven
  by_cases isScheduler : schedId.objType ≠ .scheduler
  · rw [if_pos isScheduler, if_pos isScheduler]
    exact sync
  rw [if_neg isScheduler, if_neg isScheduler]
  cases stored : w.db.schedulerTree.get schedId with
  | none => exact sync
  | some sched =>
    dsimp only
    by_cases reached : env.vendor = .success ∧ qosSchedulerIsDuplicateSet sched.params attr = false ∧
        env.npu = .success
    · rw [if_pos reached]
      obtain ⟨vendor, fresh, npu⟩ := reached
      rw [vendor, npu]
      dsimp only
      rw [if_neg (Bool.eq_false_iff.mp fresh)]
      have nonnull : nullObjectId ≠ schedId := by
        rintro rfl
        rw [sync.schedKey] at stored
        cases stored
      have key : (w.db.schedulerTree.put schedId
          { sched with params := qosSchedulerAttrSet sched.params [attr] }).get nullObjectId = none := by
        rw [get_put_ne nonnull]
        exact sync.schedKey
      refine sync.of_kept key fun k after found user o listed names => ?_
      have named : qosSchedulerIdGet w.db user o = some k := by
        cases user <;> exact names
      rw [get_put] at found
      split at found
      · rename_i here
        cases found
        subst here
        have member : o ∈ sched.userList user := by
          cases user <;> exact listed
        have synced := sync.sync k sched stored user o member named
        refine .inl ?_
        by_cases hw : env.isHwObject = true
        · dsimp only
          rw [if_pos hw]
          rw [synced, Option.map_some, if_pos rfl]
        dsimp only
        rw [if_neg hw]
        rw [if_pos member]
        rcases (follows sched (not_not.mp isScheduler) stored vendor fresh npu
          (Bool.eq_false_iff.mpr hw)).1 with all | same | nobody
        · exact schedulerReapplySets_given (.inl all) member synced
        · exact schedulerReapplySets_given (.inr same) member synced
        · exact absurd ⟨named, sched, stored, member⟩ (nobody user o)
      · rename_i other
        have synced := sync.sync k after found user o listed named
        refine .inr ⟨?_, named, after, found, rfl, listed⟩
        by_cases hw : env.isHwObject = true
        · dsimp only
          rw [if_pos hw]
          rw [synced, Option.map_some, if_neg other]
        · dsimp only
          rw [if_neg hw]
          refine if_neg fun member => other ?_
          exact (follows sched (not_not.mp isScheduler) stored vendor fresh npu
            (Bool.eq_false_iff.mpr hw)).2 user o member k ⟨named, after, found, listed⟩
    · rw [if_neg reached]
      split
      · split
        · exact sync
        split
        · rename_i vendor differs _ npu
          exact absurd ⟨vendor, Bool.eq_false_iff.mpr differs, npu⟩ reached
        · exact sync
      · exact sync

theorem SchedulerInSync.portSet (sync : SchedulerInSync w) (portId schedId : ObjectId) (npu : SaiStatus) :
    SchedulerInSync ⟨(qosPortSchedulerSet w.db portId schedId npu).1,
      portSetGiven w.db w.given portId schedId npu⟩ := by
  unfold qosPortSchedulerSet portSetGiven
  cases stored : w.db.portTree.get portId with
  | none => exact sync
  | some node =>
    have found : qosSchedulerIdGet w.db .port portId = some node.schedulerId := congrArg (Option.map _) stored
    dsimp only
    by_cases same : node.schedulerId = schedId
    · rw [if_pos same, if_pos same]
      exact sync
    rw [if_neg same, if_neg same]
    rcases run : qosUserSchedulerSet qosSchedulerPortListUpdate w.db portId node.schedulerId schedId npu with
      ⟨t, status⟩
    cases status with
    | success => exact sync.moved found run rfl (qosSchedulerIdSet_ids found (qosUserSchedulerSet_frame run))
    | _ => exact sync.moveFailed found run SaiStatus.noConfusion

theorem SchedulerInSync.queueSet (sync : SchedulerInSync w) (queueId schedId : ObjectId) (vendor npu : SaiStatus) :
    SchedulerInSync ⟨(qosQueueSchedulerProfileSet w.db queueId schedId vendor npu).1,
      queueSetGiven w.db w.given queueId schedId vendor npu⟩ := by
  unfold qosQueueSchedulerProfileSet queueSetGiven
  by_cases isQueue : queueId.objType ≠ .queue
  · rw [if_pos isQueue, if_pos isQueue]
    exact sync
  rw [if_neg isQueue, if_neg isQueue]
  cases stored : w.db.queueTree.get queueId with
  | none => exact sync
  | some node =>
    have found : qosSchedulerIdGet w.db .queue queueId = some node.schedulerId := congrArg (Option.map _) stored
    dsimp only
    by_cases refused : vendor ≠ .success ∨ node.schedulerId = schedId
    · rw [if_pos refused]
      split
      · rcases refused with error | same
        · exact absurd rfl error
        · rw [if_pos same]
          exact sync
      · exact sync
    · rw [if_neg refused]
      obtain ⟨accepted, same⟩ := not_or.mp refused
      rw [not_not.mp accepted]
      dsimp only
      rw [if_neg same]
      rcases run : qosQueueSchedulerSet w.db queueId node schedId npu with ⟨t, status⟩
      cases status with
      | success => exact sync.moved found run rfl (qosSchedulerIdSet_ids found (qosUserSchedulerSet_frame run))
      | _ => exact sync.moveFailed found run SaiStatus.noConfusion

theorem qosUserSchedulerSet_success {s t : QosState} {user : SchedulerUser} {o prev new : ObjectId}
    {status : SaiStatus} (named : new ≠ nullObjectId → s.schedulerTree.get new ≠ none)
    (stored : prev ≠ nullObjectId → s.schedulerTree.get prev ≠ none)
    (run : qosUserSchedulerSet (qosSchedulerListUpdate user) s o prev new .success = (t, status)) :
    status = .success := by
  unfold qosUserSchedulerSet at run
  rw [if_neg fun missing => named missing.1 missing.2] at run
  rcases qosSchedulerListUpdate_lists run named with ⟨_, _, nonnull, gone⟩ | ⟨done, _⟩
  · exact absurd gone (stored nonnull)
  · exact done

/-- A group attribute set that the hardware follows either leaves the node as it
was or succeeds. -/
theorem qosSchedGroupAttributeSet_error {s t : QosState} {npu status : SaiStatus} {node : SchedGroup}
    (follows : (SchedulerCall.groupAttrSet sgId attr vendor npu).HardwareFollows s)
    (run : qosSchedGroupAttributeSet s sgId attr vendor npu = (t, status)) (failed : status ≠ .success)
    (stored : s.schedGroupTree.get sgId = some node) : t.schedGroupTree.get sgId = some node := by
  unfold qosSchedGroupAttributeSet at run
  split at run
  · cases run
    exact stored
  rename_i isGroup
  rw [stored] at run
  dsimp only at run
  split at run
  · rename_i accepted
    have validated : vendor = .success := by
      unfold qosSchedGroupAttributesValidate at accepted
      split at accepted
      · cases accepted
      · exact accepted
    split at run
    · cases run
      exact stored
    rename_i differs
    rcases follows node (not_not.mp isGroup) stored validated (Bool.eq_false_iff.mpr differs) with
      ⟨npuPassed, known⟩ | same
    · subst npuPassed
      cases attr with
      | schedulerProfileId oid =>
        dsimp only at run
        generalize set : qosSchedGroupSchedulerSet s sgId node oid .success = result at run
        obtain ⟨u, answer⟩ := result
        have passed := qosUserSchedulerSet_success (known oid rfl).1 (known oid rfl).2 set
        cases run
        exact absurd passed failed
      | _ =>
        cases run
        exact absurd rfl failed
    · cases attr with
      | schedulerProfileId oid =>
        have sameId := congrArg SchedGroup.schedulerId same
        exact absurd (decide_eq_true sameId.symm) differs
      | _ =>
        cases run
        dsimp only
        rw [get_modify_self, stored, Option.map_some, same]
  · cases run
    exact stored

theorem SchedulerInSync.groupAttrSet (sync : SchedulerInSync w) {npu : SaiStatus}
    (follows : (SchedulerCall.groupAttrSet sgId attr vendor npu).HardwareFollows w.db) :
    SchedulerInSync ⟨(qosSchedGroupAttributeSet w.db sgId attr vendor npu).1,
      groupAttrSetGiven w.db w.given sgId attr vendor npu⟩ := by
  unfold qosSchedGroupAttributeSet groupAttrSetGiven
  by_cases isGroup : sgId.objType ≠ .schedulerGroup
  · rw [if_pos isGroup, if_pos isGroup]
    exact sync
  rw [if_neg isGroup, if_neg isGroup]
  cases stored : w.db.schedGroupTree.get sgId with
  | none => exact sync
  | some node =>
    have found : qosSchedulerIdGet w.db .schedGroup sgId = some node.schedulerId := congrArg (Option.map _) stored
    have validated : qosSchedGroupAttributesValidate [attr] vendor = vendor := rfl
    dsimp only
    rw [validated]
    by_cases accepted : vendor = .success
    · subst accepted
      dsimp only
      cases attr with
      | schedulerProfileId oid =>
        by_cases same : node.schedulerId = oid
        · have duplicate : qosSchedGroupIsDuplicateSet node (.schedulerProfileId oid) = true :=
            decide_eq_true same
          rw [if_pos duplicate]
          dsimp only
          rw [if_pos (.inr same)]
          exact sync
        · have differs : qosSchedGroupIsDuplicateSet node (.schedulerProfileId oid) = false :=
            decide_eq_false same
          rw [if_neg (Bool.eq_false_iff.mp differs)]
          dsimp only
          rw [if_neg fun either => either.elim (fun error => error rfl) same]
          rcases follows node (not_not.mp isGroup) stored rfl differs with ⟨npuPassed, known⟩ | unchanged
          · subst npuPassed
            rcases run : qosSchedGroupSchedulerSet w.db sgId node oid .success with ⟨t, status⟩
            have passed := qosUserSchedulerSet_success (known oid rfl).1 (known oid rfl).2 run
            subst passed
            exact sync.moved found run rfl (qosSchedulerIdSet_ids found (qosUserSchedulerSet_frame run))
          · exact absurd (congrArg SchedGroup.schedulerId unchanged).symm same
      | _ =>
        split
        · exact sync
        refine sync.objects rfl fun user o k _ names => .inl ⟨?_, rfl⟩
        cases user with
        | schedGroup =>
          simp only [qosSchedulerIdGet] at names
          rw [schedulerId_modify_keep SchedGroup.schedulerId] at names
          · exact names
          · exact fun _ => rfl
        | port => exact names
        | queue => exact names
    · split
      · exact absurd rfl accepted
      cases attr with
      | schedulerProfileId oid =>
        dsimp only
        rw [if_pos (.inl accepted)]
        exact sync
      | _ => exact sync

theorem SchedulerInSync.setDefaultLoop (npu : ObjectId → SaiStatus) (children : List ObjectId) :
    ∀ w : SchedulerWorld, SchedulerInSync w → SchedulerInSync ⟨(setDefaultSchedulerLoop npu children w.db).1,
        setDefaultGivenLoop npu children w.db w.given⟩ := by
  induction children with
  | nil => exact fun _ sync => sync
  | cons childId rest ih =>
    intro w sync
    unfold setDefaultSchedulerLoop setDefaultGivenLoop
    cases childId.objType with
    | schedulerGroup =>
      dsimp only
      cases stored : w.db.schedGroupTree.get childId with
      | none => exact sync
      | some node =>
        have found : qosSchedulerIdGet w.db .schedGroup childId = some node.schedulerId :=
          congrArg (Option.map _) stored
        dsimp only
        rcases run : qosSchedGroupSchedulerSet w.db childId node w.db.defaultSchedId (npu childId) with ⟨t, status⟩
        cases status with
        | success =>
          have kept := qosUserSchedulerSet_frame run
          have default : t.defaultSchedId = w.db.defaultSchedId := by rw [kept]
          have next : SchedulerInSync ⟨qosSchedulerIdSet t .schedGroup childId t.defaultSchedId,
              userSchedulerGiven w.db w.given .schedGroup childId w.db.defaultSchedId (npu childId)⟩ := by
            rw [default]
            exact sync.moved found run rfl (qosSchedulerIdSet_ids found kept)
          exact ih _ next
        | _ => exact sync.moveFailed found run SaiStatus.noConfusion
    | queue =>
      dsimp only
      cases stored : w.db.queueTree.get childId with
      | none => exact sync
      | some node =>
        have found : qosSchedulerIdGet w.db .queue childId = some node.schedulerId := congrArg (Option.map _) stored
        dsimp only
        rcases run : qosQueueSchedulerSet w.db childId node w.db.defaultSchedId (npu childId) with ⟨t, status⟩
        cases status with
        | success =>
          have kept := qosUserSchedulerSet_frame run
          have default : t.defaultSchedId = w.db.defaultSchedId := by rw [kept]
          have next : SchedulerInSync ⟨qosSchedulerIdSet t .queue childId t.defaultSchedId,
              userSchedulerGiven w.db w.given .queue childId w.db.defaultSchedId (npu childId)⟩ := by
            rw [default]
            exact sync.moved found run rfl (qosSchedulerIdSet_ids found kept)
          exact ih _ next
        | _ => exact sync.moveFailed found run SaiStatus.noConfusion
    | _ => exact sync

section
variable (sync : SchedulerInSync w)
include sync

theorem SchedulerInSync.queueCreate (portId : ObjectId) (queueType : QueueType) (env : CreateEnv) :
    SchedulerInSync ⟨(qosQueueCreate w.db portId queueType env).1, w.given⟩ := by
  rcases qosQueueCreate_cases w.db portId queueType env with ⟨_, _, same⟩ | ⟨t, updated, absent, created⟩
  · rwa [same]
  obtain ⟨tree, queues, ids⟩ := qosPortQueueListUpdate_keeps w.db ⟨.queue, env.npuObjectId⟩
    (qosQueueNodeInit portId queueType) true
  rw [updated] at tree queues ids
  rw [created]
  refine sync.objects tree fun user o k nonnull names => .inl ⟨?_, rfl⟩
  rw [← ids user o]
  cases user with
  | queue => exact (schedulerId_put_new Queue.schedulerId absent rfl nonnull).mp names
  | port => exact names
  | schedGroup => exact names

theorem SchedulerInSync.gone {t : QosState} {user : SchedulerUser} {o : ObjectId}
    (tree : t.schedulerTree = w.db.schedulerTree)
    (ids : ∀ other o', qosSchedulerIdGet t other o' =
      if other = user ∧ o' = o then none else qosSchedulerIdGet w.db other o') :
    SchedulerInSync ⟨t, w.given.put user o none⟩ := by
  refine sync.objects tree fun other o' k _ names => .inl ?_
  dsimp only at names
  rw [ids] at names
  split at names
  · cases names
  · rename_i apart
    exact ⟨names, SchedulerGiven.put_other apart _ _⟩

theorem SchedulerInSync.queueRemove (queueId : ObjectId) (npu : SaiStatus) :
    SchedulerInSync ⟨(qosQueueRemove w.db queueId npu).1,
      if (qosQueueRemove w.db queueId npu).2 = .success then w.given.put .queue queueId none else w.given⟩ := by
  rcases qosQueueRemove_cases w.db queueId npu with ⟨error, failed, same⟩ | ⟨node, _, _, _, _, removed⟩
  · rwa [same, if_neg failed]
  obtain ⟨tree, queues, ids⟩ := qosPortQueueListUpdate_keeps w.db queueId node false
  rw [removed]
  refine sync.gone tree fun other o' => ?_
  rw [← ids other o']
  cases other with
  | queue =>
    simp only [true_and, qosSchedulerIdGet, get_del]
    split
    · rfl
    · rfl
  | port => rfl
  | schedGroup => rfl

theorem SchedulerInSync.groupRemove (sgId : ObjectId) (npu : SaiStatus) :
    SchedulerInSync ⟨(qosSchedGroupRemove w.db sgId npu).1,
      if (qosSchedGroupRemove w.db sgId npu).2 = .success then w.given.put .schedGroup sgId none else w.given⟩ := by
  rcases qosSchedGroupRemove_cases w.db sgId npu with ⟨error, failed, same⟩ | ⟨node, _, _, _, removed⟩
  · rwa [same, if_neg failed]
  obtain ⟨tree, groups, ids⟩ := qosPortSchedGroupListUpdate_keeps w.db sgId node false
  rw [removed]
  refine sync.gone tree fun other o' => ?_
  rw [← ids other o']
  cases other with
  | schedGroup =>
    simp only [true_and, qosSchedulerIdGet, get_del]
    split
    · rfl
    · rfl
  | port => rfl
  | queue => rfl

theorem SchedulerInSync.groupCreate {attrs : List SchedGroupAttr}
    {env : SchedGroupCreateEnv} (follows : (SchedulerCall.groupCreate attrs env).HardwareFollows w.db) :
    SchedulerInSync ⟨(qosSchedGroupCreate w.db attrs env).1, w.given⟩ := by
  rcases qosSchedGroupCreate_cases w.db attrs env with ⟨_, _, same⟩ | ⟨t, _, updated, _, created⟩
  · rwa [same]
  obtain ⟨tree, groups, ids⟩ := qosPortSchedGroupListUpdate_keeps w.db
    ⟨.schedulerGroup, env.npuObjectId⟩ (qosSchedGroupAttrSet qosSchedGroupNodeInit attrs) true
  rw [updated] at tree groups ids
  rw [created]
  refine sync.objects tree fun user o k nonnull names => ?_
  rw [← ids user o]
  cases user with
  | schedGroup =>
    simp only [qosSchedulerIdGet, get_put] at names
    split at names
    · rename_i here
      cases names
      rw [here]
      exact .inr follows
    · exact .inl ⟨names, rfl⟩
  | port => exact .inl ⟨names, rfl⟩
  | queue => exact .inl ⟨names, rfl⟩

theorem SchedulerInSync.hierarchy {t : QosState} {call : HierarchyCall} {status : SaiStatus}
    (run : call.run w.db = some (t, status)) : SchedulerInSync ⟨t, w.given⟩ := by
  rcases HierarchyCall.run_cases run with ⟨same, _⟩ | ⟨sgId, children, isAdd, _, _, _, loop⟩
  · rw [same]
    exact sync
  obtain ⟨tree, ids⟩ := qosSchedGroupAndChildNodesLoop_keeps sgId isAdd children w.db t _ loop
  refine sync.objects tree fun user o k _ names => .inl ⟨?_, rfl⟩
  rw [← ids]
  exact names

theorem SchedulerInSync.run {t : QosState} {status : SaiStatus} (follows : call.HardwareFollows w.db)
    (run : call.run w.db = some (t, status)) :
    SchedulerInSync ⟨t, call.given w.db w.given⟩ := by
  cases call with
  | hierarchy call => exact sync.hierarchy run
  | create defaults attrs env =>
    rw [← state_of_run run]
    exact sync.schedCreate defaults attrs env
  | remove schedId npu =>
    rw [← state_of_run run]
    exact sync.schedRemove schedId npu
  | attributeSet schedId attr env =>
    rw [← state_of_run run]
    exact sync.attributeSet follows
  | createDefault defaults env =>
    rw [← state_of_run run]
    exact sync.createDefault defaults env
  | removeDefault npu =>
    rw [← state_of_run run]
    exact sync.removeDefault npu
  | portSet portId schedId npu =>
    rw [← state_of_run run]
    exact sync.portSet portId schedId npu
  | queueCreate portId queueType env =>
    rw [← state_of_run run]
    exact sync.queueCreate portId queueType env
  | queueRemove queueId npu =>
    rw [← state_of_run run]
    exact sync.queueRemove queueId npu
  | queueSet queueId schedId vendor npu =>
    rw [← state_of_run run]
    exact sync.queueSet queueId schedId vendor npu
  | groupCreate attrs env =>
    rw [← state_of_run run]
    exact sync.groupCreate follows
  | groupRemove sgId npu =>
    rw [← state_of_run run]
    exact sync.groupRemove sgId npu
  | groupAttrSet sgId attr vendor npu =>
    rw [← state_of_run run]
    exact sync.groupAttrSet follows
  | setDefault childList npu =>
    rw [← state_of_run run]
    show SchedulerInSync ⟨(setDefaultScheduler w.db childList npu).1,
      if w.db.defaultSchedId = nullObjectId then w.given else setDefaultGivenLoop npu childList w.db w.given⟩
    unfold setDefaultScheduler
    by_cases null : w.db.defaultSchedId = nullObjectId
    · rw [if_pos null, if_pos null]
      exact sync
    · rw [if_neg null, if_neg null]
      exact SchedulerInSync.setDefaultLoop npu childList w sync

end

/-- A call on the database, with what the NPU then holds. -/
def schedulingStep (ok : QosState → SchedulerCall → Prop) (w : SchedulerWorld) (call : SchedulerCall)
    (v : SchedulerWorld) : Prop :=
  ok w.db call ∧ (∃ status, call.run w.db = some (v.db, status)) ∧ v.given = call.given w.db w.given

def SchedulingFresh (w : SchedulerWorld) : Prop :=
  w.db.schedulerTree = ∅

/-- Every attached object was last given the cached parameters. -/
def SchedulerCacheRight (w : SchedulerWorld) : Prop :=
  ∀ k sched, w.db.schedulerTree.get k = some sched → ∀ user o, SchedulerAttachedTo w.db user o k →
    w.given user o = some (k, sched.params)

/-- A group attribute set that returns an error leaves what the group caches. -/
def SchedGroupCacheRight (s : QosState) (sgId : ObjectId) (attr : SchedGroupAttr) (vendor npu : SaiStatus) : Prop :=
  ∀ t status node, qosSchedGroupAttributeSet s sgId attr vendor npu = (t, status) → status ≠ .success →
    s.schedGroupTree.get sgId = some node → ∃ after, t.schedGroupTree.get sgId = some after ∧
      after.schedulerId = node.schedulerId ∧ after.hierarchyLevel = node.hierarchyLevel ∧
      after.portId = node.portId ∧ after.maxChilds = node.maxChilds

theorem SchedulingFresh.inSync (fresh : SchedulingFresh w) : SchedulerInSync w := by
  unfold SchedulingFresh at fresh
  refine ⟨by rw [fresh, get_empty], fun k sched stored => ?_⟩
  rw [fresh, get_empty] at stored
  cases stored

theorem SchedulerInSync.cacheRight (sync : SchedulerInSync w) : SchedulerCacheRight w := by
  rintro k sched stored user o ⟨named, other, same, listed⟩
  cases stored.symm.trans same
  exact sync.sync k sched stored user o listed named

/-- In every run that the hardware follows, the parameters of each scheduler are
those its objects hold, and an error on a group leaves its cache. -/
theorem scheduling_inSync {w : SchedulerWorld}
    (reach : Runs.Reach SchedulingFresh (schedulingStep fun s call => call.HardwareFollows s) w) :
    SchedulerCacheRight w ∧ ∀ (sgId : ObjectId) (attr : SchedGroupAttr) (vendor npu : SaiStatus),
      (SchedulerCall.groupAttrSet sgId attr vendor npu).HardwareFollows w.db →
      SchedGroupCacheRight w.db sgId attr vendor npu := by
  have sync : SchedulerInSync w := by
    refine reach.invariant SchedulerInSync (fun _ fresh => fresh.inSync) ?_
    rintro w call ⟨db, given⟩ sync ⟨follows, ⟨status, run⟩, same⟩
    dsimp only at same
    rw [same]
    exact sync.run follows run
  refine ⟨sync.cacheRight, fun sgId attr vendor npu follows t status node run failed stored => ?_⟩
  exact ⟨node, qosSchedGroupAttributeSet_error follows run failed stored, rfl, rfl, rfl, rfl⟩

def SchedulerWorld.after (w : SchedulerWorld) (call : SchedulerCall) : SchedulerWorld :=
  ⟨((call.run w.db).map Prod.fst).getD w.db, call.given w.db w.given⟩

theorem schedulingStep_after
    (allowed : ok w.db call) (ran : (call.run w.db).isSome = true) : schedulingStep ok w call (w.after call) := by
  obtain ⟨⟨t, status⟩, run⟩ := Option.isSome_iff_exists.mp ran
  refine ⟨allowed, ⟨status, ?_⟩, rfl⟩
  unfold SchedulerWorld.after
  rw [run]
  rfl

def defaultSchedulerWorld : SchedulerWorld :=
  ((⟨schedulerSample, fun _ _ => none⟩ : SchedulerWorld).after
    (.createDefault ⟨1, 0⟩ ⟨.success, true, .success, 1, true⟩)).after
    (.setDefault [⟨.schedulerGroup, 1⟩] fun _ => .success)

theorem defaultSchedulerWorld_reach
    (first : ∀ s, ok s (.createDefault ⟨1, 0⟩ ⟨.success, true, .success, 1, true⟩))
    (second : ∀ s, ok s (.setDefault [⟨.schedulerGroup, 1⟩] fun _ => .success)) :
    Runs.Reach SchedulingFresh (schedulingStep ok) defaultSchedulerWorld :=
  .next (.next (.start (rfl : SchedulingFresh ⟨schedulerSample, fun _ _ => none⟩))
    (schedulingStep_after (first _) rfl)) (schedulingStep_after (second _) rfl)

/-- The weight of the default scheduler is set, with the answer for its group. -/
def weightSet (group : SaiStatus) : SchedulerCall :=
  .attributeSet ⟨.scheduler, 1⟩ (.schedulingWeight 5) ⟨.success, .success, false, fun _ => group⟩

/-- The group takes the new weight; a level that the vendor refuses is not cached. -/
theorem scheduling_inSync_sample : SchedulerCacheRight (defaultSchedulerWorld.after (weightSet .success)) ∧
    (defaultSchedulerWorld.after (weightSet .success)).given .schedGroup ⟨.schedulerGroup, 1⟩ =
      some (⟨.scheduler, 1⟩, { (qosSchedulerNodeInit ⟨1, 0⟩).params with weight := 5 }) ∧
    SchedGroupCacheRight (defaultSchedulerWorld.after (weightSet .success)).db ⟨.schedulerGroup, 1⟩
      (.level 5) .notSupported .success := by
  have taken : (weightSet .success).HardwareFollows defaultSchedulerWorld.db := by
    intro sched _ stored _ _ _ _
    have whole : defaultSchedulerWorld.db.schedulerTree.get ⟨.scheduler, 1⟩ =
        some ⟨(qosSchedulerNodeInit ⟨1, 0⟩).params, [], [], [⟨.schedulerGroup, 1⟩]⟩ := rfl
    cases stored.symm.trans whole
    refine ⟨.inl fun _ _ _ => rfl, fun user o listed k attached => ?_⟩
    cases user with
    | schedGroup =>
      cases List.mem_singleton.mp listed
      exact (Option.some.inj attached.1).symm
    | port => exact absurd listed List.not_mem_nil
    | queue => exact absurd listed List.not_mem_nil
  have reach : Runs.Reach SchedulingFresh (schedulingStep fun s call => call.HardwareFollows s)
      (defaultSchedulerWorld.after (weightSet .success)) :=
    .next (defaultSchedulerWorld_reach (fun _ => trivial) fun _ => trivial) (schedulingStep_after taken rfl)
  have refused : (SchedulerCall.groupAttrSet ⟨.schedulerGroup, 1⟩ (.level 5) .notSupported
      .success).HardwareFollows (defaultSchedulerWorld.after (weightSet .success)).db :=
    fun _ _ _ vendor => SaiStatus.noConfusion vendor
  exact ⟨(scheduling_inSync reach).1, by decide, (scheduling_inSync reach).2 _ _ _ _ refused⟩

/-- The group refuses the new weight, and the cache has it all the same; a group
caches a level that the NPU refused. -/
theorem scheduling_not_inSync :
    (¬ ∀ w, Runs.Reach SchedulingFresh (schedulingStep fun _ _ => True) w → SchedulerCacheRight w) ∧
    ¬ ∀ w, Runs.Reach SchedulingFresh (schedulingStep fun _ _ => True) w →
      ∀ sgId attr vendor npu, SchedGroupCacheRight w.db sgId attr vendor npu := by
  refine ⟨fun all => ?_, fun all => ?_⟩
  · have right := all (defaultSchedulerWorld.after (weightSet .failure))
      (.next (defaultSchedulerWorld_reach (fun _ => trivial) fun _ => trivial) (schedulingStep_after trivial rfl))
    have cached : ∃ sched,
        (defaultSchedulerWorld.after (weightSet .failure)).db.schedulerTree.get ⟨.scheduler, 1⟩ = some sched ∧
        sched.params.weight = 5 ∧ (⟨.schedulerGroup, 1⟩ : ObjectId) ∈ sched.userList .schedGroup :=
      ⟨_, rfl, rfl, by decide⟩
    obtain ⟨sched, stored, weight, listed⟩ := cached
    have held := right _ sched stored .schedGroup ⟨.schedulerGroup, 1⟩ ⟨rfl, sched, stored, listed⟩
    have old : (defaultSchedulerWorld.after (weightSet .failure)).given .schedGroup ⟨.schedulerGroup, 1⟩ =
        some (⟨.scheduler, 1⟩, (qosSchedulerNodeInit ⟨1, 0⟩).params) := by decide
    rw [old] at held
    have differ := congrArg SchedulerParams.weight (Prod.mk.inj (Option.some.inj held)).2
    rw [weight] at differ
    exact absurd differ (by decide)
  · have right := all ⟨schedulerSample, fun _ _ => none⟩ (.start rfl) ⟨.schedulerGroup, 1⟩ (.level 5) .success
      .failure
    obtain ⟨after, stored, _, level, _⟩ := right _ _ _ rfl SaiStatus.noConfusion rfl
    cases stored
    exact absurd level (by decide)

end SaiCommon
