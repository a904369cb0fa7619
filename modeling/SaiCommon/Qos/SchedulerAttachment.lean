import SaiCommon.Qos.HierarchyForest
import SaiCommon.Qos.SchedGroup

namespace SaiCommon

open KeyTree

variable {new o prev : ObjectId} {s t : QosState} {user : SchedulerUser}

def qosSchedulerIdGet (s : QosState) (user : SchedulerUser) (objectId : ObjectId) : Option ObjectId :=
  match user with
  | .port => (s.portTree.get objectId).map QosPort.schedulerId
  | .queue => (s.queueTree.get objectId).map Queue.schedulerId
  | .schedGroup => (s.schedGroupTree.get objectId).map SchedGroup.schedulerId

/-- A scheduler lists exactly the live objects that name it, each once, and
what an object names is stored. -/
structure SchedulerAttached (s : QosState) : Prop where
  schedKey : s.schedulerTree.get nullObjectId = none
  attached : ∀ k sched, s.schedulerTree.get k = some sched → ∀ user o,
    (sched.userList user).count o = if qosSchedulerIdGet s user o = some k then 1 else 0
  schedStored : ∀ user o k, qosSchedulerIdGet s user o = some k → k ≠ nullObjectId →
    s.schedulerTree.get k ≠ none

section Frame
variable {status npu : SaiStatus}

theorem qosSchedulerListUpdate_frame (run : qosSchedulerListUpdate user s o prev new = (t, status)) :
    t = { s with schedulerTree := t.schedulerTree } := by
  unfold qosSchedulerListUpdate at run
  split at run
  · cases run
    rfl
  split at run <;> dsimp only at run <;> split at run
  · cases run
    rfl
  · split at run <;> cases run <;> rfl
  · cases run
    rfl
  · split at run <;> cases run <;> rfl

theorem qosUserSchedulerSet_frame
    (run : qosUserSchedulerSet (qosSchedulerListUpdate user) s o prev new npu = (t, status)) :
    t = { s with schedulerTree := t.schedulerTree } := by
  unfold qosUserSchedulerSet at run
  split at run
  · cases run
    rfl
  split at run
  · exact qosSchedulerListUpdate_frame run
  · cases run
    rfl

end Frame

theorem Scheduler.userList_unlink (sched : Scheduler) (user other : SchedulerUser) (o : ObjectId) :
    (sched.unlink user o).userList other =
      if other = user then (sched.userList other).erase o else sched.userList other := by
  cases user <;> cases other <;> rfl

theorem Scheduler.userList_link (sched : Scheduler) (user other : SchedulerUser) (o : ObjectId) :
    (sched.link user o).userList other =
      if other = user then sched.userList other ++ [o] else sched.userList other := by
  cases user <;> cases other <;> rfl

/-- Trees with the same lists under the same keys, and objects that name the
same schedulers, are attached alike. -/
theorem SchedulerAttached.congr (attached : SchedulerAttached s)
    (lists : ∀ k user, (t.schedulerTree.get k).map (fun sched => sched.userList user) =
      (s.schedulerTree.get k).map fun sched => sched.userList user) (ids : ∀ user o k, k ≠ nullObjectId →
      (qosSchedulerIdGet t user o = some k ↔ qosSchedulerIdGet s user o = some k)) : SchedulerAttached t := by
  have stored : ∀ k, t.schedulerTree.get k = none ↔ s.schedulerTree.get k = none := by
    intro k
    have same := lists k .port
    rw [← Option.map_eq_none_iff, same, Option.map_eq_none_iff]
  refine ⟨(stored _).mpr attached.schedKey, ?_, ?_⟩
  · intro k sched found user o
    have same := lists k user
    rw [found, Option.map_some] at same
    obtain ⟨before, old, list⟩ := Option.map_eq_some_iff.mp same.symm
    have nonnull : k ≠ nullObjectId := by
      rintro rfl
      rw [attached.schedKey] at old
      cases old
    rw [← list, attached.attached k before old user o]
    simp only [ids user o k nonnull]
  · intro user o k named nonnull
    rw [Ne, stored]
    exact attached.schedStored user o k ((ids user o k nonnull).mp named) nonnull

theorem SchedulerAttached.objects (attached : SchedulerAttached s)
    (tree : t.schedulerTree = s.schedulerTree) (ids : ∀ user o k, k ≠ nullObjectId →
      (qosSchedulerIdGet t user o = some k ↔ qosSchedulerIdGet s user o = some k)) : SchedulerAttached t :=
  attached.congr (fun k user => by rw [tree]) ids

section Move

theorem qosSchedulerListUpdate_count (attached : SchedulerAttached s)
    (found : qosSchedulerIdGet s user o = some prev)
    (named : new ≠ nullObjectId → s.schedulerTree.get new ≠ none) :
    ∃ tree, qosSchedulerListUpdate user s o prev new = ({ s with schedulerTree := tree }, .success) ∧
      (∀ k, tree.get k = none ↔ s.schedulerTree.get k = none) ∧
      ∀ k sched, tree.get k = some sched → ∀ other o',
        (sched.userList other).count o' = if (if other = user ∧ o' = o then some new
          else qosSchedulerIdGet s other o') = some k then 1 else 0 := by
  let released := if prev ≠ nullObjectId
    then s.schedulerTree.modify prev fun p => p.unlink user o else s.schedulerTree
  let taken := if new ≠ nullObjectId then released.modify new fun p => p.link user o else released
  have storedReleased : ∀ k, released.get k = none ↔ s.schedulerTree.get k = none := by
    intro k
    simp only [released]
    split
    · exact get_modify_eq_none
    · exact Iff.rfl
  have storedTaken : ∀ k, taken.get k = none ↔ s.schedulerTree.get k = none := by
    intro k
    rw [← storedReleased k]
    simp only [taken]
    split
    · exact get_modify_eq_none
    · exact Iff.rfl
  have countReleased : ∀ k sched, released.get k = some sched → ∀ other o',
      (sched.userList other).count o' =
        if ¬ (other = user ∧ o' = o) ∧ qosSchedulerIdGet s other o' = some k then 1 else 0 := by
    intro k sched got other o'
    have nonnull : k ≠ nullObjectId := by
      rintro rfl
      rw [(storedReleased _).mpr attached.schedKey] at got
      cases got
    by_cases here : prev = k
    · subst here
      simp only [released, if_pos nonnull, get_modify_self] at got
      obtain ⟨before, old, rfl⟩ := Option.map_eq_some_iff.mp got
      have count := attached.attached prev before old other o'
      rw [before.userList_unlink]
      by_cases isUser : other = user
      · subst isUser
        rw [if_pos rfl, List.count_erase, count]
        by_cases isIt : o' = o
        · subst isIt
          simp only [found, beq_self_eq_true, and_self, not_true_eq_false, false_and, if_true, if_false,
            Nat.sub_self]
        · simp only [isIt, and_false, not_false_eq_true, true_and, beq_eq_false_iff_ne.mpr (Ne.symm isIt),
            Bool.false_eq_true, if_false, Nat.sub_zero]
      · rw [if_neg isUser, count]
        simp only [isUser, false_and, not_false_eq_true, true_and]
    · have old : s.schedulerTree.get k = some sched := by
        simp only [released] at got
        split at got
        · rwa [get_modify_ne (Ne.symm here)] at got
        · exact got
      rw [attached.attached k sched old other o']
      by_cases isIt : other = user ∧ o' = o
      · obtain ⟨rfl, rfl⟩ := isIt
        simp only [found, Option.some.injEq, here, and_self, not_true_eq_false, if_false]
      · simp only [isIt, not_false_eq_true, true_and]
  refine ⟨taken, ?_, storedTaken, ?_⟩
  · have prevStored : ¬ (prev ≠ nullObjectId ∧ s.schedulerTree.get prev = none) :=
      fun both => attached.schedStored user o prev found both.1 both.2
    unfold qosSchedulerListUpdate
    rw [if_neg prevStored]
    by_cases prevNull : prev = nullObjectId
    · by_cases newNull : new = nullObjectId
      · simp only [taken, released, prevNull, newNull, ne_eq, not_true_eq_false, false_and, if_false]
      have newStored := named newNull
      simp only [taken, released, prevNull, newNull, ne_eq, not_true_eq_false, not_false_eq_true, true_and,
        newStored, if_true, if_false]
    · by_cases newNull : new = nullObjectId
      · simp only [taken, released, prevNull, newNull, ne_eq, not_true_eq_false, not_false_eq_true, false_and,
          if_true, if_false]
      have newStored : ¬ (s.schedulerTree.modify prev fun p => p.unlink user o).get new = none := by
        rw [get_modify_eq_none]
        exact named newNull
      simp only [taken, released, prevNull, newNull, ne_eq, not_false_eq_true, true_and, newStored, if_true,
        if_false]
  · intro k sched got other o'
    have nonnull : k ≠ nullObjectId := by
      rintro rfl
      rw [(storedTaken _).mpr attached.schedKey] at got
      cases got
    by_cases here : new = k
    · subst here
      simp only [taken, if_pos nonnull, get_modify_self] at got
      obtain ⟨before, old, rfl⟩ := Option.map_eq_some_iff.mp got
      have count := countReleased new before old other o'
      rw [before.userList_link]
      by_cases isUser : other = user
      · subst isUser
        rw [if_pos rfl, List.count_append, count, List.count_singleton]
        by_cases isIt : o' = o
        · subst isIt
          simp only [beq_self_eq_true, and_self, not_true_eq_false, false_and, if_true, if_false, Nat.zero_add]
        · simp only [isIt, and_false, not_false_eq_true, true_and, beq_eq_false_iff_ne.mpr (Ne.symm isIt),
            Bool.false_eq_true, if_false, Nat.add_zero]
      · rw [if_neg isUser, count]
        simp only [isUser, false_and, not_false_eq_true, true_and, if_false]
    · have old : released.get k = some sched := by
        simp only [taken] at got
        split at got
        · rwa [get_modify_ne (Ne.symm here)] at got
        · exact got
      rw [countReleased k sched old other o']
      by_cases isIt : other = user ∧ o' = o
      · rw [if_pos isIt, if_neg fun both => both.1 isIt, if_neg fun same => here (Option.some.inj same)]
      · simp only [isIt, not_false_eq_true, true_and, if_false]

theorem SchedulerAttached.move (attached : SchedulerAttached s) (found : qosSchedulerIdGet s user o = some prev)
    (named : new ≠ nullObjectId → s.schedulerTree.get new ≠ none)
    (tree : t.schedulerTree = (qosSchedulerListUpdate user s o prev new).1.schedulerTree)
    (ids : ∀ other o', qosSchedulerIdGet t other o' =
      if other = user ∧ o' = o then some new else qosSchedulerIdGet s other o') : SchedulerAttached t := by
  obtain ⟨taken, run, stored, count⟩ := qosSchedulerListUpdate_count attached found named
  rw [run] at tree
  refine ⟨?_, ?_, ?_⟩
  · rw [tree, stored]
    exact attached.schedKey
  · intro k sched got other o'
    rw [ids]
    rw [tree] at got
    exact count k sched got other o'
  · intro other o' k names nonnull
    rw [Ne, tree, stored]
    rw [ids] at names
    split at names
    · cases names
      exact named nonnull
    · exact attached.schedStored other o' k names nonnull

/-- A scheduler set on an object is refused with the lists unchanged, or the
lists have followed. -/
theorem qosUserSchedulerSet_cases {npu status : SaiStatus} (attached : SchedulerAttached s)
    (found : qosSchedulerIdGet s user o = some prev)
    (run : qosUserSchedulerSet (qosSchedulerListUpdate user) s o prev new npu = (t, status)) :
    t = s ∧ status ≠ .success ∧ (npu ≠ .success ∨ new ≠ nullObjectId ∧ s.schedulerTree.get new = none) ∨
    status = .success ∧ t = { s with schedulerTree := t.schedulerTree } ∧
      (new ≠ nullObjectId → s.schedulerTree.get new ≠ none) ∧
      t.schedulerTree = (qosSchedulerListUpdate user s o prev new).1.schedulerTree := by
  unfold qosUserSchedulerSet at run
  split at run
  · rename_i absent
    cases run
    exact Or.inl ⟨rfl, SaiStatus.noConfusion, Or.inr absent⟩
  rename_i known
  split at run
  · have named : new ≠ nullObjectId → s.schedulerTree.get new ≠ none :=
      fun nonnull absent => known ⟨nonnull, absent⟩
    obtain ⟨taken, update, _⟩ := qosSchedulerListUpdate_count attached found named
    rw [update] at run ⊢
    cases run
    exact Or.inr ⟨rfl, rfl, named, rfl⟩
  · rename_i error
    cases run
    exact Or.inl ⟨rfl, error, Or.inl error⟩

end Move

theorem SchedulerAttached.schedCreate (attached : SchedulerAttached s)
    (defaults : SchedulerDefaults) (attrs : List SchedulerAttr) (env : CreateEnv) :
    SchedulerAttached (qosSchedulerCreate s defaults attrs env).1 := by
  unfold qosSchedulerCreate
  split
  · split
    · exact attached
    simp only
    split
    · unfold qosSchedulerNodeInsertToTree
      split
      · rename_i absent
        have fresh : (⟨.scheduler, env.npuObjectId⟩ : ObjectId) ≠ nullObjectId :=
          ne_nullObjectId ObjectType.noConfusion
        refine ⟨?_, ?_, ?_⟩
        · simp only [get_put_ne fresh.symm]
          exact attached.schedKey
        · intro k sched found user o
          simp only [get_put] at found
          show _ = if qosSchedulerIdGet s user o = some k then 1 else 0
          split at found
          · rename_i here
            cases Option.some.inj found
            have unnamed : ¬ qosSchedulerIdGet s user o = some k := by
              intro named
              rw [here] at named
              exact attached.schedStored user o _ named fresh absent
            rw [if_neg unnamed]
            cases user <;> rfl
          · exact attached.attached k sched found user o
        · intro user o k named nonnull
          have old := attached.schedStored user o k named nonnull
          exact get_put_ne_none old
      · exact attached
    · exact attached
  · exact attached

theorem qosSchedulerIsInUse_false {sched : Scheduler} (unused : qosSchedulerIsInUse sched = false)
    (user : SchedulerUser) : sched.userList user = [] := by
  unfold qosSchedulerIsInUse at unused
  simp only [ne_eq, Bool.or_eq_false_iff, decide_eq_false_iff_not, not_not] at unused
  obtain ⟨⟨queues, groups⟩, ports⟩ := unused
  cases user with
  | port => exact ports
  | queue => exact queues
  | schedGroup => exact groups

section
variable (attached : SchedulerAttached s)
include attached

theorem SchedulerAttached.unnamed {schedId : ObjectId} {npu : SaiStatus}
    (run : qosSchedulerRemove s schedId npu = (t, .success)) :
    t = { s with schedulerTree := s.schedulerTree.del schedId } ∧
    ∀ user o, qosSchedulerIdGet s user o ≠ some schedId := by
  unfold qosSchedulerRemove at run
  split at run
  · cases run
  split at run
  · cases run
  rename_i sched stored
  split at run
  · cases run
  rename_i unused
  split at run
  · cases run
    refine ⟨rfl, fun user o named => ?_⟩
    have count := attached.attached schedId sched stored user o
    rw [qosSchedulerIsInUse_false (Bool.eq_false_iff.mpr unused) user, if_pos named] at count
    cases count
  · rename_i error
    cases run
    exact absurd rfl error

theorem SchedulerAttached.schedRemove
    (schedId : ObjectId) (npu : SaiStatus) : SchedulerAttached (qosSchedulerRemove s schedId npu).1 := by
  generalize run : qosSchedulerRemove s schedId npu = result
  obtain ⟨t, status⟩ := result
  by_cases done : status = .success
  · subst done
    obtain ⟨rfl, unnamed⟩ := attached.unnamed run
    refine ⟨?_, ?_, ?_⟩
    · exact get_del_none attached.schedKey
    · exact fun k sched found user o => attached.attached k sched (get_of_del found) user o
    · intro user o k named nonnull
      simp only [ne_eq, get_del]
      split
      · rename_i here
        exact absurd (here ▸ named) (unnamed user o)
      · exact attached.schedStored user o k named nonnull
  · have same : t = s := by
      unfold qosSchedulerRemove at run
      split at run
      · exact (Prod.mk.inj run).1.symm
      split at run
      · exact (Prod.mk.inj run).1.symm
      split at run
      · exact (Prod.mk.inj run).1.symm
      split at run
      · exact absurd (Prod.mk.inj run).2.symm done
      · exact (Prod.mk.inj run).1.symm
    rw [same]
    exact attached

theorem SchedulerAttached.schedAttrSet (schedId : ObjectId) (attr : SchedulerAttr) (env : SchedulerSetEnv) :
    SchedulerAttached (qosSchedulerAttributeSet s schedId attr env).1 := by
  unfold qosSchedulerAttributeSet
  split
  · exact attached
  split
  · exact attached
  rename_i sched stored
  split
  · split
    · exact attached
    split
    · refine attached.congr ?_ fun _ _ _ _ => Iff.rfl
      intro k user
      simp only [get_put]
      split
      · rename_i here
        rw [here, stored]
        cases user <;> rfl
      · rfl
    · exact attached
  · exact attached

end

theorem schedulerId_modify {N : Type} {m : KeyTree ObjectId N}
    (read : N → ObjectId) (write : N → N) (found : (m.get o).map read = some prev)
    (wrote : ∀ n, read (write n) = new) (o' : ObjectId) :
    ((m.modify o write).get o').map read = if o' = o then some new else (m.get o').map read := by
  obtain ⟨node, stored, _⟩ := Option.map_eq_some_iff.mp found
  rw [get_modify]
  split
  · rename_i here
    rw [here, stored, Option.map_some, Option.map_some, wrote]
  · rfl

theorem schedulerId_modify_keep {N : Type} {m : KeyTree ObjectId N}
    (read : N → ObjectId) (write : N → N) (keep : ∀ n, read (write n) = read n) (o' : ObjectId) :
    ((m.modify o write).get o').map read = (m.get o').map read :=
  map_get_modify keep o'

/-- The node of an object after a set of its scheduler. -/
def qosSchedulerIdSet (s : QosState) (user : SchedulerUser) (objectId schedId : ObjectId) : QosState :=
  match user with
  | .port => { s with portTree := s.portTree.modify objectId fun p => { p with schedulerId := schedId } }
  | .queue => { s with queueTree := s.queueTree.modify objectId fun q => { q with schedulerId := schedId } }
  | .schedGroup =>
    { s with schedGroupTree := s.schedGroupTree.modify objectId fun g => { g with schedulerId := schedId } }

section UserSet

theorem qosSchedulerIdSet_ids (found : qosSchedulerIdGet s user o = some prev)
    (same : t = { s with schedulerTree := t.schedulerTree }) (other : SchedulerUser) (o' : ObjectId) :
    qosSchedulerIdGet (qosSchedulerIdSet t user o new) other o' =
      if other = user ∧ o' = o then some new else qosSchedulerIdGet s other o' := by
  rw [same]
  cases user with
  | port =>
    cases other with
    | port =>
      simp only [true_and]
      exact schedulerId_modify QosPort.schedulerId (fun p => { p with schedulerId := new }) found (fun _ => rfl) o'
    | _ => rfl
  | queue =>
    cases other with
    | queue =>
      simp only [true_and]
      exact schedulerId_modify Queue.schedulerId (fun q => { q with schedulerId := new }) found (fun _ => rfl) o'
    | _ => rfl
  | schedGroup =>
    cases other with
    | schedGroup =>
      simp only [true_and]
      exact schedulerId_modify SchedGroup.schedulerId (fun g => { g with schedulerId := new }) found (fun _ => rfl) o'
    | _ => rfl

/-- A set of a scheduler is refused and changes nothing, or keeps the lists with
the object's node. -/
theorem SchedulerAttached.userSet {npu status : SaiStatus} (attached : SchedulerAttached s)
    (found : qosSchedulerIdGet s user o = some prev)
    (run : qosUserSchedulerSet (qosSchedulerListUpdate user) s o prev new npu = (t, status)) :
    (status ≠ .success → t = s) ∧ (status = .success → SchedulerAttached (qosSchedulerIdSet t user o new)) := by
  rcases qosUserSchedulerSet_cases attached found run with ⟨rfl, error, _⟩ | ⟨rfl, same, named, tree⟩
  · exact ⟨fun _ => rfl, fun success => absurd success error⟩
  · refine ⟨fun error => absurd rfl error, fun _ =>
      attached.move found named ?_ (qosSchedulerIdSet_ids found same)⟩
    cases user <;> exact tree

end UserSet

theorem SchedulerAttached.portSet (attached : SchedulerAttached s) (portId schedId : ObjectId) (npu : SaiStatus) :
    SchedulerAttached (qosPortSchedulerSet s portId schedId npu).1 := by
  unfold qosPortSchedulerSet
  split
  · exact attached
  rename_i node stored
  split
  · exact attached
  have found : qosSchedulerIdGet s .port portId = some node.schedulerId := congrArg (Option.map _) stored
  rcases run : qosUserSchedulerSet qosSchedulerPortListUpdate s portId node.schedulerId schedId npu with ⟨t, status⟩
  obtain ⟨refused, set⟩ := attached.userSet found run
  cases status with
  | success => exact set rfl
  | _ => exact refused nofun ▸ attached

theorem SchedulerAttached.queueSet (attached : SchedulerAttached s)
    (queueId schedId : ObjectId) (vendor npu : SaiStatus) :
    SchedulerAttached (qosQueueSchedulerProfileSet s queueId schedId vendor npu).1 := by
  unfold qosQueueSchedulerProfileSet
  split
  · exact attached
  split
  · exact attached
  rename_i node stored
  split
  · split
    · exact attached
    have found : qosSchedulerIdGet s .queue queueId = some node.schedulerId := congrArg (Option.map _) stored
    rcases run : qosQueueSchedulerSet s queueId node schedId npu with ⟨t, status⟩
    obtain ⟨refused, set⟩ := attached.userSet found run
    cases status with
    | success => exact set rfl
    | _ => exact refused SaiStatus.noConfusion ▸ attached
  · exact attached

theorem qosSchedulerIdGet_putPort {portId : ObjectId} {port new : QosPort}
    (stored : s.portTree.get portId = some port) (keep : new.schedulerId = port.schedulerId)
    (user : SchedulerUser) (o : ObjectId) :
    qosSchedulerIdGet { s with portTree := s.portTree.put portId new } user o = qosSchedulerIdGet s user o := by
  cases user with
  | port =>
    unfold qosSchedulerIdGet
    simp only [get_put]
    split
    · rename_i here
      rw [here, stored, Option.map_some, Option.map_some, keep]
    · rfl
  | queue => rfl
  | schedGroup => rfl

theorem qosPortQueueListUpdate_keeps (s : QosState) (queueId : ObjectId) (node : Queue) (isAdd : Bool) :
    (qosPortQueueListUpdate s queueId node isAdd).1.schedulerTree = s.schedulerTree ∧
    (qosPortQueueListUpdate s queueId node isAdd).1.queueTree = s.queueTree ∧
    ∀ user o, qosSchedulerIdGet (qosPortQueueListUpdate s queueId node isAdd).1 user o =
      qosSchedulerIdGet s user o := by
  unfold qosPortQueueListUpdate
  split
  · exact ⟨rfl, rfl, fun _ _ => rfl⟩
  · rename_i port stored
    exact ⟨rfl, rfl, qosSchedulerIdGet_putPort stored rfl⟩

theorem qosPortSchedGroupListUpdate_keeps (s : QosState) (sgId : ObjectId) (node : SchedGroup) (isAdd : Bool) :
    (qosPortSchedGroupListUpdate s sgId node isAdd).1.schedulerTree = s.schedulerTree ∧
    (qosPortSchedGroupListUpdate s sgId node isAdd).1.schedGroupTree = s.schedGroupTree ∧
    ∀ user o, qosSchedulerIdGet (qosPortSchedGroupListUpdate s sgId node isAdd).1 user o =
      qosSchedulerIdGet s user o := by
  unfold qosPortSchedGroupListUpdate
  split
  · exact ⟨rfl, rfl, fun _ _ => rfl⟩
  · rename_i port stored
    exact ⟨rfl, rfl, qosSchedulerIdGet_putPort stored rfl⟩

theorem schedulerId_put_new {N : Type} {m : KeyTree ObjectId N} {o' k : ObjectId} {node : N}
    (read : N → ObjectId) (absent : m.get o = none) (null : read node = nullObjectId) (nonnull : k ≠ nullObjectId) :
    ((m.put o node).get o').map read = some k ↔ (m.get o').map read = some k := by
  rw [get_put]
  split
  · rename_i here
    rw [here, absent, Option.map_some, null]
    exact ⟨fun same => absurd (Option.some.inj same).symm nonnull, fun none => by cases none⟩
  · exact Iff.rfl

theorem schedulerId_del_old {N : Type} {m : KeyTree ObjectId N} {o' k : ObjectId} {node : N}
    (read : N → ObjectId) (stored : m.get o = some node) (null : read node = nullObjectId)
    (nonnull : k ≠ nullObjectId) : ((m.del o).get o').map read = some k ↔ (m.get o').map read = some k := by
  rw [get_del]
  split
  · rename_i here
    rw [here, stored, Option.map_some, null]
    exact ⟨fun none => (by cases none), fun same => absurd (Option.some.inj same).symm nonnull⟩
  · exact Iff.rfl

section
variable (attached : SchedulerAttached s)
include attached

theorem SchedulerAttached.queueCreate (portId : ObjectId) (queueType : QueueType) (env : CreateEnv) :
    SchedulerAttached (qosQueueCreate s portId queueType env).1 := by
  rcases qosQueueCreate_cases s portId queueType env with ⟨_, _, same⟩ | ⟨t, updated, absent, created⟩
  · rwa [same]
  obtain ⟨tree, queues, ids⟩ := qosPortQueueListUpdate_keeps s ⟨.queue, env.npuObjectId⟩
    (qosQueueNodeInit portId queueType) true
  rw [updated] at tree queues ids
  rw [created]
  refine attached.objects tree fun user o k nonnull => ?_
  rw [← ids user o]
  cases user with
  | queue => exact schedulerId_put_new Queue.schedulerId absent rfl nonnull
  | port => exact Iff.rfl
  | schedGroup => exact Iff.rfl

theorem SchedulerAttached.queueRemove
    (queueId : ObjectId) (npu : SaiStatus) : SchedulerAttached (qosQueueRemove s queueId npu).1 := by
  rcases qosQueueRemove_cases s queueId npu with ⟨_, _, same⟩ | ⟨node, _, stored, unused, _, removed⟩
  · rwa [same]
  obtain ⟨tree, queues, ids⟩ := qosPortQueueListUpdate_keeps s queueId node false
  have null : node.schedulerId = nullObjectId := by
    unfold qosQueueIsInUse at unused
    simp only [ne_eq, Bool.or_eq_false_iff, decide_eq_false_iff_not, not_not] at unused
    exact unused.2
  rw [removed]
  refine attached.objects tree fun user o k nonnull => ?_
  rw [← ids user o]
  cases user with
  | queue =>
    refine schedulerId_del_old Queue.schedulerId ?_ null nonnull
    rw [queues]
    exact stored
  | port => exact Iff.rfl
  | schedGroup => exact Iff.rfl

theorem SchedulerAttached.groupCreate {attrs : List SchedGroupAttr} {env : SchedGroupCreateEnv}
    (null : env.vendor = .success → env.npu = .success →
      (qosSchedGroupAttrSet qosSchedGroupNodeInit attrs).schedulerId = nullObjectId) :
    SchedulerAttached (qosSchedGroupCreate s attrs env).1 := by
  rcases qosSchedGroupCreate_cases s attrs env with
    ⟨_, _, same⟩ | ⟨t, ⟨vendor, _, _, _, npu⟩, updated, absent, created⟩
  · rwa [same]
  obtain ⟨tree, groups, ids⟩ := qosPortSchedGroupListUpdate_keeps s
    ⟨.schedulerGroup, env.npuObjectId⟩ (qosSchedGroupAttrSet qosSchedGroupNodeInit attrs) true
  rw [updated] at tree groups ids
  rw [created]
  refine attached.objects tree fun user o k nonnull => ?_
  rw [← ids user o]
  cases user with
  | schedGroup => exact schedulerId_put_new SchedGroup.schedulerId absent (null vendor npu) nonnull
  | port => exact Iff.rfl
  | queue => exact Iff.rfl

theorem SchedulerAttached.groupRemove {sgId : ObjectId} {npu : SaiStatus}
    (null : npu = .success → ∀ node, s.schedGroupTree.get sgId = some node →
      qosSchedGroupIsInUse s node = false → node.schedulerId = nullObjectId) :
    SchedulerAttached (qosSchedGroupRemove s sgId npu).1 := by
  rcases qosSchedGroupRemove_cases s sgId npu with ⟨_, _, same⟩ | ⟨node, stored, unused, answer, removed⟩
  · rwa [same]
  obtain ⟨tree, groups, ids⟩ := qosPortSchedGroupListUpdate_keeps s sgId node false
  rw [removed]
  refine attached.objects tree fun user o k nonnull => ?_
  rw [← ids user o]
  cases user with
  | schedGroup =>
    refine schedulerId_del_old SchedGroup.schedulerId ?_ (null answer node stored unused) nonnull
    rw [groups]
    exact stored
  | port => exact Iff.rfl
  | queue => exact Iff.rfl

theorem SchedulerAttached.groupAttrSet {sgId : ObjectId} {attr : SchedGroupAttr} {vendor npu : SaiStatus}
    (works : ∀ schedId node, attr = .schedulerProfileId schedId → vendor = .success →
      s.schedGroupTree.get sgId = some node → node.schedulerId ≠ schedId →
      npu = .success ∧ (schedId ≠ nullObjectId → s.schedulerTree.get schedId ≠ none)) :
    SchedulerAttached (qosSchedGroupAttributeSet s sgId attr vendor npu).1 := by
  unfold qosSchedGroupAttributeSet
  split
  · exact attached
  split
  · exact attached
  rename_i node stored
  split
  · rename_i accepted
    split
    · exact attached
    rename_i differ
    cases attr with
    | schedulerProfileId schedId =>
      simp only [qosSchedGroupIsDuplicateSet, decide_eq_true_eq] at differ
      have found : qosSchedulerIdGet s .schedGroup sgId = some node.schedulerId := congrArg (Option.map _) stored
      obtain ⟨applied, known⟩ := works schedId node rfl accepted stored differ
      dsimp only
      rcases run : qosSchedGroupSchedulerSet s sgId node schedId npu with ⟨t, status⟩
      rcases qosUserSchedulerSet_cases attached found run with
        ⟨_, _, failed | ⟨nonnull, absent⟩⟩ | ⟨_, same, named, tree⟩
      · exact absurd applied failed
      · exact absurd absent (known nonnull)
      · exact attached.move found named tree (qosSchedulerIdSet_ids found same)
    | _ =>
      refine attached.objects rfl fun user o k _ => ?_
      cases user with
      | schedGroup =>
        simp only [qosSchedulerIdGet]
        rw [schedulerId_modify_keep SchedGroup.schedulerId]
        exact fun _ => rfl
      | port => exact Iff.rfl
      | queue => exact Iff.rfl
  · exact attached

end

def qosChildSchedulerIdGet (s : QosState) (childId : ObjectId) : Option ObjectId :=
  match childId.objType with
  | .queue => qosSchedulerIdGet s .queue childId
  | .schedulerGroup => qosSchedulerIdGet s .schedGroup childId
  | _ => none

/-- A turn of the loop: the child is not stored, or its scheduler is set and the
loop goes on when that succeeds. -/
theorem setDefaultSchedulerLoop_cons (npu : ObjectId → SaiStatus) (childId : ObjectId) (rest : List ObjectId)
    (s : QosState) :
    (qosChildSchedulerIdGet s childId = none ∧
      setDefaultSchedulerLoop npu (childId :: rest) s = (s, .invalidObjectId)) ∨
    ∃ user prev v result, user ≠ .port ∧
      (∀ t, qosChildSchedulerIdGet t childId = qosSchedulerIdGet t user childId) ∧
      qosSchedulerIdGet s user childId = some prev ∧
      qosUserSchedulerSet (qosSchedulerListUpdate user) s childId prev s.defaultSchedId (npu childId) = (v, result) ∧
      (result ≠ .success ∧ setDefaultSchedulerLoop npu (childId :: rest) s = (v, result) ∨
        result = .success ∧ setDefaultSchedulerLoop npu (childId :: rest) s =
          setDefaultSchedulerLoop npu rest (qosSchedulerIdSet v user childId v.defaultSchedId)) := by
  rw [setDefaultSchedulerLoop]
  unfold qosChildSchedulerIdGet
  cases childId.objType with
  | schedulerGroup =>
    dsimp only
    cases stored : s.schedGroupTree.get childId with
    | none => exact .inl ⟨congrArg (Option.map _) stored, rfl⟩
    | some node =>
      dsimp only
      rcases run : qosSchedGroupSchedulerSet s childId node s.defaultSchedId (npu childId) with ⟨v, result⟩
      refine .inr ⟨.schedGroup, node.schedulerId, v, result, nofun, fun _ => rfl,
        congrArg (Option.map _) stored, run, ?_⟩
      cases result with
      | success => exact .inr ⟨rfl, rfl⟩
      | _ => exact .inl ⟨nofun, rfl⟩
  | queue =>
    dsimp only
    cases stored : s.queueTree.get childId with
    | none => exact .inl ⟨congrArg (Option.map _) stored, rfl⟩
    | some node =>
      dsimp only
      rcases run : qosQueueSchedulerSet s childId node s.defaultSchedId (npu childId) with ⟨v, result⟩
      refine .inr ⟨.queue, node.schedulerId, v, result, nofun, fun _ => rfl,
        congrArg (Option.map _) stored, run, ?_⟩
      cases result with
      | success => exact .inr ⟨rfl, rfl⟩
      | _ => exact .inl ⟨nofun, rfl⟩
  | _ => exact .inl ⟨rfl, rfl⟩

theorem SchedulerAttached.setDefaultLoop (npu : ObjectId → SaiStatus) (children : List ObjectId) :
    ∀ s, SchedulerAttached s → SchedulerAttached (setDefaultSchedulerLoop npu children s).1 := by
  induction children with
  | nil => exact fun _ attached => attached
  | cons childId rest ih =>
    intro s attached
    rcases setDefaultSchedulerLoop_cons npu childId rest s with
      ⟨_, ended⟩ | ⟨user, prev, v, result, _, _, found, run, ⟨error, ended⟩ | ⟨success, goesOn⟩⟩
    · rw [ended]
      exact attached
    · rw [ended]
      exact (attached.userSet found run).1 error ▸ attached
    · have default : v.defaultSchedId = s.defaultSchedId := by
        rw [qosUserSchedulerSet_frame run]
      rw [goesOn, default]
      exact ih _ ((attached.userSet found run).2 success)

theorem qosSchedGroupAndChildNodeUpdate_keeps (s : QosState) (sgId childId : ObjectId) (isAdd : Bool) :
    (qosSchedGroupAndChildNodeUpdate s sgId childId isAdd).schedulerTree = s.schedulerTree ∧
    ∀ user o, qosSchedulerIdGet (qosSchedGroupAndChildNodeUpdate s sgId childId isAdd) user o =
      qosSchedulerIdGet s user o := by
  have child : ∀ parentId, (qosChildParentIdSet s childId parentId).schedulerTree = s.schedulerTree ∧
      ∀ user o, qosSchedulerIdGet (qosChildParentIdSet s childId parentId) user o =
        qosSchedulerIdGet s user o := by
    intro parentId
    unfold qosChildParentIdSet
    split
    · refine ⟨rfl, fun user o => ?_⟩
      cases user with
      | queue =>
        refine schedulerId_modify_keep Queue.schedulerId _ ?_ o
        exact fun _ => rfl
      | port => rfl
      | schedGroup => rfl
    · refine ⟨rfl, fun user o => ?_⟩
      cases user with
      | schedGroup =>
        refine schedulerId_modify_keep SchedGroup.schedulerId _ ?_ o
        exact fun _ => rfl
      | port => rfl
      | queue => rfl
    · exact ⟨rfl, fun _ _ => rfl⟩
  obtain ⟨tree, ids⟩ := child (if isAdd then sgId else nullObjectId)
  refine ⟨tree, fun user o => ?_⟩
  rw [← ids user o]
  cases user with
  | schedGroup =>
    refine schedulerId_modify_keep SchedGroup.schedulerId _ ?_ o
    exact fun _ => rfl
  | port => rfl
  | queue => rfl

theorem qosSchedGroupAndChildNodesLoop_keeps (sgId : ObjectId) (isAdd : Bool) (children : List ObjectId) :
    ∀ s t status, qosSchedGroupAndChildNodesLoop sgId isAdd children s = (t, status) →
      t.schedulerTree = s.schedulerTree ∧ ∀ user o, qosSchedulerIdGet t user o = qosSchedulerIdGet s user o := by
  induction children with
  | nil =>
    intro s t status loop
    cases loop
    exact ⟨rfl, fun _ _ => rfl⟩
  | cons childId rest ih =>
    intro s t status loop
    obtain ⟨tree, ids⟩ := qosSchedGroupAndChildNodeUpdate_keeps s sgId childId isAdd
    unfold qosSchedGroupAndChildNodesLoop at loop
    split at loop
    · split at loop
      · cases loop
        exact ⟨rfl, fun _ _ => rfl⟩
      · obtain ⟨treeRest, idsRest⟩ := ih _ _ _ loop
        exact ⟨treeRest.trans tree, fun user o => (idsRest user o).trans (ids user o)⟩
    · split at loop
      · cases loop
        exact ⟨rfl, fun _ _ => rfl⟩
      · obtain ⟨treeRest, idsRest⟩ := ih _ _ _ loop
        exact ⟨treeRest.trans tree, fun user o => (idsRest user o).trans (ids user o)⟩
    · cases loop
      exact ⟨rfl, fun _ _ => rfl⟩

theorem SchedulerAttached.hierarchy {call : HierarchyCall} {status : SaiStatus}
    (attached : SchedulerAttached s) (run : call.run s = some (t, status)) : SchedulerAttached t := by
  rcases HierarchyCall.run_cases run with ⟨rfl, _⟩ | ⟨sgId, children, isAdd, _, _, _, loop⟩
  · exact attached
  · obtain ⟨tree, ids⟩ := qosSchedGroupAndChildNodesLoop_keeps sgId isAdd children s t _ loop
    exact attached.objects tree fun user o k _ => by rw [ids]

section
variable (attached : SchedulerAttached s)
include attached

/-- The default scheduler is a scheduler like any other; only who is default
changes besides. -/
theorem SchedulerAttached.default (schedId : ObjectId) : SchedulerAttached { s with defaultSchedId := schedId } :=
  attached.objects rfl fun user o k _ => by cases user <;> exact Iff.rfl

theorem SchedulerAttached.createDefault (defaults : SchedulerDefaults) (env : CreateEnv) :
    SchedulerAttached (qosCreateDefaultScheduler s defaults env).1 := by
  have created := attached.schedCreate defaults [.schedulingAlgorithm .wrr, .schedulingWeight 1] env
  unfold qosCreateDefaultScheduler
  split
  · rename_i t done
    rw [done] at created
    exact created.default _
  · rename_i t _ _ failed
    rw [failed] at created
    exact created

theorem SchedulerAttached.removeDefault (npu : SaiStatus) :
    SchedulerAttached (qosRemoveDefaultScheduler s npu).1 := by
  have removed := attached.schedRemove s.defaultSchedId npu
  unfold qosRemoveDefaultScheduler
  split
  · split
    · rename_i t done
      rw [done] at removed
      exact removed.default _
    · rename_i t _ _ failed
      rw [failed] at removed
      exact removed
  · exact attached

end

/-- The calls after which lists and ids agree. A created group names no
scheduler, a group that loses its node is not attached to the default
scheduler, and a scheduler set on a group, which writes the id in any case,
does not fail. -/
def SchedulerCall.LinksFollow (s : QosState) : SchedulerCall → Prop
  | .groupCreate attrs env => env.vendor = .success → env.npu = .success →
    (qosSchedGroupAttrSet qosSchedGroupNodeInit attrs).schedulerId = nullObjectId
  | .groupRemove sgId npu => npu = .success → ∀ node, s.schedGroupTree.get sgId = some node →
    qosSchedGroupIsInUse s node = false → node.schedulerId = nullObjectId
  | .groupAttrSet sgId attr vendor npu => ∀ schedId node, attr = .schedulerProfileId schedId →
    vendor = .success → s.schedGroupTree.get sgId = some node → node.schedulerId ≠ schedId →
    npu = .success ∧ (schedId ≠ nullObjectId → s.schedulerTree.get schedId ≠ none)
  | _ => True

theorem state_of_run {status : SaiStatus} {result : QosState × SaiStatus}
    (run : some result = some (t, status)) : result.1 = t :=
  congrArg Prod.fst (Option.some.inj run)

theorem SchedulerAttached.run {call : SchedulerCall} {status : SaiStatus}
    (attached : SchedulerAttached s) (follow : call.LinksFollow s) (run : call.run s = some (t, status)) :
    SchedulerAttached t := by
  cases call with
  | hierarchy call => exact attached.hierarchy run
  | create defaults attrs env =>
    rw [← state_of_run run]
    exact attached.schedCreate defaults attrs env
  | remove schedId npu =>
    rw [← state_of_run run]
    exact attached.schedRemove schedId npu
  | attributeSet schedId attr env =>
    rw [← state_of_run run]
    exact attached.schedAttrSet schedId attr env
  | createDefault defaults env =>
    rw [← state_of_run run]
    exact attached.createDefault defaults env
  | removeDefault npu =>
    rw [← state_of_run run]
    exact attached.removeDefault npu
  | portSet portId schedId npu =>
    rw [← state_of_run run]
    exact attached.portSet portId schedId npu
  | queueCreate portId queueType env =>
    rw [← state_of_run run]
    exact attached.queueCreate portId queueType env
  | queueRemove queueId npu =>
    rw [← state_of_run run]
    exact attached.queueRemove queueId npu
  | queueSet queueId schedId vendor npu =>
    rw [← state_of_run run]
    exact attached.queueSet queueId schedId vendor npu
  | groupCreate attrs env =>
    rw [← state_of_run run]
    exact attached.groupCreate follow
  | groupRemove sgId npu =>
    rw [← state_of_run run]
    exact attached.groupRemove follow
  | groupAttrSet sgId attr vendor npu =>
    rw [← state_of_run run]
    exact attached.groupAttrSet follow
  | setDefault childList npu =>
    rw [← state_of_run run]
    show SchedulerAttached (setDefaultScheduler s childList npu).1
    unfold setDefaultScheduler
    split
    · exact attached
    · exact SchedulerAttached.setDefaultLoop npu childList s attached

structure SchedulerFresh (s : QosState) : Prop where
  schedulers : s.schedulerTree = ∅
  unnamed : ∀ user o k, qosSchedulerIdGet s user o = some k → k = nullObjectId

theorem SchedulerFresh.attached (fresh : SchedulerFresh s) : SchedulerAttached s := by
  refine ⟨by rw [fresh.schedulers, get_empty], ?_, ?_⟩
  · intro k sched stored
    rw [fresh.schedulers, get_empty] at stored
    cases stored
  · intro user o k named nonnull
    exact absurd (fresh.unnamed user o k named) nonnull

def schedulerStep (ok : QosState → SchedulerCall → Prop) (s : QosState) (call : SchedulerCall)
    (t : QosState) : Prop :=
  ok s call ∧ ∃ status, call.run s = some (t, status)

/-- What the lists of a scheduler, and the ids that name one, say. -/
structure SchedulerConsistent (s : QosState) : Prop where
  once : ∀ k sched, s.schedulerTree.get k = some sched → ∀ user o,
    (sched.userList user).count o = if qosSchedulerIdGet s user o = some k then 1 else 0
  alive : ∀ k sched, s.schedulerTree.get k = some sched → ∀ user, ∀ o ∈ sched.userList user,
    qosSchedulerIdGet s user o = some k
  named : ∀ user o k, qosSchedulerIdGet s user o = some k → k ≠ nullObjectId → s.schedulerTree.get k ≠ none

theorem SchedulerAttached.consistent (attached : SchedulerAttached s) : SchedulerConsistent s := by
  refine ⟨attached.attached, ?_, attached.schedStored⟩
  intro k sched stored user o member
  by_contra unnamed
  have count := attached.attached k sched stored user o
  rw [if_neg unnamed] at count
  exact List.count_eq_zero.mp count member

/-- In every run whose links follow, a scheduler lists exactly the live objects
that name it, each once, and a scheduler that is removed is named by none. -/
theorem scheduler_attached {s : QosState}
    (reach : Runs.Reach SchedulerFresh (schedulerStep fun s call => call.LinksFollow s) s) :
    SchedulerConsistent s ∧ ∀ (schedId : ObjectId) (npu : SaiStatus) (t : QosState),
      qosSchedulerRemove s schedId npu = (t, .success) → ∀ user o, qosSchedulerIdGet t user o ≠ some schedId := by
  have attached : SchedulerAttached s := by
    refine reach.invariant SchedulerAttached (fun s fresh => fresh.attached) ?_
    rintro s call t attached ⟨follow, status, run⟩
    exact attached.run follow run
  refine ⟨attached.consistent, fun schedId npu t run user o => ?_⟩
  obtain ⟨rfl, unnamed⟩ := attached.unnamed run
  have same : qosSchedulerIdGet { s with schedulerTree := s.schedulerTree.del schedId } user o =
      qosSchedulerIdGet s user o := by cases user <;> rfl
  rw [same]
  exact unnamed user o

def schedulerSample : QosState where
  portTree := (∅ : KeyTree ObjectId QosPort).put ⟨.port, 1⟩
    ⟨nullObjectId, nullObjectId, [], [(0, ⟨.schedulerGroup, 1⟩)]⟩
  queueTree := ∅
  pgTree := ∅
  schedGroupTree := (∅ : KeyTree ObjectId SchedGroup).put ⟨.schedulerGroup, 1⟩
    { qosSchedGroupNodeInit with portId := ⟨.port, 1⟩ }
  schedulerTree := ∅
  bufferPoolTree := ∅
  bufferProfileTree := ∅
  defaultSchedId := nullObjectId

theorem schedulerSample_fresh : SchedulerFresh schedulerSample := by
  refine ⟨rfl, ?_⟩
  intro user o k named
  cases user with
  | port =>
    simp only [qosSchedulerIdGet, schedulerSample, get_put, get_empty] at named
    split at named <;> cases named
    rfl
  | queue => cases named
  | schedGroup =>
    simp only [qosSchedulerIdGet, schedulerSample, get_put, get_empty] at named
    split at named <;> cases named
    rfl

/-- The default scheduler is created and put on the sample's group. -/
theorem scheduler_attached_sample : ∃ s t,
    (SchedulerCall.createDefault ⟨1, 0⟩ ⟨.success, true, .success, 1, true⟩).run schedulerSample =
      some (s, .success) ∧
    (SchedulerCall.setDefault [⟨.schedulerGroup, 1⟩] fun _ => .success).run s = some (t, .success) ∧
    SchedulerConsistent t := by
  have run : ∃ s t, (SchedulerCall.createDefault ⟨1, 0⟩ ⟨.success, true, .success, 1, true⟩).run
        schedulerSample = some (s, .success) ∧
      (SchedulerCall.setDefault [⟨.schedulerGroup, 1⟩] fun _ => .success).run s = some (t, .success) :=
    ⟨_, _, rfl, rfl⟩
  obtain ⟨s, t, first, second⟩ := run
  refine ⟨s, t, first, second, (scheduler_attached
    (.next (.next (.start schedulerSample_fresh) ⟨?_, _, first⟩) ⟨?_, _, second⟩)).1⟩
  · trivial
  · trivial

/-- A group that holds the default scheduler is removed, and the default
scheduler goes on listing it. -/
theorem scheduler_not_attached : ¬ ∀ s,
    Runs.Reach SchedulerFresh (schedulerStep fun _ _ => True) s → SchedulerConsistent s := by
  intro all
  have run : ∃ s t u, (SchedulerCall.createDefault ⟨1, 0⟩ ⟨.success, true, .success, 1, true⟩).run
        schedulerSample = some (s, .success) ∧
      (SchedulerCall.setDefault [⟨.schedulerGroup, 1⟩] fun _ => .success).run s = some (t, .success) ∧
      (SchedulerCall.groupRemove ⟨.schedulerGroup, 1⟩ .success).run t = some (u, .success) ∧
      qosSchedulerIdGet u .schedGroup ⟨.schedulerGroup, 1⟩ = none ∧
      ∃ sched, u.schedulerTree.get ⟨.scheduler, 1⟩ = some sched ∧
        ⟨.schedulerGroup, 1⟩ ∈ sched.userList .schedGroup :=
    ⟨_, _, _, rfl, rfl, rfl, by decide, _, rfl, by decide⟩
  obtain ⟨s, t, u, first, second, third, freed, sched, stored, member⟩ := run
  have consistent := all u (.next (.next (.next (.start schedulerSample_fresh)
    ⟨trivial, _, first⟩) ⟨trivial, _, second⟩) ⟨trivial, _, third⟩)
  have named := consistent.alive _ sched stored .schedGroup _ member
  rw [freed] at named
  cases named

end SaiCommon
