import SaiCommon.Qos.Scheduler

namespace SaiCommon

variable {attached rest : List ObjectId} {before : List SchedulerSet} {failed : ObjectId} {status : SaiStatus}

/-- A scheduler node that the reapply is handed. The glue leads through the
lists of the `original` only; the other is a copy of its memory. -/
structure SchedulerNode where
  schedulerId : ObjectId
  params : SchedulerParams
  original : Bool
deriving DecidableEq

structure SchedulerGlue where
  getFirst : SchedulerUser → SchedulerNode → Option ObjectId
  getNext : SchedulerUser → SchedulerNode → ObjectId → Option ObjectId

structure SchedulerSet where
  objectId : ObjectId
  oldNode : SchedulerNode
  newNode : SchedulerNode
  status : SaiStatus
deriving DecidableEq

section
variable (glue : SchedulerGlue) (npu : Nat → ObjectId → SaiStatus)

/-- The loop of the three reapply functions. The NPU answers each call by its
place among all calls. A loop that runs out of `fuel` has no result. -/
def qosSchedulerReapplyLoop (user : SchedulerUser) (walked old new : SchedulerNode) (pCount : Nat)
    (revert : Bool) : Nat → Option ObjectId → Nat → List SchedulerSet →
    Option (List SchedulerSet × Nat × SaiStatus)
  | _, none, count, log => some (log, count, .success)
  | 0, some _, _, _ => none
  | fuel + 1, some objectId, count, log =>
    if revert = true ∧ pCount ≤ count then some (log, count, .success)
    else match npu log.length objectId with
      | .success =>
        qosSchedulerReapplyLoop user walked old new pCount revert fuel (glue.getNext user walked objectId)
          (count + 1) (log ++ [⟨objectId, old, new, .success⟩])
      | error => some (log ++ [⟨objectId, old, new, error⟩], count, error)

/-- On a revert the original is the new node. -/
def qosSchedulerUserReapply (fuel : Nat) (user : SchedulerUser) (old new : SchedulerNode) (pCount : Nat)
    (revert : Bool) (log : List SchedulerSet) : Option (List SchedulerSet × Nat × SaiStatus) :=
  let walked := if revert then new else old
  qosSchedulerReapplyLoop glue npu user walked old new pCount revert fuel (glue.getFirst user walked) 0 log

def qosSchedulerQueueReapply (fuel : Nat) := qosSchedulerUserReapply glue npu fuel .queue

def qosSchedulerSchedGroupReapply (fuel : Nat) := qosSchedulerUserReapply glue npu fuel .schedGroup

def qosSchedulerPortReapply (fuel : Nat) := qosSchedulerUserReapply glue npu fuel .port

/-- What the first half of `sai_qos_scheduler_reapply` leaves. -/
structure SchedulerReapplied where
  log : List SchedulerSet
  updateQueueCnt : Nat
  updateSgCnt : Nat
  updatePortCnt : Nat
  status : SaiStatus
deriving DecidableEq

def qosSchedulerReapplyLists (fuel : Nat) (old new : SchedulerNode) (log : List SchedulerSet) :
    Option SchedulerReapplied :=
  match qosSchedulerQueueReapply glue npu fuel old new 0 false log with
  | none => none
  | some (queueLog, queueCnt, .success) =>
    match qosSchedulerSchedGroupReapply glue npu fuel old new 0 false queueLog with
    | none => none
    | some (sgLog, sgCnt, .success) =>
      match qosSchedulerPortReapply glue npu fuel old new 0 false sgLog with
      | none => none
      | some (portLog, portCnt, status) => some ⟨portLog, queueCnt, sgCnt, portCnt, status⟩
    | some (sgLog, sgCnt, error) => some ⟨sgLog, queueCnt, sgCnt, 0, error⟩
  | some (queueLog, queueCnt, error) => some ⟨queueLog, queueCnt, 0, 0, error⟩

/-- A list is reverted when something on it was updated. -/
def qosSchedulerListRevert (reapply : SchedulerNode → SchedulerNode → Nat → Bool → List SchedulerSet →
      Option (List SchedulerSet × Nat × SaiStatus)) (old new : SchedulerNode) (updateCnt : Nat)
    (log : List SchedulerSet) : Option (List SchedulerSet) :=
  if updateCnt ≠ 0 then (reapply new old updateCnt true log).map Prod.fst else some log

def qosSchedulerReapplyCalls (fuel : Nat) (old new : SchedulerNode) (log : List SchedulerSet) :
    Option (List SchedulerSet × SaiStatus) :=
  match qosSchedulerReapplyLists glue npu fuel old new log with
  | none => none
  | some done =>
    if done.status ≠ .success then
      match qosSchedulerListRevert (qosSchedulerQueueReapply glue npu fuel) old new done.updateQueueCnt
          done.log with
      | none => none
      | some queueLog =>
        match qosSchedulerListRevert (qosSchedulerSchedGroupReapply glue npu fuel) old new done.updateSgCnt
            queueLog with
        | none => none
        | some sgLog =>
          match qosSchedulerListRevert (qosSchedulerPortReapply glue npu fuel) old new done.updatePortCnt
              sgLog with
          | none => none
          | some portLog => some (portLog, done.status)
    else some (done.log, .success)

end

/-- The accessors lead through the objects in their order. -/
def SchedulerGlue.Walks (glue : SchedulerGlue) (user : SchedulerUser) (node : SchedulerNode)
    (objects : List ObjectId) : Prop :=
  glue.getFirst user node = objects.head? ∧
    ∀ before objectId after, objects = before ++ objectId :: after →
      glue.getNext user node objectId = after.head?

/-- The scheduler and the parameters that the NPU last set an object to. -/
def schedulerHeld (log : List SchedulerSet) (objectId : ObjectId) : Option (ObjectId × SchedulerParams) :=
  (log.reverse.find? fun call => decide (call.objectId = objectId ∧ call.status = .success)).map
    fun call => (call.newNode.schedulerId, call.newNode.params)

def schedulerSetTo (old new : SchedulerNode) (objectId : ObjectId) : SchedulerSet :=
  ⟨objectId, old, new, .success⟩

section
variable (log xs ys : List SchedulerSet) (objectId : ObjectId)

theorem schedulerHeld_append :
    schedulerHeld (xs ++ ys) objectId = (schedulerHeld ys objectId).or (schedulerHeld xs objectId) := by
  unfold schedulerHeld
  rw [List.reverse_append, List.find?_append]
  cases ys.reverse.find? fun call => decide (call.objectId = objectId ∧ call.status = .success) with
  | none => simp only [Option.none_or, Option.map_none]
  | some call => simp only [Option.some_or, Option.map_some]

theorem schedulerHeld_failed {old new : SchedulerNode}
    (isError : status ≠ .success) : schedulerHeld [⟨failed, old, new, status⟩] objectId = none := by
  have passed : ¬ (failed = objectId ∧ status = .success) := fun both => isError both.2
  simp only [schedulerHeld, List.reverse_singleton, List.find?_singleton, decide_eq_true_eq, if_neg passed,
    Option.map_none]

theorem schedulerHeld_setTo (old new : SchedulerNode) (objects : List ObjectId) :
    schedulerHeld (objects.map (schedulerSetTo old new)) objectId =
      if objectId ∈ objects then some (new.schedulerId, new.params) else none := by
  induction objects with
  | nil => rfl
  | cons object rest ih =>
    rw [List.map_cons, ← List.singleton_append, schedulerHeld_append, ih]
    by_cases listed : objectId ∈ rest
    · rw [if_pos listed, if_pos (List.mem_cons_of_mem _ listed), Option.some_or]
    rw [if_neg listed, Option.none_or]
    by_cases same : object = objectId
    · subst same
      rw [if_pos List.mem_cons_self]
      simp only [schedulerHeld, List.reverse_singleton, schedulerSetTo, List.find?_singleton, and_self,
        decide_true, if_true, Option.map_some]
    have absent : objectId ∉ object :: rest := by
      intro member
      rcases List.mem_cons.mp member with rfl | member
      · exact same rfl
      · exact listed member
    rw [if_neg absent]
    simp only [schedulerHeld, List.reverse_singleton, schedulerSetTo, List.find?_singleton, decide_eq_true_eq,
      and_true, if_neg same, Option.map_none]

end

/-- Sets of the listed objects, one after the other, up to the first that fails. -/
def schedulerSetAll (npu : Nat → ObjectId → SaiStatus) (old new : SchedulerNode) :
    List ObjectId → List SchedulerSet → List SchedulerSet × Nat × SaiStatus
  | [], log => (log, 0, .success)
  | objectId :: rest, log =>
    match npu log.length objectId with
    | .success =>
      let later := schedulerSetAll npu old new rest (log ++ [⟨objectId, old, new, .success⟩])
      (later.1, later.2.1 + 1, later.2.2)
    | error => (log ++ [⟨objectId, old, new, error⟩], 0, error)

section
variable {npu : Nat → ObjectId → SaiStatus} {old new : SchedulerNode}

theorem schedulerSetAll_passed {objectId : ObjectId} {log : List SchedulerSet}
    (passed : npu log.length objectId = .success) : schedulerSetAll npu old new (objectId :: rest) log =
      ((schedulerSetAll npu old new rest (log ++ [schedulerSetTo old new objectId])).1,
        (schedulerSetAll npu old new rest (log ++ [schedulerSetTo old new objectId])).2.1 + 1,
        (schedulerSetAll npu old new rest (log ++ [schedulerSetTo old new objectId])).2.2) := by
  rw [schedulerSetAll, passed]
  rfl

theorem schedulerSetAll_failed {objectId : ObjectId} {log : List SchedulerSet}
    (failed : npu log.length objectId ≠ .success) : schedulerSetAll npu old new (objectId :: rest) log =
      (log ++ [⟨objectId, old, new, npu log.length objectId⟩], 0, npu log.length objectId) := by
  rw [schedulerSetAll]
  split
  · exact absurd ‹_› failed
  · rfl

variable (npu old new) in
theorem schedulerSetAll_cases (objects : List ObjectId) : ∀ log, schedulerSetAll npu old new objects log =
        (log ++ objects.map (schedulerSetTo old new), objects.length, .success) ∨
      ∃ done failed rest error, error ≠ SaiStatus.success ∧ objects = done ++ failed :: rest ∧
        schedulerSetAll npu old new objects log =
          (log ++ done.map (schedulerSetTo old new) ++ [⟨failed, old, new, error⟩], done.length, error) := by
  induction objects with
  | nil =>
    intro log
    refine .inl ?_
    rw [List.map_nil, List.append_nil]
    rfl
  | cons objectId rest ih =>
    intro log
    by_cases passed : npu log.length objectId = .success
    · rw [schedulerSetAll_passed passed]
      rcases ih (log ++ [schedulerSetTo old new objectId]) with
        all | ⟨done, failed, more, error, isError, split, stopped⟩
      · refine .inl ?_
        rw [all, List.append_assoc]
        rfl
      · refine .inr ⟨objectId :: done, failed, more, error, isError, by rw [split, List.cons_append], ?_⟩
        rw [stopped, List.append_assoc log]
        rfl
    · refine .inr ⟨[], objectId, rest, _, passed, rfl, ?_⟩
      rw [schedulerSetAll_failed passed, List.map_nil, List.append_nil]
      rfl

variable (npu old new) in
theorem schedulerSetAll_log (objects : List ObjectId) (log : List SchedulerSet) :
    ∃ calls, (schedulerSetAll npu old new objects log).1 = log ++ calls ∧
      ((∀ call ∈ calls, call.status = .success) → calls = objects.map (schedulerSetTo old new)) := by
  rcases schedulerSetAll_cases npu old new objects log with
    all | ⟨done, failed, rest, error, isError, _, stopped⟩
  · exact ⟨_, congrArg Prod.fst all, fun _ => rfl⟩
  · refine ⟨done.map (schedulerSetTo old new) ++ [⟨failed, old, new, error⟩], ?_, fun passed => ?_⟩
    · rw [stopped, List.append_assoc]
    · exact absurd (passed _ (List.mem_append_right _ (List.mem_singleton_self _))) isError

theorem schedulerSetAll_append_all {xs ys : List ObjectId} {log later : List SchedulerSet} {count : Nat}
    (all : schedulerSetAll npu old new xs log = (later, count, .success)) :
    schedulerSetAll npu old new (xs ++ ys) log =
      ((schedulerSetAll npu old new ys later).1, count + (schedulerSetAll npu old new ys later).2.1,
        (schedulerSetAll npu old new ys later).2.2) := by
  induction xs generalizing log count with
  | nil =>
    cases all
    rw [List.nil_append, Nat.zero_add]
  | cons objectId rest ih =>
    by_cases passed : npu log.length objectId = .success
    · rw [schedulerSetAll_passed passed] at all
      obtain ⟨sameLog, sameCount⟩ := Prod.mk.inj all
      obtain ⟨rfl, success⟩ := Prod.mk.inj sameCount
      rw [List.cons_append, schedulerSetAll_passed passed, ih (Prod.ext sameLog (Prod.ext rfl success)),
        Nat.add_right_comm]
    · rw [schedulerSetAll_failed passed] at all
      exact absurd (congrArg (fun r => r.2.2) all) passed

theorem schedulerSetAll_append_failed {xs ys : List ObjectId} {log : List SchedulerSet}
    (failed : (schedulerSetAll npu old new xs log).2.2 ≠ .success) :
    schedulerSetAll npu old new (xs ++ ys) log = schedulerSetAll npu old new xs log := by
  induction xs generalizing log with
  | nil => exact absurd rfl failed
  | cons objectId rest ih =>
    by_cases passed : npu log.length objectId = .success
    · rw [schedulerSetAll_passed passed] at failed
      rw [List.cons_append, schedulerSetAll_passed passed, schedulerSetAll_passed passed, ih failed]
    · rw [List.cons_append, schedulerSetAll_failed passed, schedulerSetAll_failed passed]

variable {glue : SchedulerGlue} {user : SchedulerUser} {walked : SchedulerNode} {listed : List ObjectId}

/-- On the lists of the original the loop sets the objects left to set, and
has fuel enough when there is as much as objects. -/
theorem qosSchedulerReapplyLoop_eq (walks : glue.Walks user walked listed) (pCount : Nat) (revert : Bool)
    (objects : List ObjectId) : ∀ before, listed = before ++ objects →
    ∀ fuel count log, objects.length ≤ fuel →
      qosSchedulerReapplyLoop glue npu user walked old new pCount revert fuel objects.head? count log =
        some ((schedulerSetAll npu old new (if revert then objects.take (pCount - count) else objects) log).1,
          count + (schedulerSetAll npu old new (if revert then objects.take (pCount - count) else objects) log).2.1,
          (schedulerSetAll npu old new (if revert then objects.take (pCount - count) else objects) log).2.2) := by
  induction objects with
  | nil =>
    intro before _ fuel count log _
    rw [List.take_nil, ite_self]
    unfold qosSchedulerReapplyLoop
    rfl
  | cons objectId rest ih =>
    intro before split fuel count log enough
    obtain ⟨fuel, rfl⟩ :=
      Nat.exists_eq_succ_of_ne_zero (Nat.ne_of_gt (Nat.lt_of_lt_of_le (Nat.succ_pos _) enough))
    have next := walks.2 before objectId rest split
    have tail : listed = (before ++ [objectId]) ++ rest := by rw [split, List.append_assoc, List.singleton_append]
    have later := ih _ tail fuel (count + 1) (log ++ [schedulerSetTo old new objectId])
      (Nat.le_of_succ_le_succ enough)
    rw [List.head?_cons, Nat.succ_eq_add_one, qosSchedulerReapplyLoop]
    by_cases stop : revert = true ∧ pCount ≤ count
    · rw [if_pos stop, if_pos stop.1, Nat.sub_eq_zero_of_le stop.2, List.take_zero]
      rfl
    rw [if_neg stop]
    have todo : (if revert then (objectId :: rest).take (pCount - count) else objectId :: rest) =
        objectId :: (if revert then rest.take (pCount - (count + 1)) else rest) := by
      by_cases back : revert = true
      · have left : pCount - count = pCount - (count + 1) + 1 := by
          have some_left : ¬ pCount ≤ count := fun none => stop ⟨back, none⟩
          omega
        rw [if_pos back, if_pos back, left, List.take_succ_cons]
      · rw [if_neg back, if_neg back]
    rw [todo]
    by_cases passed : npu log.length objectId = .success
    · rw [schedulerSetAll_passed passed, passed]
      dsimp only
      rw [next]
      unfold schedulerSetTo at later
      rw [later, Nat.add_assoc, Nat.add_comm 1]
      rfl
    · rw [schedulerSetAll_failed passed]
      split
      · exact absurd ‹_› passed
      · rfl

theorem qosSchedulerUserReapply_apply (walks : glue.Walks user old listed) (pCount : Nat) {fuel : Nat}
    (enough : listed.length ≤ fuel) (log : List SchedulerSet) :
    qosSchedulerUserReapply glue npu fuel user old new pCount false log =
      some (schedulerSetAll npu old new listed log) := by
  unfold qosSchedulerUserReapply
  rw [if_neg Bool.false_ne_true]
  dsimp only
  rw [walks.1, qosSchedulerReapplyLoop_eq walks pCount false listed [] rfl fuel 0 log enough,
    if_neg Bool.false_ne_true, Nat.zero_add]

theorem qosSchedulerListRevert_eq (walks : glue.Walks user old listed) {fuel : Nat}
    (enough : listed.length ≤ fuel) (updateCnt : Nat) (log : List SchedulerSet) :
    qosSchedulerListRevert (qosSchedulerUserReapply glue npu fuel user) old new updateCnt log =
      some (schedulerSetAll npu new old (listed.take updateCnt) log).1 := by
  unfold qosSchedulerListRevert
  by_cases updated : updateCnt ≠ 0
  · rw [if_pos updated]
    unfold qosSchedulerUserReapply
    rw [if_pos rfl]
    dsimp only
    rw [walks.1, qosSchedulerReapplyLoop_eq walks updateCnt true listed [] rfl fuel 0 log enough,
      if_pos rfl, Nat.sub_zero, Option.map_some]
  · rw [if_neg updated, not_not.mp updated, List.take_zero]
    rfl

end

/-- `sai_qos_scheduler_reapply` on the lists themselves: one pass over all attached
objects, and on an error one over the part of each list that it covered. -/
def schedulerReapplySets (npu : Nat → ObjectId → SaiStatus) (old new : SchedulerNode)
    (lists : SchedulerUser → List ObjectId) (log : List SchedulerSet) : List SchedulerSet × SaiStatus :=
  let done := schedulerSetAll npu old new (lists .queue ++ lists .schedGroup ++ lists .port) log
  if done.2.2 = .success then (done.1, .success)
  else
    let queues := schedulerSetAll npu new old ((lists .queue).take done.2.1) done.1
    let groups := schedulerSetAll npu new old
      ((lists .schedGroup).take (done.2.1 - (lists .queue).length)) queues.1
    let ports := schedulerSetAll npu new old
      ((lists .port).take (done.2.1 - (lists .queue ++ lists .schedGroup).length)) groups.1
    (ports.1, done.2.2)

section
variable (npu : Nat → ObjectId → SaiStatus) {old : SchedulerNode} (new : SchedulerNode) {glue : SchedulerGlue}
  {lists : SchedulerUser → List ObjectId}

/-- The first half is one pass over all attached objects, with the counts of its
parts. -/
theorem qosSchedulerReapplyLists_eq (walks : ∀ user, glue.Walks user old (lists user)) {fuel : Nat}
    (enough : ∀ user, (lists user).length ≤ fuel) (log : List SchedulerSet)
    (all : attached = lists .queue ++ lists .schedGroup ++ lists .port) :
    ∃ done, qosSchedulerReapplyLists glue npu fuel old new log = some done ∧
      done.log = (schedulerSetAll npu old new attached log).1 ∧
      done.status = (schedulerSetAll npu old new attached log).2.2 ∧ (done.status ≠ .success →
        (lists .queue).take done.updateQueueCnt =
          (lists .queue).take (schedulerSetAll npu old new attached log).2.1 ∧
        (lists .schedGroup).take done.updateSgCnt =
          (lists .schedGroup).take ((schedulerSetAll npu old new attached log).2.1 - (lists .queue).length) ∧
        (lists .port).take done.updatePortCnt = (lists .port).take
          ((schedulerSetAll npu old new attached log).2.1 - (lists .queue ++ lists .schedGroup).length)) := by
  unfold qosSchedulerReapplyLists qosSchedulerQueueReapply qosSchedulerSchedGroupReapply qosSchedulerPortReapply
  rw [all, qosSchedulerUserReapply_apply (walks .queue) 0 (enough .queue), List.append_assoc]
  rcases schedulerSetAll_cases npu old new (lists .queue) log with
    queues | ⟨done, failed, rest, error, isError, split, stopped⟩
  · rw [schedulerSetAll_append_all queues, queues]
    dsimp only
    rw [qosSchedulerUserReapply_apply (walks .schedGroup) 0 (enough .schedGroup)]
    rcases schedulerSetAll_cases npu old new (lists .schedGroup)
        (log ++ (lists .queue).map (schedulerSetTo old new)) with
      groups | ⟨done, failed, rest, error, isError, split, stopped⟩
    · rw [schedulerSetAll_append_all groups, groups]
      dsimp only
      rw [qosSchedulerUserReapply_apply (walks .port) 0 (enough .port)]
      refine ⟨_, rfl, rfl, rfl, fun _ => ?_⟩
      refine ⟨?_, ?_, ?_⟩
      · rw [List.take_length, List.take_of_length_le (Nat.le_add_right _ _)]
      · rw [List.take_length, Nat.add_sub_cancel_left, List.take_of_length_le (Nat.le_add_right _ _)]
      · rw [List.length_append, ← Nat.add_assoc, Nat.add_sub_cancel_left]
    · have part : (schedulerSetAll npu old new (lists .schedGroup)
          (log ++ (lists .queue).map (schedulerSetTo old new))).2.2 ≠ .success := by
        rw [stopped]
        exact isError
      rw [schedulerSetAll_append_failed part, stopped]
      have inGroups : done.length ≤ (lists .schedGroup).length := by
        rw [split, List.length_append]
        exact Nat.le_add_right _ _
      cases error with
      | success => exact absurd rfl isError
      | _ =>
        refine ⟨_, rfl, rfl, rfl, fun _ => ⟨?_, ?_, ?_⟩⟩
        · rw [List.take_length, List.take_of_length_le (Nat.le_add_right _ _)]
        · rw [Nat.add_sub_cancel_left]
        · rw [List.length_append, Nat.add_sub_add_left, Nat.sub_eq_zero_of_le inGroups]
  · have part : (schedulerSetAll npu old new (lists .queue) log).2.2 ≠ .success := by
      rw [stopped]
      exact isError
    rw [schedulerSetAll_append_failed part, stopped]
    have inQueues : done.length ≤ (lists .queue).length := by
      rw [split, List.length_append]
      exact Nat.le_add_right _ _
    cases error with
    | success => exact absurd rfl isError
    | _ =>
      refine ⟨_, rfl, rfl, rfl, fun _ => ⟨rfl, ?_, ?_⟩⟩
      · rw [Nat.sub_eq_zero_of_le inQueues]
      · rw [List.length_append, Nat.sub_eq_zero_of_le (Nat.le_trans inQueues (Nat.le_add_right _ _))]

theorem qosSchedulerReapplyCalls_eq (walks : ∀ user, glue.Walks user old (lists user)) {fuel : Nat}
    (enough : ∀ user, (lists user).length ≤ fuel) (log : List SchedulerSet) :
    qosSchedulerReapplyCalls glue npu fuel old new log = some (schedulerReapplySets npu old new lists log) := by
  obtain ⟨done, ran, doneLog, doneStatus, covered⟩ := qosSchedulerReapplyLists_eq npu new walks enough log rfl
  unfold qosSchedulerReapplyCalls schedulerReapplySets
  rw [ran]
  dsimp only
  rw [← doneStatus, ← doneLog]
  by_cases success : done.status = .success
  · rw [if_neg (not_not.mpr success), if_pos success]
  obtain ⟨queues, groups, ports⟩ := covered success
  rw [if_pos success, if_neg success, ← queues, ← groups, ← ports]
  unfold qosSchedulerQueueReapply qosSchedulerSchedGroupReapply qosSchedulerPortReapply
  rw [qosSchedulerListRevert_eq (walks .queue) (enough .queue)]
  dsimp only
  rw [qosSchedulerListRevert_eq (walks .schedGroup) (enough .schedGroup)]
  dsimp only
  rw [qosSchedulerListRevert_eq (walks .port) (enough .port)]

end

def SchedulerAllSet (attached : List ObjectId) (old new : SchedulerNode) (before log : List SchedulerSet) : Prop :=
  log = before ++ attached.map (schedulerSetTo old new) ∧
    ∀ objectId ∈ attached, schedulerHeld log objectId = some (new.schedulerId, new.params)

/-- The objects before a failed call were set, and set back once each where the
calls that do so succeed. -/
def SchedulerSetBack (attached : List ObjectId) (old new : SchedulerNode) (before log : List SchedulerSet)
    (status : SaiStatus) : Prop :=
  ∃ changed failed rest reverts, attached = changed ++ failed :: rest ∧
    log = before ++ changed.map (schedulerSetTo old new) ++ ⟨failed, old, new, status⟩ :: reverts ∧
    ((∀ call ∈ reverts, call.status = .success) →
      reverts = changed.map (schedulerSetTo new old) ∧
      (∀ objectId ∈ changed, schedulerHeld log objectId = some (old.schedulerId, old.params)) ∧
      (∀ objectId ∉ changed, schedulerHeld log objectId = schedulerHeld before objectId) ∧
      ((∀ objectId ∈ attached, schedulerHeld before objectId = some (old.schedulerId, old.params)) →
        ∀ objectId ∈ attached, schedulerHeld log objectId = some (old.schedulerId, old.params)))

section
variable {old new : SchedulerNode}

theorem schedulerAllSet_of_log {log : List SchedulerSet}
    (all : log = before ++ attached.map (schedulerSetTo old new)) :
    SchedulerAllSet attached old new before log := by
  refine ⟨all, fun objectId member => ?_⟩
  rw [all, schedulerHeld_append, schedulerHeld_setTo, if_pos member, Option.some_or]

theorem schedulerSetBack_of_log {changed : List ObjectId} (isError : status ≠ .success) {reverts : List SchedulerSet}
    (back : (∀ call ∈ reverts, call.status = .success) → reverts = changed.map (schedulerSetTo new old)) :
    SchedulerSetBack (changed ++ failed :: rest) old new before
      (before ++ changed.map (schedulerSetTo old new) ++ ⟨failed, old, new, status⟩ :: reverts) status := by
  refine ⟨changed, failed, rest, reverts, rfl, rfl, fun succeeded => ?_⟩
  have reverted := back succeeded
  have held : ∀ objectId, schedulerHeld
      (before ++ changed.map (schedulerSetTo old new) ++ ⟨failed, old, new, status⟩ :: reverts) objectId =
        if objectId ∈ changed then some (old.schedulerId, old.params) else schedulerHeld before objectId := by
    intro objectId
    rw [List.append_cons, schedulerHeld_append, schedulerHeld_append, schedulerHeld_append,
      schedulerHeld_failed objectId isError, reverted, schedulerHeld_setTo, schedulerHeld_setTo, Option.none_or]
    by_cases member : objectId ∈ changed
    · rw [if_pos member, if_pos member, if_pos member, Option.some_or]
    · rw [if_neg member, if_neg member, if_neg member, Option.none_or, Option.none_or]
  have inside : ∀ objectId ∈ changed, schedulerHeld
      (before ++ changed.map (schedulerSetTo old new) ++ ⟨failed, old, new, status⟩ :: reverts) objectId =
        some (old.schedulerId, old.params) := by
    intro objectId member
    rw [held, if_pos member]
  have outside : ∀ objectId ∉ changed, schedulerHeld
      (before ++ changed.map (schedulerSetTo old new) ++ ⟨failed, old, new, status⟩ :: reverts) objectId =
        schedulerHeld before objectId := by
    intro objectId absent
    rw [held, if_neg absent]
  refine ⟨reverted, inside, outside, fun heldOld objectId member => ?_⟩
  by_cases touched : objectId ∈ changed
  · exact inside objectId touched
  · rw [outside objectId touched]
    exact heldOld objectId member

variable (npu : Nat → ObjectId → SaiStatus) (old new) (lists : SchedulerUser → List ObjectId)

theorem schedulerReapplySets_cases (before : List SchedulerSet) :
    (schedulerReapplySets npu old new lists before).2 = .success ∧
        SchedulerAllSet (lists .queue ++ lists .schedGroup ++ lists .port) old new before
          (schedulerReapplySets npu old new lists before).1 ∨
      (schedulerReapplySets npu old new lists before).2 ≠ .success ∧
        SchedulerSetBack (lists .queue ++ lists .schedGroup ++ lists .port) old new before
          (schedulerReapplySets npu old new lists before).1 (schedulerReapplySets npu old new lists before).2 := by
  unfold schedulerReapplySets
  dsimp only
  rcases schedulerSetAll_cases npu old new (lists .queue ++ lists .schedGroup ++ lists .port) before with
    all | ⟨changed, failed, rest, error, isError, split, stopped⟩
  · rw [all, if_pos rfl]
    exact .inl ⟨rfl, schedulerAllSet_of_log rfl⟩
  · rw [stopped, if_neg isError]
    dsimp only
    obtain ⟨queues, queueLog, queuesBack⟩ := schedulerSetAll_log npu new old
      ((lists .queue).take changed.length)
      (before ++ changed.map (schedulerSetTo old new) ++ [⟨failed, old, new, error⟩])
    rw [queueLog]
    obtain ⟨groups, sgLog, groupsBack⟩ := schedulerSetAll_log npu new old
      ((lists .schedGroup).take (changed.length - (lists .queue).length))
      (before ++ changed.map (schedulerSetTo old new) ++ [⟨failed, old, new, error⟩] ++ queues)
    rw [sgLog]
    obtain ⟨ports, portLog, portsBack⟩ := schedulerSetAll_log npu new old
      ((lists .port).take (changed.length - (lists .queue ++ lists .schedGroup).length))
      (before ++ changed.map (schedulerSetTo old new) ++ [⟨failed, old, new, error⟩] ++ queues ++ groups)
    rw [portLog]
    refine .inr ⟨isError, ?_⟩
    have covered : changed = (lists .queue).take changed.length ++
        (lists .schedGroup).take (changed.length - (lists .queue).length) ++
        (lists .port).take (changed.length - (lists .queue ++ lists .schedGroup).length) := by
      rw [← List.take_append, ← List.take_append, split, List.take_left]
    rw [split, List.append_assoc _ queues, List.append_assoc _ (queues ++ groups), List.append_assoc _ [_],
      List.singleton_append]
    refine schedulerSetBack_of_log isError fun succeeded => ?_
    have queuesDone := queuesBack fun call member =>
      succeeded call (List.mem_append_left _ (List.mem_append_left _ member))
    have groupsDone := groupsBack fun call member =>
      succeeded call (List.mem_append_left _ (List.mem_append_right _ member))
    have portsDone := portsBack fun call member => succeeded call (List.mem_append_right _ member)
    rw [queuesDone, groupsDone, portsDone, ← List.map_append, ← List.map_append, ← covered]

variable {old lists}

theorem schedulerReapplySets_status (users : ObjectId → SaiStatus) (sched : Scheduler) (log : List SchedulerSet) :
    (schedulerReapplySets (fun _ => users) old new sched.userList log).2 = qosSchedulerReapply sched users := by
  have status : ∀ objects log,
      (schedulerSetAll (fun _ => users) old new objects log).2.2 = qosSchedulerListReapply users objects := by
    intro objects
    induction objects with
    | nil => exact fun _ => rfl
    | cons objectId rest ih =>
      intro log
      rw [qosSchedulerListReapply]
      by_cases passed : users objectId = .success
      · rw [schedulerSetAll_passed passed, ih, passed]
      rw [schedulerSetAll_failed passed]
      split
      · exact absurd ‹_› passed
      · rfl
  have append : ∀ xs ys, qosSchedulerListReapply users (xs ++ ys) =
      if qosSchedulerListReapply users xs = .success then qosSchedulerListReapply users ys
      else qosSchedulerListReapply users xs := by
    intro xs ys
    induction xs with
    | nil =>
      rw [List.nil_append, qosSchedulerListReapply, if_pos rfl]
    | cons objectId rest ih =>
      rw [List.cons_append, qosSchedulerListReapply, qosSchedulerListReapply]
      split
      · exact ih
      · rw [if_neg ‹_›]
  have whole : (schedulerReapplySets (fun _ => users) old new sched.userList log).2 =
      qosSchedulerListReapply users (sched.queueList ++ sched.schedGroupList ++ sched.portList) := by
    unfold schedulerReapplySets
    dsimp only
    rw [status]
    split
    · exact Eq.symm ‹_›
    · rfl
  rw [whole, append, append, qosSchedulerReapply]
  by_cases queues : qosSchedulerListReapply users sched.queueList = .success
  · rw [if_pos queues, queues]
    dsimp only
    split
    · rw [‹qosSchedulerListReapply users sched.schedGroupList = .success›]
    split
    · exact absurd ‹_› ‹¬ _›
    · rfl
  · rw [if_neg queues, if_neg queues]
    split
    · exact absurd ‹_› queues
    · rfl

end

/-- The glue of a scheduler's own lists. A copy's list has no end that its
accessors see: the last object's glue leads to the head of the original. -/
def Scheduler.glue (sched : Scheduler) : SchedulerGlue where
  getFirst user node := if node.original then (sched.userList user).head? else some nullObjectId
  getNext user node objectId :=
    if node.original then ((sched.userList user).dropWhile fun other => other ≠ objectId).tail.head?
    else some objectId

theorem Scheduler.glue_walks (sched : Scheduler) (distinct : ∀ user, (sched.userList user).Nodup)
    {node : SchedulerNode} (original : node.original = true) (user : SchedulerUser) :
    sched.glue.Walks user node (sched.userList user) := by
  unfold Scheduler.glue SchedulerGlue.Walks
  dsimp only
  rw [if_pos original]
  refine ⟨rfl, fun before objectId after split => ?_⟩
  rw [if_pos original]
  have once := distinct user
  rw [split] at once
  have absent : ∀ other ∈ before, decide (other ≠ objectId) = true := by
    intro other member
    have apart := (List.nodup_append.mp once).2.2 other member objectId List.mem_cons_self
    exact decide_eq_true apart
  rw [split, List.dropWhile_append_of_pos absent, List.dropWhile_cons_of_neg (by simp), List.tail_cons]

section
variable (npu : Nat → ObjectId → SaiStatus) {old : SchedulerNode} (new : SchedulerNode) {glue : SchedulerGlue}
  {lists : SchedulerUser → List ObjectId}

/-- All attached objects take the new parameters or none keeps them, and both
halves come to the end of the lists of the old node, whatever the glue of the
new one. -/
theorem qosSchedulerReapplyCalls_allOrNothing (walks : ∀ user, glue.Walks user old (lists user)) {fuel : Nat}
    (enough : ∀ user, (lists user).length ≤ fuel) (before : List SchedulerSet) :
    ∃ log status, qosSchedulerReapplyCalls glue npu fuel old new before = some (log, status) ∧
      (status = .success ∧
          SchedulerAllSet (lists .queue ++ lists .schedGroup ++ lists .port) old new before log ∨
        status ≠ .success ∧
          SchedulerSetBack (lists .queue ++ lists .schedGroup ++ lists .port) old new before log status) :=
  ⟨_, _, qosSchedulerReapplyCalls_eq npu new walks enough before,
    schedulerReapplySets_cases old new npu lists before⟩

end

def reapplySample : Scheduler where
  params := (qosSchedulerNodeInit ⟨1, 0⟩).params
  portList := [⟨.port, 1⟩]
  queueList := [⟨.queue, 1⟩, ⟨.queue, 2⟩]
  schedGroupList := [⟨.schedulerGroup, 1⟩]

/-- The group refuses, and the two queues are set back. -/
theorem qosSchedulerReapplyCalls_allOrNothing_sample : ∃ log,
    qosSchedulerReapplyCalls reapplySample.glue (fun place _ => if place = 2 then .failure else .success) 2
      ⟨⟨.scheduler, 1⟩, reapplySample.params, true⟩
      ⟨⟨.scheduler, 1⟩, { reapplySample.params with weight := 5 }, false⟩ [] = some (log, .failure) ∧
    SchedulerSetBack [⟨.queue, 1⟩, ⟨.queue, 2⟩, ⟨.schedulerGroup, 1⟩, ⟨.port, 1⟩]
      ⟨⟨.scheduler, 1⟩, reapplySample.params, true⟩
      ⟨⟨.scheduler, 1⟩, { reapplySample.params with weight := 5 }, false⟩ [] log .failure := by
  have distinct : ∀ user, (reapplySample.userList user).Nodup := by
    intro user
    cases user <;> decide
  have enough : ∀ user, (reapplySample.userList user).length ≤ 2 := by
    intro user
    cases user <;> decide
  have walks : ∀ user, reapplySample.glue.Walks user ⟨⟨.scheduler, 1⟩, reapplySample.params, true⟩
      (reapplySample.userList user) := reapplySample.glue_walks distinct rfl
  obtain ⟨log, status, ran, result⟩ := qosSchedulerReapplyCalls_allOrNothing
    (fun place _ => if place = 2 then .failure else .success)
    ⟨⟨.scheduler, 1⟩, { reapplySample.params with weight := 5 }, false⟩ walks enough []
  have failed : status = .failure := by
    have ended := congrArg (Option.map Prod.snd) ran
    exact (Option.some.inj ended).symm
  subst failed
  rcases result with ⟨success, _⟩ | ⟨_, back⟩
  · cases success
  · exact ⟨log, ran, back⟩

end SaiCommon
