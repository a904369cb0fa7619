import SaiCommon.Qos.BufferDirection

namespace SaiCommon

variable {u : BufferUpdate} {status : SaiStatus} {m : BufferNpu} {rest done : List ObjectId} {profileId : ObjectId}

/-- What the NPU holds for one attribute on every object, and the calls that it got. -/
structure BufferNpu where
  held : ObjectId → BufferProfileAttr
  calls : List (ObjectId × BufferProfileAttr)

/-- `buffer_profile_attr_set`; a call that fails changes nothing. -/
def BufferNpu.attrSet (npu : ObjectId → SaiStatus) (n : BufferNpu) (objectId : ObjectId)
    (attr : BufferProfileAttr) : BufferNpu × SaiStatus :=
  match npu objectId with
  | .success => (⟨Function.update n.held objectId attr, n.calls ++ [(objectId, attr)]⟩, .success)
  | error => ({ n with calls := n.calls ++ [(objectId, attr)] }, error)

def BufferNpu.updateList (npu : ObjectId → SaiStatus) (attr : BufferProfileAttr) (stop : ObjectId) :
    List ObjectId → BufferNpu → BufferNpu × SaiStatus × ObjectId
  | [], n => (n, .success, stop)
  | objectId :: rest, n =>
    if objectId = stop then (n, .success, stop)
    else match n.attrSet npu objectId attr with
      | (next, .success) => updateList npu attr stop rest next
      | (next, error) => (next, error, objectId)

/-- The variables of `sai_qos_update_buffer_profile_objects`, with the NPU. -/
structure BufferUpdate where
  npu : BufferNpu
  portId : ObjectId
  queueId : ObjectId
  pgId : ObjectId
  portUpdate : Bool
  queueUpdate : Bool
  pgUpdate : Bool

namespace BufferUpdate
variable (profile : BufferProfile) (npu : ObjectId → SaiStatus) (attr : BufferProfileAttr)

def ports (u : BufferUpdate) : BufferUpdate × SaiStatus :=
  match u.npu.updateList npu attr u.portId profile.portList with
  | (n, status, stop) => ({ u with npu := n, portId := stop, portUpdate := true }, status)

def queues (u : BufferUpdate) : BufferUpdate × SaiStatus :=
  match u.npu.updateList npu attr u.queueId profile.queueList with
  | (n, status, stop) => ({ u with npu := n, queueId := stop, queueUpdate := true }, status)

def pgs (u : BufferUpdate) : BufferUpdate × SaiStatus :=
  match u.npu.updateList npu attr u.pgId profile.pgList with
  | (n, status, stop) => ({ u with npu := n, pgId := stop, pgUpdate := true }, status)

def all (u : BufferUpdate) : BufferUpdate × SaiStatus :=
  match u.ports profile npu attr with
  | (ported, .success) =>
    match ported.queues profile npu attr with
    | (queued, .success) => queued.pgs profile npu attr
    | (queued, error) => (queued, error)
  | (ported, error) => (ported, error)

def users (u : BufferUpdate) : BufferUpdate × SaiStatus :=
  match attr with
  | .thMode _ => (u, .success)
  | .xoffTh _ => u.pgs profile npu attr
  | .xonTh _ => u.pgs profile npu attr
  | _ => u.all profile npu attr

def undo (u : BufferUpdate) : BufferUpdate :=
  let ported := if u.portUpdate then (u.ports profile npu attr).1 else u
  let queued := if u.queueUpdate then (ported.queues profile npu attr).1 else ported
  if u.pgUpdate then (queued.pgs profile npu attr).1 else queued

end BufferUpdate

/-- `sai_qos_update_buffer_profile_objects` with the NPU; `undo` answers the calls that
give the old value back. -/
def npuUpdateBufferProfileObjects (s : QosState) (profileId : ObjectId) (profile : BufferProfile)
    (attr oldAttr : BufferProfileAttr) (npu undo : ObjectId → SaiStatus) (n : BufferNpu) :
    QosState × BufferNpu × SaiStatus :=
  let start : BufferUpdate := ⟨n, nullObjectId, nullObjectId, nullObjectId, false, false, false⟩
  match start.users profile npu attr with
  | (u, .success) =>
    match qosUpdateBufferProfileNode profileId 0 [attr] s profile with
    | (t, node, .success) =>
      ({ t with bufferProfileTree := t.bufferProfileTree.put profileId node }, u.npu, .success)
    | (t, node, error) =>
      ({ t with bufferProfileTree := t.bufferProfileTree.put profileId node },
        (u.undo profile undo oldAttr).npu, error)
  | (u, error) => (s, (u.undo profile undo oldAttr).npu, error)

/-- The objects that an attribute concerns: the threshold mode is one of the cache, and the
PFC thresholds are for priority groups. -/
def bufferProfileConcerned (profile : BufferProfile) : BufferProfileAttr → List ObjectId
  | .thMode _ => []
  | .xoffTh _ => profile.pgList
  | .xonTh _ => profile.pgList
  | _ => profile.portList ++ profile.queueList ++ profile.pgList

def BufferProfile.Caches (profile : BufferProfile) : BufferProfileAttr → Prop
  | .poolId oid => profile.bufferPoolId = oid
  | .bufferSize value => profile.size = value
  | .thMode mode => profile.profileThEnable = true ∧ profile.thresholdMode = mode
  | .sharedDynamicTh value => profile.dynamicTh = value
  | .sharedStaticTh value => profile.staticTh = value
  | .xoffTh value => profile.xoffTh = value
  | .xonTh value => profile.xonTh = value
  | .unknown => False

/-- The users of a profile are objects of their own, each in one list once. -/
structure BufferUsersDistinct (profile : BufferProfile) : Prop where
  once : (profile.portList ++ profile.queueList ++ profile.pgList).Nodup
  notNull : nullObjectId ∉ profile.portList ++ profile.queueList ++ profile.pgList

section Lists
variable {npu : ObjectId → SaiStatus} {attr : BufferProfileAttr} {stop : ObjectId} {users : List ObjectId}
  {n : BufferNpu}

def BufferNpu.served (attr : BufferProfileAttr) (users : List ObjectId) (n : BufferNpu) : BufferNpu where
  held := fun objectId => if objectId ∈ users then attr else n.held objectId
  calls := n.calls ++ users.map fun objectId => (objectId, attr)

def BufferNpu.refused (attr : BufferProfileAttr) (objectId : ObjectId) (n : BufferNpu) : BufferNpu :=
  { n with calls := n.calls ++ [(objectId, attr)] }

theorem BufferNpu.ext_of {n : BufferNpu} (held : ∀ id, n.held id = m.held id) (calls : n.calls = m.calls) :
    n = m := by
  cases n
  cases m
  cases calls
  rw [BufferNpu.mk.injEq]
  exact ⟨funext held, rfl⟩

theorem BufferNpu.served_nil : n.served attr [] = n := by
  refine BufferNpu.ext_of (fun id => ?_) (List.append_nil _)
  simp [BufferNpu.served]

theorem BufferNpu.served_cons {objectId : ObjectId} :
    BufferNpu.served attr rest ⟨Function.update n.held objectId attr, n.calls ++ [(objectId, attr)]⟩ =
      n.served attr (objectId :: rest) := by
  refine BufferNpu.ext_of (fun id => ?_) ?_
  · simp only [BufferNpu.served, Function.update_apply, List.mem_cons]
    by_cases same : id = objectId <;> by_cases member : id ∈ rest <;> simp [same, member]
  · simp [BufferNpu.served]

theorem BufferNpu.served_append {first second : List ObjectId} :
    (n.served attr first).served attr second = n.served attr (first ++ second) := by
  refine BufferNpu.ext_of (fun id => ?_) ?_
  · simp only [BufferNpu.served, List.mem_append]
    by_cases inFirst : id ∈ first <;> by_cases inSecond : id ∈ second <;> simp [inFirst, inSecond]
  · simp [BufferNpu.served]

theorem BufferNpu.updateList_taken {objectId : ObjectId} (apart : objectId ≠ stop)
    (taken : npu objectId = .success) : n.updateList npu attr stop (objectId :: rest) =
      BufferNpu.updateList npu attr stop rest
        ⟨Function.update n.held objectId attr, n.calls ++ [(objectId, attr)]⟩ := by
  conv_lhs => unfold BufferNpu.updateList
  rw [if_neg apart]
  unfold BufferNpu.attrSet
  rw [taken]

theorem BufferNpu.updateList_refused {objectId : ObjectId} (apart : objectId ≠ stop)
    (failed : npu objectId ≠ .success) : n.updateList npu attr stop (objectId :: rest) =
      (n.refused attr objectId, npu objectId, objectId) := by
  unfold BufferNpu.updateList
  rw [if_neg apart]
  have asked : n.attrSet npu objectId attr = (n.refused attr objectId, npu objectId) := by
    unfold BufferNpu.attrSet
    split
    · next taken => exact absurd taken failed
    · rfl
  rw [asked]
  split
  · next taken => exact absurd (Prod.ext_iff.mp taken).2 failed
  next same =>
  cases same
  rfl

theorem BufferNpu.updateList_cases (npu : ObjectId → SaiStatus) (attr : BufferProfileAttr) (n : BufferNpu)
    (absent : stop ∉ users) :
    n.updateList npu attr stop users = (n.served attr users, .success, stop) ∧
    (∀ id ∈ users, npu id = .success) ∨
    ∃ done failed rest, users = done ++ failed :: rest ∧ npu failed ≠ .success ∧
      (∀ id ∈ done, npu id = .success) ∧
      n.updateList npu attr stop users = ((n.served attr done).refused attr failed, npu failed, failed) := by
  induction users generalizing n with
  | nil => exact .inl ⟨by rw [BufferNpu.served_nil]; rfl, nofun⟩
  | cons objectId rest ih =>
    have apart : objectId ≠ stop := fun same => absent (same ▸ List.mem_cons_self)
    by_cases taken : npu objectId = .success
    · rw [BufferNpu.updateList_taken apart taken]
      rcases ih ⟨Function.update n.held objectId attr, n.calls ++ [(objectId, attr)]⟩
          (fun member => absent (List.mem_cons_of_mem _ member)) with
        ⟨ended, all⟩ | ⟨done, failed, tail, split, refused, all, ended⟩
      · rw [BufferNpu.served_cons] at ended
        exact .inl ⟨ended, List.forall_mem_cons.mpr ⟨taken, all⟩⟩
      · rw [BufferNpu.served_cons] at ended
        refine .inr ⟨objectId :: done, failed, tail, ?_, refused, List.forall_mem_cons.mpr ⟨taken, all⟩, ended⟩
        rw [split, List.cons_append]
    · refine .inr ⟨[], objectId, rest, rfl, taken, nofun, ?_⟩
      rw [BufferNpu.updateList_refused apart taken, BufferNpu.served_nil]

theorem BufferNpu.updateList_all (accepts : ∀ id, npu id = .success) (absent : stop ∉ users) :
    n.updateList npu attr stop users = (n.served attr users, .success, stop) := by
  rcases BufferNpu.updateList_cases npu attr n absent with ⟨ended, -⟩ | ⟨_, failed, _, -, refused, -⟩
  · exact ended
  · exact absurd (accepts failed) refused

theorem BufferNpu.updateList_upTo (accepts : ∀ id, npu id = .success) (new : stop ∉ done) :
    n.updateList npu attr stop (done ++ stop :: rest) = (n.served attr done, .success, stop) := by
  induction done generalizing n with
  | nil =>
    rw [BufferNpu.served_nil]
    exact if_pos rfl
  | cons objectId done ih =>
    have apart : objectId ≠ stop := fun same => new (same ▸ List.mem_cons_self)
    rw [List.cons_append, BufferNpu.updateList_taken apart (accepts objectId),
      ih (fun member => new (List.mem_cons_of_mem _ member)), BufferNpu.served_cons]

end Lists

section Users
variable {profile : BufferProfile} {npu undo : ObjectId → SaiStatus} {attr oldAttr : BufferProfileAttr}
  {n : BufferNpu}

/-- What the calls of an update over `users` leave, with what the undo then makes of it. -/
def BufferUpdate.Served (profile : BufferProfile) (npu undo : ObjectId → SaiStatus) (attr oldAttr : BufferProfileAttr)
    (users : List ObjectId) (n : BufferNpu) (outcome : BufferUpdate × SaiStatus) : Prop :=
  outcome.2 = .success ∧ (∀ id ∈ users, npu id = .success) ∧ outcome.1.npu = n.served attr users ∧
      (outcome.1.undo profile undo oldAttr).npu = (n.served attr users).served oldAttr users ∨
    ∃ done failed rest, users = done ++ failed :: rest ∧ npu failed ≠ .success ∧
      (∀ id ∈ done, npu id = .success) ∧
      outcome.2 = npu failed ∧ (outcome.1.undo profile undo oldAttr).npu =
        ((n.served attr done).refused attr failed).served oldAttr done

theorem BufferUpdate.ports_of {stop : ObjectId}
    (run : u.npu.updateList npu attr u.portId profile.portList = (m, status, stop)) :
    u.ports profile npu attr = ({ u with npu := m, portId := stop, portUpdate := true }, status) := by
  unfold BufferUpdate.ports
  rw [run]

theorem BufferUpdate.queues_of {stop : ObjectId}
    (run : u.npu.updateList npu attr u.queueId profile.queueList = (m, status, stop)) :
    u.queues profile npu attr = ({ u with npu := m, queueId := stop, queueUpdate := true }, status) := by
  unfold BufferUpdate.queues
  rw [run]

theorem BufferUpdate.pgs_of {stop : ObjectId}
    (run : u.npu.updateList npu attr u.pgId profile.pgList = (m, status, stop)) :
    u.pgs profile npu attr = ({ u with npu := m, pgId := stop, pgUpdate := true }, status) := by
  unfold BufferUpdate.pgs
  rw [run]

theorem BufferUpdate.pgs_served (distinct : BufferUsersDistinct profile) (accepts : ∀ id, undo id = .success) :
    BufferUpdate.Served profile npu undo attr oldAttr profile.pgList n
      (BufferUpdate.pgs profile npu attr ⟨n, nullObjectId, nullObjectId, nullObjectId, false, false, false⟩) := by
  have noNull : nullObjectId ∉ profile.pgList := fun member => distinct.notNull (List.mem_append_right _ member)
  have once : profile.pgList.Nodup := (List.nodup_append.mp distinct.once).2.1
  rcases BufferNpu.updateList_cases npu attr n noNull with
    ⟨ended, all⟩ | ⟨done, failed, rest, split, refused, all, ended⟩
  · refine .inl ⟨?_, all, ?_, ?_⟩
    · rw [BufferUpdate.pgs_of ended]
    · rw [BufferUpdate.pgs_of ended]
    · rw [BufferUpdate.pgs_of ended]
      have back : (n.served attr profile.pgList).updateList undo oldAttr nullObjectId profile.pgList =
          ((n.served attr profile.pgList).served oldAttr profile.pgList, .success, nullObjectId) :=
        BufferNpu.updateList_all accepts noNull
      unfold BufferUpdate.undo
      simp only [Bool.false_eq_true, if_false, if_true]
      rw [BufferUpdate.pgs_of back]
  · refine .inr ⟨done, failed, rest, split, refused, all, ?_, ?_⟩
    · rw [BufferUpdate.pgs_of ended]
    · rw [BufferUpdate.pgs_of ended]
      have new : failed ∉ done := by
        rw [split] at once
        exact fun member => (List.nodup_append.mp once).2.2 failed member failed List.mem_cons_self rfl
      have back : ((n.served attr done).refused attr failed).updateList undo oldAttr failed profile.pgList =
          (((n.served attr done).refused attr failed).served oldAttr done, .success, failed) := by
        rw [split]
        exact BufferNpu.updateList_upTo accepts new
      unfold BufferUpdate.undo
      simp only [Bool.false_eq_true, if_false, if_true]
      rw [BufferUpdate.pgs_of back]

theorem BufferNpu.updateList_back {users : List ObjectId} {failed : ObjectId} (accepts : ∀ id, undo id = .success)
    (once : users.Nodup) (split : users = done ++ failed :: rest) (m : BufferNpu) :
    m.updateList undo oldAttr failed users = (m.served oldAttr done, .success, failed) := by
  rw [split] at once ⊢
  refine BufferNpu.updateList_upTo accepts fun member => ?_
  exact (List.nodup_append.mp once).2.2 failed member failed List.mem_cons_self rfl

theorem BufferUpdate.all_served (distinct : BufferUsersDistinct profile) (accepts : ∀ id, undo id = .success) :
    BufferUpdate.Served profile npu undo attr oldAttr (profile.portList ++ profile.queueList ++ profile.pgList) n
      (BufferUpdate.all profile npu attr ⟨n, nullObjectId, nullObjectId, nullObjectId, false, false, false⟩) := by
  obtain ⟨once, notNull⟩ := distinct
  obtain ⟨two, oncePgs, -⟩ := List.nodup_append.mp once
  obtain ⟨oncePorts, onceQueues, -⟩ := List.nodup_append.mp two
  simp only [List.mem_append, not_or] at notNull
  obtain ⟨⟨noPort, noQueue⟩, noPg⟩ := notNull
  have portsBack : ∀ u : BufferUpdate, u.portId = nullObjectId → u.ports profile undo oldAttr =
      ({ u with npu := u.npu.served oldAttr profile.portList, portId := nullObjectId, portUpdate := true },
        .success) := by
    intro u isNull
    refine BufferUpdate.ports_of ?_
    rw [isNull]
    exact BufferNpu.updateList_all accepts noPort
  have queuesBack : ∀ u : BufferUpdate, u.queueId = nullObjectId → u.queues profile undo oldAttr =
      ({ u with npu := u.npu.served oldAttr profile.queueList, queueId := nullObjectId, queueUpdate := true },
        .success) := by
    intro u isNull
    refine BufferUpdate.queues_of ?_
    rw [isNull]
    exact BufferNpu.updateList_all accepts noQueue
  have pgsBack : ∀ u : BufferUpdate, u.pgId = nullObjectId → u.pgs profile undo oldAttr =
      ({ u with npu := u.npu.served oldAttr profile.pgList, pgId := nullObjectId, pgUpdate := true },
        .success) := by
    intro u isNull
    refine BufferUpdate.pgs_of ?_
    rw [isNull]
    exact BufferNpu.updateList_all accepts noPg
  unfold BufferUpdate.all
  rcases BufferNpu.updateList_cases npu attr n noPort with
    ⟨ported, allPorts⟩ | ⟨done, failed, rest, split, refused, all, ended⟩
  · rw [BufferUpdate.ports_of ported]
    dsimp only
    rcases BufferNpu.updateList_cases npu attr (n.served attr profile.portList) noQueue with
      ⟨queued, allQueues⟩ | ⟨done, failed, rest, split, refused, all, ended⟩
    · rw [BufferUpdate.queues_of queued]
      dsimp only
      rcases BufferNpu.updateList_cases npu attr ((n.served attr profile.portList).served attr profile.queueList)
        noPg with ⟨served, allPgs⟩ | ⟨done, failed, rest, split, refused, all, ended⟩
      · rw [BufferUpdate.pgs_of served]
        refine .inl ⟨rfl, ?_, ?_, ?_⟩
        · intro id member
          rcases List.mem_append.mp member with either | isPg
          · exact (List.mem_append.mp either).elim (allPorts id) (allQueues id)
          · exact allPgs id isPg
        · exact BufferNpu.served_append.trans (by rw [BufferNpu.served_append, List.append_assoc])
        · unfold BufferUpdate.undo
          simp only [if_true]
          rw [portsBack _ rfl, queuesBack _ rfl, pgsBack _ rfl]
          simp only [BufferNpu.served_append]
      · rw [BufferUpdate.pgs_of ended]
        refine .inr ⟨profile.portList ++ profile.queueList ++ done, failed, rest, ?_, refused, ?_, rfl, ?_⟩
        · rw [List.append_assoc _ done, ← split]
        · intro id member
          rcases List.mem_append.mp member with either | isPg
          · exact (List.mem_append.mp either).elim (allPorts id) (allQueues id)
          · exact all id isPg
        · unfold BufferUpdate.undo
          simp only [if_true]
          rw [portsBack _ rfl, queuesBack _ rfl,
            BufferUpdate.pgs_of (BufferNpu.updateList_back accepts oncePgs split _)]
          simp only [BufferNpu.served_append]
    · rw [BufferUpdate.queues_of ended]
      split
      · next same => exact absurd (Prod.ext_iff.mp same).2 refused
      next same =>
      rw [← same]
      refine .inr ⟨profile.portList ++ done, failed, rest ++ profile.pgList, ?_, refused, ?_, rfl, ?_⟩
      · rw [split]
        simp
      · exact fun id member => (List.mem_append.mp member).elim (allPorts id) (all id)
      · unfold BufferUpdate.undo
        simp only [if_true, Bool.false_eq_true, if_false]
        rw [portsBack _ rfl, BufferUpdate.queues_of (BufferNpu.updateList_back accepts onceQueues split _)]
        simp only [BufferNpu.served_append]
  · rw [BufferUpdate.ports_of ended]
    split
    · next same => exact absurd (Prod.ext_iff.mp same).2 refused
    next same =>
    rw [← same]
    refine .inr ⟨done, failed, rest ++ profile.queueList ++ profile.pgList, ?_, refused, all, rfl, ?_⟩
    · rw [split]
      simp
    · unfold BufferUpdate.undo
      simp only [if_true, Bool.false_eq_true, if_false]
      rw [BufferUpdate.ports_of (BufferNpu.updateList_back accepts oncePorts split _)]

theorem BufferUpdate.users_served (distinct : BufferUsersDistinct profile) (accepts : ∀ id, undo id = .success) :
    BufferUpdate.Served profile npu undo attr oldAttr (bufferProfileConcerned profile attr) n
      (BufferUpdate.users profile npu attr ⟨n, nullObjectId, nullObjectId, nullObjectId, false, false, false⟩) := by
  cases attr with
  | thMode mode =>
    refine .inl ⟨rfl, fun id member => absurd member List.not_mem_nil, BufferNpu.served_nil.symm, ?_⟩
    exact (BufferNpu.served_nil.trans BufferNpu.served_nil).symm
  | xoffTh value => exact BufferUpdate.pgs_served distinct accepts
  | xonTh value => exact BufferUpdate.pgs_served distinct accepts
  | poolId oid => exact BufferUpdate.all_served distinct accepts
  | bufferSize value => exact BufferUpdate.all_served distinct accepts
  | sharedDynamicTh value => exact BufferUpdate.all_served distinct accepts
  | sharedStaticTh value => exact BufferUpdate.all_served distinct accepts
  | unknown => exact BufferUpdate.all_served distinct accepts

theorem qosUpdateBufferProfileNode_caches {s t : QosState} {index : Nat} {node : BufferProfile}
    (run : qosUpdateBufferProfileNode profileId index [attr] s profile = (t, node, .success)) : node.Caches attr := by
  cases attr with
  | poolId oid =>
    unfold qosUpdateBufferProfileNode at run
    split at run
    · cases run
    · cases run
      rfl
  | thMode mode =>
    cases run
    exact ⟨rfl, rfl⟩
  | unknown => cases run
  | _ =>
    cases run
    rfl

theorem BufferNpu.served_old
    (same : ∀ id, m.held id = n.held id ∨ id ∈ done) (id : ObjectId) (old : n.held id = oldAttr) :
    (m.served oldAttr done).held id = oldAttr := by
  unfold BufferNpu.served
  dsimp only
  split
  · rfl
  · next absent => exact ((same id).resolve_right absent).trans old

theorem BufferNpu.served_apart
    (same : ∀ id, m.held id = n.held id ∨ id ∈ done) (id : ObjectId) (absent : id ∉ done) :
    (m.served oldAttr done).held id = n.held id := by
  unfold BufferNpu.served
  dsimp only
  rw [if_neg absent]
  exact (same id).resolve_right absent

theorem BufferNpu.served_other {users : List ObjectId} (id : ObjectId) :
    (n.served attr users).held id = n.held id ∨ id ∈ users := by
  unfold BufferNpu.served
  dsimp only
  split
  · next member => exact .inr member
  · exact .inl rfl

/-- An attribute set on a profile's users is all or nothing: every object it concerns and
the cache have the value, or the objects served before the failure have the old value again. -/
theorem bufferProfileObjects_atomic {s t : QosState} {profileId : ObjectId} {m : BufferNpu} {status : SaiStatus}
    (stored : s.bufferProfileTree.get profileId = some profile) (distinct : BufferUsersDistinct profile)
    (accepts : ∀ id, undo id = .success)
    (run : npuUpdateBufferProfileObjects s profileId profile attr oldAttr npu undo n = (t, m, status)) :
    (status = .success → (∀ id ∈ bufferProfileConcerned profile attr, m.held id = attr) ∧
      (∀ id, id ∉ bufferProfileConcerned profile attr → m.held id = n.held id) ∧
      ∃ node, t.bufferProfileTree.get profileId = some node ∧ node.Caches attr) ∧
    (status ≠ .success → t = s ∧ (∀ id, n.held id = oldAttr → m.held id = oldAttr) ∧
      ∃ done tail, bufferProfileConcerned profile attr = done ++ tail ∧ (∀ id ∈ done, npu id = .success) ∧
        (∀ id, id ∉ done → m.held id = n.held id) ∧
        m.calls = n.calls ++ (done ++ tail.take 1).map (fun id => (id, attr)) ++
          done.map fun id => (id, oldAttr)) := by
  have served := @BufferUpdate.users_served profile npu undo attr oldAttr n distinct accepts
  unfold npuUpdateBufferProfileObjects at run
  dsimp only at run
  generalize BufferUpdate.users profile npu attr ⟨n, nullObjectId, nullObjectId, nullObjectId, false,
    false, false⟩ =
    outcome at served run
  obtain ⟨u, asked⟩ := outcome
  rcases served with ⟨taken, all, isServed, back⟩ | ⟨done, failed, rest, split, refused, all, same, back⟩
  · dsimp only at taken isServed back
    subst taken
    dsimp only at run
    generalize written : qosUpdateBufferProfileNode profileId 0 [attr] s profile = write at run
    obtain ⟨v, node, wrote⟩ := write
    by_cases success : wrote = .success
    · subst success
      cases run
      refine ⟨fun _ => ⟨?_, ?_, node, KeyTree.get_put_self _ _ _, qosUpdateBufferProfileNode_caches written⟩,
        fun failed => absurd rfl failed⟩
      · intro id member
        rw [isServed]
        exact if_pos member
      · intro id absent
        rw [isServed]
        exact if_neg absent
    · obtain ⟨isState, isNode⟩ := qosUpdateBufferProfileNode_error written success
      have ended : (t, m, status) = (s, (BufferUpdate.undo profile undo oldAttr u).npu, wrote) := by
        rw [← run]
        split
        · next same =>
          cases same
          exact absurd rfl success
        · next same =>
          cases same
          rw [isState, isNode, KeyTree.put_same stored]
      cases ended
      refine ⟨fun done => absurd done success, fun _ => ⟨rfl, ?_, _, [], (List.append_nil _).symm, all, ?_, ?_⟩⟩
      · rw [back]
        exact BufferNpu.served_old BufferNpu.served_other
      · rw [back]
        exact BufferNpu.served_apart BufferNpu.served_other
      · rw [back]
        rw [List.take_nil, List.append_nil]
        rfl
  · have ended : (t, m, status) = (s, (BufferUpdate.undo profile undo oldAttr u).npu, asked) := by
      rw [← run]
      split
      · next taken =>
        cases taken
        exact absurd same.symm refused
      · next taken =>
        cases taken
        rfl
    cases ended
    refine ⟨fun done => absurd (same.symm.trans done) refused, fun _ =>
      ⟨rfl, ?_, done, failed :: rest, split, all, ?_, ?_⟩⟩
    · rw [back]
      exact BufferNpu.served_old BufferNpu.served_other
    · rw [back]
      exact BufferNpu.served_apart BufferNpu.served_other
    · rw [back]
      simp [BufferNpu.served, BufferNpu.refused]

theorem BufferNpu.updateList_status {stop : ObjectId} {users : List ObjectId} :
    (n.updateList npu attr stop users).2 = qosUpdateBufferProfileList npu stop users := by
  induction users generalizing n with
  | nil => rfl
  | cons objectId rest ih =>
    unfold qosUpdateBufferProfileList
    by_cases reached : objectId = stop
    · rw [if_pos reached]
      unfold BufferNpu.updateList
      rw [if_pos reached]
    rw [if_neg reached]
    by_cases taken : npu objectId = .success
    · rw [BufferNpu.updateList_taken reached taken, taken]
      exact ih
    rw [BufferNpu.updateList_refused reached taken]
    dsimp only
    split
    · next success => exact absurd success taken
    · rfl

theorem BufferUpdate.ports_status (u : BufferUpdate) :
    (u.ports profile npu attr).2 = (qosUpdateBufferProfilePorts profile npu u.portId).1 := by
  unfold BufferUpdate.ports qosUpdateBufferProfilePorts
  rw [← @BufferNpu.updateList_status npu attr u.npu]

theorem BufferUpdate.queues_status (u : BufferUpdate) :
    (u.queues profile npu attr).2 = (qosUpdateBufferProfileQueues profile npu u.queueId).1 := by
  unfold BufferUpdate.queues qosUpdateBufferProfileQueues
  rw [← @BufferNpu.updateList_status npu attr u.npu]

theorem BufferUpdate.pgs_status (u : BufferUpdate) :
    (u.pgs profile npu attr).2 = (qosUpdateBufferProfilePgs profile npu u.pgId).1 := by
  unfold BufferUpdate.pgs qosUpdateBufferProfilePgs
  rw [← @BufferNpu.updateList_status npu attr u.npu]

theorem BufferUpdate.all_status (u : BufferUpdate) : (u.all profile npu attr).2 =
    match (qosUpdateBufferProfilePorts profile npu u.portId).1 with
    | .success =>
      match (qosUpdateBufferProfileQueues profile npu u.queueId).1 with
      | .success => (qosUpdateBufferProfilePgs profile npu u.pgId).1
      | error => error
    | error => error := by
  have portsRest : (u.ports profile npu attr).1.queueId = u.queueId ∧ (u.ports profile npu attr).1.pgId = u.pgId :=
    ⟨rfl, rfl⟩
  rw [← @BufferUpdate.ports_status profile npu attr u]
  unfold BufferUpdate.all
  generalize u.ports profile npu attr = first at portsRest ⊢
  obtain ⟨ported, status⟩ := first
  obtain ⟨sameQueue, samePg⟩ := portsRest
  cases status with
  | success =>
    have queuesRest : (ported.queues profile npu attr).1.pgId = ported.pgId := rfl
    dsimp only at sameQueue samePg ⊢
    rw [← sameQueue, ← samePg, ← @BufferUpdate.queues_status profile npu attr ported]
    generalize ported.queues profile npu attr = second at queuesRest ⊢
    obtain ⟨queued, status⟩ := second
    cases status with
    | success =>
      have last := @BufferUpdate.pgs_status profile npu attr queued
      rw [queuesRest] at last
      exact last
    | _ => rfl
  | _ => rfl

theorem BufferUpdate.users_status :
    (BufferUpdate.users profile npu attr ⟨n, nullObjectId, nullObjectId, nullObjectId, false, false, false⟩).2 =
      qosUpdateBufferProfileUsers profile attr npu := by
  cases attr with
  | thMode mode => rfl
  | xoffTh value => exact BufferUpdate.pgs_status _
  | xonTh value => exact BufferUpdate.pgs_status _
  | _ => exact BufferUpdate.all_status _

/-- Without the NPU this is the update of the profile's objects that the database sees. -/
theorem npuUpdateBufferProfileObjects_database (s : QosState) (profileId : ObjectId) (n : BufferNpu) :
    ((npuUpdateBufferProfileObjects s profileId profile attr oldAttr npu undo n).1,
      (npuUpdateBufferProfileObjects s profileId profile attr oldAttr npu undo n).2.2) =
      qosUpdateBufferProfileObjects s profileId profile attr npu := by
  have asked := @BufferUpdate.users_status profile npu attr n
  unfold npuUpdateBufferProfileObjects qosUpdateBufferProfileObjects
  dsimp only
  rw [← asked]
  generalize BufferUpdate.users profile npu attr ⟨n, nullObjectId, nullObjectId, nullObjectId, false,
    false, false⟩ =
    outcome
  obtain ⟨u, status⟩ := outcome
  cases status with
  | success =>
    dsimp only
    generalize qosUpdateBufferProfileNode profileId 0 [attr] s profile = write
    obtain ⟨v, node, wrote⟩ := write
    cases wrote <;> rfl
  | _ => rfl

end Users

def bufferUsersProfile : BufferProfile where
  bufferPoolId := ⟨.bufferPool, 1⟩
  size := 10
  profileThEnable := true
  thresholdMode := .static
  dynamicTh := 0
  staticTh := 0
  xoffTh := 0
  xonTh := 0
  numRef := 4
  portList := [⟨.port, 1⟩]
  queueList := [⟨.queue, 1⟩, ⟨.queue, 2⟩]
  pgList := [⟨.priorityGroup, 1⟩]

def bufferUsersState : QosState :=
  { bufferUserSample with
    bufferProfileTree := (∅ : KeyTree ObjectId BufferProfile).put ⟨.bufferProfile, 1⟩ bufferUsersProfile }

def bufferUsersRefuse (id : ObjectId) : SaiStatus := if id = ⟨.queue, 2⟩ then .failure else .success

def bufferUsersOutcome : QosState × BufferNpu × SaiStatus :=
  npuUpdateBufferProfileObjects bufferUsersState ⟨.bufferProfile, 1⟩ bufferUsersProfile (.bufferSize 20)
    (.bufferSize 10)
    bufferUsersRefuse (fun _ => .success) ⟨fun _ => .bufferSize 10, []⟩

theorem bufferUsersOutcome_undone : bufferUsersOutcome.1 = bufferUsersState ∧
    ∀ id, bufferUsersOutcome.2.1.held id = .bufferSize 10 := by
  have distinct : BufferUsersDistinct bufferUsersProfile := ⟨by decide, by decide⟩
  have atomic := @bufferProfileObjects_atomic bufferUsersProfile bufferUsersRefuse (fun _ => .success) (.bufferSize 20)
    (.bufferSize 10) ⟨fun _ => .bufferSize 10, []⟩ bufferUsersState bufferUsersOutcome.1 ⟨.bufferProfile, 1⟩
    bufferUsersOutcome.2.1 bufferUsersOutcome.2.2 (KeyTree.get_put_self _ _ _) distinct (fun _ => rfl) rfl
  obtain ⟨same, old, -⟩ := atomic.2 (by decide)
  exact ⟨same, fun id => old id rfl⟩

/-- An object that names a profile is of the kind that it names it as. -/
structure BufferTyped (s : QosState) : Prop where
  linked : BufferLinked s
  attached : BufferAttached s
  typed : ∀ kind objectId profileId, bufferProfileOf s kind objectId = some profileId →
    objectId.objType = kind.objType

section Typed
variable {s : QosState}

theorem BufferTyped.step (typed : BufferTyped s) (call : BufferCall) : BufferTyped (call.step s) := by
  refine ⟨typed.linked.run call, typed.attached.run (.buffer call) trivial, fun kind objectId profileId names => ?_⟩
  rcases bufferProfileOf_run typed.linked names with before | ⟨is, -, -⟩
  · exact typed.typed kind objectId profileId before
  · exact is

theorem BufferTyped.listed (typed : BufferTyped s) {profile : BufferProfile}
    (stored : s.bufferProfileTree.get profileId = some profile) (kind : BufferUser) :
    (profile.userList kind).Nodup ∧ ∀ id ∈ profile.userList kind, id.objType = kind.objType := by
  have linked := typed.attached.exact.linked profileId profile stored kind
  refine ⟨List.nodup_iff_count_le_one.mpr fun id => ?_, fun id member => ?_⟩
  · rw [linked]
    split <;> omega
  · have counted := linked id
    have present := List.count_pos_iff.mpr member
    rw [counted] at present
    split at present
    · next names => exact typed.typed kind id profileId names
    · omega

theorem BufferTyped.distinct (typed : BufferTyped s) {profile : BufferProfile}
    (stored : s.bufferProfileTree.get profileId = some profile) : BufferUsersDistinct profile := by
  obtain ⟨portOnce, ports⟩ := typed.listed stored .port
  obtain ⟨queueOnce, queues⟩ := typed.listed stored .queue
  obtain ⟨pgOnce, pgs⟩ := typed.listed stored .priorityGroup
  refine ⟨?_, ?_⟩
  · refine List.nodup_append.mpr ⟨List.nodup_append.mpr ⟨portOnce, queueOnce, ?_⟩, pgOnce, ?_⟩
    · rintro id isPort _ isQueue rfl
      exact absurd ((ports id isPort).symm.trans (queues id isQueue)) (by decide)
    · rintro id member _ isPg rfl
      rcases List.mem_append.mp member with isPort | isQueue
      · exact absurd ((ports id isPort).symm.trans (pgs id isPg)) (by decide)
      · exact absurd ((queues id isQueue).symm.trans (pgs id isPg)) (by decide)
  · intro member
    rcases List.mem_append.mp member with member | isPg
    · rcases List.mem_append.mp member with isPort | isQueue
      · exact absurd (ports _ isPort) (by decide)
      · exact absurd (queues _ isQueue) (by decide)
    · exact absurd (pgs _ isPg) (by decide)

/-- The users of a profile are distinct in every state that the buffer calls reach. -/
theorem bufferUsersDistinct_of_reach (reach : Runs.Reach BufferFresh
    (Runs.guarded (fun _ _ => True) BufferCall.step) s) {profile : BufferProfile}
    (stored : s.bufferProfileTree.get profileId = some profile) : BufferUsersDistinct profile := by
  refine BufferTyped.distinct (reach.invariant BufferTyped (fun s fresh => ?_) fun s call t typed moved => ?_) stored
  · refine ⟨fresh.linked, fresh.attached, fun kind objectId profileId names => ?_⟩
    rw [fresh.unnamed] at names
    cases names
  · exact moved.2 ▸ typed.step call

theorem bufferUsersDistinct_of_reach_sample : ∃ profile, (bufferDirectionRun.foldl BufferCall.step
      bufferUserSample).bufferProfileTree.get ⟨.bufferProfile, 1⟩ = some profile ∧
      BufferUsersDistinct profile := by
  have reach : Runs.Reach BufferFresh (Runs.guarded (fun _ _ => True) BufferCall.step)
      (bufferDirectionRun.foldl BufferCall.step bufferUserSample) :=
    Runs.Reach.run (.start bufferUserSample_fresh) (Runs.allowedRun_of_forall (fun _ _ => trivial) _ _)
  have stored : ∃ profile, (bufferDirectionRun.foldl BufferCall.step bufferUserSample).bufferProfileTree.get
      ⟨.bufferProfile, 1⟩ = some profile := ⟨_, rfl⟩
  obtain ⟨profile, stored⟩ := stored
  exact ⟨profile, stored, bufferUsersDistinct_of_reach reach stored⟩

end Typed

end SaiCommon
