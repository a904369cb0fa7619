import Mathlib.Data.BitVec
import SaiCommon.Lib.Runs
import SaiCommon.Qos.Buffer

namespace SaiCommon

open KeyTree

variable {after profile : BufferProfile} {id k oldPoolId profileId : ObjectId} {s t : QosState}
  {tree : KeyTree ObjectId BufferProfile} {attr : BufferProfileAttr} {status : SaiStatus}

def BufferPool.budget (pool : BufferPool) : BitVec 32 × BitVec 32 := (pool.size, pool.sharedSize)

@[simp] theorem BufferPool.budget_link (pool : BufferPool) (profileId : ObjectId) :
    (pool.link profileId).budget = pool.budget := rfl

@[simp] theorem BufferPool.budget_unlink (pool : BufferPool) (profileId : ObjectId) :
    (pool.unlink profileId).budget = pool.budget := rfl

def bufferPoolBudget (s : QosState) (k : ObjectId) : Option (BitVec 32 × BitVec 32) :=
  (s.bufferPoolTree.get k).map BufferPool.budget

def bufferProfileUsers (s : QosState) (profileId : ObjectId) : Nat :=
  s.portTree.tally (fun _ node => node.bufferProfileId = profileId) +
  s.queueTree.tally (fun _ node => node.bufferProfileId = profileId) +
  s.pgTree.tally fun _ node => node.bufferProfileId = profileId

def bufferPoolUsers (s : QosState) (poolId : ObjectId) : Nat :=
  s.bufferProfileTree.tally fun _ profile => profile.bufferPoolId = poolId

/-- What the reference counts of the buffer database can be relied on for.
A profile's count is exact; a pool's is an upper bound, as a failed profile
creation leaves its reference behind. -/
structure BufferLinked (s : QosState) : Prop where
  poolKey : s.bufferPoolTree.get nullObjectId = none
  profileKey : s.bufferProfileTree.get nullObjectId = none
  poolStored : ∀ id profile, s.bufferProfileTree.get id = some profile →
    s.bufferPoolTree.get profile.bufferPoolId ≠ none
  poolRef : ∀ k pool, s.bufferPoolTree.get k = some pool → bufferPoolUsers s k ≤ pool.numRef
  profileRef : ∀ id profile, s.bufferProfileTree.get id = some profile →
    profile.numRef = bufferProfileUsers s id
  profileStored : ∀ id, id ≠ nullObjectId → s.bufferProfileTree.get id = none →
    bufferProfileUsers s id = 0

/-- What a profile keeps about its users: their number and the three lists. -/
def BufferProfile.users (profile : BufferProfile) : Nat × List ObjectId × List ObjectId × List ObjectId :=
  (profile.numRef, profile.portList, profile.queueList, profile.pgList)

/-- A profile's glue leaves the pool it is in, which is none for NULL. -/
def bufferPoolRelease (pools : KeyTree ObjectId BufferPool) (profileId oldPoolId : ObjectId) :
    KeyTree ObjectId BufferPool :=
  if oldPoolId ≠ nullObjectId then pools.modify oldPoolId fun pool => pool.unlink profileId else pools

theorem bufferPoolRelease_stored {pools : KeyTree ObjectId BufferPool} :
    (bufferPoolRelease pools profileId oldPoolId).get k = none ↔ pools.get k = none := by
  unfold bufferPoolRelease
  split
  · exact get_modify_eq_none
  · exact Iff.rfl

section UpdateProfileNode

/-- The rule of the profile attribute loop: what moving the node to a stored pool
keeps, and writing its other values does, the loop keeps. -/
theorem qosUpdateBufferProfileNode_keeps {motive : QosState → BufferProfile → Prop}
    (moved : ∀ u v oid, u.bufferPoolTree.get oid ≠ none → motive u v → motive { u with
      bufferPoolTree := (bufferPoolRelease u.bufferPoolTree profileId v.bufferPoolId).modify oid
        (BufferPool.link · profileId) } { v with bufferPoolId := oid })
    (wrote : ∀ u v v', v'.users = v.users → v'.bufferPoolId = v.bufferPoolId → motive u v → motive u v')
    (attrs : List BufferProfileAttr) :
    ∀ (index : Nat) (s t : QosState) (node node' : BufferProfile) (status : SaiStatus),
      qosUpdateBufferProfileNode profileId index attrs s node = (t, node', status) →
      motive s node → motive t node' := by
  induction attrs with
  | nil =>
    intro index s t node node' status run start
    cases run
    exact start
  | cons attr rest ih =>
    intro index s t node node' status run start
    cases attr with
    | poolId oid =>
      unfold qosUpdateBufferProfileNode at run
      split at run
      · cases run
        exact start
      rename_i pool found
      exact ih _ _ _ _ _ _ run (moved s node oid (found ▸ Option.some_ne_none pool) start)
    | unknown =>
      cases run
      exact start
    | _ =>
      unfold qosUpdateBufferProfileNode at run
      exact ih _ _ _ _ _ _ run (wrote s node _ rfl rfl start)

section
variable {attrs : List BufferProfileAttr} {index : Nat} {node node' : BufferProfile}
  (run : qosUpdateBufferProfileNode profileId index attrs s node = (t, node', status))
include run

theorem qosUpdateBufferProfileNode_frame : t = { s with bufferPoolTree := t.bufferPoolTree } ∧
    node'.numRef = node.numRef ∧ ∀ k, bufferPoolBudget t k = bufferPoolBudget s k := by
  refine qosUpdateBufferProfileNode_keeps (motive := fun u v => u = { s with bufferPoolTree := u.bufferPoolTree } ∧
    v.numRef = node.numRef ∧ ∀ k, bufferPoolBudget u k = bufferPoolBudget s k) ?_ ?_ attrs index s t node node'
    status run ⟨rfl, rfl, fun _ => rfl⟩
  · rintro u v oid - ⟨same, count, budget⟩
    refine ⟨by rw [same], count, fun k => ?_⟩
    rw [← budget]
    unfold bufferPoolBudget bufferPoolRelease
    simp only
    refine (map_get_modify (fun pool => pool.budget_link profileId) k).trans ?_
    split
    · exact map_get_modify (fun pool => pool.budget_unlink profileId) k
    · rfl
  · rintro u v v' users - ⟨same, count, budget⟩
    exact ⟨same, (congrArg Prod.fst users).trans count, budget⟩

theorem qosUpdateBufferProfileNode_users : node'.users = node.users :=
  qosUpdateBufferProfileNode_keeps (motive := fun _ v => v.users = node.users) (fun _ _ _ _ kept => kept)
    (fun _ _ _ users _ kept => users.trans kept) attrs index s t node node' status run rfl

theorem qosUpdateBufferProfileNode_poolRef (users : ObjectId → Nat)
    (nullKey : s.bufferPoolTree.get nullObjectId = none)
    (room : ∀ k pool, s.bufferPoolTree.get k = some pool →
      users k + (if node.bufferPoolId = k then 1 else 0) ≤ pool.numRef) :
    ∀ k pool, t.bufferPoolTree.get k = some pool →
      users k + (if node'.bufferPoolId = k then 1 else 0) ≤ pool.numRef := by
  refine (qosUpdateBufferProfileNode_keeps (motive := fun u v => u.bufferPoolTree.get nullObjectId = none ∧
    ∀ k pool, u.bufferPoolTree.get k = some pool → users k + (if v.bufferPoolId = k then 1 else 0) ≤ pool.numRef)
    ?_ ?_ attrs index s t node node' status run ⟨nullKey, room⟩).2
  · rintro u v oid - ⟨nullKey, room⟩
    have released : ∀ k pool, (bufferPoolRelease u.bufferPoolTree profileId v.bufferPoolId).get k = some pool →
        users k ≤ pool.numRef := by
      unfold bufferPoolRelease
      intro k pool stored
      split at stored
      · rw [get_modify] at stored
        split at stored
        · rename_i same
          obtain ⟨old, found, rfl⟩ := Option.map_eq_some_iff.mp stored
          have bound := room k old found
          rw [if_pos same.symm] at bound
          simp only [BufferPool.unlink]
          omega
        · have bound := room k pool stored
          omega
      · have bound := room k pool stored
        omega
    refine ⟨get_modify_eq_none.mpr (bufferPoolRelease_stored.mpr nullKey), fun k pool stored => ?_⟩
    simp only at stored ⊢
    rw [get_modify] at stored
    split at stored
    · obtain ⟨old, found, rfl⟩ := Option.map_eq_some_iff.mp stored
      have bound := released k old found
      simp only [BufferPool.link]
      split <;> omega
    · rename_i other
      have bound := released k pool stored
      rw [if_neg fun same => other same.symm]
      omega
  · rintro u v v' - same ⟨nullKey, room⟩
    rw [same]
    exact ⟨nullKey, room⟩

theorem qosUpdateBufferProfileNode_pools (k : ObjectId) :
    t.bufferPoolTree.get k = none ↔ s.bufferPoolTree.get k = none := by
  have budget := (qosUpdateBufferProfileNode_frame run).2.2 k
  unfold bufferPoolBudget at budget
  rw [← Option.map_eq_none_iff (f := BufferPool.budget), budget, Option.map_eq_none_iff]

end

theorem qosUpdateBufferProfileNode_poolId (attrs : List BufferProfileAttr) :
    ∀ (index : Nat) (s t : QosState) (node node' : BufferProfile),
      qosUpdateBufferProfileNode profileId index attrs s node = (t, node', .success) →
      (∃ oid, .poolId oid ∈ attrs) ∨ s.bufferPoolTree.get node.bufferPoolId ≠ none →
      s.bufferPoolTree.get node'.bufferPoolId ≠ none := by
  induction attrs with
  | nil =>
    intro index s t node node' run named
    cases run
    rcases named with ⟨_, member⟩ | stored
    · cases member
    · exact stored
  | cons attr rest ih =>
    intro index s t node node' run named
    cases attr with
    | poolId oid =>
      unfold qosUpdateBufferProfileNode at run
      split at run
      · cases run
      rename_i pool found
      have kept : ∀ k f, ((bufferPoolRelease s.bufferPoolTree profileId node.bufferPoolId).modify oid f).get k ≠
          none ↔ s.bufferPoolTree.get k ≠ none := fun k f =>
        (get_modify_eq_none.trans bufferPoolRelease_stored).not
      exact (kept _ _).mp (ih _ _ _ _ _ run (Or.inr ((kept _ _).mpr (found ▸ Option.some_ne_none pool))))
    | unknown => cases run
    | _ =>
      unfold qosUpdateBufferProfileNode at run
      refine ih _ _ _ _ _ run ?_
      rcases named with ⟨oid, member⟩ | stored
      · rcases List.mem_cons.mp member with same | later
        · cases same
        · exact Or.inl ⟨oid, later⟩
      · exact Or.inr stored

end UpdateProfileNode

section Relink
variable {objectId oldProfileId : ObjectId}

theorem bufferProfileUsers_set (found : qosGetBufferProfileId s objectId = .ok oldProfileId)
    (profileId id : ObjectId) :
    (if oldProfileId = id then 1 else 0) + bufferProfileUsers (qosSetBufferProfileId s objectId profileId) id =
      (if profileId = id then 1 else 0) + bufferProfileUsers s id := by
  unfold qosGetBufferProfileId at found
  unfold bufferProfileUsers qosSetBufferProfileId
  split at found
  case h_4 => cases found
  -- a port, a queue and a priority group
  all_goals
    split at found
    · cases found
    rename_i node stored
    cases found
    have moved := tally_modify_old (p := fun _ node => decide (node.bufferProfileId = id))
      (g := fun node => { node with bufferProfileId := profileId }) stored
    simp only [decide_eq_true_eq] at moved ⊢
    omega

theorem BufferProfile.unlink_terms (profile : BufferProfile) (objectId : ObjectId) :
    (profile.unlink objectId).numRef = profile.numRef - 1 ∧
    (profile.unlink objectId).bufferPoolId = profile.bufferPoolId ∧ (profile.unlink objectId).size = profile.size ∧
    (profile.unlink objectId).xoffTh = profile.xoffTh := by
  unfold unlink
  split <;> exact ⟨rfl, rfl, rfl, rfl⟩

theorem BufferProfile.link_terms (profile : BufferProfile) (objectId : ObjectId) :
    (profile.link objectId).numRef = profile.numRef + 1 ∧
    (profile.link objectId).bufferPoolId = profile.bufferPoolId ∧ (profile.link objectId).size = profile.size ∧
    (profile.link objectId).xoffTh = profile.xoffTh := by
  unfold link
  split <;> exact ⟨rfl, rfl, rfl, rfl⟩

theorem modify_get_if {step : BufferProfile → BufferProfile} {given : Prop} [Decidable given]
    (stored : (if given then tree.modify profileId step else tree).get id = some after) :
    ∃ before, tree.get id = some before ∧ after = if given ∧ profileId = id then step before else before := by
  split at stored
  · rename_i named
    rw [get_modify] at stored
    split at stored
    · rename_i same
      obtain ⟨before, old, rfl⟩ := Option.map_eq_some_iff.mp stored
      exact ⟨before, old, by rw [if_pos ⟨named, same.symm⟩]⟩
    · rename_i other
      exact ⟨after, stored, by rw [if_neg fun both => other both.2.symm]⟩
  · rename_i named
    exact ⟨after, stored, by rw [if_neg fun both => named both.1]⟩

theorem bufferProfileRelease_get (stored : (bufferProfileRelease tree objectId oldProfileId).get id = some after) :
    ∃ before, tree.get id = some before ∧ after.bufferPoolId = before.bufferPoolId ∧ after.numRef =
        before.numRef - if oldProfileId ≠ nullObjectId ∧ oldProfileId = id then 1 else 0 := by
  obtain ⟨before, old, rfl⟩ := modify_get_if stored
  obtain ⟨count, pool, _⟩ := before.unlink_terms objectId
  refine ⟨before, old, ?_⟩
  split
  · exact ⟨pool, count⟩
  · exact ⟨rfl, rfl⟩

theorem bufferProfileTake_get (stored : (bufferProfileTake tree objectId profileId).get id = some after) :
    ∃ before, tree.get id = some before ∧ after.bufferPoolId = before.bufferPoolId ∧
      after.numRef = before.numRef + if profileId ≠ nullObjectId ∧ profileId = id then 1 else 0 := by
  obtain ⟨before, old, rfl⟩ := modify_get_if stored
  obtain ⟨count, pool, _⟩ := before.link_terms objectId
  refine ⟨before, old, ?_⟩
  split
  · exact ⟨pool, count⟩
  · exact ⟨rfl, rfl⟩

theorem bufferProfileRelink_get
    (stored : (bufferProfileRelink tree objectId oldProfileId profileId).get id = some after) :
    ∃ before, tree.get id = some before ∧ after.bufferPoolId = before.bufferPoolId ∧ after.numRef =
        before.numRef - (if oldProfileId ≠ nullObjectId ∧ oldProfileId = id then 1 else 0) +
          if profileId ≠ nullObjectId ∧ profileId = id then 1 else 0 := by
  obtain ⟨middle, found, pool, count⟩ := bufferProfileTake_get stored
  obtain ⟨before, old, poolBefore, countBefore⟩ := bufferProfileRelease_get found
  exact ⟨before, old, pool.trans poolBefore, by rw [count, countBefore]⟩

theorem bufferProfileRelink_stored (id : ObjectId) :
    (bufferProfileRelink tree objectId oldProfileId profileId).get id = none ↔ tree.get id = none := by
  unfold bufferProfileRelink bufferProfileTake bufferProfileRelease
  split <;> split <;> simp only [get_modify_eq_none]

theorem bufferProfileRelink_pools (k : ObjectId) : (bufferProfileRelink tree objectId oldProfileId profileId).tally
      (fun _ profile => profile.bufferPoolId = k) = tree.tally fun _ profile => profile.bufferPoolId = k := by
  have linkKeep := fun profile : BufferProfile => (profile.link_terms objectId).2.1
  have unlinkKeep := fun profile : BufferProfile => (profile.unlink_terms objectId).2.1
  unfold bufferProfileRelink bufferProfileTake bufferProfileRelease
  split <;> split <;>
    simp only [tally_modify_keep, linkKeep, unlinkKeep, implies_true]

theorem qosSetBufferProfileId_trees (s : QosState) (objectId profileId : ObjectId) :
    (qosSetBufferProfileId s objectId profileId).bufferPoolTree = s.bufferPoolTree ∧
    (qosSetBufferProfileId s objectId profileId).bufferProfileTree = s.bufferProfileTree := by
  unfold qosSetBufferProfileId
  split <;> exact ⟨rfl, rfl⟩

end Relink

section
variable (linked : BufferLinked s)
include linked

theorem BufferLinked.relink {objectId oldProfileId : ObjectId}
    (found : qosGetBufferProfileId s objectId = .ok oldProfileId)
    (differ : oldProfileId ≠ profileId)
    (newStored : profileId ≠ nullObjectId → s.bufferProfileTree.get profileId ≠ none) :
    BufferLinked { qosSetBufferProfileId s objectId profileId with
      bufferProfileTree := bufferProfileRelink s.bufferProfileTree objectId oldProfileId profileId } := by
  obtain ⟨pools, _⟩ := qosSetBufferProfileId_trees s objectId profileId
  have users := bufferProfileUsers_set found profileId
  constructor
  · simp only [pools]
    exact linked.poolKey
  · simp only [bufferProfileRelink_stored]
    exact linked.profileKey
  · intro id after stored
    obtain ⟨before, old, pool, _⟩ := bufferProfileRelink_get stored
    simp only [pools]
    rw [pool]
    exact linked.poolStored id before old
  · intro k pool stored
    simp only [pools] at stored
    unfold bufferPoolUsers
    simp only
    rw [bufferProfileRelink_pools]
    exact linked.poolRef k pool stored
  · intro id after stored
    obtain ⟨before, old, _, count⟩ := bufferProfileRelink_get stored
    have exact' := linked.profileRef id before old
    have moved := users id
    have notNull : id ≠ nullObjectId := by
      rintro rfl
      rw [linked.profileKey] at old
      cases old
    have same : bufferProfileUsers { qosSetBufferProfileId s objectId profileId with
        bufferProfileTree := bufferProfileRelink s.bufferProfileTree objectId oldProfileId profileId } id =
        bufferProfileUsers (qosSetBufferProfileId s objectId profileId) id := rfl
    rw [same, count, exact']
    by_cases isOld : oldProfileId = id
    · subst isOld
      rw [if_pos ⟨notNull, rfl⟩, if_neg fun both => differ both.2.symm]
      rw [if_pos rfl, if_neg fun equal => differ equal.symm] at moved
      omega
    rw [if_neg fun both => isOld both.2]
    rw [if_neg isOld] at moved
    by_cases isNew : profileId = id
    · subst isNew
      rw [if_pos ⟨notNull, rfl⟩]
      rw [if_pos rfl] at moved
      omega
    · rw [if_neg fun both => isNew both.2]
      rw [if_neg isNew] at moved
      omega
  · intro id notNull absent
    simp only [bufferProfileRelink_stored] at absent
    have none := linked.profileStored id notNull absent
    have moved := users id
    have other : profileId ≠ id := by
      rintro rfl
      exact newStored notNull absent
    rw [if_neg other, none] at moved
    show bufferProfileUsers (qosSetBufferProfileId s objectId profileId) id = 0
    omega

theorem BufferLinked.pools {pools : KeyTree ObjectId BufferPool}
    (stored : ∀ k, pools.get k = none ↔ s.bufferPoolTree.get k = none)
    (count : ∀ k pool, pools.get k = some pool → bufferPoolUsers s k ≤ pool.numRef) :
    BufferLinked { s with bufferPoolTree := pools } := by
  refine ⟨(stored _).mpr linked.poolKey, linked.profileKey, ?_, count, linked.profileRef,
    linked.profileStored⟩
  intro id profile found
  simp only [ne_eq, stored]
  exact linked.poolStored id profile found

theorem BufferLinked.putPool {old pool : BufferPool} (stored : s.bufferPoolTree.get k = some old)
    (count : pool.numRef = old.numRef) : BufferLinked { s with bufferPoolTree := s.bufferPoolTree.put k pool } := by
  refine linked.pools ?_ ?_
  · intro j
    rw [get_put]
    split
    · rename_i same
      rw [same, stored]
      exact ⟨fun none => absurd none (Option.some_ne_none _), fun none => absurd none (Option.some_ne_none _)⟩
    · exact Iff.rfl
  · intro j found present
    rw [get_put] at present
    split at present
    · rename_i same
      cases Option.some.inj present
      rw [same, count]
      exact linked.poolRef k old stored
    · exact linked.poolRef j found present

end

theorem qosUpdateBufferPoolNode_numRef (attrs : List BufferPoolAttr) :
    ∀ (index : Nat) (pool : BufferPool), (qosUpdateBufferPoolNode index attrs pool).1.numRef = pool.numRef := by
  induction attrs with
  | nil => exact fun _ _ => rfl
  | cons attr rest ih =>
    intro index pool
    cases attr with
    | sharedSize => rfl
    | unknown => rfl
    | _ =>
      unfold qosUpdateBufferPoolNode
      rw [ih]

theorem qosCreateBufferPool_cases (s : QosState) (attrs : List BufferPoolAttr) (env : CreateEnv) :
    (∃ error, error ≠ .success ∧ qosCreateBufferPool s attrs env = (s, error)) ∨
    ∃ node, (qosUpdateBufferPoolNode 0 attrs qosInitBufferPoolNode).1 = node ∧
      s.bufferPoolTree.get ⟨.bufferPool, env.npuObjectId⟩ = none ∧ qosCreateBufferPool s attrs env =
        ({ s with bufferPoolTree := s.bufferPoolTree.put ⟨.bufferPool, env.npuObjectId⟩ node }, .success) := by
  unfold qosCreateBufferPool
  split
  · split
    · exact .inl ⟨_, SaiStatus.noConfusion, rfl⟩
    split
    · rename_i node parsed
      split
      · unfold qosBufferPoolNodeInsertToTree
        split
        · rename_i absent
          exact .inr ⟨node, by rw [parsed], absent, rfl⟩
        · exact .inl ⟨_, SaiStatus.noConfusion, rfl⟩
      · exact .inl ⟨_, ‹_›, rfl⟩
    · exact .inl ⟨_, ‹_›, rfl⟩
  · exact .inl ⟨_, ‹_›, rfl⟩

theorem qosRemoveBufferPool_cases (s : QosState) (poolId : ObjectId) (npu : SaiStatus) :
    (∃ error, error ≠ .success ∧ qosRemoveBufferPool s poolId npu = (s, error)) ∨
    ∃ pool, s.bufferPoolTree.get poolId = some pool ∧ pool.numRef = 0 ∧
      qosRemoveBufferPool s poolId npu = ({ s with bufferPoolTree := s.bufferPoolTree.del poolId }, .success) := by
  unfold qosRemoveBufferPool
  split
  · exact .inl ⟨_, SaiStatus.noConfusion, rfl⟩
  rename_i pool stored
  split
  · exact .inl ⟨_, SaiStatus.noConfusion, rfl⟩
  rename_i unused
  split
  · exact .inr ⟨pool, stored, not_not.mp unused, rfl⟩
  · exact .inl ⟨_, ‹_›, rfl⟩

/-- An attribute set leaves the pools alone, or it writes the size of a stored pool. -/
theorem qosBufferPoolAttrSet_cases (s : QosState) (poolId : ObjectId) (attr : BufferPoolAttr)
    (vendor npu : SaiStatus) :
    (∃ error, error ≠ .success ∧ qosBufferPoolAttrSet s poolId attr vendor npu = (s, error)) ∨
    ∃ oldPool pool value, qosBufferPoolAttributesValidate [attr] vendor = .success ∧
      s.bufferPoolTree.get poolId = some oldPool ∧ attr = .size value ∧
      (qosUpdateBufferPoolNode 0 [attr] oldPool).1 = pool ∧ qosBufferPoolAttrSet s poolId attr vendor npu =
        ({ s with bufferPoolTree := s.bufferPoolTree.put poolId pool }, .success) := by
  unfold qosBufferPoolAttrSet
  split
  · rename_i accepted
    split
    · exact .inl ⟨_, SaiStatus.noConfusion, rfl⟩
    rename_i oldPool stored
    rw [put_same stored]
    split
    · rename_i pool updated
      dsimp only
      split
      · rename_i done
        cases attr with
        | size value => exact .inr ⟨oldPool, pool, value, accepted, stored, rfl, by rw [updated], rfl⟩
        | _ => cases done
      · exact .inl ⟨_, ‹_›, rfl⟩
    · exact .inl ⟨_, ‹_›, rfl⟩
  · exact .inl ⟨_, ‹_›, rfl⟩

theorem qosRemoveBufferProfile_cases (s : QosState) (profileId : ObjectId) (npu : SaiStatus) :
    (∃ error, error ≠ .success ∧ qosRemoveBufferProfile s profileId npu = (s, error)) ∨
    ∃ profile, s.bufferProfileTree.get profileId = some profile ∧ profile.numRef = 0 ∧
      qosRemoveBufferProfile s profileId npu = ({ s with
        bufferPoolTree := s.bufferPoolTree.modify profile.bufferPoolId fun pool => pool.unlink profileId
        bufferProfileTree := s.bufferProfileTree.del profileId }, .success) := by
  unfold qosRemoveBufferProfile
  split
  · exact .inl ⟨_, SaiStatus.noConfusion, rfl⟩
  rename_i profile stored
  split
  · exact .inl ⟨_, SaiStatus.noConfusion, rfl⟩
  rename_i unused
  split
  · unfold qosBufferProfileNodeRemoveFromTree
    rw [if_neg unused]
    exact .inr ⟨profile, stored, not_not.mp unused, rfl⟩
  · exact .inl ⟨_, ‹_›, rfl⟩

section
variable (linked : BufferLinked s)
include linked

theorem BufferLinked.poolCreate (attrs : List BufferPoolAttr) (env : CreateEnv) :
    BufferLinked (qosCreateBufferPool s attrs env).1 := by
  rcases qosCreateBufferPool_cases s attrs env with ⟨_, _, same⟩ | ⟨node, _, absent, created⟩
  · rwa [same]
  rw [created]
  have unused : bufferPoolUsers s ⟨.bufferPool, env.npuObjectId⟩ = 0 := by
    refine tally_eq_zero fun id profile found => ?_
    have stored := linked.poolStored id profile found
    simp only [decide_eq_false_iff_not]
    intro same
    exact stored (same ▸ absent)
  refine ⟨?_, linked.profileKey, ?_, ?_, linked.profileRef, linked.profileStored⟩
  · simp only
    rw [get_put_ne (ne_nullObjectId ObjectType.noConfusion).symm, linked.poolKey]
  · exact fun id profile found => get_put_ne_none (linked.poolStored id profile found)
  · intro k pool stored
    simp only [get_put] at stored
    split at stored
    · rename_i same
      show bufferPoolUsers s k ≤ _
      rw [same, unused]
      exact Nat.zero_le _
    · exact linked.poolRef k pool stored

theorem BufferLinked.poolRemove (poolId : ObjectId)
    (npu : SaiStatus) : BufferLinked (qosRemoveBufferPool s poolId npu).1 := by
  rcases qosRemoveBufferPool_cases s poolId npu with ⟨_, _, same⟩ | ⟨pool, stored, unused, removed⟩
  · rwa [same]
  rw [removed]
  have count := linked.poolRef poolId pool stored
  have none : bufferPoolUsers s poolId = 0 := by omega
  refine ⟨?_, linked.profileKey, ?_, ?_, linked.profileRef, linked.profileStored⟩
  · exact get_del_none linked.poolKey
  · intro id profile (found : s.bufferProfileTree.get id = some profile)
    simp only [ne_eq, get_del]
    split
    · rename_i same
      have positive := tally_pos (p := fun _ profile => decide (profile.bufferPoolId = poolId))
        found (decide_eq_true same)
      unfold bufferPoolUsers at none
      omega
    · exact linked.poolStored id profile found
  · exact fun k other found => linked.poolRef k other (get_of_del found)

theorem BufferLinked.poolAttrSet (poolId : ObjectId) (attr : BufferPoolAttr) (vendor npu : SaiStatus) :
    BufferLinked (qosBufferPoolAttrSet s poolId attr vendor npu).1 := by
  rcases qosBufferPoolAttrSet_cases s poolId attr vendor npu with
    ⟨_, _, same⟩ | ⟨oldPool, pool, value, _, stored, _, rfl, written⟩
  · rwa [same]
  · rw [written]
    exact linked.putPool stored (qosUpdateBufferPoolNode_numRef [attr] 0 oldPool)

end

theorem mem_bufferProfilePoolIds {attrs : List BufferProfileAttr} {oid : ObjectId} {index : Nat}
    (member : (oid, index) ∈ bufferProfilePoolIds attrs) : .poolId oid ∈ attrs := by
  unfold bufferProfilePoolIds at member
  obtain ⟨⟨attr, at_⟩, listed, chosen⟩ := List.mem_filterMap.mp member
  simp only at chosen
  split at chosen
  · cases Option.some.inj chosen
    exact List.fst_mem_of_mem_zipIdx listed
  · cases chosen

theorem poolId_of_validate {attrs : List BufferProfileAttr} {vendor : SaiStatus}
    (accepted : qosBufferProfileAttributesValidate s attrs true vendor = .success) :
    ∃ oid, .poolId oid ∈ attrs := by
  unfold qosBufferProfileAttributesValidate at accepted
  split at accepted
  · cases accepted
  split at accepted
  · simp only [if_true] at accepted
    split at accepted
    · rename_i mandatory
      unfold qosBufferProfileIsMandatoryThAttrPresent bufferProfileLastPool at mandatory
      simp only at mandatory
      cases last : (bufferProfilePoolIds attrs).getLast? with
      | none =>
        rw [last] at mandatory
        simp only [Option.bind_none, Option.elim_none] at mandatory
        cases mandatory
      | some named => exact ⟨named.1, mem_bufferProfilePoolIds (List.mem_of_getLast? last)⟩
    · rename_i error
      exact absurd accepted error
  · rename_i error
    exact absurd accepted error

/-- A creation is refused, or its attribute loop runs; after that it stops, or
it stores the node. -/
theorem qosCreateBufferProfile_cases {attrs : List BufferProfileAttr} {env : CreateEnv}
    (run : qosCreateBufferProfile s attrs env = (t, status)) :
    t = s ∧ status ≠ .success ∨
    qosBufferProfileAttributesValidate s attrs true env.vendor = .success ∧ env.allocOk = true ∧
      ∃ u node wrote, qosUpdateBufferProfileNode ⟨.bufferProfile, env.npuObjectId⟩ 0 attrs s
          qosInitBufferProfileNode = (u, node, wrote) ∧
        (t = u ∧ status ≠ .success ∧ ¬ (wrote = .success ∧ env.npu = .success ∧ env.treeOk = true ∧
            u.bufferProfileTree.get ⟨.bufferProfile, env.npuObjectId⟩ = none) ∨
          wrote = .success ∧ status = .success ∧
            u.bufferProfileTree.get ⟨.bufferProfile, env.npuObjectId⟩ = none ∧
            t = { u with
              bufferProfileTree := u.bufferProfileTree.put ⟨.bufferProfile, env.npuObjectId⟩ node }) := by
  unfold qosCreateBufferProfile at run
  split at run
  · rename_i accepted
    split at run
    · cases run
      exact .inl ⟨rfl, SaiStatus.noConfusion⟩
    rename_i allocOk
    refine .inr ⟨accepted, Bool.not_eq_false _ ▸ allocOk, ?_⟩
    dsimp only at run
    generalize qosUpdateBufferProfileNode ⟨.bufferProfile, env.npuObjectId⟩ 0 attrs s
      qosInitBufferProfileNode = result at run ⊢
    obtain ⟨u, node, wrote⟩ := result
    refine ⟨u, node, wrote, rfl, ?_⟩
    split at run
    · rename_i equal
      cases equal
      split at run
      · unfold qosBufferProfileNodeInsertToTree at run
        split at run
        · rename_i absent
          cases run
          exact .inr ⟨rfl, rfl, absent, rfl⟩
        · rename_i taken
          cases run
          exact .inl ⟨rfl, SaiStatus.noConfusion, fun all => taken all.2.2.1 all.2.2.2⟩
      · rename_i error
        cases run
        exact .inl ⟨rfl, error, fun all => error all.2.1⟩
    · rename_i error equal
      cases equal
      cases run
      exact .inl ⟨rfl, error, fun all => error all.1⟩
  · rename_i error
    cases run
    exact .inl ⟨rfl, error⟩

theorem BufferLinked.profileCreate (linked : BufferLinked s)
    (attrs : List BufferProfileAttr) (env : CreateEnv) : BufferLinked (qosCreateBufferProfile s attrs env).1 := by
  generalize created : qosCreateBufferProfile s attrs env = result
  obtain ⟨t, status⟩ := result
  rcases qosCreateBufferProfile_cases created with ⟨rfl, _⟩ | ⟨accepted, _, u, node, wrote, run, ended⟩
  · exact linked
  obtain ⟨same, count, _⟩ := qosUpdateBufferProfileNode_frame run
  have pools := qosUpdateBufferProfileNode_pools run
  have room := qosUpdateBufferProfileNode_poolRef run (bufferPoolUsers s)
    linked.poolKey (by
      intro k pool stored
      have bound := linked.poolRef k pool stored
      have other : ¬ qosInitBufferProfileNode.bufferPoolId = k := by
        rintro rfl
        rw [show qosInitBufferProfileNode.bufferPoolId = nullObjectId from rfl, linked.poolKey] at stored
        cases stored
      rw [if_neg other]
      omega)
  have kept : BufferLinked u := by
    rw [same]
    refine linked.pools pools fun k pool stored => ?_
    have bound := room k pool stored
    omega
  have counted : ∀ k, bufferPoolUsers u k = bufferPoolUsers s k := by
    intro k
    rw [same]
    rfl
  rcases ended with ⟨rfl, _⟩ | ⟨rfl, _, absent, rfl⟩
  · exact kept
  have notNull : (⟨.bufferProfile, env.npuObjectId⟩ : ObjectId) ≠ nullObjectId :=
    ne_nullObjectId ObjectType.noConfusion
  have stored := qosUpdateBufferProfileNode_poolId attrs 0 s u _ _ run
    (Or.inl (poolId_of_validate accepted))
  refine ⟨kept.poolKey, ?_, ?_, ?_, ?_, ?_⟩
  · simp only
    rw [get_put_ne notNull.symm, kept.profileKey]
  · intro id profile found
    simp only [get_put] at found
    split at found
    · cases Option.some.inj found
      simp only [ne_eq, pools]
      exact stored
    · exact kept.poolStored id profile found
  · intro k pool found
    have bound := room k pool found
    unfold bufferPoolUsers
    simp only
    rw [tally_put_new absent]
    have before := counted k
    unfold bufferPoolUsers at before bound
    simp only [decide_eq_true_eq] at *
    omega
  · intro id profile found
    simp only [get_put] at found
    split at found
    · rename_i isNew
      cases Option.some.inj found
      rw [count, isNew]
      exact (kept.profileStored _ notNull absent).symm
    · exact kept.profileRef id profile found
  · intro id nonnull none
    simp only [get_put] at none
    split at none
    · cases none
    · exact kept.profileStored id nonnull none

theorem BufferLinked.profileRemove (linked : BufferLinked s) (profileId : ObjectId)
    (npu : SaiStatus) : BufferLinked (qosRemoveBufferProfile s profileId npu).1 := by
  rcases qosRemoveBufferProfile_cases s profileId npu with ⟨_, _, same⟩ | ⟨profile, stored, unused, removed⟩
  · rwa [same]
  rw [removed]
  refine ⟨?_, ?_, ?_, ?_, ?_, ?_⟩
  · simp only [get_modify_eq_none]
    exact linked.poolKey
  · exact get_del_none linked.profileKey
  · intro id other found
    replace found := get_of_del found
    simp only [ne_eq, get_modify_eq_none]
    exact linked.poolStored id other found
  · intro k pool found
    have split := tally_del_old
      (p := fun _ profile => decide (profile.bufferPoolId = k)) stored
    unfold bufferPoolUsers
    simp only [get_modify, decide_eq_true_eq] at found split ⊢
    split at found
    · rename_i same
      obtain ⟨before, old, rfl⟩ := Option.map_eq_some_iff.mp found
      have bound := linked.poolRef k before old
      unfold bufferPoolUsers at bound
      rw [if_pos same.symm] at split
      simp only [BufferPool.unlink]
      omega
    · have bound := linked.poolRef k pool found
      unfold bufferPoolUsers at bound
      omega
  · exact fun id other found => linked.profileRef id other (get_of_del found)
  · intro id notNull absent
    simp only [get_del] at absent
    split at absent
    · rename_i same
      have count := linked.profileRef profileId profile stored
      show bufferProfileUsers s id = 0
      rw [same]
      omega
    · exact linked.profileStored id notNull absent

theorem qosUpdateBufferProfileNode_error {index : Nat} {node node' : BufferProfile}
    (run : qosUpdateBufferProfileNode profileId index [attr] s node = (t, node', status))
    (error : status ≠ .success) : t = s ∧ node' = node := by
  cases attr with
  | poolId oid =>
    unfold qosUpdateBufferProfileNode at run
    split at run
    · cases run
      exact ⟨rfl, rfl⟩
    · cases run
      exact absurd rfl error
  | unknown =>
    cases run
    exact ⟨rfl, rfl⟩
  | _ =>
    cases run
    exact absurd rfl error

theorem qosUpdateBufferProfileObjects_cases {npu : ObjectId → SaiStatus}
    (stored : s.bufferProfileTree.get profileId = some profile)
    (run : qosUpdateBufferProfileObjects s profileId profile attr npu = (t, status)) : t = s ∧ status ≠ .success ∨
    status = .success ∧ ∃ u node, qosUpdateBufferProfileNode profileId 0 [attr] s profile = (u, node, .success) ∧
      t = { u with bufferProfileTree := u.bufferProfileTree.put profileId node } := by
  unfold qosUpdateBufferProfileObjects at run
  generalize qosUpdateBufferProfileUsers profile attr npu = asked at run
  generalize written : qosUpdateBufferProfileNode profileId 0 [attr] s profile = write at run
  obtain ⟨u, node, wrote⟩ := write
  split at run
  · cases run
    by_cases done : status = .success
    · subst done
      exact Or.inr ⟨rfl, u, node, rfl, rfl⟩
    · obtain ⟨rfl, rfl⟩ := qosUpdateBufferProfileNode_error written done
      exact Or.inl ⟨by rw [put_same stored], done⟩
  · rename_i error
    cases run
    exact Or.inl ⟨rfl, error⟩

theorem qosCheckBufferSize_error (refused : qosCheckBufferSize s attr profile = .error status) :
    status = .insufficientResources := by
  unfold qosCheckBufferSize at refused
  cases attr with
  | poolId oid =>
    simp only at refused
    split at refused <;> cases refused
    rfl
  | bufferSize value =>
    simp only at refused
    split at refused
    · split at refused <;> cases refused
      rfl
    · cases refused
  | xoffTh value =>
    simp only at refused
    split at refused
    · split at refused <;> cases refused
      rfl
    · cases refused
  | _ => cases refused

/-- A profile attribute set is refused with the database unchanged, or it
writes the node and then recalculates. -/
theorem qosBufferProfileAttrSet_cases {env : ProfileSetEnv}
    (run : qosBufferProfileAttrSet s profileId attr env = (t, status)) : t = s ∧ status ≠ .success ∨
    status = .success ∧ ∃ profile bufSize isAdd u node, s.bufferProfileTree.get profileId = some profile ∧
      qosCheckBufferProfileAttrValue s attr profile = .success ∧
      qosCheckBufferSize s attr profile = .ok (bufSize, isAdd) ∧
      qosUpdateBufferProfileNode profileId 0 [attr] s profile = (u, node, .success) ∧
      t = qosBufferProfileAttrRecalc { u with bufferProfileTree := u.bufferProfileTree.put profileId node }
        attr profile.bufferPoolId bufSize isAdd env := by
  unfold qosBufferProfileAttrSet at run
  split at run
  · split at run
    · cases run
      exact Or.inl ⟨rfl, SaiStatus.noConfusion⟩
    rename_i profile stored
    split at run
    · rename_i valid
      split at run
      · rename_i refused
        cases run
        refine Or.inl ⟨rfl, ?_⟩
        rw [qosCheckBufferSize_error refused]
        exact SaiStatus.noConfusion
      rename_i bufSize isAdd admitted
      generalize updated : qosUpdateBufferProfileObjects s profileId profile attr env.users = result at run
      obtain ⟨v, outcome⟩ := result
      rcases qosUpdateBufferProfileObjects_cases stored updated with
        ⟨rfl, error⟩ | ⟨rfl, u, node, written, rfl⟩
      · split at run
        · rename_i same
          cases same
          exact absurd rfl error
        · rename_i same
          cases same
          cases run
          exact Or.inl ⟨rfl, error⟩
      · cases run
        exact Or.inr ⟨rfl, profile, bufSize, isAdd, u, node, stored, valid, admitted, written, rfl⟩
    · rename_i error
      cases run
      exact Or.inl ⟨rfl, error⟩
  · rename_i error
    cases run
    exact Or.inl ⟨rfl, error⟩

def BufferPool.move (pool : BufferPool) (size : BitVec 32) (isAdd : Bool) : BufferPool :=
  { pool with sharedSize := if isAdd then pool.sharedSize - size else pool.sharedSize + size }

/-- A recalculation either moves the amount or changes nothing; the latter on
a missing pool, a failing NPU or a lack of room. -/
theorem qosBufferPoolSizeRecalc_cases (s : QosState) (poolId : ObjectId) (size : BitVec 32)
    (isAdd : Bool) (npu : SaiStatus) : (∃ pool, s.bufferPoolTree.get poolId = some pool ∧ npu = .success ∧
      ¬ (isAdd ∧ pool.sharedSize < size) ∧ (qosBufferPoolSizeRecalc s poolId size isAdd npu).1 =
        { s with bufferPoolTree := s.bufferPoolTree.put poolId (pool.move size isAdd) }) ∨
    (qosBufferPoolSizeRecalc s poolId size isAdd npu).1 = s ∧ ∀ pool, s.bufferPoolTree.get poolId = some pool →
        npu ≠ .success ∨ isAdd ∧ pool.sharedSize < size := by
  unfold qosBufferPoolSizeRecalc
  split
  · rename_i absent
    refine Or.inr ⟨rfl, fun pool stored => ?_⟩
    rw [absent] at stored
    cases stored
  rename_i pool stored
  split
  · rename_i full
    refine Or.inr ⟨rfl, fun other found => Or.inr ?_⟩
    cases Option.some.inj (stored.symm.trans found)
    exact full
  rename_i room
  simp only
  split
  · exact Or.inl ⟨pool, stored, rfl, room, rfl⟩
  rename_i error
  refine Or.inr ⟨?_, fun _ _ => Or.inl error⟩
  have restored : (if isAdd then
      (if isAdd then pool.sharedSize - size else pool.sharedSize + size) + size else
      (if isAdd then pool.sharedSize - size else pool.sharedSize + size) - size) = pool.sharedSize := by
    cases isAdd with
    | true => exact BitVec.sub_add_cancel _ _
    | false => exact BitVec.add_sub_cancel _ _
  rw [restored, put_same stored]

section
variable (linked : BufferLinked s)
include linked

theorem BufferLinked.recalc (poolId : ObjectId) (size : BitVec 32) (isAdd : Bool) (npu : SaiStatus) :
    BufferLinked (qosBufferPoolSizeRecalc s poolId size isAdd npu).1 := by
  rcases qosBufferPoolSizeRecalc_cases s poolId size isAdd npu with
    ⟨pool, stored, _, _, moved⟩ | ⟨same, _⟩
  · rw [moved]
    exact linked.putPool stored rfl
  · rw [same]
    exact linked

theorem BufferLinked.writeProfile {u : QosState} {node : BufferProfile}
    (stored : s.bufferProfileTree.get profileId = some profile)
    (written : qosUpdateBufferProfileNode profileId 0 [attr] s profile = (u, node, .success)) :
    BufferLinked { u with bufferProfileTree := u.bufferProfileTree.put profileId node } := by
  obtain ⟨same, count, _⟩ := qosUpdateBufferProfileNode_frame written
  have pools := qosUpdateBufferProfileNode_pools written
  have named := qosUpdateBufferProfileNode_poolId [attr] 0 s u _ _ written
    (Or.inr (linked.poolStored profileId profile stored))
  have others : ∀ k, bufferPoolUsers s k = (if profile.bufferPoolId = k then 1 else 0) +
      (s.bufferProfileTree.del profileId).tally fun _ p => decide (p.bufferPoolId = k) := by
    intro k
    have split := tally_del_old (p := fun _ p => decide (p.bufferPoolId = k)) stored
    simp only [decide_eq_true_eq] at split
    exact split.symm
  have room := qosUpdateBufferProfileNode_poolRef written
    (fun k => (s.bufferProfileTree.del profileId).tally fun _ p => decide (p.bufferPoolId = k)) linked.poolKey (by
      intro k pool found
      have bound := linked.poolRef k pool found
      rw [others k] at bound
      omega)
  have tree : u.bufferProfileTree = s.bufferProfileTree := by rw [same]
  have users : ∀ id, bufferProfileUsers u id = bufferProfileUsers s id := by
    intro id
    rw [same]
    rfl
  refine ⟨(pools _).mpr linked.poolKey, ?_, ?_, ?_, ?_, ?_⟩
  · simp only [tree, get_put]
    split
    · rename_i null
      rw [← null, linked.profileKey] at stored
      cases stored
    · exact linked.profileKey
  · intro id other found
    simp only [tree, get_put] at found
    simp only [ne_eq, pools]
    split at found
    · cases Option.some.inj found
      exact named
    · exact linked.poolStored id other found
  · intro k pool found
    have bound := room k pool found
    have moved := tally_put_old (p := fun _ p => decide (p.bufferPoolId = k)) (v := node) stored
    have before := others k
    unfold bufferPoolUsers at before ⊢
    simp only [tree, decide_eq_true_eq] at *
    omega
  · intro id other found
    simp only [tree, get_put] at found
    show other.numRef = bufferProfileUsers u id
    rw [users]
    split at found
    · rename_i isIt
      cases Option.some.inj found
      rw [count, isIt]
      exact linked.profileRef profileId profile stored
    · exact linked.profileRef id other found
  · intro id notNull absent
    simp only [tree, get_put] at absent
    show bufferProfileUsers u id = 0
    rw [users]
    split at absent
    · cases absent
    · exact linked.profileStored id notNull absent

theorem BufferLinked.profileAttrSet (profileId : ObjectId) (attr : BufferProfileAttr) (env : ProfileSetEnv) :
    BufferLinked (qosBufferProfileAttrSet s profileId attr env).1 := by
  generalize run : qosBufferProfileAttrSet s profileId attr env = result
  obtain ⟨t, status⟩ := result
  rcases qosBufferProfileAttrSet_cases run with
    ⟨rfl, _⟩ | ⟨_, profile, bufSize, isAdd, u, node, stored, _, _, written, rfl⟩
  · exact linked
  · have wrote := linked.writeProfile stored written
    unfold qosBufferProfileAttrRecalc
    cases attr with
    | poolId oid => exact (wrote.recalc _ _ _ _).recalc _ _ _ _
    | bufferSize => exact wrote.recalc _ _ _ _
    | xoffTh => exact wrote.recalc _ _ _ _
    | _ => exact wrote

end

theorem qosCalcPoolSize_error {newPoolId : ObjectId} {checkTh : Bool} {oldSize newSize : BitVec 32}
    (refused : qosCalcPoolSize s oldPoolId newPoolId checkTh oldSize newSize = .error status) :
    status ≠ .success := by
  rintro rfl
  unfold qosCalcPoolSize at refused
  simp only at refused
  split at refused
  · split at refused <;> split at refused <;> cases refused
  split at refused
  · split at refused
    · cases refused
    · split at refused <;> cases refused
  · split at refused <;> cases refused

theorem qosObjProfileCheck_error {objectId oldProfileId : ObjectId}
    (refused : qosObjProfileCheck s objectId oldProfileId profileId = .error status) :
    status ≠ .success := by
  unfold qosObjProfileCheck at refused
  split at refused
  · cases refused
    exact SaiStatus.noConfusion
  simp only at refused
  split at refused
  · split at refused
    · cases refused
      exact SaiStatus.noConfusion
    · exact qosCalcPoolSize_error refused
  · rename_i error
    cases refused
    exact error

theorem qosObjProfileCheck_ok {objectId oldProfileId : ObjectId}
    {amount : BitVec 32 × Bool} (admitted : qosObjProfileCheck s objectId oldProfileId profileId = .ok amount) :
    oldProfileId ≠ profileId ∧ (profileId ≠ nullObjectId → s.bufferProfileTree.get profileId ≠ none) ∧
    (oldProfileId ≠ nullObjectId → s.bufferProfileTree.get oldProfileId ≠ none) ∧
    ∃ checkTh, qosCalcPoolSize s (bufferProfilePool s oldProfileId) (bufferProfilePool s profileId)
      checkTh (bufferProfileSize s oldProfileId) (bufferProfileSize s profileId) = .ok amount := by
  unfold qosObjProfileCheck at admitted
  split at admitted
  · cases admitted
  rename_i differ
  simp only at admitted
  split at admitted
  · rename_i newCheck
    split at admitted
    · cases admitted
    rename_i oldCheck
    refine ⟨differ, ?_, ?_, _, admitted⟩
    · intro notNull absent
      rw [if_neg notNull, absent] at newCheck
      cases newCheck
    · intro notNull absent
      refine oldCheck ⟨notNull, ?_⟩
      unfold bufferProfileGet
      rw [if_neg notNull, absent]
  · cases admitted

/-- An apply is refused with the database unchanged, or it moves the object
between the profiles and then recalculates. -/
theorem qosObjUpdateBufferProfile_cases {objectId : ObjectId} {env : ProfileApplyEnv}
    (run : qosObjUpdateBufferProfile s objectId profileId env = (t, status)) :
    t = s ∧ status ≠ .success ∨
    status = .success ∧ ∃ oldProfileId tmpSize isAdd,
      qosGetBufferProfileId s objectId = .ok oldProfileId ∧
      qosObjProfileCheck s objectId oldProfileId profileId = .ok (tmpSize, isAdd) ∧
      t = qosObjProfileRecalc { qosSetBufferProfileId s objectId profileId with
          bufferProfileTree := bufferProfileRelink s.bufferProfileTree objectId oldProfileId profileId }
        (bufferProfilePool s oldProfileId) (bufferProfilePool s profileId)
        (bufferProfileSize s oldProfileId) (bufferProfileSize s profileId) tmpSize isAdd env := by
  unfold qosObjUpdateBufferProfile at run
  split at run
  · rename_i status unknown
    cases run
    refine Or.inl ⟨rfl, ?_⟩
    rintro rfl
    unfold qosGetBufferProfileId at unknown
    split at unknown
    · split at unknown <;> cases unknown
    · split at unknown <;> cases unknown
    · split at unknown <;> cases unknown
    · cases unknown
  · rename_i oldProfileId found
    split at run
    · rename_i refused
      cases run
      exact Or.inl ⟨rfl, qosObjProfileCheck_error refused⟩
    rename_i tmpSize isAdd admitted
    obtain ⟨_, newStored, _⟩ := qosObjProfileCheck_ok admitted
    split at run
    · unfold qosObjUpdateBufferProfileNode at run
      rw [if_neg fun both => newStored both.1 both.2, found] at run
      cases run
      exact Or.inr ⟨rfl, oldProfileId, tmpSize, isAdd, found, admitted, rfl⟩
    · rename_i error
      cases run
      exact Or.inl ⟨rfl, error⟩

section
variable (linked : BufferLinked s)
include linked

theorem BufferLinked.profileRecalc
    (oldPoolId newPoolId : ObjectId) (oldSize newSize tmpSize : BitVec 32) (isAdd : Bool) (env : ProfileApplyEnv) :
    BufferLinked (qosObjProfileRecalc s oldPoolId newPoolId oldSize newSize tmpSize isAdd env) := by
  unfold qosObjProfileRecalc
  split
  · exact linked.recalc _ _ _ _
  have released : BufferLinked (if oldPoolId ≠ nullObjectId
      then (qosBufferPoolSizeRecalc s oldPoolId oldSize false env.recalc).1 else s) := by
    split
    · exact linked.recalc _ _ _ _
    · exact linked
  simp only
  split
  · exact released.recalc _ _ _ _
  · exact released

theorem BufferLinked.profileApply (objectId profileId : ObjectId) (env : ProfileApplyEnv) :
    BufferLinked (qosObjUpdateBufferProfile s objectId profileId env).1 := by
  generalize run : qosObjUpdateBufferProfile s objectId profileId env = result
  obtain ⟨t, status⟩ := result
  rcases qosObjUpdateBufferProfile_cases run with
    ⟨rfl, _⟩ | ⟨_, oldProfileId, tmpSize, isAdd, found, admitted, rfl⟩
  · exact linked
  · obtain ⟨differ, newStored, _⟩ := qosObjProfileCheck_ok admitted
    exact (linked.relink found differ newStored).profileRecalc _ _ _ _ _ _ _

theorem BufferLinked.run (call : BufferCall) : BufferLinked (call.run s).1 := by
  cases call with
  | poolCreate attrs env => exact linked.poolCreate attrs env
  | poolRemove poolId npu => exact linked.poolRemove poolId npu
  | poolAttrSet poolId attr vendor npu => exact linked.poolAttrSet poolId attr vendor npu
  | profileCreate attrs env => exact linked.profileCreate attrs env
  | profileRemove profileId npu => exact linked.profileRemove profileId npu
  | profileAttrSet profileId attr env => exact linked.profileAttrSet profileId attr env
  | profileApply objectId profileId env => exact linked.profileApply objectId profileId env

end

/-- No pools, no profiles, and ports, queues and priority groups without one. -/
structure BufferFresh (s : QosState) : Prop where
  pools : s.bufferPoolTree = ∅
  profiles : s.bufferProfileTree = ∅
  ports : ∀ id node, s.portTree.get id = some node → node.bufferProfileId = nullObjectId
  queues : ∀ id node, s.queueTree.get id = some node → node.bufferProfileId = nullObjectId
  pgs : ∀ id node, s.pgTree.get id = some node → node.bufferProfileId = nullObjectId

theorem BufferFresh.linked (fresh : BufferFresh s) : BufferLinked s := by
  refine ⟨?_, ?_, ?_, ?_, ?_, ?_⟩
  · rw [fresh.pools, get_empty]
  · rw [fresh.profiles, get_empty]
  · intro id profile stored
    rw [fresh.profiles, get_empty] at stored
    cases stored
  · intro k pool stored
    rw [fresh.pools, get_empty] at stored
    cases stored
  · intro id profile stored
    rw [fresh.profiles, get_empty] at stored
    cases stored
  · intro id notNull _
    unfold bufferProfileUsers
    rw [tally_eq_zero fun k node stored => ?_, tally_eq_zero fun k node stored => ?_,
      tally_eq_zero fun k node stored => ?_]
    · rw [fresh.pgs k node stored]
      exact decide_eq_false notNull.symm
    · rw [fresh.queues k node stored]
      exact decide_eq_false notNull.symm
    · rw [fresh.ports k node stored]
      exact decide_eq_false notNull.symm

end SaiCommon
