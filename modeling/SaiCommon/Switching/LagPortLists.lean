import SaiCommon.Switching.Lag

namespace SaiCommon

namespace LagState
variable {s t : LagState} {lagId j port : ObjectId} {ports : List ObjectId}

def cached (s : LagState) (lagId : ObjectId) : Finset ObjectId := (s.portListGet lagId).toFinset

def npuMembers (s : LagState) (lagId : ObjectId) : Finset ObjectId := (s.npu.get lagId).getD ∅

theorem mem_cached : port ∈ s.cached lagId ↔ ∃ node ∈ s.nodes, node.lagId = lagId ∧ node.portId = port := by
  unfold cached portListGet
  rw [List.mem_toFinset, List.mem_map]
  constructor
  · rintro ⟨node, member, rfl⟩
    obtain ⟨stored, lag⟩ := List.mem_filter.mp member
    exact ⟨node, stored, of_decide_eq_true lag, rfl⟩
  · rintro ⟨node, stored, lag, rfl⟩
    exact ⟨node, List.mem_filter.mpr ⟨stored, decide_eq_true lag⟩, rfl⟩

theorem cached_congr (nodes : t.nodes = s.nodes) : t.cached lagId = s.cached lagId := by
  unfold cached portListGet
  rw [nodes]

theorem isPortLagMember_iff : s.isPortLagMember lagId port = true ↔ port ∈ s.cached lagId := by
  unfold isPortLagMember cached
  rw [decide_eq_true_iff, List.mem_toFinset]

theorem isPortPartOfDifferentLag_iff :
    s.isPortPartOfDifferentLag lagId port = true ↔ ∃ j, j ≠ lagId ∧ port ∈ s.cached j := by
  unfold isPortPartOfDifferentLag
  rw [List.any_eq_true]
  constructor
  · rintro ⟨node, stored, is⟩
    obtain ⟨other, same⟩ := Bool.and_eq_true_iff.mp is
    exact ⟨node.lagId, of_decide_eq_true other, mem_cached.mpr ⟨node, stored, rfl, of_decide_eq_true same⟩⟩
  · rintro ⟨j, other, member⟩
    obtain ⟨node, stored, rfl, same⟩ := mem_cached.mp member
    exact ⟨node, stored, Bool.and_eq_true_iff.mpr ⟨decide_eq_true other, decide_eq_true same⟩⟩

theorem isPortPartOfDifferentLag_eq_false :
    s.isPortPartOfDifferentLag lagId port = false ↔ ∀ j, j ≠ lagId → port ∉ s.cached j := by
  rw [← Bool.not_eq_true, isPortPartOfDifferentLag_iff]
  constructor
  · intro none j other member
    exact none ⟨j, other, member⟩
  · rintro apart ⟨j, other, member⟩
    exact apart j other member

theorem isLagCreated_iff : s.isLagCreated lagId = true ↔ s.lagTree.get lagId ≠ none := by
  unfold isLagCreated
  rw [Option.isSome_iff_ne_none]

theorem cached_addNode (node : LagPortNode) {nodes : List LagPortNode} (added : t.nodes = nodes ++ [node])
    (before : s.nodes = nodes) :
    t.cached j = if j = node.lagId then insert node.portId (s.cached j) else s.cached j := by
  ext q
  have split : (∃ n ∈ t.nodes, n.lagId = j ∧ n.portId = q) ↔
      (node.lagId = j ∧ node.portId = q) ∨ q ∈ s.cached j := by
    rw [mem_cached, added, before]
    constructor
    · rintro ⟨n, member, is⟩
      rcases List.mem_append.mp member with old | new
      · exact .inr ⟨n, old, is⟩
      · cases List.mem_singleton.mp new
        exact .inl is
    · rintro (is | ⟨n, old, is⟩)
      · exact ⟨node, List.mem_append_right _ (List.mem_singleton_self _), is⟩
      · exact ⟨n, List.mem_append_left _ old, is⟩
  rw [mem_cached, split]
  split
  · rename_i same
    rw [Finset.mem_insert]
    constructor
    · rintro (⟨_, rfl⟩ | old)
      · exact .inl rfl
      · exact .inr old
    · rintro (rfl | old)
      · exact .inl ⟨same.symm, rfl⟩
      · exact .inr old
  · rename_i other
    exact or_iff_right fun is => other is.1.symm

theorem cached_portNodeRemove :
    (s.portNodeRemove lagId port).cached j = if j = lagId then (s.cached j).erase port else s.cached j := by
  ext q
  have kept : q ∈ (s.portNodeRemove lagId port).cached j ↔ q ∈ s.cached j ∧ ¬ (j = lagId ∧ q = port) := by
    rw [mem_cached, mem_cached]
    unfold portNodeRemove
    simp only [List.mem_filter, decide_not, Bool.not_eq_true', decide_eq_false_iff_not]
    constructor
    · rintro ⟨node, ⟨stored, stays⟩, rfl, rfl⟩
      exact ⟨⟨node, stored, rfl, rfl⟩, stays⟩
    · rintro ⟨⟨node, stored, rfl, rfl⟩, stays⟩
      exact ⟨node, ⟨stored, stays⟩, rfl, rfl⟩
  rw [kept]
  split
  · rename_i same
    rw [Finset.mem_erase, and_comm, not_and]
    exact and_congr_left fun _ => ⟨fun other => other same, fun other _ => other⟩
  · rename_i other
    exact and_iff_left fun is => other is.1

theorem cached_removeAllPortNodes :
    (s.removeAllPortNodes lagId).cached j = if j = lagId then ∅ else s.cached j := by
  ext q
  have kept : q ∈ (s.removeAllPortNodes lagId).cached j ↔ q ∈ s.cached j ∧ j ≠ lagId := by
    rw [mem_cached, mem_cached]
    unfold removeAllPortNodes
    simp only [List.mem_filter, decide_eq_true_eq]
    constructor
    · rintro ⟨node, ⟨stored, stays⟩, rfl, rfl⟩
      exact ⟨⟨node, stored, rfl, rfl⟩, stays⟩
    · rintro ⟨⟨node, stored, rfl, rfl⟩, stays⟩
      exact ⟨node, ⟨stored, stays⟩, rfl, rfl⟩
  rw [kept]
  split
  · rename_i same
    exact iff_of_false (fun is => is.2 same) (Finset.notMem_empty q)
  · rename_i other
    exact and_iff_left other

theorem cached_removePortNodes :
    (l2RemovePortNodes s lagId ports).cached j = if j = lagId then s.cached j \ ports.toFinset else s.cached j := by
  unfold l2RemovePortNodes
  induction ports generalizing s with
  | nil =>
    split
    · exact Finset.sdiff_empty.symm
    · rfl
  | cons port rest ih =>
    rw [List.foldl_cons, ih, cached_portNodeRemove, List.toFinset_cons]
    split
    · ext q
      rw [Finset.mem_sdiff, Finset.mem_sdiff, Finset.mem_erase, Finset.mem_insert, not_or]
      constructor
      · rintro ⟨⟨other, member⟩, rest⟩
        exact ⟨member, other, rest⟩
      · rintro ⟨member, other, rest⟩
        exact ⟨⟨other, member⟩, rest⟩
    · rfl

theorem cached_setDisableStatus {isIngress value : Bool} :
    (s.setDisableStatus lagId port isIngress value).cached j = s.cached j := by
  have ids : ∀ node : LagPortNode, ∀ b : LagPortNode, (if node.lagId = lagId ∧ node.portId = port then
      { node with
        ingressDisable := if isIngress then value else node.ingressDisable
        egressDisable := if isIngress then node.egressDisable else value }
      else node) = b → b.lagId = node.lagId ∧ b.portId = node.portId := by
    intro node b is
    split at is
    · cases is
      exact ⟨rfl, rfl⟩
    · cases is
      exact ⟨rfl, rfl⟩
  ext q
  rw [mem_cached, mem_cached]
  unfold setDisableStatus
  simp only [List.mem_map]
  constructor
  · rintro ⟨b, ⟨node, stored, is⟩, rfl, rfl⟩
    obtain ⟨lag, same⟩ := ids node b is
    exact ⟨node, stored, lag.symm, same.symm⟩
  · rintro ⟨node, stored, rfl, rfl⟩
    obtain ⟨lag, same⟩ := ids node _ rfl
    exact ⟨_, ⟨node, stored, rfl⟩, lag, same⟩

theorem rifNotify_frame (s : LagState) (lagId : ObjectId) (lagOperation : LagOperation) (ports : List ObjectId)
    (status : SaiStatus) : (s.rifNotify lagId lagOperation ports status).1 =
      { s with told := (s.rifNotify lagId lagOperation ports status).1.told } := by
  unfold rifNotify
  split
  · rfl
  split
  · rfl
  · rfl

theorem npuAddPorts_success (s : LagState) (lagId : ObjectId) (ports : List ObjectId) :
    s.npuAddPorts lagId ports .success = ((s.npuAddPorts lagId ports .success).1, .success) := rfl

theorem npuRemovePorts_success (s : LagState) (lagId : ObjectId) (ports : List ObjectId) :
    s.npuRemovePorts lagId ports .success = ((s.npuRemovePorts lagId ports .success).1, .success) := rfl

theorem npuAddPorts_get (s : LagState) (lagId : ObjectId) (ports : List ObjectId) (j : ObjectId) :
    (s.npuAddPorts lagId ports .success).1.npu.get j =
      if j = lagId then (s.npu.get j).map fun members => members ∪ ports.toFinset else s.npu.get j :=
  KeyTree.get_modify ..

theorem npuRemovePorts_get (s : LagState) (lagId : ObjectId) (ports : List ObjectId) (j : ObjectId) :
    (s.npuRemovePorts lagId ports .success).1.npu.get j =
      if j = lagId then (s.npu.get j).map fun members => members \ ports.toFinset else s.npu.get j :=
  KeyTree.get_modify ..

/-- The members of one LAG become `members` in the cache and `held` in the NPU. -/
structure BecomesApart (s t : LagState) (lagId : ObjectId) (members held : Finset ObjectId) : Prop where
  cached : ∀ j, t.cached j = if j = lagId then members else s.cached j
  npu : ∀ j, t.npu.get j = if j = lagId then some held else s.npu.get j
  lagTree : t.lagTree = s.lagTree
  fwdMode : t.fwdMode = s.fwdMode

/-- The members of one LAG become `members`, in the cache and in the NPU. -/
abbrev Becomes (s t : LagState) (lagId : ObjectId) (members : Finset ObjectId) : Prop :=
  s.BecomesApart t lagId members members

def Matches (s : LagState) (lagId : ObjectId) : Prop := s.npu.get lagId = some (s.cached lagId)

end LagState

/-- The cache and the NPU hold the same LAGs with the same members, and no port
is a member of two. -/
structure LagInSync (s : LagState) : Prop where
  agree : ∀ lagId, s.cached lagId = s.npuMembers lagId
  held : ∀ lagId, s.lagTree.get lagId ≠ none ↔ s.npu.get lagId ≠ none
  exclusive : ∀ port lagId lagId', port ∈ s.cached lagId → port ∈ s.cached lagId' → lagId = lagId'

/-- The cache and the NPU hold the same LAGs, and only these have members. -/
structure LagHeld (s : LagState) : Prop where
  held : ∀ lagId, s.lagTree.get lagId ≠ none ↔ s.npu.get lagId ≠ none
  owned : ∀ lagId, s.lagTree.get lagId = none → s.cached lagId = ∅

section Sync
variable {s t u : LagState} {lagId : ObjectId} {members held : Finset ObjectId}

theorem LagInSync.matches (sync : LagInSync s) (created : s.lagTree.get lagId ≠ none) : s.Matches lagId := by
  obtain ⟨held, isIt⟩ := Option.ne_none_iff_exists'.mp ((sync.held lagId).mp created)
  have same := sync.agree lagId
  unfold LagState.npuMembers at same
  rw [isIt] at same
  unfold LagState.Matches
  rw [isIt, same]
  rfl

theorem LagInSync.cached_of_absent (sync : LagInSync s) (absent : s.lagTree.get lagId = none) :
    s.cached lagId = ∅ := by
  have none : s.npu.get lagId = none := by
    by_contra held
    exact (sync.held lagId).mpr held absent
  rw [sync.agree lagId]
  unfold LagState.npuMembers
  rw [none]
  rfl

theorem LagInSync.lags (sync : LagInSync s) : LagHeld s := ⟨sync.held, fun _ absent => sync.cached_of_absent absent⟩

theorem LagHeld.absent (lags : LagHeld s) (fresh : s.npu.get lagId = none) : s.lagTree.get lagId = none := by
  by_contra created
  exact (lags.held lagId).mp created fresh

/-- The same members, and the same LAGs are created and in the NPU. -/
structure LagState.Same (s t : LagState) : Prop where
  cached : ∀ j, t.cached j = s.cached j
  npu : ∀ j, t.npu.get j = s.npu.get j
  lagTree : ∀ j, t.lagTree.get j ≠ none ↔ s.lagTree.get j ≠ none

theorem LagState.Same.refl (s : LagState) : s.Same s := ⟨fun _ => rfl, fun _ => rfl, fun _ => Iff.rfl⟩

theorem LagState.Same.trans (one : s.Same t) (two : t.Same u) : s.Same u :=
  ⟨fun j => (two.cached j).trans (one.cached j), fun j => (two.npu j).trans (one.npu j),
    fun j => (two.lagTree j).trans (one.lagTree j)⟩

theorem LagInSync.same (sync : LagInSync s) (same : s.Same t) : LagInSync t := by
  refine ⟨fun j => ?_, fun j => ?_, fun port j j' one two => ?_⟩
  · unfold LagState.npuMembers
    rw [same.cached j, same.npu]
    exact sync.agree j
  · rw [same.lagTree j, same.npu]
    exact sync.held j
  · rw [same.cached] at one two
    exact sync.exclusive port j j' one two

theorem LagState.BecomesApart.of_same (inNpu : s.npu.get lagId = some held)
    (cached : ∀ j, t.cached j = s.cached j) (npu : t.npu = s.npu) (lagTree : t.lagTree = s.lagTree)
    (fwdMode : t.fwdMode = s.fwdMode) : s.BecomesApart t lagId (s.cached lagId) held := by
  refine ⟨fun j => ?_, fun j => ?_, lagTree, fwdMode⟩
  · rw [cached j]
    split
    · rename_i same
      rw [same]
    · rfl
  · rw [npu]
    split
    · rename_i same
      rw [same]
      exact inNpu
    · rfl

theorem LagState.BecomesApart.trans {members' held' : Finset ObjectId} (one : s.BecomesApart t lagId members held)
    (two : t.BecomesApart u lagId members' held') : s.BecomesApart u lagId members' held' := by
  refine ⟨fun j => ?_, fun j => ?_, two.lagTree.trans one.lagTree, two.fwdMode.trans one.fwdMode⟩
  · rw [two.cached j]
    split
    · rfl
    · rename_i other
      rw [one.cached j, if_neg other]
  · rw [two.npu j]
    split
    · rfl
    · rename_i other
      rw [one.npu j, if_neg other]

theorem LagState.BecomesApart.members_eq (becomes : s.BecomesApart t lagId members held) :
    t.cached lagId = members := by
  rw [becomes.cached lagId, if_pos rfl]

theorem LagState.BecomesApart.held_eq (becomes : s.BecomesApart t lagId members held) :
    t.npu.get lagId = some held := by
  rw [becomes.npu lagId, if_pos rfl]

theorem LagState.Becomes.matches (becomes : s.Becomes t lagId members) : t.Matches lagId := by
  unfold LagState.Matches
  rw [becomes.npu lagId, if_pos rfl, becomes.members_eq]

theorem LagInSync.becomes (sync : LagInSync s) (created : s.lagTree.get lagId ≠ none)
    (becomes : s.Becomes t lagId members)
    (free : ∀ port ∈ members, port ∈ s.cached lagId ∨ ∀ j, j ≠ lagId → port ∉ s.cached j) :
    LagInSync t := by
  have apart : ∀ port ∈ members, ∀ j, j ≠ lagId → port ∉ s.cached j := by
    intro port member j other inOther
    rcases free port member with before | alone
    · exact other (sync.exclusive port j lagId inOther before)
    · exact alone j other inOther
  refine ⟨fun j => ?_, fun j => ?_, fun port j j' one two => ?_⟩
  · unfold LagState.npuMembers
    rw [becomes.cached j, becomes.npu j]
    split
    · rfl
    · exact sync.agree j
  · rw [becomes.lagTree, becomes.npu j]
    split
    · rename_i same
      rw [same]
      exact iff_of_true created (Option.some_ne_none _)
    · exact sync.held j
  · rw [becomes.cached] at one two
    split at one
    · rename_i same
      split at two
      · rename_i same'
        rw [same, same']
      · rename_i other
        exact absurd two (apart port one j' other)
    · rename_i other
      split at two
      · exact absurd one (apart port two j other)
      · exact sync.exclusive port j j' one two

end Sync

section Loop
variable {checked : Bool} {s t : LagState} {lagId : ObjectId} {nodeAdd : ObjectId → SaiStatus}
  {nonDup ports : List ObjectId} {ret : SaiStatus}

/-- What the loop over a port list has done when `nonDup` is its list. -/
structure LagLoopDone (checked : Bool) (s t : LagState) (lagId : ObjectId) (nonDup : List ObjectId) : Prop where
  frame : t = { s with nodes := t.nodes }
  others : ∀ j, j ≠ lagId → t.cached j = s.cached j
  within : t.cached lagId ⊆ s.cached lagId ∪ nonDup.toFinset
  keeps : s.cached lagId ⊆ t.cached lagId
  fresh : ∀ port ∈ nonDup, port ∉ s.cached lagId
  apart : ∀ port ∈ nonDup, ∀ j, j ≠ lagId → port ∉ s.cached j
  unrouted : checked = true → ∀ port ∈ nonDup, s.fwdMode port ≠ some .routing

theorem LagLoopDone.start (checked : Bool) (s : LagState) (lagId : ObjectId) : LagLoopDone checked s s lagId [] := by
  refine ⟨rfl, fun _ _ => rfl, ?_, Finset.Subset.refl _, ?_, ?_, ?_⟩
  · exact Finset.subset_union_left
  · intro port member
    cases member
  · intro port member
    cases member
  · intro _ port member
    cases member

theorem LagLoopDone.push (done : LagLoopDone checked s t lagId nonDup) {t' : LagState} {port : ObjectId}
    (frame : t' = { t with nodes := t'.nodes })
    (cached : t' = t ∨ ∀ j, t'.cached j = if j = lagId then insert port (t.cached j) else t.cached j)
    (apart : t.isPortPartOfDifferentLag lagId port = false)
    (mode : ¬ (checked = true ∧ t.fwdMode port = some .routing))
    (new : ¬ t.isPortLagMember lagId port = true) : LagLoopDone checked s t' lagId (nonDup ++ [port]) := by
  have apart : ∀ j, j ≠ lagId → port ∉ s.cached j := by
    intro j other
    rw [← done.others j other]
    exact LagState.isPortPartOfDifferentLag_eq_false.mp apart j other
  have new : port ∉ s.cached lagId := fun member =>
    new (LagState.isPortLagMember_iff.mpr (done.keeps member))
  have mode : checked = true → s.fwdMode port ≠ some .routing := by
    intro isChecked routed
    refine mode ⟨isChecked, ?_⟩
    rw [done.frame]
    exact routed
  have appended : ∀ q ∈ nonDup ++ [port], q ∈ nonDup ∨ q = port := by
    intro q member
    exact (List.mem_append.mp member).imp_right List.mem_singleton.mp
  refine ⟨?_, ?_, ?_, ?_, ?_, ?_, ?_⟩
  · rw [frame, done.frame]
  · intro j other
    rcases cached with same | added
    · rw [same]
      exact done.others j other
    · rw [added j, if_neg other]
      exact done.others j other
  · intro q member
    rw [List.toFinset_append, ← Finset.union_assoc, Finset.mem_union]
    rcases cached with same | added
    · rw [same] at member
      exact .inl (done.within member)
    rw [added lagId, if_pos rfl, Finset.mem_insert] at member
    rcases member with rfl | old
    · exact .inr (List.mem_toFinset.mpr (List.mem_singleton_self _))
    · exact .inl (done.within old)
  · intro q member
    rcases cached with same | added
    · rw [same]
      exact done.keeps member
    · rw [added lagId, if_pos rfl]
      exact Finset.mem_insert_of_mem (done.keeps member)
  · intro q member
    rcases appended q member with old | rfl
    · exact done.fresh q old
    · exact new
  · intro q member
    rcases appended q member with old | rfl
    · exact done.apart q old
    · exact apart
  · intro isChecked q member
    rcases appended q member with old | rfl
    · exact done.unrouted isChecked q old
    · exact mode isChecked

theorem LagState.portNodeAdd_error {port memberId : ObjectId} {status : SaiStatus} (error : status ≠ .success) :
    t.portNodeAdd lagId port memberId status = (t, status) := by
  unfold LagState.portNodeAdd
  split
  · exact absurd rfl error
  · rfl

theorem LagState.cached_portNodeAdd (t : LagState) (lagId port memberId j : ObjectId) :
    LagState.cached { t with nodes := t.nodes ++ [⟨lagId, port, memberId, false, false⟩] } j =
      if j = lagId then insert port (t.cached j) else t.cached j :=
  LagState.cached_addNode ⟨lagId, port, memberId, false, false⟩ rfl rfl

variable (nodeAdd ret ports) in
/-- The loop keeps what is done; when it ends with SUCCESS every port of its
list is a member. -/
theorem LagLoopDone.loop (done : LagLoopDone checked s t lagId nonDup) (all : nonDup.toFinset ⊆ t.cached lagId) :
    LagLoopDone checked s (l2LagPortsLoop checked lagId nodeAdd t nonDup ret ports).1 lagId
        (l2LagPortsLoop checked lagId nodeAdd t nonDup ret ports).2.1 ∧
      ((l2LagPortsLoop checked lagId nodeAdd t nonDup ret ports).2.2 = .success →
        (l2LagPortsLoop checked lagId nodeAdd t nonDup ret ports).2.1.toFinset ⊆
          (l2LagPortsLoop checked lagId nodeAdd t nonDup ret ports).1.cached lagId) := by
  induction ports generalizing t nonDup ret with
  | nil => exact ⟨done, fun _ => all⟩
  | cons port rest ih =>
    unfold l2LagPortsLoop
    split
    · exact ⟨done, fun ok => by cases ok⟩
    rename_i apart
    split
    · exact ⟨done, fun ok => by cases ok⟩
    rename_i mode
    split
    · exact ih ret done all
    rename_i new
    have apart := (Bool.not_eq_true _).mp apart
    by_cases inserted : nodeAdd port = .success
    · rw [inserted]
      have cached := LagState.cached_portNodeAdd t lagId port nullObjectId
      refine ih _ (done.push rfl (.inr cached) apart mode new) fun q member => ?_
      rw [cached lagId, if_pos rfl]
      rw [List.toFinset_append, Finset.mem_union] at member
      rcases member with old | isIt
      · exact Finset.mem_insert_of_mem (all old)
      · cases List.mem_singleton.mp (List.mem_toFinset.mp isIt)
        exact Finset.mem_insert_self _ _
    · rw [LagState.portNodeAdd_error inserted]
      split
      · rename_i isIt
        exact absurd (congrArg Prod.snd isIt) inserted
      rename_i u error _ isIt
      cases isIt
      exact ⟨done.push rfl (.inl rfl) apart mode new, fun ok => absurd ok inserted⟩

variable (checked t lagId nodeAdd nonDup ret ports) in
theorem l2LagPortsLoop_success (ok : (l2LagPortsLoop checked lagId nodeAdd t nonDup ret ports).2.2 = .success) :
    (∀ port ∈ ports, t.isPortPartOfDifferentLag lagId port = false) ∧
      (∀ port ∈ ports, port ∈ t.cached lagId ∨ nodeAdd port = .success) ∧
      ∀ port ∈ (l2LagPortsLoop checked lagId nodeAdd t nonDup ret ports).2.1, port ∈ nonDup ∨
        port ∈ ports := by
  induction ports generalizing t nonDup ret with
  | nil =>
    refine ⟨?_, ?_, fun port member => .inl member⟩
    · intro port member
      cases member
    · intro port member
      cases member
  | cons port rest ih =>
    unfold l2LagPortsLoop at ok ⊢
    split at ok
    · cases ok
    rename_i apart
    have apart := (Bool.not_eq_true _).mp apart
    rw [if_neg (by rw [apart]; exact Bool.false_ne_true)]
    split at ok
    · cases ok
    rename_i mode
    rw [if_neg mode]
    split at ok
    · rename_i member
      rw [if_pos member]
      obtain ⟨others, added, within⟩ := ih _ _ _ ok
      refine ⟨List.forall_mem_cons.mpr ⟨apart, others⟩,
        List.forall_mem_cons.mpr ⟨.inl (LagState.isPortLagMember_iff.mp member), added⟩, ?_⟩
      intro q isIt
      exact (within q isIt).imp_right (List.mem_cons_of_mem port)
    · rename_i new
      rw [if_neg new]
      by_cases inserted : nodeAdd port = .success
      · rw [inserted] at ok ⊢
        obtain ⟨others, added, within⟩ := ih _ _ _ ok
        have cached := LagState.cached_portNodeAdd t lagId port nullObjectId
        refine ⟨List.forall_mem_cons.mpr ⟨apart, fun q isIt => ?_⟩,
          List.forall_mem_cons.mpr ⟨.inr inserted, fun q isIt => ?_⟩, ?_⟩
        · refine LagState.isPortPartOfDifferentLag_eq_false.mpr fun j other => ?_
          have away := LagState.isPortPartOfDifferentLag_eq_false.mp (others q isIt) j other
          rw [cached j, if_neg other] at away
          exact away
        · rcases added q isIt with member | byItself
          · rw [cached lagId, if_pos rfl, Finset.mem_insert] at member
            rcases member with rfl | old
            · exact .inr inserted
            · exact .inl old
          · exact .inr byItself
        · intro q isIt
          rcases within q isIt with listed | later
          · rcases List.mem_append.mp listed with old | isPort
            · exact .inl old
            · cases List.mem_singleton.mp isPort
              exact .inr List.mem_cons_self
          · exact .inr (List.mem_cons_of_mem port later)
      · rw [LagState.portNodeAdd_error inserted] at ok
        split at ok
        · rename_i isIt
          exact absurd (congrArg Prod.snd isIt) inserted
        rename_i isIt
        cases isIt
        exact absurd ok inserted

theorem LagLoopDone.becomes_added (done : LagLoopDone checked s t lagId nonDup) {held : Finset ObjectId}
    (inNpu : s.npu.get lagId = some held) : s.BecomesApart (t.npuAddPorts lagId (t.portListGet lagId) .success).1
      lagId (t.cached lagId) (held ∪ t.cached lagId) := by
  refine ⟨fun j => ?_, fun j => ?_, ?_, ?_⟩
  · split
    · rename_i same
      rw [same]
      rfl
    · rename_i other
      exact done.others j other
  · change (t.npu.modify lagId _).get j = _
    rw [KeyTree.get_modify, done.frame]
    split
    · rename_i same
      rw [same, inNpu]
      rfl
    · rfl
  · change t.lagTree = s.lagTree
    rw [done.frame]
  · change t.fwdMode = s.fwdMode
    rw [done.frame]

theorem l2RemovePortNodes_frame : l2RemovePortNodes s lagId ports =
    { s with nodes := (l2RemovePortNodes s lagId ports).nodes } := by
  unfold l2RemovePortNodes
  induction ports generalizing s with
  | nil => rfl
  | cons port rest ih =>
    rw [List.foldl_cons]
    exact ih

theorem LagLoopDone.undone (done : LagLoopDone checked s t lagId nonDup) (j : ObjectId) :
    (l2RemovePortNodes t lagId nonDup).cached j = s.cached j := by
  rw [LagState.cached_removePortNodes]
  split
  · rename_i same
    rw [same]
    refine Finset.Subset.antisymm (fun port member => ?_) fun port member => ?_
    · obtain ⟨stored, notNew⟩ := Finset.mem_sdiff.mp member
      exact (Finset.mem_union.mp (done.within stored)).resolve_right notNew
    · refine Finset.mem_sdiff.mpr ⟨done.keeps member, fun isNew => ?_⟩
      exact done.fresh port (List.mem_toFinset.mp isNew) member
  · rename_i other
    exact done.others j other

theorem LagLoopDone.becomes_undone (done : LagLoopDone checked s t lagId nonDup) {held : Finset ObjectId}
    (inNpu : s.npu.get lagId = some held) :
    s.BecomesApart (l2RemovePortNodes t lagId nonDup) lagId (s.cached lagId) held := by
  refine .of_same inNpu done.undone ?_ ?_ ?_
  · rw [l2RemovePortNodes_frame, done.frame]
  · rw [l2RemovePortNodes_frame, done.frame]
  · rw [l2RemovePortNodes_frame, done.frame]

end Loop

/-- The ports of a list that are not members yet, each once. -/
def lagNewPorts (members : Finset ObjectId) : List ObjectId → List ObjectId
  | [] => []
  | port :: rest =>
    if port ∈ members then lagNewPorts members rest else port :: lagNewPorts (insert port members) rest

/-- The node of a port that is added with a list. -/
def lagListNode (lagId port : ObjectId) : LagPortNode := ⟨lagId, port, nullObjectId, false, false⟩

section NewPorts
variable {members : Finset ObjectId} {ports : List ObjectId} {port : ObjectId}

theorem mem_lagNewPorts : port ∈ lagNewPorts members ports ↔ port ∈ ports ∧ port ∉ members := by
  induction ports generalizing members with
  | nil => exact iff_of_false List.not_mem_nil fun both => List.not_mem_nil both.1
  | cons p rest ih =>
    unfold lagNewPorts
    by_cases member : p ∈ members
    · rw [if_pos member, ih, List.mem_cons]
      constructor
      · exact fun both => ⟨.inr both.1, both.2⟩
      · rintro ⟨rfl | later, new⟩
        · exact absurd member new
        · exact ⟨later, new⟩
    · rw [if_neg member, List.mem_cons, ih, List.mem_cons, Finset.mem_insert, not_or]
      constructor
      · rintro (rfl | ⟨later, _, new⟩)
        · exact ⟨.inl rfl, member⟩
        · exact ⟨.inr later, new⟩
      · rintro ⟨rfl | later, new⟩
        · exact .inl rfl
        · by_cases same : port = p
          · exact .inl same
          · exact .inr ⟨later, same, new⟩

theorem lagNewPorts_eq_nil : lagNewPorts members ports = [] ↔ ∀ port ∈ ports, port ∈ members := by
  rw [List.eq_nil_iff_forall_not_mem]
  constructor
  · intro none port listed
    by_contra new
    exact none port (mem_lagNewPorts.mpr ⟨listed, new⟩)
  · intro all port new
    obtain ⟨listed, notMember⟩ := mem_lagNewPorts.mp new
    exact notMember (all port listed)

theorem union_lagNewPorts : members ∪ (lagNewPorts members ports).toFinset = members ∪ ports.toFinset := by
  ext port
  rw [Finset.mem_union, Finset.mem_union, List.mem_toFinset, List.mem_toFinset, mem_lagNewPorts]
  by_cases member : port ∈ members
  · exact iff_of_true (.inl member) (.inl member)
  · simp only [member, not_false_eq_true, and_true, false_or]

end NewPorts

theorem LagState.cached_addPorts (t : LagState) (lagId : ObjectId) (new : List ObjectId) (j : ObjectId) :
    LagState.cached { t with nodes := t.nodes ++ new.map (lagListNode lagId) } j =
      if j = lagId then t.cached j ∪ new.toFinset else t.cached j := by
  ext port
  have split : port ∈ LagState.cached { t with nodes := t.nodes ++ new.map (lagListNode lagId) } j ↔
      port ∈ t.cached j ∨ j = lagId ∧ port ∈ new := by
    rw [LagState.mem_cached, LagState.mem_cached]
    constructor
    · rintro ⟨node, stored, rfl, rfl⟩
      rcases List.mem_append.mp stored with old | isNew
      · exact .inl ⟨node, old, rfl, rfl⟩
      · obtain ⟨q, listed, rfl⟩ := List.mem_map.mp isNew
        exact .inr ⟨rfl, listed⟩
    · rintro (⟨node, stored, lag, same⟩ | ⟨rfl, listed⟩)
      · exact ⟨node, List.mem_append_left _ stored, lag, same⟩
      · exact ⟨_, List.mem_append_right _ (List.mem_map.mpr ⟨port, listed, rfl⟩), rfl, rfl⟩
  rw [split]
  by_cases here : j = lagId
  · rw [if_pos here, Finset.mem_union, List.mem_toFinset]
    exact or_congr_right (and_iff_right here)
  · rw [if_neg here]
    exact or_iff_left fun both => here both.1

section Loop
variable {checked : Bool} {lagId : ObjectId} {nodeAdd : ObjectId → SaiStatus}

/-- A loop in which every port passes adds the new ones; the status is the one
of the last insertion, and the one before the loop where nothing is new. -/
theorem l2LagPortsLoop_accepted (ports : List ObjectId) :
    ∀ (t : LagState) (nonDup : List ObjectId) (ret : SaiStatus),
      (∀ port ∈ ports, ∀ j, j ≠ lagId → port ∉ t.cached j) →
    (checked = true → ∀ port ∈ ports, t.fwdMode port ≠ some .routing) →
    (∀ port ∈ ports, port ∈ t.cached lagId ∨ nodeAdd port = .success) →
    l2LagPortsLoop checked lagId nodeAdd t nonDup ret ports =
      ({ t with nodes := t.nodes ++ (lagNewPorts (t.cached lagId) ports).map (lagListNode lagId) },
        nonDup ++ lagNewPorts (t.cached lagId) ports,
        if lagNewPorts (t.cached lagId) ports = [] then ret else .success) := by
  induction ports with
  | nil =>
    intro t nonDup ret _ _ _
    unfold l2LagPortsLoop lagNewPorts
    rw [List.map_nil, List.append_nil, List.append_nil, if_pos rfl]
  | cons port rest ih =>
    intro t nonDup ret apart unrouted inserted
    have away : ¬ t.isPortPartOfDifferentLag lagId port = true := by
      rw [LagState.isPortPartOfDifferentLag_eq_false.mpr (apart port List.mem_cons_self)]
      exact Bool.false_ne_true
    have mode : ¬ (checked = true ∧ t.fwdMode port = some .routing) :=
      fun both => unrouted both.1 port List.mem_cons_self both.2
    have apartRest : ∀ q ∈ rest, ∀ j, j ≠ lagId → q ∉ t.cached j :=
      fun q listed => apart q (List.mem_cons_of_mem _ listed)
    have unroutedRest : checked = true → ∀ q ∈ rest, t.fwdMode q ≠ some .routing :=
      fun isChecked q listed => unrouted isChecked q (List.mem_cons_of_mem _ listed)
    unfold l2LagPortsLoop lagNewPorts
    rw [if_neg away, if_neg mode]
    by_cases member : port ∈ t.cached lagId
    · rw [if_pos (LagState.isPortLagMember_iff.mpr member), if_pos member]
      exact ih t nonDup ret apartRest unroutedRest fun q listed => inserted q (List.mem_cons_of_mem _ listed)
    rw [if_neg (fun isMember => member (LagState.isPortLagMember_iff.mp isMember)), if_neg member,
      (inserted port List.mem_cons_self).resolve_left member]
    have cached := LagState.cached_portNodeAdd t lagId port nullObjectId
    have members := cached lagId
    rw [if_pos rfl] at members
    have next := ih { t with nodes := t.nodes ++ [lagListNode lagId port] } (nonDup ++ [port]) .success
      (fun q listed j other => by
        have before := apartRest q listed j other
        rw [lagListNode, cached j, if_neg other]
        exact before)
      unroutedRest
      (fun q listed => by
        rw [lagListNode, members, Finset.mem_insert]
        rcases inserted q (List.mem_cons_of_mem _ listed) with old | ok
        · exact .inl (.inr old)
        · exact .inr ok)
    rw [ite_self, lagListNode, members, List.append_assoc, List.append_assoc] at next
    rw [if_neg (List.cons_ne_nil _ _)]
    exact next

end Loop

section PortListSet
variable {s : LagState} {lagId : ObjectId} {held : Finset ObjectId} {ports : List ObjectId} {env : LagPortListEnv}

theorem l2RemoveAllLagPorts_cases (inNpu : s.npu.get lagId = some held) (npu : SaiStatus) :
    ((l2RemoveAllLagPorts s lagId npu).1 = s ∧ (l2RemoveAllLagPorts s lagId npu).2 ≠ .success) ∨
      (l2RemoveAllLagPorts s lagId npu).2 = .success ∧
        s.BecomesApart (l2RemoveAllLagPorts s lagId npu).1 lagId ∅ (held \ s.cached lagId) ∧
        (s.portListGet lagId ≠ [] → npu = .success) := by
  unfold l2RemoveAllLagPorts
  split
  · rename_i empty
    have none : s.cached lagId = ∅ := by
      unfold LagState.cached
      rw [empty]
      rfl
    have stays : s.BecomesApart s lagId (s.cached lagId) held := .of_same inNpu (fun _ => rfl) rfl rfl rfl
    rw [none] at stays
    rw [none, Finset.sdiff_empty]
    exact .inr ⟨rfl, stays, fun notEmpty => absurd empty notEmpty⟩
  · cases npu with
    | success =>
      refine .inr ⟨rfl, ⟨fun j => LagState.cached_removeAllPortNodes, fun j => ?_, rfl, rfl⟩, fun _ => rfl⟩
      change (s.npu.modify lagId _).get j = _
      rw [KeyTree.get_modify]
      split
      · rename_i same
        rw [same, inNpu]
        rfl
      · rfl
    | _ => exact .inl ⟨rfl, fun ok => by cases ok⟩

/-- The members are taken out before the list is looked at. -/
def LagCleared (s : LagState) (lagId : ObjectId) (env : LagPortListEnv) : Prop :=
  s.portListGet lagId ≠ [] → env.npuRemove = .success

/-- The list can be put in once the members are out. -/
structure LagFilled (s : LagState) (lagId : ObjectId) (ports : List ObjectId) (env : LagPortListEnv) : Prop where
  apart : ∀ port ∈ ports, s.isPortPartOfDifferentLag lagId port = false
  inserted : ∀ port ∈ ports, env.nodeAdd port = .success
  added : env.npuAdd = .success

theorem l2RemoveAllLagPorts_cleared (cleared : LagCleared s lagId env) :
    (l2RemoveAllLagPorts s lagId env.npuRemove).2 = .success := by
  unfold l2RemoveAllLagPorts
  split
  · rfl
  rename_i notEmpty
  rw [cleared notEmpty]
  rfl

/-- The three ways in which the set of a list of valid ports ends: nothing is
done, the list is in, the LAG is empty. The NPU keeps what the cache did not know. -/
theorem l2LagPortListSet_result (inNpu : s.npu.get lagId = some held) (created : s.lagTree.get lagId ≠ none)
    (valid : ∀ port ∈ ports, s.portValid port = true) (env : LagPortListEnv) :
    ¬ LagCleared s lagId env ∧ (l2LagPortListSet s lagId ports env).1 = s ∧
        (l2LagPortListSet s lagId ports env).2 ≠ .success ∨
      LagCleared s lagId env ∧ LagFilled s lagId ports env ∧
        (l2LagPortListSet s lagId ports env).2 = .success ∧
        s.BecomesApart (l2LagPortListSet s lagId ports env).1 lagId ports.toFinset
          (held \ s.cached lagId ∪ ports.toFinset) ∨
      LagCleared s lagId env ∧ ¬ LagFilled s lagId ports env ∧
        (l2LagPortListSet s lagId ports env).2 ≠ .success ∧
        s.BecomesApart (l2LagPortListSet s lagId ports env).1 lagId ∅ (held \ s.cached lagId) := by
  have allValid : ¬ ports.all s.portValid = false := by
    rw [Bool.not_eq_false]
    exact List.all_eq_true.mpr valid
  have isCreated : ¬ s.isLagCreated lagId = false := by
    rw [Bool.not_eq_false]
    exact LagState.isLagCreated_iff.mpr created
  unfold l2LagPortListSet
  rw [if_neg allValid, if_neg isCreated]
  rcases l2RemoveAllLagPorts_cases inNpu env.npuRemove with ⟨same, error⟩ | ⟨ok, cleared, answer⟩
  · refine .inl ⟨fun cleared => error (l2RemoveAllLagPorts_cleared cleared), ?_⟩
    split
    · rename_i isIt
      rw [isIt] at error
      exact absurd rfl error
    · rename_i isIt
      rw [isIt] at same error
      exact ⟨same, error⟩
  · have split : l2RemoveAllLagPorts s lagId env.npuRemove =
        ((l2RemoveAllLagPorts s lagId env.npuRemove).1, .success) := Prod.ext rfl ok
    generalize (l2RemoveAllLagPorts s lagId env.npuRemove).1 = t at cleared split
    rw [split]
    dsimp only
    have apartIn : ∀ port, (∀ j, j ≠ lagId → port ∉ t.cached j) ↔
        s.isPortPartOfDifferentLag lagId port = false := by
      intro port
      rw [LagState.isPortPartOfDifferentLag_eq_false]
      constructor
      · intro away j other member
        refine away j other ?_
        rw [cleared.cached j, if_neg other]
        exact member
      · intro away j other member
        rw [cleared.cached j, if_neg other] at member
        exact away j other member
    refine .inr ?_
    obtain ⟨done, -⟩ := (LagLoopDone.start false t lagId).loop env.nodeAdd ports .success
      (Finset.empty_subset _)
    have undone : ∀ u nonDup, LagLoopDone false t u lagId nonDup →
        s.BecomesApart (l2RemovePortNodes u lagId nonDup) lagId ∅ (held \ s.cached lagId) := by
      intro u nonDup done
      have restored := cleared.trans (done.becomes_undone cleared.held_eq)
      rw [cleared.members_eq] at restored
      exact restored
    by_cases passes : (∀ port ∈ ports, s.isPortPartOfDifferentLag lagId port = false) ∧
        ∀ port ∈ ports, env.nodeAdd port = .success
    · have looped : l2LagPortsLoop false lagId env.nodeAdd t [] .success ports = _ :=
        l2LagPortsLoop_accepted ports t [] .success
          (fun port listed => (apartIn port).mpr (passes.1 port listed))
          (fun isChecked => Bool.noConfusion isChecked) fun port listed => .inr (passes.2 port listed)
      rw [ite_self] at looped
      rw [looped] at done ⊢
      dsimp only at done ⊢
      cases added : env.npuAdd with
      | success =>
        refine .inl ⟨answer, ⟨passes.1, passes.2, added⟩, rfl, ?_⟩
        have becomes := cleared.trans (done.becomes_added cleared.held_eq)
        have members : LagState.cached
            { t with nodes := t.nodes ++ (lagNewPorts (t.cached lagId) ports).map (lagListNode lagId) } lagId =
              ports.toFinset := by
          rw [LagState.cached_addPorts, if_pos rfl, union_lagNewPorts, cleared.members_eq, Finset.empty_union]
        rw [members] at becomes
        exact becomes
      | _ =>
        refine .inr ⟨answer, fun filled => ?_, SaiStatus.noConfusion, undone _ _ done⟩
        have ok := filled.added
        rw [added] at ok
        cases ok
    · have failed : (l2LagPortsLoop false lagId env.nodeAdd t [] .success ports).2.2 ≠ .success := by
        intro ok
        obtain ⟨apart, inserted, _⟩ := l2LagPortsLoop_success false t lagId env.nodeAdd [] ports .success ok
        refine passes ⟨fun port listed => (apartIn port).mp ?_, fun port listed => ?_⟩
        · exact LagState.isPortPartOfDifferentLag_eq_false.mp (apart port listed)
        · refine (inserted port listed).resolve_left fun member => ?_
          rw [cleared.members_eq] at member
          cases member
      generalize l2LagPortsLoop false lagId env.nodeAdd t [] .success ports = result at done failed
      obtain ⟨u, nonDup, status⟩ := result
      have refused : ¬ LagFilled s lagId ports env := fun filled => passes ⟨filled.apart, filled.inserted⟩
      cases status with
      | success => exact absurd rfl failed
      | _ => exact .inr ⟨answer, refused, SaiStatus.noConfusion, undone _ _ done⟩

end PortListSet

end SaiCommon
