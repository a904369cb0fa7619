import SaiCommon.Switching.LagHeld

namespace SaiCommon

variable {env : LagAddPortsEnv} {s t : LagState} {ports : List ObjectId} {lagId : ObjectId}

/-- Valid ports none of which is routed or in another LAG. -/
structure LagListFit (s : LagState) (lagId : ObjectId) (ports : List ObjectId) : Prop where
  valid : ∀ port ∈ ports, s.portValid port = true
  unrouted : ∀ port ∈ ports, s.fwdMode port ≠ some .routing
  apart : ∀ port ∈ ports, s.isPortPartOfDifferentLag lagId port = false

/-- What the RIF holds after it has accepted `notices`. -/
def lagRifView (view : Finset ObjectId) (notices : List LagNotice) : Finset ObjectId :=
  notices.foldl (fun view notice =>
    match notice.lagOperation with
    | .addPorts => view ∪ notice.ports.toFinset
    | .delPorts => view \ notice.ports.toFinset
    | .other => view) view

structure LagAddRight (s : LagState) (lagId : ObjectId) (ports : List ObjectId) (env : LagAddPortsEnv) : Prop where
  answer : (l2AddPortsToLag s lagId ports env).2 = .success
  becomes : s.Becomes (l2AddPortsToLag s lagId ports env).1 lagId (s.cached lagId ∪ ports.toFinset)

/-- The same addition once more succeeds and changes nothing. -/
structure LagAddAgainRight (s : LagState) (lagId : ObjectId) (ports : List ObjectId) (env : LagAddPortsEnv) :
    Prop where
  answer : (l2AddPortsToLag (l2AddPortsToLag s lagId ports env).1 lagId ports env).2 = .success
  same : (l2AddPortsToLag s lagId ports env).1.Same
    (l2AddPortsToLag (l2AddPortsToLag s lagId ports env).1 lagId ports env).1

structure LagLeaveRight (s : LagState) (lagId : ObjectId) (ports : List ObjectId) : Prop where
  answer : (l2RemovePortsFromLag s lagId ports .success .success).2 = .success
  becomes : s.Becomes (l2RemovePortsFromLag s lagId ports .success .success).1 lagId (s.cached lagId \ ports.toFinset)

/-- Ports that are added and removed again leave nothing behind, also in the RIF. -/
structure LagAddLeaveRight (s : LagState) (lagId : ObjectId) (ports : List ObjectId) (env : LagAddPortsEnv) :
    Prop where
  same : s.Same (l2RemovePortsFromLag (l2AddPortsToLag s lagId ports env).1 lagId ports .success .success).1
  heard : ∃ heard, (l2RemovePortsFromLag (l2AddPortsToLag s lagId ports env).1 lagId ports .success .success).1.told =
      s.told ++ heard ∧
    ∀ view : Finset ObjectId, (∀ port ∈ ports, port ∉ view) → lagRifView view heard = view

section Add
variable {nonDup : List ObjectId}

theorem LagListFit.all_valid (fit : LagListFit s lagId ports) : ¬ ports.all s.portValid = false := by
  rw [Bool.not_eq_false]
  exact List.all_eq_true.mpr fit.valid

theorem LagListFit.loop (fit : LagListFit s lagId ports)
    (inserted : ∀ port ∈ ports, port ∈ s.cached lagId ∨ env.nodeAdd port = .success) :
    l2LagPortsLoop true lagId env.nodeAdd s [] .failure ports =
      ({ s with nodes := s.nodes ++ (lagNewPorts (s.cached lagId) ports).map (lagListNode lagId) },
        lagNewPorts (s.cached lagId) ports,
        if lagNewPorts (s.cached lagId) ports = [] then .failure else .success) :=
  l2LagPortsLoop_accepted ports s [] .failure
    (fun port listed => LagState.isPortPartOfDifferentLag_eq_false.mp (fit.apart port listed))
    (fun _ => fit.unrouted) inserted

theorem LagState.Matches.added (matched : s.Matches lagId) (ports : List ObjectId) :
    s.Becomes (LagState.npuAddPorts { s with
        nodes := s.nodes ++ (lagNewPorts (s.cached lagId) ports).map (lagListNode lagId) } lagId
      (lagNewPorts (s.cached lagId) ports) .success).1 lagId (s.cached lagId ∪ ports.toFinset) := by
  refine ⟨fun j => ?_, fun j => ?_, rfl, rfl⟩
  · refine (s.cached_addPorts lagId (lagNewPorts (s.cached lagId) ports) j).trans ?_
    split
    · rename_i same
      rw [same, union_lagNewPorts]
    · rfl
  · rw [LagState.npuAddPorts_get]
    split
    · rename_i same
      change (s.npu.get j).map _ = _
      rw [same, matched, Option.map_some, union_lagNewPorts]
    · rfl

theorem LagLoopDone.same (done : LagLoopDone true s t lagId nonDup) :
    s.Same (l2RemovePortNodes t lagId nonDup) := by
  refine ⟨done.undone, fun j => ?_, fun j => ?_⟩
  · rw [l2RemovePortNodes_frame, done.frame]
  · rw [l2RemovePortNodes_frame, done.frame]

theorem l2AddPortsToLag_error (matched : s.lagTree.get lagId ≠ none → s.Matches lagId)
    (failed : (l2AddPortsToLag s lagId ports env).2 ≠ .success) :
    s.Same (l2AddPortsToLag s lagId ports env).1 ∧ s.Unheard (l2AddPortsToLag s lagId ports env).1 env.rifAdd := by
  obtain ⟨done, -⟩ := (LagLoopDone.start true s lagId).loop env.nodeAdd ports .failure (Finset.empty_subset _)
  unfold l2AddPortsToLag at failed ⊢
  split
  · exact ⟨.refl s, .inl rfl⟩
  rename_i valid
  rw [if_neg valid] at failed
  split
  · exact ⟨.refl s, .inl rfl⟩
  rename_i created
  have isMatched := matched (LagState.isLagCreated_iff.mp ((Bool.not_eq_false _).mp created))
  rw [if_neg created] at failed
  rcases looped : l2LagPortsLoop true lagId env.nodeAdd s [] .failure ports with ⟨t, nonDup, status⟩
  rw [looped] at done failed
  dsimp only at done failed ⊢
  have undone : s.Same (l2RemovePortNodes t lagId nonDup) ∧
      s.Unheard (l2RemovePortNodes t lagId nonDup) env.rifAdd := by
    refine ⟨done.same, .inl ?_⟩
    rw [l2RemovePortNodes_frame, done.frame]
  cases status with
  | success =>
    cases added : env.npuAdd with
    | success =>
      rw [added] at failed
      dsimp only at failed ⊢
      rw [LagState.npuAddPorts_success] at failed ⊢
      dsimp only at failed ⊢
      have frame := (t.npuAddPorts lagId nonDup .success).1.rifNotify_frame lagId .addPorts nonDup env.rifAdd
      have told := (t.npuAddPorts lagId nonDup .success).1.rifNotify_told lagId .addPorts nonDup env.rifAdd
      have before : (t.npuAddPorts lagId nonDup .success).1.told = s.told := by
        change t.told = s.told
        rw [done.frame]
      split
      · rename_i isTold
        rw [isTold] at failed
        exact absurd rfl failed
      rename_i u error isError isTold
      rw [isTold] at frame told
      rw [before] at told
      refine ⟨done.refused isMatched frame, ?_⟩
      have heard : (l2RemovePortNodes (u.npuRemovePorts lagId nonDup .success).1 lagId nonDup).told = u.told := by
        rw [l2RemovePortNodes_frame]
        rfl
      unfold LagState.Unheard
      rw [heard]
      rcases told with ⟨_, ok⟩ | ⟨answer, _, notice⟩
      · exact absurd ok isError
      refine .inr ⟨?_, _, notice⟩
      rw [← answer]
      exact isError
    | _ => exact undone
  | _ => exact undone

theorem l2AddPortsToLag_answer (fit : LagListFit s lagId ports)
    (ok : (l2AddPortsToLag s lagId ports env).2 = .success) : (∃ port ∈ ports, port ∉ s.cached lagId) ∧
      ∀ port ∈ ports, port ∉ s.cached lagId → env.nodeAdd port = .success := by
  have looped : (l2LagPortsLoop true lagId env.nodeAdd s [] .failure ports).2.2 = .success := by
    unfold l2AddPortsToLag at ok
    split at ok
    · cases ok
    split at ok
    · cases ok
    split at ok
    · rename_i isLooped
      rw [isLooped]
    · rename_i isError isLooped
      exact absurd ok isError
  have inserted := (l2LagPortsLoop_success true s lagId env.nodeAdd [] ports .failure looped).2.1
  rw [fit.loop inserted] at looped
  refine ⟨?_, fun port listed new => (inserted port listed).resolve_left new⟩
  by_contra none
  have empty : lagNewPorts (s.cached lagId) ports = [] := by
    refine lagNewPorts_eq_nil.mpr fun port listed => ?_
    by_contra new
    exact none ⟨port, listed, new⟩
  rw [if_pos empty] at looped
  cases looped

theorem l2AddPortsToLag_added (fit : LagListFit s lagId ports) (matched : s.Matches lagId)
    (created : s.lagTree.get lagId ≠ none) (new : ∃ port ∈ ports, port ∉ s.cached lagId)
    (inserted : ∀ port ∈ ports, port ∉ s.cached lagId → env.nodeAdd port = .success)
    (npu : env.npuAdd = .success)
    (rif : env.rifAdd = .success) : LagAddRight s lagId ports env ∧
      (l2AddPortsToLag s lagId ports env).1.told =
        s.told ++ s.notices lagId .addPorts (lagNewPorts (s.cached lagId) ports) .success := by
  have notEmpty : lagNewPorts (s.cached lagId) ports ≠ [] := by
    obtain ⟨port, listed, isNew⟩ := new
    exact fun empty => isNew (lagNewPorts_eq_nil.mp empty port listed)
  have looped : l2LagPortsLoop true lagId env.nodeAdd s [] .failure ports = _ :=
    fit.loop fun port listed => or_iff_not_imp_left.mpr (inserted port listed)
  have isCreated : ¬ s.isLagCreated lagId = false := by
    rw [Bool.not_eq_false]
    exact LagState.isLagCreated_iff.mpr created
  have becomes := matched.added ports
  have before : (LagState.npuAddPorts { s with
      nodes := s.nodes ++ (lagNewPorts (s.cached lagId) ports).map (lagListNode lagId) } lagId
    (lagNewPorts (s.cached lagId) ports) .success).1.told ++ LagState.notices (LagState.npuAddPorts { s with
      nodes := s.nodes ++ (lagNewPorts (s.cached lagId) ports).map (lagListNode lagId) } lagId
    (lagNewPorts (s.cached lagId) ports) .success).1 lagId .addPorts (lagNewPorts (s.cached lagId) ports) .success =
      s.told ++ s.notices lagId .addPorts (lagNewPorts (s.cached lagId) ports) .success := rfl
  generalize isAdded : LagState.npuAddPorts { s with
    nodes := s.nodes ++ (lagNewPorts (s.cached lagId) ports).map (lagListNode lagId) } lagId
      (lagNewPorts (s.cached lagId) ports) .success = added at becomes before
  have taken : added.2 = .success := by
    rw [← isAdded]
    rfl
  obtain ⟨t, status⟩ := added
  cases taken
  have result : l2AddPortsToLag s lagId ports env =
      ((t.rifNotify lagId .addPorts (lagNewPorts (s.cached lagId) ports) .success).1, .success) := by
    unfold l2AddPortsToLag
    rw [if_neg fit.all_valid, if_neg isCreated, looped, if_neg notEmpty, npu, rif]
    dsimp only
    rw [isAdded]
    dsimp only
    split
    · rename_i isTold
      rw [isTold]
    rename_i isError isTold
    have answer := t.rifNotify_success lagId .addPorts (lagNewPorts (s.cached lagId) ports)
    rw [isTold] at answer
    exact absurd answer isError
  refine ⟨⟨?_, ?_⟩, ?_⟩
  · rw [result]
  · rw [result, LagState.rifNotify_frame]
    exact ⟨becomes.cached, becomes.npu, becomes.lagTree, becomes.fwdMode⟩
  · rw [result]
    exact (t.rifNotify_notices lagId .addPorts (lagNewPorts (s.cached lagId) ports) .success).trans before

end Add

section Remove
variable {npu rifDel : SaiStatus}

theorem l2RemovePortsFromLag_error (matched : s.lagTree.get lagId ≠ none → s.Matches lagId)
    (failed : (l2RemovePortsFromLag s lagId ports npu rifDel).2 ≠ .success) :
    s.Same (l2RemovePortsFromLag s lagId ports npu rifDel).1 ∧
      s.Unheard (l2RemovePortsFromLag s lagId ports npu rifDel).1 rifDel := by
  unfold l2RemovePortsFromLag at failed ⊢
  split
  · exact ⟨.refl s, .inl rfl⟩
  rename_i valid
  rw [if_neg valid] at failed
  split
  · exact ⟨.refl s, .inl rfl⟩
  rename_i created
  have isMatched := matched (LagState.isLagCreated_iff.mp ((Bool.not_eq_false _).mp created))
  rw [if_neg created] at failed
  split
  · exact ⟨.refl s, .inl rfl⟩
  rename_i members
  have inside : ports.toFinset ⊆ s.cached lagId := by
    intro port member
    have all := (Bool.not_eq_false _).mp members
    exact LagState.isPortLagMember_iff.mp (List.all_eq_true.mp all port (List.mem_toFinset.mp member))
  rw [if_neg members] at failed
  cases npu with
  | success =>
    rw [LagState.npuRemovePorts_success] at failed ⊢
    dsimp only at failed ⊢
    have frame := (s.npuRemovePorts lagId ports .success).1.rifNotify_frame lagId .delPorts ports rifDel
    have told := (s.npuRemovePorts lagId ports .success).1.rifNotify_told lagId .delPorts ports rifDel
    split
    · rename_i isTold
      rw [isTold] at failed
      exact absurd rfl failed
    rename_i u error isError isTold
    rw [isTold] at frame told
    dsimp only at frame
    refine ⟨⟨fun j => ?_, fun j => ?_, fun j => ?_⟩, ?_⟩
    · rw [frame]
      rfl
    · rw [LagState.npuAddPorts_get, frame]
      change (if j = lagId then ((s.npuRemovePorts lagId ports .success).1.npu.get j).map _
        else (s.npuRemovePorts lagId ports .success).1.npu.get j) = _
      rw [LagState.npuRemovePorts_get]
      split
      · rename_i same
        rw [same, isMatched, Option.map_some, Option.map_some]
        exact congrArg some (Finset.sdiff_union_of_subset inside)
      · rfl
    · rw [frame]
      exact Iff.rfl
    · rcases told with ⟨_, ok⟩ | ⟨answer, _, notice⟩
      · exact absurd ok isError
      refine .inr ⟨?_, _, notice⟩
      rw [← answer]
      exact isError
  | _ => exact ⟨.refl s, .inl rfl⟩

theorem l2RemovePortsFromLag_answer (ok : (l2RemovePortsFromLag s lagId ports npu rifDel).2 = .success) :
    ∀ port ∈ ports, port ∈ s.cached lagId := by
  unfold l2RemovePortsFromLag at ok
  split at ok
  · cases ok
  split at ok
  · cases ok
  split at ok
  · cases ok
  rename_i members
  have all := (Bool.not_eq_false _).mp members
  exact fun port listed => LagState.isPortLagMember_iff.mp (List.all_eq_true.mp all port listed)

theorem l2RemovePortsFromLag_left (valid : ∀ port ∈ ports, s.portValid port = true) (matched : s.Matches lagId)
    (created : s.lagTree.get lagId ≠ none) (members : ∀ port ∈ ports, port ∈ s.cached lagId) :
    LagLeaveRight s lagId ports ∧ (l2RemovePortsFromLag s lagId ports .success .success).1.told =
      s.told ++ s.notices lagId .delPorts ports .success := by
  have isValid : ¬ ports.all s.portValid = false := by
    rw [Bool.not_eq_false]
    exact List.all_eq_true.mpr valid
  have isCreated : ¬ s.isLagCreated lagId = false := by
    rw [Bool.not_eq_false]
    exact LagState.isLagCreated_iff.mpr created
  have allMembers : ¬ (ports.all fun port => s.isPortLagMember lagId port) = false := by
    rw [Bool.not_eq_false]
    exact List.all_eq_true.mpr fun port listed => LagState.isPortLagMember_iff.mpr (members port listed)
  have result : l2RemovePortsFromLag s lagId ports .success .success =
      (l2RemovePortNodes ((s.npuRemovePorts lagId ports .success).1.rifNotify lagId .delPorts ports .success).1
        lagId ports, .success) := by
    unfold l2RemovePortsFromLag
    rw [if_neg isValid, if_neg isCreated, if_neg allMembers, LagState.npuRemovePorts_success]
    dsimp only
    split
    · rename_i isTold
      rw [isTold]
    rename_i isError isTold
    have answer := (s.npuRemovePorts lagId ports .success).1.rifNotify_success lagId .delPorts ports
    rw [isTold] at answer
    exact absurd answer isError
  have frame := (s.npuRemovePorts lagId ports .success).1.rifNotify_frame lagId .delPorts ports .success
  have told := (s.npuRemovePorts lagId ports .success).1.rifNotify_notices lagId .delPorts ports .success
  generalize ((s.npuRemovePorts lagId ports .success).1.rifNotify lagId .delPorts ports .success).1 = t
    at frame result told
  refine ⟨⟨?_, ?_⟩, ?_⟩
  · rw [result]
  · rw [result]
    refine .leave ports matched (fun j => ?_) (fun j => ?_) ?_ ?_
    · rw [LagState.cached_removePortNodes, frame]
      rfl
    · rw [l2RemovePortNodes_frame, frame]
    · rw [l2RemovePortNodes_frame, frame]
      rfl
    · rw [l2RemovePortNodes_frame, frame]
      rfl
  · rw [result, l2RemovePortNodes_frame]
    exact told

end Remove

section SetOps

theorem LagState.Same.matches (same : s.Same t) (matched : s.Matches lagId) : t.Matches lagId := by
  unfold LagState.Matches
  rw [same.npu, same.cached]
  exact matched

section
variable (fit : LagListFit s lagId ports)
include fit

theorem LagListFit.afterAdd (env : LagAddPortsEnv) :
    LagListFit (l2AddPortsToLag s lagId ports env).1 lagId ports := by
  have only := (LagState.OnlyOf.moves lagId).addPortsToLag s (fun _ _ => .told) ports env
  have frame := l2AddPortsToLag_frame s lagId ports env
  refine ⟨fun port listed => ?_, fun port listed => ?_, fun port listed => ?_⟩
  · rw [frame]
    exact fit.valid port listed
  · rw [frame]
    exact fit.unrouted port listed
  · refine LagState.isPortPartOfDifferentLag_eq_false.mpr fun j other => ?_
    rw [only.cached j other]
    exact LagState.isPortPartOfDifferentLag_eq_false.mp (fit.apart port listed) j other

theorem l2AddPortsToLag_matches (matched : s.Matches lagId)
    (created : s.lagTree.get lagId ≠ none) (npu : env.npuAdd = .success) (rif : env.rifAdd = .success) :
    (l2AddPortsToLag s lagId ports env).1.Matches lagId := by
  by_cases ok : (l2AddPortsToLag s lagId ports env).2 = .success
  · obtain ⟨new, inserted⟩ := l2AddPortsToLag_answer fit ok
    exact (l2AddPortsToLag_added fit matched created new inserted npu rif).1.becomes.matches
  · exact (l2AddPortsToLag_error (fun _ => matched) ok).1.matches matched

theorem l2AddPortsToLag_notAgain (matched : s.Matches lagId)
    (created : s.lagTree.get lagId ≠ none) (npu : env.npuAdd = .success) (rif : env.rifAdd = .success) :
    ¬ LagAddAgainRight s lagId ports env := by
  intro again
  have fit' := fit.afterAdd env
  have matched' := l2AddPortsToLag_matches fit matched created npu rif
  have created' : (l2AddPortsToLag s lagId ports env).1.lagTree.get lagId ≠ none := by
    rw [((LagState.OnlyOf.moves lagId).addPortsToLag s (fun _ _ => .told) ports env).lagTree]
    exact created
  obtain ⟨new, inserted⟩ := l2AddPortsToLag_answer fit' again.answer
  have added := (l2AddPortsToLag_added fit' matched' created' new inserted npu rif).1.becomes.members_eq
  obtain ⟨port, listed, isNew⟩ := new
  rw [again.same.cached lagId] at added
  refine isNew ?_
  rw [added]
  exact Finset.mem_union_right _ (List.mem_toFinset.mpr listed)

end

theorem LagState.BecomesApart.same {held : Finset ObjectId} (becomes : s.BecomesApart t lagId (s.cached lagId) held)
    (inNpu : s.npu.get lagId = some held) : s.Same t := by
  refine ⟨fun j => ?_, fun j => ?_, fun j => ?_⟩
  · rw [becomes.cached j]
    split
    · rename_i same
      rw [same]
    · rfl
  · rw [becomes.npu j]
    split
    · rename_i same
      rw [same, inNpu]
    · rfl
  · rw [becomes.lagTree]

theorem lagRifView_joinLeave {view : Finset ObjectId} {new : List ObjectId} (s : LagState)
    (subset : ∀ port ∈ new, port ∈ ports) (apart : ∀ port ∈ ports, port ∉ view) :
    lagRifView view (s.notices lagId .addPorts new .success ++ s.notices lagId .delPorts ports .success) = view := by
  unfold LagState.notices
  split
  · rfl
  split
  · change (view ∪ new.toFinset) \ ports.toFinset = view
    ext port
    rw [Finset.mem_sdiff, Finset.mem_union, List.mem_toFinset, List.mem_toFinset]
    constructor
    · rintro ⟨old | isNew, away⟩
      · exact old
      · exact absurd (subset port isNew) away
    · exact fun old => ⟨.inl old, fun listed => apart port listed old⟩
  · rfl

theorem lagRifView_leave (s : LagState) (view : Finset ObjectId) :
    lagRifView view (s.notices lagId .delPorts [] .success) = view := by
  unfold LagState.notices
  split
  · rfl
  split
  · exact Finset.sdiff_empty
  · rfl

theorem l2AddPortsToLag_left (fit : LagListFit s lagId ports) (matched : s.Matches lagId)
    (created : s.lagTree.get lagId ≠ none) (npu : env.npuAdd = .success) (rif : env.rifAdd = .success)
    (away : ∀ port ∈ ports, port ∉ s.cached lagId) : LagAddLeaveRight s lagId ports env := by
  have matched' := l2AddPortsToLag_matches fit matched created npu rif
  have only := (LagState.OnlyOf.moves lagId).addPortsToLag s (fun _ _ => .told) ports env
  have frame := l2AddPortsToLag_frame s lagId ports env
  have created' : (l2AddPortsToLag s lagId ports env).1.lagTree.get lagId ≠ none := by
    rw [only.lagTree]
    exact created
  have valid' := (fit.afterAdd env).valid
  have notices : ∀ lagOperation list, (l2AddPortsToLag s lagId ports env).1.notices lagId lagOperation list .success =
      s.notices lagId lagOperation list .success := by
    intro lagOperation list
    unfold LagState.notices
    rw [frame]
  by_cases ok : (l2AddPortsToLag s lagId ports env).2 = .success
  · obtain ⟨new, inserted⟩ := l2AddPortsToLag_answer fit ok
    obtain ⟨added, joined⟩ := l2AddPortsToLag_added fit matched created new inserted npu rif
    obtain ⟨left, leaving⟩ := l2RemovePortsFromLag_left valid' matched' created' fun port listed => by
      rw [added.becomes.members_eq]
      exact Finset.mem_union_right _ (List.mem_toFinset.mpr listed)
    have back := added.becomes.trans left.becomes
    rw [added.becomes.members_eq, Finset.union_sdiff_right, Finset.sdiff_eq_self_of_disjoint
      (Finset.disjoint_left.mpr fun port old listed => away port (List.mem_toFinset.mp listed) old)] at back
    rw [joined, notices, List.append_assoc] at leaving
    refine ⟨back.same matched, _, leaving, fun view apart => ?_⟩
    exact lagRifView_joinLeave s (fun port isNew => (mem_lagNewPorts.mp isNew).1) apart
  · obtain ⟨same, unheard⟩ := l2AddPortsToLag_error (fun _ => matched) ok
    have quiet := unheard.resolve_right fun refused => refused.1 rif
    by_cases gone : (l2RemovePortsFromLag (l2AddPortsToLag s lagId ports env).1 lagId ports .success .success).2 =
        .success
    · have members := l2RemovePortsFromLag_answer gone
      cases ports with
      | cons port rest =>
        have isMember := members port List.mem_cons_self
        rw [same.cached] at isMember
        exact absurd isMember (away port List.mem_cons_self)
      | nil =>
        obtain ⟨left, leaving⟩ := l2RemovePortsFromLag_left valid' matched' created' members
        have back := left.becomes
        change (l2AddPortsToLag s lagId [] env).1.Becomes _ lagId (_ \ ∅) at back
        rw [Finset.sdiff_empty] at back
        rw [quiet, notices] at leaving
        refine ⟨same.trans (back.same matched'), _, leaving, fun view apart => ?_⟩
        exact lagRifView_leave s view
    · obtain ⟨same', unheard'⟩ := l2RemovePortsFromLag_error (fun _ => matched') gone
      have quiet' := unheard'.resolve_right fun refused => refused.1 rfl
      refine ⟨same.trans same', [], ?_, fun _ _ => rfl⟩
      rw [quiet', quiet, List.append_nil]

/-- What an addition or a removal that fails leaves. -/
structure LagFailureRight (s : LagState) (lagId : ObjectId) (ports : List ObjectId) : Prop where
  added : ∀ env, (l2AddPortsToLag s lagId ports env).2 ≠ .success →
    s.Same (l2AddPortsToLag s lagId ports env).1 ∧ s.Unheard (l2AddPortsToLag s lagId ports env).1 env.rifAdd
  removed : ∀ npu rifDel, (l2RemovePortsFromLag s lagId ports npu rifDel).2 ≠ .success →
    s.Same (l2RemovePortsFromLag s lagId ports npu rifDel).1 ∧
      s.Unheard (l2RemovePortsFromLag s lagId ports npu rifDel).1 rifDel

theorem LagHeld.matches (lags : LagHeld s) (inStep : s.cached lagId = s.npuMembers lagId)
    (created : s.lagTree.get lagId ≠ none) : s.Matches lagId := by
  obtain ⟨held, isIt⟩ := Option.ne_none_iff_exists'.mp ((lags.held lagId).mp created)
  unfold LagState.npuMembers at inStep
  rw [isIt] at inStep
  unfold LagState.Matches
  rw [isIt, inStep]
  rfl

/-- In every reachable state and for every LAG that has the same members in the
cache and in the NPU: an addition that the NPU and the RIF take is right exactly when
one of the ports is new and the cache takes every new one, and it never succeeds once
more without a change; ports that are added and removed again leave nothing behind. -/
theorem lagPorts_setOps (run : LagRun s) (inStep : s.cached lagId = s.npuMembers lagId) :
    (s.lagTree.get lagId ≠ none → ∀ ports env, LagListFit s lagId ports → env.npuAdd = .success →
      env.rifAdd = .success → (LagAddRight s lagId ports env ↔ (∃ port ∈ ports, port ∉ s.cached lagId) ∧
        ∀ port ∈ ports, port ∉ s.cached lagId → env.nodeAdd port = .success) ∧
      ¬ LagAddAgainRight s lagId ports env ∧
      ((∀ port ∈ ports, port ∉ s.cached lagId) → LagAddLeaveRight s lagId ports env)) ∧
    (s.lagTree.get lagId ≠ none → ∀ ports, (∀ port ∈ ports, s.portValid port = true) →
      (∀ port ∈ ports, port ∈ s.cached lagId) → LagLeaveRight s lagId ports) ∧
    ∀ ports, LagFailureRight s lagId ports := by
  have matched := run.lags.matches inStep
  refine ⟨fun created ports env fit npu rif => ⟨⟨?_, ?_⟩, ?_, ?_⟩, fun created ports valid members => ?_,
    fun ports => ⟨fun env => ?_, fun npu rifDel => ?_⟩⟩
  · exact fun right => l2AddPortsToLag_answer fit right.answer
  · exact fun both => (l2AddPortsToLag_added fit (matched created) created both.1 both.2 npu rif).1
  · exact l2AddPortsToLag_notAgain fit (matched created) created npu rif
  · exact l2AddPortsToLag_left fit (matched created) created npu rif
  · exact (l2RemovePortsFromLag_left valid (matched created) created members).1
  · exact l2AddPortsToLag_error matched
  · exact l2RemovePortsFromLag_error matched

end SetOps

theorem lagPorts_setOps_sample :
    (lagOneMember.lagTree.get ⟨.lag, 1⟩ ≠ none → ∀ ports env, LagListFit lagOneMember ⟨.lag, 1⟩ ports →
      env.npuAdd = .success → env.rifAdd = .success →
      (LagAddRight lagOneMember ⟨.lag, 1⟩ ports env ↔
        (∃ port ∈ ports, port ∉ lagOneMember.cached ⟨.lag, 1⟩) ∧
        ∀ port ∈ ports, port ∉ lagOneMember.cached ⟨.lag, 1⟩ → env.nodeAdd port = .success) ∧
      ¬ LagAddAgainRight lagOneMember ⟨.lag, 1⟩ ports env ∧
      ((∀ port ∈ ports, port ∉ lagOneMember.cached ⟨.lag, 1⟩) →
        LagAddLeaveRight lagOneMember ⟨.lag, 1⟩ ports env)) ∧
    (lagOneMember.lagTree.get ⟨.lag, 1⟩ ≠ none →
      ∀ ports, (∀ port ∈ ports, lagOneMember.portValid port = true) →
      (∀ port ∈ ports, port ∈ lagOneMember.cached ⟨.lag, 1⟩) →
      LagLeaveRight lagOneMember ⟨.lag, 1⟩ ports) ∧
    ∀ ports, LagFailureRight lagOneMember ⟨.lag, 1⟩ ports :=
  lagPorts_setOps lagOneMember_run (by decide)

/-- Port 1 is a member: to add it once more fails. -/
theorem lagPorts_not_setOps : ¬ ∀ s, LagRun s → ∀ lagId, s.lagTree.get lagId ≠ none →
    s.cached lagId = s.npuMembers lagId → ∀ ports env, LagListFit s lagId ports → env.npuAdd = .success →
      env.rifAdd = .success → LagAddRight s lagId ports env := by
  intro all
  have right := all _ lagOneMember_run ⟨.lag, 1⟩ (by decide) (by decide) [⟨.port, 1⟩]
    ⟨fun _ => .success, .success, .success⟩ ⟨by decide, by decide, by decide⟩ rfl rfl
  have answer := right.answer
  revert answer
  decide

end SaiCommon
