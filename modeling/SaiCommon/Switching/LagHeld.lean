import SaiCommon.Switching.LagRuns

namespace SaiCommon

open LagState

/-- A call on one LAG: the others keep their members, and no LAG comes or goes. -/
structure LagState.OnlyOf (s t : LagState) (lagId : ObjectId) : Prop where
  cached : ∀ j, j ≠ lagId → t.cached j = s.cached j
  npu : ∀ j, j ≠ lagId → t.npu.get j = s.npu.get j
  held : t.npu.get lagId ≠ none ↔ s.npu.get lagId ≠ none
  lagTree : t.lagTree = s.lagTree

/-- The RIF was told nothing that it accepted, when its callback answers `answer`. -/
def LagState.Unheard (s t : LagState) (answer : SaiStatus) : Prop :=
  t.told = s.told ∨ answer ≠ .success ∧ ∃ notice, t.told = s.told ++ [notice]

theorem LagState.rifNotify_told (s : LagState) (lagId : ObjectId) (lagOperation : LagOperation)
    (ports : List ObjectId) (status : SaiStatus) : (s.rifNotify lagId lagOperation ports status).1.told = s.told ∧
        (s.rifNotify lagId lagOperation ports status).2 = .success ∨
      (s.rifNotify lagId lagOperation ports status).2 = status ∧
        ∃ rifId, (s.rifNotify lagId lagOperation ports status).1.told =
          s.told ++ [⟨lagId, rifId, lagOperation, ports, status⟩] := by
  unfold LagState.rifNotify
  split
  · exact .inl ⟨rfl, rfl⟩
  split
  · exact .inr ⟨rfl, _, rfl⟩
  · exact .inl ⟨rfl, rfl⟩

/-- What the callback is called with, if the LAG has a RIF. -/
def LagState.notices (s : LagState) (lagId : ObjectId) (lagOperation : LagOperation) (ports : List ObjectId)
    (status : SaiStatus) : List LagNotice :=
  match s.lagTree.get lagId with
  | none => []
  | some rifId =>
    if rifId.objType = .routerInterface ∧ s.rifCallback = true then [⟨lagId, rifId, lagOperation, ports, status⟩]
    else []

theorem LagState.rifNotify_notices (s : LagState) (lagId : ObjectId) (lagOperation : LagOperation)
    (ports : List ObjectId) (status : SaiStatus) :
    (s.rifNotify lagId lagOperation ports status).1.told = s.told ++ s.notices lagId lagOperation ports status := by
  unfold LagState.rifNotify LagState.notices
  cases s.lagTree.get lagId with
  | none => exact (List.append_nil _).symm
  | some rifId =>
    dsimp only
    split
    · rfl
    · exact (List.append_nil _).symm

theorem LagState.rifNotify_success (s : LagState) (lagId : ObjectId) (lagOperation : LagOperation)
    (ports : List ObjectId) : (s.rifNotify lagId lagOperation ports .success).2 = .success := by
  unfold LagState.rifNotify
  split
  · rfl
  · split <;> rfl

section OnlyOf
variable {s t u : LagState} {lagId : ObjectId}

theorem LagState.OnlyOf.refl (s : LagState) (lagId : ObjectId) : s.OnlyOf s lagId :=
  ⟨fun _ _ => rfl, fun _ _ => rfl, Iff.rfl, rfl⟩

theorem LagState.OnlyOf.trans (one : s.OnlyOf t lagId) (two : t.OnlyOf u lagId) : s.OnlyOf u lagId := by
  refine ⟨fun j other => ?_, fun j other => ?_, two.held.trans one.held, two.lagTree.trans one.lagTree⟩
  · rw [two.cached j other, one.cached j other]
  · rw [two.npu j other, one.npu j other]

theorem LagState.OnlyOf.flagged (only : s.OnlyOf t lagId) (flagged : t.Flagged u) : s.OnlyOf u lagId := by
  refine only.trans ⟨fun j _ => flagged.cached j, fun j _ => ?_, ?_, flagged.lagTree⟩
  · rw [flagged.npu]
  · rw [flagged.npu]

theorem LagState.OnlyOf.told {told : List LagNotice} : s.OnlyOf { s with told := told } lagId :=
  ⟨fun _ _ => rfl, fun _ _ => rfl, Iff.rfl, rfl⟩

theorem LagState.OnlyOf.moves (lagId : ObjectId) : LagMoves lagId fun s t => s.OnlyOf t lagId :=
  ⟨fun s => .refl s lagId, .trans, fun _ _ others => ⟨others, fun _ _ => rfl, Iff.rfl, rfl⟩,
    fun _ _ others held => ⟨fun _ _ => rfl, others, held, rfl⟩⟩

section
variable (s : LagState)

theorem l2LagPortListSet_only (lagId : ObjectId) (ports : List ObjectId) (env : LagPortListEnv) :
    s.OnlyOf (l2LagPortListSet s lagId ports env).1 lagId :=
  (LagState.OnlyOf.moves lagId).portListSet s ports env

theorem l2CreateLagLoop_only (lagId : ObjectId) (portList : Nat → LagPortListEnv)
    (attrs : List LagAttr) (index : Nat) (ret : SaiStatus) :
    s.OnlyOf (l2CreateLagLoop s lagId portList index ret attrs).1 lagId := by
  induction attrs generalizing s index ret with
  | nil => exact .refl s lagId
  | cons attr rest ih =>
    cases attr with
    | unknown => exact .refl s lagId
    | portList ports =>
      have set := l2LagPortListSet_only s lagId ports (portList index)
      unfold l2CreateLagLoop
      split
      · rename_i isSet
        rw [isSet] at set
        exact set.trans (ih _ _ _)
      · rename_i isSet
        rw [isSet] at set
        exact set

theorem l2SetLagTold_flagged (lagId : ObjectId) (ports : List ObjectId) (env : LagSetEnv) :
    s.Flagged (l2SetLagTold s lagId ports env).1 := by
  have gone : s.Flagged (s.rifNotify lagId .delPorts env.stale env.rifDel).1 := rifNotify_flagged
  unfold l2SetLagTold
  split
  · rename_i isGone
    rw [isGone] at gone
    exact gone.trans rifNotify_flagged
  · rename_i isGone
    rw [isGone] at gone
    exact gone

theorem l2SetLagAttribute_only (lagId : ObjectId) (attr : LagAttr) (env : LagSetEnv) :
    s.OnlyOf (l2SetLagAttribute s lagId attr env).1 lagId := by
  unfold l2SetLagAttribute
  split
  · exact .refl s lagId
  cases attr with
  | unknown => exact .refl s lagId
  | portList ports =>
    have first := l2LagPortListSet_only s lagId ports env.first
    dsimp only
    split
    · rename_i t isSet
      rw [isSet] at first
      have told := first.flagged (l2SetLagTold_flagged t lagId ports env)
      have notified : s.OnlyOf (l2SetLagNotify t lagId ports env) lagId := by
        unfold l2SetLagNotify
        split
        · rename_i isTold
          rw [isTold] at told
          exact told
        · rename_i isTold
          rw [isTold] at told
          exact (told.flagged rifNotify_flagged).trans (l2LagPortListSet_only _ lagId _ _)
      exact notified.trans (l2LagPortListSet_only _ lagId _ _)
    · rename_i isSet
      rw [isSet] at first
      exact first.trans (l2LagPortListSet_only _ lagId _ _)

theorem l2RemovePortsFromLag_only (lagId : ObjectId) (ports : List ObjectId)
    (npu rifDel : SaiStatus) : s.OnlyOf (l2RemovePortsFromLag s lagId ports npu rifDel).1 lagId := by
  have removed := (LagState.OnlyOf.moves lagId).npuRemovePorts s ports npu
  unfold l2RemovePortsFromLag
  split
  · exact .refl s lagId
  split
  · exact .refl s lagId
  split
  · exact .refl s lagId
  split
  · rename_i t isRemoved
    rw [isRemoved] at removed
    have told : s.OnlyOf (t.rifNotify lagId .delPorts ports rifDel).1 lagId :=
      removed.flagged rifNotify_flagged
    split
    · rename_i isTold
      rw [isTold] at told
      exact told.trans ((LagState.OnlyOf.moves lagId).removePortNodes _ ports)
    · rename_i isTold
      rw [isTold] at told
      exact told.trans ((LagState.OnlyOf.moves lagId).npuAddPorts _ ports .success)
  · rename_i isRemoved
    rw [isRemoved] at removed
    exact removed

theorem LagState.removePort_only (lagId port : ObjectId) (npu : SaiStatus) :
    s.OnlyOf (s.removePort lagId port npu) lagId := by
  refine ((LagState.OnlyOf.moves lagId).npuRemovePorts s [port] npu).trans
    ⟨fun j other => ?_, fun _ _ => rfl, Iff.rfl, rfl⟩
  exact cached_portNodeRemove.trans (if_neg other)

theorem LagState.addPort_only (lagId port : ObjectId) (env : L2LagMemberEnv) :
    s.OnlyOf (s.addPort lagId port env).1 lagId := by
  have added := (LagState.OnlyOf.moves lagId).npuAddPorts s [port] env.npuAdd
  unfold LagState.addPort
  split
  · rename_i t isAdded
    rw [isAdded] at added
    have inserted := added.trans ((LagState.OnlyOf.moves lagId).portNodeAdd t port env.memberId env.nodeAdd)
    split
    · rename_i isInserted
      rw [isInserted] at inserted
      exact inserted
    · rename_i isInserted
      rw [isInserted] at inserted
      exact inserted.trans ((LagState.OnlyOf.moves lagId).npuRemovePorts _ [port] .success)
  · rename_i isAdded
    rw [isAdded] at added
    exact added

theorem LagState.createMember_only (attrs : List LagMemberAttr) (env : L2LagMemberEnv) :
    (s.createMember attrs env).1 = s ∨
      ∃ lagId, s.lagTree.get lagId ≠ none ∧ s.OnlyOf (s.createMember attrs env).1 lagId := by
  unfold LagState.createMember
  split
  · exact .inl rfl
  split
  · rename_i parse _ _ _ lagId port _ _
    have added := s.addPort_only lagId port env
    split
    · rename_i valid
      refine .inr ⟨lagId, (validatePortAdd_success valid).1, ?_⟩
      split
      · rename_i u isAdded
        rw [isAdded] at added
        have finished := added.flagged (u.finishMember_flagged lagId port parse env)
        split
        · rename_i isFinished
          rw [isFinished] at finished
          exact finished
        · rename_i isFinished
          rw [isFinished] at finished
          exact finished.trans (removePort_only _ lagId port .success)
      · rename_i isAdded
        rw [isAdded] at added
        exact added
    · exact .inl rfl
  · exact .inl rfl

theorem LagState.removeMember_only (memberId : ObjectId) (found : Option LagPortNode)
    (npu rifDel : SaiStatus) : (s.removeMember memberId found npu rifDel).1 = s ∨
      ∃ lagId, s.lagTree.get lagId ≠ none ∧ s.OnlyOf (s.removeMember memberId found npu rifDel).1 lagId := by
  unfold LagState.removeMember
  split
  · exact .inl rfl
  rename_i node
  split
  · exact .inl rfl
  split
  · exact .inl rfl
  split
  · exact .inl rfl
  rename_i created
  split
  · exact .inl rfl
  · refine .inr ⟨node.lagId, isLagCreated_iff.mp ((Bool.not_eq_false _).mp created), ?_⟩
    exact (s.removePort_only node.lagId node.portId npu).flagged rifNotify_flagged

end

end OnlyOf

section Held
variable {s t : LagState} {lagId : ObjectId}

theorem LagHeld.same (lags : LagHeld s) (same : s.Same t) : LagHeld t := by
  refine ⟨fun j => ?_, fun j absent => ?_⟩
  · rw [same.lagTree j, same.npu j]
    exact lags.held j
  · rw [same.cached j]
    refine lags.owned j ?_
    by_contra created
    exact (same.lagTree j).mpr created absent

theorem LagHeld.only (lags : LagHeld s) (created : s.lagTree.get lagId ≠ none) (only : s.OnlyOf t lagId) :
    LagHeld t := by
  refine ⟨fun j => ?_, fun j absent => ?_⟩
  · rw [only.lagTree]
    by_cases here : j = lagId
    · rw [here, only.held]
      exact lags.held lagId
    · rw [only.npu j here]
      exact lags.held j
  · rw [only.lagTree] at absent
    have other : j ≠ lagId := by
      rintro rfl
      exact created absent
    rw [only.cached j other]
    exact lags.owned j absent

theorem LagHeld.withLag (lags : LagHeld s) (lagId : ObjectId) : LagHeld (s.withLag lagId) := by
  refine ⟨fun j => ?_, fun j absent => ?_⟩
  · change (s.lagTree.put lagId nullObjectId).get j ≠ none ↔ (s.npu.put lagId ∅).get j ≠ none
    rw [KeyTree.get_put, KeyTree.get_put]
    split
    · exact iff_of_true (Option.some_ne_none _) (Option.some_ne_none _)
    · exact lags.held j
  · change (s.lagTree.put lagId nullObjectId).get j = none at absent
    rw [KeyTree.get_put] at absent
    split at absent
    · cases absent
    · exact lags.owned j absent

/-- The creation of a LAG that the NPU has made ends with the LAG, or with what
was there. -/
theorem LagHeld.createLagWithId (lags : LagHeld s) (fresh : s.npu.get lagId = none) (attrs : List LagAttr)
    (env : LagCreateEnv) : (l2CreateLagWithId { s with npu := s.npu.put lagId ∅ } lagId attrs env).2 = .success ∧
        (s.withLag lagId).OnlyOf (l2CreateLagWithId { s with npu := s.npu.put lagId ∅ } lagId attrs env).1 lagId ∨
      (l2CreateLagWithId { s with npu := s.npu.put lagId ∅ } lagId attrs env).2 ≠ .success ∧
        s.Same (l2CreateLagWithId { s with npu := s.npu.put lagId ∅ } lagId attrs env).1 := by
  by_cases inserted : env.nodeAdd = .success
  · have added : LagState.nodeAdd { s with npu := s.npu.put lagId ∅ } lagId .success =
        (s.withLag lagId, .success) := rfl
    have only := l2CreateLagLoop_only (s.withLag lagId) lagId env.portList attrs 0 .success
    unfold l2CreateLagWithId
    rw [inserted, added]
    dsimp only
    rw [if_pos rfl]
    split
    · rename_i isLooped
      rw [isLooped] at only
      exact .inl ⟨rfl, only⟩
    rename_i isError isLooped
    rw [isLooped] at only
    refine .inr ⟨isError, lags.undone_create fresh (fun j other => ?_) (fun j other => ?_) fun j other => ?_⟩
    · exact only.cached j other
    · exact (only.npu j other).trans (KeyTree.get_put_ne other)
    · rw [only.lagTree]
      exact KeyTree.get_put_ne other
  · obtain ⟨same, error⟩ := lags.notInserted fresh attrs inserted
    exact .inr ⟨error, same⟩

theorem LagHeld.createLag (lags : LagHeld s) (attrs : List LagAttr) (env : LagCreateEnv) :
    LagHeld (l2CreateLag s attrs env).1 := by
  unfold l2CreateLag LagState.npuLagCreate
  cases answer : env.create with
  | error status => exact lags
  | ok lagId =>
    dsimp only
    cases fresh : s.npu.get lagId with
    | some held => exact lags
    | none =>
      dsimp only
      rcases lags.createLagWithId fresh attrs env with ⟨_, only⟩ | ⟨_, same⟩
      · refine (lags.withLag lagId).only ?_ only
        change (s.lagTree.put lagId nullObjectId).get lagId ≠ none
        rw [KeyTree.get_put_self]
        exact Option.some_ne_none _
      · exact lags.same same

theorem LagHeld.removeLag (lags : LagHeld s) (lagId : ObjectId) (npu : SaiStatus) :
    LagHeld (l2RemoveLag s lagId npu).1 := by
  rcases l2RemoveLag_cases s lagId npu with ⟨same, _⟩ | ⟨rifId, _, _, ⟨_, _, without⟩ |
    ⟨_, _, cached, npus, lagTree⟩⟩
  · rwa [same]
  · refine ⟨fun j => ?_, fun j absent => ?_⟩
    · rw [without.lagTree, without.npu]
      split
      · exact iff_of_false (fun held => held rfl) fun held => held rfl
      · exact lags.held j
    · rw [without.lagTree] at absent
      rw [without.cached]
      split
      · rfl
      · rename_i other
        rw [if_neg other] at absent
        exact lags.owned j absent
  · refine ⟨fun j => ?_, fun j absent => ?_⟩
    · rw [lagTree, npus]
      exact lags.held j
    · rw [cached]
      split
      · rfl
      · exact lags.owned j (not_not.mp fun present => (lagTree j).mpr present absent)

theorem LagState.isLagCreated_eq_false : s.isLagCreated lagId = false ↔ s.lagTree.get lagId = none := by
  rw [← Bool.not_eq_true, isLagCreated_iff, not_not]

theorem LagHeld.step (lags : LagHeld s) (call : LagCall) : LagHeld (call.step s) := by
  cases call with
  | createLag attrs env => exact lags.createLag attrs env
  | removeLag lagId npu => exact lags.removeLag lagId npu
  | setAttribute lagId attr env =>
    by_cases created : s.lagTree.get lagId ≠ none
    · exact lags.only created (l2SetLagAttribute_only s lagId attr env)
    change LagHeld (l2SetLagAttribute s lagId attr env).1
    unfold l2SetLagAttribute
    rw [if_pos (isLagCreated_eq_false.mpr (not_not.mp created))]
    exact lags
  | addPorts lagId ports env =>
    by_cases created : s.lagTree.get lagId ≠ none
    · exact lags.only created ((LagState.OnlyOf.moves lagId).addPortsToLag s (fun _ _ => .told) ports env)
    change LagHeld (l2AddPortsToLag s lagId ports env).1
    unfold l2AddPortsToLag
    rw [if_pos (isLagCreated_eq_false.mpr (not_not.mp created))]
    split
    · exact lags
    · exact lags
  | removePorts lagId ports npu rifDel =>
    by_cases created : s.lagTree.get lagId ≠ none
    · exact lags.only created (l2RemovePortsFromLag_only s lagId ports npu rifDel)
    change LagHeld (l2RemovePortsFromLag s lagId ports npu rifDel).1
    unfold l2RemovePortsFromLag
    rw [if_pos (isLagCreated_eq_false.mpr (not_not.mp created))]
    split
    · exact lags
    · exact lags
  | createMember attrs env =>
    rcases s.createMember_only attrs env with same | ⟨lagId, created, only⟩
    · change LagHeld (s.createMember attrs env).1
      rw [same]
      exact lags
    · exact lags.only created only
  | removeMember memberId found npu rifDel =>
    rcases s.removeMember_only memberId found npu rifDel with same | ⟨lagId, created, only⟩
    · change LagHeld (s.removeMember memberId found npu rifDel).1
      rw [same]
      exact lags
    · exact lags.only created only
  | portsChange valid fwdMode => exact lags.same ⟨fun _ => rfl, fun _ => rfl, fun _ => Iff.rfl⟩
  | updateRifId lagId rifId =>
    refine lags.same ⟨fun _ => rfl, fun _ => rfl, fun j => ?_⟩
    change (s.lagTree.modify lagId _).get j ≠ none ↔ _
    rw [KeyTree.get_modify]
    split
    · exact not_congr Option.map_eq_none_iff
    · exact Iff.rfl
  | registerCallback registered => exact lags.same ⟨fun _ => rfl, fun _ => rfl, fun _ => Iff.rfl⟩

/-- The states of all runs. -/
abbrev LagRun (s : LagState) : Prop := Runs.Reach LagFresh (Runs.guarded (fun _ _ => True) LagCall.step) s

theorem LagRun.lags (run : LagRun s) : LagHeld s := by
  refine run.invariant LagHeld (fun _ fresh => fresh.sync.lags) ?_
  intro s call t lags moved
  rw [moved.2]
  exact lags.step call

end Held

def lagOneMember : LagState :=
  [LagCall.createLag [.portList [⟨.port, 1⟩]] ⟨.ok ⟨.lag, 1⟩, .success, fun _ => lagSamplePortList⟩].foldl
    LagCall.step lagSample

theorem lagOneMember_run : LagRun lagOneMember :=
  Runs.Reach.run (.start lagSample_fresh) (Runs.allowedRun_of_forall (fun _ _ => trivial) _ _)

end SaiCommon
