import SaiCommon.Switching.LagMoves

namespace SaiCommon

section System
variable {s : LagState} {lagId : ObjectId}

variable (lagId) in
theorem LagInSync.portListSet (sync : LagInSync s) (ports : List ObjectId) (env : LagPortListEnv) :
    LagInSync (l2LagPortListSet s lagId ports env).1 := by
  by_cases created : s.lagTree.get lagId ≠ none
  · obtain ⟨members, becomes, cause⟩ := l2LagPortListSet_becomes ports env sync created
    refine sync.becomes created becomes fun port member => ?_
    rcases cause with old | ⟨_, listed⟩
    · exact .inl (old member)
    · exact .inr (listed port member).2
  · have absent : s.isLagCreated lagId = false := by
      rw [← Bool.not_eq_true, LagState.isLagCreated_iff]
      exact created
    unfold l2LagPortListSet
    rw [if_pos absent]
    split
    · exact sync
    · exact sync

variable (lagId) in
theorem LagInSync.rifNotify (sync : LagInSync s) (lagOperation : LagOperation) (ports : List ObjectId)
    (status : SaiStatus) : LagInSync (s.rifNotify lagId lagOperation ports status).1 := by
  rw [LagState.rifNotify_frame]
  exact sync.same ⟨fun _ => rfl, fun _ => rfl, fun _ => Iff.rfl⟩

theorem LagInSync.setAttribute (sync : LagInSync s) (attr : LagAttr) (env : LagSetEnv) :
    LagInSync (l2SetLagAttribute s lagId attr env).1 := by
  unfold l2SetLagAttribute
  split
  · exact sync
  cases attr with
  | unknown => exact sync
  | portList ports =>
    have first := sync.portListSet lagId ports env.first
    dsimp only
    split
    · rename_i t isSet
      rw [isSet] at first
      dsimp only at first
      have told : LagInSync (l2SetLagTold t lagId ports env).1 := by
        have gone := first.rifNotify lagId .delPorts env.stale env.rifDel
        unfold l2SetLagTold
        split
        · rename_i isGone
          rw [isGone] at gone
          exact gone.rifNotify lagId .addPorts ports env.rifAdd
        · rename_i isGone
          rw [isGone] at gone
          exact gone
      refine LagInSync.portListSet lagId ?_ ports env.last
      unfold l2SetLagNotify
      split
      · rename_i isTold
        rw [isTold] at told
        exact told
      · rename_i isTold
        rw [isTold] at told
        exact (told.rifNotify lagId .addPorts env.stale env.rifUndo).portListSet lagId env.stale env.undo
    · rename_i isSet
      rw [isSet] at first
      exact LagInSync.portListSet lagId first ports env.last

variable (lagId) in
theorem LagInSync.createLoop (sync : LagInSync s) (portList : Nat → LagPortListEnv) (attrs : List LagAttr)
    (index : Nat) (ret : SaiStatus) : LagInSync (l2CreateLagLoop s lagId portList index ret attrs).1 := by
  induction attrs generalizing s index ret with
  | nil => exact sync
  | cons attr rest ih =>
    cases attr with
    | unknown => exact sync
    | portList ports =>
      have set := sync.portListSet lagId ports (portList index)
      unfold l2CreateLagLoop
      split
      · rename_i isSet
        rw [isSet] at set
        exact ih set _ _
      · rename_i isSet
        rw [isSet] at set
        exact set

theorem LagInSync.createLag (sync : LagInSync s) (attrs : List LagAttr) (env : LagCreateEnv) :
    LagInSync (l2CreateLag s attrs env).1 := by
  unfold l2CreateLag LagState.npuLagCreate
  cases answer : env.create with
  | error status => exact sync
  | ok lagId =>
    dsimp only
    cases fresh : s.npu.get lagId with
    | some held => exact sync
    | none =>
      by_cases inserted : env.nodeAdd = .success
      · dsimp only
        unfold l2CreateLagWithId
        have added : LagState.nodeAdd { s with npu := s.npu.put lagId ∅ } lagId .success =
            (s.withLag lagId, .success) := rfl
        rw [inserted, added]
        dsimp only
        rw [if_pos rfl]
        have looped := (sync.withLag fresh).createLoop lagId env.portList attrs 0 .success
        split
        · rename_i isLooped
          rw [isLooped] at looped
          exact looped
        · rename_i isLooped
          rw [isLooped] at looped
          exact looped.without (LagState.dropped_without _ lagId)
      · exact (l2CreateLagWithId_sync sync fresh attrs env fun ok => absurd ok inserted).1

/-- A LAG that has members, and a member, that are removed from the cache are
removed from the NPU. -/
def LagCall.InStep (s : LagState) : LagCall → Prop
  | .removeLag lagId npu => ∀ rifId, s.lagTree.get lagId = some rifId → rifId.objType ≠ .routerInterface →
      npu = .success ∨ s.portListGet lagId = []
  | .removeMember memberId found npu _ => ∀ node, found = some node → node ∈ s.nodes →
      node.memberId = memberId → s.portValid node.portId = true → npu = .success
  | _ => True

theorem LagInSync.inStep (sync : LagInSync s) (call : LagCall) (inStep : call.InStep s) :
    LagInSync (call.step s) := by
  cases call with
  | createLag attrs env => exact sync.createLag attrs env
  | setAttribute lagId attr env => exact sync.setAttribute attr env
  | removeLag lagId npu => exact (sync.run (.removeLag lagId npu) inStep).1
  | removeMember memberId found npu rifDel => exact (sync.run (.removeMember memberId found npu rifDel) inStep).1
  | addPorts lagId ports env => exact (sync.run (.addPorts lagId ports env) trivial).1
  | removePorts lagId ports npu rifDel => exact (sync.run (.removePorts lagId ports npu rifDel) trivial).1
  | createMember attrs env => exact (sync.run (.createMember attrs env) trivial).1
  | portsChange valid fwdMode => exact (sync.run (.portsChange valid fwdMode) trivial).1
  | updateRifId lagId rifId => exact (sync.run (.updateRifId lagId rifId) trivial).1
  | registerCallback registered => exact (sync.run (.registerCallback registered) trivial).1

/-- The states of the runs in which cache and NPU stay in step. -/
abbrev LagReachable (s : LagState) : Prop :=
  Runs.Reach LagFresh (Runs.guarded LagCall.InStep LagCall.step) s

theorem LagReachable.sync (reach : LagReachable s) : LagInSync s := by
  refine reach.invariant LagInSync (fun _ fresh => fresh.sync) ?_
  intro s call t sync moved
  rw [moved.2]
  exact sync.inStep call moved.1

end System

end SaiCommon
