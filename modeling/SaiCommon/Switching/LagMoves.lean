import SaiCommon.Switching.LagMembers

namespace SaiCommon

/-- A relation that holds of every write of the members of one LAG, in the cache
or in the NPU. -/
structure LagMoves (lagId : ObjectId) (R : LagState → LagState → Prop) : Prop where
  refl : ∀ s, R s s
  trans : ∀ {s t u}, R s t → R t u → R s u
  nodes : ∀ (s : LagState) nodes, (∀ j, j ≠ lagId →
    LagState.cached { s with nodes := nodes } j = s.cached j) →
    R s { s with nodes := nodes }
  npu : ∀ (s : LagState) npu, (∀ j, j ≠ lagId → npu.get j = s.npu.get j) →
    (npu.get lagId ≠ none ↔ s.npu.get lagId ≠ none) → R s { s with npu := npu }

section
variable {lagId : ObjectId} {R : LagState → LagState → Prop} (moves : LagMoves lagId R) (s : LagState)
include moves

theorem LagMoves.npuAddPorts (ports : List ObjectId) (status : SaiStatus) :
    R s (s.npuAddPorts lagId ports status).1 := by
  cases status with
  | success =>
    refine moves.npu s _ (fun j other => ?_) ?_
    · exact (LagState.npuAddPorts_get s lagId ports j).trans (if_neg other)
    · rw [KeyTree.get_modify_self]
      exact not_congr Option.map_eq_none_iff
  | _ => exact moves.refl s

theorem LagMoves.npuRemovePorts (ports : List ObjectId) (status : SaiStatus) :
    R s (s.npuRemovePorts lagId ports status).1 := by
  cases status with
  | success =>
    refine moves.npu s _ (fun j other => ?_) ?_
    · exact (LagState.npuRemovePorts_get s lagId ports j).trans (if_neg other)
    · rw [KeyTree.get_modify_self]
      exact not_congr Option.map_eq_none_iff
  | _ => exact moves.refl s

theorem LagMoves.portNodeAdd (port memberId : ObjectId) (status : SaiStatus) :
    R s (s.portNodeAdd lagId port memberId status).1 := by
  cases status with
  | success => exact moves.nodes s _ fun j other => (s.cached_portNodeAdd lagId port memberId j).trans (if_neg other)
  | _ => exact moves.refl s

theorem LagMoves.removePortNodes (ports : List ObjectId) : R s (l2RemovePortNodes s lagId ports) := by
  rw [l2RemovePortNodes_frame]
  refine moves.nodes s _ fun j other => ?_
  rw [← l2RemovePortNodes_frame, LagState.cached_removePortNodes, if_neg other]

theorem LagMoves.removeAllLagPorts (npu : SaiStatus) : R s (l2RemoveAllLagPorts s lagId npu).1 := by
  have removed := moves.npuRemovePorts s (s.portListGet lagId) npu
  unfold l2RemoveAllLagPorts
  split
  · exact moves.refl s
  split
  · rename_i isRemoved
    rw [isRemoved] at removed
    refine moves.trans removed (moves.nodes _ _ fun j other => ?_)
    exact LagState.cached_removeAllPortNodes.trans (if_neg other)
  · rename_i isRemoved
    rw [isRemoved] at removed
    exact removed

theorem LagMoves.portsLoop {checked : Bool} {nodeAdd : ObjectId → SaiStatus} (nonDup : List ObjectId)
    (ret : SaiStatus) (ports : List ObjectId) : R s (l2LagPortsLoop checked lagId nodeAdd s nonDup ret ports).1 := by
  induction ports generalizing s nonDup ret with
  | nil => exact moves.refl s
  | cons port rest ih =>
    have added := moves.portNodeAdd s port nullObjectId (nodeAdd port)
    unfold l2LagPortsLoop
    split
    · exact moves.refl s
    split
    · exact moves.refl s
    split
    · exact ih _ _ _
    split
    · rename_i isAdded
      rw [isAdded] at added
      exact moves.trans added (ih _ _ _)
    · rename_i isAdded
      rw [isAdded] at added
      exact added

theorem LagMoves.portListSet (ports : List ObjectId) (env : LagPortListEnv) :
    R s (l2LagPortListSet s lagId ports env).1 := by
  have removed := moves.removeAllLagPorts s env.npuRemove
  unfold l2LagPortListSet
  split
  · exact moves.refl s
  split
  · exact moves.refl s
  split
  · rename_i t isRemoved
    rw [isRemoved] at removed
    have looped : R s (l2LagPortsLoop false lagId env.nodeAdd t [] .success ports).1 :=
      moves.trans removed (moves.portsLoop t [] .success ports)
    split
    · rename_i u nonDup isLooped
      rw [isLooped] at looped
      have added := moves.trans looped (moves.npuAddPorts u (u.portListGet lagId) env.npuAdd)
      split
      · rename_i isAdded
        rw [isAdded] at added
        exact added
      · rename_i isAdded
        rw [isAdded] at added
        exact moves.trans added (moves.removePortNodes _ nonDup)
    · rename_i isLooped
      rw [isLooped] at looped
      exact moves.trans looped (moves.removePortNodes _ _)
  · rename_i isRemoved
    rw [isRemoved] at removed
    exact removed

theorem LagMoves.addPortsToLag (told : ∀ (s : LagState) told, R s { s with told := told }) (ports : List ObjectId)
    (env : LagAddPortsEnv) : R s (l2AddPortsToLag s lagId ports env).1 := by
  have looped : R s (l2LagPortsLoop true lagId env.nodeAdd s [] .failure ports).1 :=
    moves.portsLoop s [] .failure ports
  unfold l2AddPortsToLag
  split
  · exact moves.refl s
  split
  · exact moves.refl s
  split
  · rename_i t nonDup isLooped
    rw [isLooped] at looped
    have added := moves.trans looped (moves.npuAddPorts t nonDup env.npuAdd)
    split
    · rename_i u isAdded
      rw [isAdded] at added
      have notified : R s (u.rifNotify lagId .addPorts nonDup env.rifAdd).1 := by
        rw [LagState.rifNotify_frame]
        exact moves.trans added (told u _)
      split
      · rename_i isTold
        rw [isTold] at notified
        exact notified
      · rename_i isTold
        rw [isTold] at notified
        exact moves.trans (moves.trans notified (moves.npuRemovePorts _ nonDup .success))
          (moves.removePortNodes _ nonDup)
    · rename_i isAdded
      rw [isAdded] at added
      exact moves.trans added (moves.removePortNodes _ nonDup)
  · rename_i isLooped
    rw [isLooped] at looped
    exact moves.trans looped (moves.removePortNodes _ _)

end

theorem l2LagPortListSet_frame (s : LagState) (lagId : ObjectId) (ports : List ObjectId) (env : LagPortListEnv) :
    (l2LagPortListSet s lagId ports env).1 = { s with
      nodes := (l2LagPortListSet s lagId ports env).1.nodes
      npu := (l2LagPortListSet s lagId ports env).1.npu } := by
  have moves : LagMoves lagId fun s t => t = { s with nodes := t.nodes, npu := t.npu } :=
    ⟨fun _ => rfl, fun one two => by rw [two, one], fun _ _ _ => rfl, fun _ _ _ _ => rfl⟩
  exact moves.portListSet s ports env

theorem l2AddPortsToLag_frame (s : LagState) (lagId : ObjectId) (ports : List ObjectId) (env : LagAddPortsEnv) :
    (l2AddPortsToLag s lagId ports env).1 = { s with
      nodes := (l2AddPortsToLag s lagId ports env).1.nodes
      npu := (l2AddPortsToLag s lagId ports env).1.npu
      told := (l2AddPortsToLag s lagId ports env).1.told } := by
  have moves : LagMoves lagId fun s t => t = { s with nodes := t.nodes, npu := t.npu, told := t.told } :=
    ⟨fun _ => rfl, fun one two => by rw [two, one], fun _ _ _ => rfl, fun _ _ _ _ => rfl⟩
  exact moves.addPortsToLag s (fun _ _ => rfl) ports env

end SaiCommon
