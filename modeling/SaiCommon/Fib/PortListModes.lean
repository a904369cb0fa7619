import SaiCommon.Fib.AttachmentRuns
import Mathlib.Logic.Function.Basic

namespace SaiCommon

variable {isAdd : Bool} {ports : List ObjectId} {lagId rifId : ObjectId} {npu : SaiStatus}

abbrev PortModes : Type := ObjectId → PortFwdMode

/-- What `sai_port_forward_mode_info` answers when it is asked for the mode of a port and
when it is told one. -/
structure PortModeCall where
  read : SaiStatus
  write : SaiStatus
deriving DecidableEq

/-- A port of a list, with the answers while the list is gone through and while that is undone. -/
structure PortModeEntry where
  portId : ObjectId
  call : PortModeCall
  undo : PortModeCall
deriving DecidableEq

namespace PortModes

/-- A mode that is refused is not kept. -/
def write (call : PortModeCall) (modes : PortModes) (portId : ObjectId) (mode : PortFwdMode) :
    PortModes × SaiStatus :=
  match call.write with
  | .success => (Function.update modes portId mode, .success)
  | error => (modes, error)

def routingModeSet (call : PortModeCall) (modes : PortModes) (portId : ObjectId) : PortModes × SaiStatus :=
  match call.read with
  | .success =>
    match modes portId with
    | .switching => (modes, .objectInUse)
    | .unknown => ((write call modes portId .routing).1, .success) -- the answer to the write is not looked at
    | .routing => (modes, .success)
  | error => (modes, error)

def routingModeReset (call : PortModeCall) (modes : PortModes) (portId : ObjectId) : PortModes × SaiStatus :=
  match call.read with
  | .success =>
    match modes portId with
    | .unknown => (modes, .success)
    | _ => write call modes portId .unknown
  | error => (modes, error)

def routingModeUpdate (isSet : Bool) (call : PortModeCall) (modes : PortModes) (portId : ObjectId) :
    PortModes × SaiStatus :=
  if isSet then routingModeSet call modes portId else routingModeReset call modes portId

def listUndo (isSet : Bool) (modes : PortModes) : List PortModeEntry → PortModes
  | [] => modes
  | entry :: rest => listUndo isSet (routingModeUpdate (!isSet) entry.undo modes entry.portId).1 rest

/-- `done` are the ports before `port_index`. -/
def listLoop (isSet : Bool) (modes : PortModes) (done : List PortModeEntry) :
    List PortModeEntry → PortModes × SaiStatus
  | [] => (modes, .success)
  | entry :: rest =>
    match routingModeUpdate isSet entry.call modes entry.portId with
    | (next, .success) => listLoop isSet next (done ++ [entry]) rest
    | (next, error) => (listUndo isSet next done, error)

/-- `sai_port_list_routing_mode_update`; its callers pass no empty list. -/
def listRoutingModeUpdate (modes : PortModes) (entries : List PortModeEntry) (isSet : Bool) :
    PortModes × SaiStatus :=
  listLoop isSet modes [] entries

end PortModes

/-- A port that joins or leaves a LAG, with the answers in the update and in the one that
takes it back. -/
structure LagPortEntry where
  portId : ObjectId
  call : PortModeCall
  undo : PortModeCall
  callBack : PortModeCall
  undoBack : PortModeCall
deriving DecidableEq

def LagPortEntry.forth (entry : LagPortEntry) : PortModeEntry := ⟨entry.portId, entry.call, entry.undo⟩

def LagPortEntry.back (entry : LagPortEntry) : PortModeEntry := ⟨entry.portId, entry.callBack, entry.undoBack⟩

/-- What `sai_rif_lag_member_update` finds under its lock. -/
def rifLagMemberStatus (s : FibState) (rifId lagId : ObjectId) (npu : SaiStatus) : SaiStatus :=
  match fibRouterInterfaceNodeGet s rifId with
  | none => .invalidObjectId
  | some rif => if rif.attachment.portId ≠ lagId then .failure else npu

def PortModes.rifLagMemberUpdate (s : FibState) (modes : PortModes) (rifId lagId : ObjectId)
    (entries : List LagPortEntry) (isAdd : Bool) (npu : SaiStatus) : PortModes × SaiStatus :=
  if entries = [] then (modes, .invalidParameter)
  else match PortModes.listRoutingModeUpdate modes (entries.map LagPortEntry.forth) isAdd with
    | (next, .success) =>
      match rifLagMemberStatus s rifId lagId npu with
      | .success => (next, .success)
      | error => ((PortModes.listRoutingModeUpdate next (entries.map LagPortEntry.back) (!isAdd)).1, error)
    | (next, error) => (next, error)

/-- The answers of an accessor that knows the ports of the state. -/
def fibPortModeCall (s : FibState) (portId : ObjectId) : PortModeCall :=
  match s.portTree.get portId with
  | none => ⟨.invalidObjectId, .invalidObjectId⟩
  | some _ => ⟨.success, .success⟩

def fibPortModeEntry (s : FibState) (portId : ObjectId) : PortModeEntry :=
  ⟨portId, fibPortModeCall s portId, fibPortModeCall s portId⟩

def fibPortModes (s : FibState) : PortModes := fun portId => (s.portTree.get portId).getD .unknown

section Instance
variable {s t : FibState}

theorem fibPortModes_set {portId : ObjectId} {mode old : PortFwdMode} (stored : s.portTree.get portId = some old) :
    fibPortModes (portForwardModeSet s portId mode) = Function.update (fibPortModes s) portId mode := by
  funext q
  unfold fibPortModes portForwardModeSet
  rw [Function.update_apply]
  dsimp only
  rw [KeyTree.get_modify]
  split
  · next same =>
    rw [same, stored]
    rfl
  · rfl

theorem fibPortModeCall_set (portId q : ObjectId) (mode : PortFwdMode) :
    fibPortModeCall (portForwardModeSet s portId mode) q = fibPortModeCall s q := by
  unfold fibPortModeCall portForwardModeSet
  dsimp only
  rw [KeyTree.get_modify]
  by_cases same : q = portId
  · rw [if_pos same]
    cases s.portTree.get q <;> rfl
  · rw [if_neg same]

section
variable (isSet : Bool)

theorem fibPortModeCall_update (portId : ObjectId) :
    fibPortModeCall (portRoutingModeUpdate isSet s portId).1 = fibPortModeCall s := by
  funext q
  unfold portRoutingModeUpdate portRoutingModeSet portRoutingModeReset
  split <;> split <;> first | rfl | exact fibPortModeCall_set portId q _

theorem fibPortModes_update (portId : ObjectId) :
    PortModes.routingModeUpdate isSet (fibPortModeCall s portId) (fibPortModes s) portId =
      (fibPortModes (portRoutingModeUpdate isSet s portId).1, (portRoutingModeUpdate isSet s portId).2) := by
  unfold PortModes.routingModeUpdate PortModes.routingModeSet PortModes.routingModeReset PortModes.write
    portRoutingModeUpdate portRoutingModeSet portRoutingModeReset portForwardModeGet fibPortModeCall
  cases stored : s.portTree.get portId with
  | none => cases isSet <;> rfl
  | some mode =>
    have current : fibPortModes s portId = mode := by
      unfold fibPortModes
      rw [stored]
      rfl
    cases isSet <;> cases mode <;> simp [current, fibPortModes_set stored]

theorem fibPortModes_undo (ports : List ObjectId) (answers : fibPortModeCall s = fibPortModeCall t) :
    PortModes.listUndo isSet (fibPortModes s) (ports.map (fibPortModeEntry t)) =
      fibPortModes (portListRoutingModeUndo isSet s ports) := by
  induction ports generalizing s with
  | nil => rfl
  | cons portId rest ih =>
    have one := @fibPortModes_update s (!isSet) portId
    rw [answers] at one
    rw [List.map_cons]
    unfold PortModes.listUndo portListRoutingModeUndo fibPortModeEntry
    dsimp only
    rw [one]
    exact ih ((fibPortModeCall_update (!isSet) portId).trans answers)

theorem fibPortModes_loop (done ports : List ObjectId) (answers : fibPortModeCall s = fibPortModeCall t) :
    PortModes.listLoop isSet (fibPortModes s) (done.map (fibPortModeEntry t)) (ports.map (fibPortModeEntry t)) =
      (fibPortModes (portListRoutingModeLoop isSet s done ports).1,
        (portListRoutingModeLoop isSet s done ports).2) := by
  induction ports generalizing s done with
  | nil => rfl
  | cons portId rest ih =>
    have one := @fibPortModes_update s isSet portId
    have kept := @fibPortModeCall_update s isSet portId
    rw [answers] at one
    rw [List.map_cons]
    unfold PortModes.listLoop portListRoutingModeLoop
    rw [show (fibPortModeEntry t portId).call = fibPortModeCall t portId from rfl,
      show (fibPortModeEntry t portId).portId = portId from rfl, one]
    cases updated : portRoutingModeUpdate isSet s portId with
    | mk next status =>
      rw [updated] at kept
      cases status with
      | success =>
        have rest := ih (done ++ [portId]) (kept.trans answers)
        rw [List.map_append] at rest
        exact rest
      | _ => exact Prod.ext (fibPortModes_undo isSet done (kept.trans answers)) rfl

theorem fibPortModeCall_undo (ports : List ObjectId) :
    ∀ s, fibPortModeCall (portListRoutingModeUndo isSet s ports) = fibPortModeCall s := by
  induction ports with
  | nil => exact fun s => rfl
  | cons portId rest ih => exact fun s => (ih _).trans (fibPortModeCall_update _ portId)

theorem fibPortModeCall_list (done ports : List ObjectId) (s : FibState) :
    fibPortModeCall (portListRoutingModeLoop isSet s done ports).1 = fibPortModeCall s := by
  induction ports generalizing s done with
  | nil => rfl
  | cons portId rest ih =>
    have one := @fibPortModeCall_update s isSet portId
    unfold portListRoutingModeLoop
    split
    · next next updated =>
      rw [updated] at one
      exact (ih _ next).trans one
    · next next error _ updated =>
      rw [updated] at one
      exact (fibPortModeCall_undo isSet done next).trans one

end

theorem fibPortModes_list (s : FibState) (ports : List ObjectId) (isSet : Bool) :
    (fibPortModes s).listRoutingModeUpdate (ports.map (fibPortModeEntry s)) isSet =
      (fibPortModes (portListRoutingModeUpdate s ports isSet).1, (portListRoutingModeUpdate s ports isSet).2) :=
  fibPortModes_loop isSet [] ports rfl

def fibLagPortEntry (s : FibState) (portId : ObjectId) : LagPortEntry :=
  ⟨portId, fibPortModeCall s portId, fibPortModeCall s portId, fibPortModeCall s portId, fibPortModeCall s portId⟩

theorem rifLagMemberUpdate_updated
    (some : ports ≠ []) (updated : portListRoutingModeUpdate s ports isAdd = (t, .success))
    (same : fibRouterInterfaceNodeGet t rifId = fibRouterInterfaceNodeGet s rifId) :
    rifLagMemberUpdate s rifId lagId ports isAdd npu = if rifLagMemberStatus s rifId lagId npu ≠ .success then
        ((portListRoutingModeUpdate t ports (!isAdd)).1, rifLagMemberStatus s rifId lagId npu)
      else (t, .success) := by
  unfold rifLagMemberUpdate
  rw [if_neg some, updated]
  dsimp only
  rw [same]
  rfl

theorem rifLagMemberUpdate_stopped
    {status : SaiStatus} (some : ports ≠ []) (updated : portListRoutingModeUpdate s ports isAdd = (t, status))
    (failed : status ≠ .success) : rifLagMemberUpdate s rifId lagId ports isAdd npu = (t, status) := by
  unfold rifLagMemberUpdate
  rw [if_neg some, updated]
  dsimp only
  split
  · next same => exact absurd (Prod.ext_iff.mp same).2 failed
  · next same => exact same.symm

theorem fibPortModes_lagMember (s : FibState) (rifId lagId : ObjectId) (ports : List ObjectId) (isAdd : Bool)
    (npu : SaiStatus) :
    (fibPortModes s).rifLagMemberUpdate s rifId lagId (ports.map (fibLagPortEntry s)) isAdd npu =
      (fibPortModes (rifLagMemberUpdate s rifId lagId ports isAdd npu).1,
        (rifLagMemberUpdate s rifId lagId ports isAdd npu).2) := by
  have forth : (ports.map (fibLagPortEntry s)).map LagPortEntry.forth = ports.map (fibPortModeEntry s) := by
    rw [List.map_map]
    rfl
  have back : (ports.map (fibLagPortEntry s)).map LagPortEntry.back = ports.map (fibPortModeEntry s) := by
    rw [List.map_map]
    rfl
  unfold PortModes.rifLagMemberUpdate
  rw [forth, back, fibPortModes_list]
  by_cases empty : ports = []
  · rw [empty]
    rfl
  rw [if_neg (fun none => empty (List.map_eq_nil_iff.mp none))]
  have only := portListRoutingModeLoop_modes isAdd ports s []
  have answers := fibPortModeCall_list isAdd [] ports s
  cases updated : portListRoutingModeUpdate s ports isAdd with
  | mk next status =>
    rw [show portListRoutingModeLoop isAdd s [] ports = (next, status) from updated] at only answers
    have same : fibRouterInterfaceNodeGet next rifId = fibRouterInterfaceNodeGet s rifId := by
      obtain ⟨tree, rfl⟩ := only
      rfl
    by_cases success : status = .success
    · subst success
      have again : (fibPortModes next).listRoutingModeUpdate (ports.map (fibPortModeEntry s)) (!isAdd) =
          (fibPortModes (portListRoutingModeUpdate next ports (!isAdd)).1,
            (portListRoutingModeUpdate next ports (!isAdd)).2) := fibPortModes_loop (!isAdd) [] ports answers
      rw [rifLagMemberUpdate_updated empty updated same]
      dsimp only
      rw [again]
      cases rifLagMemberStatus s rifId lagId npu <;> rfl
    · rw [rifLagMemberUpdate_stopped empty updated success]
      dsimp only
      split
      · next same => exact absurd (Prod.ext_iff.mp same).2 success
      · next same => exact same.symm

end Instance

end SaiCommon
