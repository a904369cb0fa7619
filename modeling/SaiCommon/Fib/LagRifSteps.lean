import SaiCommon.Fib.Attachments

namespace SaiCommon

/-- `sai_fib_router_interface_create` up to `sai_fib_unlock` for a node that is
parsed, the NPU accepting it. -/
def fibRifCreateLocked (s : FibState) (rifId : ObjectId) (rif : Rif) (treeOk : Bool) : FibState × SaiStatus :=
  match fibRifRoutingConfigUpdate s rif true with
  | (set, .success) =>
    match fibRifInsert set rifId rif treeOk with
    | (t, .success) => (t, .success)
    | (t, error) => ((fibRifRoutingConfigUpdate t rif false).1, error)
  | (t, error) => (t, error)

/-- The same of `sai_fib_router_interface_remove` for an unused node. -/
def fibRifRemoveLocked (s : FibState) (rifId : ObjectId) (rif : Rif) : FibState :=
  let listed := (fibVrfRifListUpdate s rif.vrfId false).1
  let removed := { listed with routerInterfaceTree := listed.routerInterfaceTree.del rifId }
  (fibRifRoutingConfigUpdate removed rif false).1

section Locked
variable {s : FibState} {rif : Rif}

/-- A create that the NPU accepts is its locked part and the update of the LAG. -/
theorem fibRouterInterfaceCreate_locked {p : Platform} {defaults : RifDefaults} {attrs : List RifAttr}
    {env : RifCreateEnv}
    (admitted :
      ¬ (attrs.length < fibRifMandatoryAttrCount ∨ attrs.length > fibRifMaxAttrCount ∨ env.allocOk = false))
    (parsed : fibRifAttributesParse p s defaults attrs env = .ok rif) (npu : env.npu = .success) :
    fibRouterInterfaceCreate p s defaults attrs env =
      match fibRifCreateLocked s ⟨.routerInterface, env.npuObjectId⟩ rif env.treeOk with
      | (t, .success) => (if fibRifIsAttachmentLag rif
          then lagUpdateRifId t rif.attachment.portId ⟨.routerInterface, env.npuObjectId⟩ else t, .success)
      | (t, error) => (t, error) := by
  rw [← or_assoc, not_or] at admitted
  unfold fibRouterInterfaceCreate fibRifCreateLocked
  rw [if_neg admitted.1, if_neg admitted.2, parsed]
  dsimp only
  rw [npu]
  rcases fibRifRoutingConfigUpdate s rif true with ⟨set, status⟩
  cases status with
  | success =>
    dsimp only
    rcases inserted : fibRifInsert set ⟨.routerInterface, env.npuObjectId⟩ rif env.treeOk with ⟨t, status⟩
    cases status <;> rfl
  | _ => rfl

theorem fibRouterInterfaceRemove_locked {rifId : ObjectId} (kind : rifId.objType = .routerInterface)
    (found : fibRouterInterfaceNodeGet s rifId = some rif) (unused : rif.refCount = 0) :
    fibRouterInterfaceRemove s rifId .success = (if fibRifIsAttachmentLag rif
      then lagUpdateRifId (fibRifRemoveLocked s rifId rif) rif.attachment.portId nullObjectId
      else fibRifRemoveLocked s rifId rif, .success) := by
  unfold fibRouterInterfaceRemove fibRifRemoveLocked
  rw [if_neg (not_not.mpr kind), found]
  dsimp only
  rw [if_neg (not_not.mpr unused)]

end Locked

/-- The atomic steps of the LAG functions; the NPU accepts all calls. -/
inductive LagStep
  /-- `sai_is_lag_created` -/
  | created
  /-- `sai_is_port_part_of_different_lag` -/
  | different (portId : ObjectId)
  /-- `sai_port_forward_mode_info`; `strict` where a mode that cannot be read is an error. -/
  | mode (portId : ObjectId) (strict : Bool)
  /-- `sai_is_port_lag_member` of a list that is added: a member is passed over. -/
  | skipMember (portId : ObjectId)
  /-- `sai_is_port_lag_member` of a new member. -/
  | absent (portId : ObjectId)
  /-- `sai_is_port_lag_member` of a port that is removed. -/
  | present (portId : ObjectId)
  /-- `sai_lag_port_node_add` -/
  | node (portId memberId : ObjectId)
  /-- A call to the NPU. -/
  | npu
  /-- `add_ports_to_lag` of the ports that were added, which are none when the
  status is still the one from before the loop. -/
  | npuAdd
  /-- `sai_lag_rif_notify` of the ports that were added. -/
  | notifyAdded
  /-- `sai_lag_rif_notify` of ports that leave, their nodes following. -/
  | notifyRemoved (ports : List ObjectId)
  /-- `sai_lag_port_node_remove` -/
  | dropNode (portId : ObjectId)
  /-- `sai_lag_port_node_remove` of a member whose RIF is told later. -/
  | dropMember (portId : ObjectId)
  /-- `sai_lag_rif_notify` of that member, whatever it answers. -/
  | notifyDropped (portId : ObjectId)
  /-- `sai_lag_get_rif_id` of a LAG that is removed. -/
  | rifCheck
  /-- `sai_remove_all_lag_port_nodes` -/
  | dropAll
  /-- `sai_lag_node_remove` -/
  | dropLag
deriving DecidableEq

/-- The call that holds the LAG lock: its LAG, the ports whose nodes it has added
and the steps it has to take. -/
structure LagOp where
  lagId : ObjectId
  added : List ObjectId
  steps : List LagStep
deriving DecidableEq

def l2AddPortsSteps (ports : List ObjectId) : List LagStep :=
  .created :: (ports.flatMap fun port =>
    [.different port, .mode port false, .skipMember port, .node port nullObjectId]) ++ [.npuAdd, .notifyAdded]

def l2RemovePortsSteps (ports : List ObjectId) : List LagStep :=
  .created :: ports.map LagStep.present ++ [.npu, .notifyRemoved ports]

def l2CreateMemberSteps (portId memberId : ObjectId) : List LagStep :=
  [.created, .absent portId, .different portId, .mode portId true, .npu, .node portId memberId, .notifyAdded]

def l2RemoveMemberSteps (portId : ObjectId) : List LagStep :=
  [.created, .present portId, .npu, .dropMember portId, .notifyDropped portId]

def l2RemoveLagSteps : List LagStep := [.created, .rifCheck, .dropAll, .dropLag, .npu]

def LagOp.undo (op : LagOp) : List LagStep := op.added.map LagStep.dropNode

/-- The routing database with the ports and LAGs, the members that the NPU was
told for each RIF, the call that holds the LAG lock and the calls of
`sai_lag_update_rif_id` that are still to come. -/
structure LagRifState where
  fib : FibState
  told : ObjectId → Finset ObjectId
  op : Option LagOp
  updates : List (ObjectId × ObjectId)

def lagMembers (s : FibState) (lagId : ObjectId) : List ObjectId := (lagPortListGet s lagId).getD []

namespace LagRifState
variable (s : LagRifState)

/-- `sai_lag_rif_notify` with the callback. -/
def rifNotify (lagId : ObjectId) (ports : List ObjectId) (isAdd : Bool) : LagRifState × SaiStatus :=
  match s.fib.lagTree.get lagId with
  | none => (s, .success)
  | some lag =>
    if lag.rifId.objType = .routerInterface then
      match rifLagMemberUpdate s.fib lag.rifId lagId ports isAdd .success with
      | (t, .success) =>
        let now := if isAdd then s.told lag.rifId ∪ ports.toFinset else s.told lag.rifId \ ports.toFinset
        ({ s with fib := t, told := Function.update s.told lag.rifId now }, .success)
      | (t, error) => ({ s with fib := t }, error)
    else (s, .success)

def goOn (op : LagOp) (steps : List LagStep) : LagRifState := { s with op := some { op with steps := steps } }

def ended : LagRifState := { s with op := none }

/-- The next step of the call in progress; `cache` is what the insertion of a port
node answers. -/
def advance (cache : SaiStatus) : LagRifState :=
  match s.op with
  | none => s
  | some ⟨_, _, []⟩ => s.ended
  | some ⟨lagId, added, step :: rest⟩ =>
    let op : LagOp := ⟨lagId, added, rest⟩
    match step with
    | .created => if isLagCreated s.fib lagId then s.goOn op rest else s.ended
    | .different portId => s.goOn op (if isPortPartOfDifferentLag s.fib lagId portId then op.undo else rest)
    | .mode portId strict =>
      match portForwardModeGet s.fib portId with
      | some .routing => s.goOn op op.undo
      | some _ => s.goOn op rest
      | none => s.goOn op (if strict then op.undo else rest)
    | .skipMember portId => s.goOn op (if isPortLagMember s.fib lagId portId then rest.tail else rest)
    | .absent portId => if isPortLagMember s.fib lagId portId then s.ended else s.goOn op rest
    | .present portId => if isPortLagMember s.fib lagId portId then s.goOn op rest else s.ended
    | .node portId memberId =>
      let op := { op with added := added ++ [portId] }
      match cache with
      | .success => { s with fib := lagPortNodeAdd s.fib lagId portId memberId }.goOn op rest
      | _ => s.goOn op op.undo
    | .npu => s.goOn op rest
    | .npuAdd => if added = [] then s.ended else s.goOn op rest
    | .notifyAdded =>
      match s.rifNotify lagId added true with
      | (t, .success) => t.goOn op rest
      | (t, _) => t.goOn op (.npu :: op.undo)
    | .notifyRemoved ports =>
      match s.rifNotify lagId ports false with
      | (t, .success) => t.goOn op (ports.map LagStep.dropNode)
      | (t, _) => t.goOn op [.npu]
    | .dropNode portId => { s with fib := lagPortNodeRemove s.fib lagId portId }.goOn op rest
    | .dropMember portId => { s with fib := lagPortNodeRemove s.fib lagId portId }.goOn op rest
    | .notifyDropped portId => (s.rifNotify lagId [portId] false).1.goOn op rest
    | .rifCheck =>
      match s.fib.lagTree.get lagId with
      | none => s.ended
      | some lag => if lag.rifId.objType = .routerInterface then s.ended else s.goOn op rest
    | .dropAll => { s with fib := s.fib.removeAllLagPortNodes lagId }.goOn op rest
    | .dropLag => { s with fib := (s.fib.lagNodeRemove lagId).1 }.goOn op rest

def begin (lagId : ObjectId) (steps : List LagStep) : LagRifState :=
  if s.op = none then { s with op := some ⟨lagId, [], steps⟩ } else s

/-- The part of a RIF create under the FIB lock, of a RIF on a LAG; what the NPU
is told of are the members of the LAG. -/
def createRif (p : Platform) (defaults : RifDefaults) (attrs : List RifAttr) (env : RifCreateEnv) : LagRifState :=
  if attrs.length < fibRifMandatoryAttrCount ∨ attrs.length > fibRifMaxAttrCount ∨ env.allocOk = false then s
  else match fibRifAttributesParse p s.fib defaults attrs env with
    | .error _ => s
    | .ok rif =>
      if fibRifIsAttachmentLag rif = false then s
      else
        let rifId : ObjectId := ⟨.routerInterface, env.npuObjectId⟩
        let lagId := rif.attachment.portId
        match fibRifCreateLocked s.fib rifId rif env.treeOk with
        | (t, .success) =>
          { s with
            fib := t
            told := Function.update s.told rifId (lagMembers s.fib lagId).toFinset
            updates := s.updates ++ [(lagId, rifId)] }
        | (t, _) => { s with fib := t }

/-- The part of a RIF remove under the FIB lock, of a RIF on a LAG. -/
def removeRif (rifId : ObjectId) : LagRifState :=
  match fibRouterInterfaceNodeGet s.fib rifId with
  | none => s
  | some rif =>
    if fibRifIsAttachmentLag rif = false ∨ rif.refCount ≠ 0 then s
    else
      { s with
        fib := fibRifRemoveLocked s.fib rifId rif
        updates := s.updates ++ [(rif.attachment.portId, nullObjectId)] }

def updateRifId (lagId rifId : ObjectId) : LagRifState :=
  if (lagId, rifId) ∈ s.updates then
    { s with fib := lagUpdateRifId s.fib lagId rifId, updates := s.updates.erase (lagId, rifId) }
  else s

end LagRifState

inductive LagRifAct
  | createRif (defaults : RifDefaults) (attrs : List RifAttr) (env : RifCreateEnv)
  | removeRif (rifId : ObjectId)
  | updateRifId (lagId rifId : ObjectId)
  | addPorts (lagId : ObjectId) (ports : List ObjectId)
  | removePorts (lagId : ObjectId) (ports : List ObjectId)
  | createMember (lagId portId memberId : ObjectId)
  | removeMember (memberId lagId portId : ObjectId)
  | removeLag (lagId : ObjectId)
  | advance (cache : SaiStatus)

/-- A list of ports that are not all valid is refused before the lock is taken, a
member before it is looked at; a member id that several nodes have may find any. -/
def LagRifAct.step (p : Platform) (s : LagRifState) : LagRifAct → LagRifState
  | .createRif defaults attrs env => s.createRif p defaults attrs env
  | .removeRif rifId => s.removeRif rifId
  | .updateRifId lagId rifId => s.updateRifId lagId rifId
  | .addPorts lagId ports =>
    if ports.all (isPortValid s.fib) then s.begin lagId (l2AddPortsSteps ports) else s
  | .removePorts lagId ports =>
    if ports.all (isPortValid s.fib) then s.begin lagId (l2RemovePortsSteps ports) else s
  | .createMember lagId portId memberId =>
    if isPortValid s.fib portId then s.begin lagId (l2CreateMemberSteps portId memberId) else s
  | .removeMember memberId lagId portId =>
    if ((s.fib.lagTree.get lagId).any fun lag => ⟨memberId, portId⟩ ∈ lag.members) && isPortValid
      s.fib portId then
      s.begin lagId (l2RemoveMemberSteps portId)
    else s
  | .removeLag lagId => s.begin lagId l2RemoveLagSteps
  | .advance cache => s.advance cache

end SaiCommon
