import SaiCommon.Fib.Lag

namespace SaiCommon

structure LagPortNode where
  lagId : ObjectId
  portId : ObjectId
  memberId : ObjectId
  ingressDisable : Bool
  egressDisable : Bool
deriving DecidableEq

/-- A call of the RIF callback, with its answer. -/
structure LagNotice where
  lagId : ObjectId
  rifId : ObjectId
  lagOperation : LagOperation
  ports : List ObjectId
  answer : SaiStatus
deriving DecidableEq

/-- The LAG cache (`lagTree`: the LAGs that are created, with the RIF id of each),
the members that the NPU holds for its LAGs, what the port module says of the
ports, and the calls of the RIF callback. -/
structure LagState where
  lagTree : KeyTree ObjectId ObjectId
  nodes : List LagPortNode
  npu : KeyTree ObjectId (Finset ObjectId)
  portValid : ObjectId → Bool
  fwdMode : ObjectId → Option PortFwdMode
  rifCallback : Bool
  told : List LagNotice

namespace LagState
variable (s : LagState)

def isLagCreated (lagId : ObjectId) : Bool := (s.lagTree.get lagId).isSome

/-- `sai_lag_port_list_get`; the count is the length. -/
def portListGet (lagId : ObjectId) : List ObjectId :=
  (s.nodes.filter fun node => node.lagId = lagId).map LagPortNode.portId

def isPortLagMember (lagId portId : ObjectId) : Bool := portId ∈ s.portListGet lagId

def isPortPartOfDifferentLag (lagId portId : ObjectId) : Bool :=
  s.nodes.any fun node => node.lagId ≠ lagId && node.portId = portId

def nodeAdd (lagId : ObjectId) : SaiStatus → LagState × SaiStatus
  | .success => ({ s with lagTree := s.lagTree.put lagId nullObjectId }, .success)
  | error => (s, error)

def nodeRemove (lagId : ObjectId) : LagState × SaiStatus :=
  if s.isLagCreated lagId then ({ s with lagTree := s.lagTree.del lagId }, .success) else (s, .itemNotFound)

def portNodeAdd (lagId portId memberId : ObjectId) : SaiStatus → LagState × SaiStatus
  | .success => ({ s with nodes := s.nodes ++ [⟨lagId, portId, memberId, false, false⟩] }, .success)
  | error => (s, error)

def portNodeRemove (lagId portId : ObjectId) : LagState :=
  { s with nodes := s.nodes.filter fun node => ¬ (node.lagId = lagId ∧ node.portId = portId) }

def removeAllPortNodes (lagId : ObjectId) : LagState :=
  { s with nodes := s.nodes.filter fun node => node.lagId ≠ lagId }

/-- `lag_create` of the NPU: the id is not that of a LAG it holds. -/
def npuLagCreate : Except SaiStatus ObjectId → LagState × Except SaiStatus ObjectId
  | .ok lagId =>
    match s.npu.get lagId with
    | none => ({ s with npu := s.npu.put lagId ∅ }, .ok lagId)
    | some _ => (s, .error .failure)
  | .error error => (s, .error error)

def npuLagRemove (lagId : ObjectId) : SaiStatus → LagState × SaiStatus
  | .success => ({ s with npu := s.npu.del lagId }, .success)
  | error => (s, error)

theorem npuLagRemove_refused (lagId : ObjectId) {npu : SaiStatus} (refused : npu ≠ .success) :
    s.npuLagRemove lagId npu = (s, npu) := by
  cases npu with
  | success => exact absurd rfl refused
  | _ => rfl

/-- `add_ports_to_lag` of the NPU. -/
def npuAddPorts (lagId : ObjectId) (ports : List ObjectId) : SaiStatus → LagState × SaiStatus
  | .success => ({ s with npu := s.npu.modify lagId fun members => members ∪ ports.toFinset }, .success)
  | error => (s, error)

/-- `remove_ports_from_lag` of the NPU. -/
def npuRemovePorts (lagId : ObjectId) (ports : List ObjectId) : SaiStatus → LagState × SaiStatus
  | .success => ({ s with npu := s.npu.modify lagId fun members => members \ ports.toFinset }, .success)
  | error => (s, error)

/-- `sai_lag_rif_notify`, the callback answering `status`. -/
def rifNotify (lagId : ObjectId) (lagOperation : LagOperation) (ports : List ObjectId) (status : SaiStatus) :
    LagState × SaiStatus :=
  match s.lagTree.get lagId with
  | none => (s, .success)
  | some rifId =>
    if rifId.objType = .routerInterface ∧ s.rifCallback = true then
      ({ s with told := s.told ++ [⟨lagId, rifId, lagOperation, ports, status⟩] }, status)
    else (s, .success)

end LagState

/-- What the NPU and the cache answer while a port list is set: to the removal
of all members, to the insertion of the node of each port, to the addition. -/
structure LagPortListEnv where
  npuRemove : SaiStatus
  nodeAdd : ObjectId → SaiStatus
  npuAdd : SaiStatus

def l2RemoveAllLagPorts (s : LagState) (lagId : ObjectId) (npuRemove : SaiStatus) : LagState × SaiStatus :=
  if s.portListGet lagId = [] then (s, .success)
  else match s.npuRemovePorts lagId (s.portListGet lagId) npuRemove with
    | (s, .success) => (s.removeAllPortNodes lagId, .success)
    | (s, error) => (s, error)

/-- The loop over the ports of a list that is set (`checked` false) or added
(`checked` true): the cache after it, `non_dup_list` and the status. In a list
that is added a port whose mode cannot be read passes, since the mode read
before it is not ROUTING. -/
def l2LagPortsLoop (checked : Bool) (lagId : ObjectId) (nodeAdd : ObjectId → SaiStatus) (s : LagState)
    (nonDup : List ObjectId) (ret : SaiStatus) : List ObjectId → LagState × List ObjectId × SaiStatus
  | [] => (s, nonDup, ret)
  | port :: rest =>
    if s.isPortPartOfDifferentLag lagId port then (s, nonDup, .invalidPortMember)
    else if checked = true ∧ s.fwdMode port = some .routing then (s, nonDup, .objectInUse)
    else if s.isPortLagMember lagId port then l2LagPortsLoop checked lagId nodeAdd s nonDup ret rest
    else match s.portNodeAdd lagId port nullObjectId (nodeAdd port) with
      | (s, .success) => l2LagPortsLoop checked lagId nodeAdd s (nonDup ++ [port]) .success rest
      | (s, error) => (s, nonDup ++ [port], error)

def l2RemovePortNodes (s : LagState) (lagId : ObjectId) (ports : List ObjectId) : LagState :=
  ports.foldl (fun s port => s.portNodeRemove lagId port) s

def l2LagPortListSet (s : LagState) (lagId : ObjectId) (ports : List ObjectId) (env : LagPortListEnv) :
    LagState × SaiStatus :=
  if ports.all s.portValid = false then (s, .invalidParameter)
  else if s.isLagCreated lagId = false then (s, .itemNotFound)
  else match l2RemoveAllLagPorts s lagId env.npuRemove with
    | (s, .success) =>
      match l2LagPortsLoop false lagId env.nodeAdd s [] .success ports with
      | (s, nonDup, .success) =>
        match s.npuAddPorts lagId (s.portListGet lagId) env.npuAdd with
        | (s, .success) => (s, .success)
        | (s, error) => (l2RemovePortNodes s lagId nonDup, error)
      | (s, nonDup, error) => (l2RemovePortNodes s lagId nonDup, error)
    | (s, error) => (s, error)

inductive LagAttr
  | portList (ports : List ObjectId)
  | unknown
deriving DecidableEq

structure LagCreateEnv where
  create : Except SaiStatus ObjectId
  nodeAdd : SaiStatus
  portList : Nat → LagPortListEnv

/-- The loop over the attributes, also run when the LAG is not in the cache. -/
def l2CreateLagLoop (s : LagState) (lagId : ObjectId) (portList : Nat → LagPortListEnv) (index : Nat)
    (ret : SaiStatus) : List LagAttr → LagState × SaiStatus
  | [] => (s, ret)
  | .portList ports :: rest =>
    match l2LagPortListSet s lagId ports (portList index) with
    | (s, .success) => l2CreateLagLoop s lagId portList (index + 1) .success rest
    | (s, error) => (s, error)
  | .unknown :: _ => (s, .unknownAttribute index)

/-- `sai_l2_create_lag` after the NPU has made the LAG; undo calls succeed. -/
def l2CreateLagWithId (s : LagState) (lagId : ObjectId) (attrs : List LagAttr) (env : LagCreateEnv) :
    LagState × SaiStatus :=
  let added := s.nodeAdd lagId env.nodeAdd
  let s := if added.2 = .success then added.1 else (added.1.npuLagRemove lagId .success).1
  match l2CreateLagLoop s lagId env.portList 0 added.2 attrs with
  | (s, .success) => (s, .success)
  | (s, error) => ((((s.npuLagRemove lagId .success).1.removeAllPortNodes lagId).nodeRemove lagId).1, error)

def l2CreateLag (s : LagState) (attrs : List LagAttr) (env : LagCreateEnv) : LagState × SaiStatus :=
  match s.npuLagCreate env.create with
  | (s, .error error) => (s, error)
  | (s, .ok lagId) => l2CreateLagWithId s lagId attrs env

/-- When the NPU refuses, the LAG node is added again, without its port nodes. -/
def l2RemoveLag (s : LagState) (lagId : ObjectId) (npu : SaiStatus) : LagState × SaiStatus :=
  match s.lagTree.get lagId with
  | none => (s, .itemNotFound)
  | some rifId =>
    if rifId.objType = .routerInterface then (s, .objectInUse)
    else match (s.removeAllPortNodes lagId).nodeRemove lagId with
      | (s, .success) =>
        match s.npuLagRemove lagId npu with
        | (s, .success) => (s, .success)
        | (s, error) => ((s.nodeAdd lagId .success).1, error)
      | (s, error) => (s, error)

/-- What the NPU, the cache and the RIF callback answer to an addition of ports. -/
structure LagAddPortsEnv where
  nodeAdd : ObjectId → SaiStatus
  npuAdd : SaiStatus
  rifAdd : SaiStatus

/-- The status before the loop is FAILURE. -/
def l2AddPortsToLag (s : LagState) (lagId : ObjectId) (ports : List ObjectId) (env : LagAddPortsEnv) :
    LagState × SaiStatus :=
  if ports.all s.portValid = false then (s, .invalidParameter)
  else if s.isLagCreated lagId = false then (s, .itemNotFound)
  else match l2LagPortsLoop true lagId env.nodeAdd s [] .failure ports with
    | (s, nonDup, .success) =>
      match s.npuAddPorts lagId nonDup env.npuAdd with
      | (s, .success) =>
        match s.rifNotify lagId .addPorts nonDup env.rifAdd with
        | (s, .success) => (s, .success)
        | (s, error) => (l2RemovePortNodes (s.npuRemovePorts lagId nonDup .success).1 lagId nonDup, error)
      | (s, error) => (l2RemovePortNodes s lagId nonDup, error)
    | (s, nonDup, error) => (l2RemovePortNodes s lagId nonDup, error)

def l2RemovePortsFromLag (s : LagState) (lagId : ObjectId) (ports : List ObjectId) (npu rifDel : SaiStatus) :
    LagState × SaiStatus :=
  if ports.all s.portValid = false then (s, .invalidParameter)
  else if s.isLagCreated lagId = false then (s, .itemNotFound)
  else if (ports.all fun port => s.isPortLagMember lagId port) = false then (s, .invalidPortMember)
  else match s.npuRemovePorts lagId ports npu with
    | (s, .success) =>
      match s.rifNotify lagId .delPorts ports rifDel with
      | (s, .success) => (l2RemovePortNodes s lagId ports, .success)
      | (s, error) => ((s.npuAddPorts lagId ports .success).1, error)
    | (s, error) => (s, error)

/-- What the world answers to a set of a LAG attribute. `stale` is what is read
through `old_lag_port_list` once the block of the array it points to has ended;
for a LAG without members it was never filled. -/
structure LagSetEnv where
  first : LagPortListEnv
  stale : List ObjectId
  rifDel : SaiStatus
  rifAdd : SaiStatus
  rifUndo : SaiStatus
  undo : LagPortListEnv
  last : LagPortListEnv

/-- The two notifications after a list was set. -/
def l2SetLagTold (s : LagState) (lagId : ObjectId) (ports : List ObjectId) (env : LagSetEnv) : LagState × SaiStatus :=
  match s.rifNotify lagId .delPorts env.stale env.rifDel with
  | (s, .success) => s.rifNotify lagId .addPorts ports env.rifAdd
  | (s, error) => (s, error)

/-- The notifications and what is done when one fails. -/
def l2SetLagNotify (s : LagState) (lagId : ObjectId) (ports : List ObjectId) (env : LagSetEnv) : LagState :=
  match l2SetLagTold s lagId ports env with
  | (s, .success) => s
  | (s, _) => (l2LagPortListSet (s.rifNotify lagId .addPorts env.stale env.rifUndo).1 lagId env.stale env.undo).1

/-- The list is set once more at the end, whatever happened before. -/
def l2SetLagAttribute (s : LagState) (lagId : ObjectId) (attr : LagAttr) (env : LagSetEnv) : LagState × SaiStatus :=
  if s.isLagCreated lagId = false then (s, .itemNotFound)
  else match attr with
    | .unknown => (s, .unknownAttribute 0)
    | .portList ports =>
      match l2LagPortListSet s lagId ports env.first with
      | (s, .success) => l2LagPortListSet (l2SetLagNotify s lagId ports env) lagId ports env.last
      | (s, _) => l2LagPortListSet s lagId ports env.last

/-- What the NPU, the cache and the RIF callback answer to a member creation. -/
structure L2LagMemberEnv where
  npuAdd : SaiStatus
  memberId : ObjectId
  nodeAdd : SaiStatus
  ingDisable : SaiStatus
  egrDisable : SaiStatus
  rifAdd : SaiStatus

namespace LagState

def validatePortAdd (s : LagState) (lagId portId : ObjectId) : SaiStatus :=
  if s.portValid portId = false then .invalidParameter
  else if s.isLagCreated lagId = false then .itemNotFound
  else if s.isPortLagMember lagId portId then .itemAlreadyExists
  else if s.isPortPartOfDifferentLag lagId portId then .invalidPortMember
  else match s.fwdMode portId with
    | none => .objectInUse
    | some .routing => .objectInUse
    | some _ => .success

def addPort (s : LagState) (lagId portId : ObjectId) (env : L2LagMemberEnv) : LagState × SaiStatus :=
  match s.npuAddPorts lagId [portId] env.npuAdd with
  | (s, .success) =>
    match s.portNodeAdd lagId portId env.memberId env.nodeAdd with
    | (s, .success) => (s, .success)
    | (s, error) => ((s.npuRemovePorts lagId [portId] .success).1, error)
  | (s, error) => (s, error)

/-- `sai_l2_remove_lag_port`: the node goes whatever the NPU answers. -/
def removePort (s : LagState) (lagId portId : ObjectId) (npu : SaiStatus) : LagState :=
  (s.npuRemovePorts lagId [portId] npu).1.portNodeRemove lagId portId

def setDisableStatus (s : LagState) (lagId portId : ObjectId) (isIngress value : Bool) : LagState :=
  { s with nodes := s.nodes.map fun node =>
      if node.lagId = lagId ∧ node.portId = portId then
        { node with
          ingressDisable := if isIngress then value else node.ingressDisable
          egressDisable := if isIngress then node.egressDisable else value }
      else node }

def portFlagSet (s : LagState) (lagId portId : ObjectId) (isIngress value : Bool) (npu : SaiStatus) :
    LagState × SaiStatus :=
  match s.nodes.find? fun node => node.lagId = lagId ∧ node.portId = portId with
  | none => (s, .itemNotFound)
  | some node =>
    if (if isIngress then node.ingressDisable else node.egressDisable) = value then (s, .success)
    else match npu with
      | .success => (s.setDisableStatus lagId portId isIngress value, .success)
      | error => (s, error)

/-- A flag that is given with a new member. -/
def givenFlagSet (s : LagState) (lagId portId : ObjectId) (isIngress : Bool) (value : Option Bool)
    (npu : SaiStatus) : LagState × SaiStatus :=
  match value with
  | none => (s, .success)
  | some value => s.portFlagSet lagId portId isIngress value npu

/-- The steps of `sai_l2_create_lag_member` after the port was added. -/
def finishMember (s : LagState) (lagId portId : ObjectId) (parse : LagMemberParse) (env : L2LagMemberEnv) :
    LagState × SaiStatus :=
  match s.givenFlagSet lagId portId true parse.ingDisable env.ingDisable with
  | (s, .success) =>
    match s.givenFlagSet lagId portId false parse.egrDisable env.egrDisable with
    | (s, .success) => s.rifNotify lagId .addPorts [portId] env.rifAdd
    | (s, error) => (s, error)
  | (s, error) => (s, error)

def createMember (s : LagState) (attrs : List LagMemberAttr) (env : L2LagMemberEnv) : LagState × SaiStatus :=
  match lagMemberAttributesLoop ⟨none, none, none, none⟩ attrs with
  | .error error => (s, error)
  | .ok parse =>
    match parse.lag, parse.portId with
    | some lagId, some portId =>
      match s.validatePortAdd lagId portId with
      | .success =>
        match s.addPort lagId portId env with
        | (s, .success) =>
          match s.finishMember lagId portId parse env with
          | (s, .success) => (s, .success)
          | (s, error) => (s.removePort lagId portId .success, error)
        | (s, error) => (s, error)
      | error => (s, error)
    | _, _ => (s, .mandatoryAttributeMissing)

/-- `sai_l2_remove_lag_member`; `found` is the node that the cache finds under
the member id. -/
def removeMember (s : LagState) (memberId : ObjectId) (found : Option LagPortNode) (npu rifDel : SaiStatus) :
    LagState × SaiStatus :=
  match found with
  | none => (s, .itemNotFound)
  | some node =>
    if node ∉ s.nodes ∨ node.memberId ≠ memberId then (s, .itemNotFound)
    else if s.portValid node.portId = false then (s, .invalidParameter)
    else if s.isLagCreated node.lagId = false then (s, .itemNotFound)
    else if s.isPortLagMember node.lagId node.portId = false then (s, .itemNotFound)
    else (((s.removePort node.lagId node.portId npu).rifNotify node.lagId .delPorts [node.portId] rifDel).1, .success)

end LagState

/-- The calls that change LAGs, and what other modules change: the ports, the
RIF of a LAG and the registered callback. -/
inductive LagCall
  | createLag (attrs : List LagAttr) (env : LagCreateEnv)
  | removeLag (lagId : ObjectId) (npu : SaiStatus)
  | setAttribute (lagId : ObjectId) (attr : LagAttr) (env : LagSetEnv)
  | addPorts (lagId : ObjectId) (ports : List ObjectId) (env : LagAddPortsEnv)
  | removePorts (lagId : ObjectId) (ports : List ObjectId) (npu rifDel : SaiStatus)
  | createMember (attrs : List LagMemberAttr) (env : L2LagMemberEnv)
  | removeMember (memberId : ObjectId) (found : Option LagPortNode) (npu rifDel : SaiStatus)
  | portsChange (valid : ObjectId → Bool) (fwdMode : ObjectId → Option PortFwdMode)
  | updateRifId (lagId rifId : ObjectId)
  | registerCallback (registered : Bool)

def LagCall.run (s : LagState) : LagCall → LagState × SaiStatus
  | .createLag attrs env => l2CreateLag s attrs env
  | .removeLag lagId npu => l2RemoveLag s lagId npu
  | .setAttribute lagId attr env => l2SetLagAttribute s lagId attr env
  | .addPorts lagId ports env => l2AddPortsToLag s lagId ports env
  | .removePorts lagId ports npu rifDel => l2RemovePortsFromLag s lagId ports npu rifDel
  | .createMember attrs env => s.createMember attrs env
  | .removeMember memberId found npu rifDel => s.removeMember memberId found npu rifDel
  | .portsChange valid fwdMode => ({ s with portValid := valid, fwdMode := fwdMode }, .success)
  | .updateRifId lagId rifId => ({ s with lagTree := s.lagTree.modify lagId fun _ => rifId }, .success)
  | .registerCallback registered => ({ s with rifCallback := registered }, .success)

def LagCall.step (s : LagState) (call : LagCall) : LagState := (call.run s).1

end SaiCommon
