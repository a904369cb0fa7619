import SaiCommon.Qos.Policer
import SaiCommon.Qos.Scheduler

namespace SaiCommon

/-- The trees of the objects that clients of another lock than the QoS lock attach. -/
inductive QosKind
  | map
  | scheduler
  | policer
deriving DecidableEq

def QosKind.objType : QosKind → ObjectType
  | .map => .qosMaps
  | .scheduler => .scheduler
  | .policer => .policer

/-- A glue with the id field beside it: `maps_id`, `scheduler_id` and
`policer_id` of a port, `scheduler_id` of a queue or a scheduler group, and
`policer_id` of an ACL rule. -/
inductive QosSlot
  | map (portId : ObjectId) (mapType : QosMapType)
  | scheduler (user : SchedulerUser) (objectId : ObjectId)
  | storm (portId : ObjectId) (type : PolicerType)
  | rule (ruleId : ObjectId)
deriving DecidableEq

def QosSlot.kind : QosSlot → QosKind
  | .map _ _ => .map
  | .scheduler _ _ => .scheduler
  | .storm _ _ => .policer
  | .rule _ => .policer

/-- Ports are set under the port lock, rules under the ACL lock. -/
inductive ClientLock
  | port
  | acl
deriving DecidableEq

def QosSlot.lock : QosSlot → ClientLock
  | .rule _ => .acl
  | _ => .port

/-- The atomic steps of the functions that attach and detach. -/
inductive ClientStep
  /-- `*_node_get`, NULL ending the call. -/
  | lookup (id : ObjectId)
  /-- An NPU call, a refusal ending the call. -/
  | npu
  /-- The glue leaves the list of the object that the field names; `must` where an
  object that is not stored ends the call. -/
  | release (must : Bool)
  /-- The glue leaves that list and the field becomes NULL. -/
  | unlink
  | join (id : ObjectId)
  | write (id : ObjectId)
  /-- The glue joins the list of the object and the field names it. -/
  | link (id : ObjectId)
  /-- `sai_acl_rule_insert` of a new rule. -/
  | insert (policerId : ObjectId)
  /-- `delete_acl_rule` of a rule whose policer is attached again on a refusal. -/
  | npuDelete (policerId : ObjectId)
  /-- `sai_acl_rule_remove` -/
  | drop
deriving DecidableEq

/-- A call that holds the port lock or the ACL lock, with the steps it has to take. -/
structure ClientCall where
  slot : QosSlot
  steps : List ClientStep
deriving DecidableEq

/-- A remove that holds the QoS lock and has passed its in-use check; `npuDone`
once the NPU has removed the object. -/
structure QosRemoval where
  kind : QosKind
  id : ObjectId
  npuDone : Bool
deriving DecidableEq

/-- The id fields of the ports, queues, scheduler groups and rules that are
stored, and the glues in the lists of every object; a node's lists hold
different glues, so that one list stands for them. -/
structure ClientState where
  ids : QosSlot → Option ObjectId
  nodes : QosKind → KeyTree ObjectId (List QosSlot)
  calls : ClientLock → Option ClientCall
  removal : Option QosRemoval

namespace ClientState
variable (s : ClientState)

def named (slot : QosSlot) : ObjectId := (s.ids slot).getD nullObjectId

def stored (slot : QosSlot) (id : ObjectId) : Bool := ((s.nodes slot.kind).get id).isSome

def goOn (lock : ClientLock) (next : Option ClientCall) : ClientState :=
  { s with calls := Function.update s.calls lock next }

/-- Nothing of a node that is freed is kept: a write to its lists changes nothing. -/
def editList (slot : QosSlot) (id : ObjectId) (edit : List QosSlot → List QosSlot) : ClientState :=
  { s with nodes := Function.update s.nodes slot.kind ((s.nodes slot.kind).modify id edit) }

def releaseGlue (slot : QosSlot) : ClientState := s.editList slot (s.named slot) fun glues => glues.erase slot

def joinList (slot : QosSlot) (id : ObjectId) : ClientState := s.editList slot id fun glues => glues ++ [slot]

def writeId (slot : QosSlot) (id : Option ObjectId) : ClientState :=
  { s with ids := Function.update s.ids slot id }

/-- A call whose steps are over gives its lock back. -/
def advance (lock : ClientLock) (answer : SaiStatus) : ClientState :=
  match s.calls lock with
  | none => s
  | some ⟨_, []⟩ => s.goOn lock none
  | some ⟨slot, step :: rest⟩ =>
    match step with
    | .lookup id => if s.stored slot id then s.goOn lock (some ⟨slot, rest⟩) else s.goOn lock none
    | .npu =>
      match answer with
      | .success => s.goOn lock (some ⟨slot, rest⟩)
      | _ => s.goOn lock none
    | .npuDelete id =>
      match answer with
      | .success => s.goOn lock (some ⟨slot, rest⟩)
      | _ => s.goOn lock (some ⟨slot, [.lookup id, .join id]⟩)
    | .release must =>
      if must ∧ s.named slot ≠ nullObjectId ∧ s.stored slot (s.named slot) = false then s.goOn lock none
      else (s.releaseGlue slot).goOn lock (some ⟨slot, rest⟩)
    | .unlink => ((s.releaseGlue slot).writeId slot (some nullObjectId)).goOn lock (some ⟨slot, rest⟩)
    | .join id => (s.joinList slot id).goOn lock (some ⟨slot, rest⟩)
    | .write id => (s.writeId slot (some id)).goOn lock (some ⟨slot, rest⟩)
    | .link id => ((s.joinList slot id).writeId slot (some id)).goOn lock (some ⟨slot, rest⟩)
    | .insert id =>
      if answer = .success ∧ s.ids slot = none then (s.writeId slot (some id)).goOn lock (some ⟨slot, rest⟩)
      else s.goOn lock (some ⟨slot, rest⟩)
    | .drop => (s.writeId slot none).goOn lock (some ⟨slot, rest⟩)

/-- `sai_qos_map_on_port_set` with `sai_qos_map_port_add` and
`sai_qos_map_port_remove`; the last call to the NPU, which applies the other
ingress map again, touches no link. -/
def mapOnPortSet (portId mapId : ObjectId) (mapType : QosMapType) : Option ClientCall :=
  if mapType = .invalid then none
  else match s.ids (.map portId mapType) with
    | none => none
    | some old =>
      if mapId = nullObjectId then some ⟨.map portId mapType, [.lookup old, .npu, .unlink]⟩
      else if old = mapId then none
      else some ⟨.map portId mapType, [.lookup mapId, .release false, .npu, .link mapId]⟩

/-- `sai_qos_port_scheduler_set` with `sai_qos_scheduler_port_list_update`, which
looks the scheduler up once more. -/
def portSchedulerSet (portId schedId : ObjectId) : Option ClientCall :=
  match s.ids (.scheduler .port portId) with
  | none => none
  | some old =>
    if old = schedId then none
    else if schedId ≠ nullObjectId then
      some ⟨.scheduler .port portId, [.lookup schedId, .npu, .release true, .lookup schedId, .link schedId]⟩
    else some ⟨.scheduler .port portId, [.npu, .release true, .write nullObjectId]⟩

section Mode
/- `sai_get_type_from_npu_object`: the mode that was appended to a policer's id. -/
variable (modeOf : ObjectId → PolicerMode)

/-- `sai_port_attr_storm_control_policer_set` with
`sai_policer_port_storm_control_node_update`. -/
def stormControlSet (portId : ObjectId) (type : PolicerType) (policerId : ObjectId) : Option ClientCall :=
  match s.ids (.storm portId type) with
  | none => none
  | some old =>
    if policerId ≠ nullObjectId then
      if policerId.objType ≠ .policer ∨ modeOf policerId ≠ .stormControl then none
      else some ⟨.storm portId type, [.lookup policerId, .npu, .release false, .link policerId]⟩
    else some ⟨.storm portId type, [.lookup old, .npu, .unlink]⟩

def rulePolicer (policerId : ObjectId) : Prop :=
  policerId.objType = .policer ∧ (modeOf policerId = .srTcm ∨ modeOf policerId = .trTcm)

instance (policerId : ObjectId) : Decidable (rulePolicer modeOf policerId) :=
  inferInstanceAs (Decidable (_ ∧ _))

/-- `sai_create_acl_rule`, `sai_install_acl_rule` being the call to the NPU. -/
def createRule (ruleId policerId : ObjectId) : Option ClientCall :=
  if policerId = nullObjectId then some ⟨.rule ruleId, [.npu, .insert nullObjectId]⟩
  else if rulePolicer modeOf policerId then
    some ⟨.rule ruleId, [.npu, .lookup policerId, .join policerId, .insert policerId]⟩
  else none

/-- `sai_set_acl_rule` with `sai_acl_rule_policer_update`, which writes the id of
the policer before it looks it up. NULL is every set of another attribute. -/
def setRule (ruleId policerId : ObjectId) : Option ClientCall :=
  match s.ids (.rule ruleId) with
  | none => none
  | some old =>
    if policerId = old then some ⟨.rule ruleId, [.npu]⟩
    else if policerId = nullObjectId then some ⟨.rule ruleId, [.npu, .release true, .write nullObjectId]⟩
    else if rulePolicer modeOf policerId then
      some ⟨.rule ruleId, [.npu, .release true, .write policerId, .lookup policerId, .join policerId]⟩
    else none

def deleteRule (ruleId : ObjectId) : Option ClientCall :=
  match s.ids (.rule ruleId) with
  | none => none
  | some old =>
    if old = nullObjectId then some ⟨.rule ruleId, [.npu, .drop]⟩
    else some ⟨.rule ruleId, [.release true, .npuDelete old, .drop]⟩

def begin (call : Option ClientCall) : ClientState :=
  match call with
  | none => s
  | some call => if s.calls call.slot.lock = none then s.goOn call.slot.lock (some call) else s

def QosSlot.isStorm : QosSlot → Bool
  | .storm _ _ => true
  | _ => false

def QosSlot.isRule : QosSlot → Bool
  | .rule _ => true
  | _ => false

/-- `sai_qos_maps_get_port_node_from_map`, `sai_qos_scheduler_is_in_use` and
`sai_qos_policer_is_object_in_use`. -/
def isInUse (kind : QosKind) (id : ObjectId) (glues : List QosSlot) : Bool :=
  match kind with
  | .map => glues ≠ []
  | .scheduler => glues ≠ []
  | .policer =>
    match modeOf id with
    | .stormControl => glues.any QosSlot.isStorm
    | .trTcm => glues.any QosSlot.isRule
    | .srTcm => glues.any QosSlot.isRule
    | .other _ => false

/-- The in-use check of `sai_qos_map_remove`, `sai_qos_scheduler_remove` and
`sai_qos_policer_remove`. -/
def removeCheck (kind : QosKind) (id : ObjectId) : ClientState :=
  if s.removal ≠ none ∨ id.objType ≠ kind.objType then s
  else match (s.nodes kind).get id with
    | none => s
    | some glues => if isInUse modeOf kind id glues then s else { s with removal := some ⟨kind, id, false⟩ }

end Mode

def removeNpu (answer : SaiStatus) : ClientState :=
  match s.removal with
  | some ⟨kind, id, false⟩ =>
    match answer with
    | .success => { s with removal := some ⟨kind, id, true⟩ }
    | _ => { s with removal := none }
  | _ => s

/-- The node leaves its tree and is freed; the remove returns SUCCESS. -/
def removeFree : ClientState :=
  match s.removal with
  | some ⟨kind, id, true⟩ =>
    { s with nodes := Function.update s.nodes kind ((s.nodes kind).del id), removal := none }
  | _ => s

end ClientState

inductive ClientAct
  | mapOnPortSet (portId mapId : ObjectId) (mapType : QosMapType)
  | portSchedulerSet (portId schedId : ObjectId)
  | stormControlSet (portId : ObjectId) (type : PolicerType) (policerId : ObjectId)
  | createRule (ruleId policerId : ObjectId)
  | setRule (ruleId policerId : ObjectId)
  | deleteRule (ruleId : ObjectId)
  | advance (lock : ClientLock) (answer : SaiStatus)
  | removeCheck (kind : QosKind) (id : ObjectId)
  | removeNpu (answer : SaiStatus)
  | removeFree
deriving DecidableEq

def ClientAct.step (modeOf : ObjectId → PolicerMode) (s : ClientState) : ClientAct → ClientState
  | .mapOnPortSet portId mapId mapType => s.begin (s.mapOnPortSet portId mapId mapType)
  | .portSchedulerSet portId schedId => s.begin (s.portSchedulerSet portId schedId)
  | .stormControlSet portId type policerId => s.begin (s.stormControlSet modeOf portId type policerId)
  | .createRule ruleId policerId => s.begin (ClientState.createRule modeOf ruleId policerId)
  | .setRule ruleId policerId => s.begin (s.setRule modeOf ruleId policerId)
  | .deleteRule ruleId => s.begin (s.deleteRule ruleId)
  | .advance lock answer => s.advance lock answer
  | .removeCheck kind id => s.removeCheck modeOf kind id
  | .removeNpu answer => s.removeNpu answer
  | .removeFree => s.removeFree

end SaiCommon
