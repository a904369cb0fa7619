import SaiCommon.Qos.Maps

namespace SaiCommon

inductive PolicerMode
  | srTcm
  | trTcm
  | stormControl
  | other (value : Nat)
deriving DecidableEq

/-- The storm-control types; a port has one policer for each. -/
inductive PolicerType
  | stormFlood
  | stormBcast
  | stormMcast
deriving DecidableEq

inductive PolicerColor
  | green
  | yellow
  | red
deriving DecidableEq

inductive PolicerPacketAction
  | drop
  | forward
  | other (value : Nat)
deriving DecidableEq

structure PolicerAction where
  action : PolicerColor
  value : PolicerPacketAction
  enable : Bool
deriving DecidableEq

/-- A policer node, with the ports linked to it for each type and the ACL
rules linked to it. -/
structure Policer where
  meterType : Nat
  policerMode : PolicerMode
  colorSource : Nat
  cbs : Nat
  cir : Nat
  pbs : Nat
  pir : Nat
  actionList : List PolicerAction
  portDllHead : PolicerType → List ObjectId
  aclDllHead : List ObjectId

/-- `policer_id` of a port, the policer of each type, or NULL. -/
structure PolicerPort where
  policerId : PolicerType → ObjectId

structure PolicerState where
  portTree : KeyTree ObjectId PolicerPort
  policerTree : KeyTree ObjectId Policer

inductive PolicerAttr
  | meterType (value : Nat)
  | mode (value : PolicerMode)
  | colorSource (value : Nat)
  | cbs (value : Nat)
  | cir (value : Nat)
  | pbs (value : Nat)
  | pir (value : Nat)
  | packetAction (color : PolicerColor) (value : PolicerPacketAction)
  | enableCounterList
  | unknown
deriving DecidableEq

inductive PolicerOp
  | create
  | set
deriving DecidableEq

def Policer.zero : Policer where
  meterType := 0
  policerMode := .srTcm
  colorSource := 0
  cbs := 0
  cir := 0
  pbs := 0
  pir := 0
  actionList := []
  portDllHead := fun _ => []
  aclDllHead := []

def qosPolicerValidateAction : PolicerPacketAction → SaiStatus
  | .drop => .success
  | .forward => .success
  | .other _ => .invalidAttrValue 0

def policerExistNodeActionsUpdate (color : PolicerColor) (value : PolicerPacketAction) :
    List PolicerAction → List PolicerAction
  | [] => [⟨color, value, true⟩]
  | entry :: rest =>
    if entry.action = color then { entry with value := value, enable := true } :: rest
    else entry :: policerExistNodeActionsUpdate color value rest

def policerAttrSet (node : Policer) (attr : PolicerAttr) (oldNodeUpdate : Bool) : Except SaiStatus Policer :=
  match attr with
  | .meterType value => .ok { node with meterType := value }
  | .mode value => .ok { node with policerMode := value }
  | .colorSource value => .ok { node with colorSource := value }
  | .cbs value => .ok { node with cbs := value }
  | .cir value => .ok { node with cir := value }
  | .pbs value => .ok { node with pbs := value }
  | .pir value => .ok { node with pir := value }
  | .packetAction color value =>
    match qosPolicerValidateAction value with
    | .success =>
      .ok { node with
        actionList := if oldNodeUpdate then policerExistNodeActionsUpdate color value node.actionList
          else node.actionList ++ [⟨color, value, true⟩] }
    | error => .error error
  | .enableCounterList => .error .notSupported
  | .unknown => .error (.unknownAttribute 0)

def PolicerAttr.isPir : PolicerAttr → Bool
  | .pir _ => true
  | _ => false

/-- `sai_policer_storm_control_attr_bits`: what a storm-control policer may be given. -/
def PolicerAttr.isStormControl : PolicerAttr → Bool
  | .meterType _ => true
  | .mode _ => true
  | .pir _ => true
  | _ => false

def policerAttrLoop (index : Nat) (node : Policer) : List PolicerAttr → Except SaiStatus Policer
  | [] => .ok node
  | attr :: rest =>
    match policerAttrSet node attr false with
    | .ok next => policerAttrLoop (index + 1) next rest
    | .error status => .error (indexedRetVal status index)

def policerParseUpdateAttributes (node : Policer) (attrs : List PolicerAttr) (op : PolicerOp)
    (vendor : SaiStatus) : Except SaiStatus Policer :=
  match vendor with
  | .success =>
    match policerAttrLoop 0 node attrs with
    | .error status => .error status
    | .ok next =>
      if op = .create ∧ next.policerMode = .trTcm ∧ attrs.any PolicerAttr.isPir = false then
        .error .mandatoryAttributeMissing
      else if next.policerMode = .stormControl ∧ attrs.all PolicerAttr.isStormControl = false then
        .error .invalidParameter
      else .ok next
  | error => .error error

/-- What the world outside answers to a policer creation. The number of the
new id already has the mode appended. -/
structure PolicerCreateEnv where
  allocOk : Bool
  vendor : SaiStatus
  npu : SaiStatus
  npuObjectId : Nat
  treeOk : Bool
deriving DecidableEq

def qosPolicerCreate (s : PolicerState) (attrs : List PolicerAttr) (env : PolicerCreateEnv) :
    PolicerState × SaiStatus :=
  if env.allocOk = false then (s, .noMemory)
  else match policerParseUpdateAttributes .zero attrs .create env.vendor with
    | .error status => (s, status)
    | .ok node =>
      match env.npu with
      | .success =>
        let policerId : ObjectId := ⟨.policer, env.npuObjectId⟩
        match env.treeOk, s.policerTree.get policerId with
        | true, none =>
          let node := { node with portDllHead := fun _ => [], aclDllHead := [] }
          ({ s with policerTree := s.policerTree.put policerId node }, .success)
        | _, _ => (s, .failure)
      | error => (s, error)

section Mode
/- `sai_get_type_from_npu_object`: the mode that was appended to a policer's id. -/
variable (modeOf : ObjectId → PolicerMode)

def qosPolicerIsObjectInUse (policerId : ObjectId) (node : Policer) : SaiStatus :=
  match modeOf policerId with
  | .stormControl =>
    if node.portDllHead .stormFlood ≠ [] ∨ node.portDllHead .stormBcast ≠ [] ∨
      node.portDllHead .stormMcast ≠ [] then .objectInUse else .success
  | .trTcm => if node.aclDllHead ≠ [] then .objectInUse else .success
  | .srTcm => if node.aclDllHead ≠ [] then .objectInUse else .success
  | .other _ => .success

def qosPolicerRemove (s : PolicerState) (policerId : ObjectId) (npu : SaiStatus) : PolicerState × SaiStatus :=
  if policerId.objType ≠ .policer then (s, .invalidObjectType)
  else match s.policerTree.get policerId with
    | none => (s, .invalidObjectId)
    | some node =>
      match qosPolicerIsObjectInUse modeOf policerId node with
      | .success =>
        match npu with
        | .success => ({ s with policerTree := s.policerTree.del policerId }, .success)
        | error => (s, error)
      | error => (s, error)

def policerPortLoop (portSet : ObjectId → SaiStatus) : List ObjectId → SaiStatus
  | [] => .success
  | port :: rest =>
    match portSet port with
    | .success => policerPortLoop portSet rest
    | error => error

def policerUpdatePortList (node : Policer) (portSet : PolicerType → ObjectId → SaiStatus) : SaiStatus :=
  match policerPortLoop (portSet .stormFlood) (node.portDllHead .stormFlood) with
  | .success =>
    match policerPortLoop (portSet .stormBcast) (node.portDllHead .stormBcast) with
    | .success => policerPortLoop (portSet .stormMcast) (node.portDllHead .stormMcast)
    | error => error
  | error => error

structure PolicerSetEnv where
  vendor : SaiStatus
  npu : SaiStatus
  aclReinstallNeeded : Bool
  updatePolicerAclRule : SaiStatus
  hwPortListSupported : Bool
  policerPortSet : PolicerType → ObjectId → SaiStatus

/-- The NPU is brought up to date first, for the users of the policer too. -/
def qosPolicerUsersUpdate (policerId : ObjectId) (node : Policer) (env : PolicerSetEnv) : SaiStatus :=
  match modeOf policerId with
  | .trTcm => if env.aclReinstallNeeded then env.updatePolicerAclRule else .success
  | .srTcm => if env.aclReinstallNeeded then env.updatePolicerAclRule else .success
  | .stormControl =>
    if env.hwPortListSupported then .success else policerUpdatePortList node env.policerPortSet
  | .other _ => .success

def qosPolicerAttributeSet (s : PolicerState) (policerId : ObjectId) (attr : PolicerAttr)
    (env : PolicerSetEnv) : PolicerState × SaiStatus :=
  if policerId.objType ≠ .policer then (s, .invalidObjectType)
  else match s.policerTree.get policerId with
    | none => (s, .invalidObjectId)
    | some node =>
      match policerParseUpdateAttributes .zero [attr] .set env.vendor with
      | .error status => (s, status)
      | .ok _ =>
        match env.npu with
        | .success =>
          match qosPolicerUsersUpdate modeOf policerId node env with
          | .success =>
            match policerAttrSet node attr true with
            | .ok next => ({ s with policerTree := s.policerTree.put policerId next }, .success)
            | .error status => (s, status)
          | error => (s, error)
        | error => (s, error)

def Policer.unlinkPort (node : Policer) (type : PolicerType) (portId : ObjectId) : Policer :=
  { node with portDllHead :=
      Function.update node.portDllHead type ((node.portDllHead type).erase portId) }

def Policer.linkPort (node : Policer) (type : PolicerType) (portId : ObjectId) : Policer :=
  { node with portDllHead :=
      Function.update node.portDllHead type (node.portDllHead type ++ [portId]) }

def PolicerPort.setPolicerId (port : PolicerPort) (type : PolicerType) (policerId : ObjectId) : PolicerPort :=
  { port with policerId := Function.update port.policerId type policerId }

/-- `sai_policer_port_storm_control_node_update` when a policer is added: the
port leaves the old policer, if that is still stored, and joins the new one. -/
def policerPortAdd (s : PolicerState) (portId : ObjectId) (port : PolicerPort) (policerId : ObjectId)
    (type : PolicerType) : PolicerState :=
  let oldPolicerId := port.policerId type
  let released := if oldPolicerId ≠ nullObjectId
    then s.policerTree.modify oldPolicerId fun node => node.unlinkPort type portId
    else s.policerTree
  { s with
    portTree := s.portTree.put portId (port.setPolicerId type policerId)
    policerTree := released.modify policerId fun node => node.linkPort type portId }

def policerPortRemove (s : PolicerState) (portId : ObjectId) (port : PolicerPort) (type : PolicerType) :
    PolicerState :=
  { s with
    portTree := s.portTree.put portId (port.setPolicerId type nullObjectId)
    policerTree := s.policerTree.modify (port.policerId type) fun node => node.unlinkPort type portId }

/-- The port attributes that reach the storm-control code. -/
inductive PortPolicerAttr
  | policerId
  | floodStormControl
  | broadcastStormControl
  | multicastStormControl
  | other
deriving DecidableEq

def PortPolicerAttr.stormControlType : PortPolicerAttr → Option PolicerType
  | .floodStormControl => some .stormFlood
  | .broadcastStormControl => some .stormBcast
  | .multicastStormControl => some .stormMcast
  | _ => none

def portStormControlPolicerSet (s : PolicerState) (portId : ObjectId) (attr : PortPolicerAttr)
    (policerId : ObjectId) (portPolicerSupported : Bool) (npu : SaiStatus) : PolicerState × SaiStatus :=
  if attr = .policerId ∧ portPolicerSupported = false then (s, .notSupported)
  else match attr.stormControlType with
    | none => (s, .invalidAttribute 0)
    | some type =>
      match s.portTree.get portId with
      | none => (s, .invalidObjectId)
      | some port =>
        if policerId ≠ nullObjectId then
          if policerId.objType ≠ .policer then (s, .invalidObjectType)
          else if modeOf policerId ≠ .stormControl then (s, .invalidObjectType)
          else match s.policerTree.get policerId with
            | none => (s, .invalidObjectId)
            | some _ =>
              match npu with
              | .success => (policerPortAdd s portId port policerId type, .success)
              | error => (s, error)
        else match s.policerTree.get (port.policerId type) with
          | none => (s, .invalidObjectId)
          | some _ =>
            match npu with
            | .success => (policerPortRemove s portId port type, .success)
            | error => (s, error)

end Mode
end SaiCommon
