import SaiCommon.Fib.Vrf

namespace SaiCommon

inductive RifAttr
  | virtualRouterId (vrId : ObjectId)
  | type (rifType : RifType)
  | portId (portId : ObjectId)
  | vlanId (vlanId : BitVec 16)
  | srcMacAddress (mac : Mac)
  | adminV4State (state : Bool)
  | adminV6State (state : Bool)
  | mtu (mtu : BitVec 32)
  | other
deriving DecidableEq

def fibRifMaxAttrCount : Nat := 8

def fibRifMandatoryAttrCount : Nat := 3

structure RifDefaults where
  v4AdminState : Bool
  v6AdminState : Bool
  mtu : BitVec 32
  ipOptPktAction : PacketAction
deriving DecidableEq

structure RifCreateEnv where
  allocOk : Bool
  vlanCreated : BitVec 16 → Bool
  validate : Nat → SaiStatus
  npu : SaiStatus
  npuObjectId : Nat
  treeOk : Bool

@[grind =] def fibIsRifTypeValid (rifType : RifType) : Bool := rifType = .port || rifType = .vlan

@[grind =]
def fibRifIsAttrMandatoryForCreate : RifAttr → Bool
  | .virtualRouterId _ => true
  | .type _ => true
  | .portId _ => true
  | .vlanId _ => true
  | _ => false

def fibRifPortOrVlanIdGet (rif : Rif) : ObjectId :=
  if rif.rifType = .port then rif.attachment.portId else ⟨.null, rif.attachment.vlanId.toNat⟩

def fibRifIsAttachmentLag (rif : Rif) : Bool :=
  rif.rifType = .port && rif.attachment.portId.objType = .lag

def isLagCreated (s : FibState) (lagId : ObjectId) : Bool := (s.lagTree.get lagId).isSome

def isPortValid (s : FibState) (portId : ObjectId) : Bool := (s.portTree.get portId).isSome

/-- What the loop over the attributes of a create keeps: the node with the
flags and the last type seen. -/
structure RifParse where
  node : Rif
  isPortSet : Bool
  isVlanSet : Bool
  isVrfSet : Bool
  type : RifType
  v4StateSet : Bool
  v6StateSet : Bool
  srcMacSet : Bool
deriving DecidableEq

@[grind =] def fibRifCreateAttrValidate (parse : RifParse) (attr : RifAttr) : Except SaiStatus RifParse :=
  match attr with
  | .virtualRouterId _ => .ok { parse with isVrfSet := true }
  | .type _ =>
    if parse.isPortSet ∧ parse.type = .vlan ∨ parse.isVlanSet ∧ parse.type = .port then
      .error (.invalidAttribute 0)
    else .ok parse
  | .portId _ =>
    if parse.isVlanSet ∨ parse.type = .vlan then .error (.invalidAttribute 0)
    else .ok { parse with isPortSet := true }
  | .vlanId _ =>
    if parse.isPortSet ∨ parse.type = .port then .error (.invalidAttribute 0)
    else .ok { parse with isVlanSet := true }
  | _ => .ok parse

section Attributes
variable (p : Platform)

@[grind =] def fibRifPortIdSet (s : FibState) (node : Rif) (portId : ObjectId) : Except SaiStatus Rif :=
  let isPort := portId.objType = .port
  let isLag := portId.objType = .lag
  if ¬ isLag ∧ ¬ isPort then .error (.invalidAttrValue 0)
  else if isLag ∧ isLagCreated s portId = false ∨
      isPort ∧ ¬ (isPortValid s portId = true ∧ portId ≠ p.cpuPort) then
    .error (.invalidAttrValue 0)
  else .ok { node with attachment := .port portId }

@[grind =] def fibRifVlanIdSet (vlanCreated : BitVec 16 → Bool) (node : Rif) (vlanId : BitVec 16) :
    Except SaiStatus Rif :=
  if p.isValidVlanId vlanId = false then .error (.invalidAttrValue 0)
  else if vlanCreated vlanId = false then .error (.invalidAttrValue 0)
  else .ok { node with attachment := .vlan vlanId }

@[grind =] def fibRifVrfAttrSet (s : FibState) (node : Rif) (vrId : ObjectId) : Except SaiStatus Rif :=
  if vrId.objType ≠ .virtualRouter then .error (.invalidAttrValue 0)
  else match fibVrfNodeGet s vrId with
    | none => .error (.invalidAttrValue 0)
    | some _ => .ok { node with vrfId := vrId }

@[grind =] def fibRifTypeAttrSet (node : Rif) (rifType : RifType) : Except SaiStatus Rif :=
  if fibIsRifTypeValid rifType then .ok { node with rifType := rifType }
  else .error (.invalidAttrValue 0)

@[grind =]
def fibRifCreateAttrSet (s : FibState) (vlanCreated : BitVec 16 → Bool) (node : Rif) :
    RifAttr → Except SaiStatus Rif
  | .virtualRouterId vrId => fibRifVrfAttrSet s node vrId
  | .type rifType => fibRifTypeAttrSet node rifType
  | .portId portId => fibRifPortIdSet p s node portId
  | .vlanId vlanId => fibRifVlanIdSet p vlanCreated node vlanId
  | _ => .error (.unknownAttribute 0)

@[grind =]
def fibRifOptionalAttrSet (node : Rif) : RifAttr → Except SaiStatus Rif
  | .srcMacAddress mac =>
    if mac = 0 then .error (.invalidAttrValue 0) else .ok { node with srcMac := mac }
  | .adminV4State state => .ok { node with v4AdminState := state }
  | .adminV6State state => .ok { node with v6AdminState := state }
  | .mtu mtu => .ok { node with mtu := mtu }
  | _ => .error (.unknownAttribute 0)

/-- The flags that `sai_fib_rif_optional_attr_set` raises. -/
@[grind =]
def RifParse.flag (parse : RifParse) : RifAttr → RifParse
  | .srcMacAddress _ => { parse with srcMacSet := true }
  | .adminV4State _ => { parse with v4StateSet := true }
  | .adminV6State _ => { parse with v6StateSet := true }
  | _ => parse

def fibRifAttributesInit (defaults : RifDefaults) : Rif where
  vrfId := nullObjectId
  rifType := .none
  attachment := .port nullObjectId
  srcMac := p.switchMac
  v4AdminState := defaults.v4AdminState
  v6AdminState := defaults.v6AdminState
  mtu := defaults.mtu
  ipOptionsPktAction := defaults.ipOptPktAction
  refCount := 0

/-- One round of the loop, up to the NPU's own validation. -/
@[grind =] def fibRifAttributeParse (s : FibState) (vlanCreated : BitVec 16 → Bool) (parse : RifParse)
    (attr : RifAttr) : Except SaiStatus RifParse :=
  if fibRifIsAttrMandatoryForCreate attr then
    let type := match attr with
      | .type rifType => rifType
      | _ => parse.node.rifType
    match fibRifCreateAttrValidate { parse with type := type } attr with
    | .error error => .error error
    | .ok valid =>
      match fibRifCreateAttrSet p s vlanCreated valid.node attr with
      | .error error => .error error
      | .ok node => .ok { valid with node := node }
  else match fibRifOptionalAttrSet parse.node attr with
    | .error error => .error error
    | .ok node => .ok ({ parse with node := node }.flag attr)

def fibRifAttributesLoop (s : FibState) (env : RifCreateEnv) :
    List RifAttr → Nat → RifParse → Except SaiStatus RifParse
  | [], _, parse => .ok parse
  | attr :: rest, listIdx, parse =>
    match fibRifAttributeParse p s env.vlanCreated parse attr with
    | .error error => .error (fibAttrStatusCodeGet error listIdx)
    | .ok next =>
      match env.validate listIdx with
      | .success => fibRifAttributesLoop s env rest (listIdx + 1) next
      | error => .error (fibAttrStatusCodeGet error listIdx)

def fibRifInheritVrfAttributes (s : FibState) (parse : RifParse) : Rif :=
  match fibVrfNodeGet s parse.node.vrfId with
  | none => parse.node
  | some vrf =>
    { parse.node with
      v4AdminState := if parse.v4StateSet then parse.node.v4AdminState else vrf.v4AdminState
      v6AdminState := if parse.v6StateSet then parse.node.v6AdminState else vrf.v6AdminState
      srcMac := if parse.srcMacSet then parse.node.srcMac else vrf.srcMac
      ipOptionsPktAction := vrf.ipOptionsPktAction }

/-- Some stored router interface has the type, the attachment and the source
MAC of this one. -/
def fibRifIsDuplicate (s : FibState) (rif : Rif) : Bool :=
  s.routerInterfaceTree.tally (fun _ db => rif.rifType = db.rifType ∧
    fibRifPortOrVlanIdGet rif = fibRifPortOrVlanIdGet db ∧ rif.srcMac = db.srcMac) ≠ 0

def fibRifAttributesParse (s : FibState) (defaults : RifDefaults) (attrs : List RifAttr)
    (env : RifCreateEnv) : Except SaiStatus Rif :=
  let init : RifParse := ⟨fibRifAttributesInit p defaults, false, false, false, .none, false, false, false⟩
  match fibRifAttributesLoop p s env attrs 0 init with
  | .error error => .error error
  | .ok parse =>
    if parse.isPortSet = false ∧ parse.isVlanSet = false ∨ parse.isVrfSet = false ∨ parse.type = .none then
      .error .mandatoryAttributeMissing
    else
      let rif := fibRifInheritVrfAttributes s parse
      if fibRifIsDuplicate s rif then .error .itemAlreadyExists else .ok rif

end Attributes

def portForwardModeGet (s : FibState) (portId : ObjectId) : Option PortFwdMode := s.portTree.get portId

def portForwardModeSet (s : FibState) (portId : ObjectId) (mode : PortFwdMode) : FibState :=
  { s with portTree := s.portTree.modify portId fun _ => mode }

def portRoutingModeSet (s : FibState) (portId : ObjectId) : FibState × SaiStatus :=
  match portForwardModeGet s portId with
  | none => (s, .invalidObjectId)
  | some .switching => (s, .objectInUse)
  | some .unknown => (portForwardModeSet s portId .routing, .success)
  | some .routing => (s, .success)

def portRoutingModeReset (s : FibState) (portId : ObjectId) : FibState × SaiStatus :=
  match portForwardModeGet s portId with
  | none => (s, .invalidObjectId)
  | some .unknown => (s, .success)
  | some _ => (portForwardModeSet s portId .unknown, .success)

def portRoutingModeUpdate (isSet : Bool) (s : FibState) (portId : ObjectId) : FibState × SaiStatus :=
  if isSet then portRoutingModeSet s portId else portRoutingModeReset s portId

/-- The clean-up loop; what its calls return is ignored. -/
def portListRoutingModeUndo (isSet : Bool) (s : FibState) : List ObjectId → FibState
  | [] => s
  | portId :: rest => portListRoutingModeUndo isSet (portRoutingModeUpdate (!isSet) s portId).1 rest

/-- The loop over the ports; `done` are the ports before `port_index`. -/
def portListRoutingModeLoop (isSet : Bool) (s : FibState) (done : List ObjectId) :
    List ObjectId → FibState × SaiStatus
  | [] => (s, .success)
  | portId :: rest =>
    match portRoutingModeUpdate isSet s portId with
    | (t, .success) => portListRoutingModeLoop isSet t (done ++ [portId]) rest
    | (t, error) => (portListRoutingModeUndo isSet t done, error)

def portListRoutingModeUpdate (s : FibState) (ports : List ObjectId) (isSet : Bool) : FibState × SaiStatus :=
  portListRoutingModeLoop isSet s [] ports

def lagPortListGet (s : FibState) (lagId : ObjectId) : Option (List ObjectId) :=
  (s.lagTree.get lagId).map fun lag => lag.members.map LagMember.portId

def fibRifRoutingConfigUpdate (s : FibState) (rif : Rif) (isSet : Bool) : FibState × SaiStatus :=
  if rif.rifType = .vlan then (s, .success)
  else
    let oid := rif.attachment.portId
    if oid.objType = .lag then
      match lagPortListGet s oid with
      | none => (s, .itemNotFound)
      | some ports => if ports = [] then (s, .success) else portListRoutingModeUpdate s ports isSet
    else portListRoutingModeUpdate s [oid] isSet

def lagUpdateRifId (s : FibState) (lagId rifId : ObjectId) : FibState :=
  { s with lagTree := s.lagTree.modify lagId fun lag => { lag with rifId := rifId } }

def fibRifInsert (s : FibState) (rifId : ObjectId) (rif : Rif) (treeOk : Bool) : FibState × SaiStatus :=
  match fibVrfRifListUpdate s rif.vrfId true with
  | (t, .success) =>
    match treeOk, t.routerInterfaceTree.get rifId with
    | true, none => ({ t with routerInterfaceTree := t.routerInterfaceTree.put rifId rif }, .success)
    | _, _ => ((fibVrfRifListUpdate t rif.vrfId false).1, .failure)
  | (t, error) => (t, error)

def fibRouterInterfaceCreate (p : Platform) (s : FibState) (defaults : RifDefaults) (attrs : List RifAttr)
    (env : RifCreateEnv) : FibState × SaiStatus :=
  if attrs.length < fibRifMandatoryAttrCount ∨ attrs.length > fibRifMaxAttrCount then (s, .invalidParameter)
  else if env.allocOk = false then (s, .noMemory)
  else match fibRifAttributesParse p s defaults attrs env with
    | .error error => (s, error)
    | .ok rif =>
      match fibRifRoutingConfigUpdate s rif true with
      | (set, .success) =>
        match env.npu with
        | .success =>
          let rifId : ObjectId := ⟨.routerInterface, env.npuObjectId⟩
          match fibRifInsert set rifId rif env.treeOk with
          | (t, .success) =>
            (if fibRifIsAttachmentLag rif then lagUpdateRifId t rif.attachment.portId rifId else t, .success)
          | (t, error) => ((fibRifRoutingConfigUpdate t rif false).1, error)
        | error => ((fibRifRoutingConfigUpdate set rif false).1, error)
      | (t, error) => (t, error)

def fibRouterInterfaceRemove (s : FibState) (rifId : ObjectId) (npu : SaiStatus) : FibState × SaiStatus :=
  if rifId.objType ≠ .routerInterface then (s, .invalidObjectType)
  else match fibRouterInterfaceNodeGet s rifId with
    | none => (s, .invalidObjectId)
    | some rif =>
      if rif.refCount ≠ 0 then (s, .objectInUse)
      else match npu with
        | .success =>
          let listed := (fibVrfRifListUpdate s rif.vrfId false).1
          let removed := { listed with routerInterfaceTree := listed.routerInterfaceTree.del rifId }
          let t := (fibRifRoutingConfigUpdate removed rif false).1
          (if fibRifIsAttachmentLag rif then lagUpdateRifId t rif.attachment.portId nullObjectId else t,
            .success)
        | error => (s, error)

/-- A set that changes nothing does not reach the NPU. -/
def fibRouterInterfaceAttributeSet (s : FibState) (rifId : ObjectId) (attr : RifAttr)
    (validate npu : SaiStatus) : FibState × SaiStatus :=
  if rifId.objType ≠ .routerInterface then (s, .invalidObjectType)
  else match fibRouterInterfaceNodeGet s rifId with
    | none => (s, .invalidObjectId)
    | some rif =>
      if fibRifIsAttrMandatoryForCreate attr then (s, .invalidAttribute 0)
      else match validate with
        | .success =>
          match fibRifOptionalAttrSet rif attr with
          | .error error => (s, error)
          | .ok parsed =>
            if parsed = rif then (s, .success)
            else match npu with
              | .success =>
                ({ s with routerInterfaceTree := s.routerInterfaceTree.put rifId parsed }, .success)
              | error => (s, error)
        | error => (s, error)

/-- `sai_rif_lag_member_update`, with the two locked parts as one. -/
def rifLagMemberUpdate (s : FibState) (rifId lagId : ObjectId) (ports : List ObjectId) (isAdd : Bool)
    (npu : SaiStatus) : FibState × SaiStatus :=
  if ports = [] then (s, .invalidParameter)
  else match portListRoutingModeUpdate s ports isAdd with
    | (t, .success) =>
      let status := match fibRouterInterfaceNodeGet t rifId with
        | none => .invalidObjectId
        | some rif => if rif.attachment.portId ≠ lagId then .failure else npu
      if status ≠ .success then ((portListRoutingModeUpdate t ports (!isAdd)).1, status)
      else (t, .success)
    | (t, error) => (t, error)

inductive LagOperation
  | addPorts
  | delPorts
  | other
deriving DecidableEq

def rifLagCallback (s : FibState) (lagId rifId : ObjectId) (ports : List ObjectId)
    (lagOpcode : LagOperation) (npu : SaiStatus) : FibState × SaiStatus :=
  if lagOpcode ≠ .addPorts ∧ lagOpcode ≠ .delPorts then (s, .success)
  else rifLagMemberUpdate s rifId lagId ports (lagOpcode = .addPorts) npu

end SaiCommon
