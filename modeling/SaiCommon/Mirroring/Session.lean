import SaiCommon.Fib.State
import SaiCommon.Lib.RankedKeys

namespace SaiCommon

inductive MirrorDirection
  | ingress
  | egress
deriving DecidableEq

inductive MirrorType
  | local
  | remote
  | enhancedRemote
  | other (value : Int)
deriving DecidableEq

structure MirrorPortInfo where
  mirrorPort : ObjectId
  mirrorDirection : MirrorDirection
deriving DecidableEq

structure MirrorSessionParams where
  classOfService : BitVec 8
  tpid : BitVec 16
  vlanId : BitVec 16
  vlanPriority : BitVec 8
  encapType : Int
  ipHdrVersion : BitVec 8
  tos : BitVec 8
  ttl : BitVec 8
  srcIp : Option IpAddress
  dstIp : Option IpAddress
  srcMac : Mac
  dstMac : Mac
  greProtocol : BitVec 16
deriving DecidableEq

structure MirrorSession where
  spanType : MirrorType
  monitorPort : ObjectId
  sessionParams : MirrorSessionParams
  sourcePortsTree : Finset MirrorPortInfo
deriving DecidableEq

structure MirrorSessionPerPort where
  sessionId : ObjectId
  mirrorDirection : MirrorDirection
deriving DecidableEq

/-- A port whose traffic in one direction the NPU copies to a session. -/
structure MirrorLink where
  sessionId : ObjectId
  mirrorPort : ObjectId
  mirrorDirection : MirrorDirection
deriving DecidableEq

/-- The sessions, the trees of sessions of the ports (`mirror_sessions_tree` of
the port application info) and what the NPU mirrors. -/
structure MirrorState where
  mirrorSessionsTree : KeyTree ObjectId MirrorSession
  portTrees : KeyTree ObjectId (List MirrorSessionPerPort)
  npuMirrors : MirrorLink → Bool

inductive MirrorAttr
  | type (value : MirrorType)
  | tc (value : BitVec 8)
  | vlanTpid (value : BitVec 16)
  | vlanId (value : BitVec 16)
  | vlanPri (value : BitVec 8)
  | encapType (value : Int)
  | iphdrVersion (value : BitVec 8)
  | tos (value : BitVec 8)
  | ttl (value : BitVec 8)
  | srcIpAddress (value : IpAddress)
  | dstIpAddress (value : IpAddress)
  | srcMacAddress (value : Mac)
  | dstMacAddress (value : Mac)
  | greProtocolType (value : BitVec 16)
  | monitorPort (value : ObjectId)
  | other
deriving DecidableEq

/-- The attributes that are mandatory for some type of session. -/
inductive MirrorAttrKind
  | type
  | vlanTpid
  | vlanId
  | vlanPri
  | encapType
  | iphdrVersion
  | tos
  | srcIpAddress
  | dstIpAddress
  | srcMacAddress
  | dstMacAddress
  | greProtocolType
  | monitorPort
deriving DecidableEq

def MirrorAttr.kind : MirrorAttr → Option MirrorAttrKind
  | .type _ => some .type
  | .vlanTpid _ => some .vlanTpid
  | .vlanId _ => some .vlanId
  | .vlanPri _ => some .vlanPri
  | .encapType _ => some .encapType
  | .iphdrVersion _ => some .iphdrVersion
  | .tos _ => some .tos
  | .srcIpAddress _ => some .srcIpAddress
  | .dstIpAddress _ => some .dstIpAddress
  | .srcMacAddress _ => some .srcMacAddress
  | .dstMacAddress _ => some .dstMacAddress
  | .greProtocolType _ => some .greProtocolType
  | .monitorPort _ => some .monitorPort
  | .tc _ | .ttl _ | .other => none

/-- What the mirror code asks of the other modules and of code that is not in
the repository. -/
structure MirrorLookups where
  isIpAddrZero : IpAddress → Bool
  isValidVlanId : BitVec 16 → Bool
  isVlanCreated : BitVec 16 → Bool
  isPortValid : ObjectId → Bool
  isLagCreated : ObjectId → Bool

def MirrorType.valid : MirrorType → Bool
  | .other _ => false
  | _ => true

/-- `sai_mirror_span_bitmap`, `sai_mirror_rspan_bitmap`, `sai_mirror_erspan_bitmap` -/
def MirrorType.mandatory : MirrorType → List MirrorAttrKind
  | .local => [.monitorPort, .type]
  | .remote => [.monitorPort, .type, .vlanTpid, .vlanId, .vlanPri]
  | .enhancedRemote =>
    [.monitorPort, .type, .vlanTpid, .vlanId, .vlanPri, .encapType, .iphdrVersion, .tos, .srcIpAddress,
      .dstIpAddress, .srcMacAddress, .dstMacAddress, .greProtocolType]
  | .other _ => []

def mirrorIsMandatAttributeMissing (attrs : List MirrorAttr) (spanType : MirrorType) : Bool :=
  spanType.mandatory.any fun kind => decide (some kind ∉ attrs.map MirrorAttr.kind)

def MirrorSession.zero : MirrorSession where
  spanType := .local
  monitorPort := nullObjectId
  sessionParams := ⟨0, 0, 0, 0, 0, 0, 0, 0, none, none, 0, 0, 0⟩
  sourcePortsTree := ∅

/-- `sai_mirror_fill_attribute_params` and `sai_mirror_fill_erspan_attribute_params`.
The type is stored before it is checked. -/
def mirrorFillAttributeParams (lookups : MirrorLookups) (index : Nat) (session : MirrorSession) :
    MirrorAttr → MirrorSession × SaiStatus
  | .type value =>
    ({ session with spanType := value }, if value.valid = false then .invalidAttrValue index else .success)
  | .tc value =>
    ({ session with sessionParams := { session.sessionParams with classOfService := value } }, .success)
  | .vlanTpid value => ({ session with sessionParams := { session.sessionParams with tpid := value } }, .success)
  | .vlanId value =>
    if lookups.isValidVlanId value = false then (session, .invalidAttrValue index)
    else if lookups.isVlanCreated value = false then (session, .invalidAttrValue index)
    else ({ session with sessionParams := { session.sessionParams with vlanId := value } }, .success)
  | .vlanPri value =>
    ({ session with sessionParams := { session.sessionParams with vlanPriority := value } }, .success)
  | .encapType value =>
    ({ session with sessionParams := { session.sessionParams with encapType := value } }, .success)
  | .iphdrVersion value =>
    ({ session with sessionParams := { session.sessionParams with ipHdrVersion := value } }, .success)
  | .tos value => ({ session with sessionParams := { session.sessionParams with tos := value } }, .success)
  | .ttl value => ({ session with sessionParams := { session.sessionParams with ttl := value } }, .success)
  | .srcIpAddress value =>
    if lookups.isIpAddrZero value = true then (session, .invalidAttrValue index)
    else ({ session with sessionParams := { session.sessionParams with srcIp := some value } }, .success)
  | .dstIpAddress value =>
    if lookups.isIpAddrZero value = true then (session, .invalidAttrValue index)
    else ({ session with sessionParams := { session.sessionParams with dstIp := some value } }, .success)
  | .srcMacAddress value =>
    if value = 0 then (session, .invalidAttrValue index)
    else ({ session with sessionParams := { session.sessionParams with srcMac := value } }, .success)
  | .dstMacAddress value =>
    if value = 0 then (session, .invalidAttrValue index)
    else ({ session with sessionParams := { session.sessionParams with dstMac := value } }, .success)
  | .greProtocolType value =>
    ({ session with sessionParams := { session.sessionParams with greProtocol := value } }, .success)
  | .monitorPort value =>
    if value.objType = .port then
      if lookups.isPortValid value = false then (session, .invalidAttrValue index)
      else ({ session with monitorPort := value }, .success)
    else if value.objType = .lag then
      if lookups.isLagCreated value = false then (session, .invalidAttrValue index)
      else ({ session with monitorPort := value }, .success)
    else (session, .invalidAttrValue index)
  | .other => (session, .unknownAttribute index)

structure MirrorCreateEnv where
  allocOk : Bool
  /-- `session_attribs_validate` for the attribute at this index. -/
  validate : Nat → SaiStatus
  npu : SaiStatus
  npuObjectId : Nat
  insertOk : Bool
  sourceTreeOk : Bool

/-- The loop over the attributes of `sai_mirror_session_create`. -/
def mirrorFillLoop (lookups : MirrorLookups) (validate : Nat → SaiStatus) (index : Nat) (session : MirrorSession) :
    List MirrorAttr → Except SaiStatus MirrorSession
  | [] => .ok session
  | attr :: rest =>
    match mirrorFillAttributeParams lookups index session attr with
    | (next, .success) =>
      match validate index with
      | .success => mirrorFillLoop lookups validate (index + 1) next rest
      | error => .error error
    | (_, error) => .error error

section
variable (s : MirrorState)

/-- `session_destroy` of the NPU, which also ends the mirroring to the session. -/
def MirrorState.npuDestroy (sessionId : ObjectId) : MirrorState :=
  { s with npuMirrors := fun link => if link.sessionId = sessionId then false else s.npuMirrors link }

def mirrorSessionCreate (lookups : MirrorLookups) (attrs : List MirrorAttr) (env : MirrorCreateEnv) :
    MirrorState × SaiStatus :=
  if env.allocOk = false then (s, .noMemory)
  else match mirrorFillLoop lookups env.validate 0 .zero attrs with
    | .error status => (s, status)
    | .ok session =>
      if mirrorIsMandatAttributeMissing attrs session.spanType = true then (s, .mandatoryAttributeMissing)
      else match env.npu with
        | .success =>
          let sessionId : ObjectId := ⟨.mirrorSession, env.npuObjectId⟩
          match env.insertOk, s.mirrorSessionsTree.get sessionId with
          | true, none =>
            if env.sourceTreeOk = false then (s.npuDestroy sessionId, .failure)
            else ({ s with mirrorSessionsTree := s.mirrorSessionsTree.put sessionId session }, .success)
          | _, _ => (s.npuDestroy sessionId, .failure)
        | error => (s, error)

def mirrorSessionRemove (sessionId : ObjectId) (npu : SaiStatus) : MirrorState × SaiStatus :=
  if sessionId.objType ≠ .mirrorSession then (s, .invalidObjectType)
  else match s.mirrorSessionsTree.get sessionId with
    | none => (s, .invalidObjectId)
    | some session =>
      if session.sourcePortsTree ≠ ∅ then (s, .objectInUse)
      else match npu with
        | .success =>
          ({ s.npuDestroy sessionId with mirrorSessionsTree := s.mirrorSessionsTree.del sessionId }, .success)
        | error => (s, error)

/-- The attribute is written into the stored session, which gets its old contents
back when the NPU refuses, but not when the attribute is found wrong. -/
def mirrorSessionAttributeSet (lookups : MirrorLookups) (sessionId : ObjectId) (attr : MirrorAttr)
    (npu : SaiStatus) : MirrorState × SaiStatus :=
  if sessionId.objType ≠ .mirrorSession then (s, .invalidObjectType)
  else match s.mirrorSessionsTree.get sessionId with
    | none => (s, .invalidObjectId)
    | some session =>
      match mirrorFillAttributeParams lookups 0 session attr with
      | (next, .success) =>
        match npu with
        | .success => ({ s with mirrorSessionsTree := s.mirrorSessionsTree.put sessionId next }, .success)
        | error => (s, error)
      | (next, error) => ({ s with mirrorSessionsTree := s.mirrorSessionsTree.put sessionId next }, error)

end

end SaiCommon
