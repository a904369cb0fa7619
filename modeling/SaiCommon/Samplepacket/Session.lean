import SaiCommon.Lib.KeyTree
import SaiCommon.Base

namespace SaiCommon

inductive SampleDirection
  | ingress
  | egress
deriving DecidableEq

inductive SampleMode
  | portBased
  | flowBased
deriving DecidableEq

structure SamplePortKey where
  samplepacketPort : ObjectId
  samplepacketDirection : SampleDirection
deriving DecidableEq

/-- A node of a session's port tree with the two bits of `sample_mode`. `freed`
says that its memory was given back. -/
structure SamplePortNode where
  portBased : Bool
  flowBased : Bool
  refCount : Int
  freed : Bool
deriving DecidableEq

def SamplePortNode.zero : SamplePortNode := ⟨false, false, 0, false⟩

structure SampleSession where
  samplingType : Int
  sampleRate : BitVec 32
  portTree : KeyTree SamplePortKey SamplePortNode

structure SampleState where
  sessionTree : KeyTree ObjectId SampleSession

inductive SampleAttr
  | type (value : Int)
  | sampleRate (value : BitVec 32)
  | other
deriving DecidableEq

structure SamplePlatform where
  /-- `SAI_SAMPLEPACKET_SLOW_PATH` -/
  slowPath : Int

structure SampleCreateEnv where
  allocOk : Bool
  npu : SaiStatus
  npuObjectId : Nat
  insertOk : Bool
  portTreeOk : Bool

structure SampleAddEnv where
  allocOk : Bool
  insertOk : Bool
  npu : SaiStatus
deriving DecidableEq

def samplepacketFillAttributeParams (platform : SamplePlatform) (index : Nat) (session : SampleSession) :
    SampleAttr → Except SaiStatus SampleSession
  | .type value =>
    if value ≠ platform.slowPath then .error (.invalidAttrValue index) else .ok { session with samplingType := value }
  | .sampleRate value =>
    if value = 0 then .error (.invalidAttrValue index) else .ok { session with sampleRate := value }
  | .other => .error (.unknownAttribute index)

/-- The loop over the attributes of `sai_samplepacket_session_create`. -/
def samplepacketFillLoop (platform : SamplePlatform) (index : Nat) (session : SampleSession) :
    List SampleAttr → Except SaiStatus SampleSession
  | [] => .ok session
  | attr :: rest =>
    match samplepacketFillAttributeParams platform index session attr with
    | .error status => .error status
    | .ok next => samplepacketFillLoop platform (index + 1) next rest

def SampleAttr.isSampleRate : SampleAttr → Bool
  | .sampleRate _ => true
  | _ => false

section
variable (s : SampleState)

def samplepacketSessionCreate (platform : SamplePlatform) (attrs : List SampleAttr) (env : SampleCreateEnv) :
    SampleState × SaiStatus :=
  if env.allocOk = false then (s, .noMemory)
  else match samplepacketFillLoop platform 0 ⟨0, 0, ∅⟩ attrs with
    | .error status => (s, status)
    | .ok session =>
      if attrs.any SampleAttr.isSampleRate = false then (s, .mandatoryAttributeMissing)
      else match env.npu with
        | .success =>
          let sessionId : ObjectId := ⟨.samplePacket, env.npuObjectId⟩
          match env.insertOk, s.sessionTree.get sessionId with
          | true, none =>
            if env.portTreeOk = false then (s, .failure)
            else ({ s with sessionTree := s.sessionTree.put sessionId session }, .success)
          | _, _ => (s, .failure)
        | error => (s, error)

def samplepacketSessionRemove (sessionId : ObjectId) (npu : SaiStatus) : SampleState × SaiStatus :=
  if sessionId.objType ≠ .samplePacket then (s, .invalidObjectType)
  else match s.sessionTree.get sessionId with
    | none => (s, .invalidObjectId)
    | some session =>
      if session.portTree ≠ ∅ then (s, .objectInUse)
      else match npu with
        | .success => ({ s with sessionTree := s.sessionTree.del sessionId }, .success)
        | error => (s, error)

def SampleState.putPorts (sessionId : ObjectId) (session : SampleSession)
    (portTree : KeyTree SamplePortKey SamplePortNode) : SampleState :=
  { s with sessionTree := s.sessionTree.put sessionId { session with portTree := portTree } }

/-- The part of `sai_samplepacket_session_port_add` that goes to the NPU, with
the node already in the tree. A node is freed after every failure, and taken out
of the tree before only when its other mode, as far as that is looked at, does
not use it. -/
def samplepacketPortTreeAdd (tree : KeyTree SamplePortKey SamplePortNode) (key : SamplePortKey)
    (node : SamplePortNode) (mode : SampleMode) (npu : SaiStatus) :
    KeyTree SamplePortKey SamplePortNode × SaiStatus :=
  match mode, npu with
  | .portBased, .success => (tree.put key { node with portBased := true }, .success)
  | .portBased, error =>
    if node.refCount = 0 then (tree.del key, error) else (tree.put key { node with freed := true }, error)
  | .flowBased, .success => (tree.put key { node with refCount := node.refCount + 1, flowBased := true }, .success)
  | .flowBased, error =>
    if node.portBased = false ∧ node.refCount = 0 then (tree.del key, error)
    else (tree.put key { node with freed := true }, error)

def samplepacketSessionPortAdd (sessionId portId : ObjectId) (direction : SampleDirection) (mode : SampleMode)
    (env : SampleAddEnv) : SampleState × SaiStatus :=
  if sessionId.objType ≠ .samplePacket then (s, .invalidObjectType)
  else match s.sessionTree.get sessionId with
    | none => (s, .invalidObjectId)
    | some session =>
      let key : SamplePortKey := ⟨portId, direction⟩
      match session.portTree.get key with
      | none =>
        if env.allocOk = false then (s, .noMemory)
        else if env.insertOk = false then (s, .failure)
        else
          let (portTree, status) := samplepacketPortTreeAdd session.portTree key .zero mode env.npu
          (s.putPorts sessionId session portTree, status)
      | some node =>
        if mode = .portBased ∧ node.portBased = true then (s, .itemAlreadyExists)
        else if mode = .flowBased ∧ node.flowBased = true then
          (s.putPorts sessionId session
            (session.portTree.put key { node with refCount := node.refCount + 1 }), .success)
        else
          let (portTree, status) := samplepacketPortTreeAdd session.portTree key node mode env.npu
          (s.putPorts sessionId session portTree, status)

/-- The end of `sai_samplepacket_session_port_remove`: the node is freed, and
leaves the tree before when its count is zero. -/
def samplepacketPortTreeRelease (tree : KeyTree SamplePortKey SamplePortNode) (key : SamplePortKey)
    (node : SamplePortNode) : KeyTree SamplePortKey SamplePortNode :=
  if node.refCount = 0 then tree.del key else tree.put key { node with freed := true }

def samplepacketSessionPortRemove (sessionId portId : ObjectId) (direction : SampleDirection) (mode : SampleMode)
    (npu : SaiStatus) : SampleState × SaiStatus :=
  if sessionId.objType ≠ .samplePacket then (s, .invalidObjectType)
  else match s.sessionTree.get sessionId with
    | none => (s, .invalidObjectId)
    | some session =>
      let key : SamplePortKey := ⟨portId, direction⟩
      match session.portTree.get key with
      | none => (s, .itemNotFound)
      | some node =>
        match mode with
        | .portBased =>
          match npu with
          | .success => (s.putPorts sessionId session (samplepacketPortTreeRelease session.portTree key node), .success)
          | error => (s, error)
        | .flowBased =>
          let lowered := { node with refCount := node.refCount - 1 }
          if lowered.refCount = 0 then
            match npu with
            | .success =>
              (s.putPorts sessionId session
                (samplepacketPortTreeRelease session.portTree key { lowered with flowBased := false }), .success)
            | error => (s.putPorts sessionId session (session.portTree.put key lowered), error)
          else (s.putPorts sessionId session (session.portTree.put key lowered), .objectInUse)

end

end SaiCommon
