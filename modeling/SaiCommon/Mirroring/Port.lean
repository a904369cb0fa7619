import SaiCommon.Mirroring.Session

namespace SaiCommon

structure MirrorAddEnv where
  allocOk : Bool
  npu : SaiStatus
  insertOk : Bool
  /-- The NPU's answer when the addition is taken back. -/
  npuUndo : SaiStatus

structure MirrorPortEnv where
  portNodeOk : Bool
  portTreeOk : Bool
  /-- The addition of the session at this index of the list. -/
  add : Nat → MirrorAddEnv
  callocOk : Nat → Bool
  insertOk : Nat → Bool
  /-- The NPU's answer when a session is taken off the port. -/
  remove : ObjectId → SaiStatus

section
variable (s : MirrorState) (isPortValid : ObjectId → Bool)

def MirrorState.npuPut (link : MirrorLink) (mirrored : Bool) : MirrorState :=
  { s with npuMirrors := Function.update s.npuMirrors link mirrored }

def MirrorState.putSources (sessionId : ObjectId) (session : MirrorSession) (sources : Finset MirrorPortInfo) :
    MirrorState :=
  { s with mirrorSessionsTree := s.mirrorSessionsTree.put sessionId { session with sourcePortsTree := sources } }

/-- The NPU removes a port from a session, or refuses to. -/
def MirrorState.npuPortRemove (link : MirrorLink) (npu : SaiStatus) : MirrorState :=
  if npu = .success then s.npuPut link false else s

def mirrorSessionPortAdd (sessionId mirrorPortId : ObjectId) (direction : MirrorDirection) (env : MirrorAddEnv) :
    MirrorState × SaiStatus :=
  if sessionId.objType ≠ .mirrorSession then (s, .invalidObjectType)
  else if isPortValid mirrorPortId = false then (s, .invalidObjectId)
  else match s.mirrorSessionsTree.get sessionId with
    | none => (s, .invalidObjectId)
    | some session =>
      let source : MirrorPortInfo := ⟨mirrorPortId, direction⟩
      let link : MirrorLink := ⟨sessionId, mirrorPortId, direction⟩
      if source ∈ session.sourcePortsTree then (s, .itemAlreadyExists)
      else if env.allocOk = false then (s, .noMemory)
      else match env.npu with
        | .success =>
          if env.insertOk = false then ((s.npuPut link true).npuPortRemove link env.npuUndo, .failure)
          else ((s.npuPut link true).putSources sessionId session (insert source session.sourcePortsTree), .success)
        | error => (s, error)

def mirrorSessionPortRemove (sessionId mirrorPortId : ObjectId) (direction : MirrorDirection) (npu : SaiStatus) :
    MirrorState × SaiStatus :=
  if sessionId.objType ≠ .mirrorSession then (s, .invalidObjectType)
  else if isPortValid mirrorPortId = false then (s, .invalidObjectId)
  else match s.mirrorSessionsTree.get sessionId with
    | none => (s, .invalidObjectId)
    | some session =>
      let source : MirrorPortInfo := ⟨mirrorPortId, direction⟩
      let link : MirrorLink := ⟨sessionId, mirrorPortId, direction⟩
      if source ∉ session.sourcePortsTree then (s, .itemNotFound)
      else match npu with
        | .success =>
          ((s.npuPut link false).putSources sessionId session (session.sourcePortsTree.erase source), .success)
        | error => (s, error)

def MirrorState.portSessions (portId : ObjectId) : List MirrorSessionPerPort := (s.portTrees.get portId).getD []

def MirrorState.putPortTree (portId : ObjectId) (tree : List MirrorSessionPerPort) : MirrorState :=
  { s with portTrees := s.portTrees.put portId tree }

variable (order : KeyRank MirrorSessionPerPort) (portId : ObjectId) (direction : MirrorDirection)

/-- One round of the loop over the sessions that a port is to have. -/
def mirrorPortAddSession (env : MirrorPortEnv) (index : Nat) (sessionId : ObjectId) : MirrorState × SaiStatus :=
  let node : MirrorSessionPerPort := ⟨sessionId, direction⟩
  if node ∈ s.portSessions portId then (s, .success)
  else match mirrorSessionPortAdd s isPortValid sessionId portId direction (env.add index) with
    | (s, .success) =>
      if env.callocOk index = false then (s, .noMemory)
      else if env.insertOk index = false then
        ((mirrorSessionPortRemove s isPortValid sessionId portId direction (env.add index).npuUndo).1, .failure)
      else (s.putPortTree portId (order.insert node (s.portSessions portId)), .success)
    | (s, error) => (s, error)

def mirrorPortAddLoop (env : MirrorPortEnv) (s : MirrorState) (index : Nat) : List ObjectId → MirrorState × SaiStatus
  | [] => (s, .success)
  | sessionId :: rest =>
    match mirrorPortAddSession s isPortValid order portId direction env index sessionId with
    | (s, .success) => mirrorPortAddLoop env s (index + 1) rest
    | (s, error) => (s, error)

/-- One visit of the walk over a port's tree: a session of this direction that is
not listed leaves it. -/
def mirrorPortVisit (sessions : List ObjectId) (env : MirrorPortEnv) (node : MirrorSessionPerPort) (s : MirrorState) :
    MirrorState × SaiStatus :=
  if node.mirrorDirection ≠ direction then (s, .success)
  else if node.sessionId ∈ sessions then (s, .success)
  else match mirrorSessionPortRemove s isPortValid node.sessionId portId direction (env.remove node.sessionId) with
    | (s, .success) => (s.putPortTree portId (KeyRank.remove node (s.portSessions portId)), .success)
    | (s, error) => (s, error)

/-- `sai_mirror_remove_mirror_per_port`, with the port's node and tree there. An
empty tree is destroyed. -/
def mirrorRemoveMirrorPerPort (sessions : List ObjectId) (env : MirrorPortEnv) : MirrorState × SaiStatus :=
  let tree := s.portSessions portId
  let walked := order.walk .success (fun s => s.portSessions portId)
    (mirrorPortVisit isPortValid portId direction sessions env) tree.length tree.head? s
  (if walked.1.portSessions portId = [] then { walked.1 with portTrees := walked.1.portTrees.del portId }
    else walked.1, walked.2)

def mirrorHandlePerPort (sessions : List ObjectId) (env : MirrorPortEnv) : MirrorState × SaiStatus :=
  if env.portNodeOk = false then (s, .failure)
  else if s.portTrees.get portId = none ∧ env.portTreeOk = false then (s, .failure)
  else
    let s := s.putPortTree portId (s.portSessions portId)
    match mirrorPortAddLoop isPortValid order portId direction env s 0 sessions with
    | (s, .success) => mirrorRemoveMirrorPerPort s isPortValid order portId direction sessions env
    | (s, error) => (s, error)

end

end SaiCommon
