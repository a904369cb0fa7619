import SaiCommon.Fib.RouterInterface

namespace SaiCommon

inductive LagMemberAttr
  | lagId (lagId : ObjectId)
  | portId (portId : ObjectId)
  | egressDisable (value : Bool)
  | ingressDisable (value : Bool)
  | other
deriving DecidableEq

structure LagMemberParse where
  lag : Option ObjectId
  portId : Option ObjectId
  ingDisable : Option Bool
  egrDisable : Option Bool
deriving DecidableEq

/-- A second LAG or port id does not replace the first; the status that a
different one sets is overwritten before it is read. -/
def lagMemberAttributesLoop (parse : LagMemberParse) : List LagMemberAttr → Except SaiStatus LagMemberParse
  | [] => .ok parse
  | .lagId lagId :: rest =>
    lagMemberAttributesLoop { parse with lag := some (parse.lag.getD lagId) } rest
  | .portId portId :: rest =>
    lagMemberAttributesLoop { parse with portId := some (parse.portId.getD portId) } rest
  | .egressDisable value :: rest => lagMemberAttributesLoop { parse with egrDisable := some value } rest
  | .ingressDisable value :: rest => lagMemberAttributesLoop { parse with ingDisable := some value } rest
  | .other :: _ => .error (.unknownAttribute 0)

def isPortLagMember (s : FibState) (lagId portId : ObjectId) : Bool :=
  match s.lagTree.get lagId with
  | none => false
  | some lag => portId ∈ lag.members.map LagMember.portId

def isPortPartOfDifferentLag (s : FibState) (lagId portId : ObjectId) : Bool :=
  s.lagTree.tally (fun other lag => other ≠ lagId ∧ portId ∈ lag.members.map LagMember.portId) ≠ 0

def lagPortNodeAdd (s : FibState) (lagId portId memberId : ObjectId) : FibState :=
  { s with lagTree := s.lagTree.modify lagId fun lag =>
    { lag with members := lag.members ++ [⟨memberId, portId⟩] } }

def lagPortNodeRemove (s : FibState) (lagId portId : ObjectId) : FibState :=
  { s with lagTree := s.lagTree.modify lagId fun lag =>
    { lag with members := lag.members.filter fun m => m.portId ≠ portId } }

structure LagMemberEnv where
  npuAdd : SaiStatus
  memberId : Nat
  nodeAdd : SaiStatus
  ingDisable : Bool → SaiStatus
  egrDisable : Bool → SaiStatus
  rifNpu : SaiStatus

def lagRifNotify (s : FibState) (lagId : ObjectId) (lagOperation : LagOperation) (ports : List ObjectId)
    (rifNpu : SaiStatus) : FibState × SaiStatus :=
  match s.lagTree.get lagId with
  | none => (s, .success)
  | some lag =>
    if lag.rifId.objType = .routerInterface then rifLagCallback s lagId lag.rifId ports lagOperation rifNpu
    else (s, .success)

def l2ValidateLagPortAdd (s : FibState) (lagId portId : ObjectId) : SaiStatus :=
  if isPortValid s portId = false then .invalidParameter
  else if isLagCreated s lagId = false then .itemNotFound
  else if isPortLagMember s lagId portId then .itemAlreadyExists
  else if isPortPartOfDifferentLag s lagId portId then .invalidPortMember
  else match portForwardModeGet s portId with
    | none => .objectInUse
    | some .routing => .objectInUse
    | some _ => .success

def l2AddLagPort (s : FibState) (lagId portId : ObjectId) (env : LagMemberEnv) : FibState × SaiStatus :=
  match env.npuAdd with
  | .success =>
    match env.nodeAdd with
    | .success => (lagPortNodeAdd s lagId portId ⟨.null, env.memberId⟩, .success)
    | error => (s, error)
  | error => (s, error)

/-- The NPU's answer is only passed on. -/
def l2RemoveLagPort (s : FibState) (lagId portId : ObjectId) : FibState :=
  lagPortNodeRemove s lagId portId

/-- The two flags of a member that has been added, if they were given. -/
def l2LagPortFlagsSet (parse : LagMemberParse) (env : LagMemberEnv) : SaiStatus :=
  match (parse.ingDisable.map env.ingDisable).getD .success with
  | .success => (parse.egrDisable.map env.egrDisable).getD .success
  | error => error

def l2CreateLagMember (s : FibState) (attrs : List LagMemberAttr) (env : LagMemberEnv) : FibState × SaiStatus :=
  match lagMemberAttributesLoop ⟨none, none, none, none⟩ attrs with
  | .error error => (s, error)
  | .ok parse =>
    match parse.lag, parse.portId with
    | some lagId, some portId =>
      match l2ValidateLagPortAdd s lagId portId with
      | .success =>
        match l2AddLagPort s lagId portId env with
        | (t, .success) =>
          match l2LagPortFlagsSet parse env with
          | .success =>
            match lagRifNotify t lagId .addPorts [portId] env.rifNpu with
            | (u, .success) => (u, .success)
            | (u, error) => (l2RemoveLagPort u lagId portId, error)
          | error => (l2RemoveLagPort t lagId portId, error)
        | (t, error) => (t, error)
      | error => (s, error)
    | _, _ => (s, .mandatoryAttributeMissing)

def lagMemberPort (s : FibState) (lagId memberId : ObjectId) : Option ObjectId :=
  match s.lagTree.get lagId with
  | none => none
  | some lag => (lag.members.find? fun m => m.memberId = memberId).map LagMember.portId

/-- The LAG of the member is looked up by the caller; what the callback
answers is ignored. -/
def l2RemoveLagMember (s : FibState) (lagId memberId : ObjectId) (rifNpu : SaiStatus) : FibState × SaiStatus :=
  match lagMemberPort s lagId memberId with
  | none => (s, .itemNotFound)
  | some portId =>
    if isPortValid s portId = false then (s, .invalidParameter)
    else if isLagCreated s lagId = false then (s, .itemNotFound)
    else if isPortLagMember s lagId portId = false then (s, .itemNotFound)
    else ((lagRifNotify (l2RemoveLagPort s lagId portId) lagId .delPorts [portId] rifNpu).1, .success)

end SaiCommon
