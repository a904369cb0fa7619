import SaiCommon.Samplepacket.Session

namespace SaiCommon

/-- The key of `sai_acl_info_per_port`. An entry for NULL says that a session is
applied on all ports. -/
structure SampleInfoKey where
  portId : ObjectId
  sampleObject : ObjectId
  samplepacketDirection : SampleDirection
deriving DecidableEq

/-- The sessions, the tree of what ACL rules sample on each port, and the ports
in the order the port module walks them. -/
structure SampleAcl where
  sessions : SampleState
  aclInfo : KeyTree SampleInfoKey Unit
  portList : List ObjectId

structure SamplePortEnv where
  add : SampleAddEnv
  infoOk : Bool
  npu : SaiStatus
deriving DecidableEq

/-- The answers, by the places of the calls from the outside in. -/
abbrev SampleEnv := List Nat → SamplePortEnv

def SampleEnv.sub (env : SampleEnv) (place : Nat) : SampleEnv := fun path => env (place :: path)

section Portlist
variable (s : SampleAcl) (sampleObject : ObjectId) (direction : SampleDirection)

/-- `sai_samplepacket_acl_is_same_sample_on_port`: no other session is applied on
the port. The key that is looked up first has NULL for the session. -/
def samplepacketAclIsSameSampleOnPort (portId : ObjectId) : SaiStatus :=
  match s.aclInfo.get ⟨portId, nullObjectId, direction⟩ with
  | some _ => .success
  | none =>
    if 0 < s.aclInfo.tally fun key _ =>
        key.portId == portId && key.sampleObject != sampleObject && key.samplepacketDirection == direction
    then .failure
    else .success

def samplepacketCheckAndInsertAclInfo (portId : ObjectId) (insertOk : Bool) : SampleAcl × SaiStatus :=
  match s.aclInfo.get ⟨portId, sampleObject, direction⟩ with
  | some _ => (s, .success)
  | none =>
    if insertOk = false then (s, .failure)
    else ({ s with aclInfo := s.aclInfo.put ⟨portId, sampleObject, direction⟩ () }, .success)

def samplepacketValidateObjectOnPortlist : List ObjectId → SaiStatus
  | [] => .success
  | portId :: rest =>
    match samplepacketAclIsSameSampleOnPort s sampleObject direction portId with
    | .success => samplepacketValidateObjectOnPortlist rest
    | error => error

/-- The loop of `sai_samplepacket_update_object_on_portlist`. A port whose entry
cannot be inserted is given back, and the loop goes on. -/
def samplepacketUpdateObjectOnPortlist (env : SampleEnv) (s : SampleAcl) (place : Nat) (rc : SaiStatus) :
    List ObjectId → SampleAcl × SaiStatus
  | [] => (s, rc)
  | portId :: rest =>
    match samplepacketSessionPortAdd s.sessions sampleObject portId direction .flowBased (env [place]).add with
    | (sessions, .success) =>
      match samplepacketCheckAndInsertAclInfo { s with sessions := sessions } sampleObject direction portId
        (env [place]).infoOk with
      | (s, .success) => samplepacketUpdateObjectOnPortlist env s (place + 1) .success rest
      | (s, error) =>
        let sessions := (samplepacketSessionPortRemove s.sessions sampleObject portId direction .flowBased
          (env [place]).npu).1
        samplepacketUpdateObjectOnPortlist env { s with sessions := sessions } (place + 1) error rest
    | (sessions, error) => ({ s with sessions := sessions }, error)

/-- `sai_samplepacket_validate_object`, with NULL for the list as `none`. An
empty list, which stops the process where assertions are compiled in, is walked
like any other. -/
def samplepacketValidateObject (env : SampleEnv) (portlist : Option (List ObjectId)) (validate update : Bool) :
    SampleAcl × SaiStatus :=
  if validate = false ∧ update = false then (s, .success)
  else match portlist with
    | none =>
      if (env [0]).infoOk = false then (s, .noMemory)
      else if s.portList = [] then (s, .failure)
      else
        match if validate then samplepacketValidateObjectOnPortlist s sampleObject direction s.portList
          else .success with
        | .success =>
          if update = false then (s, .success)
          else
            match samplepacketUpdateObjectOnPortlist sampleObject direction (env.sub 1) s 0 .success s.portList with
            | (s, .success) =>
              samplepacketCheckAndInsertAclInfo s sampleObject direction nullObjectId (env [2]).infoOk
            | (s, error) => (s, error)
        | error => (s, error)
    | some list =>
      match if validate then samplepacketValidateObjectOnPortlist s sampleObject direction list else .success with
      | .success =>
        if update = false then (s, .success)
        else samplepacketUpdateObjectOnPortlist sampleObject direction (env.sub 1) s 0 .success list
      | error => (s, error)

/-- The loops of `sai_samplepacket_remove_object`. An entry stays while its
session still counts the port. -/
def samplepacketRemoveObjectLoop (env : SampleEnv) (s : SampleAcl) (place : Nat) (rc : SaiStatus) :
    List ObjectId → SampleAcl × SaiStatus
  | [] => (s, rc)
  | portId :: rest =>
    match s.aclInfo.get ⟨portId, sampleObject, direction⟩ with
    | none => samplepacketRemoveObjectLoop env s (place + 1) rc rest
    | some _ =>
      match samplepacketSessionPortRemove s.sessions sampleObject portId direction .flowBased (env [place]).npu with
      | (sessions, .success) =>
        let s := { s with sessions := sessions, aclInfo := s.aclInfo.del ⟨portId, sampleObject, direction⟩ }
        samplepacketRemoveObjectLoop env s (place + 1) .success rest
      | (sessions, error) => samplepacketRemoveObjectLoop env { s with sessions := sessions } (place + 1) error rest

def samplepacketRemoveObject (env : SampleEnv) (portlist : Option (List ObjectId)) : SampleAcl × SaiStatus :=
  match portlist with
  | none =>
    let s := { s with aclInfo := s.aclInfo.del ⟨nullObjectId, sampleObject, direction⟩ }
    samplepacketRemoveObjectLoop sampleObject direction env s 0 .success s.portList
  | some list => samplepacketRemoveObjectLoop sampleObject direction env s 0 .success list

end Portlist

end SaiCommon
