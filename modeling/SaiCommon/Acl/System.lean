import SaiCommon.Acl.Rule

namespace SaiCommon

def createAclTableBegin (s : AclState) (lookups : AclLookups) (attrs : List AclTableAttr) (allocOk : Bool) :
    SaiStatus :=
  if attrs = [] then .invalidParameter
  else match aclTableValidateAttributes s lookups attrs with
    | .success => if allocOk = false then .noMemory else .success
    | error => error

def createAclTable (platform : AclPlatform) (s : AclState) (attrs : List AclTableAttr) (lookups : AclLookups)
    (allocOk : Bool) (env : AclTableCreateEnv) : AclState × SaiStatus :=
  match createAclTableBegin s lookups attrs allocOk with
  | .success => createAclTableLocked platform s attrs env
  | error => (s, error)

/-- The calls of the ACL API that change the database, one client at a time. -/
inductive AclCall
  | createTable (attrs : List AclTableAttr) (lookups : AclLookups) (allocOk : Bool) (env : AclTableCreateEnv)
  | deleteTable (tableId : ObjectId) (npu : SaiStatus)
  | createCounter (attrs : List AclCounterAttr) (env : AclCounterCreateEnv)
  | deleteCounter (counterId : ObjectId) (sharedCount : Nat) (npu : SaiStatus)
  | createRule (attrs : List AclRuleAttr) (allocOk : Bool) (env : AclRuleCreateEnv)
  | deleteRule (ruleId : ObjectId) (env : AclRuleDeleteEnv)
  | setRule (ruleId : ObjectId) (attr : AclRuleAttr) (env : AclRuleSetEnv)

def AclCall.run (platform : AclPlatform) (s : AclState) : AclCall → AclState × SaiStatus
  | .createTable attrs lookups allocOk env => createAclTable platform s attrs lookups allocOk env
  | .deleteTable tableId npu => deleteAclTable s tableId npu
  | .createCounter attrs env => createAclCounter s attrs env
  | .deleteCounter counterId sharedCount npu => deleteAclCounter s counterId sharedCount npu
  | .createRule attrs allocOk env => createAclRule platform s attrs allocOk env
  | .deleteRule ruleId env => deleteAclRule s ruleId env
  | .setRule ruleId attr env => setAclRule platform s ruleId attr env

end SaiCommon
