import SaiCommon.Acl.RuleUpdate
import SaiCommon.Acl.Table

namespace SaiCommon

section Policer
variable (s : AclState) (ruleId : ObjectId) (rule : AclRule)

def Policer.linkRule (node : Policer) (ruleId : ObjectId) : Policer :=
  { node with aclDllHead := node.aclDllHead ++ [ruleId] }

def Policer.unlinkRule (node : Policer) (ruleId : ObjectId) : Policer :=
  { node with aclDllHead := node.aclDllHead.erase ruleId }

def AclState.editPolicer (policerId : ObjectId) (g : Policer → Policer) : AclState :=
  { s with qos := { s.qos with policerTree := s.qos.policerTree.modify policerId g } }

def attachPolicerToAclRule : AclState × SaiStatus :=
  match s.qos.policerTree.get rule.policerId with
  | none => (s, .invalidObjectId)
  | some _ => (s.editPolicer rule.policerId fun node => node.linkRule ruleId, .success)

def detachPolicerFromAclRule : AclState × SaiStatus :=
  match s.qos.policerTree.get rule.policerId with
  | none => (s, .invalidObjectId)
  | some _ => (s.editPolicer rule.policerId fun node => node.unlinkRule ruleId, .success)

/-- `sai_acl_rule_policer_update`: with the policer that the rule has then. The
id is written before the new policer is looked up. -/
def aclRulePolicerUpdate (modifyPolicerId : ObjectId) : AclState × AclRule × SaiStatus :=
  if modifyPolicerId ≠ nullObjectId then
    if modifyPolicerId = rule.policerId then (s, rule, .success)
    else
      match if rule.policerId ≠ nullObjectId then detachPolicerFromAclRule s ruleId rule else (s, .success) with
      | (s, .success) =>
        let next := { rule with policerId := modifyPolicerId }
        let (s, status) := attachPolicerToAclRule s ruleId next
        (s, next, status)
      | (s, error) => (s, rule, error)
  else if rule.policerId ≠ nullObjectId then
    match detachPolicerFromAclRule s ruleId rule with
    | (s, .success) => (s, { rule with policerId := modifyPolicerId }, .success)
    | (s, error) => (s, rule, error)
  else (s, rule, .success)

end Policer

/-- A pointer to a table node is live while the node is stored. -/
def AclState.isLive (s : AclState) (table : AclTable) : Prop :=
  ∃ stored, s.tableTree.get table.tableId = some stored ∧ stored.node = table.node

instance (s : AclState) (table : AclTable) : Decidable (s.isLive table) :=
  match found : s.tableTree.get table.tableId with
  | none => isFalse fun live => by
      obtain ⟨stored, isIt, _⟩ := live
      rw [found] at isIt
      cases isIt
  | some stored =>
    if same : stored.node = table.node then isTrue ⟨stored, found, same⟩
    else isFalse fun live => by
      obtain ⟨other, isIt, itsNode⟩ := live
      rw [found] at isIt
      cases isIt
      exact same itsNode

/-- What is read through a pointer: the node as it is now, or what it last held
when it is freed. -/
def AclState.deref (s : AclState) (table : AclTable) : AclTable :=
  match s.tableTree.get table.tableId with
  | some stored => if stored.node = table.node then stored else table
  | none => table

/-- A write through a pointer; one to a freed node does not reach the database. -/
def AclState.writeTable (s : AclState) (table : AclTable) (g : AclTable → AclTable) : AclState :=
  if s.isLive table then { s with tableTree := s.tableTree.modify table.tableId g } else s

/-- `sai_create_acl_rule` before the lock: the checks of the list, the lookup
of the table and the allocation. -/
def createAclRuleBegin (s : AclState) (attrs : List AclRuleAttr) (allocOk : Bool) : Except SaiStatus AclTable :=
  if attrs = [] then .error .invalidParameter
  else match aclCheckRuleLoop 0 attrs with
    | .success =>
      if attrs.any AclRuleAttr.isField = false then .error .mandatoryAttributeMissing
      else match s.tableTree.get (aclRuleTableId nullObjectId attrs) with
        | none => .error .invalidObjectId
        | some table => if allocOk = false then .error .noMemory else .ok table
    | error => .error error

structure AclRuleCreateEnv where
  lookups : AclLookups
  npuTableCreate : SaiStatus
  npu : SaiStatus
  npuObjectId : Nat
  samplePacket : SaiStatus
  attachCntr : SaiStatus
  treeOk : Bool

/-- `sai_install_acl_rule`: a table is made in the NPU for its first rule, and
stays there when the rule is refused. -/
def installAclRule (s : AclState) (table : AclTable) (env : AclRuleCreateEnv) : AclState × SaiStatus :=
  if (s.deref table).npuTable then (s, env.npu)
  else match env.npuTableCreate with
    | .success => (s.writeTable table fun table => { table with npuTable := true }, env.npu)
    | error => (s, error)

def AclRule.samplesPackets (rule : AclRule) : Bool :=
  rule.ingressSamplePacketId ≠ nullObjectId || rule.egressSamplePacketId ≠ nullObjectId

def aclRuleCreateUsers (s : AclState) (rule : AclRule) (env : AclRuleCreateEnv) : SaiStatus :=
  match if rule.samplesPackets then env.samplePacket else .success with
  | .success => if rule.counterId ≠ nullObjectId then attachCntrToAclRule s rule env.attachCntr else .success
  | error => error

/-- `sai_create_acl_rule` under the lock, with the table found before it. A
rule that is freed stays linked to its policer. -/
def createAclRuleLocked (platform : AclPlatform) (s : AclState) (table : AclTable) (attrs : List AclRuleAttr)
    (env : AclRuleCreateEnv) : AclState × SaiStatus :=
  match aclRulePopulate env.lookups platform (s.deref table) attrs with
  | .error status => (s, status)
  | .ok rule =>
    match aclValidateCreateRule s rule with
    | .success =>
      match installAclRule s table env with
      | (s, .success) =>
        let ruleId : ObjectId := ⟨.aclEntry, env.npuObjectId⟩
        match aclRuleCreateUsers s rule env with
        | .success =>
          match if rule.policerId ≠ nullObjectId then attachPolicerToAclRule s ruleId rule else (s, .success) with
          | (s, .success) =>
            match env.treeOk, s.ruleTree.get ruleId with
            | true, none =>
              let s := { s with ruleTree := s.ruleTree.put ruleId rule }
              let priorityOf := fun id => ((s.ruleTree.get id).map AclRule.aclRulePriority).getD 0
              (s.writeTable table fun table =>
                { table with
                  ruleHead := aclRuleInsertSorted priorityOf ruleId table.ruleHead
                  ruleCount := table.ruleCount + 1 }, .success)
            | _, _ => (s, .failure)
          | (s, error) => (s, error)
        | error => (s, error)
      | (s, error) => (s, error)
    | error => (s, error)

def createAclRule (platform : AclPlatform) (s : AclState) (attrs : List AclRuleAttr) (allocOk : Bool)
    (env : AclRuleCreateEnv) : AclState × SaiStatus :=
  match createAclRuleBegin s attrs allocOk with
  | .error status => (s, status)
  | .ok table => createAclRuleLocked platform s table attrs env

structure AclRuleDeleteEnv where
  samplePacket : SaiStatus
  detachCntr : SaiStatus
  npu : SaiStatus
deriving DecidableEq

def aclRuleDeleteUsers (s : AclState) (rule : AclRule) (env : AclRuleDeleteEnv) : SaiStatus :=
  match if rule.samplesPackets then env.samplePacket else .success with
  | .success => if rule.counterId ≠ nullObjectId then detachCntrFromAclRule s rule env.detachCntr else .success
  | error => error

def deleteAclRule (s : AclState) (ruleId : ObjectId) (env : AclRuleDeleteEnv) : AclState × SaiStatus :=
  if ruleId.objType ≠ .aclEntry then (s, .invalidObjectType)
  else match s.ruleTree.get ruleId with
    | none => (s, .invalidObjectId)
    | some rule =>
      match s.tableTree.get rule.tableId with
      | none => (s, .invalidObjectId)
      | some table =>
        if ruleId ∉ table.ruleHead then (s, .failure)
        else match aclRuleDeleteUsers s rule env with
          | .success =>
            match if rule.policerId ≠ nullObjectId then detachPolicerFromAclRule s ruleId rule
              else (s, .success) with
            | (s, .success) =>
              match env.npu with
              | .success =>
                ({ s with
                  ruleTree := s.ruleTree.del ruleId
                  tableTree := s.tableTree.modify rule.tableId fun table =>
                    { table with
                      ruleHead := table.ruleHead.erase ruleId
                      ruleCount := table.ruleCount - 1 } }, .success)
              | error =>
                if rule.policerId ≠ nullObjectId then ((attachPolicerToAclRule s ruleId rule).1, error)
                else (s, error)
            | (s, error) => (s, error)
          | error => (s, error)

structure AclRuleSetEnv where
  lookups : AclLookups
  allocOk : Bool
  sampleValidate : SaiStatus
  copy : SaiStatus
  npu : SaiStatus
  update : AclUpdateEnv
  sampleUpdate : SaiStatus

/-- `sai_acl_rule_scan_and_mod`: the stored rule after the NPU took the change. -/
def aclRuleScanAndMod (s : AclState) (platform : AclPlatform) (modify given : AclRule) (env : AclRuleSetEnv) :
    AclRule × SaiStatus :=
  match env.copy with
  | .success =>
    match env.npu with
    | .success => (aclRuleUpdate s platform env.update modify given, .success)
    | error => (given, error)
  | error => (given, error)

def AclRuleAttr.isPriority : AclRuleAttr → Bool
  | .priority _ => true
  | _ => false

def aclRuleModify (lookups : AclLookups) (platform : AclPlatform) (table : AclTable) (attr : AclRuleAttr)
    (present : AclRule) : Except SaiStatus AclRule :=
  match aclRulePopulate lookups platform table [attr] with
  | .error status => .error status
  | .ok modify =>
    .ok { modify with
      aclRulePriority := if attr.isPriority then modify.aclRulePriority else present.aclRulePriority }

def AclState.putRule (s : AclState) (ruleId : ObjectId) (rule : AclRule) : AclState :=
  { s with ruleTree := s.ruleTree.put ruleId rule }

/-- A rule without its table would stop the process. -/
def setAclRule (platform : AclPlatform) (s : AclState) (ruleId : ObjectId) (attr : AclRuleAttr)
    (env : AclRuleSetEnv) : AclState × SaiStatus :=
  if ruleId.objType ≠ .aclEntry then (s, .invalidObjectType)
  else match aclCheckRuleLoop 0 [attr] with
    | .success =>
      match s.ruleTree.get ruleId with
      | none => (s, .invalidObjectId)
      | some present =>
        match s.tableTree.get present.tableId with
        | none => (s, .failure)
        | some table =>
          if env.allocOk = false then (s, .noMemory)
          else match aclRuleModify env.lookups platform table attr present with
            | .error status => (s, status)
            | .ok modify =>
              match aclValidateSetRule s modify present with
              | .success =>
                match env.sampleValidate with
                | .success =>
                  match aclRuleScanAndMod s platform modify present env with
                  | (rule, .success) =>
                    match env.sampleUpdate with
                    | .success =>
                      let (s, rule, status) := aclRulePolicerUpdate s ruleId rule modify.policerId
                      (s.putRule ruleId rule, status)
                    | error => (s.putRule ruleId rule, error)
                  | (rule, error) => (s.putRule ruleId rule, error)
                | error => (s, error)
              | error => (s, error)
    | error => (s, error)

end SaiCommon
