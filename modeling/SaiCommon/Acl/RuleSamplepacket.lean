import SaiCommon.Acl.System
import SaiCommon.Samplepacket.AclInfo

namespace SaiCommon

def aclSampleDirection : AclActionId → Option SampleDirection
  | .ingressSamplePacket => some .ingress
  | .egressSamplePacket => some .egress
  | _ => none

/-- `samplepacket_id` of a rule. -/
def AclRule.samplepacketId (rule : AclRule) : SampleDirection → ObjectId
  | .ingress => rule.ingressSamplePacketId
  | .egress => rule.egressSamplePacketId

def aclFirstPortlist : List AclFilter → Option (List ObjectId)
  | [] => none
  | filter :: rest =>
    if aclPortlistAttr filter.field then some filter.fieldValue.objList
    else if aclPortAttr filter.field then some [filter.fieldValue.oid]
    else aclFirstPortlist rest

/-- The ports that the rule samples on when it is created and removed, NULL for all. -/
def AclRule.samplePortlist (rule : AclRule) : SampleDirection → Option (List ObjectId)
  | .ingress => aclFirstPortlist rule.filterList
  | .egress => none

/-- `sai_acl_rule_create_samplepacket`. `current` is what the last sampling action
names, when it is enabled: the actions behind it apply that again. -/
def aclRuleCreateSamplepacketLoop (rule : AclRule) (env : SampleEnv) (s : SampleAcl) (place : Nat)
    (current : Option (ObjectId × SampleDirection)) (rc : SaiStatus) : List AclAction → SampleAcl × SaiStatus
  | [] => (s, rc)
  | action :: rest =>
    match match aclSampleDirection action.action with
      | some direction => if action.enable then some (action.parameter.oid, direction) else none
      | none => current with
    | some (sampleObject, direction) =>
      let (s, rc) := samplepacketValidateObject s sampleObject direction (env.sub place)
        (rule.samplePortlist direction) true true
      aclRuleCreateSamplepacketLoop rule env s (place + 1) (some (sampleObject, direction)) rc rest
    | none => aclRuleCreateSamplepacketLoop rule env s (place + 1) none rc rest

def aclRuleCreateSamplepacket (rule : AclRule) (env : SampleEnv) (s : SampleAcl) : SampleAcl × SaiStatus :=
  aclRuleCreateSamplepacketLoop rule env s 0 none .success rule.actionList

/-- `sai_acl_rule_remove_samplepacket`. What a disabled action names is taken back too. -/
def aclRuleRemoveSamplepacketLoop (rule : AclRule) (env : SampleEnv) (s : SampleAcl) (place : Nat) :
    List AclAction → SampleAcl
  | [] => s
  | action :: rest =>
    match aclSampleDirection action.action with
    | some direction =>
      let s := (samplepacketRemoveObject s action.parameter.oid direction (env.sub place)
        (rule.samplePortlist direction)).1
      aclRuleRemoveSamplepacketLoop rule env s (place + 1) rest
    | none => aclRuleRemoveSamplepacketLoop rule env s (place + 1) rest

def aclRuleRemoveSamplepacket (rule : AclRule) (env : SampleEnv) (s : SampleAcl) : SampleAcl :=
  aclRuleRemoveSamplepacketLoop rule env s 0 rule.actionList

/-- The sampling action among those of a scratch rule, the last one if there are more. -/
def aclSampleSetAction : List AclAction → Option (SampleDirection × AclAction)
  | [] => none
  | action :: rest =>
    match aclSampleSetAction rest, aclSampleDirection action.action with
    | some last, _ => some last
    | none, some direction => some (direction, action)
    | none, none => none

section Set
variable (orig : AclRule) (validate update : Bool)

/-- The loop of `sai_acl_rule_validate_update_samplepacket` over the filters of the
stored rule, and whether it came to its break. It looks at the lists only. -/
def aclSampleFilterLoop (env : SampleEnv) (scan : AclAction) (s : SampleAcl) (place : Nat) (rc : SaiStatus) :
    List AclFilter → SampleAcl × SaiStatus × Bool
  | [] => (s, rc, false)
  | filter :: rest =>
    if aclPortlistAttr filter.field then
      let portlist := some filter.fieldValue.objList
      let (s, rc) :=
        if validate then samplepacketRemoveObject s orig.ingressSamplePacketId .ingress ((env.sub place).sub 0) portlist
        else (s, rc)
      if scan.enable then
        let (s, rc) := samplepacketValidateObject s scan.parameter.oid .ingress ((env.sub place).sub 1) portlist
          validate update
        if validate = true ∧ rc ≠ .success then
          ((samplepacketValidateObject s orig.ingressSamplePacketId .ingress ((env.sub place).sub 2) portlist true
            true).1, rc, true)
        else (s, rc, true)
      else aclSampleFilterLoop env scan s (place + 1) rc rest
    else aclSampleFilterLoop env scan s (place + 1) rc rest

/-- `sai_acl_rule_validate_update_samplepacket` for a sampling action. -/
def aclSampleActionSet (env : SampleEnv) (s : SampleAcl) (direction : SampleDirection) (scan : AclAction) :
    SampleAcl × SaiStatus :=
  match if direction = .ingress then
      aclSampleFilterLoop orig validate update (env.sub 0) scan s 0 .success orig.filterList
    else (s, .success, false) with
  | (s, rc, true) => (s, rc)
  | (s, rc, false) =>
    let (s, rc) :=
      if validate then samplepacketRemoveObject s (orig.samplepacketId direction) direction (env.sub 1) none
      else (s, rc)
    if scan.enable then samplepacketValidateObject s scan.parameter.oid direction (env.sub 2) none validate update
    else (s, rc)

/-- `sai_acl_rule_validate_update_samplepacket` for a list of ports at `place` of the
scratch rule. The old list is read at the same place of the stored rule; a filter
of another kind there is taken for an empty list. -/
def aclSamplePortsSet (env : SampleEnv) (s : SampleAcl) (place : Nat) (portlist : List ObjectId) :
    SampleAcl × SaiStatus :=
  match orig.actionList.find? fun action => action.action == .ingressSamplePacket with
  | none => (s, .success)
  | some action =>
    let old := ((orig.filterList[place]?).map fun filter => filter.fieldValue.objList).getD []
    match if validate then samplepacketRemoveObject s orig.ingressSamplePacketId .ingress (env.sub 0) (some old)
      else (s, .success) with
    | (s, .success) =>
      if action.enable then
        let (s, rc) := samplepacketValidateObject s action.parameter.oid .ingress (env.sub 1) (some portlist)
          validate update
        if validate = true ∧ rc ≠ .success then
          ((samplepacketValidateObject s orig.ingressSamplePacketId .ingress (env.sub 2) (some old) true true).1, rc)
        else (s, rc)
      else (s, .success)
    | (s, error) => (s, error)

def aclRuleValidateUpdateSamplepacket (modify : AclRule) (env : SampleEnv) (s : SampleAcl) : SampleAcl × SaiStatus :=
  match aclSampleSetAction modify.actionList with
  | some (direction, scan) => aclSampleActionSet orig validate update env s direction scan
  | none =>
    match modify.filterList.findIdx? fun filter => aclPortlistAttr filter.field with
    | none => (s, .success)
    | some place =>
      aclSamplePortsSet orig validate update env s place
        (((modify.filterList[place]?).map fun filter => filter.fieldValue.objList).getD [])

end Set

structure SampledAcl where
  acl : AclState
  sample : SampleAcl

def aclRuleToSample (platform : AclPlatform) (s : AclState) (table : AclTable) (attrs : List AclRuleAttr)
    (env : AclRuleCreateEnv) : Option AclRule :=
  match aclRulePopulate env.lookups platform (s.deref table) attrs with
  | .error _ => none
  | .ok rule =>
    match aclValidateCreateRule s rule, (installAclRule s table env).2 with
    | .success, .success => if rule.samplesPackets then some rule else none
    | _, _ => none

/-- `sai_create_acl_rule`, with the samplepacket step carried out. What it leaves
is taken back when a later step fails. -/
def createAclRuleSampled (platform : AclPlatform) (s : SampledAcl) (attrs : List AclRuleAttr) (allocOk : Bool)
    (env : AclRuleCreateEnv) (sampleEnv : SampleEnv) : SampledAcl × SaiStatus :=
  match createAclRuleBegin s.acl attrs allocOk with
  | .error status => (s, status)
  | .ok table =>
    match aclRuleToSample platform s.acl table attrs env with
    | none =>
      let (acl, status) := createAclRuleLocked platform s.acl table attrs env
      ({ s with acl := acl }, status)
    | some rule =>
      let (sample, answer) := aclRuleCreateSamplepacket rule (sampleEnv.sub 0) s.sample
      let (acl, status) := createAclRuleLocked platform s.acl table attrs { env with samplePacket := answer }
      if answer = .success ∧ status ≠ .success then
        (⟨acl, aclRuleRemoveSamplepacket rule (sampleEnv.sub 1) sample⟩, status)
      else (⟨acl, sample⟩, status)

def aclRuleToRelease (s : AclState) (ruleId : ObjectId) : Option AclRule :=
  if ruleId.objType ≠ .aclEntry then none
  else match s.ruleTree.get ruleId with
    | none => none
    | some rule =>
      match s.tableTree.get rule.tableId with
      | none => none
      | some table => if ruleId ∈ table.ruleHead ∧ rule.samplesPackets = true then some rule else none

/-- `sai_delete_acl_rule`, with the samplepacket step carried out, and carried out
back when a later step fails. -/
def deleteAclRuleSampled (s : SampledAcl) (ruleId : ObjectId) (env : AclRuleDeleteEnv) (sampleEnv : SampleEnv) :
    SampledAcl × SaiStatus :=
  match aclRuleToRelease s.acl ruleId with
  | none =>
    let (acl, status) := deleteAclRule s.acl ruleId env
    ({ s with acl := acl }, status)
  | some rule =>
    let sample := aclRuleRemoveSamplepacket rule (sampleEnv.sub 0) s.sample
    let (acl, status) := deleteAclRule s.acl ruleId { env with samplePacket := .success }
    if status ≠ .success then (⟨acl, (aclRuleCreateSamplepacket rule (sampleEnv.sub 1) sample).1⟩, status)
    else (⟨acl, sample⟩, status)

/-- The stored rule and the scratch rule with which a set comes to its first
samplepacket step. -/
def aclRuleToSet (platform : AclPlatform) (s : AclState) (ruleId : ObjectId) (attr : AclRuleAttr)
    (env : AclRuleSetEnv) : Option (AclRule × AclRule) :=
  if ruleId.objType ≠ .aclEntry then none
  else match aclCheckRuleLoop 0 [attr] with
    | .success =>
      match s.ruleTree.get ruleId with
      | none => none
      | some present =>
        match s.tableTree.get present.tableId with
        | none => none
        | some table =>
          if env.allocOk = false then none
          else match aclRuleModify env.lookups platform table attr present with
            | .error _ => none
            | .ok modify =>
              match aclValidateSetRule s modify present with
              | .success => some (present, modify)
              | _ => none
    | _ => none

/-- `sai_set_acl_rule`, with both samplepacket steps carried out, the second one
with the rule as it is stored then. -/
def setAclRuleSampled (platform : AclPlatform) (s : SampledAcl) (ruleId : ObjectId) (attr : AclRuleAttr)
    (env : AclRuleSetEnv) (sampleEnv : SampleEnv) : SampledAcl × SaiStatus :=
  match aclRuleToSet platform s.acl ruleId attr env with
  | none =>
    let (acl, status) := setAclRule platform s.acl ruleId attr env
    ({ s with acl := acl }, status)
  | some (present, modify) =>
    let (sample, validated) := aclRuleValidateUpdateSamplepacket present true false modify (sampleEnv.sub 0) s.sample
    let (rule, scanned) := aclRuleScanAndMod s.acl platform modify present env
    let (sample, updated) :=
      if validated = .success ∧ scanned = .success then
        aclRuleValidateUpdateSamplepacket rule false true modify (sampleEnv.sub 1) sample
      else (sample, .success)
    let (acl, status) := setAclRule platform s.acl ruleId attr
      { env with sampleValidate := validated, sampleUpdate := updated }
    (⟨acl, sample⟩, status)

inductive SampledCall
  | createRule (attrs : List AclRuleAttr) (allocOk : Bool) (env : AclRuleCreateEnv) (sampleEnv : SampleEnv)
  | deleteRule (ruleId : ObjectId) (env : AclRuleDeleteEnv) (sampleEnv : SampleEnv)
  | setRule (ruleId : ObjectId) (attr : AclRuleAttr) (env : AclRuleSetEnv) (sampleEnv : SampleEnv)

def SampledCall.run (platform : AclPlatform) (s : SampledAcl) : SampledCall → SampledAcl × SaiStatus
  | .createRule attrs allocOk env sampleEnv => createAclRuleSampled platform s attrs allocOk env sampleEnv
  | .deleteRule ruleId env sampleEnv => deleteAclRuleSampled s ruleId env sampleEnv
  | .setRule ruleId attr env sampleEnv => setAclRuleSampled platform s ruleId attr env sampleEnv

end SaiCommon
