import SaiCommon.Acl.RuleFrames
import SaiCommon.Qos.BufferAttachment
import SaiCommon.Qos.PolicerModes

namespace SaiCommon

open KeyTree

variable {policerId : ObjectId} {node : Policer}

inductive PolicerCall
  | create (attrs : List PolicerAttr) (env : PolicerCreateEnv)
  | remove (policerId : ObjectId) (npu : SaiStatus)
  | attributeSet (policerId : ObjectId) (attr : PolicerAttr) (env : PolicerSetEnv)
  | stormControlSet (portId : ObjectId) (attr : PortPolicerAttr) (policerId : ObjectId)
      (portPolicerSupported : Bool) (npu : SaiStatus)
  | acl (call : AclCall)

def AclState.withQos (s : AclState) (result : PolicerState × SaiStatus) : AclState × SaiStatus :=
  ({ s with qos := result.1 }, result.2)

def PolicerCall.run (platform : AclPlatform) (s : AclState) : PolicerCall → AclState × SaiStatus
  | .create attrs env => s.withQos (qosPolicerCreate s.qos attrs env)
  | .remove policerId npu => s.withQos (qosPolicerRemove platform.policerMode s.qos policerId npu)
  | .attributeSet policerId attr env =>
    s.withQos (qosPolicerAttributeSet platform.policerMode s.qos policerId attr env)
  | .stormControlSet portId attr policerId portPolicerSupported npu =>
    s.withQos (portStormControlPolicerSet platform.policerMode s.qos portId attr policerId portPolicerSupported npu)
  | .acl call => call.run platform s

def PolicerCall.step (platform : AclPlatform) (s : AclState) (call : PolicerCall) : AclState :=
  (call.run platform s).1

def portPolicerOf (s : AclState) (type : PolicerType) : ObjectId → Option ObjectId :=
  Attached.nameIn s.qos.portTree fun port => (port.policerId type).nonNull

def rulePolicerOf (s : AclState) : ObjectId → Option ObjectId :=
  Attached.nameIn s.ruleTree fun rule => rule.policerId.nonNull

def portLists (s : AclState) (type : PolicerType) : ObjectId → Option (List ObjectId) :=
  Attached.ofTree s.qos.policerTree fun node => node.portDllHead type

def ruleLists (s : AclState) : ObjectId → Option (List ObjectId) :=
  Attached.ofTree s.qos.policerTree Policer.aclDllHead

/-- The links between policers, ports and rules. The mode in the id of a
policer says whether ports or rules may name it. -/
structure PolicerLinked (platform : AclPlatform) (s : AclState) : Prop where
  nullKey : s.qos.policerTree.get nullObjectId = none
  ports : ∀ type, Attached (portLists s type) (portPolicerOf s type)
  rules : Attached (ruleLists s) (rulePolicerOf s)
  storm : ∀ type portId policerId, portPolicerOf s type portId = some policerId →
    platform.policerMode policerId = .stormControl
  tcm : ∀ ruleId policerId, rulePolicerOf s ruleId = some policerId →
    platform.policerMode policerId = .srTcm ∨ platform.policerMode policerId = .trTcm

/-- A rule that is linked to its policer is stored, and a policer that a set
puts on a rule exists. -/
def PolicerCall.links (platform : AclPlatform) (s : AclState) : PolicerCall → Prop
  | .acl (.createRule attrs allocOk env) =>
    ∀ table rule, createAclRuleBegin s attrs allocOk = .ok table → RuleAccepted platform s table attrs env rule →
      rule.policerId ≠ nullObjectId → s.qos.policerTree.get rule.policerId ≠ none →
      env.treeOk = true ∧ s.ruleTree.get env.ruleId = none
  | .acl (.setRule ruleId attr env) =>
    ∀ present modify table, RuleSetAccepted platform s ruleId attr env present modify table →
      modify.policerId ≠ nullObjectId → modify.policerId ≠ present.policerId →
      s.qos.policerTree.get modify.policerId ≠ none
  | _ => True

section Lists
variable {H : Type} {t : KeyTree ObjectId H} {l : H → List ObjectId}

theorem ofTree_release {g : H → H} {u : ObjectId} (edits : ∀ h, l (g h) = (l h).erase u)
    (old : ObjectId) : Attached.ofTree (if old ≠ nullObjectId then t.modify old g else t) l =
      Attached.release (Attached.ofTree t l) u old.nonNull := by
  funext k
  unfold ObjectId.nonNull
  by_cases null : old = nullObjectId
  · rw [if_neg (not_not_intro null), if_pos null]
    rfl
  · rw [if_pos null, if_neg null]
    exact Attached.ofTree_modify edits k

theorem ofTree_take {g : H → H} {u : ObjectId} (edits : ∀ h, l (g h) = l h ++ [u])
    (next : ObjectId) : Attached.ofTree (if next ≠ nullObjectId then t.modify next g else t) l =
      Attached.take (Attached.ofTree t l) u next.nonNull := by
  funext k
  unfold ObjectId.nonNull
  by_cases null : next = nullObjectId
  · rw [if_neg (not_not_intro null), if_pos null]
    rfl
  · rw [if_pos null, if_neg null]
    exact Attached.ofTree_modify edits k

end Lists

section Rules
variable {platform : AclPlatform} {s t : AclState} {ruleId : ObjectId} {rule : AclRule}

theorem portLists_unpoliced (type : PolicerType) (k : ObjectId) :
    portLists (s.unpoliced ruleId rule) type k = portLists s type k := by
  unfold AclState.unpoliced
  split
  · refine Attached.ofTree_modify_keep (fun node => ?_) k
    rfl
  · rfl

theorem portLists_policed (type : PolicerType) (k : ObjectId) :
    portLists (s.policed ruleId rule) type k = portLists s type k := by
  unfold AclState.policed
  split
  · refine Attached.ofTree_modify_keep (fun node => ?_) k
    rfl
  · rfl

theorem ruleLists_unpoliced : ruleLists (s.unpoliced ruleId rule) =
    Attached.release (ruleLists s) ruleId rule.policerId.nonNull := by
  have released := ofTree_release (t := s.qos.policerTree) (l := Policer.aclDllHead)
    (g := fun node => node.unlinkRule ruleId) (u := ruleId) (fun _ => rfl) rule.policerId
  unfold AclState.unpoliced
  by_cases named : rule.policerId ≠ nullObjectId
  · rw [if_pos named] at released ⊢
    exact released
  · rw [if_neg named] at released ⊢
    exact released

variable (s ruleId rule) in
theorem ruleLists_policed : ruleLists (s.policed ruleId rule) =
    Attached.take (ruleLists s) ruleId rule.policerId.nonNull := by
  have taken := ofTree_take (t := s.qos.policerTree) (l := Policer.aclDllHead)
    (g := fun node => node.linkRule ruleId) (u := ruleId) (fun _ => rfl) rule.policerId
  unfold AclState.policed
  by_cases named : rule.policerId ≠ nullObjectId
  · rw [if_pos named] at taken ⊢
    exact taken
  · rw [if_neg named] at taken ⊢
    exact taken

theorem portPolicerOf_unpoliced (type : PolicerType) (k : ObjectId) :
    portPolicerOf (s.unpoliced ruleId rule) type k = portPolicerOf s type k := by
  unfold AclState.unpoliced
  split
  · rfl
  · rfl

theorem portPolicerOf_policed (type : PolicerType) (k : ObjectId) :
    portPolicerOf (s.policed ruleId rule) type k = portPolicerOf s type k := by
  unfold AclState.policed
  split
  · rfl
  · rfl

theorem policed_policer_ne_none {k : ObjectId} :
    (s.policed ruleId rule).qos.policerTree.get k ≠ none ↔ s.qos.policerTree.get k ≠ none := by
  unfold AclState.policed
  split
  · exact AclState.editPolicer_ne_none
  · exact Iff.rfl

section
variable (linked : PolicerLinked platform s)
include linked

theorem PolicerLinked.congr
    (null : t.qos.policerTree.get nullObjectId = none)
    (ports : ∀ type k, portLists t type k = portLists s type k)
    (portNames : ∀ type k, portPolicerOf t type k = portPolicerOf s type k)
    (rules : ∀ k, ruleLists t k = ruleLists s k) (ruleNames : ∀ k, rulePolicerOf t k = rulePolicerOf s k) :
    PolicerLinked platform t where
  nullKey := null
  ports := fun type => (linked.ports type).congr (ports type) (portNames type)
  rules := linked.rules.congr rules ruleNames
  storm := by
    intro type portId policerId named
    rw [portNames type portId] at named
    exact linked.storm type portId policerId named
  tcm := by
    intro ruleId policerId named
    rw [ruleNames ruleId] at named
    exact linked.tcm ruleId policerId named

theorem PolicerLinked.frame (qos : t.qos = s.qos)
    (rules : ∀ k, rulePolicerOf t k = rulePolicerOf s k) : PolicerLinked platform t := by
  refine linked.congr ?_ (fun type k => ?_) (fun type k => ?_) (fun k => ?_) rules
  · rw [qos]
    exact linked.nullKey
  · unfold portLists
    rw [qos]
  · unfold portPolicerOf
    rw [qos]
  · unfold ruleLists
    rw [qos]

theorem PolicerLinked.moveRule (ruleId : ObjectId) (old next : AclRule)
    (qos : t.qos = ((s.unpoliced ruleId old).policed ruleId next).qos)
    (named : rulePolicerOf s ruleId = old.policerId.nonNull)
    (names : ∀ k, rulePolicerOf t k = Function.update (rulePolicerOf s) ruleId next.policerId.nonNull k)
    (stored : next.policerId ≠ nullObjectId → s.qos.policerTree.get next.policerId ≠ none)
    (mode : next.policerId ≠ nullObjectId →
      platform.policerMode next.policerId = .srTcm ∨ platform.policerMode next.policerId = .trTcm) :
    PolicerLinked platform t where
  nullKey := by
    by_contra present
    rw [qos] at present
    exact (AclState.unpoliced_policer_ne_none _ _).mp (policed_policer_ne_none.mp present) linked.nullKey
  ports := by
    intro type
    refine (linked.ports type).congr (fun k => ?_) fun k => ?_
    · have kept : portLists ((s.unpoliced ruleId old).policed ruleId next) type k = portLists s type k := by
        rw [portLists_policed, portLists_unpoliced]
      unfold portLists at kept ⊢
      rw [qos]
      exact kept
    · have kept : portPolicerOf ((s.unpoliced ruleId old).policed ruleId next) type k = portPolicerOf s type k := by
        rw [portPolicerOf_policed, portPolicerOf_unpoliced]
      unfold portPolicerOf at kept ⊢
      rw [qos]
      exact kept
  rules := by
    have held : ∀ k, next.policerId.nonNull = some k → ruleLists s k ≠ none := by
      intro k isIt
      obtain ⟨rfl, notNull⟩ := ObjectId.nonNull_eq_some.mp isIt
      obtain ⟨node, found⟩ := Option.ne_none_iff_exists'.mp (stored notNull)
      unfold ruleLists Attached.ofTree
      rw [found]
      exact Option.some_ne_none _
    have moved := linked.rules.move ruleId next.policerId.nonNull held
    refine moved.congr (fun k => ?_) names
    have lists := ruleLists_policed (s.unpoliced ruleId old) ruleId next
    rw [ruleLists_unpoliced] at lists
    rw [named, ← lists]
    unfold ruleLists
    rw [qos]
  storm := by
    intro type portId policerId isNamed
    have kept : portPolicerOf ((s.unpoliced ruleId old).policed ruleId next) type portId =
        portPolicerOf s type portId := by
      rw [portPolicerOf_policed, portPolicerOf_unpoliced]
    refine linked.storm type portId policerId ?_
    rw [← kept, ← isNamed]
    unfold portPolicerOf
    rw [qos]
  tcm := by
    intro id policerId isNamed
    rw [names id] at isNamed
    by_cases same : id = ruleId
    · rw [same, Function.update_self] at isNamed
      obtain ⟨rfl, notNull⟩ := ObjectId.nonNull_eq_some.mp isNamed
      exact mode notNull
    · rw [Function.update_of_ne same] at isNamed
      exact linked.tcm id policerId isNamed

end

end Rules

section Populate
variable {platform : AclPlatform} {lookups : AclLookups} {index : Nat} {table : AclTable} {rule next : AclRule}

/-- The policer of a rule, if it has one, has a mode for rules. -/
def AclRule.PolicerMode (platform : AclPlatform) (rule : AclRule) : Prop :=
  rule.policerId ≠ nullObjectId →
    platform.policerMode rule.policerId = .srTcm ∨ platform.policerMode rule.policerId = .trTcm

section
variable (fine : rule.PolicerMode platform)
include fine

theorem aclActionEffect_policer {id : AclActionId} {enable : Bool} {oid : ObjectId}
    (ok : aclActionEffect index platform rule id enable oid = .ok next) :
    next.PolicerMode platform := by
  unfold aclActionEffect at ok
  split at ok
  · cases ok
    exact fine
  split at ok
  · split at ok
    · cases ok
    · cases ok
      exact fine
  · split at ok
    · cases ok
    · cases ok
      exact fine
  · split at ok
    · cases ok
    · cases ok
      exact fine
  · split at ok
    · cases ok
    split at ok
    · cases ok
    rename_i mode
    cases ok
    intro _
    by_contra other
    exact mode ⟨fun isSr => other (.inl isSr), fun isTr => other (.inr isTr)⟩
  · cases ok
    exact fine

theorem aclRulePopulateAttr_policer {attr : AclRuleAttr}
    (ok : aclRulePopulateAttr lookups index platform table rule attr = .ok next) : next.PolicerMode platform := by
  cases attr with
  | field id enable value =>
    unfold aclRulePopulateAttr at ok
    dsimp only at ok
    split at ok
    · cases ok
    · cases ok
      exact fine
  | action id enable parameter =>
    unfold aclRulePopulateAttr at ok
    dsimp only at ok
    split at ok
    · cases ok
    split at ok
    · cases ok
    rename_i isOk
    cases ok
    have kept := aclActionEffect_policer fine isOk
    exact kept
  | tableId id =>
    cases ok
    exact fine
  | priority value =>
    cases ok
    exact fine
  | adminState state =>
    cases ok
    exact fine
  | unknown id => cases ok
  | outOfRange id => cases ok

end

theorem aclRulePopulate_policer {attrs : List AclRuleAttr}
    (ok : aclRulePopulate lookups platform table attrs = .ok next) : next.PolicerMode platform :=
  aclRulePopulate_runs (p := fun _ rule => rule.PolicerMode platform) (fun named => absurd rfl named)
    (fun _ _ _ _ _ fine made => aclRulePopulateAttr_policer fine made) (fun _ _ fine => fine) ok

theorem aclRuleModify_policer {attr : AclRuleAttr} {present : AclRule}
    (ok : aclRuleModify lookups platform table attr present = .ok next) : next.PolicerMode platform := by
  unfold aclRuleModify at ok
  split at ok
  · cases ok
  rename_i isOk
  cases ok
  have kept := aclRulePopulate_policer isOk
  exact kept

end Populate

section Calls
variable {platform : AclPlatform} {s : AclState}

theorem rulePolicerOf_of_get {ruleId : ObjectId} {rule : AclRule} (stored : s.ruleTree.get ruleId = some rule) :
    rulePolicerOf s ruleId = rule.policerId.nonNull := by
  unfold rulePolicerOf Attached.nameIn
  rw [stored]
  rfl

theorem rulePolicerOf_of_absent {ruleId : ObjectId} (absent : s.ruleTree.get ruleId = none) :
    rulePolicerOf s ruleId = none := by
  unfold rulePolicerOf Attached.nameIn
  rw [absent]
  rfl

theorem rulePolicerOf_put {t : AclState} {ruleId : ObjectId} {rule : AclRule}
    (tree : t.ruleTree = s.ruleTree.put ruleId rule) (k : ObjectId) :
    rulePolicerOf t k = Function.update (rulePolicerOf s) ruleId rule.policerId.nonNull k := by
  unfold rulePolicerOf
  rw [tree]
  exact Attached.nameIn_put ruleId rule k

theorem rulePolicerOf_congr {t : AclState} (tree : t.ruleTree = s.ruleTree) (k : ObjectId) :
    rulePolicerOf t k = rulePolicerOf s k := by
  unfold rulePolicerOf
  rw [tree]

section
variable (linked : PolicerLinked platform s)
include linked

theorem PolicerLinked.policer_stored {ruleId : ObjectId} {rule : AclRule}
    (stored : s.ruleTree.get ruleId = some rule) (named : rule.policerId ≠ nullObjectId) :
    s.qos.policerTree.get rule.policerId ≠ none := by
  have isNamed : rulePolicerOf s ruleId = some rule.policerId := by
    rw [rulePolicerOf_of_get stored]
    exact if_neg named
  have held := linked.rules.held ruleId rule.policerId isNamed
  intro absent
  refine held ?_
  unfold ruleLists Attached.ofTree
  rw [absent]
  rfl

theorem PolicerLinked.createRuleLocked {table : AclTable} {attrs : List AclRuleAttr} {env : AclRuleCreateEnv}
    (fits : ∀ rule, RuleAccepted platform s table attrs env rule → rule.policerId ≠ nullObjectId →
      s.qos.policerTree.get rule.policerId ≠ none → env.treeOk = true ∧ s.ruleTree.get env.ruleId = none) :
    PolicerLinked platform (createAclRuleLocked platform s table attrs env).1 := by
  rcases createAclRuleLocked_cases platform s table attrs env
    with ⟨t, status, same | marked, refused, _⟩ | ⟨rule, accepted, named, stored, unfit, _⟩ |
      ⟨rule, accepted, stored, _, fresh, result⟩
  · rw [refused, same]
    exact linked
  · rw [refused, marked]
    exact linked.frame AclState.installed_qos (rulePolicerOf_congr AclState.installed_ruleTree)
  · exact absurd (fits rule accepted named stored) unfit
  · rw [result]
    have installed : PolicerLinked platform (s.installed table env) :=
      linked.frame AclState.installed_qos (rulePolicerOf_congr AclState.installed_ruleTree)
    have absent : (s.installed table env).ruleTree.get env.ruleId = none := by
      rw [AclState.installed_ruleTree]
      exact fresh
    have free : (s.installed table env).unpoliced env.ruleId .zero = s.installed table env :=
      if_neg (not_not_intro rfl)
    refine installed.moveRule env.ruleId .zero rule ?_
      (rulePolicerOf_of_absent absent) (fun k => ?_) ?_ (aclRulePopulate_policer accepted.populated)
    · rw [free]
      exact AclState.writeTable_qos
    · refine rulePolicerOf_put ?_ k
      unfold AclState.addRule
      rw [AclState.writeTable_ruleTree]
      exact congrArg (fun tree => tree.put env.ruleId rule) AclState.policed_ruleTree
    · rw [AclState.installed_qos]
      exact stored

theorem PolicerLinked.deleteRule (ruleId : ObjectId)
    (env : AclRuleDeleteEnv) : PolicerLinked platform (deleteAclRule s ruleId env).1 := by
  rcases deleteAclRule_cases s ruleId env with
    ⟨status, _, same⟩ | ⟨rule, status, found, stored, _, again⟩ | ⟨rule, table, found, _, _, _, removed⟩
  · rw [same]
    exact linked
  · rw [again]
    have name := rulePolicerOf_of_get found
    refine linked.moveRule ruleId rule rule rfl name (fun k => ?_) stored fun named => ?_
    · rw [← name, Function.update_eq_self]
      refine rulePolicerOf_congr ?_ k
      rw [AclState.policed_ruleTree, AclState.unpoliced_ruleTree]
    · refine linked.tcm ruleId rule.policerId ?_
      rw [name]
      exact if_neg named
  · rw [removed]
    refine linked.moveRule ruleId rule .zero ?_ (rulePolicerOf_of_get found)
      (fun k => ?_) (fun named => absurd rfl named) fun named => absurd rfl named
    · have none : (s.unpoliced ruleId rule).policed ruleId .zero = s.unpoliced ruleId rule :=
        if_neg (not_not_intro rfl)
      rw [none]
      rfl
    · unfold rulePolicerOf AclState.dropRule Attached.nameIn
      rw [AclState.unpoliced_ruleTree, get_del, Function.update_apply]
      split
      · rfl
      · rfl

end

theorem aclRulePolicerUpdate_moves (s : AclState) (ruleId : ObjectId) (rule : AclRule) (policerId : ObjectId)
    (old : rule.policerId ≠ nullObjectId → s.qos.policerTree.get rule.policerId ≠ none)
    (new : policerId ≠ nullObjectId → policerId ≠ rule.policerId → s.qos.policerTree.get policerId ≠ none)
    (differ : policerId ≠ rule.policerId) : aclRulePolicerUpdate s ruleId rule policerId =
      ((s.unpoliced ruleId rule).policed ruleId { rule with policerId := policerId },
        { rule with policerId := policerId }, .success) := by
  have detached : (if rule.policerId ≠ nullObjectId then detachPolicerFromAclRule s ruleId rule
      else (s, .success)) = (s.unpoliced ruleId rule, .success) := by
    unfold AclState.unpoliced
    split
    · rename_i named
      obtain ⟨node, there⟩ := Option.ne_none_iff_exists'.mp (old named)
      exact detachPolicerFromAclRule_of_get there
    · rfl
  unfold aclRulePolicerUpdate
  by_cases named : policerId ≠ nullObjectId
  · rw [if_pos named, if_neg differ, detached]
    obtain ⟨node, there⟩ := Option.ne_none_iff_exists'.mp
      ((AclState.unpoliced_policer_ne_none ruleId rule).mpr (new named differ))
    have attached := @attachPolicerToAclRule_of_get _ ruleId { rule with policerId := policerId } _ there
    dsimp only
    rw [attached]
    unfold AclState.policed
    rw [if_pos named]
  · have null : policerId = nullObjectId := not_not.mp named
    have was : rule.policerId ≠ nullObjectId := fun isNull => differ (null.trans isNull.symm)
    rw [if_pos was] at detached
    rw [if_neg named, if_pos was, detached]
    unfold AclState.policed
    rw [if_neg named]

theorem PolicerLinked.setRule (linked : PolicerLinked platform s) (ruleId : ObjectId) (attr : AclRuleAttr)
    (env : AclRuleSetEnv)
    (exist : ∀ present modify table, RuleSetAccepted platform s ruleId attr env present modify table →
      modify.policerId ≠ nullObjectId → modify.policerId ≠ present.policerId →
      s.qos.policerTree.get modify.policerId ≠ none) :
    PolicerLinked platform (setAclRule platform s ruleId attr env).1 := by
  rcases setAclRule_cases platform s ruleId attr env with
    same | ⟨present, rule, stored, policer, _, _, written⟩ | ⟨present, modify, table, accepted⟩
  · rw [same]
    exact linked
  · rw [written]
    refine linked.frame rfl fun k => ?_
    rw [rulePolicerOf_put rfl, policer, ← rulePolicerOf_of_get stored, Function.update_eq_self]
  · have result := congrArg Prod.fst accepted.result
    have kept : (aclRuleUpdate s platform env.update modify present).policerId = present.policerId :=
      aclRuleUpdate_policerId
    have stored := accepted.stored
    rw [result]
    by_cases same : modify.policerId = present.policerId
    · have quiet : aclRulePolicerUpdate s ruleId (aclRuleUpdate s platform env.update modify present)
          modify.policerId = (s, aclRuleUpdate s platform env.update modify present, .success) := by
        unfold aclRulePolicerUpdate
        rw [kept, same, if_pos rfl]
        split
        · rfl
        · rfl
      rw [quiet]
      refine linked.frame rfl fun k => ?_
      rw [rulePolicerOf_put rfl, kept, ← rulePolicerOf_of_get stored, Function.update_eq_self]
    · have mode := aclRuleModify_policer accepted.populated
      have moves := aclRulePolicerUpdate_moves s ruleId
        (aclRuleUpdate s platform env.update modify present) modify.policerId
        (by rw [kept]; exact linked.policer_stored stored)
        (by rw [kept]; exact exist present modify table accepted) (by rw [kept]; exact same)
      rw [moves]
      refine linked.moveRule ruleId (aclRuleUpdate s platform env.update modify present)
        { aclRuleUpdate s platform env.update modify present with policerId := modify.policerId } rfl ?_
        (fun k => ?_) (fun named => exist present modify table accepted named same) mode
      · rw [kept]
        exact rulePolicerOf_of_get stored
      · refine rulePolicerOf_put ?_ k
        unfold AclState.putRule
        dsimp only
        rw [AclState.policed_ruleTree, AclState.unpoliced_ruleTree]

theorem createAclTable_frame {attrs : List AclTableAttr} {lookups : AclLookups} {allocOk : Bool}
    {env : AclTableCreateEnv} : (createAclTable platform s attrs lookups allocOk env).1.qos = s.qos ∧
      (createAclTable platform s attrs lookups allocOk env).1.ruleTree = s.ruleTree := by
  unfold createAclTable createAclTableLocked
  dsimp only
  split
  · split
    · exact ⟨rfl, rfl⟩
    split
    · split
      · exact ⟨rfl, rfl⟩
      split
      · split
        · exact ⟨rfl, rfl⟩
        · exact ⟨rfl, rfl⟩
      · exact ⟨rfl, rfl⟩
    · exact ⟨rfl, rfl⟩
  · exact ⟨rfl, rfl⟩

theorem deleteAclTable_frame {tableId : ObjectId} {npu : SaiStatus} :
    (deleteAclTable s tableId npu).1.qos = s.qos ∧ (deleteAclTable s tableId npu).1.ruleTree = s.ruleTree := by
  unfold deleteAclTable
  split
  · exact ⟨rfl, rfl⟩
  split
  · exact ⟨rfl, rfl⟩
  split
  · exact ⟨rfl, rfl⟩
  split
  · exact ⟨rfl, rfl⟩
  split
  · exact ⟨rfl, rfl⟩
  · exact ⟨rfl, rfl⟩

theorem createAclCounter_frame {attrs : List AclCounterAttr} {env : AclCounterCreateEnv} :
    (createAclCounter s attrs env).1.qos = s.qos ∧ (createAclCounter s attrs env).1.ruleTree = s.ruleTree := by
  rcases createAclCounter_cases s attrs env with same | ⟨_, _, _, _, rfl, same | ⟨_, _, same⟩⟩ <;>
    rw [same] <;> exact ⟨rfl, rfl⟩

theorem deleteAclCounter_frame {counterId : ObjectId} {sharedCount : Nat} {npu : SaiStatus} :
    (deleteAclCounter s counterId sharedCount npu).1.qos = s.qos ∧
      (deleteAclCounter s counterId sharedCount npu).1.ruleTree = s.ruleTree := by
  unfold deleteAclCounter
  split
  · exact ⟨rfl, rfl⟩
  split
  · exact ⟨rfl, rfl⟩
  split
  · exact ⟨rfl, rfl⟩
  split
  · exact ⟨rfl, rfl⟩
  · exact ⟨rfl, rfl⟩

theorem PolicerLinked.keep {t : AclState} (linked : PolicerLinked platform s)
    (same : t.qos = s.qos ∧ t.ruleTree = s.ruleTree) : PolicerLinked platform t :=
  linked.frame same.1 (rulePolicerOf_congr same.2)

theorem PolicerLinked.aclCall (linked : PolicerLinked platform s) (call : AclCall)
    (links : (PolicerCall.acl call).links platform s) : PolicerLinked platform (call.run platform s).1 := by
  cases call with
  | createTable attrs lookups allocOk env => exact linked.keep createAclTable_frame
  | deleteTable tableId npu => exact linked.keep deleteAclTable_frame
  | createCounter attrs env => exact linked.keep createAclCounter_frame
  | deleteCounter counterId sharedCount npu => exact linked.keep deleteAclCounter_frame
  | createRule attrs allocOk env =>
    unfold AclCall.run createAclRule
    dsimp only
    split
    · exact linked
    · rename_i table found
      exact linked.createRuleLocked fun rule accepted => links table rule found accepted
  | deleteRule ruleId env => exact linked.deleteRule ruleId env
  | setRule ruleId attr env => exact linked.setRule ruleId attr env links

end Calls

section Ports
variable {platform : AclPlatform} {s : AclState}

theorem PolicerLinked.create (linked : PolicerLinked platform s) (attrs : List PolicerAttr)
    (env : PolicerCreateEnv) : PolicerLinked platform (s.withQos (qosPolicerCreate s.qos attrs env)).1 := by
  unfold AclState.withQos qosPolicerCreate
  split
  · exact linked
  split
  · exact linked
  rename_i node _
  dsimp only
  split
  · split
    · rename_i absent
      have notNull : (⟨.policer, env.npuObjectId⟩ : ObjectId) ≠ nullObjectId :=
        ne_nullObjectId ObjectType.noConfusion
      refine ⟨?_, fun type => ?_, ?_, linked.storm, linked.tcm⟩
      · rw [get_put_ne notNull.symm]
        exact linked.nullKey
      · have none : portLists s type ⟨.policer, env.npuObjectId⟩ = none := by
          unfold portLists Attached.ofTree
          rw [absent]
          rfl
        refine ((linked.ports type).insert none).congr (fun k => ?_) fun _ => rfl
        exact Attached.ofTree_put k
      · have none : ruleLists s ⟨.policer, env.npuObjectId⟩ = none := by
          unfold ruleLists Attached.ofTree
          rw [absent]
          rfl
        refine (linked.rules.insert none).congr (fun k => ?_) fun _ => rfl
        exact Attached.ofTree_put k
    · exact linked
  · exact linked

theorem PolicerLinked.attributeSet (linked : PolicerLinked platform s) (policerId : ObjectId)
    (attr : PolicerAttr) (env : PolicerSetEnv) : PolicerLinked platform
      (s.withQos (qosPolicerAttributeSet platform.policerMode s.qos policerId attr env)).1 := by
  unfold AclState.withQos
  rcases qosPolicerAttributeSet_cases platform.policerMode s.qos policerId attr env with
    ⟨_, same⟩ | ⟨_, node, next, stored, isOk, written⟩
  · rw [same]
    exact linked
  · obtain ⟨ports, rules⟩ := policerAttrSet_keeps isOk
    rw [written]
    have notNull : policerId ≠ nullObjectId := by
      rintro rfl
      rw [linked.nullKey] at stored
      cases stored
    refine linked.congr ?_ (fun type k => ?_) (fun _ _ => rfl) (fun k => ?_) fun _ => rfl
    · dsimp only
      rw [get_put_ne notNull.symm]
      exact linked.nullKey
    · exact Attached.ofTree_put_keep stored (congrFun ports type) k
    · exact Attached.ofTree_put_keep stored rules k

theorem portLists_of_get (stored : s.qos.policerTree.get policerId = some node) (type : PolicerType) :
    portLists s type policerId = some (node.portDllHead type) := by
  unfold portLists Attached.ofTree
  rw [stored]
  rfl

theorem ruleLists_of_get (stored : s.qos.policerTree.get policerId = some node) :
    ruleLists s policerId = some node.aclDllHead := by
  unfold ruleLists Attached.ofTree
  rw [stored]
  rfl

section
variable (linked : PolicerLinked platform s)
include linked

theorem PolicerLinked.no_ports (stored : s.qos.policerTree.get policerId = some node)
    (mode : platform.policerMode policerId ≠ .stormControl) (type : PolicerType) : node.portDllHead type = [] := by
  rw [List.eq_nil_iff_forall_not_mem]
  intro portId member
  have named := (linked.ports type).named_of_mem (portLists_of_get stored type) member
  exact mode (linked.storm type portId policerId named)

theorem PolicerLinked.no_rules (stored : s.qos.policerTree.get policerId = some node)
    (mode : ¬ (platform.policerMode policerId = .srTcm ∨ platform.policerMode policerId = .trTcm)) :
    node.aclDllHead = [] := by
  rw [List.eq_nil_iff_forall_not_mem]
  intro ruleId member
  have named := linked.rules.named_of_mem (ruleLists_of_get stored) member
  exact mode (linked.tcm ruleId policerId named)

theorem PolicerLinked.unused (stored : s.qos.policerTree.get policerId = some node)
    (unused : qosPolicerIsObjectInUse platform.policerMode policerId node = .success) :
    (∀ type, node.portDllHead type = []) ∧ node.aclDllHead = [] := by
  unfold qosPolicerIsObjectInUse at unused
  cases mode : platform.policerMode policerId with
  | stormControl =>
    simp only [mode, ite_eq_right_iff, reduceCtorEq, imp_false, not_or, not_not] at unused
    obtain ⟨flood, bcast, mcast⟩ := unused
    refine ⟨fun type => ?_, linked.no_rules stored (by simp only [mode, reduceCtorEq, or_self, not_false_eq_true])⟩
    cases type with
    | stormFlood => exact flood
    | stormBcast => exact bcast
    | stormMcast => exact mcast
  | trTcm =>
    simp only [mode, ite_eq_right_iff, reduceCtorEq, imp_false, not_not] at unused
    exact ⟨linked.no_ports stored (by simp only [mode, ne_eq, reduceCtorEq, not_false_eq_true]), unused⟩
  | srTcm =>
    simp only [mode, ite_eq_right_iff, reduceCtorEq, imp_false, not_not] at unused
    exact ⟨linked.no_ports stored (by simp only [mode, ne_eq, reduceCtorEq, not_false_eq_true]), unused⟩
  | other value =>
    exact ⟨linked.no_ports stored (by simp only [mode, ne_eq, reduceCtorEq, not_false_eq_true]),
      linked.no_rules stored (by simp only [mode, reduceCtorEq, or_self, not_false_eq_true])⟩

theorem PolicerLinked.remove (policerId : ObjectId) (npu : SaiStatus) :
    PolicerLinked platform (s.withQos (qosPolicerRemove platform.policerMode s.qos policerId npu)).1 := by
  unfold AclState.withQos
  rcases qosPolicerRemove_cases platform.policerMode s.qos policerId npu
    with ⟨_, same⟩ | ⟨_, node, stored, unused, removed⟩
  · rw [same]
    exact linked
  · rw [removed]
    obtain ⟨noPorts, noRules⟩ := linked.unused stored unused
    refine ⟨?_, fun type => ?_, ?_, linked.storm, linked.tcm⟩
    · dsimp only
      exact get_del_none linked.nullKey
    · have empty := portLists_of_get stored type
      rw [noPorts type] at empty
      refine ((linked.ports type).erase empty).congr (fun k => ?_) fun _ => rfl
      exact Attached.ofTree_del k
    · have empty := ruleLists_of_get stored
      rw [noRules] at empty
      refine (linked.rules.erase empty).congr (fun k => ?_) fun _ => rfl
      exact Attached.ofTree_del k

end

def policerReleasePort (tree : KeyTree ObjectId Policer) (type : PolicerType) (portId old : ObjectId) :
    KeyTree ObjectId Policer :=
  if old ≠ nullObjectId then tree.modify old fun node => node.unlinkPort type portId else tree

def policerTakePort (tree : KeyTree ObjectId Policer) (type : PolicerType) (portId next : ObjectId) :
    KeyTree ObjectId Policer :=
  if next ≠ nullObjectId then tree.modify next fun node => node.linkPort type portId else tree

theorem policerMovePort_keep {W : Type} (tree : KeyTree ObjectId Policer) (type : PolicerType)
    (portId old next : ObjectId) {g : Policer → W}
    (unlink : ∀ node : Policer, g (node.unlinkPort type portId) = g node)
    (link : ∀ node : Policer, g (node.linkPort type portId) = g node) (k : ObjectId) :
    ((policerTakePort (policerReleasePort tree type portId old) type portId next).get k).map g =
      (tree.get k).map g := by
  have released : ((policerReleasePort tree type portId old).get k).map g = (tree.get k).map g := by
    unfold policerReleasePort
    split
    · exact map_get_modify unlink k
    · rfl
  rw [← released]
  unfold policerTakePort
  split
  · exact map_get_modify link k
  · rfl

theorem policerMovePort_lists {tree : KeyTree ObjectId Policer} {type : PolicerType} {portId old next : ObjectId} :
    Attached.ofTree (policerTakePort (policerReleasePort tree type portId old) type portId next)
        (fun node => node.portDllHead type) =
      Attached.take (Attached.release (Attached.ofTree tree fun node => node.portDllHead type) portId old.nonNull)
        portId next.nonNull := by
  have released := ofTree_release (t := tree) (l := fun node => node.portDllHead type)
    (g := fun node => node.unlinkPort type portId) (u := portId) (fun _ => Function.update_self _ _ _) old
  have taken := ofTree_take (t := policerReleasePort tree type portId old) (l := fun node => node.portDllHead type)
    (g := fun node => node.linkPort type portId) (u := portId) (fun _ => Function.update_self _ _ _) next
  unfold policerTakePort
  rw [taken]
  unfold policerReleasePort
  rw [released]

theorem portPolicerOf_of_get {portId : ObjectId} {port : PolicerPort}
    (stored : s.qos.portTree.get portId = some port) (type : PolicerType) :
    portPolicerOf s type portId = (port.policerId type).nonNull := by
  unfold portPolicerOf Attached.nameIn
  rw [stored]
  rfl

section
variable (linked : PolicerLinked platform s)
include linked

theorem PolicerLinked.movePort {portId : ObjectId} {port : PolicerPort}
    (stored : s.qos.portTree.get portId = some port) (type : PolicerType) (next : ObjectId)
    (present : next ≠ nullObjectId → s.qos.policerTree.get next ≠ none)
    (mode : next ≠ nullObjectId → platform.policerMode next = .stormControl) :
    PolicerLinked platform { s with
      qos :=
        { portTree := s.qos.portTree.put portId (port.setPolicerId type next)
          policerTree := policerTakePort
            (policerReleasePort s.qos.policerTree type portId (port.policerId type)) type portId next } } := by
  have names : ∀ t k, Attached.nameIn (s.qos.portTree.put portId (port.setPolicerId type next))
      (fun port => (port.policerId t).nonNull) k =
      Function.update (portPolicerOf s t) portId ((port.setPolicerId type next).policerId t).nonNull k :=
    fun t k => Attached.nameIn_put portId (port.setPolicerId type next) k
  have others : ∀ t, t ≠ type → ∀ k, Attached.nameIn (s.qos.portTree.put portId (port.setPolicerId type next))
      (fun port => (port.policerId t).nonNull) k = portPolicerOf s t k := by
    intro t other k
    have kept : (port.setPolicerId type next).policerId t = port.policerId t := Function.update_of_ne other _ _
    rw [names t k, kept, ← portPolicerOf_of_get stored t, Function.update_eq_self]
  have here : ((port.setPolicerId type next).policerId type).nonNull = next.nonNull := by
    unfold PolicerPort.setPolicerId
    dsimp only
    rw [Function.update_self]
  refine ⟨?_, fun t => ?_, ?_, ?_, linked.tcm⟩
  · have kept := policerMovePort_keep s.qos.policerTree type portId
      (port.policerId type) next (g := fun _ => ()) (fun _ => rfl) (fun _ => rfl) nullObjectId
    rw [linked.nullKey] at kept
    exact Option.map_eq_none_iff.mp kept
  · by_cases same : t = type
    · subst same
      have held : ∀ k, next.nonNull = some k → portLists s t k ≠ none := by
        intro k isIt
        obtain ⟨rfl, notNull⟩ := ObjectId.nonNull_eq_some.mp isIt
        obtain ⟨node, found⟩ := Option.ne_none_iff_exists'.mp (present notNull)
        rw [portLists_of_get found t]
        exact Option.some_ne_none _
      have moved := (linked.ports t).move portId next.nonNull held
      rw [portPolicerOf_of_get stored t] at moved
      refine moved.congr (fun k => congrFun policerMovePort_lists k) fun k => ?_
      rw [← here]
      exact names t k
    · refine (linked.ports t).congr (fun k => ?_) (others t same)
      exact policerMovePort_keep _ _ _ _ _ (g := fun node => node.portDllHead t)
        (fun node => Function.update_of_ne same _ _) (fun node => Function.update_of_ne same _ _) k
  · refine linked.rules.congr (fun k => ?_) fun _ => rfl
    exact policerMovePort_keep _ _ _ _ _ (g := Policer.aclDllHead) (fun _ => rfl) (fun _ => rfl) k
  · intro t id policerId named
    by_cases same : t = type
    · subst same
      have named := (names t id).symm.trans named
      rw [here] at named
      by_cases isPort : id = portId
      · rw [isPort, Function.update_self] at named
        obtain ⟨rfl, notNull⟩ := ObjectId.nonNull_eq_some.mp named
        exact mode notNull
      · rw [Function.update_of_ne isPort] at named
        exact linked.storm t id policerId named
    · exact linked.storm t id policerId ((others t same id).symm.trans named)

theorem PolicerLinked.stormControlSet (portId : ObjectId)
    (attr : PortPolicerAttr) (policerId : ObjectId) (portPolicerSupported : Bool) (npu : SaiStatus) :
    PolicerLinked platform (s.withQos (portStormControlPolicerSet platform.policerMode s.qos portId attr policerId
      portPolicerSupported npu)).1 := by
  unfold AclState.withQos portStormControlPolicerSet
  split
  · exact linked
  split
  · exact linked
  rename_i type _
  split
  · exact linked
  rename_i port stored
  split
  · rename_i notNull
    split
    · exact linked
    split
    · exact linked
    rename_i mode
    split
    · exact linked
    rename_i node found
    split
    · have moved := linked.movePort stored type policerId
        (fun _ => by rw [found]; exact Option.some_ne_none _) fun _ => not_not.mp mode
      unfold policerTakePort at moved
      rw [if_pos notNull] at moved
      exact moved
    · exact linked
  · split
    · exact linked
    rename_i node found
    split
    · have named : port.policerId type ≠ nullObjectId := by
        intro null
        rw [null, linked.nullKey] at found
        cases found
      have moved := linked.movePort stored type nullObjectId (fun other => absurd rfl other)
        fun other => absurd rfl other
      unfold policerTakePort policerReleasePort at moved
      rw [if_neg (not_not_intro rfl), if_pos named] at moved
      exact moved
    · exact linked

theorem PolicerLinked.run (call : PolicerCall) (links : call.links platform s) :
    PolicerLinked platform (call.run platform s).1 := by
  cases call with
  | create attrs env => exact linked.create attrs env
  | remove policerId npu => exact linked.remove policerId npu
  | attributeSet policerId attr env => exact linked.attributeSet policerId attr env
  | stormControlSet portId attr policerId portPolicerSupported npu =>
    exact linked.stormControlSet portId attr policerId portPolicerSupported npu
  | acl call => exact linked.aclCall call links

end

end Ports

structure PolicerFresh (s : AclState) : Prop where
  policers : s.qos.policerTree = ∅
  rules : s.ruleTree = ∅
  ports : ∀ portId port, s.qos.portTree.get portId = some port → ∀ type, port.policerId type = nullObjectId

theorem PolicerFresh.linked {platform : AclPlatform} {s : AclState} (fresh : PolicerFresh s) :
    PolicerLinked platform s := by
  have absent : ∀ k, s.qos.policerTree.get k = none := fun k => by rw [fresh.policers, get_empty]
  have noPort : ∀ type portId, portPolicerOf s type portId = none := by
    intro type portId
    refine Attached.nameIn_eq_none fun port stored => ?_
    rw [fresh.ports portId port stored type]
    rfl
  have noRule : ∀ ruleId, rulePolicerOf s ruleId = none := by
    intro ruleId
    refine rulePolicerOf_of_absent ?_
    rw [fresh.rules, get_empty]
  refine ⟨absent _, fun type => Attached.of_empty (fun k => ?_) (noPort type), Attached.of_empty (fun k => ?_) noRule,
    ?_, ?_⟩
  · unfold portLists Attached.ofTree
    rw [absent k]
    rfl
  · unfold ruleLists Attached.ofTree
    rw [absent k]
    rfl
  · intro type portId policerId named
    rw [noPort type portId] at named
    cases named
  · intro ruleId policerId named
    rw [noRule ruleId] at named
    cases named

/-- A policer lists a port for a type, once, exactly when the port names it for
the type, and a rule exactly when the rule names it; what is named is stored. -/
structure PolicerLinksExact (s : AclState) : Prop where
  ports : ∀ policerId node, s.qos.policerTree.get policerId = some node → ∀ type portId,
    (node.portDllHead type).count portId =
      if (s.qos.portTree.get portId).map (fun port => port.policerId type) = some policerId then 1 else 0
  rules : ∀ policerId node, s.qos.policerTree.get policerId = some node → ∀ ruleId,
    node.aclDllHead.count ruleId =
      if (s.ruleTree.get ruleId).map AclRule.policerId = some policerId then 1 else 0
  portLive : ∀ portId port type, s.qos.portTree.get portId = some port → port.policerId type ≠ nullObjectId →
    s.qos.policerTree.get (port.policerId type) ≠ none
  ruleLive : ∀ ruleId rule, s.ruleTree.get ruleId = some rule → rule.policerId ≠ nullObjectId →
    s.qos.policerTree.get rule.policerId ≠ none

theorem nameIn_nonNull_eq_some {V : Type} {t : KeyTree ObjectId V} {f : V → ObjectId} {u k : ObjectId}
    (notNull : k ≠ nullObjectId) :
    Attached.nameIn t (fun v => (f v).nonNull) u = some k ↔ (t.get u).map f = some k := by
  unfold Attached.nameIn
  cases t.get u with
  | none => exact Iff.rfl
  | some v =>
    rw [Option.bind_some, Option.map_some, ObjectId.nonNull_eq_some, Option.some.injEq]
    exact and_iff_left notNull

theorem PolicerLinked.exact {platform : AclPlatform} {s : AclState} (linked : PolicerLinked platform s) :
    PolicerLinksExact s := by
  have notNull : ∀ policerId node, s.qos.policerTree.get policerId = some node → policerId ≠ nullObjectId := by
    rintro policerId node stored rfl
    rw [linked.nullKey] at stored
    cases stored
  refine ⟨?_, ?_, ?_, fun ruleId rule stored named => linked.policer_stored stored named⟩
  · intro policerId node stored type portId
    rw [(linked.ports type).once policerId _ (portLists_of_get stored type) portId]
    unfold portPolicerOf
    simp only [nameIn_nonNull_eq_some (notNull policerId node stored)]
  · intro policerId node stored ruleId
    rw [linked.rules.once policerId _ (ruleLists_of_get stored) ruleId]
    unfold rulePolicerOf
    simp only [nameIn_nonNull_eq_some (notNull policerId node stored)]
  · intro portId port type stored named
    have isNamed : portPolicerOf s type portId = some (port.policerId type) := by
      rw [portPolicerOf_of_get stored type]
      exact if_neg named
    have held := (linked.ports type).held portId _ isNamed
    intro absent
    refine held ?_
    unfold portLists Attached.ofTree
    rw [absent]
    rfl

/-- In every run whose rules keep their policers stored the links are exact,
and a policer whose removal returns SUCCESS is named by no port and no rule. -/
theorem policerLinks_exact {platform : AclPlatform} {s : AclState}
    (reach : Runs.Reach PolicerFresh (Runs.guarded (PolicerCall.links platform) (PolicerCall.step platform)) s) :
    PolicerLinksExact s ∧ ∀ policerId npu t, PolicerCall.run platform s (.remove policerId npu) = (t, .success) →
      (∀ portId port type, t.qos.portTree.get portId = some port → port.policerId type ≠ policerId) ∧
        ∀ ruleId rule, t.ruleTree.get ruleId = some rule → rule.policerId ≠ policerId := by
  have linked : PolicerLinked platform s := by
    refine reach.invariant (PolicerLinked platform) (fun _ fresh => fresh.linked) ?_
    intro s call t linked moved
    rw [moved.2]
    exact linked.run call moved.1
  refine ⟨linked.exact, fun policerId npu t removed => ?_⟩
  have after := linked.remove policerId npu
  have result : (s.withQos (qosPolicerRemove platform.policerMode s.qos policerId npu)) = (t, .success) := removed
  rw [result] at after
  rcases qosPolicerRemove_cases platform.policerMode s.qos policerId npu
    with ⟨error, _⟩ | ⟨_, node, found, _, gone⟩
  · exact absurd (congrArg Prod.snd result) error
  · have notNull : policerId ≠ nullObjectId := by
      rintro rfl
      rw [linked.nullKey] at found
      cases found
    have absent : t.qos.policerTree.get policerId = none := by
      have qos : t.qos = (qosPolicerRemove platform.policerMode s.qos policerId npu).1 :=
        (congrArg (fun r => r.1.qos) result).symm
      rw [qos, gone]
      exact get_del_self _ _
    constructor
    · intro portId port type stored isIt
      exact after.exact.portLive portId port type stored (isIt ▸ notNull) (isIt ▸ absent)
    · intro ruleId rule stored isIt
      exact after.exact.ruleLive ruleId rule stored (isIt ▸ notNull) (isIt ▸ absent)

def policerSamplePlatform : AclPlatform where
  tableIdMax := 8
  defaultAdminState := true
  policerMode := fun id => if id.npuObjectId ≤ 2 then .srTcm else .stormControl

def policerSample : AclState where
  tableTree := (∅ : KeyTree ObjectId AclTable).put ⟨.aclTable, 1⟩
    { AclTable.zero 0 with tableId := ⟨.aclTable, 1⟩, npuTable := true }
  ruleTree := ∅
  counterTree := ∅
  tableInUse := fun id => id = 1
  allocated := 1
  qos :=
    { portTree := (∅ : KeyTree ObjectId PolicerPort).put ⟨.port, 1⟩ ⟨fun _ => nullObjectId⟩
      policerTree := ∅ }

theorem policerSample_fresh : PolicerFresh policerSample := by
  refine ⟨rfl, rfl, ?_⟩
  intro portId port stored type
  simp only [policerSample, get_put, get_empty] at stored
  split at stored
  · cases Option.some.inj stored
    rfl
  · cases stored

def policerSampleLookups : AclLookups where
  portValid := fun _ => true
  mirrorValid := fun _ => true
  udfGroupStatus := fun _ => .success
  udfHwId := fun _ => (.success, 0)
  listAlloc := true
  valueAlloc := fun _ => true

/-- A policer is put on the rule; `stored` policers of the two exist. -/
def policerSampleRun (stored : List Nat) : List PolicerCall :=
  stored.map (fun id => .create [.mode .srTcm] ⟨true, .success, .success, id, true⟩) ++
  [.create [.mode .stormControl] ⟨true, .success, .success, 3, true⟩,
    .stormControlSet ⟨.port, 1⟩ .floodStormControl ⟨.policer, 3⟩ true .success,
    .acl (.createRule [.tableId ⟨.aclTable, 1⟩, .field (.value 0) true { data := 1, mask := 1 },
        .action .setPolicer true { oid := ⟨.policer, 1⟩ }] true
      ⟨policerSampleLookups, .success, .success, 1, .success, .success, true⟩),
    .acl (.setRule ⟨.aclEntry, 1⟩ (.action .setPolicer true { oid := ⟨.policer, 2⟩ })
      ⟨policerSampleLookups, true, .success, .success, .success,
        ⟨true, .success, .success, fun _ => 0⟩, .success⟩)]

theorem policerLinks_exact_sample : PolicerLinksExact
    ((policerSampleRun [1, 2]).foldl (PolicerCall.step policerSamplePlatform) policerSample) := by
  refine (@policerLinks_exact policerSamplePlatform _
    (Runs.Reach.run (.start policerSample_fresh) ?_)).1
  refine ⟨trivial, trivial, trivial, trivial, ?_, ?_, trivial⟩
  · intro table rule _ _ _ _
    exact ⟨rfl, rfl⟩
  · intro present modify table accepted _ _
    cases accepted.populated
    exact Option.some_ne_none _

/-- A set to a policer that does not exist is refused after the rule has left
its old policer and got the new id. -/
theorem policerLinks_not_exact : ¬ ∀ platform s, Runs.Reach PolicerFresh
    (Runs.guarded (fun _ _ => True) (PolicerCall.step platform)) s → PolicerLinksExact s := by
  intro all
  let calls := policerSampleRun [1]
  have links := all policerSamplePlatform _ (Runs.Reach.run (.start policerSample_fresh)
    (Runs.allowedRun_of_forall (fun _ _ => trivial) _ calls))
  have broken : ∃ rule, (calls.foldl (PolicerCall.step policerSamplePlatform) policerSample).ruleTree.get
        ⟨.aclEntry, 1⟩ = some rule ∧ rule.policerId = ⟨.policer, 2⟩ ∧
      (calls.foldl (PolicerCall.step policerSamplePlatform) policerSample).qos.policerTree.get ⟨.policer, 2⟩ =
      none :=
    ⟨_, rfl, by decide, rfl⟩
  obtain ⟨rule, stored, named, absent⟩ := broken
  exact links.ruleLive _ rule stored (by rw [named]; decide) (by rw [named]; exact absent)

end SaiCommon
