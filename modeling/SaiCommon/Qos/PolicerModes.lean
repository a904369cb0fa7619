import SaiCommon.Lib.Runs
import SaiCommon.Qos.PolicerPorts

namespace SaiCommon

variable {attrs : List PolicerAttr} {next node : Policer} {attr : PolicerAttr}

inductive PolicerAttrId
  | meterType
  | mode
  | colorSource
  | cbs
  | cir
  | pbs
  | pir
  | packetAction (color : PolicerColor)
  | enableCounterList
  | unknown
deriving DecidableEq

def PolicerAttr.attrId : PolicerAttr → PolicerAttrId
  | .meterType _ => .meterType
  | .mode _ => .mode
  | .colorSource _ => .colorSource
  | .cbs _ => .cbs
  | .cir _ => .cir
  | .pbs _ => .pbs
  | .pir _ => .pir
  | .packetAction color _ => .packetAction color
  | .enableCounterList => .enableCounterList
  | .unknown => .unknown

def PolicerAttrId.color : PolicerAttrId → Option PolicerColor
  | .packetAction color => some color
  | _ => none

def PolicerAttr.modeValue : PolicerAttr → Option PolicerMode
  | .mode value => some value
  | _ => none

/-- The entry that an attribute appends to the action list. -/
def PolicerAttr.actionEntry : PolicerAttr → Option PolicerAction
  | .packetAction color value => some ⟨color, value, true⟩
  | _ => none

def policerModeOfAttrs (attrs : List PolicerAttr) : PolicerMode :=
  (attrs.filterMap PolicerAttr.modeValue).getLast?.getD .srTcm

/-- The stored policers, and what each was given since its creation. -/
structure PolicerHistory where
  db : PolicerState
  given : ObjectId → List PolicerAttr

def PolicerHistory.Fresh (h : PolicerHistory) : Prop := h.db.policerTree = ∅

inductive PolicerModeCall
  | create (attrs : List PolicerAttr) (env : PolicerCreateEnv)
  | remove (policerId : ObjectId) (npu : SaiStatus)
  | attributeSet (policerId : ObjectId) (attr : PolicerAttr) (env : PolicerSetEnv)

/-- `sai_add_type_to_object`, and the type of such an object. -/
structure PolicerIds where
  addTypeToObject : Nat → PolicerMode → Nat
  typeOfObject : Nat → PolicerMode
  typeOfObject_add : ∀ hwPolicerId mode, typeOfObject (addTypeToObject hwPolicerId mode) = mode

def PolicerIds.modeOf (ids : PolicerIds) (policerId : ObjectId) : PolicerMode :=
  ids.typeOfObject policerId.npuObjectId

section Calls
variable (ids : PolicerIds)

/-- The answers to a create with the hardware's id, to which the mode is added. -/
def PolicerIds.added (attrs : List PolicerAttr) (env : PolicerCreateEnv) : PolicerCreateEnv :=
  { env with npuObjectId := ids.addTypeToObject env.npuObjectId (policerModeOfAttrs attrs) }

def PolicerModeCall.run (s : PolicerState) : PolicerModeCall → PolicerState × SaiStatus
  | .create attrs env => qosPolicerCreate s attrs (ids.added attrs env)
  | .remove policerId npu => qosPolicerRemove ids.modeOf s policerId npu
  | .attributeSet policerId attr env => qosPolicerAttributeSet ids.modeOf s policerId attr env

/-- A call that succeeds adds what it gave its policer. -/
def PolicerModeCall.gives (given : ObjectId → List PolicerAttr) : PolicerModeCall → ObjectId → List PolicerAttr
  | .create attrs env => Function.update given ⟨.policer, (ids.added attrs env).npuObjectId⟩ attrs
  | .remove _ _ => given
  | .attributeSet policerId attr _ => Function.update given policerId (given policerId ++ [attr])

def PolicerModeCall.step (h : PolicerHistory) (call : PolicerModeCall) : PolicerHistory where
  db := (call.run ids h.db).1
  given := if (call.run ids h.db).2 = .success then call.gives ids h.given else h.given

end Calls

section Mode
variable (modeOf : ObjectId → PolicerMode)

/-- What the mode of a policer requires of it and of what it was given. -/
structure PolicerDisciplined (policerId : ObjectId) (node : Policer) (given : List PolicerAttr) : Prop where
  storm : node.policerMode = .stormControl → ∀ attr ∈ given, attr.isStormControl = true
  twoRate : node.policerMode = .trTcm → ∃ attr ∈ given, attr.isPir = true
  mode : modeOf policerId = node.policerMode
  colors : (node.actionList.map PolicerAction.action).Nodup

/-- A creation that its mode does not allow. -/
def PolicerCreateBreaks (attrs : List PolicerAttr) : Prop :=
  policerModeOfAttrs attrs = .stormControl ∧ (∃ attr ∈ attrs, attr.isStormControl = false) ∨
  policerModeOfAttrs attrs = .trTcm ∧ ∀ attr ∈ attrs, attr.isPir = false

/-- A set that leaves the mode of the policer, or that its mode does not allow. -/
def PolicerSetBreaks (node : Policer) (attr : PolicerAttr) : Prop :=
  (∃ value, attr = .mode value ∧ value ≠ node.policerMode) ∨
  node.policerMode = .stormControl ∧ attr.isStormControl = false

/-- A creation has distinct ids. -/
def PolicerModeCall.Proper : PolicerModeCall → Prop
  | .create attrs _ => (attrs.map PolicerAttr.attrId).Nodup
  | _ => True

def PolicerModeCall.Breaks (s : PolicerState) : PolicerModeCall → Prop
  | .create attrs _ => PolicerCreateBreaks attrs
  | .remove _ _ => False
  | .attributeSet policerId attr _ => ∃ node, s.policerTree.get policerId = some node ∧ PolicerSetBreaks node attr

/-- A set does not break the discipline of its policer. -/
def PolicerModeCall.Meets (h : PolicerHistory) (call : PolicerModeCall) : Prop :=
  call.Proper ∧ ∀ policerId attr env, call = .attributeSet policerId attr env → ¬ call.Breaks h.db

/-- Nothing but the mode stands against a creation. -/
structure PolicerCreateAdmitted (s : PolicerState) (attrs : List PolicerAttr) (env : PolicerCreateEnv) : Prop where
  alloc : env.allocOk = true
  vendor : env.vendor = .success
  values : ∃ node, policerAttrLoop 0 .zero attrs = .ok node
  npu : env.npu = .success
  treeOk : env.treeOk = true
  absent : s.policerTree.get ⟨.policer, env.npuObjectId⟩ = none

/-- Nothing but the mode stands against a set. -/
structure PolicerSetAdmitted (s : PolicerState) (policerId : ObjectId) (attr : PolicerAttr) (env : PolicerSetEnv) :
    Prop where
  kind : policerId.objType = .policer
  stored : ∃ node, s.policerTree.get policerId = some node ∧
    qosPolicerUsersUpdate modeOf policerId node env = .success
  values : ∃ record, policerParseUpdateAttributes .zero [attr] .set env.vendor = .ok record
  npu : env.npu = .success

end Mode

section Loop

theorem policerAttrSet_mode {oldNodeUpdate : Bool} (isOk : policerAttrSet node attr oldNodeUpdate = .ok next) :
    next.policerMode = attr.modeValue.getD node.policerMode := by
  unfold policerAttrSet at isOk
  cases attr with
  | packetAction color value =>
    dsimp only at isOk
    split at isOk
    · cases isOk
      rfl
    · cases isOk
  | enableCounterList => cases isOk
  | unknown => cases isOk
  | _ =>
    cases isOk
    rfl

theorem policerAttrSet_actions (isOk : policerAttrSet node attr false = .ok next) :
    next.actionList = node.actionList ++ attr.actionEntry.toList := by
  unfold policerAttrSet at isOk
  cases attr with
  | packetAction color value =>
    dsimp only at isOk
    split at isOk
    · cases isOk
      rfl
    · cases isOk
  | enableCounterList => cases isOk
  | unknown => cases isOk
  | _ =>
    cases isOk
    exact (List.append_nil _).symm

theorem policerAttrLoop_node (attrs : List PolicerAttr) : ∀ (index : Nat) (node : Policer),
    policerAttrLoop index node attrs = .ok next →
      next.policerMode = (attrs.filterMap PolicerAttr.modeValue).getLast?.getD node.policerMode ∧
      next.actionList = node.actionList ++ attrs.filterMap PolicerAttr.actionEntry := by
  induction attrs with
  | nil =>
    intro index node isOk
    cases isOk
    exact ⟨rfl, (List.append_nil _).symm⟩
  | cons attr rest ih =>
    intro index node isOk
    unfold policerAttrLoop at isOk
    cases set : policerAttrSet node attr false with
    | error status =>
      rw [set] at isOk
      cases isOk
    | ok between =>
      rw [set] at isOk
      obtain ⟨mode, actions⟩ := ih _ _ isOk
      rw [policerAttrSet_mode set] at mode
      rw [policerAttrSet_actions set, List.append_assoc] at actions
      rw [mode, actions, List.filterMap_cons, List.filterMap_cons]
      constructor
      · cases attr.modeValue with
        | none => rfl
        | some value =>
          dsimp only
          rw [List.getLast?_cons, Option.getD_some]
          rfl
      · cases attr.actionEntry with
        | none => rfl
        | some entry => rfl

theorem policerActions_nodup (nodup : (attrs.map PolicerAttr.attrId).Nodup) :
    ((attrs.filterMap PolicerAttr.actionEntry).map PolicerAction.action).Nodup := by
  have colors : (attrs.filterMap PolicerAttr.actionEntry).map PolicerAction.action =
      (attrs.map PolicerAttr.attrId).filterMap PolicerAttrId.color := by
    rw [List.map_filterMap, List.filterMap_map]
    refine List.filterMap_congr fun attr _ => ?_
    cases attr <;> rfl
  rw [colors]
  refine nodup.filterMap ?_
  intro one two color isOne isTwo
  cases one <;> cases isOne
  cases two <;> cases isTwo
  rfl

theorem policerExistNodeActionsUpdate_colors (color : PolicerColor) (value : PolicerPacketAction)
    (actions : List PolicerAction) : (policerExistNodeActionsUpdate color value actions).map PolicerAction.action =
      if color ∈ actions.map PolicerAction.action then actions.map PolicerAction.action
      else actions.map PolicerAction.action ++ [color] := by
  induction actions with
  | nil => rfl
  | cons entry rest ih =>
    unfold policerExistNodeActionsUpdate
    by_cases here : entry.action = color
    · rw [if_pos here, List.map_cons, List.map_cons, if_pos (List.mem_cons.mpr (.inl here.symm))]
    rw [if_neg here, List.map_cons, List.map_cons, ih]
    have other : color ∈ entry.action :: rest.map PolicerAction.action ↔ color ∈ rest.map PolicerAction.action :=
      List.mem_cons.trans (or_iff_right (Ne.symm here))
    rw [if_congr other rfl rfl]
    split
    · rfl
    · rfl

theorem policerAttrSet_colors (isOk : policerAttrSet node attr true = .ok next)
    (nodup : (node.actionList.map PolicerAction.action).Nodup) :
    (next.actionList.map PolicerAction.action).Nodup := by
  unfold policerAttrSet at isOk
  cases attr with
  | packetAction color value =>
    dsimp only at isOk
    split at isOk
    · cases isOk
      rw [if_pos rfl, policerExistNodeActionsUpdate_colors]
      split
      · exact nodup
      rename_i absent
      refine nodup.append (List.nodup_singleton color) ?_
      intro other listed isColor
      rw [List.mem_singleton.mp isColor] at listed
      exact absent listed
    · cases isOk
  | enableCounterList => cases isOk
  | unknown => cases isOk
  | _ =>
    cases isOk
    exact nodup

theorem policerAttrSet_keeps {old : Bool} (ok : policerAttrSet node attr old = .ok next) :
    next.portDllHead = node.portDllHead ∧ next.aclDllHead = node.aclDllHead := by
  unfold policerAttrSet at ok
  split at ok
  case h_8 =>
    split at ok
    · cases ok
      exact ⟨rfl, rfl⟩
    · cases ok
  case h_9 => cases ok
  case h_10 => cases ok
  all_goals
    cases ok
    exact ⟨rfl, rfl⟩

end Loop

section Ends
variable (modeOf : ObjectId → PolicerMode)

/-- How a creation ends: refused with nothing stored, or with the parsed node under
an id that was free. -/
theorem qosPolicerCreate_cases (s : PolicerState) (attrs : List PolicerAttr) (env : PolicerCreateEnv) :
    (qosPolicerCreate s attrs env).2 ≠ .success ∧ (qosPolicerCreate s attrs env).1 = s ∨
    (qosPolicerCreate s attrs env).2 = .success ∧ ∃ node,
      policerParseUpdateAttributes .zero attrs .create env.vendor = .ok node ∧
      s.policerTree.get ⟨.policer, env.npuObjectId⟩ = none ∧
      (qosPolicerCreate s attrs env).1 = { s with
        policerTree := s.policerTree.put ⟨.policer, env.npuObjectId⟩
          { node with portDllHead := fun _ => [], aclDllHead := [] } } := by
  unfold qosPolicerCreate
  split
  · exact .inl ⟨SaiStatus.noConfusion, rfl⟩
  cases parsed : policerParseUpdateAttributes .zero attrs .create env.vendor with
  | error status => exact .inl ⟨policerParse_error parsed, rfl⟩
  | ok node =>
    dsimp only
    split
    · split
      · rename_i absent
        exact .inr ⟨rfl, node, rfl, absent, rfl⟩
      · exact .inl ⟨SaiStatus.noConfusion, rfl⟩
    · rename_i error
      exact .inl ⟨error, rfl⟩

/-- How a set ends: refused with nothing changed, or with the attribute in the node. -/
theorem qosPolicerAttributeSet_cases (s : PolicerState) (policerId : ObjectId) (attr : PolicerAttr)
    (env : PolicerSetEnv) : (qosPolicerAttributeSet modeOf s policerId attr env).2 ≠ .success ∧
      (qosPolicerAttributeSet modeOf s policerId attr env).1 = s ∨
    (qosPolicerAttributeSet modeOf s policerId attr env).2 = .success ∧ ∃ node next,
      s.policerTree.get policerId = some node ∧ policerAttrSet node attr true = .ok next ∧
      (qosPolicerAttributeSet modeOf s policerId attr env).1 =
        { s with policerTree := s.policerTree.put policerId next } := by
  unfold qosPolicerAttributeSet
  split
  · exact .inl ⟨SaiStatus.noConfusion, rfl⟩
  cases stored : s.policerTree.get policerId with
  | none => exact .inl ⟨SaiStatus.noConfusion, rfl⟩
  | some node =>
    dsimp only
    cases parsed : policerParseUpdateAttributes .zero [attr] .set env.vendor with
    | error status => exact .inl ⟨policerParse_error parsed, rfl⟩
    | ok record =>
      dsimp only
      split
      · split
        · cases written : policerAttrSet node attr true with
          | error status => exact .inl ⟨policerAttrSet_error written, rfl⟩
          | ok next => exact .inr ⟨rfl, node, next, rfl, written, rfl⟩
        · rename_i error
          exact .inl ⟨error, rfl⟩
      · rename_i error
        exact .inl ⟨error, rfl⟩

theorem qosPolicerRemove_cases (modeOf : ObjectId → PolicerMode) (qos : PolicerState) (policerId : ObjectId)
    (npu : SaiStatus) :
    (qosPolicerRemove modeOf qos policerId npu).2 ≠ .success ∧
    (qosPolicerRemove modeOf qos policerId npu).1 = qos ∨
    (qosPolicerRemove modeOf qos policerId npu).2 = .success ∧ ∃ node, qos.policerTree.get policerId = some node ∧
      qosPolicerIsObjectInUse modeOf policerId node = .success ∧
      (qosPolicerRemove modeOf qos policerId npu).1 = { qos with policerTree := qos.policerTree.del policerId } := by
  unfold qosPolicerRemove
  split
  · exact .inl ⟨by simp, rfl⟩
  split
  · exact .inl ⟨by simp, rfl⟩
  rename_i node stored
  split
  · rename_i unused
    split
    · exact .inr ⟨rfl, node, stored, unused, rfl⟩
    · rename_i error
      exact .inl ⟨error, rfl⟩
  · rename_i error
    exact .inl ⟨error, rfl⟩

end Ends

section Disciplined
variable {ids : PolicerIds} {modeOf : ObjectId → PolicerMode} {s : PolicerState} {h : PolicerHistory}
  {policerId : ObjectId} {given : List PolicerAttr}

/-- A parsed creation is refused for its mode exactly when it breaks the discipline. -/
theorem policerParse_create (parsed : policerAttrLoop 0 .zero attrs = .ok next) :
    policerParseUpdateAttributes .zero attrs .create .success = .ok next ∧ ¬ PolicerCreateBreaks attrs ∨
    (∃ status, policerParseUpdateAttributes .zero attrs .create .success = .error status) ∧
      PolicerCreateBreaks attrs := by
  have mode : next.policerMode = policerModeOfAttrs attrs := (policerAttrLoop_node attrs 0 .zero parsed).1
  have noPir : attrs.any PolicerAttr.isPir = false ↔ ∀ attr ∈ attrs, attr.isPir = false := by
    simp only [List.any_eq_false, Bool.not_eq_true]
  have others : attrs.all PolicerAttr.isStormControl = false ↔ ∃ attr ∈ attrs, attr.isStormControl = false := by
    simp only [List.all_eq_false, Bool.not_eq_true]
  unfold policerParseUpdateAttributes PolicerCreateBreaks
  dsimp only
  rw [parsed]
  dsimp only
  rw [mode, ← noPir, ← others]
  split
  · rename_i missing
    exact .inr ⟨⟨_, rfl⟩, .inr missing.2⟩
  rename_i present
  split
  · rename_i broken
    exact .inr ⟨⟨_, rfl⟩, .inl broken⟩
  rename_i kept
  refine .inl ⟨rfl, ?_⟩
  rintro (broken | missing)
  · exact kept broken
  · exact present ⟨rfl, missing⟩

theorem policerParse_create_ok {vendor : SaiStatus}
    (isOk : policerParseUpdateAttributes .zero attrs .create vendor = .ok node) :
    policerAttrLoop 0 .zero attrs = .ok node ∧ ¬ PolicerCreateBreaks attrs := by
  have accepted : vendor = .success := by
    unfold policerParseUpdateAttributes at isOk
    split at isOk
    · rfl
    · cases isOk
  subst accepted
  cases parsed : policerAttrLoop 0 .zero attrs with
  | error status =>
    unfold policerParseUpdateAttributes at isOk
    dsimp only at isOk
    rw [parsed] at isOk
    cases isOk
  | ok next =>
    rcases policerParse_create parsed with ⟨same, kept⟩ | ⟨⟨status, refused⟩, _⟩
    · rw [same] at isOk
      exact ⟨congrArg Except.ok (Except.ok.inj isOk), kept⟩
    · rw [refused] at isOk
      cases isOk

theorem PolicerDisciplined.create {vendor : SaiStatus} (nodup : (attrs.map PolicerAttr.attrId).Nodup)
    (mode : modeOf policerId = policerModeOfAttrs attrs)
    (isOk : policerParseUpdateAttributes .zero attrs .create vendor = .ok node) :
    PolicerDisciplined modeOf policerId { node with portDllHead := fun _ => [], aclDllHead := [] } attrs := by
  obtain ⟨parsed, kept⟩ := policerParse_create_ok isOk
  obtain ⟨isMode, actions⟩ := policerAttrLoop_node attrs 0 .zero parsed
  change node.policerMode = policerModeOfAttrs attrs at isMode
  refine ⟨fun storm attr listed => ?_, fun twoRate => ?_, mode.trans isMode.symm, ?_⟩
  · by_contra other
    exact kept (.inl ⟨isMode.symm.trans storm, attr, listed, (Bool.not_eq_true _).mp other⟩)
  · by_contra missing
    refine kept (.inr ⟨isMode.symm.trans twoRate, fun attr listed => ?_⟩)
    exact (Bool.not_eq_true _).mp fun isPir => missing ⟨attr, listed, isPir⟩
  · change (node.actionList.map PolicerAction.action).Nodup
    rw [actions]
    exact policerActions_nodup nodup

theorem PolicerDisciplined.set (disciplined : PolicerDisciplined modeOf policerId node given)
    (isOk : policerAttrSet node attr true = .ok next) (kept : ¬ PolicerSetBreaks node attr) :
    PolicerDisciplined modeOf policerId next (given ++ [attr]) := by
  have mode : next.policerMode = node.policerMode := by
    rw [policerAttrSet_mode isOk]
    cases attr with
    | mode value => exact by_contra fun other => kept (.inl ⟨value, rfl, other⟩)
    | _ => rfl
  refine ⟨fun storm other listed => ?_, fun twoRate => ?_, ?_, policerAttrSet_colors isOk disciplined.colors⟩
  · rw [mode] at storm
    rcases List.mem_append.mp listed with before | now
    · exact disciplined.storm storm other before
    · rw [List.mem_singleton.mp now]
      exact by_contra fun refused => kept (.inr ⟨storm, (Bool.not_eq_true _).mp refused⟩)
  · rw [mode] at twoRate
    obtain ⟨pir, listed, isPir⟩ := disciplined.twoRate twoRate
    exact ⟨pir, List.mem_append_left _ listed, isPir⟩
  · rw [mode]
    exact disciplined.mode

def PoliciesKept (ids : PolicerIds) (h : PolicerHistory) : Prop :=
  ∀ policerId node, h.db.policerTree.get policerId = some node →
    PolicerDisciplined ids.modeOf policerId node (h.given policerId)

theorem PoliciesKept.step (kept : PoliciesKept ids h) {call : PolicerModeCall} (meets : call.Meets h) :
    PoliciesKept ids (call.step ids h) := by
  intro policerId node stored
  unfold PolicerModeCall.step at stored ⊢
  dsimp only at stored ⊢
  cases call with
  | create attrs env =>
    unfold PolicerModeCall.run PolicerModeCall.gives at *
    dsimp only at stored ⊢
    rcases qosPolicerCreate_cases h.db attrs (ids.added attrs env) with
      ⟨error, same⟩ | ⟨success, made, parsed, absent, put⟩
    · rw [same] at stored
      rw [if_neg error]
      exact kept policerId node stored
    rw [put] at stored
    rw [if_pos success]
    by_cases new : policerId = ⟨.policer, (ids.added attrs env).npuObjectId⟩
    · subst new
      rw [KeyTree.get_put_self] at stored
      cases stored
      rw [Function.update_self]
      exact .create meets.1 (ids.typeOfObject_add _ _) parsed
    · rw [KeyTree.get_put_ne new] at stored
      rw [Function.update_of_ne new]
      exact kept policerId node stored
  | remove removedId npu =>
    unfold PolicerModeCall.run PolicerModeCall.gives at *
    dsimp only at stored ⊢
    rw [ite_self]
    rcases qosPolicerRemove_cases ids.modeOf h.db removedId npu with ⟨_, same⟩ | ⟨_, _, _, _, removed⟩
    · rw [same] at stored
      exact kept policerId node stored
    rw [removed] at stored
    by_cases gone : policerId = removedId
    · subst gone
      rw [KeyTree.get_del_self] at stored
      cases stored
    · rw [KeyTree.get_del_ne gone] at stored
      exact kept policerId node stored
  | attributeSet setId attr env =>
    unfold PolicerModeCall.run PolicerModeCall.gives at *
    dsimp only at stored ⊢
    rcases qosPolicerAttributeSet_cases ids.modeOf h.db setId attr env with
      ⟨error, same⟩ | ⟨success, old, next, found, isOk, put⟩
    · rw [same] at stored
      rw [if_neg error]
      exact kept policerId node stored
    · rw [put] at stored
      rw [if_pos success]
      by_cases here : policerId = setId
      · subst here
        rw [KeyTree.get_put_self] at stored
        cases stored
        rw [Function.update_self]
        exact (kept policerId old found).set isOk fun breaks => meets.2 policerId attr env rfl ⟨old, found, breaks⟩
      · rw [KeyTree.get_put_ne here] at stored
        rw [Function.update_of_ne here]
        exact kept policerId node stored

theorem policerCreate_refused_iff {env : PolicerCreateEnv} (admitted : PolicerCreateAdmitted s attrs env) :
    (qosPolicerCreate s attrs env).2 ≠ .success ↔ PolicerCreateBreaks attrs := by
  obtain ⟨next, parsed⟩ := admitted.values
  unfold qosPolicerCreate
  rw [if_neg (by rw [admitted.alloc]; exact Bool.noConfusion), admitted.vendor]
  rcases policerParse_create parsed with ⟨same, kept⟩ | ⟨⟨status, refused⟩, breaks⟩
  · rw [same]
    dsimp only
    rw [admitted.npu, admitted.treeOk, admitted.absent]
    exact iff_of_false (fun error => error rfl) kept
  · rw [refused]
    exact iff_of_true (policerParse_error refused) breaks

theorem policerSet_admitted {env : PolicerSetEnv} (admitted : PolicerSetAdmitted modeOf s policerId attr env) :
    (qosPolicerAttributeSet modeOf s policerId attr env).2 = .success := by
  obtain ⟨node, stored, users⟩ := admitted.stored
  obtain ⟨record, parsed⟩ := admitted.values
  obtain ⟨_, next, written⟩ := policerParse_set parsed node
  unfold qosPolicerAttributeSet
  rw [if_neg (not_not.mpr admitted.kind), stored]
  dsimp only
  rw [parsed]
  dsimp only
  rw [admitted.npu]
  dsimp only
  rw [users]
  dsimp only
  rw [written]

/-- In every run whose sets do not break it, the discipline holds. A creation is
refused exactly when it breaks it, a set that breaks it never is, and a refusal
changes nothing. -/
theorem policerModes_disciplined (reach : Runs.Reach PolicerHistory.Fresh
      (Runs.guarded PolicerModeCall.Meets (PolicerModeCall.step ids)) h) :
    (∀ policerId node, h.db.policerTree.get policerId = some node →
      PolicerDisciplined ids.modeOf policerId node (h.given policerId)) ∧
    (∀ attrs env, PolicerCreateAdmitted h.db attrs env →
      ((qosPolicerCreate h.db attrs env).2 ≠ .success ↔ PolicerCreateBreaks attrs)) ∧
    (∀ policerId attr env, PolicerSetAdmitted ids.modeOf h.db policerId attr env →
      (((qosPolicerAttributeSet ids.modeOf h.db policerId attr env).2 ≠ .success ↔
          (PolicerModeCall.attributeSet policerId attr env).Breaks h.db) ↔
        ¬ (PolicerModeCall.attributeSet policerId attr env).Breaks h.db)) ∧
    ∀ call : PolicerModeCall, (call.run ids h.db).2 ≠ .success → (call.run ids h.db).1 = h.db := by
  refine ⟨?_, fun _ _ => policerCreate_refused_iff, fun policerId attr env admitted => ?_, fun call error => ?_⟩
  · refine reach.invariant (PoliciesKept ids) ?_ ?_
    · intro h fresh policerId node stored
      rw [fresh, KeyTree.get_empty] at stored
      cases stored
    · rintro h call _ kept ⟨meets, rfl⟩
      exact kept.step meets
  · have accepted := policerSet_admitted admitted
    constructor
    · exact fun judged breaks => judged.mpr breaks accepted
    · exact fun kept => iff_of_false (fun error => error accepted) kept
  · cases call with
    | create attrs env =>
      rcases qosPolicerCreate_cases h.db attrs (ids.added attrs env) with ⟨_, same⟩ | ⟨success, _⟩
      · exact same
      · exact absurd success error
    | remove policerId npu =>
      rcases qosPolicerRemove_cases ids.modeOf h.db policerId npu with ⟨_, same⟩ | ⟨success, _⟩
      · exact same
      · exact absurd success error
    | attributeSet policerId attr env =>
      rcases qosPolicerAttributeSet_cases ids.modeOf h.db policerId attr env with ⟨_, same⟩ | ⟨success, _⟩
      · exact same
      · exact absurd success error

end Disciplined

def policerModeSample : PolicerHistory := ⟨⟨∅, ∅⟩, fun _ => []⟩

/-- The mode stands in the last two bits; another mode takes the number's place. -/
def policerIdsSample : PolicerIds where
  addTypeToObject hwPolicerId
    | .srTcm => 4 * hwPolicerId
    | .trTcm => 4 * hwPolicerId + 1
    | .stormControl => 4 * hwPolicerId + 2
    | .other value => 4 * value + 3
  typeOfObject number := match number % 4 with
    | 0 => .srTcm
    | 1 => .trTcm
    | 2 => .stormControl
    | _ => .other (number / 4)
  typeOfObject_add hwPolicerId mode := by
    cases mode <;> simp [Nat.add_mod]
    omega

def policerModeRun (attr : PolicerAttr) : List PolicerModeCall :=
  [.create [.meterType 1, .mode .stormControl, .pir 100] ⟨true, .success, .success, 1, true⟩,
    .attributeSet ⟨.policer, 6⟩ attr (stormSampleEnv false)]

theorem policerModes_disciplined_sample : ∃ node,
    ((policerModeRun (.pir 200)).foldl (PolicerModeCall.step policerIdsSample)
      policerModeSample).db.policerTree.get ⟨.policer, 6⟩ = some node ∧
    PolicerDisciplined policerIdsSample.modeOf ⟨.policer, 6⟩ node
      (((policerModeRun (.pir 200)).foldl (PolicerModeCall.step policerIdsSample)
        policerModeSample).given ⟨.policer, 6⟩) := by
  have allowed : Runs.AllowedRun PolicerModeCall.Meets
      (PolicerModeCall.step policerIdsSample) policerModeSample (policerModeRun (.pir 200)) := by
    refine ⟨⟨?_, ?_⟩, ⟨trivial, ?_⟩, trivial⟩
    · change List.Nodup _
      decide
    · intro _ _ _ is
      cases is
    · rintro _ _ _ is ⟨node, stored, breaks⟩
      cases is
      cases Option.some.inj stored
      rcases breaks with ⟨_, isMode, _⟩ | ⟨_, isStorm⟩
      · cases isMode
      · cases isStorm
  have fresh : policerModeSample.Fresh := rfl
  exact ⟨_, rfl, (policerModes_disciplined (.run (.start fresh) allowed)).1 _ _ rfl⟩

/-- A storm-control policer is given a CBS. -/
theorem policerModes_not_disciplined : ¬ ∀ (ids : PolicerIds) (h : PolicerHistory),
    Runs.Reach PolicerHistory.Fresh (Runs.guarded (fun _ call => PolicerModeCall.Proper call)
      (PolicerModeCall.step ids)) h → ∀ policerId node, h.db.policerTree.get policerId = some node →
      PolicerDisciplined ids.modeOf policerId node (h.given policerId) := by
  intro all
  have fresh : policerModeSample.Fresh := rfl
  have disciplined := all policerIdsSample
    ((policerModeRun (.cbs 5)).foldl (PolicerModeCall.step policerIdsSample) policerModeSample)
    (.run (.start fresh) ⟨show List.Nodup _ by decide, trivial, trivial⟩) ⟨.policer, 6⟩ _ rfl
  exact absurd (disciplined.storm (by decide) (.cbs 5) (by decide)) (by decide)

end SaiCommon
