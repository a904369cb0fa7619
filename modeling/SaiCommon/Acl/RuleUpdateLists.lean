import SaiCommon.Acl.RuleFrames
import SaiCommon.Lib.KeyedList

namespace SaiCommon

variable {scan : AclAction} {actions : List AclAction} {q : AclFieldId → Bool} {filters : List AclFilter}

section Update
variable {s : AclState} {env : AclUpdateEnv} {given modify : AclRule} {platform : AclPlatform}

variable (s env given modify) in
theorem aclRuleUpdateCounterAction_lists (counterAction : Bool) :
    (aclRuleUpdateCounterAction s env modify given counterAction).1.filterList = given.filterList ∧
      (aclRuleUpdateCounterAction s env modify given counterAction).1.actionList = given.actionList := by
  unfold aclRuleUpdateCounterAction
  split
  · split
    · split
      · exact ⟨rfl, rfl⟩
      · exact ⟨rfl, rfl⟩
    · exact ⟨rfl, rfl⟩
  · split
    · split
      · split
        · exact ⟨rfl, rfl⟩
        · exact ⟨rfl, rfl⟩
      · exact ⟨rfl, rfl⟩
    · exact ⟨rfl, rfl⟩

variable (s env given modify) in
theorem aclCounterStep_lists (scan : AclAction) :
    ∃ moved status, (if scan.action = .counter then aclRuleUpdateCounterAction s env modify given scan.enable
        else (given, .success)) = (moved, status) ∧ moved.filterList = given.filterList ∧
      moved.actionList = given.actionList ∧ (status ≠ .success → scan.action = .counter) := by
  split
  · rename_i isCounter
    obtain ⟨filters, actions⟩ := aclRuleUpdateCounterAction_lists s env given modify scan.enable
    exact ⟨_, _, rfl, filters, actions, fun _ => isCounter⟩
  · exact ⟨given, .success, rfl, rfl, rfl, fun failed => absurd rfl failed⟩

theorem aclRuleUpdateFieldAction_none (noFilter : modify.filterList = []) (noAction : modify.actionList = []) :
    (aclRuleUpdateFieldAction s env modify given).1 = given := by
  simp only [aclRuleUpdateFieldAction, noFilter, noAction, aclFilterChangeLoop, aclActionChangeLoop, List.any_nil,
    Bool.false_eq_true, if_false]

/-- What a set of one field makes of the stored filters. -/
def aclFilterListSet (env : AclUpdateEnv) (scan : AclFilter) (filters : List AclFilter) : List AclFilter :=
  match aclFilterMark filters scan with
  | .same => filters
  | .change => (aclFilterListUpdate env scan filters).1
  | .new =>
    match if env.alloc = false then .error .noMemory else aclFilterNew env scan with
    | .error _ => filters
    | .ok filter => filters ++ [filter]

def aclActionListSet (env : AclUpdateEnv) (scan : AclAction) (actions : List AclAction) : List AclAction :=
  match aclActionMark actions scan with
  | .same => actions
  | .change => (aclActionListUpdate env scan actions).1
  | .new =>
    match if env.alloc = false then .error .noMemory else aclActionNew env scan with
    | .error _ => actions
    | .ok action => actions ++ [action]

variable (s given) in
theorem aclRuleUpdateFieldAction_filter {scan : AclFilter} (one : modify.filterList = [scan])
    (noAction : modify.actionList = []) :
    (aclRuleUpdateFieldAction s env modify given).1.actionList = given.actionList ∧
      (aclRuleUpdateFieldAction s env modify given).1.filterList = aclFilterListSet env scan given.filterList := by
  unfold aclFilterListSet
  cases mark : aclFilterMark given.filterList scan with
  | same =>
    simp [aclRuleUpdateFieldAction, one, noAction, aclFilterChangeLoop, aclActionChangeLoop, mark]
  | change =>
    cases updated : aclFilterListUpdate env scan given.filterList with
    | mk filters status =>
      cases status <;>
        simp [aclRuleUpdateFieldAction, one, noAction, aclFilterChangeLoop, aclActionChangeLoop, mark, updated]
  | new =>
    cases alloc : env.alloc with
    | false =>
      simp [aclRuleUpdateFieldAction, one, noAction, aclFilterChangeLoop, aclActionChangeLoop, mark,
        aclRuleUpdateNewFields, alloc]
    | true =>
      cases made : aclFilterNew env scan with
      | error status =>
        cases status <;>
          simp [aclRuleUpdateFieldAction, one, noAction, aclFilterChangeLoop, aclActionChangeLoop, mark,
            aclRuleUpdateNewFields, alloc, aclNewFilters, made]
      | ok filter =>
        simp [aclRuleUpdateFieldAction, one, noAction, aclFilterChangeLoop, aclActionChangeLoop, mark,
          aclRuleUpdateNewFields, alloc, aclNewFilters, made]

variable (s given) in
theorem aclRuleUpdateFieldAction_action (noFilter : modify.filterList = []) (one : modify.actionList = [scan]) :
    (aclRuleUpdateFieldAction s env modify given).1.filterList = given.filterList ∧
      ((aclRuleUpdateFieldAction s env modify given).1.actionList = aclActionListSet env scan given.actionList ∨
        scan.action = .counter ∧ (aclRuleUpdateFieldAction s env modify given).1.actionList = given.actionList) := by
  unfold aclActionListSet
  obtain ⟨moved, status, step, sameFilters, sameActions, failed⟩ := aclCounterStep_lists s env given modify scan
  cases mark : aclActionMark given.actionList scan with
  | same =>
    simp [aclRuleUpdateFieldAction, one, noFilter, aclFilterChangeLoop, aclActionChangeLoop, mark]
  | change =>
    by_cases ok : status = .success
    · rw [ok] at step
      cases updated : aclActionListUpdate env scan given.actionList with
      | mk actions status =>
        cases status <;>
          simp [aclRuleUpdateFieldAction, one, noFilter, aclFilterChangeLoop, aclActionChangeLoop, mark, step,
            sameFilters, sameActions, updated]
    · have isCounter := failed ok
      rw [if_pos isCounter] at step
      simp [aclRuleUpdateFieldAction, one, noFilter, aclFilterChangeLoop, aclActionChangeLoop, mark, isCounter, step,
        sameFilters, sameActions]
  | new =>
    cases alloc : env.alloc with
    | false =>
      simp [aclRuleUpdateFieldAction, one, noFilter, aclFilterChangeLoop, aclActionChangeLoop, mark,
        aclRuleUpdateNewActions, alloc]
    | true =>
      cases made : aclActionNew env scan with
      | error status =>
        cases status <;>
          simp [aclRuleUpdateFieldAction, one, noFilter, aclFilterChangeLoop, aclActionChangeLoop, mark,
            aclRuleUpdateNewActions, alloc, aclNewActions, made]
      | ok action =>
        by_cases ok : status = .success
        · rw [ok] at step
          simp [aclRuleUpdateFieldAction, one, noFilter, aclFilterChangeLoop, aclActionChangeLoop, mark,
            aclRuleUpdateNewActions, alloc, aclNewActions, made, step, sameFilters, sameActions]
        · have isCounter := failed ok
          rw [if_pos isCounter] at step
          simp [aclRuleUpdateFieldAction, one, noFilter, aclFilterChangeLoop, aclActionChangeLoop, mark,
            aclRuleUpdateNewActions, alloc, aclNewActions, made, isCounter, step, sameFilters, sameActions]

variable (s env modify platform) in
theorem aclRuleUpdate_lists (given : AclRule) : ∃ next : AclRule,
    aclRuleUpdate s platform env modify given = (aclRuleUpdateFieldAction s env modify next).1 ∧
      next.filterList = given.filterList ∧ next.actionList = given.actionList :=
  ⟨_, rfl, rfl, rfl⟩

theorem aclRuleUpdate_none (noFilter : modify.filterList = []) (noAction : modify.actionList = []) :
    (aclRuleUpdate s platform env modify given).filterList = given.filterList ∧
      (aclRuleUpdate s platform env modify given).actionList = given.actionList := by
  obtain ⟨next, result, filters, actions⟩ := aclRuleUpdate_lists s env modify platform given
  rw [result, aclRuleUpdateFieldAction_none noFilter noAction]
  exact ⟨filters, actions⟩

theorem aclRuleUpdate_filter {scan : AclFilter} (one : modify.filterList = [scan])
    (noAction : modify.actionList = []) :
    (aclRuleUpdate s platform env modify given).actionList = given.actionList ∧
      (aclRuleUpdate s platform env modify given).filterList = aclFilterListSet env scan given.filterList := by
  obtain ⟨next, result, filters, actions⟩ := aclRuleUpdate_lists s env modify platform given
  obtain ⟨sameActions, set⟩ := aclRuleUpdateFieldAction_filter s next one noAction
  rw [result, ← filters, ← actions]
  exact ⟨sameActions, set⟩

theorem aclRuleUpdate_action (noFilter : modify.filterList = []) (one : modify.actionList = [scan]) :
    (aclRuleUpdate s platform env modify given).filterList = given.filterList ∧
      ((aclRuleUpdate s platform env modify given).actionList = aclActionListSet env scan given.actionList ∨
        scan.action = .counter ∧ (aclRuleUpdate s platform env modify given).actionList = given.actionList) := by
  obtain ⟨next, result, filters, actions⟩ := aclRuleUpdate_lists s env modify platform given
  obtain ⟨sameFilters, set⟩ := aclRuleUpdateFieldAction_action s next noFilter one
  rw [result, ← filters, ← actions]
  exact ⟨sameFilters, set⟩

theorem aclRulePolicerUpdate_lists (s : AclState) (ruleId : ObjectId) (rule : AclRule) (policerId : ObjectId) :
    (aclRulePolicerUpdate s ruleId rule policerId).2.1.filterList = rule.filterList ∧
      (aclRulePolicerUpdate s ruleId rule policerId).2.1.actionList = rule.actionList := by
  unfold aclRulePolicerUpdate
  split
  · split
    · exact ⟨rfl, rfl⟩
    split
    · exact ⟨rfl, rfl⟩
    · exact ⟨rfl, rfl⟩
  · split
    · split
      · exact ⟨rfl, rfl⟩
      · exact ⟨rfl, rfl⟩
    · exact ⟨rfl, rfl⟩

end Update

section Scratch
variable {lookups : AclLookups} {platform : AclPlatform} {table : AclTable} {present modify : AclRule}

theorem aclRuleModify_populated {attr : AclRuleAttr}
    (ok : aclRuleModify lookups platform table attr present = .ok modify) :
    ∃ next, aclRulePopulateAttr lookups 0 platform table .zero attr = .ok next ∧
      modify.filterList = next.filterList ∧ modify.actionList = next.actionList := by
  unfold aclRuleModify aclRulePopulate at ok
  split at ok
  · cases ok
  rename_i populated isOk
  cases ok
  split at isOk
  · cases isOk
  split at isOk
  · cases isOk
  rename_i rule looped
  unfold aclRulePopulateLoop at looped
  split at looped
  · cases looped
  rename_i made
  cases looped
  refine ⟨rule, made, ?_⟩
  split at isOk
  · cases isOk
    exact ⟨rfl, rfl⟩
  · cases isOk
    exact ⟨rfl, rfl⟩

theorem aclRuleModify_field {id : AclFieldId} {enable : Bool} {value : AclFieldValue}
    (ok : aclRuleModify lookups platform table (.field id enable value) present = .ok modify) :
    ∃ filter, aclFilterPopulate lookups 0 table id enable value = .ok filter ∧ modify.filterList = [filter] ∧
      modify.actionList = [] := by
  obtain ⟨next, made, filters, actions⟩ := aclRuleModify_populated ok
  unfold aclRulePopulateAttr at made
  dsimp only at made
  split at made
  · cases made
  rename_i filter populated
  cases made
  exact ⟨filter, populated, filters, actions⟩

theorem aclRuleModify_action {id : AclActionId} {enable : Bool} {parameter : AclParameter}
    (ok : aclRuleModify lookups platform table (.action id enable parameter) present = .ok modify) :
    ∃ stored, aclActionPopulateAttrType lookups 0 id enable parameter = .ok stored ∧ modify.filterList = [] ∧
      modify.actionList = [⟨id, enable, stored⟩] := by
  obtain ⟨next, made, filters, actions⟩ := aclRuleModify_populated ok
  unfold aclRulePopulateAttr at made
  dsimp only at made
  split at made
  · cases made
  rename_i stored populated
  split at made
  · cases made
  rename_i effect
  cases made
  exact ⟨stored, populated, filters.trans ((aclActionEffect_frame effect).2), actions⟩

theorem aclRuleModify_rest {attr : AclRuleAttr} (notField : ∀ id enable value, attr ≠ .field id enable value)
    (notAction : ∀ id enable parameter, attr ≠ .action id enable parameter)
    (ok : aclRuleModify lookups platform table attr present = .ok modify) :
    modify.filterList = [] ∧ modify.actionList = [] := by
  obtain ⟨next, made, filters, actions⟩ := aclRuleModify_populated ok
  cases attr with
  | field id enable value => exact absurd rfl (notField id enable value)
  | action id enable parameter => exact absurd rfl (notAction id enable parameter)
  | tableId id =>
    cases made
    exact ⟨filters, actions⟩
  | priority value =>
    cases made
    exact ⟨filters, actions⟩
  | adminState state =>
    cases made
    exact ⟨filters, actions⟩
  | unknown id => cases made
  | outOfRange id => cases made

end Scratch

section Lists
variable {env : AclUpdateEnv}

theorem aclActionUpdate_action {given : AclAction} (same : given.action = scan.action) :
    (aclActionUpdate env scan given).1.action = given.action := by
  unfold aclActionUpdate
  split
  · split
    · rfl
    · rfl
  · exact same.symm

theorem aclActionNew_action {action : AclAction} (ok : aclActionNew env scan = .ok action) :
    action.action = scan.action := by
  unfold aclActionNew at ok
  split at ok
  · split at ok
    · cases ok
    · cases ok
      rfl
  · cases ok
    rfl

variable (env) in
theorem aclActionListSet_keyed (scan : AclAction) (actions : List AclAction) :
    KeyedSet AclAction.action scan.action (fun given => (aclActionUpdate env scan given).1)
      (fun action => aclActionNew env scan = .ok action) actions (aclActionListSet env scan actions) := by
  unfold aclActionListSet aclActionMark
  cases found : actions.find? fun action => action.action == scan.action with
  | none =>
    dsimp only
    split
    · exact .same
    rename_i action made
    split at made
    · cases made
    exact .added action made fun other member same => List.find?_eq_none.mp found other member (beq_iff_eq.mpr same)
  | some given =>
    dsimp only
    cases aclCheckActionChange given scan with
    | false => exact .same
    | true =>
      refine .of_update (u := fun actions => (aclActionListUpdate env scan actions).1) ?_ ?_ found
      · intro action rest same
        rw [aclActionListUpdate, if_pos same]
      · intro action rest apart
        rw [aclActionListUpdate, if_neg apart]

theorem aclActionListSet_nodup (unique : (actions.map AclAction.action).Nodup) :
    ((aclActionListSet env scan actions).map AclAction.action).Nodup :=
  (aclActionListSet_keyed env scan actions).nodup (fun _ same => (aclActionUpdate_action same).trans same)
    (fun _ made => aclActionNew_action made) unique

theorem aclActionListSet_find {q : AclActionId → Bool}
    (other : ∀ action, (actions.find? fun action => q action.action) = some action → action.action ≠ scan.action)
    (absent : (actions.find? fun action => q action.action) = none → q scan.action = false) :
    ((aclActionListSet env scan actions).find? fun action => q action.action) =
      actions.find? fun action => q action.action :=
  (aclActionListSet_keyed env scan actions).find (fun _ same => (aclActionUpdate_action same).trans same)
    (fun _ made => aclActionNew_action made) other absent

theorem aclActionListSet_plain {q : AclActionId → Bool} (alloc : env.alloc = true)
    (plain : aclObjectListActionAttr scan.action = false) (isOne : q scan.action = true)
    (only : ∀ id, q id = true → id = scan.action) (actions : List AclAction) :
    ((aclActionListSet env scan actions).find? fun action => q action.action) = some scan := by
  have made : aclActionNew env scan = .ok scan := by
    unfold aclActionNew
    rw [plain]
    rfl
  have kind : ∀ id, q id = (id == scan.action) := fun id => by
    rw [Bool.eq_iff_iff, beq_iff_eq]
    exact ⟨only id, fun same => by rw [same]; exact isOne⟩
  simp only [kind]
  unfold aclActionListSet aclActionMark
  rw [alloc, made]
  cases found : actions.find? fun action => action.action == scan.action with
  | none =>
    dsimp only
    rw [if_neg (Ne.symm Bool.false_ne_true)]
    dsimp only
    rw [List.find?_append, found, List.find?_singleton, beq_self_eq_true]
    rfl
  | some given =>
    have isOne := List.find?_some found
    have sameId : given.action = scan.action := beq_iff_eq.mp isOne
    dsimp only
    cases changed : aclCheckActionChange given scan with
    | true =>
      have isScan : (aclActionUpdate env scan given).1 = scan := by
        unfold aclActionUpdate
        rw [sameId, plain]
        rfl
      have set := find_update (q := fun id => id == scan.action)
        (u := fun actions => (aclActionListUpdate env scan actions).1)
        (f := fun given => (aclActionUpdate env scan given).1)
        (fun action rest same => by rw [aclActionListUpdate, if_pos same])
        (fun action rest apart => by rw [aclActionListUpdate, if_neg apart]) (by rw [isScan, sameId]) found sameId
      rw [isScan] at set
      exact set
    | false =>
      unfold aclCheckActionChange at changed
      rw [plain] at changed
      simp only [Bool.or_false, Bool.or_eq_false_iff, decide_eq_false_iff_not, ne_eq, not_not] at changed
      have same : given = scan := by
        obtain ⟨action, enable, parameter⟩ := given
        obtain ⟨action', enable', parameter'⟩ := scan
        simp only [AclAction.mk.injEq]
        exact ⟨sameId, changed.1.symm, changed.2.symm⟩
      rw [same] at found
      exact found

theorem aclFilterUpdate_field {scan given : AclFilter} (same : given.field = scan.field) :
    (aclFilterUpdate env scan given).1.field = given.field := by
  unfold aclFilterUpdate
  split
  · split
    · rfl
    · rfl
  · split
    · split
      · rfl
      · rfl
    · exact same.symm

theorem aclFilterNew_field {scan filter : AclFilter} (ok : aclFilterNew env scan = .ok filter) :
    filter.field = scan.field := by
  unfold aclFilterNew at ok
  split at ok
  · split at ok
    · cases ok
    · cases ok
      rfl
  · split at ok
    · split at ok
      · cases ok
      · cases ok
        rfl
    · cases ok
      rfl

variable (env) in
theorem aclFilterListSet_keyed (scan : AclFilter) (filters : List AclFilter) :
    KeyedSet AclFilter.field scan.field (fun given => (aclFilterUpdate env scan given).1)
      (fun filter => aclFilterNew env scan = .ok filter) filters (aclFilterListSet env scan filters) := by
  unfold aclFilterListSet aclFilterMark
  cases found : filters.find? fun filter => filter.field == scan.field with
  | none =>
    dsimp only
    split
    · exact .same
    rename_i filter made
    split at made
    · cases made
    exact .added filter made fun other member same => List.find?_eq_none.mp found other member (beq_iff_eq.mpr same)
  | some given =>
    dsimp only
    cases aclCheckFilterChange given scan with
    | false => exact .same
    | true =>
      refine .of_update (u := fun filters => (aclFilterListUpdate env scan filters).1) ?_ ?_ found
      · intro filter rest same
        rw [aclFilterListUpdate, if_pos same]
      · intro filter rest apart
        rw [aclFilterListUpdate, if_neg apart]

theorem aclFilterListSet_find {scan : AclFilter}
    (other : ∀ filter, (filters.find? fun filter => q filter.field) = some filter → filter.field ≠ scan.field)
    (absent : (filters.find? fun filter => q filter.field) = none → q scan.field = false) :
    ((aclFilterListSet env scan filters).find? fun filter => q filter.field) =
      filters.find? fun filter => q filter.field :=
  (aclFilterListSet_keyed env scan filters).find (fun _ same => (aclFilterUpdate_field same).trans same)
    (fun _ made => aclFilterNew_field made) other absent

theorem aclFilterListSet_first {scan given : AclFilter}
    (first : (filters.find? fun filter => q filter.field) = some given) (same : given.field = scan.field) :
    ((aclFilterListSet env scan filters).find? fun filter => q filter.field) =
      some (if aclCheckFilterChange given scan then (aclFilterUpdate env scan given).1 else given) := by
  unfold aclFilterListSet aclFilterMark
  rw [find_key first same]
  dsimp only
  cases aclCheckFilterChange given scan with
  | true =>
    refine find_update (u := fun filters => (aclFilterListUpdate env scan filters).1)
      (f := fun given => (aclFilterUpdate env scan given).1) ?_ ?_ (aclFilterUpdate_field same) first same
    · intro filter rest same
      rw [aclFilterListUpdate, if_pos same]
    · intro filter rest apart
      rw [aclFilterListUpdate, if_neg apart]
  | false => exact first

end Lists
end SaiCommon
