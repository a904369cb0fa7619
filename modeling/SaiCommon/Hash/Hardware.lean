import Mathlib.Data.List.Nodup
import SaiCommon.Lib.Runs
import SaiCommon.Hash.Object

namespace SaiCommon

open KeyTree

variable {allocOk : Bool} {groupType : ObjectId → Option UdfGroupType} {next : Option ObjectId}

def hashUses (types : SwitchHashAttr → Option ObjectId) (hashObjId : ObjectId) : Nat :=
  (switchHashAttrs.map types).count (some hashObjId)

/-- The NPU has for every attribute that was set the lists of the object that is
assigned to it, and every object counts its attributes. -/
structure HashAgrees (s : HashState) : Prop where
  hardware : ∀ attr fields, s.npuFields attr = some fields → fields = s.assigned (s.hashObjTypes attr)
  told : ∀ attr, s.hashObjTypes attr ≠ none → s.npuFields attr ≠ none
  stored : ∀ attr hashObjId, s.hashObjTypes attr = some hashObjId → s.hashObjTree.get hashObjId ≠ none
  counted : ∀ hashObjId object, s.hashObjTree.get hashObjId = some object →
    object.refCount = hashUses s.hashObjTypes hashObjId

inductive HashEvent
  | create (attrs : List HashAttr) (validate : SaiStatus) (env : HashCreateEnv)
  | remove (hashObjId : ObjectId)
  | setAttr (hashObjId : ObjectId) (attr : HashAttr) (env : HashSetEnv)
  | switchAttrSet (attr : SwitchHashAttr) (hashObjId : ObjectId) (npu : SaiStatus)

def HashEvent.step (s : HashState) : HashEvent → HashState
  | .create attrs validate env => (hashObjCreate s attrs validate env).1
  | .remove hashObjId => (hashObjRemove s hashObjId).1
  | .setAttr hashObjId attr env => (hashObjSetAttr s hashObjId attr env).1
  | .switchAttrSet attr hashObjId npu => (switchHashAttrSet s attr hashObjId npu).1

def HashEvent.ordered (_ : HashState) : HashEvent → Prop
  | .setAttr _ _ env => ∀ attr, env.undo attr = .success
  | _ => True

def HashAttr.listEmpty : HashAttr → Bool
  | .nativeFieldList value => value.isEmpty
  | .udfGroupList value => value.isEmpty
  | .other => true

def HashEvent.kept (s : HashState) : HashEvent → Prop
  | .setAttr hashObjId attr env => (∃ a, s.hashObjTypes a = some hashObjId) →
    (∀ a, s.hashObjTypes a = some hashObjId → env.npu a = .success) → attr.listEmpty = true ∨ env.allocOk = true
  | _ => True

section Uses
variable {types : SwitchHashAttr → Option ObjectId} {hashObjId : ObjectId}

theorem hashUses_update (attr : SwitchHashAttr) (next : Option ObjectId) :
    (hashUses (Function.update types attr next) hashObjId : Int) =
      hashUses types hashObjId - (if types attr = some hashObjId then 1 else 0) +
        if next = some hashObjId then 1 else 0 := by
  have nodup : switchHashAttrs.Nodup := by decide
  have here : switchHashAttrs.idxOf attr < (switchHashAttrs.map types).length := by
    rw [List.length_map]
    exact List.idxOf_lt_length_of_mem (mem_switchHashAttrs attr)
  have entry : (switchHashAttrs.map types)[switchHashAttrs.idxOf attr] = types attr := by
    rw [List.getElem_map, List.getElem_idxOf]
  unfold hashUses
  rw [nodup.map_update, if_pos (mem_switchHashAttrs attr), List.count_set here, entry]
  simp only [beq_iff_eq]
  by_cases before : types attr = some hashObjId
  · have positive : 0 < (switchHashAttrs.map types).count (some hashObjId) := by
      rw [← before]
      exact List.count_pos_iff.mpr (List.mem_map_of_mem (mem_switchHashAttrs attr))
    rw [if_pos before, if_pos before]
    split <;> omega
  · rw [if_neg before, if_neg before]
    split <;> omega

theorem hashUses_pos : 0 < hashUses types hashObjId ↔ ∃ attr, types attr = some hashObjId := by
  unfold hashUses
  rw [List.count_pos_iff, List.mem_map]
  constructor
  · rintro ⟨attr, _, same⟩
    exact ⟨attr, same⟩
  · rintro ⟨attr, same⟩
    exact ⟨attr, mem_switchHashAttrs attr, same⟩

end Uses

section Loops
variable (hashObjId : ObjectId) (fields : HashFields) (npu : SwitchHashAttr → SaiStatus)

/-- The attributes among the visited ones that have the new fields when the loop
ends are all that the object has, or the NPU has refused one of them. -/
theorem hashSetLoop_spec (attrs : List SwitchHashAttr) : ∀ s status done,
    ∃ more, (∀ a ∈ more, s.hashObjTypes a = some hashObjId) ∧
      (hashSetLoop hashObjId fields npu s status done attrs).1 =
        { s with npuFields := fun a => if a ∈ more then some fields else s.npuFields a } ∧
      (hashSetLoop hashObjId fields npu s status done attrs).2.2 = done ++ more ∧
      ((∀ a ∈ attrs, s.hashObjTypes a = some hashObjId → npu a = .success) ∧
          (∀ a, a ∈ more ↔ a ∈ attrs ∧ s.hashObjTypes a = some hashObjId) ∧
          (hashSetLoop hashObjId fields npu s status done attrs).2.1 = (if more = [] then status else .success) ∨
        (∃ a ∈ attrs, s.hashObjTypes a = some hashObjId ∧ npu a ≠ .success) ∧
          (hashSetLoop hashObjId fields npu s status done attrs).2.1 ≠ .success) := by
  induction attrs with
  | nil =>
    intro s status done
    refine ⟨[], fun a member => absurd member List.not_mem_nil, ?_, (List.append_nil done).symm, .inl ?_⟩
    · simp only [List.not_mem_nil, if_false]
      rfl
    · refine ⟨fun a member => absurd member List.not_mem_nil, fun a => ?_, rfl⟩
      simp only [List.not_mem_nil, false_and]
  | cons attr rest ih =>
    intro s status done
    unfold hashSetLoop
    by_cases here : s.hashObjTypes attr = some hashObjId
    · rw [if_pos here]
      split
      · rename_i accepted
        obtain ⟨more, uses, state, dones, ending⟩ := ih (s.npuSet attr fields) .success (done ++ [attr])
        refine ⟨attr :: more, fun a member => ?_, ?_, ?_, ?_⟩
        · rcases List.mem_cons.mp member with rfl | member
          · exact here
          · exact uses a member
        · rw [state]
          unfold HashState.npuSet
          dsimp only
          congr 1
          funext a
          rw [Function.update_apply]
          by_cases later : a ∈ more
          · rw [if_pos later, if_pos (List.mem_cons_of_mem _ later)]
          rw [if_neg later]
          by_cases same : a = attr
          · rw [if_pos same, if_pos (List.mem_cons.mpr (.inl same))]
          · rw [if_neg same, if_neg fun member => (List.mem_cons.mp member).elim same later]
        · rw [dones, List.append_assoc, List.singleton_append]
        · rcases ending with ⟨all, members, result⟩ | ⟨⟨a, member, used, refused⟩, failed⟩
          · refine .inl ⟨fun a member used => ?_, fun a => ?_, ?_⟩
            · rcases List.mem_cons.mp member with rfl | member
              · exact accepted
              · exact all a member used
            · rw [List.mem_cons, members a, List.mem_cons]
              constructor
              · rintro (rfl | ⟨member, used⟩)
                · exact ⟨.inl rfl, here⟩
                · exact ⟨.inr member, used⟩
              · rintro ⟨same | member, used⟩
                · exact .inl same
                · exact .inr ⟨member, used⟩
            · rw [result, ite_self, if_neg (List.cons_ne_nil attr more)]
          · exact .inr ⟨⟨a, List.mem_cons_of_mem _ member, used, refused⟩, failed⟩
      · rename_i refused
        refine ⟨[], fun a member => absurd member List.not_mem_nil, ?_, (List.append_nil done).symm,
          .inr ⟨⟨attr, List.mem_cons_self, here, refused⟩, refused⟩⟩
        simp only [List.not_mem_nil, if_false]
    · rw [if_neg here]
      obtain ⟨more, uses, state, dones, ending⟩ := ih s status done
      refine ⟨more, uses, state, dones, ?_⟩
      rcases ending with ⟨all, members, result⟩ | ⟨⟨a, member, used, refused⟩, failed⟩
      · refine .inl ⟨fun a member used => ?_, fun a => ?_, result⟩
        · rcases List.mem_cons.mp member with rfl | member
          · exact absurd used here
          · exact all a member used
        · rw [members a, List.mem_cons]
          constructor
          · rintro ⟨member, used⟩
            exact ⟨.inr member, used⟩
          · rintro ⟨rfl | member, used⟩
            · exact absurd used here
            · exact ⟨member, used⟩
      · exact .inr ⟨⟨a, List.mem_cons_of_mem _ member, used, refused⟩, failed⟩

theorem hashResetLoop_spec {undo : SwitchHashAttr → SaiStatus} (undoOk : ∀ a, undo a = .success)
    (attrs : List SwitchHashAttr) : ∀ s : HashState,
    hashResetLoop fields undo s attrs =
      { s with npuFields := fun a => if a ∈ attrs then some fields else s.npuFields a } := by
  induction attrs with
  | nil =>
    intro s
    simp only [List.not_mem_nil, if_false]
    rfl
  | cons attr rest ih =>
    intro s
    unfold hashResetLoop
    rw [if_pos (undoOk attr), ih]
    unfold HashState.npuSet
    dsimp only
    congr 1
    funext a
    rw [Function.update_apply]
    by_cases later : a ∈ rest
    · rw [if_pos later, if_pos (List.mem_cons_of_mem _ later)]
    rw [if_neg later]
    by_cases same : a = attr
    · rw [if_pos same, if_pos (List.mem_cons.mpr (.inl same))]
    · rw [if_neg same, if_neg fun member => (List.mem_cons.mp member).elim same later]

end Loops

variable {s : HashState} {hashObjId : ObjectId} {object : HashObject}

theorem HashState.assigned_some (stored : s.hashObjTree.get hashObjId = some object) :
    s.assigned (some hashObjId) = object.fields := by
  unfold assigned
  rw [Option.bind_some, stored]

theorem HashAgrees.npuFields (agrees : HashAgrees s) (stored : s.hashObjTree.get hashObjId = some object)
    {attr : SwitchHashAttr} (used : s.hashObjTypes attr = some hashObjId) :
    s.npuFields attr = some object.fields := by
  have told := agrees.told attr (by rw [used]; exact Option.some_ne_none _)
  obtain ⟨fields, isTold⟩ := Option.ne_none_iff_exists'.mp told
  have same := agrees.hardware attr fields isTold
  rw [used, HashState.assigned_some stored] at same
  rw [isTold, same]

theorem HashAgrees.used (agrees : HashAgrees s) (stored : s.hashObjTree.get hashObjId = some object)
    (refs : object.refCount ≠ 0) : ∃ attr, s.hashObjTypes attr = some hashObjId := by
  have counted := agrees.counted hashObjId object stored
  exact hashUses_pos.mp (by omega)

section SetInHw
variable (attr : HashAttr) {env : HashSetEnv}

/-- Either all attributes of the object have the new fields, or the NPU has what
it had. -/
theorem hashObjSetInHw_cases (agrees : HashAgrees s) (stored : s.hashObjTree.get hashObjId = some object)
    (refs : object.refCount ≠ 0) (undoOk : ∀ a, env.undo a = .success) :
    (∀ a, s.hashObjTypes a = some hashObjId → env.npu a = .success) ∧ hashObjSetInHw s hashObjId object attr env =
          ({ s with npuFields := fun a => if s.hashObjTypes a = some hashObjId then some (object.fields.withAttr attr)
              else s.npuFields a }, .success) ∨ (hashObjSetInHw s hashObjId object attr env).2 ≠ .success ∧
        (hashObjSetInHw s hashObjId object attr env).1 = s := by
  unfold hashObjSetInHw
  by_cases other : attr = .other
  · rw [if_pos other]
    exact .inr ⟨fun same => (by cases same), rfl⟩
  rw [if_neg other]
  obtain ⟨more, uses, state, dones, ending⟩ :=
    hashSetLoop_spec hashObjId (object.fields.withAttr attr) env.npu switchHashAttrs s env.uninitialised []
  dsimp only
  rcases ending with ⟨all, members, result⟩ | ⟨_, failed⟩
  · obtain ⟨a, used⟩ := agrees.used stored refs
    have notEmpty : more ≠ [] := List.ne_nil_of_mem ((members a).mpr ⟨mem_switchHashAttrs a, used⟩)
    rw [if_neg notEmpty] at result
    refine .inl ⟨fun b => all b (mem_switchHashAttrs b), ?_⟩
    rw [if_pos result, result, state]
    congr 2
    funext b
    have member : b ∈ more ↔ s.hashObjTypes b = some hashObjId :=
      (members b).trans (and_iff_right (mem_switchHashAttrs b))
    simp only [member]
  · rw [if_neg failed]
    refine .inr ⟨failed, ?_⟩
    dsimp only
    rw [hashResetLoop_spec _ undoOk, state, dones, List.nil_append]
    have same : (fun a => if a ∈ more then some object.fields
        else if a ∈ more then some (object.fields.withAttr attr) else s.npuFields a) = s.npuFields := by
      funext a
      by_cases member : a ∈ more
      · rw [if_pos member]
        exact (agrees.npuFields stored (uses a member)).symm
      · rw [if_neg member, if_neg member]
    dsimp only
    rw [same]

end SetInHw

section Events

theorem hashAttrSetOne_eq {attr : HashAttr}
    {changed : HashObject} (result : hashAttrSetOne groupType object allocOk attr = .ok changed) :
    changed = { object with fields := object.fields.withAttr attr } := by
  cases attr with
  | nativeFieldList value =>
    unfold hashAttrSetOne hashNativeFieldListSet at result
    dsimp only at result
    split at result
    · cases result
    · cases result
      rfl
  | udfGroupList value =>
    unfold hashAttrSetOne hashUdfGroupListSet at result
    dsimp only at result
    split at result
    · cases result
    split at result
    · cases result
    · cases result
      rfl
  | other =>
    cases result
    rfl

theorem hashAttrSet_refCount {allocOk : Nat → Bool} (attrs : List HashAttr) : ∀ index object filled,
      hashAttrSet groupType allocOk index object attrs = .ok filled → filled.refCount = object.refCount := by
  induction attrs with
  | nil =>
    intro index object filled result
    cases result
    rfl
  | cons attr rest ih =>
    intro index object filled result
    unfold hashAttrSet at result
    split at result
    · cases result
    · rename_i next set
      refine (ih (index + 1) next filled result).trans ?_
      rw [hashAttrSetOne_eq set]

theorem HashState.assigned_congr {t : HashState}
    (same : ∀ k, next = some k → (t.hashObjTree.get k).map HashObject.fields =
      (s.hashObjTree.get k).map HashObject.fields) : t.assigned next = s.assigned next := by
  have byMap : ∀ u : HashState, u.assigned next =
      ((next.bind fun k => (u.hashObjTree.get k).map HashObject.fields)).getD ⟨[], []⟩ := by
    intro u
    unfold assigned
    cases next with
    | none => rfl
    | some k =>
      dsimp only [Option.bind_some]
      cases u.hashObjTree.get k with
      | none => rfl
      | some o => rfl
  rw [byMap, byMap]
  cases next with
  | none => rfl
  | some k =>
    rw [Option.bind_some, Option.bind_some, same k rfl]

section
variable (agrees : HashAgrees s)
include agrees

variable (hashObjId) in
theorem HashAgrees.retree {bitmap : Nat → Bool} {tree : KeyTree ObjectId HashObject}
    (unused : ∀ attr, s.hashObjTypes attr ≠ some hashObjId)
    (others : ∀ k, k ≠ hashObjId → tree.get k = s.hashObjTree.get k)
    (fresh : ∀ o, tree.get hashObjId = some o → o.refCount = 0) :
    HashAgrees { s with hashObjTree := tree, hashIndexBitmap := bitmap } := by
  have used : ∀ attr k, s.hashObjTypes attr = some k → tree.get k = s.hashObjTree.get k := by
    intro attr k isIt
    refine others k ?_
    rintro rfl
    exact unused attr isIt
  refine ⟨fun attr fields told => ?_, agrees.told, fun attr k isIt => ?_, fun k o stored => ?_⟩
  · rw [agrees.hardware attr fields told]
    refine (HashState.assigned_congr fun k isIt => ?_).symm
    exact congrArg (Option.map HashObject.fields) (used attr k isIt)
  · dsimp only at isIt ⊢
    rw [used attr k isIt]
    exact agrees.stored attr k isIt
  · dsimp only at stored ⊢
    by_cases same : k = hashObjId
    · rw [same] at stored ⊢
      rw [fresh o stored]
      have none : hashUses s.hashObjTypes hashObjId = 0 := by
        by_contra positive
        obtain ⟨attr, isIt⟩ := hashUses_pos.mp (Nat.pos_of_ne_zero positive)
        exact unused attr isIt
      rw [none]
      rfl
    · rw [others k same] at stored
      exact agrees.counted k o stored

theorem hashObjCreate_agrees (attrs : List HashAttr) (validate : SaiStatus)
    (env : HashCreateEnv) : HashAgrees (hashObjCreate s attrs validate env).1 := by
  unfold hashObjCreate
  split
  · exact agrees
  split
  · exact agrees
  rename_i index _
  split
  · exact agrees
  have locked : HashAgrees (hashObjCreateLocked s index attrs env).1 := by
    unfold hashObjCreateLocked
    split
    · exact agrees
    rename_i object filled
    split
    · rename_i inserted
      refine agrees.retree ⟨.hash, index⟩ (fun attr isIt => ?_) (fun k other => get_put_ne other)
        fun o stored => ?_
      · exact agrees.stored attr _ isIt inserted.2
      · rw [get_put_self] at stored
        cases stored
        exact hashAttrSet_refCount attrs 0 .zero object filled
    · exact agrees
  split
  · rename_i t result
    rw [result] at locked
    exact ⟨locked.hardware, locked.told, locked.stored, locked.counted⟩
  · rename_i t error _ result
    rw [result] at locked
    exact locked

theorem hashObjRemove_agrees (hashObjId : ObjectId) : HashAgrees (hashObjRemove s hashObjId).1 := by
  unfold hashObjRemove
  split
  · exact agrees
  split
  · exact agrees
  rename_i object stored
  split
  · exact agrees
  rename_i unused
  refine agrees.retree hashObjId (fun attr isIt => ?_) (fun k other => get_del_ne other) fun o here => ?_
  · have counted := agrees.counted hashObjId object stored
    have positive := hashUses_pos.mpr ⟨attr, isIt⟩
    have zero : object.refCount = 0 := not_not.mp unused
    omega
  · rw [get_del_self] at here
    cases here

theorem HashAgrees.refields (stored : s.hashObjTree.get hashObjId = some object)
    (fields : HashFields) :
    HashAgrees { s with
      hashObjTree := s.hashObjTree.put hashObjId { object with fields := fields }
      npuFields := fun a => if s.hashObjTypes a = some hashObjId then some fields else s.npuFields a } := by
  refine ⟨fun attr given told => ?_, fun attr used => ?_, fun attr k isIt => ?_, fun k o there => ?_⟩
  · dsimp only at told ⊢
    split at told
    · rename_i here
      cases told
      rw [here]
      unfold HashState.assigned
      rw [Option.bind_some, get_put_self]
    · rename_i away
      rw [agrees.hardware attr given told]
      refine (HashState.assigned_congr fun k isIt => ?_).symm
      refine congrArg (Option.map HashObject.fields) (get_put_ne ?_)
      rintro rfl
      exact away isIt
  · dsimp only at used ⊢
    split
    · exact Option.some_ne_none _
    · exact agrees.told attr used
  · dsimp only at isIt ⊢
    rw [ne_eq, get_put_eq_none stored]
    exact agrees.stored attr k isIt
  · dsimp only at there ⊢
    rw [get_put] at there
    split at there
    · rename_i same
      cases there
      rw [same]
      exact agrees.counted hashObjId object stored
    · exact agrees.counted k o there

end

theorem hashAttrSetOne_ok {attr : HashAttr}
    (valid : attr.invalidGroups groupType = false) (copied : attr.listEmpty = true ∨ allocOk = true)
    {status : SaiStatus} : hashAttrSetOne groupType object allocOk attr ≠ .error status := by
  intro failed
  have noCopy : ∀ {A : Type} {value : List A}, value.isEmpty = true ∨ allocOk = true →
      ¬ (value ≠ [] ∧ allocOk = false) := by
    rintro A value (empty | ok) ⟨notEmpty, no⟩
    · exact notEmpty (List.isEmpty_iff.mp empty)
    · rw [ok] at no
      cases no
  cases attr with
  | nativeFieldList value =>
    unfold hashAttrSetOne hashNativeFieldListSet at failed
    dsimp only at failed
    rw [if_neg (noCopy copied)] at failed
    cases failed
  | udfGroupList value =>
    have checked : ¬ (value ≠ [] ∧ hashUdfGroupListValidate groupType value = false) := by
      rintro ⟨_, no⟩
      unfold HashAttr.invalidGroups at valid
      dsimp only at valid
      rw [no] at valid
      cases valid
    unfold hashAttrSetOne hashUdfGroupListSet at failed
    dsimp only at failed
    rw [if_neg checked, if_neg (noCopy copied)] at failed
    cases failed
  | other => cases failed

theorem hashObjSetAttr_agrees (agrees : HashAgrees s) {hashObjId : ObjectId} {attr : HashAttr} {env : HashSetEnv}
    (ordered : (HashEvent.setAttr hashObjId attr env).ordered s)
    (kept : (HashEvent.setAttr hashObjId attr env).kept s) :
    HashAgrees (hashObjSetAttr s hashObjId attr env).1 := by
  unfold hashObjSetAttr
  split
  · exact agrees
  split
  · exact agrees
  split
  · exact agrees
  rename_i object stored
  split
  · exact agrees
  rename_i valid
  by_cases refs : object.refCount = 0
  · rw [if_neg (not_not.mpr refs)]
    dsimp only
    rw [if_neg (not_not.mpr rfl)]
    unfold hashAttrSet hashAttrSet
    cases set : hashAttrSetOne env.groupType object env.allocOk attr with
    | error status => exact agrees
    | ok changed =>
      have unused : ∀ a, s.hashObjTypes a ≠ some hashObjId := by
        intro a isIt
        have counted := agrees.counted hashObjId object stored
        have positive := hashUses_pos.mpr ⟨a, isIt⟩
        omega
      have same : (fun a => if s.hashObjTypes a = some hashObjId then some (object.fields.withAttr attr)
          else s.npuFields a) = s.npuFields := by
        funext a
        exact if_neg (unused a)
      have rewritten := agrees.refields stored (object.fields.withAttr attr)
      rw [same] at rewritten
      rw [hashAttrSetOne_eq set]
      exact rewritten
  · rw [if_pos refs]
    rcases hashObjSetInHw_cases attr agrees stored refs ordered with ⟨accepted, told⟩ | ⟨failed, same⟩
    · rw [told]
      dsimp only
      rw [if_neg (not_not.mpr rfl)]
      unfold hashAttrSet hashAttrSet
      cases set : hashAttrSetOne env.groupType object env.allocOk attr with
      | error status =>
        have copied := kept (agrees.used stored refs) accepted
        exact absurd set (hashAttrSetOne_ok ((Bool.not_eq_true _).mp valid) copied)
      | ok changed =>
        rw [hashAttrSetOne_eq set]
        exact agrees.refields stored (object.fields.withAttr attr)
    · dsimp only
      rw [if_pos failed, same]
      exact agrees

theorem HashState.get_addRef (next : Option ObjectId) (change : Int) (k : ObjectId) :
    (s.addRef next change).hashObjTree.get k = (s.hashObjTree.get k).map fun object =>
      { object with refCount := object.refCount + if next = some k then change else 0 } := by
  have same : ∀ o : Option HashObject, o.map (fun object => { object with refCount := object.refCount + 0 }) = o := by
    intro o
    cases o with
    | none => rfl
    | some object => simp only [Option.map_some, Int.add_zero]
  unfold addRef
  cases next with
  | none =>
    simp only [reduceCtorEq, if_false]
    exact (same _).symm
  | some j =>
    dsimp only
    rw [get_modify]
    by_cases here : k = j
    · rw [if_pos here, if_pos (congrArg some here.symm)]
    · simp only [if_neg here, Option.some.injEq, if_neg (Ne.symm here)]
      exact (same _).symm

theorem HashState.addRef_others (next : Option ObjectId) (change : Int) :
    (s.addRef next change).hashObjTypes = s.hashObjTypes ∧ (s.addRef next change).npuFields = s.npuFields := by
  unfold addRef
  cases next with
  | none => exact ⟨rfl, rfl⟩
  | some k => exact ⟨rfl, rfl⟩

theorem switchHashAttrSetLocked_eq (attr : SwitchHashAttr) (next : Option ObjectId) :
    let t := (switchHashAttrSetLocked s attr next .success).1
    t.hashObjTypes = Function.update s.hashObjTypes attr next ∧
      t.npuFields = Function.update s.npuFields attr (some (s.assigned next)) ∧
      ∀ k, t.hashObjTree.get k = (s.hashObjTree.get k).map fun object =>
        { object with refCount := object.refCount - (if s.hashObjTypes attr = some k then 1 else 0) +
            if next = some k then 1 else 0 } := by
  intro t
  let u := (s.npuSet attr (s.assigned next)).addRef (s.hashObjTypes attr) (-1)
  obtain ⟨uTypes, uNpu⟩ := (s.npuSet attr (s.assigned next)).addRef_others (s.hashObjTypes attr) (-1)
  obtain ⟨tTypes, tNpu⟩ :=
    ({ u with hashObjTypes := Function.update u.hashObjTypes attr next } : HashState).addRef_others next 1
  refine ⟨?_, ?_, fun k => ?_⟩
  · refine tTypes.trans ?_
    change Function.update u.hashObjTypes attr next = _
    rw [uTypes]
    rfl
  · refine tNpu.trans ?_
    change u.npuFields = _
    rw [uNpu]
    rfl
  · refine (HashState.get_addRef next 1 k).trans ?_
    change (u.hashObjTree.get k).map _ = _
    rw [HashState.get_addRef, Option.map_map]
    refine congrArg (fun f => Option.map f (s.hashObjTree.get k)) (funext fun object => ?_)
    simp only [Function.comp_apply, HashObject.mk.injEq, true_and]
    split <;> omega

theorem HashAgrees.reassign (agrees : HashAgrees s) (attr : SwitchHashAttr)
    (present : ∀ k, next = some k → s.hashObjTree.get k ≠ none) :
    HashAgrees (switchHashAttrSetLocked s attr next .success).1 := by
  obtain ⟨types, npu, tree⟩ := switchHashAttrSetLocked_eq (s := s) attr next
  have assigned : ∀ x, (switchHashAttrSetLocked s attr next .success).1.assigned x = s.assigned x := by
    intro x
    refine HashState.assigned_congr fun k _ => ?_
    rw [tree k, Option.map_map]
    rfl
  refine ⟨fun a fields told => ?_, fun a used => ?_, fun a k isIt => ?_, fun k object there => ?_⟩
  · rw [npu, Function.update_apply] at told
    rw [assigned, types, Function.update_apply]
    split at told
    · rename_i same
      cases told
      rw [if_pos same]
    · rename_i other
      rw [if_neg other]
      exact agrees.hardware a fields told
  · rw [npu, Function.update_apply]
    rw [types, Function.update_apply] at used
    split
    · exact Option.some_ne_none _
    rename_i other
    rw [if_neg other] at used
    exact agrees.told a used
  · rw [types, Function.update_apply] at isIt
    rw [tree k, ne_eq, Option.map_eq_none_iff]
    split at isIt
    · exact present k isIt
    · exact agrees.stored a k isIt
  · rw [tree k] at there
    obtain ⟨old, before, rfl⟩ := Option.map_eq_some_iff.mp there
    dsimp only
    rw [agrees.counted k old before, types, hashUses_update]

theorem switchHashAttrSet_agrees (agrees : HashAgrees s) (attr : SwitchHashAttr) (hashObjId : ObjectId)
    (npu : SaiStatus) : HashAgrees (switchHashAttrSet s attr hashObjId npu).1 := by
  have locked : ∀ next, (∀ k, next = some k → s.hashObjTree.get k ≠ none) →
      HashAgrees (switchHashAttrSetLocked s attr next npu).1 := by
    intro next present
    by_cases accepted : npu = .success
    · rw [accepted]
      exact agrees.reassign attr present
    unfold switchHashAttrSetLocked
    split
    · contradiction
    · exact agrees
  unfold switchHashAttrSet
  split
  · exact locked none fun k isIt => by cases isIt
  split
  · exact agrees
  split
  · exact agrees
  rename_i stored
  exact locked (some hashObjId) fun k isIt => by
    cases isIt
    exact stored

theorem HashAgrees.step (agrees : HashAgrees s) (event : HashEvent) (ordered : event.ordered s)
    (kept : event.kept s) : HashAgrees (event.step s) := by
  cases event with
  | create attrs validate env => exact hashObjCreate_agrees agrees attrs validate env
  | remove hashObjId => exact hashObjRemove_agrees agrees hashObjId
  | setAttr hashObjId attr env => exact hashObjSetAttr_agrees agrees ordered kept
  | switchAttrSet attr hashObjId npu => exact switchHashAttrSet_agrees agrees attr hashObjId npu

end Events

structure HashFresh (s : HashState) : Prop where
  noObjects : s.hashObjTree = ∅
  unassigned : ∀ attr, s.hashObjTypes attr = none
  untold : ∀ attr, s.npuFields attr = none

theorem HashFresh.agrees (fresh : HashFresh s) : HashAgrees s := by
  refine ⟨fun attr fields told => ?_, fun attr used => ?_, fun attr k isIt => ?_, fun k object stored => ?_⟩
  · rw [fresh.untold] at told
    cases told
  · exact absurd (fresh.unassigned attr) used
  · rw [fresh.unassigned] at isIt
    cases isIt
  · rw [fresh.noObjects, get_empty] at stored
    cases stored

/-- In every run of kept calls the NPU has the lists of the assigned objects, and
each object counts its attributes; so an assigned object is stored, and a used one
is assigned. -/
theorem hashFields_agree (reach : Runs.Reach HashFresh
      (Runs.guarded (fun s event => HashEvent.ordered s event ∧ HashEvent.kept s event) HashEvent.step) s) :
    HashAgrees s ∧ ∀ hashObjId object, s.hashObjTree.get hashObjId = some object → object.refCount ≠ 0 →
      ∃ attr, s.hashObjTypes attr = some hashObjId := by
  have agrees : HashAgrees s := by
    refine reach.invariant HashAgrees (fun _ fresh => fresh.agrees) ?_
    intro s event t agrees moved
    rw [moved.2]
    exact agrees.step event moved.1.1 moved.1.2
  exact ⟨agrees, fun hashObjId object stored refs => agrees.used stored refs⟩

def hashStart : HashState := ⟨∅, fun _ => true, fun _ => none, fun _ => none⟩

theorem hashStart_fresh : HashFresh hashStart := ⟨rfl, fun _ => rfl, fun _ => rfl⟩

def hashSetEnv (allocOk : Bool) : HashSetEnv :=
  ⟨.success, fun _ => none, allocOk, fun _ => .success, fun _ => .success, .failure⟩

def hashRun (allocOk : Bool) : List HashEvent :=
  [.create [.nativeFieldList [1]] .success ⟨true, fun _ => none, fun _ => true, true⟩,
    .switchAttrSet .ecmpHash ⟨.hash, 0⟩ .success, .switchAttrSet .lagHash ⟨.hash, 0⟩ .success,
    .setAttr ⟨.hash, 0⟩ (.nativeFieldList [1, 2]) (hashSetEnv allocOk)]

theorem hashFields_agree_sample : HashAgrees ((hashRun true).foldl HashEvent.step hashStart) ∧
      ∀ hashObjId object, ((hashRun true).foldl HashEvent.step hashStart).hashObjTree.get hashObjId = some object →
        object.refCount ≠ 0 →
        ∃ attr, ((hashRun true).foldl HashEvent.step hashStart).hashObjTypes attr = some hashObjId := by
  refine hashFields_agree (Runs.Reach.run (.start hashStart_fresh) ⟨⟨trivial, trivial⟩, ⟨trivial, trivial⟩,
    ⟨trivial, trivial⟩, ⟨fun _ => rfl, fun _ _ => .inr rfl⟩, trivial⟩)

/-- A list that the NPU takes and that cannot be copied. -/
theorem hashFields_not_agree :
    ¬ ∀ s, Runs.Reach HashFresh (Runs.guarded HashEvent.ordered HashEvent.step) s → HashAgrees s := by
  intro all
  have allowed : Runs.AllowedRun HashEvent.ordered HashEvent.step hashStart (hashRun false) :=
    ⟨trivial, trivial, trivial, fun _ => rfl, trivial⟩
  have agrees := all _ (Runs.Reach.run (.start hashStart_fresh) allowed)
  have told := agrees.hardware .ecmpHash ⟨[1, 2], []⟩ (by decide)
  revert told
  decide

end SaiCommon
