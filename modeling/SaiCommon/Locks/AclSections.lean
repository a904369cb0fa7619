import SaiCommon.Locks.Sections

namespace SaiCommon
open Locks

section
variable (platform : AclPlatform) (lookups : AclLookups)

/-- The sessions of an enabled mirror action are stored, unless an id among them
is of another type. -/
def AclRuleAttr.MirrorsLive : AclRuleAttr → Prop
  | .action id enable parameter => aclMirrorAction id = true → enable = true →
    (∀ oid ∈ parameter.objList, oid.objType = .mirrorSession) →
    ∀ oid ∈ parameter.objList, lookups.mirrorValid oid = true
  | _ => True

/-- So are those of every mirror action that the parser comes to. -/
def aclRuleMirrorsLive (table : AclTable) (index : Nat) (rule : AclRule) : List AclRuleAttr → Prop
  | [] => True
  | attr :: rest => attr.MirrorsLive lookups ∧
    match aclRulePopulateAttr lookups index platform table rule attr with
    | .error _ => True
    | .ok next => aclRuleMirrorsLive table (index + 1) next rest

end

section
variable {platform : AclPlatform} {lookups : AclLookups} {own : Mutex → Bool}

theorem aclTablePopulateLoopLocks_neutral (attrs : List AclTableAttr) : ∀ table,
    Neutral (fun k => k = Mutex.udf) (aclTablePopulateLoopLocks lookups table attrs) := by
  induction attrs with
  | nil => exact fun table => Neutral.nil
  | cons attr rest ih =>
    intro table
    unfold aclTablePopulateLoopLocks
    refine Neutral.append ?_ ?_
    · split
      · exact typedLocks_neutral _ _ _
      · exact Neutral.nil
    · split
      · exact Neutral.nil
      · exact ih _

theorem createAclTableLocks_given (s : AclState) (attrs : List AclTableAttr) (allocOk : Bool)
    (env : AclTableCreateEnv) : GivenBack (createAclTableLocks lookups s attrs allocOk env) := by
  unfold createAclTableLocks
  split
  · refine within_given (k := .udf) ?_ (by decide)
    split
    · exact Neutral.nil
    · exact aclTablePopulateLoopLocks_neutral attrs _
  · exact .nil

/-- The lookups of sessions leave the lock of the mirror module with the first
session that is not stored. -/
theorem aclMirrorListLocks_owned (unlocked : own .mirror = false) (list : List ObjectId) :
    owned own (aclMirrorListLocks lookups list) =
      some (if list.all lookups.mirrorValid then own else Function.update own .mirror true) := by
  induction list with
  | nil => rfl
  | cons sessionId rest ih =>
    unfold aclMirrorListLocks mirrorIsValidMirrorSessionLocks
    cases valid : lookups.mirrorValid sessionId with
    | false =>
      rw [List.all_cons, valid]
      dsimp only [if_true, List.cons_append, List.nil_append, owned]
      rw [if_neg (by rw [unlocked]; decide)]
      rfl
    | true =>
      rw [List.all_cons, valid, Bool.true_and, ← ih]
      change owned own (Op.lock Mutex.mirror :: Op.unlock Mutex.mirror :: aclMirrorListLocks lookups rest) = _
      dsimp only [owned]
      rw [if_neg (by rw [unlocked]; decide), if_pos (Function.update_self _ _ _), Function.update_idem,
        Function.update_eq_self_iff.mpr unlocked.symm]

theorem aclValidateActionObjectType_mirror {id : AclActionId} (isMirror : aclMirrorAction id = true) (oid : ObjectId) :
    aclValidateActionObjectType id oid = .success ↔ oid.objType = .mirrorSession := by
  cases id <;> cases isMirror
  all_goals
    unfold aclValidateActionObjectType
    dsimp only
    split
    · rename_i other
      exact ⟨fun ok => (by cases ok), fun same => absurd same other⟩
    · rename_i same
      exact ⟨fun _ => not_not.mp same, fun _ => rfl⟩

/-- Under the ACL lock an attribute leaves the lock of the mirror module exactly
when it mirrors to a session that is not stored, and then it is refused. -/
theorem aclRulePopulateAttrLocks_owned (platform : AclPlatform) (noMirror : own .mirror = false)
    (noUdf : own .udf = false) (index : Nat)
    (table : AclTable) (rule : AclRule) (attr : AclRuleAttr) :
    attr.MirrorsLive lookups ∧ owned own (aclRulePopulateAttrLocks lookups index table attr) = some own ∨
      ¬ attr.MirrorsLive lookups ∧
        owned own (aclRulePopulateAttrLocks lookups index table attr) = some (Function.update own .mirror true) ∧
        ∃ status, aclRulePopulateAttr lookups index platform table rule attr = .error status := by
  cases attr with
  | field id enable value =>
    refine .inl ⟨trivial, ?_⟩
    unfold aclRulePopulateAttrLocks aclFilterPopulateLocks
    dsimp only
    split
    · rfl
    split
    · split
      · rfl
      · exact typedLocks_neutral _ _ _ own fun k isUdf => by rw [isUdf]; exact noUdf
    · rfl
  | action id enable parameter =>
    unfold aclRulePopulateAttrLocks aclActionPopulateLocks AclRuleAttr.MirrorsLive
    dsimp only
    cases isMirror : aclMirrorAction id with
    | false => exact .inl ⟨fun same => (by cases same), rfl⟩
    | true =>
      cases enable with
      | false => exact .inl ⟨fun _ same => (by cases same), rfl⟩
      | true =>
        rw [if_neg (by decide), if_neg (by decide)]
        by_cases typed : ∀ oid ∈ parameter.objList, oid.objType = .mirrorSession
        · have noOther :
            (parameter.objList.any fun oid => aclValidateActionObjectType id oid ≠ .success) = false := by
            rw [List.any_eq_false]
            intro oid member
            rw [decide_eq_true_iff, not_not]
            exact (aclValidateActionObjectType_mirror isMirror oid).mpr (typed oid member)
          rw [noOther, if_neg (by decide), aclMirrorListLocks_owned noMirror]
          cases all : parameter.objList.all lookups.mirrorValid with
          | true => exact .inl ⟨fun _ _ _ => List.all_eq_true.mp all, rfl⟩
          | false =>
            refine .inr ⟨fun live => ?_, rfl, ?_⟩
            · rw [List.all_eq_true.mpr (live rfl rfl typed)] at all
              cases all
            · have nonempty : parameter.objList ≠ [] := by
                intro empty
                rw [empty] at all
                cases all
              have refused : aclActionPopulateObjectList lookups index id true parameter.objList
                  = .error (.invalidAttrValue 0) := by
                have isEither : id = .mirrorIngress ∨ id = .mirrorEgress := by
                  cases id <;> cases isMirror
                  · exact .inl rfl
                  · exact .inr rfl
                unfold aclActionPopulateObjectList
                rw [if_neg (by decide), if_neg nonempty, noOther, if_neg (by decide), if_pos ⟨isEither, all⟩]
              refine ⟨indexedRetVal (.invalidAttrValue 0) index, ?_⟩
              unfold aclRulePopulateAttr aclActionPopulateAttrType
              cases id <;> cases isMirror
              · dsimp only
                rw [refused]
              · dsimp only
                rw [refused]
        · have other : (parameter.objList.any fun oid => aclValidateActionObjectType id oid ≠ .success) = true := by
            push Not at typed
            obtain ⟨oid, member, wrong⟩ := typed
            refine List.any_eq_true.mpr ⟨oid, member, decide_eq_true fun ok => wrong ?_⟩
            exact (aclValidateActionObjectType_mirror isMirror oid).mp ok
          rw [if_pos other]
          exact .inl ⟨fun _ _ all => absurd all typed, rfl⟩
  | tableId id => exact .inl ⟨trivial, rfl⟩
  | priority value => exact .inl ⟨trivial, rfl⟩
  | adminState state => exact .inl ⟨trivial, rfl⟩
  | unknown id => exact .inl ⟨trivial, rfl⟩
  | outOfRange id => exact .inl ⟨trivial, rfl⟩

theorem aclRulePopulateLoopLocks_owned (platform : AclPlatform) (lookups : AclLookups) (noMirror : own .mirror = false)
    (noUdf : own .udf = false) (table : AclTable) (attrs : List AclRuleAttr) : ∀ index rule,
      aclRuleMirrorsLive platform lookups table index rule attrs ∧
          owned own (aclRulePopulateLoopLocks platform lookups table index rule attrs) = some own ∨
        ¬ aclRuleMirrorsLive platform lookups table index rule attrs ∧
          owned own (aclRulePopulateLoopLocks platform lookups table index rule attrs) =
            some (Function.update own .mirror true) := by
  induction attrs with
  | nil => exact fun index rule => .inl ⟨trivial, rfl⟩
  | cons attr rest ih =>
    intro index rule
    unfold aclRulePopulateLoopLocks aclRuleMirrorsLive
    rw [owned_append]
    rcases aclRulePopulateAttrLocks_owned platform noMirror noUdf index table rule attr with
      ⟨live, same⟩ | ⟨dead, left, status, refused⟩
    · rw [same]
      cases made : aclRulePopulateAttr lookups index platform table rule attr with
      | error status => exact .inl ⟨⟨live, trivial⟩, rfl⟩
      | ok next =>
        rcases ih (index + 1) next with ⟨later, done⟩ | ⟨later, done⟩
        · exact .inl ⟨⟨live, later⟩, done⟩
        · exact .inr ⟨fun both => later both.2, done⟩
    · rw [left, refused]
      exact .inr ⟨fun both => dead both.1, rfl⟩

end
end SaiCommon
