import SaiCommon.Locks.Traces

namespace SaiCommon
open Locks

section
variable {own : Mutex → Bool}

theorem within_neutral (m : Mutex) : Neutral (fun k => k = m) (within m []) := by
  have inner : Neutral (fun _ : Mutex => False) ([] : LockTrace) := Neutral.nil
  exact (inner.within not_false).mono fun k uses => uses.elim id False.elim

theorem typedLocks_neutral (m : Mutex) (type : ObjectType) (id : ObjectId) :
    Neutral (fun k => k = m) (typedLocks m type id) := by
  unfold typedLocks
  split
  · exact Neutral.nil
  · exact within_neutral m

theorem typedLocks_given (m : Mutex) (type : ObjectType) (id : ObjectId) : GivenBack (typedLocks m type id) :=
  (typedLocks_neutral m type id).given

theorem given_unless {cond : Prop} [Decidable cond] {ops : LockTrace} (given : GivenBack ops) :
    GivenBack (if cond then [] else ops) := by
  split
  · exact .nil
  · exact given

theorem given_pair (m : Mutex) : GivenBack [Op.lock m, Op.unlock m] := GivenBack.within m

theorem within_given {m k : Mutex} {ops : LockTrace} (inner : Neutral (fun j => j = k) ops) (other : m ≠ k) :
    GivenBack (within m ops) := (inner.within other).given

end

section Mirror
variable (isPortValid : ObjectId → Bool) (order : KeyRank MirrorSessionPerPort) (portId : ObjectId)
  (direction : MirrorDirection) (env : MirrorPortEnv)

theorem mirrorPortAddSessionLocks_neutral (s : MirrorState) (index : Nat) (sessionId : ObjectId) :
    Neutral (fun k => k = Mutex.mirror)
    (mirrorPortAddSessionLocks isPortValid portId direction env s index sessionId) := by
  unfold mirrorPortAddSessionLocks
  split
  · exact Neutral.nil
  refine (typedLocks_neutral _ _ _).append ?_
  split
  · split
    · exact typedLocks_neutral _ _ _
    · exact Neutral.nil
  · exact Neutral.nil

theorem mirrorPortAddLoopLocks_neutral (sessions : List ObjectId) : ∀ s index, Neutral (fun k => k = Mutex.mirror)
      (mirrorPortAddLoopLocks isPortValid order portId direction env s index sessions) := by
  induction sessions with
  | nil => exact fun s index => Neutral.nil
  | cons sessionId rest ih =>
    intro s index
    unfold mirrorPortAddLoopLocks
    refine (mirrorPortAddSessionLocks_neutral isPortValid portId direction env s index sessionId).append ?_
    split
    · exact ih _ _
    · exact Neutral.nil

theorem mirrorPortVisitLocks_neutral (sessions : List ObjectId) (node : MirrorSessionPerPort) :
    Neutral (fun k => k = Mutex.mirror) (mirrorPortVisitLocks direction sessions node) := by
  unfold mirrorPortVisitLocks
  split
  · exact Neutral.nil
  split
  · exact Neutral.nil
  · exact typedLocks_neutral _ _ _

theorem mirrorRemoveMirrorPerPortLocks_neutral (s : MirrorState) (sessions : List ObjectId) :
    Neutral (fun k => k = Mutex.mirror)
      (mirrorRemoveMirrorPerPortLocks isPortValid order portId direction env s sessions) := by
  unfold mirrorRemoveMirrorPerPortLocks
  refine order.walk_keeps (fun p : MirrorState × LockTrace => Neutral (fun k => k = Mutex.mirror) p.2)
    (fun node p neutral => ?_) _ _ (s, []) Neutral.nil
  exact neutral.append (mirrorPortVisitLocks_neutral direction sessions node)

theorem mirrorHandlePerPortLocks_given (s : MirrorState) (sessions : List ObjectId) :
    GivenBack (mirrorHandlePerPortLocks isPortValid order portId direction env s sessions) := by
  unfold mirrorHandlePerPortLocks
  refine given_unless (given_unless ?_)
  dsimp only
  refine GivenBack.append (mirrorPortAddLoopLocks_neutral isPortValid order portId direction env sessions _ 0).given ?_
  split
  · exact (mirrorRemoveMirrorPerPortLocks_neutral isPortValid order portId direction env _ sessions).given
  · exact .nil

end Mirror

section Hash
variable (groupType : ObjectId → Option UdfGroupType)

theorem hashUdfGroupListValidateLocks_neutral (groups : List ObjectId) :
    Neutral (fun k => k = Mutex.udf) (hashUdfGroupListValidateLocks groupType groups) := by
  induction groups with
  | nil => exact Neutral.nil
  | cons groupId rest ih =>
    unfold hashUdfGroupListValidateLocks
    split
    · exact Neutral.nil
    refine (typedLocks_neutral _ _ _).append ?_
    split
    · exact ih
    · exact Neutral.nil

theorem hashAttrSetLocks_neutral (allocOk : Nat → Bool) (attrs : List HashAttr) : ∀ index object,
    Neutral (fun k => k = Mutex.udf) (hashAttrSetLocks groupType allocOk index object attrs) := by
  induction attrs with
  | nil => exact fun index object => Neutral.nil
  | cons attr rest ih =>
    intro index object
    have one : Neutral (fun k => k = Mutex.udf) (hashAttrSetOneLocks groupType attr) := by
      unfold hashAttrSetOneLocks
      split
      · split
        · exact Neutral.nil
        · exact hashUdfGroupListValidateLocks_neutral groupType _
      · exact Neutral.nil
    unfold hashAttrSetLocks
    refine one.append ?_
    split
    · exact Neutral.nil
    · exact ih _ _

theorem HashAttr.validateLocks_neutral (attr : HashAttr) :
    Neutral (fun k => k = Mutex.udf) (attr.validateLocks groupType) := by
  unfold HashAttr.validateLocks
  split
  · exact hashUdfGroupListValidateLocks_neutral groupType _
  · exact Neutral.nil

variable (s : HashState)

theorem hashObjCreateLocks_given (attrs : List HashAttr) (validate : SaiStatus) (env : HashCreateEnv) :
    GivenBack (hashObjCreateLocks s attrs validate env) := by
  unfold hashObjCreateLocks
  refine given_unless ?_
  split
  · exact .nil
  · refine given_unless (within_given (hashAttrSetLocks_neutral _ _ _ _ _) ?_)
    decide

theorem hashObjSetAttrLocks_given {hashObjId : ObjectId} {attr : HashAttr} {env : HashSetEnv} :
    GivenBack (hashObjSetAttrLocks s hashObjId attr env) ↔
      (hashObjId.objType = .hash → env.validate = .success → s.hashObjTree.get hashObjId ≠ none →
        attr.invalidGroups env.groupType = false) := by
  unfold hashObjSetAttrLocks
  by_cases kind : hashObjId.objType = .hash
  · rw [if_neg (not_not.mpr kind)]
    by_cases valid : env.validate = .success
    · rw [if_neg (not_not.mpr valid)]
      cases stored : s.hashObjTree.get hashObjId with
      | none => exact ⟨fun _ _ _ some => absurd rfl some, fun _ => given_pair .hash⟩
      | some object =>
        have validated := attr.validateLocks_neutral env.groupType
        dsimp only
        by_cases invalid : attr.invalidGroups env.groupType = true
        · rw [if_pos invalid, List.append_nil]
          refine ⟨fun given => absurd given ?_, fun good => ?_⟩
          · have left : owned free (.lock .hash :: attr.validateLocks env.groupType)
                = some (Function.update free Mutex.hash true) := by
              dsimp only [owned]
              rw [if_neg (by decide)]
              exact validated _ fun k isUdf => by rw [isUdf]; rfl
            exact not_givenBack left (Function.update_self _ _ _)
          · have isValid := good kind valid (Option.some_ne_none object)
            rw [invalid] at isValid
            cases isValid
        · rw [if_neg invalid]
          refine ⟨fun _ _ _ _ => Bool.not_eq_true _ ▸ invalid, fun _ => ?_⟩
          have other : Mutex.hash ≠ Mutex.udf := by decide
          have finish (status : SaiStatus) : GivenBack (.lock .hash :: (attr.validateLocks env.groupType ++
              if status ≠ .success then [.unlock .hash]
              else hashAttrSetLocks env.groupType (fun _ => env.allocOk) 0 object [attr] ++ [.unlock .hash])) := by
            split
            · exact within_given validated other
            have both :=
              validated.append (hashAttrSetLocks_neutral env.groupType (fun _ => env.allocOk) [attr] 0 object)
            have given := within_given both other
            unfold within at given
            rw [List.cons_append, List.append_assoc] at given
            exact given
          exact finish _
    · rw [if_pos valid]
      exact ⟨fun _ _ isValid => absurd isValid valid, fun _ => .nil⟩
  · rw [if_pos kind]
    exact ⟨fun _ isHash => absurd isHash kind, fun _ => .nil⟩

theorem switchHashAttrSetLocks_given {hashObjId : ObjectId} :
    GivenBack (switchHashAttrSetLocks s hashObjId) ↔ (hashObjId = nullObjectId ∨ hashObjId.objType = .hash) := by
  unfold switchHashAttrSetLocks
  by_cases noObject : hashObjId = nullObjectId
  · rw [if_pos noObject]
    exact ⟨fun _ => .inl noObject, fun _ => given_pair .hash⟩
  rw [if_neg noObject]
  by_cases kind : hashObjId.objType = .hash
  · rw [if_neg (not_not.mpr kind), ite_self]
    exact ⟨fun _ => .inr kind, fun _ => given_pair .hash⟩
  rw [if_pos kind]
  refine ⟨fun given => absurd given ?_, fun good => (good.elim noObject kind).elim⟩
  have left : owned free [Op.lock Mutex.hash] = some (Function.update free Mutex.hash true) := rfl
  exact not_givenBack left (Function.update_self _ _ _)

end Hash
end SaiCommon
