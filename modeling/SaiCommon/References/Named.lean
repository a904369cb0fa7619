import SaiCommon.Mirroring.PortAgreement
import SaiCommon.Udf.GroupRuns
import SaiCommon.Hash.Hardware

namespace SaiCommon

variable {changed object : HashObject}

section Mirror
variable {s t : MirrorState}

def MirrorState.SameSessions (s t : MirrorState) : Prop :=
  ∀ id, t.mirrorSessionsTree.get id = none ↔ s.mirrorSessionsTree.get id = none

theorem MirrorState.SameSessions.of_tree (same : t.mirrorSessionsTree = s.mirrorSessionsTree) : s.SameSessions t := by
  intro id
  rw [same]

theorem MirrorState.SameSessions.trans {u : MirrorState} (one : s.SameSessions t) (two : t.SameSessions u) :
    s.SameSessions u := fun id => (two id).trans (one id)

theorem MirrorState.SameSessions.put {sessionId : ObjectId} {session next : MirrorSession}
    (stored : s.mirrorSessionsTree.get sessionId = some session)
    (written : t.mirrorSessionsTree = s.mirrorSessionsTree.put sessionId next) : s.SameSessions t := by
  intro id
  rw [written]
  exact KeyTree.get_put_eq_none stored

variable (isPortValid : ObjectId → Bool) (order : KeyRank MirrorSessionPerPort) (portId : ObjectId)
  (direction : MirrorDirection)

theorem MirrorState.npuPortRemove_sessions (link : MirrorLink) (npu : SaiStatus) :
    (s.npuPortRemove link npu).mirrorSessionsTree = s.mirrorSessionsTree := by
  unfold MirrorState.npuPortRemove
  split
  · rfl
  · rfl

theorem mirrorSessionPortAdd_sessions (sessionId : ObjectId) (env : MirrorAddEnv) :
    s.SameSessions (mirrorSessionPortAdd s isPortValid sessionId portId direction env).1 := by
  unfold mirrorSessionPortAdd
  split
  · exact .of_tree rfl
  split
  · exact .of_tree rfl
  split
  · exact .of_tree rfl
  rename_i session stored
  dsimp only
  split
  · exact .of_tree rfl
  split
  · exact .of_tree rfl
  split
  · split
    · exact .of_tree (MirrorState.npuPortRemove_sessions _ _)
    · exact .put stored rfl
  · exact .of_tree rfl

theorem mirrorSessionPortRemove_sessions (sessionId : ObjectId) (npu : SaiStatus) :
    s.SameSessions (mirrorSessionPortRemove s isPortValid sessionId portId direction npu).1 := by
  unfold mirrorSessionPortRemove
  split
  · exact .of_tree rfl
  split
  · exact .of_tree rfl
  split
  · exact .of_tree rfl
  rename_i session stored
  dsimp only
  split
  · exact .of_tree rfl
  split
  · exact .put stored rfl
  · exact .of_tree rfl

theorem mirrorPortAddSession_sessions (env : MirrorPortEnv) (index : Nat) (sessionId : ObjectId) :
    s.SameSessions (mirrorPortAddSession s isPortValid order portId direction env index sessionId).1 := by
  have added := mirrorSessionPortAdd_sessions (s := s) isPortValid portId direction sessionId (env.add index)
  unfold mirrorPortAddSession
  dsimp only
  split
  · exact .of_tree rfl
  split
  · rename_i next result
    rw [result] at added
    split
    · exact added
    split
    · exact added.trans (mirrorSessionPortRemove_sessions isPortValid portId direction sessionId _)
    · exact added.trans (.of_tree rfl)
  · rename_i next error _ result
    rw [result] at added
    exact added

theorem mirrorPortAddLoop_sessions (env : MirrorPortEnv) (sessions : List ObjectId) : ∀ (s : MirrorState) index,
    s.SameSessions (mirrorPortAddLoop isPortValid order portId direction env s index sessions).1 := by
  induction sessions with
  | nil => exact fun s index => .of_tree rfl
  | cons sessionId rest ih =>
    intro s index
    have one := mirrorPortAddSession_sessions (s := s) isPortValid order portId direction env index sessionId
    unfold mirrorPortAddLoop
    split
    · rename_i next result
      rw [result] at one
      exact one.trans (ih next (index + 1))
    · rename_i next error _ result
      rw [result] at one
      exact one

theorem mirrorPortVisit_sessions (sessions : List ObjectId) (env : MirrorPortEnv) (node : MirrorSessionPerPort) :
    s.SameSessions (mirrorPortVisit isPortValid portId direction sessions env node s).1 := by
  have removed := mirrorSessionPortRemove_sessions (s := s) isPortValid portId direction node.sessionId
    (env.remove node.sessionId)
  unfold mirrorPortVisit
  split
  · exact .of_tree rfl
  split
  · exact .of_tree rfl
  split
  · rename_i next result
    rw [result] at removed
    exact removed.trans (.of_tree rfl)
  · rename_i next error _ result
    rw [result] at removed
    exact removed

theorem mirrorHandlePerPort_sessions (sessions : List ObjectId) (env : MirrorPortEnv) :
    s.SameSessions (mirrorHandlePerPort s isPortValid order portId direction sessions env).1 := by
  unfold mirrorHandlePerPort
  split
  · exact .of_tree rfl
  split
  · exact .of_tree rfl
  have looped := mirrorPortAddLoop_sessions isPortValid order portId direction env sessions
    (s.putPortTree portId (s.portSessions portId)) 0
  dsimp only
  split
  · rename_i next result
    rw [result] at looped
    refine MirrorState.SameSessions.trans (t := next) looped ?_
    unfold mirrorRemoveMirrorPerPort
    have walked : next.SameSessions (order.walk SaiStatus.success (fun s => s.portSessions portId)
        (mirrorPortVisit isPortValid portId direction sessions env) (next.portSessions portId).length
        (next.portSessions portId).head? next).1 := by
      refine order.walk_keeps next.SameSessions (fun node u kept => ?_) _ _ next (.of_tree rfl)
      exact kept.trans (mirrorPortVisit_sessions isPortValid portId direction sessions env node)
    dsimp only
    split
    · exact walked
    · exact walked
  · rename_i next error _ result
    rw [result] at looped
    exact looped

theorem mirrorSessionAttributeSet_sessions (lookups : MirrorLookups) (sessionId : ObjectId) (attr : MirrorAttr)
    (npu : SaiStatus) : s.SameSessions (mirrorSessionAttributeSet s lookups sessionId attr npu).1 := by
  unfold mirrorSessionAttributeSet
  split
  · exact .of_tree rfl
  split
  · exact .of_tree rfl
  rename_i session stored
  split
  · split
    · exact .put stored rfl
    · exact .of_tree rfl
  · exact .put stored rfl

theorem mirrorSessionCreate_sessions (lookups : MirrorLookups) (attrs : List MirrorAttr) (env : MirrorCreateEnv)
    {id : ObjectId} (stored : s.mirrorSessionsTree.get id ≠ none) :
    (mirrorSessionCreate s lookups attrs env).1.mirrorSessionsTree.get id ≠ none := by
  unfold mirrorSessionCreate
  split
  · exact stored
  split
  · exact stored
  split
  · exact stored
  split
  · dsimp only
    split
    · split
      · exact stored
      dsimp only
      exact KeyTree.get_put_ne_none stored
    · exact stored
  · exact stored

theorem mirrorSessionRemove_sessions (s : MirrorState) (sessionId : ObjectId) (npu : SaiStatus) :
    (mirrorSessionRemove s sessionId npu).1 = s ∧ (mirrorSessionRemove s sessionId npu).2 ≠ .success ∨
      (∃ session, s.mirrorSessionsTree.get sessionId = some session ∧ sessionId.objType = .mirrorSession ∧
        session.sourcePortsTree = ∅ ∧ npu = .success) ∧
      (mirrorSessionRemove s sessionId npu).1.mirrorSessionsTree = s.mirrorSessionsTree.del sessionId := by
  unfold mirrorSessionRemove
  split
  · exact .inl ⟨rfl, fun same => (by cases same)⟩
  rename_i kind
  split
  · exact .inl ⟨rfl, fun same => (by cases same)⟩
  rename_i session stored
  split
  · exact .inl ⟨rfl, fun same => (by cases same)⟩
  rename_i sources
  split
  · exact .inr ⟨⟨session, stored, not_not.mp kind, not_not.mp sources, rfl⟩, rfl⟩
  · rename_i refused
    exact .inl ⟨rfl, refused⟩

end Mirror

section Udf
variable {s : UdfState}

def UdfState.groupType (s : UdfState) (groupId : ObjectId) : Option UdfGroupType :=
  (s.udfGroupTree.get groupId).map UdfGroup.type

theorem udfGroupCreate_types (attrs : List UdfGroupAttr) (env : UdfGroupCreateEnv) {groupId : ObjectId}
    {type : UdfGroupType} (typed : s.groupType groupId = some type) :
    (udfGroupCreate s attrs env).1.groupType groupId = some type := by
  have inserted (id : ObjectId) (group : UdfGroup) (insertOk : Bool) :
      (s.groupInserted id group insertOk).groupType groupId = some type := by
    unfold UdfState.groupInserted
    split
    · rename_i fresh
      unfold UdfState.groupType at typed ⊢
      dsimp only
      rw [KeyTree.get_put]
      split
      · rename_i here
        rw [here, fresh.2] at typed
        cases typed
      · exact typed
    · exact typed
  unfold udfGroupCreate
  split
  · exact typed
  split
  · exact typed
  split
  · exact typed
  split
  · exact inserted _ _ _
  · exact typed

theorem UdfState.udfListAdd_types (udfId : ObjectId) (udf : Udf) (groupId : ObjectId) :
    (s.udfListAdd udfId udf).groupType groupId = s.groupType groupId := by
  unfold UdfState.udfListAdd
  split
  · rfl
  unfold UdfState.groupType
  dsimp only
  rw [KeyTree.map_get_modify]
  exact fun _ => rfl

theorem UdfState.udfListRemove_types (udfId : ObjectId) (udf : Udf) (groupId : ObjectId) :
    (s.udfListRemove udfId udf).groupType groupId = s.groupType groupId := by
  unfold UdfState.udfListRemove
  split
  · rfl
  unfold UdfState.groupType
  dsimp only
  rw [KeyTree.map_get_modify]
  exact fun _ => rfl

theorem udfCreate_types (attrs : List UdfAttr) (env : UdfCreateEnv) (groupId : ObjectId) :
    (udfCreate s attrs env).1.groupType groupId = s.groupType groupId := by
  unfold udfCreate
  split
  · rfl
  split
  · rfl
  split
  · rfl
  split
  · dsimp only
    split
    · exact UdfState.udfListAdd_types _ _ groupId
    · rfl
  · rfl

theorem udfRemove_types (udfId : ObjectId) (env : UdfRemoveEnv) (groupId : ObjectId) :
    (udfRemove s udfId env).1.groupType groupId = s.groupType groupId := by
  unfold udfRemove
  split
  · rfl
  split
  · rfl
  dsimp only
  split
  · exact UdfState.udfListRemove_types _ _ groupId
  dsimp only
  split
  · rfl
  · rfl

theorem udfSetAttribute_types (udfId : ObjectId) (attr : UdfAttr) (env : UdfSetEnv) (groupId : ObjectId) :
    (udfSetAttribute s udfId attr env).1.groupType groupId = s.groupType groupId := by
  unfold udfSetAttribute
  split
  · rfl
  split
  · rfl
  split
  · rfl
  split
  · rfl
  split
  · rfl
  · rfl

end Udf

section Hash
variable {s : HashState} {group : ObjectId → Prop}

def HashObject.NamesGroups (group : ObjectId → Prop) (object : HashObject) : Prop :=
  ∀ groupId ∈ object.fields.udfGroups, group groupId

/-- The stored hash objects name groups that can be named. -/
def HashNames (group : ObjectId → Prop) (s : HashState) : Prop :=
  ∀ hashObjId object, s.hashObjTree.get hashObjId = some object → object.NamesGroups group

variable {groupType : ObjectId → Option UdfGroupType}

section
variable (tell : ∀ groupId, groupType groupId = some .hash → group groupId)
include tell

theorem hashAttrSetOne_names (names : object.NamesGroups group) {allocOk : Bool} {attr : HashAttr}
    (ok : hashAttrSetOne groupType object allocOk attr = .ok changed) : changed.NamesGroups group := by
  cases attr with
  | nativeFieldList value =>
    rw [hashAttrSetOne_eq ok]
    exact names
  | udfGroupList value =>
    unfold hashAttrSetOne hashUdfGroupListSet at ok
    dsimp only at ok
    split at ok
    · cases ok
    rename_i valid
    split at ok
    · cases ok
    cases ok
    intro groupId member
    rw [not_and, Bool.not_eq_false] at valid
    have all := valid (List.ne_nil_of_mem member)
    unfold hashUdfGroupListValidate at all
    rw [List.all_eq_true] at all
    exact tell groupId (of_decide_eq_true (all groupId member)).2
  | other =>
    cases ok
    exact names

theorem hashAttrSet_names (names : object.NamesGroups group) {allocOk : Nat → Bool} {index : Nat}
    {attrs : List HashAttr} (ok : hashAttrSet groupType allocOk index object attrs = .ok changed) :
    changed.NamesGroups group := by
  induction attrs generalizing object index with
  | nil =>
    cases ok
    exact names
  | cons attr rest ih =>
    unfold hashAttrSet at ok
    split at ok
    · cases ok
    · rename_i next set
      exact ih (hashAttrSetOne_names tell names set) ok

end

section
variable (names : HashNames group s)
include names

theorem HashNames.put {t : HashState} {hashObjId : ObjectId}
    (well : object.NamesGroups group) (written : t.hashObjTree = s.hashObjTree.put hashObjId object) :
    HashNames group t := by
  intro k other stored
  rw [written, KeyTree.get_put] at stored
  split at stored
  · cases stored
    exact well
  · exact names k other stored

theorem HashNames.of_tree {t : HashState} (same : t.hashObjTree = s.hashObjTree) : HashNames group t := by
  intro k object stored
  rw [same] at stored
  exact names k object stored

theorem HashNames.create {env : HashCreateEnv}
    (tell : ∀ groupId, env.groupType groupId = some .hash → group groupId) (attrs : List HashAttr)
    (validate : SaiStatus) : HashNames group (hashObjCreate s attrs validate env).1 := by
  have locked (index : Nat) : HashNames group (hashObjCreateLocked s index attrs env).1 := by
    unfold hashObjCreateLocked
    split
    · exact names
    rename_i object filled
    split
    · have zero : HashObject.zero.NamesGroups group := fun groupId member => absurd member List.not_mem_nil
      exact names.put (hashAttrSet_names tell zero filled) rfl
    · exact names
  unfold hashObjCreate
  split
  · exact names
  split
  · exact names
  rename_i index _
  split
  · exact names
  have result := locked index
  split
  · rename_i t made
    rw [made] at result
    exact result.of_tree rfl
  · rename_i t error _ made
    rw [made] at result
    exact result

theorem HashNames.remove (hashObjId : ObjectId) : HashNames group (hashObjRemove s hashObjId).1 := by
  unfold hashObjRemove
  split
  · exact names
  split
  · exact names
  split
  · exact names
  intro k object stored
  unfold HashState.setFree at stored
  dsimp only at stored
  exact names k object (KeyTree.get_of_del stored)

end

theorem hashResetLoop_tree (fields : HashFields) (undo : SwitchHashAttr → SaiStatus) (attrs : List SwitchHashAttr) :
    ∀ s, (hashResetLoop fields undo s attrs).hashObjTree = s.hashObjTree := by
  induction attrs with
  | nil => exact fun s => rfl
  | cons attr rest ih =>
    intro s
    unfold hashResetLoop
    split
    · exact ih _
    · exact ih s

theorem hashObjSetInHw_tree (hashObjId : ObjectId) (object : HashObject) (attr : HashAttr) (env : HashSetEnv) :
    (hashObjSetInHw s hashObjId object attr env).1.hashObjTree = s.hashObjTree := by
  unfold hashObjSetInHw
  split
  · rfl
  obtain ⟨more, _, state, _⟩ :=
    hashSetLoop_spec hashObjId (object.fields.withAttr attr) env.npu switchHashAttrs s env.uninitialised []
  have same : (hashSetLoop hashObjId (object.fields.withAttr attr) env.npu s env.uninitialised []
      switchHashAttrs).1.hashObjTree = s.hashObjTree := by rw [state]
  dsimp only
  split
  · exact same
  · exact (hashResetLoop_tree _ _ _ _).trans same

theorem HashNames.setAttr (names : HashNames group s) {env : HashSetEnv}
    (tell : ∀ groupId, env.groupType groupId = some .hash → group groupId) (hashObjId : ObjectId)
    (attr : HashAttr) : HashNames group (hashObjSetAttr s hashObjId attr env).1 := by
  unfold hashObjSetAttr
  split
  · exact names
  split
  · exact names
  split
  · exact names
  rename_i object stored
  split
  · exact names
  generalize reached : (if object.refCount ≠ 0 then hashObjSetInHw s hashObjId object attr env else (s, .success)) = r
  have tree : r.1.hashObjTree = s.hashObjTree := by
    rw [← reached]
    split
    · exact hashObjSetInHw_tree hashObjId object attr env
    · rfl
  dsimp only
  split
  · exact names.of_tree tree
  split
  · exact names.of_tree tree
  · rename_i changed set
    exact HashNames.put (names.of_tree tree) (hashAttrSet_names tell (names hashObjId object stored) set) rfl

theorem HashNames.addRef (names : HashNames group s) (hashObjId : Option ObjectId) (change : Int) :
    HashNames group (s.addRef hashObjId change) := by
  intro k object stored
  rw [HashState.get_addRef] at stored
  obtain ⟨old, there, rfl⟩ := Option.map_eq_some_iff.mp stored
  exact names k old there

theorem HashNames.switchAttrSet (names : HashNames group s) (attr : SwitchHashAttr) (hashObjId : ObjectId)
    (npu : SaiStatus) : HashNames group (switchHashAttrSet s attr hashObjId npu).1 := by
  have locked (next : Option ObjectId) : HashNames group (switchHashAttrSetLocked s attr next npu).1 := by
    unfold switchHashAttrSetLocked
    split
    · dsimp only
      refine HashNames.addRef ?_ next 1
      have dropped : HashNames group ((s.npuSet attr (s.assigned next)).addRef (s.hashObjTypes attr) (-1)) :=
        HashNames.addRef (s := s.npuSet attr (s.assigned next)) (names.of_tree rfl) (s.hashObjTypes attr) (-1)
      exact dropped.of_tree rfl
    · exact names
  unfold switchHashAttrSet
  split
  · exact locked none
  split
  · exact names
  split
  · exact names
  · exact locked _

end Hash
end SaiCommon
