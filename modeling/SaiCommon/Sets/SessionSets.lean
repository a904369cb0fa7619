import SaiCommon.Lib.AllOrNone
import SaiCommon.Mirroring.Session
import SaiCommon.Samplepacket.Session
import SaiCommon.Udf.Udf

namespace SaiCommon

section Mirror

inductive MirrorAttrId
  | kind (kind : MirrorAttrKind)
  | tc
  | ttl
  | other
deriving DecidableEq

def MirrorAttr.id : MirrorAttr → MirrorAttrId
  | .type _ => .kind .type
  | .tc _ => .tc
  | .vlanTpid _ => .kind .vlanTpid
  | .vlanId _ => .kind .vlanId
  | .vlanPri _ => .kind .vlanPri
  | .encapType _ => .kind .encapType
  | .iphdrVersion _ => .kind .iphdrVersion
  | .tos _ => .kind .tos
  | .ttl _ => .ttl
  | .srcIpAddress _ => .kind .srcIpAddress
  | .dstIpAddress _ => .kind .dstIpAddress
  | .srcMacAddress _ => .kind .srcMacAddress
  | .dstMacAddress _ => .kind .dstMacAddress
  | .greProtocolType _ => .kind .greProtocolType
  | .monitorPort _ => .kind .monitorPort
  | .other => .other

def MirrorSession.Holds (session : MirrorSession) : MirrorAttr → Prop
  | .type value => session.spanType = value
  | .tc value => session.sessionParams.classOfService = value
  | .vlanTpid value => session.sessionParams.tpid = value
  | .vlanId value => session.sessionParams.vlanId = value
  | .vlanPri value => session.sessionParams.vlanPriority = value
  | .encapType value => session.sessionParams.encapType = value
  | .iphdrVersion value => session.sessionParams.ipHdrVersion = value
  | .tos value => session.sessionParams.tos = value
  | .ttl value => session.sessionParams.ttl = value
  | .srcIpAddress value => session.sessionParams.srcIp = some value
  | .dstIpAddress value => session.sessionParams.dstIp = some value
  | .srcMacAddress value => session.sessionParams.srcMac = value
  | .dstMacAddress value => session.sessionParams.dstMac = value
  | .greProtocolType value => session.sessionParams.greProtocol = value
  | .monitorPort value => session.monitorPort = value
  | .other => False

/-- What the NPU was last successfully told about each session. -/
abbrev MirrorTold : Type := ObjectId × MirrorAttrId → Option MirrorAttr

def npuMirrorSessionAttributeSet (s : MirrorState) (told : MirrorTold) (lookups : MirrorLookups) (sessionId : ObjectId)
    (attr : MirrorAttr) (npu : SaiStatus) : MirrorState × MirrorTold × SaiStatus :=
  if sessionId.objType ≠ .mirrorSession then (s, told, .invalidObjectType)
  else match s.mirrorSessionsTree.get sessionId with
    | none => (s, told, .invalidObjectId)
    | some session =>
      match mirrorFillAttributeParams lookups 0 session attr with
      | (next, .success) =>
        match npu with
        | .success =>
          ({ s with mirrorSessionsTree := s.mirrorSessionsTree.put sessionId next },
            AllOrNone.tell (sessionId, attr.id) attr told, .success)
        | error => (s, told, error)
      | (next, error) => ({ s with mirrorSessionsTree := s.mirrorSessionsTree.put sessionId next }, told, error)

theorem npuMirrorSessionAttributeSet_database (s : MirrorState) (told : MirrorTold) (lookups : MirrorLookups)
    (sessionId : ObjectId) (attr : MirrorAttr) (npu : SaiStatus) :
    ((npuMirrorSessionAttributeSet s told lookups sessionId attr npu).1,
      (npuMirrorSessionAttributeSet s told lookups sessionId attr npu).2.2) =
      mirrorSessionAttributeSet s lookups sessionId attr npu := by
  unfold npuMirrorSessionAttributeSet mirrorSessionAttributeSet
  split
  · rfl
  cases s.mirrorSessionsTree.get sessionId with
  | none => rfl
  | some session =>
    dsimp only
    generalize mirrorFillAttributeParams lookups 0 session attr = filled
    obtain ⟨next, status⟩ := filled
    cases status with
    | success => cases npu <;> rfl
    | _ => rfl

/-- With success the session has the value; with an error it is as it was, but for
a type that is not one. -/
theorem mirrorFillAttributeParams_cases (lookups : MirrorLookups) (index : Nat) (session : MirrorSession)
    (attr : MirrorAttr) : ((mirrorFillAttributeParams lookups index session attr).2 = .success ∧
      (mirrorFillAttributeParams lookups index session attr).1.Holds attr ∧
      ∀ value, attr = .type value → value.valid = true) ∨
    ((mirrorFillAttributeParams lookups index session attr).2 ≠ .success ∧
      (mirrorFillAttributeParams lookups index session attr).1 = session ∧ ∀ value, attr ≠ .type value) ∨
    ∃ value, attr = .type value ∧ value.valid = false ∧
      (mirrorFillAttributeParams lookups index session attr).2 ≠ .success ∧
      (mirrorFillAttributeParams lookups index session attr).1 = { session with spanType := value } := by
  cases attr with
  | type value =>
    by_cases valid : value.valid = false
    · have refused : (mirrorFillAttributeParams lookups index session (.type value)).2 = .invalidAttrValue index :=
        if_pos valid
      exact Or.inr (Or.inr ⟨value, rfl, valid, by rw [refused]; exact SaiStatus.noConfusion, rfl⟩)
    · refine Or.inl ⟨if_neg valid, rfl, fun other same => ?_⟩
      rw [← MirrorAttr.type.inj same]
      exact Bool.not_eq_false _ ▸ valid
  | vlanId value =>
    dsimp only [mirrorFillAttributeParams]
    split
    · exact Or.inr (Or.inl ⟨SaiStatus.noConfusion, rfl, fun _ => MirrorAttr.noConfusion⟩)
    split
    · exact Or.inr (Or.inl ⟨SaiStatus.noConfusion, rfl, fun _ => MirrorAttr.noConfusion⟩)
    · exact Or.inl ⟨rfl, rfl, fun _ => MirrorAttr.noConfusion⟩
  | srcIpAddress value | dstIpAddress value | srcMacAddress value | dstMacAddress value =>
    dsimp only [mirrorFillAttributeParams]
    split
    · exact Or.inr (Or.inl ⟨SaiStatus.noConfusion, rfl, fun _ => MirrorAttr.noConfusion⟩)
    · exact Or.inl ⟨rfl, rfl, fun _ => MirrorAttr.noConfusion⟩
  | monitorPort value =>
    dsimp only [mirrorFillAttributeParams]
    split
    · split
      · exact Or.inr (Or.inl ⟨SaiStatus.noConfusion, rfl, fun _ => MirrorAttr.noConfusion⟩)
      · exact Or.inl ⟨rfl, rfl, fun _ => MirrorAttr.noConfusion⟩
    · split
      · split
        · exact Or.inr (Or.inl ⟨SaiStatus.noConfusion, rfl, fun _ => MirrorAttr.noConfusion⟩)
        · exact Or.inl ⟨rfl, rfl, fun _ => MirrorAttr.noConfusion⟩
      · exact Or.inr (Or.inl ⟨SaiStatus.noConfusion, rfl, fun _ => MirrorAttr.noConfusion⟩)
  | other => exact Or.inr (Or.inl ⟨SaiStatus.noConfusion, rfl, fun _ => MirrorAttr.noConfusion⟩)
  | _ => exact Or.inl ⟨rfl, rfl, fun _ => MirrorAttr.noConfusion⟩

def MirrorState.Holds (s : MirrorState) (sessionId : ObjectId) (attr : MirrorAttr) : Prop :=
  ∃ session, s.mirrorSessionsTree.get sessionId = some session ∧ session.Holds attr

/-- A type that is not one is set in a session of another type. -/
def MirrorTypeBroken (s : MirrorState) (sessionId : ObjectId) (attr : MirrorAttr) : Prop :=
  sessionId.objType = .mirrorSession ∧ ∃ session value, s.mirrorSessionsTree.get sessionId = some session ∧
    attr = .type value ∧ value.valid = false ∧ session.spanType ≠ value

theorem MirrorState.put_same {s : MirrorState} {sessionId : ObjectId} {session : MirrorSession}
    (stored : s.mirrorSessionsTree.get sessionId = some session) :
    { s with mirrorSessionsTree := s.mirrorSessionsTree.put sessionId session } = s := by
  rw [KeyTree.put_same stored]

/-- A session keeps its contents exactly when the set does not give it a type that
is not one. -/
theorem mirrorSet_ends_iff (s : MirrorState) (told : MirrorTold) (lookups : MirrorLookups) (sessionId : ObjectId)
    (attr : MirrorAttr) (npu : SaiStatus) :
    AllOrNone.Ends .success (fun t => MirrorState.Holds t sessionId attr) (sessionId, attr.id) attr s told
        (npuMirrorSessionAttributeSet s told lookups sessionId attr npu) ↔ ¬MirrorTypeBroken s sessionId attr := by
  unfold npuMirrorSessionAttributeSet
  by_cases typed : sessionId.objType = .mirrorSession
  · rw [if_neg (not_not_intro typed)]
    cases stored : s.mirrorSessionsTree.get sessionId with
    | none =>
      refine iff_of_true (.refused SaiStatus.noConfusion) ?_
      rintro ⟨-, session, value, found, -⟩
      rw [stored] at found
      cases found
    | some session =>
      have kept : (∀ value, attr = .type value → value.valid = true) → ¬MirrorTypeBroken s sessionId attr := by
        rintro valid ⟨-, other, value, -, set, wrong, -⟩
        exact Bool.false_ne_true (wrong.symm.trans (valid value set))
      dsimp only
      generalize filling : mirrorFillAttributeParams lookups 0 session attr = filled
      obtain ⟨next, status⟩ := filled
      have ways := mirrorFillAttributeParams_cases lookups 0 session attr
      rw [filling] at ways
      rcases ways with ⟨success, holds, valid⟩ | ⟨failed, same, other⟩ |
        ⟨value, set, wrong, failed, written⟩
      · obtain rfl : status = .success := success
        refine iff_of_true ?_ (kept valid)
        cases npu with
        | success => exact .done ⟨next, KeyTree.get_put_self _ _ _, holds⟩
        | _ => exact .refused SaiStatus.noConfusion
      · obtain rfl : next = session := same
        refine iff_of_true ?_ (kept fun value set => absurd set (other value))
        have put := MirrorState.put_same stored
        cases status with
        | success => exact absurd rfl failed
        | _ =>
          dsimp only
          rw [put]
          exact .refused SaiStatus.noConfusion
      · obtain rfl : next = { session with spanType := value } := written
        have broken : MirrorTypeBroken s sessionId attr ↔ session.spanType ≠ value := by
          constructor
          · rintro ⟨-, other, one, found, named, -, differ⟩
            rw [stored] at found
            rw [set] at named
            rw [Option.some.inj found, MirrorAttr.type.inj named]
            exact differ
          · exact fun differ => ⟨typed, session, value, stored, set, wrong, differ⟩
        rw [broken, not_not]
        have ends :
          AllOrNone.Ends .success (fun t => MirrorState.Holds t sessionId attr) (sessionId, attr.id) attr s told
            ({ s with mirrorSessionsTree := s.mirrorSessionsTree.put sessionId { session with spanType := value } },
              told, status) ↔ session.spanType = value := by
          rw [AllOrNone.ends_error failed, and_iff_left rfl]
          constructor
          · intro same
            have tree := congrArg (fun t : MirrorState => t.mirrorSessionsTree.get sessionId) same
            simp only [KeyTree.get_put_self, stored, Option.some.injEq] at tree
            exact (congrArg MirrorSession.spanType tree).symm
          · rintro rfl
            exact MirrorState.put_same stored
        cases status with
        | success => exact absurd rfl failed
        | _ => exact ends
  · rw [if_pos typed]
    exact iff_of_true (.refused SaiStatus.noConfusion) (fun broken => typed broken.1)

end Mirror

section Sample

inductive SampleAttrId
  | type
  | sampleRate
  | other
deriving DecidableEq

def SampleAttr.id : SampleAttr → SampleAttrId
  | .type _ => .type
  | .sampleRate _ => .sampleRate
  | .other => .other

def SampleSession.Holds (session : SampleSession) : SampleAttr → Prop
  | .type value => session.samplingType = value
  | .sampleRate value => session.sampleRate = value
  | .other => False

abbrev SampleTold : Type := ObjectId × SampleAttrId → Option SampleAttr

/-- `sai_samplepacket_session_attribute_set` with the NPU, which is told before
the attribute is looked at. -/
def npuSamplepacketSessionAttributeSet (platform : SamplePlatform) (s : SampleState) (told : SampleTold)
    (sessionId : ObjectId) (attr : SampleAttr) (npu : SaiStatus) : SampleState × SampleTold × SaiStatus :=
  if sessionId.objType ≠ .samplePacket then (s, told, .invalidObjectType)
  else match s.sessionTree.get sessionId with
    | none => (s, told, .invalidObjectId)
    | some session =>
      match npu with
      | .success =>
        let told := AllOrNone.tell (sessionId, attr.id) attr told
        match samplepacketFillAttributeParams platform 0 session attr with
        | .error status => (s, told, status)
        | .ok next => ({ s with sessionTree := s.sessionTree.put sessionId next }, told, .success)
      | error => (s, told, error)

/-- The attributes that `sai_samplepacket_fill_attribute_params` takes. -/
def SampleAttr.accepted (platform : SamplePlatform) : SampleAttr → Bool
  | .type value => value = platform.slowPath
  | .sampleRate value => value ≠ 0
  | .other => false

theorem samplepacketFillAttributeParams_cases (platform : SamplePlatform) (index : Nat) (session : SampleSession)
    (attr : SampleAttr) :
    (attr.accepted platform = true ∧
      ∃ next, samplepacketFillAttributeParams platform index session attr = .ok next ∧
      next.Holds attr) ∨
    (attr.accepted platform = false ∧ ∃ status, samplepacketFillAttributeParams platform index session attr =
      .error status ∧ status ≠ .success) := by
  cases attr with
  | type value =>
    by_cases slow : value = platform.slowPath
    · exact Or.inl ⟨decide_eq_true slow, _, if_neg (not_not_intro slow), rfl⟩
    · exact Or.inr ⟨decide_eq_false slow, _, if_pos slow, SaiStatus.noConfusion⟩
  | sampleRate value =>
    by_cases zero : value = 0
    · exact Or.inr ⟨decide_eq_false (not_not_intro zero), _, if_pos zero, SaiStatus.noConfusion⟩
    · exact Or.inl ⟨decide_eq_true zero, _, if_neg zero, rfl⟩
  | other => exact Or.inr ⟨rfl, _, rfl, SaiStatus.noConfusion⟩

def SampleState.Holds (s : SampleState) (sessionId : ObjectId) (attr : SampleAttr) : Prop :=
  ∃ session, s.sessionTree.get sessionId = some session ∧ session.Holds attr

/-- The NPU takes a value that is new to it, and the session refuses it. -/
def SampleToldBroken (platform : SamplePlatform) (s : SampleState) (told : SampleTold) (sessionId : ObjectId)
    (attr : SampleAttr) (npu : SaiStatus) : Prop :=
  sessionId.objType = .samplePacket ∧ s.sessionTree.get sessionId ≠ none ∧ npu = .success ∧
    attr.accepted platform = false ∧ told (sessionId, attr.id) ≠ some attr

theorem sampleSet_ends_iff (platform : SamplePlatform) (s : SampleState) (told : SampleTold) (sessionId : ObjectId)
    (attr : SampleAttr) (npu : SaiStatus) :
    AllOrNone.Ends .success (fun t => SampleState.Holds t sessionId attr) (sessionId, attr.id) attr s told
        (npuSamplepacketSessionAttributeSet platform s told sessionId attr npu) ↔
      ¬SampleToldBroken platform s told sessionId attr npu := by
  unfold npuSamplepacketSessionAttributeSet SampleToldBroken
  by_cases typed : sessionId.objType = .samplePacket
  · rw [if_neg (not_not_intro typed), and_iff_right typed]
    cases stored : s.sessionTree.get sessionId with
    | none => exact iff_of_true (.refused SaiStatus.noConfusion) (fun broken => broken.1 rfl)
    | some session =>
      rw [and_iff_right (Option.some_ne_none session)]
      cases npu with
      | success =>
        dsimp only
        rw [and_iff_right rfl]
        rcases samplepacketFillAttributeParams_cases platform 0 session attr with
          ⟨accepted, next, filled, holds⟩ | ⟨refused, status, filled, failed⟩
        · rw [filled]
          refine iff_of_true (.done ⟨next, KeyTree.get_put_self _ _ _, holds⟩) ?_
          exact fun broken => Bool.false_ne_true (broken.1.symm.trans accepted)
        · rw [filled, and_iff_right refused, not_not]
          exact (AllOrNone.ends_error failed).trans ((and_iff_right rfl).trans AllOrNone.tell_eq_iff)
      | _ => exact iff_of_true (.refused SaiStatus.noConfusion) (fun broken => SaiStatus.noConfusion broken.1)
  · rw [if_pos typed]
    exact iff_of_true (.refused SaiStatus.noConfusion) (fun broken => typed broken.1)

end Sample

section Udf

def Udf.Holds (udf : Udf) : UdfAttr → Prop
  | .matchId value => udf.matchObjId = value
  | .groupId value => udf.udfGroup = some value
  | .base value => udf.base = value
  | .offset value => udf.offset = value
  | .hashMask value => udf.hashMask = some value
  | .other => False

abbrev UdfTold : Type := ObjectId × Option UdfAttrKind → Option UdfAttr

def npuUdfSetAttribute (s : UdfState) (told : UdfTold) (udfId : ObjectId) (attr : UdfAttr) (env : UdfSetEnv) :
    UdfState × UdfTold × SaiStatus :=
  if udfId.objType ≠ .udf then (s, told, .invalidObjectType)
  else if env.validate ≠ .success then (s, told, env.validate)
  else match s.udfObjTree.get udfId with
    | none => (s, told, .invalidObjectId)
    | some udf =>
      match udfAttrSet s.udfGroupTree udf [attr] .set env.maskAllocOk with
      | .error status => (s, told, status)
      | .ok changed =>
        match env.npu with
        | .success =>
          ({ s with udfObjTree := s.udfObjTree.put udfId changed }, AllOrNone.tell (udfId, attr.kind) attr told,
            .success)
        | error =>
          let shared : Udf := { udf with hashMask := if udf.hashMask = none then none else changed.hashMask }
          ({ s with udfObjTree := s.udfObjTree.put udfId shared }, told, error)

theorem npuUdfSetAttribute_database (s : UdfState) (told : UdfTold) (udfId : ObjectId) (attr : UdfAttr)
    (env : UdfSetEnv) :
    ((npuUdfSetAttribute s told udfId attr env).1, (npuUdfSetAttribute s told udfId attr env).2.2) =
      udfSetAttribute s udfId attr env := by
  unfold npuUdfSetAttribute udfSetAttribute
  split
  · rfl
  split
  · rfl
  cases s.udfObjTree.get udfId with
  | none => rfl
  | some udf =>
    dsimp only
    cases udfAttrSet s.udfGroupTree udf [attr] .set env.maskAllocOk with
    | error status => rfl
    | ok changed => cases env.npu <;> rfl

theorem SaiStatus.indexed_ne_success {status : SaiStatus} (failed : status ≠ .success) (index : Nat) :
    status.indexed index ≠ .success := by
  cases status with
  | success => exact absurd rfl failed
  | _ => exact SaiStatus.noConfusion

section
variable (groups : KeyTree ObjectId UdfGroup)

theorem udfHashMaskSet_cases (udf : Udf) (mask : List (BitVec 8)) (maskAllocOk : Bool) :
    ((∃ group, udf.group groups = some group ∧ group.type = .hash ∧ mask.length ≠ 0 ∧
      group.length = mask.length) ∧
      udfHashMaskSet groups udf mask maskAllocOk = .ok { udf with hashMask := some mask }) ∨
    (((∃ group, udf.group groups = some group ∧ group.type = .hash ∧ mask.length ≠ 0 ∧
      group.length = mask.length) →
      udf.hashMask = none) ∧
      ∃ status, udfHashMaskSet groups udf mask maskAllocOk = .error status ∧ status ≠ .success) := by
  unfold udfHashMaskSet
  cases grouped : udf.group groups with
  | none =>
    refine Or.inr ⟨?_, _, rfl, SaiStatus.noConfusion⟩
    rintro ⟨group, found, -⟩
    cases found
  | some group =>
    dsimp only
    by_cases hash : group.type = .hash
    · rw [if_neg (not_not_intro hash)]
      by_cases empty : mask.length = 0
      · rw [if_pos empty]
        refine Or.inr ⟨?_, _, rfl, SaiStatus.noConfusion⟩
        rintro ⟨-, -, -, bytes, -⟩
        exact absurd empty bytes
      rw [if_neg empty]
      by_cases same : group.length = mask.length
      · rw [if_neg (not_not_intro same)]
        split
        · rename_i unallocated
          exact Or.inr ⟨fun _ => unallocated.1, _, rfl, SaiStatus.noConfusion⟩
        · exact Or.inl ⟨⟨group, rfl, hash, empty, same⟩, rfl⟩
      · rw [if_pos same]
        refine Or.inr ⟨?_, _, rfl, SaiStatus.noConfusion⟩
        rintro ⟨other, found, -, -, long⟩
        rw [← Option.some.inj found] at long
        exact absurd long same
    · rw [if_pos hash]
      refine Or.inr ⟨?_, _, rfl, SaiStatus.noConfusion⟩
      rintro ⟨other, found, typed, -⟩
      rw [← Option.some.inj found] at typed
      exact absurd typed hash

theorem udfAttrSetOne_cases (udf : Udf) {attr : UdfAttr} (other : ∀ mask, attr ≠ .hashMask mask) :
    (∃ changed, udfAttrSetOne groups udf attr = .ok changed ∧ changed.Holds attr ∧
      changed.hashMask = udf.hashMask) ∨
    ∃ status, udfAttrSetOne groups udf attr = .error status ∧ status ≠ .success := by
  cases attr with
  | matchId value =>
    dsimp only [udfAttrSetOne, udfMatchIdSet]
    split
    · exact Or.inr ⟨_, rfl, SaiStatus.noConfusion⟩
    · exact Or.inl ⟨_, rfl, rfl, rfl⟩
  | groupId value =>
    dsimp only [udfAttrSetOne, udfGroupIdSet]
    split
    · exact Or.inr ⟨_, rfl, SaiStatus.noConfusion⟩
    split
    · exact Or.inr ⟨_, rfl, SaiStatus.noConfusion⟩
    · exact Or.inl ⟨_, rfl, rfl, rfl⟩
  | base value =>
    cases value with
    | other value => exact Or.inr ⟨_, rfl, SaiStatus.noConfusion⟩
    | _ => exact Or.inl ⟨_, rfl, rfl, rfl⟩
  | offset value => exact Or.inl ⟨_, rfl, rfl, rfl⟩
  | hashMask mask => exact absurd rfl (other mask)
  | other => exact Or.inr ⟨_, rfl, SaiStatus.noConfusion⟩

theorem udfAttrSet_other (udf : Udf) {attr : UdfAttr} (maskAllocOk : Bool) (other : ∀ mask, attr ≠ .hashMask mask) :
    udfAttrSet groups udf [attr] .set maskAllocOk = (udfAttrSetOne groups udf attr).mapError (SaiStatus.indexed 0) := by
  have noMask : udfHashMaskAttr 0 [attr] = none := by
    cases attr with
    | hashMask mask => exact absurd rfl (other mask)
    | _ => rfl
  unfold udfAttrSet udfAttrSetLoop
  cases udfAttrSetOne groups udf attr with
  | error status => rfl
  | ok changed =>
    dsimp only [udfAttrSetLoop]
    rw [noMask]
    rfl

end

def UdfState.Holds (s : UdfState) (udfId : ObjectId) (attr : UdfAttr) : Prop :=
  ∃ udf, s.udfObjTree.get udfId = some udf ∧ udf.Holds attr

/-- The NPU refuses a mask that is right, and that the UDF has other bytes for. -/
def UdfMaskBroken (s : UdfState) (udfId : ObjectId) (attr : UdfAttr) (env : UdfSetEnv) : Prop :=
  udfId.objType = .udf ∧ env.validate = .success ∧ env.npu ≠ .success ∧
    ∃ udf mask old, s.udfObjTree.get udfId = some udf ∧ attr = .hashMask mask ∧
      (∃ group, udf.group s.udfGroupTree = some group ∧ group.type = .hash ∧ mask.length ≠ 0 ∧
        group.length = mask.length) ∧ udf.hashMask = some old ∧ old ≠ mask

theorem udfAttrSet_mask (groups : KeyTree ObjectId UdfGroup) (udf : Udf) (mask : List (BitVec 8)) (maskAllocOk : Bool) :
    udfAttrSet groups udf [.hashMask mask] .set maskAllocOk =
      (udfHashMaskSet groups udf mask maskAllocOk).mapError (SaiStatus.indexed 0) := rfl

/-- A UDF after the NPU refused an attribute. -/
def Udf.shared (udf changed : Udf) : Udf :=
  { udf with hashMask := if udf.hashMask = none then none else changed.hashMask }

theorem UdfState.put_shared {s : UdfState} {udfId : ObjectId} {udf : Udf} (changed : Udf)
    (stored : s.udfObjTree.get udfId = some udf) :
    { s with udfObjTree := s.udfObjTree.put udfId (udf.shared changed) } = s ↔
      ∀ old, udf.hashMask = some old → changed.hashMask = some old := by
  have same : { s with udfObjTree := s.udfObjTree.put udfId (udf.shared changed) } = s ↔
    udf.shared changed = udf := by
    constructor
    · intro same
      have tree := congrArg (fun t : UdfState => t.udfObjTree.get udfId) same
      simp only [KeyTree.get_put_self, stored, Option.some.injEq] at tree
      exact tree
    · intro same
      rw [same, KeyTree.put_same stored]
  rw [same]
  unfold Udf.shared
  cases mask : udf.hashMask with
  | none =>
    refine iff_of_true ?_ (fun old held => by cases held)
    rw [if_pos rfl, ← mask]
  | some bytes =>
    rw [if_neg (Option.some_ne_none bytes)]
    constructor
    · rintro same old held
      have masks := congrArg Udf.hashMask same
      rw [mask, held] at masks
      exact masks
    · intro all
      rw [all bytes rfl, ← mask]

/-- The copy of the UDF shares the bytes of the mask with it, so a mask that the
NPU refuses is in the UDF all the same. -/
theorem udfSet_ends_iff (s : UdfState) (told : UdfTold) (udfId : ObjectId) (attr : UdfAttr) (env : UdfSetEnv) :
    AllOrNone.Ends .success (fun t => UdfState.Holds t udfId attr) (udfId, attr.kind) attr s told
        (npuUdfSetAttribute s told udfId attr env) ↔ ¬UdfMaskBroken s udfId attr env := by
  unfold npuUdfSetAttribute
  by_cases typed : udfId.objType = .udf
  · rw [if_neg (not_not_intro typed)]
    by_cases valid : env.validate = .success
    · rw [if_neg (not_not_intro valid)]
      cases stored : s.udfObjTree.get udfId with
      | none =>
        refine iff_of_true (.refused SaiStatus.noConfusion) ?_
        rintro ⟨-, -, -, udf, mask, old, found, -⟩
        rw [stored] at found
        cases found
      | some udf =>
        dsimp only
        by_cases isMask : ∃ mask, attr = .hashMask mask
        · obtain ⟨mask, rfl⟩ := isMask
          rw [udfAttrSet_mask]
          rcases udfHashMaskSet_cases s.udfGroupTree udf mask env.maskAllocOk with
            ⟨right, ok⟩ | ⟨bare, status, error, failed⟩
          · obtain ⟨changed, has⟩ : ∃ changed, changed = { udf with hashMask := some mask } := ⟨_, rfl⟩
            have put := UdfState.put_shared changed stored
            rw [ok, ← has]
            have broken : env.npu ≠ .success → (UdfMaskBroken s udfId (.hashMask mask) env ↔
                ∃ old, udf.hashMask = some old ∧ old ≠ mask) := by
              intro refused
              constructor
              · rintro ⟨-, -, -, other, bytes, old, found, named, -, held, differ⟩
                rw [stored] at found
                rw [Option.some.inj found, UdfAttr.hashMask.inj named]
                exact ⟨old, held, differ⟩
              · rintro ⟨old, held, differ⟩
                exact ⟨typed, valid, refused, udf, mask, old, stored, rfl, right, held, differ⟩
            have ends : ∀ error : SaiStatus, error ≠ .success → env.npu = error →
                (AllOrNone.Ends .success (fun t => UdfState.Holds t udfId (.hashMask mask)) (udfId, some .hashMask)
                  (.hashMask mask) s told
                  ({ s with udfObjTree := s.udfObjTree.put udfId (udf.shared changed) }, told, error) ↔
                  ¬UdfMaskBroken s udfId (.hashMask mask) env) := by
              rintro error failed answer
              rw [AllOrNone.ends_error failed, and_iff_left rfl, put, broken (answer ▸ failed), has]
              simp only [Option.some.injEq, not_exists, not_and, not_not, eq_comm]
            cases answer : env.npu with
            | success =>
              refine iff_of_true (.done ⟨changed, KeyTree.get_put_self _ _ _, by rw [has]; rfl⟩) ?_
              exact fun broken => broken.2.2.1 answer
            | _ => exact ends _ SaiStatus.noConfusion answer
          · rw [error]
            refine iff_of_true (.refused (SaiStatus.indexed_ne_success failed 0)) ?_
            rintro ⟨-, -, -, other, bytes, old, found, named, right, held, -⟩
            rw [stored] at found
            rw [← Option.some.inj found, ← UdfAttr.hashMask.inj named] at right
            rw [← Option.some.inj found, bare right] at held
            cases held
        · have other : ∀ mask, attr ≠ .hashMask mask := fun mask same => isMask ⟨mask, same⟩
          have kept : ¬UdfMaskBroken s udfId attr env := by
            rintro ⟨-, -, -, -, mask, -, -, named, -⟩
            exact other mask named
          rw [udfAttrSet_other _ _ _ other]
          rcases udfAttrSetOne_cases s.udfGroupTree udf other with
            ⟨changed, ok, holds, mask⟩ | ⟨status, error, failed⟩
          · rw [ok]
            refine iff_of_true ?_ kept
            have put := (UdfState.put_shared changed stored).mpr fun old held => mask.trans held
            have ends : ∀ error : SaiStatus, error ≠ .success →
                AllOrNone.Ends .success (fun t => UdfState.Holds t udfId attr) (udfId, attr.kind) attr s told
                  ({ s with udfObjTree := s.udfObjTree.put udfId (udf.shared changed) }, told, error) := by
              intro error failed
              rw [put]
              exact .refused failed
            cases env.npu with
            | success => exact .done ⟨changed, KeyTree.get_put_self _ _ _, holds⟩
            | _ => exact ends _ SaiStatus.noConfusion
          · rw [error]
            exact iff_of_true (.refused (SaiStatus.indexed_ne_success failed 0)) kept
    · rw [if_pos valid]
      exact iff_of_true (.refused valid) (fun broken => valid broken.2.1)
  · rw [if_pos typed]
    exact iff_of_true (.refused SaiStatus.noConfusion) (fun broken => typed broken.1)

end Udf

/-- Each of the three sets ends as it should exactly when its own way to go wrong
is not taken: a type written before it is checked, an NPU told before the value is
checked, and bytes shared with the copy. -/
theorem sets_allOrNone_iff (mirrors : MirrorState) (mirrorTold : MirrorTold) (lookups : MirrorLookups)
    (mirrorAttr : MirrorAttr) (platform : SamplePlatform) (samples : SampleState) (sampleTold : SampleTold)
    (sampleAttr : SampleAttr) (sessionId : ObjectId) (npu : SaiStatus) (udfs : UdfState) (udfTold : UdfTold)
    (udfId : ObjectId) (udfAttr : UdfAttr) (env : UdfSetEnv) :
    (AllOrNone.Ends .success (fun t => MirrorState.Holds t sessionId mirrorAttr) (sessionId, mirrorAttr.id) mirrorAttr
      mirrors mirrorTold (npuMirrorSessionAttributeSet mirrors mirrorTold lookups sessionId mirrorAttr npu) ↔
        ¬MirrorTypeBroken mirrors sessionId mirrorAttr) ∧
    (AllOrNone.Ends .success (fun t => SampleState.Holds t sessionId sampleAttr) (sessionId, sampleAttr.id) sampleAttr
      samples sampleTold (npuSamplepacketSessionAttributeSet platform samples sampleTold sessionId sampleAttr npu) ↔
        ¬SampleToldBroken platform samples sampleTold sessionId sampleAttr npu) ∧
    (AllOrNone.Ends .success (fun t => UdfState.Holds t udfId udfAttr) (udfId, udfAttr.kind) udfAttr udfs udfTold
      (npuUdfSetAttribute udfs udfTold udfId udfAttr env) ↔ ¬UdfMaskBroken udfs udfId udfAttr env) :=
  ⟨mirrorSet_ends_iff .., sampleSet_ends_iff .., udfSet_ends_iff ..⟩

def mirrorSetSample : MirrorState where
  mirrorSessionsTree := (∅ : KeyTree ObjectId MirrorSession).put ⟨.mirrorSession, 1⟩ .zero
  portTrees := ∅
  npuMirrors := fun _ => false

def sampleSetSample : SampleState where
  sessionTree := (∅ : KeyTree ObjectId SampleSession).put ⟨.samplePacket, 1⟩ ⟨0, 1000, ∅⟩

/-- A group of two bytes with one UDF of its default mask. -/
def udfSetSample : UdfState where
  udfGroupTree := (∅ : KeyTree ObjectId UdfGroup).put ⟨.udfGroup, 1⟩ ⟨.hash, 2, [⟨.udf, 1⟩], 1⟩
  udfObjTree :=
    (∅ : KeyTree ObjectId Udf).put ⟨.udf, 1⟩ ⟨⟨.udfMatch, 1⟩, some ⟨.udfGroup, 1⟩, .l2, 0,
      some [255, 255]⟩

/-- None of the three sets always ends as it should. -/
theorem sets_not_allOrNone :
    (¬ ∀ (s : MirrorState) (told : MirrorTold) (lookups : MirrorLookups) (sessionId : ObjectId) (attr : MirrorAttr)
      (npu : SaiStatus),
      AllOrNone.Ends .success (fun t => MirrorState.Holds t sessionId attr) (sessionId, attr.id) attr s told
        (npuMirrorSessionAttributeSet s told lookups sessionId attr npu)) ∧
    (¬ ∀ (platform : SamplePlatform) (s : SampleState) (told : SampleTold) (sessionId : ObjectId) (attr : SampleAttr)
      (npu : SaiStatus),
      AllOrNone.Ends .success (fun t => SampleState.Holds t sessionId attr) (sessionId, attr.id) attr s told
        (npuSamplepacketSessionAttributeSet platform s told sessionId attr npu)) ∧
    ¬ ∀ (s : UdfState) (told : UdfTold) (udfId : ObjectId) (attr : UdfAttr) (env : UdfSetEnv),
      AllOrNone.Ends .success (fun t => UdfState.Holds t udfId attr) (udfId, attr.kind) attr s told
        (npuUdfSetAttribute s told udfId attr env) := by
  refine ⟨fun all => ?_, fun all => ?_, fun all => ?_⟩
  · have ends := all mirrorSetSample (fun _ => none) ⟨fun _ => false, fun _ => true, fun _ => true, fun _ => true,
      fun _ => true⟩ ⟨.mirrorSession, 1⟩ (.type (.other 7)) .success
    obtain ⟨same, -⟩ := ends.error SaiStatus.noConfusion
    have spans := congrArg (fun t : MirrorState => (t.mirrorSessionsTree.get ⟨.mirrorSession, 1⟩).map
      MirrorSession.spanType) same
    exact absurd spans (by decide)
  · have ends := all ⟨0⟩ sampleSetSample (fun _ => none) ⟨.samplePacket, 1⟩ (.sampleRate 0) .success
    obtain ⟨-, told⟩ := ends.error SaiStatus.noConfusion
    exact absurd (congrFun told (⟨.samplePacket, 1⟩, .sampleRate)) (by decide)
  · have ends := all udfSetSample (fun _ => none) ⟨.udf, 1⟩ (.hashMask [15, 240]) ⟨.success, true, .failure⟩
    obtain ⟨same, -⟩ := ends.error SaiStatus.noConfusion
    have masks := congrArg (fun t : UdfState => (t.udfObjTree.get ⟨.udf, 1⟩).map Udf.hashMask) same
    exact absurd masks (by decide)

end SaiCommon
