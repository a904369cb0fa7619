import SaiCommon.Lib.Slots
import SaiCommon.Qos.MapTablesRuns

namespace SaiCommon

def QosMapType.hasTable : QosMapType → Bool
  | .other _ => false
  | .invalid => false
  | _ => true

namespace QosMapPlatform
variable (platform : QosMapPlatform)

/-- What a `_list_update` checks of an entry. -/
def entryCheck (mapType : QosMapType) (e : QosMapEntry) : SaiStatus :=
  match mapType with
  | .dot1pToTcAndColor => platform.attrValueValidate e.key.dot1p e.value.tc e.value.color 0
  | .dscpToTcAndColor => platform.attrValueValidate 0 e.value.tc e.value.color e.key.dscp
  | .tcToQueue =>
    match platform.attrValueValidate 0 e.key.tc 0 0 with
    | .success => if platform.maxQueues ≤ e.value.queueIndex then .invalidAttrValue 0 else .success
    | error => error
  | .tcToPriorityGroup =>
    match platform.attrValueValidate 0 e.key.tc 0 0 with
    | .success => if platform.numPg ≤ e.value.pg then .invalidAttrValue 0 else .success
    | error => error
  | .pfcPriorityToQueue => if platform.maxQueues < e.value.queueIndex then .invalidAttrValue 0 else .success
  | .tcAndColorToDot1p => platform.attrValueValidate e.value.dot1p e.key.tc e.key.color 0
  | .tcAndColorToDscp => platform.attrValueValidate 0 e.key.tc e.key.color e.value.dscp
  | .other _ => .notSupported
  | .invalid => .notSupported

def entryIndex (mapType : QosMapType) (e : QosMapEntry) : Nat :=
  match mapType with
  | .dot1pToTcAndColor => e.key.dot1p
  | .dscpToTcAndColor => e.key.dscp
  | .tcToQueue => (platform.queueSlot platform.maxTc e.key.tc e.value.queueIndex).1
  | .tcToPriorityGroup => e.key.tc
  | .pfcPriorityToQueue => (platform.queueSlot platform.maxPfcPri e.key.prio e.value.queueIndex).1
  | .tcAndColorToDot1p => platform.mapsGetIndex e.key.color e.key.tc
  | .tcAndColorToDscp => platform.mapsGetIndex e.key.color e.key.tc
  | .other _ => 0
  | .invalid => 0

def entryWrite (mapType : QosMapType) (e old : QosMapEntry) : QosMapEntry :=
  match mapType with
  | .dot1pToTcAndColor =>
    { key := { old.key with dot1p := e.key.dot1p }
      value := { old.value with tc := e.value.tc, color := e.value.color } }
  | .dscpToTcAndColor =>
    { key := { old.key with dscp := e.key.dscp }
      value := { old.value with tc := e.value.tc, color := e.value.color } }
  | .tcToQueue =>
    { key := { old.key with tc := e.key.tc }
      value := { old.value with
        queueIndex := (platform.queueSlot platform.maxTc e.key.tc e.value.queueIndex).2 } }
  | .tcToPriorityGroup =>
    { key := { old.key with tc := e.key.tc }, value := { old.value with pg := e.value.pg } }
  | .pfcPriorityToQueue =>
    { key := { old.key with prio := e.key.prio }
      value := { old.value with
        queueIndex := (platform.queueSlot platform.maxPfcPri e.key.prio e.value.queueIndex).2 } }
  | .tcAndColorToDot1p =>
    { key := { old.key with tc := e.key.tc, color := e.key.color }
      value := { old.value with dot1p := e.value.dot1p } }
  | .tcAndColorToDscp =>
    { key := { old.key with tc := e.key.tc, color := e.key.color }
      value := { old.value with dscp := e.value.dscp } }
  | .other _ => old
  | .invalid => old

/-- The entries that are written: those before the first one that is not valid. -/
def validEntries (mapType : QosMapType) (entries : List QosMapEntry) : List QosMapEntry :=
  entries.takeWhile fun e => platform.entryCheck mapType e = .success

section Updates
variable {platform : QosMapPlatform} {mapType : QosMapType} {table : QosMapTable} {entries : List QosMapEntry}
  {check : QosMapEntry → SaiStatus} {index : QosMapEntry → Nat}
    {write : QosMapEntry → QosMapEntry → QosMapEntry}

theorem listUpdate_table : (listUpdate check index write table entries).1 =
    Slots.writeAll index write table (entries.takeWhile fun e => check e = .success) := by
  induction entries generalizing table with
  | nil => rfl
  | cons entry rest ih =>
    unfold listUpdate
    by_cases valid : check entry = .success
    · rw [valid, List.takeWhile_cons, if_pos (decide_eq_true valid)]
      exact ih
    rw [List.takeWhile_cons, if_neg (by simpa using valid)]
    split
    · next success => exact absurd success valid
    · rfl

theorem listUpdate_success : (listUpdate check index write table entries).2 = .success ↔
    ∀ entry ∈ entries, check entry = .success := by
  induction entries generalizing table with
  | nil => exact iff_of_true rfl nofun
  | cons entry rest ih =>
    unfold listUpdate
    rw [List.forall_mem_cons]
    by_cases valid : check entry = .success
    · rw [valid]
      exact ih.trans (iff_and_self.mpr fun _ => rfl)
    · split
      · next success => exact absurd success valid
      · exact iff_of_false valid fun all => valid all.1

/-- The table update of a type is the loop with the check, the index and the write of
the type. -/
theorem tableUpdate_eq (supported : platform.isMapSupported mapType = true) (tabled : mapType.hasTable = true) :
    platform.tableUpdate mapType table entries =
      listUpdate (platform.entryCheck mapType) (platform.entryIndex mapType) (platform.entryWrite mapType) table
        entries := by
  unfold tableUpdate
  rw [if_neg (by rw [supported]; exact Bool.noConfusion)]
  cases mapType with
  | other value => cases tabled
  | invalid => cases tabled
  | _ => rfl

theorem tableUpdate_refused (refused : platform.isMapSupported mapType = false ∨ mapType.hasTable = false) :
    platform.tableUpdate mapType table entries = (table, .notSupported) := by
  unfold tableUpdate
  rcases refused with unsupported | none
  · rw [if_pos unsupported]
  split
  · rfl
  cases mapType with
  | other value => rfl
  | invalid => rfl
  | _ => cases none

theorem entryWrite_overwrites (e older v : QosMapEntry) :
    platform.entryWrite mapType e (platform.entryWrite mapType older v) = platform.entryWrite mapType e v := by
  cases mapType <;> rfl

def Takes (platform : QosMapPlatform) (mapType : QosMapType) (entries : List QosMapEntry) : Prop :=
  platform.isMapSupported mapType = true ∧ mapType.hasTable = true ∧
    ∀ entry ∈ entries, platform.entryCheck mapType entry = .success

theorem tableUpdate_success :
    (platform.tableUpdate mapType table entries).2 = .success ↔ platform.Takes mapType entries := by
  unfold Takes
  cases supported : platform.isMapSupported mapType with
  | false =>
    rw [tableUpdate_refused (.inl supported)]
    exact iff_of_false SaiStatus.noConfusion fun takes => Bool.noConfusion takes.1
  | true =>
    cases tabled : mapType.hasTable with
    | false =>
      rw [tableUpdate_refused (.inr tabled)]
      exact iff_of_false SaiStatus.noConfusion fun takes => Bool.noConfusion takes.2.1
    | true =>
      rw [tableUpdate_eq supported tabled, listUpdate_success]
      exact ⟨fun all => ⟨rfl, rfl, all⟩, fun takes => takes.2.2⟩

theorem length_tableUpdate : (platform.tableUpdate mapType table entries).1.length = table.length := by
  cases supported : platform.isMapSupported mapType with
  | false => rw [tableUpdate_refused (.inl supported)]
  | true =>
    cases tabled : mapType.hasTable with
    | false => rw [tableUpdate_refused (.inr tabled)]
    | true =>
      rw [tableUpdate_eq supported tabled, listUpdate_table]
      exact Slots.length_writeAll _ _

end Updates

/-- The table already has, in every slot, what the last valid entry for the slot writes. -/
def Holds (mapType : QosMapType) (table : QosMapTable) (entries : List QosMapEntry) : Prop :=
  platform.isMapSupported mapType = true → mapType.hasTable = true → ∀ slot entry old,
    Slots.lastAt (platform.entryIndex mapType) slot (platform.validEntries mapType entries) = some entry →
    table[slot]? = some old → platform.entryWrite mapType entry old = old

theorem tableUpdate_same {platform : QosMapPlatform} {mapType : QosMapType} {table : QosMapTable}
    {entries : List QosMapEntry} :
    (platform.tableUpdate mapType table entries).1 = table ↔ platform.Holds mapType table entries := by
  unfold Holds validEntries
  cases supported : platform.isMapSupported mapType with
  | false =>
    rw [tableUpdate_refused (.inl supported)]
    exact iff_of_true rfl nofun
  | true =>
    cases tabled : mapType.hasTable with
    | false =>
      rw [tableUpdate_refused (.inr tabled)]
      exact iff_of_true rfl nofun
    | true =>
      rw [tableUpdate_eq supported tabled, listUpdate_table, Slots.writeAll_eq_self entryWrite_overwrites]
      exact ⟨fun has _ _ => has, fun has => has rfl rfl⟩

end QosMapPlatform

section Set
variable {platform : QosMapPlatform} {s : QosMapHw} {mapId : ObjectId} {map : QosMap} {table : QosMapTable}
  {entries : List QosMapEntry} {vendor npu : SaiStatus} {push : ObjectId → SaiStatus}

theorem mapToValueList_accepted {mapType : QosMapType} :
    (QosMapTableAttr.mapToValueList entries).Accepted platform mapType table vendor npu ↔
      vendor = .success ∧ platform.Takes mapType entries ∧ npu = .success := by
  have listed : qosMapListSet mapType (platform.tableUpdate mapType table entries).2 = .success ↔
      platform.Takes mapType entries := by
    rw [← @QosMapPlatform.tableUpdate_success platform mapType table entries]
    cases mapType with
    | other value =>
      rw [QosMapPlatform.tableUpdate_refused (.inr rfl)]
      rfl
    | invalid =>
      rw [QosMapPlatform.tableUpdate_refused (.inr rfl)]
      rfl
    | _ => rfl
  have parsed : (∃ next, qosParseUpdateAttributes mapType
      [(QosMapTableAttr.mapToValueList entries).atSet platform mapType table] vendor = .ok next) ↔
      vendor = .success ∧ qosMapListSet mapType (platform.tableUpdate mapType table entries).2 = .success := by
    unfold QosMapTableAttr.atSet qosParseUpdateAttributes
    by_cases accepts : vendor = .success
    · subst accepts
      dsimp only [qosMapTypeLoop, qosMapValueLoop]
      by_cases success : qosMapListSet mapType (platform.tableUpdate mapType table entries).2 = .success
      · rw [success]
        exact iff_of_true ⟨mapType, rfl⟩ ⟨rfl, rfl⟩
      refine iff_of_false ?_ fun both => success both.2
      rintro ⟨next, parsed⟩
      split at parsed
      · next accepted =>
        split at accepted
        · next same => exact success same
        · exact success (indexedRetVal_success.mp accepted)
      · cases parsed
    · refine iff_of_false ?_ fun both => accepts both.1
      rintro ⟨next, parsed⟩
      split at parsed
      · exact accepts rfl
      · cases parsed
  unfold QosMapTableAttr.Accepted
  rw [parsed, listed, and_assoc]

/-- A set that fails cannot harm the table: the id or the vendor refuses it before the
list is looked at, or it does not fail, or the table has the entries already that are
written before the failure. -/
def QosMapSetHarmless (platform : QosMapPlatform) (mapId : ObjectId) (mapType : QosMapType) (table : QosMapTable)
    (entries : List QosMapEntry) (vendor npu : SaiStatus) : Prop :=
  mapId.objType ≠ .qosMaps ∨ vendor ≠ .success ∨ platform.Takes mapType entries ∧ npu = .success ∨
    platform.Holds mapType table entries

/-- A set that fails leaves the table of the map as it was exactly when it is harmless. The
copy that the list is written into shares the table of the map. -/
theorem qosMapSet_atomic_iff (found : s.maps.mapTree.get mapId = some map) (stored : s.tables.get mapId = some table) :
    ((qosMapTableAttributeSet platform s mapId (.mapToValueList entries) vendor npu push).2 ≠ .success →
      (qosMapTableAttributeSet platform s mapId (.mapToValueList entries) vendor npu push).1.tables.get mapId =
        some table) ↔ QosMapSetHarmless platform mapId map.mapType table entries vendor npu := by
  unfold qosMapTableAttributeSet QosMapSetHarmless
  rw [found, stored]
  dsimp only
  by_cases kind : mapId.objType = .qosMaps
  · rw [if_neg (not_not.mpr kind)]
    have accepted := attributeSet_accepted platform (.mapToValueList entries) table vendor npu kind found
    rw [mapToValueList_accepted] at accepted
    generalize (qosMapAttributeSet s.maps mapId ((QosMapTableAttr.mapToValueList entries).atSet platform map.mapType
      table) vendor npu).2 = ended at accepted ⊢
    have written : qosMapWritten platform map.mapType table vendor (.mapToValueList entries) = table ↔
        vendor ≠ .success ∨ platform.Holds map.mapType table entries := by
      unfold qosMapWritten
      dsimp only
      by_cases accepts : vendor = .success
      · rw [if_pos accepts, QosMapPlatform.tableUpdate_same]
        exact (or_iff_right (not_not.mpr accepts)).symm
      · rw [if_neg accepts]
        exact iff_of_true rfl (.inl accepts)
    by_cases success : ended = .success
    · have taken := accepted.mp success
      split
      · exact iff_of_true (fun failed => absurd success failed) (.inr (.inr (.inl taken.2)))
      · exact iff_of_true (fun failed => absurd success failed) (.inr (.inr (.inl taken.2)))
    rw [if_neg fun both => success both.1]
    dsimp only
    rw [KeyTree.get_put_self, Option.some.injEq, written]
    have refused : ¬ (vendor = .success ∧ platform.Takes map.mapType entries ∧ npu = .success) :=
      fun taken => success (accepted.mpr taken)
    constructor
    · intro harmless
      rcases harmless success with vendorRefuses | holds
      · exact .inr (.inl vendorRefuses)
      · exact .inr (.inr (.inr holds))
    · rintro (otherKind | vendorRefuses | taken | holds) _
      · exact absurd kind otherKind
      · exact .inl vendorRefuses
      · by_cases accepts : vendor = .success
        · exact absurd ⟨accepts, taken⟩ refused
        · exact .inl accepts
      · exact .inr holds
  · rw [if_pos kind]
    exact iff_of_true (fun _ => stored) (.inl kind)

end Set

/-- The second of two queues is one too many; the first one is in the table by then. -/
def sampleQosMapEntries : List QosMapEntry :=
  [{ QosMapEntry.zero with value.queueIndex := 3 }, { QosMapEntry.zero with value.queueIndex := 9 }]

theorem qosMapSet_atomic_sample : ((qosMapTableAttributeSet sampleQosMapPlatform sampleQosMapState ⟨.qosMaps, 11⟩
        (.mapToValueList sampleQosMapEntries) .success .success fun _ => .success).2 ≠ .success →
      (qosMapTableAttributeSet sampleQosMapPlatform sampleQosMapState ⟨.qosMaps, 11⟩
        (.mapToValueList sampleQosMapEntries) .success .success fun _ => .success).1.tables.get ⟨.qosMaps, 11⟩ =
        some sampleQosMapPlatform.tcToQueueDefault) ↔
    QosMapSetHarmless sampleQosMapPlatform ⟨.qosMaps, 11⟩ .tcToQueue sampleQosMapPlatform.tcToQueueDefault
      sampleQosMapEntries .success .success :=
  @qosMapSet_atomic_iff sampleQosMapPlatform sampleQosMapState ⟨.qosMaps, 11⟩
    ⟨.tcToQueue, [⟨⟨.port, 1⟩, .tcToQueue⟩]⟩ sampleQosMapPlatform.tcToQueueDefault
    sampleQosMapEntries .success .success
    (fun _ => .success) rfl rfl

theorem qosMapSet_not_atomic : ¬ ∀ (platform : QosMapPlatform) (s : QosMapHw) (mapId : ObjectId) (map : QosMap)
    (table : QosMapTable) (entries : List QosMapEntry) (vendor npu : SaiStatus) (push : ObjectId → SaiStatus),
    s.maps.mapTree.get mapId = some map → s.tables.get mapId = some table →
    (qosMapTableAttributeSet platform s mapId (.mapToValueList entries) vendor npu push).2 ≠ .success →
    (qosMapTableAttributeSet platform s mapId (.mapToValueList entries) vendor npu push).1.tables.get mapId =
      some table := by
  intro atomic
  have kept := atomic sampleQosMapPlatform sampleQosMapState ⟨.qosMaps, 11⟩
    ⟨.tcToQueue, [⟨⟨.port, 1⟩, .tcToQueue⟩]⟩ sampleQosMapPlatform.tcToQueueDefault
    sampleQosMapEntries .success .success
    (fun _ => .success) rfl rfl (by decide)
  revert kept
  decide

end SaiCommon
