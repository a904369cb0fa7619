import SaiCommon.Qos.MapKeys

namespace SaiCommon

variable {entries : List QosMapEntry} {attrs : List QosMapTableAttr} {key : QosMapKey} {table : QosMapTable}
  {vendor : SaiStatus}

namespace QosMapPlatform
variable {platform : QosMapPlatform} {mapType : QosMapType}

/-- What a new map maps its keys to; green is the color 0. -/
def defaultValue (platform : QosMapPlatform) : QosMapType → List Nat
  | .dot1pToTcAndColor => [platform.defaultTc, 0]
  | .dscpToTcAndColor => [platform.defaultTc, 0]
  | .tcToQueue => [platform.defaultQueueIndex]
  | .tcToPriorityGroup => [platform.defaultPg]
  | .pfcPriorityToQueue => [platform.maxQueues]
  | .tcAndColorToDot1p => [platform.defaultDot1p]
  | .tcAndColorToDscp => [platform.defaultDscp]
  | .other _ => []
  | .invalid => []

theorem lookup_defaultTable (documented : platform.Documented) (isKey : platform.IsKey mapType key) :
    platform.lookup mapType (platform.defaultTable mapType) key = some (platform.defaultValue mapType) := by
  have inTable := keyIndex_lt isKey
  unfold lookup
  cases mapType with
  | other value => exact absurd isKey.1 (Nat.not_lt_zero _)
  | invalid => exact absurd isKey.1 (Nat.not_lt_zero _)
  | tcToQueue =>
    dsimp only [defaultTable, tcToQueueDefault, shape] at inTable ⊢
    rw [documented.separate, List.getElem?_map, List.getElem?_range inTable, Option.map_some, Option.map_some,
      if_pos inTable]
    rfl
  | pfcPriorityToQueue =>
    dsimp only [defaultTable, pfcPriToQueueDefault, shape] at inTable ⊢
    rw [documented.separate, List.getElem?_map, List.getElem?_range inTable, Option.map_some, Option.map_some,
      if_pos inTable]
    rfl
  | tcAndColorToDot1p =>
    dsimp only [defaultTable, tcAndColorDefault, shape] at inTable ⊢
    rw [Nat.mul_comm] at inTable
    rw [List.getElem?_map, List.getElem?_range inTable]
    rfl
  | tcAndColorToDscp =>
    dsimp only [defaultTable, tcAndColorDefault, shape] at inTable ⊢
    rw [Nat.mul_comm] at inTable
    rw [List.getElem?_map, List.getElem?_range inTable]
    rfl
  | _ =>
    dsimp only [defaultTable, dot1pToTcAndColorDefault, dscpToTcAndColorDefault, tcToPgDefault, shape] at inTable ⊢
    rw [Nat.one_mul] at inTable
    rw [List.getElem?_map, List.getElem?_range inTable]
    rfl

end QosMapPlatform

section Created
variable {platform : QosMapPlatform} {s t : QosMapHw}

def QosMapTableAttr.list? : QosMapTableAttr → Option (List QosMapEntry)
  | .mapToValueList entries => some entries
  | _ => none

/-- The last list of a create decides, each being written into a default table of its own. -/
theorem qosMapCreateTable_last (mapType : QosMapType) (attrs : List QosMapTableAttr) :
    qosMapCreateTable platform mapType attrs =
      match (attrs.filterMap QosMapTableAttr.list?).getLast? with
      | some entries => (platform.tableUpdate mapType (platform.defaultTable mapType) entries).1
      | none => platform.defaultTable mapType := by
  induction attrs using List.reverseRecOn with
  | nil => rfl
  | append_singleton attrs attr ih =>
    unfold qosMapCreateTable at ih ⊢
    rw [List.foldl_append, List.filterMap_append, ih]
    cases attr with
    | mapToValueList entries =>
      have last : [QosMapTableAttr.mapToValueList entries].filterMap QosMapTableAttr.list? = [entries] := rfl
      rw [last, List.getLast?_concat]
      rfl
    | _ =>
      simp only [List.filterMap_cons, List.filterMap_nil, QosMapTableAttr.list?, List.append_nil]
      rfl

theorem length_qosMapCreateTable (mapType : QosMapType) (attrs : List QosMapTableAttr) :
    (qosMapCreateTable platform mapType attrs).length = (platform.defaultTable mapType).length := by
  rw [qosMapCreateTable_last]
  split
  · exact QosMapPlatform.length_tableUpdate
  · rfl

theorem qosMapValueLoop_lists {mapType : QosMapType} {listAllocOk : Bool} :
    ∀ {index : Nat}, qosMapValueLoop index mapType
      (attrs.map (QosMapTableAttr.atCreate platform mapType listAllocOk)) = .success →
      ∀ entries, .mapToValueList entries ∈ attrs → platform.Takes mapType entries := by
  induction attrs with
  | nil => exact fun _ _ member => absurd member List.not_mem_nil
  | cons attr rest ih =>
    intro index through entries member
    cases attr with
    | type value => exact ih through entries ((List.mem_cons.mp member).resolve_left (by simp))
    | unknown => cases through
    | mapToValueList first =>
      rw [List.map_cons] at through
      dsimp only [QosMapTableAttr.atCreate] at through
      unfold qosMapValueLoop at through
      split at through
      · next accepted =>
        rcases List.mem_cons.mp member with same | later
        · cases same
          have setUp : tableSetUp platform mapType listAllocOk entries = .success := by
            unfold qosMapListSet at accepted
            split at accepted
            · cases accepted
            · cases accepted
            · exact accepted
          unfold tableSetUp at setUp
          split at setUp
          · cases setUp
          split at setUp
          · cases setUp
          · exact QosMapPlatform.tableUpdate_success.mp setUp
        · exact ih through entries later
      · next failed => exact absurd (indexedRetVal_success.mp through) failed

theorem qosMapCreate_parsed {maps after : QosMapState} {attrs : List QosMapAttr} {env : QosMapCreateEnv}
    (run : qosMapCreate maps attrs env = (after, .success)) :
    ∃ mapType, qosParseUpdateAttributes (.other 0) attrs env.vendor = .ok mapType ∧
      after.mapTree.get ⟨.qosMaps, env.npuObjectId⟩ = some ⟨mapType, []⟩ := by
  unfold qosMapCreate at run
  split at run
  · cases run
  split at run
  · next refused => exact absurd (congrArg Prod.snd run) (qosParse_error refused)
  next mapType parsed =>
  refine ⟨mapType, parsed, ?_⟩
  dsimp only at run
  split at run
  · split at run
    · split at run
      · cases run
        exact KeyTree.get_put_self _ _ _
      · cases run
    · next failed => exact absurd (congrArg Prod.snd run) failed
  · next failed => exact absurd (congrArg Prod.snd run) failed

theorem qosMapTypeLoop_value {attrs : List QosMapAttr} {mapType next : QosMapType}
    (parsed : qosParseUpdateAttributes mapType attrs vendor = .ok next) : qosMapValueLoop 0 next attrs = .success := by
  unfold qosParseUpdateAttributes at parsed
  split at parsed
  · split at parsed
    · cases parsed
    split at parsed
    · next loop =>
      cases parsed
      exact loop
    · cases parsed
  · cases parsed

/-- A create that succeeds stores the table of its last list, and takes all of them. -/
theorem qosMapTableCreate_stores {env : QosMapTableCreateEnv}
    (run : qosMapTableCreate platform s attrs env = (t, .success)) :
    t.maps.mapTree.get ⟨.qosMaps, platform.addTypeToObject env.hwMapId (qosMapTypeOf attrs)⟩ =
        some ⟨qosMapTypeOf attrs, []⟩ ∧
      t.tables.get ⟨.qosMaps, platform.addTypeToObject env.hwMapId (qosMapTypeOf attrs)⟩ =
        some (qosMapCreateTable platform (qosMapTypeOf attrs) attrs) ∧
      ∀ entries, .mapToValueList entries ∈ attrs → platform.Takes (qosMapTypeOf attrs) entries := by
  unfold qosMapTableCreate at run
  dsimp only at run
  generalize created : qosMapCreate s.maps (attrs.map (QosMapTableAttr.atCreate platform (qosMapTypeOf attrs)
    env.listAllocOk)) ⟨env.allocOk, env.vendor, tableSetUp platform (qosMapTypeOf attrs) env.listAllocOk [], env.npu,
      platform.addTypeToObject env.hwMapId (qosMapTypeOf attrs), env.treeOk⟩ = outcome at run
  obtain ⟨maps, status⟩ := outcome
  by_cases success : status = .success
  · subst success
    cases run
    obtain ⟨mapType, parsed, inTree⟩ := qosMapCreate_parsed created
    have isType := qosMapTypeLoop_type (qosParse_type parsed)
    subst isType
    refine ⟨inTree, KeyTree.get_put_self _ _ _, ?_⟩
    have loop := qosMapTypeLoop_value parsed
    exact qosMapValueLoop_lists loop
  · split at run
    · next same => exact absurd (congrArg Prod.snd same) success
    · next failed same => exact absurd (congrArg Prod.snd run) failed

/-- A set that succeeds stores the old table with the list written into it, and takes the list. -/
theorem qosMapTableSet_stores {mapId : ObjectId} {map : QosMap}
    {npu : SaiStatus} {push : ObjectId → SaiStatus} (found : s.maps.mapTree.get mapId = some map)
    (stored : s.tables.get mapId = some table)
    (run : qosMapTableAttributeSet platform s mapId (.mapToValueList entries) vendor npu push = (t, .success)) :
    t.tables.get mapId = some (platform.tableUpdate map.mapType table entries).1 ∧
      platform.Takes map.mapType entries := by
  unfold qosMapTableAttributeSet at run
  rw [found, stored] at run
  dsimp only at run
  by_cases kind : mapId.objType = .qosMaps
  · rw [if_neg (not_not.mpr kind)] at run
    have accepted := attributeSet_accepted platform (.mapToValueList entries) table vendor npu kind found
    rw [mapToValueList_accepted] at accepted
    generalize (qosMapAttributeSet s.maps mapId ((QosMapTableAttr.mapToValueList entries).atSet platform map.mapType
      table) vendor npu).2 = ended at accepted run
    have success : ended = .success := by
      split at run
      · exact congrArg Prod.snd run
      · exact congrArg Prod.snd run
    obtain ⟨accepts, takes, -⟩ := accepted.mp success
    have written : qosMapWritten platform map.mapType table vendor (.mapToValueList entries) =
        (platform.tableUpdate map.mapType table entries).1 := if_pos accepts
    rw [written] at run
    refine ⟨?_, takes⟩
    split at run
    · cases run
      exact KeyTree.get_put_self _ _ _
    · cases run
      exact KeyTree.get_put_self _ _ _
  · rw [if_pos kind] at run
    unfold qosMapAttributeSet at run
    rw [if_pos kind] at run
    cases run

end Created

/-- Every table has the length that its type gives it. -/
def QosMapTablesSized (platform : QosMapPlatform) (s : QosMapHw) : Prop :=
  ∀ mapId map table, s.maps.mapTree.get mapId = some map → s.tables.get mapId = some table →
    table.length = (platform.defaultTable map.mapType).length

section Sized
variable {platform : QosMapPlatform} {s t : QosMapHw}

theorem QosMapTablesSized.types (sized : QosMapTablesSized platform s) (tables : t.tables = s.tables)
    (types : ∀ k, (t.maps.mapTree.get k).map QosMap.mapType = (s.maps.mapTree.get k).map QosMap.mapType) :
    QosMapTablesSized platform t := by
  intro mapId map table found stored
  have typed := types mapId
  rw [found, Option.map_some] at typed
  obtain ⟨before, old, same⟩ := Option.map_eq_some_iff.mp typed.symm
  rw [← same]
  exact sized mapId before table old (tables ▸ stored)

theorem qosMapOnPortSet_types (maps : QosMapState) (portId mapId : ObjectId) (mapType : QosMapType)
    (npu reapply : SaiStatus) (k : ObjectId) :
    ((qosMapOnPortSet maps portId mapId mapType npu reapply).1.mapTree.get k).map QosMap.mapType =
      (maps.mapTree.get k).map QosMap.mapType := by
  have released := fun glue old => qosMapRelease_types maps.mapTree glue old k
  unfold qosMapOnPortSet
  split
  · rfl
  split
  · rfl
  rename_i port _
  split
  · unfold qosMapPortRemove
    dsimp only
    split
    · rfl
    split
    · exact KeyTree.map_get_modify (fun map => by rfl) k
    · rfl
  · split
    · rfl
    unfold qosMapPortAdd
    split
    · rfl
    dsimp only
    split
    · exact (KeyTree.map_get_modify (fun map => by rfl) k).trans (released ⟨portId, mapType⟩ (port.mapsId mapType))
    · exact released ⟨portId, mapType⟩ (port.mapsId mapType)

section
variable (sized : QosMapTablesSized platform s)
include sized

theorem QosMapTablesSized.create (attrs : List QosMapTableAttr)
    (env : QosMapTableCreateEnv) : QosMapTablesSized platform (qosMapTableCreate platform s attrs env).1 := by
  unfold qosMapTableCreate
  dsimp only
  rcases qosMapCreate_cases s.maps (attrs.map (QosMapTableAttr.atCreate platform (qosMapTypeOf attrs) env.listAllocOk))
      ⟨env.allocOk, env.vendor, tableSetUp platform (qosMapTypeOf attrs) env.listAllocOk [], env.npu,
        platform.addTypeToObject env.hwMapId (qosMapTypeOf attrs), env.treeOk⟩ with
    ⟨error, failed, refused⟩ | ⟨mapType, loop, absent, created⟩
  · rw [refused]
    cases error with
    | success => exact absurd rfl failed
    | _ => exact sized
  · rw [created]
    have isType := qosMapTypeLoop_type loop
    subst isType
    intro mapId map table found stored
    dsimp only at found stored
    rw [KeyTree.get_put] at found stored
    split at found
    · next same =>
      rw [if_pos same] at stored
      cases found
      cases stored
      exact length_qosMapCreateTable _ _
    · next other =>
      rw [if_neg other] at stored
      exact sized mapId map table found stored

theorem QosMapTablesSized.remove (mapId : ObjectId) (npu : SaiStatus) :
    QosMapTablesSized platform (qosMapTableRemove s mapId npu).1 := by
  rcases qosMapTableRemove_cases s mapId npu with ⟨error, _, refused⟩ | ⟨map, _, _, _, removed⟩
  · rw [refused]
    exact sized
  rw [removed]
  intro other map table found stored
  dsimp only at found stored
  rw [KeyTree.get_del] at found stored
  split at found
  · cases found
  next apart =>
  rw [if_neg apart] at stored
  exact sized other map table found stored

theorem QosMapTablesSized.attributeSet (mapId : ObjectId)
    (attr : QosMapTableAttr) (vendor npu : SaiStatus) (push : ObjectId → SaiStatus) :
    QosMapTablesSized platform (qosMapTableAttributeSet platform s mapId attr vendor npu push).1 := by
  unfold qosMapTableAttributeSet
  split
  · rename_i map table found stored
    dsimp only
    have written : QosMapTablesSized platform
        { s with tables := s.tables.put mapId (qosMapWritten platform map.mapType table vendor attr) } := by
      intro other node after inTree inTables
      dsimp only at inTree inTables
      rw [KeyTree.get_put] at inTables
      split at inTables
      · next same =>
        cases inTables
        rw [same, found] at inTree
        cases inTree
        rw [← sized mapId map table found stored]
        unfold qosMapWritten
        split
        · split
          · exact QosMapPlatform.length_tableUpdate
          · rfl
        · rfl
      · exact sized other node after inTree inTables
    split
    · exact sized
    split
    · exact written
    · exact written
  · exact sized

end

theorem qosMapTables_sized (reach : Runs.Reach QosMapHwFresh
    (Runs.guarded (fun _ _ => True) fun s call => (s.call platform call).1) s) : QosMapTablesSized platform s := by
  refine reach.invariant (QosMapTablesSized platform) ?_ ?_
  · intro s fresh mapId map table found
    rw [fresh.maps.maps, KeyTree.get_empty] at found
    cases found
  · rintro s call _ sized ⟨-, rfl⟩
    cases call with
    | create attrs env => exact sized.create attrs env
    | remove mapId npu => exact sized.remove mapId npu
    | attributeSet mapId attr vendor npu push => exact sized.attributeSet mapId attr vendor npu push
    | onPortSet portId mapId mapType npu reapply =>
      exact sized.types rfl (qosMapOnPortSet_types s.maps portId mapId mapType npu reapply)

end Sized

section ReadBack
variable {platform : QosMapPlatform}

/-- What a key reads after a list was written, `old` being what it read before. -/
def QosMapPlatform.readAfter (platform : QosMapPlatform) (mapType : QosMapType) (entries : List QosMapEntry)
    (key : QosMapKey) (old : Option (List Nat)) : Option (List Nat) :=
  match (entries.filter fun entry => platform.keyOf mapType entry = key).getLast? with
  | some entry => some (platform.entryValue mapType entry)
  | none => old

/-- The table of the priorities takes entries that are out of range. -/
def QosMapPlatform.Bounded (platform : QosMapPlatform) (mapType : QosMapType) (entries : List QosMapEntry) : Prop :=
  mapType = .pfcPriorityToQueue → ∀ entry ∈ entries, platform.InRange mapType entry

theorem lookup_tableUpdate (documented : platform.Documented) {mapType : QosMapType}
    (sized : table.length = (platform.defaultTable mapType).length)
    (takes : platform.Takes mapType entries) (bounded : platform.Bounded mapType entries)
    (isKey : platform.IsKey mapType key) :
    platform.lookup mapType (platform.tableUpdate mapType table entries).1 key =
      platform.readAfter mapType entries key (platform.lookup mapType table key) := by
  have inRange : ∀ entry ∈ entries, platform.InRange mapType entry := by
    intro entry member
    by_cases priorities : mapType = .pfcPriorityToQueue
    · exact bounded priorities entry member
    · exact QosMapPlatform.inRange_of_check documented priorities (takes.2.2 entry member)
  exact (QosMapPlatform.right_of_inRange documented sized takes inRange).2 key isKey

/-- In every run a map that is created reads what its last list gave, and the default of its type
elsewhere; and one that is set reads what the list gave, and what it read before elsewhere. -/
theorem qosMapTables_readBack {s : QosMapHw} (documented : platform.Documented) (reach : Runs.Reach QosMapHwFresh
    (Runs.guarded (fun _ _ => True) fun s call => (s.call platform call).1) s) :
    (∀ attrs env t, qosMapTableCreate platform s attrs env = (t, .success) →
      (∀ entries, .mapToValueList entries ∈ attrs → platform.Bounded (qosMapTypeOf attrs) entries) →
      ∃ table, t.tables.get ⟨.qosMaps, platform.addTypeToObject env.hwMapId (qosMapTypeOf attrs)⟩ = some table ∧
        ∀ key, platform.IsKey (qosMapTypeOf attrs) key → platform.lookup (qosMapTypeOf attrs) table key =
          platform.readAfter (qosMapTypeOf attrs) ((attrs.filterMap QosMapTableAttr.list?).getLast?.getD []) key
            (some (platform.defaultValue (qosMapTypeOf attrs)))) ∧
    ∀ mapId map table entries vendor npu push t, s.maps.mapTree.get mapId = some map →
      s.tables.get mapId = some table → platform.Bounded map.mapType entries →
      qosMapTableAttributeSet platform s mapId (.mapToValueList entries) vendor npu push = (t, .success) →
      ∃ next, t.tables.get mapId = some next ∧ ∀ key, platform.IsKey map.mapType key →
        platform.lookup map.mapType next key =
          platform.readAfter map.mapType entries key (platform.lookup map.mapType table key) := by
  constructor
  · intro attrs env t run bounded
    obtain ⟨-, stored, takes⟩ := qosMapTableCreate_stores run
    refine ⟨_, stored, fun key isKey => ?_⟩
    have atStart := QosMapPlatform.lookup_defaultTable documented isKey
    rw [qosMapCreateTable_last]
    cases last : (attrs.filterMap QosMapTableAttr.list?).getLast? with
    | none => exact atStart
    | some entries =>
      obtain ⟨attr, member, isList⟩ := List.mem_filterMap.mp (List.mem_of_getLast? last)
      cases attr with
      | mapToValueList given =>
        cases isList
        rw [← atStart]
        exact lookup_tableUpdate documented rfl (takes _ member) (bounded _ member) isKey
      | _ => cases isList
  · intro mapId map table entries vendor npu push t found stored bounded run
    obtain ⟨written, takes⟩ := qosMapTableSet_stores found stored run
    exact ⟨_, written, fun key isKey =>
      lookup_tableUpdate documented (qosMapTables_sized reach mapId map table found stored) takes bounded isKey⟩

/-- The unicast queue of the traffic class 0 is given twice, the multicast queue once. -/
def readBackSample : List QosMapEntry :=
  [{ QosMapEntry.zero with value.queueIndex := 1 }, { QosMapEntry.zero with value.queueIndex := 3 }, .zero]

theorem qosMapTables_readBack_sample : ∃ table, (qosMapTableCreate queuesQosMapPlatform sampleQosMapHw
      [.type .tcToQueue, .mapToValueList readBackSample] ⟨true, true, .success, .success, 1, true⟩).1.tables.get
      ⟨.qosMaps, 11⟩ = some table ∧
    queuesQosMapPlatform.lookup .tcToQueue table ⟨0, 0⟩ = some [0] ∧
    queuesQosMapPlatform.lookup .tcToQueue table ⟨0, 1⟩ = some [1] := by
  obtain ⟨table, stored, reads⟩ := (qosMapTables_readBack queuesQosMapPlatform_documented
    (.start sampleQosMapHw_fresh)).1 [.type .tcToQueue, .mapToValueList readBackSample]
      ⟨true, true, .success, .success, 1, true⟩ _ rfl (fun _ _ priorities => by cases priorities)
  exact ⟨table, stored, reads ⟨0, 0⟩ ⟨by decide, by decide⟩, reads ⟨0, 1⟩ ⟨by decide, by decide⟩⟩

end ReadBack

end SaiCommon
