import SaiCommon.Lib.Listed
import SaiCommon.Qos.MapAttachment
import SaiCommon.Qos.MapTables

namespace SaiCommon

open KeyTree

variable {attrs : List QosMapAttr} {table written : QosMapTable} {next mapType : QosMapType}
  {status vendor : SaiStatus} {s : QosMapHw} {platform : QosMapPlatform} {mapId : ObjectId} {map : QosMap}

/-- The NPU holds the map of every port and type, and of a map that is no hardware
object the table as it is stored. -/
structure QosMapsAgree (platform : QosMapPlatform) (s : QosMapHw) : Prop where
  ids : ∀ portId port, s.maps.portTree.get portId = some port → ∀ mapType,
    s.npu.mapId ⟨portId, mapType⟩ = port.mapsId mapType
  copies : ∀ portId port, s.maps.portTree.get portId = some port → ∀ mapType,
    s.npu.copy ⟨portId, mapType⟩ = s.copyOf platform (port.mapsId mapType)

/-- What the agreement rests on. A map that a port names without being linked to it
may be gone when it is a hardware object, of which the NPU has no copy. -/
structure QosMapsKept (platform : QosMapPlatform) (s : QosMapHw) : Prop where
  agree : QosMapsAgree platform s
  nullKey : s.maps.mapTree.get nullObjectId = none
  typed : ∀ mapId map, s.maps.mapTree.get mapId = some map →
    platform.typeOfObject mapId.npuObjectId = map.mapType
  tabled : ∀ mapId, s.maps.mapTree.get mapId ≠ none → s.tables.get mapId ≠ none
  dead : ∀ portId port, s.maps.portTree.get portId = some port →
    ∀ mapType, port.mapsId mapType ≠ nullObjectId →
    s.maps.mapTree.get (port.mapsId mapType) = none →
    platform.mapIsHwObject (platform.typeOfObject (port.mapsId mapType).npuObjectId) = true
  listed : Listed (Attached.ofTree s.maps.mapTree QosMap.portList) (qosMapOf s.maps)

def QosMapHw.Unused (s : QosMapHw) (mapId : ObjectId) : Prop :=
  ∀ portId port, s.maps.portTree.get portId = some port → ∀ mapType, port.mapsId mapType ≠ mapId

def QosMapTableAttr.Accepted (platform : QosMapPlatform) (attr : QosMapTableAttr) (mapType : QosMapType)
    (table : QosMapTable) (vendor npu : SaiStatus) : Prop :=
  (∃ next, qosParseUpdateAttributes mapType [attr.atSet platform mapType table] vendor = .ok next) ∧ npu = .success

/-- A map that is no hardware object is removed only when no port names it; a refused set
of such a map changes nothing in the table of a map in use, and an accepted one finds
every port that names the map linked to it, with every `port_map_set` succeeding; and
when an ingress map is taken away the other one can be put back. -/
def QosMapHw.Passes (platform : QosMapPlatform) (s : QosMapHw) : QosMapHwCall → Prop
  | .create _ _ => True
  | .remove mapId npu => ∀ map, s.maps.mapTree.get mapId = some map → map.portList = [] → npu = .success →
      platform.mapIsHwObject map.mapType = false → s.Unused mapId
  | .attributeSet mapId attr vendor npu push => ∀ map table, s.maps.mapTree.get mapId = some map →
      s.tables.get mapId = some table → platform.mapIsHwObject map.mapType = false →
      (attr.Accepted platform map.mapType table vendor npu →
        (∀ glue ∈ map.portList, glue.mapType = map.mapType) ∧
          (qosMapWritten platform map.mapType table vendor attr = table ∨
            (∀ portId port mapType, s.maps.portTree.get portId = some port → port.mapsId mapType = mapId →
              ⟨portId, mapType⟩ ∈ map.portList) ∧ ∀ glue ∈ map.portList, push glue.portId = .success)) ∧
      (¬ attr.Accepted platform map.mapType table vendor npu →
        qosMapWritten platform map.mapType table vendor attr = table ∨ s.Unused mapId)
  | .onPortSet portId mapId mapType npu reapply => mapId = nullObjectId → npu = .success →
      ∀ port other, s.maps.portTree.get portId = some port → ingressPair mapType = some other →
        s.maps.mapTree.get (port.mapsId mapType) ≠ none → port.mapsId other ≠ nullObjectId → reapply = .success

/-- After a call that succeeds the NPU agrees with the software, and one that fails
leaves the ids of the ports and the NPU as they were. -/
def QosMapHw.Right (platform : QosMapPlatform) (s : QosMapHw) (call : QosMapHwCall) : Prop :=
  ((s.call platform call).2 = .success → QosMapsAgree platform (s.call platform call).1) ∧
    ((s.call platform call).2 ≠ .success →
      (s.call platform call).1.maps.portTree = s.maps.portTree ∧ (s.call platform call).1.npu = s.npu)

section Copies
variable {t : QosMapHw}

theorem copyOf_congr
    (types : (t.maps.mapTree.get mapId).map QosMap.mapType = (s.maps.mapTree.get mapId).map QosMap.mapType)
    (tables : t.tables.get mapId = s.tables.get mapId) : t.copyOf platform mapId = s.copyOf platform mapId := by
  unfold QosMapHw.copyOf
  cases found : s.maps.mapTree.get mapId with
  | none =>
    rw [found, Option.map_none, Option.map_eq_none_iff] at types
    rw [types]
  | some map =>
    rw [found, Option.map_some] at types
    obtain ⟨map', found', same⟩ := Option.map_eq_some_iff.mp types
    rw [found']
    dsimp only
    rw [same, tables]

theorem copyOf_absent (absent : s.maps.mapTree.get mapId = none) : s.copyOf platform mapId = none := by
  unfold QosMapHw.copyOf
  rw [absent]

theorem copyOf_hw (found : s.maps.mapTree.get mapId = some map)
    (hw : platform.mapIsHwObject map.mapType = true) : s.copyOf platform mapId = none := by
  unfold QosMapHw.copyOf
  rw [found]
  exact if_pos hw

theorem copyOf_table (found : s.maps.mapTree.get mapId = some map)
    (soft : platform.mapIsHwObject map.mapType = false) : s.copyOf platform mapId = s.tables.get mapId := by
  unfold QosMapHw.copyOf
  rw [found]
  dsimp only
  rw [soft, if_neg Bool.false_ne_true]

theorem QosMapsAgree.congr (agree : QosMapsAgree platform s) (ports : t.maps.portTree = s.maps.portTree)
    (npu : t.npu = s.npu) (copies : ∀ portId port, s.maps.portTree.get portId = some port → ∀ mapType,
      t.copyOf platform (port.mapsId mapType) = s.copyOf platform (port.mapsId mapType)) :
    QosMapsAgree platform t where
  ids portId port stored mapType := by
    rw [ports] at stored
    rw [npu]
    exact agree.ids portId port stored mapType
  copies portId port stored mapType := by
    rw [ports] at stored
    rw [npu, copies portId port stored mapType]
    exact agree.copies portId port stored mapType

end Copies

section Parse

theorem qosMapTypeLoop_error :
    ∀ {index : Nat}, qosMapTypeLoop index mapType attrs = .error status → status ≠ .success := by
  induction attrs with
  | nil =>
    intro index refused
    cases refused
  | cons attr rest ih =>
    intro index refused
    cases attr with
    | type value =>
      cases value with
      | other _ =>
        cases refused
        exact mt indexedRetVal_success.mp (by decide)
      | invalid =>
        cases refused
        exact mt indexedRetVal_success.mp (by decide)
      | _ => cases refused
    | _ => exact ih refused

theorem qosParse_error
    (refused : qosParseUpdateAttributes mapType attrs vendor = .error status) : status ≠ .success := by
  unfold qosParseUpdateAttributes at refused
  split at refused
  · split at refused
    · rename_i error loop
      cases refused
      exact qosMapTypeLoop_error loop
    · split at refused
      · cases refused
      rename_i failed
      cases refused
      exact failed
  · rename_i failed
    cases refused
    exact failed

theorem qosParse_type (parsed : qosParseUpdateAttributes mapType attrs vendor = .ok next) :
    qosMapTypeLoop 0 mapType attrs = .ok next := by
  unfold qosParseUpdateAttributes at parsed
  split at parsed
  · split at parsed
    · cases parsed
    rename_i loop
    split at parsed
    · cases parsed
      exact loop
    · cases parsed
  · cases parsed

end Parse

section Create

theorem qosMapTypeLoop_type {attrs : List QosMapTableAttr} {listAllocOk : Bool} :
    ∀ {index : Nat},
      qosMapTypeLoop index (.other 0) (attrs.map (QosMapTableAttr.atCreate platform mapType listAllocOk)) =
      .ok next → next = qosMapTypeOf attrs := by
  induction attrs with
  | nil =>
    intro index parsed
    cases parsed
    rfl
  | cons attr rest ih =>
    intro index parsed
    cases attr with
    | type value =>
      cases value with
      | other _ => cases parsed
      | invalid => cases parsed
      | _ =>
        cases parsed
        rfl
    | _ => exact ih parsed

theorem qosMapCreate_cases (maps : QosMapState) (attrs : List QosMapAttr) (env : QosMapCreateEnv) :
    (∃ error, error ≠ .success ∧ qosMapCreate maps attrs env = (maps, error)) ∨
      ∃ mapType, qosMapTypeLoop 0 (.other 0) attrs = .ok mapType ∧
        maps.mapTree.get ⟨.qosMaps, env.npuObjectId⟩ = none ∧
        qosMapCreate maps attrs env =
          ({ maps with mapTree := maps.mapTree.put ⟨.qosMaps, env.npuObjectId⟩ ⟨mapType, []⟩ }, .success) := by
  unfold qosMapCreate
  split
  · exact .inl ⟨_, by decide, rfl⟩
  split
  · rename_i refused
    exact .inl ⟨_, qosParse_error refused, rfl⟩
  rename_i mapType parsed
  dsimp only
  split
  · split
    · split
      · rename_i absent
        exact .inr ⟨mapType, qosParse_type parsed, absent, rfl⟩
      · exact .inl ⟨_, by decide, rfl⟩
    · rename_i failed
      exact .inl ⟨_, failed, rfl⟩
  · rename_i failed
    exact .inl ⟨_, failed, rfl⟩

theorem QosMapsKept.create (kept : QosMapsKept platform s) (attrs : List QosMapTableAttr)
    (env : QosMapTableCreateEnv) : QosMapsKept platform (qosMapTableCreate platform s attrs env).1 ∧
      ((qosMapTableCreate platform s attrs env).2 ≠ .success →
        (qosMapTableCreate platform s attrs env).1.maps.portTree = s.maps.portTree ∧
          (qosMapTableCreate platform s attrs env).1.npu = s.npu) := by
  unfold qosMapTableCreate
  dsimp only
  rcases qosMapCreate_cases s.maps (attrs.map (QosMapTableAttr.atCreate platform (qosMapTypeOf attrs) env.listAllocOk))
      ⟨env.allocOk, env.vendor, tableSetUp platform (qosMapTypeOf attrs) env.listAllocOk [], env.npu,
        platform.addTypeToObject env.hwMapId (qosMapTypeOf attrs), env.treeOk⟩ with
    ⟨error, failed, refused⟩ | ⟨mapType, loop, absent, created⟩
  · rw [refused]
    cases error with
    | success => exact absurd rfl failed
    | _ => exact ⟨kept, fun _ => ⟨rfl, rfl⟩⟩
  · rw [created]
    have isType := qosMapTypeLoop_type loop
    dsimp only at absent ⊢
    have notNull :
      (⟨.qosMaps, platform.addTypeToObject env.hwMapId (qosMapTypeOf attrs)⟩ : ObjectId) ≠ nullObjectId :=
      ne_nullObjectId fun same => (by cases same)
    -- a port that still names the new id names a hardware object
    have copies : ∀ portId port, s.maps.portTree.get portId = some port → ∀ t, QosMapHw.copyOf platform
        { s with
            maps := { s.maps with
              mapTree := s.maps.mapTree.put ⟨.qosMaps, platform.addTypeToObject env.hwMapId (qosMapTypeOf attrs)⟩
                ⟨mapType, []⟩ }
            tables := s.tables.put ⟨.qosMaps, platform.addTypeToObject env.hwMapId (qosMapTypeOf attrs)⟩
              (qosMapCreateTable platform (qosMapTypeOf attrs) attrs) } (port.mapsId t) =
        s.copyOf platform (port.mapsId t) := by
      intro portId port stored t
      by_cases named : port.mapsId t = ⟨.qosMaps, platform.addTypeToObject env.hwMapId (qosMapTypeOf attrs)⟩
      · have gone : s.maps.mapTree.get (port.mapsId t) = none := by rw [named, absent]
        have hw := kept.dead portId port stored t (named ▸ notNull) gone
        rw [named] at hw ⊢
        dsimp only at hw
        rw [platform.typeOfObject_add, ← isType] at hw
        rw [copyOf_absent absent]
        exact copyOf_hw (get_put_self _ _ _) hw
      · refine copyOf_congr ?_ (get_put_ne named)
        dsimp only
        rw [get_put_ne named]
    refine ⟨⟨kept.agree.congr rfl rfl copies, ?_, ?_, ?_, ?_, ?_⟩, fun failed => absurd rfl failed⟩
    · dsimp only
      rw [get_put_ne notNull.symm]
      exact kept.nullKey
    · intro k map found
      dsimp only at found
      rw [get_put] at found
      split at found
      · rename_i same
        cases found
        rw [same]
        exact (platform.typeOfObject_add _ _).trans isType.symm
      · exact kept.typed k map found
    · intro k found
      dsimp only at found ⊢
      rw [get_put] at found ⊢
      split
      · exact Option.some_ne_none _
      rename_i other
      rw [if_neg other] at found
      exact kept.tabled k found
    · intro portId port stored t named gone
      dsimp only at gone
      rw [get_put] at gone
      split at gone
      · cases gone
      · exact kept.dead portId port stored t named gone
    · exact (kept.listed.insert _).congr (fun k => Attached.ofTree_put k) fun _ => rfl

end Create

section Remove

theorem qosMapTableRemove_cases (s : QosMapHw) (mapId : ObjectId) (npu : SaiStatus) :
    (∃ error, error ≠ .success ∧ qosMapTableRemove s mapId npu = (s, error)) ∨
      ∃ map, s.maps.mapTree.get mapId = some map ∧ map.portList = [] ∧ npu = .success ∧
        qosMapTableRemove s mapId npu =
          ({ s with maps := { s.maps with mapTree := s.maps.mapTree.del mapId }, tables := s.tables.del mapId },
            .success) := by
  unfold qosMapTableRemove qosMapRemove
  split
  · rename_i ended
    split at ended
    · cases ended
    split at ended
    · cases ended
    rename_i map found
    split at ended
    · cases ended
    rename_i empty
    split at ended
    · cases ended
      exact .inr ⟨map, found, not_not.mp empty, rfl, rfl⟩
    rename_i failed
    cases ended
    exact absurd rfl failed
  · rename_i maps error failed ended
    refine .inl ⟨error, failed, ?_⟩
    have same : maps = s.maps := by
      split at ended
      · cases ended
        rfl
      split at ended
      · cases ended
        rfl
      split at ended
      · cases ended
        rfl
      split at ended
      · cases ended
        exact absurd rfl failed
      · cases ended
        rfl
    rw [same]

theorem QosMapsKept.remove (kept : QosMapsKept platform s) (mapId : ObjectId) (npu : SaiStatus)
    (passes : s.Passes platform (.remove mapId npu)) : QosMapsKept platform (qosMapTableRemove s mapId npu).1 ∧
      ((qosMapTableRemove s mapId npu).2 ≠ .success →
        (qosMapTableRemove s mapId npu).1.maps.portTree = s.maps.portTree ∧
          (qosMapTableRemove s mapId npu).1.npu = s.npu) := by
  rcases qosMapTableRemove_cases s mapId npu with
    ⟨error, failed, refused⟩ | ⟨map, found, empty, success, removed⟩
  · rw [refused]
    exact ⟨kept, fun _ => ⟨rfl, rfl⟩⟩
  rw [removed]
  have soft := passes map found empty success
  have copies : ∀ portId port, s.maps.portTree.get portId = some port → ∀ t, QosMapHw.copyOf platform
      { s with maps := { s.maps with mapTree := s.maps.mapTree.del mapId }, tables := s.tables.del mapId }
        (port.mapsId t) = s.copyOf platform (port.mapsId t) := by
    intro portId port stored t
    by_cases named : port.mapsId t = mapId
    · have hw : platform.mapIsHwObject map.mapType = true := by
        by_contra isSoft
        exact soft (Bool.not_eq_true _ ▸ isSoft) portId port stored t named
      rw [named, copyOf_hw found hw]
      refine copyOf_absent ?_
      dsimp only
      rw [get_del_self]
    · refine copyOf_congr ?_ (get_del_ne named)
      dsimp only
      rw [get_del_ne named]
  refine ⟨⟨kept.agree.congr rfl rfl copies, ?_, ?_, ?_, ?_, ?_⟩, fun failed => absurd rfl failed⟩
  · dsimp only
    exact get_del_none kept.nullKey
  · intro k other stored
    dsimp only at stored
    exact kept.typed k other (get_of_del stored)
  · intro k stored
    dsimp only at stored ⊢
    rw [get_del] at stored ⊢
    split at stored
    · exact absurd rfl stored
    rename_i other
    rw [if_neg other]
    exact kept.tabled k stored
  · intro portId port stored t named gone
    by_cases same : port.mapsId t = mapId
    · by_contra isSoft
      rw [same, kept.typed mapId map found] at isSoft
      exact soft (Bool.not_eq_true _ ▸ isSoft) portId port stored t same
    · dsimp only at gone
      rw [get_del_ne same] at gone
      exact kept.dead portId port stored t named gone
  · exact (kept.listed.erase mapId).congr (fun k => Attached.ofTree_del k) fun _ => rfl

end Remove

section AttributeSet

variable (platform) in
theorem attributeSet_accepted {maps : QosMapState} (attr : QosMapTableAttr)
    (table : QosMapTable) (vendor npu : SaiStatus) (kind : mapId.objType = .qosMaps)
    (found : maps.mapTree.get mapId = some map) :
    (qosMapAttributeSet maps mapId (attr.atSet platform map.mapType table) vendor npu).2 = .success ↔
      attr.Accepted platform map.mapType table vendor npu := by
  unfold qosMapAttributeSet QosMapTableAttr.Accepted
  rw [if_neg (not_not.mpr kind), found]
  dsimp only
  cases parsed : qosParseUpdateAttributes map.mapType [attr.atSet platform map.mapType table] vendor with
  | error status =>
    refine iff_of_false (qosParse_error parsed) ?_
    rintro ⟨⟨next, accepted⟩, _⟩
    cases accepted
  | ok next =>
    constructor
    · intro success
      exact ⟨⟨next, rfl⟩, success⟩
    · exact fun accepted => accepted.2

theorem portListUpdate_cases (mapId : ObjectId) (mapType : QosMapType) (copy : Option QosMapTable)
    (push : ObjectId → SaiStatus) (list : List QosMapGlue) (typed : ∀ glue ∈ list, glue.mapType = mapType) :
    ∀ npu glue, (qosMapPortListUpdate mapId mapType copy push list npu).mapId glue = npu.mapId glue ∧
        (qosMapPortListUpdate mapId mapType copy push list npu).copy glue = npu.copy glue ∧
        ((∀ g ∈ list, push g.portId = .success) → glue ∉ list) ∨
      glue ∈ list ∧ (qosMapPortListUpdate mapId mapType copy push list npu).mapId glue = mapId ∧
        (qosMapPortListUpdate mapId mapType copy push list npu).copy glue = copy := by
  induction list with
  | nil =>
    intro npu glue
    exact .inl ⟨rfl, rfl, fun _ => List.not_mem_nil⟩
  | cons head rest ih =>
    intro npu glue
    have isHead : (⟨head.portId, mapType⟩ : QosMapGlue) = head := by
      rw [← typed head List.mem_cons_self]
    unfold qosMapPortListUpdate
    split
    · rename_i pushed
      rcases ih (fun g member => typed g (List.mem_cons_of_mem _ member))
        (npu.set ⟨head.portId, mapType⟩ mapId copy) glue with
        ⟨ids, copies, unlisted⟩ | ⟨member, ids, copies⟩
      · rw [isHead] at ids copies ⊢
        by_cases here : glue = head
        · refine .inr ⟨here ▸ List.mem_cons_self, ?_, ?_⟩
          · rw [ids, here]
            exact Function.update_self ..
          · rw [copies, here]
            exact Function.update_self ..
        · refine .inl ⟨?_, ?_, fun all member => ?_⟩
          · rw [ids]
            exact Function.update_of_ne here ..
          · rw [copies]
            exact Function.update_of_ne here ..
          · rcases List.mem_cons.mp member with eq | later
            · exact here eq
            · exact unlisted (fun g inRest => all g (List.mem_cons_of_mem _ inRest)) later
      · exact .inr ⟨List.mem_cons_of_mem _ member, ids, copies⟩
    · rename_i refused
      exact .inl ⟨rfl, rfl, fun all => absurd (all head List.mem_cons_self) refused⟩

section
variable (kept : QosMapsKept platform s)
include kept

/-- A table that is written without being pushed is that of a hardware object, or of
a map that no port names, or it stays as it was. -/
theorem QosMapsKept.write (found : s.maps.mapTree.get mapId = some map) (stored : s.tables.get mapId = some table)
    (harmless : platform.mapIsHwObject map.mapType = true ∨ written = table ∨ s.Unused mapId) :
    QosMapsKept platform { s with tables := s.tables.put mapId written } := by
  have copies : ∀ portId port, s.maps.portTree.get portId = some port → ∀ t, QosMapHw.copyOf platform
      { s with tables := s.tables.put mapId written } (port.mapsId t) = s.copyOf platform (port.mapsId t) := by
    intro portId port atPort t
    by_cases named : port.mapsId t = mapId
    · rcases harmless with hw | rfl | unused
      · rw [named, copyOf_hw found hw]
        exact copyOf_hw found hw
      · rw [put_same stored]
      · exact absurd named (unused portId port atPort t)
    · exact copyOf_congr rfl (get_put_ne named)
  refine ⟨kept.agree.congr rfl rfl copies, kept.nullKey, kept.typed, fun k isStored => ?_, kept.dead, kept.listed⟩
  dsimp only
  exact get_put_ne_none (kept.tabled k isStored)

theorem QosMapsKept.push {push : ObjectId → SaiStatus} (found : s.maps.mapTree.get mapId = some map)
    (stored : s.tables.get mapId = some table) (soft : platform.mapIsHwObject map.mapType = false)
    (typed : ∀ glue ∈ map.portList, glue.mapType = map.mapType)
    (reached : written = table ∨
      (∀ portId port mapType, s.maps.portTree.get portId = some port → port.mapsId mapType = mapId →
        ⟨portId, mapType⟩ ∈ map.portList) ∧ ∀ glue ∈ map.portList, push glue.portId = .success) :
    QosMapsKept platform
      { s with
          tables := s.tables.put mapId written
          npu := qosMapPortListUpdate mapId map.mapType (some written) push map.portList s.npu } := by
  have others : ∀ k, k ≠ mapId → QosMapHw.copyOf platform
      { s with
          tables := s.tables.put mapId written
          npu := qosMapPortListUpdate mapId map.mapType (some written) push map.portList s.npu } k =
      s.copyOf platform k := fun k other => copyOf_congr rfl (get_put_ne other)
  have here : QosMapHw.copyOf platform
      { s with
          tables := s.tables.put mapId written
          npu := qosMapPortListUpdate mapId map.mapType (some written) push map.portList s.npu } mapId =
      some written := by
    refine (copyOf_table ?_ soft).trans (get_put_self _ _ _)
    exact found
  have listed : Attached.ofTree s.maps.mapTree QosMap.portList mapId = some map.portList := by
    unfold Attached.ofTree
    rw [found]
    rfl
  have names : ∀ portId port mapType, s.maps.portTree.get portId = some port →
    ⟨portId, mapType⟩ ∈ map.portList →
      port.mapsId mapType = mapId := by
    intro portId port mapType atPort member
    have named := kept.listed.named_of_mem listed member
    unfold qosMapOf at named
    rw [atPort, Option.bind_some, ObjectId.nonNull_eq_some] at named
    exact named.1
  refine ⟨⟨fun portId port atPort mapType => ?_, fun portId port atPort mapType => ?_⟩, kept.nullKey, kept.typed,
    fun k isStored => ?_, kept.dead, kept.listed⟩
  · rcases portListUpdate_cases mapId map.mapType (some written) push map.portList typed s.npu
      ⟨portId, mapType⟩ with
      ⟨ids, _, _⟩ | ⟨member, ids, _⟩
    · exact ids.trans (kept.agree.ids portId port atPort mapType)
    · exact ids.trans (names portId port mapType atPort member).symm
  · rcases portListUpdate_cases mapId map.mapType (some written) push map.portList typed s.npu
      ⟨portId, mapType⟩ with
      ⟨_, copies, unlisted⟩ | ⟨member, _, copies⟩
    · have before := kept.agree.copies portId port atPort mapType
      refine copies.trans (before.trans ?_)
      by_cases named : port.mapsId mapType = mapId
      · rcases reached with same | ⟨linked, all⟩
        · rw [named, here, copyOf_table found soft, stored, same]
        · exact absurd (linked portId port mapType atPort named) (unlisted all)
      · exact (others _ named).symm
    · rw [names portId port mapType atPort member, here]
      exact copies
  · dsimp only
    exact get_put_ne_none (kept.tabled k isStored)

theorem QosMapsKept.attributeSet (mapId : ObjectId) (attr : QosMapTableAttr)
    (vendor npu : SaiStatus) (push : ObjectId → SaiStatus)
    (passes : s.Passes platform (.attributeSet mapId attr vendor npu push)) :
    QosMapsKept platform (qosMapTableAttributeSet platform s mapId attr vendor npu push).1 ∧
      ((qosMapTableAttributeSet platform s mapId attr vendor npu push).2 ≠ .success →
        (qosMapTableAttributeSet platform s mapId attr vendor npu push).1.maps.portTree = s.maps.portTree ∧
          (qosMapTableAttributeSet platform s mapId attr vendor npu push).1.npu = s.npu) := by
  unfold qosMapTableAttributeSet
  split
  · rename_i map table found stored
    dsimp only
    split
    · exact ⟨kept, fun _ => ⟨rfl, rfl⟩⟩
    rename_i kind
    have accepted := attributeSet_accepted platform attr table vendor npu (not_not.mp kind) found
    split
    · rename_i pushed
      obtain ⟨success, soft⟩ := pushed
      obtain ⟨typed, reached⟩ := (passes map table found stored soft).1 (accepted.mp success)
      exact ⟨kept.push found stored soft typed reached, fun failed => absurd success failed⟩
    · rename_i unpushed
      refine ⟨kept.write found stored ?_, fun _ => ⟨rfl, rfl⟩⟩
      cases hw : platform.mapIsHwObject map.mapType with
      | true => exact .inl rfl
      | false =>
        refine .inr ((passes map table found stored hw).2 fun isAccepted => unpushed ⟨accepted.mpr isAccepted, hw⟩)
  · exact ⟨kept, fun _ => ⟨rfl, rfl⟩⟩

end

end AttributeSet

end SaiCommon
