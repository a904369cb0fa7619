import SaiCommon.Qos.MapTablesAgree

namespace SaiCommon

variable {ports : KeyTree ObjectId QosMapPort} {map : QosMap} {npu : QosMapNpu} {reapply : SaiStatus}
  {tree : KeyTree ObjectId QosMap} {mapId : ObjectId}

section OnPortSet
variable {platform : QosMapPlatform} {s : QosMapHw} {portId : ObjectId} {port : QosMapPort} {mapType : QosMapType}

theorem mapsId_setMapId (mapId : ObjectId) (t : QosMapType) :
    (port.setMapId mapType mapId).mapsId t = if t = mapType then mapId else port.mapsId t :=
  Function.update_apply ..

section
variable (types : ∀ k, (tree.get k).map QosMap.mapType = (s.maps.mapTree.get k).map QosMap.mapType)
include types

theorem copyOf_types (k : ObjectId) :
    QosMapHw.copyOf platform ⟨⟨ports, tree⟩, s.tables, npu⟩ k = s.copyOf platform k :=
  copyOf_congr (types k) rfl

theorem get_none_of_types (k : ObjectId) : tree.get k = none ↔ s.maps.mapTree.get k = none := by
  rw [← Option.map_eq_none_iff (f := QosMap.mapType), types k, Option.map_eq_none_iff]

end

theorem qosMapOf_port (stored : s.maps.portTree.get portId = some port) :
    qosMapOf s.maps ⟨portId, mapType⟩ = (port.mapsId mapType).nonNull := by
  unfold qosMapOf
  rw [stored, Option.bind_some]

theorem QosMapsKept.relink (kept : QosMapsKept platform s)
    (types : ∀ k, (tree.get k).map QosMap.mapType = (s.maps.mapTree.get k).map QosMap.mapType)
    (agree : QosMapsAgree platform ⟨⟨ports, tree⟩, s.tables, npu⟩)
    (dead : ∀ portId port, ports.get portId = some port → ∀ t, port.mapsId t ≠ nullObjectId →
      s.maps.mapTree.get (port.mapsId t) = none →
      platform.mapIsHwObject (platform.typeOfObject (port.mapsId t).npuObjectId) = true)
    (listed : Listed (Attached.ofTree tree QosMap.portList) (qosMapOf ⟨ports, tree⟩)) :
    QosMapsKept platform ⟨⟨ports, tree⟩, s.tables, npu⟩ where
  agree := agree
  nullKey := (get_none_of_types types _).mpr kept.nullKey
  typed k map found := by
    have before := types k
    dsimp only at found
    rw [found, Option.map_some] at before
    obtain ⟨old, atOld, same⟩ := Option.map_eq_some_iff.mp before.symm
    rw [← same]
    exact kept.typed k old atOld
  tabled k found := kept.tabled k fun absent => found ((get_none_of_types types k).mpr absent)
  dead portId port atPort t named gone := dead portId port atPort t named ((get_none_of_types types _).mp gone)
  listed := listed

theorem QosMapsAgree.move (agree : QosMapsAgree platform s)
    (types : ∀ k, (tree.get k).map QosMap.mapType = (s.maps.mapTree.get k).map QosMap.mapType)
    (here : ∀ t, npu.mapId ⟨portId, t⟩ = (port.setMapId mapType mapId).mapsId t ∧
      npu.copy ⟨portId, t⟩ = s.copyOf platform ((port.setMapId mapType mapId).mapsId t))
    (away : ∀ glue, glue.portId ≠ portId → npu.mapId glue = s.npu.mapId glue ∧
      npu.copy glue = s.npu.copy glue) :
    QosMapsAgree platform ⟨⟨s.maps.portTree.put portId (port.setMapId mapType mapId), tree⟩,
      s.tables, npu⟩ where
  ids k p atPort t := by
    dsimp only at atPort ⊢
    rw [KeyTree.get_put] at atPort
    split at atPort
    · rename_i same
      cases atPort
      rw [same]
      exact (here t).1
    · rename_i other
      exact (away ⟨k, t⟩ other).1.trans (agree.ids k p atPort t)
  copies k p atPort t := by
    rw [copyOf_types types]
    dsimp only at atPort ⊢
    rw [KeyTree.get_put] at atPort
    split at atPort
    · rename_i same
      cases atPort
      rw [same]
      exact (here t).2
    · rename_i other
      exact (away ⟨k, t⟩ other).2.trans (agree.copies k p atPort t)

section
variable (kept : QosMapsKept platform s)
include kept

theorem QosMapsKept.moved (stored : s.maps.portTree.get portId = some port)
    (lists : ∀ k, Attached.ofTree tree QosMap.portList k =
      Attached.take (Attached.release (Attached.ofTree s.maps.mapTree QosMap.portList) ⟨portId, mapType⟩
        (port.mapsId mapType).nonNull) ⟨portId, mapType⟩ mapId.nonNull k) :
    Listed (Attached.ofTree tree QosMap.portList)
      (qosMapOf ⟨s.maps.portTree.put portId (port.setMapId mapType mapId), tree⟩) := by
  have moved := kept.listed.move ⟨portId, mapType⟩ mapId.nonNull
  rw [qosMapOf_port stored] at moved
  exact moved.congr lists (qosMapOf_setMapId mapId stored)

theorem QosMapsKept.dead_setMapId (stored : s.maps.portTree.get portId = some port)
    (live : mapId = nullObjectId ∨ s.maps.mapTree.get mapId ≠ none) :
    ∀ k p, (s.maps.portTree.put portId (port.setMapId mapType mapId)).get k = some p → ∀ t,
      p.mapsId t ≠ nullObjectId → s.maps.mapTree.get (p.mapsId t) = none →
      platform.mapIsHwObject (platform.typeOfObject (p.mapsId t).npuObjectId) = true := by
  intro k p atPort t named gone
  rw [KeyTree.get_put] at atPort
  split at atPort
  · cases atPort
    rw [mapsId_setMapId] at named gone ⊢
    split at named
    · rename_i here
      rw [if_pos here] at gone
      rcases live with null | isStored
      · exact absurd null named
      · exact absurd gone isStored
    · rename_i other
      rw [if_neg other] at gone ⊢
      exact kept.dead portId port stored t named gone
  · exact kept.dead k p atPort t named gone

/-- The NPU after the map of a type is cleared and the other ingress map is put back. -/
theorem npuReapply_here (stored : s.maps.portTree.get portId = some port)
    (back : ∀ other, ingressPair mapType = some other → port.mapsId other ≠ nullObjectId →
      reapply = .success) (t : QosMapType) :
    (s.npuReapply platform (s.npu.clear ⟨portId, mapType⟩) portId (port.setMapId mapType nullObjectId) mapType
        reapply).mapId ⟨portId, t⟩ = (port.setMapId mapType nullObjectId).mapsId t ∧
      (s.npuReapply platform (s.npu.clear ⟨portId, mapType⟩) portId (port.setMapId mapType nullObjectId) mapType
        reapply).copy ⟨portId, t⟩ = s.copyOf platform ((port.setMapId mapType nullObjectId).mapsId t) := by
  have ids := kept.agree.ids portId port stored t
  have copies := kept.agree.copies portId port stored t
  have null : s.copyOf platform nullObjectId = none := copyOf_absent kept.nullKey
  have apart : ∀ other, ingressPair mapType = some other → other ≠ mapType := by
    rintro other pair rfl
    cases other <;> cases pair
  rw [mapsId_setMapId]
  unfold QosMapHw.npuReapply
  cases pair : ingressPair mapType with
  | none =>
    dsimp only
    unfold QosMapNpu.clear QosMapNpu.clears
    rw [pair]
    by_cases here : t = mapType
    · simp [here, null]
    · simp [here, ids, copies]
  | some other =>
    dsimp only
    have otherId : (port.setMapId mapType nullObjectId).mapsId other = port.mapsId other := by
      rw [mapsId_setMapId, if_neg (apart other pair)]
    rw [otherId]
    by_cases named : port.mapsId other = nullObjectId
    · -- nothing is put back
      rw [if_neg fun both => both.1 named]
      unfold QosMapNpu.clear QosMapNpu.clears
      rw [pair]
      by_cases here : t = mapType
      · simp [here, null]
      by_cases isOther : t = other
      · rw [if_neg here]
        simp [isOther, named, null]
      · have away : other ≠ t := fun eq => isOther eq.symm
        simp [here, away, ids, copies]
    · rw [if_pos ⟨named, back other pair named⟩]
      unfold QosMapNpu.set
      dsimp only
      by_cases isOther : t = other
      · rw [isOther, Function.update_self, Function.update_self, if_neg (apart other pair)]
        exact ⟨rfl, rfl⟩
      have differ : (⟨portId, t⟩ : QosMapGlue) ≠ ⟨portId, other⟩ := fun eq =>
        isOther (congrArg QosMapGlue.mapType eq)
      rw [Function.update_of_ne differ, Function.update_of_ne differ]
      unfold QosMapNpu.clear QosMapNpu.clears
      rw [pair]
      by_cases here : t = mapType
      · simp [here, null]
      · have away : other ≠ t := fun eq => isOther eq.symm
        simp [here, away, ids, copies]

end

theorem npuReapply_away {next : QosMapPort} {glue : QosMapGlue} (away : glue.portId ≠ portId) :
    (s.npuReapply platform (s.npu.clear ⟨portId, mapType⟩) portId next mapType reapply).mapId glue =
    s.npu.mapId glue ∧
      (s.npuReapply platform (s.npu.clear ⟨portId, mapType⟩) portId next mapType reapply).copy glue =
        s.npu.copy glue := by
  have cleared : QosMapNpu.clears ⟨portId, mapType⟩ glue = false := by
    unfold QosMapNpu.clears
    rw [decide_eq_false away, Bool.false_and]
  have differ : ∀ t, glue ≠ ⟨portId, t⟩ := fun t eq => away (congrArg QosMapGlue.portId eq)
  have base : (s.npu.clear ⟨portId, mapType⟩).mapId glue = s.npu.mapId glue ∧
      (s.npu.clear ⟨portId, mapType⟩).copy glue = s.npu.copy glue := by
    unfold QosMapNpu.clear
    dsimp only
    rw [cleared]
    exact ⟨rfl, rfl⟩
  unfold QosMapHw.npuReapply
  split
  · exact base
  split
  · unfold QosMapNpu.set
    dsimp only
    rw [Function.update_of_ne (differ _), Function.update_of_ne (differ _)]
    exact base
  · exact base

section
variable (kept : QosMapsKept platform s)
include kept

theorem QosMapsKept.portRemove (stored : s.maps.portTree.get portId = some port)
    (found : s.maps.mapTree.get (port.mapsId mapType) = some map)
    (back : ∀ other, ingressPair mapType = some other → port.mapsId other ≠ nullObjectId → reapply = .success) :
    QosMapsKept platform
      { maps := (qosMapPortRemove s.maps portId port mapType .success reapply).1
        tables := s.tables
        npu := s.npuReapply platform (s.npu.clear ⟨portId, mapType⟩) portId
          (port.setMapId mapType nullObjectId) mapType
          reapply } ∧ (qosMapPortRemove s.maps portId port mapType .success reapply).2 = .success := by
  have present : port.mapsId mapType ≠ nullObjectId := by
    intro null
    rw [null, kept.nullKey] at found
    cases found
  have released := ofTree_qosMapRelease s.maps.mapTree ⟨portId, mapType⟩ (port.mapsId mapType)
  have types := qosMapRelease_types s.maps.mapTree ⟨portId, mapType⟩ (port.mapsId mapType)
  unfold qosMapRelease at released types
  rw [if_pos present] at released types
  unfold qosMapPortRemove
  dsimp only
  rw [found]
  dsimp only
  refine ⟨kept.relink types ?_ (kept.dead_setMapId stored (.inl rfl)) (kept.moved stored fun k => ?_), ?_⟩
  · exact kept.agree.move types (npuReapply_here kept stored back) fun glue away => npuReapply_away away
  · rw [← released, nonNull_null]
    rfl
  · unfold qosMapUpdateIngressMaps
    split
    · split
      · rename_i named
        rw [mapsId_setMapId, if_neg (by decide)] at named
        exact back _ rfl named
      · rfl
    · split
      · rename_i named
        rw [mapsId_setMapId, if_neg (by decide)] at named
        exact back _ rfl named
      · rfl
    · rfl

theorem QosMapsKept.portAdd (stored : s.maps.portTree.get portId = some port)
    (found : s.maps.mapTree.get mapId = some map) (notNull : mapId ≠ nullObjectId) :
    QosMapsKept platform
      { maps := (qosMapPortAdd s.maps portId port mapId mapType .success).1
        tables := s.tables
        npu := s.npu.set ⟨portId, mapType⟩ mapId (s.copyOf platform mapId) } := by
  have released := ofTree_qosMapRelease s.maps.mapTree ⟨portId, mapType⟩ (port.mapsId mapType)
  have kinds := qosMapRelease_types s.maps.mapTree ⟨portId, mapType⟩ (port.mapsId mapType)
  unfold qosMapRelease at released kinds
  unfold qosMapPortAdd
  rw [found]
  dsimp only
  have types : ∀ k, (((if port.mapsId mapType ≠ nullObjectId
      then s.maps.mapTree.modify (port.mapsId mapType) fun map => map.unlink ⟨portId, mapType⟩
      else s.maps.mapTree).modify mapId fun map => map.link ⟨portId, mapType⟩).get k).map QosMap.mapType =
      (s.maps.mapTree.get k).map QosMap.mapType := by
    intro k
    rw [← kinds k]
    exact KeyTree.map_get_modify (g := QosMap.mapType) (fun map => by rfl) k
  refine kept.relink types ?_ (kept.dead_setMapId stored (.inr (by rw [found]; exact Option.some_ne_none map)))
    (kept.moved stored fun k => ?_)
  · refine kept.agree.move types (fun t => ?_) fun glue away => ?_
    · unfold QosMapNpu.set
      dsimp only
      rw [mapsId_setMapId]
      by_cases here : t = mapType
      · rw [here, if_pos rfl, Function.update_self, Function.update_self]
        exact ⟨rfl, rfl⟩
      have differ : (⟨portId, t⟩ : QosMapGlue) ≠ ⟨portId, mapType⟩ := fun eq =>
        here (congrArg QosMapGlue.mapType eq)
      rw [if_neg here, Function.update_of_ne differ, Function.update_of_ne differ]
      exact ⟨kept.agree.ids portId port stored t, kept.agree.copies portId port stored t⟩
    · have differ : glue ≠ ⟨portId, mapType⟩ := fun eq => away (congrArg QosMapGlue.portId eq)
      exact ⟨Function.update_of_ne differ .., Function.update_of_ne differ ..⟩
  · rw [← released, show mapId.nonNull = some mapId from if_neg notNull]
    refine Attached.ofTree_modify (fun map => ?_) k
    rfl

theorem QosMapsKept.portRefused (stored : s.maps.portTree.get portId = some port) : QosMapsKept platform
      { s with maps :=
        { s.maps with mapTree := qosMapRelease s.maps.mapTree ⟨portId, mapType⟩ (port.mapsId mapType) } } := by
  have types := qosMapRelease_types s.maps.mapTree ⟨portId, mapType⟩ (port.mapsId mapType)
  refine kept.relink types (kept.agree.congr rfl rfl fun k p atPort t => copyOf_types types _) kept.dead ?_
  have released := kept.listed.release ⟨portId, mapType⟩
  rw [qosMapOf_port stored, ← ofTree_qosMapRelease] at released
  exact released

theorem QosMapsKept.onPortSet (portId mapId : ObjectId) (mapType : QosMapType)
    (npu reapply : SaiStatus) (passes : s.Passes platform (.onPortSet portId mapId mapType npu reapply)) :
    QosMapsKept platform (qosMapHwOnPortSet platform s portId mapId mapType npu reapply).1 ∧
      ((qosMapHwOnPortSet platform s portId mapId mapType npu reapply).2 ≠ .success →
        (qosMapHwOnPortSet platform s portId mapId mapType npu reapply).1.maps.portTree = s.maps.portTree ∧
          (qosMapHwOnPortSet platform s portId mapId mapType npu reapply).1.npu = s.npu) := by
  unfold qosMapHwOnPortSet QosMapHw.npuOnPortSet qosMapOnPortSet
  dsimp only
  by_cases invalid : mapType = .invalid
  · rw [if_pos invalid, if_pos invalid]
    exact ⟨kept, fun _ => ⟨rfl, rfl⟩⟩
  rw [if_neg invalid, if_neg invalid]
  cases stored : s.maps.portTree.get portId with
  | none => exact ⟨kept, fun _ => ⟨rfl, rfl⟩⟩
  | some port =>
    dsimp only
    by_cases null : mapId = nullObjectId
    · rw [if_pos null, if_pos null]
      cases found : s.maps.mapTree.get (port.mapsId mapType) with
      | none =>
        rw [if_neg fun both => both.1 rfl]
        unfold qosMapPortRemove
        dsimp only
        rw [found]
        exact ⟨kept, fun _ => ⟨rfl, rfl⟩⟩
      | some map =>
        cases npu with
        | success =>
          rw [if_pos ⟨Option.some_ne_none map, rfl⟩]
          have back := fun other pair named => passes null rfl port other stored pair
            (by rw [found]; exact Option.some_ne_none map) named
          obtain ⟨kept', success⟩ := kept.portRemove stored found back
          exact ⟨kept', fun failed => absurd success failed⟩
        | _ =>
          rw [if_neg fun both => by cases both.2]
          unfold qosMapPortRemove
          dsimp only
          rw [found]
          exact ⟨kept, fun _ => ⟨rfl, rfl⟩⟩
    rw [if_neg null, if_neg null]
    by_cases already : port.mapsId mapType = mapId
    · rw [if_pos already, if_pos already]
      exact ⟨kept, fun _ => ⟨rfl, rfl⟩⟩
    rw [if_neg already, if_neg already]
    cases found : s.maps.mapTree.get mapId with
    | none =>
      rw [if_neg fun both => both.1 rfl]
      unfold qosMapPortAdd
      rw [found]
      exact ⟨kept, fun _ => ⟨rfl, rfl⟩⟩
    | some map =>
      cases npu with
      | success =>
        rw [if_pos ⟨Option.some_ne_none map, rfl⟩]
        refine ⟨kept.portAdd stored found null, fun failed => absurd ?_ failed⟩
        unfold qosMapPortAdd
        rw [found]
      | _ =>
        rw [if_neg fun both => by cases both.2]
        unfold qosMapPortAdd
        rw [found]
        exact ⟨kept.portRefused stored, fun _ => ⟨rfl, rfl⟩⟩

end

end OnPortSet

theorem QosMapsKept.call {platform : QosMapPlatform} {s : QosMapHw} (kept : QosMapsKept platform s)
    (call : QosMapHwCall) (passes : s.Passes platform call) : QosMapsKept platform (s.call platform call).1 ∧
      ((s.call platform call).2 ≠ .success → (s.call platform call).1.maps.portTree = s.maps.portTree ∧
        (s.call platform call).1.npu = s.npu) := by
  cases call with
  | create attrs env => exact kept.create attrs env
  | remove mapId npu => exact kept.remove mapId npu passes
  | attributeSet mapId attr vendor npu push => exact kept.attributeSet mapId attr vendor npu push passes
  | onPortSet portId mapId mapType npu reapply => exact kept.onPortSet portId mapId mapType npu reapply passes

structure QosMapHwFresh (s : QosMapHw) : Prop where
  maps : QosMapFresh s.maps
  ids : ∀ glue, s.npu.mapId glue = nullObjectId
  copies : ∀ glue, s.npu.copy glue = none

theorem QosMapHwFresh.kept {platform : QosMapPlatform} {s : QosMapHw} (fresh : QosMapHwFresh s) :
    QosMapsKept platform s := by
  have absent : ∀ k, s.maps.mapTree.get k = none := fun k => by rw [fresh.maps.maps, KeyTree.get_empty]
  refine ⟨⟨fun k p stored t => ?_, fun k p stored t => ?_⟩, absent _, fun k map found => ?_, fun k found => ?_,
    fun k p stored t named => ?_, .of_attached fresh.maps.linked.lists⟩
  · rw [fresh.ids, fresh.maps.ports k p stored t]
  · rw [fresh.copies, copyOf_absent (absent _)]
  · rw [absent k] at found
    cases found
  · exact absurd (absent k) found
  · exact absurd (fresh.maps.ports k p stored t) named

/-- In every run whose calls all pass, every call that passes leaves the software and
the NPU in agreement, or as they were when it fails. -/
theorem qosMaps_agree (platform : QosMapPlatform) (s : QosMapHw) (reach : Runs.Reach QosMapHwFresh
      (Runs.guarded (QosMapHw.Passes platform) fun s call => (s.call platform call).1) s) :
    QosMapsAgree platform s ∧ ∀ call, s.Passes platform call → s.Right platform call := by
  have kept : QosMapsKept platform s := by
    refine reach.invariant (QosMapsKept platform) (fun _ fresh => fresh.kept) ?_
    rintro s call _ kept ⟨passes, rfl⟩
    exact (kept.call call passes).1
  refine ⟨kept.agree, fun call passes => ?_⟩
  obtain ⟨kept', failed⟩ := kept.call call passes
  exact ⟨fun _ => kept'.agree, failed⟩

/-- One traffic class and two tables of queues; TC-to-queue maps alone are no hardware
objects. -/
def sampleQosMapPlatform : QosMapPlatform where
  maxTc := 1
  maxDot1p := 1
  maxDscp := 1
  maxPfcPri := 1
  maxPacketColors := 1
  maxQueueIdx := 2
  defaultTc := 0
  defaultDot1p := 0
  defaultDscp := 0
  defaultQueueIndex := 0
  defaultPg := 0
  maxQueues := 4
  maxUcQueues := 4
  numPg := 1
  attrValueValidate _ _ _ _ := .success
  isMapSupported _ := true
  mapIsHwObject mapType := mapType ≠ .tcToQueue
  addTypeToObject hwMapId
    | .dot1pToTcAndColor => 9 * hwMapId
    | .dscpToTcAndColor => 9 * hwMapId + 1
    | .tcToQueue => 9 * hwMapId + 2
    | .tcToPriorityGroup => 9 * hwMapId + 3
    | .pfcPriorityToQueue => 9 * hwMapId + 4
    | .tcAndColorToDot1p => 9 * hwMapId + 5
    | .tcAndColorToDscp => 9 * hwMapId + 6
    | .invalid => 9 * hwMapId + 7
    | .other value => 9 * value + 8
  typeOfObject id :=
    match id % 9 with
    | 0 => .dot1pToTcAndColor
    | 1 => .dscpToTcAndColor
    | 2 => .tcToQueue
    | 3 => .tcToPriorityGroup
    | 4 => .pfcPriorityToQueue
    | 5 => .tcAndColorToDot1p
    | 6 => .tcAndColorToDscp
    | 7 => .invalid
    | _ => .other (id / 9)
  typeOfObject_add hwMapId mapType := by
    cases mapType with
    | other value =>
      have rest : (9 * value + 8) % 9 = 8 := by omega
      have whole : (9 * value + 8) / 9 = value := by omega
      dsimp only
      rw [rest, whole]
      rfl
    | _ =>
      dsimp only
      simp

/-- The port of `qosMapSample` and an NPU that has been told nothing. -/
def sampleQosMapHw : QosMapHw := ⟨qosMapSample, ∅, ⟨fun _ => nullObjectId, fun _ => none⟩⟩

theorem sampleQosMapHw_fresh : QosMapHwFresh sampleQosMapHw := ⟨qosMapSample_fresh, fun _ => rfl, fun _ => rfl⟩

def sampleQosMapRun : List QosMapHwCall :=
  [.create [.type .tcToQueue] ⟨true, true, .success, .success, 1, true⟩,
    .onPortSet ⟨.port, 1⟩ ⟨.qosMaps, 11⟩ .tcToQueue .success .success]

def sampleQosMapState : QosMapHw :=
  sampleQosMapRun.foldl (fun s call => (s.call sampleQosMapPlatform call).1) sampleQosMapHw

def sampleQosMapSet (push : SaiStatus) : QosMapHwCall :=
  .attributeSet ⟨.qosMaps, 11⟩ (.mapToValueList [{ QosMapEntry.zero with value.queueIndex := 3 }]) .success .success
    fun _ => push

theorem sampleQosMapSet_passes : sampleQosMapState.Passes sampleQosMapPlatform (sampleQosMapSet .success) := by
  intro map table found stored _
  cases found
  refine ⟨fun _ => ⟨?_, .inr ⟨?_, fun _ _ => rfl⟩⟩, fun refused =>
    absurd ⟨⟨.tcToQueue, rfl⟩, rfl⟩ refused⟩
  · intro glue member
    rw [List.mem_singleton.mp member]
    rfl
  · intro portId port mapType atPort named
    have isPort : portId = ⟨.port, 1⟩ := by
      by_contra other
      have absent : sampleQosMapState.maps.portTree.get portId = none :=
        (KeyTree.get_put_ne other).trans (KeyTree.get_put_ne other)
      rw [absent] at atPort
      cases atPort
    subst isPort
    cases atPort
    have isType : mapType = .tcToQueue := by
      by_contra other
      have free := (mapsId_setMapId _ mapType).symm.trans named
      rw [if_neg other] at free
      cases free
    rw [isType]
    exact List.mem_singleton.mpr rfl

theorem sampleQosMaps_agree : QosMapsAgree sampleQosMapPlatform sampleQosMapState ∧
    sampleQosMapState.Right sampleQosMapPlatform (sampleQosMapSet .success) := by
  have agree := qosMaps_agree sampleQosMapPlatform sampleQosMapState
    (.run (.start sampleQosMapHw_fresh) ⟨trivial, fun null => (by cases null), trivial⟩)
  exact ⟨agree.1, agree.2 _ sampleQosMapSet_passes⟩

/-- A set whose push the port refuses succeeds and leaves the copy behind. -/
theorem qosMaps_not_agree : ¬ ∀ platform s, Runs.Reach QosMapHwFresh
    (Runs.guarded (fun _ _ => True) fun s call => (s.call platform call).1) s → ∀ call, s.Right platform call := by
  intro all
  have right := all sampleQosMapPlatform sampleQosMapState
    (.run (.start sampleQosMapHw_fresh) (Runs.allowedRun_of_forall (fun _ _ => trivial) _ sampleQosMapRun))
    (sampleQosMapSet .failure)
  have agree := right.1 (by decide)
  have stale : ∃ port, (sampleQosMapState.call sampleQosMapPlatform (sampleQosMapSet .failure)).1.maps.portTree.get
      ⟨.port, 1⟩ = some port ∧ port.mapsId .tcToQueue = ⟨.qosMaps, 11⟩ := ⟨_, rfl, by decide⟩
  obtain ⟨port, stored, named⟩ := stale
  have copies := agree.copies ⟨.port, 1⟩ port stored .tcToQueue
  rw [named] at copies
  revert copies
  decide

end SaiCommon
