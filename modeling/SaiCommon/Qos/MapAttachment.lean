import SaiCommon.Qos.BufferAttachment
import SaiCommon.Qos.Maps

namespace SaiCommon

open KeyTree

def qosMapOf (s : QosMapState) (glue : QosMapGlue) : Option ObjectId :=
  (s.portTree.get glue.portId).bind fun port => (port.mapsId glue.mapType).nonNull

structure QosMapLinked (s : QosMapState) : Prop where
  nullKey : s.mapTree.get nullObjectId = none
  lists : Attached (Attached.ofTree s.mapTree QosMap.portList) (qosMapOf s)
  types : ∀ glue mapId map, qosMapOf s glue = some mapId → s.mapTree.get mapId = some map →
    map.mapType = glue.mapType

/-- A replacement goes through: a map is put on a port only under its own type,
and a refusal by the NPU comes only while the port has no map of that type. -/
def QosMapCall.replaces (s : QosMapState) : QosMapCall → Prop
  | .onPortSet portId mapId mapType npu _ =>
    ∀ port map, s.portTree.get portId = some port → s.mapTree.get mapId = some map →
      mapType ≠ .invalid → mapId ≠ nullObjectId → port.mapsId mapType ≠ mapId →
      if npu = .success then map.mapType = mapType else port.mapsId mapType = nullObjectId
  | _ => True

section Link
variable {s : QosMapState} {portId : ObjectId} {port : QosMapPort} {mapType : QosMapType}

theorem qosMapOf_setMapId (mapId : ObjectId) (stored : s.portTree.get portId = some port)
    (glue : QosMapGlue) :
    (((s.portTree.put portId (port.setMapId mapType mapId)).get glue.portId).bind fun port =>
      (port.mapsId glue.mapType).nonNull) = Function.update (qosMapOf s) ⟨portId, mapType⟩ mapId.nonNull glue := by
  obtain ⟨p, t⟩ := glue
  unfold qosMapOf QosMapPort.setMapId
  rw [get_put, Function.update_apply]
  by_cases here : p = portId
  · subst here
    simp only [if_true, Option.bind_some, Function.update_apply, QosMapGlue.mk.injEq, true_and, stored]
    by_cases same : t = mapType
    · rw [if_pos same, if_pos same]
    · rw [if_neg same, if_neg same]
  · simp only [here, if_false, QosMapGlue.mk.injEq, false_and]

/-- The glue of a port leaves the map it is linked to, NULL being no map. -/
def qosMapRelease (tree : KeyTree ObjectId QosMap) (glue : QosMapGlue) (old : ObjectId) : KeyTree ObjectId QosMap :=
  if old ≠ nullObjectId then tree.modify old fun map => map.unlink glue else tree

theorem ofTree_qosMapRelease (tree : KeyTree ObjectId QosMap) (glue : QosMapGlue)
    (old : ObjectId) : Attached.ofTree (qosMapRelease tree glue old) QosMap.portList =
      Attached.release (Attached.ofTree tree QosMap.portList) glue old.nonNull := by
  funext k
  unfold qosMapRelease ObjectId.nonNull
  by_cases null : old = nullObjectId
  · rw [if_neg (not_not_intro null), if_pos null]
    rfl
  · rw [if_pos null, if_neg null]
    refine Attached.ofTree_modify (fun map => ?_) k
    rfl

theorem qosMapRelease_types (tree : KeyTree ObjectId QosMap) (glue : QosMapGlue) (old k : ObjectId) :
    ((qosMapRelease tree glue old).get k).map QosMap.mapType = (tree.get k).map QosMap.mapType := by
  unfold qosMapRelease
  split
  · exact map_get_modify (g := QosMap.mapType) (fun map => by rfl) k
  · rfl

/-- A map replacement: the glue moves from the map it names to another one, or to none. -/
theorem QosMapLinked.move (linked : QosMapLinked s) (stored : s.portTree.get portId = some port)
    (mapId : ObjectId) (tree : KeyTree ObjectId QosMap) (lists : ∀ k, Attached.ofTree tree QosMap.portList k =
      Attached.take (Attached.release (Attached.ofTree s.mapTree QosMap.portList) ⟨portId, mapType⟩
        (port.mapsId mapType).nonNull) ⟨portId, mapType⟩ mapId.nonNull k)
    (types : ∀ k, (tree.get k).map QosMap.mapType = (s.mapTree.get k).map QosMap.mapType)
    (present : mapId ≠ nullObjectId → ∃ map, s.mapTree.get mapId = some map ∧ map.mapType = mapType) :
    QosMapLinked
      { portTree := s.portTree.put portId (port.setMapId mapType mapId)
        mapTree := tree } := by
  have stays : tree.get nullObjectId = none := by
    have null := types nullObjectId
    rw [linked.nullKey] at null
    exact Option.map_eq_none_iff.mp null
  have named : qosMapOf s ⟨portId, mapType⟩ = (port.mapsId mapType).nonNull := by
    unfold qosMapOf
    rw [stored, Option.bind_some]
  have names : ∀ glue, qosMapOf
      { portTree := s.portTree.put portId (port.setMapId mapType mapId), mapTree := tree } glue =
      Function.update (qosMapOf s) ⟨portId, mapType⟩ mapId.nonNull glue := qosMapOf_setMapId mapId stored
  refine ⟨stays, ?_, ?_⟩
  · have held : ∀ k, mapId.nonNull = some k → Attached.ofTree s.mapTree QosMap.portList k ≠ none := by
      intro k isIt
      obtain ⟨rfl, notNull⟩ := ObjectId.nonNull_eq_some.mp isIt
      obtain ⟨map, found, _⟩ := present notNull
      unfold Attached.ofTree
      rw [found]
      exact Option.some_ne_none _
    have moved := linked.lists.move ⟨portId, mapType⟩ mapId.nonNull held
    rw [named] at moved
    exact moved.congr lists names
  · intro glue k map name found
    have before : (s.mapTree.get k).map QosMap.mapType = some map.mapType := by
      rw [← types k, found, Option.map_some]
    obtain ⟨old, oldStored, oldType⟩ := Option.map_eq_some_iff.mp before
    rw [names glue] at name
    by_cases same : glue = ⟨portId, mapType⟩
    · rw [same, Function.update_self] at name
      obtain ⟨rfl, notNull⟩ := ObjectId.nonNull_eq_some.mp name
      obtain ⟨other, there, isType⟩ := present notNull
      cases Option.some.inj (there.symm.trans oldStored)
      rw [← oldType, isType, same]
    · rw [Function.update_of_ne same] at name
      rw [← oldType]
      exact linked.types glue k old name oldStored

theorem QosMapLinked.onPortSet (linked : QosMapLinked s) (portId mapId : ObjectId) (mapType : QosMapType)
    (npu reapply : SaiStatus) (replaces : (QosMapCall.onPortSet portId mapId mapType npu reapply).replaces s) :
    QosMapLinked (qosMapOnPortSet s portId mapId mapType npu reapply).1 := by
  unfold qosMapOnPortSet
  split
  · exact linked
  rename_i valid
  split
  · exact linked
  rename_i port stored
  split
  · rename_i null
    unfold qosMapPortRemove
    simp only
    split
    · exact linked
    rename_i map found
    split
    · refine linked.move stored nullObjectId _ (fun k => ?_) (fun k => ?_) fun other => absurd rfl other
      · have present : port.mapsId mapType ≠ nullObjectId := by
          intro none
          rw [none, linked.nullKey] at found
          cases found
        have released := congrFun (ofTree_qosMapRelease s.mapTree ⟨portId, mapType⟩ (port.mapsId mapType)) k
        unfold qosMapRelease at released
        rw [if_pos present] at released
        exact released
      · exact map_get_modify (g := QosMap.mapType) (fun map => by rfl) k
    · exact linked
  · rename_i notNull
    split
    · exact linked
    rename_i differ
    unfold qosMapPortAdd
    split
    · exact linked
    rename_i map found
    have allowed := replaces port map stored found valid notNull differ
    simp only
    split
    · rw [if_pos rfl] at allowed
      have released := ofTree_qosMapRelease s.mapTree ⟨portId, mapType⟩ (port.mapsId mapType)
      have kept := qosMapRelease_types s.mapTree ⟨portId, mapType⟩ (port.mapsId mapType)
      refine linked.move stored mapId _ (fun k => ?_) (fun k => ?_) fun _ => ⟨map, found, allowed⟩
      · rw [← released, show mapId.nonNull = some mapId from if_neg notNull]
        refine Attached.ofTree_modify (fun map => ?_) k
        rfl
      · rw [← kept k]
        exact map_get_modify (g := QosMap.mapType) (fun map => by rfl) k
    · rename_i refused
      rw [if_neg refused] at allowed
      rw [if_neg (not_not_intro allowed)]
      exact linked

theorem QosMapLinked.create (linked : QosMapLinked s) (attrs : List QosMapAttr) (env : QosMapCreateEnv) :
    QosMapLinked (qosMapCreate s attrs env).1 := by
  unfold qosMapCreate
  split
  · exact linked
  split
  · exact linked
  rename_i mapType _
  simp only
  split
  · split
    · split
      · rename_i absent
        have notNull : (⟨.qosMaps, env.npuObjectId⟩ : ObjectId) ≠ nullObjectId :=
          ne_nullObjectId ObjectType.noConfusion
        have noList : Attached.ofTree s.mapTree QosMap.portList ⟨.qosMaps, env.npuObjectId⟩ = none := by
          unfold Attached.ofTree
          rw [absent]
          rfl
        refine ⟨?_, ?_, ?_⟩
        · simp only
          rw [get_put_ne notNull.symm]
          exact linked.nullKey
        · refine (linked.lists.insert noList).congr (fun k => ?_) fun _ => rfl
          exact Attached.ofTree_put k
        · intro glue k map named found
          have other : k ≠ ⟨.qosMaps, env.npuObjectId⟩ := by
            rintro rfl
            exact linked.lists.unnamed_of_absent noList glue named
          simp only [get_put, if_neg other] at found
          exact linked.types glue k map named found
      · exact linked
    · exact linked
  · exact linked

theorem qosMapRemove_cases (s : QosMapState) (mapId : ObjectId) (npu : SaiStatus) :
    (qosMapRemove s mapId npu).2 ≠ .success ∧ (qosMapRemove s mapId npu).1 = s ∨
    (qosMapRemove s mapId npu).2 = .success ∧ ∃ map, s.mapTree.get mapId = some map ∧ map.portList = [] ∧
      (qosMapRemove s mapId npu).1 = { s with mapTree := s.mapTree.del mapId } := by
  unfold qosMapRemove
  split
  · exact Or.inl ⟨by simp, rfl⟩
  split
  · exact Or.inl ⟨by simp, rfl⟩
  rename_i map stored
  split
  · exact Or.inl ⟨by simp, rfl⟩
  rename_i empty
  split
  · exact Or.inr ⟨rfl, map, stored, not_not.mp empty, rfl⟩
  · rename_i error
    exact Or.inl ⟨error, rfl⟩

theorem QosMapLinked.remove (linked : QosMapLinked s) (mapId : ObjectId) (npu : SaiStatus) :
    QosMapLinked (qosMapRemove s mapId npu).1 := by
  rcases qosMapRemove_cases s mapId npu with
    ⟨_, same⟩ | ⟨_, map, stored, empty, removed⟩
  · rw [same]
    exact linked
  · rw [removed]
    have noPort : Attached.ofTree s.mapTree QosMap.portList mapId = some [] := by
      unfold Attached.ofTree
      rw [stored, Option.map_some, empty]
    refine ⟨?_, ?_, ?_⟩
    · exact get_del_none linked.nullKey
    · refine (linked.lists.erase noPort).congr (fun k => ?_) fun _ => rfl
      exact Attached.ofTree_del k
    · exact fun glue k other named found => linked.types glue k other named (get_of_del found)

theorem qosMapAttributeSet_state (mapId : ObjectId) (attr : QosMapAttr) (vendor npu : SaiStatus) :
    (qosMapAttributeSet s mapId attr vendor npu).1 = s := by
  unfold qosMapAttributeSet
  split
  · rfl
  split
  · rfl
  split
  · rfl
  · rfl

theorem QosMapLinked.run (linked : QosMapLinked s) (call : QosMapCall) (replaces : call.replaces s) :
    QosMapLinked (call.run s).1 := by
  cases call with
  | create attrs env => exact linked.create attrs env
  | remove mapId npu => exact linked.remove mapId npu
  | attributeSet mapId attr vendor npu =>
    have same := qosMapAttributeSet_state (s := s) mapId attr vendor npu
    unfold QosMapCall.run
    rw [same]
    exact linked
  | onPortSet portId mapId mapType npu reapply => exact linked.onPortSet portId mapId mapType npu reapply replaces

end Link

structure QosMapFresh (s : QosMapState) : Prop where
  maps : s.mapTree = ∅
  ports : ∀ portId port, s.portTree.get portId = some port → ∀ mapType, port.mapsId mapType = nullObjectId

theorem QosMapFresh.linked {s : QosMapState} (fresh : QosMapFresh s) : QosMapLinked s := by
  have absent : ∀ k, s.mapTree.get k = none := fun k => by rw [fresh.maps, get_empty]
  refine ⟨absent _, Attached.of_empty (fun k => ?_) (fun glue => ?_), ?_⟩
  · unfold Attached.ofTree
    rw [absent k]
    rfl
  · unfold qosMapOf
    cases stored : s.portTree.get glue.portId with
    | none => rfl
    | some port =>
      rw [Option.bind_some, fresh.ports _ port stored]
      rfl
  · intro glue k map _ found
    rw [absent k] at found
    cases found

/-- A map lists the glue of a port for a type, once, exactly when the port names
it under the type; what a port names is stored and has that type. -/
structure QosMapLinksExact (s : QosMapState) : Prop where
  linked : ∀ mapId map, s.mapTree.get mapId = some map → ∀ glue,
    map.portList.count glue =
      if (s.portTree.get glue.portId).map (fun port => port.mapsId glue.mapType) = some mapId then 1 else 0
  live : ∀ portId port mapType, s.portTree.get portId = some port → port.mapsId mapType ≠ nullObjectId →
    ∃ map, s.mapTree.get (port.mapsId mapType) = some map ∧ map.mapType = mapType

theorem qosMapOf_eq_some {s : QosMapState} {glue : QosMapGlue} {mapId : ObjectId}
    (notNull : mapId ≠ nullObjectId) : qosMapOf s glue = some mapId ↔
      (s.portTree.get glue.portId).map (fun port => port.mapsId glue.mapType) = some mapId := by
  unfold qosMapOf
  cases s.portTree.get glue.portId with
  | none => exact Iff.rfl
  | some port =>
    rw [Option.bind_some, Option.map_some, ObjectId.nonNull_eq_some, Option.some.injEq]
    exact and_iff_left notNull

theorem QosMapLinked.exact {s : QosMapState} (linked : QosMapLinked s) : QosMapLinksExact s := by
  constructor
  · intro mapId map stored glue
    have notNull : mapId ≠ nullObjectId := by
      rintro rfl
      rw [linked.nullKey] at stored
      cases stored
    have listed : Attached.ofTree s.mapTree QosMap.portList mapId = some map.portList := by
      unfold Attached.ofTree
      rw [stored, Option.map_some]
    rw [linked.lists.once mapId _ listed glue]
    simp only [qosMapOf_eq_some notNull]
  · intro portId port mapType stored notNull
    have named : qosMapOf s ⟨portId, mapType⟩ = some (port.mapsId mapType) := by
      unfold qosMapOf
      rw [stored, Option.bind_some]
      exact if_neg notNull
    cases found : s.mapTree.get (port.mapsId mapType) with
    | none =>
      refine absurd ?_ (linked.lists.held _ _ named)
      unfold Attached.ofTree
      rw [found]
      rfl
    | some map => exact ⟨map, rfl, linked.types _ _ map named found⟩

/-- In every run whose replacements go through, the links are exact in every
state, and a map that has been removed is named by no port. -/
theorem qosMapLinks_exact {s : QosMapState}
    (reach : Runs.Reach QosMapFresh (Runs.guarded QosMapCall.replaces QosMapCall.step) s) : QosMapLinksExact s ∧
    ∀ mapId npu t, qosMapRemove s mapId npu = (t, .success) →
      ∀ portId port mapType, t.portTree.get portId = some port → port.mapsId mapType ≠ mapId := by
  have linked : QosMapLinked s := by
    refine reach.invariant QosMapLinked (fun s fresh => fresh.linked) ?_
    rintro s call t linked ⟨replaces, rfl⟩
    exact linked.run call replaces
  refine ⟨linked.exact, fun mapId npu t removed portId port mapType stored isIt => ?_⟩
  have after := linked.remove mapId npu
  rcases qosMapRemove_cases s mapId npu with
    ⟨error, _⟩ | ⟨_, map, found, _, gone⟩
  · rw [removed] at error
    exact absurd rfl error
  · rw [removed] at after gone
    have notNull : mapId ≠ nullObjectId := by
      rintro rfl
      rw [linked.nullKey] at found
      cases found
    obtain ⟨other, there, _⟩ := after.exact.live portId port mapType stored (isIt ▸ notNull)
    rw [isIt, show t = _ from gone] at there
    simp only [get_del_self] at there
    cases there

def qosMapSample : QosMapState where
  portTree := (∅ : KeyTree ObjectId QosMapPort).put ⟨.port, 1⟩ ⟨fun _ => nullObjectId⟩
  mapTree := ∅

theorem qosMapSample_fresh : QosMapFresh qosMapSample := by
  refine ⟨rfl, ?_⟩
  intro portId port stored mapType
  simp only [qosMapSample, get_put, get_empty] at stored
  split at stored
  · cases Option.some.inj stored
    rfl
  · cases stored

/-- Two maps of one type, the second replacing the first on the port. -/
def qosMapSampleRun (npu : SaiStatus) : List QosMapCall :=
  [.create [.type .dscpToTcAndColor] ⟨true, .success, .success, .success, 1, true⟩,
    .create [.type .dscpToTcAndColor] ⟨true, .success, .success, .success, 2, true⟩,
    .onPortSet ⟨.port, 1⟩ ⟨.qosMaps, 1⟩ .dscpToTcAndColor .success .success,
    .onPortSet ⟨.port, 1⟩ ⟨.qosMaps, 2⟩ .dscpToTcAndColor npu .success]

theorem qosMapLinks_exact_sample :
    QosMapLinksExact ((qosMapSampleRun .success).foldl QosMapCall.step qosMapSample) := by
  refine (qosMapLinks_exact (Runs.Reach.run (.start qosMapSample_fresh) ?_)).1
  refine ⟨trivial, trivial, ?_, ?_, trivial⟩
  · intro port map _ found _ _ _
    cases found
    rfl
  · intro port map _ found _ _ _
    cases found
    rfl

/-- A replacement that the NPU refuses leaves the port with the id of a map
that does not list it and that can be removed. -/
theorem qosMapLinks_not_exact : ¬ ∀ s, Runs.Reach QosMapFresh
    (Runs.guarded (fun _ _ => True) QosMapCall.step) s → QosMapLinksExact s := by
  intro all
  let calls := qosMapSampleRun .failure ++ [.remove ⟨.qosMaps, 1⟩ .success]
  have links := all _ (Runs.Reach.run (.start qosMapSample_fresh)
    (Runs.allowedRun_of_forall (fun _ _ => trivial) _ calls))
  have broken : ∃ port, (calls.foldl QosMapCall.step qosMapSample).portTree.get ⟨.port, 1⟩ = some port ∧
      port.mapsId .dscpToTcAndColor = ⟨.qosMaps, 1⟩ ∧
      (calls.foldl QosMapCall.step qosMapSample).mapTree.get ⟨.qosMaps, 1⟩ = none :=
    ⟨_, rfl, by decide, by decide⟩
  obtain ⟨port, stored, named, freed⟩ := broken
  obtain ⟨map, found, _⟩ := links.live _ port .dscpToTcAndColor stored (by rw [named]; decide)
  rw [named, freed] at found
  cases found

end SaiCommon
