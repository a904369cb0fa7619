import SaiCommon.Qos.Maps

namespace SaiCommon

structure QosMapParams where
  tc : Nat
  dscp : Nat
  dot1p : Nat
  prio : Nat
  pg : Nat
  queueIndex : Nat
  color : Nat
deriving DecidableEq

structure QosMapEntry where
  key : QosMapParams
  value : QosMapParams
deriving DecidableEq

def QosMapEntry.zero : QosMapEntry := ⟨⟨0, 0, 0, 0, 0, 0, 0⟩, ⟨0, 0, 0, 0, 0, 0, 0⟩⟩

/-- `map_to_value.list` of a map node -/
abbrev QosMapTable : Type := List QosMapEntry

/-- The constants and answers that the maps take from outside of the repository. -/
structure QosMapPlatform where
  maxTc : Nat
  maxDot1p : Nat
  maxDscp : Nat
  maxPfcPri : Nat
  maxPacketColors : Nat
  /-- `SAI_QOS_MAX_QUEUE_IDX_SEPARATE` -/
  maxQueueIdx : Nat
  defaultTc : Nat
  defaultDot1p : Nat
  defaultDscp : Nat
  defaultQueueIndex : Nat
  defaultPg : Nat
  /-- `sai_switch_max_queues_get` -/
  maxQueues : Nat
  /-- `sai_switch_max_uc_queues_get` -/
  maxUcQueues : Nat
  /-- `sai_switch_num_pg_get` -/
  numPg : Nat
  /-- `sai_qos_maps_attr_value_validate` -/
  attrValueValidate : (dot1p tc color dscp : Nat) → SaiStatus
  /-- `is_map_supported` -/
  isMapSupported : QosMapType → Bool
  /-- `map_is_hw_object` -/
  mapIsHwObject : QosMapType → Bool
  /-- `sai_add_type_to_object`, and the type of such an object -/
  addTypeToObject : Nat → QosMapType → Nat
  typeOfObject : Nat → QosMapType
  typeOfObject_add : ∀ hwMapId mapType, typeOfObject (addTypeToObject hwMapId mapType) = mapType

namespace QosMapPlatform
variable (platform : QosMapPlatform)

/-- A `_list_update` function: every entry is checked and written where it belongs,
up to the first one that is not valid. -/
def listUpdate (check : QosMapEntry → SaiStatus) (index : QosMapEntry → Nat)
    (write : QosMapEntry → QosMapEntry → QosMapEntry) (table : QosMapTable) :
    List QosMapEntry → QosMapTable × SaiStatus
  | [] => (table, .success)
  | entry :: rest =>
    match check entry with
    | .success => listUpdate check index write (table.modify (index entry) (write entry)) rest
    | error => (table, error)

def dot1pToTcAndColorListUpdate : QosMapTable → List QosMapEntry → QosMapTable × SaiStatus :=
  listUpdate (fun e => platform.attrValueValidate e.key.dot1p e.value.tc e.value.color 0) (fun e => e.key.dot1p)
    fun e old => { key := { old.key with dot1p := e.key.dot1p }
                   value := { old.value with tc := e.value.tc, color := e.value.color } }

def dscpToTcAndColorListUpdate : QosMapTable → List QosMapEntry → QosMapTable × SaiStatus :=
  listUpdate (fun e => platform.attrValueValidate 0 e.value.tc e.value.color e.key.dscp) (fun e => e.key.dscp)
    fun e old => { key := { old.key with dscp := e.key.dscp }
                   value := { old.value with tc := e.value.tc, color := e.value.color } }

/-- A queue of the multicast queues goes to the second half of the table. -/
def queueSlot (maxHalf half queueIndex : Nat) : Nat × Nat :=
  if platform.maxUcQueues ≤ queueIndex then (maxHalf + half, queueIndex - platform.maxUcQueues) else
    (half, queueIndex)

def tcToQueueListUpdate : QosMapTable → List QosMapEntry → QosMapTable × SaiStatus :=
  listUpdate
    (fun e => match platform.attrValueValidate 0 e.key.tc 0 0 with
      | .success => if platform.maxQueues ≤ e.value.queueIndex then .invalidAttrValue 0 else .success
      | error => error)
    (fun e => (platform.queueSlot platform.maxTc e.key.tc e.value.queueIndex).1)
    fun e old => { key := { old.key with tc := e.key.tc }
                   value := { old.value with
                     queueIndex := (platform.queueSlot platform.maxTc e.key.tc e.value.queueIndex).2 } }

def mapsGetIndex (value tc : Nat) : Nat := value * platform.maxTc + tc

def tcAndColorToDot1pListUpdate : QosMapTable → List QosMapEntry → QosMapTable × SaiStatus :=
  listUpdate (fun e => platform.attrValueValidate e.value.dot1p e.key.tc e.key.color 0)
    (fun e => platform.mapsGetIndex e.key.color e.key.tc)
    fun e old => { key := { old.key with tc := e.key.tc, color := e.key.color }
                   value := { old.value with dot1p := e.value.dot1p } }

def tcAndColorToDscpListUpdate : QosMapTable → List QosMapEntry → QosMapTable × SaiStatus :=
  listUpdate (fun e => platform.attrValueValidate 0 e.key.tc e.key.color e.value.dscp)
    (fun e => platform.mapsGetIndex e.key.color e.key.tc)
    fun e old => { key := { old.key with tc := e.key.tc, color := e.key.color }
                   value := { old.value with dscp := e.value.dscp } }

def tcToPgListUpdate : QosMapTable → List QosMapEntry → QosMapTable × SaiStatus :=
  listUpdate
    (fun e => match platform.attrValueValidate 0 e.key.tc 0 0 with
      | .success => if platform.numPg ≤ e.value.pg then .invalidAttrValue 0 else .success
      | error => error)
    (fun e => e.key.tc)
    fun e old => { key := { old.key with tc := e.key.tc }, value := { old.value with pg := e.value.pg } }

/-- Unlike in the other tables a queue index equal to the maximum passes, and the
priority is not looked at. -/
def pfcPriToQueueListUpdate : QosMapTable → List QosMapEntry → QosMapTable × SaiStatus :=
  listUpdate (fun e => if platform.maxQueues < e.value.queueIndex then .invalidAttrValue 0 else .success)
    (fun e => (platform.queueSlot platform.maxPfcPri e.key.prio e.value.queueIndex).1)
    fun e old => { key := { old.key with prio := e.key.prio }
                   value := { old.value with
                     queueIndex := (platform.queueSlot platform.maxPfcPri e.key.prio e.value.queueIndex).2 } }

def dot1pToTcAndColorDefault : QosMapTable :=
  (List.range platform.maxDot1p).map fun dot1p =>
    { key := { QosMapEntry.zero.key with dot1p := dot1p }
      value := { QosMapEntry.zero.value with tc := platform.defaultTc } }

def dscpToTcAndColorDefault : QosMapTable :=
  (List.range platform.maxDscp).map fun dscp =>
    { key := { QosMapEntry.zero.key with dscp := dscp }
      value := { QosMapEntry.zero.value with tc := platform.defaultTc } }

/-- `sai_qos_map_tc_and_color_to_dot1p_default_set` and `_dscp_default_set`; the
entries stand by color, a color being its own index. -/
def tcAndColorDefault (value : QosMapParams) : QosMapTable :=
  (List.range (platform.maxTc * platform.maxPacketColors)).map fun index =>
    { key := { QosMapEntry.zero.key with tc := index % platform.maxTc, color := index / platform.maxTc },
      value := value }

def tcToQueueDefault : QosMapTable :=
  (List.range (platform.maxQueueIdx * platform.maxTc)).map fun index =>
    if index < 2 * platform.maxTc then
      { key := { QosMapEntry.zero.key with tc := index % platform.maxTc }
        value := { QosMapEntry.zero.value with queueIndex := platform.defaultQueueIndex } }
    else .zero

def tcToPgDefault : QosMapTable :=
  (List.range platform.maxTc).map fun tc =>
    { key := { QosMapEntry.zero.key with tc := tc }
      value := { QosMapEntry.zero.value with pg := platform.defaultPg } }

def pfcPriToQueueDefault : QosMapTable :=
  (List.range (platform.maxQueueIdx * platform.maxPfcPri)).map fun index =>
    if index < 2 * platform.maxPfcPri then
      { key := { QosMapEntry.zero.key with prio := index % platform.maxPfcPri }
        value := { QosMapEntry.zero.value with queueIndex := platform.maxQueues } }
    else .zero

/-- The table that `sai_qos_map_list_default_set` allocates for a type. -/
def defaultTable : QosMapType → QosMapTable
  | .dot1pToTcAndColor => platform.dot1pToTcAndColorDefault
  | .dscpToTcAndColor => platform.dscpToTcAndColorDefault
  | .tcToQueue => platform.tcToQueueDefault
  | .tcToPriorityGroup => platform.tcToPgDefault
  | .pfcPriorityToQueue => platform.pfcPriToQueueDefault
  | .tcAndColorToDot1p => platform.tcAndColorDefault { QosMapEntry.zero.value with dot1p := platform.defaultDot1p }
  | .tcAndColorToDscp => platform.tcAndColorDefault { QosMapEntry.zero.value with dscp := platform.defaultDscp }
  | .other _ => []
  | .invalid => []

/-- The switch of `sai_qos_map_list_attr_set` on a table that is allocated. -/
def tableUpdate (mapType : QosMapType) (table : QosMapTable) (entries : List QosMapEntry) : QosMapTable × SaiStatus :=
  if platform.isMapSupported mapType = false then (table, .notSupported)
  else match mapType with
    | .dot1pToTcAndColor => platform.dot1pToTcAndColorListUpdate table entries
    | .dscpToTcAndColor => platform.dscpToTcAndColorListUpdate table entries
    | .tcToQueue => platform.tcToQueueListUpdate table entries
    | .tcToPriorityGroup => platform.tcToPgListUpdate table entries
    | .pfcPriorityToQueue => platform.pfcPriToQueueListUpdate table entries
    | .tcAndColorToDot1p => platform.tcAndColorToDot1pListUpdate table entries
    | .tcAndColorToDscp => platform.tcAndColorToDscpListUpdate table entries
    | .other _ => (table, .notSupported)
    | .invalid => (table, .notSupported)

end QosMapPlatform

/-- A map attribute with the table that it carries. -/
inductive QosMapTableAttr
  | type (mapType : QosMapType)
  | mapToValueList (entries : List QosMapEntry)
  | unknown
deriving DecidableEq

/-- What `port_map_set` has told the NPU: the map of each port and type, and the
table of a map that is no hardware object as it was then. -/
structure QosMapNpu where
  mapId : QosMapGlue → ObjectId
  copy : QosMapGlue → Option QosMapTable

/-- The maps, the table of each of them, and the NPU. -/
structure QosMapHw where
  maps : QosMapState
  tables : KeyTree ObjectId QosMapTable
  npu : QosMapNpu

/-- The other one of the two ingress maps, which the NPU removes together. -/
def ingressPair : QosMapType → Option QosMapType
  | .dot1pToTcAndColor => some .dscpToTcAndColor
  | .dscpToTcAndColor => some .dot1pToTcAndColor
  | _ => none

namespace QosMapNpu
variable (npu : QosMapNpu)

def set (glue : QosMapGlue) (mapId : ObjectId) (copy : Option QosMapTable) : QosMapNpu where
  mapId := Function.update npu.mapId glue mapId
  copy := Function.update npu.copy glue copy

/-- What `port_map_set(port, map, type, false)` clears. -/
def clears (glue other : QosMapGlue) : Bool :=
  other.portId = glue.portId && (other.mapType = glue.mapType || ingressPair glue.mapType = some other.mapType)

def clear (glue : QosMapGlue) : QosMapNpu where
  mapId other := if clears glue other then nullObjectId else npu.mapId other
  copy other := if clears glue other then none else npu.copy other

end QosMapNpu

/-- What is outside of a create; `listAllocOk` is the allocation of the table. -/
structure QosMapTableCreateEnv where
  allocOk : Bool
  listAllocOk : Bool
  vendor : SaiStatus
  npu : SaiStatus
  hwMapId : Nat
  treeOk : Bool

section Calls
variable (platform : QosMapPlatform)

def qosMapTypeOf : List QosMapTableAttr → QosMapType
  | [] => .other 0
  | .type mapType :: _ => mapType
  | _ :: rest => qosMapTypeOf rest

/-- How a table is set up in a create: `sai_qos_map_list_default_set`, then the list. -/
def tableSetUp (mapType : QosMapType) (listAllocOk : Bool) (entries : List QosMapEntry) : SaiStatus :=
  if platform.isMapSupported mapType = false then .notSupported
  else if listAllocOk = false then .noMemory
  else (platform.tableUpdate mapType (platform.defaultTable mapType) entries).2

def QosMapTableAttr.atCreate (mapType : QosMapType) (listAllocOk : Bool) : QosMapTableAttr → QosMapAttr
  | .type mapType => .type mapType
  | .mapToValueList entries => .mapToValueList (tableSetUp platform mapType listAllocOk entries)
  | .unknown => .unknown

/-- Every list of a create starts from the default table. -/
def qosMapCreateTable (mapType : QosMapType) (attrs : List QosMapTableAttr) : QosMapTable :=
  attrs.foldl (fun table attr =>
    match attr with
    | .mapToValueList entries => (platform.tableUpdate mapType (platform.defaultTable mapType) entries).1
    | _ => table) (platform.defaultTable mapType)

def qosMapTableCreate (s : QosMapHw) (attrs : List QosMapTableAttr) (env : QosMapTableCreateEnv) :
    QosMapHw × SaiStatus :=
  let mapType := qosMapTypeOf attrs
  let npuObjectId := platform.addTypeToObject env.hwMapId mapType
  match qosMapCreate s.maps (attrs.map (QosMapTableAttr.atCreate platform mapType env.listAllocOk))
      ⟨env.allocOk, env.vendor, tableSetUp platform mapType env.listAllocOk [], env.npu, npuObjectId,
        env.treeOk⟩ with
  | (maps, .success) =>
    ({ s with
        maps := maps
        tables := s.tables.put ⟨.qosMaps, npuObjectId⟩ (qosMapCreateTable platform mapType attrs) }, .success)
  | (maps, error) => ({ s with maps := maps }, error)

def qosMapTableRemove (s : QosMapHw) (mapId : ObjectId) (npu : SaiStatus) : QosMapHw × SaiStatus :=
  match qosMapRemove s.maps mapId npu with
  | (maps, .success) => ({ s with maps := maps, tables := s.tables.del mapId }, .success)
  | (maps, error) => ({ s with maps := maps }, error)

/-- What the NPU copies of a map that is put on a port. -/
def QosMapHw.copyOf (s : QosMapHw) (mapId : ObjectId) : Option QosMapTable :=
  match s.maps.mapTree.get mapId with
  | some map => if platform.mapIsHwObject map.mapType then none else s.tables.get mapId
  | none => none

/-- The attribute of a set; the list is written into the stored table itself, which
the copied node shares. -/
def QosMapTableAttr.atSet (mapType : QosMapType) (table : QosMapTable) : QosMapTableAttr → QosMapAttr
  | .type mapType => .type mapType
  | .mapToValueList entries => .mapToValueList (platform.tableUpdate mapType table entries).2
  | .unknown => .unknown

def qosMapWritten (mapType : QosMapType) (table : QosMapTable) (vendor : SaiStatus) : QosMapTableAttr → QosMapTable
  | .mapToValueList entries => if vendor = .success then (platform.tableUpdate mapType table entries).1 else table
  | _ => table

/-- `sai_qos_map_port_list_update`: up to the first port that the NPU refuses. -/
def qosMapPortListUpdate (mapId : ObjectId) (mapType : QosMapType) (copy : Option QosMapTable)
    (push : ObjectId → SaiStatus) : List QosMapGlue → QosMapNpu → QosMapNpu
  | [], npu => npu
  | glue :: rest, npu =>
    match push glue.portId with
    | .success => qosMapPortListUpdate mapId mapType copy push rest (npu.set ⟨glue.portId, mapType⟩ mapId copy)
    | _ => npu

/-- `sai_qos_map_attribute_set`; `push` answers `port_map_set` of each port of a map
that is no hardware object, and is looked at by nobody. -/
def qosMapTableAttributeSet (s : QosMapHw) (mapId : ObjectId) (attr : QosMapTableAttr) (vendor npu : SaiStatus)
    (push : ObjectId → SaiStatus) : QosMapHw × SaiStatus :=
  match s.maps.mapTree.get mapId, s.tables.get mapId with
  | some map, some table =>
    let ended := (qosMapAttributeSet s.maps mapId (attr.atSet platform map.mapType table) vendor npu).2
    if mapId.objType ≠ .qosMaps then (s, ended)
    else
      let written := qosMapWritten platform map.mapType table vendor attr
      let set := { s with tables := s.tables.put mapId written }
      if ended = .success ∧ platform.mapIsHwObject map.mapType = false then
        ({ set with npu := qosMapPortListUpdate mapId map.mapType (some written) push map.portList s.npu }, ended)
      else (set, ended)
  | _, _ => (s, (qosMapAttributeSet s.maps mapId .unknown vendor npu).2)

def QosMapHw.npuReapply (s : QosMapHw) (npu : QosMapNpu) (portId : ObjectId) (port : QosMapPort)
    (mapType : QosMapType) (reapply : SaiStatus) : QosMapNpu :=
  match ingressPair mapType with
  | none => npu
  | some other =>
    if port.mapsId other ≠ nullObjectId ∧ reapply = .success then
      npu.set ⟨portId, other⟩ (port.mapsId other) (s.copyOf platform (port.mapsId other))
    else npu

/-- What `sai_qos_map_on_port_set` tells the NPU. -/
def QosMapHw.npuOnPortSet (s : QosMapHw) (portId mapId : ObjectId) (mapType : QosMapType) (npu reapply : SaiStatus) :
    QosMapNpu :=
  if mapType = .invalid then s.npu
  else match s.maps.portTree.get portId with
    | none => s.npu
    | some port =>
      if mapId = nullObjectId then
        if s.maps.mapTree.get (port.mapsId mapType) ≠ none ∧ npu = .success then
          s.npuReapply platform (s.npu.clear ⟨portId, mapType⟩) portId (port.setMapId mapType nullObjectId)
          mapType reapply
        else s.npu
      else if port.mapsId mapType = mapId then s.npu
      else if s.maps.mapTree.get mapId ≠ none ∧ npu = .success then
        s.npu.set ⟨portId, mapType⟩ mapId (s.copyOf platform mapId)
      else s.npu

def qosMapHwOnPortSet (s : QosMapHw) (portId mapId : ObjectId) (mapType : QosMapType) (npu reapply : SaiStatus) :
    QosMapHw × SaiStatus :=
  let ended := qosMapOnPortSet s.maps portId mapId mapType npu reapply
  ({ s with maps := ended.1, npu := s.npuOnPortSet platform portId mapId mapType npu reapply }, ended.2)

end Calls

inductive QosMapHwCall
  | create (attrs : List QosMapTableAttr) (env : QosMapTableCreateEnv)
  | remove (mapId : ObjectId) (npu : SaiStatus)
  | attributeSet (mapId : ObjectId) (attr : QosMapTableAttr) (vendor npu : SaiStatus) (push : ObjectId → SaiStatus)
  | onPortSet (portId mapId : ObjectId) (mapType : QosMapType) (npu reapply : SaiStatus)

def QosMapHw.call (platform : QosMapPlatform) (s : QosMapHw) : QosMapHwCall → QosMapHw × SaiStatus
  | .create attrs env => qosMapTableCreate platform s attrs env
  | .remove mapId npu => qosMapTableRemove s mapId npu
  | .attributeSet mapId attr vendor npu push => qosMapTableAttributeSet platform s mapId attr vendor npu push
  | .onPortSet portId mapId mapType npu reapply => qosMapHwOnPortSet platform s portId mapId mapType npu reapply

end SaiCommon
