import Mathlib.Logic.Function.Basic
import SaiCommon.Base
import SaiCommon.Lib.KeyTree

namespace SaiCommon

/-- The map types; `other` are the types of the header that no map can have. -/
inductive QosMapType
  | dot1pToTcAndColor
  | dscpToTcAndColor
  | tcToQueue
  | tcToPriorityGroup
  | pfcPriorityToQueue
  | tcAndColorToDot1p
  | tcAndColorToDscp
  | other (value : Nat)
  | invalid
deriving DecidableEq

/-- `maps_dll_glue` of a port for one type. -/
structure QosMapGlue where
  portId : ObjectId
  mapType : QosMapType
deriving DecidableEq

/-- A map node with the ports linked to it, each through its glue for a type. -/
structure QosMap where
  mapType : QosMapType
  portList : List QosMapGlue
deriving DecidableEq

/-- `maps_id` of a port: the map of each type, or NULL. -/
structure QosMapPort where
  mapsId : QosMapType → ObjectId

structure QosMapState where
  portTree : KeyTree ObjectId QosMapPort
  mapTree : KeyTree ObjectId QosMap

/-- A map attribute. The table of a map plays no part in its links: a list
attribute carries the status its update of the table ends with. -/
inductive QosMapAttr
  | type (mapType : QosMapType)
  | mapToValueList (update : SaiStatus)
  | unknown
deriving DecidableEq

def qosMapTypeAttrSet : QosMapType → Except SaiStatus QosMapType
  | .other _ => .error .notSupported
  | .invalid => .error .notSupported
  | mapType => .ok mapType

/-- `sai_get_indexed_ret_val`: the codes for attribute 0 move to the attribute
the failure is about. -/
def indexedRetVal (status : SaiStatus) (index : Nat) : SaiStatus :=
  match status with
  | .invalidAttribute _ => .invalidAttribute index
  | .invalidAttrValue _ => .invalidAttrValue index
  | .attrNotImplemented _ => .attrNotImplemented index
  | .unknownAttribute _ => .unknownAttribute index
  | .attrNotSupported _ => .attrNotSupported index
  | status => status

theorem indexedRetVal_success {status : SaiStatus} {index : Nat} :
    indexedRetVal status index = .success ↔ status = .success := by
  cases status <;> simp [indexedRetVal]

/-- `sai_qos_map_list_attr_set` and `sai_qos_map_list_default_set`: a table
exists for the types that a map can have only. -/
def qosMapListSet (mapType : QosMapType) (update : SaiStatus) : SaiStatus :=
  match mapType with
  | .other _ => .notSupported
  | .invalid => .notSupported
  | _ => update

/-- The first loop of `sai_qos_parse_update_attributes`: the first type in the
list is the type of the map. -/
def qosMapTypeLoop (index : Nat) (mapType : QosMapType) : List QosMapAttr → Except SaiStatus QosMapType
  | [] => .ok mapType
  | .type value :: _ =>
    match qosMapTypeAttrSet value with
    | .ok next => .ok next
    | .error status => .error (indexedRetVal status index)
  | _ :: rest => qosMapTypeLoop (index + 1) mapType rest

def qosMapValueLoop (index : Nat) (mapType : QosMapType) : List QosMapAttr → SaiStatus
  | [] => .success
  | .type _ :: rest => qosMapValueLoop (index + 1) mapType rest
  | .mapToValueList update :: rest =>
    match qosMapListSet mapType update with
    | .success => qosMapValueLoop (index + 1) mapType rest
    | error => indexedRetVal error index
  | .unknown :: _ => .unknownAttribute index

def qosParseUpdateAttributes (mapType : QosMapType) (attrs : List QosMapAttr) (vendor : SaiStatus) :
    Except SaiStatus QosMapType :=
  match vendor with
  | .success =>
    match qosMapTypeLoop 0 mapType attrs with
    | .error status => .error status
    | .ok next =>
      match qosMapValueLoop 0 next attrs with
      | .success => .ok next
      | error => .error error
  | error => .error error

def QosMapAttr.isValueList : QosMapAttr → Bool
  | .mapToValueList _ => true
  | _ => false

/-- What the world outside answers to a map creation. The number of the new id
already has the type of the map appended. -/
structure QosMapCreateEnv where
  allocOk : Bool
  vendor : SaiStatus
  defaultList : SaiStatus
  npu : SaiStatus
  npuObjectId : Nat
  treeOk : Bool
deriving DecidableEq

/-- The type that a zeroed node has is none that a map can have. -/
def qosMapCreate (s : QosMapState) (attrs : List QosMapAttr) (env : QosMapCreateEnv) : QosMapState × SaiStatus :=
  if env.allocOk = false then (s, .noMemory)
  else match qosParseUpdateAttributes (.other 0) attrs env.vendor with
    | .error status => (s, status)
    | .ok mapType =>
      let defaultList := if attrs.any QosMapAttr.isValueList then .success
        else qosMapListSet mapType env.defaultList
      match defaultList with
      | .success =>
        match env.npu with
        | .success =>
          let mapId : ObjectId := ⟨.qosMaps, env.npuObjectId⟩
          match env.treeOk, s.mapTree.get mapId with
          | true, none => ({ s with mapTree := s.mapTree.put mapId ⟨mapType, []⟩ }, .success)
          | _, _ => (s, .failure)
        | error => (s, error)
      | error => (s, error)

def qosMapRemove (s : QosMapState) (mapId : ObjectId) (npu : SaiStatus) : QosMapState × SaiStatus :=
  if mapId.objType ≠ .qosMaps then (s, .invalidObjectType)
  else match s.mapTree.get mapId with
    | none => (s, .invalidObjectId)
    | some map =>
      if map.portList ≠ [] then (s, .objectInUse)
      else match npu with
        | .success => ({ s with mapTree := s.mapTree.del mapId }, .success)
        | error => (s, error)

/-- The attribute is parsed into a copy of the node, of which only the table is
taken over. -/
def qosMapAttributeSet (s : QosMapState) (mapId : ObjectId) (attr : QosMapAttr) (vendor npu : SaiStatus) :
    QosMapState × SaiStatus :=
  if mapId.objType ≠ .qosMaps then (s, .invalidObjectType)
  else match s.mapTree.get mapId with
    | none => (s, .invalidObjectId)
    | some map =>
      match qosParseUpdateAttributes map.mapType [attr] vendor with
      | .error status => (s, status)
      | .ok _ => (s, npu)

def QosMap.unlink (map : QosMap) (glue : QosMapGlue) : QosMap :=
  { map with portList := map.portList.erase glue }

def QosMap.link (map : QosMap) (glue : QosMapGlue) : QosMap :=
  { map with portList := map.portList ++ [glue] }

def QosMapPort.setMapId (port : QosMapPort) (mapType : QosMapType) (mapId : ObjectId) : QosMapPort :=
  { port with mapsId := Function.update port.mapsId mapType mapId }

/-- The status of applying the other ingress map again: the NPU removes both
when one of them is removed. -/
def qosMapUpdateIngressMaps (port : QosMapPort) (mapType : QosMapType) (reapply : SaiStatus) : SaiStatus :=
  match mapType with
  | .dot1pToTcAndColor => if port.mapsId .dscpToTcAndColor ≠ nullObjectId then reapply else .success
  | .dscpToTcAndColor => if port.mapsId .dot1pToTcAndColor ≠ nullObjectId then reapply else .success
  | _ => .success

def qosMapPortRemove (s : QosMapState) (portId : ObjectId) (port : QosMapPort) (mapType : QosMapType)
    (npu reapply : SaiStatus) : QosMapState × SaiStatus :=
  let mapId := port.mapsId mapType
  match s.mapTree.get mapId with
  | none => (s, .invalidObjectId)
  | some _ =>
    match npu with
    | .success =>
      let next := port.setMapId mapType nullObjectId
      ({ s with
        portTree := s.portTree.put portId next
        mapTree := s.mapTree.modify mapId fun map => map.unlink ⟨portId, mapType⟩ },
        qosMapUpdateIngressMaps next mapType reapply)
    | error => (s, error)

/-- The glue leaves the old map before the NPU is asked; a refusal leaves the
port with the old id and without a link. -/
def qosMapPortAdd (s : QosMapState) (portId : ObjectId) (port : QosMapPort) (mapId : ObjectId)
    (mapType : QosMapType) (npu : SaiStatus) : QosMapState × SaiStatus :=
  match s.mapTree.get mapId with
  | none => (s, .invalidObjectId)
  | some _ =>
    let oldMapId := port.mapsId mapType
    let released := if oldMapId ≠ nullObjectId
      then s.mapTree.modify oldMapId fun map => map.unlink ⟨portId, mapType⟩
      else s.mapTree
    match npu with
    | .success =>
      ({ s with
        portTree := s.portTree.put portId (port.setMapId mapType mapId)
        mapTree := released.modify mapId fun map => map.link ⟨portId, mapType⟩ }, .success)
    | error => ({ s with mapTree := released }, error)

def qosMapOnPortSet (s : QosMapState) (portId mapId : ObjectId) (mapType : QosMapType)
    (npu reapply : SaiStatus) : QosMapState × SaiStatus :=
  if mapType = .invalid then (s, .invalidAttribute 0)
  else match s.portTree.get portId with
    | none => (s, .invalidObjectId)
    | some port =>
      if mapId = nullObjectId then qosMapPortRemove s portId port mapType npu reapply
      else if port.mapsId mapType = mapId then (s, .itemAlreadyExists)
      else qosMapPortAdd s portId port mapId mapType npu

inductive QosMapCall
  | create (attrs : List QosMapAttr) (env : QosMapCreateEnv)
  | remove (mapId : ObjectId) (npu : SaiStatus)
  | attributeSet (mapId : ObjectId) (attr : QosMapAttr) (vendor npu : SaiStatus)
  | onPortSet (portId mapId : ObjectId) (mapType : QosMapType) (npu reapply : SaiStatus)

def QosMapCall.run (s : QosMapState) : QosMapCall → QosMapState × SaiStatus
  | .create attrs env => qosMapCreate s attrs env
  | .remove mapId npu => qosMapRemove s mapId npu
  | .attributeSet mapId attr vendor npu => qosMapAttributeSet s mapId attr vendor npu
  | .onPortSet portId mapId mapType npu reapply => qosMapOnPortSet s portId mapId mapType npu reapply

def QosMapCall.step (s : QosMapState) (call : QosMapCall) : QosMapState := (call.run s).1

end SaiCommon
