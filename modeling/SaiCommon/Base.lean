import Mathlib.Data.Finmap

namespace SaiCommon

/-- Status codes; an indexed code carries the position of the attribute it is about. -/
inductive SaiStatus
  | success
  | failure
  | notSupported
  | noMemory
  | insufficientResources
  | invalidParameter
  | itemAlreadyExists
  | itemNotFound
  | mandatoryAttributeMissing
  | tableFull
  | objectInUse
  | invalidObjectType
  | invalidObjectId
  | invalidVlanId
  | addrNotFound
  | invalidPortMember
  | notImplemented
  | invalidAttribute (index : Nat)
  | invalidAttrValue (index : Nat)
  | attrNotImplemented (index : Nat)
  | unknownAttribute (index : Nat)
  | attrNotSupported (index : Nat)
  | other (code : Int)
deriving DecidableEq

inductive ObjectType
  | null
  | port
  | lag
  | virtualRouter
  | nextHop
  | nextHopGroup
  | routerInterface
  | vlan
  | queue
  | schedulerGroup
  | scheduler
  | priorityGroup
  | bufferPool
  | bufferProfile
  | wred
  | switch
  | qosMaps
  | policer
  | lagMember
  | stpInstance
  | aclTable
  | aclTableGroup
  | aclEntry
  | aclCounter
  | udfGroup
  | samplePacket
  | mirrorSession
  | udf
  | udfMatch
  | hash
  | trapGroup
deriving DecidableEq

/-- An object id is its type together with the number the NPU handed out. -/
structure ObjectId where
  objType : ObjectType
  npuObjectId : Nat
deriving DecidableEq

/-- `SAI_NULL_OBJECT_ID` -/
def nullObjectId : ObjectId := ⟨.null, 0⟩

theorem ne_nullObjectId {id : ObjectId} (kind : id.objType ≠ .null) : id ≠ nullObjectId :=
  fun same => kind (congrArg ObjectId.objType same)

def ObjectId.nonNull (id : ObjectId) : Option ObjectId := if id = nullObjectId then none else some id

theorem ObjectId.nonNull_eq_some {id k : ObjectId} : id.nonNull = some k ↔ id = k ∧ k ≠ nullObjectId := by
  unfold ObjectId.nonNull
  split
  · rename_i null
    rw [null]
    constructor
    · intro none
      cases none
    · intro both
      exact absurd both.1.symm both.2
  · rename_i notNull
    rw [Option.some.injEq]
    constructor
    · intro same
      exact ⟨same, same ▸ notNull⟩
    · intro both
      exact both.1

theorem nonNull_of_ne {id : ObjectId} (notNull : id ≠ nullObjectId) : id.nonNull = some id :=
  ObjectId.nonNull_eq_some.mpr ⟨rfl, notNull⟩

theorem nonNull_null : nullObjectId.nonNull = none := if_pos rfl

end SaiCommon
