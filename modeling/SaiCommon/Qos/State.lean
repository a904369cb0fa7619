import SaiCommon.Base
import SaiCommon.Lib.KeyTree

namespace SaiCommon

inductive BufferPoolType
  | ingress
  | egress
  | other (value : Int)
deriving DecidableEq

inductive BufferThresholdMode
  | static
  | dynamic
  | other (value : Int)
deriving DecidableEq

/-- A buffer pool node. Zeroed memory reads as an ingress pool. -/
structure BufferPool where
  poolType : BufferPoolType
  size : BitVec 32
  sharedSize : BitVec 32
  thresholdMode : BufferThresholdMode
  numRef : Nat
  bufferProfileList : List ObjectId
deriving DecidableEq

structure BufferProfile where
  bufferPoolId : ObjectId
  size : BitVec 32
  profileThEnable : Bool
  thresholdMode : BufferThresholdMode
  dynamicTh : BitVec 8
  staticTh : BitVec 32
  xoffTh : BitVec 32
  xonTh : BitVec 32
  numRef : Nat
  portList : List ObjectId
  queueList : List ObjectId
  pgList : List ObjectId
deriving DecidableEq

/-- A port with its queues and, each with its level, its scheduler groups. -/
structure QosPort where
  schedulerId : ObjectId
  bufferProfileId : ObjectId
  queueList : List ObjectId
  schedGroupList : List (BitVec 32 × ObjectId)
deriving DecidableEq

structure PriorityGroup where
  portId : ObjectId
  bufferProfileId : ObjectId
deriving DecidableEq

inductive QueueType
  | all
  | unicast
  | multicast
deriving DecidableEq

structure Queue where
  portId : ObjectId
  queueType : QueueType
  wredId : ObjectId
  bufferProfileId : ObjectId
  parentSchedGroupId : ObjectId
  schedulerId : ObjectId
deriving DecidableEq

/-- `hqos_info` of a scheduler group: its parent, its two lists of linked
children and their count. -/
structure HierarchyInfo where
  parentSchedGroupId : ObjectId
  childCount : Int
  childSchedGroupList : List ObjectId
  childQueueList : List ObjectId
deriving DecidableEq

structure SchedGroup where
  portId : ObjectId
  hierarchyLevel : BitVec 32
  maxChilds : BitVec 32
  schedulerId : ObjectId
  hqosInfo : HierarchyInfo
deriving DecidableEq

inductive SchedulingAlgo
  | strict
  | wrr
  | dwrr
  | other (value : Int)
deriving DecidableEq

structure SchedulerParams where
  schedAlgo : SchedulingAlgo
  weight : BitVec 8
  shapeType : Int
  minBandwidthRate : BitVec 64
  minBandwidthBurst : BitVec 64
  maxBandwidthRate : BitVec 64
  maxBandwidthBurst : BitVec 64
deriving DecidableEq

structure Scheduler where
  params : SchedulerParams
  portList : List ObjectId
  queueList : List ObjectId
  schedGroupList : List ObjectId
deriving DecidableEq

structure QosState where
  portTree : KeyTree ObjectId QosPort
  queueTree : KeyTree ObjectId Queue
  pgTree : KeyTree ObjectId PriorityGroup
  schedGroupTree : KeyTree ObjectId SchedGroup
  schedulerTree : KeyTree ObjectId Scheduler
  bufferPoolTree : KeyTree ObjectId BufferPool
  bufferProfileTree : KeyTree ObjectId BufferProfile
  defaultSchedId : ObjectId
deriving DecidableEq

/-- What the world outside answers to a create: the vendor's attribute check,
the allocation, the NPU with the number it hands out, and the tree. -/
structure CreateEnv where
  vendor : SaiStatus
  allocOk : Bool
  npu : SaiStatus
  npuObjectId : Nat
  treeOk : Bool
deriving DecidableEq

end SaiCommon
