import SaiCommon.Qos.BufferPoolCount
import SaiCommon.Qos.WredAttachment
import SaiCommon.Acl.PolicerLinks
import SaiCommon.Samplepacket.SessionPorts
import SaiCommon.Acl.RuleOrder
import SaiCommon.Acl.SampleRuns
import SaiCommon.Locks.Runs
import SaiCommon.Qos.PortListsRuns
import SaiCommon.Qos.ClientRuns
import SaiCommon.Fib.LagRifRuns
import SaiCommon.Fib.RifAttributes
import SaiCommon.Fib.PortListUndo
import SaiCommon.Qos.BufferUsers
import SaiCommon.Qos.MapKeyRuns
import SaiCommon.Fib.FdbBatch
import SaiCommon.Fib.CreateTraces
import SaiCommon.Switching.VlanPortEvents
import SaiCommon.Switching.VlanStores
import SaiCommon.Qos.SchedulerInSync
import SaiCommon.Switching.LagCreate
import SaiCommon.Switching.LagMemberRequests
import SaiCommon.Switching.LagSetExact
import SaiCommon.Qos.BufferAdmission
import SaiCommon.Hostif.TrapGroupSet
import SaiCommon.Acl.CounterRead
import SaiCommon.Acl.TableIds
import SaiCommon.Sets.SessionSets
import SaiCommon.Qos.HierarchyConfig
import SaiCommon.Acl.RuleMemoryRuns
import SaiCommon.Switching.SwitchProfile
import SaiCommon.Port.BreakoutEvents
import SaiCommon.Hostif.TrapSets
import SaiCommon.Sets.AttrGets
import SaiCommon.Switching.FdbEntries
