import VirtualFactory.Foundation.OrderedMap
import VirtualFactory.Foundation.Separator
import VirtualFactory.Foundation.Table
import VirtualFactory.Foundation.Machine
import VirtualFactory.Foundation.Loops
import VirtualFactory.Foundation.Replace
import VirtualFactory.Foundation.BinaryFloat
import VirtualFactory.Equipment.Equipment
import VirtualFactory.Industrial.ProtocolAdapter
import VirtualFactory.Industrial.Modbus
import VirtualFactory.Industrial.OpcUa
import VirtualFactory.Industrial.Rest
import VirtualFactory.Industrial.EtherNetIp
import VirtualFactory.Foundation.Mailbox
import VirtualFactory.Industrial.Mqtt.Session
import VirtualFactory.Industrial.Mqtt.Adapter
import VirtualFactory.Industrial.ProtocolDriver
import VirtualFactory.Industrial.Fieldbus
import VirtualFactory.Industrial.Mock
import VirtualFactory.Icp.LiveStateCache
import VirtualFactory.Icp.AdapterManager
import VirtualFactory.Icp.PollScheduler
import VirtualFactory.Icp.PollCycle
import VirtualFactory.Icp.Runtime
import VirtualFactory.Foundation.Transitions
import VirtualFactory.Industrial.Operations
import VirtualFactory.Industrial.Lifecycle
import VirtualFactory.Industrial.AdapterSum
import VirtualFactory.Icp.AdapterFactory
import VirtualFactory.Icp.EquipmentIds
import VirtualFactory.Icp.PollOrder
import VirtualFactory.Industrial.Mqtt.ClientIds
import VirtualFactory.Icp.Freshness
import VirtualFactory.Industrial.Mqtt.Bindings
import VirtualFactory.Industrial.Mqtt.Delivery
import VirtualFactory.Industrial.Mqtt.LatestValues
import VirtualFactory.Foundation.TableRelation
import VirtualFactory.Foundation.Unwinding
import VirtualFactory.Industrial.Footprint
import VirtualFactory.Industrial.Mqtt.Footprint
import VirtualFactory.Icp.Zones
import VirtualFactory.Icp.TwoRuns
import VirtualFactory.Icp.AdapterKinds
import VirtualFactory.Icp.FaultIsolation
import VirtualFactory.Icp.FailedConnect
import VirtualFactory.Icp.SchedulerLifecycle
import VirtualFactory.Industrial.SharedDecoding
import VirtualFactory.Icp.SchedulerCycles
import VirtualFactory.Icp.CacheConsistency
import VirtualFactory.Industrial.Exposure
import VirtualFactory.Icp.LiveLookups
import VirtualFactory.Icp.UniqueIds
import VirtualFactory.Industrial.PollExactness
import VirtualFactory.Industrial.Mqtt.Routing
import VirtualFactory.Industrial.Mqtt.Window
import VirtualFactory.Foundation.GeneralFormat
import VirtualFactory.Foundation.FloatValue
import VirtualFactory.Industrial.CommandText
import VirtualFactory.Industrial.MappedTags
import VirtualFactory.Industrial.Setpoints
import VirtualFactory.Industrial.Sensing
import VirtualFactory.Icp.LastKnown
import VirtualFactory.Foundation.Replacement
import VirtualFactory.Industrial.Mqtt.Redaction
import VirtualFactory.Industrial.Substitution
import VirtualFactory.Industrial.RestUrl
import VirtualFactory.Icp.CacheUpdate
import VirtualFactory.Industrial.Mqtt.SessionCalls
import VirtualFactory.Industrial.Mqtt.Subscriptions
import VirtualFactory.Industrial.TagKeys
import VirtualFactory.Foundation.Ledger
import VirtualFactory.Industrial.TagUses
import VirtualFactory.Industrial.OwnTags
import VirtualFactory.Industrial.TagHandles
import VirtualFactory.Equipment.Conveyor
import VirtualFactory.Industrial.CommandNames
import VirtualFactory.Foundation.FloatNearest
import VirtualFactory.Foundation.SubjectSequence
import VirtualFactory.Industrial.Mqtt.NumberText
import VirtualFactory.Foundation.Script
import VirtualFactory.Industrial.ProtocolWire
import VirtualFactory.Industrial.Actuation
import VirtualFactory.Industrial.Requests.EtherNetIp
import VirtualFactory.Industrial.Requests.Modbus
import VirtualFactory.Industrial.Requests.OpcUa
import VirtualFactory.Industrial.Requests.Rest
import VirtualFactory.Icp.CommandWrites
import VirtualFactory.Industrial.Traffic
import VirtualFactory.Foundation.Weaving
import VirtualFactory.Icp.Deployment
import VirtualFactory.Icp.OutsideActions
import VirtualFactory.Icp.ClientThreads
import VirtualFactory.Icp.Linearization
import VirtualFactory.Icp.Completion
import VirtualFactory.Icp.InterleavedRouting
import VirtualFactory.Foundation.Usage
import VirtualFactory.Industrial.LibraryUse
import VirtualFactory.Industrial.Usage.Modbus
import VirtualFactory.Industrial.ProperUse
import VirtualFactory.Industrial.Mqtt.Latency
import VirtualFactory.Industrial.Feedback
import VirtualFactory.Industrial.Feedback.Modbus
import VirtualFactory.Industrial.Feedback.OpcUa
import VirtualFactory.Industrial.ReadBack
import VirtualFactory.Industrial.Mqtt.Lifecycle
import VirtualFactory.Foundation.FloatArithmetic
import VirtualFactory.Gazebo.ConveyorSystem
import VirtualFactory.Gazebo.Carriage
import VirtualFactory.Industrial.Answers
import VirtualFactory.Industrial.Answers.Modbus
import VirtualFactory.Industrial.TagAccesses
