import RoboticCharacter.LittleEndian
import RoboticCharacter.Machine
import RoboticCharacter.ProtocolBytes
import RoboticCharacter.ProtocolChecksum
import RoboticCharacter.ProtocolFrame
import RoboticCharacter.FirmwareFrame
import RoboticCharacter.FirmwareRuntime
import RoboticCharacter.FirmwareDispatch
import RoboticCharacter.FirmwareLatch
import RoboticCharacter.WrappingClock
import RoboticCharacter.FirmwareWatchdog
import RoboticCharacter.FirmwareReplay
import RoboticCharacter.SafetyModels
import RoboticCharacter.SafetyEligibility
import RoboticCharacter.SafetyDynamics
import RoboticCharacter.SafetyLifecycle
import RoboticCharacter.SafetySupervisor
import RoboticCharacter.SafetyAuthorization
import RoboticCharacter.SafetyLatch
import RoboticCharacter.Fallible
import RoboticCharacter.ProtocolMessages
import RoboticCharacter.ProtocolMotion
import RoboticCharacter.PythonDecimal
import RoboticCharacter.GatewayCore
import RoboticCharacter.GatewayAuthorization
import RoboticCharacter.ProtocolStream
import RoboticCharacter.ProtocolCleanStream
import RoboticCharacter.FirmwareSerial
import RoboticCharacter.FirmwareReceive
import RoboticCharacter.GatewayExchange
import RoboticCharacter.GatewayEstop
import RoboticCharacter.ProtocolTransport
import RoboticCharacter.GatewayPeer
import RoboticCharacter.GatewaySession
import RoboticCharacter.GatewayRecovery
import RoboticCharacter.GatewayInterleaving
import RoboticCharacter.GatewayReceipts
import RoboticCharacter.PythonStruct
import RoboticCharacter.ProtocolCodecs
import RoboticCharacter.ProtocolTelemetry
import RoboticCharacter.ProtocolMotionCodec
import RoboticCharacter.FirmwarePayloads
import RoboticCharacter.ProtocolResume
import RoboticCharacter.TransportLink
import RoboticCharacter.ProtocolResync
import RoboticCharacter.FirmwareResync
import RoboticCharacter.FirmwareBuffer
import RoboticCharacter.RobotSystem
import RoboticCharacter.RobotSystemReceipts
import RoboticCharacter.PythonMath
import RoboticCharacter.RateLimitedMotion
import RoboticCharacter.RobotReferenceModel
import RoboticCharacter.SimulationTwin
import RoboticCharacter.SimulationLimits
import RoboticCharacter.SimulationDevice
import RoboticCharacter.SimulationRuntime
import RoboticCharacter.SimulationLatch
import RoboticCharacter.JsonValue
import RoboticCharacter.DashboardSnapshot
import RoboticCharacter.DashboardReads
import RoboticCharacter.EventHistory
import RoboticCharacter.FirmwareHilGuard
import RoboticCharacter.StateTransitions
import RoboticCharacter.StateManager
import RoboticCharacter.StateEvents
import RoboticCharacter.StateRuns
import RoboticCharacter.AsyncQueue
import RoboticCharacter.EventBus
import RoboticCharacter.EventDispatch
import RoboticCharacter.EventLedger
import RoboticCharacter.EventIsolation
import RoboticCharacter.EventDelivery
import RoboticCharacter.EventDrain
import RoboticCharacter.Sha256
import RoboticCharacter.PythonJson
import RoboticCharacter.JsonScanner
import RoboticCharacter.JsonRoundTrip
import RoboticCharacter.JsonPrefix
import RoboticCharacter.TextLines
import RoboticCharacter.AuditChain
import RoboticCharacter.AuditTamper
import RoboticCharacter.AuditLogger
import RoboticCharacter.AuditReload
import RoboticCharacter.AuditDurability
import RoboticCharacter.RobotKinematics
import RoboticCharacter.RobotTrajectory
import RoboticCharacter.RobotController
import RoboticCharacter.SimulationSafety
import RoboticCharacter.BehaviorEmbodiment
import RoboticCharacter.GatewayExact
import RoboticCharacter.SimulationSettle
import RoboticCharacter.SimulationLink
import RoboticCharacter.SimulationGoal
import RoboticCharacter.SimulationReport
import RoboticCharacter.SimulationChannel
import RoboticCharacter.SequenceWindow
import RoboticCharacter.MotionAgreement
import RoboticCharacter.TelemetryAgreement
import RoboticCharacter.CyclicRedundancy
import RoboticCharacter.ChecksumBursts
import RoboticCharacter.TrajectoryBounds
import RoboticCharacter.SimulationArrival
import RoboticCharacter.ConfigSettings
import RoboticCharacter.ConfigAgreement
import RoboticCharacter.EventOrder
import RoboticCharacter.EventStatistics
import RoboticCharacter.EventAuditLog
import RoboticCharacter.HealthMonitor
import RoboticCharacter.HealthChain
import RoboticCharacter.ProtocolCorruption
import RoboticCharacter.SimulationExchange
import RoboticCharacter.SimulationInvariants
import RoboticCharacter.SimulationTelemetry
import RoboticCharacter.Binary64
import RoboticCharacter.GestureClassifier
import RoboticCharacter.GestureMirror
import RoboticCharacter.MultimodalCorrelator
import RoboticCharacter.PydanticModel
import RoboticCharacter.CharacterContract
import RoboticCharacter.DashboardCharacter
import RoboticCharacter.MemoryTransport
import RoboticCharacter.PlanarLinkage
import RoboticCharacter.RobotInverse
import RoboticCharacter.RobotReachability
import RoboticCharacter.HilCalibration
import RoboticCharacter.RobotCartesian
import RoboticCharacter.HilCli
import RoboticCharacter.SimulationAuthority
import RoboticCharacter.LiveDashboard
import RoboticCharacter.InteractionRuns
import RoboticCharacter.EventSerializer
