import AbbWrapper.Runs
import AbbWrapper.Protobuf
import AbbWrapper.Messages
import AbbWrapper.Common
import AbbWrapper.Auxiliary
import AbbWrapper.Interpolator
import AbbWrapper.Containers
import AbbWrapper.MotionStep
import AbbWrapper.TrajectoryMotion
import AbbWrapper.Interfaces
import AbbWrapper.Control
import AbbWrapper.Decisions
import AbbWrapper.Refinement
import AbbWrapper.Evaluation
import AbbWrapper.QueueDiscard
import AbbWrapper.StopResume
import AbbWrapper.StaticGoal
import AbbWrapper.SpeedReference
import AbbWrapper.RejectedDatagram
import AbbWrapper.PointOrder
import AbbWrapper.ReplyShape
import AbbWrapper.SessionStart
import AbbWrapper.SessionLeak
import AbbWrapper.Residue
import AbbWrapper.Agreement
import AbbWrapper.SameCourse
import AbbWrapper.SessionReset
import AbbWrapper.TransitionGraph
import AbbWrapper.LastPoint
import AbbWrapper.ControllerMode
import AbbWrapper.RemainingTime
import AbbWrapper.ActivationStart
import AbbWrapper.JointMapping
import AbbWrapper.StaticOrders
import AbbWrapper.RampDownTime
import AbbWrapper.StaticGoalApplied
import AbbWrapper.CompleteStop
import AbbWrapper.StopInRampDown
import AbbWrapper.StopHolds
import AbbWrapper.Delimited
import AbbWrapper.Rapid
import AbbWrapper.RapidText
import AbbWrapper.RapidRoundTrip
import AbbWrapper.RwsClient
import AbbWrapper.RapidReading
import AbbWrapper.SymbolReading
import AbbWrapper.SampleTime
import AbbWrapper.BoundaryConditions
import AbbWrapper.RampDownMonotone
import AbbWrapper.ExactReals
import AbbWrapper.StaticPositionRamp
import AbbWrapper.SlerpDerivative
import AbbWrapper.SphericalInterpolation
import AbbWrapper.OrientationSigns
import AbbWrapper.EulerAngles
import AbbWrapper.Divisors
import AbbWrapper.ReachConditions
import AbbWrapper.ArrayAccess
import AbbWrapper.VectorSizes
import AbbWrapper.Accesses
import AbbWrapper.IndexRange
import AbbWrapper.Exchanges
import AbbWrapper.PocoClient
import AbbWrapper.IOSignals
import AbbWrapper.ToggleSignal
import AbbWrapper.SmartGripper
import AbbWrapper.ControllerBridge
import AbbWrapper.JointNames
import AbbWrapper.CommandArrays
import AbbWrapper.UnitQuaternions
import AbbWrapper.InverseKinematics
import AbbWrapper.OrientationError
import AbbWrapper.EulerScale
import AbbWrapper.RepeatedCopy
import AbbWrapper.Logger
import AbbWrapper.LogRows
import AbbWrapper.ErasePositions
import AbbWrapper.Subscription
import AbbWrapper.DocumentOrder
import AbbWrapper.TopLevelCommas
import AbbWrapper.GoalFlags
import AbbWrapper.AngularIntegration
import AbbWrapper.Monitors
import AbbWrapper.HttpSession
import AbbWrapper.RoutineCalls
import AbbWrapper.ModeSwitching
import AbbWrapper.ConditionVariables
import AbbWrapper.MessageWaiting
import AbbWrapper.JointOrder
import AbbWrapper.DampedLeastSquares
import AbbWrapper.InvKinMotion
import AbbWrapper.GripperMotions
import AbbWrapper.Quintics
import AbbWrapper.SplineMotions
import AbbWrapper.Sessions
import AbbWrapper.LeadsTo
import AbbWrapper.Completion
import AbbWrapper.Settling
import AbbWrapper.ProgressReports
import AbbWrapper.Odometry
import AbbWrapper.DocumentNodes
import AbbWrapper.ClientCalls
import AbbWrapper.GoalMotions
import AbbWrapper.DemoMotion
