import Sm8150Common.Library.StepMachine
import Sm8150Common.Library.LossyChannel
import Sm8150Common.Library.ConditionVariable
import Sm8150Common.Library.DelayedDelivery
import Sm8150Common.Library.DelayedMessages
import Sm8150Common.Library.InputStream
import Sm8150Common.Library.Words
import Sm8150Common.Library.RateLimit
import Sm8150Common.Library.CountedLoop
import Sm8150Common.Library.CountedLatch
import Sm8150Common.SensorTypes
import Sm8150Common.SensorHandle
import Sm8150Common.SensorTable
import Sm8150Common.AlsConfig
import Sm8150Common.AlsCorrection
import Sm8150Common.HysteresisBands
import Sm8150Common.Calibration
import Sm8150Common.LuxOrder
import Sm8150Common.HandleRouting
import Sm8150Common.OperationModes
import Sm8150Common.HandleSpace
import Sm8150Common.DynamicSensors
import Sm8150Common.DirectChannels
import Sm8150Common.AnnouncedSensors
import Sm8150Common.DirectReports
import Sm8150Common.SharedWakelock
import Sm8150Common.WakelockCalls
import Sm8150Common.WakelockGenerations
import Sm8150Common.WakelockDeadline
import Sm8150Common.EventPipeline
import Sm8150Common.PipelineRuns
import Sm8150Common.PipelineOrder
import Sm8150Common.WakeupCharges
import Sm8150Common.DynamicWakeups
import Sm8150Common.LightEvents
import Sm8150Common.ThreadShutdown
import Sm8150Common.SessionReset
import Sm8150Common.PendingAccounting
import Sm8150Common.TableRuns
import Sm8150Common.EventFlags
import Sm8150Common.CameraMotor
import Sm8150Common.MotorDebounce
import Sm8150Common.MotorWrites
import Sm8150Common.EventTypes
import Sm8150Common.GrabRect
import Sm8150Common.AreaCapture
import Sm8150Common.WakelockBalance
import Sm8150Common.PipelineDrain
import Sm8150Common.MaskedPipeline
import Sm8150Common.FrameworkSessions
import Sm8150Common.SubHalConfig
import Sm8150Common.Torch
import Sm8150Common.LightRate
import Sm8150Common.ScreenToLux
import Sm8150Common.WakelockRelease
import Sm8150Common.MotorAnswers
import Sm8150Common.FallListener
import Sm8150Common.Library.Copying
import Sm8150Common.Library.Components
import Sm8150Common.Library.LockOrder
import Sm8150Common.ModemConfig
import Sm8150Common.DeviceSleeps
import Sm8150Common.SubHalIsolation
import Sm8150Common.MutexOrder
import Sm8150Common.ThreadJoins
