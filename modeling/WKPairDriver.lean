import WKPairDriver.Lib.Run
import WKPairDriver.Lib.Seqlock
import WKPairDriver.Shmem.PoseRing
import WKPairDriver.Shmem.FaceFrame
import WKPairDriver.Shmem.FaceFrameCrash
import WKPairDriver.Shmem.FaceFrameHistory
import WKPairDriver.Lib.Bytes
import WKPairDriver.Lib.Ring
import WKPairDriver.Osc.Wire
import WKPairDriver.Osc.PubPipe
import WKPairDriver.Osc.RouterPublisher
import WKPairDriver.Osc.Pattern
import WKPairDriver.Osc.PatternMatch
import WKPairDriver.Host.HostSupervisor
import WKPairDriver.Host.Breaker
import WKPairDriver.Host.Respawn
import WKPairDriver.Host.Selection
import WKPairDriver.Osc.SendQueue
import WKPairDriver.Driver.DeviceTransforms
import WKPairDriver.Driver.PerDeviceTransform
import WKPairDriver.Driver.FallbackMap
import WKPairDriver.Lib.Smoothstep
import WKPairDriver.Driver.SourceBlend
import WKPairDriver.Driver.SourceBlendContinuity
import WKPairDriver.Driver.SourceBlendDwell
import WKPairDriver.Lib.Slice
import WKPairDriver.Osc.Reader
import WKPairDriver.Osc.Codec
import WKPairDriver.Osc.Dispatch
import WKPairDriver.Calibration.Context
import WKPairDriver.Calibration.ParseProfile
import WKPairDriver.Calibration.ProfileStore
import WKPairDriver.Lib.SeqlockTable
import WKPairDriver.Phantom.DropoutState
import WKPairDriver.Phantom.FrozenTracker
import WKPairDriver.Phantom.Inference
import WKPairDriver.Phantom.InferenceRoundTrip
import WKPairDriver.Shmem.SlotTables
import WKPairDriver.Boundary.ChaperoneSnapshot
import WKPairDriver.Boundary.FloorAdjustment
import WKPairDriver.Calibration.IncrementalSolve
import WKPairDriver.InputHealth.BooleanComponent
import WKPairDriver.InputHealth.Debounce
import WKPairDriver.Boundary.BoundaryCapture
import WKPairDriver.Boundary.PaintedBoundary
import WKPairDriver.Calibration.AutoLock
import WKPairDriver.Calibration.AutoLockGate
import WKPairDriver.Calibration.BaseStationDrift
import WKPairDriver.Calibration.FallbackPublication
import WKPairDriver.Calibration.Relocalization
import WKPairDriver.Calibration.UniverseShift
import WKPairDriver.Ipc.Client
import WKPairDriver.Ipc.Correlation
import WKPairDriver.Ipc.Server
import WKPairDriver.Ipc.VersionGate
import WKPairDriver.Lib.Noninterference
import WKPairDriver.Lib.Tree
import WKPairDriver.Overlay.Migration
import WKPairDriver.Overlay.MigrationMarkers
import WKPairDriver.QuestApp.AdbRun
import WKPairDriver.Smoothing.DevicePrediction
import WKPairDriver.Smoothing.PredictionRestore
import WKPairDriver.Smoothing.SkeletalHook
import WKPairDriver.Smoothing.SkeletalStreams
import WKPairDriver.Captions.HostCommand
import WKPairDriver.FaceTracking.CalibrationEngine
import WKPairDriver.FaceTracking.CalibrationPersistence
import WKPairDriver.FaceTracking.ModuleBreaker
import WKPairDriver.FaceTracking.ModuleDiscovery
import WKPairDriver.FaceTracking.ModuleSelection
import WKPairDriver.FaceTracking.PublishedFrames
import WKPairDriver.FaceTracking.RegistrySync
import WKPairDriver.FaceTracking.ShapePipeline
import WKPairDriver.FaceTracking.WedgeDetector
import WKPairDriver.Calibration.CalibrationTick
import WKPairDriver.Calibration.ContinuousSession
import WKPairDriver.Calibration.StartupPush
import WKPairDriver.Calibration.RuntimeWedge
import WKPairDriver.Calibration.TrackerLiveness
import WKPairDriver.FaceTracking.QuantileMarkers
import WKPairDriver.FaceTracking.VelocityGate
import WKPairDriver.Calibration.EigenModel
import WKPairDriver.Calibration.HeadMountRoundTrip
import WKPairDriver.FaceTracking.ModuleSyncPaths
import WKPairDriver.Lib.Store
import WKPairDriver.Phantom.ConfigReplay
import WKPairDriver.Phantom.SettingsReachDriver
import WKPairDriver.Captions.ChatboxText
import WKPairDriver.Captions.ChatboxPacer
import WKPairDriver.Phantom.DeadReckoner
import WKPairDriver.FaceTracking.VergenceLock
import WKPairDriver.Osc.RouteTable
import WKPairDriver.Smoothing.FilterStep
import WKPairDriver.Calibration.YawSolve
import WKPairDriver.Calibration.Jitter
import WKPairDriver.Calibration.OutlierDetection
import WKPairDriver.Boundary.DouglasPeucker
import WKPairDriver.Lib.Median
import WKPairDriver.Lib.RotationAngle
import WKPairDriver.Lib.RotationMatrix
import WKPairDriver.Calibration.RobustDeviation
import WKPairDriver.Calibration.ValidationError
import WKPairDriver.Calibration.MotionReplay
import WKPairDriver.Calibration.RejectedLoad
import WKPairDriver.Calibration.SaveRetry
import WKPairDriver.Calibration.AutoRecovery
import WKPairDriver.Calibration.ShiftAlignment
import WKPairDriver.Lib.EvenOdd
import WKPairDriver.Boundary.PlayArea
import WKPairDriver.Lib.CommandLine
import WKPairDriver.QuestApp.AdbCommandLine
import WKPairDriver.InputHealth.StableRest
import WKPairDriver.InputHealth.PolarHistogram
import WKPairDriver.Lib.Framing
import WKPairDriver.Captions.WasapiCapture
import WKPairDriver.Captions.Segmentation
import WKPairDriver.InputHealth.AxisPairing
import WKPairDriver.Boundary.FloorSource
import WKPairDriver.InputHealth.LearningEngine
import WKPairDriver.InputHealth.EngineInvariant
import WKPairDriver.InputHealth.RestoreRest
import WKPairDriver.InputHealth.Unlearn
import WKPairDriver.Smoothing.ReseedInterleaving
import WKPairDriver.Lib.SuffixSum
import WKPairDriver.InputHealth.PageHinkley
import WKPairDriver.Lib.Rounding
import WKPairDriver.FaceTracking.FloatMarkers
import WKPairDriver.Lib.Base64
import WKPairDriver.Lib.Quoting
import WKPairDriver.Overlay.ShellContext
import WKPairDriver.Lib.BoundedLines
import WKPairDriver.Smoothing.ConfigFile
import WKPairDriver.Smoothing.ConfigLines
import WKPairDriver.Smoothing.ConfigRoundTrip
import WKPairDriver.FaceTracking.ModuleReconcile
import WKPairDriver.FaceTracking.ModuleSyncRunner
import WKPairDriver.Phantom.TPoseCapture
import WKPairDriver.Lib.Slerp
import WKPairDriver.Driver.TransformBlend
import WKPairDriver.Phantom.MaybeOverridePose
import WKPairDriver.Phantom.HandoverRun
import WKPairDriver.Lib.Reassembly
import WKPairDriver.Sandbox.PartialPacket
import WKPairDriver.Sandbox.IpcPacket
import WKPairDriver.Sandbox.Client
import WKPairDriver.Sandbox.Link
import WKPairDriver.Lib.SlidingWindow
import WKPairDriver.Phantom.SidecarSupervisor
import WKPairDriver.InputHealth.SnapshotPublisher
import WKPairDriver.Calibration.RecordingRetention
import WKPairDriver.Lib.Cbor
import WKPairDriver.FaceTracking.ControlPipe
import WKPairDriver.FaceTracking.HostCommandLine
import WKPairDriver.Phantom.VirtualTrackers
