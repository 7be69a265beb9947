import FingerprintAuth.TimeoutOwnership
import FingerprintAuth.IlluminationSafety
import FingerprintAuth.TaskLifeCycle
import FingerprintAuth.DestructorThread
import FingerprintAuth.ScreenSubscription
import FingerprintAuth.IlluminationFrame
import FingerprintAuth.ExclusiveSession
import FingerprintAuth.OrphanedSession
import FingerprintAuth.SaCommandRemoval
import FingerprintAuth.ScreenMirror
import FingerprintAuth.AlphaInterpolation
import FingerprintAuth.FingerprintAuthExecutorCallback
import FingerprintAuth.FingerprintAllInOneExecutor
import FingerprintAuth.Library.LockOrder
import FingerprintAuth.ServiceLocks
import FingerprintAuth.Library.Milestones
import FingerprintAuth.TimeoutProgress
import FingerprintAuth.Library.BatchedChannel
import FingerprintAuth.RenderService
import FingerprintAuth.Library.CommitPoint
import FingerprintAuth.CommandAtomicity
import FingerprintAuth.Library.ScriptLedger
import FingerprintAuth.ServiceBatches
import FingerprintAuth.ExecutorRelay
import FingerprintAuth.LitFrames
import FingerprintAuth.LightMandate
import FingerprintAuth.MonitorAtomicity
