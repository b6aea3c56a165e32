import RclcExecutor.Handle
import RclcExecutor.Action
import RclcExecutor.Executor
import RclcExecutor.Registration
import RclcExecutor.Take
import RclcExecutor.Execute
import RclcExecutor.Spin
import RclcExecutor.System
import RclcExecutor.Loops
import RclcExecutor.Frame
import RclcExecutor.TableShape
import RclcExecutor.Schedule
import RclcExecutor.Trigger
import RclcExecutor.Counters
import RclcExecutor.Goals
import RclcExecutor.Removal
import RclcExecutor.Locality
import RclcExecutor.Equivalence
import RclcExecutor.Drains
import RclcExecutor.Period
import RclcExecutor.Status
import RclcExecutor.Allocation
import RclcExecutor.Lifecycle
import RclcExecutor.Rounds
import RclcExecutor.GoalPools
import RclcExecutor.Registry
import RclcExecutor.ActiveGoals
import RclcExecutor.WaitSetSizes
import RclcExecutor.RemovedEndpoints
import RclcExecutor.Callbacks
import RclcExecutor.ClientGoals
