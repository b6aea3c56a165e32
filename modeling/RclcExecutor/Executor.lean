import RclcExecutor.Action

/-!
The executor record `rclc_executor_t`, the wait set it owns, and its life cycle:
`rclc_executor_init`, `rclc_executor_fini` and the setters.

The handle block `executor->handles` is a function from positions to handles; the C
pointer's being `NULL` is the flag `handlesNull`. The action client and server records
the handles point to are not part of the executor: they live in the two heaps of `State`,
addressed by the pointer stored in the handle.
-/

namespace RclcExecutor

/-- The capacities and the validity of `rcl_wait_set_t`. Which entries are set after
`rcl_wait` is a result of the middleware, given per round by `Middleware`. -/
structure WaitSet where
  valid : Bool
  sizeOfSubscriptions : Nat
  sizeOfGuardConditions : Nat
  sizeOfTimers : Nat
  sizeOfClients : Nat
  sizeOfServices : Nat
  sizeOfEvents : Nat
  deriving DecidableEq, Repr

/-- `rcl_get_zero_initialized_wait_set`. -/
def rclGetZeroInitializedWaitSet : WaitSet := ⟨false, 0, 0, 0, 0, 0, 0⟩

/-- `rclc_executor_semantics_t`: `RCLCPP_EXECUTOR` or `LET` (logical execution time). -/
inductive Semantics
  | rclcppExecutor | logicalExecutionTime
  deriving DecidableEq, Repr

/-- The `rclc_executor_trigger_t` installed: one of the four built-in triggers, or any
other function, whose answer in a round is a result of that round. -/
inductive Trigger
  | all | any | one | always
  | user (fn : Ptr)
  deriving DecidableEq, Repr

def defaultWaitTimeoutNs : Nat := 1000000000

/-- `rclc_executor_t`. -/
structure Executor where
  context : Ptr
  handles : Nat → Handle
  handlesNull : Bool
  maxHandles : Nat
  index : Nat
  allocator : Ptr
  waitSet : WaitSet
  info : HandleCounters
  timeoutNs : Nat
  invocationTime : Int
  triggerFunction : Trigger
  triggerObject : Ptr
  dataCommSemantics : Semantics

/-- `rclc_executor_get_zero_initialized_executor`; the function pointer `NULL` of
`trigger_function` is the user trigger at address `0`. -/
def rclcExecutorGetZeroInitializedExecutor (handles : Nat → Handle) : Executor :=
  ⟨0, handles, true, 0, 0, 0, rclGetZeroInitializedWaitSet, rclcExecutorHandleCountersZeroInit,
    0, 0, .user 0, 0, .rclcppExecutor⟩

/-- The executor and the action client and server records its handles point to. -/
structure State where
  executor : Executor
  actionClients : Ptr → ActionClient
  actionServers : Ptr → ActionServer

/-! ### Stores into the handle table -/

/-- `executor->handles[i] = f(executor->handles[i])`. -/
def Executor.modifyHandle (e : Executor) (i : Nat) (f : Handle → Handle) : Executor :=
  { e with handles := Function.update e.handles i (f (e.handles i)) }

section modifyHandle
variable (e : Executor) (i : Nat) (f : Handle → Handle)

@[simp] theorem Executor.modifyHandle_handles (j : Nat) :
    (e.modifyHandle i f).handles j = if j = i then f (e.handles i) else e.handles j := by
  by_cases h : j = i
  · subst h; simp [Executor.modifyHandle]
  · simp [Executor.modifyHandle, h]

@[simp] theorem Executor.modifyHandle_maxHandles : (e.modifyHandle i f).maxHandles = e.maxHandles :=
  rfl

@[simp] theorem Executor.modifyHandle_index : (e.modifyHandle i f).index = e.index := rfl

@[simp] theorem Executor.modifyHandle_info : (e.modifyHandle i f).info = e.info := rfl

@[simp] theorem Executor.modifyHandle_waitSet : (e.modifyHandle i f).waitSet = e.waitSet := rfl

@[simp] theorem Executor.modifyHandle_handlesNull :
    (e.modifyHandle i f).handlesNull = e.handlesNull := rfl

@[simp] theorem Executor.modifyHandle_triggerFunction :
    (e.modifyHandle i f).triggerFunction = e.triggerFunction := rfl

@[simp] theorem Executor.modifyHandle_dataCommSemantics :
    (e.modifyHandle i f).dataCommSemantics = e.dataCommSemantics := rfl

end modifyHandle

/-! ### Life cycle -/

/-- `_rclc_executor_is_valid`. -/
def rclcExecutorIsValid (e : Executor) : Bool :=
  !e.handlesNull && e.allocator != 0 && e.maxHandles != 0

/-- `rclc_executor_init` on the executor `e`. The allocator answers `allocOk`, and the
block it hands out holds `block` before the handles are initialised. -/
def rclcExecutorInit (e : Executor) (context numberOfHandles allocator : Nat)
    (allocOk : Bool) (block : Nat → Handle) : RclRet × Executor :=
  if context = 0 ∨ allocator = 0 ∨ numberOfHandles = 0 then (rclRetInvalidArgument, e)
  else
    let e0 : Executor :=
      { rclcExecutorGetZeroInitializedExecutor e.handles with
        context, maxHandles := numberOfHandles, allocator, timeoutNs := defaultWaitTimeoutNs }
    if !allocOk then (rclRetBadAlloc, e0)
    else
      (rclRetOk,
        { e0 with
          handles := fun i =>
            if i < numberOfHandles then rclcExecutorHandleInit (block i) numberOfHandles
            else block i
          handlesNull := false
          info := rclcExecutorHandleCountersZeroInit
          triggerFunction := .any
          triggerObject := 0
          dataCommSemantics := .rclcppExecutor })

/-- `rclc_executor_fini`. It ignores what `rcl_wait_set_fini` returns, and whatever that
is the wait set is finalised. -/
def rclcExecutorFini (e : Executor) : RclRet × Executor :=
  if rclcExecutorIsValid e then
    (rclRetOk,
      { e with
        handlesNull := true, maxHandles := 0, index := 0,
        info := rclcExecutorHandleCountersZeroInit,
        waitSet := if e.waitSet.valid then rclGetZeroInitializedWaitSet else e.waitSet,
        timeoutNs := defaultWaitTimeoutNs })
  else (rclRetOk, e)

/-- `rclc_executor_set_timeout`. -/
def rclcExecutorSetTimeout (e : Executor) (timeoutNs : Nat) : RclRet × Executor :=
  if rclcExecutorIsValid e then (rclRetOk, { e with timeoutNs }) else (rclRetError, e)

/-- `rclc_executor_set_semantics`. -/
def rclcExecutorSetSemantics (e : Executor) (semantics : Semantics) : RclRet × Executor :=
  if rclcExecutorIsValid e then (rclRetOk, { e with dataCommSemantics := semantics })
  else (rclRetError, e)

/-- `rclc_executor_set_trigger`. -/
def rclcExecutorSetTrigger (e : Executor) (triggerFunction : Trigger) (triggerObject : Ptr) :
    RclRet × Executor :=
  (rclRetOk, { e with triggerFunction, triggerObject })

/-! ### Readiness of a handle -/

/-- `_rclc_check_handle_data_available`: the readiness flags of an action endpoint, the
handle's own `data_available` for every other kind. -/
def rclcCheckHandleDataAvailable (s : State) (h : Handle) : Bool :=
  match h.type with
  | .actionClient =>
      let c := s.actionClients h.endpoint
      c.feedbackAvailable || c.statusAvailable || c.goalResponseAvailable ||
        c.cancelResponseAvailable || c.resultResponseAvailable
  | .actionServer =>
      let a := s.actionServers h.endpoint
      a.goalRequestAvailable || a.cancelRequestAvailable || a.goalExpiredAvailable ||
        a.resultRequestAvailable || a.goalEnded
  | _ => h.dataAvailable

end RclcExecutor
