import RclcExecutor.Execute

/-!
A round of the executor: `rclc_executor_prepare`, the registration of every handle in
the wait set, the triggers, the two schedulers and `rclc_executor_spin_some`, and
`rclc_executor_spin_one_period` around it.

Every loop of the form
`for (size_t i = 0; (i < executor->max_handles && executor->handles[i].initialized); i++)`
is `forHandles`, which reads the table afresh at every iteration as the C loop does; its
`fuel` is `max_handles`, which the loop condition never lets it exceed. A round records,
for every call of `_rclc_check_for_new_data`, `_rclc_take_new_data` and `_rclc_execute`,
a `Call`: which pass, which position, the status it returned and the events it caused.
-/

namespace RclcExecutor

/-- The three per-handle passes of a round. -/
inductive Pass
  | checkForNewData | takeNewData | execute
  deriving DecidableEq, Repr

/-- One call of a per-handle function in a round. -/
structure Call where
  pass : Pass
  pos : Nat
  ret : RclRet
  events : List Event
  deriving DecidableEq

/-- What one iteration of a handle loop leaves: the status, the state, what it logged, and
whether the function returns at once. -/
structure Iter (α : Type) where
  rc : RclRet
  state : State
  log : List α
  exit : Bool

/-- `for (size_t i = ...; (i < executor->max_handles && executor->handles[i].initialized); i++)`
from position `i` with `fuel` iterations left; `rc` is the function's status variable. -/
def forHandles {α : Type} (body : Nat → State → Iter α) : Nat → Nat → RclRet → State → Iter α
  | 0, _, rc, s => ⟨rc, s, [], false⟩
  | fuel + 1, i, rc, s =>
      if i < s.executor.maxHandles ∧ (s.executor.handles i).initialized = true then
        let r := body i s
        if r.exit then r
        else
          let r' := forHandles body fuel (i + 1) r.rc r.state
          { r' with log := r.log ++ r'.log }
      else ⟨rc, s, [], false⟩

/-- Run a per-handle function as a call of `pass`; `stop` says which statuses end the
function. -/
def callStep (pass : Pass) (f : Nat → State → RclRet × State × List Event)
    (stop : RclRet → Bool) (i : Nat) (s : State) : Iter Call :=
  let r := f i s
  ⟨r.1, r.2.1, [⟨pass, i, r.1, r.2.2⟩], stop r.1⟩

/-- The statuses the readiness loops and the take loop of `LET` let pass. -/
def stopUnlessSubscriptionTakeFailed (rc : RclRet) : Bool :=
  rc != rclRetOk && rc != rclRetSubscriptionTakeFailed

/-- The statuses the take of `_rclc_default_scheduling` lets pass. -/
def stopUnlessTakeFailed (rc : RclRet) : Bool :=
  rc != rclRetOk && rc != rclRetSubscriptionTakeFailed && rc != rclRetServiceTakeFailed

def stopUnlessOk (rc : RclRet) : Bool := rc != rclRetOk

/-- The body of the readiness loop of both schedulers. -/
def checkStep (mw : Middleware) : Nat → State → Iter Call :=
  callStep .checkForNewData (rclcCheckForNewData mw) stopUnlessSubscriptionTakeFailed

/-- The body of the take-then-execute loop of `_rclc_default_scheduling`. -/
def defaultStep (mw : Middleware) (i : Nat) (s : State) : Iter Call :=
  let t := callStep .takeNewData (rclcTakeNewData mw) stopUnlessTakeFailed i s
  if t.exit then t
  else
    let x := callStep .execute (rclcExecute mw) stopUnlessOk i t.state
    { x with log := t.log ++ x.log }

/-- The body of the take loop of `_rclc_let_scheduling`. -/
def letTakeStep (mw : Middleware) : Nat → State → Iter Call :=
  callStep .takeNewData (rclcTakeNewData mw) stopUnlessSubscriptionTakeFailed

/-- The body of the execute loop of `_rclc_let_scheduling`. -/
def letExecuteStep (mw : Middleware) : Nat → State → Iter Call :=
  callStep .execute (rclcExecute mw) stopUnlessOk

/-! ### Triggers -/

/-- `rclc_executor_trigger_all` on the first `size` handles. -/
def rclcExecutorTriggerAll (s : State) (size : Nat) : Bool :=
  !s.executor.handlesNull && go 0 size
where
  go (i : Nat) : Nat → Bool
    | 0 => true
    | n + 1 =>
        let h := s.executor.handles i
        if h.initialized then
          if !rclcCheckHandleDataAvailable s h then false else go (i + 1) n
        else true

/-- `rclc_executor_trigger_any` on the first `size` handles. -/
def rclcExecutorTriggerAny (s : State) (size : Nat) : Bool :=
  !s.executor.handlesNull && go 0 size
where
  go (i : Nat) : Nat → Bool
    | 0 => false
    | n + 1 =>
        let h := s.executor.handles i
        if h.initialized then
          if rclcCheckHandleDataAvailable s h then true else go (i + 1) n
        else false

/-- `rclc_executor_trigger_one` on the first `size` handles: the first ready handle
without an endpoint pointer ends the scan with `false`. -/
def rclcExecutorTriggerOne (s : State) (size : Nat) (obj : Ptr) : Bool :=
  !s.executor.handlesNull && go 0 size
where
  go (i : Nat) : Nat → Bool
    | 0 => false
    | n + 1 =>
        let h := s.executor.handles i
        if h.initialized then
          if rclcCheckHandleDataAvailable s h then
            if rclcExecutorHandleGetPtr h = 0 then false
            else if obj = rclcExecutorHandleGetPtr h then true
            else go (i + 1) n
          else go (i + 1) n
        else false

/-- The call `executor->trigger_function(executor->handles, executor->max_handles,
executor->trigger_object)`:
the `size_t` `max_handles` is passed as an `unsigned int`. A user trigger answers as the
round's middleware says; for the user trigger at address `0` the call goes through `NULL`,
which the round records (`Round.trigger`) before the model goes on with that answer. -/
def callTrigger (mw : Middleware) (s : State) : Bool :=
  let size := s.executor.maxHandles % 2 ^ 32
  match s.executor.triggerFunction with
  | .all => rclcExecutorTriggerAll s size
  | .any => rclcExecutorTriggerAny s size
  | .one => rclcExecutorTriggerOne s size s.executor.triggerObject
  | .always => true
  | .user _ => mw.userTrigger

/-! ### Schedulers -/

/-- The readiness loop both schedulers start with. -/
def readinessPass (mw : Middleware) (s : State) : Iter Call :=
  forHandles (checkStep mw) s.executor.maxHandles 0 rclRetOk s

/-- `_rclc_default_scheduling`. -/
def rclcDefaultScheduling (mw : Middleware) (s : State) : Iter Call :=
  let r := readinessPass mw s
  if r.exit then r
  else if callTrigger mw r.state then
    let x := forHandles (defaultStep mw) r.state.executor.maxHandles 0 r.rc r.state
    { x with log := r.log ++ x.log }
  else r

/-- `_rclc_let_scheduling`. -/
def rclcLetScheduling (mw : Middleware) (s : State) : Iter Call :=
  let r := readinessPass mw s
  if r.exit then r
  else if callTrigger mw r.state then
    let t := forHandles (letTakeStep mw) r.state.executor.maxHandles 0 r.rc r.state
    if t.exit then { t with log := r.log ++ t.log }
    else
      let x := forHandles (letExecuteStep mw) t.state.executor.maxHandles 0 t.rc t.state
      { x with log := r.log ++ t.log ++ x.log }
  else r

/-! ### Spinning -/

/-- `rclc_executor_prepare`: an invalid wait set is initialised with the counters as its
capacities. -/
def rclcExecutorPrepare (e : Executor) (initRet : MwRet) : RclRet × Executor × List Event :=
  if e.waitSet.valid then (rclRetOk, e, [])
  else
    match initRet with
    | .ok =>
        (rclRetOk,
          { e with waitSet := ⟨true, e.info.numberOfSubscriptions, e.info.numberOfGuardConditions,
              e.info.numberOfTimers, e.info.numberOfClients, e.info.numberOfServices,
              e.info.numberOfEvents⟩ },
          [.waitSetInit initRet])
    | .error err =>
        (err.1, { e with waitSet := rclGetZeroInitializedWaitSet }, [.waitSetInit initRet])

/-- The body of the registration loop of `rclc_executor_spin_some`: every kind is added
with its `rcl_wait_set_add_*`, which writes the handle's slot; an unused slot is an error. -/
def waitSetAddStep (mw : Middleware) (i : Nat) (s : State) : Iter Event :=
  if (s.executor.handles i).type = .none then ⟨rclRetError, s, [], true⟩
  else
    let r := mw.waitSetAdd i
    match r.1 with
    | .ok =>
        ⟨rclRetOk, s.modifyHandle i fun h => { h with index := r.2 }, [.waitSetAdd i r.1], false⟩
    | .error e => ⟨e.1, s, [.waitSetAdd i r.1], true⟩

/-- The function a scheduler calls through `executor->trigger_function` on the table `s`:
both schedulers call it right after their readiness loop, unless that loop returned. -/
def schedulerTrigger (mw : Middleware) (s : State) : Option Trigger :=
  let r := readinessPass mw s
  if r.exit then none else some r.state.executor.triggerFunction

/-- What one call of `rclc_executor_spin_some` returns and leaves: the status, the state,
the wait-set calls before the scheduler runs, the scheduler's per-handle calls, and the
trigger function it called, if it got that far. -/
structure Round where
  ret : RclRet
  state : State
  setup : List Event
  calls : List Call
  trigger : Option Trigger

/-- `rclc_executor_spin_some`. The status of `rclc_executor_prepare` and of `rcl_wait` is
not looked at; `rcl_wait_set_clear` on a wait set that is not valid reports
`RCL_RET_WAIT_SET_INVALID`. -/
def rclcExecutorSpinSome (mw : Middleware) (s : State) : Round :=
  if !mw.contextIsValid then ⟨rclRetError, s, [], [], none⟩
  else
    let p := rclcExecutorPrepare s.executor mw.waitSetInit
    let s1 := { s with executor := p.2.1 }
    let clear := if p.2.1.waitSet.valid then mw.waitSetClear else .error .waitSetInvalid
    match clear with
    | .error e => ⟨e.1, s1, p.2.2 ++ [.waitSetClear clear], [], none⟩
    | .ok =>
        let reg := forHandles (waitSetAddStep mw) s1.executor.maxHandles 0 rclRetOk s1
        let setup := p.2.2 ++ [.waitSetClear clear] ++ reg.log
        if reg.exit then ⟨reg.rc, reg.state, setup, [], none⟩
        else
          let r := match reg.state.executor.dataCommSemantics with
            | .logicalExecutionTime => rclcLetScheduling mw reg.state
            | .rclcppExecutor => rclcDefaultScheduling mw reg.state
          ⟨r.rc, r.state, setup ++ [.wait mw.wait], r.log, schedulerTrigger mw reg.state⟩

/-- A `uint64_t` value as the `int64_t` it converts to. -/
def toInt64 (x : Nat) : Int := if x < 2 ^ 63 then x else (x : Int) - 2 ^ 64

/-- An `int64_t` value as the `uint64_t` it converts to. -/
def toUInt64 (x : Int) : Nat := (x % 2 ^ 64).toNat

/-- `sleep_time = (executor->invocation_time + period) - end_time_point;`: the `int64_t`
invocation time meets the `uint64_t` period, so the sum and the difference are taken in
`uint64_t`, and the result is stored into the `int64_t` `sleep_time`. -/
def sleepTime (invocationTime : Int) (period : Nat) (endTime : Int) : Int :=
  toInt64 (((toUInt64 invocationTime + period) % 2 ^ 64 + (2 ^ 64 - toUInt64 endTime)) % 2 ^ 64)

/-- `if (executor->invocation_time == 0) rcutils_system_time_now(&executor->invocation_time);`
with the clock reading `startTime`. -/
def captureInvocationTime (s : State) (startTime : Int) : State :=
  if s.executor.invocationTime = 0 then
    { s with executor := { s.executor with invocationTime := startTime } }
  else s

/-- `rclc_executor_spin_one_period` with the clock reading `startTime` when the invocation
time is still unset, and `endTime` with the status `endRet` after the round: the status, the
state, and the argument of `rclc_sleep_ms` if it is called. Once the round has succeeded the
function returns what the second `rcutils_system_time_now` returned. -/
def rclcExecutorSpinOnePeriod (mw : Middleware) (s : State) (period : Nat)
    (startTime : Int) (endRet : RclRet) (endTime : Int) : RclRet × State × Option Nat :=
  let r := rclcExecutorSpinSome mw (captureInvocationTime s startTime)
  if r.ret ≠ rclRetOk ∧ r.ret ≠ rclRetTimeout then (r.ret, r.state, none)
  else
    let e := r.state.executor
    let sleep := sleepTime e.invocationTime period endTime
    (endRet,
      { r.state with executor := { e with
          invocationTime := toInt64 ((toUInt64 e.invocationTime + period) % 2 ^ 64) } },
      if 0 < sleep then some (sleep / 1000000).toNat else none)

end RclcExecutor
