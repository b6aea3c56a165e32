import RclcExecutor.Executor

/-!
Registration: the eleven `rclc_executor_add_*` functions, `_rclc_executor_find_handle`,
`_rclc_executor_remove_handle` and the five `rclc_executor_remove_*` functions.

The nine add functions for kinds without an action endpoint differ only in the fields
they write into the new slot, in the arguments they check for `NULL` and in the counter
they bump; they are `registerHandle` applied to their own values. The five remove functions
differ only in their counter and are `unregisterHandle`. The action adds have their own
bodies. Every argument check that C makes on the `executor` pointer itself is left out:
the executor is always there.
-/

namespace RclcExecutor

/-- `if (rcl_wait_set_is_valid(&executor->wait_set)) ret = rcl_wait_set_fini(...)`:
the status and the wait set afterwards. `rcl_wait_set_fini` finalises the wait set
whatever it reports. -/
def rclWaitSetFiniIfValid (ws : WaitSet) (finiRet : MwRet) : MwRet × WaitSet :=
  if ws.valid then (finiRet, rclGetZeroInitializedWaitSet) else (.ok, ws)

@[simp] theorem rclWaitSetFiniIfValid_valid (ws : WaitSet) (finiRet : MwRet) :
    (rclWaitSetFiniIfValid ws finiRet).2.valid = false := by
  unfold rclWaitSetFiniIfValid; split <;> simp_all [rclGetZeroInitializedWaitSet]

/-- The common body of the nine `rclc_executor_add_*` functions of the kinds without an
action endpoint: refuse a full table, fill slot `index` with `fill`, count it in `index`,
invalidate the wait set and, if that succeeds, count the handle in counter `c`. After a
failed `rclc_executor_init` has left `handles` at `NULL`, the C store faults; the model
stores into the block it keeps and goes on. -/
def registerHandle (e : Executor) (fill : Handle → Handle) (c : Counter) (finiRet : MwRet) :
    RclRet × Executor :=
  if e.index ≥ e.maxHandles then (rclRetError, e)
  else
    let e1 := { e.modifyHandle e.index fill with index := e.index + 1 }
    let r := rclWaitSetFiniIfValid e1.waitSet finiRet
    match r.1 with
    | .error err => (err.1, { e1 with waitSet := r.2 })
    | .ok => (rclRetOk, { e1 with waitSet := r.2, info := e1.info.add c 1 })

/-- `rclc_executor_add_subscription`. -/
def rclcExecutorAddSubscription (e : Executor) (subscription msg callback : Ptr)
    (invocation : HandleInvocation) (finiRet : MwRet) : RclRet × Executor :=
  if subscription = 0 ∨ msg = 0 ∨ callback = 0 then (rclRetInvalidArgument, e)
  else registerHandle e (fun h => { h with
      type := .subscription, endpoint := subscription, data := msg, callback, invocation,
      initialized := true, callbackContext := 0, dataAvailable := false })
    .subscriptions finiRet

/-- `rclc_executor_add_subscription_with_context`: `data_available` is not written. -/
def rclcExecutorAddSubscriptionWithContext (e : Executor) (subscription msg callback context : Ptr)
    (invocation : HandleInvocation) (finiRet : MwRet) : RclRet × Executor :=
  if subscription = 0 ∨ msg = 0 ∨ callback = 0 then (rclRetInvalidArgument, e)
  else registerHandle e (fun h => { h with
      type := .subscriptionWithContext, endpoint := subscription, data := msg, callback,
      invocation, initialized := true, callbackContext := context })
    .subscriptions finiRet

/-- `rclc_executor_add_timer`. -/
def rclcExecutorAddTimer (e : Executor) (timer : Ptr) (finiRet : MwRet) : RclRet × Executor :=
  if timer = 0 then (rclRetInvalidArgument, e)
  else registerHandle e (fun h => { h with
      type := .timer, endpoint := timer, invocation := .onNewData, initialized := true,
      callbackContext := 0, dataAvailable := false })
    .timers finiRet

/-- `rclc_executor_add_client`. -/
def rclcExecutorAddClient (e : Executor) (client responseMsg callback : Ptr) (finiRet : MwRet) :
    RclRet × Executor :=
  if client = 0 ∨ responseMsg = 0 ∨ callback = 0 then (rclRetInvalidArgument, e)
  else registerHandle e (fun h => { h with
      type := .client, endpoint := client, data := responseMsg, callback,
      invocation := .onNewData, initialized := true, callbackContext := 0 })
    .clients finiRet

/-- `rclc_executor_add_client_with_request_id`. -/
def rclcExecutorAddClientWithRequestId (e : Executor) (client responseMsg callback : Ptr)
    (finiRet : MwRet) : RclRet × Executor :=
  if client = 0 ∨ responseMsg = 0 ∨ callback = 0 then (rclRetInvalidArgument, e)
  else registerHandle e (fun h => { h with
      type := .clientWithRequestId, endpoint := client, data := responseMsg, callback,
      invocation := .onNewData, initialized := true, callbackContext := 0 })
    .clients finiRet

/-- `rclc_executor_add_service`. -/
def rclcExecutorAddService (e : Executor) (service requestMsg responseMsg callback : Ptr)
    (finiRet : MwRet) : RclRet × Executor :=
  if service = 0 ∨ requestMsg = 0 ∨ responseMsg = 0 ∨ callback = 0 then
    (rclRetInvalidArgument, e)
  else registerHandle e (fun h => { h with
      type := .service, endpoint := service, data := requestMsg, dataResponseMsg := responseMsg,
      callback, invocation := .onNewData, initialized := true, callbackContext := 0 })
    .services finiRet

/-- `rclc_executor_add_service_with_context`. -/
def rclcExecutorAddServiceWithContext (e : Executor) (service requestMsg responseMsg callback
    context : Ptr) (finiRet : MwRet) : RclRet × Executor :=
  if service = 0 ∨ requestMsg = 0 ∨ responseMsg = 0 ∨ callback = 0 then
    (rclRetInvalidArgument, e)
  else registerHandle e (fun h => { h with
      type := .serviceWithContext, endpoint := service, data := requestMsg,
      dataResponseMsg := responseMsg, callback, invocation := .onNewData, initialized := true,
      callbackContext := context })
    .services finiRet

/-- `rclc_executor_add_service_with_request_id`. -/
def rclcExecutorAddServiceWithRequestId (e : Executor) (service requestMsg responseMsg
    callback : Ptr) (finiRet : MwRet) : RclRet × Executor :=
  if service = 0 ∨ requestMsg = 0 ∨ responseMsg = 0 ∨ callback = 0 then
    (rclRetInvalidArgument, e)
  else registerHandle e (fun h => { h with
      type := .serviceWithRequestId, endpoint := service, data := requestMsg,
      dataResponseMsg := responseMsg, callback, invocation := .onNewData, initialized := true,
      callbackContext := 0 })
    .services finiRet

/-- `rclc_executor_add_guard_condition`. -/
def rclcExecutorAddGuardCondition (e : Executor) (gc callback : Ptr) (finiRet : MwRet) :
    RclRet × Executor :=
  if gc = 0 ∨ callback = 0 then (rclRetInvalidArgument, e)
  else registerHandle e (fun h => { h with
      type := .guardCondition, endpoint := gc, callback, invocation := .onNewData,
      initialized := true, callbackContext := 0 })
    .guardConditions finiRet

/-! ### Action endpoints -/

/-- What `rcl_action_client_wait_set_get_num_entities` and its server twin report. -/
structure NumEntities where
  numSubscriptions : Nat
  numGuardConditions : Nat
  numTimers : Nat
  numClients : Nat
  numServices : Nat
  deriving DecidableEq, Repr

/-- The five `executor->info.number_of_X += num_X;` of the action adds. -/
def HandleCounters.addEntities (info : HandleCounters) (n : NumEntities) : HandleCounters :=
  ((((info.add .subscriptions n.numSubscriptions).add .guardConditions n.numGuardConditions).add
    .timers n.numTimers).add .clients n.numClients).add .services n.numServices

/-- `rclc_executor_add_action_client`. The allocator answers `allocOk` for the goal-handle
memory; the second allocation, for `goals_canceling`, is not checked by the code. -/
def rclcExecutorAddActionClient (s : State) (actionClient handlesNumber rosResultResponse
    rosFeedback goalCallback feedbackCallback resultCallback cancelCallback context : Nat)
    (allocOk : Bool) (finiRet : MwRet) (entities : MwRet × NumEntities) : RclRet × State :=
  let e := s.executor
  if actionClient = 0 ∨ rosResultResponse = 0 ∨ goalCallback = 0 ∨ resultCallback = 0 ∨
      (feedbackCallback ≠ 0 ∧ rosFeedback = 0) then (rclRetInvalidArgument, s)
  else if e.index ≥ e.maxHandles then (rclRetError, s)
  else
    let c := { s.actionClients actionClient with allocator := e.allocator }
    if !allocOk then
      (rclRetError, { s with actionClients := Function.update s.actionClients actionClient c })
    else
      let c := { c with
        goals := rclcActionInitGoalHandleMemory handlesNumber,
        goalHandlesMemorySize := handlesNumber, rosFeedback, rosResultResponse,
        goalsCanceling := [], goalsCancelingCapacity := handlesNumber,
        goalCallback, feedbackCallback, resultCallback, cancelCallback,
        feedbackAvailable := false, statusAvailable := false, goalResponseAvailable := false,
        resultResponseAvailable := false, cancelResponseAvailable := false }
      let e1 := { e.modifyHandle e.index (fun h => { h with
          type := .actionClient, endpoint := actionClient, invocation := .onNewData,
          initialized := true, callbackContext := context }) with index := e.index + 1 }
      let r := rclWaitSetFiniIfValid e1.waitSet finiRet
      let clients := Function.update s.actionClients actionClient c
      match r.1 with
      | .error err => (err.1, ⟨{ e1 with waitSet := r.2 }, clients, s.actionServers⟩)
      | .ok =>
          (entities.1.code,
            ⟨{ e1 with
                waitSet := r.2, info := (e1.info.addEntities entities.2).add .actionClients 1 },
              clients, s.actionServers⟩)

/-- `rclc_executor_add_action_server`. Its `allocator` field is written before the table is
checked for room; the goal handle `k` of the free list gets the `k`-th element of the
`ros_goal_request` array. -/
def rclcExecutorAddActionServer (s : State) (actionServer handlesNumber rosGoalRequest
    rosGoalRequestSize goalCallback cancelCallback context : Nat) (allocOk : Bool)
    (finiRet : MwRet) (entities : MwRet × NumEntities) : RclRet × State :=
  let e := s.executor
  if actionServer = 0 ∨ rosGoalRequest = 0 ∨ goalCallback = 0 ∨ cancelCallback = 0 then
    (rclRetInvalidArgument, s)
  else if rosGoalRequestSize = 0 then (rclRetError, s)
  else
    let a := { s.actionServers actionServer with allocator := e.allocator }
    let s0 := { s with actionServers := Function.update s.actionServers actionServer a }
    if e.index ≥ e.maxHandles ∨ !allocOk then (rclRetError, s0)
    else
      let pool := rclcActionInitGoalHandleMemory handlesNumber
      let a := { a with
        goals := { pool with free := pool.free.mapIdx fun k g =>
          { g with rosGoalRequest := rosGoalRequest + k * rosGoalRequestSize } },
        goalHandlesMemorySize := handlesNumber, goalCallback, cancelCallback,
        goalEnded := false, goalRequestAvailable := false, cancelRequestAvailable := false,
        resultRequestAvailable := false, goalExpiredAvailable := false }
      let e1 := { e.modifyHandle e.index (fun h => { h with
          type := .actionServer, endpoint := actionServer, invocation := .onNewData,
          initialized := true, callbackContext := context }) with index := e.index + 1 }
      let r := rclWaitSetFiniIfValid e1.waitSet finiRet
      let servers := Function.update s.actionServers actionServer a
      match r.1 with
      | .error err => (err.1, ⟨{ e1 with waitSet := r.2 }, s.actionClients, servers⟩)
      | .ok =>
          (entities.1.code,
            ⟨{ e1 with
                waitSet := r.2, info := (e1.info.addEntities entities.2).add .actionServers 1 },
              s.actionClients, servers⟩)

/-! ### Removal -/

/-- `_rclc_executor_find_handle`: the first position below `index` whose handle's
`rclc_executor_handle_get_ptr` is `rclHandle`. -/
def rclcExecutorFindHandle (e : Executor) (rclHandle : Ptr) : Option Nat :=
  (List.range e.index).find? fun i => rclcExecutorHandleGetPtr (e.handles i) = rclHandle

/-- `for (dest = handle; dest < &handles[dest + n]; dest++) *dest = *(dest + 1);` -/
def shiftLeft (hs : Nat → Handle) (dest : Nat) : Nat → Nat → Handle
  | 0 => hs
  | n + 1 => shiftLeft (Function.update hs dest (hs (dest + 1))) (dest + 1) n

/-- `_rclc_executor_remove_handle`: `handle` is the position `_rclc_executor_find_handle`
found, if any. -/
def rclcExecutorRemoveHandle (e : Executor) (handle : Option Nat) (finiRet : MwRet) :
    RclRet × Executor :=
  match handle with
  | none => (rclRetError, e)
  | some pos =>
      if e.index ≤ pos then (rclRetError, e)
      else
        let last := e.index - 1
        let e1 := { e with index := last, handles := shiftLeft e.handles pos (last - pos) }
        let e2 := e1.modifyHandle last (rclcExecutorHandleInit · e.maxHandles)
        let r := rclWaitSetFiniIfValid e2.waitSet finiRet
        (r.1.code, { e2 with waitSet := r.2 })

theorem shiftLeft_apply (hs : Nat → Handle) (dest n j : Nat) :
    shiftLeft hs dest n j = if dest ≤ j ∧ j < dest + n then hs (j + 1) else hs j := by
  induction n generalizing hs dest with
  | zero => rw [if_neg (by omega)]; rfl
  | succ n ih =>
      rw [shiftLeft, ih]
      by_cases hj : j = dest
      · subst hj
        rw [if_neg (by omega), if_pos (by omega), Function.update_same]
      · rw [Function.update_noteq hj]
        by_cases hlt : dest + 1 ≤ j ∧ j < dest + 1 + n
        · rw [if_pos hlt, if_pos (by omega), Function.update_noteq (by omega)]
        · rw [if_neg hlt, if_neg (by omega)]

section removeHandle
variable (e : Executor) (pos : Nat) (finiRet : MwRet)

theorem rclcExecutorRemoveHandle_of_le (hpos : e.index ≤ pos) :
    rclcExecutorRemoveHandle e (some pos) finiRet = (rclRetError, e) := by
  simp [rclcExecutorRemoveHandle, hpos]

/-- Removing the handle at `pos`: the handles after it move down one slot, and the slot
the last one leaves is reset. -/
theorem rclcExecutorRemoveHandle_handles (hpos : pos < e.index) (j : Nat) :
    (rclcExecutorRemoveHandle e (some pos) finiRet).2.handles j =
      if j = e.index - 1 then rclcExecutorHandleInit (e.handles j) e.maxHandles
      else if pos ≤ j ∧ j < e.index - 1 then e.handles (j + 1) else e.handles j := by
  simp only [rclcExecutorRemoveHandle, if_neg (Nat.not_le.2 hpos), Executor.modifyHandle_handles,
    shiftLeft_apply]
  by_cases hj : j = e.index - 1
  · simp only [hj, if_true,
      if_neg (show ¬(pos ≤ e.index - 1 ∧ e.index - 1 < pos + (e.index - 1 - pos)) by omega)]
  · simp only [hj, if_false, show pos + (e.index - 1 - pos) = e.index - 1 by omega]

@[simp] theorem rclcExecutorRemoveHandle_index :
    (rclcExecutorRemoveHandle e (some pos) finiRet).2.index =
      if pos < e.index then e.index - 1 else e.index := by
  by_cases hpos : pos < e.index
  · simp [rclcExecutorRemoveHandle, hpos, Nat.not_le.2 hpos]
  · simp [rclcExecutorRemoveHandle, hpos, Nat.le_of_not_lt hpos]

@[simp] theorem rclcExecutorRemoveHandle_maxHandles (handle : Option Nat) :
    (rclcExecutorRemoveHandle e handle finiRet).2.maxHandles = e.maxHandles := by
  unfold rclcExecutorRemoveHandle; split
  · rfl
  · split <;> rfl

@[simp] theorem rclcExecutorRemoveHandle_info (handle : Option Nat) :
    (rclcExecutorRemoveHandle e handle finiRet).2.info = e.info := by
  unfold rclcExecutorRemoveHandle; split
  · rfl
  · split <;> rfl

end removeHandle

/-- The common body of the five `rclc_executor_remove_*` functions: find the handle,
remove it, and on success take it off counter `c`. -/
def unregisterHandle (e : Executor) (rclHandle : Ptr) (c : Counter) (finiRet : MwRet) :
    RclRet × Executor :=
  if rclHandle = 0 then (rclRetInvalidArgument, e)
  else
    let r := rclcExecutorRemoveHandle e (rclcExecutorFindHandle e rclHandle) finiRet
    if r.1 ≠ rclRetOk then r else (rclRetOk, { r.2 with info := r.2.info.sub c 1 })

/-- `rclc_executor_remove_subscription`. -/
def rclcExecutorRemoveSubscription (e : Executor) (subscription : Ptr) (finiRet : MwRet) :
    RclRet × Executor :=
  unregisterHandle e subscription .subscriptions finiRet

/-- `rclc_executor_remove_timer`. -/
def rclcExecutorRemoveTimer (e : Executor) (timer : Ptr) (finiRet : MwRet) : RclRet × Executor :=
  unregisterHandle e timer .timers finiRet

/-- `rclc_executor_remove_client`. -/
def rclcExecutorRemoveClient (e : Executor) (client : Ptr) (finiRet : MwRet) :
    RclRet × Executor :=
  unregisterHandle e client .clients finiRet

/-- `rclc_executor_remove_service`. -/
def rclcExecutorRemoveService (e : Executor) (service : Ptr) (finiRet : MwRet) :
    RclRet × Executor :=
  unregisterHandle e service .services finiRet

/-- `rclc_executor_remove_guard_condition`. -/
def rclcExecutorRemoveGuardCondition (e : Executor) (guardCondition : Ptr) (finiRet : MwRet) :
    RclRet × Executor :=
  unregisterHandle e guardCondition .guardConditions finiRet

end RclcExecutor
