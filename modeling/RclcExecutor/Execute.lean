import RclcExecutor.Take

/-!
The execute pass `_rclc_execute`: whether the handle's callback is due, and what
running it does. For the non-action kinds that is one callback, preceded by
`rcl_timer_call` for a timer and followed by `rcl_send_response` for a service. For an
action endpoint it is a sequence of sweeps over its used goal handles.

The sweeps of the form `while ((g = rclc_action_find_first_*(...)) != NULL) body(g)` are
`whileFound`, run for as many rounds as there are used goal handles when the sweep starts;
each round settles the goal handle it found, so that many rounds are enough (the bound is
proved with the properties that need it). The sweeps of the form
`for (g = used_goal_handles; g != NULL; g = g->next)` are `forUsed`: their body never
unlinks a goal handle, so they walk the used list as it was when they start.
-/

namespace RclcExecutor

/-- `while ((g = find(a)) != NULL) a = body(g, a)`, for at most `fuel` rounds. -/
def whileFound {σ : Type} (find : σ → Option GoalHandle) (body : GoalHandle → σ → σ × List Event) :
    Nat → σ → σ × List Event
  | 0, a => (a, [])
  | fuel + 1, a =>
      match find a with
      | none => (a, [])
      | some g =>
          let r := body g a
          let r' := whileFound find body fuel r.1
          (r'.1, r.2 ++ r'.2)

/-- `for (g = used; g != NULL; g = g->next) a = body(g, a)` over the used list `gs`. -/
def forUsed {σ : Type} (body : GoalHandle → σ → σ × List Event) :
    List GoalHandle → σ → σ × List Event
  | [], a => (a, [])
  | g :: gs, a =>
      let r := body g a
      let r' := forUsed body gs r.1
      (r'.1, r.2 ++ r'.2)

/-- Modelled from the spec: `rclc_action_send_result_request` sends the result request for an
accepted goal; its sequence number is kept to match the response. -/
def rclcActionSendResultRequest (mw : Middleware) (i : Nat) (g : GoalHandle) (c : ActionClient) :
    MwRet × ActionClient :=
  let r := mw.sendResultRequest i g.slot
  match r.1 with
  | .ok => (.ok, { c with goals := c.goals.modify g.slot fun g =>
      { g with resultRequestSequenceNumber := r.2 } })
  | .error _ => (r.1, c)

/-- The goal-response sweep of the action-client case of `_rclc_execute`. -/
def goalResponseBody (mw : Middleware) (i : Nat) (context : Ptr) (g : GoalHandle)
    (c : ActionClient) : ActionClient × List Event :=
  let c := { c with
    goals := c.goals.modify g.slot fun g => { g with availableGoalResponse := false } }
  let cb := Event.callback c.goalCallback [g.slot, g.goalAccepted.toNat, context]
  if !g.goalAccepted then
    ({ c with goals := rclcActionRemoveUsedGoalHandle c.goals g.slot }, [cb])
  else
    let r := rclcActionSendResultRequest mw i g c
    match r.1 with
    | .ok => ({ r.2 with goals := r.2.goals.modify g.slot fun g => { g with status := .accepted } },
        [cb, .sendResultRequest g.slot r.1])
    | .error _ => ({ r.2 with goals := rclcActionRemoveUsedGoalHandle r.2.goals g.slot },
        [cb, .sendResultRequest g.slot r.1])

/-- The feedback sweep of the action-client case. -/
def feedbackBody (context : Ptr) (g : GoalHandle) (c : ActionClient) : ActionClient × List Event :=
  if g.availableFeedback then
    ({ c with goals := c.goals.modify g.slot fun g => { g with availableFeedback := false } },
      if c.feedbackCallback ≠ 0 then [.callback c.feedbackCallback [g.slot, c.rosFeedback, context]]
      else [])
  else (c, [])

/-- The cancel-response sweep of the action-client case. -/
def cancelResponseBody (context : Ptr) (g : GoalHandle) (c : ActionClient) :
    ActionClient × List Event :=
  if g.availableCancelResponse then
    ({ c with goals := c.goals.modify g.slot fun g => { g with availableCancelResponse := false } },
      if c.cancelCallback ≠ 0 then
        [.callback c.cancelCallback [g.slot, g.goalCancelled.toNat, context]]
      else [])
  else (c, [])

/-- The result-response sweep of the action-client case. -/
def resultResponseBody (context : Ptr) (g : GoalHandle) (c : ActionClient) :
    ActionClient × List Event :=
  let c := { c with
    goals := c.goals.modify g.slot fun g => { g with availableResultResponse := false } }
  ({ c with goals := rclcActionRemoveUsedGoalHandle c.goals g.slot },
    [.callback c.resultCallback [g.slot, c.rosResultResponse, context]])

/-- The action-client case of `_rclc_execute`. -/
def executeActionClient (mw : Middleware) (i : Nat) (context : Ptr) (c : ActionClient) :
    ActionClient × List Event :=
  let r1 := if c.goalResponseAvailable then
      whileFound (fun c => rclcActionFindFirstHandleWithGoalResponse c.goals)
        (goalResponseBody mw i context) c.goals.used.length c
    else (c, [])
  let r2 := if r1.1.feedbackAvailable then forUsed (feedbackBody context) r1.1.goals.used r1.1
    else (r1.1, [])
  let r3 := if r2.1.cancelResponseAvailable then
      forUsed (cancelResponseBody context) r2.1.goals.used r2.1
    else (r2.1, [])
  let r4 := if r3.1.resultResponseAvailable then
      whileFound (fun c => rclcActionFindFirstHandleWithResultResponse c.goals)
        (resultResponseBody context) r3.1.goals.used.length r3.1
    else (r3.1, [])
  (r4.1, r1.2 ++ r2.2 ++ r3.2 ++ r4.2)

/-- The goal-request sweep of the action-server case: `goal_callback` decides, anything
but `RCL_RET_ACTION_GOAL_ACCEPTED` rejects. -/
def goalRequestBody (mw : Middleware) (i : Nat) (context : Ptr) (g : GoalHandle)
    (a : ActionServer) : ActionServer × List Event :=
  let cb := Event.callback a.goalCallback [g.slot, context]
  if mw.goalCallback i g.slot = rclRetActionGoalAccepted then
    ({ a with goals := a.goals.modify g.slot fun g => { g with status := .accepted } },
      [cb, .goalResponse g.slot true])
  else
    ({ a with goals := rclcActionRemoveUsedGoalHandle a.goals g.slot },
      [cb, .goalResponse g.slot false])

/-- The cancel sweep of the action-server case: every used goal in
`GOAL_STATE_CANCELING` is offered to `cancel_callback`. -/
def cancelRequestBody (mw : Middleware) (i : Nat) (context : Ptr) (g : GoalHandle)
    (a : ActionServer) : ActionServer × List Event :=
  if g.status = .canceling then
    let accept := mw.cancelCallback i g.slot
    let cb := Event.callback a.cancelCallback [g.slot, context]
    if accept then
      ({ a with goals := a.goals.modify g.slot fun g => { g with goalCancelled := true } },
        [cb, .cancelAccept g.slot g.cancelRequestHeader])
    else
      ({ a with goals := a.goals.modify g.slot fun g =>
          { g with goalCancelled := false, status := .executing } },
        [cb, .cancelReject .rejected g.cancelRequestHeader])
  else (a, [])

/-- The action-server case of `_rclc_execute`: release terminated goals, decide on new
goals, then answer the cancel requests. -/
def executeActionServer (mw : Middleware) (i : Nat) (context : Ptr) (a : ActionServer) :
    ActionServer × List Event :=
  let a1 := if a.goalEnded then
      { (whileFound (fun a => rclcActionFindFirstTerminatedHandle a.goals)
          (fun g a => ({ a with goals := rclcActionRemoveUsedGoalHandle a.goals g.slot }, []))
          a.goals.used.length a).1 with goalEnded := false }
    else a
  let r2 := if a1.goalRequestAvailable then
      let r := whileFound (fun a => rclcActionFindFirstHandleByStatus a.goals .unknown)
        (goalRequestBody mw i context) a1.goals.used.length a1
      ({ r.1 with goalRequestAvailable := false }, r.2)
    else (a1, [])
  let r3 := if r2.1.cancelRequestAvailable then
      let r := forUsed (cancelRequestBody mw i context) r2.1.goals.used r2.1
      ({ r.1 with cancelRequestAvailable := false }, r.2)
    else (r2.1, [])
  (r3.1, r2.2 ++ r3.2)

/-- Whether `_rclc_execute` invokes the handle's callback. -/
def invokeCallback (s : State) (h : Handle) : Bool :=
  (h.invocation = .onNewData && rclcCheckHandleDataAvailable s h) || h.invocation = .always

/-- `rcl_send_response` after a service callback. -/
def sendResponse (mw : Middleware) (i : Nat) (h : Handle) (cb : Event) : RclRet × List Event :=
  let r := mw.sendResponse i
  (r.code, [cb, .sendResponse h.reqId r])

/-- `_rclc_execute` for the handle at position `i`. -/
def rclcExecute (mw : Middleware) (i : Nat) (s : State) : RclRet × State × List Event :=
  let h := s.executor.handles i
  let msg := if h.dataAvailable then h.data else 0
  if !invokeCallback s h then (rclRetOk, s, [])
  else
    match h.type with
    | .subscription => (rclRetOk, s, [.callback h.callback [msg]])
    | .subscriptionWithContext => (rclRetOk, s, [.callback h.callback [msg, h.callbackContext]])
    | .timer =>
        let r := mw.timerCall i
        match r with
        | .error e => (e.1, s, [.timerCall r])
        | _ => (rclRetOk, s, [.timerCall r])
    | .service =>
        let r := sendResponse mw i h (.callback h.callback [h.data, h.dataResponseMsg])
        (r.1, s, r.2)
    | .serviceWithRequestId =>
        let r := sendResponse mw i h (.callback h.callback [h.data, h.reqId, h.dataResponseMsg])
        (r.1, s, r.2)
    | .serviceWithContext =>
        let r := sendResponse mw i h
          (.callback h.callback [h.data, h.dataResponseMsg, h.callbackContext])
        (r.1, s, r.2)
    | .client => (rclRetOk, s, [.callback h.callback [h.data]])
    | .clientWithRequestId => (rclRetOk, s, [.callback h.callback [h.data, h.reqId]])
    | .guardCondition => (rclRetOk, s, [.callback h.callback []])
    | .actionClient =>
        let r := executeActionClient mw i h.callbackContext (s.actionClients h.endpoint)
        (rclRetOk, s.setActionClient h.endpoint r.1, r.2)
    | .actionServer =>
        let r := executeActionServer mw i h.callbackContext (s.actionServers h.endpoint)
        (rclRetOk, s.setActionServer h.endpoint r.1, r.2)
    | .none => (rclRetError, s, [])

end RclcExecutor
