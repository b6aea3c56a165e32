import RclcExecutor.Registration

/-!
One round of the executor meets the middleware through a `Middleware`: the answer of
every call the round makes. Calls that concern one handle are answered by the handle's
position, calls about one goal handle by the position and the goal handle's slot, so
every call of a round has an answer of its own and no order of calls is assumed.

This module holds the readiness pass `_rclc_check_for_new_data` and the take pass
`_rclc_take_new_data`, each a function of one handle position; what they do to the
middleware and to user code is written down as a list of `Event`s.
-/

namespace RclcExecutor

/-- The five flags `rcl_action_client_wait_set_get_entities_ready` reports. -/
structure ClientReady where
  feedback : Bool
  status : Bool
  goalResponse : Bool
  cancelResponse : Bool
  resultResponse : Bool
  deriving DecidableEq, Repr

/-- The four flags `rcl_action_server_wait_set_get_entities_ready` reports. -/
structure ServerReady where
  goalRequest : Bool
  cancelRequest : Bool
  resultRequest : Bool
  goalExpired : Bool
  deriving DecidableEq, Repr

/-- The middleware's answers for one round. The wait-set entries after `rcl_wait` are
indexed by the slot a handle got from `rcl_wait_set_add_*`; everything else by the
handle's position. Takes carry their data: a message, or a request id and a message,
or a header, a sequence number, a goal id. `goalCallback` and `cancelCallback` are the
answers of the action server's user callbacks. -/
structure Middleware where
  contextIsValid : Bool
  waitSetInit : MwRet
  waitSetClear : MwRet
  waitSetAdd : Nat → MwRet × Nat
  wait : MwRet
  subscriptions : Nat → Bool
  guardConditions : Nat → Bool
  timers : Nat → Bool
  clients : Nat → Bool
  services : Nat → Bool
  actionClientEntitiesReady : Nat → MwRet × ClientReady
  actionServerEntitiesReady : Nat → MwRet × ServerReady
  take : Nat → Reply Nat
  takeRequest : Nat → Reply (Nat × Nat)
  takeResponse : Nat → Reply (Nat × Nat)
  timerCall : Nat → Reply Unit
  sendResponse : Nat → MwRet
  takeGoalResponse : Nat → MwRet × Nat × Bool
  takeFeedback : Nat → MwRet × Nat
  takeCancelResponse : Nat → MwRet × Nat × List Nat
  takeResultResponse : Nat → MwRet × Nat
  sendResultRequest : Nat → Nat → MwRet × Nat
  takeGoalRequest : Nat → MwRet × Nat × Nat
  takeResultRequest : Nat → MwRet × Nat × Nat
  takeCancelRequest : Nat → MwRet × Nat × Nat
  goalCallback : Nat → Nat → RclRet
  cancelCallback : Nat → Nat → Bool
  userTrigger : Bool

/-- A call of the round into the middleware, with what it returned, or a call of a user
callback, with its arguments (pointers, ids and flags, in the order of the signature). -/
inductive Event
  | entitiesReady (ret : MwRet)
  | take (r : Reply Nat)
  | takeRequest (r : Reply (Nat × Nat))
  | takeResponse (r : Reply (Nat × Nat))
  | timerCall (r : Reply Unit)
  | sendResponse (reqId : Nat) (ret : MwRet)
  | callback (fn : Ptr) (args : List Nat)
  | takeGoalResponse (ret : MwRet)
  | takeFeedback (ret : MwRet)
  | takeCancelResponse (ret : MwRet)
  | takeResultResponse (ret : MwRet)
  | sendResultRequest (slot : Nat) (ret : MwRet)
  | takeGoalRequest (ret : MwRet)
  | takeResultRequest (ret : MwRet)
  | takeCancelRequest (ret : MwRet)
  | goalResponse (slot : Nat) (accepted : Bool)
  | cancelAccept (slot header : Nat)
  | cancelReject (reason : CancelState) (header : Nat)
  | waitSetInit (ret : MwRet)
  | waitSetClear (ret : MwRet)
  | waitSetAdd (pos : Nat) (ret : MwRet)
  | wait (ret : MwRet)
  deriving DecidableEq

def Event.isCallback : Event → Bool
  | .callback _ _ => true
  | _ => false

/-! ### Stores into the state -/

def State.modifyHandle (s : State) (i : Nat) (f : Handle → Handle) : State :=
  { s with executor := s.executor.modifyHandle i f }

def State.setActionClient (s : State) (p : Ptr) (c : ActionClient) : State :=
  { s with actionClients := Function.update s.actionClients p c }

def State.setActionServer (s : State) (p : Ptr) (a : ActionServer) : State :=
  { s with actionServers := Function.update s.actionServers p a }

@[simp] theorem State.modifyHandle_executor (s : State) (i : Nat) (f : Handle → Handle) :
    (s.modifyHandle i f).executor = s.executor.modifyHandle i f := rfl

@[simp] theorem State.modifyHandle_actionClients (s : State) (i : Nat) (f : Handle → Handle) :
    (s.modifyHandle i f).actionClients = s.actionClients := rfl

@[simp] theorem State.modifyHandle_actionServers (s : State) (i : Nat) (f : Handle → Handle) :
    (s.modifyHandle i f).actionServers = s.actionServers := rfl

@[simp] theorem State.setActionClient_executor (s : State) (p : Ptr) (c : ActionClient) :
    (s.setActionClient p c).executor = s.executor := rfl

@[simp] theorem State.setActionClient_actionServers (s : State) (p : Ptr) (c : ActionClient) :
    (s.setActionClient p c).actionServers = s.actionServers := rfl

@[simp] theorem State.setActionServer_executor (s : State) (p : Ptr) (a : ActionServer) :
    (s.setActionServer p a).executor = s.executor := rfl

@[simp] theorem State.setActionServer_actionClients (s : State) (p : Ptr) (a : ActionServer) :
    (s.setActionServer p a).actionClients = s.actionClients := rfl

/-! ### Readiness -/

/-- `_rclc_check_for_new_data` for the handle at position `i`. -/
def rclcCheckForNewData (mw : Middleware) (i : Nat) (s : State) : RclRet × State × List Event :=
  let h := s.executor.handles i
  let mark (ready : Nat → Bool) :=
    s.modifyHandle i fun h => { h with dataAvailable := ready h.index }
  match h.type with
  | .subscription | .subscriptionWithContext => (rclRetOk, mark mw.subscriptions, [])
  | .timer => (rclRetOk, mark mw.timers, [])
  | .service | .serviceWithRequestId | .serviceWithContext => (rclRetOk, mark mw.services, [])
  | .client | .clientWithRequestId => (rclRetOk, mark mw.clients, [])
  | .guardCondition => (rclRetOk, mark mw.guardConditions, [])
  | .actionClient =>
      let r := mw.actionClientEntitiesReady i
      (r.1.code,
        s.setActionClient h.endpoint { s.actionClients h.endpoint with
          feedbackAvailable := r.2.feedback, statusAvailable := r.2.status,
          goalResponseAvailable := r.2.goalResponse, cancelResponseAvailable := r.2.cancelResponse,
          resultResponseAvailable := r.2.resultResponse },
        [.entitiesReady r.1])
  | .actionServer =>
      let r := mw.actionServerEntitiesReady i
      (r.1.code,
        s.setActionServer h.endpoint { s.actionServers h.endpoint with
          goalRequestAvailable := r.2.goalRequest, cancelRequestAvailable := r.2.cancelRequest,
          resultRequestAvailable := r.2.resultRequest, goalExpiredAvailable := r.2.goalExpired },
        [.entitiesReady r.1])
  | .none => (rclRetError, s, [])

/-! ### Take -/

/-- The parts of an action case of `_rclc_take_new_data`, run in order; the first part whose
take fails ends the case with that status. -/
def runParts {σ : Type} : List (σ → MwRet × σ × List Event) → σ → RclRet × σ × List Event
  | [], a => (rclRetOk, a, [])
  | part :: parts, a =>
      let r := part a
      match r.1 with
      | .error e => (e.1, r.2.1, r.2.2)
      | .ok =>
          let r' := runParts parts r.2.1
          (r'.1, r'.2.1, r.2.2 ++ r'.2.2)

/-- The goal-response part of the action-client case. -/
def takeGoalResponsePart (mw : Middleware) (i : Nat) (c : ActionClient) :
    MwRet × ActionClient × List Event :=
  if c.goalResponseAvailable then
    let r := mw.takeGoalResponse i
    match r.1 with
    | .error _ => (r.1, c, [.takeGoalResponse r.1])
    | .ok =>
        (.ok,
          match rclcActionFindHandleByGoalRequestSequenceNumber c.goals r.2.1 with
          | none => c
          | some g => { c with goals := c.goals.modify g.slot fun g =>
              { g with availableGoalResponse := true, goalAccepted := r.2.2 } },
          [.takeGoalResponse r.1])
  else (.ok, c, [])

/-- The feedback part of the action-client case. -/
def takeFeedbackPart (mw : Middleware) (i : Nat) (c : ActionClient) :
    MwRet × ActionClient × List Event :=
  if c.feedbackCallback ≠ 0 ∧ c.feedbackAvailable then
    let r := mw.takeFeedback i
    match r.1 with
    | .error _ => (r.1, c, [.takeFeedback r.1])
    | .ok =>
        (.ok,
          match rclcActionFindGoalHandleByUuid c.goals r.2 with
          | none => c
          | some g => { c with goals := c.goals.modify g.slot fun g =>
              { g with availableFeedback := true } },
          [.takeFeedback r.1])
  else (.ok, c, [])

/-- The cancel-response part of the action-client case: the goal handle matched by
sequence number is marked cancelled as soon as any listed goal id belongs to any of the
client's goal handles. -/
def takeCancelResponsePart (mw : Middleware) (i : Nat) (c : ActionClient) :
    MwRet × ActionClient × List Event :=
  if c.cancelResponseAvailable then
    let r := mw.takeCancelResponse i
    match r.1 with
    | .error _ => (r.1, c, [.takeCancelResponse r.1])
    | .ok =>
        let c := { c with goalsCanceling := r.2.2 }
        (.ok,
          match rclcActionFindHandleByCancelRequestSequenceNumber c.goals r.2.1 with
          | none => c
          | some g => { c with goals := c.goals.modify g.slot fun g =>
              { g with
                availableCancelResponse := true,
                goalCancelled :=
                  r.2.2.any fun id => (rclcActionFindGoalHandleByUuid c.goals id).isSome } },
          [.takeCancelResponse r.1])
  else (.ok, c, [])

/-- The result-response part of the action-client case. -/
def takeResultResponsePart (mw : Middleware) (i : Nat) (c : ActionClient) :
    MwRet × ActionClient × List Event :=
  if c.resultResponseAvailable then
    let r := mw.takeResultResponse i
    match r.1 with
    | .error _ => (r.1, c, [.takeResultResponse r.1])
    | .ok =>
        (.ok,
          match rclcActionFindHandleByResultRequestSequenceNumber c.goals r.2 with
          | none => c
          | some g => { c with goals := c.goals.modify g.slot fun g =>
              { g with availableResultResponse := true } },
          [.takeResultResponse r.1])
  else (.ok, c, [])

/-- The goal-request part of the action-server case: a free goal handle is taken, and given
back if the take fails; with no free goal handle the request stays in the middleware. -/
def takeGoalRequestPart (mw : Middleware) (i : Nat) (a : ActionServer) :
    MwRet × ActionServer × List Event :=
  if a.goalRequestAvailable then
    match rclcActionTakeGoalHandle a.goals with
    | (none, _) => (.ok, a, [])
    | (some g, pool) =>
        let r := mw.takeGoalRequest i
        match r.1 with
        | .error _ =>
            (r.1, { a with goals := rclcActionRemoveUsedGoalHandle pool g.slot },
              [.takeGoalRequest r.1])
        | .ok =>
            (.ok, { a with goals := pool.modify g.slot fun g =>
                { g with goalRequestHeader := r.2.1, goalId := r.2.2, status := .unknown } },
              [.takeGoalRequest r.1])
  else (.ok, a, [])

/-- The result-request part of the action-server case: the goal found by its id is set to
`GOAL_STATE_EXECUTING`, whatever its status was. -/
def takeResultRequestPart (mw : Middleware) (i : Nat) (a : ActionServer) :
    MwRet × ActionServer × List Event :=
  if a.resultRequestAvailable then
    let r := mw.takeResultRequest i
    match r.1 with
    | .error _ => (r.1, a, [.takeResultRequest r.1])
    | .ok =>
        let a := match rclcActionFindGoalHandleByUuid a.goals r.2.2 with
          | none => a
          | some g => { a with goals := a.goals.modify g.slot fun g =>
              { g with resultRequestHeader := r.2.1, status := .executing } }
        (.ok, { a with resultRequestAvailable := false }, [.takeResultRequest r.1])
  else (.ok, a, [])

/-- The cancel-request part of the action-server case: a goal that the cancel event can
move to `GOAL_STATE_CANCELING` is moved there; otherwise the request is rejected at once. -/
def takeCancelRequestPart (mw : Middleware) (i : Nat) (a : ActionServer) :
    MwRet × ActionServer × List Event :=
  if a.cancelRequestAvailable then
    let r := mw.takeCancelRequest i
    match r.1 with
    | .error _ => (r.1, a, [.takeCancelRequest r.1])
    | .ok =>
        match rclcActionFindGoalHandleByUuid a.goals r.2.2 with
        | none => (.ok, a, [.takeCancelRequest r.1, .cancelReject .unknownGoal r.2.1])
        | some g =>
            if rclActionTransitionGoalState g.status .cancelGoal = .canceling then
              (.ok, { a with goals := a.goals.modify g.slot fun g =>
                  { g with cancelRequestHeader := r.2.1, status := .canceling } },
                [.takeCancelRequest r.1])
            else (.ok, a, [.takeCancelRequest r.1, .cancelReject .terminated r.2.1])
  else (.ok, a, [])

/-- `_rclc_take_new_data` for the handle at position `i`. -/
def rclcTakeNewData (mw : Middleware) (i : Nat) (s : State) : RclRet × State × List Event :=
  let h := s.executor.handles i
  match h.type with
  | .subscription | .subscriptionWithContext =>
      if mw.subscriptions h.index then
        let r := mw.take i
        match r with
        | .ok _ => (rclRetOk, s, [.take r])
        | .benign =>
            (rclRetSubscriptionTakeFailed,
              s.modifyHandle i fun h => { h with dataAvailable := false }, [.take r])
        | .error e => (e.1, s, [.take r])
      else (rclRetOk, s, [])
  | .timer | .guardCondition => (rclRetOk, s, [])
  | .actionClient =>
      let r := runParts [takeGoalResponsePart mw i, takeFeedbackPart mw i,
        takeCancelResponsePart mw i, takeResultResponsePart mw i] (s.actionClients h.endpoint)
      (r.1, s.setActionClient h.endpoint r.2.1, r.2.2)
  | .actionServer =>
      let r := runParts [takeGoalRequestPart mw i, takeResultRequestPart mw i,
        takeCancelRequestPart mw i] (s.actionServers h.endpoint)
      (r.1, s.setActionServer h.endpoint r.2.1, r.2.2)
  | .service | .serviceWithRequestId | .serviceWithContext =>
      if mw.services h.index then
        let r := mw.takeRequest i
        match r with
        | .ok (reqId, _) =>
            (rclRetOk, s.modifyHandle i fun h => { h with reqId }, [.takeRequest r])
        | .benign =>
            (rclRetServiceTakeFailed,
              s.modifyHandle i fun h => { h with dataAvailable := false }, [.takeRequest r])
        | .error e => (e.1, s, [.takeRequest r])
      else (rclRetOk, s, [])
  | .client | .clientWithRequestId =>
      if mw.clients h.index then
        let r := mw.takeResponse i
        match r with
        | .ok (reqId, _) =>
            (rclRetOk, s.modifyHandle i fun h => { h with reqId }, [.takeResponse r])
        | .benign => (rclRetClientTakeFailed, s, [.takeResponse r])
        | .error e => (e.1, s, [.takeResponse r])
      else (rclRetOk, s, [])
  | .none => (rclRetError, s, [])

end RclcExecutor
