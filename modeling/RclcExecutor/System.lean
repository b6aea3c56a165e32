import RclcExecutor.Spin

/-!
The executor as a system: the calls a program makes on it, each with the middleware's
answers to the calls it makes in turn, and the states reachable from a successful
`rclc_executor_init`.

Besides the executor's own API, a program acts on its action endpoints through rclc's
`action_client.c` and `action_server.c`, which are not part of the sources at hand. The
three calls the executor's behaviour depends on are written here as the spec describes
them: a goal request acquires a goal handle, a cancel request records its sequence number,
and the user's terminal transition sets a terminal status and `goal_ended`.
-/

namespace RclcExecutor

/-- Modelled from the spec: `rclc_action_send_goal_request` acquires a free goal handle for
the goal `goalId` and records the sequence number `seq` rcl_action assigns to the request;
when sending fails the goal handle is given back. -/
def rclcActionSendGoalRequest (c : ActionClient) (goalId : Nat) (ret : MwRet) (seq : Nat) :
    RclRet × ActionClient :=
  match rclcActionTakeGoalHandle c.goals with
  | (none, _) => (rclRetError, c)
  | (some g, pool) =>
      match ret with
      | .error e => (e.1, { c with goals := rclcActionRemoveUsedGoalHandle pool g.slot })
      | .ok =>
          (rclRetOk, { c with goals := pool.modify g.slot fun g =>
            { g with
              goalId, goalRequestSequenceNumber := seq, status := .unknown, goalAccepted := false,
              goalCancelled := false, availableGoalResponse := false, availableFeedback := false,
              availableCancelResponse := false, availableResultResponse := false } })

/-- Modelled from the spec: `rclc_action_send_cancel_request` records the sequence number
of the cancel request sent for the goal handle `slot`. -/
def rclcActionSendCancelRequest (c : ActionClient) (slot : Nat) (ret : MwRet) (seq : Nat) :
    RclRet × ActionClient :=
  match ret with
  | .error e => (e.1, c)
  | .ok => (rclRetOk, { c with goals := c.goals.modify slot fun g =>
      { g with cancelRequestSequenceNumber := seq } })

/-- Modelled from the spec: `rclc_action_send_result`, the user's terminal transition of
the goal handle `slot`, sets its status and `goal_ended`; it refuses a status that is not
terminal. -/
def rclcActionSendResult (a : ActionServer) (slot : Nat) (status : GoalState) :
    RclRet × ActionServer :=
  if status.isTerminal then
    (rclRetOk,
      { a with goals := a.goals.modify slot (fun g => { g with status }), goalEnded := true })
  else (rclRetError, a)

/-- A call of the program, with the middleware's answers to the calls it makes. -/
inductive Op
  | addSubscription (subscription msg callback : Ptr) (invocation : HandleInvocation)
      (finiRet : MwRet)
  | addSubscriptionWithContext (subscription msg callback context : Ptr)
      (invocation : HandleInvocation) (finiRet : MwRet)
  | addTimer (timer : Ptr) (finiRet : MwRet)
  | addClient (client responseMsg callback : Ptr) (finiRet : MwRet)
  | addClientWithRequestId (client responseMsg callback : Ptr) (finiRet : MwRet)
  | addService (service requestMsg responseMsg callback : Ptr) (finiRet : MwRet)
  | addServiceWithContext (service requestMsg responseMsg callback context : Ptr)
      (finiRet : MwRet)
  | addServiceWithRequestId (service requestMsg responseMsg callback : Ptr) (finiRet : MwRet)
  | addGuardCondition (gc callback : Ptr) (finiRet : MwRet)
  | addActionClient (actionClient handlesNumber rosResultResponse rosFeedback goalCallback
      feedbackCallback resultCallback cancelCallback context : Nat) (allocOk : Bool)
      (finiRet : MwRet) (entities : MwRet × NumEntities)
  | addActionServer (actionServer handlesNumber rosGoalRequest rosGoalRequestSize goalCallback
      cancelCallback context : Nat) (allocOk : Bool) (finiRet : MwRet)
      (entities : MwRet × NumEntities)
  | removeSubscription (subscription : Ptr) (finiRet : MwRet)
  | removeTimer (timer : Ptr) (finiRet : MwRet)
  | removeClient (client : Ptr) (finiRet : MwRet)
  | removeService (service : Ptr) (finiRet : MwRet)
  | removeGuardCondition (gc : Ptr) (finiRet : MwRet)
  | prepare (initRet : MwRet)
  | spinSome (mw : Middleware)
  | fini
  | setTimeout (timeoutNs : Nat)
  | setSemantics (semantics : Semantics)
  | setTrigger (triggerFunction : Trigger) (triggerObject : Ptr)
  | sendGoalRequest (actionClient goalId : Nat) (ret : MwRet) (seq : Nat)
  | sendCancelRequest (actionClient slot : Nat) (ret : MwRet) (seq : Nat)
  | sendResult (actionServer slot : Nat) (status : GoalState)

/-- A call that works on the executor record alone. -/
def onExecutor (s : State) (r : RclRet × Executor) : RclRet × State :=
  (r.1, { s with executor := r.2 })

/-- What a call returns and the state it leaves. -/
def Op.exec : Op → State → RclRet × State
  | .addSubscription p m c inv f, s =>
      onExecutor s (rclcExecutorAddSubscription s.executor p m c inv f)
  | .addSubscriptionWithContext p m c x inv f, s =>
      onExecutor s (rclcExecutorAddSubscriptionWithContext s.executor p m c x inv f)
  | .addTimer p f, s => onExecutor s (rclcExecutorAddTimer s.executor p f)
  | .addClient p m c f, s => onExecutor s (rclcExecutorAddClient s.executor p m c f)
  | .addClientWithRequestId p m c f, s =>
      onExecutor s (rclcExecutorAddClientWithRequestId s.executor p m c f)
  | .addService p q r c f, s => onExecutor s (rclcExecutorAddService s.executor p q r c f)
  | .addServiceWithContext p q r c x f, s =>
      onExecutor s (rclcExecutorAddServiceWithContext s.executor p q r c x f)
  | .addServiceWithRequestId p q r c f, s =>
      onExecutor s (rclcExecutorAddServiceWithRequestId s.executor p q r c f)
  | .addGuardCondition p c f, s => onExecutor s (rclcExecutorAddGuardCondition s.executor p c f)
  | .addActionClient p n r fb gc fc rc cc x a f en, s =>
      rclcExecutorAddActionClient s p n r fb gc fc rc cc x a f en
  | .addActionServer p n g gs gc cc x a f en, s =>
      rclcExecutorAddActionServer s p n g gs gc cc x a f en
  | .removeSubscription p f, s => onExecutor s (rclcExecutorRemoveSubscription s.executor p f)
  | .removeTimer p f, s => onExecutor s (rclcExecutorRemoveTimer s.executor p f)
  | .removeClient p f, s => onExecutor s (rclcExecutorRemoveClient s.executor p f)
  | .removeService p f, s => onExecutor s (rclcExecutorRemoveService s.executor p f)
  | .removeGuardCondition p f, s =>
      onExecutor s (rclcExecutorRemoveGuardCondition s.executor p f)
  | .prepare r, s =>
      let p := rclcExecutorPrepare s.executor r
      (p.1, { s with executor := p.2.1 })
  | .spinSome mw, s =>
      let r := rclcExecutorSpinSome mw s
      (r.ret, r.state)
  | .fini, s => onExecutor s (rclcExecutorFini s.executor)
  | .setTimeout t, s => onExecutor s (rclcExecutorSetTimeout s.executor t)
  | .setSemantics m, s => onExecutor s (rclcExecutorSetSemantics s.executor m)
  | .setTrigger t o, s => onExecutor s (rclcExecutorSetTrigger s.executor t o)
  | .sendGoalRequest p id r seq, s =>
      let r := rclcActionSendGoalRequest (s.actionClients p) id r seq
      (r.1, s.setActionClient p r.2)
  | .sendCancelRequest p slot r seq, s =>
      let r := rclcActionSendCancelRequest (s.actionClients p) slot r seq
      (r.1, s.setActionClient p r.2)
  | .sendResult p slot st, s =>
      let r := rclcActionSendResult (s.actionServers p) slot st
      (r.1, s.setActionServer p r.2)

/-- The state `rclc_executor_init` leaves when it succeeds on a zero-initialised executor;
the action records hold whatever the program put there. -/
def initState (context numberOfHandles allocator : Nat) (block : Nat → Handle)
    (clients : Ptr → ActionClient) (servers : Ptr → ActionServer) : State :=
  ⟨(rclcExecutorInit (rclcExecutorGetZeroInitializedExecutor block) context numberOfHandles
      allocator true block).2, clients, servers⟩

/-- The states a program reaches: `rclc_executor_init` succeeds, then any calls follow. -/
inductive Reachable : State → Prop
  | init {context numberOfHandles allocator : Nat} (block : Nat → Handle)
      (clients : Ptr → ActionClient) (servers : Ptr → ActionServer) :
      context ≠ 0 → numberOfHandles ≠ 0 → allocator ≠ 0 →
      Reachable (initState context numberOfHandles allocator block clients servers)
  | step {s : State} (op : Op) : Reachable s → Reachable (op.exec s).2

/-- The state after a sequence of calls. -/
def runOps : List Op → State → State
  | [], s => s
  | op :: ops, s => runOps ops (op.exec s).2

theorem Reachable.runOps {s : State} (h : Reachable s) (ops : List Op) :
    Reachable (RclcExecutor.runOps ops s) := by
  induction ops generalizing s with
  | nil => exact h
  | cons op ops ih => exact ih (h.step op)

/-! ### Concrete records

What the runs on fixed inputs start from: a program with no action endpoint registered,
`rclc_executor_init` with room for `n` handles, and a round in which the middleware
reports nothing ready and every call succeeds.
-/

/-- A handle record as the allocator may hand it out, before `rclc_executor_init` resets it. -/
def Handle.blank : Handle := ⟨.none, .onNewData, 0, 0, 0, 0, 0, 0, 0, false, false⟩

/-- An action client record that is not registered. -/
def ActionClient.blank : ActionClient :=
  ⟨false, false, false, false, false, 0, 0, 0, 0, ⟨[], []⟩, 0, 0, 0, [], 0, 0⟩

/-- An action server record that is not registered. -/
def ActionServer.blank : ActionServer := ⟨false, false, false, false, false, 0, 0, ⟨[], []⟩, 0, 0⟩

/-- `rclc_executor_init` with room for `n` handles, in a program without action endpoints. -/
def initBlank (n : Nat) : State :=
  initState 1 n 1 (fun _ => Handle.blank) (fun _ => ActionClient.blank)
    (fun _ => ActionServer.blank)

theorem reachable_initBlank {n : Nat} (hn : n ≠ 0) : Reachable (initBlank n) :=
  Reachable.init _ _ _ Nat.one_ne_zero hn Nat.one_ne_zero

/-- A round in which nothing is ready and every call succeeds; a take finds nothing. -/
def Middleware.idle : Middleware where
  contextIsValid := true
  waitSetInit := .ok
  waitSetClear := .ok
  waitSetAdd := fun i => (.ok, i)
  wait := .ok
  subscriptions := fun _ => false
  guardConditions := fun _ => false
  timers := fun _ => false
  clients := fun _ => false
  services := fun _ => false
  actionClientEntitiesReady := fun _ => (.ok, ⟨false, false, false, false, false⟩)
  actionServerEntitiesReady := fun _ => (.ok, ⟨false, false, false, false⟩)
  take := fun _ => .benign
  takeRequest := fun _ => .benign
  takeResponse := fun _ => .benign
  timerCall := fun _ => .ok ()
  sendResponse := fun _ => .ok
  takeGoalResponse := fun _ => (.ok, 0, false)
  takeFeedback := fun _ => (.ok, 0)
  takeCancelResponse := fun _ => (.ok, 0, [])
  takeResultResponse := fun _ => (.ok, 0)
  sendResultRequest := fun _ _ => (.ok, 0)
  takeGoalRequest := fun _ => (.ok, 0, 0)
  takeResultRequest := fun _ => (.ok, 0, 0)
  takeCancelRequest := fun _ => (.ok, 0, 0)
  goalCallback := fun _ _ => rclRetActionGoalAccepted
  cancelCallback := fun _ _ => true
  userTrigger := false

/-- A round in which every subscription has a message, `7`, and every other call succeeds. -/
def messageRound : Middleware :=
  { Middleware.idle with subscriptions := fun _ => true, take := fun _ => .ok 7 }

/-- `rclc_executor_init` with three slots, a subscription at address `1` (message buffer `2`,
callback `3`) and a timer at address `4`. -/
def subscriptionAndTimer : State :=
  runOps [.addSubscription 1 2 3 .onNewData .ok, .addTimer 4 .ok] (initBlank 3)

theorem reachable_subscriptionAndTimer : Reachable subscriptionAndTimer :=
  (reachable_initBlank (by decide)).runOps _

end RclcExecutor
