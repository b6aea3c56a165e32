import RclcExecutor.TableShape

/-!
The goal handles of an action server across rounds.

A round's take pass takes at most one goal, one result and one cancel request per action
server, and its execute pass then sweeps the used goal handles: it releases the
terminated ones when the user has ended a goal, decides on the goals still in
`GOAL_STATE_UNKNOWN`, and offers every goal in `GOAL_STATE_CANCELING` to `cancel_callback`.
Each sweep is gated on a readiness flag of the round, and the take of a result request
sets `GOAL_STATE_EXECUTING` without looking at the goal's status.

The runs below start from an executor with one action server, registered at address `5`
with two goal handles, and drive it with one middleware per round.

On the client side, the take of a cancel response finds the goal handle by the sequence
number of the cancel request, and marks it cancelled when any goal id the response lists
belongs to any used goal handle of the client, whether or not it is the matched one.
-/

namespace RclcExecutor

/-! ### An action server and its rounds -/

/-- `rclc_executor_init` with one slot, then `rclc_executor_add_action_server` of the server
at address `5` with two goal handles. -/
def serverState : State :=
  runOps [.addActionServer 5 2 100 1 7 8 0 true .ok (.ok, ⟨0, 0, 0, 0, 0⟩)] (initBlank 1)

theorem reachable_serverState : Reachable serverState :=
  (reachable_initBlank Nat.one_ne_zero).runOps _

/-- A round in which `rcl_action_server_wait_set_get_entities_ready` reports a goal
request, a cancel request, a result request and an expired goal as given. -/
def serverRound (goal cancel result expired : Bool) : Middleware :=
  { Middleware.idle with
    actionServerEntitiesReady := fun _ => (.ok, ⟨goal, cancel, result, expired⟩) }

/-- A round that takes a goal request for the goal `id`. -/
def goalRequestRound (id : Nat) : Middleware :=
  { serverRound true false false false with takeGoalRequest := fun _ => (.ok, 10 + id, id) }

/-- A round that takes a cancel request for the goal `id`; `cancel_callback` accepts. -/
def cancelRequestRound (id : Nat) : Middleware :=
  { serverRound false true false false with takeCancelRequest := fun _ => (.ok, 20 + id, id) }

/-- A round that takes a result request for the goal `id`. -/
def resultRequestRound (id : Nat) : Middleware :=
  { serverRound false false true false with takeResultRequest := fun _ => (.ok, 30 + id, id) }

/-- The statuses of the used goal handles of the server at address `5`, head first. -/
def serverStatuses (s : State) : List (Nat × GoalState) :=
  (s.actionServers 5).goals.used.map fun g => (g.goalId, g.status)

/-! ### A result request undoes an accepted cancel -/

/-- The goal `42` is accepted, then a cancel request for it is accepted, which leaves it in
`GOAL_STATE_CANCELING`; a later round that takes a result request for it moves it to
`GOAL_STATE_EXECUTING`, an edge the goal state machine does not have. -/
theorem resultRequest_leaves_canceling :
    Reachable (runOps [.spinSome (goalRequestRound 42), .spinSome (cancelRequestRound 42)]
      serverState) ∧
    serverStatuses (runOps [.spinSome (goalRequestRound 42), .spinSome (cancelRequestRound 42)]
      serverState) = [(42, .canceling)] ∧
    serverStatuses (runOps [.spinSome (goalRequestRound 42), .spinSome (cancelRequestRound 42),
      .spinSome (resultRequestRound 42)] serverState) = [(42, .executing)] :=
  ⟨reachable_serverState.runOps _, by decide, by decide⟩

/-! ### An accepted cancel is offered again -/

/-- A round that takes a goal request for the goal `43` and a cancel request for the goal `42`. -/
def goalAndCancelRound : Middleware :=
  { serverRound true true false false with
    takeGoalRequest := fun _ => (.ok, 53, 43), takeCancelRequest := fun _ => (.ok, 62, 42) }

/-- The goal `42` is accepted; the next round accepts the goal `43` and accepts a cancel
request, with header `62`, for `42`. The round that then takes a cancel request for `43`
offers both goals to `cancel_callback` and sends a second accept for the old header `62`. -/
theorem cancel_sweep_repeats_accept :
    Reachable (runOps [.spinSome (goalRequestRound 42), .spinSome goalAndCancelRound]
      serverState) ∧
    (rclcExecutorSpinSome goalAndCancelRound
      (runOps [.spinSome (goalRequestRound 42)] serverState)).calls.flatMap Call.events =
      [.entitiesReady .ok, .takeGoalRequest .ok, .takeCancelRequest .ok, .callback 7 [1, 0],
        .goalResponse 1 true, .callback 8 [0, 0], .cancelAccept 0 62] ∧
    (rclcExecutorSpinSome (cancelRequestRound 43)
      (runOps [.spinSome (goalRequestRound 42), .spinSome goalAndCancelRound]
        serverState)).calls.flatMap Call.events =
      [.entitiesReady .ok, .takeCancelRequest .ok, .callback 8 [1, 0], .cancelAccept 1 63,
        .callback 8 [0, 0], .cancelAccept 0 62] :=
  ⟨reachable_serverState.runOps _, by decide, by decide⟩

/-! ### A taken goal request is stranded -/

/-- A round that takes the goal request for the goal `42` and then fails to take a result
request, which ends the round before the server's execute. -/
def strandingRound : Middleware :=
  { serverRound true false true false with
    takeGoalRequest := fun _ => (.ok, 52, 42), takeResultRequest := fun _ => (.error .error, 0, 0) }

/-- After the round that takes the goal `42` and ends early, a round in which only an expired
goal is reported fires the trigger, so that the server's take and execute run, and returns
`RCL_RET_OK`; the goal is still in `GOAL_STATE_UNKNOWN`, and `goal_callback` is never called
for it. -/
theorem goal_request_stranded :
    Reachable (runOps [.spinSome strandingRound] serverState) ∧
    (rclcExecutorSpinSome (serverRound false false false true)
      (runOps [.spinSome strandingRound] serverState)).calls.map (fun c => (c.pass, c.pos, c.ret)) =
      [(.checkForNewData, 0, rclRetOk), (.takeNewData, 0, rclRetOk), (.execute, 0, rclRetOk)] ∧
    (rclcExecutorSpinSome (serverRound false false false true)
      (runOps [.spinSome strandingRound] serverState)).ret = rclRetOk ∧
    serverStatuses (runOps [.spinSome strandingRound,
      .spinSome (serverRound false false false true)] serverState) = [(42, .unknown)] :=
  ⟨reachable_serverState.runOps _, by decide, by decide, by decide⟩

/-! ### A cancel response marks the goal it answers by the other goals' ids -/

/-- After the take of a cancel response, every goal handle in the slot of the one the
sequence number matched is marked cancelled exactly when some id the response lists is the
goal id of some used goal handle of the client. -/
theorem takeCancelResponsePart_goalCancelled {mw : Middleware} {i : Nat} {c : ActionClient}
    {seq : Nat} {ids : List Nat} {g : GoalHandle} (hc : c.cancelResponseAvailable = true)
    (hr : mw.takeCancelResponse i = (.ok, seq, ids))
    (hg : rclcActionFindHandleByCancelRequestSequenceNumber c.goals seq = some g) :
    ∀ g' ∈ (takeCancelResponsePart mw i c).2.1.goals.used, g'.slot = g.slot →
      g'.goalCancelled = ids.any fun id => c.goals.used.any (·.goalId = id) := by
  have hfind : ∀ id, (rclcActionFindGoalHandleByUuid c.goals id).isSome =
      c.goals.used.any (·.goalId = id) := fun id =>
    Bool.eq_iff_iff.2 (by simp [rclcActionFindGoalHandleByUuid, GoalPool.findFirst])
  simp only [takeCancelResponsePart, hc, hr, if_true, hg, GoalPool.modify_used, List.mem_map]
  rintro _ ⟨g', -, rfl⟩ hslot
  by_cases h : g'.slot = g.slot
  · simp only [h, if_true, hfind]
  · simp only [h, if_false] at hslot

/-- An action client at address `6` with two goal handles: the goals `41` and `42` are
requested, and a cancel request with sequence number `5` is sent for the goal `41`. -/
def cancelClientState : State :=
  runOps [.addActionClient 6 2 100 0 11 0 12 13 0 true .ok (.ok, ⟨0, 0, 0, 0, 0⟩),
    .sendGoalRequest 6 41 .ok 1, .sendGoalRequest 6 42 .ok 2, .sendCancelRequest 6 0 .ok 5]
    (initBlank 1)

/-- A round that takes the cancel response with sequence number `5`, listing only the goal
`42` as canceling. -/
def cancelResponseRound : Middleware :=
  { Middleware.idle with
    actionClientEntitiesReady := fun _ => (.ok, ⟨false, false, false, true, false⟩)
    takeCancelResponse := fun _ => (.ok, 5, [42]) }

/-- The response to the cancel request for the goal `41` lists only the goal `42`, yet the
goal `41` is marked cancelled and `cancel_callback` is told so (its second argument). -/
theorem cancel_response_marks_unlisted :
    Reachable cancelClientState ∧
    (cancelClientState.actionClients 6).goals.used.map
      (fun g => (g.slot, g.goalId, g.cancelRequestSequenceNumber)) = [(1, 42, 0), (0, 41, 5)] ∧
    ((rclcExecutorSpinSome cancelResponseRound cancelClientState).state.actionClients 6).goals.used.map
      (fun g => (g.goalId, g.goalCancelled)) = [(42, false), (41, true)] ∧
    ((rclcExecutorSpinSome cancelResponseRound cancelClientState).calls.flatMap Call.events).filter
      Event.isCallback = [.callback 13 [0, 1, 0]] :=
  ⟨(reachable_initBlank Nat.one_ne_zero).runOps _, by decide, by decide, by decide⟩

end RclcExecutor
