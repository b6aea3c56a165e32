import RclcExecutor.Handle

/-!
Action clients and servers as the executor sees them: the goal state machine of
rcl_action, the goal handles, and the pool of goal handles every action endpoint owns.

The pool helpers (`rclc_action_take_goal_handle`, `rclc_action_remove_used_goal_handle`
and the `rclc_action_find_*` family) live in rclc's `action_goal_handle.c`, which is not
part of the sources at hand; they are written here as the spec and their names describe
them: a free list and a used list of goal handles, searched from the head.
-/

namespace RclcExecutor

/-- `rcl_action_goal_state_t`. -/
inductive GoalState
  | unknown | accepted | executing | canceling | succeeded | canceled | aborted
  deriving DecidableEq, Repr

/-- The terminal states, `status > GOAL_STATE_CANCELING`. -/
def GoalState.isTerminal : GoalState → Bool
  | .succeeded | .canceled | .aborted => true
  | _ => false

/-- `rcl_action_goal_event_t`. -/
inductive GoalEvent
  | execute | cancelGoal | succeed | abort | canceled
  deriving DecidableEq, Repr

/-- `rcl_action_transition_goal_state`: the transition table of rcl_action's goal state
machine; an event with no transition from the state yields `GOAL_STATE_UNKNOWN`. -/
def rclActionTransitionGoalState : GoalState → GoalEvent → GoalState
  | .accepted, .execute => .executing
  | .accepted, .cancelGoal => .canceling
  | .executing, .cancelGoal => .canceling
  | .executing, .succeed => .succeeded
  | .executing, .abort => .aborted
  | .canceling, .succeed => .succeeded
  | .canceling, .abort => .aborted
  | .canceling, .canceled => .canceled
  | _, _ => .unknown

theorem cancelGoal_eq_canceling_iff (s : GoalState) :
    rclActionTransitionGoalState s .cancelGoal = .canceling ↔
      s = .accepted ∨ s = .executing := by
  cases s <;> simp [rclActionTransitionGoalState]

/-- `rclc_action_goal_handle_t`. `slot` is the position of the record in the endpoint's
`goal_handles_memory`: it is the goal handle's address. The fields of the server side
(headers, `ros_goal_request`) and of the client side (sequence numbers, `available_*`)
share the record, as in C. -/
structure GoalHandle where
  slot : Nat
  goalId : Nat
  status : GoalState
  goalRequestHeader : Nat
  resultRequestHeader : Nat
  cancelRequestHeader : Nat
  rosGoalRequest : Ptr
  goalAccepted : Bool
  goalCancelled : Bool
  availableGoalResponse : Bool
  availableFeedback : Bool
  availableCancelResponse : Bool
  availableResultResponse : Bool
  goalRequestSequenceNumber : Nat
  cancelRequestSequenceNumber : Nat
  resultRequestSequenceNumber : Nat
  deriving DecidableEq, Repr

/-- A goal handle fresh from `rclc_action_init_goal_handle_memory`. -/
def GoalHandle.fresh (slot : Nat) : GoalHandle :=
  ⟨slot, 0, .unknown, 0, 0, 0, 0, false, false, false, false, false, false, 0, 0, 0⟩

/-- The `free_goal_handles` and `used_goal_handles` lists that `rclc_generic_entity_t`
gives action clients and servers alike, head first. -/
structure GoalPool where
  used : List GoalHandle
  free : List GoalHandle
  deriving DecidableEq, Repr

/-- Modelled from the spec: `rclc_action_init_goal_handle_memory`, all `n` handles free. -/
def rclcActionInitGoalHandleMemory (n : Nat) : GoalPool :=
  ⟨[], (List.range n).map GoalHandle.fresh⟩

/-- Modelled from the spec: `rclc_action_take_goal_handle` moves the head of the free list to
the head of the used list, or returns `NULL` when no handle is free. -/
def rclcActionTakeGoalHandle (p : GoalPool) : Option GoalHandle × GoalPool :=
  match p.free with
  | [] => (none, p)
  | g :: free => (some g, ⟨g :: p.used, free⟩)

/-- Modelled from the spec: `rclc_action_remove_used_goal_handle` unlinks the handle from the
used list and pushes it on the free list. -/
def rclcActionRemoveUsedGoalHandle (p : GoalPool) (slot : Nat) : GoalPool :=
  match p.used.find? (·.slot = slot) with
  | none => p
  | some g => ⟨p.used.filter (·.slot ≠ slot), g :: p.free⟩

/-- A store through a goal-handle pointer into the used list. -/
def GoalPool.modify (p : GoalPool) (slot : Nat) (f : GoalHandle → GoalHandle) : GoalPool :=
  { p with used := p.used.map fun g => if g.slot = slot then f g else g }

/-- Modelled from the spec: the first used goal handle with a property, which every
`rclc_action_find_*` helper looks for. -/
def GoalPool.findFirst (p : GoalPool) (q : GoalHandle → Bool) : Option GoalHandle :=
  p.used.find? q

/-- Modelled from the spec: `rclc_action_find_goal_handle_by_uuid`. -/
def rclcActionFindGoalHandleByUuid (p : GoalPool) (uuid : Nat) : Option GoalHandle :=
  p.findFirst (·.goalId = uuid)

/-- Modelled from the spec: `rclc_action_find_first_handle_by_status`. -/
def rclcActionFindFirstHandleByStatus (p : GoalPool) (s : GoalState) : Option GoalHandle :=
  p.findFirst (·.status = s)

/-- Modelled from the spec: `rclc_action_find_first_terminated_handle`. -/
def rclcActionFindFirstTerminatedHandle (p : GoalPool) : Option GoalHandle :=
  p.findFirst (·.status.isTerminal)

/-- Modelled from the spec: `rclc_action_find_handle_by_goal_request_sequence_number`. -/
def rclcActionFindHandleByGoalRequestSequenceNumber (p : GoalPool) (seq : Nat) :
    Option GoalHandle :=
  p.findFirst (·.goalRequestSequenceNumber = seq)

/-- Modelled from the spec: `rclc_action_find_handle_by_cancel_request_sequence_number`. -/
def rclcActionFindHandleByCancelRequestSequenceNumber (p : GoalPool) (seq : Nat) :
    Option GoalHandle :=
  p.findFirst (·.cancelRequestSequenceNumber = seq)

/-- Modelled from the spec: `rclc_action_find_handle_by_result_request_sequence_number`. -/
def rclcActionFindHandleByResultRequestSequenceNumber (p : GoalPool) (seq : Nat) :
    Option GoalHandle :=
  p.findFirst (·.resultRequestSequenceNumber = seq)

/-- Modelled from the spec: `rclc_action_find_first_handle_with_goal_response`. -/
def rclcActionFindFirstHandleWithGoalResponse (p : GoalPool) : Option GoalHandle :=
  p.findFirst (·.availableGoalResponse)

/-- Modelled from the spec: `rclc_action_find_first_handle_with_result_response`. -/
def rclcActionFindFirstHandleWithResultResponse (p : GoalPool) : Option GoalHandle :=
  p.findFirst (·.availableResultResponse)

@[simp] theorem GoalPool.modify_used (p : GoalPool) (slot : Nat) (f : GoalHandle → GoalHandle) :
    (p.modify slot f).used = p.used.map fun g => if g.slot = slot then f g else g := rfl

theorem GoalPool.findFirst_spec {p : GoalPool} {q : GoalHandle → Bool} {g : GoalHandle}
    (h : p.findFirst q = some g) : g ∈ p.used ∧ q g = true :=
  ⟨List.mem_of_find?_eq_some h, List.find?_some h⟩

theorem GoalPool.findFirst_eq_none {p : GoalPool} {q : GoalHandle → Bool} :
    p.findFirst q = none ↔ ∀ g ∈ p.used, q g = false := by
  simp [GoalPool.findFirst, List.find?_eq_none]

/-! ### Action endpoints -/

/-- The fields of `rclc_action_server_t` that the executor reads and writes. -/
structure ActionServer where
  goalRequestAvailable : Bool
  cancelRequestAvailable : Bool
  resultRequestAvailable : Bool
  goalExpiredAvailable : Bool
  goalEnded : Bool
  goalCallback : Ptr
  cancelCallback : Ptr
  goals : GoalPool
  goalHandlesMemorySize : Nat
  allocator : Ptr
  deriving DecidableEq, Repr

/-- The fields of `rclc_action_client_t` that the executor reads and writes;
`goalsCanceling` is the `goals_canceling` sequence of `ros_cancel_response`. -/
structure ActionClient where
  feedbackAvailable : Bool
  statusAvailable : Bool
  goalResponseAvailable : Bool
  cancelResponseAvailable : Bool
  resultResponseAvailable : Bool
  goalCallback : Ptr
  feedbackCallback : Ptr
  resultCallback : Ptr
  cancelCallback : Ptr
  goals : GoalPool
  goalHandlesMemorySize : Nat
  rosFeedback : Ptr
  rosResultResponse : Ptr
  goalsCanceling : List Nat
  goalsCancelingCapacity : Nat
  allocator : Ptr
  deriving DecidableEq, Repr

/-- `rclc_action_goal_cancel_state`-style reasons of a rejected cancel request. -/
inductive CancelState
  | rejected | unknownGoal | terminated
  deriving DecidableEq, Repr

end RclcExecutor
