import RclcExecutor.Removal

/-!
The wait set as a cache of the handle counters.

`rclc_executor_prepare` makes the wait set with `rcl_wait_set_init`, with the sizes the handle
counters have at that moment, and only when the wait set is not valid; a valid one it keeps.
That is sound because every add and every remove that gets past its argument checks calls
`rcl_wait_set_fini` before it counts, `rclc_executor_fini` finalises the wait set as it zeroes
the counters, and no other call writes either. So in every reachable state a valid wait set
has the sizes of the counters as they are now (`Executor.WaitSetFresh`), and keeping it leaves
the executor as a fresh `rcl_wait_set_init` would (`wait_set_cache_coherent`).
-/

namespace RclcExecutor

/-- The wait set `rcl_wait_set_init` makes in `rclc_executor_prepare` from the counters. -/
def HandleCounters.waitSet (info : HandleCounters) : WaitSet :=
  ⟨true, info.numberOfSubscriptions, info.numberOfGuardConditions, info.numberOfTimers,
    info.numberOfClients, info.numberOfServices, info.numberOfEvents⟩

/-- A valid wait set is the one the counters give now. -/
def Executor.WaitSetFresh (e : Executor) : Prop :=
  e.waitSet.valid = true → e.waitSet = e.info.waitSet

instance (e : Executor) : Decidable e.WaitSetFresh :=
  inferInstanceAs (Decidable (e.waitSet.valid = true → e.waitSet = e.info.waitSet))

theorem OnlyHandles.waitSet {e e' : Executor} (h : OnlyHandles e e') : e'.waitSet = e.waitSet :=
  (congrArg Executor.waitSet (show { e' with handles := e.handles } = e from h) :)

theorem OnlyHandles.info {e e' : Executor} (h : OnlyHandles e e') : e'.info = e.info :=
  (congrArg Executor.info (show { e' with handles := e.handles } = e from h) :)

namespace Executor.WaitSetFresh
variable {e e' : Executor}

theorem of_invalid (h : e.waitSet.valid = false) : e.WaitSetFresh := fun hv =>
  Bool.noConfusion (hv.symm.trans h)

theorem congr (h : e.WaitSetFresh) (hw : e'.waitSet = e.waitSet) (hi : e'.info = e.info) :
    e'.WaitSetFresh := by
  unfold WaitSetFresh
  rw [hw, hi]
  exact h

theorem of_onlyHandles (h : e.WaitSetFresh) (ho : OnlyHandles e e') : e'.WaitSetFresh :=
  h.congr ho.waitSet ho.info

end Executor.WaitSetFresh

/-! ### Each call -/

section calls
variable {e : Executor}

theorem registerHandle_waitSetFresh (h : e.WaitSetFresh) (fill : Handle → Handle) (c : Counter)
    (finiRet : MwRet) : (registerHandle e fill c finiRet).2.WaitSetFresh := by
  unfold registerHandle
  split
  · exact h
  · dsimp only
    split <;> exact .of_invalid (rclWaitSetFiniIfValid_valid _ _)

theorem rclcExecutorRemoveHandle_cases (e : Executor) (handle : Option Nat) (finiRet : MwRet) :
    rclcExecutorRemoveHandle e handle finiRet = (rclRetError, e) ∨
      (rclcExecutorRemoveHandle e handle finiRet).2.waitSet.valid = false := by
  unfold rclcExecutorRemoveHandle
  split
  · exact .inl rfl
  · split
    · exact .inl rfl
    · exact .inr (rclWaitSetFiniIfValid_valid _ _)

theorem unregisterHandle_waitSetFresh (h : e.WaitSetFresh) (p : Ptr) (c : Counter)
    (finiRet : MwRet) : (unregisterHandle e p c finiRet).2.WaitSetFresh := by
  unfold unregisterHandle
  split
  · exact h
  · dsimp only
    rcases rclcExecutorRemoveHandle_cases e (rclcExecutorFindHandle e p) finiRet with he | hv
    · rw [he, if_pos rclRetError_ne_ok]
      exact h
    · split <;> exact .of_invalid hv

theorem rclcExecutorPrepare_waitSet (h : e.WaitSetFresh) (initRet : MwRet)
    (hv : (rclcExecutorPrepare e initRet).2.1.waitSet.valid = true) :
    (rclcExecutorPrepare e initRet).2.1.waitSet = e.info.waitSet := by
  revert hv
  unfold rclcExecutorPrepare
  split
  · exact h
  · split
    · exact fun _ => rfl
    · exact fun hv => Bool.noConfusion hv

theorem rclcExecutorPrepare_waitSetFresh (h : e.WaitSetFresh) (initRet : MwRet) :
    (rclcExecutorPrepare e initRet).2.1.WaitSetFresh := fun hv =>
  (rclcExecutorPrepare_waitSet h initRet hv).trans (by rw [rclcExecutorPrepare_info])

theorem rclcExecutorFini_waitSetFresh (h : e.WaitSetFresh) :
    (rclcExecutorFini e).2.WaitSetFresh := by
  unfold rclcExecutorFini
  split
  · refine .of_invalid ?_
    dsimp only
    split
    · rfl
    · next hv => exact Bool.eq_false_iff.2 hv
  · exact h

end calls

section actions
variable {s : State}

theorem rclcExecutorAddActionClient_waitSetFresh (h : s.executor.WaitSetFresh)
    (p n r fb gc fc rc cc x : Nat) (a : Bool) (f : MwRet) (en : MwRet × NumEntities) :
    (rclcExecutorAddActionClient s p n r fb gc fc rc cc x a f en).2.executor.WaitSetFresh := by
  simp only [rclcExecutorAddActionClient]
  split
  · exact h
  split
  · exact h
  split
  · exact h
  · split <;> exact .of_invalid (rclWaitSetFiniIfValid_valid _ _)

theorem rclcExecutorAddActionServer_waitSetFresh (h : s.executor.WaitSetFresh)
    (p n g gs gc cc x : Nat) (a : Bool) (f : MwRet) (en : MwRet × NumEntities) :
    (rclcExecutorAddActionServer s p n g gs gc cc x a f en).2.executor.WaitSetFresh := by
  simp only [rclcExecutorAddActionServer]
  split
  · exact h
  split
  · exact h
  split
  · exact h
  · split <;> exact .of_invalid (rclWaitSetFiniIfValid_valid _ _)

theorem rclcExecutorSpinSome_waitSetFresh (mw : Middleware) (h : s.executor.WaitSetFresh) :
    (rclcExecutorSpinSome mw s).state.executor.WaitSetFresh :=
  @rclcExecutorSpinSome_keeps mw Executor.WaitSetFresh
    (fun _ _ _ hf _ _ he => hf.of_onlyHandles he.onlyHandles)
    (fun _ r hf => rclcExecutorPrepare_waitSetFresh hf r) s h

end actions

/-! ### Runs -/

theorem Op.exec_waitSetFresh (op : Op) {s : State} (h : s.executor.WaitSetFresh) :
    (op.exec s).2.executor.WaitSetFresh := by
  cases op
  case addActionClient => exact rclcExecutorAddActionClient_waitSetFresh h _ _ _ _ _ _ _ _ _ _ _ _
  case addActionServer => exact rclcExecutorAddActionServer_waitSetFresh h _ _ _ _ _ _ _ _ _ _
  case removeSubscription | removeTimer | removeClient | removeService | removeGuardCondition =>
    exact unregisterHandle_waitSetFresh h _ _ _
  case prepare r => exact rclcExecutorPrepare_waitSetFresh h r
  case spinSome mw => exact rclcExecutorSpinSome_waitSetFresh mw h
  case fini => exact rclcExecutorFini_waitSetFresh h
  case setTrigger | sendGoalRequest | sendCancelRequest | sendResult => exact h
  all_goals
    simp only [Op.exec, onExecutor_executor, rclcExecutorAddSubscription,
      rclcExecutorAddSubscriptionWithContext, rclcExecutorAddTimer, rclcExecutorAddClient,
      rclcExecutorAddClientWithRequestId, rclcExecutorAddService,
      rclcExecutorAddServiceWithContext, rclcExecutorAddServiceWithRequestId,
      rclcExecutorAddGuardCondition, rclcExecutorSetTimeout, rclcExecutorSetSemantics]
    split <;> first
      | exact h
      | exact registerHandle_waitSetFresh h _ _ _

theorem Reachable.waitSetFresh {s : State} (hr : Reachable s) : s.executor.WaitSetFresh := by
  induction hr with
  | init =>
      refine .of_invalid ?_
      simp only [initState, rclcExecutorInit]
      split <;> rfl
  | step op _ ih => exact op.exec_waitSetFresh ih

/-- The wait set caches what `rcl_wait_set_init` makes from the handle counters. In every
reachable state a valid wait set has the sizes the counters have now, so when
`rclc_executor_prepare` keeps the wait set because it is valid, it leaves the executor
exactly as a successful `rcl_wait_set_init` from the counters would. -/
theorem wait_set_cache_coherent {s : State} (hr : Reachable s) :
    (s.executor.waitSet.valid = true → s.executor.waitSet = s.executor.info.waitSet) ∧
    (rclcExecutorPrepare s.executor .ok).2.1 =
      { s.executor with waitSet := s.executor.info.waitSet } := by
  refine ⟨hr.waitSetFresh, ?_⟩
  unfold rclcExecutorPrepare
  split
  · next hv => rw [← hr.waitSetFresh hv]
  · rfl

/-- A subscription, a round, a timer, a round: the timer's add finalises the wait set the first
round made, and the second round makes it again with the new counters. -/
def rebuildRun : List Op :=
  [.addSubscription 1 2 3 .onNewData .ok, .spinSome Middleware.idle, .addTimer 4 .ok,
    .spinSome Middleware.idle]

theorem wait_set_cache_coherent_rebuilt :
    Reachable (runOps rebuildRun (initBlank 2)) ∧
    ((runOps rebuildRun (initBlank 2)).executor.waitSet.valid = true →
      (runOps rebuildRun (initBlank 2)).executor.waitSet =
        (runOps rebuildRun (initBlank 2)).executor.info.waitSet) ∧
    (rclcExecutorPrepare (runOps rebuildRun (initBlank 2)).executor .ok).2.1 =
      { (runOps rebuildRun (initBlank 2)).executor with
        waitSet := (runOps rebuildRun (initBlank 2)).executor.info.waitSet } :=
  ⟨(reachable_initBlank two_ne_zero).runOps _,
    wait_set_cache_coherent ((reachable_initBlank two_ne_zero).runOps _)⟩

example : (runOps rebuildRun (initBlank 2)).executor.waitSet = ⟨true, 1, 0, 1, 0, 0, 0⟩ := by
  decide

end RclcExecutor
