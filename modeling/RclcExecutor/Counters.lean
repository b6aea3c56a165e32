import RclcExecutor.TableShape

/-!
The counters of `executor->info` against the table.

`rclc_executor_prepare` sizes the wait set by the counters, so each counter should be the
number of registered handles of its kinds (plus what the action endpoints reported). The
adds, however, fill the slot and advance `index` before they finalise the wait set, and when
`rcl_wait_set_fini` fails they return before they count the handle; a removal shifts the
table and steps `index` back before its own `rcl_wait_set_fini`, and counts the handle off
only when that succeeds.
-/

namespace RclcExecutor

def Executor.countOf (e : Executor) (c : Counter) : Nat :=
  ((List.range e.index).filter fun i => (e.handles i).type.counter = some c).length

theorem Executor.countOf_congr {e e' : Executor} (c : Counter) (hh : e'.handles = e.handles)
    (hi : e'.index = e.index) : e'.countOf c = e.countOf c := by
  unfold Executor.countOf
  rw [hh, hi]

/-! ### What an add does to the counters -/

section counting
variable {e : Executor} {fill : Handle → Handle} {c : Counter}

theorem countOf_push (hc : ∀ h, (fill h).type.counter = some c) :
    ({ e.modifyHandle e.index fill with index := e.index + 1 } : Executor).countOf c =
      e.countOf c + 1 := by
  have hpre : (List.range e.index).filter
      (fun i => ((e.modifyHandle e.index fill).handles i).type.counter = some c) =
      (List.range e.index).filter fun i => (e.handles i).type.counter = some c :=
    List.filter_congr fun j hj => by simp [Nat.ne_of_lt (List.mem_range.1 hj)]
  simp only [Executor.countOf, List.range_succ, List.filter_append, List.length_append]
  rw [hpre]
  simp [hc]

/-- An add into a table with room registers its handle whatever `rcl_wait_set_fini`
reports, and counts it only when that succeeds. -/
theorem registerHandle_counts (hlt : e.index < e.maxHandles) (finiRet : MwRet)
    (hc : ∀ h, (fill h).type.counter = some c) :
    (registerHandle e fill c finiRet).2.countOf c = e.countOf c + 1 ∧
    (registerHandle e fill c finiRet).2.info =
      if (rclWaitSetFiniIfValid e.waitSet finiRet).1 = .ok then e.info.add c 1 else e.info := by
  unfold registerHandle
  rw [if_neg (Nat.not_le.2 hlt)]
  dsimp only
  split <;> next h =>
    rw [Executor.modifyHandle_waitSet] at h
    exact ⟨(Executor.countOf_congr c rfl rfl).trans (countOf_push hc), by simp [h]⟩

end counting

/-! ### The counters stay `size_t` values -/

def HandleCounters.Bounded (info : HandleCounters) : Prop := ∀ c, info.get c < 2 ^ 64

namespace HandleCounters.Bounded
variable {info : HandleCounters}

theorem add (h : info.Bounded) (c : Counter) (n : Nat) : (info.add c n).Bounded := fun d => by
  unfold HandleCounters.add
  rw [HandleCounters.get_set]
  split
  · exact sizeAdd_lt _ _
  · exact h d

theorem sub (h : info.Bounded) (c : Counter) (n : Nat) : (info.sub c n).Bounded := fun d => by
  unfold HandleCounters.sub
  rw [HandleCounters.get_set]
  split
  · exact sizeSub_lt _ _
  · exact h d

theorem addEntities (h : info.Bounded) (n : NumEntities) : (info.addEntities n).Bounded :=
  ((((h.add _ _).add _ _).add _ _).add _ _).add _ _

theorem zeroInit : rclcExecutorHandleCountersZeroInit.Bounded := fun c => by
  cases c <;> exact Nat.two_pow_pos 64

end HandleCounters.Bounded

section bounded
variable {e : Executor} (finiRet : MwRet)

theorem registerHandle_bounded (h : e.info.Bounded) (fill : Handle → Handle) (c : Counter) :
    (registerHandle e fill c finiRet).2.info.Bounded := by
  unfold registerHandle
  split
  · exact h
  · dsimp only
    split
    · exact h
    · exact h.add c 1

theorem unregisterHandle_bounded (h : e.info.Bounded) (p : Ptr) (c : Counter) :
    (unregisterHandle e p c finiRet).2.info.Bounded := by
  unfold unregisterHandle
  split
  · exact h
  · dsimp only
    split
    · rw [rclcExecutorRemoveHandle_info]; exact h
    · dsimp only; rw [rclcExecutorRemoveHandle_info]; exact h.sub c 1

end bounded

theorem Op.exec_bounded (op : Op) {s : State} (h : s.executor.info.Bounded) :
    (op.exec s).2.executor.info.Bounded := by
  cases op
  case addActionClient =>
    simp only [Op.exec, rclcExecutorAddActionClient]
    split
    · exact h
    split
    · exact h
    split
    · exact h
    split
    · exact h
    · exact (h.addEntities _).add _ _
  case addActionServer =>
    simp only [Op.exec, rclcExecutorAddActionServer]
    split
    · exact h
    split
    · exact h
    split
    · exact h
    split
    · exact h
    · exact (h.addEntities _).add _ _
  case removeSubscription | removeTimer | removeClient | removeService | removeGuardCondition =>
    exact unregisterHandle_bounded _ h _ _
  case prepare r => simpa [Op.exec, rclcExecutorPrepare_info] using h
  case spinSome mw =>
    exact @rclcExecutorSpinSome_keeps mw (fun e => e.info.Bounded)
      (fun _ _ _ hb _ _ he => by obtain ⟨g, -, rfl⟩ := he; exact hb)
      (fun e r hb => show (rclcExecutorPrepare e r).2.1.info.Bounded by
        rw [rclcExecutorPrepare_info]; exact hb) s h
  case fini =>
    simp only [Op.exec, onExecutor_executor, rclcExecutorFini]
    split
    · exact HandleCounters.Bounded.zeroInit
    · exact h
  case sendGoalRequest | sendCancelRequest | sendResult => exact h
  all_goals
    simp only [Op.exec, onExecutor_executor, rclcExecutorAddSubscription,
      rclcExecutorAddSubscriptionWithContext, rclcExecutorAddTimer, rclcExecutorAddClient,
      rclcExecutorAddClientWithRequestId, rclcExecutorAddService,
      rclcExecutorAddServiceWithContext, rclcExecutorAddServiceWithRequestId,
      rclcExecutorAddGuardCondition, rclcExecutorSetTimeout, rclcExecutorSetSemantics,
      rclcExecutorSetTrigger]
    try split
    all_goals first
      | exact h
      | exact registerHandle_bounded _ h _ _

theorem Reachable.countersBounded {s : State} (hr : Reachable s) : s.executor.info.Bounded := by
  induction hr with
  | init =>
      simp only [initState, rclcExecutorInit]
      split
      · next h => exact absurd h (by simp_all)
      · exact HandleCounters.Bounded.zeroInit
  | step op _ ih => exact op.exec_bounded ih

/-! ### A failing `rcl_wait_set_fini` -/

/-- After `rclc_executor_prepare` has made the wait set valid, `rclc_executor_add_subscription`
meets a failing `rcl_wait_set_fini`: the subscription is registered but not counted. Removing it
then takes `number_of_subscriptions` below zero, to `2^64 - 1`. -/
theorem add_fini_error_uncounted :
    Reachable (runOps [.prepare .ok, .addSubscription 1 1 1 .onNewData (.error .error)]
      (initBlank 1)) ∧
    (runOps [.prepare .ok, .addSubscription 1 1 1 .onNewData (.error .error)]
      (initBlank 1)).executor.countOf .subscriptions = 1 ∧
    (runOps [.prepare .ok, .addSubscription 1 1 1 .onNewData (.error .error)]
      (initBlank 1)).executor.info.numberOfSubscriptions = 0 ∧
    (runOps [.prepare .ok, .addSubscription 1 1 1 .onNewData (.error .error),
      .removeSubscription 1 .ok] (initBlank 1)).executor.info.numberOfSubscriptions = 2 ^ 64 - 1 :=
  ⟨(reachable_initBlank Nat.one_ne_zero).runOps _, by decide, by decide, by decide⟩

end RclcExecutor
