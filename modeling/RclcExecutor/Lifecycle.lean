import RclcExecutor.Removal

/-!
The life cycle of the executor across calls.

`rclc_executor_init` fixes the handle block, its size `max_handles` and the allocator, and
only `rclc_executor_fini` changes them: it frees the block and sets `max_handles` and
`index` to `0`. From then on every call finds the table full and empty at once: an add
stops at its bound check `index >= max_handles`, a removal finds no handle below `index`,
and every handle loop of a round ends before its first slot. So after `rclc_executor_fini`
no call writes the freed block or visits a slot of it, and nothing is registered again.
-/

namespace RclcExecutor

/-- The eleven `rclc_executor_add_*` calls. -/
def Op.isAdd : Op → Bool
  | .addSubscription .. | .addSubscriptionWithContext .. | .addTimer .. | .addClient ..
  | .addClientWithRequestId .. | .addService .. | .addServiceWithContext ..
  | .addServiceWithRequestId .. | .addGuardCondition .. | .addActionClient ..
  | .addActionServer .. => true
  | _ => false

/-- What `rclc_executor_init` fixes: the handle block, its size and the allocator. -/
structure SameConfig (e e' : Executor) : Prop where
  handlesNull : e'.handlesNull = e.handlesNull
  allocator : e'.allocator = e.allocator
  maxHandles : e'.maxHandles = e.maxHandles

theorem SameConfig.refl (e : Executor) : SameConfig e e := ⟨rfl, rfl, rfl⟩

theorem SameConfig.isValid {e e' : Executor} (h : SameConfig e e') :
    rclcExecutorIsValid e' = rclcExecutorIsValid e := by
  simp only [rclcExecutorIsValid, h.handlesNull, h.allocator, h.maxHandles]

/-- The executor after `rclc_executor_fini`: no handle block, and no room in it. -/
structure Finalised (e : Executor) : Prop where
  handlesNull : e.handlesNull = true
  maxHandles : e.maxHandles = 0
  index : e.index = 0

theorem Finalised.not_isValid {e : Executor} (h : Finalised e) :
    rclcExecutorIsValid e = false := by
  simp [rclcExecutorIsValid, h.handlesNull]

theorem rclcExecutorFini_finalised {e : Executor} (hv : rclcExecutorIsValid e = true) :
    (rclcExecutorFini e).2.handles = e.handles ∧ Finalised (rclcExecutorFini e).2 := by
  rw [rclcExecutorFini, if_pos hv]
  exact ⟨rfl, rfl, rfl, rfl⟩

/-! ### Every call but `rclc_executor_fini` keeps the configuration -/

section config
variable {e : Executor}

theorem registerHandle_sameConfig (fill : Handle → Handle) (c : Counter) (finiRet : MwRet) :
    SameConfig e (registerHandle e fill c finiRet).2 := by
  unfold registerHandle
  split
  · exact SameConfig.refl e
  · dsimp only
    split <;> exact ⟨rfl, rfl, rfl⟩

theorem unregisterHandle_sameConfig (p : Ptr) (c : Counter) (finiRet : MwRet) :
    SameConfig e (unregisterHandle e p c finiRet).2 := by
  have hr : SameConfig e (rclcExecutorRemoveHandle e (rclcExecutorFindHandle e p) finiRet).2 := by
    unfold rclcExecutorRemoveHandle
    split
    · exact SameConfig.refl e
    · split
      · exact SameConfig.refl e
      · exact ⟨rfl, rfl, rfl⟩
  unfold unregisterHandle
  split
  · exact SameConfig.refl e
  · dsimp only
    split
    · exact hr
    · exact ⟨hr.1, hr.2, hr.3⟩

theorem rclcExecutorPrepare_sameConfig (initRet : MwRet) :
    SameConfig e (rclcExecutorPrepare e initRet).2.1 := by
  unfold rclcExecutorPrepare
  split
  · exact SameConfig.refl e
  · split <;> exact ⟨rfl, rfl, rfl⟩

theorem rclcExecutorSpinSome_sameConfig (mw : Middleware) (s : State) :
    SameConfig s.executor (rclcExecutorSpinSome mw s).state.executor :=
  @rclcExecutorSpinSome_keeps mw (SameConfig s.executor)
    (fun _ _ _ h _ _ he => by obtain ⟨g, -, rfl⟩ := he; exact ⟨h.1, h.2, h.3⟩)
    (fun e r h => ⟨(rclcExecutorPrepare_sameConfig r).1.trans h.1,
      (rclcExecutorPrepare_sameConfig r).2.trans h.2,
      (rclcExecutorPrepare_sameConfig r).3.trans h.3⟩) s (SameConfig.refl _)

end config

theorem Op.exec_sameConfig {op : Op} (hop : op ≠ .fini) (s : State) :
    SameConfig s.executor (op.exec s).2.executor := by
  cases op
  case fini => exact absurd rfl hop
  case spinSome mw => exact rclcExecutorSpinSome_sameConfig mw s
  case prepare r => exact rclcExecutorPrepare_sameConfig r
  case removeSubscription | removeTimer | removeClient | removeService | removeGuardCondition =>
    exact unregisterHandle_sameConfig _ _ _
  case addActionClient | addActionServer =>
    simp only [Op.exec, rclcExecutorAddActionClient, rclcExecutorAddActionServer]
    split
    · exact SameConfig.refl _
    split
    · exact SameConfig.refl _
    split
    · exact SameConfig.refl _
    · split <;> exact ⟨rfl, rfl, rfl⟩
  case setTimeout | setSemantics =>
    simp only [Op.exec, onExecutor, rclcExecutorSetTimeout, rclcExecutorSetSemantics]
    split <;> exact ⟨rfl, rfl, rfl⟩
  case sendGoalRequest | sendCancelRequest | sendResult | setTrigger => exact ⟨rfl, rfl, rfl⟩
  all_goals
    simp only [Op.exec, onExecutor, rclcExecutorAddSubscription,
      rclcExecutorAddSubscriptionWithContext, rclcExecutorAddTimer, rclcExecutorAddClient,
      rclcExecutorAddClientWithRequestId, rclcExecutorAddService,
      rclcExecutorAddServiceWithContext, rclcExecutorAddServiceWithRequestId,
      rclcExecutorAddGuardCondition]
    split
    · exact SameConfig.refl _
    · exact registerHandle_sameConfig _ _ _

/-! ### After `rclc_executor_fini` -/

section finalised
variable {e : Executor}

theorem registerHandle_of_full (h : e.maxHandles ≤ e.index) (fill : Handle → Handle)
    (c : Counter) (finiRet : MwRet) : registerHandle e fill c finiRet = (rclRetError, e) := by
  simp [registerHandle, h]

theorem unregisterHandle_of_index_zero (h : e.index = 0) (p : Ptr) (c : Counter)
    (finiRet : MwRet) :
    (unregisterHandle e p c finiRet).2 = e ∧ (unregisterHandle e p c finiRet).1 ≠ rclRetOk := by
  by_cases hp : p = 0
  · simp [unregisterHandle, hp, rclRetInvalidArgument_ne_ok]
  · rw [unregisterHandle_of_none hp (rclcExecutorFindHandle_eq_none.2 fun j hj => by omega)]
    exact ⟨rfl, rclRetError_ne_ok⟩

variable (mw : Middleware) {s : State}

theorem rclcDefaultScheduling_of_maxHandles_zero (h : s.executor.maxHandles = 0) :
    (rclcDefaultScheduling mw s).log = [] := by
  simp [rclcDefaultScheduling, readinessPass, h, forHandles]

theorem rclcLetScheduling_of_maxHandles_zero (h : s.executor.maxHandles = 0) :
    (rclcLetScheduling mw s).log = [] := by
  simp [rclcLetScheduling, readinessPass, h, forHandles]

theorem rclcExecutorPrepare_not_waitSetAdd (e : Executor) (initRet : MwRet) (i : Nat)
    (r : MwRet) : Event.waitSetAdd i r ∉ (rclcExecutorPrepare e initRet).2.2 := by
  unfold rclcExecutorPrepare
  split
  · simp
  · split <;> simp

theorem rclcExecutorSpinSome_of_finalised (h : Finalised s.executor) :
    (rclcExecutorSpinSome mw s).calls = [] ∧
      ∀ i r, Event.waitSetAdd i r ∉ (rclcExecutorSpinSome mw s).setup := by
  have hm : (rclcExecutorPrepare s.executor mw.waitSetInit).2.1.maxHandles = 0 :=
    (rclcExecutorPrepare_sameConfig _).3.trans h.maxHandles
  have hp := rclcExecutorPrepare_not_waitSetAdd s.executor mw.waitSetInit
  unfold rclcExecutorSpinSome
  split
  · simp
  dsimp only
  split
  · simp [hp]
  · simp only [hm, forHandles, Bool.false_eq_true, if_false, List.append_nil]
    refine ⟨?_, fun i r => by simp [hp]⟩
    split
    · exact rclcLetScheduling_of_maxHandles_zero mw hm
    · exact rclcDefaultScheduling_of_maxHandles_zero mw hm

/-- After `rclc_executor_fini` every call leaves the freed handle block alone and the executor
finalised, and every add fails. -/
theorem Op.exec_of_finalised (op : Op) (h : Finalised s.executor) :
    (op.exec s).2.executor.handles = s.executor.handles ∧ Finalised (op.exec s).2.executor ∧
      (op.isAdd = true → (op.exec s).1 ≠ rclRetOk) := by
  have hfull : s.executor.maxHandles ≤ s.executor.index := by rw [h.maxHandles]; exact Nat.zero_le _
  cases op
  case fini =>
    have hfini : Op.fini.exec s = (rclRetOk, s) := by
      simp [Op.exec, onExecutor, rclcExecutorFini, h.not_isValid]
    rw [hfini]
    exact ⟨rfl, h, by simp [Op.isAdd]⟩
  case spinSome mw =>
    have hk := @rclcExecutorSpinSome_keeps mw
      (fun e => e.handles = s.executor.handles ∧ Finalised e)
      (fun _ _ _ he hi _ _ => absurd hi (by rw [he.2.maxHandles]; exact Nat.not_lt_zero _))
      (fun e r he => ⟨(rclcExecutorPrepare_table e r).1.trans he.1,
        (rclcExecutorPrepare_sameConfig r).1.trans he.2.1,
        (rclcExecutorPrepare_sameConfig r).3.trans he.2.2,
        (rclcExecutorPrepare_table e r).2.1.trans he.2.3⟩) s ⟨rfl, h⟩
    exact ⟨hk.1, hk.2, by simp [Op.isAdd]⟩
  case prepare r =>
    exact ⟨(rclcExecutorPrepare_table _ r).1, ⟨(rclcExecutorPrepare_sameConfig r).1.trans h.1,
      (rclcExecutorPrepare_sameConfig r).3.trans h.2, (rclcExecutorPrepare_table _ r).2.1.trans h.3⟩,
      by simp [Op.isAdd]⟩
  case removeSubscription p f | removeTimer p f | removeClient p f | removeService p f
    | removeGuardCondition p f =>
    have he := fun c => (unregisterHandle_of_index_zero h.index p c f).1
    simp only [Op.exec, onExecutor, rclcExecutorRemoveSubscription, rclcExecutorRemoveTimer,
      rclcExecutorRemoveClient, rclcExecutorRemoveService, rclcExecutorRemoveGuardCondition, he]
    exact ⟨trivial, h, by simp [Op.isAdd]⟩
  case addActionClient =>
    simp only [Op.exec, rclcExecutorAddActionClient, ge_iff_le, hfull, if_true, or_true]
    split
    · exact ⟨rfl, h, fun _ => rclRetInvalidArgument_ne_ok⟩
    · exact ⟨rfl, h, fun _ => rclRetError_ne_ok⟩
  case addActionServer =>
    simp only [Op.exec, rclcExecutorAddActionServer, ge_iff_le, hfull, true_or, if_true]
    split
    · exact ⟨rfl, h, fun _ => rclRetInvalidArgument_ne_ok⟩
    split
    · exact ⟨rfl, h, fun _ => rclRetError_ne_ok⟩
    · exact ⟨rfl, ⟨h.1, h.2, h.3⟩, fun _ => rclRetError_ne_ok⟩
  case setTimeout | setSemantics =>
    simp only [Op.exec, onExecutor, rclcExecutorSetTimeout, rclcExecutorSetSemantics,
      h.not_isValid, Bool.false_eq_true, if_false]
    exact ⟨trivial, h, by simp [Op.isAdd]⟩
  case setTrigger | sendGoalRequest | sendCancelRequest | sendResult =>
    exact ⟨rfl, ⟨h.1, h.2, h.3⟩, by simp [Op.isAdd]⟩
  all_goals
    simp only [Op.exec, onExecutor, rclcExecutorAddSubscription,
      rclcExecutorAddSubscriptionWithContext, rclcExecutorAddTimer, rclcExecutorAddClient,
      rclcExecutorAddClientWithRequestId, rclcExecutorAddService,
      rclcExecutorAddServiceWithContext, rclcExecutorAddServiceWithRequestId,
      rclcExecutorAddGuardCondition, registerHandle_of_full hfull]
    split
    · exact ⟨rfl, h, fun _ => rclRetInvalidArgument_ne_ok⟩
    · exact ⟨rfl, h, fun _ => rclRetError_ne_ok⟩

theorem runOps_of_finalised (ops : List Op) :
    ∀ {t : State}, Finalised t.executor →
      Finalised (runOps ops t).executor ∧ (runOps ops t).executor.handles = t.executor.handles := by
  induction ops with
  | nil => exact fun h => ⟨h, rfl⟩
  | cons op ops ih =>
      intro t h
      obtain ⟨hh, hf, -⟩ := Op.exec_of_finalised op h
      exact (ih hf).imp_right fun h' => h'.trans hh

end finalised

theorem Reachable.valid_or_finalised {s : State} (hr : Reachable s) :
    rclcExecutorIsValid s.executor = true ∨ Finalised s.executor := by
  induction hr with
  | init block clients servers hc hn ha =>
      left
      simp [initState, rclcExecutorInit, rclcExecutorIsValid, hc, hn, ha]
  | step op _ ih =>
      rcases ih with hv | hf
      · by_cases hop : op = .fini
        · subst hop
          exact Or.inr (rclcExecutorFini_finalised hv).2
        · exact Or.inl ((Op.exec_sameConfig hop _).isValid.trans hv)
      · exact Or.inr (Op.exec_of_finalised op hf).2.1

/-- After `rclc_executor_fini` on a reachable executor, every later call, at every point of
every run, leaves the freed handle block as `rclc_executor_fini` found it and `index` at `0`:
every add returns an error, and every round visits no slot, adding nothing to the wait set
and making no per-handle call. -/
theorem fini_is_final {s : State} (hr : Reachable s) (pre : List Op) (op : Op) :
    (op.exec (runOps pre (Op.fini.exec s).2)).2.executor.handles = s.executor.handles ∧
    (op.exec (runOps pre (Op.fini.exec s).2)).2.executor.index = 0 ∧
    (op.isAdd = true → (op.exec (runOps pre (Op.fini.exec s).2)).1 ≠ rclRetOk) ∧
    ∀ mw, (rclcExecutorSpinSome mw (runOps pre (Op.fini.exec s).2)).calls = [] ∧
      ∀ i r, Event.waitSetAdd i r ∉
        (rclcExecutorSpinSome mw (runOps pre (Op.fini.exec s).2)).setup := by
  have hfini : Finalised (Op.fini.exec s).2.executor ∧
      (Op.fini.exec s).2.executor.handles = s.executor.handles := by
    rcases hr.valid_or_finalised with hv | hf
    · exact (rclcExecutorFini_finalised hv).symm
    · exact ⟨(Op.exec_of_finalised .fini hf).2.1, (Op.exec_of_finalised .fini hf).1⟩
  obtain ⟨hf, hh⟩ := runOps_of_finalised pre hfini.1
  obtain ⟨h1, h2, h3⟩ := Op.exec_of_finalised op hf
  exact ⟨h1.trans (hh.trans hfini.2), h2.index, h3,
    fun mw => rclcExecutorSpinSome_of_finalised mw hf⟩

theorem fini_is_final_subscribed :
    Reachable (initBlank 1) ∧
    (Op.exec (.addTimer 4 .ok)
      (runOps [.addSubscription 1 2 3 .onNewData .ok] (Op.fini.exec (initBlank 1)).2)
      ).2.executor.handles = (initBlank 1).executor.handles ∧
    (Op.exec (.addTimer 4 .ok)
      (runOps [.addSubscription 1 2 3 .onNewData .ok] (Op.fini.exec (initBlank 1)).2)
      ).2.executor.index = 0 ∧
    (Op.isAdd (.addTimer 4 .ok) = true → (Op.exec (.addTimer 4 .ok)
      (runOps [.addSubscription 1 2 3 .onNewData .ok] (Op.fini.exec (initBlank 1)).2)).1 ≠
        rclRetOk) ∧
    ∀ mw, (rclcExecutorSpinSome mw
        (runOps [.addSubscription 1 2 3 .onNewData .ok] (Op.fini.exec (initBlank 1)).2)).calls =
          [] ∧
      ∀ i r, Event.waitSetAdd i r ∉ (rclcExecutorSpinSome mw
        (runOps [.addSubscription 1 2 3 .onNewData .ok] (Op.fini.exec (initBlank 1)).2)).setup :=
  ⟨reachable_initBlank Nat.one_ne_zero, fini_is_final (reachable_initBlank Nat.one_ne_zero) _ _⟩

end RclcExecutor
