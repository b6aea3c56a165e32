import RclcExecutor.Registry
import RclcExecutor.Trigger

/-!
Endpoints that have been removed.

Once `rclc_executor_remove_*` has taken out the one handle registered with an endpoint, the
program may finalise the endpoint (`rcl_subscription_fini` and the like), so the executor must
not touch it again until it is added again: no `rcl_wait_set_add_*` on it, and no call of a
round for it. Only an add of the pointer can bring it back into the table. A call that fails
can still change the table (a failing `rcl_wait_set_fini` undoes neither the store into the
slot nor the shift), but only as the same call would if it succeeded: an add appends its own
entry, a remove erases one (`Op.exec_registry_mem`). So along every run whose adds name other
endpoints, whatever each call returns, a pointer that is not registered stays so, and every
round works only on registered handles.

A remove does not touch the trigger. When the removed endpoint was the object of
`rclc_executor_trigger_one`, the trigger waits for a handle that is no longer there, and
every later round stops after its readiness calls until `rclc_executor_set_trigger` is called
or the endpoint is added again (`trigger_one_object_gone_stalls`).
-/

namespace RclcExecutor

theorem Executor.entry_mem_registry {e : Executor} {j : Nat} (hj : j < e.index) :
    (e.handles j).entry ∈ e.registry :=
  List.mem_map.2 ⟨e.handles j, List.mem_map.2 ⟨j, List.mem_range.2 hj, rfl⟩, rfl⟩

theorem Executor.ptr_ne_of_not_mem {e : Executor} {p : Ptr} (hp : p ∉ e.registry.map Entry.ptr)
    {j : Nat} (hj : j < e.index) : rclcExecutorHandleGetPtr (e.handles j) ≠ p :=
  fun he => hp (List.mem_map.2 ⟨_, Executor.entry_mem_registry hj, (Handle.entry_ptr _).trans he⟩)

theorem count_ptr_eraseP (l : List Entry) (p : Ptr) :
    ((l.eraseP fun x => x.ptr = p).map Entry.ptr).count p = (l.map Entry.ptr).count p - 1 := by
  induction l with
  | nil => rfl
  | cons x l ih =>
      by_cases hx : x.ptr = p
      · simp [List.eraseP_cons, hx]
      · simp [List.eraseP_cons, hx, ih, List.count_cons]

theorem Op.registers_isSome {op : Op} (h : op.isAdd = true) : op.registers.isSome = true := by
  cases op <;> first | rfl | cases h

theorem Op.mem_onRegistry {op : Op} {r : List Entry} {x : Entry} (hx : x ∈ op.onRegistry r) :
    x ∈ r ∨ op.registers = some x := by
  unfold Op.onRegistry at hx
  split at hx
  · exact absurd hx (List.not_mem_nil x)
  · next y _ hy =>
      rcases List.mem_append.1 hx with hx | hx
      · exact .inl hx
      · exact .inr (hy.trans (congrArg some (List.mem_singleton.1 hx).symm))
  · exact .inl ((List.eraseP_sublist _).subset hx)
  · exact .inl hx

theorem Op.exec_registry_mem {s : State} (hr : Reachable s) (op : Op) {x : Entry}
    (hx : x ∈ (op.exec s).2.executor.registry) : x ∈ s.executor.registry ∨ op.registers = some x := by
  cases hreg : op.registers with
  | some y =>
      rcases Op.exec_registry_of_registers hreg hr.tableShape with ⟨he, -⟩ | he
      · exact .inl (he ▸ hx)
      · rw [he] at hx
        rcases List.mem_append.1 hx with hx | hx
        · exact .inl hx
        · exact .inr (congrArg some (List.mem_singleton.1 hx).symm)
  | none =>
      cases hrem : op.removed with
      | some pc => exact .inl ((Op.exec_registry_sublist_of_removed hrem s).subset hx)
      | none =>
          have hvac : (op.isAdd || op.removed.isSome) = true → (op.exec s).1 = rclRetOk :=
            fun h => by
              rw [hrem, Option.isSome_none, Bool.or_false] at h
              have hsome := Op.registers_isSome h
              rw [hreg] at hsome
              exact Bool.noConfusion hsome
          rw [Op.exec_registry hr op hvac] at hx
          exact (Op.mem_onRegistry hx).imp_right hreg.symm.trans

theorem runOps_unregistered {p : Ptr} (ops : List Op)
    (hops : ∀ op ∈ ops, ∀ x ∈ op.registers, x.ptr ≠ p) :
    ∀ {s : State}, Reachable s → p ∉ s.executor.registry.map Entry.ptr →
      p ∉ (runOps ops s).executor.registry.map Entry.ptr := by
  induction ops with
  | nil => exact fun _ h => h
  | cons op ops ih =>
      intro s hr hp
      refine ih (fun op' h' => hops op' (List.mem_cons_of_mem op h')) (hr.step op) ?_
      intro hmem
      obtain ⟨x, hx, hxp⟩ := List.mem_map.1 hmem
      rcases Op.exec_registry_mem hr op hx with hx | hx
      · exact hp (List.mem_map.2 ⟨x, hx, hxp⟩)
      · exact hops op (List.mem_cons_self op ops) x hx hxp

theorem rclcExecutorSpinSome_registered (mw : Middleware) {s : State} (hs : TableShape s.executor) :
    (∀ k ∈ (rclcExecutorSpinSome mw s).calls, k.pos < s.executor.index) ∧
    ∀ j r, Event.waitSetAdd j r ∈ (rclcExecutorSpinSome mw s).setup → j < s.executor.index := by
  refine ⟨fun k hk => ?_, fun j r hj => ?_⟩
  · rcases rclcExecutorSpinSome_calls mw hs with hnil | ⟨s', -, hidx, -, hcalls⟩
    · rw [hnil] at hk
      exact absurd hk (List.not_mem_nil k)
    · rw [hcalls] at hk
      exact hidx ▸ scheduleRound_pos_lt hk
  · obtain ⟨hh, hi, hm⟩ := rclcExecutorPrepare_table s.executor mw.waitSetInit
    have hloop := @registrationLoop_waitSetAdd_lt mw
      { s with executor := (rclcExecutorPrepare s.executor mw.waitSetInit).2.1 }
      (hs.of_table hh hi hm) j r
    have hprep := rclcExecutorPrepare_not_waitSetAdd s.executor mw.waitSetInit j r
    unfold rclcExecutorSpinSome at hj
    split at hj
    · exact absurd hj (List.not_mem_nil _)
    dsimp only at hj
    split at hj
    · simp [hprep] at hj
    · split at hj <;> simp only [List.mem_append, List.mem_singleton, reduceCtorEq, or_false,
        hprep, false_or] at hj <;> exact Nat.lt_of_lt_of_eq (hloop hj) hi

/-- After `rclc_executor_remove_*` has returned `RCL_RET_OK` for an endpoint registered once,
the executor never touches that endpoint again until a call adds it again: along every run of
later calls that add other endpoints, whatever each call returns, a round makes no call for a
handle whose `rclc_executor_handle_get_ptr` is the endpoint, and its registration loop calls
no `rcl_wait_set_add_*` for one. -/
theorem removed_endpoint_untouched {s : State} (hr : Reachable s) {op : Op} {p : Ptr}
    {c : Counter} (hrem : op.removed = some (p, c)) (hok : (op.exec s).1 = rclRetOk)
    (honce : (s.executor.registry.map Entry.ptr).count p ≤ 1) (ops : List Op)
    (hops : ∀ op' ∈ ops, ∀ x ∈ op'.registers, x.ptr ≠ p) (mw : Middleware) :
    (∀ k ∈ (rclcExecutorSpinSome mw (runOps ops (op.exec s).2)).calls,
      rclcExecutorHandleGetPtr ((runOps ops (op.exec s).2).executor.handles k.pos) ≠ p) ∧
    ∀ j r, Event.waitSetAdd j r ∈ (rclcExecutorSpinSome mw (runOps ops (op.exec s).2)).setup →
      rclcExecutorHandleGetPtr ((runOps ops (op.exec s).2).executor.handles j) ≠ p := by
  have hgone : p ∉ (op.exec s).2.executor.registry.map Entry.ptr := by
    rw [Op.exec_registry_of_removed hrem hok, ← List.count_eq_zero, count_ptr_eraseP]
    omega
  have hp := runOps_unregistered ops hops (hr.step op) hgone
  obtain ⟨hcalls, hadds⟩ := rclcExecutorSpinSome_registered mw ((hr.step op).runOps ops).tableShape
  exact ⟨fun k hk => Executor.ptr_ne_of_not_mem hp (hcalls k hk),
    fun j r hj => Executor.ptr_ne_of_not_mem hp (hadds j r hj)⟩

theorem removed_endpoint_untouched_timerAdded :
    Reachable subscriptionAndTimer ∧
    (Op.removeSubscription 1 .ok).removed = some (1, .subscriptions) ∧
    ((Op.removeSubscription 1 .ok).exec subscriptionAndTimer).1 = rclRetOk ∧
    (subscriptionAndTimer.executor.registry.map Entry.ptr).count 1 ≤ 1 ∧
    (∀ op' ∈ [Op.addTimer 5 .ok], ∀ x ∈ op'.registers, x.ptr ≠ 1) ∧
    ((∀ k ∈ (rclcExecutorSpinSome Middleware.idle (runOps [.addTimer 5 .ok]
        ((Op.removeSubscription 1 .ok).exec subscriptionAndTimer).2)).calls,
      rclcExecutorHandleGetPtr ((runOps [.addTimer 5 .ok]
        ((Op.removeSubscription 1 .ok).exec subscriptionAndTimer).2).executor.handles k.pos) ≠ 1) ∧
    ∀ j r, Event.waitSetAdd j r ∈ (rclcExecutorSpinSome Middleware.idle (runOps [.addTimer 5 .ok]
        ((Op.removeSubscription 1 .ok).exec subscriptionAndTimer).2)).setup →
      rclcExecutorHandleGetPtr ((runOps [.addTimer 5 .ok]
        ((Op.removeSubscription 1 .ok).exec subscriptionAndTimer).2).executor.handles j) ≠ 1) :=
  ⟨reachable_subscriptionAndTimer, rfl, by decide, by decide, by decide,
    removed_endpoint_untouched reachable_subscriptionAndTimer (by rfl) (by decide) (by decide) _
      (by decide) _⟩

example : ((rclcExecutorSpinSome Middleware.idle (runOps [.addTimer 5 .ok]
    ((Op.removeSubscription 1 .ok).exec subscriptionAndTimer).2)).calls.map Call.pos) = [0, 1] := by
  decide

/-! ### The object of `rclc_executor_trigger_one` -/

def Executor.trigger (e : Executor) : Trigger × Ptr := (e.triggerFunction, e.triggerObject)

/-- Whether a call is `rclc_executor_set_trigger`. -/
def Op.setsTrigger : Op → Bool
  | .setTrigger _ _ => true
  | _ => false

theorem rclcExecutorPrepare_trigger (e : Executor) (initRet : MwRet) :
    (rclcExecutorPrepare e initRet).2.1.trigger = e.trigger := by
  unfold rclcExecutorPrepare
  split
  · rfl
  · split <;> rfl

theorem rclcExecutorSpinSome_trigger (mw : Middleware) (s : State) :
    (rclcExecutorSpinSome mw s).state.executor.trigger = s.executor.trigger :=
  @rclcExecutorSpinSome_keeps mw (fun e => e.trigger = s.executor.trigger)
    (fun _ _ _ h _ _ he => by obtain ⟨g, -, rfl⟩ := he; exact h)
    (fun e r h => (rclcExecutorPrepare_trigger e r).trans h) s rfl

section trigger
variable (e : Executor) (finiRet : MwRet)

theorem registerHandle_trigger (fill : Handle → Handle) (c : Counter) :
    (registerHandle e fill c finiRet).2.trigger = e.trigger := by
  unfold registerHandle
  split
  · rfl
  · dsimp only
    split <;> rfl

theorem unregisterHandle_trigger (p : Ptr) (c : Counter) :
    (unregisterHandle e p c finiRet).2.trigger = e.trigger := by
  have hr : (rclcExecutorRemoveHandle e (rclcExecutorFindHandle e p) finiRet).2.trigger =
      e.trigger := by
    unfold rclcExecutorRemoveHandle
    split
    · rfl
    · split <;> rfl
  unfold unregisterHandle
  split
  · rfl
  · dsimp only
    split
    · exact hr
    · exact hr

end trigger

/-- Only `rclc_executor_set_trigger` changes the trigger: a remove leaves it on a removed
endpoint. -/
theorem Op.exec_trigger {op : Op} (hop : op.setsTrigger = false) (s : State) :
    (op.exec s).2.executor.trigger = s.executor.trigger := by
  cases op
  case setTrigger => exact Bool.noConfusion hop
  case spinSome mw => exact rclcExecutorSpinSome_trigger mw s
  case prepare r => exact rclcExecutorPrepare_trigger s.executor r
  case removeSubscription | removeTimer | removeClient | removeService | removeGuardCondition =>
    exact unregisterHandle_trigger _ _ _ _
  case addActionClient | addActionServer =>
    simp only [Op.exec, rclcExecutorAddActionClient, rclcExecutorAddActionServer]
    (repeat' split) <;> rfl
  case fini | setTimeout | setSemantics =>
    simp only [Op.exec, onExecutor, rclcExecutorFini, rclcExecutorSetTimeout,
      rclcExecutorSetSemantics]
    split <;> rfl
  case sendGoalRequest | sendCancelRequest | sendResult => rfl
  all_goals
    simp only [Op.exec, onExecutor, rclcExecutorAddSubscription,
      rclcExecutorAddSubscriptionWithContext, rclcExecutorAddTimer, rclcExecutorAddClient,
      rclcExecutorAddClientWithRequestId, rclcExecutorAddService,
      rclcExecutorAddServiceWithContext, rclcExecutorAddServiceWithRequestId,
      rclcExecutorAddGuardCondition]
    split
    · rfl
    · exact registerHandle_trigger _ _ _ _

theorem runOps_trigger (ops : List Op) (hops : ∀ op ∈ ops, op.setsTrigger = false) :
    ∀ s : State, (runOps ops s).executor.trigger = s.executor.trigger := by
  induction ops with
  | nil => exact fun _ => rfl
  | cons op ops ih =>
      intro s
      exact (ih (fun op' h => hops op' (List.mem_cons_of_mem op h)) _).trans
        (Op.exec_trigger (hops op (List.mem_cons_self op ops)) s)

/-- On a packed table, `rclc_executor_trigger_one` waiting for an endpoint that no registered
handle has never fires, so a round makes its readiness calls and nothing else. -/
theorem rclcExecutorSpinSome_readinessOnly (mw : Middleware) {s : State}
    (hs : TableShape s.executor) (ht : s.executor.triggerFunction = .one)
    (hp : s.executor.triggerObject ∉ s.executor.registry.map Entry.ptr) :
    ∀ k ∈ (rclcExecutorSpinSome mw s).calls, k.pass = .checkForNewData := by
  intro k hk
  rcases rclcExecutorSpinSome_calls_of mw (fun _ _ hf hi hinit =>
      hf.trans (waitSetAddStep_roundFrame mw (hf.lt_index hs hi hinit)))
      (fun t r hf => hf.trans (rclcExecutorPrepare_roundFrame t r)) hs (RoundFrame.refl s)
    with ⟨hnil, -⟩ | ⟨u, hf, hu, hcalls, -⟩
  · rw [hnil] at hk
    exact absurd hk (List.not_mem_nil k)
  rw [hcalls, ← scheduling_eq mw hu] at hk
  by_contra hne
  obtain ⟨-, htrig, -⟩ := (scheduling_takes_iff mw hu _).1 ⟨k, hk, hne⟩
  -- the readiness pass of the round edits only the round fields of `u`
  have ho := runCalls_onlyHandles mw u.executor.dataCommSemantics.stops
    (readinessOrder u.executor.index) rclRetOk u
  have hrs : TableShape (runCalls mw u.executor.dataCommSemantics.stops
      (readinessOrder u.executor.index) rclRetOk u).state.executor := by
    rw [← readinessPass_eq mw hu.shaped]
    exact forHandles_tableShape (checkStep_editsAt mw) _ _ _ hu
  have hu_trig : u.executor.trigger = s.executor.trigger :=
    (congrArg Executor.trigger hf.executor :)
  obtain ⟨j, hj, hobj⟩ := callTrigger_one_registered mw hrs
    (ho.triggerFunction.trans ((congrArg Prod.fst hu_trig).trans ht)) htrig
  rw [ho.index, hf.index] at hj
  obtain ⟨hty, hep⟩ := runCalls_type_endpoint mw u.executor.dataCommSemantics.stops
    (readinessOrder u.executor.index) j rclRetOk u
  have hobj' : u.executor.triggerObject = s.executor.triggerObject := congrArg Prod.snd hu_trig
  refine Executor.ptr_ne_of_not_mem hp hj ?_
  rw [← hobj', ← ho.triggerObject, ← hobj]
  simp only [rclcExecutorHandleGetPtr, hty, hep, hf.type, hf.endpoint]

/-- `rclc_executor_remove_*` does not reset the trigger, so removing the object of
`rclc_executor_trigger_one` silences the executor. From every reachable state in which
`rclc_executor_trigger_one` waits for an endpoint that no registered handle has, along every
run of calls that neither set a trigger nor add that endpoint, whatever each call returns and
whatever the middleware answers, every round of `rclc_executor_spin_some` makes its
readiness calls and nothing else: no take, and no callback. -/
theorem trigger_one_object_gone_stalls {s : State} (hr : Reachable s)
    (ht : s.executor.triggerFunction = .one)
    (hp : s.executor.triggerObject ∉ s.executor.registry.map Entry.ptr) (ops : List Op)
    (hops : ∀ op ∈ ops, op.setsTrigger = false ∧
      ∀ x ∈ op.registers, x.ptr ≠ s.executor.triggerObject)
    (mw : Middleware) :
    ∀ k ∈ (rclcExecutorSpinSome mw (runOps ops s)).calls, k.pass = .checkForNewData := by
  have htr := runOps_trigger ops (fun op h => (hops op h).1) s
  have hgone := runOps_unregistered ops (fun op h => (hops op h).2) hr hp
  refine rclcExecutorSpinSome_readinessOnly mw (hr.runOps ops).tableShape
    ((congrArg Prod.fst htr).trans ht) ?_
  rw [show (runOps ops s).executor.triggerObject = s.executor.triggerObject from
    congrArg Prod.snd htr]
  exact hgone

/-- A subscription is the object of `rclc_executor_trigger_one`, and is then removed. -/
def triggerObjectRemoved : State :=
  runOps [.addSubscription 1 2 3 .onNewData .ok, .setTrigger .one 1,
    .removeSubscription 1 .ok] (initBlank 2)

theorem trigger_one_object_gone_stalls_subscribed :
    Reachable triggerObjectRemoved ∧ triggerObjectRemoved.executor.triggerFunction = .one ∧
    triggerObjectRemoved.executor.triggerObject ∉
      triggerObjectRemoved.executor.registry.map Entry.ptr ∧
    (∀ op ∈ [Op.addSubscription 5 6 7 .onNewData .ok], op.setsTrigger = false ∧
      ∀ x ∈ op.registers, x.ptr ≠ triggerObjectRemoved.executor.triggerObject) ∧
    ∀ k ∈ (rclcExecutorSpinSome messageRound
        (runOps [.addSubscription 5 6 7 .onNewData .ok] triggerObjectRemoved)).calls,
      k.pass = .checkForNewData :=
  have h : Reachable triggerObjectRemoved := (reachable_initBlank (by decide)).runOps _
  ⟨h, by decide, by decide, by decide,
    trigger_one_object_gone_stalls h (by decide) (by decide) _ (by decide) messageRound⟩

/-- With the default trigger the same round takes the message and runs the callback. -/
example : Event.callback 7 [6] ∈ ((rclcExecutorSpinSome messageRound
    (runOps [.addSubscription 5 6 7 .onNewData .ok, .setTrigger .any 0]
      triggerObjectRemoved)).calls.map Call.events).flatten := by
  decide

end RclcExecutor
