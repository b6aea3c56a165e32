import RclcExecutor.Schedule

/-!
The triggers and what they gate.

A scheduler evaluates the trigger once, on the table the readiness pass has just updated,
and runs its take and execute passes only when it returns `true`. The built-in triggers scan
the handles from position `0` and stop at the first slot that is not `initialized`, or after
`size` slots, where `size` is `max_handles` passed as an `unsigned int`. On a packed table
whose `max_handles` fits in an `unsigned int` the scan covers exactly the registered
handles, so `rclc_executor_trigger_any` asks whether some registered handle is ready and
`rclc_executor_trigger_all` whether all are; once `rclc_executor_fini` has set the handles
to `NULL`, both return `false`.
-/

namespace RclcExecutor

/-! ### The scans -/

section scans
variable {s : State}

theorem triggerAny_go_iff (hs : TableShape s.executor) (k : Nat) :
    ∀ i, i + k ≤ s.executor.maxHandles →
      (rclcExecutorTriggerAny.go s i k = true ↔ ∃ j, i ≤ j ∧ j < i + k ∧ j < s.executor.index ∧
        rclcCheckHandleDataAvailable s (s.executor.handles j) = true) := by
  induction k with
  | zero =>
      intro i _
      simp only [rclcExecutorTriggerAny.go, Bool.false_eq_true, false_iff, not_exists, not_and]
      intro j h1 h2; omega
  | succ k ih =>
      intro i hik
      by_cases hinit : (s.executor.handles i).initialized = true
      · have hi := hs.lt_index (by omega) hinit
        by_cases hrdy : rclcCheckHandleDataAvailable s (s.executor.handles i) = true
        · simp only [rclcExecutorTriggerAny.go, hinit, hrdy, if_true, true_iff]
          exact ⟨i, Nat.le_refl i, by omega, hi, hrdy⟩
        · simp only [rclcExecutorTriggerAny.go, hinit, hrdy, if_true, Bool.false_eq_true, if_false,
            ih (i + 1) (by omega)]
          constructor
          · rintro ⟨j, h1, h2, h3, h4⟩; exact ⟨j, by omega, by omega, h3, h4⟩
          · rintro ⟨j, h1, h2, h3, h4⟩
            have hji : j ≠ i := fun h => hrdy (h ▸ h4)
            exact ⟨j, by omega, by omega, h3, h4⟩
      · have hi : s.executor.index ≤ i :=
          Nat.le_of_not_lt fun h => hinit ((hs.initialized_iff i (by omega)).2 h)
        simp only [rclcExecutorTriggerAny.go, hinit, Bool.false_eq_true, if_false, false_iff,
          not_exists, not_and]
        intro j h1 _ h3; omega

theorem triggerAll_go_iff (hs : TableShape s.executor) (k : Nat) :
    ∀ i, i + k ≤ s.executor.maxHandles →
      (rclcExecutorTriggerAll.go s i k = true ↔ ∀ j, i ≤ j → j < i + k → j < s.executor.index →
        rclcCheckHandleDataAvailable s (s.executor.handles j) = true) := by
  induction k with
  | zero =>
      intro i _
      simp only [rclcExecutorTriggerAll.go, true_iff]
      intro j h1 h2; omega
  | succ k ih =>
      intro i hik
      by_cases hinit : (s.executor.handles i).initialized = true
      · have hi := hs.lt_index (by omega) hinit
        by_cases hrdy : rclcCheckHandleDataAvailable s (s.executor.handles i) = true
        · simp only [rclcExecutorTriggerAll.go, hinit, hrdy, if_true, Bool.not_true,
            Bool.false_eq_true, if_false, ih (i + 1) (by omega)]
          constructor
          · intro h j h1 h2 h3
            by_cases hji : j = i
            · exact hji ▸ hrdy
            · exact h j (by omega) (by omega) h3
          · intro h j h1 h2 h3; exact h j (by omega) (by omega) h3
        · simp only [rclcExecutorTriggerAll.go, hinit, hrdy, if_true, Bool.not_false,
            Bool.false_eq_true, false_iff, not_forall]
          exact ⟨i, Nat.le_refl i, by omega, hi, hrdy⟩
      · have hi : s.executor.index ≤ i :=
          Nat.le_of_not_lt fun h => hinit ((hs.initialized_iff i (by omega)).2 h)
        simp only [rclcExecutorTriggerAll.go, hinit, Bool.false_eq_true, if_false, true_iff]
        intro j h1 _ h3; omega

theorem triggerOne_go_iff (hs : TableShape s.executor) (obj : Ptr) (k : Nat) :
    ∀ i, i + k ≤ s.executor.maxHandles →
      (rclcExecutorTriggerOne.go s obj i k = true ↔ ∃ j, i ≤ j ∧ j < i + k ∧ j < s.executor.index ∧
        rclcCheckHandleDataAvailable s (s.executor.handles j) = true ∧
        rclcExecutorHandleGetPtr (s.executor.handles j) ≠ 0 ∧
        rclcExecutorHandleGetPtr (s.executor.handles j) = obj ∧
        ∀ j', i ≤ j' → j' < j → rclcCheckHandleDataAvailable s (s.executor.handles j') = true →
          rclcExecutorHandleGetPtr (s.executor.handles j') ≠ 0) := by
  induction k with
  | zero =>
      intro i _
      simp only [rclcExecutorTriggerOne.go, Bool.false_eq_true, false_iff, not_exists, not_and]
      intro j h1 h2; omega
  | succ k ih =>
      intro i hik
      by_cases hinit : (s.executor.handles i).initialized = true
      · have hi := hs.lt_index (by omega) hinit
        -- past position `i`, the condition on `[i, j)` is the one on `[i + 1, j)`
        have hnext : ∀ (hpass : rclcCheckHandleDataAvailable s (s.executor.handles i) = true →
            rclcExecutorHandleGetPtr (s.executor.handles i) ≠ 0)
            (hnot : ¬(rclcCheckHandleDataAvailable s (s.executor.handles i) = true ∧
              rclcExecutorHandleGetPtr (s.executor.handles i) = obj)),
            rclcExecutorTriggerOne.go s obj (i + 1) k = true ↔ ∃ j, i ≤ j ∧ j < i + (k + 1) ∧
              j < s.executor.index ∧ rclcCheckHandleDataAvailable s (s.executor.handles j) = true ∧
              rclcExecutorHandleGetPtr (s.executor.handles j) ≠ 0 ∧
              rclcExecutorHandleGetPtr (s.executor.handles j) = obj ∧
              ∀ j', i ≤ j' → j' < j → rclcCheckHandleDataAvailable s (s.executor.handles j') = true →
                rclcExecutorHandleGetPtr (s.executor.handles j') ≠ 0 := by
          intro hpass hnot
          rw [ih (i + 1) (by omega)]
          constructor
          · rintro ⟨j, h1, h2, h3, h4, h5, h6, h7⟩
            refine ⟨j, by omega, by omega, h3, h4, h5, h6, fun j' h1' h2' h3' => ?_⟩
            rcases Nat.eq_or_lt_of_le h1' with rfl | h1'
            · exact hpass h3'
            · exact h7 j' h1' h2' h3'
          · rintro ⟨j, h1, h2, h3, h4, h5, h6, h7⟩
            have hji : j ≠ i := fun h => hnot (h ▸ ⟨h4, h6⟩)
            exact ⟨j, by omega, by omega, h3, h4, h5, h6, fun j' h1' => h7 j' (by omega)⟩
        by_cases hrdy : rclcCheckHandleDataAvailable s (s.executor.handles i) = true
        · by_cases hnull : rclcExecutorHandleGetPtr (s.executor.handles i) = 0
          · simp only [rclcExecutorTriggerOne.go, hinit, hrdy, hnull, if_true, Bool.false_eq_true,
              false_iff, not_exists, not_and]
            intro j h1 _ _ _ h5 _ h7
            rcases Nat.eq_or_lt_of_le h1 with rfl | h1
            · exact h5 hnull
            · exact h7 i (Nat.le_refl i) h1 hrdy hnull
          · by_cases hobj : obj = rclcExecutorHandleGetPtr (s.executor.handles i)
            · simp only [rclcExecutorTriggerOne.go, hinit, hrdy, hnull, hobj, if_true, if_false,
                true_iff]
              exact ⟨i, Nat.le_refl i, by omega, hi, hrdy, hnull, rfl, fun j' h1 h2 => by omega⟩
            · simp only [rclcExecutorTriggerOne.go, hinit, hrdy, hnull, hobj, if_true, if_false]
              exact hnext (fun _ => hnull) fun h => hobj h.2.symm
        · simp only [rclcExecutorTriggerOne.go, hinit, hrdy, if_true, Bool.false_eq_true, if_false]
          exact hnext (fun h => absurd h hrdy) fun h => hrdy h.1
      · have hi : s.executor.index ≤ i :=
          Nat.le_of_not_lt fun h => hinit ((hs.initialized_iff i (by omega)).2 h)
        simp only [rclcExecutorTriggerOne.go, hinit, Bool.false_eq_true, if_false, false_iff,
          not_exists, not_and]
        intro j h1 _ h3; omega

variable (mw : Middleware)

theorem callTrigger_any (hs : TableShape s.executor) (hmax : s.executor.maxHandles < 2 ^ 32)
    (ht : s.executor.triggerFunction = .any) :
    callTrigger mw s = true ↔ s.executor.handlesNull = false ∧
      ∃ i < s.executor.index, rclcCheckHandleDataAvailable s (s.executor.handles i) = true := by
  have hidx := hs.index_le
  simp only [callTrigger, ht, Nat.mod_eq_of_lt hmax, rclcExecutorTriggerAny, Bool.and_eq_true,
    Bool.not_eq_true', triggerAny_go_iff hs s.executor.maxHandles 0 (by omega)]
  constructor
  · rintro ⟨hn, j, -, -, hj, hr⟩; exact ⟨hn, j, hj, hr⟩
  · rintro ⟨hn, j, hj, hr⟩; exact ⟨hn, j, Nat.zero_le j, by omega, hj, hr⟩

theorem callTrigger_all (hs : TableShape s.executor) (hmax : s.executor.maxHandles < 2 ^ 32)
    (ht : s.executor.triggerFunction = .all) :
    callTrigger mw s = true ↔ s.executor.handlesNull = false ∧
      ∀ i < s.executor.index, rclcCheckHandleDataAvailable s (s.executor.handles i) = true := by
  have hidx := hs.index_le
  simp only [callTrigger, ht, Nat.mod_eq_of_lt hmax, rclcExecutorTriggerAll, Bool.and_eq_true,
    Bool.not_eq_true', triggerAll_go_iff hs s.executor.maxHandles 0 (by omega)]
  constructor
  · rintro ⟨hn, h⟩; exact ⟨hn, fun j hj => h j (Nat.zero_le j) (by omega) hj⟩
  · rintro ⟨hn, h⟩; exact ⟨hn, fun j _ _ hj => h j hj⟩

theorem callTrigger_one (hs : TableShape s.executor) (hmax : s.executor.maxHandles < 2 ^ 32)
    (ht : s.executor.triggerFunction = .one) :
    callTrigger mw s = true ↔ s.executor.handlesNull = false ∧
      ∃ j < s.executor.index, rclcCheckHandleDataAvailable s (s.executor.handles j) = true ∧
        rclcExecutorHandleGetPtr (s.executor.handles j) ≠ 0 ∧
        rclcExecutorHandleGetPtr (s.executor.handles j) = s.executor.triggerObject ∧
        ∀ j' < j, rclcCheckHandleDataAvailable s (s.executor.handles j') = true →
          rclcExecutorHandleGetPtr (s.executor.handles j') ≠ 0 := by
  have hidx := hs.index_le
  simp only [callTrigger, ht, Nat.mod_eq_of_lt hmax, rclcExecutorTriggerOne, Bool.and_eq_true,
    Bool.not_eq_true', triggerOne_go_iff hs _ s.executor.maxHandles 0 (by omega)]
  constructor
  · rintro ⟨hn, j, -, -, hj, h4, h5, h6, h7⟩
    exact ⟨hn, j, hj, h4, h5, h6, fun j' hj' => h7 j' (Nat.zero_le j') hj'⟩
  · rintro ⟨hn, j, hj, h4, h5, h6, h7⟩
    exact ⟨hn, j, Nat.zero_le j, by omega, hj, h4, h5, h6, fun j' _ hj' => h7 j' hj'⟩

theorem callTrigger_one_registered (hs : TableShape s.executor)
    (ht : s.executor.triggerFunction = .one) (h : callTrigger mw s = true) :
    ∃ j < s.executor.index,
      rclcExecutorHandleGetPtr (s.executor.handles j) = s.executor.triggerObject := by
  simp only [callTrigger, ht, rclcExecutorTriggerOne, Bool.and_eq_true] at h
  obtain ⟨j, -, -, hj, -, -, hobj, -⟩ := (triggerOne_go_iff hs s.executor.triggerObject
    (s.executor.maxHandles % 2 ^ 32) 0 (by rw [Nat.zero_add]; exact Nat.mod_le _ _)).1 h.2
  exact ⟨j, hj, hobj⟩

end scans

/-! ### What the trigger gates -/

section gate
variable (mw : Middleware) {s : State}

theorem scheduling_takes_iff (hs : TableShape s.executor) (m : Semantics) :
    let r := runCalls mw m.stops (readinessOrder s.executor.index) rclRetOk s
    ((∃ c ∈ (m.scheduling mw s).log, c.pass ≠ .checkForNewData) ↔
      r.exit = false ∧ callTrigger mw r.state = true ∧ 0 < s.executor.index) := by
  dsimp only
  rw [scheduling_eq mw hs, scheduleRound_log]
  dsimp only
  have hr := runCalls_truncates mw m.stops (readinessOrder s.executor.index) rclRetOk s
  generalize runCalls mw m.stops (readinessOrder s.executor.index) rclRetOk s = r at hr ⊢
  have hx := runCalls_truncates mw m.stops (m.order s.executor.index) r.rc r.state
  have hxnil : (runCalls mw m.stops (m.order s.executor.index) r.rc r.state).log = [] ↔
      s.executor.index = 0 := by
    rw [runCalls_log_eq_nil_iff, order_eq_nil]
  generalize runCalls mw m.stops (m.order s.executor.index) r.rc r.state = x at hx hxnil ⊢
  have hcheck : ∀ c ∈ r.log, c.pass = .checkForNewData := fun c hc =>
    (mem_readinessOrder.1 (hr.keys.subset (List.mem_map_of_mem Call.key hc))).1
  have hnot : ∀ c ∈ x.log, c.pass ≠ .checkForNewData := fun c hc => by
    rcases (mem_order.1 (hx.keys.subset (List.mem_map_of_mem Call.key hc))).1 with h | h <;>
      simp only [Call.key] at h <;> simp [h]
  split
  · next hcond =>
      simp only [hcond.1, hcond.2, true_and, List.mem_append]
      constructor
      · rintro ⟨c, hc | hc, hp⟩
        · exact absurd (hcheck c hc) hp
        · exact Nat.pos_of_ne_zero fun h0 => by simp [hxnil.2 h0] at hc
      · intro hn
        obtain ⟨c, hc⟩ := List.exists_mem_of_ne_nil _ fun h => absurd (hxnil.1 h) (by omega)
        exact ⟨c, Or.inr hc, hnot c hc⟩
  · next hcond =>
      constructor
      · rintro ⟨c, hc, hp⟩; exact absurd (hcheck c hc) hp
      · rintro ⟨h1, h2, -⟩; exact absurd ⟨h1, h2⟩ hcond

end gate

/-- On every packed table whose `max_handles` an `unsigned int` can hold (every reachable
one, and every one a round of `rclc_executor_spin_some` hands to its scheduler), a round of
either scheduler makes take or execute calls exactly when the readiness pass passed, the
trigger fired on the table it left and some handle is registered; there
`rclc_executor_trigger_any` fires exactly when the handles are not `NULL` and some
registered handle is ready, and `rclc_executor_trigger_all` exactly when they are not
`NULL` and every registered handle is ready. -/
theorem trigger_gates_round {s : State} (hs : TableShape s.executor)
    (hmax : s.executor.maxHandles < 2 ^ 32)
    (mw : Middleware) (m : Semantics) :
    let r := runCalls mw m.stops (readinessOrder s.executor.index) rclRetOk s
    ((∃ c ∈ (m.scheduling mw s).log, c.pass ≠ .checkForNewData) ↔
      r.exit = false ∧ callTrigger mw r.state = true ∧ 0 < s.executor.index) ∧
    (s.executor.triggerFunction = .any → (callTrigger mw r.state = true ↔
      s.executor.handlesNull = false ∧ ∃ i < s.executor.index,
        rclcCheckHandleDataAvailable r.state (r.state.executor.handles i) = true)) ∧
    (s.executor.triggerFunction = .all → (callTrigger mw r.state = true ↔
      s.executor.handlesNull = false ∧ ∀ i < s.executor.index,
        rclcCheckHandleDataAvailable r.state (r.state.executor.handles i) = true)) := by
  intro r
  have hf := runCalls_onlyHandles mw m.stops (readinessOrder s.executor.index) rclRetOk s
  have hrs : TableShape r.state.executor := by
    show TableShape
      (runCalls mw m.stops (readinessOrder s.executor.index) rclRetOk s).state.executor
    rw [← readinessPass_eq mw hs.shaped m]
    exact forHandles_tableShape (checkStep_editsAt mw) _ _ _ hs
  refine ⟨scheduling_takes_iff mw hs m, fun ht => ?_, fun ht => ?_⟩
  · rw [callTrigger_any mw hrs (by rw [hf.maxHandles]; exact hmax)
      (by rw [hf.triggerFunction]; exact ht), hf.handlesNull, hf.index]
  · rw [callTrigger_all mw hrs (by rw [hf.maxHandles]; exact hmax)
      (by rw [hf.triggerFunction]; exact ht), hf.handlesNull, hf.index]

/-! ### A table too large for the trigger's `unsigned int` -/

/-- `rclc_executor_init` with `2^32` slots, a subscription with invocation `ALWAYS`, and
`rclc_executor_trigger_all` installed. -/
def wideState : State :=
  runOps [.addSubscription 1 2 3 .always .ok, .setTrigger .all 0] (initBlank (2 ^ 32))

/-- With `2^32` slots the trigger sees `size = 0`, so `rclc_executor_trigger_all` fires in a
round in which the only handle is not ready: the round takes and executes it and calls its
callback with `NULL`. -/
theorem trigger_all_size_wraps :
    Reachable wideState ∧ wideState.executor.triggerFunction = .all ∧
    ((rclcExecutorSpinSome Middleware.idle wideState).state.executor.handles 0).dataAvailable =
      false ∧
    (rclcExecutorSpinSome Middleware.idle wideState).calls.map Call.key =
      [(.checkForNewData, 0), (.takeNewData, 0), (.execute, 0)] ∧
    ((rclcExecutorSpinSome Middleware.idle wideState).calls.flatMap Call.events).filter
      Event.isCallback = [.callback 3 [0]] :=
  ⟨(reachable_initBlank (Nat.pos_iff_ne_zero.1 (Nat.two_pow_pos 32))).runOps _, by decide,
    by decide, by decide, by decide⟩

/-! ### An action endpoint ahead of the target of `rclc_executor_trigger_one` -/

/-- `rclc_executor_init` with two slots, an action server at address `7` and then a
subscription at address `2`, and `rclc_executor_trigger_one` set on the subscription. -/
def actionFirstState : State :=
  runOps [.addActionServer 7 1 100 1 8 9 0 true .ok (.ok, ⟨0, 0, 0, 0, 0⟩),
    .addSubscription 2 3 4 .onNewData .ok, .setTrigger .one 2] (initBlank 2)

/-- A round in which the subscription has a message and the action server a goal request. -/
def actionFirstRound : Middleware :=
  { Middleware.idle with
    subscriptions := fun _ => true
    actionServerEntitiesReady := fun _ => (.ok, ⟨true, false, false, false⟩) }

/-- The subscription is ready and its endpoint is the trigger object, yet
`rclc_executor_trigger_one` returns `false`: the ready action server before it has no
endpoint pointer and ends the scan. The round takes and executes nothing. -/
theorem trigger_one_hidden_by_action :
    Reachable actionFirstState ∧ actionFirstState.executor.triggerFunction = .one ∧
    actionFirstState.executor.triggerObject = 2 ∧
    rclcCheckHandleDataAvailable (rclcExecutorSpinSome actionFirstRound actionFirstState).state
      ((rclcExecutorSpinSome actionFirstRound actionFirstState).state.executor.handles 1) = true ∧
    rclcExecutorHandleGetPtr
      ((rclcExecutorSpinSome actionFirstRound actionFirstState).state.executor.handles 1) = 2 ∧
    rclcExecutorTriggerOne (rclcExecutorSpinSome actionFirstRound actionFirstState).state 2 2 =
      false ∧
    (rclcExecutorSpinSome actionFirstRound actionFirstState).calls.map Call.key =
      [(.checkForNewData, 0), (.checkForNewData, 1)] :=
  ⟨(reachable_initBlank (by decide)).runOps _, by decide, by decide, by decide, by decide,
    by decide, by decide⟩

end RclcExecutor
