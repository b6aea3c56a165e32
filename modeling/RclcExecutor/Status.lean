import RclcExecutor.Equivalence

/-!
What a round reports to `rclc_executor_spin`.

The take loop of `_rclc_let_scheduling` lets only `RCL_RET_SUBSCRIPTION_TAKE_FAILED` pass.
A take that returns `RCL_RET_SERVICE_TAKE_FAILED` is therefore the last call of its round:
the round returns that status before any execute call, so no handle is executed in that
round, and `rclc_executor_spin`, which goes on only on `RCL_RET_OK` and `RCL_RET_TIMEOUT`,
stops.

`rclc_executor_spin_some` does not look at what `rcl_wait` returns: its status, its state
and its calls are the same whatever `rcl_wait` reports, so a failed wait is reported as the
scheduler's status, and an idle wait never as `RCL_RET_TIMEOUT`.
-/

namespace RclcExecutor

/-! ### A service take failure ends a `LET` round -/

theorem getLast?_eq_of_not_mem_dropLast {α : Type} {l : List α} {a : α} (ha : a ∈ l)
    (hd : a ∉ l.dropLast) : l.getLast? = some a := by
  have hne : l ≠ [] := List.ne_nil_of_mem ha
  rw [← List.dropLast_append_getLast hne, List.mem_append, List.mem_singleton] at ha
  rw [List.getLast?_eq_getLast l hne, ha.resolve_left hd]

/-- Under `LET`, a take that returns `RCL_RET_SERVICE_TAKE_FAILED` is the last call of its
round: the round returns that status, and it has made no execute call. -/
theorem let_serviceTakeFailed_last {s : State} (hs : TableShape s.executor) (mw : Middleware)
    {c : Call} (hc : c ∈ (rclcLetScheduling mw s).log) (htake : c.pass = .takeNewData)
    (hret : c.ret = rclRetServiceTakeFailed) :
    (rclcLetScheduling mw s).log.getLast? = some c ∧
    (rclcLetScheduling mw s).rc = rclRetServiceTakeFailed ∧
    ∀ c' ∈ (rclcLetScheduling mw s).log, c'.pass ≠ .execute := by
  rw [rclcLetScheduling_eq mw hs] at hc ⊢
  have hr := runCalls_truncates mw Semantics.logicalExecutionTime.stops
    (readinessOrder s.executor.index) rclRetOk s
  have hpair := (List.pairwise_append.1
    (roundOrdered_readiness_order .logicalExecutionTime s.executor.index)).2.1
  unfold scheduleRound at hc ⊢
  generalize runCalls mw Semantics.logicalExecutionTime.stops (readinessOrder s.executor.index)
    rclRetOk s = r at hr hc ⊢
  dsimp only at hc ⊢
  have hx := runCalls_truncates mw Semantics.logicalExecutionTime.stops
    (Semantics.logicalExecutionTime.order s.executor.index) r.rc r.state
  have hxrc := runCalls_rc mw Semantics.logicalExecutionTime.stops
    (Semantics.logicalExecutionTime.order s.executor.index) r.rc r.state
  generalize runCalls mw Semantics.logicalExecutionTime.stops
    (Semantics.logicalExecutionTime.order s.executor.index) r.rc r.state = x at hx hxrc hc ⊢
  have hcheck : ∀ c ∈ r.log, c.pass ≠ .takeNewData ∧ c.pass ≠ .execute := fun c hc => by
    have h := (mem_readinessOrder.1 (hr.keys.subset (List.mem_map_of_mem Call.key hc))).1
    simp only [Call.key] at h
    rw [h]
    exact ⟨nofun, nofun⟩
  split at hc
  · exact absurd htake (hcheck c hc).1
  split at hc
  · next hexit htrig =>
      rw [if_neg hexit, if_pos htrig]
      have hcx : c ∈ x.log := (List.mem_append.1 hc).resolve_left fun h => (hcheck c h).1 htake
      have hlast : x.log.getLast? = some c := getLast?_eq_of_not_mem_dropLast hcx fun hd => by
        have h := hx.goes_on c hd
        rw [htake, hret] at h
        exact absurd h (by decide)
      -- every other call of the take and execute pass comes before `c`
      have hbefore : ∀ c' ∈ x.log, c' ≠ c → RoundOrdered .logicalExecutionTime c'.key c.key := by
        have hxp := List.pairwise_map.1 (hpair.sublist hx.keys.sublist)
        rw [← List.dropLast_append_getLast? c hlast] at hxp
        intro c' hc' hne
        rw [← List.dropLast_append_getLast? c hlast, List.mem_append, List.mem_singleton] at hc'
        exact (List.pairwise_append.1 hxp).2.2 c' (hc'.resolve_right hne) c
          (List.mem_singleton_self c)
      refine ⟨by simp [hlast], by simp [hxrc, hlast, hret], fun c' hc' hexe => ?_⟩
      rcases List.mem_append.1 hc' with h | h
      · exact (hcheck c' h).2 hexe
      · have hne : c' ≠ c := by
          rintro rfl
          rw [htake] at hexe
          cases hexe
        exact absurd ((hbefore c' h hne).2.2 rfl hexe) (by simp [Call.key, htake])
  · exact absurd htake (hcheck c hc).1

/-- A service registered before a subscription, under `LET`. -/
def letServiceState : State :=
  runOps [.addService 10 11 12 13 .ok, .addSubscription 20 21 22 .onNewData .ok,
    .setSemantics .logicalExecutionTime] (initBlank 2)

/-- Under `LET`, the service's take finds no request (`RCL_RET_SERVICE_TAKE_FAILED`) in a round
in which the subscription has the message `7`: the round returns that status, which stops
`rclc_executor_spin`, and the subscription's callback does not run. Had the service not been
reported ready, the round would have run it. -/
theorem let_service_take_failed_aborts :
    Reachable letServiceState ∧
    (rclcExecutorSpinSome requestMissingRound letServiceState).ret = rclRetServiceTakeFailed ∧
    callbacks (rclcExecutorSpinSome requestMissingRound letServiceState).calls = [] ∧
    (rclcExecutorSpinSome { requestMissingRound with services := fun _ => false }
      letServiceState).ret = rclRetOk ∧
    callbacks (rclcExecutorSpinSome { requestMissingRound with services := fun _ => false }
      letServiceState).calls = [.callback 22 [21]] :=
  ⟨(reachable_initBlank (by decide)).runOps _, by decide, by decide, by decide, by decide⟩

/-! ### The status of `rcl_wait` is not looked at -/

/-- `rclc_executor_spin_some` returns the same status, leaves the same state and makes the
same calls whatever `rcl_wait` returns; only its record of the wait differs. -/
theorem rclcExecutorSpinSome_wait (mw : Middleware) (s : State) (w : MwRet) :
    (rclcExecutorSpinSome { mw with wait := w } s).ret = (rclcExecutorSpinSome mw s).ret ∧
    (rclcExecutorSpinSome { mw with wait := w } s).state = (rclcExecutorSpinSome mw s).state ∧
    (rclcExecutorSpinSome { mw with wait := w } s).calls = (rclcExecutorSpinSome mw s).calls := by
  have hd : rclcDefaultScheduling { mw with wait := w } = rclcDefaultScheduling mw := rfl
  have hl : rclcLetScheduling { mw with wait := w } = rclcLetScheduling mw := rfl
  have ha : waitSetAddStep { mw with wait := w } = waitSetAddStep mw := rfl
  unfold rclcExecutorSpinSome
  simp only [hd, hl, ha]
  split <;> (try split) <;> (try split) <;> exact ⟨rfl, rfl, rfl⟩

/-- The status `RCL_RET_TIMEOUT` as a failed call reports it. -/
def RclError.timeout : RclError := ⟨rclRetTimeout, by decide⟩

/-- A subscription registered in a fresh executor. -/
def subscribedState : State :=
  runOps [.addSubscription 1 2 3 .onNewData .ok] (initBlank 1)

/-- In a round with nothing ready, `rcl_wait` fails with `RCL_RET_ERROR`, or times out: either
way `rclc_executor_spin_some` returns `RCL_RET_OK`. -/
theorem spin_some_hides_wait_status :
    Reachable subscribedState ∧
    (rclcExecutorSpinSome { Middleware.idle with wait := .error .error } subscribedState).setup.getLast? =
      some (.wait (.error .error)) ∧
    (rclcExecutorSpinSome { Middleware.idle with wait := .error .error } subscribedState).ret =
      rclRetOk ∧
    (rclcExecutorSpinSome { Middleware.idle with wait := .error .timeout } subscribedState).ret =
      rclRetOk :=
  ⟨(reachable_initBlank Nat.one_ne_zero).runOps _, by decide, by decide, by decide⟩

end RclcExecutor
