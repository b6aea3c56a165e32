import RclcExecutor.Frame

/-!
`rclc_executor_spin_one_period` and the runs of it that `rclc_executor_spin_period` makes.

The invocation time is an `int64_t` and the period a `uint64_t`: C converts the invocation
time to `uint64_t` to add them, and stores the wrapped result back into an `int64_t`. When
the exact values fit in an `int64_t` the conversions cancel, so the sleep time is the exact
`invocation_time + period - end_time_point`, and the invocation time advances by exactly
one period however long the round took. An invocation time of `0` means that none is set:
a call that finds it so reads the clock instead. So a run keeps to the time point of its
first call only as long as no later invocation time is `0`.
-/

namespace RclcExecutor

/-! ### `int64_t` arithmetic -/

/-- An `int64_t` value. -/
def InInt64 (x : Int) : Prop := -2 ^ 63 ≤ x ∧ x < 2 ^ 63

instance (x : Int) : Decidable (InInt64 x) := inferInstanceAs (Decidable (_ ∧ _))

theorem toInt64_add_eq {t : Int} {p : Nat} (htp : InInt64 (t + p)) :
    toInt64 ((toUInt64 t + p) % 2 ^ 64) = t + p := by
  unfold InInt64 at htp
  unfold toInt64 toUInt64
  split <;> omega

theorem sleepTime_eq {t e : Int} {p : Nat} (hd : InInt64 (t + p - e)) :
    sleepTime t p e = t + p - e := by
  unfold InInt64 at hd
  unfold sleepTime toInt64 toUInt64
  split <;> omega

/-! ### One period -/

theorem rclcExecutorPrepare_invocationTime (e : Executor) (initRet : MwRet) :
    (rclcExecutorPrepare e initRet).2.1.invocationTime = e.invocationTime := by
  unfold rclcExecutorPrepare
  split
  · rfl
  · split <;> rfl

theorem rclcExecutorSpinSome_invocationTime (mw : Middleware) (s : State) :
    (rclcExecutorSpinSome mw s).state.executor.invocationTime = s.executor.invocationTime :=
  @rclcExecutorSpinSome_keeps mw (fun e => e.invocationTime = s.executor.invocationTime)
    (fun _ _ _ h _ _ he => by obtain ⟨g, -, rfl⟩ := he; exact h)
    (fun e r h => (rclcExecutorPrepare_invocationTime e r).trans h) s rfl

/-- The invocation time a call of `rclc_executor_spin_one_period` works with: the stored one,
or the clock's reading `startTime` when none is set. -/
def periodStart (s : State) (startTime : Int) : Int :=
  if s.executor.invocationTime = 0 then startTime else s.executor.invocationTime

theorem periodStart_of_ne {s : State} (h : s.executor.invocationTime ≠ 0) (startTime : Int) :
    periodStart s startTime = s.executor.invocationTime :=
  if_neg h

theorem captureInvocationTime_invocationTime (s : State) (startTime : Int) :
    (captureInvocationTime s startTime).executor.invocationTime = periodStart s startTime := by
  unfold captureInvocationTime periodStart
  split <;> rfl

theorem rclcExecutorSpinOnePeriod_ok {mw : Middleware} {s : State} {period : Nat}
    {startTime : Int} {endRet : RclRet} {endTime : Int}
    (h : (rclcExecutorSpinOnePeriod mw s period startTime endRet endTime).1 = rclRetOk) :
    (rclcExecutorSpinOnePeriod mw s period startTime endRet endTime).2.1.executor.invocationTime =
      toInt64 ((toUInt64 (periodStart s startTime) + period) % 2 ^ 64) ∧
    (rclcExecutorSpinOnePeriod mw s period startTime endRet endTime).2.2 =
      if 0 < sleepTime (periodStart s startTime) period endTime then
        some (sleepTime (periodStart s startTime) period endTime / 1000000).toNat
      else none := by
  unfold rclcExecutorSpinOnePeriod at h ⊢
  dsimp only at h ⊢
  split at h
  · next hfail => exact absurd h hfail.1
  · next hsucc =>
      rw [if_neg hsucc, rclcExecutorSpinSome_invocationTime, captureInvocationTime_invocationTime]
      exact ⟨rfl, rfl⟩

/-! ### Runs of periods -/

/-- The state after `k` calls of `rclc_executor_spin_one_period` with the period `period`
from `s`: call `j` meets the middleware `mw j`, reads the clock as `startTime j` when it finds
no invocation time, and reads it as `endTime j`, with the status `endRet j`, after its round.
While every call returns `RCL_RET_OK`, these are the states `rclc_executor_spin_period` goes
through. -/
def spinOnePeriods (mw : Nat → Middleware) (period : Nat) (startTime : Nat → Int)
    (endRet : Nat → RclRet) (endTime : Nat → Int) (s : State) : Nat → State
  | 0 => s
  | k + 1 => (rclcExecutorSpinOnePeriod (mw k)
      (spinOnePeriods mw period startTime endRet endTime s k) period (startTime k) (endRet k)
      (endTime k)).2.1

def periodCall (mw : Nat → Middleware) (period : Nat) (startTime : Nat → Int)
    (endRet : Nat → RclRet) (endTime : Nat → Int) (s : State) (j : Nat) :
    RclRet × State × Option Nat :=
  rclcExecutorSpinOnePeriod (mw j) (spinOnePeriods mw period startTime endRet endTime s j) period
    (startTime j) (endRet j) (endTime j)

section run
variable {mw : Nat → Middleware} {period : Nat} {startTime : Nat → Int} {endRet : Nat → RclRet}
  {endTime : Nat → Int} {s : State} {k : Nat}

/-- While the calls succeed, the invocation time sums have room and no intermediate one is
`0`, call `j` works with `t0 + j * period` and leaves `t0 + (j + 1) * period`, where `t0` is
what the first call works with. -/
theorem periodCall_times
    (hrange : ∀ j ≤ k, InInt64 (periodStart s (startTime 0) + (j + 1) * period))
    (hnz : ∀ j ≤ k, 0 < j → periodStart s (startTime 0) + j * period ≠ 0)
    (hok : ∀ j ≤ k, (periodCall mw period startTime endRet endTime s j).1 = rclRetOk) :
    ∀ j ≤ k, periodStart (spinOnePeriods mw period startTime endRet endTime s j) (startTime j) =
        periodStart s (startTime 0) + j * period ∧
      (spinOnePeriods mw period startTime endRet endTime s (j + 1)).executor.invocationTime =
        periodStart s (startTime 0) + (j + 1) * period := by
  -- call `j` leaves one period more than it works with
  have hnext : ∀ j ≤ k, periodStart (spinOnePeriods mw period startTime endRet endTime s j)
      (startTime j) = periodStart s (startTime 0) + j * period →
      (spinOnePeriods mw period startTime endRet endTime s (j + 1)).executor.invocationTime =
        periodStart s (startTime 0) + (j + 1) * period := fun j hj hstart => by
    rw [spinOnePeriods, (rclcExecutorSpinOnePeriod_ok (hok j hj)).1, hstart,
      toInt64_add_eq (by convert hrange j hj using 1; ring)]
    ring
  intro j hj
  induction j with
  | zero =>
      have hstart : periodStart (spinOnePeriods mw period startTime endRet endTime s 0) (startTime 0) =
          periodStart s (startTime 0) + (0 : Nat) * period := by simp [spinOnePeriods]
      exact ⟨hstart, hnext 0 hj hstart⟩
  | succ j ih =>
      have hinv := (ih (by omega)).2
      have hstart : periodStart (spinOnePeriods mw period startTime endRet endTime s (j + 1))
          (startTime (j + 1)) = periodStart s (startTime 0) + (j + 1 : Nat) * period := by
        have hne := hnz (j + 1) hj (Nat.succ_pos j)
        push_cast at hne ⊢
        rw [periodStart_of_ne (hinv ▸ hne), hinv]
      exact ⟨hstart, hnext (j + 1) hj hstart⟩

end run

/-- Take a run of `k + 1` calls of `rclc_executor_spin_one_period` with the period `period`,
each returning `RCL_RET_OK` (its round succeeded and so did its reading of the clock), and let `t0` be the invocation time its first call works with:
the stored one, or the clock's reading if none was set. If every `t0 + (j + 1) * period` and
every `t0 + (j + 1) * period - endTime j` is an `int64_t` value, and none of the invocation
times `t0 + j * period` that a later call finds is `0`, then call `j` computes the sleep time
`t0 + (j + 1) * period - endTime j`: it calls `rclc_sleep_ms` exactly when its end time is
before `t0 + (j + 1) * period`, with that many nanoseconds rounded down to milliseconds; and
the run leaves the invocation time at exactly `t0 + (k + 1) * period`, however long its rounds
took. -/
theorem spin_one_period_schedule (mw : Nat → Middleware) (period : Nat)
    (startTime : Nat → Int) (endRet : Nat → RclRet) (endTime : Nat → Int) (s : State) (k : Nat)
    (hrange : ∀ j ≤ k, InInt64 (periodStart s (startTime 0) + (j + 1) * period))
    (hdiff : ∀ j ≤ k, InInt64 (periodStart s (startTime 0) + (j + 1) * period - endTime j))
    (hnz : ∀ j ≤ k, 0 < j → periodStart s (startTime 0) + j * period ≠ 0)
    (hok : ∀ j ≤ k, (periodCall mw period startTime endRet endTime s j).1 = rclRetOk) :
    (∀ j ≤ k, sleepTime (periodStart (spinOnePeriods mw period startTime endRet endTime s j)
        (startTime j)) period (endTime j) =
      periodStart s (startTime 0) + (j + 1) * period - endTime j) ∧
    (∀ j ≤ k, (periodCall mw period startTime endRet endTime s j).2.2 =
      if endTime j < periodStart s (startTime 0) + (j + 1) * period then
        some ((periodStart s (startTime 0) + (j + 1) * period - endTime j) / 1000000).toNat
      else none) ∧
    (spinOnePeriods mw period startTime endRet endTime s (k + 1)).executor.invocationTime =
      periodStart s (startTime 0) + (k + 1) * period := by
  have htimes := periodCall_times hrange hnz hok
  have hsleep : ∀ j ≤ k, sleepTime (periodStart (spinOnePeriods mw period startTime endRet endTime s j)
      (startTime j)) period (endTime j) =
      periodStart s (startTime 0) + (j + 1) * period - endTime j := fun j hj => by
    rw [(htimes j hj).1, sleepTime_eq (by simpa [add_mul, add_assoc] using hdiff j hj)]
    ring
  refine ⟨hsleep, fun j hj => ?_, (htimes k (Nat.le_refl k)).2⟩
  rw [periodCall, (rclcExecutorSpinOnePeriod_ok (hok j hj)).2, hsleep j hj]
  simp only [sub_pos]

theorem spin_one_period_schedule_idle :
    let mw := fun _ : Nat => Middleware.idle
    let period : Nat := 5
    let startTime := fun _ : Nat => (100 : Int)
    let endRet := fun _ : Nat => rclRetOk
    let endTime := fun _ : Nat => (103 : Int)
    let s := initBlank 1
    let k : Nat := 1
    ((∀ j ≤ k, InInt64 (periodStart s (startTime 0) + (j + 1) * period)) ∧
      (∀ j ≤ k, InInt64 (periodStart s (startTime 0) + (j + 1) * period - endTime j)) ∧
      (∀ j ≤ k, 0 < j → periodStart s (startTime 0) + j * period ≠ 0) ∧
      (∀ j ≤ k, (periodCall mw period startTime endRet endTime s j).1 = rclRetOk)) ∧
    (∀ j ≤ k, sleepTime (periodStart (spinOnePeriods mw period startTime endRet endTime s j)
        (startTime j)) period (endTime j) =
      periodStart s (startTime 0) + (j + 1) * period - endTime j) ∧
    (∀ j ≤ k, (periodCall mw period startTime endRet endTime s j).2.2 =
      if endTime j < periodStart s (startTime 0) + (j + 1) * period then
        some ((periodStart s (startTime 0) + (j + 1) * period - endTime j) / 1000000).toNat
      else none) ∧
    (spinOnePeriods mw period startTime endRet endTime s (k + 1)).executor.invocationTime =
      periodStart s (startTime 0) + (k + 1) * period :=
  ⟨⟨by decide, by decide, by decide, by decide⟩,
    spin_one_period_schedule _ 5 _ _ _ _ 1 (by decide) (by decide) (by decide) (by decide)⟩

/-- Without the last condition the run drifts: a first call that reads the clock as `-5`,
with the period `5`, leaves the invocation time at `0`, so the second call reads the clock
again, here as `100`, and the run ends at `105` rather than at `-5 + 2 * 5`. -/
theorem spin_period_restarts_at_zero :
    let mw := fun _ : Nat => Middleware.idle
    let startTime := fun j : Nat => if j = 0 then (-5 : Int) else 100
    let endRet := fun _ : Nat => rclRetOk
    let endTime := fun _ : Nat => (0 : Int)
    Reachable (initBlank 1) ∧
    (∀ j ≤ 1, (periodCall mw 5 startTime endRet endTime (initBlank 1) j).1 = rclRetOk) ∧
    (spinOnePeriods mw 5 startTime endRet endTime (initBlank 1) 2).executor.invocationTime = 105 :=
  ⟨reachable_initBlank Nat.one_ne_zero, by decide, by decide⟩

end RclcExecutor
