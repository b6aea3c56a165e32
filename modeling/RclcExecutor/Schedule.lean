import RclcExecutor.TableShape

/-!
The order of the calls of a round.

`scheduleRound` says what a round is for: the readiness call on every registered handle,
then, if no readiness call failed and the trigger fires, the take and execute calls in the
order of the semantics, `RCLCPP_EXECUTOR` handle by handle and `LET` all takes before all
executes; each sequence stops at the first call whose status the round does not tolerate.
`runCalls` makes such a sequence of calls, and `Truncates` says what its log is: a prefix of
the sequence that ends at the first call that stops it, if any.

On a packed table (`TableShape`) both schedulers of the code are `scheduleRound`: every
handle loop of the code is a `runCalls` over the positions `0, ..., index - 1`.
-/

namespace RclcExecutor

/-! ### The abstract round -/

/-- The per-handle function a call of `pass` runs. -/
def passFn (mw : Middleware) : Pass → Nat → State → RclRet × State × List Event
  | .checkForNewData => rclcCheckForNewData mw
  | .takeNewData => rclcTakeNewData mw
  | .execute => rclcExecute mw

/-- The statuses that end a round, by pass: the readiness loop lets
`RCL_RET_SUBSCRIPTION_TAKE_FAILED` pass, the take loop of `RCLCPP_EXECUTOR` also
`RCL_RET_SERVICE_TAKE_FAILED`, the take loop of `LET` only the former, the execute loops
nothing but `RCL_RET_OK`. -/
def Semantics.stops : Semantics → Pass → RclRet → Bool
  | _, .checkForNewData => stopUnlessSubscriptionTakeFailed
  | .rclcppExecutor, .takeNewData => stopUnlessTakeFailed
  | .logicalExecutionTime, .takeNewData => stopUnlessSubscriptionTakeFailed
  | _, .execute => stopUnlessOk

/-- The readiness calls on the handles `0, ..., n - 1`. -/
def readinessOrder (n : Nat) : List (Pass × Nat) :=
  (List.range n).map fun i => (Pass.checkForNewData, i)

/-- The take and execute calls on the handles `0, ..., n - 1`: handle by handle under
`RCLCPP_EXECUTOR`, all takes before all executes under `LET`. -/
def Semantics.order : Semantics → Nat → List (Pass × Nat)
  | .rclcppExecutor, n =>
      (List.range n).flatMap fun i => [(Pass.takeNewData, i), (Pass.execute, i)]
  | .logicalExecutionTime, n =>
      (List.range n).map (fun i => (Pass.takeNewData, i)) ++
        (List.range n).map fun i => (Pass.execute, i)

/-- Make the calls in order, each on the state the one before left, until one returns a
status that `stop` rejects. -/
def runCalls (mw : Middleware) (stop : Pass → RclRet → Bool) :
    List (Pass × Nat) → RclRet → State → Iter Call
  | [], rc, s => ⟨rc, s, [], false⟩
  | (p, i) :: cs, _, s =>
      let r := passFn mw p i s
      if stop p r.1 then ⟨r.1, r.2.1, [⟨p, i, r.1, r.2.2⟩], true⟩
      else
        let r' := runCalls mw stop cs r.1 r.2.1
        { r' with log := ⟨p, i, r.1, r.2.2⟩ :: r'.log }

/-- A round of the semantics `m` on the registered handles of `s`. -/
def scheduleRound (mw : Middleware) (m : Semantics) (s : State) : Iter Call :=
  let r := runCalls mw m.stops (readinessOrder s.executor.index) rclRetOk s
  if r.exit then r
  else if callTrigger mw r.state then
    let x := runCalls mw m.stops (m.order s.executor.index) r.rc r.state
    { x with log := r.log ++ x.log }
  else r

def Call.key (c : Call) : Pass × Nat := (c.pass, c.pos)

/-- The log of a run of the calls `sched` is a prefix of `sched` that stops exactly at the
first call whose status `stop` rejects, and the run exits exactly when such a call ended
it. -/
structure Truncates (stop : Pass → RclRet → Bool) (sched : List (Pass × Nat)) (r : Iter Call) :
    Prop where
  keys : r.log.map Call.key <+: sched
  goes_on : ∀ c ∈ r.log.dropLast, stop c.pass c.ret = false
  exit_iff : r.exit = true ↔ ∃ c, r.log.getLast? = some c ∧ stop c.pass c.ret = true
  complete : r.exit = false → r.log.map Call.key = sched

theorem passFn_editsAt (mw : Middleware) (p : Pass) (i : Nat) (s : State) :
    EditsAt i s.executor (passFn mw p i s).2.1.executor := by
  cases p
  · exact rclcCheckForNewData_editsAt mw i s
  · exact rclcTakeNewData_editsAt mw i s
  · exact (rclcExecute_executor mw i s).symm ▸ EditsAt.refl i s.executor

section runCalls
variable (mw : Middleware) (stop : Pass → RclRet → Bool)

theorem runCalls_truncates (sched : List (Pass × Nat)) :
    ∀ rc s, Truncates stop sched (runCalls mw stop sched rc s) := by
  induction sched with
  | nil =>
      intro rc s
      exact ⟨List.prefix_refl _, by simp [runCalls], by simp [runCalls], fun _ => rfl⟩
  | cons c cs ih =>
      intro rc s
      obtain ⟨p, i⟩ := c
      by_cases hstop : stop p (passFn mw p i s).1 = true
      · simp only [runCalls, hstop, if_true]
        exact ⟨by simp [Call.key], by simp, by simp [hstop], nofun⟩
      · simp only [runCalls, hstop, Bool.false_eq_true, if_false]
        obtain ⟨hpre, hgo, hexit, hcomp⟩ := ih (passFn mw p i s).1 (passFn mw p i s).2.1
        generalize runCalls mw stop cs (passFn mw p i s).1 (passFn mw p i s).2.1 = r'
          at hpre hgo hexit hcomp ⊢
        refine ⟨by simpa [Call.key] using hpre, ?_, ?_, fun h => by simp [Call.key, hcomp h]⟩
        · rcases hlog : r'.log with _ | ⟨c', l⟩
          · simp
          · rw [hlog] at hgo
            simp only [List.dropLast_cons₂, List.mem_cons]
            rintro c (rfl | hc)
            · simpa using hstop
            · exact hgo c hc
        · rcases hlog : r'.log with _ | ⟨c', l⟩
          · rw [hlog] at hexit
            simp only [List.getLast?_nil, reduceCtorEq, false_and, exists_false, iff_false,
              Bool.not_eq_true] at hexit
            simpa [hexit] using hstop
          · rw [hlog] at hexit
            simpa [List.getLast?_cons_cons] using hexit

theorem runCalls_append (l₁ l₂ : List (Pass × Nat)) :
    ∀ rc s, runCalls mw stop (l₁ ++ l₂) rc s =
      let r := runCalls mw stop l₁ rc s
      if r.exit then r
      else
        let r' := runCalls mw stop l₂ r.rc r.state
        { r' with log := r.log ++ r'.log } := by
  induction l₁ with
  | nil => intro rc s; rfl
  | cons c cs ih =>
      intro rc s
      obtain ⟨p, i⟩ := c
      by_cases hstop : stop p (passFn mw p i s).1 = true
      · simp [runCalls, hstop]
      · simp only [Bool.not_eq_true] at hstop
        by_cases hx : (runCalls mw stop cs (passFn mw p i s).1 (passFn mw p i s).2.1).exit = true
        · simp [runCalls, hstop, ih, hx]
        · simp [runCalls, hstop, ih, hx]

theorem runCalls_log_eq_nil_iff {cs : List (Pass × Nat)} (rc : RclRet) (s : State) :
    (runCalls mw stop cs rc s).log = [] ↔ cs = [] := by
  rcases cs with _ | ⟨⟨p, i⟩, cs⟩
  · simp [runCalls]
  · simp only [runCalls]
    split <;> simp

theorem runCalls_onlyHandles (cs : List (Pass × Nat)) :
    ∀ rc s, OnlyHandles s.executor (runCalls mw stop cs rc s).state.executor := by
  induction cs with
  | nil => intro rc s; exact OnlyHandles.refl _
  | cons c cs ih =>
      intro rc s
      obtain ⟨p, i⟩ := c
      have h1 := (passFn_editsAt mw p i s).onlyHandles
      simp only [runCalls]
      split
      · exact h1
      · exact h1.trans (ih _ _)

end runCalls

/-! ### The handle loops as runs of calls -/

theorem Shaped.of_editsAt {n m i : Nat} {s s' : State} (hs : Shaped n m s)
    (h : EditsAt i s.executor s'.executor) : Shaped n m s' := by
  obtain ⟨g, hg, he⟩ := h
  obtain ⟨hidx, hmax, hnm, hinit⟩ := hs
  refine ⟨by rw [he]; exact hidx, by rw [he]; exact hmax, hnm, fun j hj => ?_⟩
  rw [he, Executor.modifyHandle_handles]
  split
  · next hji => subst hji; rw [hg.initialized]; exact hinit j hj
  · exact hinit j hj

section loops
variable (mw : Middleware) {n m : Nat}

theorem foldSteps_callStep (p : Pass) (stop : Pass → RclRet → Bool) (is : List Nat) :
    ∀ rc s, foldSteps (callStep p (passFn mw p) (stop p)) is rc s =
      runCalls mw stop (is.map fun i => (p, i)) rc s := by
  induction is with
  | nil => intro rc s; rfl
  | cons i is ih =>
      intro rc s
      by_cases hstop : stop p (passFn mw p i s).1 = true
      · simp [foldSteps, callStep, runCalls, hstop]
      · simp [foldSteps, callStep, runCalls, hstop, ih]

theorem foldSteps_defaultStep (is : List Nat) :
    ∀ rc s, foldSteps (defaultStep mw) is rc s =
      runCalls mw Semantics.rclcppExecutor.stops
        (is.flatMap fun i => [(Pass.takeNewData, i), (Pass.execute, i)]) rc s := by
  induction is with
  | nil => intro rc s; rfl
  | cons i is ih =>
      intro rc s
      rw [List.flatMap_cons, List.cons_append, List.cons_append, List.nil_append]
      by_cases ht : stopUnlessTakeFailed (rclcTakeNewData mw i s).1 = true
      · simp [foldSteps, defaultStep, callStep, runCalls, Semantics.stops, passFn, ht]
      · by_cases hx : stopUnlessOk (rclcExecute mw i (rclcTakeNewData mw i s).2.1).1 = true
        · simp [foldSteps, defaultStep, callStep, runCalls, Semantics.stops, passFn, ht, hx]
        · simp only [foldSteps, defaultStep, callStep, runCalls, Semantics.stops, passFn, ht, hx,
            Bool.false_eq_true, if_false, ih]
          rfl

theorem forHandles_callStep {s : State} (hs : Shaped n m s) (p : Pass)
    (stop : Pass → RclRet → Bool) (rc : RclRet) :
    forHandles (callStep p (passFn mw p) (stop p)) m 0 rc s =
      runCalls mw stop ((List.range n).map fun i => (p, i)) rc s := by
  rw [forHandles_eq_foldSteps (fun i s hs _ => hs.of_editsAt (passFn_editsAt mw p i s)) m 0 rc s
    hs (Nat.zero_le n) (by have := hs.2.2.1; omega), Nat.sub_zero, ← List.range_eq_range',
    foldSteps_callStep]

theorem forHandles_defaultStep {s : State} (hs : Shaped n m s) (rc : RclRet) :
    forHandles (defaultStep mw) m 0 rc s =
      runCalls mw Semantics.rclcppExecutor.stops (Semantics.rclcppExecutor.order n) rc s := by
  rw [forHandles_eq_foldSteps (fun i s hs _ => hs.of_editsAt (defaultStep_editsAt mw i s)) m 0 rc
    s hs (Nat.zero_le n) (by have := hs.2.2.1; omega), Nat.sub_zero, ← List.range_eq_range',
    foldSteps_defaultStep]
  rfl

theorem forHandles_shaped {α : Type} {body : Nat → State → Iter α}
    (hbody : ∀ i s, EditsAt i s.executor (body i s).state.executor) {s : State}
    (hs : Shaped n m s) (fuel i : Nat) (rc : RclRet) :
    Shaped n m (forHandles body fuel i rc s).state :=
  @forHandles_preserves α body (Shaped n m) (fun i s hs _ _ => hs.of_editsAt (hbody i s)) fuel i rc
    s hs

theorem runCalls_shaped {s : State} (hs : Shaped n m s) (stop : Pass → RclRet → Bool)
    (cs : List (Pass × Nat)) (rc : RclRet) : Shaped n m (runCalls mw stop cs rc s).state := by
  induction cs generalizing rc s with
  | nil => exact hs
  | cons c cs ih =>
      obtain ⟨p, i⟩ := c
      have h1 := hs.of_editsAt (passFn_editsAt mw p i s)
      simp only [runCalls]
      split
      · exact h1
      · exact ih h1 _

theorem readinessPass_eq {s : State} (hs : Shaped n m s) (sem : Semantics) :
    readinessPass mw s = runCalls mw sem.stops (readinessOrder n) rclRetOk s := by
  have hm : s.executor.maxHandles = m := hs.2.1
  have hstep : checkStep mw = callStep .checkForNewData (passFn mw .checkForNewData)
      (sem.stops .checkForNewData) := by cases sem <;> rfl
  unfold readinessPass
  rw [hm, hstep]
  exact forHandles_callStep mw hs .checkForNewData _ rclRetOk

end loops

theorem letTakeStep_eq (mw : Middleware) : letTakeStep mw =
    callStep .takeNewData (passFn mw .takeNewData)
      (Semantics.logicalExecutionTime.stops .takeNewData) :=
  rfl

theorem letExecuteStep_eq (mw : Middleware) : letExecuteStep mw =
    callStep .execute (passFn mw .execute) (Semantics.logicalExecutionTime.stops .execute) :=
  rfl

/-! ### The schedulers refine the abstract round -/

section refinement
variable (mw : Middleware) {s : State}

theorem rclcDefaultScheduling_eq (hs : TableShape s.executor) :
    rclcDefaultScheduling mw s = scheduleRound mw .rclcppExecutor s := by
  have hsh := hs.shaped
  have hr := readinessPass_eq mw hsh .rclcppExecutor
  have hr' : Shaped s.executor.index s.executor.maxHandles (readinessPass mw s).state := by
    rw [hr]; exact runCalls_shaped mw hsh _ _ _
  unfold rclcDefaultScheduling scheduleRound
  rw [← hr]
  dsimp only
  split
  · rfl
  · split
    · rw [hr'.2.1, forHandles_defaultStep mw hr']
    · rfl

theorem rclcLetScheduling_eq (hs : TableShape s.executor) :
    rclcLetScheduling mw s = scheduleRound mw .logicalExecutionTime s := by
  have hsh := hs.shaped
  have hr := readinessPass_eq mw hsh .logicalExecutionTime
  have hr' : Shaped s.executor.index s.executor.maxHandles (readinessPass mw s).state := by
    rw [hr]; exact runCalls_shaped mw hsh _ _ _
  unfold rclcLetScheduling scheduleRound
  rw [← hr]
  dsimp only
  split
  · rfl
  · split
    · have ht := forHandles_callStep mw hr' .takeNewData Semantics.logicalExecutionTime.stops
        (readinessPass mw s).rc
      have ht' := runCalls_shaped mw hr' Semantics.logicalExecutionTime.stops
        ((List.range s.executor.index).map fun i => (Pass.takeNewData, i)) (readinessPass mw s).rc
      rw [hr'.2.1, letTakeStep_eq, letExecuteStep_eq]
      rw [ht]
      simp only [Semantics.order, runCalls_append]
      split
      · rfl
      · rw [ht'.2.1, forHandles_callStep mw ht' .execute]
        simp
    · rfl

/-- The scheduler `rclc_executor_spin_some` runs under the semantics `m`. -/
def Semantics.scheduling : Semantics → Middleware → State → Iter Call
  | .rclcppExecutor => rclcDefaultScheduling
  | .logicalExecutionTime => rclcLetScheduling

theorem scheduling_eq (hs : TableShape s.executor) (m : Semantics) :
    m.scheduling mw s = scheduleRound mw m s := by
  cases m
  · exact rclcDefaultScheduling_eq mw hs
  · exact rclcLetScheduling_eq mw hs

end refinement

theorem mem_readinessOrder {n : Nat} {c : Pass × Nat} :
    c ∈ readinessOrder n ↔ c.1 = .checkForNewData ∧ c.2 < n := by
  obtain ⟨p, i⟩ := c
  simp only [readinessOrder, List.mem_map, List.mem_range, Prod.mk.injEq]
  constructor
  · rintro ⟨j, hj, rfl, rfl⟩; exact ⟨rfl, hj⟩
  · rintro ⟨rfl, hi⟩; exact ⟨i, hi, rfl, rfl⟩

theorem mem_order {m : Semantics} {n : Nat} {c : Pass × Nat} :
    c ∈ m.order n ↔ (c.1 = .takeNewData ∨ c.1 = .execute) ∧ c.2 < n := by
  obtain ⟨p, i⟩ := c
  cases m <;> cases p <;> simp [Semantics.order]

theorem order_eq_nil {m : Semantics} {n : Nat} : m.order n = [] ↔ n = 0 := by
  cases m <;> cases n <;> simp [Semantics.order, List.range_succ]

/-! ### The order of the calls of a round -/

theorem scheduleRound_log (mw : Middleware) (m : Semantics) (s : State) :
    (scheduleRound mw m s).log =
      let r := runCalls mw m.stops (readinessOrder s.executor.index) rclRetOk s
      if r.exit = false ∧ callTrigger mw r.state = true then
        r.log ++ (runCalls mw m.stops (m.order s.executor.index) r.rc r.state).log
      else r.log := by
  unfold scheduleRound
  dsimp only
  split
  · next h => simp [h]
  · next h => split <;> simp_all

/-- How two calls of a round relate when the first comes before the second: they are not the
same call, two executes run in the order of their positions, and under `LET` nothing but an
execute follows an execute. -/
def RoundOrdered (m : Semantics) (a b : Pass × Nat) : Prop :=
  a ≠ b ∧ (a.1 = .execute → b.1 = .execute → a.2 < b.2) ∧
    (m = .logicalExecutionTime → a.1 = .execute → b.1 = .execute)

theorem roundOrdered_readiness_order (m : Semantics) (n : Nat) :
    (readinessOrder n ++ m.order n).Pairwise (RoundOrdered m) := by
  refine List.pairwise_append.2 ⟨?_, ?_, fun a ha b hb => ?_⟩
  · exact List.pairwise_map.2 ((List.pairwise_lt_range n).imp fun h =>
      ⟨by simp [Nat.ne_of_lt h], by simp, by simp⟩)
  · cases m
    · refine List.pairwise_flatMap.2 ⟨fun i _ => by simp [RoundOrdered], ?_⟩
      exact (List.pairwise_lt_range n).imp fun h x hx y hy => by
        simp only [List.mem_cons, List.mem_singleton, List.not_mem_nil, or_false] at hx hy
        rcases hx with rfl | rfl <;> rcases hy with rfl | rfl <;>
          simp [RoundOrdered, h, Nat.ne_of_lt h]
    · refine List.pairwise_append.2 ⟨?_, ?_, fun a ha b hb => ?_⟩
      · exact List.pairwise_map.2 ((List.pairwise_lt_range n).imp fun h =>
          ⟨by simp [Nat.ne_of_lt h], by simp, by simp⟩)
      · exact List.pairwise_map.2 ((List.pairwise_lt_range n).imp fun h =>
          ⟨by simp [Nat.ne_of_lt h], fun _ _ => h, fun _ _ => rfl⟩)
      · simp only [List.mem_map] at ha hb
        obtain ⟨i, -, rfl⟩ := ha
        obtain ⟨j, -, rfl⟩ := hb
        simp [RoundOrdered]
  · obtain ⟨ha1, -⟩ := mem_readinessOrder.1 ha
    obtain ⟨hb1, -⟩ := mem_order.1 hb
    refine ⟨fun h => ?_, fun h => absurd (ha1 ▸ h) (by simp), fun _ h => absurd (ha1 ▸ h) (by simp)⟩
    subst h
    rcases hb1 with h | h <;> rw [ha1] at h <;> simp at h

end RclcExecutor
