import RclcExecutor.Locality
import RclcExecutor.Goals

/-!
What rounds leave alone, and how a round fills its wait set.

A property of the state that every per-handle call of a round keeps at a position the loops
visit, that the registration step keeps and that `rclc_executor_prepare` keeps, holds after
the round (`rclcExecutorSpinSome_preserves`). With it: a round changes, in the executor
record, only the handle table and the wait set; in the table, only the fields `index`,
`data_available` and `req_id` of the registered handles; and among the action records, only
those a registered handle points to. So no run of `rclc_executor_spin`, whatever its rounds
return, changes what is registered.

The registration loop of `rclc_executor_spin_some` calls `rcl_wait_set_add_*` once for
every registered handle, in table order; the first call that fails ends the round with its
status, before `rcl_wait` and before any per-handle call.
-/

namespace RclcExecutor

theorem EditsAt.initialized {i : Nat} {e e' : Executor} (h : EditsAt i e e') (j : Nat) :
    (e'.handles j).initialized = (e.handles j).initialized := by
  obtain ⟨g, hg, rfl⟩ := h
  by_cases hj : j = i <;> simp [hj, hg.initialized]

/-! ### Properties every call of a round keeps -/

section preserves
variable (mw : Middleware) {P : State → Prop}
  (hpass : ∀ p i t, P t → i < t.executor.maxHandles →
    (t.executor.handles i).initialized = true → P (passFn mw p i t).2.1)
include hpass

theorem defaultStep_preserves (i : Nat) (t : State) (ht : P t) (hi : i < t.executor.maxHandles)
    (hinit : (t.executor.handles i).initialized = true) : P (defaultStep mw i t).state := by
  have he := passFn_editsAt mw .takeNewData i t
  have h1 := hpass .takeNewData i t ht hi hinit
  unfold defaultStep
  dsimp only
  split
  · exact h1
  · exact hpass .execute i _ h1 (he.onlyHandles.maxHandles ▸ hi)
      ((he.initialized i).trans hinit)

theorem readinessPass_preserves {t : State} (ht : P t) : P (readinessPass mw t).state :=
  forHandles_preserves (hpass .checkForNewData) _ _ _ _ ht

theorem rclcDefaultScheduling_preserves {t : State} (ht : P t) :
    P (rclcDefaultScheduling mw t).state := by
  have hr := readinessPass_preserves mw hpass ht
  unfold rclcDefaultScheduling
  dsimp only
  split
  · exact hr
  · split
    · exact forHandles_preserves (defaultStep_preserves mw hpass) _ _ _ _ hr
    · exact hr

theorem rclcLetScheduling_preserves {t : State} (ht : P t) :
    P (rclcLetScheduling mw t).state := by
  have hr := readinessPass_preserves mw hpass ht
  unfold rclcLetScheduling
  dsimp only
  split
  · exact hr
  · split
    · have ht := @forHandles_preserves _ (letTakeStep mw) P (hpass .takeNewData)
        (readinessPass mw t).state.executor.maxHandles 0 (readinessPass mw t).rc _ hr
      split
      · exact ht
      · exact forHandles_preserves (hpass .execute) _ _ _ _ ht
    · exact hr

/-- A property of the state that every per-handle call keeps, that the registration step
keeps and that `rclc_executor_prepare` keeps, holds after a round. -/
theorem rclcExecutorSpinSome_preserves (hreg : ∀ i t, P t → i < t.executor.maxHandles →
      (t.executor.handles i).initialized = true → P (waitSetAddStep mw i t).state)
    (hprep : ∀ t r, P t → P { t with executor := (rclcExecutorPrepare t.executor r).2.1 })
    {s : State} (hs : P s) : P (rclcExecutorSpinSome mw s).state := by
  have hp := hprep s mw.waitSetInit hs
  unfold rclcExecutorSpinSome
  split
  · exact hs
  dsimp only
  split
  · exact hp
  · have hr : P (forHandles (waitSetAddStep mw)
        (rclcExecutorPrepare s.executor mw.waitSetInit).2.1.maxHandles 0 rclRetOk
        { s with executor := (rclcExecutorPrepare s.executor mw.waitSetInit).2.1 }).state :=
      forHandles_preserves hreg _ 0 rclRetOk _ hp
    split
    · exact hr
    · split
      · exact rclcLetScheduling_preserves mw hpass hr
      · exact rclcDefaultScheduling_preserves mw hpass hr

end preserves

theorem waitSetAddStep_actionRecords (mw : Middleware) (i : Nat) (t : State) :
    (waitSetAddStep mw i t).state.actionClients = t.actionClients ∧
      (waitSetAddStep mw i t).state.actionServers = t.actionServers := by
  unfold waitSetAddStep
  split
  · exact ⟨rfl, rfl⟩
  · dsimp only
    split <;> exact ⟨rfl, rfl⟩

/-! ### What every call of a round logs -/

theorem rclcExecutorSpinSome_calls_of (mw : Middleware) {P : State → Prop}
    (hreg : ∀ i t, P t → i < t.executor.maxHandles →
      (t.executor.handles i).initialized = true → P (waitSetAddStep mw i t).state)
    (hprep : ∀ t r, P t → P { t with executor := (rclcExecutorPrepare t.executor r).2.1 })
    {s : State} (hs : TableShape s.executor) (h : P s) :
    ((rclcExecutorSpinSome mw s).calls = [] ∧ P (rclcExecutorSpinSome mw s).state) ∨
    ∃ t, P t ∧ TableShape t.executor ∧
      (rclcExecutorSpinSome mw s).calls = (scheduleRound mw t.executor.dataCommSemantics t).log ∧
      (rclcExecutorSpinSome mw s).state = (scheduleRound mw t.executor.dataCommSemantics t).state := by
  obtain ⟨hh, hi, hm⟩ := rclcExecutorPrepare_table s.executor mw.waitSetInit
  have hs0 : TableShape ({ s with
      executor := (rclcExecutorPrepare s.executor mw.waitSetInit).2.1 } : State).executor :=
    hs.of_table hh hi hm
  have hs1 := forHandles_tableShape (waitSetAddStep_editsAt mw)
    (rclcExecutorPrepare s.executor mw.waitSetInit).2.1.maxHandles 0 rclRetOk hs0
  have hp0 := hprep s mw.waitSetInit h
  have hp := forHandles_preserves hreg
    (rclcExecutorPrepare s.executor mw.waitSetInit).2.1.maxHandles 0 rclRetOk _ hp0
  unfold rclcExecutorSpinSome
  split
  · exact .inl ⟨rfl, h⟩
  dsimp only
  split
  · exact .inl ⟨rfl, hp0⟩
  split
  · exact .inl ⟨rfl, hp⟩
  refine .inr ⟨_, hp, hs1, ?_⟩
  split
  · next hsem => rw [hsem, rclcLetScheduling_eq mw hs1]; exact ⟨rfl, rfl⟩
  · next hsem => rw [hsem, rclcDefaultScheduling_eq mw hs1]; exact ⟨rfl, rfl⟩

section calls
variable (mw : Middleware) {P : State → Prop} {Q : Call → Prop}
  (hpass : ∀ p i t, P t → i < t.executor.index →
    P (passFn mw p i t).2.1 ∧ Q ⟨p, i, (passFn mw p i t).1, (passFn mw p i t).2.2⟩)
include hpass

theorem runCalls_forall (stop : Pass → RclRet → Bool) (cs : List (Pass × Nat)) :
    ∀ rc t, P t → (∀ c ∈ cs, c.2 < t.executor.index) →
      P (runCalls mw stop cs rc t).state ∧ ∀ k ∈ (runCalls mw stop cs rc t).log, Q k := by
  induction cs with
  | nil => exact fun _ _ ht _ => ⟨ht, fun _ hk => absurd hk (List.not_mem_nil _)⟩
  | cons c cs ih =>
      intro _ t ht hcs
      obtain ⟨p, i⟩ := c
      have h1 := hpass p i t ht (hcs _ (List.mem_cons_self _ _))
      have hidx := (passFn_editsAt mw p i t).onlyHandles.index
      simp only [runCalls]
      split
      · exact ⟨h1.1, fun k hk => List.mem_singleton.1 hk ▸ h1.2⟩
      · have h2 := ih (passFn mw p i t).1 _ h1.1 fun c hc =>
          Nat.lt_of_lt_of_eq (hcs c (List.mem_cons_of_mem _ hc)) hidx.symm
        exact ⟨h2.1, fun k hk => (List.mem_cons.1 hk).elim (· ▸ h1.2) (h2.2 k)⟩

theorem scheduleRound_forall (m : Semantics) {t : State} (ht : P t) :
    P (scheduleRound mw m t).state ∧ ∀ k ∈ (scheduleRound mw m t).log, Q k := by
  have h1 := runCalls_forall mw hpass m.stops (readinessOrder t.executor.index) rclRetOk t ht
    fun c hc => (mem_readinessOrder.1 hc).2
  have hidx := (runCalls_onlyHandles mw m.stops (readinessOrder t.executor.index) rclRetOk t).index
  unfold scheduleRound
  dsimp only
  split
  · exact h1
  split
  · have h2 := runCalls_forall mw hpass m.stops (m.order t.executor.index)
      (runCalls mw m.stops (readinessOrder t.executor.index) rclRetOk t).rc _ h1.1
      fun c hc => Nat.lt_of_lt_of_eq (mem_order.1 hc).2 hidx.symm
    exact ⟨h2.1, fun k hk => (List.mem_append.1 hk).elim (h1.2 k) (h2.2 k)⟩
  · exact h1

theorem rclcExecutorSpinSome_forall (hreg : ∀ i t, P t → i < t.executor.maxHandles →
      (t.executor.handles i).initialized = true → P (waitSetAddStep mw i t).state)
    (hprep : ∀ t r, P t → P { t with executor := (rclcExecutorPrepare t.executor r).2.1 })
    {s : State} (hs : TableShape s.executor) (h : P s) :
    ∀ k ∈ (rclcExecutorSpinSome mw s).calls, Q k := by
  intro k hk
  rcases rclcExecutorSpinSome_calls_of mw hreg hprep hs h with ⟨hnil, -⟩ | ⟨t, ht, -, hcalls, -⟩
  · rw [hnil] at hk
    exact absurd hk (List.not_mem_nil k)
  · rw [hcalls] at hk
    exact (scheduleRound_forall mw hpass _ ht).2 k hk

end calls

/-! ### What a round leaves alone -/

/-- What a round may change of the state `s`: in the executor record, only the handle table
and the wait set; in the table, only the fields a round writes, and none beyond `index`;
among the action records, only those a registered handle points to. -/
structure RoundFrame (s s' : State) : Prop where
  executor : { s'.executor with handles := s.executor.handles, waitSet := s.executor.waitSet } =
    s.executor
  handles : ∀ j, s'.executor.handles j =
    (s.executor.handles j).withRoundFields (s'.executor.handles j)
  unused : ∀ j, s.executor.index ≤ j → s'.executor.handles j = s.executor.handles j
  actionClients : ∀ p, (∀ j < s.executor.index, (s.executor.handles j).type = .actionClient →
    (s.executor.handles j).endpoint ≠ p) → s'.actionClients p = s.actionClients p
  actionServers : ∀ p, (∀ j < s.executor.index, (s.executor.handles j).type = .actionServer →
    (s.executor.handles j).endpoint ≠ p) → s'.actionServers p = s.actionServers p

namespace RoundFrame
variable {s s' s'' : State}

theorem refl (s : State) : RoundFrame s s :=
  ⟨rfl, fun _ => rfl, fun _ _ => rfl, fun _ _ => rfl, fun _ _ => rfl⟩

theorem index (h : RoundFrame s s') : s'.executor.index = s.executor.index :=
  (congrArg Executor.index h.executor :)

theorem type (h : RoundFrame s s') (j : Nat) :
    (s'.executor.handles j).type = (s.executor.handles j).type := by
  rw [h.handles j]; rfl

theorem endpoint (h : RoundFrame s s') (j : Nat) :
    (s'.executor.handles j).endpoint = (s.executor.handles j).endpoint := by
  rw [h.handles j]; rfl

theorem trans (h₁ : RoundFrame s s') (h₂ : RoundFrame s' s'') : RoundFrame s s'' where
  executor := by
    calc { s''.executor with handles := s.executor.handles, waitSet := s.executor.waitSet }
        = { ({ s''.executor with
                handles := s'.executor.handles
                waitSet := s'.executor.waitSet } : Executor) with
              handles := s.executor.handles
              waitSet := s.executor.waitSet } := rfl
      _ = s.executor := by rw [h₂.executor]; exact h₁.executor
  handles j := by
    calc s''.executor.handles j
        = (s'.executor.handles j).withRoundFields (s''.executor.handles j) := h₂.handles j
      _ = ((s.executor.handles j).withRoundFields (s'.executor.handles j)).withRoundFields
            (s''.executor.handles j) := by rw [← h₁.handles j]
      _ = (s.executor.handles j).withRoundFields (s''.executor.handles j) := rfl
  unused j hj := (h₂.unused j (h₁.index ▸ hj)).trans (h₁.unused j hj)
  actionClients p hp := (h₂.actionClients p fun j hj => by
      rw [h₁.type, h₁.endpoint]; exact hp j (h₁.index ▸ hj)).trans (h₁.actionClients p hp)
  actionServers p hp := (h₂.actionServers p fun j hj => by
      rw [h₁.type, h₁.endpoint]; exact hp j (h₁.index ▸ hj)).trans (h₁.actionServers p hp)

theorem lt_index (hs : TableShape s.executor) (hf : RoundFrame s s') {i : Nat}
    (hi : i < s'.executor.maxHandles) (hinit : (s'.executor.handles i).initialized = true) :
    i < s'.executor.index := by
  have hm : s'.executor.maxHandles = s.executor.maxHandles :=
    (congrArg Executor.maxHandles hf.executor :)
  have hin : (s'.executor.handles i).initialized = (s.executor.handles i).initialized := by
    rw [hf.handles i]; rfl
  rw [hf.index]
  exact hs.lt_index (hm ▸ hi) (hin ▸ hinit)

theorem of_editsAt {i : Nat} (he : EditsAt i s.executor s'.executor) (hi : i < s.executor.index)
    (hc : ∀ p, ¬((s.executor.handles i).type = .actionClient ∧
      (s.executor.handles i).endpoint = p) → s'.actionClients p = s.actionClients p)
    (hsv : ∀ p, ¬((s.executor.handles i).type = .actionServer ∧
      (s.executor.handles i).endpoint = p) → s'.actionServers p = s.actionServers p) :
    RoundFrame s s' := by
  obtain ⟨g, hg, heq⟩ := he
  refine ⟨by rw [heq]; rfl, fun j => ?_, fun j hj => ?_, fun p hp => hc p fun h => ?_,
    fun p hp => hsv p fun h => ?_⟩
  · rw [heq]
    by_cases hj : j = i
    · subst hj; simp only [Executor.modifyHandle_handles, if_true]; exact hg _
    · simp only [Executor.modifyHandle_handles, hj, if_false]; rfl
  · rw [heq, Executor.modifyHandle_handles, if_neg (by omega)]
  · exact hp i hi h.1 h.2
  · exact hp i hi h.1 h.2

end RoundFrame

theorem passFn_roundFrame (mw : Middleware) (p : Pass) {i : Nat} {t : State}
    (hi : i < t.executor.index) : RoundFrame t (passFn mw p i t).2.1 :=
  .of_editsAt (passFn_editsAt mw p i t) hi (fun _ h => passFn_actionClients mw p i t h)
    (fun _ h => passFn_actionServers mw p i t h)

theorem waitSetAddStep_roundFrame (mw : Middleware) {i : Nat} {t : State}
    (hi : i < t.executor.index) : RoundFrame t (waitSetAddStep mw i t).state :=
  .of_editsAt (waitSetAddStep_editsAt mw i t) hi
    (fun p _ => congrFun (waitSetAddStep_actionRecords mw i t).1 p)
    (fun p _ => congrFun (waitSetAddStep_actionRecords mw i t).2 p)

theorem rclcExecutorPrepare_roundFrame (t : State) (r : MwRet) :
    RoundFrame t { t with executor := (rclcExecutorPrepare t.executor r).2.1 } := by
  have ht := rclcExecutorPrepare_table t.executor r
  refine ⟨?_, fun j => by rw [ht.1]; rfl, fun j _ => by rw [ht.1], fun _ _ => rfl, fun _ _ => rfl⟩
  unfold rclcExecutorPrepare
  split
  · rfl
  · split <;> rfl

/-- A round of `rclc_executor_spin_some` on a packed table changes nothing but what a round
may change. -/
theorem rclcExecutorSpinSome_roundFrame (mw : Middleware) {s : State}
    (hs : TableShape s.executor) : RoundFrame s (rclcExecutorSpinSome mw s).state :=
  rclcExecutorSpinSome_preserves mw
    (fun p _ _ hf hi hinit => hf.trans (passFn_roundFrame mw p (hf.lt_index hs hi hinit)))
    (fun _ _ hf hi hinit => hf.trans (waitSetAddStep_roundFrame mw (hf.lt_index hs hi hinit)))
    (fun t r hf => hf.trans (rclcExecutorPrepare_roundFrame t r)) (RoundFrame.refl s)

/-- Every run of rounds of `rclc_executor_spin_some` from a reachable state, whatever each
round returns, changes in the executor record only the handle table and the wait set; in
the table only the fields `index`, `data_available` and `req_id` of the handles registered
when it started, and no slot from `index` on; and among the action records only those a
registered handle points to. In particular `index`, `max_handles`, the counters, the
trigger, the semantics, the timeout, and every registered handle's kind, endpoint,
callback, invocation and buffers stay as they were. -/
theorem spin_rounds_keep_registration {s : State} (hr : Reachable s) (mws : List Middleware) :
    RoundFrame s (runOps (mws.map Op.spinSome) s) := by
  induction mws generalizing s with
  | nil => exact RoundFrame.refl s
  | cons mw mws ih =>
      exact (rclcExecutorSpinSome_roundFrame mw hr.tableShape).trans (ih (hr.step (.spinSome mw)))

/-- `rclc_executor_spin` for the rounds `mws` of the middleware: it returns the status of the
first round that is neither `RCL_RET_OK` nor `RCL_RET_TIMEOUT`, with the state that round
leaves; while the rounds last it goes on spinning (`none`). -/
def rclcExecutorSpin : List Middleware → State → Option RclRet × State
  | [], s => (none, s)
  | mw :: mws, s =>
      let r := rclcExecutorSpinSome mw s
      if r.ret ≠ rclRetOk ∧ r.ret ≠ rclRetTimeout then (some r.ret, r.state)
      else rclcExecutorSpin mws r.state

theorem rclcExecutorSpin_state :
    ∀ (mws : List Middleware) (s : State),
      ∃ n ≤ mws.length, (rclcExecutorSpin mws s).2 = runOps ((mws.take n).map Op.spinSome) s
  | [], s => ⟨0, le_rfl, rfl⟩
  | mw :: mws, s => by
      simp only [rclcExecutorSpin]
      split
      · exact ⟨1, by simp, rfl⟩
      · obtain ⟨n, hn, h⟩ := rclcExecutorSpin_state mws (rclcExecutorSpinSome mw s).state
        exact ⟨n + 1, by simpa using hn, h⟩

theorem spin_rounds_keep_registration_served :
    Reachable serverState ∧
    serverStatuses (runOps ([goalRequestRound 42, cancelRequestRound 42,
      resultRequestRound 42].map Op.spinSome) serverState) = [(42, .executing)] ∧
    RoundFrame serverState (runOps ([goalRequestRound 42, cancelRequestRound 42,
      resultRequestRound 42].map Op.spinSome) serverState) :=
  ⟨reachable_serverState, by decide, spin_rounds_keep_registration reachable_serverState _⟩

/-! ### How a round fills its wait set -/

theorem range_eq_append_cons {j n : Nat} (hj : j < n) :
    List.range n = List.range j ++ j :: List.range' (j + 1) (n - j - 1) := by
  have hn : n = (n - j - 1 + 1) + j := by omega
  conv_lhs => rw [hn]
  rw [List.range_eq_range', ← List.range'_append_1, List.range'_succ, ← List.range_eq_range',
    Nat.zero_add]

theorem rclcExecutorPrepare_valid (e : Executor) {initRet : MwRet}
    (h : e.waitSet.valid = true ∨ initRet = .ok) :
    (rclcExecutorPrepare e initRet).2.1.waitSet.valid = true := by
  unfold rclcExecutorPrepare
  rcases h with h | rfl
  · simp [h]
  · split <;> simp_all

theorem foldSteps_log_mem {α : Type} {body : Nat → State → Iter α} {Q : Nat → α → Prop}
    (hbody : ∀ i t, ∀ x ∈ (body i t).log, Q i x) :
    ∀ (ps : List Nat) (rc : RclRet) (t : State), ∀ x ∈ (foldSteps body ps rc t).log, ∃ i ∈ ps, Q i x
  | [], _, _, x, hx => absurd hx (List.not_mem_nil x)
  | i :: ps, rc, t, x, hx => by
      simp only [foldSteps] at hx
      split at hx
      · exact ⟨i, List.mem_cons_self _ _, hbody i t x hx⟩
      · rcases List.mem_append.1 hx with hx | hx
        · exact ⟨i, List.mem_cons_self _ _, hbody i t x hx⟩
        · obtain ⟨j, hj, hq⟩ := foldSteps_log_mem hbody ps _ _ x hx
          exact ⟨j, List.mem_cons_of_mem i hj, hq⟩

section registration
variable (mw : Middleware)

theorem registrationLoop_eq_foldSteps {s : State} (hs : TableShape s.executor) :
    forHandles (waitSetAddStep mw) s.executor.maxHandles 0 rclRetOk s =
      foldSteps (waitSetAddStep mw) (List.range s.executor.index) rclRetOk s := by
  have heq := forHandles_eq_foldSteps
    (fun i s hs _ => hs.of_editsAt (waitSetAddStep_editsAt mw i s)) s.executor.maxHandles 0
    rclRetOk s hs.shaped (Nat.zero_le _) (by rw [Nat.sub_zero]; exact hs.index_le)
  rwa [Nat.sub_zero, ← List.range_eq_range'] at heq

theorem waitSetAddStep_log (i : Nat) (t : State) :
    ∀ x ∈ (waitSetAddStep mw i t).log, ∃ r, x = .waitSetAdd i r := by
  unfold waitSetAddStep
  split
  · simp
  · dsimp only
    split <;> simp

theorem registrationLoop_waitSetAdd_lt {s : State} (hs : TableShape s.executor) {j : Nat}
    {r : MwRet} (hj : Event.waitSetAdd j r ∈
      (forHandles (waitSetAddStep mw) s.executor.maxHandles 0 rclRetOk s).log) :
    j < s.executor.index := by
  rw [registrationLoop_eq_foldSteps mw hs] at hj
  obtain ⟨i, hi, r', he⟩ := foldSteps_log_mem (waitSetAddStep_log mw) _ _ _ _ hj
  cases he
  exact List.mem_range.1 hi

theorem waitSetAddStep_of_ok {i : Nat} {t : State} (ht : (t.executor.handles i).type ≠ .none)
    (hok : (mw.waitSetAdd i).1 = .ok) :
    (waitSetAddStep mw i t).exit = false ∧ (waitSetAddStep mw i t).log = [.waitSetAdd i .ok] := by
  simp [waitSetAddStep, ht, hok]

theorem waitSetAddStep_of_error {i : Nat} {t : State} {err : RclError}
    (ht : (t.executor.handles i).type ≠ .none) (herr : (mw.waitSetAdd i).1 = .error err) :
    waitSetAddStep mw i t = ⟨err.1, t, [.waitSetAdd i (.error err)], true⟩ := by
  simp [waitSetAddStep, ht, herr]

theorem foldSteps_waitSetAddStep_ok (ps : List Nat) (hok : ∀ j ∈ ps, (mw.waitSetAdd j).1 = .ok) :
    ∀ rc t, (∀ j ∈ ps, (t.executor.handles j).type ≠ .none) →
      (foldSteps (waitSetAddStep mw) ps rc t).exit = false ∧
      (foldSteps (waitSetAddStep mw) ps rc t).log = ps.map fun j => .waitSetAdd j .ok := by
  induction ps with
  | nil => intro rc t _; exact ⟨rfl, rfl⟩
  | cons i ps ih =>
      intro rc t ht
      have hi := waitSetAddStep_of_ok mw (ht i (List.mem_cons_self i ps)) (hok i (List.mem_cons_self i ps))
      have hrest := ih (fun j hj => hok j (List.mem_cons_of_mem i hj)) (waitSetAddStep mw i t).rc
        (waitSetAddStep mw i t).state fun j hj => by
          rw [(waitSetAddStep_editsAt mw i t).type j]; exact ht j (List.mem_cons_of_mem i hj)
      simp [foldSteps, hi.1, hi.2, hrest.1, hrest.2]

theorem foldSteps_waitSetAddStep_error (pre : List Nat) {j : Nat} {err : RclError}
    (post : List Nat) (hok : ∀ k ∈ pre, (mw.waitSetAdd k).1 = .ok)
    (herr : (mw.waitSetAdd j).1 = .error err) :
    ∀ rc t, (∀ k ∈ pre ++ [j], (t.executor.handles k).type ≠ .none) →
      (foldSteps (waitSetAddStep mw) (pre ++ j :: post) rc t).exit = true ∧
      (foldSteps (waitSetAddStep mw) (pre ++ j :: post) rc t).rc = err.1 ∧
      (foldSteps (waitSetAddStep mw) (pre ++ j :: post) rc t).log =
        pre.map (fun k => .waitSetAdd k .ok) ++ [.waitSetAdd j (.error err)] := by
  induction pre with
  | nil =>
      intro rc t ht
      simp [foldSteps, waitSetAddStep_of_error mw (ht j (by simp)) herr]
  | cons i pre ih =>
      intro rc t ht
      have hi := waitSetAddStep_of_ok mw (ht i (by simp)) (hok i (List.mem_cons_self i pre))
      have hrest := ih (fun k hk => hok k (List.mem_cons_of_mem i hk)) (waitSetAddStep mw i t).rc
        (waitSetAddStep mw i t).state fun k hk => by
          rw [(waitSetAddStep_editsAt mw i t).type k]; exact ht k (List.mem_cons_of_mem i hk)
      simp [foldSteps, hi.1, hi.2, hrest.1, hrest.2.1, hrest.2.2]

end registration

/-- A round of `rclc_executor_spin_some` from a reachable state, in a valid context, with a
wait set that is valid or that `rcl_wait_set_init` sets up, and that `rcl_wait_set_clear`
clears: the registration loop calls `rcl_wait_set_add_*` for the registered handles in
table order. If every call succeeds, the round calls `rcl_wait` next. If the call for the
handle at `j` is the first that fails, the round returns its status right after it, with no
call of `rcl_wait` and no per-handle call. -/
theorem spin_some_adds_in_table_order {s : State} (hr : Reachable s) (mw : Middleware)
    (hctx : mw.contextIsValid = true) (hinit : s.executor.waitSet.valid = true ∨ mw.waitSetInit = .ok)
    (hclear : mw.waitSetClear = .ok) :
    ((∀ j < s.executor.index, (mw.waitSetAdd j).1 = .ok) →
      (rclcExecutorSpinSome mw s).setup = (rclcExecutorPrepare s.executor mw.waitSetInit).2.2 ++
        .waitSetClear .ok :: (List.range s.executor.index).map (fun j => .waitSetAdd j .ok) ++
        [.wait mw.wait]) ∧
    ∀ j < s.executor.index, ∀ err, (∀ k < j, (mw.waitSetAdd k).1 = .ok) →
      (mw.waitSetAdd j).1 = .error err →
      (rclcExecutorSpinSome mw s).ret = err.1 ∧ (rclcExecutorSpinSome mw s).calls = [] ∧
      (rclcExecutorSpinSome mw s).setup = (rclcExecutorPrepare s.executor mw.waitSetInit).2.2 ++
        .waitSetClear .ok :: (List.range j).map (fun k => .waitSetAdd k .ok) ++
        [.waitSetAdd j (.error err)] := by
  obtain ⟨hh, hi, hm⟩ := rclcExecutorPrepare_table s.executor mw.waitSetInit
  have hs1 : TableShape ({ s with
      executor := (rclcExecutorPrepare s.executor mw.waitSetInit).2.1 } : State).executor :=
    hr.tableShape.of_table hh hi hm
  have heq := registrationLoop_eq_foldSteps mw hs1
  have htype : ∀ k < s.executor.index,
      ((rclcExecutorPrepare s.executor mw.waitSetInit).2.1.handles k).type ≠ .none :=
    fun k hk => hs1.type_ne_none k (hi ▸ hk)
  unfold rclcExecutorSpinSome
  simp only [hctx, Bool.not_true, Bool.false_eq_true, if_false, rclcExecutorPrepare_valid _ hinit,
    if_true, hclear, heq, hi]
  constructor
  · intro hok
    obtain ⟨hx, hlog⟩ := foldSteps_waitSetAddStep_ok mw _ (fun j hj => hok j (List.mem_range.1 hj))
      rclRetOk { s with executor := (rclcExecutorPrepare s.executor mw.waitSetInit).2.1 }
      fun j hj => htype j (List.mem_range.1 hj)
    simp [hx, hlog]
  · intro j hj err hok herr
    rw [range_eq_append_cons hj]
    obtain ⟨hx, hrc, hlog⟩ := foldSteps_waitSetAddStep_error mw (List.range j)
      (List.range' (j + 1) (s.executor.index - j - 1))
      (fun k hk => hok k (List.mem_range.1 hk)) herr rclRetOk
      { s with executor := (rclcExecutorPrepare s.executor mw.waitSetInit).2.1 } fun k hk => by
        rcases List.mem_append.1 hk with hk | hk
        · exact htype k (by have := List.mem_range.1 hk; omega)
        · rw [List.mem_singleton.1 hk]; exact htype j hj
    simp [hx, hrc, hlog]

/-- A round in which `rcl_wait_set_add_*` fails for the handle at position `1`. -/
def secondAddFails : Middleware :=
  { Middleware.idle with waitSetAdd := fun i => (if i = 1 then .error .error else .ok, i) }

theorem spin_some_adds_in_table_order_subscriptionAndTimer :
    Reachable subscriptionAndTimer ∧
    (rclcExecutorSpinSome messageRound subscriptionAndTimer).setup =
      (rclcExecutorPrepare subscriptionAndTimer.executor messageRound.waitSetInit).2.2 ++
        .waitSetClear .ok :: (List.range subscriptionAndTimer.executor.index).map
          (fun j => .waitSetAdd j .ok) ++ [.wait messageRound.wait] ∧
    (rclcExecutorSpinSome secondAddFails subscriptionAndTimer).ret = rclRetError ∧
    (rclcExecutorSpinSome secondAddFails subscriptionAndTimer).calls = [] ∧
    (rclcExecutorSpinSome secondAddFails subscriptionAndTimer).setup =
      (rclcExecutorPrepare subscriptionAndTimer.executor secondAddFails.waitSetInit).2.2 ++
        .waitSetClear .ok :: (List.range 1).map (fun k => .waitSetAdd k .ok) ++
        [.waitSetAdd 1 (.error .error)] :=
  ⟨reachable_subscriptionAndTimer,
    (spin_some_adds_in_table_order reachable_subscriptionAndTimer messageRound rfl (Or.inr rfl)
      rfl).1 fun j hj => by
        obtain rfl | rfl : j = 0 ∨ j = 1 := by
          have : subscriptionAndTimer.executor.index = 2 := by decide
          omega
        all_goals rfl,
    (spin_some_adds_in_table_order reachable_subscriptionAndTimer secondAddFails rfl (Or.inr rfl)
      rfl).2 1 (by decide) .error (fun k hk => by rw [Nat.lt_one_iff.1 hk]; rfl) rfl⟩

end RclcExecutor
