import RclcExecutor.Loops

/-!
What a round does to the handle table: each call of `_rclc_check_for_new_data`,
`_rclc_take_new_data` and of the registration loop stores into the handle it was called
for, and only into its wait-set slot `index`, `data_available` and `req_id`;
`_rclc_execute` stores into no handle at all. Everything else a round writes is in the
action records.
-/

namespace RclcExecutor

/-- `h` with the fields a round writes taken from `h'`. -/
def Handle.withRoundFields (h h' : Handle) : Handle :=
  { h with index := h'.index, dataAvailable := h'.dataAvailable, reqId := h'.reqId }

/-- A store that changes at most the fields of a handle that a round writes. -/
def RoundEdit (g : Handle → Handle) : Prop :=
  ∀ h, g h = h.withRoundFields (g h)

section roundEdit
variable {g : Handle → Handle}

theorem RoundEdit.id : RoundEdit fun h => h := fun _ => rfl

theorem RoundEdit.dataAvailable (v : Handle → Bool) :
    RoundEdit fun h => { h with dataAvailable := v h } := fun _ => rfl

theorem RoundEdit.reqId (v : Nat) : RoundEdit fun h => { h with reqId := v } := fun _ => rfl

theorem RoundEdit.index (v : Nat) : RoundEdit fun h => { h with index := v } := fun _ => rfl

@[simp] theorem RoundEdit.type (hg : RoundEdit g) (h : Handle) : (g h).type = h.type := by
  rw [hg h]; rfl

@[simp] theorem RoundEdit.initialized (hg : RoundEdit g) (h : Handle) :
    (g h).initialized = h.initialized := by
  rw [hg h]; rfl

@[simp] theorem RoundEdit.endpoint (hg : RoundEdit g) (h : Handle) :
    (g h).endpoint = h.endpoint := by
  rw [hg h]; rfl

@[simp] theorem RoundEdit.invocation (hg : RoundEdit g) (h : Handle) :
    (g h).invocation = h.invocation := by
  rw [hg h]; rfl

end roundEdit

theorem Executor.modifyHandle_id (e : Executor) (i : Nat) : e.modifyHandle i (fun h => h) = e := by
  simp [Executor.modifyHandle]

/-- The executor after a call at position `i` is the executor before it with a round
store into handle `i`. -/
def EditsAt (i : Nat) (e e' : Executor) : Prop :=
  ∃ g, RoundEdit g ∧ e' = e.modifyHandle i g

theorem EditsAt.refl (i : Nat) (e : Executor) : EditsAt i e e :=
  ⟨_, RoundEdit.id, (e.modifyHandle_id i).symm⟩

theorem EditsAt.handles_of_ne {i j : Nat} {e e' : Executor} (h : EditsAt i e e') (hj : j ≠ i) :
    e'.handles j = e.handles j := by
  obtain ⟨g, -, rfl⟩ := h
  simp [hj]

theorem EditsAt.type {i : Nat} {e e' : Executor} (h : EditsAt i e e') (j : Nat) :
    (e'.handles j).type = (e.handles j).type := by
  obtain ⟨g, hg, rfl⟩ := h
  by_cases hj : j = i <;> simp [hj, hg.type]

theorem EditsAt.endpoint {i : Nat} {e e' : Executor} (h : EditsAt i e e') (j : Nat) :
    (e'.handles j).endpoint = (e.handles j).endpoint := by
  obtain ⟨g, hg, rfl⟩ := h
  by_cases hj : j = i <;> simp [hj, hg.endpoint]

/-- `e'` differs from `e` in its handle table at most. -/
def OnlyHandles (e e' : Executor) : Prop := { e' with handles := e.handles } = e

section onlyHandles
variable {e e' e'' : Executor}

theorem OnlyHandles.refl (e : Executor) : OnlyHandles e e := rfl

theorem OnlyHandles.trans (h₁ : OnlyHandles e e') (h₂ : OnlyHandles e' e'') :
    OnlyHandles e e'' := by
  unfold OnlyHandles at *
  rw [← h₁, ← h₂]

theorem EditsAt.onlyHandles {i : Nat} (h : EditsAt i e e') : OnlyHandles e e' := by
  obtain ⟨g, -, rfl⟩ := h
  rfl

theorem OnlyHandles.index (h : OnlyHandles e e') : e'.index = e.index :=
  (congrArg Executor.index (show { e' with handles := e.handles } = e from h) :)

theorem OnlyHandles.maxHandles (h : OnlyHandles e e') : e'.maxHandles = e.maxHandles :=
  (congrArg Executor.maxHandles (show { e' with handles := e.handles } = e from h) :)

theorem OnlyHandles.handlesNull (h : OnlyHandles e e') : e'.handlesNull = e.handlesNull :=
  (congrArg Executor.handlesNull (show { e' with handles := e.handles } = e from h) :)

theorem OnlyHandles.triggerFunction (h : OnlyHandles e e') :
    e'.triggerFunction = e.triggerFunction :=
  (congrArg Executor.triggerFunction (show { e' with handles := e.handles } = e from h) :)

theorem OnlyHandles.triggerObject (h : OnlyHandles e e') : e'.triggerObject = e.triggerObject :=
  (congrArg Executor.triggerObject (show { e' with handles := e.handles } = e from h) :)

end onlyHandles

theorem rclcCheckForNewData_editsAt (mw : Middleware) (i : Nat) (s : State) :
    EditsAt i s.executor (rclcCheckForNewData mw i s).2.1.executor := by
  unfold rclcCheckForNewData
  dsimp only
  split <;> simp only [State.modifyHandle_executor] <;> first
    | exact EditsAt.refl _ _
    | exact ⟨_, RoundEdit.dataAvailable _, rfl⟩

theorem rclcTakeNewData_editsAt (mw : Middleware) (i : Nat) (s : State) :
    EditsAt i s.executor (rclcTakeNewData mw i s).2.1.executor := by
  unfold rclcTakeNewData
  dsimp only
  split <;> (try split) <;> (try split) <;> simp only [State.modifyHandle_executor] <;> first
    | exact EditsAt.refl _ _
    | exact ⟨_, RoundEdit.dataAvailable _, rfl⟩
    | exact ⟨_, RoundEdit.reqId _, rfl⟩

theorem rclcExecute_executor (mw : Middleware) (i : Nat) (s : State) :
    (rclcExecute mw i s).2.1.executor = s.executor := by
  unfold rclcExecute
  dsimp only
  split
  · rfl
  · split <;> (try split) <;> rfl

theorem waitSetAddStep_editsAt (mw : Middleware) (i : Nat) (s : State) :
    EditsAt i s.executor (waitSetAddStep mw i s).state.executor := by
  unfold waitSetAddStep
  split
  · exact EditsAt.refl _ _
  · dsimp only
    split
    · simp only [State.modifyHandle_executor]
      exact ⟨_, RoundEdit.index _, rfl⟩
    · exact EditsAt.refl _ _

theorem checkStep_editsAt (mw : Middleware) (i : Nat) (s : State) :
    EditsAt i s.executor (checkStep mw i s).state.executor :=
  rclcCheckForNewData_editsAt mw i s

theorem letTakeStep_editsAt (mw : Middleware) (i : Nat) (s : State) :
    EditsAt i s.executor (letTakeStep mw i s).state.executor :=
  rclcTakeNewData_editsAt mw i s

theorem letExecuteStep_executor (mw : Middleware) (i : Nat) (s : State) :
    (letExecuteStep mw i s).state.executor = s.executor :=
  rclcExecute_executor mw i s

theorem defaultStep_editsAt (mw : Middleware) (i : Nat) (s : State) :
    EditsAt i s.executor (defaultStep mw i s).state.executor := by
  unfold defaultStep
  dsimp only
  split
  · exact rclcTakeNewData_editsAt mw i s
  · exact (rclcExecute_executor mw i _).symm ▸ rclcTakeNewData_editsAt mw i s

/-! ### Whole rounds

A property of the executor that every round store into a registered handle keeps, and that
`rclc_executor_prepare` keeps, holds after every round.
-/

theorem rclcExecutorPrepare_table (e : Executor) (initRet : MwRet) :
    (rclcExecutorPrepare e initRet).2.1.handles = e.handles ∧
      (rclcExecutorPrepare e initRet).2.1.index = e.index ∧
      (rclcExecutorPrepare e initRet).2.1.maxHandles = e.maxHandles := by
  unfold rclcExecutorPrepare
  split
  · exact ⟨rfl, rfl, rfl⟩
  · split <;> exact ⟨rfl, rfl, rfl⟩

theorem rclcExecutorPrepare_info (e : Executor) (initRet : MwRet) :
    (rclcExecutorPrepare e initRet).2.1.info = e.info := by
  unfold rclcExecutorPrepare
  split
  · rfl
  · split <;> rfl

section round
variable (mw : Middleware) {P : Executor → Prop}

theorem forHandles_keeps (hedit : ∀ i e e', P e → i < e.maxHandles →
      (e.handles i).initialized = true → EditsAt i e e' → P e')
    {α : Type} {body : Nat → State → Iter α}
    (hbody : ∀ i s, EditsAt i s.executor (body i s).state.executor) (fuel i : Nat)
    (rc : RclRet) {s : State} (hs : P s.executor) :
    P (forHandles body fuel i rc s).state.executor :=
  @forHandles_preserves α body (fun s => P s.executor)
    (fun i s hs hi hinit => hedit i _ _ hs hi hinit (hbody i s)) fuel i rc s hs

theorem rclcDefaultScheduling_keeps (hedit : ∀ i e e', P e → i < e.maxHandles →
      (e.handles i).initialized = true → EditsAt i e e' → P e') {s : State}
    (hs : P s.executor) : P (rclcDefaultScheduling mw s).state.executor := by
  have hr := forHandles_keeps hedit (checkStep_editsAt mw) s.executor.maxHandles 0 rclRetOk hs
  unfold rclcDefaultScheduling
  dsimp only
  split
  · exact hr
  · split
    · exact forHandles_keeps hedit (defaultStep_editsAt mw) _ _ _ hr
    · exact hr

theorem rclcLetScheduling_keeps (hedit : ∀ i e e', P e → i < e.maxHandles →
      (e.handles i).initialized = true → EditsAt i e e' → P e') {s : State}
    (hs : P s.executor) : P (rclcLetScheduling mw s).state.executor := by
  have hr := forHandles_keeps hedit (checkStep_editsAt mw) s.executor.maxHandles 0 rclRetOk hs
  have hx : ∀ i s, EditsAt i s.executor (letExecuteStep mw i s).state.executor :=
    fun i s => (letExecuteStep_executor mw i s).symm ▸ EditsAt.refl i s.executor
  unfold rclcLetScheduling
  dsimp only
  split
  · exact hr
  · split
    · have ht := forHandles_keeps hedit (letTakeStep_editsAt mw)
        (readinessPass mw s).state.executor.maxHandles 0 (readinessPass mw s).rc hr
      split
      · exact ht
      · exact forHandles_keeps hedit hx _ _ _ ht
    · exact hr

theorem rclcExecutorSpinSome_keeps (hedit : ∀ i e e', P e → i < e.maxHandles →
      (e.handles i).initialized = true → EditsAt i e e' → P e')
    (hprep : ∀ e r, P e → P (rclcExecutorPrepare e r).2.1) {s : State} (hs : P s.executor) :
    P (rclcExecutorSpinSome mw s).state.executor := by
  have hp := hprep s.executor mw.waitSetInit hs
  unfold rclcExecutorSpinSome
  split
  · exact hs
  · dsimp only
    split
    · exact hp
    · have hreg : P (forHandles (waitSetAddStep mw)
          (rclcExecutorPrepare s.executor mw.waitSetInit).2.1.maxHandles 0 rclRetOk
          { s with executor := (rclcExecutorPrepare s.executor mw.waitSetInit).2.1 }
          ).state.executor :=
        forHandles_keeps hedit (waitSetAddStep_editsAt mw) _ _ _ hp
      split
      · exact hreg
      · split
        · exact rclcLetScheduling_keeps mw hedit hreg
        · exact rclcDefaultScheduling_keeps mw hedit hreg

/-- The trigger function a round calls, if it gets that far, is the one installed: the
scheduler reads it from the table its readiness loop left, and no step of the round writes
it. -/
theorem rclcExecutorSpinSome_triggerCall (s : State) :
    ∀ t ∈ (rclcExecutorSpinSome mw s).trigger, t = s.executor.triggerFunction := by
  have hedit : ∀ i e e', e.triggerFunction = s.executor.triggerFunction → i < e.maxHandles →
      (e.handles i).initialized = true → EditsAt i e e' →
      e'.triggerFunction = s.executor.triggerFunction :=
    fun _ _ _ h _ _ he => by obtain ⟨g, -, rfl⟩ := he; exact h
  have hp : (rclcExecutorPrepare s.executor mw.waitSetInit).2.1.triggerFunction =
      s.executor.triggerFunction := by
    unfold rclcExecutorPrepare
    split
    · rfl
    · split <;> rfl
  unfold rclcExecutorSpinSome
  split
  · nofun
  dsimp only
  split
  · nofun
  split
  · nofun
  intro t ht
  simp only [schedulerTrigger] at ht
  split at ht
  · cases ht
  · cases ht
    exact forHandles_keeps hedit (checkStep_editsAt mw) _ _ _
      (forHandles_keeps hedit (waitSetAddStep_editsAt mw) _ _ _ hp)

end round

end RclcExecutor
