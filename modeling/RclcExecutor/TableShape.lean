import RclcExecutor.Frame

/-!
The shape of the handle table. Registered handles sit in the slots `0, ..., index - 1`, in
the order they were added, each with a kind; every slot from `index` to `max_handles` is
as `rclc_executor_handle_init` leaves it. The scan loops of a round stop at the first
slot that is not `initialized`, so on such a table they visit exactly the registered
handles.

Every call of the program keeps the shape: an add fills slot `index` before it can fail,
a removal shifts the tail left and resets the slot it vacates, and a round stores only
into registered handles (`EditsAt`), and there only into fields the shape does not read.
-/

namespace RclcExecutor

/-- The handle table of `e` is packed: registered handles first, reset slots after them. -/
structure TableShape (e : Executor) : Prop where
  index_le : e.index ≤ e.maxHandles
  initialized_iff : ∀ i < e.maxHandles, (e.handles i).initialized = true ↔ i < e.index
  type_ne_none : ∀ i < e.index, (e.handles i).type ≠ .none
  unused : ∀ i, e.index ≤ i → i < e.maxHandles →
    rclcExecutorHandleInit (e.handles i) e.maxHandles = e.handles i
  always_subscription : ∀ i < e.index, (e.handles i).invocation = .always →
    (e.handles i).type = .subscription ∨ (e.handles i).type = .subscriptionWithContext

namespace TableShape
variable {e e' : Executor}

theorem scan_iff (hs : TableShape e) (i : Nat) :
    (i < e.maxHandles ∧ (e.handles i).initialized = true) ↔ i < e.index :=
  ⟨fun h => (hs.initialized_iff i h.1).1 h.2,
    fun h => ⟨Nat.lt_of_lt_of_le h hs.index_le,
      (hs.initialized_iff i (Nat.lt_of_lt_of_le h hs.index_le)).2 h⟩⟩

theorem lt_index (hs : TableShape e) {i : Nat} (hi : i < e.maxHandles)
    (hinit : (e.handles i).initialized = true) : i < e.index :=
  (hs.scan_iff i).1 ⟨hi, hinit⟩

theorem of_table (hs : TableShape e) (hh : e'.handles = e.handles) (hi : e'.index = e.index)
    (hm : e'.maxHandles = e.maxHandles) : TableShape e' := by
  obtain ⟨h1, h2, h3, h4, h5⟩ := hs
  refine ⟨?_, ?_, ?_, ?_, ?_⟩ <;> simp only [hh, hi, hm] <;> assumption

theorem shaped {s : State} (hs : TableShape s.executor) :
    Shaped s.executor.index s.executor.maxHandles s :=
  ⟨rfl, rfl, hs.index_le, hs.initialized_iff⟩

theorem editsAt (hs : TableShape e) {i : Nat} (hi : i < e.maxHandles)
    (hinit : (e.handles i).initialized = true) (h : EditsAt i e e') : TableShape e' := by
  obtain ⟨g, hg, rfl⟩ := h
  have hlt := hs.lt_index hi hinit
  refine ⟨hs.index_le, fun j hj => ?_, fun j hj => ?_, fun j hj hj' => ?_, fun j hj => ?_⟩
  · by_cases hji : j = i
    · subst hji; simpa [hg] using hs.initialized_iff j hj
    · simpa [hji] using hs.initialized_iff j hj
  · by_cases hji : j = i
    · subst hji; simpa [hg] using hs.type_ne_none j hj
    · simpa [hji] using hs.type_ne_none j hj
  · have hji : j ≠ i := by simp only [Executor.modifyHandle_index] at hj; omega
    simpa [hji] using hs.unused j hj hj'
  · by_cases hji : j = i
    · subst hji; simpa [hg] using hs.always_subscription j hj
    · simpa [hji] using hs.always_subscription j hj

theorem push (hs : TableShape e) {h : Handle} (hlt : e.index < e.maxHandles)
    (hh : e'.handles = Function.update e.handles e.index h) (hi : e'.index = e.index + 1)
    (hm : e'.maxHandles = e.maxHandles) (hf : h.initialized = true ∧ h.type ≠ .none ∧
      (h.invocation = .always → h.type = .subscription ∨ h.type = .subscriptionWithContext)) :
    TableShape e' := by
  refine ⟨?_, ?_, ?_, ?_, ?_⟩ <;> simp only [hh, hi, hm, Function.update_apply]
  · omega
  · intro j hj
    by_cases hji : j = e.index
    · simp [hji, hf]
    · rw [if_neg hji, hs.initialized_iff j hj]; omega
  · intro j hj
    by_cases hji : j = e.index
    · simp [hji, hf]
    · rw [if_neg hji]; exact hs.type_ne_none j (by omega)
  · intro j hj hj'
    rw [if_neg (by omega)]
    exact hs.unused j (by omega) hj'
  · intro j hj
    by_cases hji : j = e.index
    · simpa [hji] using hf.2.2
    · rw [if_neg hji]; exact hs.always_subscription j (by omega)

end TableShape

/-! ### Registration -/

section registration
variable {e : Executor}

theorem registerHandle_tableShape (hs : TableShape e) {fill : Handle → Handle} {c : Counter}
    (finiRet : MwRet) (hf : ∀ h, (fill h).initialized = true ∧ (fill h).type ≠ .none ∧
      ((fill h).invocation = .always →
        (fill h).type = .subscription ∨ (fill h).type = .subscriptionWithContext)) :
    TableShape (registerHandle e fill c finiRet).2 := by
  unfold registerHandle
  split
  · exact hs
  · dsimp only
    split <;> exact hs.push (by omega) rfl rfl rfl (hf _)

theorem rclcExecutorRemoveHandle_tableShape (hs : TableShape e) (handle : Option Nat)
    (finiRet : MwRet) : TableShape (rclcExecutorRemoveHandle e handle finiRet).2 := by
  rcases handle with _ | pos
  · exact hs
  by_cases hpos : e.index ≤ pos
  · rw [rclcExecutorRemoveHandle_of_le e pos finiRet hpos]; exact hs
  have hpos : pos < e.index := by omega
  have hidx := hs.index_le
  refine ⟨?_, ?_, ?_, ?_, ?_⟩ <;>
    simp only [rclcExecutorRemoveHandle_index, rclcExecutorRemoveHandle_maxHandles,
      rclcExecutorRemoveHandle_handles e pos finiRet hpos, hpos, if_true]
  · omega
  · intro j hj
    split
    · simp; omega
    · split
      · rw [hs.initialized_iff (j + 1) (by omega)]; omega
      · rw [hs.initialized_iff j hj]; omega
  · intro j hj
    rw [if_neg (by omega)]
    split
    · exact hs.type_ne_none _ (by omega)
    · exact hs.type_ne_none _ (by omega)
  · intro j hj hj'
    split
    · simp
    · rw [if_neg (by omega)]
      exact hs.unused j (by omega) hj'
  · intro j hj
    rw [if_neg (by omega)]
    split
    · exact hs.always_subscription _ (by omega)
    · exact hs.always_subscription _ (by omega)

theorem unregisterHandle_tableShape (hs : TableShape e) (rclHandle : Ptr) (c : Counter)
    (finiRet : MwRet) : TableShape (unregisterHandle e rclHandle c finiRet).2 := by
  unfold unregisterHandle
  have hr := rclcExecutorRemoveHandle_tableShape hs (rclcExecutorFindHandle e rclHandle) finiRet
  split
  · exact hs
  · dsimp only
    split
    · exact hr
    · exact hr.of_table rfl rfl rfl

theorem rclcExecutorFini_tableShape (hs : TableShape e) : TableShape (rclcExecutorFini e).2 := by
  unfold rclcExecutorFini
  split
  · exact ⟨Nat.le_refl 0, fun i hi => absurd hi (Nat.not_lt_zero i),
      fun i hi => absurd hi (Nat.not_lt_zero i), fun i _ hi => absurd hi (Nat.not_lt_zero i),
      fun i hi => absurd hi (Nat.not_lt_zero i)⟩
  · exact hs

theorem rclcExecutorAddActionClient_tableShape {s : State} (hs : TableShape s.executor)
    (actionClient handlesNumber rosResultResponse rosFeedback goalCallback feedbackCallback
      resultCallback cancelCallback context : Nat) (allocOk : Bool) (finiRet : MwRet)
    (entities : MwRet × NumEntities) :
    TableShape (rclcExecutorAddActionClient s actionClient handlesNumber rosResultResponse
      rosFeedback goalCallback feedbackCallback resultCallback cancelCallback context allocOk
      finiRet entities).2.executor := by
  unfold rclcExecutorAddActionClient
  dsimp only
  split
  · exact hs
  split
  · exact hs
  split
  · exact hs
  split <;> exact hs.push (by omega) rfl rfl rfl ⟨rfl, by simp, by simp⟩

theorem rclcExecutorAddActionServer_tableShape {s : State} (hs : TableShape s.executor)
    (actionServer handlesNumber rosGoalRequest rosGoalRequestSize goalCallback cancelCallback
      context : Nat) (allocOk : Bool) (finiRet : MwRet) (entities : MwRet × NumEntities) :
    TableShape (rclcExecutorAddActionServer s actionServer handlesNumber rosGoalRequest
      rosGoalRequestSize goalCallback cancelCallback context allocOk finiRet
      entities).2.executor := by
  unfold rclcExecutorAddActionServer
  dsimp only
  split
  · exact hs
  split
  · exact hs
  split
  · exact hs
  split <;> exact hs.push (by omega) rfl rfl rfl ⟨rfl, by simp, by simp⟩

end registration

/-! ### Rounds -/

theorem forHandles_tableShape {α : Type} {body : Nat → State → Iter α}
    (hbody : ∀ i s, EditsAt i s.executor (body i s).state.executor) (fuel i : Nat)
    (rc : RclRet) {s : State} (hs : TableShape s.executor) :
    TableShape (forHandles body fuel i rc s).state.executor :=
  forHandles_keeps (fun _ _ _ h hi hinit he => h.editsAt hi hinit he) hbody fuel i rc hs

theorem rclcExecutorSpinSome_tableShape (mw : Middleware) {s : State}
    (hs : TableShape s.executor) : TableShape (rclcExecutorSpinSome mw s).state.executor :=
  rclcExecutorSpinSome_keeps mw (fun _ _ _ h hi hinit he => h.editsAt hi hinit he)
    (fun e r h => h.of_table (rclcExecutorPrepare_table e r).1 (rclcExecutorPrepare_table e r).2.1
      (rclcExecutorPrepare_table e r).2.2) hs

/-! ### Every reachable state -/

theorem initState_tableShape {context numberOfHandles allocator : Nat} (block : Nat → Handle)
    (clients : Ptr → ActionClient) (servers : Ptr → ActionServer) (hc : context ≠ 0)
    (hn : numberOfHandles ≠ 0) (ha : allocator ≠ 0) :
    TableShape (initState context numberOfHandles allocator block clients servers).executor := by
  simp only [initState, rclcExecutorInit, hc, ha, hn, or_self, if_false, Bool.not_true,
    Bool.false_eq_true]
  refine ⟨Nat.zero_le _, fun i hi => ?_, fun i hi => absurd hi (Nat.not_lt_zero i),
    fun i _ hi => ?_, fun i hi => absurd hi (Nat.not_lt_zero i)⟩ <;>
    simp [hi, rclcExecutorGetZeroInitializedExecutor]

theorem onExecutor_executor (s : State) (r : RclRet × Executor) :
    (onExecutor s r).2.executor = r.2 := rfl

theorem Op.exec_tableShape (op : Op) {s : State} (hs : TableShape s.executor) :
    TableShape (op.exec s).2.executor := by
  cases op
  case addActionClient => exact rclcExecutorAddActionClient_tableShape hs ..
  case addActionServer => exact rclcExecutorAddActionServer_tableShape hs ..
  case removeSubscription | removeTimer | removeClient | removeService | removeGuardCondition =>
    exact unregisterHandle_tableShape hs ..
  case prepare r =>
    obtain ⟨hh, hi, hm⟩ := rclcExecutorPrepare_table s.executor r
    exact hs.of_table hh hi hm
  case spinSome mw => exact rclcExecutorSpinSome_tableShape mw hs
  case fini => exact rclcExecutorFini_tableShape hs
  case setTrigger => exact hs.of_table rfl rfl rfl
  case sendGoalRequest | sendCancelRequest | sendResult => exact hs
  all_goals
    simp only [Op.exec, onExecutor_executor, rclcExecutorAddSubscription,
      rclcExecutorAddSubscriptionWithContext, rclcExecutorAddTimer, rclcExecutorAddClient,
      rclcExecutorAddClientWithRequestId, rclcExecutorAddService,
      rclcExecutorAddServiceWithContext, rclcExecutorAddServiceWithRequestId,
      rclcExecutorAddGuardCondition, rclcExecutorSetTimeout, rclcExecutorSetSemantics]
    split <;> first
      | exact hs
      | exact hs.of_table rfl rfl rfl
      | exact registerHandle_tableShape hs _ fun _ => ⟨rfl, by simp, by simp⟩

theorem Reachable.tableShape {s : State} (h : Reachable s) : TableShape s.executor := by
  induction h with
  | init block clients servers hc hn ha => exact initState_tableShape block clients servers hc hn ha
  | step op _ ih => exact op.exec_tableShape ih

/-- In every reachable state: `index` is at most `max_handles`; a slot is `initialized`
exactly below `index`; every registered handle has a kind; every other slot is as
`rclc_executor_handle_init` leaves it; so the scan loops' condition holds exactly at the
positions `0, ..., index - 1`, none of which has the kind `RCLC_NONE` that the error branches
of the per-handle functions catch. -/
theorem reachable_handle_table {s : State} (hr : Reachable s) :
    s.executor.index ≤ s.executor.maxHandles ∧
    (∀ i < s.executor.maxHandles,
      (s.executor.handles i).initialized = true ↔ i < s.executor.index) ∧
    (∀ i < s.executor.index, (s.executor.handles i).type ≠ .none) ∧
    (∀ i, s.executor.index ≤ i → i < s.executor.maxHandles →
      (s.executor.handles i).type = .none ∧ (s.executor.handles i).dataAvailable = false ∧
        (s.executor.handles i).index = s.executor.maxHandles) ∧
    (∀ i, (i < s.executor.maxHandles ∧ (s.executor.handles i).initialized = true) ↔
      i < s.executor.index) := by
  have hs := hr.tableShape
  refine ⟨hs.index_le, hs.initialized_iff, hs.type_ne_none, fun i h1 h2 => ?_, hs.scan_iff⟩
  rw [← hs.unused i h1 h2]
  simp

theorem reachable_handle_table_subscriptionAndTimer :
    Reachable subscriptionAndTimer ∧ subscriptionAndTimer.executor.index = 2 ∧
    subscriptionAndTimer.executor.maxHandles = 3 ∧
    subscriptionAndTimer.executor.index ≤ subscriptionAndTimer.executor.maxHandles ∧
    (∀ i < subscriptionAndTimer.executor.maxHandles,
      (subscriptionAndTimer.executor.handles i).initialized = true ↔
        i < subscriptionAndTimer.executor.index) ∧
    (∀ i < subscriptionAndTimer.executor.index,
      (subscriptionAndTimer.executor.handles i).type ≠ .none) ∧
    (∀ i, subscriptionAndTimer.executor.index ≤ i → i < subscriptionAndTimer.executor.maxHandles →
      (subscriptionAndTimer.executor.handles i).type = .none ∧
        (subscriptionAndTimer.executor.handles i).dataAvailable = false ∧
        (subscriptionAndTimer.executor.handles i).index = subscriptionAndTimer.executor.maxHandles) ∧
    (∀ i, (i < subscriptionAndTimer.executor.maxHandles ∧
        (subscriptionAndTimer.executor.handles i).initialized = true) ↔
      i < subscriptionAndTimer.executor.index) :=
  ⟨reachable_subscriptionAndTimer, by decide, by decide,
    reachable_handle_table reachable_subscriptionAndTimer⟩

end RclcExecutor
