import RclcExecutor.Counters

/-!
Removal of a handle by its endpoint.

`rclc_executor_remove_*` finds the first registered handle whose
`rclc_executor_handle_get_ptr` is the endpoint, shifts the handles after it one slot to
the left, resets the slot the last one leaves, and takes the handle off its counter. On a
packed table an add of an endpoint that is not registered yet followed by its removal
therefore leaves the table and the counters as they were.

A call that fails does not always leave the table alone: an add fills its slot and advances
`index`, and a removal shifts the table and steps `index` back, before `rcl_wait_set_fini`,
whose failure they then report; `rclc_executor_add_action_client` registers and counts its
client before `rcl_action_client_wait_set_get_num_entities`, whose failure it reports.
-/

namespace RclcExecutor

/-! ### Which calls add and which remove -/

/-- The endpoint an add call of a kind without an action endpoint registers, and the
counter it counts the handle in. -/
def Op.added : Op → Option (Ptr × Counter)
  | .addSubscription p .. | .addSubscriptionWithContext p .. => some (p, .subscriptions)
  | .addTimer p .. => some (p, .timers)
  | .addClient p .. | .addClientWithRequestId p .. => some (p, .clients)
  | .addService p .. | .addServiceWithContext p .. | .addServiceWithRequestId p .. =>
      some (p, .services)
  | .addGuardCondition p .. => some (p, .guardConditions)
  | _ => none

/-- The endpoint a remove call looks for, and the counter it takes the handle off. -/
def Op.removed : Op → Option (Ptr × Counter)
  | .removeSubscription p _ => some (p, .subscriptions)
  | .removeTimer p _ => some (p, .timers)
  | .removeClient p _ => some (p, .clients)
  | .removeService p _ => some (p, .services)
  | .removeGuardCondition p _ => some (p, .guardConditions)
  | _ => none

theorem Op.exec_of_removed {op : Op} {p : Ptr} {c : Counter} (h : op.removed = some (p, c))
    (s : State) :
    ∃ finiRet, op.exec s = onExecutor s (unregisterHandle s.executor p c finiRet) := by
  cases op <;> simp only [Op.removed, reduceCtorEq, Option.some.injEq, Prod.mk.injEq] at h <;>
    obtain ⟨rfl, rfl⟩ := h <;> exact ⟨_, rfl⟩

/-! ### Finding and removing -/

section find
variable {e : Executor} {p : Ptr}

theorem rclcExecutorFindHandle_eq_some {pos : Nat} :
    rclcExecutorFindHandle e p = some pos ↔
      pos < e.index ∧ rclcExecutorHandleGetPtr (e.handles pos) = p ∧
        ∀ j < pos, rclcExecutorHandleGetPtr (e.handles j) ≠ p := by
  unfold rclcExecutorFindHandle
  rw [List.find?_eq_some_iff_getElem]
  simp only [decide_eq_true_eq, List.length_range, List.getElem_range, Bool.not_eq_true',
    decide_eq_false_iff_not]
  constructor
  · rintro ⟨hp, i, hi, rfl, hlt⟩; exact ⟨hi, hp, hlt⟩
  · rintro ⟨hi, hp, hlt⟩; exact ⟨hp, pos, hi, rfl, hlt⟩

theorem rclcExecutorFindHandle_eq_none :
    rclcExecutorFindHandle e p = none ↔
      ∀ j < e.index, rclcExecutorHandleGetPtr (e.handles j) ≠ p := by
  simp [rclcExecutorFindHandle]

variable {c : Counter} {finiRet : MwRet}

theorem unregisterHandle_of_none (hp : p ≠ 0) (h : rclcExecutorFindHandle e p = none) :
    unregisterHandle e p c finiRet = (rclRetError, e) := by
  simp [unregisterHandle, hp, h, rclcExecutorRemoveHandle, rclRetError_ne_ok]

theorem rclcExecutorRemoveHandle_registered {pos : Nat} (hpos : pos < e.index) :
    (List.range (rclcExecutorRemoveHandle e (some pos) finiRet).2.index).map
        (rclcExecutorRemoveHandle e (some pos) finiRet).2.handles =
      ((List.range e.index).map e.handles).eraseIdx pos := by
  apply List.ext_getElem
  · simp [List.length_eraseIdx, hpos]
  · intro j h1 _
    simp only [rclcExecutorRemoveHandle_index, if_pos hpos, List.length_map,
      List.length_range] at h1
    simp only [List.getElem_map, List.getElem_range, List.getElem_eraseIdx,
      rclcExecutorRemoveHandle_handles e pos finiRet hpos, if_neg (Nat.ne_of_lt h1)]
    split <;> split <;> first | rfl | omega

theorem unregisterHandle_ok (hp : p ≠ 0) (hok : (unregisterHandle e p c finiRet).1 = rclRetOk) :
    ∃ pos, rclcExecutorFindHandle e p = some pos ∧
      (unregisterHandle e p c finiRet).2 =
        { (rclcExecutorRemoveHandle e (some pos) finiRet).2 with info := e.info.sub c 1 } := by
  cases hfind : rclcExecutorFindHandle e p with
  | none => rw [unregisterHandle_of_none hp hfind] at hok; exact absurd hok rclRetError_ne_ok
  | some pos =>
      refine ⟨pos, rfl, ?_⟩
      revert hok
      simp only [unregisterHandle, hp, if_false, hfind]
      split
      · intro h; exact absurd h ‹_›
      · intro _; rw [rclcExecutorRemoveHandle_info]

end find

/-! ### Adding -/

section add
variable {e : Executor} {fill : Handle → Handle} {c : Counter} {finiRet : MwRet}

theorem registerHandle_ok (h : (registerHandle e fill c finiRet).1 = rclRetOk) :
    e.index < e.maxHandles ∧
    (registerHandle e fill c finiRet).2.handles =
      Function.update e.handles e.index (fill (e.handles e.index)) ∧
    (registerHandle e fill c finiRet).2.index = e.index + 1 ∧
    (registerHandle e fill c finiRet).2.maxHandles = e.maxHandles ∧
    (registerHandle e fill c finiRet).2.info = e.info.add c 1 := by
  unfold registerHandle at h ⊢
  by_cases hfull : e.index ≥ e.maxHandles
  · rw [if_pos hfull] at h; exact absurd h rclRetError_ne_ok
  · rw [if_neg hfull] at h ⊢
    dsimp only at h ⊢
    revert h
    split
    · intro h; exact absurd h (RclError.ne (List.mem_cons_self _ _))
    · intro _; exact ⟨by omega, rfl, rfl, rfl, rfl⟩

end add

theorem Op.exec_of_added {op : Op} {p : Ptr} {c : Counter} (h : op.added = some (p, c))
    {s : State} (hok : (op.exec s).1 = rclRetOk) :
    s.executor.index < s.executor.maxHandles ∧
    ∃ h', rclcExecutorHandleGetPtr h' = p ∧
      rclcExecutorHandleInit h' s.executor.maxHandles =
        rclcExecutorHandleInit (s.executor.handles s.executor.index) s.executor.maxHandles ∧
      (op.exec s).2.executor.handles = Function.update s.executor.handles s.executor.index h' ∧
      (op.exec s).2.executor.index = s.executor.index + 1 ∧
      (op.exec s).2.executor.maxHandles = s.executor.maxHandles ∧
      (op.exec s).2.executor.info = s.executor.info.add c 1 := by
  revert hok
  cases op <;> simp only [Op.added, reduceCtorEq, Option.some.injEq, Prod.mk.injEq] at h <;>
    obtain ⟨rfl, rfl⟩ := h <;>
    simp only [Op.exec, onExecutor, rclcExecutorAddSubscription,
      rclcExecutorAddSubscriptionWithContext, rclcExecutorAddTimer, rclcExecutorAddClient,
      rclcExecutorAddClientWithRequestId, rclcExecutorAddService,
      rclcExecutorAddServiceWithContext, rclcExecutorAddServiceWithRequestId,
      rclcExecutorAddGuardCondition] <;>
    split <;> intro hok <;>
    first
      | exact absurd hok rclRetInvalidArgument_ne_ok
      | obtain ⟨hlt, hh, hi, hm, hinfo⟩ := registerHandle_ok hok
        refine ⟨hlt, _, ?_, ?_, hh, hi, hm, hinfo⟩ <;> rfl

/-! ### Removal by endpoint, and the add-remove round trip -/

theorem onExecutor_self (s : State) (r : RclRet) : onExecutor s (r, s.executor) = (r, s) := rfl

/-- A removal that succeeds deletes the first registered handle whose pointer is the
endpoint, keeps the others in their order, resets the slot it vacates and counts the
handle off; one that finds no such handle fails and changes nothing. An add of an endpoint
that is not registered, followed by its removal, both succeeding, restores the table and
the counters. -/
theorem remove_spec_and_round_trip {s : State} (hr : Reachable s) :
    (∀ (op : Op) (p : Ptr) (c : Counter), op.removed = some (p, c) → p ≠ 0 →
      ((op.exec s).1 = rclRetOk →
        ∃ pos < s.executor.index,
          rclcExecutorHandleGetPtr (s.executor.handles pos) = p ∧
          (∀ j < pos, rclcExecutorHandleGetPtr (s.executor.handles j) ≠ p) ∧
          (op.exec s).2.executor.index = s.executor.index - 1 ∧
          (List.range (op.exec s).2.executor.index).map (op.exec s).2.executor.handles =
            ((List.range s.executor.index).map s.executor.handles).eraseIdx pos ∧
          (op.exec s).2.executor.handles (s.executor.index - 1) =
            rclcExecutorHandleInit (s.executor.handles (s.executor.index - 1))
              s.executor.maxHandles ∧
          (∀ j, s.executor.index ≤ j → (op.exec s).2.executor.handles j = s.executor.handles j) ∧
          (op.exec s).2.executor.info = s.executor.info.sub c 1) ∧
      ((∀ j < s.executor.index, rclcExecutorHandleGetPtr (s.executor.handles j) ≠ p) →
        op.exec s = (rclRetError, s))) ∧
    (∀ (add remove : Op) (p : Ptr) (c : Counter), add.added = some (p, c) →
      remove.removed = some (p, c) →
      (∀ j < s.executor.index, rclcExecutorHandleGetPtr (s.executor.handles j) ≠ p) →
      (add.exec s).1 = rclRetOk → (remove.exec (add.exec s).2).1 = rclRetOk →
      (remove.exec (add.exec s).2).2.executor.handles = s.executor.handles ∧
      (remove.exec (add.exec s).2).2.executor.index = s.executor.index ∧
      (remove.exec (add.exec s).2).2.executor.info = s.executor.info) := by
  refine ⟨fun op p c hop hp => ⟨fun hok => ?_, fun hnone => ?_⟩,
    fun add remove p c hadd hrem hfresh hok1 hok2 => ?_⟩
  · obtain ⟨finiRet, hexec⟩ := op.exec_of_removed hop s
    rw [hexec] at hok ⊢
    obtain ⟨pos, hfind, heq⟩ := unregisterHandle_ok hp hok
    obtain ⟨hpos, hptr, hfirst⟩ := rclcExecutorFindHandle_eq_some.1 hfind
    have hidx := rclcExecutorRemoveHandle_index s.executor pos finiRet
    rw [if_pos hpos] at hidx
    refine ⟨pos, hpos, hptr, hfirst, ?_⟩
    dsimp only [onExecutor]
    rw [heq]
    refine ⟨hidx, rclcExecutorRemoveHandle_registered hpos, ?_, fun j hj => ?_, rfl⟩
    · rw [rclcExecutorRemoveHandle_handles _ _ _ hpos, if_pos rfl]
    · rw [rclcExecutorRemoveHandle_handles _ _ _ hpos, if_neg (by omega), if_neg (by omega)]
  · obtain ⟨finiRet, hexec⟩ := op.exec_of_removed hop s
    rw [hexec, unregisterHandle_of_none hp (rclcExecutorFindHandle_eq_none.2 hnone),
      onExecutor_self]
  · have hs := hr.tableShape
    obtain ⟨hlt, h', hptr, hinit, hh, hi, hm, hinfo⟩ := Op.exec_of_added hadd hok1
    generalize add.exec s = r at *
    obtain ⟨finiRet, hexec⟩ := remove.exec_of_removed hrem r.2
    rw [hexec] at hok2 ⊢
    have hp : p ≠ 0 := by
      rintro rfl
      simp [onExecutor, unregisterHandle, rclRetInvalidArgument_ne_ok] at hok2
    obtain ⟨pos, hfind, heq⟩ := unregisterHandle_ok hp hok2
    -- the new handle is the first match, in the slot the add filled
    have hpos : pos = s.executor.index := by
      obtain ⟨hlt', hptr', -⟩ := rclcExecutorFindHandle_eq_some.1 hfind
      rw [hi] at hlt'
      rcases Nat.lt_succ_iff_lt_or_eq.1 hlt' with hlt' | hlt'
      · rw [hh, Function.update_noteq (Nat.ne_of_lt hlt')] at hptr'
        exact absurd hptr' (hfresh pos hlt')
      · exact hlt'
    subst hpos
    simp only [onExecutor, heq, rclcExecutorRemoveHandle_index, hi, Nat.lt_succ_self, if_true,
      Nat.add_sub_cancel, hinfo, HandleCounters.sub_add (hr.countersBounded c) 1, and_true]
    funext j
    rw [rclcExecutorRemoveHandle_handles _ _ _ (by omega), hi, hh, hm, Nat.add_sub_cancel]
    by_cases hj : j = s.executor.index
    · subst hj
      rw [if_pos rfl, Function.update_same, hinit, hs.unused _ (Nat.le_refl _) hlt]
    · rw [if_neg hj, if_neg (by omega), Function.update_noteq hj]

/-- Removing the subscription of `subscriptionAndTimer` succeeds and deletes the handle at
position `0`; adding a guard condition and removing it again restores the table. -/
theorem remove_spec_and_round_trip_subscriptionAndTimer :
    Reachable subscriptionAndTimer ∧
    ((Op.removeSubscription 1 .ok).exec subscriptionAndTimer).1 = rclRetOk ∧
    (∃ pos < subscriptionAndTimer.executor.index,
      rclcExecutorHandleGetPtr (subscriptionAndTimer.executor.handles pos) = 1 ∧
      (∀ j < pos, rclcExecutorHandleGetPtr (subscriptionAndTimer.executor.handles j) ≠ 1) ∧
      ((Op.removeSubscription 1 .ok).exec subscriptionAndTimer).2.executor.index =
        subscriptionAndTimer.executor.index - 1 ∧
      (List.range ((Op.removeSubscription 1 .ok).exec subscriptionAndTimer).2.executor.index).map
          ((Op.removeSubscription 1 .ok).exec subscriptionAndTimer).2.executor.handles =
        ((List.range subscriptionAndTimer.executor.index).map
          subscriptionAndTimer.executor.handles).eraseIdx pos ∧
      ((Op.removeSubscription 1 .ok).exec subscriptionAndTimer).2.executor.handles
          (subscriptionAndTimer.executor.index - 1) =
        rclcExecutorHandleInit (subscriptionAndTimer.executor.handles
          (subscriptionAndTimer.executor.index - 1)) subscriptionAndTimer.executor.maxHandles ∧
      (∀ j, subscriptionAndTimer.executor.index ≤ j →
        ((Op.removeSubscription 1 .ok).exec subscriptionAndTimer).2.executor.handles j =
          subscriptionAndTimer.executor.handles j) ∧
      ((Op.removeSubscription 1 .ok).exec subscriptionAndTimer).2.executor.info =
        subscriptionAndTimer.executor.info.sub .subscriptions 1) ∧
    ((Op.addGuardCondition 9 10 .ok).exec subscriptionAndTimer).1 = rclRetOk ∧
    ((Op.removeGuardCondition 9 .ok).exec
      ((Op.addGuardCondition 9 10 .ok).exec subscriptionAndTimer).2).1 = rclRetOk ∧
    ((Op.removeGuardCondition 9 .ok).exec
      ((Op.addGuardCondition 9 10 .ok).exec subscriptionAndTimer).2).2.executor.handles =
      subscriptionAndTimer.executor.handles ∧
    ((Op.removeGuardCondition 9 .ok).exec
      ((Op.addGuardCondition 9 10 .ok).exec subscriptionAndTimer).2).2.executor.index =
      subscriptionAndTimer.executor.index ∧
    ((Op.removeGuardCondition 9 .ok).exec
      ((Op.addGuardCondition 9 10 .ok).exec subscriptionAndTimer).2).2.executor.info =
      subscriptionAndTimer.executor.info :=
  have h := remove_spec_and_round_trip reachable_subscriptionAndTimer
  ⟨reachable_subscriptionAndTimer, by decide,
    (h.1 (.removeSubscription 1 .ok) 1 .subscriptions rfl (by decide)).1 (by decide),
    by decide, by decide, h.2 (.addGuardCondition 9 10 .ok) (.removeGuardCondition 9 .ok) 9
      .guardConditions rfl rfl (by decide) (by decide) (by decide)⟩

/-! ### Calls that fail after changing the table -/

section failing
variable {e : Executor} {p : Ptr} {c : Counter}

theorem registerHandle_fini_error (hlt : e.index < e.maxHandles) (hvalid : e.waitSet.valid = true)
    (fill : Handle → Handle) (err : RclError) :
    registerHandle e fill c (.error err) =
      (err.1, { e.modifyHandle e.index fill with
        index := e.index + 1, waitSet := rclGetZeroInitializedWaitSet }) := by
  simp [registerHandle, Nat.not_le.2 hlt, rclWaitSetFiniIfValid, hvalid]

theorem unregisterHandle_fini_error (c : Counter) (hp : p ≠ 0) {pos : Nat}
    (hfind : rclcExecutorFindHandle e p = some pos) (hvalid : e.waitSet.valid = true)
    (err : RclError) :
    unregisterHandle e p c (.error err) = rclcExecutorRemoveHandle e (some pos) (.error err) ∧
      (rclcExecutorRemoveHandle e (some pos) (.error err)).1 = err.1 := by
  have hpos := (rclcExecutorFindHandle_eq_some.1 hfind).1
  have hret : (rclcExecutorRemoveHandle e (some pos) (.error err)).1 = err.1 := by
    simp [rclcExecutorRemoveHandle, Nat.not_le.2 hpos, rclWaitSetFiniIfValid, hvalid, MwRet.code]
  refine ⟨?_, hret⟩
  simp only [unregisterHandle, hp, if_false, hfind, hret,
    if_pos (RclError.ne (List.mem_cons_self rclRetOk _) : err.1 ≠ rclRetOk)]

end failing

/-- In a state whose wait set is valid: `rclc_executor_add_subscription` into a table with room,
whose `rcl_wait_set_fini` fails, returns that failure with the subscription registered in slot
`index` and `index` advanced; `rclc_executor_remove_subscription` of a registered
subscription, whose `rcl_wait_set_fini` fails, returns that failure with the subscription
removed from the table and `index` stepped back; and `rclc_executor_add_action_client` into a
table with room, whose `rcl_action_client_wait_set_get_num_entities` fails, returns that
failure with the client registered and counted. -/
theorem rejected_calls_change_table {s : State} (hvalid : s.executor.waitSet.valid = true)
    (err : RclError) :
    (∀ (p m cb : Ptr) (inv : HandleInvocation), p ≠ 0 → m ≠ 0 → cb ≠ 0 →
      s.executor.index < s.executor.maxHandles →
      ((Op.addSubscription p m cb inv (.error err)).exec s).1 = err.1 ∧
      ((Op.addSubscription p m cb inv (.error err)).exec s).2.executor.index =
        s.executor.index + 1 ∧
      (((Op.addSubscription p m cb inv (.error err)).exec s).2.executor.handles
        s.executor.index).type = .subscription) ∧
    (∀ (p : Ptr) (pos : Nat), p ≠ 0 → rclcExecutorFindHandle s.executor p = some pos →
      ((Op.removeSubscription p (.error err)).exec s).1 = err.1 ∧
      ((Op.removeSubscription p (.error err)).exec s).2.executor.index = s.executor.index - 1 ∧
      (List.range ((Op.removeSubscription p (.error err)).exec s).2.executor.index).map
          ((Op.removeSubscription p (.error err)).exec s).2.executor.handles =
        ((List.range s.executor.index).map s.executor.handles).eraseIdx pos) ∧
    (∀ (a n rr gc rc : Nat) (ne : NumEntities), a ≠ 0 → rr ≠ 0 → gc ≠ 0 → rc ≠ 0 →
      s.executor.index < s.executor.maxHandles →
      ((Op.addActionClient a n rr 0 gc 0 rc 0 0 true .ok (.error err, ne)).exec s).1 = err.1 ∧
      ((Op.addActionClient a n rr 0 gc 0 rc 0 0 true .ok (.error err, ne)).exec s).2.executor.index =
        s.executor.index + 1 ∧
      ((Op.addActionClient a n rr 0 gc 0 rc 0 0 true .ok (.error err, ne)).exec s).2.executor.info =
        (s.executor.info.addEntities ne).add .actionClients 1) := by
  refine ⟨fun p m cb inv hp hm hcb hlt => ?_, fun p pos hp hfind => ?_,
    fun a n rr gc rc ne ha hrr hgc hrc hlt => ?_⟩
  · simp [Op.exec, onExecutor, rclcExecutorAddSubscription, hp, hm, hcb,
      registerHandle_fini_error hlt hvalid]
  · obtain ⟨heq, hret⟩ := unregisterHandle_fini_error .subscriptions hp hfind hvalid err
    have hpos := (rclcExecutorFindHandle_eq_some.1 hfind).1
    simp only [Op.exec, rclcExecutorRemoveSubscription, onExecutor, heq]
    exact ⟨hret, by simp [hpos], rclcExecutorRemoveHandle_registered hpos⟩
  · simp [Op.exec, rclcExecutorAddActionClient, ha, hrr, hgc, hrc, Nat.not_le.2 hlt,
      rclWaitSetFiniIfValid, hvalid, MwRet.code]

theorem rejected_calls_change_table_prepared :
    let s := runOps [.addSubscription 5 6 7 .onNewData .ok, .prepare .ok] (initBlank 3)
    s.executor.waitSet.valid = true ∧
    (∀ (p m cb : Ptr) (inv : HandleInvocation), p ≠ 0 → m ≠ 0 → cb ≠ 0 →
      s.executor.index < s.executor.maxHandles →
      ((Op.addSubscription p m cb inv (.error .error)).exec s).1 = RclError.error.1 ∧
      ((Op.addSubscription p m cb inv (.error .error)).exec s).2.executor.index =
        s.executor.index + 1 ∧
      (((Op.addSubscription p m cb inv (.error .error)).exec s).2.executor.handles
        s.executor.index).type = .subscription) ∧
    (∀ (p : Ptr) (pos : Nat), p ≠ 0 → rclcExecutorFindHandle s.executor p = some pos →
      ((Op.removeSubscription p (.error .error)).exec s).1 = RclError.error.1 ∧
      ((Op.removeSubscription p (.error .error)).exec s).2.executor.index = s.executor.index - 1 ∧
      (List.range ((Op.removeSubscription p (.error .error)).exec s).2.executor.index).map
          ((Op.removeSubscription p (.error .error)).exec s).2.executor.handles =
        ((List.range s.executor.index).map s.executor.handles).eraseIdx pos) ∧
    (∀ (a n rr gc rc : Nat) (ne : NumEntities), a ≠ 0 → rr ≠ 0 → gc ≠ 0 → rc ≠ 0 →
      s.executor.index < s.executor.maxHandles →
      ((Op.addActionClient a n rr 0 gc 0 rc 0 0 true .ok (.error .error, ne)).exec s).1 =
        RclError.error.1 ∧
      ((Op.addActionClient a n rr 0 gc 0 rc 0 0 true .ok (.error .error, ne)).exec s).2.executor.index =
        s.executor.index + 1 ∧
      ((Op.addActionClient a n rr 0 gc 0 rc 0 0 true .ok (.error .error, ne)).exec s).2.executor.info =
        (s.executor.info.addEntities ne).add .actionClients 1) :=
  ⟨by decide, rejected_calls_change_table (by decide) .error⟩

end RclcExecutor
