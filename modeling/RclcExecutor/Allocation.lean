import RclcExecutor.System

/-!
The executor's memory: what `rclc_executor_init` leaves when its allocation fails, and how
many bytes the allocations ask for.

`rclc_executor_init` sets `max_handles` before it allocates the handle block, and returns
`RCL_RET_BAD_ALLOC` with the block `NULL` and `max_handles` still set. The adds check only
`index < max_handles`, so the next add writes into slot `0` of the `NULL` block, and the
registration loop of `rclc_executor_spin_some` reads it.

Every allocation asks for `count * sizeof(element)` bytes, computed in `size_t`. No call checks
the product: a count of `wrapCount size = 2^64 / size + 1` elements of `size` bytes asks for at most `size`
bytes, so an allocator that can hand out one element accepts it, and the initialisation that
follows writes `count` elements into that block.
-/

namespace RclcExecutor

/-! ### A failed `rclc_executor_init` -/

/-- When the allocator returns `NULL`, `rclc_executor_init` reports `RCL_RET_BAD_ALLOC` and
leaves an executor with no handle block but with `max_handles` set. -/
theorem rclcExecutorInit_badAlloc (e : Executor) {context numberOfHandles allocator : Nat}
    (hc : context ≠ 0) (hn : numberOfHandles ≠ 0) (ha : allocator ≠ 0) (block : Nat → Handle) :
    (rclcExecutorInit e context numberOfHandles allocator false block).1 = rclRetBadAlloc ∧
    (rclcExecutorInit e context numberOfHandles allocator false block).2.handlesNull = true ∧
    (rclcExecutorInit e context numberOfHandles allocator false block).2.maxHandles =
      numberOfHandles ∧
    (rclcExecutorInit e context numberOfHandles allocator false block).2.index = 0 := by
  simp [rclcExecutorInit, hc, hn, ha, rclcExecutorGetZeroInitializedExecutor]

/-- `rclc_executor_init` for two handles, with an allocator that returns `NULL`. -/
def badAllocInit : RclRet × Executor :=
  rclcExecutorInit (rclcExecutorGetZeroInitializedExecutor fun _ => Handle.blank) 1 2 1 false
    fun _ => Handle.blank

/-- After `rclc_executor_init` has failed with `RCL_RET_BAD_ALLOC` for two handles,
`rclc_executor_add_subscription` succeeds and writes the subscription into slot `0` of the
`NULL` block, and the next `rclc_executor_spin_some` reads that slot to add it to the wait
set. -/
theorem bad_alloc_table_written :
    badAllocInit.1 = rclRetBadAlloc ∧ badAllocInit.2.maxHandles = 2 ∧
    badAllocInit.2.handlesNull = true ∧
    (rclcExecutorAddSubscription badAllocInit.2 5 6 7 .onNewData .ok).1 = rclRetOk ∧
    (rclcExecutorAddSubscription badAllocInit.2 5 6 7 .onNewData .ok).2.handlesNull = true ∧
    ((rclcExecutorAddSubscription badAllocInit.2 5 6 7 .onNewData .ok).2.handles 0).type =
      .subscription ∧
    (rclcExecutorSpinSome Middleware.idle
      ⟨(rclcExecutorAddSubscription badAllocInit.2 5 6 7 .onNewData .ok).2,
        fun _ => ActionClient.blank, fun _ => ActionServer.blank⟩).setup =
      [.waitSetInit .ok, .waitSetClear .ok, .waitSetAdd 0 .ok, .wait .ok] :=
  ⟨by decide, by decide, by decide, by decide, by decide, by decide, by decide⟩

/-! ### Allocation sizes -/

/-- `x * y` on `size_t`. -/
def sizeMul (x y : Nat) : Nat := x * y % 2 ^ 64

theorem sizeMul_lt_iff {x y : Nat} : sizeMul x y < x * y ↔ 2 ^ 64 ≤ x * y := by
  unfold sizeMul
  constructor
  · intro h
    by_contra hlt
    rw [Nat.mod_eq_of_lt (Nat.lt_of_not_le hlt)] at h
    exact Nat.lt_irrefl _ h
  · intro h
    exact Nat.lt_of_lt_of_le (Nat.mod_lt _ (Nat.two_pow_pos 64)) h

/-- The element count `2^64 / size + 1`: the least count whose byte count does not fit in
`size_t`. -/
def wrapCount (size : Nat) : Nat := 2 ^ 64 / size + 1

/-- `wrapCount size` is a `size_t` value whose product with `size` does not fit in `size_t`
and wraps to at least one and at most `size` bytes. -/
theorem sizeMul_wrapCount {size : Nat} (h2 : 2 ≤ size) (hlt : size < 2 ^ 64) :
    wrapCount size < 2 ^ 64 ∧ 0 < sizeMul (wrapCount size) size ∧
      sizeMul (wrapCount size) size ≤ size ∧ 2 ^ 64 ≤ wrapCount size * size := by
  have hdm := Nat.div_add_mod' (2 ^ 64) size
  have hr := Nat.mod_lt (2 ^ 64) (show 0 < size by omega)
  have hq : 1 ≤ 2 ^ 64 / size := Nat.div_pos (by omega) (by omega)
  have hq2 : 2 ^ 64 / size ≤ 2 ^ 64 / 2 := Nat.div_le_div_left h2 (by omega)
  unfold sizeMul wrapCount
  rw [Nat.add_mul, Nat.one_mul]
  generalize 2 ^ 64 / size * size = P at *
  generalize 2 ^ 64 / size = q at *
  omega

/-- For every size of a handle record and of a goal handle of at least two bytes, and every
allocator that hands out a block of up to one record: `rclc_executor_init` accepts
`2^64 / sizeof(rclc_executor_handle_t) + 1` handles, and `rclc_executor_add_action_client` and
`rclc_executor_add_action_server` accept `2^64 / sizeof(rclc_action_goal_handle_t) + 1` goal
handles, though in each case the `size_t` byte count they pass to `allocate` is smaller than
the records the initialisation then writes. -/
theorem alloc_request_wraps (sizeofHandle sizeofGoalHandle : Nat) (h1 : 2 ≤ sizeofHandle)
    (h1' : sizeofHandle < 2 ^ 64) (h2 : 2 ≤ sizeofGoalHandle) (h2' : sizeofGoalHandle < 2 ^ 64)
    (allocate : Nat → Bool)
    (hgrant : ∀ bytes, 0 < bytes → bytes ≤ max sizeofHandle sizeofGoalHandle →
      allocate bytes = true) :
    wrapCount sizeofHandle < 2 ^ 64 ∧
    sizeMul (wrapCount sizeofHandle) sizeofHandle < wrapCount sizeofHandle * sizeofHandle ∧
    (rclcExecutorInit (rclcExecutorGetZeroInitializedExecutor fun _ => Handle.blank) 1
      (wrapCount sizeofHandle) 1 (allocate (sizeMul (wrapCount sizeofHandle) sizeofHandle))
      fun _ => Handle.blank).1 = rclRetOk ∧
    (rclcExecutorInit (rclcExecutorGetZeroInitializedExecutor fun _ => Handle.blank) 1
      (wrapCount sizeofHandle) 1 (allocate (sizeMul (wrapCount sizeofHandle) sizeofHandle))
      fun _ => Handle.blank).2.maxHandles = wrapCount sizeofHandle ∧
    wrapCount sizeofGoalHandle < 2 ^ 64 ∧
    sizeMul (wrapCount sizeofGoalHandle) sizeofGoalHandle <
      wrapCount sizeofGoalHandle * sizeofGoalHandle ∧
    (rclcExecutorAddActionClient (initBlank 1) 6 (wrapCount sizeofGoalHandle) 100 0 11 0 12 13 0
      (allocate (sizeMul (wrapCount sizeofGoalHandle) sizeofGoalHandle)) .ok
      (.ok, ⟨0, 0, 0, 0, 0⟩)).1 = rclRetOk ∧
    ((rclcExecutorAddActionClient (initBlank 1) 6 (wrapCount sizeofGoalHandle) 100 0 11 0 12 13 0
      (allocate (sizeMul (wrapCount sizeofGoalHandle) sizeofGoalHandle)) .ok
      (.ok, ⟨0, 0, 0, 0, 0⟩)).2.actionClients 6).goalHandlesMemorySize =
      wrapCount sizeofGoalHandle ∧
    ((rclcExecutorAddActionClient (initBlank 1) 6 (wrapCount sizeofGoalHandle) 100 0 11 0 12 13 0
      (allocate (sizeMul (wrapCount sizeofGoalHandle) sizeofGoalHandle)) .ok
      (.ok, ⟨0, 0, 0, 0, 0⟩)).2.actionClients 6).goalsCancelingCapacity =
      wrapCount sizeofGoalHandle ∧
    (rclcExecutorAddActionServer (initBlank 1) 7 (wrapCount sizeofGoalHandle) 100 1 8 9 0
      (allocate (sizeMul (wrapCount sizeofGoalHandle) sizeofGoalHandle)) .ok
      (.ok, ⟨0, 0, 0, 0, 0⟩)).1 = rclRetOk ∧
    ((rclcExecutorAddActionServer (initBlank 1) 7 (wrapCount sizeofGoalHandle) 100 1 8 9 0
      (allocate (sizeMul (wrapCount sizeofGoalHandle) sizeofGoalHandle)) .ok
      (.ok, ⟨0, 0, 0, 0, 0⟩)).2.actionServers 7).goalHandlesMemorySize =
      wrapCount sizeofGoalHandle := by
  obtain ⟨hn, hn0, hnle, hwn⟩ := sizeMul_wrapCount h1 h1'
  obtain ⟨hm, hm0, hmle, hwm⟩ := sizeMul_wrapCount h2 h2'
  have hgn := hgrant _ hn0 (le_max_of_le_left hnle)
  have hgm := hgrant _ hm0 (le_max_of_le_right hmle)
  refine ⟨hn, sizeMul_lt_iff.2 hwn, ?_, ?_, hm, sizeMul_lt_iff.2 hwm, ?_, ?_, ?_, ?_, ?_⟩ <;>
    simp only [hgn, hgm] <;>
    simp [rclcExecutorInit, rclcExecutorAddActionClient, rclcExecutorAddActionServer, initBlank,
      initState, rclWaitSetFiniIfValid, MwRet.code, rclcExecutorGetZeroInitializedExecutor,
      wrapCount]

theorem alloc_request_wraps_anyBlock :
    (2 ≤ 64 ∧ 64 < 2 ^ 64 ∧ 2 ≤ 96 ∧ 96 < 2 ^ 64 ∧
      ∀ bytes, 0 < bytes → bytes ≤ max 64 96 → (fun _ => true : Nat → Bool) bytes = true) ∧
    wrapCount 64 < 2 ^ 64 ∧ sizeMul (wrapCount 64) 64 < wrapCount 64 * 64 ∧
    (rclcExecutorInit (rclcExecutorGetZeroInitializedExecutor fun _ => Handle.blank) 1
      (wrapCount 64) 1 true fun _ => Handle.blank).1 = rclRetOk ∧
    (rclcExecutorInit (rclcExecutorGetZeroInitializedExecutor fun _ => Handle.blank) 1
      (wrapCount 64) 1 true fun _ => Handle.blank).2.maxHandles = wrapCount 64 ∧
    wrapCount 96 < 2 ^ 64 ∧ sizeMul (wrapCount 96) 96 < wrapCount 96 * 96 ∧
    (rclcExecutorAddActionClient (initBlank 1) 6 (wrapCount 96) 100 0 11 0 12 13 0 true .ok
      (.ok, ⟨0, 0, 0, 0, 0⟩)).1 = rclRetOk ∧
    ((rclcExecutorAddActionClient (initBlank 1) 6 (wrapCount 96) 100 0 11 0 12 13 0 true .ok
      (.ok, ⟨0, 0, 0, 0, 0⟩)).2.actionClients 6).goalHandlesMemorySize = wrapCount 96 ∧
    ((rclcExecutorAddActionClient (initBlank 1) 6 (wrapCount 96) 100 0 11 0 12 13 0 true .ok
      (.ok, ⟨0, 0, 0, 0, 0⟩)).2.actionClients 6).goalsCancelingCapacity = wrapCount 96 ∧
    (rclcExecutorAddActionServer (initBlank 1) 7 (wrapCount 96) 100 1 8 9 0 true .ok
      (.ok, ⟨0, 0, 0, 0, 0⟩)).1 = rclRetOk ∧
    ((rclcExecutorAddActionServer (initBlank 1) 7 (wrapCount 96) 100 1 8 9 0 true .ok
      (.ok, ⟨0, 0, 0, 0, 0⟩)).2.actionServers 7).goalHandlesMemorySize = wrapCount 96 :=
  ⟨⟨by decide, by decide, by decide, by decide, fun _ _ _ => rfl⟩,
    alloc_request_wraps 64 96 (by decide) (by decide) (by decide) (by decide) (fun _ => true)
      fun _ _ _ => rfl⟩

end RclcExecutor
