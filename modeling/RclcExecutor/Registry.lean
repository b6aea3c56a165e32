import RclcExecutor.Lifecycle
import RclcExecutor.Rounds

/-!
The handle table as a registry. What a program registers is a list of entries: an add puts
its entry at the end, a remove takes out the first entry whose pointer is the endpoint it
names, `rclc_executor_fini` empties the list, and every other call leaves it alone
(`Op.onRegistry`). The table refines that list: from a reachable state, the entries of the
registered handles, in table order, move as the registry does under every call whose adds
and removes return `RCL_RET_OK` (`registry_refinement`).

An entry is what registration writes into a handle and no round changes: the kind, the
invocation, the endpoint, the buffers, the callback and its context. The fields a round
writes (`index`, `data_available`, `req_id`) are not part of it. An add writes only some of
these fields; the others it finds in the slot, which on a packed table is as
`rclc_executor_handle_init` left it. The one step with content is the remove: the position
`_rclc_executor_find_handle` finds is the first entry with the pointer, so shifting the table
there erases exactly the entry the registry erases.
-/

namespace RclcExecutor

/-- What registering a handle records. -/
structure Entry where
  type : HandleType
  invocation : HandleInvocation
  endpoint : Ptr
  data : Ptr
  dataResponseMsg : Ptr
  callbackContext : Ptr
  callback : Ptr
  deriving DecidableEq, Repr

def Handle.entry (h : Handle) : Entry :=
  ⟨h.type, h.invocation, h.endpoint, h.data, h.dataResponseMsg, h.callbackContext, h.callback⟩

/-- The pointer a remove matches an entry by: the endpoint, for the kinds a remove exists
for. -/
def Entry.ptr (x : Entry) : Ptr :=
  match x.type with
  | .actionClient | .actionServer | .none => 0
  | _ => x.endpoint

theorem Handle.entry_ptr (h : Handle) : h.entry.ptr = rclcExecutorHandleGetPtr h := by
  simp only [Handle.entry, Entry.ptr, rclcExecutorHandleGetPtr]
  cases h.type <;> rfl

def Executor.registered (e : Executor) : List Handle := (List.range e.index).map e.handles

/-- The entries of the registered handles, in table order. -/
def Executor.registry (e : Executor) : List Entry := e.registered.map Handle.entry

def Op.registers : Op → Option Entry
  | .addSubscription p m c inv _ => some ⟨.subscription, inv, p, m, 0, 0, c⟩
  | .addSubscriptionWithContext p m c x inv _ =>
      some ⟨.subscriptionWithContext, inv, p, m, 0, x, c⟩
  | .addTimer p _ => some ⟨.timer, .onNewData, p, 0, 0, 0, 0⟩
  | .addClient p m c _ => some ⟨.client, .onNewData, p, m, 0, 0, c⟩
  | .addClientWithRequestId p m c _ => some ⟨.clientWithRequestId, .onNewData, p, m, 0, 0, c⟩
  | .addService p q r c _ => some ⟨.service, .onNewData, p, q, r, 0, c⟩
  | .addServiceWithContext p q r c x _ => some ⟨.serviceWithContext, .onNewData, p, q, r, x, c⟩
  | .addServiceWithRequestId p q r c _ =>
      some ⟨.serviceWithRequestId, .onNewData, p, q, r, 0, c⟩
  | .addGuardCondition p c _ => some ⟨.guardCondition, .onNewData, p, 0, 0, 0, c⟩
  | .addActionClient p _ _ _ _ _ _ _ x .. => some ⟨.actionClient, .onNewData, p, 0, 0, x, 0⟩
  | .addActionServer p _ _ _ _ _ x .. => some ⟨.actionServer, .onNewData, p, 0, 0, x, 0⟩
  | _ => none

/-- The registry after a call. -/
def Op.onRegistry (op : Op) (r : List Entry) : List Entry :=
  match op, op.registers, op.removed with
  | .fini, _, _ => []
  | _, some x, _ => r ++ [x]
  | _, none, some (p, _) => r.eraseP fun x => x.ptr = p
  | _, none, none => r

/-- Whether every add and every remove of a run returns `RCL_RET_OK`. -/
def acceptedRun : List Op → State → Bool
  | [], _ => true
  | op :: ops, s =>
      (!(op.isAdd || op.removed.isSome) || (op.exec s).1 == rclRetOk) &&
        acceptedRun ops (op.exec s).2

/-! ### The registry of a table -/

section registry
variable {e e' : Executor}

theorem Executor.registry_congr (hi : e'.index = e.index)
    (hh : ∀ j < e.index, (e'.handles j).entry = (e.handles j).entry) : e'.registry = e.registry := by
  simp only [Executor.registry, Executor.registered, hi, List.map_map]
  exact List.map_congr_left fun j hj => hh j (List.mem_range.1 hj)

theorem Executor.registry_push {h : Handle} (hh : e'.handles = Function.update e.handles e.index h)
    (hi : e'.index = e.index + 1) : e'.registry = e.registry ++ [h.entry] := by
  simp only [Executor.registry, Executor.registered, hi, hh, List.range_succ, List.map_append,
    List.map_cons, List.map_nil, Function.update_same]
  congr 2
  exact List.map_congr_left fun j hj => Function.update_noteq (Nat.ne_of_lt (List.mem_range.1 hj)) _ _

theorem EditsAt.registry {i : Nat} (h : EditsAt i e e') : e'.registry = e.registry := by
  obtain ⟨g, hg, rfl⟩ := h
  refine Executor.registry_congr rfl fun j _ => ?_
  by_cases hj : j = i
  · simp only [Executor.modifyHandle_handles, hj, if_true]
    rw [hg]
    rfl
  · simp only [Executor.modifyHandle_handles, hj, if_false]

end registry

theorem eraseP_eq_eraseIdx {α : Type} {q : α → Bool} :
    ∀ {l : List α} {pos : Nat} (hpos : pos < l.length), q l[pos] = true →
      (∀ j (hj : j < l.length), j < pos → q l[j] = false) → l.eraseP q = l.eraseIdx pos
  | [], _, hpos, _, _ => absurd hpos (Nat.not_lt_zero _)
  | a :: l, 0, _, hq, _ => List.eraseP_cons_of_pos hq
  | a :: l, k + 1, hpos, hq, hfirst => by
      rw [List.eraseP_cons_of_neg (by simpa using hfirst 0 (Nat.zero_lt_succ _) (Nat.zero_lt_succ k)),
        List.eraseIdx_cons_succ,
        eraseP_eq_eraseIdx (Nat.lt_of_succ_lt_succ hpos) hq fun j hj hjk =>
          hfirst (j + 1) (Nat.succ_lt_succ hj) (Nat.succ_lt_succ hjk)]

/-! ### One call -/

section adds
variable {e : Executor} {s : State}

theorem registerHandle_registry (hs : TableShape e) (fill : Handle → Handle) (c : Counter)
    (finiRet : MwRet) :
    registerHandle e fill c finiRet = (rclRetError, e) ∨
      (registerHandle e fill c finiRet).2.registry =
        e.registry ++ [(fill (rclcExecutorHandleInit (e.handles e.index) e.maxHandles)).entry] := by
  unfold registerHandle
  split
  · exact .inl rfl
  · next hfull =>
      rw [hs.unused _ (Nat.le_refl _) (Nat.lt_of_not_le hfull)]
      dsimp only
      split <;> exact .inr (@Executor.registry_push e _ _ rfl rfl)

theorem rclcExecutorAddActionClient_registry (hs : TableShape s.executor)
    (p n r fb gc fc rc cc x : Nat) (a : Bool) (f : MwRet) (en : MwRet × NumEntities) :
    ((rclcExecutorAddActionClient s p n r fb gc fc rc cc x a f en).2.executor.registry =
        s.executor.registry ∧ (rclcExecutorAddActionClient s p n r fb gc fc rc cc x a f en).1 ≠
          rclRetOk) ∨
      (rclcExecutorAddActionClient s p n r fb gc fc rc cc x a f en).2.executor.registry =
        s.executor.registry ++ [⟨.actionClient, .onNewData, p, 0, 0, x, 0⟩] := by
  simp only [rclcExecutorAddActionClient]
  split
  · exact .inl ⟨rfl, rclRetInvalidArgument_ne_ok⟩
  split
  · exact .inl ⟨rfl, rclRetError_ne_ok⟩
  next hfull =>
    split
    · exact .inl ⟨rfl, rclRetError_ne_ok⟩
    refine .inr ?_
    split <;>
    · refine (@Executor.registry_push s.executor _ _ rfl rfl).trans ?_
      rw [← hs.unused _ (Nat.le_refl _) (Nat.lt_of_not_le hfull)]
      rfl

theorem rclcExecutorAddActionServer_registry (hs : TableShape s.executor)
    (p n g gs gc cc x : Nat) (a : Bool) (f : MwRet) (en : MwRet × NumEntities) :
    ((rclcExecutorAddActionServer s p n g gs gc cc x a f en).2.executor.registry =
        s.executor.registry ∧ (rclcExecutorAddActionServer s p n g gs gc cc x a f en).1 ≠
          rclRetOk) ∨
      (rclcExecutorAddActionServer s p n g gs gc cc x a f en).2.executor.registry =
        s.executor.registry ++ [⟨.actionServer, .onNewData, p, 0, 0, x, 0⟩] := by
  simp only [rclcExecutorAddActionServer]
  split
  · exact .inl ⟨rfl, rclRetInvalidArgument_ne_ok⟩
  split
  · exact .inl ⟨rfl, rclRetError_ne_ok⟩
  split
  · exact .inl ⟨rfl, rclRetError_ne_ok⟩
  next hfull =>
    refine .inr ?_
    split <;>
    · refine (@Executor.registry_push s.executor _ _ rfl rfl).trans ?_
      rw [← hs.unused _ (Nat.le_refl _) (Nat.lt_of_not_le fun h => hfull (Or.inl h))]
      rfl

theorem Op.exec_registry_of_registers {op : Op} {x : Entry} (h : op.registers = some x)
    (hs : TableShape s.executor) :
    ((op.exec s).2.executor.registry = s.executor.registry ∧ (op.exec s).1 ≠ rclRetOk) ∨
      (op.exec s).2.executor.registry = s.executor.registry ++ [x] := by
  cases op <;> simp only [Op.registers, reduceCtorEq, Option.some.injEq] at h <;> subst h
  case addActionClient => exact rclcExecutorAddActionClient_registry hs ..
  case addActionServer => exact rclcExecutorAddActionServer_registry hs ..
  all_goals
    simp only [Op.exec, onExecutor, rclcExecutorAddSubscription,
      rclcExecutorAddSubscriptionWithContext, rclcExecutorAddTimer, rclcExecutorAddClient,
      rclcExecutorAddClientWithRequestId, rclcExecutorAddService,
      rclcExecutorAddServiceWithContext, rclcExecutorAddServiceWithRequestId,
      rclcExecutorAddGuardCondition]
    split
    · exact .inl ⟨rfl, rclRetInvalidArgument_ne_ok⟩
    · rcases registerHandle_registry hs _ _ _ with he | he
      · rw [he]
        exact .inl ⟨rfl, rclRetError_ne_ok⟩
      · exact .inr he

end adds

section removes
variable {e : Executor} (finiRet : MwRet)

theorem rclcExecutorRemoveHandle_registry_sublist (handle : Option Nat) :
    (rclcExecutorRemoveHandle e handle finiRet).2.registry.Sublist e.registry := by
  rcases handle with _ | pos
  · exact List.Sublist.refl _
  by_cases hpos : pos < e.index
  · simp only [Executor.registry, Executor.registered, rclcExecutorRemoveHandle_registered hpos]
    exact (List.eraseIdx_sublist _ _).map _
  · rw [rclcExecutorRemoveHandle_of_le e pos finiRet (Nat.le_of_not_lt hpos)]

theorem unregisterHandle_registry_sublist (p : Ptr) (c : Counter) :
    (unregisterHandle e p c finiRet).2.registry.Sublist e.registry := by
  unfold unregisterHandle
  split
  · exact List.Sublist.refl _
  · dsimp only
    split <;> exact rclcExecutorRemoveHandle_registry_sublist finiRet _

end removes

theorem Op.exec_registry_sublist_of_removed {op : Op} {p : Ptr} {c : Counter}
    (h : op.removed = some (p, c)) (s : State) :
    (op.exec s).2.executor.registry.Sublist s.executor.registry := by
  obtain ⟨finiRet, hexec⟩ := op.exec_of_removed h s
  rw [hexec]
  exact unregisterHandle_registry_sublist finiRet p c

theorem Op.exec_registry_of_removed {op : Op} {p : Ptr} {c : Counter} (h : op.removed = some (p, c))
    {s : State} (hok : (op.exec s).1 = rclRetOk) :
    (op.exec s).2.executor.registry = s.executor.registry.eraseP fun x => x.ptr = p := by
  obtain ⟨finiRet, hexec⟩ := op.exec_of_removed h s
  rw [hexec] at hok ⊢
  have hp : p ≠ 0 := by
    rintro rfl
    simp [onExecutor, unregisterHandle, rclRetInvalidArgument_ne_ok] at hok
  obtain ⟨pos, hfind, heq⟩ := unregisterHandle_ok hp hok
  obtain ⟨hpos, hptr, hfirst⟩ := rclcExecutorFindHandle_eq_some.1 hfind
  show (unregisterHandle s.executor p c finiRet).2.registry = _
  rw [heq]
  show (rclcExecutorRemoveHandle s.executor (some pos) finiRet).2.registry = _
  simp only [Executor.registry, Executor.registered]
  rw [rclcExecutorRemoveHandle_registered hpos, List.eraseP_map,
    eraseP_eq_eraseIdx (by simpa using hpos) (by simpa [Handle.entry_ptr] using hptr)
      fun j _ hjp => by simpa [Handle.entry_ptr] using hfirst j hjp]

theorem rclcExecutorFini_registry {e : Executor} (h : rclcExecutorIsValid e = true ∨ Finalised e) :
    (rclcExecutorFini e).2.registry = [] := by
  unfold rclcExecutorFini
  split
  · rfl
  · next hv => simp [Executor.registry, Executor.registered, (h.resolve_left hv).index]

theorem rclcExecutorSpinSome_registry (mw : Middleware) {s : State} (hs : TableShape s.executor) :
    (rclcExecutorSpinSome mw s).state.executor.registry = s.executor.registry :=
  have hf := rclcExecutorSpinSome_roundFrame mw hs
  Executor.registry_congr hf.index fun j _ => by rw [hf.handles j]; rfl

/-- One call refines the registry: from a reachable state, a call that is not an add or a
remove, or whose add or remove returns `RCL_RET_OK`, changes the entries of the registered
handles as `Op.onRegistry` changes the registry. -/
theorem Op.exec_registry {s : State} (hr : Reachable s) (op : Op)
    (hok : (op.isAdd || op.removed.isSome) = true → (op.exec s).1 = rclRetOk) :
    (op.exec s).2.executor.registry = op.onRegistry s.executor.registry := by
  have hs := hr.tableShape
  cases op
  case fini => exact rclcExecutorFini_registry hr.valid_or_finalised
  case spinSome mw => exact rclcExecutorSpinSome_registry mw hs
  case prepare r =>
    obtain ⟨hh, hi, -⟩ := rclcExecutorPrepare_table s.executor r
    exact Executor.registry_congr hi fun j _ => congrArg Handle.entry (congrFun hh j)
  case setTimeout t =>
    simp only [Op.exec, onExecutor, rclcExecutorSetTimeout]
    split <;> rfl
  case setSemantics m =>
    simp only [Op.exec, onExecutor, rclcExecutorSetSemantics]
    split <;> rfl
  all_goals first
    | exact (Op.exec_registry_of_registers (by rfl) hs).resolve_left fun h => h.2 (hok rfl)
    | exact Op.exec_registry_of_removed (by rfl) (hok rfl)
    | rfl

/-! ### Runs -/

/-- The handle table refines the registry. From a reachable state, along every run whose adds
and removes all return `RCL_RET_OK` (whatever the other calls return, rounds of
`rclc_executor_spin_some` included), the entries of the registered handles, in table order,
are the registry that the run's calls build: each add appends its entry, each remove erases
the first entry whose pointer is its endpoint, `rclc_executor_fini` empties it, and nothing
else changes it. -/
theorem registry_refinement {s : State} (hr : Reachable s) (ops : List Op)
    (hok : acceptedRun ops s = true) :
    (runOps ops s).executor.registry = ops.foldl (fun r op => op.onRegistry r) s.executor.registry := by
  induction ops generalizing s with
  | nil => rfl
  | cons op ops ih =>
      simp only [acceptedRun, Bool.and_eq_true, Bool.or_eq_true, Bool.not_eq_true',
        beq_iff_eq] at hok
      have hop := Op.exec_registry hr op fun h => hok.1.resolve_left (by simp [h])
      simp only [runOps, List.foldl_cons, ← hop]
      exact ih (hr.step op) hok.2

theorem registry_refinement_addRemove :
    Reachable (initBlank 2) ∧
    acceptedRun [.addSubscription 1 2 3 .onNewData .ok, .addTimer 4 .ok,
      .removeSubscription 1 .ok] (initBlank 2) = true ∧
    (runOps [.addSubscription 1 2 3 .onNewData .ok, .addTimer 4 .ok, .removeSubscription 1 .ok]
        (initBlank 2)).executor.registry =
      [Op.addSubscription 1 2 3 .onNewData .ok, .addTimer 4 .ok, .removeSubscription 1 .ok].foldl
        (fun r op => op.onRegistry r) (initBlank 2).executor.registry :=
  ⟨reachable_initBlank (by decide), by decide,
    registry_refinement (reachable_initBlank (by decide)) _ (by decide)⟩

end RclcExecutor
