import RclcExecutor.RemovedEndpoints
import RclcExecutor.GoalPools
import RclcExecutor.Equivalence

/-!
The executor calls through a `NULL` function pointer only when the program installs `NULL` as
the trigger.

`_rclc_execute` calls the handle's callback of a subscription, a service, a client or a guard
condition, the `goal_callback` and `result_callback` of an action client and the
`goal_callback` and `cancel_callback` of an action server without checking them; the
`feedback_callback` and `cancel_callback` of an action client only when they are set. Every
add refuses a `NULL` callback of the first kind, registration stores the callback it checked,
and nothing else stores a callback: a remove moves handles, a round writes the round fields of
the handles and the goal pools and flags of the action records. A round executes only
registered handles. So in every round from every reachable state, every callback the executor
calls is one the program gave it. Both schedulers also call `executor->trigger_function`
without checking it, and `rclc_executor_set_trigger` stores whatever it is given: the round
calls the installed trigger function (`rclcExecutorSpinSome_triggerCall`), which is `NULL`
only after `rclc_executor_set_trigger` was given `NULL` (`round_never_calls_null`).
-/

namespace RclcExecutor

/-! ### Events -/

def Event.callsNull : Event → Bool
  | .callback f _ => f == 0
  | _ => false

def NoNullCall (evs : List Event) : Prop := ∀ e ∈ evs, e.callsNull = false

instance : DecidablePred NoNullCall := fun evs =>
  inferInstanceAs (Decidable (∀ e ∈ evs, e.callsNull = false))

@[simp] theorem noNullCall_nil : NoNullCall [] := fun _ h => absurd h (List.not_mem_nil _)

@[simp] theorem noNullCall_cons {e : Event} {evs : List Event} :
    NoNullCall (e :: evs) ↔ e.callsNull = false ∧ NoNullCall evs :=
  List.forall_mem_cons

@[simp] theorem noNullCall_append {a b : List Event} :
    NoNullCall (a ++ b) ↔ NoNullCall a ∧ NoNullCall b :=
  List.forall_mem_append

theorem noNullCall_of_callbacks {evs : List Event} (h : evs.filter Event.isCallback = []) :
    NoNullCall evs := fun e he => by
  cases e <;> first
    | rfl
    | exact absurd (List.filter_eq_nil_iff.1 h _ he) (by simp [Event.isCallback])

/-! ### Action records -/

/-- The callbacks of an action client that `_rclc_execute` calls unguarded are set. -/
def ActionClient.CallbacksSet (c : ActionClient) : Prop := c.goalCallback ≠ 0 ∧ c.resultCallback ≠ 0

/-- The callbacks of an action server that `_rclc_execute` calls are set. -/
def ActionServer.CallbacksSet (a : ActionServer) : Prop := a.goalCallback ≠ 0 ∧ a.cancelCallback ≠ 0

section loops
variable {σ : Type} {P : σ → Prop}

theorem whileFound_noNullCall {find : σ → Option GoalHandle}
    {body : GoalHandle → σ → σ × List Event} (h : ∀ g a, P a → P (body g a).1 ∧ NoNullCall (body g a).2) :
    ∀ fuel a, P a → P (whileFound find body fuel a).1 ∧ NoNullCall (whileFound find body fuel a).2
  | 0, _, ha => ⟨ha, noNullCall_nil⟩
  | fuel + 1, a, ha => by
      simp only [whileFound]
      split
      · exact ⟨ha, noNullCall_nil⟩
      · next g _ =>
          have h1 := h g a ha
          have h2 := @whileFound_noNullCall find body h fuel _ h1.1
          exact ⟨h2.1, noNullCall_append.2 ⟨h1.2, h2.2⟩⟩

theorem forUsed_noNullCall {body : GoalHandle → σ → σ × List Event}
    (h : ∀ g a, P a → P (body g a).1 ∧ NoNullCall (body g a).2) :
    ∀ gs a, P a → P (forUsed body gs a).1 ∧ NoNullCall (forUsed body gs a).2
  | [], _, ha => ⟨ha, noNullCall_nil⟩
  | g :: gs, a, ha =>
      have h1 := h g a ha
      have h2 := forUsed_noNullCall h gs _ h1.1
      ⟨h2.1, noNullCall_append.2 ⟨h1.2, h2.2⟩⟩

theorem ite_sweep_noNullCall {b : Bool} {a : σ} {x : σ × List Event}
    (hx : P a → P x.1 ∧ NoNullCall x.2) (ha : P a) :
    P (if b = true then x else (a, [])).1 ∧ NoNullCall (if b = true then x else (a, [])).2 := by
  cases b
  · exact ⟨ha, noNullCall_nil⟩
  · exact hx ha

end loops

section client
variable (mw : Middleware) (i : Nat) (context : Ptr) {c : ActionClient}

theorem clientParts_callbacksSet : ∀ part ∈ [takeGoalResponsePart mw i, takeFeedbackPart mw i,
    takeCancelResponsePart mw i, takeResultResponsePart mw i],
    ∀ c : ActionClient, c.CallbacksSet → (part c).2.1.CallbacksSet := by
  simp only [List.forall_mem_cons, List.not_mem_nil, false_implies, implies_true, and_true]
  refine ⟨fun c h => ?_, fun c h => ?_, fun c h => ?_, fun c h => ?_⟩ <;>
    simp only [takeGoalResponsePart, takeFeedbackPart, takeCancelResponsePart,
      takeResultResponsePart] <;> (repeat' split) <;> exact h

theorem goalResponseBody_noNullCall (g : GoalHandle) (h : c.CallbacksSet) :
    (goalResponseBody mw i context g c).1.CallbacksSet ∧
      NoNullCall (goalResponseBody mw i context g c).2 := by
  simp only [goalResponseBody, rclcActionSendResultRequest]
  (repeat' split) <;> exact ⟨h, by simp [Event.callsNull, h.1]⟩

theorem feedbackBody_noNullCall (g : GoalHandle) (h : c.CallbacksSet) :
    (feedbackBody context g c).1.CallbacksSet ∧ NoNullCall (feedbackBody context g c).2 := by
  simp only [feedbackBody]
  (repeat' split) <;> exact ⟨h, by simp_all [Event.callsNull]⟩

theorem cancelResponseBody_noNullCall (g : GoalHandle) (h : c.CallbacksSet) :
    (cancelResponseBody context g c).1.CallbacksSet ∧
      NoNullCall (cancelResponseBody context g c).2 := by
  simp only [cancelResponseBody]
  (repeat' split) <;> exact ⟨h, by simp_all [Event.callsNull]⟩

theorem resultResponseBody_noNullCall (g : GoalHandle) (h : c.CallbacksSet) :
    (resultResponseBody context g c).1.CallbacksSet ∧
      NoNullCall (resultResponseBody context g c).2 :=
  ⟨h, by simp [resultResponseBody, Event.callsNull, h.2]⟩

theorem executeActionClient_noNullCall (h : c.CallbacksSet) :
    (executeActionClient mw i context c).1.CallbacksSet ∧
      NoNullCall (executeActionClient mw i context c).2 := by
  unfold executeActionClient
  lift_lets
  extract_lets r1 r2 r3 r4
  have s1 : r1.1.CallbacksSet ∧ NoNullCall r1.2 := ite_sweep_noNullCall
    (whileFound_noNullCall (fun g _ ha => goalResponseBody_noNullCall mw i context g ha) _ _) h
  have s2 : r2.1.CallbacksSet ∧ NoNullCall r2.2 := ite_sweep_noNullCall
    (forUsed_noNullCall (fun g _ ha => feedbackBody_noNullCall context g ha) _ _) s1.1
  have s3 : r3.1.CallbacksSet ∧ NoNullCall r3.2 := ite_sweep_noNullCall
    (forUsed_noNullCall (fun g _ ha => cancelResponseBody_noNullCall context g ha) _ _) s2.1
  have s4 : r4.1.CallbacksSet ∧ NoNullCall r4.2 := ite_sweep_noNullCall
    (whileFound_noNullCall (fun g _ ha => resultResponseBody_noNullCall context g ha) _ _) s3.1
  exact ⟨s4.1, noNullCall_append.2 ⟨noNullCall_append.2 ⟨noNullCall_append.2 ⟨s1.2, s2.2⟩,
    s3.2⟩, s4.2⟩⟩

end client

section server
variable (mw : Middleware) (i : Nat) (context : Ptr) {a : ActionServer}

theorem serverParts_callbacksSet : ∀ part ∈ [takeGoalRequestPart mw i, takeResultRequestPart mw i,
    takeCancelRequestPart mw i], ∀ a : ActionServer, a.CallbacksSet → (part a).2.1.CallbacksSet := by
  simp only [List.forall_mem_cons, List.not_mem_nil, false_implies, implies_true, and_true]
  refine ⟨fun a h => ?_, fun a h => ?_, fun a h => ?_⟩ <;>
    simp only [takeGoalRequestPart, takeResultRequestPart, takeCancelRequestPart] <;>
    (repeat' split) <;> exact h

theorem goalRequestBody_noNullCall (g : GoalHandle) (h : a.CallbacksSet) :
    (goalRequestBody mw i context g a).1.CallbacksSet ∧
      NoNullCall (goalRequestBody mw i context g a).2 := by
  simp only [goalRequestBody]
  split <;> exact ⟨h, by simp [Event.callsNull, h.1]⟩

theorem cancelRequestBody_noNullCall (g : GoalHandle) (h : a.CallbacksSet) :
    (cancelRequestBody mw i context g a).1.CallbacksSet ∧
      NoNullCall (cancelRequestBody mw i context g a).2 := by
  simp only [cancelRequestBody]
  (repeat' split) <;> exact ⟨h, by simp [Event.callsNull, h.2]⟩

theorem executeActionServer_noNullCall (h : a.CallbacksSet) :
    (executeActionServer mw i context a).1.CallbacksSet ∧
      NoNullCall (executeActionServer mw i context a).2 := by
  unfold executeActionServer
  lift_lets
  extract_lets a0 a1 w2 x2 r2 w3 y3 r3
  have s0 : a0.CallbacksSet :=
    (whileFound_noNullCall (fun _ _ ha => ⟨ha, noNullCall_nil⟩) _ _ h).1
  have s1 : a1.CallbacksSet := by
    show (if a.goalEnded = true then _ else a).CallbacksSet
    split
    · exact s0
    · exact h
  have s2 : r2.1.CallbacksSet ∧ NoNullCall r2.2 := ite_sweep_noNullCall
    (fun ha => whileFound_noNullCall (fun g _ ha => goalRequestBody_noNullCall mw i context g ha)
      _ _ ha) s1
  have s3 : r3.1.CallbacksSet ∧ NoNullCall r3.2 := ite_sweep_noNullCall
    (fun ha => forUsed_noNullCall (fun g _ ha => cancelRequestBody_noNullCall mw i context g ha)
      _ _ ha) s2.1
  exact ⟨s3.1, noNullCall_append.2 ⟨s2.2, s3.2⟩⟩

end server

/-! ### What the registry needs -/

/-- What `_rclc_execute` calls for a registered entry without a check is set: the handle's
callback for the kinds that have one, the action record's callbacks for an action endpoint. -/
def State.EntryCallbacksSet (s : State) (x : Entry) : Prop :=
  match x.type with
  | .timer | .none => True
  | .actionClient => (s.actionClients x.endpoint).CallbacksSet
  | .actionServer => (s.actionServers x.endpoint).CallbacksSet
  | _ => x.callback ≠ 0

/-- Every registered entry has what `_rclc_execute` calls set. -/
def State.CallbacksSet (s : State) : Prop := ∀ x ∈ s.executor.registry, s.EntryCallbacksSet x

/-- Every action record whose callbacks are set in `s` has them set in `t`. -/
structure RecordsKeep (s t : State) : Prop where
  clients : ∀ p, (s.actionClients p).CallbacksSet → (t.actionClients p).CallbacksSet
  servers : ∀ p, (s.actionServers p).CallbacksSet → (t.actionServers p).CallbacksSet

namespace RecordsKeep
variable {s t u : State}

theorem refl (s : State) : RecordsKeep s s := ⟨fun _ h => h, fun _ h => h⟩

theorem trans (h₁ : RecordsKeep s t) (h₂ : RecordsKeep t u) : RecordsKeep s u :=
  ⟨fun p h => h₂.clients p (h₁.clients p h), fun p h => h₂.servers p (h₁.servers p h)⟩

theorem of_eq (hc : t.actionClients = s.actionClients) (hs : t.actionServers = s.actionServers) :
    RecordsKeep s t :=
  ⟨fun _ h => hc ▸ h, fun _ h => hs ▸ h⟩

theorem of_clients_update {p : Ptr} {c : ActionClient}
    (ht : t.actionClients = Function.update s.actionClients p c)
    (hs : t.actionServers = s.actionServers)
    (hc : (s.actionClients p).CallbacksSet → c.CallbacksSet) : RecordsKeep s t := by
  refine ⟨fun q hq => ?_, fun q hq => hs ▸ hq⟩
  rw [ht]
  rcases eq_or_ne q p with rfl | hqp
  · rw [Function.update_same]; exact hc hq
  · rw [Function.update_noteq hqp]; exact hq

theorem of_servers_update {p : Ptr} {a : ActionServer}
    (hc : t.actionClients = s.actionClients)
    (ht : t.actionServers = Function.update s.actionServers p a)
    (ha : (s.actionServers p).CallbacksSet → a.CallbacksSet) : RecordsKeep s t := by
  refine ⟨fun q hq => hc ▸ hq, fun q hq => ?_⟩
  rw [ht]
  rcases eq_or_ne q p with rfl | hqp
  · rw [Function.update_same]; exact ha hq
  · rw [Function.update_noteq hqp]; exact hq

theorem setActionClient {p : Ptr} {c : ActionClient}
    (hc : (s.actionClients p).CallbacksSet → c.CallbacksSet) :
    RecordsKeep s (s.setActionClient p c) :=
  of_clients_update rfl rfl hc

theorem setActionServer {p : Ptr} {a : ActionServer}
    (ha : (s.actionServers p).CallbacksSet → a.CallbacksSet) :
    RecordsKeep s (s.setActionServer p a) :=
  of_servers_update rfl rfl ha

theorem entry (hk : RecordsKeep s t) {x : Entry} (h : s.EntryCallbacksSet x) :
    t.EntryCallbacksSet x := by
  cases hx : x.type <;> simp only [State.EntryCallbacksSet, hx] at h ⊢
  case actionClient => exact hk.clients _ h
  case actionServer => exact hk.servers _ h
  all_goals exact h

end RecordsKeep

theorem State.CallbacksSet.of_registry {s t : State} (h : s.CallbacksSet) (hk : RecordsKeep s t)
    (hreg : t.executor.registry = s.executor.registry) : t.CallbacksSet :=
  fun x hx => hk.entry (h x (hreg ▸ hx))

/-! ### Rounds -/

section passes
variable (mw : Middleware) (i : Nat) {s : State}

theorem rclcCheckForNewData_recordsKeep : RecordsKeep s (rclcCheckForNewData mw i s).2.1 := by
  simp only [rclcCheckForNewData]
  split <;> first
    | exact .of_eq rfl rfl
    | exact RecordsKeep.setActionClient id
    | exact RecordsKeep.setActionServer id

theorem rclcTakeNewData_recordsKeep : RecordsKeep s (rclcTakeNewData mw i s).2.1 := by
  simp only [rclcTakeNewData]
  (repeat' split) <;> first
    | exact .of_eq rfl rfl
    | exact RecordsKeep.setActionClient (runParts_preserves _ (clientParts_callbacksSet mw i) _)
    | exact RecordsKeep.setActionServer (runParts_preserves _ (serverParts_callbacksSet mw i) _)

theorem rclcExecute_recordsKeep : RecordsKeep s (rclcExecute mw i s).2.1 := by
  simp only [rclcExecute]
  (repeat' split) <;> first
    | exact .of_eq rfl rfl
    | exact RecordsKeep.setActionClient fun h => (executeActionClient_noNullCall mw i _ h).1
    | exact RecordsKeep.setActionServer fun h => (executeActionServer_noNullCall mw i _ h).1

theorem passFn_recordsKeep (p : Pass) : RecordsKeep s (passFn mw p i s).2.1 := by
  cases p
  · exact rclcCheckForNewData_recordsKeep mw i
  · exact rclcTakeNewData_recordsKeep mw i
  · exact rclcExecute_recordsKeep mw i

theorem passFn_callbacksSet (p : Pass) (h : s.CallbacksSet) : (passFn mw p i s).2.1.CallbacksSet :=
  h.of_registry (passFn_recordsKeep mw i p) (passFn_editsAt mw p i s).registry

theorem rclcExecute_noNullCall (h : s.CallbacksSet) (hi : i < s.executor.index) :
    NoNullCall (rclcExecute mw i s).2.2 := by
  have hx := h _ (Executor.entry_mem_registry hi)
  simp only [rclcExecute]
  split
  · exact noNullCall_nil
  cases hty : (s.executor.handles i).type <;>
    simp only [State.EntryCallbacksSet, Handle.entry, hty] at hx ⊢
  case actionClient => exact (executeActionClient_noNullCall mw i _ hx).2
  case actionServer => exact (executeActionServer_noNullCall mw i _ hx).2
  all_goals (repeat' split) <;> simp [sendResponse, Event.callsNull, hx]

theorem passFn_noNullCall (p : Pass) (h : s.CallbacksSet) (hi : i < s.executor.index) :
    NoNullCall (passFn mw p i s).2.2 := by
  cases p
  · simp only [passFn, rclcCheckForNewData]
    split <;> simp [Event.callsNull]
  · exact noNullCall_of_callbacks (rclcTakeNewData_callbacks mw i s)
  · exact rclcExecute_noNullCall mw i h hi

end passes

theorem rclcExecutorSpinSome_recordsKeep (mw : Middleware) (s : State) :
    RecordsKeep s (rclcExecutorSpinSome mw s).state :=
  @rclcExecutorSpinSome_preserves mw (RecordsKeep s)
    (fun p i _ ht _ _ => ht.trans (passFn_recordsKeep mw i p))
    (fun i t ht _ _ => ht.trans (.of_eq (waitSetAddStep_actionRecords mw i t).1
      (waitSetAddStep_actionRecords mw i t).2))
    (fun _ _ ht => ⟨ht.clients, ht.servers⟩) s (.refl s)

theorem rclcExecutorSpinSome_noNullCall (mw : Middleware) {s : State} (hs : TableShape s.executor)
    (h : s.CallbacksSet) : ∀ k ∈ (rclcExecutorSpinSome mw s).calls, NoNullCall k.events :=
  @rclcExecutorSpinSome_forall mw State.CallbacksSet (fun k => NoNullCall k.events)
    (fun p i _ ht hi => ⟨passFn_callbacksSet mw i p ht, passFn_noNullCall mw i p ht hi⟩)
    (fun i t ht _ _ => ht.of_registry (.of_eq (waitSetAddStep_actionRecords mw i t).1
      (waitSetAddStep_actionRecords mw i t).2) (waitSetAddStep_editsAt mw i t).registry)
    (fun t r ht => ht.of_registry (.of_eq rfl rfl)
      (Executor.registry_congr (rclcExecutorPrepare_table t.executor r).2.1 fun j _ => by
        rw [(rclcExecutorPrepare_table t.executor r).1]))
    s hs h

/-! ### Calls -/

section calls
variable (s : State)

theorem rclcExecutorAddActionClient_callbacks (p n r fb gc fc rc cc x : Nat) (a : Bool)
    (f : MwRet) (en : MwRet × NumEntities) :
    RecordsKeep s (rclcExecutorAddActionClient s p n r fb gc fc rc cc x a f en).2 ∧
    ((rclcExecutorAddActionClient s p n r fb gc fc rc cc x a f en).2.executor.registry =
        s.executor.registry ∨
      ((rclcExecutorAddActionClient s p n r fb gc fc rc cc x a f en).2.actionClients p).CallbacksSet) := by
  simp only [rclcExecutorAddActionClient]
  split
  · exact ⟨.refl s, .inl rfl⟩
  rename_i hnull
  have hset : gc ≠ 0 ∧ rc ≠ 0 := ⟨fun h => hnull (by simp [h]), fun h => hnull (by simp [h])⟩
  split
  · exact ⟨.refl s, .inl rfl⟩
  split
  · exact ⟨.of_clients_update rfl rfl id, .inl rfl⟩
  · split <;> exact ⟨.of_clients_update rfl rfl fun _ => hset,
      .inr (by simp only [Function.update_same]; exact hset)⟩

theorem rclcExecutorAddActionServer_callbacks (p n g gs gc cc x : Nat) (a : Bool) (f : MwRet)
    (en : MwRet × NumEntities) :
    RecordsKeep s (rclcExecutorAddActionServer s p n g gs gc cc x a f en).2 ∧
    ((rclcExecutorAddActionServer s p n g gs gc cc x a f en).2.executor.registry =
        s.executor.registry ∨
      ((rclcExecutorAddActionServer s p n g gs gc cc x a f en).2.actionServers p).CallbacksSet) := by
  simp only [rclcExecutorAddActionServer]
  split
  · exact ⟨.refl s, .inl rfl⟩
  rename_i hnull
  have hset : gc ≠ 0 ∧ cc ≠ 0 := ⟨fun h => hnull (by simp [h]), fun h => hnull (by simp [h])⟩
  split
  · exact ⟨.refl s, .inl rfl⟩
  split
  · exact ⟨.of_servers_update rfl rfl id, .inl rfl⟩
  · split <;> exact ⟨.of_servers_update rfl rfl fun _ => hset,
      .inr (by simp only [Function.update_same]; exact hset)⟩

theorem Op.exec_registers_callbacksSet {op : Op} {x : Entry} (h : op.registers = some x) :
    (op.exec s).2.executor.registry = s.executor.registry ∨ (op.exec s).2.EntryCallbacksSet x := by
  cases op <;> simp only [Op.registers, reduceCtorEq, Option.some.injEq] at h <;> subst h
  case addActionClient => exact (rclcExecutorAddActionClient_callbacks s ..).2
  case addActionServer => exact (rclcExecutorAddActionServer_callbacks s ..).2
  all_goals
    simp only [Op.exec, onExecutor, rclcExecutorAddSubscription,
      rclcExecutorAddSubscriptionWithContext, rclcExecutorAddTimer, rclcExecutorAddClient,
      rclcExecutorAddClientWithRequestId, rclcExecutorAddService,
      rclcExecutorAddServiceWithContext, rclcExecutorAddServiceWithRequestId,
      rclcExecutorAddGuardCondition]
    split
    · exact .inl rfl
    · exact .inr (by simp_all [State.EntryCallbacksSet])

theorem rclcActionSendGoalRequest_callbacksSet {c : ActionClient} (goalId : Nat) (ret : MwRet)
    (seq : Nat) (h : c.CallbacksSet) : (rclcActionSendGoalRequest c goalId ret seq).2.CallbacksSet := by
  simp only [rclcActionSendGoalRequest]
  (repeat' split) <;> exact h

theorem rclcActionSendCancelRequest_callbacksSet {c : ActionClient} (slot : Nat) (ret : MwRet)
    (seq : Nat) (h : c.CallbacksSet) : (rclcActionSendCancelRequest c slot ret seq).2.CallbacksSet := by
  simp only [rclcActionSendCancelRequest]
  split <;> exact h

theorem rclcActionSendResult_callbacksSet {a : ActionServer} (slot : Nat) (status : GoalState)
    (h : a.CallbacksSet) : (rclcActionSendResult a slot status).2.CallbacksSet := by
  simp only [rclcActionSendResult]
  split <;> exact h

theorem Op.exec_recordsKeep (op : Op) : RecordsKeep s (op.exec s).2 := by
  cases op
  case addActionClient => exact (rclcExecutorAddActionClient_callbacks s ..).1
  case addActionServer => exact (rclcExecutorAddActionServer_callbacks s ..).1
  case spinSome mw => exact rclcExecutorSpinSome_recordsKeep mw s
  case sendGoalRequest p id r seq =>
    exact .setActionClient (rclcActionSendGoalRequest_callbacksSet id r seq)
  case sendCancelRequest p slot r seq =>
    exact .setActionClient (rclcActionSendCancelRequest_callbacksSet slot r seq)
  case sendResult p slot st => exact .setActionServer (rclcActionSendResult_callbacksSet slot st)
  all_goals exact .of_eq rfl rfl

end calls

theorem Op.exec_callbacksSet {s : State} (hr : Reachable s) (op : Op) (h : s.CallbacksSet) :
    (op.exec s).2.CallbacksSet := by
  intro x hx
  have hk := op.exec_recordsKeep s
  rcases Op.exec_registry_mem hr op hx with hold | hreg
  · exact hk.entry (h x hold)
  · rcases Op.exec_registers_callbacksSet s hreg with hsame | hset
    · exact hk.entry (h x (hsame ▸ hx))
    · exact hset

theorem Reachable.callbacksSet {s : State} (hr : Reachable s) : s.CallbacksSet := by
  induction hr with
  | init =>
      intro x hx
      simp only [initState, rclcExecutorInit] at hx
      split at hx <;> exact absurd hx (List.not_mem_nil x)
  | step op hr ih => exact Op.exec_callbacksSet hr op ih

/-! ### The trigger -/

theorem Op.exec_triggerFunction (op : Op) (s : State) :
    (op.exec s).2.executor.triggerFunction = s.executor.triggerFunction ∨
      ∃ o, op = .setTrigger (op.exec s).2.executor.triggerFunction o := by
  cases h : op.setsTrigger
  · exact .inl (congrArg Prod.fst (Op.exec_trigger h s))
  · cases op <;> simp only [Op.setsTrigger, reduceCtorEq] at h
    exact .inr ⟨_, rfl⟩

/-- After a run, the trigger function is `NULL` only if it was so before or the run passed
`NULL` to `rclc_executor_set_trigger`. -/
theorem runOps_triggerFunction_null :
    ∀ (ops : List Op) (s : State), (runOps ops s).executor.triggerFunction = .user 0 →
      s.executor.triggerFunction = .user 0 ∨ ∃ o, .setTrigger (.user 0) o ∈ ops
  | [], _, h => .inl h
  | op :: ops, s, h => by
      rcases runOps_triggerFunction_null ops _ h with h' | ⟨o, ho⟩
      · rcases op.exec_triggerFunction s with hs | ⟨o, hop⟩
        · exact .inl (hs ▸ h')
        · rw [h'] at hop
          exact .inr ⟨o, hop ▸ List.mem_cons_self _ _⟩
      · exact .inr ⟨o, List.mem_cons_of_mem _ ho⟩

/-- A round calls through a `NULL` function pointer only when the program installed `NULL`
as the trigger. From every reachable state, after every run of calls, whatever the middleware
answers, every callback a round of `rclc_executor_spin_some` calls is set: the callback of a
subscription, a service, a client or a guard condition and the `goal_callback`,
`result_callback` and `cancel_callback` an add was given and checked, the `feedback_callback`
and `cancel_callback` of an action client only when the round finds them set. The trigger
function the round calls is `NULL` only if it was so at the start or the run passed `NULL` to
`rclc_executor_set_trigger`, which stores it unchecked. -/
theorem round_never_calls_null {s : State} (hr : Reachable s) (ops : List Op) (mw : Middleware) :
    (∀ k ∈ (rclcExecutorSpinSome mw (runOps ops s)).calls, ∀ f args,
      Event.callback f args ∈ k.events → f ≠ 0) ∧
    ((rclcExecutorSpinSome mw (runOps ops s)).trigger = some (.user 0) →
      s.executor.triggerFunction = .user 0 ∨ ∃ o, .setTrigger (.user 0) o ∈ ops) := by
  have hr' := hr.runOps ops
  refine ⟨fun k hk f args he hf => ?_, fun ht => ?_⟩
  · have h := rclcExecutorSpinSome_noNullCall mw hr'.tableShape hr'.callbacksSet k hk _ he
    simp [Event.callsNull, hf] at h
  · exact runOps_triggerFunction_null ops s
      (rclcExecutorSpinSome_triggerCall mw _ _ ht).symm

theorem round_never_calls_null_always :
    Reachable subscriptionAndTimer ∧
    (rclcExecutorSpinSome messageRound (runOps [.setTrigger .always 0] subscriptionAndTimer)).trigger =
      some .always ∧
    (∀ k ∈ (rclcExecutorSpinSome messageRound
        (runOps [.setTrigger .always 0] subscriptionAndTimer)).calls, ∀ f args,
      Event.callback f args ∈ k.events → f ≠ 0) ∧
    ((rclcExecutorSpinSome messageRound
        (runOps [.setTrigger .always 0] subscriptionAndTimer)).trigger = some (.user 0) →
      subscriptionAndTimer.executor.triggerFunction = .user 0 ∨
        ∃ o, .setTrigger (.user 0) o ∈ [Op.setTrigger .always 0]) :=
  ⟨reachable_subscriptionAndTimer, by decide,
    round_never_calls_null reachable_subscriptionAndTimer _ messageRound⟩

example : ∃ k ∈ (rclcExecutorSpinSome messageRound
    (runOps [.setTrigger .always 0] subscriptionAndTimer)).calls, Event.callback 3 [2] ∈ k.events := by
  decide

example : (rclcExecutorSpinSome messageRound
    (runOps [.setTrigger (.user 0) 0] subscriptionAndTimer)).trigger = some (.user 0) := by
  decide

end RclcExecutor
