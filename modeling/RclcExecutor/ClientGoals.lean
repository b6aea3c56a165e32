import RclcExecutor.Rounds

/-!
How a round frees the goal handles of an action client.

An action client owns a pool of goal handles: `rclc_action_send_goal_request` takes one for
each goal the program sends, and the executor gives it back. Within a round only
`_rclc_execute` gives a goal handle back, and only in three places, each right after a call
that names the handle: `goal_callback` reports the goal rejected; or it reports the goal
accepted and `rclc_action_send_result_request` for it then fails, so that the program is told
of an accepted goal it never hears of again; or `result_callback` delivers the result. The
takes and the feedback and cancel sweeps only write flags of the goal handles. So no round frees
a goal of an action client without announcing it in one of these three ways
(`client_goal_freed_only_announced`).
-/

namespace RclcExecutor

def ActionClient.usedSlots (c : ActionClient) : List Nat := c.goals.used.map GoalHandle.slot

/-- The events `evs` announce the end of the goal in the slot `slot` of the action client `c`:
`goal_callback` reports the goal rejected; or it reports the goal accepted and
`rclc_action_send_result_request` for the slot fails; or `result_callback` delivers the
result. -/
def ClientGoalEnded (c : ActionClient) (slot : Nat) (evs : List Event) : Prop :=
  (∃ ctx, Event.callback c.goalCallback [slot, 0, ctx] ∈ evs) ∨
  (∃ ctx e, Event.callback c.goalCallback [slot, 1, ctx] ∈ evs ∧
    Event.sendResultRequest slot (.error e) ∈ evs) ∨
  ∃ args, Event.callback c.resultCallback (slot :: args) ∈ evs

section ended
variable {c c' : ActionClient} {slot : Nat} {evs evs' : List Event}

theorem ClientGoalEnded.mono (h : ClientGoalEnded c slot evs) (hsub : ∀ e ∈ evs, e ∈ evs') :
    ClientGoalEnded c slot evs' := by
  rcases h with ⟨ctx, h⟩ | ⟨ctx, e, h, h'⟩ | ⟨args, h⟩
  · exact .inl ⟨ctx, hsub _ h⟩
  · exact .inr (.inl ⟨ctx, e, hsub _ h, hsub _ h'⟩)
  · exact .inr (.inr ⟨args, hsub _ h⟩)

theorem ClientGoalEnded.of_callbacks (hg : c'.goalCallback = c.goalCallback)
    (hr : c'.resultCallback = c.resultCallback) (h : ClientGoalEnded c' slot evs) :
    ClientGoalEnded c slot evs := by
  unfold ClientGoalEnded at h ⊢
  rwa [hg, hr] at h

end ended

/-- A piece of a round takes the action client `c` to `c'` with the events `evs`: the
callbacks stay, and every goal handle it frees is announced in `evs`. -/
structure ClientStep (c c' : ActionClient) (evs : List Event) : Prop where
  goalCallback : c'.goalCallback = c.goalCallback
  resultCallback : c'.resultCallback = c.resultCallback
  ended : ∀ slot ∈ c.usedSlots, slot ∉ c'.usedSlots → ClientGoalEnded c slot evs

namespace ClientStep
variable {c c' c₁ c₂ : ActionClient} {evs evs₁ evs₂ : List Event}

theorem of_usedSlots (hg : c'.goalCallback = c.goalCallback)
    (hr : c'.resultCallback = c.resultCallback) (hu : c'.usedSlots = c.usedSlots) :
    ClientStep c c' evs :=
  ⟨hg, hr, fun _ h h' => absurd (hu ▸ h) h'⟩

theorem self (c : ActionClient) (evs : List Event) : ClientStep c c evs :=
  of_usedSlots rfl rfl rfl

theorem trans (h₁ : ClientStep c c₁ evs₁) (h₂ : ClientStep c₁ c₂ evs₂) :
    ClientStep c c₂ (evs₁ ++ evs₂) where
  goalCallback := h₂.goalCallback.trans h₁.goalCallback
  resultCallback := h₂.resultCallback.trans h₁.resultCallback
  ended slot h h' := by
    by_cases h₁' : slot ∈ c₁.usedSlots
    · exact ((h₂.ended slot h₁' h').of_callbacks h₁.goalCallback h₁.resultCallback).mono
        fun _ he => List.mem_append_right _ he
    · exact (h₁.ended slot h h₁').mono fun _ he => List.mem_append_left _ he

theorem ite {b : Bool} {x : ActionClient × List Event} (hx : ClientStep c x.1 x.2) :
    ClientStep c (if b = true then x else (c, [])).1 (if b = true then x else (c, [])).2 := by
  cases b
  · exact self c []
  · exact hx

end ClientStep

/-! ### The goal pool -/

theorem GoalPool.usedSlots_modify (p : GoalPool) (slot : Nat) {f : GoalHandle → GoalHandle}
    (hf : ∀ g, (f g).slot = g.slot) :
    (p.modify slot f).used.map GoalHandle.slot = p.used.map GoalHandle.slot := by
  simp only [GoalPool.modify_used, List.map_map]
  exact List.map_congr_left fun g _ => by
    simp only [Function.comp_apply]
    split <;> simp only [hf]

theorem mem_usedSlots_remove {p : GoalPool} {slot x : Nat} (hx : x ∈ p.used.map GoalHandle.slot)
    (hne : x ≠ slot) : x ∈ (rclcActionRemoveUsedGoalHandle p slot).used.map GoalHandle.slot := by
  unfold rclcActionRemoveUsedGoalHandle
  split
  · exact hx
  · obtain ⟨g, hg, rfl⟩ := List.mem_map.1 hx
    exact List.mem_map.2 ⟨g, List.mem_filter.2 ⟨hg, by simpa using hne⟩, rfl⟩

theorem ClientStep.of_remove {c c' : ActionClient} {evs : List Event} {slot : Nat}
    (hg : c'.goalCallback = c.goalCallback) (hr : c'.resultCallback = c.resultCallback)
    {p : GoalPool} (hp : p.used.map GoalHandle.slot = c.usedSlots)
    (hc' : c'.goals = rclcActionRemoveUsedGoalHandle p slot) (hend : ClientGoalEnded c slot evs) :
    ClientStep c c' evs := by
  refine ⟨hg, hr, fun x hx hx' => ?_⟩
  by_cases hxs : x = slot
  · exact hxs ▸ hend
  · exact absurd (by simp only [ActionClient.usedSlots, hc']; exact mem_usedSlots_remove (hp ▸ hx) hxs) hx'

/-! ### The sweeps of a round -/

section loops
variable {body : GoalHandle → ActionClient → ActionClient × List Event}
  (h : ∀ g c, ClientStep c (body g c).1 (body g c).2)
include h

theorem whileFound_clientStep (find : ActionClient → Option GoalHandle) :
    ∀ fuel c, ClientStep c (whileFound find body fuel c).1 (whileFound find body fuel c).2
  | 0, c => ClientStep.self c []
  | fuel + 1, c => by
      simp only [whileFound]
      split
      · exact ClientStep.self c []
      · next g _ => exact (h g c).trans (whileFound_clientStep find fuel _)

theorem forUsed_clientStep :
    ∀ gs c, ClientStep c (forUsed body gs c).1 (forUsed body gs c).2
  | [], c => ClientStep.self c []
  | g :: gs, c => (h g c).trans (forUsed_clientStep gs _)

end loops

theorem runParts_clientStep :
    ∀ (parts : List (ActionClient → MwRet × ActionClient × List Event)),
      (∀ part ∈ parts, ∀ c, ClientStep c (part c).2.1 (part c).2.2) →
      ∀ c, ClientStep c (runParts parts c).2.1 (runParts parts c).2.2
  | [], _, c => ClientStep.self c []
  | part :: parts, h, c => by
      have h1 := h part (List.mem_cons_self _ _) c
      simp only [runParts]
      split
      · exact h1
      · exact h1.trans (runParts_clientStep parts (fun q hq => h q (List.mem_cons_of_mem _ hq)) _)

section client
variable (mw : Middleware) (i : Nat) (context : Ptr)

theorem clientParts_clientStep : ∀ part ∈ [takeGoalResponsePart mw i, takeFeedbackPart mw i,
    takeCancelResponsePart mw i, takeResultResponsePart mw i],
    ∀ c : ActionClient, ClientStep c (part c).2.1 (part c).2.2 := by
  simp only [List.forall_mem_cons, List.not_mem_nil, false_implies, implies_true, and_true]
  refine ⟨fun c => ?_, fun c => ?_, fun c => ?_, fun c => ?_⟩ <;>
    simp only [takeGoalResponsePart, takeFeedbackPart, takeCancelResponsePart,
      takeResultResponsePart] <;> (repeat' split) <;> first
      | exact ClientStep.self _ _
      | exact .of_usedSlots rfl rfl rfl
      | exact .of_usedSlots rfl rfl (GoalPool.usedSlots_modify _ _ fun _ => by rfl)

theorem rclcActionSendResultRequest_usedSlots (g : GoalHandle) (c : ActionClient) :
    (rclcActionSendResultRequest mw i g c).2.usedSlots = c.usedSlots ∧
      (rclcActionSendResultRequest mw i g c).2.goalCallback = c.goalCallback ∧
      (rclcActionSendResultRequest mw i g c).2.resultCallback = c.resultCallback := by
  simp only [rclcActionSendResultRequest]
  split
  · exact ⟨GoalPool.usedSlots_modify _ _ fun _ => rfl, rfl, rfl⟩
  · exact ⟨rfl, rfl, rfl⟩

theorem goalResponseBody_clientStep (g : GoalHandle) (c : ActionClient) :
    ClientStep c (goalResponseBody mw i context g c).1 (goalResponseBody mw i context g c).2 := by
  have hmod := @GoalPool.usedSlots_modify c.goals g.slot
    (fun g => { g with availableGoalResponse := false }) fun _ => rfl
  simp only [goalResponseBody]
  split
  · next hrej =>
      have hrej : g.goalAccepted = false := by simpa using hrej
      exact .of_remove rfl rfl hmod rfl (.inl ⟨context, by simp [hrej]⟩)
  · next hacc =>
      obtain ⟨hu, hg, hr⟩ := rclcActionSendResultRequest_usedSlots mw i g
        { c with goals := c.goals.modify g.slot fun g => { g with availableGoalResponse := false } }
      split
      · exact .of_usedSlots hg hr ((GoalPool.usedSlots_modify _ _ fun _ => by rfl).trans (hu.trans hmod))
      · next e hsend =>
          simp only [Bool.not_eq_true', Bool.not_eq_false] at hacc
          refine .of_remove hg hr (hu.trans hmod) rfl (.inr (.inl ⟨context, e, ?_, ?_⟩))
          · simp [hacc]
          · simp [hsend]

theorem feedbackBody_clientStep (g : GoalHandle) (c : ActionClient) :
    ClientStep c (feedbackBody context g c).1 (feedbackBody context g c).2 := by
  simp only [feedbackBody]
  split
  · exact .of_usedSlots rfl rfl (GoalPool.usedSlots_modify _ _ fun _ => by rfl)
  · exact ClientStep.self _ _

theorem cancelResponseBody_clientStep (g : GoalHandle) (c : ActionClient) :
    ClientStep c (cancelResponseBody context g c).1 (cancelResponseBody context g c).2 := by
  simp only [cancelResponseBody]
  split
  · exact .of_usedSlots rfl rfl (GoalPool.usedSlots_modify _ _ fun _ => by rfl)
  · exact ClientStep.self _ _

theorem resultResponseBody_clientStep (g : GoalHandle) (c : ActionClient) :
    ClientStep c (resultResponseBody context g c).1 (resultResponseBody context g c).2 :=
  .of_remove rfl rfl (GoalPool.usedSlots_modify _ _ fun _ => by rfl) rfl
    (.inr (.inr ⟨_, List.mem_singleton_self _⟩))

theorem executeActionClient_clientStep (c : ActionClient) :
    ClientStep c (executeActionClient mw i context c).1 (executeActionClient mw i context c).2 := by
  unfold executeActionClient
  lift_lets
  extract_lets r1 r2 r3 r4
  have s1 : ClientStep c r1.1 r1.2 :=
    .ite (whileFound_clientStep (goalResponseBody_clientStep mw i context) _ _ _)
  have s2 : ClientStep r1.1 r2.1 r2.2 :=
    .ite (forUsed_clientStep (feedbackBody_clientStep context) _ _)
  have s3 : ClientStep r2.1 r3.1 r3.2 :=
    .ite (forUsed_clientStep (cancelResponseBody_clientStep context) _ _)
  have s4 : ClientStep r3.1 r4.1 r4.2 :=
    .ite (whileFound_clientStep (resultResponseBody_clientStep context) _ _ _)
  exact ((s1.trans s2).trans s3).trans s4

end client

/-! ### Rounds -/

theorem passFn_clientStep (mw : Middleware) (q : Pass) (i : Nat) (t : State) (p : Ptr) :
    ClientStep (t.actionClients p) ((passFn mw q i t).2.1.actionClients p) (passFn mw q i t).2.2 := by
  by_cases hp : (t.executor.handles i).type = .actionClient ∧ (t.executor.handles i).endpoint = p
  · obtain ⟨hty, rfl⟩ := hp
    cases q
    · simp only [passFn, rclcCheckForNewData, hty, State.setActionClient, Function.update_same]
      exact .of_usedSlots rfl rfl rfl
    · simp only [passFn, rclcTakeNewData, hty, State.setActionClient, Function.update_same]
      exact runParts_clientStep _ (clientParts_clientStep mw i) _
    · simp only [passFn, rclcExecute, hty]
      split
      · exact ClientStep.self _ _
      · simp only [State.setActionClient, Function.update_same]
        exact executeActionClient_clientStep mw i _ _
  · rw [passFn_actionClients mw q i t hp]
    exact ClientStep.self _ _

theorem runCalls_clientStep (mw : Middleware) (stop : Pass → RclRet → Bool) (p : Ptr) :
    ∀ (cs : List (Pass × Nat)) (rc : RclRet) (t : State),
      ClientStep (t.actionClients p) ((runCalls mw stop cs rc t).state.actionClients p)
        ((runCalls mw stop cs rc t).log.flatMap Call.events)
  | [], _, t => ClientStep.self _ _
  | (q, i) :: cs, _, t => by
      have h1 := passFn_clientStep mw q i t p
      simp only [runCalls]
      split
      · simpa using h1
      · simpa using h1.trans (runCalls_clientStep mw stop p cs _ _)

theorem scheduleRound_clientStep (mw : Middleware) (m : Semantics) (t : State) (p : Ptr) :
    ClientStep (t.actionClients p) ((scheduleRound mw m t).state.actionClients p)
      ((scheduleRound mw m t).log.flatMap Call.events) := by
  have h1 := runCalls_clientStep mw m.stops p (readinessOrder t.executor.index) rclRetOk t
  unfold scheduleRound
  dsimp only
  split
  · exact h1
  split
  · simpa using h1.trans (runCalls_clientStep mw m.stops p _ _ _)
  · exact h1

theorem rclcExecutorSpinSome_clientStep (mw : Middleware) {s : State} (hs : TableShape s.executor)
    (p : Ptr) :
    ClientStep (s.actionClients p) ((rclcExecutorSpinSome mw s).state.actionClients p)
      ((rclcExecutorSpinSome mw s).calls.flatMap Call.events) := by
  rcases @rclcExecutorSpinSome_calls_of mw (fun t => t.actionClients = s.actionClients)
      (fun i t ht _ _ => (waitSetAddStep_actionRecords mw i t).1.trans ht) (fun _ _ ht => ht) s hs rfl
    with ⟨hnil, hstate⟩ | ⟨t, ht, -, hcalls, hstate⟩
  · rw [hnil, hstate]
    exact ClientStep.self _ _
  · rw [hcalls, hstate, ← ht]
    exact scheduleRound_clientStep mw _ t p

/-- No round frees a goal of an action client unannounced. In every reachable state, whatever
the middleware answers, a goal handle of an action client that is in use before a round of
`rclc_executor_spin_some` and free after it was announced by a call of the round: by
`goal_callback` reporting the goal rejected, by `goal_callback` reporting it accepted followed
by a failed `rclc_action_send_result_request` for it, or by `result_callback`. -/
theorem client_goal_freed_only_announced {s : State} (hr : Reachable s) (mw : Middleware)
    (p : Ptr) {slot : Nat} (hbefore : slot ∈ (s.actionClients p).usedSlots)
    (hafter : slot ∉ ((rclcExecutorSpinSome mw s).state.actionClients p).usedSlots) :
    ClientGoalEnded (s.actionClients p) slot ((rclcExecutorSpinSome mw s).calls.flatMap Call.events) :=
  (rclcExecutorSpinSome_clientStep mw hr.tableShape p).ended slot hbefore hafter

/-- An action client at address `6` with two goal handles, and the goal `41` sent with the
sequence number `1`. -/
def goalSentState : State :=
  runOps [.addActionClient 6 2 100 0 11 0 12 13 0 true .ok (.ok, ⟨0, 0, 0, 0, 0⟩),
    .sendGoalRequest 6 41 .ok 1] (initBlank 1)

/-- A round in which the response to the goal request `1` accepts the goal and the result
request for it cannot be sent. -/
def acceptedUnsentRound : Middleware :=
  { Middleware.idle with
    actionClientEntitiesReady := fun _ => (.ok, ⟨false, false, true, false, false⟩)
    takeGoalResponse := fun _ => (.ok, 1, true)
    sendResultRequest := fun _ _ => (.error .error, 0) }

theorem client_goal_freed_only_announced_unsent :
    Reachable goalSentState ∧ 0 ∈ (goalSentState.actionClients 6).usedSlots ∧
    0 ∉ ((rclcExecutorSpinSome acceptedUnsentRound goalSentState).state.actionClients 6).usedSlots ∧
    ClientGoalEnded (goalSentState.actionClients 6) 0
      ((rclcExecutorSpinSome acceptedUnsentRound goalSentState).calls.flatMap Call.events) :=
  have h : Reachable goalSentState := (reachable_initBlank Nat.one_ne_zero).runOps _
  ⟨h, by decide, by decide,
    client_goal_freed_only_announced h acceptedUnsentRound 6 (by decide) (by decide)⟩

/-- The program is told that the goal was accepted, and its handle is free again. -/
example : ((rclcExecutorSpinSome acceptedUnsentRound goalSentState).calls.flatMap
    Call.events).filter Event.isCallback = [.callback 11 [0, 1, 0]] := by
  decide

end RclcExecutor
