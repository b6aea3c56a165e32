import RclcExecutor.Locality

/-!
`_rclc_let_scheduling` against `_rclc_default_scheduling`.

Both schedulers run the same readiness loop, call the same trigger on the table it leaves,
and then make a take and an execute call at every registered position: `RCLCPP_EXECUTOR`
the take and the execute of one handle together, `LET` all takes before all executes. By
`runCalls_local`, a call at one position does the same whatever ran at the other positions
before it, provided no two handles point to one action record. So when no call ends the
round early, each round makes exactly the calls every position makes on its own
(`localCall`), in its own order, and everything that is read off the execute calls alone is
the same in both.

What ends a round early differs between the two: the take loop of `_rclc_default_scheduling`
lets `RCL_RET_SERVICE_TAKE_FAILED` pass and that of `_rclc_let_scheduling` does not. A take
of a service that finds no request therefore ends a `LET` round before any callback, while
the default round goes on (`let_default_differ_on_service_take_failed`); the two rounds agree
when every take but a subscription's succeeds (`let_default_same_round`).
-/

namespace RclcExecutor

/-! ### The readiness loop is shared -/

theorem runCalls_congr_stop (mw : Middleware) {stop stop' : Pass → RclRet → Bool}
    (cs : List (Pass × Nat)) (h : ∀ c ∈ cs, stop c.1 = stop' c.1) :
    ∀ rc s, runCalls mw stop cs rc s = runCalls mw stop' cs rc s := by
  induction cs with
  | nil => intro rc s; rfl
  | cons c cs ih =>
      intro rc s
      obtain ⟨p, i⟩ := c
      simp only [runCalls, h (p, i) (List.mem_cons_self _ _),
        ih fun c hc => h c (List.mem_cons_of_mem _ hc)]

theorem Semantics.stops_checkForNewData (m : Semantics) :
    m.stops .checkForNewData = stopUnlessSubscriptionTakeFailed := by
  cases m <;> rfl

theorem readiness_congr (mw : Middleware) (m m' : Semantics) (n : Nat) (s : State) :
    runCalls mw m.stops (readinessOrder n) rclRetOk s =
      runCalls mw m'.stops (readinessOrder n) rclRetOk s :=
  runCalls_congr_stop mw _ (fun c hc => by
    rw [(mem_readinessOrder.1 hc).1, Semantics.stops_checkForNewData,
      Semantics.stops_checkForNewData]) _ _

/-! ### Rounds that no call ends early -/

/-- The middleware answers the take and execute calls of a round with success: every take,
timer call and response send succeeds, except that `rcl_take` may report
`RCL_RET_SUBSCRIPTION_TAKE_FAILED` and `rcl_timer_call` `RCL_RET_TIMER_CANCELED`. -/
structure WellBehaved (mw : Middleware) : Prop where
  take : ∀ i e, mw.take i ≠ .error e
  takeRequest : ∀ i, ∃ p, mw.takeRequest i = .ok p
  takeResponse : ∀ i, ∃ p, mw.takeResponse i = .ok p
  timerCall : ∀ i e, mw.timerCall i ≠ .error e
  sendResponse : ∀ i, mw.sendResponse i = .ok
  takeGoalResponse : ∀ i, (mw.takeGoalResponse i).1 = .ok
  takeFeedback : ∀ i, (mw.takeFeedback i).1 = .ok
  takeCancelResponse : ∀ i, (mw.takeCancelResponse i).1 = .ok
  takeResultResponse : ∀ i, (mw.takeResultResponse i).1 = .ok
  takeGoalRequest : ∀ i, (mw.takeGoalRequest i).1 = .ok
  takeResultRequest : ∀ i, (mw.takeResultRequest i).1 = .ok
  takeCancelRequest : ∀ i, (mw.takeCancelRequest i).1 = .ok

theorem runParts_ok {σ : Type} {parts : List (σ → MwRet × σ × List Event)}
    (h : ∀ part ∈ parts, ∀ a, (part a).1 = .ok) (a : σ) : (runParts parts a).1 = rclRetOk := by
  induction parts generalizing a with
  | nil => rfl
  | cons part parts ih =>
      simp only [runParts, h part (List.mem_cons_self _ _) a]
      exact ih (fun p hp => h p (List.mem_cons_of_mem _ hp)) _

section wellBehaved
variable {mw : Middleware}

theorem WellBehaved.clientParts_ok (hmw : WellBehaved mw) (i : Nat) :
    ∀ part ∈ [takeGoalResponsePart mw i, takeFeedbackPart mw i, takeCancelResponsePart mw i,
      takeResultResponsePart mw i], ∀ c, (part c).1 = .ok := by
  simp only [List.mem_cons, List.mem_singleton, List.not_mem_nil, or_false]
  rintro part (rfl | rfl | rfl | rfl) c <;>
    simp only [takeGoalResponsePart, takeFeedbackPart, takeCancelResponsePart,
      takeResultResponsePart, hmw.takeGoalResponse, hmw.takeFeedback, hmw.takeCancelResponse,
      hmw.takeResultResponse] <;> split <;> rfl

theorem WellBehaved.serverParts_ok (hmw : WellBehaved mw) (i : Nat) :
    ∀ part ∈ [takeGoalRequestPart mw i, takeResultRequestPart mw i, takeCancelRequestPart mw i],
      ∀ a, (part a).1 = .ok := by
  simp only [List.mem_cons, List.mem_singleton, List.not_mem_nil, or_false]
  rintro part (rfl | rfl | rfl) a <;>
    simp only [takeGoalRequestPart, takeResultRequestPart, takeCancelRequestPart,
      hmw.takeGoalRequest, hmw.takeResultRequest, hmw.takeCancelRequest] <;>
    (repeat' split) <;> rfl

theorem WellBehaved.takeNewData_ret (hmw : WellBehaved mw) (i : Nat) (s : State)
    (hne : (s.executor.handles i).type ≠ .none) :
    (rclcTakeNewData mw i s).1 = rclRetOk ∨
      (rclcTakeNewData mw i s).1 = rclRetSubscriptionTakeFailed := by
  simp only [rclcTakeNewData]
  cases hty : (s.executor.handles i).type <;> simp only [hty]
  case subscription | subscriptionWithContext =>
    have htake := hmw.take i
    split
    · rcases ht : mw.take i with _ | _ | e
      · exact Or.inl rfl
      · exact Or.inr rfl
      · exact absurd ht (htake e)
    · exact Or.inl rfl
  case service | serviceWithRequestId | serviceWithContext =>
    obtain ⟨⟨reqId, msg⟩, hp⟩ := hmw.takeRequest i
    simp only [hp]
    split <;> exact Or.inl rfl
  case client | clientWithRequestId =>
    obtain ⟨⟨reqId, msg⟩, hp⟩ := hmw.takeResponse i
    simp only [hp]
    split <;> exact Or.inl rfl
  case actionClient => exact Or.inl (runParts_ok (hmw.clientParts_ok i) _)
  case actionServer => exact Or.inl (runParts_ok (hmw.serverParts_ok i) _)
  case timer | guardCondition => simp
  case none => exact absurd hty hne

theorem WellBehaved.execute_ret (hmw : WellBehaved mw) (i : Nat) (s : State)
    (hne : (s.executor.handles i).type ≠ .none) : (rclcExecute mw i s).1 = rclRetOk := by
  simp only [rclcExecute]
  split
  · rfl
  cases hty : (s.executor.handles i).type <;>
    simp only [hty, RclcExecutor.sendResponse, hmw.sendResponse, MwRet.code] <;> try rfl
  case timer =>
    have htimer := hmw.timerCall i
    rcases ht : mw.timerCall i with _ | _ | e
    · rfl
    · rfl
    · exact absurd ht (htimer e)
  case none => exact absurd hty hne

theorem WellBehaved.stops_eq_false (hmw : WellBehaved mw) (m : Semantics) {p : Pass}
    (hp : p ≠ .checkForNewData) (i : Nat) (s : State)
    (hne : (s.executor.handles i).type ≠ .none) : m.stops p (passFn mw p i s).1 = false := by
  cases p
  · exact absurd rfl hp
  · rcases hmw.takeNewData_ret i s hne with h | h <;> simp [passFn, h]
  · simp [passFn, hmw.execute_ret i s hne]

end wellBehaved

theorem runCalls_exit_false (mw : Middleware) (stop : Pass → RclRet → Bool)
    (cs : List (Pass × Nat)) : ∀ rc s,
    (∀ c ∈ cs, ∀ t : State, (t.executor.handles c.2).type = (s.executor.handles c.2).type →
      stop c.1 (passFn mw c.1 c.2 t).1 = false) →
    (runCalls mw stop cs rc s).exit = false := by
  induction cs with
  | nil => intro _ _ _; rfl
  | cons c cs ih =>
      intro rc s h
      obtain ⟨p, i⟩ := c
      simp only [runCalls, h (p, i) (List.mem_cons_self _ _) s rfl, Bool.false_eq_true, if_false]
      exact ih _ _ fun c hc t ht =>
        h c (List.mem_cons_of_mem _ hc) t (ht.trans (passFn_type mw p i s c.2))

/-! ### A complete round is the calls of its positions -/

/-- The take or execute call a round makes at a position on its own, from the state `s` the
readiness loop left: the take on `s`, the execute on what that take left. -/
def localCall (mw : Middleware) (s : State) : Pass × Nat → Call
  | (.execute, i) =>
      let t := (passFn mw .takeNewData i s).2.1
      ⟨.execute, i, (passFn mw .execute i t).1, (passFn mw .execute i t).2.2⟩
  | (p, i) => ⟨p, i, (passFn mw p i s).1, (passFn mw p i s).2.2⟩

@[simp] theorem localCall_key (mw : Middleware) (s : State) (k : Pass × Nat) :
    (localCall mw s k).key = k := by
  obtain ⟨p, i⟩ := k
  cases p <;> rfl

theorem eq_localCall_key {mw : Middleware} {s : State} {c : Call} {k : Pass × Nat}
    (h : c = localCall mw s k) : c = localCall mw s c.key := by
  subst h; rw [localCall_key]

theorem runCalls_takeExecute {mw : Middleware} {stop : Pass → RclRet → Bool} {i : Nat}
    {rc : RclRet} {s : State}
    (hx : (runCalls mw stop [(.takeNewData, i), (.execute, i)] rc s).exit = false) :
    (runCalls mw stop [(.takeNewData, i), (.execute, i)] rc s).log =
      [localCall mw s (.takeNewData, i), localCall mw s (.execute, i)] := by
  by_cases h1 : stop .takeNewData (passFn mw .takeNewData i s).1 = true
  · simp [runCalls, h1] at hx
  by_cases h2 : stop .execute (passFn mw .execute i (passFn mw .takeNewData i s).2.1).1 = true
  · simp [runCalls, h1, h2] at hx
  simp [runCalls, h1, h2, localCall]

theorem runCalls_order_eq_map (mw : Middleware) (stop : Pass → RclRet → Bool) (m : Semantics)
    {n : Nat} {rc : RclRet} {s : State}
    (hap : ∀ i < n, ∀ j < n, j ≠ i → RecordApart (s.executor.handles i) (s.executor.handles j))
    (hx : (runCalls mw stop (m.order n) rc s).exit = false) :
    (runCalls mw stop (m.order n) rc s).log = (m.order n).map (localCall mw s) := by
  have hT := runCalls_truncates mw stop (m.order n) rc s
  have hlocal : ∀ c ∈ (runCalls mw stop (m.order n) rc s).log, c = localCall mw s c.key := by
    intro c hc
    have hi : c.pos < n :=
      (mem_order.1 (hT.keys.subset (List.mem_map_of_mem Call.key hc))).2
    obtain ⟨-, hall⟩ := runCalls_local mw stop (m.order n) rc rc s s
      (fun d hd hne => hap c.pos hi d.2 (mem_order.1 hd).2 hne) (AgreeAt.refl c.pos s)
    obtain ⟨heq, hlx, -⟩ := hall hx
    rw [order_filter, if_pos hi] at heq hlx
    have hcf : c ∈ (runCalls mw stop (m.order n) rc s).log.filter (fun d => d.pos == c.pos) :=
      List.mem_filter.2 ⟨hc, by simp⟩
    rw [heq, runCalls_takeExecute hlx] at hcf
    simp only [List.mem_cons, List.mem_singleton, List.not_mem_nil, or_false] at hcf
    rcases hcf with h | h <;> exact eq_localCall_key h
  calc (runCalls mw stop (m.order n) rc s).log
      = ((runCalls mw stop (m.order n) rc s).log.map Call.key).map (localCall mw s) := by
        rw [List.map_map]
        exact (List.map_congr_left (fun c hc => (hlocal c hc).symm)).trans (List.map_id _) |>.symm
    _ = (m.order n).map (localCall mw s) := by rw [hT.complete hx]

/-- The take and execute part of a round of either semantics, on registered handles that
have a kind and share no action record, under a round of successful calls: no call ends it,
and it makes the calls of every position on its own, in its order. -/
theorem order_run_eq_map (m : Semantics) {mw : Middleware} (hmw : WellBehaved mw) {n : Nat}
    (rc : RclRet) {u : State} (hne : ∀ i < n, (u.executor.handles i).type ≠ .none)
    (hap : ∀ i < n, ∀ j < n, j ≠ i → RecordApart (u.executor.handles i) (u.executor.handles j)) :
    (runCalls mw m.stops (m.order n) rc u).exit = false ∧
    (runCalls mw m.stops (m.order n) rc u).log = (m.order n).map (localCall mw u) := by
  have hx := runCalls_exit_false mw m.stops (m.order n) rc u fun c hc t ht => by
    obtain ⟨hp, hi⟩ := mem_order.1 hc
    exact hmw.stops_eq_false m (by rcases hp with h | h <;> rw [h] <;> nofun) c.2 t
      (ht ▸ hne c.2 hi)
  exact ⟨hx, runCalls_order_eq_map mw m.stops m hap hx⟩

/-! ### What the two rounds return -/

theorem runCalls_rc (mw : Middleware) (stop : Pass → RclRet → Bool) (cs : List (Pass × Nat)) :
    ∀ rc s, (runCalls mw stop cs rc s).rc =
      ((runCalls mw stop cs rc s).log.getLast?.map Call.ret).getD rc := by
  induction cs with
  | nil => intro rc s; rfl
  | cons c cs ih =>
      intro rc s
      obtain ⟨p, i⟩ := c
      simp only [runCalls]
      split
      · rfl
      · rw [ih]
        rcases (runCalls mw stop cs (passFn mw p i s).1 (passFn mw p i s).2.1).log with _ | ⟨d, l⟩
        · rfl
        · simp [List.getLast?_cons]

theorem Semantics.order_getLast? (m : Semantics) (n : Nat) :
    (m.order n).getLast? = (List.range n).getLast?.map fun i => (.execute, i) := by
  cases n with
  | zero => cases m <;> rfl
  | succ n => cases m <;> simp [Semantics.order, List.range_succ, List.getLast?_cons]

/-! ### The callbacks of a round -/

/-- The user callbacks the calls `log` run, in order, with their arguments. -/
def callbacks (log : List Call) : List Event :=
  log.flatMap fun c => c.events.filter Event.isCallback

theorem callbacks_append (A B : List Call) : callbacks (A ++ B) = callbacks A ++ callbacks B :=
  List.flatMap_append _ _ _

theorem runParts_filter {σ : Type} {parts : List (σ → MwRet × σ × List Event)}
    {p : Event → Bool} (h : ∀ part ∈ parts, ∀ a, (part a).2.2.filter p = []) (a : σ) :
    (runParts parts a).2.2.filter p = [] := by
  induction parts generalizing a with
  | nil => rfl
  | cons part parts ih =>
      have h0 := h part (List.mem_cons_self _ _) a
      simp only [runParts]
      split
      · exact h0
      · rw [List.filter_append, h0, ih (fun q hq => h q (List.mem_cons_of_mem _ hq))]; rfl

theorem rclcTakeNewData_callbacks (mw : Middleware) (i : Nat) (s : State) :
    (rclcTakeNewData mw i s).2.2.filter Event.isCallback = [] := by
  simp only [rclcTakeNewData]
  cases hty : (s.executor.handles i).type <;> simp only [hty]
  case actionClient =>
    refine runParts_filter ?_ _
    simp only [List.mem_cons, List.mem_singleton, List.not_mem_nil, or_false]
    rintro part (rfl | rfl | rfl | rfl) c <;>
      simp only [takeGoalResponsePart, takeFeedbackPart, takeCancelResponsePart,
        takeResultResponsePart] <;> (repeat' split) <;> rfl
  case actionServer =>
    refine runParts_filter ?_ _
    simp only [List.mem_cons, List.mem_singleton, List.not_mem_nil, or_false]
    rintro part (rfl | rfl | rfl) a <;>
      simp only [takeGoalRequestPart, takeResultRequestPart, takeCancelRequestPart] <;>
      (repeat' split) <;> rfl
  all_goals (repeat' split) <;> rfl

theorem order_flatMap {β : Type} (m : Semantics) (n : Nat) {g : Pass × Nat → List β}
    (hg : ∀ i, g (.takeNewData, i) = []) :
    (m.order n).flatMap g = (List.range n).flatMap fun i => g (.execute, i) := by
  cases m
  · induction n with
    | zero => rfl
    | succ n ih =>
        simp only [Semantics.order] at ih ⊢
        simp [List.range_succ, List.flatMap_append, ih, hg]
  · simp [Semantics.order, List.flatMap_append, List.flatMap_map, hg]

theorem callbacks_order (m : Semantics) (mw : Middleware) (u : State) (n : Nat) :
    callbacks ((m.order n).map (localCall mw u)) =
      (List.range n).flatMap fun i =>
        (localCall mw u (.execute, i)).events.filter Event.isCallback := by
  unfold callbacks
  rw [List.flatMap_map]
  exact order_flatMap m n fun i => rclcTakeNewData_callbacks mw i u

/-! ### What the callbacks find in their buffers

A callback of a subscription, a service or a client gets the handle's `data` buffer, into
which the take of the round copied the message. The message a callback sees is the one the
last take into that buffer stored before the callback ran.
-/

/-- The kinds whose take stores a message into the handle's `data`: `rcl_take`,
`rcl_take_request` and `rcl_take_response` copy what they take there. -/
def HandleType.hasBuffer : HandleType → Bool
  | .subscription | .subscriptionWithContext | .service | .serviceWithRequestId
  | .serviceWithContext | .client | .clientWithRequestId => true
  | _ => false

/-- The message a take call stored, if it took one. -/
def Call.stored (c : Call) : Option Nat :=
  match c.pass, c.events with
  | .takeNewData, [.take (.ok msg)] => some msg
  | .takeNewData, [.takeRequest (.ok (_, msg))] => some msg
  | .takeNewData, [.takeResponse (.ok (_, msg))] => some msg
  | _, _ => none

/-- What the call `c` stored into the buffer `buf`, on the handle table `hs`. -/
def Call.storedInto (hs : Nat → Handle) (buf : Ptr) (c : Call) : Option Nat :=
  if (hs c.pos).type.hasBuffer ∧ (hs c.pos).data = buf then c.stored else none

/-- The message the buffer `buf` holds after the calls `log`: what the last take into it
stored, `none` if none did. -/
def bufferAfter (hs : Nat → Handle) (buf : Ptr) (log : List Call) : Option Nat :=
  (log.filterMap (Call.storedInto hs buf)).getLast?

/-- The message the buffer of the handle at position `i` holds after the calls `log`, `none`
for a kind without a buffer. -/
def bufferView (hs : Nat → Handle) (log : List Call) (i : Nat) : Option Nat :=
  if (hs i).type.hasBuffer then bufferAfter hs (hs i).data log else none

/-- The execute calls of `log`, which runs after the calls `pre`, each with the message its
handle's buffer held when it ran. -/
def executeViews (hs : Nat → Handle) (pre : List Call) : List Call → List (Call × Option Nat)
  | [] => []
  | c :: cs =>
      if c.pass = .execute then (c, bufferView hs pre c.pos) :: executeViews hs (pre ++ [c]) cs
      else executeViews hs (pre ++ [c]) cs

section buffers
variable (hs : Nat → Handle)

theorem Call.stored_of_pass {c : Call} (h : c.pass ≠ .takeNewData) : c.stored = none := by
  obtain ⟨p, i, r, ev⟩ := c
  cases p
  · rfl
  · exact absurd rfl h
  · rfl

theorem Call.storedInto_of_pass (buf : Ptr) {c : Call} (h : c.pass ≠ .takeNewData) :
    c.storedInto hs buf = none := by
  simp [Call.storedInto, Call.stored_of_pass h]

theorem Call.storedInto_of_ne {N i : Nat}
    (hsep : ∀ i < N, ∀ j < N, j ≠ i → (hs i).type.hasBuffer → (hs j).type.hasBuffer →
      (hs j).data ≠ (hs i).data)
    (hi : i < N) (hb : (hs i).type.hasBuffer) {c : Call} (hc : c.pos < N) (hne : c.pos ≠ i) :
    c.storedInto hs (hs i).data = none := by
  unfold Call.storedInto
  rw [if_neg fun h => hsep i hi c.pos hc hne hb h.1 h.2]

theorem bufferAfter_append_left {buf : Ptr} {A B : List Call}
    (h : ∀ c ∈ A, c.storedInto hs buf = none) :
    bufferAfter hs buf (A ++ B) = bufferAfter hs buf B := by
  simp [bufferAfter, List.filterMap_append, List.filterMap_eq_nil_iff.2 h]

theorem bufferAfter_append_right {buf : Ptr} {A B : List Call}
    (h : ∀ c ∈ B, c.storedInto hs buf = none) :
    bufferAfter hs buf (A ++ B) = bufferAfter hs buf A := by
  simp [bufferAfter, List.filterMap_append, List.filterMap_eq_nil_iff.2 h]

theorem bufferAfter_filter {buf : Ptr} (i : Nat) {l : List Call}
    (h : ∀ c ∈ l, c.pos ≠ i → c.storedInto hs buf = none) :
    bufferAfter hs buf l = bufferAfter hs buf (l.filter fun c => c.pos == i) := by
  unfold bufferAfter
  congr 1
  induction l with
  | nil => rfl
  | cons c l ih =>
      have ih' := ih fun d hd => h d (List.mem_cons_of_mem _ hd)
      by_cases hc : c.pos = i
      · rw [List.filter_cons_of_pos (by simpa using hc), List.filterMap_cons, List.filterMap_cons,
          ih']
      · rw [List.filter_cons_of_neg (by simpa using hc),
          List.filterMap_cons_none (h c (List.mem_cons_self _ _) hc), ih']

theorem bufferView_append_left {A B : List Call} (h : ∀ c ∈ A, c.pass ≠ .takeNewData) (i : Nat) :
    bufferView hs (A ++ B) i = bufferView hs B i := by
  unfold bufferView
  rw [bufferAfter_append_left hs fun c hc => Call.storedInto_of_pass hs _ (h c hc)]

theorem bufferView_append_right {A B : List Call} (h : ∀ c ∈ B, c.pass ≠ .takeNewData)
    (i : Nat) : bufferView hs (A ++ B) i = bufferView hs A i := by
  unfold bufferView
  rw [bufferAfter_append_right hs fun c hc => Call.storedInto_of_pass hs _ (h c hc)]

theorem executeViews_append (l₁ l₂ : List Call) : ∀ pre,
    executeViews hs pre (l₁ ++ l₂) = executeViews hs pre l₁ ++ executeViews hs (pre ++ l₁) l₂ := by
  induction l₁ with
  | nil => intro pre; simp [executeViews]
  | cons c l ih =>
      intro pre
      rw [List.cons_append, executeViews.eq_2, executeViews.eq_2, ih, List.append_assoc,
        List.singleton_append]
      split <;> rfl

theorem executeViews_of_take {l : List Call} (hl : ∀ c ∈ l, c.pass = .takeNewData) :
    ∀ pre, executeViews hs pre l = [] := by
  induction l with
  | nil => intro pre; rfl
  | cons c l ih =>
      intro pre
      simp [executeViews, hl c (List.mem_cons_self _ _),
        ih fun d hd => hl d (List.mem_cons_of_mem _ hd)]

theorem executeViews_of_execute {l : List Call} (hl : ∀ c ∈ l, c.pass = .execute) :
    ∀ pre, executeViews hs pre l = l.map fun c => (c, bufferView hs pre c.pos) := by
  induction l with
  | nil => intro pre; rfl
  | cons c l ih =>
      intro pre
      have hc := hl c (List.mem_cons_self _ _)
      simp only [executeViews, hc, if_true, List.map_cons,
        ih (fun d hd => hl d (List.mem_cons_of_mem _ hd)) (pre ++ [c])]
      congr 1
      refine List.map_congr_left fun d _ => ?_
      rw [bufferView_append_right hs (by simp [hc])]

end buffers

theorem pass_of_key {F : Pass × Nat → Call} (hF : ∀ k, (F k).key = k) (k : Pass × Nat) :
    (F k).pass = k.1 :=
  congrArg Prod.fst (hF k)

theorem pos_of_key {F : Pass × Nat → Call} (hF : ∀ k, (F k).key = k) (k : Pass × Nat) :
    (F k).pos = k.2 :=
  congrArg Prod.snd (hF k)

theorem Semantics.order_rclcppExecutor_succ (n : Nat) :
    Semantics.rclcppExecutor.order (n + 1) =
      Semantics.rclcppExecutor.order n ++ [(.takeNewData, n), (.execute, n)] := by
  simp [Semantics.order, List.range_succ]

section views
variable (hs : Nat → Handle) {F : Pass × Nat → Call} (hF : ∀ k, (F k).key = k) {N : Nat}
  (hsep : ∀ i < N, ∀ j < N, j ≠ i → (hs i).type.hasBuffer → (hs j).type.hasBuffer →
    (hs j).data ≠ (hs i).data)
  {pre : List Call} (hpre : ∀ c ∈ pre, c.pass ≠ .takeNewData)
include hF hsep hpre

theorem executeViews_rclcppExecutor (n : Nat) (hn : n ≤ N) :
    executeViews hs pre ((Semantics.rclcppExecutor.order n).map F) =
      (List.range n).map fun i => (F (.execute, i), bufferView hs [F (.takeNewData, i)] i) := by
  induction n with
  | zero => rfl
  | succ n ih =>
      rw [Semantics.order_rclcppExecutor_succ, List.map_append, executeViews_append,
        ih (by omega), List.range_succ, List.map_append]
      congr 1
      simp only [List.map_cons, List.map_nil, executeViews, pass_of_key hF, pos_of_key hF,
        if_true, if_false, reduceCtorEq, List.append_assoc, List.singleton_append]
      congr 2
      unfold bufferView
      split
      · next hb =>
        rw [← List.singleton_append, ← List.append_assoc, bufferAfter_append_left hs fun c hc => ?_]
        rcases List.mem_append.1 hc with hc | hc
        · exact Call.storedInto_of_pass hs _ (hpre c hc)
        · obtain ⟨k, hk, rfl⟩ := List.mem_map.1 hc
          have hlt := (mem_order.1 hk).2
          exact Call.storedInto_of_ne hs hsep (by omega) hb (by rw [pos_of_key hF]; omega)
            (by rw [pos_of_key hF]; omega)
      · rfl

theorem executeViews_logicalExecutionTime (n : Nat) (hn : n ≤ N) :
    executeViews hs pre ((Semantics.logicalExecutionTime.order n).map F) =
      (List.range n).map fun i => (F (.execute, i), bufferView hs [F (.takeNewData, i)] i) := by
  simp only [Semantics.order, List.map_append, List.map_map]
  rw [executeViews_append, executeViews_of_take hs (by simp [pass_of_key hF]),
    executeViews_of_execute hs (by simp [pass_of_key hF]), List.nil_append, List.map_map]
  refine List.map_congr_left fun i hi => ?_
  have hi : i < n := List.mem_range.1 hi
  simp only [Function.comp_apply, pos_of_key hF, Prod.mk.injEq, true_and]
  rw [bufferView_append_left hs hpre]
  unfold bufferView
  split
  · next hb =>
    rw [bufferAfter_filter hs i fun c hc hne => ?_]
    · rw [List.filter_map]
      have hp : ((fun c : Call => c.pos == i) ∘ F ∘ fun j => (Pass.takeNewData, j)) =
          fun j => j == i := by
        funext j; simp [pos_of_key hF]
      rw [hp, range_filter_beq, if_pos hi]
      rfl
    · obtain ⟨j, hj, rfl⟩ := List.mem_map.1 hc
      have hj := List.mem_range.1 hj
      simp only [Function.comp_apply, pos_of_key hF] at hne ⊢
      exact Call.storedInto_of_ne hs hsep (by omega) hb
        (by simp only [Function.comp_apply, pos_of_key hF]; omega)
        (by simpa [pos_of_key hF] using hne)
  · rfl

end views

/-! ### The two schedulers -/

/-- The handles `h` and `h'` share no message buffer: not the `data` their takes store
into, and not the action record, which holds the messages and goal handles of an action
endpoint. -/
def BuffersApart (h h' : Handle) : Prop :=
  (h.type.hasBuffer → h'.type.hasBuffer → h'.data ≠ h.data) ∧ RecordApart h h'

instance (h h' : Handle) : Decidable (BuffersApart h h') :=
  inferInstanceAs (Decidable (_ ∧ _))

/-- No two registered handles share a message buffer. -/
def SeparateBuffers (e : Executor) : Prop :=
  ∀ i < e.index, ∀ j < e.index, j ≠ i → BuffersApart (e.handles i) (e.handles j)

instance (e : Executor) : Decidable (SeparateBuffers e) :=
  inferInstanceAs (Decidable (∀ i < e.index, ∀ j < e.index, j ≠ i → _))

/-- On a packed table whose handles share no buffer, under a round in which every take,
timer call and response send succeeds (a subscription's take may find no message),
`_rclc_let_scheduling` and `_rclc_default_scheduling` return the same status, make the same
execute calls in the same order, each finding the same message in its handle's buffer, and so
run the same callbacks in the same order with the same arguments. Every reachable table, and
every table a round of `rclc_executor_spin_some` hands to the scheduler, is packed. -/
theorem let_default_same_round {s : State} (hs : TableShape s.executor)
    (hsep : SeparateBuffers s.executor) {mw : Middleware} (hmw : WellBehaved mw) :
    (rclcLetScheduling mw s).rc = (rclcDefaultScheduling mw s).rc ∧
    executeViews s.executor.handles [] (rclcLetScheduling mw s).log =
      executeViews s.executor.handles [] (rclcDefaultScheduling mw s).log ∧
    callbacks (rclcLetScheduling mw s).log = callbacks (rclcDefaultScheduling mw s).log := by
  rw [rclcLetScheduling_eq mw hs, rclcDefaultScheduling_eq mw hs]
  unfold scheduleRound
  rw [readiness_congr mw .logicalExecutionTime .rclcppExecutor]
  have hk := fun j => runCalls_type_endpoint mw Semantics.rclcppExecutor.stops
    (readinessOrder s.executor.index) j rclRetOk s
  have hkeys := (runCalls_truncates mw Semantics.rclcppExecutor.stops
    (readinessOrder s.executor.index) rclRetOk s).keys
  generalize runCalls mw Semantics.rclcppExecutor.stops (readinessOrder s.executor.index)
    rclRetOk s = r at hk hkeys
  dsimp only
  split
  · exact ⟨rfl, rfl, rfl⟩
  split
  swap
  · exact ⟨rfl, rfl, rfl⟩
  -- The take and execute part, from the table the readiness loop left.
  have hne : ∀ i < s.executor.index, (r.state.executor.handles i).type ≠ .none :=
    fun i hi => (hk i).1 ▸ hs.type_ne_none i hi
  have hap : ∀ i < s.executor.index, ∀ j < s.executor.index, j ≠ i →
      RecordApart (r.state.executor.handles i) (r.state.executor.handles j) :=
    fun i hi j hj hji => (hsep i hi j hj hji).2.congr (hk i) (hk j)
  have hpre : ∀ c ∈ r.log, c.pass ≠ .takeNewData := fun c hc h => by
    have := (mem_readinessOrder.1 (hkeys.subset (List.mem_map_of_mem Call.key hc))).1
    simp [Call.key, h] at this
  have hbuf := fun i hi j hj hji => (hsep i hi j hj hji).1
  obtain ⟨-, hL⟩ := order_run_eq_map .logicalExecutionTime hmw r.rc hne hap
  obtain ⟨-, hD⟩ := order_run_eq_map .rclcppExecutor hmw r.rc hne hap
  refine ⟨?_, ?_, ?_⟩
  · dsimp only
    rw [runCalls_rc, runCalls_rc, hL, hD, List.getLast?_map, List.getLast?_map,
      Semantics.order_getLast?, Semantics.order_getLast?]
  · dsimp only
    rw [executeViews_append, executeViews_append, List.nil_append, hL, hD,
      executeViews_logicalExecutionTime _ (localCall_key mw _) hbuf hpre _ le_rfl,
      executeViews_rclcppExecutor _ (localCall_key mw _) hbuf hpre _ le_rfl]
  · dsimp only
    rw [callbacks_append, callbacks_append, hL, hD, callbacks_order, callbacks_order]

/-- A round in which every take succeeds: the wait set reports every subscription and every
service, `rcl_take` returns the message `7` and `rcl_take_request` the request `8` with
sequence number `5`. -/
def takesSucceedRound : Middleware :=
  { Middleware.idle with
    subscriptions := fun _ => true
    services := fun _ => true
    take := fun _ => .ok 7
    takeRequest := fun _ => .ok (5, 8)
    takeResponse := fun _ => .ok (0, 0) }

theorem takesSucceedRound_wellBehaved : WellBehaved takesSucceedRound where
  take _ _ := nofun
  takeRequest _ := ⟨_, rfl⟩
  takeResponse _ := ⟨_, rfl⟩
  timerCall _ _ := nofun
  sendResponse _ := rfl
  takeGoalResponse _ := rfl
  takeFeedback _ := rfl
  takeCancelResponse _ := rfl
  takeResultResponse _ := rfl
  takeGoalRequest _ := rfl
  takeResultRequest _ := rfl
  takeCancelRequest _ := rfl

example :
    let s := runOps [.addService 10 11 12 13 .ok, .addSubscription 20 21 22 .onNewData .ok]
      (initBlank 2)
    (rclcLetScheduling takesSucceedRound s).rc = (rclcDefaultScheduling takesSucceedRound s).rc ∧
    executeViews s.executor.handles [] (rclcLetScheduling takesSucceedRound s).log =
      executeViews s.executor.handles [] (rclcDefaultScheduling takesSucceedRound s).log ∧
    callbacks (rclcLetScheduling takesSucceedRound s).log =
      callbacks (rclcDefaultScheduling takesSucceedRound s).log :=
  let_default_same_round ((reachable_initBlank (by decide)).runOps _).tableShape (by decide)
    takesSucceedRound_wellBehaved

/-- A round in which the wait set reports every service and every subscription, the take of
a request finds none, reporting `RCL_RET_SERVICE_TAKE_FAILED`, and `rcl_take` returns the
message `7`. -/
def requestMissingRound : Middleware :=
  { Middleware.idle with
    subscriptions := fun _ => true
    services := fun _ => true
    take := fun _ => .ok 7
    takeResponse := fun _ => .ok (0, 0) }

/-- A service registered before a subscription, in a round whose only call that does not
return `RCL_RET_OK` is the service's `rcl_take_request`, which finds no request: under
`RCLCPP_EXECUTOR`, `rclc_executor_spin_some` goes on to the subscription, runs its callback
on the message and returns `RCL_RET_OK`; under `LET` its take loop returns
`RCL_RET_SERVICE_TAKE_FAILED` before any callback runs. -/
theorem let_default_differ_on_service_take_failed :
    Reachable (runOps [.addService 10 11 12 13 .ok, .addSubscription 20 21 22 .onNewData .ok]
      (initBlank 2)) ∧
    Reachable (runOps [.addService 10 11 12 13 .ok, .addSubscription 20 21 22 .onNewData .ok,
      .setSemantics .logicalExecutionTime] (initBlank 2)) ∧
    (rclcExecutorSpinSome requestMissingRound (runOps [.addService 10 11 12 13 .ok,
      .addSubscription 20 21 22 .onNewData .ok] (initBlank 2))).ret = rclRetOk ∧
    callbacks (rclcExecutorSpinSome requestMissingRound (runOps [.addService 10 11 12 13 .ok,
      .addSubscription 20 21 22 .onNewData .ok] (initBlank 2))).calls = [.callback 22 [21]] ∧
    (rclcExecutorSpinSome requestMissingRound (runOps [.addService 10 11 12 13 .ok,
      .addSubscription 20 21 22 .onNewData .ok, .setSemantics .logicalExecutionTime]
      (initBlank 2))).ret = rclRetServiceTakeFailed ∧
    callbacks (rclcExecutorSpinSome requestMissingRound (runOps [.addService 10 11 12 13 .ok,
      .addSubscription 20 21 22 .onNewData .ok, .setSemantics .logicalExecutionTime]
      (initBlank 2))).calls = [] :=
  ⟨(reachable_initBlank (by decide)).runOps _, (reachable_initBlank (by decide)).runOps _,
    by decide, by decide, by decide, by decide⟩

end RclcExecutor
