import RclcExecutor.Schedule

/-!
What a round does at one position.

A call of `_rclc_check_for_new_data`, `_rclc_take_new_data` or `_rclc_execute` reads and
writes its own handle and, for an action endpoint, the action record the handle points to;
the calls at other positions store into neither, as long as no two handles point to one
action record. So the calls a round makes at position `i` are a prefix of the three calls
readiness, take, execute made at `i` on their own, from the state the scheduler starts in:
how far a round gets at `i` depends on the other handles, what the calls at `i` do does not.

From this, the callback that `_rclc_execute` runs for a subscription, a service, a client, a
timer or a guard condition is decided by this round's wait set and takes alone: the
`data_available` flag it reads is the one the readiness call of the round wrote, as the
take of the round left it.
-/

namespace RclcExecutor

/-- The kinds whose calls read and write the action record the handle points to. -/
def HandleType.isAction : HandleType → Bool
  | .actionClient | .actionServer => true
  | _ => false

/-- The action record the handle `h` points to is the same in `s` and `t`. -/
def RecordsAgree (h : Handle) (s t : State) : Prop :=
  (h.type = .actionClient → s.actionClients h.endpoint = t.actionClients h.endpoint) ∧
  (h.type = .actionServer → s.actionServers h.endpoint = t.actionServers h.endpoint)

/-- What a call at position `i` reads is the same in `s` and `t`: the handle there and, for an
action endpoint, the record it points to. -/
def AgreeAt (i : Nat) (s t : State) : Prop :=
  s.executor.handles i = t.executor.handles i ∧ RecordsAgree (s.executor.handles i) s t

/-- The handle `h'` does not point to the action record of the handle `h`. -/
def RecordApart (h h' : Handle) : Prop :=
  h.type.isAction = true → h'.type = h.type → h'.endpoint ≠ h.endpoint

instance (h h' : Handle) : Decidable (RecordApart h h') :=
  inferInstanceAs (Decidable (_ → _ → _))

theorem RecordApart.of_not_isAction {h : Handle} (hact : h.type.isAction = false) (h' : Handle) :
    RecordApart h h' := fun h => absurd h (by simp [hact])

theorem RecordApart.congr {h₁ h₂ g₁ g₂ : Handle}
    (h1 : g₁.type = h₁.type ∧ g₁.endpoint = h₁.endpoint)
    (h2 : g₂.type = h₂.type ∧ g₂.endpoint = h₂.endpoint) (h : RecordApart h₁ h₂) :
    RecordApart g₁ g₂ := by
  unfold RecordApart; rw [h1.1, h1.2, h2.1, h2.2]; exact h

theorem RecordsAgree.of_not_isAction {h : Handle} (hact : h.type.isAction = false) (s t : State) :
    RecordsAgree h s t := by
  constructor <;> intro hty <;> simp [hty, HandleType.isAction] at hact

theorem AgreeAt.refl (i : Nat) (s : State) : AgreeAt i s s := ⟨rfl, fun _ => rfl, fun _ => rfl⟩

/-! ### A call reads its own handle -/

theorem passFn_type (mw : Middleware) (p : Pass) (i : Nat) (s : State) (j : Nat) :
    ((passFn mw p i s).2.1.executor.handles j).type = (s.executor.handles j).type :=
  (passFn_editsAt mw p i s).type j

theorem passFn_endpoint (mw : Middleware) (p : Pass) (i : Nat) (s : State) (j : Nat) :
    ((passFn mw p i s).2.1.executor.handles j).endpoint = (s.executor.handles j).endpoint :=
  (passFn_editsAt mw p i s).endpoint j

theorem passFn_local (mw : Middleware) (p : Pass) {i : Nat} {s t : State} (hst : AgreeAt i s t) :
    (passFn mw p i s).1 = (passFn mw p i t).1 ∧
    (passFn mw p i s).2.2 = (passFn mw p i t).2.2 ∧
    AgreeAt i (passFn mw p i s).2.1 (passFn mw p i t).2.1 := by
  obtain ⟨hh, hc, hsv⟩ := hst
  simp only [AgreeAt, RecordsAgree, passFn_type, passFn_endpoint]
  rw [hh] at hc hsv ⊢
  cases p <;> simp only [passFn, rclcCheckForNewData, rclcTakeNewData, rclcExecute, invokeCallback,
      rclcCheckHandleDataAvailable, hh] <;>
    cases hk : (t.executor.handles i).type <;>
    simp only [hk, reduceCtorEq, false_implies, forall_const, true_implies, and_true]
      at hc hsv ⊢ <;>
    (try simp only [hc]) <;> (try simp only [hsv]) <;>
    (repeat' split) <;> simp [hh, hc, hsv, State.setActionClient, State.setActionServer]

theorem passFn_actionClients (mw : Middleware) (p : Pass) (j : Nat) (s : State) {e : Ptr}
    (h : ¬((s.executor.handles j).type = .actionClient ∧ (s.executor.handles j).endpoint = e)) :
    (passFn mw p j s).2.1.actionClients e = s.actionClients e := by
  cases p <;>
    simp only [passFn, rclcCheckForNewData, rclcTakeNewData, rclcExecute] <;>
    cases hty : (s.executor.handles j).type <;>
    simp only [hty, true_and, reduceCtorEq, false_and, not_false_eq_true] at h ⊢ <;>
    (repeat' split) <;>
    first
      | rfl
      | exact Function.update_noteq (Ne.symm h) _ _

theorem passFn_actionServers (mw : Middleware) (p : Pass) (j : Nat) (s : State) {e : Ptr}
    (h : ¬((s.executor.handles j).type = .actionServer ∧ (s.executor.handles j).endpoint = e)) :
    (passFn mw p j s).2.1.actionServers e = s.actionServers e := by
  cases p <;>
    simp only [passFn, rclcCheckForNewData, rclcTakeNewData, rclcExecute] <;>
    cases hty : (s.executor.handles j).type <;>
    simp only [hty, true_and, reduceCtorEq, false_and, not_false_eq_true] at h ⊢ <;>
    (repeat' split) <;>
    first
      | rfl
      | exact Function.update_noteq (Ne.symm h) _ _

theorem passFn_agreeAt_of_ne (mw : Middleware) (p : Pass) {i j : Nat} {s t : State} (hj : j ≠ i)
    (hap : RecordApart (s.executor.handles i) (s.executor.handles j)) (hst : AgreeAt i s t) :
    AgreeAt i (passFn mw p j s).2.1 t := by
  have hs1 := (passFn_editsAt mw p j s).handles_of_ne (Ne.symm hj)
  obtain ⟨hh, hc, hsv⟩ := hst
  refine ⟨hs1.trans hh, ?_, ?_⟩ <;> rw [hs1] <;> intro hty
  · rw [passFn_actionClients mw p j s fun h =>
      hap (by simp [hty, HandleType.isAction]) (h.1.trans hty.symm) h.2]
    exact hc hty
  · rw [passFn_actionServers mw p j s fun h =>
      hap (by simp [hty, HandleType.isAction]) (h.1.trans hty.symm) h.2]
    exact hsv hty

theorem runCalls_type_endpoint (mw : Middleware) (stop : Pass → RclRet → Bool)
    (cs : List (Pass × Nat)) (j : Nat) : ∀ rc s,
    ((runCalls mw stop cs rc s).state.executor.handles j).type = (s.executor.handles j).type ∧
    ((runCalls mw stop cs rc s).state.executor.handles j).endpoint =
      (s.executor.handles j).endpoint := by
  induction cs with
  | nil => intro rc s; exact ⟨rfl, rfl⟩
  | cons c cs ih =>
      intro rc s
      obtain ⟨p, i⟩ := c
      simp only [runCalls]
      split
      · exact ⟨passFn_type mw p i s j, passFn_endpoint mw p i s j⟩
      · obtain ⟨h1, h2⟩ := ih (passFn mw p i s).1 (passFn mw p i s).2.1
        exact ⟨h1.trans (passFn_type mw p i s j), h2.trans (passFn_endpoint mw p i s j)⟩

theorem runCalls_type (mw : Middleware) (stop : Pass → RclRet → Bool) (cs : List (Pass × Nat))
    (j : Nat) (rc : RclRet) (s : State) :
    ((runCalls mw stop cs rc s).state.executor.handles j).type = (s.executor.handles j).type :=
  (runCalls_type_endpoint mw stop cs j rc s).1

/-! ### The calls at one position -/

section atPosition
variable (mw : Middleware) (stop : Pass → RclRet → Bool) {i : Nat}

theorem runCalls_local (cs : List (Pass × Nat)) : ∀ (rc rc' : RclRet) (s t : State),
    (∀ c ∈ cs, c.2 ≠ i → RecordApart (s.executor.handles i) (s.executor.handles c.2)) →
    AgreeAt i s t →
    (runCalls mw stop cs rc s).log.filter (fun c => c.pos == i) <+:
      (runCalls mw stop (cs.filter fun c => c.2 == i) rc' t).log ∧
    ((runCalls mw stop cs rc s).exit = false →
      (runCalls mw stop cs rc s).log.filter (fun c => c.pos == i) =
        (runCalls mw stop (cs.filter fun c => c.2 == i) rc' t).log ∧
      (runCalls mw stop (cs.filter fun c => c.2 == i) rc' t).exit = false ∧
      AgreeAt i (runCalls mw stop cs rc s).state
        (runCalls mw stop (cs.filter fun c => c.2 == i) rc' t).state) := by
  induction cs with
  | nil => intro rc rc' s t _ hst; simp [runCalls, hst]
  | cons c cs ih =>
      intro rc rc' s t hap hst
      obtain ⟨p, j⟩ := c
      have hap' : ∀ c ∈ cs, c.2 ≠ i → RecordApart ((passFn mw p j s).2.1.executor.handles i)
          ((passFn mw p j s).2.1.executor.handles c.2) := fun c hc hne =>
        (hap c (List.mem_cons_of_mem _ hc) hne).congr
          ⟨passFn_type mw p j s i, passFn_endpoint mw p j s i⟩
          ⟨passFn_type mw p j s c.2, passFn_endpoint mw p j s c.2⟩
      by_cases hj : j = i
      · subst hj
        obtain ⟨h1, h2, h3⟩ := passFn_local mw p hst
        simp only [List.filter_cons, beq_self_eq_true, if_true, runCalls, h1, h2]
        split
        · simp
        · obtain ⟨hpre, hall⟩ := ih (passFn mw p j t).1 (passFn mw p j t).1 _ _ hap' h3
          refine ⟨by simpa using hpre, fun hx => ?_⟩
          obtain ⟨hl, hx', hh⟩ := hall hx
          exact ⟨by simp [hl], hx', hh⟩
      · have hne : (j == i) = false := by simpa using hj
        have hs1 := passFn_agreeAt_of_ne mw p hj (hap _ (List.mem_cons_self _ _) hj) hst
        simp only [List.filter_cons, hne, Bool.false_eq_true, if_false, runCalls]
        split
        · simp [hne]
        · obtain ⟨hpre, hall⟩ := ih (passFn mw p j s).1 rc' _ t hap' hs1
          exact ⟨by simpa [hne] using hpre, fun hx => by simpa [hne] using hall hx⟩

end atPosition

theorem range_filter_beq (n i : Nat) :
    (List.range n).filter (fun j => j == i) = if i < n then [i] else [] := by
  induction n with
  | zero => simp
  | succ n ih =>
      rw [List.range_succ, List.filter_append, ih]
      by_cases hin : i < n
      · simp [hin, Nat.lt_succ_of_lt hin, Nat.ne_of_gt hin]
      · by_cases hi : i = n
        · subst hi; simp
        · simp [hin, Ne.symm hi, show ¬i < n + 1 by omega]

theorem readinessOrder_filter (n i : Nat) :
    (readinessOrder n).filter (fun c => c.2 == i) =
      if i < n then [(.checkForNewData, i)] else [] := by
  rw [readinessOrder, List.filter_map]
  simp only [Function.comp_def, range_filter_beq]
  split <;> rfl

theorem order_filter (m : Semantics) (n i : Nat) :
    (m.order n).filter (fun c => c.2 == i) =
      if i < n then [(.takeNewData, i), (.execute, i)] else [] := by
  cases m
  · induction n with
    | zero => rfl
    | succ n ih =>
        simp only [Semantics.order] at ih ⊢
        rw [List.range_succ, List.flatMap_append, List.filter_append, ih]
        by_cases hin : i < n
        · simp [hin, Nat.lt_succ_of_lt hin, Nat.ne_of_gt hin]
        · by_cases hi : i = n
          · subst hi; simp
          · simp [hin, Ne.symm hi, show ¬i < n + 1 by omega]
  · simp only [Semantics.order, List.filter_append, List.filter_map, Function.comp_def,
      range_filter_beq]
    split <;> rfl

/-- The three calls a round can make at position `i`, in their order. -/
def localOrder (i : Nat) : List (Pass × Nat) :=
  [(.checkForNewData, i), (.takeNewData, i), (.execute, i)]

theorem schedule_filter (m : Semantics) {n i : Nat} (hi : i < n) :
    (readinessOrder n).filter (fun c => c.2 == i) ++ (m.order n).filter (fun c => c.2 == i) =
      localOrder i := by
  rw [readinessOrder_filter, order_filter, if_pos hi, if_pos hi]; rfl

/-- A round, seen at a registered position whose handle shares its action record with no
other registered handle, is a prefix of the readiness, take and execute calls made there
alone. -/
theorem scheduleRound_local (mw : Middleware) (m : Semantics) {s : State} {i : Nat}
    (hi : i < s.executor.index)
    (hap : ∀ j < s.executor.index, j ≠ i →
      RecordApart (s.executor.handles i) (s.executor.handles j)) :
    (scheduleRound mw m s).log.filter (fun c => c.pos == i) <+:
      (runCalls mw m.stops (localOrder i) rclRetOk s).log := by
  rw [← schedule_filter m hi, runCalls_append]
  obtain ⟨hpre, hall⟩ := runCalls_local mw m.stops (readinessOrder s.executor.index) rclRetOk
    rclRetOk s s (fun c hc => hap c.2 (mem_readinessOrder.1 hc).2) (AgreeAt.refl i s)
  unfold scheduleRound
  dsimp only
  by_cases hx : (runCalls mw m.stops (readinessOrder s.executor.index) rclRetOk s).exit = true
  · rw [if_pos hx]
    refine hpre.trans ?_
    split
    · exact List.prefix_refl _
    · exact List.prefix_append _ _
  · obtain ⟨heq, hlx, hh⟩ := hall (by simpa using hx)
    have hk := runCalls_type_endpoint mw m.stops (readinessOrder s.executor.index)
    rw [if_neg hx, hlx, if_neg Bool.false_ne_true]
    split
    · rw [List.filter_append, heq]
      exact List.prefix_append_right_inj _ |>.2
        (runCalls_local mw m.stops _ _ _ _ _ (fun c hc hne => (hap c.2 (mem_order.1 hc).2 hne).congr
          (hk i rclRetOk s) (hk c.2 rclRetOk s)) hh).1
    · rw [heq]; exact List.prefix_append _ _

theorem scheduleRound_execute (mw : Middleware) (m : Semantics) {s : State} {i : Nat}
    (hi : i < s.executor.index) (hact : (s.executor.handles i).type.isAction = false)
    {c : Call} (hc : c ∈ (scheduleRound mw m s).log) (hpos : c.pos = i)
    (hex : c.pass = .execute) :
    ∃ chk tk, (runCalls mw m.stops (localOrder i) rclRetOk s).log = [chk, tk, c] ∧
      List.Sublist [tk, c] (scheduleRound mw m s).log ∧
      ∀ d ∈ (scheduleRound mw m s).log, d.pos = i → d = chk ∨ d = tk ∨ d = c := by
  have hF := scheduleRound_local mw m hi fun _ _ _ => RecordApart.of_not_isAction hact _
  have hT := (runCalls_truncates mw m.stops (localOrder i) rclRetOk s).keys
  have hsub : List.Sublist ((scheduleRound mw m s).log.filter fun d => d.pos == i)
      (scheduleRound mw m s).log := List.filter_sublist _
  have hmem : ∀ d ∈ (scheduleRound mw m s).log, d.pos = i →
      d ∈ (scheduleRound mw m s).log.filter (fun d => d.pos == i) :=
    fun d hd hdi => List.mem_filter.2 ⟨hd, by simp [hdi]⟩
  have hcF := hmem c hc hpos
  generalize (scheduleRound mw m s).log.filter (fun d => d.pos == i) = F at hF hsub hmem hcF
  generalize (runCalls mw m.stops (localOrder i) rclRetOk s).log = l at hF hT ⊢
  have hckey : c.key = (.execute, i) := by simp [Call.key, hex, hpos]
  rcases l with _ | ⟨x, _ | ⟨y, _ | ⟨z, _ | ⟨w, l⟩⟩⟩⟩
  · simp at hF; subst hF; simp at hcF
  · simp [localOrder] at hT
    have := hF.subset hcF
    simp at this; subst this; simp [hckey] at hT
  · simp [localOrder] at hT
    have := hF.subset hcF
    simp at this; rcases this with rfl | rfl <;> simp [hckey] at hT
  · simp only [localOrder, List.map_cons, List.map_nil, List.cons_prefix_cons,
      List.prefix_refl, and_true] at hT
    obtain ⟨hx, hy, hz⟩ := hT
    have hne : ∀ d, d.key ≠ (.execute, i) → c ≠ d := fun d hd h => hd (h ▸ hckey)
    have hcx := hne x (by simp [hx])
    have hcy := hne y (by simp [hy])
    have hcz : c = z := by
      have := hF.subset hcF
      simp only [List.mem_cons, List.mem_singleton, List.not_mem_nil, or_false] at this
      tauto
    subst hcz
    have hFeq : F = [x, y, c] := by
      simp only [List.prefix_cons_iff, List.prefix_nil] at hF
      rcases hF with rfl | ⟨t, rfl, rfl | ⟨t, rfl, rfl | ⟨t, rfl, rfl⟩⟩⟩ <;> simp_all
    subst hFeq
    refine ⟨x, y, rfl, (List.Sublist.cons₂ _ (List.Sublist.cons₂ _ (List.nil_sublist _))).trans
      ((List.sublist_cons_self _ _).trans hsub), fun d hd hdi => ?_⟩
    simpa using hmem d hd hdi
  · have := hT.length_le; simp [localOrder] at this

theorem localOrder_log {mw : Middleware} {stop : Pass → RclRet → Bool} {i : Nat} {rc : RclRet}
    {s : State} {chk tk c : Call}
    (hL : (runCalls mw stop (localOrder i) rc s).log = [chk, tk, c]) :
    chk.pass = .checkForNewData ∧
    stop .takeNewData (passFn mw .takeNewData i (passFn mw .checkForNewData i s).2.1).1 = false ∧
    tk = ⟨.takeNewData, i, (passFn mw .takeNewData i (passFn mw .checkForNewData i s).2.1).1,
      (passFn mw .takeNewData i (passFn mw .checkForNewData i s).2.1).2.2⟩ ∧
    c.events = (rclcExecute mw i
      (passFn mw .takeNewData i (passFn mw .checkForNewData i s).2.1).2.1).2.2 := by
  simp only [localOrder, runCalls] at hL
  split at hL
  · simp at hL
  split at hL
  · simp at hL
  next h2 =>
    split at hL <;>
    · simp only [List.cons.injEq, List.nil_eq, and_true] at hL
      obtain ⟨rfl, rfl, rfl⟩ := hL
      exact ⟨rfl, by simpa using h2, rfl, rfl⟩

/-! ### The slots of a round -/

theorem waitSetAddStep_state {mw : Middleware} {i : Nat} {s : State}
    (h : (waitSetAddStep mw i s).exit = false) :
    (waitSetAddStep mw i s).state =
      s.modifyHandle i fun h => { h with index := (mw.waitSetAdd i).2 } := by
  unfold waitSetAddStep at h ⊢
  revert h
  split
  · simp
  · dsimp only
    split
    · intro; rfl
    · simp

theorem foldSteps_waitSetAddStep (mw : Middleware) (ps : List Nat) : ∀ rc s,
    (foldSteps (waitSetAddStep mw) ps rc s).exit = false → ∀ j,
    (foldSteps (waitSetAddStep mw) ps rc s).state.executor.handles j =
      if j ∈ ps then { s.executor.handles j with index := (mw.waitSetAdd j).2 }
      else s.executor.handles j := by
  induction ps with
  | nil => intro rc s _ j; simp [foldSteps]
  | cons i ps ih =>
      intro rc s hx j
      simp only [foldSteps] at hx ⊢
      by_cases hr : (waitSetAddStep mw i s).exit = true
      · rw [if_pos hr] at hx; exact absurd hr (by simp [hx])
      · rw [if_neg hr] at hx ⊢
        rw [ih _ _ hx j, waitSetAddStep_state (by simpa using hr)]
        by_cases hj : j = i
        · subst hj; simp
        · simp [hj]

theorem rclcExecutorPrepare_dataCommSemantics (e : Executor) (initRet : MwRet) :
    (rclcExecutorPrepare e initRet).2.1.dataCommSemantics = e.dataCommSemantics := by
  unfold rclcExecutorPrepare
  split
  · rfl
  · split <;> rfl

/-- A round of `rclc_executor_spin_some` on a packed table either makes no per-handle call, or
its calls are those of a round of its semantics on a packed table in which every registered
handle has the slot `rcl_wait_set_add_*` gave it this round. -/
theorem rclcExecutorSpinSome_calls (mw : Middleware) {s : State} (hs : TableShape s.executor) :
    (rclcExecutorSpinSome mw s).calls = [] ∨
    ∃ s', TableShape s'.executor ∧ s'.executor.index = s.executor.index ∧
      (∀ i < s.executor.index,
        s'.executor.handles i = { s.executor.handles i with index := (mw.waitSetAdd i).2 }) ∧
      (rclcExecutorSpinSome mw s).calls =
        (scheduleRound mw s.executor.dataCommSemantics s').log := by
  obtain ⟨hh, hi, hm⟩ := rclcExecutorPrepare_table s.executor mw.waitSetInit
  have hs1 : TableShape ({ s with
      executor := (rclcExecutorPrepare s.executor mw.waitSetInit).2.1 } : State).executor :=
    hs.of_table hh hi hm
  unfold rclcExecutorSpinSome
  split
  · exact Or.inl rfl
  dsimp only
  split
  · exact Or.inl rfl
  have heq := forHandles_eq_foldSteps
    (fun i s hs _ => hs.of_editsAt (waitSetAddStep_editsAt mw i s))
    (rclcExecutorPrepare s.executor mw.waitSetInit).2.1.maxHandles 0 rclRetOk _ hs1.shaped
    (Nat.zero_le _) (by rw [Nat.sub_zero]; exact hs1.index_le)
  have hsh := forHandles_shaped (waitSetAddStep_editsAt mw) hs1.shaped
    (rclcExecutorPrepare s.executor mw.waitSetInit).2.1.maxHandles 0 rclRetOk
  have hreg := forHandles_tableShape (waitSetAddStep_editsAt mw)
    (rclcExecutorPrepare s.executor mw.waitSetInit).2.1.maxHandles 0 rclRetOk hs1
  have hsem := @forHandles_keeps (fun e => e.dataCommSemantics = s.executor.dataCommSemantics)
    (fun _ _ _ h _ _ he => by obtain ⟨g, -, rfl⟩ := he; exact h) Event (waitSetAddStep mw)
    (waitSetAddStep_editsAt mw) (rclcExecutorPrepare s.executor mw.waitSetInit).2.1.maxHandles 0
    rclRetOk { s with executor := (rclcExecutorPrepare s.executor mw.waitSetInit).2.1 }
    (rclcExecutorPrepare_dataCommSemantics s.executor mw.waitSetInit)
  split
  · exact Or.inl rfl
  next hx =>
    refine Or.inr ⟨_, hreg, hsh.1.trans hi, fun j hj => ?_, ?_⟩
    · rw [heq] at hx ⊢
      rw [foldSteps_waitSetAddStep mw _ _ _ (by simpa using hx) j, if_pos (by simp [hi]; omega)]
      simp [hh]
    · dsimp only at hsem
      rw [hsem]
      cases s.executor.dataCommSemantics
      · exact congrArg Iter.log (rclcDefaultScheduling_eq mw hreg)
      · exact congrArg Iter.log (rclcLetScheduling_eq mw hreg)

theorem Semantics.stops_error (m : Semantics) (p : Pass) (e : RclError) : m.stops p e.1 = true := by
  have h0 := @RclError.ne e rclRetOk (by decide)
  have h1 := @RclError.ne e rclRetSubscriptionTakeFailed (by decide)
  have h2 := @RclError.ne e rclRetServiceTakeFailed (by decide)
  cases m <;> cases p <;> simp [Semantics.stops, stopUnlessSubscriptionTakeFailed,
    stopUnlessTakeFailed, stopUnlessOk, h0, h1, h2]

@[simp] theorem Semantics.stops_ok (m : Semantics) (p : Pass) : m.stops p rclRetOk = false := by
  cases m <;> cases p <;> decide

@[simp] theorem Semantics.stops_subscriptionTakeFailed (m : Semantics) :
    m.stops .takeNewData rclRetSubscriptionTakeFailed = false := by
  cases m <;> decide

@[simp] theorem Semantics.stops_clientTakeFailed (m : Semantics) :
    m.stops .takeNewData rclRetClientTakeFailed = true := by
  cases m <;> decide

/-- The entry of this round's wait set that `_rclc_check_for_new_data` reads for a handle of
a kind without an action endpoint: `wait_set->X[handle->index] != NULL`. -/
def waitSetEntry (mw : Middleware) (h : Handle) : Bool :=
  match h.type with
  | .subscription | .subscriptionWithContext => mw.subscriptions h.index
  | .timer => mw.timers h.index
  | .service | .serviceWithRequestId | .serviceWithContext => mw.services h.index
  | .client | .clientWithRequestId => mw.clients h.index
  | .guardCondition => mw.guardConditions h.index
  | _ => false

theorem rclcCheckForNewData_of_not_isAction (mw : Middleware) {i : Nat} {s : State}
    (hact : (s.executor.handles i).type.isAction = false)
    (hnone : (s.executor.handles i).type ≠ .none) :
    ∃ s1, rclcCheckForNewData mw i s = (rclRetOk, s1, []) ∧
      s1.executor.handles i =
        { s.executor.handles i with dataAvailable := waitSetEntry mw (s.executor.handles i) } := by
  unfold rclcCheckForNewData
  cases hty : (s.executor.handles i).type <;>
    simp only [hty, HandleType.isAction, Bool.true_eq_false, ne_eq, not_true_eq_false]
      at hact hnone ⊢ <;>
    exact ⟨_, rfl, by simp [waitSetEntry, hty]⟩

/-- The callback the execute call `c` of a round with log `log` runs for the handle `h`,
which `rcl_wait_set_add_*` put in slot `slot` this round, is the one this round's wait set
and takes call for. -/
def FreshCallback (mw : Middleware) (log : List Call) (h : Handle) (slot : Nat) (c : Call) :
    Prop :=
  match h.type with
  | .subscription | .subscriptionWithContext =>
      (mw.subscriptions slot = true ∧
        ∃ msg, List.Sublist [⟨.takeNewData, c.pos, rclRetOk, [.take (.ok msg)]⟩, c] log ∧
          ∃ args, c.events = [.callback h.callback (h.data :: args)]) ∨
      ((∀ msg, ⟨.takeNewData, c.pos, rclRetOk, [.take (.ok msg)]⟩ ∉ log) ∧
        (h.invocation = .always → ∃ args, c.events = [.callback h.callback (0 :: args)]) ∧
        (h.invocation ≠ .always → c.events = []))
  | .service | .serviceWithRequestId | .serviceWithContext =>
      (mw.services slot = true ∧ ∃ reqId msg,
        List.Sublist [⟨.takeNewData, c.pos, rclRetOk, [.takeRequest (.ok (reqId, msg))]⟩, c] log ∧
          ∃ args r, c.events = [.callback h.callback args, .sendResponse reqId r]) ∨
      ((∀ p, ⟨.takeNewData, c.pos, rclRetOk, [.takeRequest (.ok p)]⟩ ∉ log) ∧ c.events = [])
  | .client | .clientWithRequestId =>
      (mw.clients slot = true ∧ ∃ p,
        List.Sublist [⟨.takeNewData, c.pos, rclRetOk, [.takeResponse (.ok p)]⟩, c] log ∧
          ∃ args, c.events = [.callback h.callback args]) ∨
      ((∀ p, ⟨.takeNewData, c.pos, rclRetOk, [.takeResponse (.ok p)]⟩ ∉ log) ∧ c.events = [])
  | .timer => c.events = if mw.timers slot then [.timerCall (mw.timerCall c.pos)] else []
  | .guardCondition =>
      c.events = if mw.guardConditions slot then [.callback h.callback []] else []
  | _ => True

theorem freshCallback_of_run (mw : Middleware) (m : Semantics) {s : State} {i : Nat}
    {log : List Call} {chk tk c : Call}
    (hinv : (s.executor.handles i).invocation = .always →
      (s.executor.handles i).type = .subscription ∨
        (s.executor.handles i).type = .subscriptionWithContext)
    (hL : (runCalls mw m.stops (localOrder i) rclRetOk s).log = [chk, tk, c])
    (hpos : c.pos = i) (hex : c.pass = .execute)
    (hsub : List.Sublist [tk, c] log) (hall : ∀ d ∈ log, d.pos = i → d = chk ∨ d = tk ∨ d = c) :
    FreshCallback mw log (s.executor.handles i) (s.executor.handles i).index c := by
  obtain ⟨hchk, h2, rfl, hev⟩ := localOrder_log hL
  have htake : ∀ ev, ⟨.takeNewData, c.pos, rclRetOk, ev⟩ ∈ log →
      (passFn mw .takeNewData i (passFn mw .checkForNewData i s).2.1).1 = rclRetOk ∧
      (passFn mw .takeNewData i (passFn mw .checkForNewData i s).2.1).2.2 = ev := by
    intro ev hd
    rcases hall _ hd hpos with h | h | h
    · exact absurd (congrArg Call.pass h) (by simp [hchk])
    · simp only [Call.mk.injEq] at h; exact ⟨h.2.2.1.symm, h.2.2.2.symm⟩
    · exact absurd (congrArg Call.pass h) (by simp [hex])
  clear hL hall
  subst hpos
  generalize hh : s.executor.handles c.pos = h at hinv ⊢
  by_cases hna : h.type.isAction = false ∧ h.type ≠ .none
  swap
  · revert hna
    cases hty : h.type <;> simp [FreshCallback, hty, HandleType.isAction]
  obtain ⟨s1, hc1, hh1⟩ := rclcCheckForNewData_of_not_isAction mw (hh ▸ hna.1) (hh ▸ hna.2)
  rw [hh] at hh1
  simp only [passFn, hc1] at h2 hev htake hsub
  simp only [FreshCallback, waitSetEntry] at hh1 ⊢
  have hnot : ∀ ev, (rclcTakeNewData mw c.pos s1).2.2 ≠ ev →
      ⟨.takeNewData, c.pos, rclRetOk, ev⟩ ∉ log := fun ev hne hm => hne (htake ev hm).2
  clear htake
  generalize htk : rclcTakeNewData mw c.pos s1 = r at h2 hev hnot hsub
  obtain ⟨r2, s2, ev2⟩ := r
  simp only at h2 hev hnot hsub
  have hi : ¬(h.type = .subscription ∨ h.type = .subscriptionWithContext) →
      h.invocation = .onNewData := fun hn => by
    cases hv : h.invocation
    · rfl
    · exact absurd (hinv hv) hn
  cases hty : h.type with
  | subscription | subscriptionWithContext =>
      have hin : h.invocation = .onNewData ↔ ¬h.invocation = .always := by
        cases h.invocation <;> simp
      simp only [hty] at hh1 ⊢
      cases hg : mw.subscriptions h.index <;> cases ht : mw.take c.pos <;>
        simp only [rclcTakeNewData, hh1, hg, ht, if_true, if_false, Bool.false_eq_true,
          Prod.mk.injEq] at htk <;>
        obtain ⟨rfl, rfl, rfl⟩ := htk <;>
        simp only [rclcExecute, invokeCallback, rclcCheckHandleDataAvailable, hh1, hg, hin,
          Semantics.stops_ok, Semantics.stops_subscriptionTakeFailed, Semantics.stops_error,
          State.modifyHandle_executor, Executor.modifyHandle_handles, decide_not, Bool.and_false,
          Bool.and_true, Bool.false_or, Bool.not_or_self, Bool.not_eq_eq_eq_not, Bool.not_true,
          decide_eq_false_iff_not, Bool.false_eq_true, Bool.true_eq_false, ↓reduceIte, ite_not,
          ne_eq, List.nil_eq] at h2 hev hnot hsub
      all_goals first
        | exact Or.inl ⟨rfl, _, hsub, _, hev⟩
        | exact Or.inr ⟨fun _ => hnot _ (by simp), fun hi => ⟨_, by simpa [hi] using hev⟩,
            fun hi => by simpa [hi] using hev⟩
  | service | serviceWithRequestId | serviceWithContext =>
      have hi := hi (by simp [hty])
      simp only [hty] at hh1 ⊢
      cases hg : mw.services h.index <;>
        rcases ht : mw.takeRequest c.pos with ⟨reqId, msg⟩ | _ | e <;>
        simp only [rclcTakeNewData, hh1, hg, ht, if_true, if_false, Bool.false_eq_true,
          Prod.mk.injEq] at htk <;>
        obtain ⟨rfl, rfl, rfl⟩ := htk <;>
        simp only [rclcExecute, invokeCallback, rclcCheckHandleDataAvailable, hh1, hg, hi,
          sendResponse, Semantics.stops_ok, Semantics.stops_error, State.modifyHandle_executor,
          Executor.modifyHandle_handles, decide_True, decide_False, Bool.and_false, Bool.and_self,
          Bool.or_self, Bool.or_false, Bool.not_false, Bool.not_true, Bool.false_eq_true,
          Bool.true_eq_false, reduceCtorEq, ↓reduceIte, ne_eq, List.nil_eq] at h2 hev hnot hsub
      all_goals first
        | exact Or.inl ⟨rfl, reqId, msg, hsub, _, _, hev⟩
        | exact Or.inr ⟨fun _ => hnot _ (by simp), hev⟩
  | client | clientWithRequestId =>
      have hi := hi (by simp [hty])
      simp only [hty] at hh1 ⊢
      cases hg : mw.clients h.index <;>
        rcases ht : mw.takeResponse c.pos with ⟨reqId, msg⟩ | _ | e <;>
        simp only [rclcTakeNewData, hh1, hg, ht, if_true, if_false, Bool.false_eq_true,
          Prod.mk.injEq] at htk <;>
        obtain ⟨rfl, rfl, rfl⟩ := htk <;>
        simp only [rclcExecute, invokeCallback, rclcCheckHandleDataAvailable, hh1, hg, hi,
          Semantics.stops_ok, Semantics.stops_clientTakeFailed, Semantics.stops_error,
          State.modifyHandle_executor, Executor.modifyHandle_handles, decide_True, decide_False,
          Bool.and_false, Bool.and_self, Bool.or_self, Bool.or_false, Bool.not_false, Bool.not_true,
          Bool.false_eq_true, Bool.true_eq_false, reduceCtorEq, ↓reduceIte, ne_eq, List.nil_eq]
          at h2 hev hnot hsub
      all_goals first
        | exact Or.inl ⟨rfl, _, hsub, _, hev⟩
        | exact Or.inr ⟨fun _ => hnot _ (by simp), hev⟩
  | timer =>
      have hi := hi (by simp [hty])
      simp only [hty] at hh1 ⊢
      simp only [rclcTakeNewData, hh1, Prod.mk.injEq] at htk
      obtain ⟨rfl, rfl, rfl⟩ := htk
      cases hg : mw.timers h.index <;> cases ht : mw.timerCall c.pos <;>
        simp [rclcExecute, invokeCallback, rclcCheckHandleDataAvailable, hh1, hg, ht, hi]
          at hev ⊢ <;>
        exact hev
  | guardCondition =>
      have hi := hi (by simp [hty])
      simp only [hty] at hh1 ⊢
      simp only [rclcTakeNewData, hh1, Prod.mk.injEq] at htk
      obtain ⟨rfl, rfl, rfl⟩ := htk
      cases hg : mw.guardConditions h.index <;>
        simp [rclcExecute, invokeCallback, rclcCheckHandleDataAvailable, hh1, hg, hi] at hev ⊢ <;>
        exact hev
  | actionClient | actionServer | none => simp [hty, HandleType.isAction] at hna

theorem scheduleRound_pos_lt {mw : Middleware} {m : Semantics} {s : State} {c : Call}
    (hc : c ∈ (scheduleRound mw m s).log) : c.pos < s.executor.index := by
  have h1 := (runCalls_truncates mw m.stops (readinessOrder s.executor.index) rclRetOk s).keys
  rw [scheduleRound_log] at hc
  dsimp only at hc
  split at hc
  · rcases List.mem_append.1 hc with hc | hc
    · exact (mem_readinessOrder.1 (h1.subset (List.mem_map_of_mem Call.key hc))).2
    · exact (mem_order.1 ((runCalls_truncates mw m.stops _ _ _).keys.subset
        (List.mem_map_of_mem Call.key hc))).2
  · exact (mem_readinessOrder.1 (h1.subset (List.mem_map_of_mem Call.key hc))).2

/-- In every reachable state, under either semantics, every execute call of a round of
`rclc_executor_spin_some` runs the callback that this round's wait set, at the slot
`rcl_wait_set_add_*` gave the handle this round, and this round's take at the handle call
for: a subscription's callback gets its message buffer only after an `rcl_take` of the round
returned `RCL_RET_OK` for it, and `NULL` otherwise, then only when it is invoked `ALWAYS`;
a service's callback runs only after an `rcl_take_request` of the round returned
`RCL_RET_OK`, and is followed by one `rcl_send_response` with the request id taken; a
client's only after an `rcl_take_response` of the round returned `RCL_RET_OK`; a timer and a
guard condition fire exactly when the round's wait set reports them. -/
theorem execute_reads_round_data {s : State} (hr : Reachable s) (mw : Middleware) :
    ∀ c ∈ (rclcExecutorSpinSome mw s).calls, c.pass = .execute →
      FreshCallback mw (rclcExecutorSpinSome mw s).calls (s.executor.handles c.pos)
        (mw.waitSetAdd c.pos).2 c := by
  intro c hc hex
  rcases rclcExecutorSpinSome_calls mw hr.tableShape with hnil | ⟨s', hs', hidx, hh, hcalls⟩
  · rw [hnil] at hc; simp at hc
  rw [hcalls] at hc ⊢
  have hlt := scheduleRound_pos_lt hc
  have hh' := hh c.pos (hidx ▸ hlt)
  cases hact : (s.executor.handles c.pos).type.isAction
  · obtain ⟨chk, tk, hL, hsub, hall⟩ :=
      scheduleRound_execute mw _ hlt (by rw [hh']; exact hact) hc rfl hex
    have := freshCallback_of_run mw _ (hs'.always_subscription _ hlt) hL rfl hex hsub hall
    rwa [hh'] at this
  · revert hact
    cases hty : (s.executor.handles c.pos).type <;> simp [HandleType.isAction, FreshCallback, hty]

theorem execute_reads_round_data_oneSubscription :
    FreshCallback messageRound (rclcExecutorSpinSome messageRound
        (runOps [.addSubscription 1 2 3 .onNewData .ok] (initBlank 2))).calls
      ((runOps [.addSubscription 1 2 3 .onNewData .ok] (initBlank 2)).executor.handles 0)
      (messageRound.waitSetAdd 0).2 ⟨.execute, 0, rclRetOk, [.callback 3 [2]]⟩ :=
  @execute_reads_round_data (runOps [.addSubscription 1 2 3 .onNewData .ok] (initBlank 2))
    ((reachable_initBlank (by decide)).runOps _) messageRound
    ⟨.execute, 0, rclRetOk, [.callback 3 [2]]⟩
    (by decide) rfl

end RclcExecutor
