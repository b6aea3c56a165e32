import RclcExecutor.GoalPools
import RclcExecutor.Goals

/-!
Goals in progress on an action server. A goal the server has accepted and not finished
(`GOAL_STATE_ACCEPTED`, `EXECUTING` or `CANCELING`) keeps its goal handle on the used list.
The executor frees a server's goal handle in three places only: a goal handle just taken
for a goal request that the middleware then fails to deliver, a new goal that
`goal_callback` rejects (found in `GOAL_STATE_UNKNOWN`), and a terminated goal once the user
has ended one. So a goal in progress loses its goal handle only by the user's terminal
transition of that goal (`rclc_action_send_result`), or when the server is registered again.

Each of those frees is by address, of a goal handle the round found with another status or
took from the free list. That it is not the goal in progress follows from the addresses
being distinct, which the whole pools of `GoalPools` give; the invariant here is therefore
carried together with that one (`ActionServer.Keeps`).
-/

namespace RclcExecutor

/-- `GOAL_STATE_ACCEPTED`, `EXECUTING` or `CANCELING`: a goal the server works on. -/
def GoalState.isActive : GoalState → Bool
  | .accepted | .executing | .canceling => true
  | _ => false

/-- The goal handle at address `k` is used and holds a goal in progress. -/
def GoalPool.Holds (p : GoalPool) (k : Nat) : Prop :=
  ∃ g ∈ p.used, g.slot = k ∧ g.status.isActive = true

instance (p : GoalPool) (k : Nat) : Decidable (p.Holds k) :=
  inferInstanceAs (Decidable (∃ g ∈ p.used, _))

theorem rclcActionTakeGoalHandle_mem {p p' : GoalPool} {g : GoalHandle}
    (h : rclcActionTakeGoalHandle p = (some g, p')) : g ∈ p.free := by
  unfold rclcActionTakeGoalHandle at h
  split at h
  · cases h
  · next g' free hfree =>
      cases h
      simp [hfree]

namespace GoalPool.Holds
variable {p : GoalPool} {k n : Nat}

theorem take (h : p.Holds k) : (rclcActionTakeGoalHandle p).2.Holds k := by
  obtain ⟨g, hg, hs, ha⟩ := h
  unfold rclcActionTakeGoalHandle
  split
  · exact ⟨g, hg, hs, ha⟩
  · exact ⟨g, List.mem_cons_of_mem _ hg, hs, ha⟩

theorem take_some (h : p.Holds k) {g : GoalHandle} {p' : GoalPool}
    (ht : rclcActionTakeGoalHandle p = (some g, p')) : p'.Holds k := by
  simpa only [ht] using h.take

theorem remove (h : p.Holds k) {slot : Nat} (hne : slot ≠ k) :
    (rclcActionRemoveUsedGoalHandle p slot).Holds k := by
  obtain ⟨g, hg, hs, ha⟩ := h
  unfold rclcActionRemoveUsedGoalHandle
  split
  · exact ⟨g, hg, hs, ha⟩
  · exact ⟨g, List.mem_filter.2 ⟨hg, by simp [hs, Ne.symm hne]⟩, hs, ha⟩

theorem modify_of_ne (h : p.Holds k) {slot : Nat} (hne : slot ≠ k) (f : GoalHandle → GoalHandle) :
    (p.modify slot f).Holds k := by
  obtain ⟨g, hg, hs, ha⟩ := h
  exact ⟨g, List.mem_map.2 ⟨g, hg, by simp [hs, Ne.symm hne]⟩, hs, ha⟩

theorem modify (h : p.Holds k) (slot : Nat) {f : GoalHandle → GoalHandle}
    (hf : ∀ g, (f g).slot = g.slot) (ha : ∀ g, g.status.isActive = true → (f g).status.isActive = true) :
    (p.modify slot f).Holds k := by
  obtain ⟨g, hg, hs, hact⟩ := h
  by_cases hgs : g.slot = slot
  · exact ⟨f g, List.mem_map.2 ⟨g, hg, by simp [hgs]⟩, (hf g).trans hs, ha g hact⟩
  · exact ⟨g, List.mem_map.2 ⟨g, hg, by simp [hgs]⟩, hs, hact⟩

theorem slot_ne_of_used (h : p.Holds k) (hp : p.Partitions n) {g : GoalHandle} (hg : g ∈ p.used)
    (hs : g.status.isActive = false) : g.slot ≠ k := by
  obtain ⟨g', hg', rfl, ha'⟩ := h
  intro heq
  have : g = g' := List.inj_on_of_nodup_map hp.nodup_used hg hg' heq
  subst this
  simp [hs] at ha'

theorem slot_ne_of_free (h : p.Holds k) (hp : p.Partitions n) {g : GoalHandle} (hg : g ∈ p.free) :
    g.slot ≠ k := by
  obtain ⟨g', hg', rfl, -⟩ := h
  intro heq
  have hn : p.slots.Nodup := hp.nodup_iff.2 (List.nodup_range n)
  rw [GoalPool.slots, List.map_append] at hn
  exact List.disjoint_of_nodup_append hn (List.mem_map_of_mem _ hg') (heq ▸ List.mem_map_of_mem _ hg)

end GoalPool.Holds

/-- The server's pool is whole and holds the goal in progress at address `k`. -/
structure ActionServer.Keeps (k : Nat) (a : ActionServer) : Prop where
  sound : a.PoolSound
  holds : a.goals.Holds k

theorem ActionServer.Keeps.congr {k : Nat} {a a' : ActionServer} (h : a.Keeps k)
    (hg : a'.goals = a.goals) (hs : a'.goalHandlesMemorySize = a.goalHandlesMemorySize) :
    a'.Keeps k :=
  ⟨by unfold ActionServer.PoolSound; rw [hg, hs]; exact h.sound, hg ▸ h.holds⟩

/-! ### The server's functions -/

section server
variable (mw : Middleware) (i : Nat) (context : Ptr) {k : Nat} {a : ActionServer}

theorem takeGoalRequestPart_keeps (h : a.Keeps k) : (takeGoalRequestPart mw i a).2.1.Keeps k := by
  refine ⟨takeGoalRequestPart_poolSound mw i h.sound, ?_⟩
  simp only [takeGoalRequestPart]
  split
  · split
    · exact h.holds
    · next g pool htake =>
        have hne := h.holds.slot_ne_of_free h.sound (rclcActionTakeGoalHandle_mem htake)
        have hpool := h.holds.take_some htake
        split
        · exact hpool.remove hne
        · exact hpool.modify_of_ne hne _
  · exact h.holds

theorem takeResultRequestPart_keeps (h : a.Keeps k) :
    (takeResultRequestPart mw i a).2.1.Keeps k := by
  refine ⟨takeResultRequestPart_poolSound mw i h.sound, ?_⟩
  simp only [takeResultRequestPart]
  (repeat' split) <;> first | exact h.holds | exact h.holds.modify _ (fun _ => rfl) fun _ _ => rfl

theorem takeCancelRequestPart_keeps (h : a.Keeps k) :
    (takeCancelRequestPart mw i a).2.1.Keeps k := by
  refine ⟨takeCancelRequestPart_poolSound mw i h.sound, ?_⟩
  simp only [takeCancelRequestPart]
  (repeat' split) <;> first | exact h.holds | exact h.holds.modify _ (fun _ => rfl) fun _ _ => rfl

theorem serverParts_keeps : ∀ part ∈ [takeGoalRequestPart mw i, takeResultRequestPart mw i,
    takeCancelRequestPart mw i], ∀ a : ActionServer, a.Keeps k → (part a).2.1.Keeps k := by
  simp only [List.forall_mem_cons, List.not_mem_nil, false_implies, implies_true, and_true]
  exact ⟨fun _ => takeGoalRequestPart_keeps mw i, fun _ => takeResultRequestPart_keeps mw i,
    fun _ => takeCancelRequestPart_keeps mw i⟩

theorem goalRequestBody_keeps {g : GoalHandle} (hg : g ∈ a.goals.used) (hu : g.status = .unknown)
    (h : a.Keeps k) : (goalRequestBody mw i context g a).1.Keeps k := by
  refine ⟨goalRequestBody_poolSound mw i context g h.sound, ?_⟩
  simp only [goalRequestBody]
  split
  · exact h.holds.modify _ (fun _ => rfl) fun _ _ => rfl
  · exact h.holds.remove (h.holds.slot_ne_of_used h.sound hg (by simp [hu, GoalState.isActive]))

theorem cancelRequestBody_keeps (g : GoalHandle) (h : a.Keeps k) :
    (cancelRequestBody mw i context g a).1.Keeps k := by
  refine ⟨cancelRequestBody_poolSound mw i context g h.sound, ?_⟩
  simp only [cancelRequestBody]
  (repeat' split) <;> first
    | exact h.holds
    | exact h.holds.modify _ (fun _ => rfl) fun _ h => h
    | exact h.holds.modify _ (fun _ => rfl) fun _ _ => rfl

theorem executeActionServer_keeps (h : a.Keeps k) :
    (executeActionServer mw i context a).1.Keeps k := by
  simp only [executeActionServer]
  refine ite_sweep (fun hb => (forUsed_preserves (fun g _ => cancelRequestBody_keeps mw i context g)
    _ _ hb).congr rfl rfl) ?_
  refine ite_sweep (fun hb => (whileFound_preserves (fun g _ hf => goalRequestBody_keeps mw i context
    (GoalPool.findFirst_spec hf).1 (by simpa using (GoalPool.findFirst_spec hf).2)) _ _ hb).congr
    rfl rfl) ?_
  split
  · refine (whileFound_preserves (fun g b hf hb => ⟨GoalPool.Partitions.remove hb.sound g.slot,
      hb.holds.remove (hb.holds.slot_ne_of_used hb.sound (GoalPool.findFirst_spec hf).1 ?_)⟩) _ _
      h).congr rfl rfl
    have ht := (GoalPool.findFirst_spec hf).2
    revert ht
    cases g.status <;> decide
  · exact h

end server

/-! ### Calls -/

/-- Whether a call may end the goal in progress at address `k` of the server at `p`: it
registers that server again, or it is the user's terminal transition of that goal. -/
def Op.endsGoal (p : Ptr) (k : Nat) : Op → Bool
  | .addActionServer q .. => q == p
  | .sendResult q slot status => q == p && slot == k && status.isTerminal
  | _ => false

section calls
variable {p : Ptr} {k : Nat}

theorem rclcExecutorAddActionClient_actionServers (s : State) (q n r fb gc fc rc cc x : Nat)
    (a : Bool) (f : MwRet) (en : MwRet × NumEntities) :
    (rclcExecutorAddActionClient s q n r fb gc fc rc cc x a f en).2.actionServers =
      s.actionServers := by
  simp only [rclcExecutorAddActionClient]
  (repeat' split) <;> rfl

theorem rclcExecutorAddActionServer_actionServers_of_ne (s : State) {q : Ptr} (hq : p ≠ q)
    (n g gs gc cc x : Nat) (a : Bool) (f : MwRet) (en : MwRet × NumEntities) :
    (rclcExecutorAddActionServer s q n g gs gc cc x a f en).2.actionServers p =
      s.actionServers p := by
  simp only [rclcExecutorAddActionServer]
  (repeat' split) <;> simp only [Function.update_noteq hq]

theorem passFn_keepsGoal (mw : Middleware) (q : Pass) (i : Nat) {s : State}
    (h : (s.actionServers p).Keeps k) : ((passFn mw q i s).2.1.actionServers p).Keeps k := by
  by_cases hi : (s.executor.handles i).type = .actionServer ∧ (s.executor.handles i).endpoint = p
  · obtain ⟨ht, rfl⟩ := hi
    cases q <;> simp only [passFn, rclcCheckForNewData, rclcTakeNewData, rclcExecute, ht,
      State.setActionServer, Function.update_same]
    · exact h.congr rfl rfl
    · exact runParts_preserves _ (serverParts_keeps mw i) _ h
    · split
      · exact h
      · simp only [Function.update_same]
        exact executeActionServer_keeps mw i _ h
  · rw [passFn_actionServers mw q i s hi]
    exact h

theorem rclcExecutorSpinSome_keepsGoal (mw : Middleware) {s : State}
    (h : (s.actionServers p).Keeps k) : ((rclcExecutorSpinSome mw s).state.actionServers p).Keeps k :=
  @rclcExecutorSpinSome_preserves mw (fun t => (t.actionServers p).Keeps k)
    (fun q i _ ht _ _ => passFn_keepsGoal mw q i ht)
    (fun i t ht _ _ => by
      show ((waitSetAddStep mw i t).state.actionServers p).Keeps k
      rw [(waitSetAddStep_actionRecords mw i t).2]
      exact ht)
    (fun _ _ ht => ht) s h

theorem Op.exec_keepsGoal (op : Op) (hop : op.endsGoal p k = false) {s : State}
    (h : (s.actionServers p).Keeps k) : ((op.exec s).2.actionServers p).Keeps k := by
  cases op
  case addActionClient =>
    exact (rclcExecutorAddActionClient_actionServers s ..).symm ▸ h
  case addActionServer q n g gs gc cc x a f en =>
    have hq : p ≠ q := fun hpq => by simp [Op.endsGoal, hpq] at hop
    exact (rclcExecutorAddActionServer_actionServers_of_ne s hq ..).symm ▸ h
  case spinSome mw => exact rclcExecutorSpinSome_keepsGoal mw h
  case sendResult q slot status =>
    simp only [Op.exec, State.setActionServer]
    by_cases hq : p = q
    · subst hq
      simp only [Op.endsGoal, beq_self_eq_true, Bool.true_and, Bool.and_eq_false_iff,
        beq_eq_false_iff_ne] at hop
      rw [Function.update_same]
      unfold rclcActionSendResult
      split
      · next hterm =>
          have hne : slot ≠ k := fun hsk => by simp [hsk, hterm] at hop
          exact ⟨h.sound.modify _ fun _ => rfl, h.holds.modify_of_ne hne _⟩
      · exact h
    · rw [Function.update_noteq hq]
      exact h
  all_goals exact h

theorem runOps_keepsGoal (ops : List Op) (hops : ∀ op ∈ ops, op.endsGoal p k = false) :
    ∀ {s : State}, (s.actionServers p).Keeps k → ((runOps ops s).actionServers p).Keeps k := by
  induction ops with
  | nil => exact id
  | cons op ops ih =>
      exact fun h => ih (fun o ho => hops o (List.mem_cons_of_mem _ ho))
        (op.exec_keepsGoal (hops op (List.mem_cons_self _ _)) h)

end calls

/-- The executor never takes the goal handle from a goal in progress. If the pool of the
action server at `p` is whole and its goal handle at address `k` holds a goal in
`GOAL_STATE_ACCEPTED`, `EXECUTING` or `CANCELING`, then after any sequence of calls that
neither registers that server again nor ends that goal with `rclc_action_send_result`
(rounds of `rclc_executor_spin_some` with any middleware answers, goal, result and cancel
requests, `cancel_callback` accepting or rejecting, other goals rejected or released
included), the goal handle at `k` is still on the used list and its goal still in progress. -/
theorem active_goal_keeps_handle (ops : List Op) {s : State} {p : Ptr} {k : Nat}
    (hsound : (s.actionServers p).PoolSound) (hk : (s.actionServers p).goals.Holds k)
    (hops : ∀ op ∈ ops, op.endsGoal p k = false) :
    ((runOps ops s).actionServers p).goals.Holds k :=
  (runOps_keepsGoal ops hops ⟨hsound, hk⟩).holds

theorem active_goal_keeps_handle_cancelled :
    ((runOps [.spinSome (goalRequestRound 42)] serverState).actionServers 5).PoolSound ∧
    ((runOps [.spinSome (goalRequestRound 42)] serverState).actionServers 5).goals.Holds 0 ∧
    (∀ op ∈ [Op.spinSome (cancelRequestRound 42), .spinSome (resultRequestRound 42)],
      op.endsGoal 5 0 = false) ∧
    ((runOps [.spinSome (cancelRequestRound 42), .spinSome (resultRequestRound 42)]
      (runOps [.spinSome (goalRequestRound 42)] serverState)).actionServers 5).goals.Holds 0 :=
  have hs := (runOps_poolsSound _ (runOps_poolsSound _ (initBlank_poolsSound 1))).servers 5
  ⟨hs, by decide, by decide, active_goal_keeps_handle _ hs (by decide) (by decide)⟩

end RclcExecutor
