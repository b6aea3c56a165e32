import RclcExecutor.Execute

/-!
The four sweeps of `_rclc_execute` that search the used goal handles afresh in every round,
`while ((g = rclc_action_find_first_*(...)) != NULL)`, end by themselves.

Each sweep's body settles the goal handle its search found: it clears the flag the search
looks for, moves the goal out of `GOAL_STATE_UNKNOWN`, or gives the goal handle back to the
free list, and it does so on every branch, a failing `rclc_action_send_result_request`
included. So every round lowers the number of used goal handles the search can find, and
after at most as many rounds as there are used goal handles none is left. `whileFound`
with that many rounds is then the C loop: more rounds would change nothing.
-/

namespace RclcExecutor

/-! ### Counting what a sweep has left -/

def GoalPool.countUsed (p : GoalPool) (q : GoalHandle → Bool) : Nat := p.used.countP q

theorem countP_lt_of_mem {α : Type} {p q : α → Bool} {l : List α} (h : ∀ x ∈ l, p x → q x)
    {a : α} (ha : a ∈ l) (hp : p a = false) (hq : q a = true) : l.countP p < l.countP q := by
  induction l with
  | nil => exact absurd ha (List.not_mem_nil a)
  | cons b l ih =>
      have hb : (if p b then 1 else 0) ≤ if q b then 1 else 0 := by
        cases hpb : p b
        · simp
        · simp [h b (List.mem_cons_self b l) hpb]
      simp only [List.countP_cons]
      rcases List.mem_cons.1 ha with rfl | ha
      · have := List.countP_mono_left fun x hx => h x (List.mem_cons_of_mem a hx)
        simp only [hp, hq, Bool.false_eq_true, ↓reduceIte]
        omega
      · have := ih (fun x hx => h x (List.mem_cons_of_mem b hx)) ha
        omega

section countUsed
variable {p : GoalPool} {q : GoalHandle → Bool}

theorem GoalPool.findFirst_eq_none_iff_countUsed : p.findFirst q = none ↔ p.countUsed q = 0 := by
  simp [GoalPool.findFirst_eq_none, GoalPool.countUsed]

theorem GoalPool.countUsed_modify_of_eq (slot : Nat) {f : GoalHandle → GoalHandle}
    (hf : ∀ g, q (f g) = q g) : (p.modify slot f).countUsed q = p.countUsed q := by
  simp only [GoalPool.countUsed, GoalPool.modify_used, List.countP_map]
  exact List.countP_congr fun g _ => by by_cases h : g.slot = slot <;> simp [h, hf]

theorem GoalPool.countUsed_modify_lt {g : GoalHandle} (hg : g ∈ p.used) (hq : q g = true)
    (f : GoalHandle → GoalHandle) (hf : ∀ g, q (f g) = false) :
    (p.modify g.slot f).countUsed q < p.countUsed q := by
  simp only [GoalPool.countUsed, GoalPool.modify_used, List.countP_map]
  refine countP_lt_of_mem (fun x _ hx => ?_) hg (by simp [hf]) hq
  by_cases h : x.slot = g.slot
  · simp [Function.comp, h, hf] at hx
  · simpa [Function.comp, h] using hx

theorem GoalPool.countUsed_remove_le (slot : Nat) :
    (rclcActionRemoveUsedGoalHandle p slot).countUsed q ≤ p.countUsed q := by
  unfold rclcActionRemoveUsedGoalHandle
  split
  · exact Nat.le_refl _
  · exact ((List.filter_sublist _).countP_le _)

theorem GoalPool.countUsed_remove_lt {g : GoalHandle} (hg : g ∈ p.used) (hq : q g = true) :
    (rclcActionRemoveUsedGoalHandle p g.slot).countUsed q < p.countUsed q := by
  unfold rclcActionRemoveUsedGoalHandle
  split
  · next h => exact absurd (List.find?_eq_none.1 h g hg) (by simp)
  · simp only [GoalPool.countUsed, List.countP_filter]
    exact countP_lt_of_mem (fun x _ hx => by simp_all) hg (by simp) hq

end countUsed

/-! ### A sweep that lowers its count ends -/

/-- What makes `whileFound find body fuel a` the loop
`while ((g = find(a)) != NULL) a = body(g, a)`: every round lowers `count`, the rounds
end with `count` at zero, and more rounds would change nothing. -/
structure Drains {σ : Type} (find : σ → Option GoalHandle) (count : σ → Nat)
    (body : GoalHandle → σ → σ × List Event) (fuel : Nat) (a : σ) : Prop where
  decreases : ∀ g b, find b = some g → count (body g b).1 < count b
  exhausts : count (whileFound find body fuel a).1 = 0
  enough : ∀ k, whileFound find body (fuel + k) a = whileFound find body fuel a

section whileFound
variable {σ : Type} {find : σ → Option GoalHandle} {count : σ → Nat}
  {body : GoalHandle → σ → σ × List Event}

theorem whileFound_exhausts (hnone : ∀ b, find b = none ↔ count b = 0)
    (hdec : ∀ g b, find b = some g → count (body g b).1 < count b) :
    ∀ fuel a, count a ≤ fuel → count (whileFound find body fuel a).1 = 0 ∧
      ∀ k, whileFound find body (fuel + k) a = whileFound find body fuel a := by
  intro fuel
  induction fuel with
  | zero =>
      intro a ha
      have hf : find a = none := (hnone a).2 (by omega)
      refine ⟨(hnone a).1 hf, fun k => ?_⟩
      cases k with
      | zero => rfl
      | succ k => simp [whileFound, hf]
  | succ n ih =>
      intro a ha
      rcases hf : find a with _ | g
      · have hw : ∀ m, whileFound find body (m + 1) a = (a, []) := fun m => by simp [whileFound, hf]
        exact ⟨by rw [hw]; exact (hnone a).1 hf, fun k => by rw [Nat.add_right_comm, hw, hw]⟩
      · obtain ⟨h0, hk⟩ := ih (body g a).1 (by have := hdec g a hf; omega)
        exact ⟨by simpa [whileFound, hf] using h0,
          fun k => by rw [Nat.add_right_comm]; simp [whileFound, hf, hk]⟩

/-- A sweep whose search finds nothing exactly when `count` is zero, and whose body lowers
`count`, is the C loop when run for `count a` rounds or more. -/
theorem whileFound_drains (hdec : ∀ g b, find b = some g → count (body g b).1 < count b)
    (hnone : ∀ b, find b = none ↔ count b = 0) {fuel : Nat} {a : σ} (ha : count a ≤ fuel) :
    Drains find count body fuel a :=
  ⟨hdec, (whileFound_exhausts hnone hdec fuel a ha).1, (whileFound_exhausts hnone hdec fuel a ha).2⟩

end whileFound

/-! ### The four sweeps -/

section sweeps
variable (mw : Middleware) (i : Nat) (context : Ptr)

theorem rclcActionSendResultRequest_countUsed (g : GoalHandle) (c : ActionClient) :
    (rclcActionSendResultRequest mw i g c).2.goals.countUsed (·.availableGoalResponse) =
      c.goals.countUsed (·.availableGoalResponse) := by
  unfold rclcActionSendResultRequest
  dsimp only
  split
  · exact GoalPool.countUsed_modify_of_eq _ fun _ => rfl
  · rfl

theorem goalResponseBody_lt {g : GoalHandle} {c : ActionClient}
    (hg : rclcActionFindFirstHandleWithGoalResponse c.goals = some g) :
    (goalResponseBody mw i context g c).1.goals.countUsed (·.availableGoalResponse) <
      c.goals.countUsed (·.availableGoalResponse) := by
  obtain ⟨hmem, hq⟩ := GoalPool.findFirst_spec hg
  have hclear := GoalPool.countUsed_modify_lt hmem hq
    (fun g => { g with availableGoalResponse := false }) fun _ => rfl
  refine Nat.lt_of_le_of_lt ?_ hclear
  unfold goalResponseBody
  dsimp only
  split
  · exact GoalPool.countUsed_remove_le _
  · split
    · refine (GoalPool.countUsed_modify_of_eq _ ?_).trans_le
        (rclcActionSendResultRequest_countUsed ..).le
      exact fun _ => rfl
    · exact (GoalPool.countUsed_remove_le _).trans_eq (rclcActionSendResultRequest_countUsed ..)

theorem resultResponseBody_lt {g : GoalHandle} {c : ActionClient}
    (hg : rclcActionFindFirstHandleWithResultResponse c.goals = some g) :
    (resultResponseBody context g c).1.goals.countUsed (·.availableResultResponse) <
      c.goals.countUsed (·.availableResultResponse) := by
  obtain ⟨hmem, hq⟩ := GoalPool.findFirst_spec hg
  exact Nat.lt_of_le_of_lt (GoalPool.countUsed_remove_le _)
    (GoalPool.countUsed_modify_lt hmem hq _ fun _ => rfl)

theorem releaseTerminated_lt {g : GoalHandle} {a : ActionServer}
    (hg : rclcActionFindFirstTerminatedHandle a.goals = some g) :
    (rclcActionRemoveUsedGoalHandle a.goals g.slot).countUsed (·.status.isTerminal) <
      a.goals.countUsed (·.status.isTerminal) :=
  GoalPool.countUsed_remove_lt (GoalPool.findFirst_spec hg).1 (GoalPool.findFirst_spec hg).2

theorem goalRequestBody_lt {g : GoalHandle} {a : ActionServer}
    (hg : rclcActionFindFirstHandleByStatus a.goals .unknown = some g) :
    (goalRequestBody mw i context g a).1.goals.countUsed (·.status = .unknown) <
      a.goals.countUsed (·.status = .unknown) := by
  obtain ⟨hmem, hq⟩ := GoalPool.findFirst_spec hg
  unfold goalRequestBody
  split
  · exact GoalPool.countUsed_modify_lt hmem hq _ fun _ => by simp
  · exact GoalPool.countUsed_remove_lt hmem hq

end sweeps

/-- Each of the four sweeps of `_rclc_execute` that search the used goal handles afresh, run
as the code runs it for as many rounds as there are used goal handles when it starts, is the
C `while` loop: every round lowers the number of used goal handles the search looks for,
the sweep ends with none left, and more rounds would change nothing. The sweeps are the
goal-response and result-response sweeps of an action client, and the release of terminated
goals and the decision on `GOAL_STATE_UNKNOWN` goals of an action server. -/
theorem goal_sweeps_drain (mw : Middleware) (i : Nat) (context : Ptr) (c : ActionClient)
    (a : ActionServer) :
    Drains (fun c => rclcActionFindFirstHandleWithGoalResponse c.goals)
      (fun c => c.goals.countUsed (·.availableGoalResponse)) (goalResponseBody mw i context)
      c.goals.used.length c ∧
    Drains (fun c => rclcActionFindFirstHandleWithResultResponse c.goals)
      (fun c => c.goals.countUsed (·.availableResultResponse)) (resultResponseBody context)
      c.goals.used.length c ∧
    Drains (fun a => rclcActionFindFirstTerminatedHandle a.goals)
      (fun a => a.goals.countUsed (·.status.isTerminal))
      (fun g a => ({ a with goals := rclcActionRemoveUsedGoalHandle a.goals g.slot }, []))
      a.goals.used.length a ∧
    Drains (fun a => rclcActionFindFirstHandleByStatus a.goals .unknown)
      (fun a => a.goals.countUsed (·.status = .unknown)) (goalRequestBody mw i context)
      a.goals.used.length a :=
  ⟨whileFound_drains (fun _ _ => goalResponseBody_lt mw i context)
      (fun _ => GoalPool.findFirst_eq_none_iff_countUsed) (List.countP_le_length _),
    whileFound_drains (fun _ _ => resultResponseBody_lt context)
      (fun _ => GoalPool.findFirst_eq_none_iff_countUsed) (List.countP_le_length _),
    whileFound_drains (fun _ _ => releaseTerminated_lt)
      (fun _ => GoalPool.findFirst_eq_none_iff_countUsed) (List.countP_le_length _),
    whileFound_drains (fun _ _ => goalRequestBody_lt mw i context)
      (fun _ => GoalPool.findFirst_eq_none_iff_countUsed) (List.countP_le_length _)⟩

end RclcExecutor
