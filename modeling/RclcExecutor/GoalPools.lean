import RclcExecutor.Rounds

/-!
The pools of goal handles. An action client or server owns `goal_handles_memory_size` goal
handles, allocated by `rclc_executor_add_action_*`. From then on a goal handle only moves
between the free list and the used list (`rclc_action_take_goal_handle`,
`rclc_action_remove_used_goal_handle`), or has fields other than its address written. So the
two lists together hold every goal handle exactly once, whatever the program and the
middleware do: none is lost, and none is handed out twice.

Taking a goal handle and writing through one are permutations of the addresses by
construction. The one obligation is the remove: it unlinks every used goal handle with the
address it is given and pushes one of them on the free list, so it keeps the pool whole only
while the used addresses are distinct, and that the invariant itself provides.
-/

namespace RclcExecutor

def GoalPool.slots (p : GoalPool) : List Nat := (p.used ++ p.free).map GoalHandle.slot

/-- The used and free lists together hold each of the goal handles `0, ..., n - 1` once. -/
def GoalPool.Partitions (p : GoalPool) (n : Nat) : Prop := p.slots.Perm (List.range n)

instance (p : GoalPool) (n : Nat) : Decidable (p.Partitions n) :=
  inferInstanceAs (Decidable (List.Perm _ _))

theorem rclcActionInitGoalHandleMemory_partitions (n : Nat) :
    (rclcActionInitGoalHandleMemory n).Partitions n := by
  simp [GoalPool.Partitions, GoalPool.slots, rclcActionInitGoalHandleMemory, Function.comp_def,
    GoalHandle.fresh]

namespace GoalPool.Partitions
variable {p p' : GoalPool} {n : Nat}

theorem of_perm (h : p.Partitions n) (hs : p'.slots.Perm p.slots) : p'.Partitions n := hs.trans h

theorem nodup_used (h : p.Partitions n) : (p.used.map GoalHandle.slot).Nodup := by
  have hn : p.slots.Nodup := h.nodup_iff.2 (List.nodup_range n)
  rw [GoalPool.slots, List.map_append] at hn
  exact hn.of_append_left

theorem take (h : p.Partitions n) : (rclcActionTakeGoalHandle p).2.Partitions n := by
  unfold rclcActionTakeGoalHandle
  split
  · exact h
  · next g free hfree =>
      refine h.of_perm ?_
      simp only [GoalPool.slots, hfree, List.cons_append, List.map_cons, List.map_append]
      exact List.perm_middle.symm

theorem take_some (h : p.Partitions n) {g : GoalHandle}
    (ht : rclcActionTakeGoalHandle p = (some g, p')) : p'.Partitions n := by
  simpa only [ht] using h.take

/-- With the pool whole, `rclc_action_take_goal_handle` finds no free goal handle only when
all `n` are in use. -/
theorem take_eq_none_iff (h : p.Partitions n) :
    (rclcActionTakeGoalHandle p).1 = none ↔ p.used.length = n := by
  have hlen : p.used.length + p.free.length = n := by
    simpa [GoalPool.slots] using h.length_eq
  unfold rclcActionTakeGoalHandle
  split
  · next hfree =>
      simp only [hfree, List.length_nil, Nat.add_zero] at hlen
      simp [hlen]
  · next g free hfree =>
      simp only [hfree, List.length_cons] at hlen
      simp only [reduceCtorEq, false_iff]
      omega

theorem remove (h : p.Partitions n) (slot : Nat) :
    (rclcActionRemoveUsedGoalHandle p slot).Partitions n := by
  unfold rclcActionRemoveUsedGoalHandle
  split
  · exact h
  · next g hg =>
      have hslot : g.slot = slot := by simpa using List.find?_some hg
      have hmem : slot ∈ p.used.map GoalHandle.slot :=
        hslot ▸ List.mem_map_of_mem _ (List.mem_of_find?_eq_some hg)
      have herase : (p.used.filter (·.slot ≠ slot)).map GoalHandle.slot =
          (p.used.map GoalHandle.slot).erase slot := by
        rw [h.nodup_used.erase_eq_filter, List.filter_map]
        exact congrArg _ (List.filter_congr fun x _ => by by_cases hx : x.slot = slot <;> simp [hx])
      refine h.of_perm ?_
      simp only [GoalPool.slots, List.map_append, List.map_cons, herase, hslot]
      exact List.perm_middle.trans ((List.perm_cons_erase hmem).symm.append_right _)

theorem modify (h : p.Partitions n) (slot : Nat) {f : GoalHandle → GoalHandle}
    (hf : ∀ g, (f g).slot = g.slot) : (p.modify slot f).Partitions n := by
  refine h.of_perm (List.Perm.of_eq ?_)
  simp only [GoalPool.slots, GoalPool.modify_used, List.map_append, List.map_map]
  congr 2
  funext g
  by_cases hg : g.slot = slot <;> simp [hg, hf]

theorem mapIdx_free (h : p.Partitions n) {f : Nat → GoalHandle → GoalHandle}
    (hf : ∀ k g, (f k g).slot = g.slot) : ({ p with free := p.free.mapIdx f } : GoalPool).Partitions n := by
  refine h.of_perm (List.Perm.of_eq ?_)
  simp only [GoalPool.slots, List.map_append, List.mapIdx_eq_enum_map, List.map_map]
  congr 1
  conv_rhs => rw [← List.enum_map_snd p.free, List.map_map]
  congr 1
  funext x
  exact hf x.1 x.2

end GoalPool.Partitions

/-! ### Action records -/

/-- The pool of an action client holds each of its goal handles once. -/
def ActionClient.PoolSound (c : ActionClient) : Prop := c.goals.Partitions c.goalHandlesMemorySize

/-- The pool of an action server holds each of its goal handles once. -/
def ActionServer.PoolSound (a : ActionServer) : Prop := a.goals.Partitions a.goalHandlesMemorySize

section loops
variable {σ : Type} {P : σ → Prop}

theorem runParts_preserves : ∀ (parts : List (σ → MwRet × σ × List Event)),
    (∀ part ∈ parts, ∀ a, P a → P (part a).2.1) → ∀ a, P a → P (runParts parts a).2.1
  | [], _, _, ha => ha
  | part :: parts, h, a, ha => by
      have h1 := h part (List.mem_cons_self _ _) a ha
      simp only [runParts]
      split
      · exact h1
      · exact runParts_preserves parts (fun q hq => h q (List.mem_cons_of_mem _ hq)) _ h1

theorem whileFound_preserves {find : σ → Option GoalHandle}
    {body : GoalHandle → σ → σ × List Event} (h : ∀ g a, find a = some g → P a → P (body g a).1) :
    ∀ fuel a, P a → P (whileFound find body fuel a).1
  | 0, _, ha => ha
  | fuel + 1, a, ha => by
      simp only [whileFound]
      split
      · exact ha
      · next g hg => exact whileFound_preserves h fuel _ (h g a hg ha)

theorem forUsed_preserves {body : GoalHandle → σ → σ × List Event}
    (h : ∀ g a, P a → P (body g a).1) : ∀ gs a, P a → P (forUsed body gs a).1
  | [], _, ha => ha
  | g :: gs, a, ha => forUsed_preserves h gs _ (h g a ha)

end loops

theorem ite_sweep {σ : Type} {P : σ → Prop} {b : Bool} {a : σ} {x : σ × List Event}
    (hx : P a → P x.1) (ha : P a) : P (if b = true then x else (a, [])).1 := by
  cases b
  · exact ha
  · exact hx ha

section client
variable (mw : Middleware) (i : Nat) (context : Ptr) {c : ActionClient}

theorem takeGoalResponsePart_poolSound (h : c.PoolSound) :
    (takeGoalResponsePart mw i c).2.1.PoolSound := by
  simp only [takeGoalResponsePart]
  (repeat' split) <;> first | exact h | exact h.modify _ fun _ => rfl

theorem takeFeedbackPart_poolSound (h : c.PoolSound) : (takeFeedbackPart mw i c).2.1.PoolSound := by
  simp only [takeFeedbackPart]
  (repeat' split) <;> first | exact h | exact h.modify _ fun _ => rfl

theorem takeCancelResponsePart_poolSound (h : c.PoolSound) :
    (takeCancelResponsePart mw i c).2.1.PoolSound := by
  simp only [takeCancelResponsePart]
  (repeat' split) <;> first | exact h | exact h.modify _ fun _ => rfl

theorem takeResultResponsePart_poolSound (h : c.PoolSound) :
    (takeResultResponsePart mw i c).2.1.PoolSound := by
  simp only [takeResultResponsePart]
  (repeat' split) <;> first | exact h | exact h.modify _ fun _ => rfl

theorem clientParts_poolSound : ∀ part ∈ [takeGoalResponsePart mw i, takeFeedbackPart mw i,
    takeCancelResponsePart mw i, takeResultResponsePart mw i],
    ∀ c : ActionClient, c.PoolSound → (part c).2.1.PoolSound := by
  simp only [List.forall_mem_cons, List.not_mem_nil, false_implies, implies_true, and_true]
  exact ⟨fun _ => takeGoalResponsePart_poolSound mw i, fun _ => takeFeedbackPart_poolSound mw i,
    fun _ => takeCancelResponsePart_poolSound mw i, fun _ => takeResultResponsePart_poolSound mw i⟩

theorem rclcActionSendResultRequest_poolSound (g : GoalHandle) (h : c.PoolSound) :
    (rclcActionSendResultRequest mw i g c).2.PoolSound := by
  simp only [rclcActionSendResultRequest]
  split
  · exact h.modify _ fun _ => rfl
  · exact h

theorem goalResponseBody_poolSound (g : GoalHandle) (h : c.PoolSound) :
    (goalResponseBody mw i context g c).1.PoolSound := by
  have h1 : ({ c with goals := c.goals.modify g.slot fun g =>
      { g with availableGoalResponse := false } } : ActionClient).PoolSound :=
    h.modify _ fun _ => rfl
  have h2 := rclcActionSendResultRequest_poolSound mw i g h1
  simp only [goalResponseBody]
  split
  · exact h1.remove _
  · split
    · exact h2.modify _ fun _ => rfl
    · exact h2.remove _

theorem feedbackBody_poolSound (g : GoalHandle) (h : c.PoolSound) :
    (feedbackBody context g c).1.PoolSound := by
  simp only [feedbackBody]
  split
  · exact h.modify _ fun _ => rfl
  · exact h

theorem cancelResponseBody_poolSound (g : GoalHandle) (h : c.PoolSound) :
    (cancelResponseBody context g c).1.PoolSound := by
  simp only [cancelResponseBody]
  split
  · exact h.modify _ fun _ => rfl
  · exact h

theorem resultResponseBody_poolSound (g : GoalHandle) (h : c.PoolSound) :
    (resultResponseBody context g c).1.PoolSound := by
  simp only [resultResponseBody]
  refine GoalPool.Partitions.remove ?_ _
  exact h.modify _ fun _ => rfl

theorem executeActionClient_poolSound (h : c.PoolSound) :
    (executeActionClient mw i context c).1.PoolSound := by
  simp only [executeActionClient]
  refine ite_sweep
    (whileFound_preserves (fun g _ _ => resultResponseBody_poolSound context g) _ _) ?_
  refine ite_sweep (forUsed_preserves (fun g _ => cancelResponseBody_poolSound context g) _ _) ?_
  refine ite_sweep (forUsed_preserves (fun g _ => feedbackBody_poolSound context g) _ _) ?_
  exact ite_sweep
    (whileFound_preserves (fun g _ _ => goalResponseBody_poolSound mw i context g) _ _) h

end client

section server
variable (mw : Middleware) (i : Nat) (context : Ptr) {a : ActionServer}

theorem takeGoalRequestPart_poolSound (h : a.PoolSound) :
    (takeGoalRequestPart mw i a).2.1.PoolSound := by
  simp only [takeGoalRequestPart]
  split
  · split
    · exact h
    · next g pool htake =>
        have hp := GoalPool.Partitions.take_some h htake
        split
        · exact hp.remove _
        · exact hp.modify _ fun _ => rfl
  · exact h

theorem takeResultRequestPart_poolSound (h : a.PoolSound) :
    (takeResultRequestPart mw i a).2.1.PoolSound := by
  simp only [takeResultRequestPart]
  (repeat' split) <;> first | exact h | exact h.modify _ fun _ => rfl

theorem takeCancelRequestPart_poolSound (h : a.PoolSound) :
    (takeCancelRequestPart mw i a).2.1.PoolSound := by
  simp only [takeCancelRequestPart]
  (repeat' split) <;> first | exact h | exact h.modify _ fun _ => rfl

theorem serverParts_poolSound : ∀ part ∈ [takeGoalRequestPart mw i, takeResultRequestPart mw i,
    takeCancelRequestPart mw i], ∀ a : ActionServer, a.PoolSound → (part a).2.1.PoolSound := by
  simp only [List.forall_mem_cons, List.not_mem_nil, false_implies, implies_true, and_true]
  exact ⟨fun _ => takeGoalRequestPart_poolSound mw i, fun _ => takeResultRequestPart_poolSound mw i,
    fun _ => takeCancelRequestPart_poolSound mw i⟩

theorem goalRequestBody_poolSound (g : GoalHandle) (h : a.PoolSound) :
    (goalRequestBody mw i context g a).1.PoolSound := by
  simp only [goalRequestBody]
  split
  · exact h.modify _ fun _ => rfl
  · exact h.remove _

theorem cancelRequestBody_poolSound (g : GoalHandle) (h : a.PoolSound) :
    (cancelRequestBody mw i context g a).1.PoolSound := by
  simp only [cancelRequestBody]
  (repeat' split) <;> first | exact h | exact h.modify _ fun _ => rfl

theorem executeActionServer_poolSound (h : a.PoolSound) :
    (executeActionServer mw i context a).1.PoolSound := by
  simp only [executeActionServer]
  refine ite_sweep (forUsed_preserves (fun g _ => cancelRequestBody_poolSound mw i context g) _ _) ?_
  refine ite_sweep
    (whileFound_preserves (fun g _ _ => goalRequestBody_poolSound mw i context g) _ _) ?_
  split
  · show (whileFound (fun a => rclcActionFindFirstTerminatedHandle a.goals) _ _ a).1.PoolSound
    exact whileFound_preserves (fun g _ _ h => GoalPool.Partitions.remove h g.slot) _ _ h
  · exact h

end server

/-! ### The state -/

/-- Every action client's and every action server's pool holds each of its goal handles
once. -/
structure PoolsSound (s : State) : Prop where
  clients : ∀ p, (s.actionClients p).PoolSound
  servers : ∀ p, (s.actionServers p).PoolSound

namespace PoolsSound
variable {s t : State}

theorem of_records (h : PoolsSound s) (hc : t.actionClients = s.actionClients)
    (hs : t.actionServers = s.actionServers) : PoolsSound t :=
  ⟨hc ▸ h.clients, hs ▸ h.servers⟩

theorem clients_update (h : PoolsSound s) {p : Ptr} {c : ActionClient} (hc : c.PoolSound) :
    ∀ q, (Function.update s.actionClients p c q).PoolSound :=
  (Function.forall_update_iff _ fun _ c => ActionClient.PoolSound c).2 ⟨hc, fun q _ => h.clients q⟩

theorem servers_update (h : PoolsSound s) {p : Ptr} {a : ActionServer} (ha : a.PoolSound) :
    ∀ q, (Function.update s.actionServers p a q).PoolSound :=
  (Function.forall_update_iff _ fun _ a => ActionServer.PoolSound a).2 ⟨ha, fun q _ => h.servers q⟩

theorem setActionClient (h : PoolsSound s) {p : Ptr} {c : ActionClient} (hc : c.PoolSound) :
    PoolsSound (s.setActionClient p c) :=
  ⟨h.clients_update hc, h.servers⟩

theorem setActionServer (h : PoolsSound s) {p : Ptr} {a : ActionServer} (ha : a.PoolSound) :
    PoolsSound (s.setActionServer p a) :=
  ⟨h.clients, h.servers_update ha⟩

end PoolsSound

section passes
variable (mw : Middleware) (i : Nat) {s : State}

theorem rclcCheckForNewData_poolsSound (h : PoolsSound s) :
    PoolsSound (rclcCheckForNewData mw i s).2.1 := by
  simp only [rclcCheckForNewData]
  split <;> first
    | exact ⟨h.clients, h.servers⟩
    | exact h.setActionClient (h.clients _)
    | exact h.setActionServer (h.servers _)

theorem rclcTakeNewData_poolsSound (h : PoolsSound s) :
    PoolsSound (rclcTakeNewData mw i s).2.1 := by
  simp only [rclcTakeNewData]
  (repeat' split) <;> first
    | exact ⟨h.clients, h.servers⟩
    | exact h.setActionClient (runParts_preserves _ (clientParts_poolSound mw i) _ (h.clients _))
    | exact h.setActionServer (runParts_preserves _ (serverParts_poolSound mw i) _ (h.servers _))

theorem rclcExecute_poolsSound (h : PoolsSound s) : PoolsSound (rclcExecute mw i s).2.1 := by
  simp only [rclcExecute]
  (repeat' split) <;> first
    | exact ⟨h.clients, h.servers⟩
    | exact h.setActionClient (executeActionClient_poolSound mw i _ (h.clients _))
    | exact h.setActionServer (executeActionServer_poolSound mw i _ (h.servers _))

theorem passFn_poolsSound (p : Pass) (h : PoolsSound s) : PoolsSound (passFn mw p i s).2.1 := by
  cases p
  · exact rclcCheckForNewData_poolsSound mw i h
  · exact rclcTakeNewData_poolsSound mw i h
  · exact rclcExecute_poolsSound mw i h

theorem rclcExecutorSpinSome_poolsSound (h : PoolsSound s) :
    PoolsSound (rclcExecutorSpinSome mw s).state :=
  rclcExecutorSpinSome_preserves mw (fun p i _ ht _ _ => passFn_poolsSound mw i p ht)
    (fun i t ht _ _ => ht.of_records (waitSetAddStep_actionRecords mw i t).1
      (waitSetAddStep_actionRecords mw i t).2)
    (fun _ _ ht => ⟨ht.clients, ht.servers⟩) h

end passes

/-! ### Calls -/

section calls
variable {s : State}

theorem rclcExecutorAddActionClient_poolsSound (h : PoolsSound s) (p n r fb gc fc rc cc x : Nat)
    (a : Bool) (f : MwRet) (en : MwRet × NumEntities) :
    PoolsSound (rclcExecutorAddActionClient s p n r fb gc fc rc cc x a f en).2 := by
  simp only [rclcExecutorAddActionClient]
  (repeat' split) <;> first
    | exact h
    | exact ⟨h.clients_update (h.clients _), h.servers⟩
    | exact ⟨h.clients_update (rclcActionInitGoalHandleMemory_partitions _), h.servers⟩

theorem rclcExecutorAddActionServer_poolsSound (h : PoolsSound s) (p n g gs gc cc x : Nat)
    (a : Bool) (f : MwRet) (en : MwRet × NumEntities) :
    PoolsSound (rclcExecutorAddActionServer s p n g gs gc cc x a f en).2 := by
  simp only [rclcExecutorAddActionServer]
  (repeat' split) <;> first
    | exact h
    | exact ⟨h.clients, h.servers_update (h.servers _)⟩
    | exact ⟨h.clients, h.servers_update
        ((rclcActionInitGoalHandleMemory_partitions _).mapIdx_free fun _ _ => rfl)⟩

theorem rclcActionSendGoalRequest_poolSound {c : ActionClient} (goalId : Nat) (ret : MwRet)
    (seq : Nat) (h : c.PoolSound) : (rclcActionSendGoalRequest c goalId ret seq).2.PoolSound := by
  simp only [rclcActionSendGoalRequest]
  split
  · exact h
  · next g pool htake =>
      have hp := GoalPool.Partitions.take_some h htake
      split
      · exact hp.remove _
      · exact hp.modify _ fun _ => rfl

theorem rclcActionSendCancelRequest_poolSound {c : ActionClient} (slot : Nat) (ret : MwRet)
    (seq : Nat) (h : c.PoolSound) : (rclcActionSendCancelRequest c slot ret seq).2.PoolSound := by
  simp only [rclcActionSendCancelRequest]
  split
  · exact h
  · exact h.modify _ fun _ => rfl

theorem rclcActionSendResult_poolSound {a : ActionServer} (slot : Nat) (status : GoalState)
    (h : a.PoolSound) : (rclcActionSendResult a slot status).2.PoolSound := by
  simp only [rclcActionSendResult]
  split
  · exact h.modify _ fun _ => rfl
  · exact h

theorem Op.exec_poolsSound (op : Op) (h : PoolsSound s) : PoolsSound (op.exec s).2 := by
  cases op
  case addActionClient => exact rclcExecutorAddActionClient_poolsSound h ..
  case addActionServer => exact rclcExecutorAddActionServer_poolsSound h ..
  case spinSome mw => exact rclcExecutorSpinSome_poolsSound mw h
  case sendGoalRequest p id r seq =>
    exact h.setActionClient (rclcActionSendGoalRequest_poolSound id r seq (h.clients p))
  case sendCancelRequest p slot r seq =>
    exact h.setActionClient (rclcActionSendCancelRequest_poolSound slot r seq (h.clients p))
  case sendResult p slot st =>
    exact h.setActionServer (rclcActionSendResult_poolSound slot st (h.servers p))
  all_goals exact ⟨h.clients, h.servers⟩

theorem runOps_poolsSound (ops : List Op) : ∀ {s : State}, PoolsSound s → PoolsSound (runOps ops s) := by
  induction ops with
  | nil => exact id
  | cons op ops ih => exact fun h => ih (op.exec_poolsSound h)

end calls

theorem initBlank_poolsSound (n : Nat) : PoolsSound (initBlank n) :=
  ⟨fun _ => List.Perm.nil, fun _ => List.Perm.nil⟩

/-- No goal handle leaks and none is handed out twice. From a state whose goal-handle pools are
whole, as `rclc_executor_add_action_*` leaves them, after any sequence of calls (adds and
removes, rounds of `rclc_executor_spin_some` whatever the middleware answers, goal, cancel
and result requests, `rclc_executor_fini`), the used and free lists of every action client
and server together hold each of its `goal_handles_memory_size` goal handles exactly once;
so `rclc_action_take_goal_handle` finds no free goal handle only when all of them are in
use. -/
theorem goal_handles_never_leak (ops : List Op) {s : State} (h : PoolsSound s) :
    PoolsSound (runOps ops s) ∧
    (∀ p, (rclcActionTakeGoalHandle ((runOps ops s).actionClients p).goals).1 = none ↔
      ((runOps ops s).actionClients p).goals.used.length =
        ((runOps ops s).actionClients p).goalHandlesMemorySize) ∧
    ∀ p, (rclcActionTakeGoalHandle ((runOps ops s).actionServers p).goals).1 = none ↔
      ((runOps ops s).actionServers p).goals.used.length =
        ((runOps ops s).actionServers p).goalHandlesMemorySize := by
  have hr := runOps_poolsSound ops h
  exact ⟨hr, fun p => (hr.clients p).take_eq_none_iff, fun p => (hr.servers p).take_eq_none_iff⟩

/-- A program that registers an action client with two goal handles, sends a goal and spins. -/
def goalClientRun : List Op :=
  [.addActionClient 6 2 7 0 8 0 9 0 0 true .ok (.ok, ⟨0, 0, 0, 0, 0⟩), .sendGoalRequest 6 42 .ok 1,
    .spinSome Middleware.idle]

theorem goal_handles_never_leak_client :
    PoolsSound (initBlank 1) ∧
    PoolsSound (runOps goalClientRun (initBlank 1)) ∧
    (∀ p, (rclcActionTakeGoalHandle ((runOps goalClientRun (initBlank 1)).actionClients p).goals).1 =
        none ↔
      ((runOps goalClientRun (initBlank 1)).actionClients p).goals.used.length =
        ((runOps goalClientRun (initBlank 1)).actionClients p).goalHandlesMemorySize) ∧
    ∀ p, (rclcActionTakeGoalHandle ((runOps goalClientRun (initBlank 1)).actionServers p).goals).1 =
        none ↔
      ((runOps goalClientRun (initBlank 1)).actionServers p).goals.used.length =
        ((runOps goalClientRun (initBlank 1)).actionServers p).goalHandlesMemorySize :=
  ⟨initBlank_poolsSound 1, goal_handles_never_leak _ (initBlank_poolsSound 1)⟩

end RclcExecutor
