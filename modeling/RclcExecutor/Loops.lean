import RclcExecutor.System

/-!
The handle loops of a round, read two ways.

`forHandles_preserves`: a property that every iteration keeps, the loop keeps; an
iteration only ever runs at a registered position.

`forHandles_eq_foldSteps`: on a table whose first `n` slots are the registered ones, and
whose iterations keep it so, the loop is a fold over the positions `0, ..., n - 1` that
stops at the first iteration asking to return. Everything said later about the order of
the calls of a round starts from this equation.
-/

namespace RclcExecutor

/-- The loop of `forHandles` over an explicit list of positions. -/
def foldSteps {α : Type} (body : Nat → State → Iter α) : List Nat → RclRet → State → Iter α
  | [], rc, s => ⟨rc, s, [], false⟩
  | i :: is, _, s =>
      let r := body i s
      if r.exit then r
      else
        let r' := foldSteps body is r.rc r.state
        { r' with log := r.log ++ r'.log }

section loops
variable {α : Type} {body : Nat → State → Iter α}

theorem forHandles_preserves {P : State → Prop}
    (hbody : ∀ i s, P s → i < s.executor.maxHandles →
      (s.executor.handles i).initialized = true → P (body i s).state) :
    ∀ fuel i rc s, P s → P (forHandles body fuel i rc s).state := by
  intro fuel
  induction fuel with
  | zero => intro i rc s hs; exact hs
  | succ fuel ih =>
      intro i rc s hs
      unfold forHandles
      split
      · next hi =>
          have h1 := hbody i s hs hi.1 hi.2
          dsimp only
          split
          · exact h1
          · exact ih _ _ _ h1
      · exact hs

theorem foldSteps_preserves {P : State → Prop} (ps : List Nat)
    (hbody : ∀ i ∈ ps, ∀ s, P s → P (body i s).state) :
    ∀ rc s, P s → P (foldSteps body ps rc s).state := by
  induction ps with
  | nil => intro rc s hs; exact hs
  | cons i ps ih =>
      intro rc s hs
      have h1 := hbody i (List.mem_cons_self _ _) s hs
      simp only [foldSteps]
      split
      · exact h1
      · exact ih (fun j hj => hbody j (List.mem_cons_of_mem _ hj)) _ _ h1

/-- The first `n` of the `m` slots are the registered ones. -/
def Shaped (n m : Nat) (s : State) : Prop :=
  s.executor.index = n ∧ s.executor.maxHandles = m ∧ n ≤ m ∧
    ∀ j < m, (s.executor.handles j).initialized = true ↔ j < n

theorem forHandles_eq_foldSteps {n m : Nat}
    (hbody : ∀ i s, Shaped n m s → i < n → Shaped n m (body i s).state) :
    ∀ fuel i rc s, Shaped n m s → i ≤ n → n - i ≤ fuel →
      forHandles body fuel i rc s = foldSteps body (List.range' i (n - i)) rc s := by
  intro fuel
  induction fuel with
  | zero =>
      intro i rc s _ hi hf
      have : n - i = 0 := by omega
      simp [forHandles, this, foldSteps]
  | succ fuel ih =>
      intro i rc s hs hi hf
      obtain ⟨hidx, hmax, hnm, hinit⟩ := hs
      by_cases hin : i < n
      · have hcond : i < s.executor.maxHandles ∧ (s.executor.handles i).initialized = true :=
          ⟨by omega, (hinit i (by omega)).2 hin⟩
        have hrange : List.range' i (n - i) = i :: List.range' (i + 1) (n - (i + 1)) := by
          rw [show n - i = (n - (i + 1)) + 1 by omega]; rfl
        rw [hrange]
        simp only [forHandles, hcond, and_self, if_true, foldSteps]
        split
        · rfl
        · rw [ih _ _ _ (hbody i s ⟨hidx, hmax, hnm, hinit⟩ hin) (by omega) (by omega)]
      · have hni : n = i := by omega
        subst hni
        have hcond : ¬(n < s.executor.maxHandles ∧ (s.executor.handles n).initialized = true) :=
          fun h => absurd ((hinit n (hmax ▸ h.1)).1 h.2) (Nat.lt_irrefl n)
        simp [forHandles, hcond, foldSteps]

end loops

end RclcExecutor
