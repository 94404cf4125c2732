import Mathlib

/-!
# Loops over pages

A loop asks for a page with a cursor it holds, and on the answer stops or goes on with a new
state. Along an infinite sequence of answers its requests move forward exactly when every page it
goes on from moves it forward.
-/

namespace Paging

/-- What a loop does on a page. -/
inductive Turn (σ ρ : Type)
  | goOn (state : σ)
  | stop (result : ρ)

variable {σ ρ π κ : Type} (turn : σ → π → Turn σ ρ) (start : σ) (pages : ℕ → π)

/-- The state the loop asks for page `n` in, `none` once it has stopped. -/
def stateAt : ℕ → Option σ
  | 0 => some start
  | n + 1 => (stateAt n).bind (fun s =>
    match turn s (pages n) with
    | .goOn s => some s
    | .stop _ => none)

variable {turn start pages}

lemma stateAt_succ {n : ℕ} {s : σ} : stateAt turn start pages (n + 1) = some s ↔
    ∃ before, stateAt turn start pages n = some before ∧ turn before (pages n) = .goOn s := by
  change (stateAt turn start pages n).bind _ = some s ↔ _
  rw [Option.bind_eq_some_iff]
  refine exists_congr (fun before => and_congr_right (fun _ => ?_))
  cases turn before (pages n) <;> simp

variable (turn start pages) [Preorder κ] (cursor : σ → κ)

/-- Every request is later than every earlier one. -/
def Advances : Prop :=
  ∀ m n before after, m < n → stateAt turn start pages m = some before →
    stateAt turn start pages n = some after → cursor before < cursor after

variable {turn start pages cursor}

/-- Requests move forward exactly when each does from the one before it. -/
lemma advances_iff_steps : Advances turn start pages cursor ↔
    ∀ n before after, stateAt turn start pages n = some before →
      stateAt turn start pages (n + 1) = some after → cursor before < cursor after := by
  constructor
  · exact fun h n before after hb ha => h n (n + 1) before after (by omega) hb ha
  · intro h m n before after hmn hb ha
    induction n generalizing after with
    | zero => omega
    | succ n ih =>
      obtain ⟨middle, hm, -⟩ := stateAt_succ.mp ha
      have hlast := h n middle after hm ha
      by_cases he : m = n
      · subst he
        rw [Option.some.inj (hb.symm.trans hm)]
        exact hlast
      · exact (ih middle (by omega) hm).trans hlast

/-- Where `At n s` says what state page `n` is asked in, `Goes n` that the loop goes on from it,
and `position n` where that request starts, the requests move forward exactly when the positions
of the pages it goes on from do. -/
lemma advances_iff_positions (At : ℕ → σ → Prop) {Goes : ℕ → Prop} {position : ℕ → κ}
    (hstart : At 0 start)
    (hnext : ∀ n s after, At n s → turn s (pages n) = .goOn after → At (n + 1) after)
    (hgoes : ∀ n s, At n s → ((∃ after, turn s (pages n) = .goOn after) ↔ Goes n))
    (hposition : ∀ n s, At n s → cursor s = position n) :
    Advances turn start pages cursor ↔
      ∀ n, (∀ k ≤ n, Goes k) → position n < position (n + 1) := by
  have hat : ∀ n s, stateAt turn start pages n = some s → At n s ∧ ∀ k < n, Goes k := by
    intro n
    induction n with
    | zero =>
      intro s hs
      cases hs
      exact ⟨hstart, by simp⟩
    | succ n ih =>
      intro s hs
      obtain ⟨before, hb, hturn⟩ := stateAt_succ.mp hs
      obtain ⟨hbefore, hall⟩ := ih before hb
      refine ⟨hnext n before s hbefore hturn, fun k hk => ?_⟩
      by_cases he : k = n
      · exact he ▸ (hgoes n before hbefore).mp ⟨s, hturn⟩
      · exact hall k (by omega)
  have hreach : ∀ n, (∀ k < n, Goes k) → ∃ s, stateAt turn start pages n = some s := by
    intro n
    induction n with
    | zero => exact fun _ => ⟨start, rfl⟩
    | succ n ih =>
      intro hall
      obtain ⟨s, hs⟩ := ih (fun k hk => hall k (by omega))
      obtain ⟨after, ha⟩ := (hgoes n s (hat n s hs).1).mpr (hall n (by omega))
      exact ⟨after, stateAt_succ.mpr ⟨s, hs, ha⟩⟩
  rw [advances_iff_steps]
  constructor
  · intro h n hall
    obtain ⟨after, ha⟩ := hreach (n + 1) (fun k hk => hall k (by omega))
    obtain ⟨before, hb, -⟩ := stateAt_succ.mp ha
    rw [← hposition n before (hat n before hb).1, ← hposition (n + 1) after (hat _ after ha).1]
    exact h n before after hb ha
  · intro h n before after hb ha
    rw [hposition n before (hat n before hb).1, hposition (n + 1) after (hat _ after ha).1]
    exact h n (fun k hk => (hat _ after ha).2 k (by omega))

end Paging
