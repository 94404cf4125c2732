import Mathlib

/-!
# Runs of a labelled transition function

A system is a total function `step : σ → ι → σ`; a label that is not enabled leaves the
state as it is. An interleaving of several processes is a list of labels, each naming the
process that moves. The rules below lift what one step preserves to whole runs.
-/

namespace Runs
open List

variable {σ ι : Type*} (step : σ → ι → σ)

/-- The state reached from `s` by the labels `ls`, in order. -/
def run (s : σ) (ls : List ι) : σ := ls.foldl step s

@[simp] lemma run_nil (s : σ) : run step s [] = s := rfl

@[simp] lemma run_cons (s : σ) (l : ι) (ls : List ι) :
    run step s (l :: ls) = run step (step s l) ls := rfl

@[simp] lemma run_append (s : σ) (ls ms : List ι) :
    run step s (ls ++ ms) = run step (run step s ls) ms := foldl_append

/-- Every step of the run meets `C` in the state it is taken from. -/
def Meets (C : σ → ι → Prop) : σ → List ι → Prop
  | _, [] => True
  | s, l :: ls => C s l ∧ Meets C (step s l) ls

@[simp] lemma meets_append {C : σ → ι → Prop} {s : σ} {ls ms : List ι} :
    Meets step C s (ls ++ ms) ↔ Meets step C s ls ∧ Meets step C (run step s ls) ms := by
  induction ls generalizing s with
  | nil => simp [Meets]
  | cons l ls ih => simp [Meets, ih, and_assoc]

instance Meets.decidable {C : σ → ι → Prop} [hC : ∀ s l, Decidable (C s l)] :
    ∀ s ls, Decidable (Meets step C s ls)
  | _, [] => isTrue trivial
  | s, l :: ls => @instDecidableAnd _ _ (hC s l) (Meets.decidable (step s l) ls)

/-- What every step preserves under a condition on the step, a run whose steps all meet
the condition preserves. -/
theorem invariant_of_meets (I : σ → Prop) {C : σ → ι → Prop}
    (hstep : ∀ s l, I s → C s l → I (step s l)) {s : σ} (hs : I s) {ls : List ι}
    (hm : Meets step C s ls) : I (run step s ls) := by
  induction ls generalizing s with
  | nil => exact hs
  | cons l ls ih => exact ih (hstep s l hs hm.1) hm.2

lemma meets_of_forall {C : σ → ι → Prop} (hC : ∀ s l, C s l) (s : σ) (ls : List ι) :
    Meets step C s ls := by
  induction ls generalizing s with
  | nil => trivial
  | cons l ls ih => exact ⟨hC s l, ih (step s l)⟩

lemma meets_and {C D : σ → ι → Prop} {s : σ} {ls : List ι} :
    Meets step (fun s l => C s l ∧ D s l) s ls ↔ Meets step C s ls ∧ Meets step D s ls := by
  induction ls generalizing s with
  | nil => simp [Meets]
  | cons l ls ih =>
    simp only [Meets, ih]
    exact and_and_and_comm

/-- What every step preserves, every run preserves. -/
theorem invariant (I : σ → Prop) (hstep : ∀ s l, I s → I (step s l)) {s : σ}
    (hs : I s) (ls : List ι) : I (run step s ls) :=
  invariant_of_meets step I (C := fun _ _ => True) (fun s l h _ => hstep s l h) hs
    (meets_of_forall step (fun _ _ => trivial) s ls)

/-- What holds at the start and of every extension of a run by a step holds of every run: the
property may speak of the run so far. -/
theorem invariant_of_history {s : σ} (I : List ι → σ → Prop) (hs : I [] s)
    (hstep : ∀ ls l, I ls (run step s ls) → I (ls ++ [l]) (step (run step s ls) l))
    (ls : List ι) : I ls (run step s ls) := by
  induction ls using List.reverseRecOn with
  | nil => exact hs
  | append_singleton ls l ih =>
    rw [run_append]
    exact hstep ls l ih

end Runs
