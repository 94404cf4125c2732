import Mathlib

/-!
# Transducers

A machine that reads its input from left to right and writes some output at each letter. What it
writes does not depend on how the input is cut into pieces.
-/

namespace Transducer
open List

variable {σ α β : Type*} (step : σ → α → σ × List β)

/-- The state after the input, and what was written. -/
def run : σ → List α → σ × List β
  | s, [] => (s, [])
  | s, a :: rest =>
    let next := step s a
    let after := run next.1 rest
    (after.1, next.2 ++ after.2)

/-- The input in pieces: the state carries across each cut. -/
def runPieces : σ → List (List α) → σ × List (List β)
  | s, [] => (s, [])
  | s, piece :: rest =>
    let next := run step s piece
    let after := runPieces next.1 rest
    (after.1, next.2 :: after.2)

@[simp] lemma run_nil (s : σ) : run step s [] = (s, []) := rfl

lemma run_cons (s : σ) (a : α) (rest : List α) :
    run step s (a :: rest) =
      ((run step (step s a).1 rest).1, (step s a).2 ++ (run step (step s a).1 rest).2) := rfl

lemma run_append (s : σ) (xs ys : List α) :
    run step s (xs ++ ys) =
      ((run step (run step s xs).1 ys).1,
        (run step s xs).2 ++ (run step (run step s xs).1 ys).2) := by
  induction xs generalizing s with
  | nil => simp
  | cons a rest ih => simp [run_cons, ih]

/-- The pieces written, put together, are what the whole input writes. -/
lemma runPieces_flatten (s : σ) (pieces : List (List α)) :
    ((runPieces step s pieces).1, (runPieces step s pieces).2.flatten) =
      run step s pieces.flatten := by
  induction pieces generalizing s with
  | nil => rfl
  | cons piece rest ih =>
    rw [flatten_cons, run_append, ← ih]
    rfl

lemma runPieces_append (s : σ) (xs ys : List (List α)) :
    runPieces step s (xs ++ ys) =
      ((runPieces step (runPieces step s xs).1 ys).1,
        (runPieces step s xs).2 ++ (runPieces step (runPieces step s xs).1 ys).2) := by
  induction xs generalizing s with
  | nil => rfl
  | cons piece rest ih => simp [runPieces, ih]

@[simp] lemma length_runPieces (s : σ) (pieces : List (List α)) :
    (runPieces step s pieces).2.length = pieces.length := by
  induction pieces generalizing s with
  | nil => rfl
  | cons piece rest ih => simp [runPieces, ih]

end Transducer
