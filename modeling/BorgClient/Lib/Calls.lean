import Mathlib

/-!
# Programs that call their surroundings

A program is known by its calls and the replies to them. A reply may depend on every call before it,
so what holds against every host holds in all surroundings. An observer follows the calls with a
state of its own, and says which call is allowed in which state.
-/

namespace Calls
open List

variable {κ : Type} {ρ : κ → Type} {ε ε' α β σ : Type}

/-- A call with its reply. -/
abbrev Event (ρ : κ → Type) := (call : κ) × ρ call

/-- The reply to a call, given the calls so far. -/
abbrev Host (ρ : κ → Type) := List (Event ρ) → (call : κ) → ρ call

/-- How a program ends, or that it is still in a loop. -/
inductive Outcome (ε α : Type) where
  | done (value : α)
  | failed (error : ε)
  | waiting
deriving DecidableEq, Repr

def Prog (ρ : κ → Type) (ε α : Type) :=
  Host ρ → List (Event ρ) → Outcome ε α × List (Event ρ)

namespace Prog

def bind (program : Prog ρ ε α) (next : α → Prog ρ ε β) : Prog ρ ε β := fun host calls =>
  match program host calls with
  | (.done value, calls) => next value host calls
  | (.failed error, calls) => (.failed error, calls)
  | (.waiting, calls) => (.waiting, calls)

instance : Monad (Prog ρ ε) where
  pure value := fun _ calls => (.done value, calls)
  bind := bind

def fail (error : ε) : Prog ρ ε α := fun _ calls => (.failed error, calls)

/-- Out of fuel. -/
def wait : Prog ρ ε α := fun _ calls => (.waiting, calls)

def call (call : κ) : Prog ρ ε (ρ call) := fun host calls =>
  (.done (host calls call), calls ++ [⟨call, host calls call⟩])

/-- `try { ... } catch (error) { ... }` -/
def catchWith (program : Prog ρ ε α) (handler : ε → Prog ρ ε' α) : Prog ρ ε' α := fun host calls =>
  match program host calls with
  | (.done value, calls) => (.done value, calls)
  | (.failed error, calls) => handler error host calls
  | (.waiting, calls) => (.waiting, calls)

/-- How a program ends, as a value. -/
def attempt (program : Prog ρ ε α) : Prog ρ ε' (Except ε α) := fun host calls =>
  match program host calls with
  | (.done value, calls) => (.done (.ok value), calls)
  | (.failed error, calls) => (.done (.error error), calls)
  | (.waiting, calls) => (.waiting, calls)

/-- A reply that is a failure fails the program. -/
def orFail (reply : Except ε α) : Prog ρ ε α :=
  match reply with
  | .ok value => pure value
  | .error error => fail error

end Prog

/-! ### Observers -/

structure Observer (ρ : κ → Type) (σ : Type) where
  start : σ
  note : σ → Event ρ → σ
  Allowed : σ → κ → Prop

namespace Observer

variable (O : Observer ρ σ)

def observed (calls : List (Event ρ)) : σ := calls.foldl O.note O.start

/-- Every call was allowed by what was observed before it. -/
def Lawful (calls : List (Event ρ)) : Prop :=
  ∀ before event after, calls = before ++ event :: after → O.Allowed (O.observed before) event.1

lemma lawful_nil : O.Lawful [] := by
  intro before event after h
  simp at h

lemma lawful_append {calls : List (Event ρ)} (h : O.Lawful calls) {event : Event ρ}
    (hevent : O.Allowed (O.observed calls) event.1) : O.Lawful (calls ++ [event]) := by
  intro before other after heq
  rcases eq_nil_or_concat' after with rfl | ⟨front, last, rfl⟩
  · obtain ⟨rfl, hlast⟩ := append_inj' heq rfl
    rw [← (cons.inj hlast).1]
    exact hevent
  · rw [← cons_append, ← append_assoc] at heq
    exact h before other front (append_inj' heq rfl).1

variable {O} in
lemma Lawful.of_append {calls more : List (Event ρ)} (h : O.Lawful (calls ++ more)) :
    O.Lawful calls := by
  rintro before event after rfl
  exact h before event (after ++ more) (by simp)

lemma observed_concat (calls : List (Event ρ)) (event : Event ρ) :
    O.observed (calls ++ [event]) = O.note (O.observed calls) event := by
  rw [observed, foldl_append, foldl_cons, foldl_nil]
  rfl

/-- From calls observed as `s`, a run makes lawful calls, and a value it ends with fits what is
observed then. -/
def Yields (s : σ) (program : Prog ρ ε α) (Post : α → σ → Prop) : Prop :=
  ∀ host calls, O.Lawful calls → O.observed calls = s →
    O.Lawful (program host calls).2 ∧
      ∀ value, (program host calls).1 = .done value → Post value (O.observed (program host calls).2)

variable {O} {s : σ} {program : Prog ρ ε α} {Post : α → σ → Prop}

/-- What a program yields from the start holds of each of its runs. -/
theorem Yields.run (h : O.Yields O.start program Post) (host : Host ρ) :
    O.Lawful (program host []).2 ∧
      ∀ value, (program host []).1 = .done value → Post value (O.observed (program host []).2) :=
  h host [] O.lawful_nil rfl

lemma Yields.weaken {Post' : α → σ → Prop} (h : O.Yields s program Post)
    (hpost : ∀ value s', Post value s' → Post' value s') : O.Yields s program Post' := by
  intro host calls hlawful hs
  obtain ⟨hcalls, hend⟩ := h host calls hlawful hs
  exact ⟨hcalls, fun value hvalue => hpost value _ (hend value hvalue)⟩

lemma Yields.pure {value : α} (h : Post value s) :
    O.Yields s (Pure.pure value : Prog ρ ε α) Post := by
  rintro host calls hlawful rfl
  refine ⟨hlawful, ?_⟩
  intro value' hvalue
  cases hvalue
  exact h

lemma Yields.fail {error : ε} : O.Yields s (Prog.fail error : Prog ρ ε α) Post := by
  rintro host calls hlawful rfl
  exact ⟨hlawful, fun value hvalue => nomatch hvalue⟩

lemma Yields.wait : O.Yields s (Prog.wait : Prog ρ ε α) Post := by
  rintro host calls hlawful rfl
  exact ⟨hlawful, fun value hvalue => nomatch hvalue⟩

lemma Yields.call {call : κ} {Post : ρ call → σ → Prop} (hallowed : O.Allowed s call)
    (h : ∀ reply, Post reply (O.note s ⟨call, reply⟩)) :
    O.Yields s (Prog.call call : Prog ρ ε (ρ call)) Post := by
  rintro host calls hlawful rfl
  refine ⟨O.lawful_append hlawful hallowed, ?_⟩
  intro value hvalue
  cases hvalue
  change Post _ (O.observed (calls ++ [_]))
  rw [observed_concat]
  exact h (host calls call)

/-- A program and what follows it. -/
lemma Yields.bind {next : α → Prog ρ ε β} {Post' : β → σ → Prop} (h : O.Yields s program Post)
    (hnext : ∀ value s', Post value s' → O.Yields s' (next value) Post') :
    O.Yields s (program >>= next) Post' := by
  intro host calls hlawful hs
  obtain ⟨hcalls, hend⟩ := h host calls hlawful hs
  change O.Lawful (Prog.bind program next host calls).2 ∧ ∀ value,
    (Prog.bind program next host calls).1 = .done value →
      Post' value (O.observed (Prog.bind program next host calls).2)
  unfold Prog.bind
  rcases hrun : program host calls with ⟨outcome, calls'⟩
  rw [hrun] at hcalls hend
  cases outcome with
  | done value => exact hnext value _ (hend value rfl) host calls' hcalls rfl
  | failed error => exact ⟨hcalls, fun value hvalue => nomatch hvalue⟩
  | waiting => exact ⟨hcalls, fun value hvalue => nomatch hvalue⟩

lemma Yields.fail_bind {error : ε} {next : α → Prog ρ ε β} {Post : β → σ → Prop} :
    O.Yields s ((Prog.fail error : Prog ρ ε α) >>= next) Post :=
  Yields.fail.bind (fun _ _ (h : False) => h.elim)

/-- A handler meets whatever was observed when the program failed. -/
lemma Yields.catchWith {handler : ε → Prog ρ ε' α} (h : O.Yields s program Post)
    (hhandler : ∀ error s', O.Yields s' (handler error) Post) :
    O.Yields s (Prog.catchWith program handler) Post := by
  intro host calls hlawful hs
  obtain ⟨hcalls, hend⟩ := h host calls hlawful hs
  unfold Prog.catchWith
  rcases hrun : program host calls with ⟨outcome, calls'⟩
  rw [hrun] at hcalls hend
  cases outcome with
  | done value => exact ⟨hcalls, fun value' hvalue => hend value' (by cases hvalue; rfl)⟩
  | failed error => exact hhandler error _ host calls' hcalls rfl
  | waiting => exact ⟨hcalls, fun value hvalue => nomatch hvalue⟩

lemma Yields.attempt (h : O.Yields s program Post) :
    O.Yields s (Prog.attempt program : Prog ρ ε' (Except ε α))
      (fun result s' => ∀ value, result = .ok value → Post value s') := by
  intro host calls hlawful hs
  obtain ⟨hcalls, hend⟩ := h host calls hlawful hs
  unfold Prog.attempt
  rcases hrun : program host calls with ⟨outcome, calls'⟩
  rw [hrun] at hcalls hend
  cases outcome with
  | done value =>
    refine ⟨hcalls, ?_⟩
    rintro _ ⟨⟩ value' ⟨⟩
    exact hend value rfl
  | failed error =>
    refine ⟨hcalls, ?_⟩
    rintro _ ⟨⟩ value' hvalue
    cases hvalue
  | waiting => exact ⟨hcalls, fun value hvalue => nomatch hvalue⟩

/-- A call and what follows its reply. -/
lemma Yields.call_bind {call : κ} {next : ρ call → Prog ρ ε β} {Post : β → σ → Prop}
    (hallowed : O.Allowed s call)
    (h : ∀ reply, O.Yields (O.note s ⟨call, reply⟩) (next reply) Post) :
    O.Yields s (Prog.call call >>= next) Post := by
  have hcall : O.Yields s (Prog.call call : Prog ρ ε (ρ call))
      (fun reply s' => s' = O.note s ⟨call, reply⟩) := Yields.call hallowed (fun _ => rfl)
  refine hcall.bind ?_
  rintro reply s' rfl
  exact h reply

lemma Yields.orFail {reply : Except ε α} (h : ∀ value, reply = .ok value → Post value s) :
    O.Yields s (Prog.orFail reply : Prog ρ ε α) Post := by
  cases reply with
  | ok value => exact Yields.pure (h value rfl)
  | error error => exact Yields.fail

lemma Yields.orFail_bind {reply : Except ε α} {next : α → Prog ρ ε β} {Post : β → σ → Prop}
    (h : ∀ value, reply = .ok value → O.Yields s (next value) Post) :
    O.Yields s (Prog.orFail reply >>= next) Post := by
  have hreply : O.Yields s (Prog.orFail reply : Prog ρ ε α)
      (fun value s' => reply = .ok value ∧ s' = s) := Yields.orFail (fun _ hvalue => ⟨hvalue, rfl⟩)
  refine hreply.bind ?_
  rintro value s' ⟨hvalue, rfl⟩
  exact h value hvalue

end Observer

end Calls
