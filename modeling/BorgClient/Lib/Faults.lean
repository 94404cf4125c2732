import Mathlib

/-!
# Programs whose calls can fail

A program reads and writes a shared state. Every read and every write has a fate: it works, it
fails, it takes effect and is reported as failed, or the process dies before it or after it. As the
process can die anywhere, what holds however a program ends holds at every moment of it.
-/

namespace Faults

variable {σ ι α β : Type}

/-- What becomes of a read or a write. -/
inductive Fate
  | works
  | fails
  /-- The effect is there, and an error is reported. -/
  | lost
  | dies
  | diesAfter
deriving DecidableEq, Repr

def Fate.takesEffect : Fate → Bool
  | .works | .lost | .diesAfter => true
  | .fails | .dies => false

inductive End (α : Type)
  | returns (value : α)
  | throws
  | dies

/-- A program, given the fate of the call at each site. -/
def Act (σ ι α : Type) := (ι → Fate) → σ → End α × σ

namespace Act

def bind (program : Act σ ι α) (next : α → Act σ ι β) : Act σ ι β := fun fates s =>
  match program fates s with
  | (.returns value, s) => next value fates s
  | (.throws, s) => (.throws, s)
  | (.dies, s) => (.dies, s)

instance : Monad (Act σ ι) where
  pure value := fun _ s => (.returns value, s)
  bind := bind

def throw : Act σ ι α := fun _ s => (.throws, s)

/-- `try { ... } catch { ... }` -/
def catchWith (program handler : Act σ ι α) : Act σ ι α := fun fates s =>
  match program fates s with
  | (.returns value, s) => (.returns value, s)
  | (.throws, s) => handler fates s
  | (.dies, s) => (.dies, s)

/-- A read, which may find nothing it accepts. -/
def read (site : ι) (value : σ → Option α) : Act σ ι α := fun fates s =>
  match fates site, value s with
  | .works, some a => (.returns a, s)
  | .works, none => (.throws, s)
  | .fails, _ => (.throws, s)
  | .lost, _ => (.throws, s)
  | .dies, _ => (.dies, s)
  | .diesAfter, _ => (.dies, s)

/-- An atomic write, which may be refused. -/
def write (site : ι) (change : σ → Option σ) : Act σ ι Unit := fun fates s =>
  match fates site, change s with
  | .works, some t => (.returns (), t)
  | .lost, some t => (.throws, t)
  | .diesAfter, some t => (.dies, t)
  | .works, none => (.throws, s)
  | .lost, none => (.throws, s)
  | .diesAfter, none => (.dies, s)
  | .fails, _ => (.throws, s)
  | .dies, _ => (.dies, s)

/-- `Q` holds of what the program returns, `E` where it throws and `D` where the process dies. -/
def Ends (program : Act σ ι α) (fates : ι → Fate) (s : σ) (Q : α → σ → Prop) (E D : σ → Prop) :
    Prop :=
  match program fates s with
  | (.returns value, t) => Q value t
  | (.throws, t) => E t
  | (.dies, t) => D t

variable {fates : ι → Fate} {s : σ} {Q : α → σ → Prop} {R : β → σ → Prop} {E E' D : σ → Prop}
  {program handler : Act σ ι α} {next : α → Act σ ι β} {site : ι}

lemma pure_ends {a : α} (h : Q a s) : (pure a : Act σ ι α).Ends fates s Q E D := h

lemma throw_ends (h : E s) : (throw : Act σ ι α).Ends fates s Q E D := h

lemma bind_ends (h : program.Ends fates s Q E D)
    (hnext : ∀ a t, Q a t → (next a).Ends fates t R E D) : (program >>= next).Ends fates s R E D := by
  change Ends (bind program next) fates s R E D
  unfold Ends bind at *
  rcases hprogram : program fates s with ⟨_ | _ | _, t⟩
  · rw [hprogram] at h
    exact hnext _ t h
  · rw [hprogram] at h
    exact h
  · rw [hprogram] at h
    exact h

lemma catch_ends (h : program.Ends fates s Q E D)
    (hhandler : ∀ t, E t → handler.Ends fates t Q E' D) :
    (program.catchWith handler).Ends fates s Q E' D := by
  unfold Ends catchWith at *
  rcases hprogram : program fates s with ⟨_ | _ | _, t⟩
  · rw [hprogram] at h
    exact h
  · rw [hprogram] at h
    exact hhandler t h
  · rw [hprogram] at h
    exact h

lemma read_ends {value : σ → Option α} (hthrows : E s) (hdies : D s)
    (hvalue : ∀ a, fates site = .works → value s = some a → Q a s) :
    (read site value).Ends fates s Q E D := by
  unfold Ends read
  cases hfate : fates site with
  | works =>
    cases ha : value s with
    | none => exact hthrows
    | some a => exact hvalue a hfate ha
  | fails => exact hthrows
  | lost => exact hthrows
  | dies => exact hdies
  | diesAfter => exact hdies

lemma write_ends {change : σ → Option σ} {Q : Unit → σ → Prop} (hthrows : E s) (hdies : D s)
    (hwritten : ∀ t, (fates site).takesEffect = true → change s = some t →
      Q () t ∧ (fates site = .lost → E t) ∧ D t) : (write site change).Ends fates s Q E D := by
  unfold Ends write
  cases hfate : fates site with
  | works =>
    cases ht : change s with
    | none => exact hthrows
    | some t => exact (hwritten t (by rw [hfate]; rfl) ht).1
  | fails => exact hthrows
  | lost =>
    cases ht : change s with
    | none => exact hthrows
    | some t => exact (hwritten t (by rw [hfate]; rfl) ht).2.1 hfate
  | dies => exact hdies
  | diesAfter =>
    cases ht : change s with
    | none => exact hdies
    | some t => exact (hwritten t (by rw [hfate]; rfl) ht).2.2

/-- What holds of all three ends holds of the state that is left. -/
lemma Ends.state {P : σ → Prop} (h : program.Ends fates s (fun _ => P) P P) :
    P (program fates s).2 := by
  unfold Ends at h
  rcases hprogram : program fates s with ⟨_ | _ | _, t⟩ <;> rw [hprogram] at h <;> exact h

end Act

end Faults
