import BorgClient.Lib.Runs

/-!
# The queue of one origin

`enrollment-lock.ts`: `withProcessOriginLock` chains the calls of one process over promises, and
`processTails` holds the last link of each origin. Any number of calls, in any order of the steps
between their awaits.
-/

namespace BorgClient.Credentials
open Runs

inductive OriginPhase
  | waiting
  | running
  | ended
deriving DecidableEq, Repr

/-- A call: `prior` is the call whose tail it awaits, if it found one. `settled` is its own
tail. -/
structure OriginCall where
  origin : String
  prior : Option ℕ
  phase : OriginPhase
  settled : Bool
deriving DecidableEq, Repr

/-- The calls so far, by their order, and `processTails`. -/
structure OriginQueue where
  calls : List OriginCall
  processTails : String → Option ℕ

namespace OriginQueue

def start : OriginQueue := ⟨[], fun _ => none⟩

/-- `prior` has resolved. -/
def ready (w : OriginQueue) (c : OriginCall) : Bool :=
  c.prior.all (fun p => (w.calls[p]?).any (·.settled))

def setTail (w : OriginQueue) (origin : String) (tail : Option ℕ) : OriginQueue :=
  { w with processTails := fun o => if o = origin then tail else w.processTails o }

def setCall (w : OriginQueue) (i : ℕ) (c : OriginCall) : OriginQueue :=
  { w with calls := w.calls.set i c }

end OriginQueue

inductive OriginStep
  | call (origin : String)
  /-- `await prior` returns. -/
  | enter (i : ℕ)
  /-- The operation returns or throws. -/
  | finish (i : ℕ)
  /-- The tail resolves, after `prior` and `current`. -/
  | settle (i : ℕ)
deriving DecidableEq, Repr

def originStep (w : OriginQueue) : OriginStep → OriginQueue
  | .call origin =>
    { w.setTail origin (some w.calls.length) with
      calls := w.calls ++ [⟨origin, w.processTails origin, .waiting, false⟩] }
  | .enter i =>
    match w.calls[i]? with
    | none => w
    | some c =>
      if c.phase = .waiting ∧ w.ready c = true then w.setCall i { c with phase := .running } else w
  | .finish i =>
    match w.calls[i]? with
    | none => w
    | some c =>
      if c.phase = .running then
        let left := w.setCall i { c with phase := .ended }
        if w.processTails c.origin = some i then left.setTail c.origin none else left
      else w
  | .settle i =>
    match w.calls[i]? with
    | none => w
    | some c =>
      if c.phase = .ended ∧ w.ready c = true then w.setCall i { c with settled := true } else w

/-! ### The chain -/

/-- What each call waits for: the call before it of its origin, or none, where all had ended. -/
structure Linked (w : OriginQueue) : Prop where
  prior : ∀ (i : ℕ) (c : OriginCall) (p : ℕ), w.calls[i]? = some c → c.prior = some p → p < i ∧
    (∃ d, w.calls[p]? = some d ∧ d.origin = c.origin) ∧
    ∀ (k : ℕ) (d : OriginCall), p < k → k < i → w.calls[k]? = some d → d.origin ≠ c.origin
  free : ∀ (i : ℕ) (c : OriginCall), w.calls[i]? = some c → c.prior = none →
    ∀ (k : ℕ) (d : OriginCall), k < i → w.calls[k]? = some d → d.origin = c.origin →
      d.phase = .ended
  entered : ∀ (i : ℕ) (c : OriginCall), w.calls[i]? = some c → c.phase ≠ .waiting →
    w.ready c = true
  settled : ∀ (i : ℕ) (c : OriginCall), w.calls[i]? = some c → c.settled = true →
    c.phase = .ended

/-- The map names the last call of each origin with one that has not ended. -/
structure Chained (w : OriginQueue) : Prop extends Linked w where
  tail : ∀ o j, w.processTails o = some j → ∃ c, w.calls[j]? = some c ∧ c.origin = o ∧
    c.phase ≠ .ended ∧ ∀ (k : ℕ) (d : OriginCall), j < k → w.calls[k]? = some d → d.origin ≠ o
  noTail : ∀ o, w.processTails o = none → ∀ (i : ℕ) (c : OriginCall), w.calls[i]? = some c →
    c.origin = o → c.phase = .ended

variable {w : OriginQueue} {i : ℕ} {c c' : OriginCall}

/-- Behind a call that entered, every earlier call of its origin has ended. -/
theorem Linked.ended (h : Linked w) (hc : w.calls[i]? = some c) (hphase : c.phase ≠ .waiting) :
    ∀ (k : ℕ) (d : OriginCall), k < i → w.calls[k]? = some d → d.origin = c.origin →
      d.phase = .ended := by
  induction i using Nat.strong_induction_on generalizing c with
  | _ i ih =>
    intro k d hk hd hsame
    cases hprior : c.prior with
    | none => exact h.free i c hc hprior k d hk hd hsame
    | some p =>
      obtain ⟨hp, ⟨e, he, horigin⟩, hbetween⟩ := h.prior i c p hc hprior
      have hready := h.entered i c hc hphase
      have hsettled : e.settled = true := by
        simpa [OriginQueue.ready, hprior, he] using hready
      have hended := h.settled p e he hsettled
      obtain hlt | heq | hgt := Nat.lt_trichotomy k p
      · exact ih p hp he (by simp [hended]) k d hlt hd (hsame.trans horigin.symm)
      · subst heq
        rw [he] at hd
        cases hd
        exact hended
      · exact absurd hsame (hbetween k d hgt hk hd)

namespace OriginQueue

theorem setCall_get (hc : w.calls[i]? = some c) (k : ℕ) :
    (w.setCall i c').calls[k]? = if k = i then some c' else w.calls[k]? := by
  obtain ⟨hi, -⟩ := List.getElem?_eq_some_iff.mp hc
  by_cases hk : k = i
  · subst hk
    simp [setCall, hi]
  · simp [setCall, List.getElem?_set_ne (Ne.symm hk), hk]

/-- Every call of the new queue is one of the old, or the one that moved. -/
theorem setCall_old (hc : w.calls[i]? = some c) {k : ℕ} {d : OriginCall}
    (hd : (w.setCall i c').calls[k]? = some d) :
    (k = i ∧ d = c') ∨ (k ≠ i ∧ w.calls[k]? = some d) := by
  rw [setCall_get hc] at hd
  split at hd
  · cases hd
    exact .inl ⟨‹_›, rfl⟩
  · exact .inr ⟨‹_›, hd⟩

/-- What was settled stays settled. -/
theorem ready_setCall (hc : w.calls[i]? = some c) (hsettled : c.settled = true → c'.settled = true)
    {d : OriginCall} (hready : w.ready d = true) : (w.setCall i c').ready d = true := by
  cases hprior : d.prior with
  | none => simp [ready, hprior]
  | some p =>
    have hany : (w.calls[p]?).any (·.settled) = true := by simpa [ready, hprior] using hready
    simp only [ready, hprior, Option.all_some, setCall_get hc]
    split
    · subst_vars
      rw [hc] at hany
      exact hsettled hany
    · exact hany

end OriginQueue

open OriginQueue

/-- What a call keeps when another, or it itself, moves on. -/
theorem setCall_kept (hc : w.calls[i]? = some c) (horigin : c'.origin = c.origin)
    (hprior : c'.prior = c.prior) (hended : c.phase = .ended → c'.phase = .ended) {k : ℕ}
    {d : OriginCall} (hd : (w.setCall i c').calls[k]? = some d) :
    ∃ e, w.calls[k]? = some e ∧ e.origin = d.origin ∧ e.prior = d.prior ∧
      (e.phase = .ended → d.phase = .ended) := by
  obtain ⟨rfl, rfl⟩ | ⟨-, hd⟩ := setCall_old hc hd
  · exact ⟨c, hc, horigin.symm, hprior.symm, hended⟩
  · exact ⟨d, hd, rfl, rfl, id⟩

theorem Linked.move (h : Linked w) (hc : w.calls[i]? = some c) (horigin : c'.origin = c.origin)
    (hprior : c'.prior = c.prior) (hended : c.phase = .ended → c'.phase = .ended)
    (hsettled : c.settled = true → c'.settled = true) (hnew : c'.settled = true → c'.phase = .ended)
    (hready : c'.phase ≠ .waiting → w.ready c = true) : Linked (w.setCall i c') := by
  have hold := @setCall_kept w i c c' hc horigin hprior hended
  refine ⟨fun k d p hd hp => ?_, fun k d hd hnone l e hl he hsame => ?_, fun k d hd hphase => ?_,
    fun k d hd hset => ?_⟩
  · obtain ⟨e, he, ho, hpe, -⟩ := hold hd
    obtain ⟨hlt, ⟨f, hf, hfo⟩, hbetween⟩ := h.prior k e p he (hpe.trans hp)
    refine ⟨hlt, ?_, fun l x hl hlk hx => ?_⟩
    · rw [setCall_get hc]
      split
      · subst_vars
        rw [hc] at hf
        cases hf
        exact ⟨c', rfl, horigin.trans (hfo.trans ho)⟩
      · exact ⟨f, hf, hfo.trans ho⟩
    · obtain ⟨y, hy, hyo, -⟩ := hold hx
      rw [← hyo, ← ho]
      exact hbetween l y hl hlk hy
  · obtain ⟨d₀, hd₀, ho, hp₀, -⟩ := hold hd
    obtain ⟨e₀, he₀, heo, -, hend⟩ := hold he
    exact hend (h.free k d₀ hd₀ (hp₀.trans hnone) l e₀ hl he₀ (heo.trans (hsame.trans ho.symm)))
  · refine ready_setCall hc hsettled ?_
    obtain ⟨rfl, rfl⟩ | ⟨-, hd⟩ := setCall_old hc hd
    · have := hready hphase
      simpa [ready, hprior] using this
    · exact h.entered k d hd hphase
  · obtain ⟨rfl, rfl⟩ | ⟨-, hd⟩ := setCall_old hc hd
    · exact hnew hset
    · exact h.settled k d hd hset

/-- The last call of an origin stays its last. -/
theorem Chained.tail_move (h : Chained w) (hc : w.calls[i]? = some c)
    (horigin : c'.origin = c.origin) (hprior : c'.prior = c.prior)
    (hended : c.phase = .ended → c'.phase = .ended) {o : String} {j : ℕ}
    (hj : w.processTails o = some j) (hown : j = i → c'.phase ≠ .ended) :
    ∃ d, (w.setCall i c').calls[j]? = some d ∧ d.origin = o ∧ d.phase ≠ .ended ∧
      ∀ (k : ℕ) (e : OriginCall), j < k → (w.setCall i c').calls[k]? = some e → e.origin ≠ o := by
  obtain ⟨e, he, heo, hopen, hlast⟩ := h.tail o j hj
  have hlater : ∀ (k : ℕ) (d : OriginCall), j < k → (w.setCall i c').calls[k]? = some d →
      d.origin ≠ o := by
    intro k d hk hd
    obtain ⟨x, hx, hxo, -⟩ := setCall_kept hc horigin hprior hended hd
    rw [← hxo]
    exact hlast k x hk hx
  rw [setCall_get hc]
  split
  · rename_i hji
    subst hji
    rw [hc] at he
    cases he
    exact ⟨c', rfl, horigin.trans heo, hown rfl, hlater⟩
  · exact ⟨e, he, heo, hopen, hlater⟩

/-- A call moves on that has not ended, or is not the last of its origin. -/
theorem Chained.move (h : Chained w) (hc : w.calls[i]? = some c) (horigin : c'.origin = c.origin)
    (hprior : c'.prior = c.prior) (hended : c.phase = .ended → c'.phase = .ended)
    (hsettled : c.settled = true → c'.settled = true) (hnew : c'.settled = true → c'.phase = .ended)
    (hready : c'.phase ≠ .waiting → w.ready c = true)
    (hown : w.processTails c.origin = some i → c'.phase ≠ .ended) : Chained (w.setCall i c') := by
  refine ⟨h.toLinked.move hc horigin hprior hended hsettled hnew hready, fun o j hj => ?_,
    fun o ho k d hd hsame => ?_⟩
  · refine h.tail_move hc horigin hprior hended hj (fun hji => ?_)
    obtain ⟨e, he, heo, -⟩ := h.tail o j hj
    subst hji
    rw [hc] at he
    cases he
    exact hown (by rw [heo]; exact hj)
  · obtain ⟨e, he, heo, -, hend⟩ := setCall_kept hc horigin hprior hended hd
    exact hend (h.noTail o ho k e he (heo.trans hsame))

/-- The last call of its origin ends, and the map forgets the origin. -/
theorem Chained.leave (h : Chained w) (hc : w.calls[i]? = some c) (hrunning : c.phase = .running)
    (htail : w.processTails c.origin = some i) :
    Chained ((w.setCall i { c with phase := .ended }).setTail c.origin none) := by
  have hready : w.ready c = true := h.entered i c hc (by simp [hrunning])
  have hlinked : Linked (w.setCall i { c with phase := .ended }) :=
    h.toLinked.move hc rfl rfl (fun _ => rfl) id (fun _ => rfl) (fun _ => hready)
  refine ⟨⟨hlinked.prior, hlinked.free, hlinked.entered, hlinked.settled⟩, fun o j hj => ?_,
    fun o ho k d hd hsame => ?_⟩
  · by_cases hoc : o = c.origin
    · simp [setTail, setCall, hoc] at hj
    · have hj : w.processTails o = some j := by simpa [setTail, setCall, hoc] using hj
      refine @Chained.tail_move w i c { c with phase := .ended } h hc rfl rfl (fun _ => rfl) o j hj
        (fun hji => ?_)
      obtain ⟨e, he, heo, -⟩ := h.tail o j hj
      rw [hji, hc] at he
      cases he
      exact absurd heo.symm hoc
  · by_cases hoc : o = c.origin
    · subst hoc
      obtain ⟨rfl, rfl⟩ | ⟨hne, hd⟩ := setCall_old hc hd
      · rfl
      obtain ⟨e, he, -, -, hlast⟩ := h.tail _ i htail
      obtain hlt | hgt := Nat.lt_or_gt_of_ne hne
      · exact h.ended hc (by simp [hrunning]) k d hlt hd hsame
      · exact absurd hsame (hlast k d hgt hd)
    · have ho : w.processTails o = none := by simpa [setTail, setCall, hoc] using ho
      obtain ⟨e, he, heo, -, hend⟩ :=
        @setCall_kept w i c { c with phase := .ended } hc rfl rfl (fun _ => rfl) k d hd
      exact hend (h.noTail o ho k e he (heo.trans hsame))

/-- A new call waits for the last one of its origin, if that has not ended. -/
theorem Chained.call (h : Chained w) (origin : String) :
    Chained (originStep w (.call origin)) := by
  have hget : ∀ (k : ℕ) (d : OriginCall), (originStep w (.call origin)).calls[k]? = some d →
      (k < w.calls.length ∧ w.calls[k]? = some d) ∨
      (k = w.calls.length ∧ d = ⟨origin, w.processTails origin, .waiting, false⟩) := by
    intro k d hd
    simp only [originStep, List.getElem?_append] at hd
    split at hd
    · exact .inl ⟨‹_›, hd⟩
    · rw [List.getElem?_singleton] at hd
      split at hd
      · cases hd
        exact .inr ⟨by omega, rfl⟩
      · cases hd
  have hstays : ∀ (k : ℕ) (d : OriginCall), w.calls[k]? = some d →
      (originStep w (.call origin)).calls[k]? = some d := by
    intro k d hd
    obtain ⟨hk, -⟩ := List.getElem?_eq_some_iff.mp hd
    simp only [originStep, List.getElem?_append_left hk, hd]
  have hlt : ∀ (k : ℕ) (d : OriginCall), w.calls[k]? = some d → k < w.calls.length :=
    fun k d hd => (List.getElem?_eq_some_iff.mp hd).1
  refine ⟨⟨fun i c p hc hp => ?_, fun i c hc hnone k d hk hd hsame => ?_, fun i c hc hphase => ?_,
    fun i c hc hset => ?_⟩, fun o j hj => ?_, fun o ho i c hc hsame => ?_⟩
  · obtain ⟨hi, hc⟩ | ⟨rfl, rfl⟩ := hget i c hc
    · obtain ⟨hlt', ⟨d, hd, ho⟩, hbetween⟩ := h.prior i c p hc hp
      refine ⟨hlt', ⟨d, hstays p d hd, ho⟩, fun k e hpk hki he => ?_⟩
      obtain ⟨-, he⟩ | ⟨rfl, -⟩ := hget k e he
      · exact hbetween k e hpk hki he
      · omega
    · obtain ⟨d, hd, ho, -, hlast⟩ := h.tail origin p hp
      refine ⟨hlt p d hd, ⟨d, hstays p d hd, ho⟩, fun k e hpk hki he => ?_⟩
      obtain ⟨-, he⟩ | ⟨rfl, -⟩ := hget k e he
      · exact hlast k e hpk he
      · omega
  · obtain ⟨hi, hc⟩ | ⟨rfl, rfl⟩ := hget i c hc
    · obtain ⟨-, hd⟩ | ⟨rfl, -⟩ := hget k d hd
      · exact h.free i c hc hnone k d hk hd hsame
      · omega
    · obtain ⟨-, hd⟩ | ⟨rfl, -⟩ := hget k d hd
      · exact h.noTail origin hnone k d hd hsame
      · omega
  · obtain ⟨-, hc⟩ | ⟨rfl, rfl⟩ := hget i c hc
    · have hready := h.entered i c hc hphase
      cases hprior : c.prior with
      | none => simp [ready, hprior]
      | some p =>
        obtain ⟨-, ⟨d, hd, -⟩, -⟩ := h.prior i c p hc hprior
        simp only [ready, hprior, Option.all_some, hd] at hready
        simp only [ready, hprior, Option.all_some, hstays p d hd]
        exact hready
    · exact absurd rfl hphase
  · obtain ⟨-, hc⟩ | ⟨rfl, rfl⟩ := hget i c hc
    · exact h.settled i c hc hset
    · cases hset
  · by_cases hoc : o = origin
    · subst hoc
      obtain rfl : w.calls.length = j := by simpa [originStep, setTail] using hj
      refine ⟨⟨o, w.processTails o, .waiting, false⟩, by simp [originStep], rfl, by simp,
        fun k d hk hd => ?_⟩
      obtain ⟨hk', -⟩ | ⟨rfl, -⟩ := hget k d hd <;> omega
    · have hj : w.processTails o = some j := by simpa [originStep, setTail, hoc] using hj
      obtain ⟨c, hc, ho, hopen, hlast⟩ := h.tail o j hj
      refine ⟨c, hstays j c hc, ho, hopen, fun k d hk hd => ?_⟩
      obtain ⟨-, hd⟩ | ⟨-, rfl⟩ := hget k d hd
      · exact hlast k d hk hd
      · exact Ne.symm hoc
  · have hoc : o ≠ origin := by
      rintro rfl
      simp [originStep, setTail] at ho
    have ho : w.processTails o = none := by simpa [originStep, setTail, hoc] using ho
    obtain ⟨-, hc⟩ | ⟨-, rfl⟩ := hget i c hc
    · exact h.noTail o ho i c hc hsame
    · exact absurd hsame.symm hoc

theorem Chained.step (h : Chained w) (step : OriginStep) : Chained (originStep w step) := by
  cases step with
  | call origin => exact h.call origin
  | enter i =>
    simp only [originStep]
    split
    · exact h
    · rename_i c hc
      split
      · rename_i henter
        exact h.move hc rfl rfl (by simp [henter.1]) id
          (fun hset => absurd (h.settled i c hc hset) (by simp [henter.1])) (fun _ => henter.2)
          (by simp)
      · exact h
  | finish i =>
    simp only [originStep]
    split
    · exact h
    · rename_i c hc
      split
      · rename_i hrunning
        split
        · exact h.leave hc hrunning ‹_›
        · exact h.move hc rfl rfl (fun _ => rfl) id (fun _ => rfl)
            (fun _ => h.entered i c hc (by simp [hrunning])) (fun hown => absurd hown ‹_›)
      · exact h
  | settle i =>
    simp only [originStep]
    split
    · exact h
    · rename_i c hc
      split
      · rename_i hended
        refine h.move hc rfl rfl id (fun _ => rfl) (fun _ => hended.1) (fun _ => hended.2) ?_
        intro hown
        obtain ⟨d, hd, -, hopen, -⟩ := h.tail _ i hown
        rw [hc] at hd
        cases hd
        exact absurd hended.1 hopen
      · exact h

/-- The call behind calls that all ended enters once the tail before it settled. -/
theorem Chained.enters (h : Chained w) (hc : w.calls[i]? = some c) (hwaiting : c.phase = .waiting)
    (hfirst : ∀ (k : ℕ) (d : OriginCall), k < i → w.calls[k]? = some d → d.origin = c.origin →
      d.phase = .ended) :
    ∃ later, (∀ step ∈ later, ∀ origin, step ≠ .call origin) ∧
      (run originStep w later).calls[i]? = some { c with phase := .running } := by
  have henter : ∀ {w' : OriginQueue}, w'.calls[i]? = some c → w'.ready c = true →
      (originStep w' (.enter i)).calls[i]? = some { c with phase := .running } := by
    intro w' hc' hready
    simp only [originStep, hc', hwaiting, hready, and_self, if_true]
    rw [setCall_get hc', if_pos rfl]
  obtain hprior | ⟨p, hprior⟩ := Option.eq_none_or_eq_some c.prior
  · exact ⟨[.enter i], by simp, henter hc (by simp [ready, hprior])⟩
  · obtain ⟨hp, ⟨d, hd, horigin⟩, -⟩ := h.prior i c p hc hprior
    have hended := hfirst p d hp hd horigin
    have hready := h.entered p d hd (by simp [hended])
    refine ⟨[.settle p, .enter i], by simp, henter ?_ ?_⟩
    · simp only [originStep, hd, hended, hready, and_self, if_true]
      rw [setCall_get hd, if_neg (by omega), hc]
    · simp only [originStep, hd, hended, hready, and_self, if_true]
      simp only [ready, hprior, Option.all_some]
      rw [setCall_get hd, if_pos rfl]
      rfl

theorem start_chained : Chained .start :=
  ⟨⟨by simp [OriginQueue.start], by simp [OriginQueue.start], by simp [OriginQueue.start],
    by simp [OriginQueue.start]⟩, by simp [OriginQueue.start], by simp [OriginQueue.start]⟩

end BorgClient.Credentials
