import BorgClient.Codex.Wake

/-!
# The wake queue and its clean-up

While every wake and every deferral comes before the loop it would join has ended, or after the
`.finally` of that loop, the queue is never left behind without a drain, nor an obligation without a
retry loop.
-/

namespace BorgClient.Codex
open Runs

namespace WakeWorld

variable {w w' : WakeWorld} {c : Choice} {strict : Prop}

/-! ### The queue and the retry set, each with its loop -/

/-- The flag says whether the drain runs; under `strict`, a drain that has ended leaves no
request. -/
structure QueueOk (strict : Prop) (w : WakeWorld) : Prop where
  flag : w.wakeInFlight = true ↔ w.drain ≠ .idle
  idle : strict → w.drain = .idle → w.pendingWakeRequests = []
  ending : strict → w.drain = .ending → w.pendingWakeRequests = []

/-- The flag says whether a retry loop runs; under `strict`, one that has ended leaves no
obligation. -/
structure RetryOk (strict : Prop) (w : WakeWorld) : Prop where
  flag : w.retryDrainInFlight = true ↔ w.retry ≠ .idle
  idle : strict → w.retry = .idle → w.obliged = false
  ending : strict → w.retry = .ending → w.obliged = false

structure SameQueue (w w' : WakeWorld) : Prop where
  drain : w'.drain = w.drain
  pending : w'.pendingWakeRequests = w.pendingWakeRequests
  flag : w'.wakeInFlight = w.wakeInFlight

lemma SameQueue.refl (w : WakeWorld) : SameQueue w w := ⟨rfl, rfl, rfl⟩

lemma SameQueue.trans {w'' : WakeWorld} (h : SameQueue w w') (h' : SameQueue w' w'') :
    SameQueue w w'' :=
  ⟨h'.drain.trans h.drain, h'.pending.trans h.pending, h'.flag.trans h.flag⟩

lemma QueueOk.same (h : QueueOk strict w) (hs : SameQueue w w') : QueueOk strict w' := by
  obtain ⟨hd, hp, hf⟩ := hs
  exact ⟨by rw [hd, hf]; exact h.flag, by rw [hd, hp]; exact h.idle, by rw [hd, hp]; exact h.ending⟩

structure SameRetry (w w' : WakeWorld) : Prop where
  retry : w'.retry = w.retry
  ids : w'.retryDrainSourceEntryIds = w.retryDrainSourceEntryIds
  unscoped : w'.retryDrainHasUnscopedWork = w.retryDrainHasUnscopedWork
  flag : w'.retryDrainInFlight = w.retryDrainInFlight

lemma SameRetry.refl (w : WakeWorld) : SameRetry w w := ⟨rfl, rfl, rfl, rfl⟩

lemma SameRetry.obliged (h : SameRetry w w') : w'.obliged = w.obliged := by
  unfold WakeWorld.obliged
  rw [h.ids, h.unscoped]

lemma RetryOk.same (h : RetryOk strict w) (hs : SameRetry w w') : RetryOk strict w' := by
  have ho := hs.obliged
  obtain ⟨hr, -, -, hf⟩ := hs
  exact ⟨by rw [hr, hf]; exact h.flag, by rw [hr, ho]; exact h.idle, by rw [hr, ho]; exact h.ending⟩

/-! ### The retry loop -/

lemma SameQueue.retryLoop (h : SameQueue w w') (a : Attempts) :
    SameQueue w (w'.retryLoop a c) := by
  refine h.trans ?_
  unfold WakeWorld.retryLoop ageOut
  split
  · exact ⟨rfl, rfl, rfl⟩
  · split <;> exact ⟨rfl, rfl, rfl⟩

lemma sameQueue_prune (a : Attempts) (last : ℕ) : SameQueue w (w.prune a last) := by
  unfold prune
  split
  · exact ⟨rfl, rfl, rfl⟩
  · split <;> exact ⟨rfl, rfl, rfl⟩

lemma sameQueue_reprune (a : Attempts) (thread : ThreadId) (last : ℕ) :
    SameQueue w (w.reprune a thread last) := by
  unfold reprune
  split
  · exact ⟨rfl, rfl, rfl⟩
  · split <;> exact ⟨rfl, rfl, rfl⟩

lemma sameQueue_dropRead (entry : EntryId) : SameQueue w (w.dropRead entry) := by
  unfold dropRead
  split <;> exact ⟨rfl, rfl, rfl⟩

lemma sameQueue_again (a : Attempts) : SameQueue w (w.again a c) := by
  unfold again
  refine SameQueue.retryLoop ?_ a
  exact ⟨rfl, rfl, rfl⟩

lemma sameQueue_advanceRetry (c : Choice) : SameQueue w (w.advanceRetry c) := by
  unfold advanceRetry
  split
  · exact SameQueue.refl w
  · dsimp only
    split
    · exact (SameQueue.refl w).retryLoop _
    · exact ⟨rfl, rfl, rfl⟩
  · split
    · exact sameQueue_again _
    · exact sameQueue_prune _ _
  · split
    · exact sameQueue_prune _ _
    · exact (sameQueue_dropRead _).trans (sameQueue_prune _ _)
  · split
    · exact sameQueue_again _
    · split
      · exact sameQueue_again _
      · exact ⟨rfl, rfl, rfl⟩
  · split
    · exact sameQueue_again _
    · exact ⟨rfl, rfl, rfl⟩
  · split
    · exact sameQueue_again _
    · exact sameQueue_reprune _ _ _
  · split
    · exact sameQueue_again _
    · exact (sameQueue_dropRead _).trans (sameQueue_reprune _ _ _)
  · split
    · exact sameQueue_again _
    · exact ⟨rfl, rfl, rfl⟩
  · exact ⟨rfl, rfl, rfl⟩

lemma retryOk_retryLoop (hf : w.retryDrainInFlight = true) (a : Attempts) :
    RetryOk strict (w.retryLoop a c) := by
  unfold retryLoop ageOut
  split
  · exact ⟨by simp [hf], by simp, by simp⟩
  · split
    · exact ⟨by simp [hf], by simp, by simp [obliged, IdSet.clear, IdSet.ids]⟩
    · rename_i ho
      exact ⟨by simp [hf], by simp, fun _ _ => by simpa [obliged] using ho⟩

lemma retryOk_settled (hf : w.retryDrainInFlight = true) (ho : w.obliged = false) :
    RetryOk strict w.settled :=
  ⟨by simp [settled, hf], by simp [settled], fun _ _ => ho⟩

lemma retryOk_prune (hf : w.retryDrainInFlight = true) (a : Attempts) (last : ℕ) :
    RetryOk strict (w.prune a last) := by
  unfold prune
  split
  · exact ⟨by simp [hf], by simp, by simp⟩
  · split
    · exact ⟨by simp [hf], by simp, by simp⟩
    · rename_i ho
      exact retryOk_settled hf (by simpa using ho)

lemma retryOk_reprune (hf : w.retryDrainInFlight = true) (a : Attempts) (thread : ThreadId)
    (last : ℕ) : RetryOk strict (w.reprune a thread last) := by
  unfold reprune
  split
  · exact ⟨by simp [hf], by simp, by simp⟩
  · split
    · exact ⟨by simp [hf], by simp, by simp⟩
    · rename_i ho
      exact retryOk_settled hf (by simpa using ho)

lemma retryOk_again (hf : w.retryDrainInFlight = true) (a : Attempts) :
    RetryOk strict (w.again a c) := by
  unfold again
  refine retryOk_retryLoop ?_ a
  exact hf

lemma dropRead_flag (hf : w.retryDrainInFlight = true) (entry : EntryId) :
    (w.dropRead entry).retryDrainInFlight = true := by
  unfold dropRead
  split <;> exact hf

lemma retryOk_advanceRetry (h : RetryOk strict w) (c : Choice) : RetryOk strict (w.advanceRetry c) := by
  by_cases hidle : w.retry = .idle
  · unfold advanceRetry
    rw [hidle]
    exact h
  · have hf := h.flag.mpr hidle
    unfold advanceRetry
    split
    · exact h
    · dsimp only
      split
      · exact retryOk_retryLoop hf _
      · exact ⟨by simp [hf], by simp, by simp⟩
    · split
      · exact retryOk_again hf _
      · exact retryOk_prune hf _ _
    · split
      · exact retryOk_prune hf _ _
      · exact retryOk_prune (dropRead_flag hf _) _ _
    · split
      · exact retryOk_again hf _
      · split
        · exact retryOk_again hf _
        · exact ⟨by simp [hf], by simp, by simp⟩
    · split
      · exact retryOk_again hf _
      · exact ⟨by simp [hf], by simp, by simp⟩
    · split
      · exact retryOk_again hf _
      · exact retryOk_reprune hf _ _ _
    · split
      · exact retryOk_again hf _
      · exact retryOk_reprune (dropRead_flag hf _) _ _ _
    · split
      · exact retryOk_again hf _
      · exact retryOk_settled hf (by simp [obliged, markDelivered, IdSet.clear, IdSet.ids])
    · rename_i hend
      exact ⟨by simp, fun hs _ => h.ending hs hend, by simp⟩

/-! ### Deferring to the retry loop -/

lemma sameQueue_scheduleRetryDrain (e : Option EntryId) :
    SameQueue w (w.scheduleRetryDrain e c) := by
  unfold scheduleRetryDrain
  cases e with
  | none =>
    dsimp only
    split
    · exact ⟨rfl, rfl, rfl⟩
    · refine SameQueue.retryLoop ?_ _
      exact ⟨rfl, rfl, rfl⟩
  | some e =>
    dsimp only
    split
    · exact ⟨rfl, rfl, rfl⟩
    · refine SameQueue.retryLoop ?_ _
      exact ⟨rfl, rfl, rfl⟩

/-- An obligation joins a loop that has not ended, or starts one. -/
lemma retryOk_scheduleRetryDrain (h : RetryOk strict w) (hend : strict → w.retry ≠ .ending)
    (e : Option EntryId) : RetryOk strict (w.scheduleRetryDrain e c) := by
  unfold scheduleRetryDrain
  cases e with
  | none =>
    dsimp only
    split
    · rename_i hf
      exact ⟨h.flag, fun _ hi => absurd hi (h.flag.mp hf), fun hs he => absurd he (hend hs)⟩
    · exact retryOk_retryLoop rfl _
  | some e =>
    dsimp only
    split
    · rename_i hf
      exact ⟨h.flag, fun _ hi => absurd hi (h.flag.mp hf), fun hs he => absurd he (hend hs)⟩
    · exact retryOk_retryLoop rfl _

/-- The next step of the drain leaves its entry to the retry loop. -/
def Defers (w : WakeWorld) (c : Choice) : Prop :=
  match w.drain with
  | .idle | .ending => False
  | .active _ | .checking _ | .connecting _ _ | .rechecking _ _ | .starting _ _ => c.fails = true
  | .resolving _ => c.fails = true ∨ c.thread = none
  | .reading _ _ => c.fails = true ∨ c.busy = true
  | .returned => w.pendingWakeRequests ≠ [] ∧ w.injectInFlight = true

/-- No wake is queued while the drain has ended and not been cleared, and no entry is left to a
retry loop that has ended and not been cleared. -/
def OutsideGaps (w : WakeWorld) : WakeStep → Prop
  | .wake enabled _ _ => enabled = true → w.drain ≠ .ending ∧
      (w.drain = .idle → w.injectInFlight = true → w.retry ≠ .ending)
  | .drain c => w.Defers c → w.retry ≠ .ending
  | _ => True

lemma queueOk_drainCodexWakeQueue (hf : w.wakeInFlight = true) (c : Choice) :
    QueueOk strict (w.drainCodexWakeQueue c) := by
  unfold drainCodexWakeQueue
  split
  · rename_i hnil
    exact ⟨by simp [hf], by simp, fun _ _ => hnil⟩
  · rename_i r rest hcons
    dsimp only
    split
    · have hs := sameQueue_scheduleRetryDrain (w := { w with pendingWakeRequests := rest })
        (c := c) r.entry
      exact ⟨by rw [hs.flag]; simp [hf], by simp, by simp⟩
    · exact ⟨by simp [hf], by simp, by simp⟩

lemma retryOk_drainCodexWakeQueue (h : RetryOk strict w)
    (hend : w.pendingWakeRequests ≠ [] → w.injectInFlight = true → strict → w.retry ≠ .ending)
    (c : Choice) : RetryOk strict (w.drainCodexWakeQueue c) := by
  unfold drainCodexWakeQueue
  split
  · exact h.same ⟨rfl, rfl, rfl, rfl⟩
  · rename_i r rest hcons
    dsimp only
    split
    · rename_i hlock
      have hsame : SameRetry w { w with pendingWakeRequests := rest } := ⟨rfl, rfl, rfl, rfl⟩
      have hs := retryOk_scheduleRetryDrain (c := c) (h.same hsame)
        (hend (by simp [hcons]) hlock) r.entry
      exact hs.same ⟨rfl, rfl, rfl, rfl⟩
    · exact h.same ⟨rfl, rfl, rfl, rfl⟩

lemma queueOk_finish (hf : w.wakeInFlight = true) : QueueOk strict w.finish :=
  ⟨by simp [finish, hf], by simp [finish], by simp [finish]⟩

lemma queueOk_retryLater (hf : w.wakeInFlight = true) (r : Request) (c : Choice) :
    QueueOk strict (w.retryLater r c) := by
  have hs := sameQueue_scheduleRetryDrain (w := w) (c := c) r.entry
  exact queueOk_finish (hs.flag.trans hf)

lemma retryOk_retryLater (h : RetryOk strict w) (hend : strict → w.retry ≠ .ending) (r : Request) (c : Choice) :
    RetryOk strict (w.retryLater r c) :=
  (retryOk_scheduleRetryDrain h hend r.entry).same ⟨rfl, rfl, rfl, rfl⟩

lemma queueOk_advanceDrain (h : QueueOk strict w) (c : Choice) : QueueOk strict (w.advanceDrain c) := by
  by_cases hidle : w.drain = .idle
  · unfold advanceDrain
    rw [hidle]
    exact h
  · have hf := h.flag.mpr hidle
    have hcont : ∀ control : DrainControl, control ≠ .idle → control ≠ .ending →
        QueueOk strict { w with drain := control } := by
      intro control hi he
      exact ⟨by simp [hf, hi], fun _ hc => absurd hc hi, fun _ hc => absurd hc he⟩
    unfold advanceDrain
    split
    · exact h
    · split
      · exact queueOk_retryLater hf _ c
      · split
        · exact queueOk_finish hf
        · split <;> exact hcont _ (by simp) (by simp)
    · split
      · exact queueOk_retryLater hf _ c
      · split
        · exact queueOk_finish hf
        · exact hcont _ (by simp) (by simp)
    · split
      · exact queueOk_retryLater hf _ c
      · split
        · split
          · refine queueOk_retryLater ?_ _ c
            exact hf
          · exact queueOk_retryLater hf _ c
        · split
          · exact queueOk_finish hf
          · exact hcont _ (by simp) (by simp)
    · split
      · exact queueOk_retryLater hf _ c
      · exact hcont _ (by simp) (by simp)
    · split
      · exact queueOk_retryLater hf _ c
      · split <;> exact hcont _ (by simp) (by simp)
    · split
      · exact queueOk_retryLater hf _ c
      · split
        · exact queueOk_finish hf
        · exact hcont _ (by simp) (by simp)
    · split
      · exact queueOk_retryLater hf _ c
      · refine queueOk_finish ?_
        unfold rememberDeliveredWake markDelivered
        split <;> exact hf
    · exact queueOk_drainCodexWakeQueue hf c
    · rename_i hend
      exact ⟨by simp, fun hs _ => h.ending hs hend, by simp⟩

lemma retryOk_advanceDrain (h : RetryOk strict w) (c : Choice)
    (hgap : w.Defers c → strict → w.retry ≠ .ending) : RetryOk strict (w.advanceDrain c) := by
  unfold Defers at hgap
  unfold advanceDrain
  split
  · exact h
  all_goals rename_i hd
  all_goals rw [hd] at hgap
  · split
    · rename_i hfail
      exact retryOk_retryLater h (hgap hfail) _ c
    · split
      · exact h.same ⟨rfl, rfl, rfl, rfl⟩
      · split <;> exact h.same ⟨rfl, rfl, rfl, rfl⟩
  · split
    · rename_i hfail
      exact retryOk_retryLater h (hgap hfail) _ c
    · split <;> exact h.same ⟨rfl, rfl, rfl, rfl⟩
  · split
    · rename_i hfail
      exact retryOk_retryLater h (hgap (Or.inl hfail)) _ c
    · split
      · rename_i hnone
        have hend := hgap (Or.inr hnone)
        split
        · have hsame : SameRetry w { w with deliveryDeferred := true } := ⟨rfl, rfl, rfl, rfl⟩
          exact retryOk_retryLater (h.same hsame) hend _ c
        · exact retryOk_retryLater h hend _ c
      · split <;> exact h.same ⟨rfl, rfl, rfl, rfl⟩
  · split
    · rename_i hfail
      exact retryOk_retryLater h (hgap hfail) _ c
    · exact h.same ⟨rfl, rfl, rfl, rfl⟩
  · split
    · rename_i hfail
      exact retryOk_retryLater h (hgap (by simpa using hfail)) _ c
    · split <;> exact h.same ⟨rfl, rfl, rfl, rfl⟩
  · split
    · rename_i hfail
      exact retryOk_retryLater h (hgap hfail) _ c
    · split <;> exact h.same ⟨rfl, rfl, rfl, rfl⟩
  · split
    · rename_i hfail
      exact retryOk_retryLater h (hgap hfail) _ c
    · refine h.same ?_
      unfold rememberDeliveredWake markDelivered
      split <;> exact ⟨rfl, rfl, rfl, rfl⟩
  · exact retryOk_drainCodexWakeQueue h (fun hp hl => hgap ⟨hp, hl⟩) c
  · exact h.same ⟨rfl, rfl, rfl, rfl⟩

/-! ### Heartbeats -/

lemma same_advanceHeart (c : Choice) :
    SameQueue w (w.advanceHeart c) ∧ SameRetry w (w.advanceHeart c) := by
  unfold advanceHeart defer rest markDelivered
  split
  · exact ⟨SameQueue.refl w, SameRetry.refl w⟩
  · split
    · exact ⟨⟨rfl, rfl, rfl⟩, ⟨rfl, rfl, rfl, rfl⟩⟩
    · split <;> exact ⟨⟨rfl, rfl, rfl⟩, ⟨rfl, rfl, rfl, rfl⟩⟩
  · split
    · exact ⟨⟨rfl, rfl, rfl⟩, ⟨rfl, rfl, rfl, rfl⟩⟩
    · split <;> exact ⟨⟨rfl, rfl, rfl⟩, ⟨rfl, rfl, rfl, rfl⟩⟩
  · split
    · exact ⟨⟨rfl, rfl, rfl⟩, ⟨rfl, rfl, rfl, rfl⟩⟩
    · split <;> exact ⟨⟨rfl, rfl, rfl⟩, ⟨rfl, rfl, rfl, rfl⟩⟩
  · split <;> exact ⟨⟨rfl, rfl, rfl⟩, ⟨rfl, rfl, rfl, rfl⟩⟩
  · split <;> exact ⟨⟨rfl, rfl, rfl⟩, ⟨rfl, rfl, rfl, rfl⟩⟩
  · split <;> exact ⟨⟨rfl, rfl, rfl⟩, ⟨rfl, rfl, rfl, rfl⟩⟩

lemma same_fireCodexHeartbeatTick (owner : Bool) (cadence : ℤ) (c : Choice) :
    SameQueue w (w.fireCodexHeartbeatTick owner cadence c) ∧
      SameRetry w (w.fireCodexHeartbeatTick owner cadence c) := by
  unfold fireCodexHeartbeatTick
  split
  · exact ⟨SameQueue.refl w, SameRetry.refl w⟩
  · exact ⟨⟨rfl, rfl, rfl⟩, ⟨rfl, rfl, rfl, rfl⟩⟩

/-! ### Runs -/

lemma QueueOk.step (h : QueueOk strict w) (l : WakeStep)
    (hgap : strict → ∀ r c, l = .wake true r c → w.drain ≠ .ending) :
    QueueOk strict (wakeStep w l) := by
  cases l with
  | wake enabled r c =>
    unfold wakeStep
    dsimp only
    split
    · rename_i henabled
      have hend := fun hs => hgap hs r c (by rw [henabled])
      unfold wakeCodexViaAppServer
      dsimp only
      split
      · rename_i hf
        exact ⟨h.flag, fun _ hi => absurd hi (h.flag.mp hf), fun hs he => absurd he (hend hs)⟩
      · exact queueOk_drainCodexWakeQueue rfl c
    · exact h
  | drain c => exact queueOk_advanceDrain h c
  | retry c => exact h.same (sameQueue_advanceRetry c)
  | tick owner cadence c => exact h.same (same_fireCodexHeartbeatTick owner cadence c).1
  | heart c => exact h.same (same_advanceHeart c).1
  | read e => exact h.same ⟨rfl, rfl, rfl⟩
  | arrive e => exact h.same ⟨rfl, rfl, rfl⟩

/-- A step the gap of the retry loop lies outside of. -/
def OutsideRetryGap (w : WakeWorld) : WakeStep → Prop
  | .wake enabled _ _ => enabled = true → w.drain = .idle → w.injectInFlight = true →
      w.retry ≠ .ending
  | .drain c => w.Defers c → w.retry ≠ .ending
  | _ => True

lemma RetryOk.step (h : RetryOk strict w) (hq : strict → QueueOk strict w) (l : WakeStep)
    (hgap : strict → w.OutsideRetryGap l) : RetryOk strict (wakeStep w l) := by
  cases l with
  | wake enabled r c =>
    unfold wakeStep
    dsimp only
    split
    · rename_i henabled
      unfold wakeCodexViaAppServer
      dsimp only
      split
      · exact h.same ⟨rfl, rfl, rfl, rfl⟩
      · rename_i hf
        refine retryOk_drainCodexWakeQueue ?_ (fun _ hl hs => ?_) c
        · exact h.same ⟨rfl, rfl, rfl, rfl⟩
        · have hidle : w.drain = .idle := by
            by_contra hne
            exact hf ((hq hs).flag.mpr hne)
          exact hgap hs henabled hidle hl
    · exact h
  | drain c => exact retryOk_advanceDrain h c (fun hd hs => hgap hs hd)
  | retry c => exact retryOk_advanceRetry h c
  | tick owner cadence c => exact h.same (same_fireCodexHeartbeatTick owner cadence c).2
  | heart c => exact h.same (same_advanceHeart c).2
  | read e => exact h.same ⟨rfl, rfl, rfl, rfl⟩
  | arrive e => exact h.same ⟨rfl, rfl, rfl, rfl⟩

structure LoopsOk (w : WakeWorld) : Prop where
  queue : QueueOk True w
  retry : RetryOk True w

lemma QueueOk.start (unread : List EntryId) : QueueOk strict (start unread) :=
  ⟨by simp [WakeWorld.start], fun _ _ => rfl, fun _ _ => rfl⟩

lemma RetryOk.start (unread : List EntryId) : RetryOk strict (start unread) :=
  ⟨by simp [WakeWorld.start], fun _ _ => rfl, fun _ _ => rfl⟩

lemma LoopsOk.step (h : LoopsOk w) (l : WakeStep) (hgap : w.OutsideGaps l) :
    LoopsOk (wakeStep w l) := by
  refine ⟨h.queue.step l (fun _ r c hl => ?_), h.retry.step (fun _ => h.queue) l (fun _ => ?_)⟩
  · subst hl
    exact (hgap rfl).1
  · cases l with
    | wake enabled r c => exact fun henabled => (hgap henabled).2
    | drain c => exact hgap
    | retry c => trivial
    | tick owner cadence c => trivial
    | heart c => trivial
    | read e => trivial
    | arrive e => trivial

/-- No microtask is waiting. -/
def Quiescent (w : WakeWorld) : Prop :=
  w.drain ≠ .returned ∧ w.drain ≠ .ending ∧ w.retry ≠ .ending

/-- A request is queued and no drain runs, or an obligation is kept and no retry loop runs. -/
def Stranded (w : WakeWorld) : Prop :=
  (w.pendingWakeRequests ≠ [] ∧ w.drain = .idle) ∨ (w.obliged = true ∧ w.retry = .idle)

/-- While no wake and no deferral falls between the end of the loop it would join and its
`.finally`, no quiescent state strands a request or an obligation. -/
theorem wakes_never_stranded (unread : List EntryId) (ls : List WakeStep)
    (hgaps : Meets wakeStep OutsideGaps (start unread) ls) :
    Quiescent (run wakeStep (start unread) ls) → ¬ Stranded (run wakeStep (start unread) ls) := by
  intro _ hs
  have h : LoopsOk (run wakeStep (start unread) ls) :=
    invariant_of_meets wakeStep LoopsOk (fun _ l h hc => h.step l hc)
      ⟨QueueOk.start unread, RetryOk.start unread⟩ hgaps
  rcases hs with ⟨hp, hidle⟩ | ⟨ho, hidle⟩
  · exact hp (h.queue.idle trivial hidle)
  · rw [h.retry.idle trivial hidle] at ho
    cases ho

/-! ### A wake in the gap -/

def entryWake (e : EntryId) : Request := ⟨"wake", some e, some e⟩

/-- Nothing fails, no cube is active. -/
def noCube : Choice := ⟨false, false, none, false, 0, 1000⟩

/-- The drain of `e1` sees the queue empty, then `e2` is queued, then the `.finally` runs. -/
def gapRun : List WakeStep :=
  [.wake true (entryWake "e1") noCube, .drain noCube, .drain noCube,
    .wake true (entryWake "e2") noCube, .drain noCube]

/-- The wake of `e2` is left in the queue, and nothing drains it. -/
theorem wake_in_gap_stranded :
    Quiescent (run wakeStep (start ["e1", "e2"]) gapRun) ∧
      Stranded (run wakeStep (start ["e1", "e2"]) gapRun) :=
  ⟨⟨by decide, by decide, by decide⟩, Or.inl ⟨by decide, by decide⟩⟩

/-- The same two wakes with the second one after the `.finally`. -/
theorem wakes_never_stranded_apart :
    ¬ Stranded (run wakeStep (start ["e1", "e2"])
      [.wake true (entryWake "e1") noCube, .drain noCube, .drain noCube, .drain noCube,
        .wake true (entryWake "e2") noCube]) := by
  refine wakes_never_stranded ["e1", "e2"] _ ⟨fun _ => ⟨by decide, fun _ h => ?_⟩, fun h => ?_,
    fun h => ?_, fun h => ?_, fun _ => ⟨by decide, fun _ h => ?_⟩, trivial⟩
    ⟨by decide, by decide, by decide⟩
  · exact absurd h (by decide)
  · exact absurd (show noCube.fails = true from h) (by decide)
  · exact absurd h.1 (by decide)
  · exact absurd (show False from h) not_false
  · exact absurd h (by decide)

end WakeWorld

end BorgClient.Codex
