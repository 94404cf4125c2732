import BorgClient.Codex.WakeQueue

/-!
# The inject lock

The wake, the retry drain and the heartbeat inject one at a time.
-/

namespace BorgClient.Codex
open Runs

/-- The wake is inside the lock. -/
def DrainControl.holds : DrainControl → Bool
  | .idle | .returned | .ending => false
  | _ => true

def RetryControl.holds : RetryControl → Bool
  | .idle | .sleeping _ | .ending => false
  | _ => true

def HeartControl.holds : HeartControl → Bool
  | .idle => false
  | _ => true

namespace WakeWorld

variable {w w' : WakeWorld} {c : Choice}

def holders (w : WakeWorld) : ℕ := w.drain.holds.toNat + w.retry.holds.toNat + w.heart.holds.toNat

/-- The lock is taken by exactly one of the three, or free. -/
structure LockOk (w : WakeWorld) : Prop where
  count : w.holders = w.injectInFlight.toNat

lemma toNat_eq_zero {b : Bool} : b.toNat = 0 ↔ b = false := by
  cases b <;> simp

lemma LockOk.drain_alone (h : LockOk w) (hd : w.drain.holds = true) :
    w.retry.holds = false ∧ w.heart.holds = false := by
  have hle := Bool.toNat_le w.injectInFlight
  have hc := h.count
  unfold holders at hc
  rw [hd] at hc
  simp only [Bool.toNat_true] at hc
  exact ⟨toNat_eq_zero.mp (by omega), toNat_eq_zero.mp (by omega)⟩

lemma LockOk.retry_alone (h : LockOk w) (hr : w.retry.holds = true) :
    w.drain.holds = false ∧ w.heart.holds = false := by
  have hle := Bool.toNat_le w.injectInFlight
  have hc := h.count
  unfold holders at hc
  rw [hr] at hc
  simp only [Bool.toNat_true] at hc
  exact ⟨toNat_eq_zero.mp (by omega), toNat_eq_zero.mp (by omega)⟩

lemma LockOk.heart_alone (h : LockOk w) (hh : w.heart.holds = true) :
    w.drain.holds = false ∧ w.retry.holds = false := by
  have hle := Bool.toNat_le w.injectInFlight
  have hc := h.count
  unfold holders at hc
  rw [hh] at hc
  simp only [Bool.toNat_true] at hc
  exact ⟨toNat_eq_zero.mp (by omega), toNat_eq_zero.mp (by omega)⟩

lemma LockOk.free (h : LockOk w) (hl : w.injectInFlight = false) :
    w.drain.holds = false ∧ w.retry.holds = false ∧ w.heart.holds = false := by
  have hc := h.count
  unfold holders at hc
  rw [hl] at hc
  simp only [Bool.toNat_false] at hc
  exact ⟨toNat_eq_zero.mp (by omega), toNat_eq_zero.mp (by omega), toNat_eq_zero.mp (by omega)⟩

/-- Nobody holds the lock, and it is free. -/
lemma LockOk.released (hd : w.drain.holds = false) (hr : w.retry.holds = false)
    (hh : w.heart.holds = false) (hl : w.injectInFlight = false) : LockOk w :=
  ⟨by simp [holders, hd, hr, hh, hl]⟩

/-- The same coroutines hold the lock. -/
lemma LockOk.same (h : LockOk w) (hd : w'.drain.holds = w.drain.holds)
    (hr : w'.retry.holds = w.retry.holds) (hh : w'.heart.holds = w.heart.holds)
    (hl : w'.injectInFlight = w.injectInFlight) : LockOk w' := by
  refine ⟨?_⟩
  unfold holders
  rw [hd, hr, hh, hl]
  exact h.count

/-! ### The retry loop -/

/-- The loop's head leaves the rest alone and does not hold the lock. -/
structure LoopHead (w w' : WakeWorld) : Prop where
  drain : w'.drain = w.drain
  heart : w'.heart = w.heart
  lock : w'.injectInFlight = w.injectInFlight
  retry : w'.retry.holds = false

lemma loopHead_retryLoop (a : Attempts) : LoopHead w (w.retryLoop a c) := by
  unfold retryLoop ageOut
  split
  · exact ⟨rfl, rfl, rfl, rfl⟩
  · split <;> exact ⟨rfl, rfl, rfl, rfl⟩

lemma lockOk_again (h : LockOk w) (hr : w.retry.holds = true) (a : Attempts) :
    LockOk (w.again a c) := by
  obtain ⟨hd, hh⟩ := h.retry_alone hr
  unfold again
  generalize hw : { w with injectInFlight := false } = u
  have hl := loopHead_retryLoop (w := u) (c := c) a
  subst hw
  exact LockOk.released (by rw [hl.drain]; exact hd) hl.retry (by rw [hl.heart]; exact hh) hl.lock

lemma lockOk_settled (h : LockOk w) (hr : w.retry.holds = true) : LockOk w.settled := by
  obtain ⟨hd, hh⟩ := h.retry_alone hr
  exact LockOk.released hd rfl hh rfl

lemma lockOk_prune (h : LockOk w) (hr : w.retry.holds = true) (a : Attempts) (last : ℕ) :
    LockOk (w.prune a last) := by
  unfold prune
  split
  · exact h.same rfl (by rw [hr]; rfl) rfl rfl
  · split
    · exact h.same rfl (by rw [hr]; rfl) rfl rfl
    · exact lockOk_settled h hr

lemma lockOk_reprune (h : LockOk w) (hr : w.retry.holds = true) (a : Attempts)
    (thread : ThreadId) (last : ℕ) : LockOk (w.reprune a thread last) := by
  unfold reprune
  split
  · exact h.same rfl (by rw [hr]; rfl) rfl rfl
  · split
    · exact h.same rfl (by rw [hr]; rfl) rfl rfl
    · exact lockOk_settled h hr

lemma dropRead_retry (entry : EntryId) : (w.dropRead entry).retry = w.retry := by
  unfold dropRead
  split <;> rfl

lemma lockOk_dropRead (h : LockOk w) (entry : EntryId) : LockOk (w.dropRead entry) := by
  unfold dropRead
  split
  · exact h
  · exact h.same rfl rfl rfl rfl

lemma lockOk_advanceRetry (h : LockOk w) (c : Choice) : LockOk (w.advanceRetry c) := by
  unfold advanceRetry
  split
  · exact h
  all_goals rename_i hc
  · have hr : w.retry.holds = false := by rw [hc]; rfl
    dsimp only
    split
    · rename_i a _
      have hl := loopHead_retryLoop (w := w) (c := c) { a with attempts := a.attempts + 1 }
      exact h.same (by rw [hl.drain]) (by rw [hl.retry, hr]) (by rw [hl.heart]) hl.lock
    · rename_i hl
      obtain ⟨hd, -, hh⟩ := h.free (by simpa using hl)
      exact ⟨by simp [holders, hd, hh, RetryControl.holds]⟩
  all_goals first
    | have hr : w.retry.holds = true := by rw [hc]; rfl
    | skip
  · split
    · exact lockOk_again h hr _
    · exact lockOk_prune h hr _ _
  · split
    · exact lockOk_prune h hr _ _
    · exact lockOk_prune (lockOk_dropRead h _) (by rw [dropRead_retry]; exact hr) _ _
  · split
    · exact lockOk_again h hr _
    · split
      · exact lockOk_again h hr _
      · exact h.same rfl (by rw [hr]; rfl) rfl rfl
  · split
    · exact lockOk_again h hr _
    · exact h.same rfl (by rw [hr]; rfl) rfl rfl
  · split
    · exact lockOk_again h hr _
    · exact lockOk_reprune h hr _ _ _
  · split
    · exact lockOk_again h hr _
    · exact lockOk_reprune (lockOk_dropRead h _) (by rw [dropRead_retry]; exact hr) _ _ _
  · split
    · exact lockOk_again h hr _
    · exact lockOk_settled (w := { w with
          retryDrainSourceEntryIds := w.retryDrainSourceEntryIds.clear
          retryDrainHasUnscopedWork := false }.markDelivered c) (h.same rfl rfl rfl rfl) hr
  · exact h.same rfl (by rw [hc]; rfl) rfl rfl

/-! ### The wake queue -/

/-- Deferring to the retry loop starts one only when none runs. -/
lemma lockOk_scheduleRetryDrain (h : LockOk w) (hf : RetryOk False w) (e : Option EntryId) :
    LockOk (w.scheduleRetryDrain e c) ∧ (w.scheduleRetryDrain e c).drain = w.drain ∧
      (w.scheduleRetryDrain e c).injectInFlight = w.injectInFlight := by
  have hstart : ∀ u : WakeWorld, w.retryDrainInFlight = false → u.drain = w.drain →
      u.heart = w.heart → u.injectInFlight = w.injectInFlight →
      LockOk (u.retryLoop ⟨0, c.now⟩ c) ∧ (u.retryLoop ⟨0, c.now⟩ c).drain = w.drain ∧
        (u.retryLoop ⟨0, c.now⟩ c).injectInFlight = w.injectInFlight := by
    intro u hq hud huh hul
    have hl := loopHead_retryLoop (w := u) (c := c) ⟨0, c.now⟩
    have hidle : w.retry = .idle := by
      by_contra hne
      rw [hf.flag.mpr hne] at hq
      cases hq
    refine ⟨h.same (by rw [hl.drain, hud]) ?_ (by rw [hl.heart, huh]) (hl.lock.trans hul),
      hl.drain.trans hud, hl.lock.trans hul⟩
    rw [hl.retry, hidle]
    rfl
  unfold scheduleRetryDrain
  cases e with
  | none =>
    dsimp only
    split
    · exact ⟨h.same rfl rfl rfl rfl, rfl, rfl⟩
    · rename_i hq
      refine hstart _ (by simpa using hq) ?_ ?_ ?_ <;> rfl
  | some e =>
    dsimp only
    split
    · exact ⟨h.same rfl rfl rfl rfl, rfl, rfl⟩
    · rename_i hq
      refine hstart _ (by simpa using hq) ?_ ?_ ?_ <;> rfl

lemma lockOk_finish (h : LockOk w) (hd : w.drain.holds = true) : LockOk w.finish := by
  obtain ⟨hr, hh⟩ := h.drain_alone hd
  exact LockOk.released rfl hr hh rfl

lemma lockOk_retryLater (h : LockOk w) (hf : RetryOk False w) (hd : w.drain.holds = true)
    (r : Request) : LockOk (w.retryLater r c) := by
  obtain ⟨hs, hsd, -⟩ := lockOk_scheduleRetryDrain (c := c) h hf r.entry
  exact lockOk_finish hs (by rw [hsd]; exact hd)

lemma lockOk_drainCodexWakeQueue (h : LockOk w) (hf : RetryOk False w)
    (hd : w.drain.holds = false) (c : Choice) : LockOk (w.drainCodexWakeQueue c) := by
  unfold drainCodexWakeQueue
  split
  · exact h.same (by rw [hd]; rfl) rfl rfl rfl
  · rename_i r rest hcons
    dsimp only
    split
    · have hu : LockOk { w with pendingWakeRequests := rest } := h.same rfl rfl rfl rfl
      have hfu : RetryOk False { w with pendingWakeRequests := rest } :=
        hf.same ⟨rfl, rfl, rfl, rfl⟩
      obtain ⟨hs, hsd, hsl⟩ := lockOk_scheduleRetryDrain (c := c) hu hfu r.entry
      refine hs.same ?_ rfl rfl rfl
      rw [hsd]
      exact hd.symm
    · rename_i hl
      obtain ⟨-, hr, hh⟩ := h.free (by simpa using hl)
      exact ⟨by simp [holders, hr, hh, DrainControl.holds]⟩

lemma lockOk_advanceDrain (h : LockOk w) (hf : RetryOk False w) (c : Choice) :
    LockOk (w.advanceDrain c) := by
  unfold advanceDrain
  split
  · exact h
  all_goals rename_i hc
  all_goals first
    | have hd : w.drain.holds = true := by rw [hc]; rfl
    | skip
  · split
    · exact lockOk_retryLater h hf hd _
    · split
      · exact lockOk_finish h hd
      · split <;> exact h.same (by rw [hd]; rfl) rfl rfl rfl
  · split
    · exact lockOk_retryLater h hf hd _
    · split
      · exact lockOk_finish h hd
      · exact h.same (by rw [hd]; rfl) rfl rfl rfl
  · split
    · exact lockOk_retryLater h hf hd _
    · split
      · split
        · have hu : LockOk { w with deliveryDeferred := true } := h.same rfl rfl rfl rfl
          have hfu : RetryOk False { w with deliveryDeferred := true } :=
            hf.same ⟨rfl, rfl, rfl, rfl⟩
          exact lockOk_retryLater hu hfu hd _
        · exact lockOk_retryLater h hf hd _
      · split
        · exact lockOk_finish h hd
        · exact h.same (by rw [hd]; rfl) rfl rfl rfl
  · split
    · exact lockOk_retryLater h hf hd _
    · exact h.same (by rw [hd]; rfl) rfl rfl rfl
  · split
    · exact lockOk_retryLater h hf hd _
    · split <;> exact h.same (by rw [hd]; rfl) rfl rfl rfl
  · split
    · exact lockOk_retryLater h hf hd _
    · split
      · exact lockOk_finish h hd
      · exact h.same (by rw [hd]; rfl) rfl rfl rfl
  · split
    · exact lockOk_retryLater h hf hd _
    · obtain ⟨hr, hh⟩ := h.drain_alone hd
      unfold rememberDeliveredWake markDelivered
      split <;> exact LockOk.released rfl hr hh rfl
  · exact lockOk_drainCodexWakeQueue h hf (by rw [hc]; rfl) c
  · exact h.same (by rw [hc]; rfl) rfl rfl rfl

/-! ### The heartbeat -/

lemma lockOk_rest (h : LockOk w) (hh : w.heart.holds = true) : LockOk w.rest := by
  obtain ⟨hd, hr⟩ := h.heart_alone hh
  exact LockOk.released hd hr rfl rfl

lemma lockOk_defer (h : LockOk w) (hh : w.heart.holds = true) : LockOk w.defer := by
  obtain ⟨hd, hr⟩ := h.heart_alone hh
  exact LockOk.released hd hr rfl rfl

lemma lockOk_advanceHeart (h : LockOk w) (c : Choice) : LockOk (w.advanceHeart c) := by
  unfold advanceHeart
  split
  · exact h
  all_goals rename_i hc
  all_goals have hh : w.heart.holds = true := by rw [hc]; rfl
  · split
    · exact lockOk_defer h hh
    · split
      · exact lockOk_rest h hh
      · exact h.same rfl rfl (by rw [hh]; rfl) rfl
  · split
    · exact lockOk_defer h hh
    · obtain ⟨hd, hr⟩ := h.heart_alone hh
      split
      · exact LockOk.released hd hr rfl rfl
      · exact h.same rfl rfl (by rw [hh]; rfl) rfl
  · split
    · exact lockOk_defer h hh
    · split
      · exact lockOk_defer h hh
      · exact h.same rfl rfl (by rw [hh]; rfl) rfl
  · split
    · exact lockOk_defer h hh
    · exact h.same rfl rfl (by rw [hh]; rfl) rfl
  · split
    · exact lockOk_defer h hh
    · exact h.same rfl rfl (by rw [hh]; rfl) rfl
  · split
    · exact lockOk_defer h hh
    · obtain ⟨hd, hr⟩ := h.heart_alone hh
      exact LockOk.released hd hr rfl rfl

lemma lockOk_fireCodexHeartbeatTick (h : LockOk w) (owner : Bool) (cadence : ℤ) (c : Choice) :
    LockOk (w.fireCodexHeartbeatTick owner cadence c) := by
  unfold fireCodexHeartbeatTick
  split
  · exact h
  · rename_i hgate
    have hl : w.injectInFlight = false := by
      simp only [Bool.or_eq_true, not_or] at hgate
      simpa using hgate.2
    obtain ⟨hd, hr, -⟩ := h.free hl
    exact ⟨by simp [holders, hd, hr, HeartControl.holds]⟩

/-! ### Runs -/

lemma LockOk.start (unread : List EntryId) : LockOk (start unread) := ⟨rfl⟩

lemma LockOk.step (h : LockOk w) (hq : QueueOk False w) (hf : RetryOk False w)
    (l : WakeStep) :
    LockOk (wakeStep w l) := by
  cases l with
  | wake enabled r c =>
    unfold wakeStep
    dsimp only
    split
    · unfold wakeCodexViaAppServer
      dsimp only
      split
      · exact h.same rfl rfl rfl rfl
      · rename_i hflag
        have hidle : w.drain = .idle := by
          by_contra hne
          exact hflag (hq.flag.mpr hne)
        refine lockOk_drainCodexWakeQueue ?_ ?_ ?_ c
        · exact h.same rfl rfl rfl rfl
        · exact hf.same ⟨rfl, rfl, rfl, rfl⟩
        · show w.drain.holds = false
          rw [hidle]
          rfl
    · exact h
  | drain c => exact lockOk_advanceDrain h hf c
  | retry c => exact lockOk_advanceRetry h c
  | tick owner cadence c => exact lockOk_fireCodexHeartbeatTick h owner cadence c
  | heart c => exact lockOk_advanceHeart h c
  | read e => exact h.same rfl rfl rfl rfl
  | arrive e => exact h.same rfl rfl rfl rfl

end WakeWorld

end BorgClient.Codex
