import BorgClient.Codex.InjectLock

/-!
# Wakes that are owed

Which scoped wakes have been asked for and not delivered while their entries wait for the seat, and
where each of them stands.
-/

namespace BorgClient.Codex
open Runs List

/-- The wake a drain is carrying out. -/
def DrainControl.request : DrainControl → Option Request
  | .active r | .checking r | .resolving r | .connecting r _ | .reading r _ | .rechecking r _
  | .starting r _ => some r
  | .idle | .returned | .ending => none

/-- The module's state, the entries whose wakes have been delivered, and those whose wakes are
still owed. -/
structure OwedWorld where
  world : WakeWorld
  delivered : List EntryId
  owed : List EntryId

namespace OwedWorld

/-- The entry of a wake whose turn has been started in this step; a catch-up turn stands for all. -/
def delivers (w : WakeWorld) : WakeStep → Option (Option EntryId)
  | .drain c => match w.drain with
    | .starting r _ => if c.fails then none else r.entry.map some
    | _ => none
  | .retry c => match w.retry with
    | .starting _ _ => if c.fails then none else some none
    | _ => none
  | .heart c => match w.heart with
    | .starting _ => if c.fails then none else some none
    | _ => none
  | _ => none

/-- The entry of a wake asked for in this step. -/
def asks (w : WakeWorld) : WakeStep → Option EntryId
  | .wake true r _ => r.entry.filter (· ∈ w.unread)
  | _ => none

def owedStep (s : OwedWorld) (l : WakeStep) : OwedWorld where
  world := wakeStep s.world l
  delivered := match delivers s.world l with
    | none => s.delivered
    | some (some e) => s.delivered ++ [e]
    | some none => s.delivered ++ s.owed
  owed := match delivers s.world l, l with
    | some (some e), _ => s.owed.filter (· ≠ e)
    | some none, _ => []
    | none, .read e => s.owed.filter (· ≠ e)
    | none, l => s.owed ++ ((asks s.world l).filter (· ∉ s.delivered)).toList

def start (unread : List EntryId) : OwedWorld := ⟨.start unread, [], []⟩

/-- The entry's wake is queued or being carried out, with the drain running. -/
def Waiting (w : WakeWorld) (e : EntryId) : Prop :=
  w.drain ≠ .idle ∧ ((∃ r ∈ w.pendingWakeRequests, r.entry = some e) ∨
    ∃ r, w.drain.request = some r ∧ r.entry = some e)

/-- The entry is in the retry set, or the deferral marker is set. -/
def Kept (w : WakeWorld) (e : EntryId) : Prop :=
  e ∈ w.retryDrainSourceEntryIds.ids ∨ w.deliveryDeferred = true

/-- Neither step of the drain that drops a wake is taken on an owed entry, no delivery of one entry
clears the marker of another that is kept by nothing else, and no wake is queued while the drain
has ended and not been cleared. -/
def Minds (s : OwedWorld) : WakeStep → Prop
  | .wake enabled _ _ => enabled = true → s.world.drain ≠ .ending
  | .drain c => match s.world.drain with
    | .active r => c.fails = false → c.cube = false → ∀ e ∈ s.owed, r.entry ≠ some e
    | .resolving r => ∀ thread, c.fails = false → c.thread = some thread →
        wakeKey thread r ∈ s.world.deliveredWakeKeys → ∀ e ∈ s.owed, r.entry ≠ some e
    | .starting r _ => c.fails = false → s.world.deliveryDeferred = true → ∀ e ∈ s.owed,
        r.entry ≠ some e → e ∈ s.world.retryDrainSourceEntryIds.ids ∨
          ∃ r' ∈ s.world.pendingWakeRequests, r'.entry = some e
    | _ => True
  | _ => True

/-- Every owed entry waits for the seat, and its wake is under way or kept for later. -/
structure OwedOk (s : OwedWorld) : Prop where
  queue : WakeWorld.QueueOk True s.world
  unread : ∀ e ∈ s.owed, e ∈ s.world.unread
  placed : ∀ e ∈ s.owed, Waiting s.world e ∨ Kept s.world e

variable {w w' : WakeWorld} {c : Choice} {e : EntryId}

/-! ### What keeps an entry -/

lemma Kept.same (h : Kept w e) (hi : w'.retryDrainSourceEntryIds = w.retryDrainSourceEntryIds)
    (hd : w'.deliveryDeferred = w.deliveryDeferred) : Kept w' e := by
  unfold Kept
  rw [hi, hd]
  exact h

lemma Kept.retryLoop (h : Kept w e) (a : Attempts) : Kept (w.retryLoop a c) e := by
  unfold WakeWorld.retryLoop WakeWorld.ageOut
  split
  · exact h
  · split
    · exact Or.inr rfl
    · exact h

lemma mem_ids_add (ids : IdSet) (e' : EntryId) (h : e ∈ ids.ids ∨ e = e') : e ∈ (ids.add e').ids := by
  unfold IdSet.add
  split
  · rename_i hmem
    rcases h with h | rfl
    · exact h
    · exact hmem
  · rcases h with h | rfl
    · simp only [IdSet.ids, map_append, mem_append]
      exact Or.inl h
    · simp [IdSet.ids]

lemma Kept.scheduleRetryDrain (h : Kept w e) (e' : Option EntryId) :
    Kept (w.scheduleRetryDrain e' c) e := by
  unfold WakeWorld.scheduleRetryDrain
  cases e' with
  | none =>
    dsimp only
    split
    · exact h
    · refine Kept.retryLoop ?_ _
      exact h
  | some e' =>
    have hadd : Kept { w with retryDrainSourceEntryIds := w.retryDrainSourceEntryIds.add e' } e :=
      h.imp (fun hi => mem_ids_add _ e' (Or.inl hi)) id
    dsimp only
    split
    · exact hadd
    · refine Kept.retryLoop ?_ _
      exact hadd

/-- An entry left to the retry drain is kept. -/
lemma kept_scheduleRetryDrain : Kept (w.scheduleRetryDrain (some e) c) e := by
  have hadd : Kept { w with retryDrainSourceEntryIds := w.retryDrainSourceEntryIds.add e } e :=
    Or.inl (mem_ids_add _ e (Or.inr rfl))
  unfold WakeWorld.scheduleRetryDrain
  dsimp only
  split
  · exact hadd
  · refine Kept.retryLoop ?_ _
    exact hadd

lemma Kept.again (h : Kept w e) (a : Attempts) : Kept (w.again a c) e := by
  unfold WakeWorld.again
  refine Kept.retryLoop ?_ a
  exact h

lemma Kept.prune (h : Kept w e) (a : Attempts) (last : ℕ) : Kept (w.prune a last) e := by
  unfold WakeWorld.prune
  split
  · exact h
  · split <;> exact h

lemma Kept.reprune (h : Kept w e) (a : Attempts) (thread : ThreadId) (last : ℕ) :
    Kept (w.reprune a thread last) e := by
  unfold WakeWorld.reprune
  split
  · exact h
  · split <;> exact h

/-- Dropping an entry the seat has read keeps those it has not. -/
lemma Kept.dropRead (h : Kept w e) (he : e ∈ w.unread) (e' : EntryId) : Kept (w.dropRead e') e := by
  unfold WakeWorld.dropRead
  split
  · exact h
  · rename_i hread
    refine h.imp (fun hi => ?_) id
    have hne : e ≠ e' := fun h => hread (h ▸ he)
    obtain ⟨row, hrow, rfl⟩ := mem_map.mp hi
    exact mem_map.mpr ⟨row, mem_filter.mpr ⟨hrow, by simpa using hne⟩, rfl⟩

/-- A step of the retry loop that starts no turn keeps what it kept. -/
lemma Kept.advanceRetry (h : Kept w e) (he : e ∈ w.unread)
    (hno : delivers w (.retry c) = none) : Kept (w.advanceRetry c) e := by
  unfold delivers at hno
  unfold WakeWorld.advanceRetry
  split
  · exact h
  · dsimp only
    split
    · exact h.retryLoop _
    · exact h
  · split
    · exact h.again _
    · exact h.prune _ _
  · split
    · exact h.prune _ _
    · exact (h.dropRead he _).prune _ _
  · split
    · exact h.again _
    · split
      · exact h.again _
      · exact h
  · split
    · exact h.again _
    · exact h
  · split
    · exact h.again _
    · exact h.reprune _ _ _
  · split
    · exact h.again _
    · exact (h.dropRead he _).reprune _ _ _
  · rename_i hc
    rw [hc] at hno
    split
    · exact h.again _
    · rename_i hf
      simp [hf] at hno
  · exact h

lemma Kept.advanceHeart (h : Kept w e) (he : e ∈ w.unread)
    (hno : delivers w (.heart c) = none) : Kept (w.advanceHeart c) e := by
  unfold delivers at hno
  unfold WakeWorld.advanceHeart WakeWorld.defer WakeWorld.rest
  split
  · exact h
  · split
    · exact Or.inr rfl
    · split <;> exact h
  · split
    · exact Or.inr rfl
    · split
      · rename_i hempty
        rw [List.isEmpty_iff.mp hempty] at he
        cases he
      · exact h
  · split
    · exact Or.inr rfl
    · split
      · exact Or.inr rfl
      · exact h
  · split
    · exact Or.inr rfl
    · exact h
  · split
    · exact Or.inr rfl
    · exact h
  · rename_i hc
    rw [hc] at hno
    split
    · exact Or.inr rfl
    · rename_i hf
      simp [hf] at hno

/-! ### The drain -/

/-- The entry's wake is in the queue. -/
def Ahead (w : WakeWorld) (e : EntryId) : Prop := ∃ r ∈ w.pendingWakeRequests, r.entry = some e

lemma placed_finish (h : Ahead w e ∨ Kept w e) : Waiting w.finish e ∨ Kept w.finish e :=
  h.imp (fun ha => ⟨by simp [WakeWorld.finish], Or.inl ha⟩) id

/-- A wake left to the retry drain keeps its own entry and all others. -/
lemma placed_retryLater {r : Request} (h : Ahead w e ∨ Kept w e ∨ r.entry = some e) :
    Waiting (w.retryLater r c) e ∨ Kept (w.retryLater r c) e := by
  refine placed_finish ?_
  rcases h with h | h | h
  · have hs := WakeWorld.sameQueue_scheduleRetryDrain (w := w) (c := c) r.entry
    refine Or.inl ?_
    unfold Ahead
    rw [hs.pending]
    exact h
  · exact Or.inr (h.scheduleRetryDrain _)
  · rw [h]
    exact Or.inr kept_scheduleRetryDrain

lemma placed_drainCodexWakeQueue (h : Ahead w e ∨ Kept w e) :
    Waiting (w.drainCodexWakeQueue c) e ∨ Kept (w.drainCodexWakeQueue c) e := by
  unfold WakeWorld.drainCodexWakeQueue
  split
  · rename_i hnil
    refine h.elim (fun ha => ?_) (fun hk => Or.inr hk)
    obtain ⟨r, hr, -⟩ := ha
    rw [hnil] at hr
    cases hr
  · rename_i r rest hcons
    have hsplit : (∃ r' ∈ rest, r'.entry = some e) ∨ r.entry = some e ∨ Kept w e := by
      rcases h with ⟨r', hr', he⟩ | hk
      · rw [hcons] at hr'
        rcases mem_cons.mp hr' with rfl | hr'
        · exact Or.inr (Or.inl he)
        · exact Or.inl ⟨r', hr', he⟩
      · exact Or.inr (Or.inr hk)
    dsimp only
    split
    · have hs := WakeWorld.sameQueue_scheduleRetryDrain
        (w := { w with pendingWakeRequests := rest }) (c := c) r.entry
      rcases hsplit with hr | hr | hk
      · refine Or.inl ⟨by simp, Or.inl ?_⟩
        show ∃ r' ∈ WakeWorld.pendingWakeRequests _, _
        rw [hs.pending]
        exact hr
      · refine Or.inr ?_
        rw [hr]
        exact kept_scheduleRetryDrain (w := { w with pendingWakeRequests := rest })
      · exact Or.inr (Kept.scheduleRetryDrain (w := { w with pendingWakeRequests := rest }) hk _)
    · rcases hsplit with hr | hr | hk
      · exact Or.inl ⟨by simp, Or.inl hr⟩
      · exact Or.inl ⟨by simp, Or.inr ⟨r, rfl, hr⟩⟩
      · exact Or.inr hk

lemma Waiting.ahead_or {r : Request} (h : Waiting w e ∨ Kept w e)
    (hd : w.drain.request = some r) : Ahead w e ∨ Kept w e ∨ r.entry = some e := by
  rcases h with ⟨-, ha | ⟨r', hr', he⟩⟩ | hk
  · exact Or.inl ha
  · obtain rfl : r = r' := Option.some.inj (hd.symm.trans hr')
    exact Or.inr (Or.inr he)
  · exact Or.inr (Or.inl hk)

lemma placed_request {r : Request} (h : Ahead w e ∨ Kept w e ∨ r.entry = some e)
    {control : DrainControl} (hr : control.request = some r) :
    Waiting { w with drain := control } e ∨ Kept { w with drain := control } e := by
  have hne : control ≠ .idle := by
    rintro rfl
    cases hr
  rcases h with h | h | h
  · exact Or.inl ⟨hne, Or.inl h⟩
  · exact Or.inr h
  · exact Or.inl ⟨hne, Or.inr ⟨r, hr, h⟩⟩

/-- A wake that is not minded to be dropped: its own entry is not owed. -/
lemma ahead_of_dropped {r : Request} (h : Ahead w e ∨ Kept w e ∨ r.entry = some e)
    (hr : r.entry ≠ some e) : Ahead w e ∨ Kept w e := by
  rcases h with h | h | h
  · exact Or.inl h
  · exact Or.inr h
  · exact absurd h hr

lemma read_entry {r : Request} {unread : List EntryId} (he : e ∈ unread)
    (h : r.entry.any (fun e => decide (e ∉ unread)) = true) : r.entry ≠ some e := by
  intro hr
  rw [hr] at h
  simp [he] at h

lemma placed_advanceDrain {s : OwedWorld} (h : OwedOk s) (hm : s.Minds (.drain c))
    (he : e ∈ s.owed) (hdel : ∀ e', delivers s.world (.drain c) = some (some e') → e ≠ e') :
    Waiting (s.world.advanceDrain c) e ∨ Kept (s.world.advanceDrain c) e := by
  have hp := h.placed e he
  have hu := h.unread e he
  have hempty : s.world.drain.request = none → Ahead s.world e ∨ Kept s.world e := by
    intro hnone
    rcases hp with ⟨-, ha | ⟨r, hr, -⟩⟩ | hk
    · exact Or.inl ha
    · rw [hnone] at hr
      cases hr
    · exact Or.inr hk
  unfold Minds at hm
  unfold delivers at hdel
  unfold WakeWorld.advanceDrain
  cases hd : s.world.drain with
  | idle => exact hp
  | active r =>
    have ha := Waiting.ahead_or (r := r) hp (by rw [hd]; rfl)
    rw [hd] at hm
    dsimp only
    split
    · exact placed_retryLater ha
    · rename_i hf
      split
      · rename_i hc
        exact placed_finish (ahead_of_dropped ha (hm (by simpa using hf) (by simpa using hc) e he))
      · split <;> exact placed_request ha rfl
  | checking r =>
    have ha := Waiting.ahead_or (r := r) hp (by rw [hd]; rfl)
    dsimp only
    split
    · exact placed_retryLater ha
    · split
      · rename_i hread
        exact placed_finish (ahead_of_dropped ha (read_entry hu hread))
      · exact placed_request ha rfl
  | resolving r =>
    have ha := Waiting.ahead_or (r := r) hp (by rw [hd]; rfl)
    rw [hd] at hm
    dsimp only
    split
    · exact placed_retryLater ha
    · rename_i hf
      split
      · split
        · refine placed_retryLater ?_
          exact ha.imp id (Or.imp (fun _ => Or.inr rfl) id)
        · exact placed_retryLater ha
      · rename_i thread ht
        split
        · rename_i hkey
          exact placed_finish (ahead_of_dropped ha (hm thread (by simpa using hf) ht hkey e he))
        · exact placed_request ha rfl
  | connecting r thread =>
    have ha := Waiting.ahead_or (r := r) hp (by rw [hd]; rfl)
    dsimp only
    split
    · exact placed_retryLater ha
    · exact placed_request ha rfl
  | reading r thread =>
    have ha := Waiting.ahead_or (r := r) hp (by rw [hd]; rfl)
    dsimp only
    split
    · exact placed_retryLater ha
    · split <;> exact placed_request ha rfl
  | rechecking r thread =>
    have ha := Waiting.ahead_or (r := r) hp (by rw [hd]; rfl)
    dsimp only
    split
    · exact placed_retryLater ha
    · split
      · rename_i hread
        exact placed_finish (ahead_of_dropped ha (read_entry hu hread))
      · exact placed_request ha rfl
  | starting r thread =>
    have ha := Waiting.ahead_or (r := r) hp (by rw [hd]; rfl)
    rw [hd] at hm hdel
    dsimp only at hm hdel ⊢
    split
    · exact placed_retryLater ha
    · rename_i hf
      have hf' : c.fails = false := by simpa using hf
      have hne : r.entry ≠ some e := by
        intro hr
        exact hdel e (by simp [hf', hr]) rfl
      have hkept : Ahead s.world e ∨ e ∈ s.world.retryDrainSourceEntryIds.ids := by
        rcases ahead_of_dropped ha hne with ha | hi | hdef
        · exact Or.inl ha
        · exact Or.inr hi
        · exact (hm hf' hdef e he hne).symm
      refine placed_finish ?_
      unfold WakeWorld.rememberDeliveredWake WakeWorld.markDelivered
      split <;> exact hkept.imp id Or.inl
  | returned => exact placed_drainCodexWakeQueue (hempty (by rw [hd]; rfl))
  | ending =>
    have hq := h.queue.ending trivial hd
    rcases hempty (by rw [hd]; rfl) with ⟨r, hr, -⟩ | hk
    · rw [hq] at hr
      cases hr
    · exact Or.inr hk

/-! ### What the server answers -/

@[simp] lemma unread_retryLoop (w : WakeWorld) (a : Attempts) (c : Choice) :
    (w.retryLoop a c).unread = w.unread := by
  unfold WakeWorld.retryLoop WakeWorld.ageOut
  split
  · rfl
  · split <;> rfl

@[simp] lemma unread_scheduleRetryDrain (w : WakeWorld) (e : Option EntryId) (c : Choice) :
    (w.scheduleRetryDrain e c).unread = w.unread := by
  unfold WakeWorld.scheduleRetryDrain
  cases e with
  | none =>
    dsimp only
    split <;> simp
  | some e =>
    dsimp only
    split <;> simp

@[simp] lemma unread_again (w : WakeWorld) (a : Attempts) (c : Choice) :
    (w.again a c).unread = w.unread := by
  simp [WakeWorld.again]

@[simp] lemma unread_prune (w : WakeWorld) (a : Attempts) (last : ℕ) :
    (w.prune a last).unread = w.unread := by
  unfold WakeWorld.prune
  split
  · rfl
  · split <;> rfl

@[simp] lemma unread_reprune (w : WakeWorld) (a : Attempts) (thread : ThreadId) (last : ℕ) :
    (w.reprune a thread last).unread = w.unread := by
  unfold WakeWorld.reprune
  split
  · rfl
  · split <;> rfl

@[simp] lemma unread_dropRead (w : WakeWorld) (e : EntryId) :
    (w.dropRead e).unread = w.unread := by
  unfold WakeWorld.dropRead
  split <;> rfl

@[simp] lemma unread_retryLater (w : WakeWorld) (r : Request) (c : Choice) :
    (w.retryLater r c).unread = w.unread := by
  simp [WakeWorld.retryLater, WakeWorld.finish]

@[simp] lemma unread_drainCodexWakeQueue (w : WakeWorld) (c : Choice) :
    (w.drainCodexWakeQueue c).unread = w.unread := by
  unfold WakeWorld.drainCodexWakeQueue
  split
  · rfl
  · dsimp only
    split <;> simp

lemma unread_advanceRetry (w : WakeWorld) (c : Choice) :
    (w.advanceRetry c).unread = w.unread := by
  unfold WakeWorld.advanceRetry
  split
  · rfl
  · dsimp only
    split <;> simp
  · split <;> simp
  · split <;> simp
  · split
    · simp
    · split <;> simp
  · split <;> simp
  · split <;> simp
  · split <;> simp
  · split
    · simp
    · rfl
  · rfl

lemma unread_advanceDrain (w : WakeWorld) (c : Choice) :
    (w.advanceDrain c).unread = w.unread := by
  unfold WakeWorld.advanceDrain
  split
  · rfl
  · split
    · simp
    · split
      · rfl
      · split <;> rfl
  · split
    · simp
    · split <;> rfl
  · split
    · simp
    · split
      · split <;> simp
      · split <;> rfl
  · split <;> simp
  · split
    · simp
    · split <;> rfl
  · split
    · simp
    · split <;> rfl
  · split
    · simp
    · unfold WakeWorld.rememberDeliveredWake WakeWorld.markDelivered
      split <;> rfl
  · simp
  · rfl

lemma unread_advanceHeart (w : WakeWorld) (c : Choice) :
    (w.advanceHeart c).unread = w.unread := by
  unfold WakeWorld.advanceHeart WakeWorld.defer WakeWorld.rest WakeWorld.markDelivered
  split
  · rfl
  · split
    · rfl
    · split <;> rfl
  · split
    · rfl
    · split <;> rfl
  · split
    · rfl
    · split <;> rfl
  · split <;> rfl
  · split <;> rfl
  · split <;> rfl

/-! ### Runs -/

variable {s : OwedWorld}

lemma Waiting.same (h : Waiting w e) (hs : WakeWorld.SameQueue w w') : Waiting w' e := by
  unfold Waiting
  rw [hs.drain, hs.pending]
  exact h

/-- What a step that delivers nothing leaves owed. -/
lemma owedStep_owed (l : WakeStep) (hno : delivers s.world l = none) (he : e ∈ (s.owedStep l).owed) :
    e ∈ s.owed ∧ l ≠ .read e ∨ asks s.world l = some e := by
  unfold owedStep at he
  rw [hno] at he
  dsimp only at he
  cases l with
  | read e' =>
    have hf := mem_filter.mp he
    refine Or.inl ⟨hf.1, ?_⟩
    rintro ⟨⟩
    simpa using hf.2
  | wake enabled r c =>
    rcases mem_append.mp he with h | h
    · exact Or.inl ⟨h, by simp⟩
    · rw [Option.mem_toList, Option.filter_eq_some_iff] at h
      exact Or.inr h.1
  | drain c => exact Or.inl ⟨by simpa [asks] using he, by simp⟩
  | retry c => exact Or.inl ⟨by simpa [asks] using he, by simp⟩
  | tick owner cadence c => exact Or.inl ⟨by simpa [asks] using he, by simp⟩
  | heart c => exact Or.inl ⟨by simpa [asks] using he, by simp⟩
  | arrive e' => exact Or.inl ⟨by simpa [asks] using he, by simp⟩

lemma placed_wake {r : Request} (hq : WakeWorld.QueueOk True w)
    (h : Waiting w e ∨ Kept w e ∨ r.entry = some e) :
    Waiting (w.wakeCodexViaAppServer r c) e ∨ Kept (w.wakeCodexViaAppServer r c) e := by
  unfold WakeWorld.wakeCodexViaAppServer
  dsimp only
  split
  · rename_i hf
    have hne := hq.flag.mp hf
    rcases h with ⟨-, ⟨r', hr', he⟩ | hr⟩ | hk | he
    · exact Or.inl ⟨hne, Or.inl ⟨r', mem_append_left _ hr', he⟩⟩
    · exact Or.inl ⟨hne, Or.inr hr⟩
    · exact Or.inr hk
    · exact Or.inl ⟨hne, Or.inl ⟨r, mem_append_right _ mem_cons_self, he⟩⟩
  · rename_i hf
    refine placed_drainCodexWakeQueue ?_
    rcases h with ⟨hne, -⟩ | hk | he
    · exact absurd (hq.flag.mpr hne) hf
    · exact Or.inr hk
    · exact Or.inl ⟨r, mem_append_right _ mem_cons_self, he⟩

/-- A step that delivers nothing leaves every owed entry placed. -/
lemma OwedOk.placed_step (h : OwedOk s) (l : WakeStep) (hm : s.Minds l)
    (hno : delivers s.world l = none) (he : e ∈ (s.owedStep l).owed) :
    e ∈ (wakeStep s.world l).unread ∧
      (Waiting (wakeStep s.world l) e ∨ Kept (wakeStep s.world l) e) := by
  have hbefore := owedStep_owed l hno he
  cases l with
  | wake enabled r c =>
    cases enabled with
    | false =>
      have hold : e ∈ s.owed := by simpa [asks] using hbefore
      exact ⟨h.unread e hold, h.placed e hold⟩
    | true =>
      have hu : (wakeStep s.world (.wake true r c)).unread = s.world.unread := by
        unfold wakeStep WakeWorld.wakeCodexViaAppServer
        simp only [↓reduceIte]
        split <;> simp
      rw [hu]
      rcases hbefore with ⟨hold, -⟩ | hnew
      · exact ⟨h.unread e hold, placed_wake h.queue ((h.placed e hold).imp id Or.inl)⟩
      · unfold asks at hnew
        dsimp only at hnew
        rw [Option.filter_eq_some_iff] at hnew
        exact ⟨by simpa using hnew.2, placed_wake h.queue (Or.inr (Or.inr hnew.1))⟩
  | drain c =>
    have hold : e ∈ s.owed := by simpa [asks] using hbefore
    refine ⟨(unread_advanceDrain s.world c).symm ▸ h.unread e hold,
      placed_advanceDrain h hm hold (fun e' hd => ?_)⟩
    rw [hno] at hd
    cases hd
  | retry c =>
    have hold : e ∈ s.owed := by simpa [asks] using hbefore
    have hu := h.unread e hold
    refine ⟨(unread_advanceRetry s.world c).symm ▸ hu, ?_⟩
    exact (h.placed e hold).imp (fun hw => hw.same (WakeWorld.sameQueue_advanceRetry c))
      (fun hk => hk.advanceRetry hu hno)
  | tick owner cadence c =>
    have hold : e ∈ s.owed := by simpa [asks] using hbefore
    unfold wakeStep WakeWorld.fireCodexHeartbeatTick
    dsimp only
    split <;> exact ⟨h.unread e hold, h.placed e hold⟩
  | heart c =>
    have hold : e ∈ s.owed := by simpa [asks] using hbefore
    have hu := h.unread e hold
    refine ⟨(unread_advanceHeart s.world c).symm ▸ hu, ?_⟩
    exact (h.placed e hold).imp (fun hw => hw.same (WakeWorld.same_advanceHeart c).1)
      (fun hk => hk.advanceHeart hu hno)
  | read e' =>
    obtain ⟨hold, hne⟩ : e ∈ s.owed ∧ WakeStep.read e' ≠ .read e := by simpa [asks] using hbefore
    refine ⟨mem_filter.mpr ⟨h.unread e hold, ?_⟩, h.placed e hold⟩
    have hee : e ≠ e' := fun hee => hne (by rw [hee])
    simpa using hee
  | arrive e' =>
    have hold : e ∈ s.owed := by simpa [asks] using hbefore
    exact ⟨mem_append_left _ (h.unread e hold), h.placed e hold⟩

lemma OwedOk.step (h : OwedOk s) (l : WakeStep) (hm : s.Minds l) : OwedOk (s.owedStep l) := by
  have hqueue : WakeWorld.QueueOk True (s.owedStep l).world := by
    refine h.queue.step l (fun _ r c hl => ?_)
    subst hl
    exact hm rfl
  cases hdel : delivers s.world l with
  | none =>
    exact ⟨hqueue, fun e he => (h.placed_step l hm hdel he).1,
      fun e he => (h.placed_step l hm hdel he).2⟩
  | some target =>
    cases target with
    | none =>
      have hnil : (s.owedStep l).owed = [] := by
        unfold owedStep
        rw [hdel]
      exact ⟨hqueue, by simp [hnil], by simp [hnil]⟩
    | some e' =>
      have hdrain : ∃ c, l = .drain c := by
        cases l with
        | drain c => exact ⟨c, rfl⟩
        | wake enabled r c => cases hdel
        | tick owner cadence c => cases hdel
        | read e => cases hdel
        | arrive e => cases hdel
        | retry c =>
          unfold delivers at hdel
          dsimp only at hdel
          split at hdel
          · split at hdel <;> cases hdel
          · cases hdel
        | heart c =>
          unfold delivers at hdel
          dsimp only at hdel
          split at hdel
          · split at hdel <;> cases hdel
          · cases hdel
      obtain ⟨c, rfl⟩ := hdrain
      have hfilter : (s.owedStep (.drain c)).owed = s.owed.filter (· ≠ e') := by
        unfold owedStep
        rw [hdel]
      have hmem : ∀ e ∈ (s.owedStep (.drain c)).owed, e ∈ s.owed ∧ e ≠ e' := by
        intro e he
        rw [hfilter] at he
        simpa using mem_filter.mp he
      refine ⟨hqueue, fun e he => ?_, fun e he => ?_⟩
      · show e ∈ (s.world.advanceDrain c).unread
        rw [unread_advanceDrain]
        exact h.unread e (hmem e he).1
      · refine placed_advanceDrain h hm (hmem e he).1 (fun e'' hd => ?_)
        rw [hdel] at hd
        cases hd
        exact (hmem e he).2

/-- Turns being started now. -/
def turnsInFlight (w : WakeWorld) : ℕ :=
  (match w.drain with | .starting _ _ => 1 | _ => 0) +
  (match w.retry with | .starting _ _ => 1 | _ => 0) +
  (match w.heart with | .starting _ => 1 | _ => 0)

lemma turnsInFlight_le (h : WakeWorld.LockOk w) : turnsInFlight w ≤ 1 := by
  have hle := Bool.toNat_le w.injectInFlight
  have hc := h.count
  have hd : (match w.drain with | .starting _ _ => 1 | _ => 0) ≤ w.drain.holds.toNat := by
    cases w.drain <;> simp [DrainControl.holds]
  have hr : (match w.retry with | .starting _ _ => 1 | _ => 0) ≤ w.retry.holds.toNat := by
    cases w.retry <;> simp [RetryControl.holds]
  have hh : (match w.heart with | .starting _ => 1 | _ => 0) ≤ w.heart.holds.toNat := by
    cases w.heart <;> simp [HeartControl.holds]
  unfold WakeWorld.holders at hc
  unfold turnsInFlight
  omega

/-- A healthy wake path keeps nothing back. -/
lemma not_kept_of_healthy {armed : Option Bool} (h : w.codexWakePathHealthy armed = some true)
    (e : EntryId) : ¬ Kept w e := by
  unfold WakeWorld.codexWakePathHealthy at h
  split at h
  · cases h
  · cases h
  · rintro (hi | hd)
    · have hpos := length_pos_of_mem hi
      rw [if_pos] at h
      · cases h
      · simp only [Bool.or_eq_true, decide_eq_true_eq]
        exact Or.inl (Or.inr (by omega))
    · simp [hd] at h

def wakeOf (e : EntryId) : Request := ⟨"wake", some e, some e⟩

/-- Nothing fails; whether a cube is active is the argument. -/
def seen (cube : Bool) : Choice := ⟨false, cube, some "thread", false, 0, 1000⟩

def droppedRun : List WakeStep :=
  [.wake true (wakeOf "e") (seen false), .drain (seen false), .drain (seen false),
    .drain (seen false)]

end OwedWorld

end BorgClient.Codex
