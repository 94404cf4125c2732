import BorgClient.Stream.Loop

/-!
# Every run of the stream loop is lawful

A session runs only under the lease of its own seat, and resumes only from an event of that seat.
-/

namespace BorgClient.Stream

namespace LoopState

variable {s : LoopState}

/-- The variables of the loop are what the trace says, and the loop runs. -/
structure LoopOk (s : LoopState) : Prop where
  lease : s.lease = (heldIn s.trace).map (·.1)
  leaseKey : s.leaseKey = (heldIn s.trace).map (·.2)
  selected : s.currentStreamKey = selectedIn s.trace
  resume : s.lastEventId = resumeIn s.trace
  attempt : s.attempt = failuresIn s.trace
  lawful : Lawful s.trace
  running : s.stopped = false
  open_ : ∀ key, LoopAct.terminated key ∉ s.trace

namespace LoopOk

theorem held_none (h : s.LoopOk) (hlease : s.lease = none) : heldIn s.trace = none := by
  simpa [h.lease] using hlease

theorem held_some (h : s.LoopOk) {lease : ℕ} (hlease : s.lease = some lease) :
    ∃ key, heldIn s.trace = some (lease, key) ∧ s.leaseKey = some key := by
  rw [h.lease] at hlease
  obtain ⟨⟨l, key⟩, hheld, rfl⟩ := Option.map_eq_some_iff.mp hlease
  exact ⟨key, hheld, by rw [h.leaseKey, hheld]; rfl⟩

theorem cons (h : s.LoopOk) {act : LoopAct} (hallowed : Allowed s.trace act) :
    Lawful (act :: s.trace) :=
  ⟨hallowed, h.open_, h.lawful⟩

theorem slept (h : s.LoopOk) : (s.note .slept).LoopOk :=
  ⟨h.lease, h.leaseKey, h.selected, h.resume, h.attempt, h.cons trivial, h.running,
    by simpa [note] using h.open_⟩

theorem drop (h : s.LoopOk) : s.drop.LoopOk ∧ s.drop.lease = none := by
  unfold LoopState.drop
  cases hlease : s.lease with
  | none => exact ⟨h, hlease⟩
  | some lease =>
    obtain ⟨key, hheld, -⟩ := h.held_some hlease
    exact ⟨⟨rfl, rfl, h.selected, h.resume, h.attempt, h.cons (.inl ⟨key, hheld⟩), h.running,
      by simpa [note] using h.open_⟩, rfl⟩

theorem throwOut (h : s.LoopOk) : s.throwOut.LoopOk := by
  obtain ⟨hdrop, hnone⟩ := h.drop
  have hheld := hdrop.held_none hnone
  refine ⟨?_, ?_, rfl, rfl, rfl, hdrop.cons hheld, hdrop.running,
    by simpa [LoopState.throwOut, note] using hdrop.open_⟩
  · exact hdrop.lease
  · exact hdrop.leaseKey

/-- The release is called twice. -/
theorem releaseThrew (h : s.LoopOk) {lease : ℕ} (hlease : s.lease = some lease) :
    (s.releaseThrew lease).LoopOk := by
  obtain ⟨key, hheld, -⟩ := h.held_some hlease
  have htrace : (s.releaseThrew lease).trace =
      .restarted :: .released lease :: .released lease :: s.trace := by
    simp [LoopState.releaseThrew, LoopState.throwOut, LoopState.drop, note, hlease]
  have hnone : (s.releaseThrew lease).lease = none ∧ (s.releaseThrew lease).leaseKey = none := by
    simp [LoopState.releaseThrew, LoopState.throwOut, LoopState.drop, note, hlease]
  have hopen := h.open_
  have hlawful := h.lawful
  refine ⟨by rw [hnone.1, htrace]; rfl, by rw [hnone.2, htrace]; rfl, by rw [htrace]; rfl,
    by rw [htrace]; rfl, by rw [htrace]; rfl, ?_, ?_, by rw [htrace]; simpa using hopen⟩
  · rw [htrace]
    refine ⟨rfl, by simpa using hopen, .inr ⟨s.trace, rfl⟩, by simpa using hopen,
      .inl ⟨key, hheld⟩, hopen, hlawful⟩
  · simpa [LoopState.releaseThrew, LoopState.throwOut, LoopState.drop, note, hlease] using h.running

theorem select (h : s.LoopOk) (key : String) :
    (s.select key).LoopOk ∧ (s.select key).currentStreamKey = some key := by
  unfold LoopState.select
  split
  · exact ⟨h, ‹_›⟩
  · rename_i hother
    refine ⟨⟨h.lease, h.leaseKey, rfl, rfl, h.attempt, h.cons ?_, h.running,
      by simpa [note] using h.open_⟩, rfl⟩
    rw [h.selected] at hother
    exact hother

theorem hold (h : s.LoopOk) (hlease : s.lease = none) {key : String}
    (hkey : s.currentStreamKey = some key) (lease : ℕ) : (s.hold lease key).LoopOk :=
  ⟨rfl, rfl, h.selected, h.resume, h.attempt,
    h.cons ⟨h.held_none hlease, h.selected.symm.trans hkey⟩, h.running,
    by simpa [LoopState.hold, note] using h.open_⟩

theorem opened (h : s.LoopOk) {lease : ℕ} {key : String}
    (hheld : heldIn s.trace = some (lease, key)) (hkey : s.currentStreamKey = some key) :
    (s.note (.opened lease key s.lastEventId)).LoopOk :=
  ⟨h.lease, h.leaseKey, h.selected, h.resume, h.attempt,
    h.cons ⟨hheld, h.selected.symm.trans hkey, h.resume⟩, h.running,
    by simpa [note] using h.open_⟩

/-- What a session records moves the last event id and nothing else. -/
theorem records (h : s.LoopOk) {held : ℕ × String} (hheld : heldIn s.trace = some held)
    (events : List String) :
    (events.foldl record s).LoopOk ∧ heldIn (events.foldl record s).trace = some held ∧
      (events.foldl record s).currentStreamKey = s.currentStreamKey := by
  induction events generalizing s with
  | nil => exact ⟨h, hheld, rfl⟩
  | cons id events ih =>
    have hrecord : (s.record id).LoopOk :=
      ⟨h.lease, h.leaseKey, h.selected, rfl, h.attempt, h.cons (by simp [Allowed, hheld]),
        h.running, by simpa [record, note] using h.open_⟩
    exact ih (s := s.record id) hrecord hheld

end LoopOk

/-- The loop runs, or it stopped without a lease. -/
def LoopSound (s : LoopState) : Prop :=
  s.LoopOk ∨ s.stopped = true ∧ Lawful s.trace ∧ s.lease = none

theorem LoopOk.finish (h : s.LoopOk) {seat : StreamSeat} {lease : ℕ}
    (hheld : heldIn s.trace = some (lease, seat.key))
    (hkey : s.currentStreamKey = some seat.key) (it : LoopIteration) :
    (s.finish seat lease it).LoopSound := by
  unfold LoopState.finish
  cases it.ending with
  | clean =>
    exact .inl ⟨h.lease, h.leaseKey, h.selected, h.resume, rfl, h.cons (by simp [Allowed, hheld]),
      h.running, by simpa [note] using h.open_⟩
  | ownerLost =>
    have hleft : LoopOk { s.note (.lost lease) with lease := none, leaseKey := none } :=
      ⟨rfl, rfl, h.selected, h.resume, h.attempt, h.cons ⟨seat.key, hheld⟩, h.running,
        by simpa [note] using h.open_⟩
    dsimp only
    split
    · exact .inl hleft.slept
    · exact .inl hleft.throwOut
  | failed =>
    refine .inl ⟨h.lease, h.leaseKey, h.selected, h.resume, ?_, h.cons h.attempt, h.running,
      by simpa [note] using h.open_⟩
    exact congrArg (· + 1) h.attempt
  | refused gone replacement =>
    obtain ⟨hdrop, hnone⟩ := h.drop
    have hdropped : s.drop.currentStreamKey = some seat.key := by
      rw [← hkey]
      unfold LoopState.drop
      split <;> rfl
    dsimp only
    split
    · split
      · exact .inl hdrop
      · exact .inl hdrop.throwOut
    · split
      · exact .inl hdrop.throwOut
      · exact .inr ⟨rfl, hdrop.cons ⟨hdrop.held_none hnone, hdrop.selected.symm.trans hdropped⟩,
          hnone⟩

theorem LoopOk.connect (h : s.LoopOk) {seat : StreamSeat} {lease : ℕ}
    (hheld : heldIn s.trace = some (lease, seat.key))
    (hkey : s.currentStreamKey = some seat.key) (it : LoopIteration) :
    (s.connect seat lease it).LoopSound := by
  unfold LoopState.connect
  split
  · obtain ⟨hok, hstill, hsame⟩ := (h.opened hheld hkey).records hheld it.events
    exact hok.finish hstill (hsame.trans hkey) it
  · exact .inl h.throwOut

theorem LoopOk.stream (h : s.LoopOk) {seat : StreamSeat}
    (hkey : s.currentStreamKey = some seat.key)
    (hlease : s.lease.isSome = true → s.leaseKey = some seat.key) (it : LoopIteration) :
    (s.stream seat it).LoopSound := by
  unfold LoopState.stream
  cases hs : s.lease with
  | some lease =>
    obtain ⟨key, hheld, hleaseKey⟩ := h.held_some hs
    have hsame : key = seat.key := by
      have := hlease (by simp [hs])
      rw [hleaseKey] at this
      exact Option.some.inj this
    subst hsame
    exact h.connect hheld hkey it
  | none =>
    dsimp only
    split
    · exact .inl h.throwOut
    · split
      · exact .inl h.slept
      · exact .inl h.throwOut
    · rename_i lease _
      exact (h.hold hs hkey lease).connect rfl hkey it

theorem LoopOk.pass (h : s.LoopOk) (it : LoopIteration) : (s.pass it).LoopSound := by
  unfold LoopState.pass
  split
  · exact .inl h.throwOut
  · split
    · exact .inl h.slept
    · rename_i lease hlease
      split
      · exact .inl h.drop.1.slept
      · exact .inl (h.releaseThrew hlease)
  · rename_i seat _
    obtain ⟨hsel, hkey⟩ := h.select seat.key
    dsimp only
    split
    · rename_i hnone
      exact hsel.stream hkey (by simp [hnone]) it
    · rename_i lease hlease
      split
      · exact hsel.stream hkey (fun _ => ‹_›) it
      · split
        · obtain ⟨hdrop, hnone⟩ := hsel.drop
          have hdropped : ((s.select seat.key).drop).currentStreamKey = some seat.key := by
            rw [← hkey]
            unfold LoopState.drop
            split <;> rfl
          exact hdrop.stream hdropped (by simp [hnone]) it
        · exact .inl (hsel.releaseThrew hlease)

theorem LoopSound.step (h : s.LoopSound) (it : LoopIteration) : (loopStep s it).LoopSound := by
  unfold loopStep
  split
  · exact h
  · rename_i hrunning
    obtain hok | ⟨hstopped, -⟩ := h
    · exact hok.pass it
    · exact absurd hstopped hrunning

theorem start_loopOk : start.LoopOk where
  lease := rfl
  leaseKey := rfl
  selected := rfl
  resume := rfl
  attempt := rfl
  lawful := trivial
  running := rfl
  open_ := by simp [start]

end LoopState

/-! ### Reading a trace -/

theorem Lawful.at {later earlier : List LoopAct} {act : LoopAct}
    (h : Lawful (later ++ act :: earlier)) :
    Allowed earlier act ∧ ∀ key, LoopAct.terminated key ∉ earlier := by
  induction later with
  | nil => exact ⟨h.1, h.2.1⟩
  | cons _ later ih => exact ih h.2.2

/-- A last event was recorded since the seat was selected. -/
theorem resumeIn_eq_some {trace : List LoopAct} {id : String} (h : resumeIn trace = some id) :
    ∃ between before, trace = between ++ .recorded id :: before ∧
      selectedIn before = selectedIn trace ∧ LoopAct.restarted ∉ between ∧
      ∀ key, LoopAct.selected key ∉ between := by
  induction trace with
  | nil => cases h
  | cons act earlier ih =>
    cases act with
    | recorded other =>
      obtain rfl : other = id := by simpa [resumeIn] using h
      exact ⟨[], earlier, rfl, rfl, by simp, by simp⟩
    | selected key => cases h
    | restarted => cases h
    | _ =>
      obtain ⟨between, before, rfl, hselected, hrestarted, hkeys⟩ := ih h
      exact ⟨_ :: between, before, rfl, hselected, by simpa using hrestarted, by simpa using hkeys⟩

/-- Over every run of the loop, whatever the cube, the leases and the sessions do and whichever
calls fail: each act was allowed by what came before it, and a session that resumes from an event
resumes from the last one that a session of the same seat recorded, with no other seat selected and
no restart since. -/
theorem loop_lawful (its : List LoopIteration) (later earlier : List LoopAct) (act : LoopAct)
    (htrace : (Runs.run loopStep .start its).trace = later ++ act :: earlier) :
    Allowed earlier act ∧ (∀ key, LoopAct.terminated key ∉ earlier) ∧
      ∀ lease key id, act = .opened lease key (some id) →
        ∃ between before, earlier = between ++ .recorded id :: before ∧
          selectedIn before = some key ∧ LoopAct.restarted ∉ between ∧
          ∀ other, LoopAct.selected other ∉ between := by
  have hsound : (Runs.run loopStep .start its).LoopSound :=
    Runs.invariant loopStep LoopState.LoopSound (fun _ it h => h.step it)
      (.inl LoopState.start_loopOk) its
  have hlawful : Lawful (Runs.run loopStep .start its).trace :=
    hsound.elim (·.lawful) (·.2.1)
  rw [htrace] at hlawful
  obtain ⟨hallowed, hopen⟩ := hlawful.at
  refine ⟨hallowed, hopen, fun lease key id hact => ?_⟩
  subst hact
  obtain ⟨-, hselected, hresume⟩ := hallowed
  obtain ⟨between, before, heq, hbefore, hrest⟩ := resumeIn_eq_some hresume.symm
  exact ⟨between, before, heq, hbefore.trans hselected, hrest⟩

def loopSeat : StreamSeat := ⟨"cube", "drone", none⟩

/-- A session that throws after an event, and the one that follows it. -/
def resumedIterations : List LoopIteration :=
  [⟨some (some loopSeat), true, some (some 1), true, ["event"], .failed, true⟩,
    ⟨some (some loopSeat), true, some none, true, [], .clean, true⟩]

theorem loop_lawful_resumed :
    ∃ between before, [.backedOff 0, .recorded "event", .opened 1 loopSeat.key none,
        .acquired 1 loopSeat.key, .selected loopSeat.key] = between ++ .recorded "event" :: before ∧
      selectedIn before = some loopSeat.key ∧ LoopAct.restarted ∉ between ∧
      ∀ other, LoopAct.selected other ∉ between :=
  (loop_lawful resumedIterations [.closed]
    [.backedOff 0, .recorded "event", .opened 1 loopSeat.key none, .acquired 1 loopSeat.key,
      .selected loopSeat.key]
    (.opened 1 loopSeat.key (some "event")) (by decide)).2.2 1 loopSeat.key "event" rfl

end BorgClient.Stream
