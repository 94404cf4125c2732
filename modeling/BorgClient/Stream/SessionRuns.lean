import BorgClient.Stream.Session

/-!
# What a session appends

The entries a session owes its drone's inbox, and when it appends them: the persisted position is
the latest the session was ever told, so an entry that arrives behind it is taken for one the
inbox has.
-/

namespace BorgClient.Stream
open Representative (LocalServerCursor Uuid)
open List Runs StreamText

/-! ### What one event moves -/

/-- The positions of `s'` are those of `s`, or the event's. -/
structure Moved (ev : LogEvent) (s s' : SessionState) : Prop where
  hwm : ∀ h, s'.lastPersistedHwm = some h → s.lastPersistedHwm = some h ∨ h = ev.point
  stored : ∀ h ∈ s'.stored, h ∈ s.stored ∨ ev.cursor = some h
  recent : ∀ id ∈ s'.recentIds, id ∈ s.recentIds ∨ id = ev.id
  known : s.lastPersistedEventId.isSome → s'.lastPersistedEventId.isSome
  paired : (s.lastPersistedHwm.isSome → s.lastPersistedEventId.isSome) →
    s'.lastPersistedHwm.isSome → s'.lastPersistedEventId.isSome
  broadcast : s.lastBroadcastHwm.isSome → s'.lastBroadcastHwm.isSome

lemma Moved.refl (ev : LogEvent) (s : SessionState) : Moved ev s s :=
  ⟨fun _ => Or.inl, fun _ => Or.inl, fun _ => Or.inl, id, id, id⟩

lemma Moved.trans {ev : LogEvent} {a b c : SessionState} (h : Moved ev a b) (h' : Moved ev b c) :
    Moved ev a c where
  hwm := fun p hp => (h'.hwm p hp).elim (h.hwm p) Or.inr
  stored := fun p hp => (h'.stored p hp).elim (h.stored p) Or.inr
  recent := fun p hp => (h'.recent p hp).elim (h.recent p) Or.inr
  known := fun hk => h'.known (h.known hk)
  paired := fun hp => h'.paired (h.paired hp)
  broadcast := fun hb => h'.broadcast (h.broadcast hb)

lemma mem_forget {id : String} : ∀ (ids order : List String),
    id ∈ (forget ids order).1 → id ∈ ids
  | ids, [], h => h
  | ids, old :: rest, h => by
    unfold forget at h
    split at h
    · exact (mem_filter.mp (mem_forget _ rest h)).1
    · exact h

lemma moved_remember (s : SessionState) (ev : LogEvent) : Moved ev s (remember s ev.id) := by
  refine ⟨fun _ => Or.inl, fun _ => Or.inl, ?_, id, id, id⟩
  intro id hid
  rcases mem_cons.mp (mem_forget _ _ hid) with rfl | hid
  · exact Or.inr rfl
  · exact Or.inl hid

lemma moved_close (s : SessionState) (ev : LogEvent) : Moved ev s { s with closed := true } :=
  ⟨fun _ => Or.inl, fun _ => Or.inl, fun _ => Or.inl, id, id, id⟩

/-! ### What a session was told -/

/-- An event with the id came. -/
def Arrived (events : List SessionEvent) (id : String) : Prop :=
  ∃ ev a, .log ev a ∈ events ∧ ev.id = id

/-- A position the session was told: of a log event, its frame's cursor, or the baseline heartbeat
of a session that resumes from nothing. -/
def Received (c : StreamSession) (events : List SessionEvent) (h : BroadcastHwm) : Prop :=
  (∃ ev a, .log ev a ∈ events ∧ (h = ev.point ∨ ev.cursor = some h)) ∨
  (c.cursor = none ∧ c.lastEventId = none ∧ ∃ before after,
    events = before ++ .heartbeat (some h) :: after ∧ (∀ ev a, .log ev a ∉ before) ∧
    ∀ hwm, .heartbeat (some hwm) ∉ before)

lemma Arrived.append {events : List SessionEvent} {id : String} (h : Arrived events id)
    (more : List SessionEvent) : Arrived (events ++ more) id := by
  obtain ⟨ev, a, hmem, hid⟩ := h
  exact ⟨ev, a, mem_append_left more hmem, hid⟩

lemma Received.append {c : StreamSession} {events : List SessionEvent} {h : BroadcastHwm}
    (hr : Received c events h) (more : List SessionEvent) : Received c (events ++ more) h := by
  rcases hr with ⟨ev, a, hmem, hpos⟩ | ⟨hc, hl, before, after, rfl, hlog, hhwm⟩
  · exact Or.inl ⟨ev, a, mem_append_left more hmem, hpos⟩
  · exact Or.inr ⟨hc, hl, before, after ++ more, by simp, hlog, hhwm⟩

/-- The positions of the state are the resume cursor or received ones. -/
structure Told (c : StreamSession) (events : List SessionEvent) (s : SessionState) : Prop where
  hwm : ∀ h, s.lastPersistedHwm = some h → c.cursor = some h ∨ Received c events h
  stored : ∀ h ∈ s.stored, Received c events h
  recent : ∀ id ∈ s.recentIds, Arrived events id
  paired : s.lastPersistedHwm.isSome → s.lastPersistedEventId.isSome
  fresh : s.closed = false → s.lastPersistedEventId = none →
    c.cursor = none ∧ c.lastEventId = none ∧ ∀ ev a, .log ev a ∉ events
  unheard : s.closed = false → s.lastBroadcastHwm = none → ∀ hwm, .heartbeat (some hwm) ∉ events

lemma told_start (c : StreamSession) (inbox : List Char) : Told c [] (c.start inbox) where
  hwm := fun h hh => Or.inl hh
  stored := by simp [StreamSession.start]
  recent := by simp [StreamSession.start]
  paired := by
    intro hs
    obtain ⟨cursor, hcursor⟩ := Option.isSome_iff_exists.mp hs
    have hc : c.cursor = some cursor := hcursor
    simp [StreamSession.start, hc]
  fresh := by
    intro _ hnone
    have h : c.cursor = none ∧ c.lastEventId = none := by
      simpa [StreamSession.start] using hnone
    exact ⟨h.1, h.2, by simp⟩
  unheard := by simp

/-- An event that moves no position. -/
lemma Told.quiet {c : StreamSession} {events : List SessionEvent} {s s' : SessionState}
    (h : Told c events s) {event : SessionEvent} (hwm : s'.lastPersistedHwm = s.lastPersistedHwm)
    (stored : s'.stored = s.stored) (recent : s'.recentIds = s.recentIds)
    (known : s'.lastPersistedEventId = s.lastPersistedEventId)
    (fresh : s'.closed = false → s.closed = false ∧ ∀ ev a, event ≠ .log ev a)
    (unheard : s'.closed = false → s'.lastBroadcastHwm = none →
      s.lastBroadcastHwm = none ∧ ∀ hwm, event ≠ .heartbeat (some hwm)) :
    Told c (events ++ [event]) s' where
  hwm := by
    intro p hp
    rw [hwm] at hp
    exact (h.hwm p hp).imp_right (fun hr => hr.append [event])
  stored := by
    intro p hp
    rw [stored] at hp
    exact (h.stored p hp).append [event]
  recent := by
    intro id hid
    rw [recent] at hid
    exact (h.recent id hid).append [event]
  paired := by
    rw [hwm, known]
    exact h.paired
  fresh := by
    intro hopen hnone
    rw [known] at hnone
    obtain ⟨hopen', hev⟩ := fresh hopen
    obtain ⟨hc, hl, hlog⟩ := h.fresh hopen' hnone
    refine ⟨hc, hl, ?_⟩
    intro ev a hmem
    rcases mem_append.mp hmem with hmem | hmem
    · exact hlog ev a hmem
    · exact hev ev a (mem_singleton.mp hmem).symm
  unheard := by
    intro hopen hnone p hmem
    obtain ⟨hnone', hev⟩ := unheard hopen hnone
    rcases mem_append.mp hmem with hmem | hmem
    · exact h.unheard (fresh hopen).1 hnone' p hmem
    · exact hev p (mem_singleton.mp hmem).symm

section Laws

variable [StreamText]

lemma moved_mark (s : SessionState) (ev : LogEvent) :
    Moved ev s (markEventPersisted s ev.id ev.createdAt) := by
  unfold markEventPersisted
  dsimp only
  split
  · exact Moved.refl ev s
  · refine ⟨?_, fun _ => Or.inl, fun _ => Or.inl, fun _ => rfl, fun _ _ => rfl, id⟩
    rintro h hh
    exact Or.inr (Option.some.inj hh).symm

lemma moved_markBroadcast (s : SessionState) (ev : LogEvent) (hwm : Option BroadcastHwm) :
    Moved ev s (markBroadcastPersisted s hwm) := by
  cases hwm with
  | none => exact Moved.refl ev s
  | some hwm => exact ⟨fun _ => Or.inl, fun _ => Or.inl, fun _ => Or.inl, id, id, fun _ => rfl⟩

lemma moved_recordSeen (s : SessionState) (ev : LogEvent) (a : Answers) :
    Moved ev s (recordSeen s ev a) := by
  have hmarked := (moved_remember s ev).trans ((moved_mark (remember s ev.id) ev).trans
    (moved_markBroadcast _ ev (broadcastHwmFromLogEvent ev)))
  unfold recordSeen
  dsimp only
  split
  · exact hmarked
  · rename_i cursor hcursor
    refine hmarked.trans ?_
    split
    · refine ⟨fun _ => Or.inl, ?_, fun _ => Or.inl, id, id, id⟩
      intro h hh
      rcases mem_append.mp hh with hh | hh
      · exact Or.inl hh
      · obtain rfl := mem_singleton.mp hh
        exact Or.inr hcursor
    · exact ⟨fun _ => Or.inl, fun _ => Or.inl, fun _ => Or.inl, id, id, id⟩

lemma moved_write (s : SessionState) (ev : LogEvent) (a : Answers) :
    Moved ev s (writeInboxLine s ev a).1 := by
  unfold writeInboxLine
  split
  · exact Moved.refl ev s
  · dsimp only
    split
    · exact moved_mark s ev
    · split
      · exact Moved.refl ev s
      · split
        · split
          · exact Moved.refl ev s
          · exact moved_mark s ev
        · unfold appendInboxLine
          split
          · exact ⟨fun _ => Or.inl, fun _ => Or.inl, fun _ => Or.inl, id, id, id⟩
          · exact ⟨fun _ => Or.inl, fun _ => Or.inl, fun _ => Or.inl, id, id, id⟩

lemma moved_writeThenRecord (s : SessionState) (ev : LogEvent) (a : Answers) :
    Moved ev s (writeThenRecord s ev a) := by
  have hwrite := moved_write s ev a
  unfold writeThenRecord
  split
  · rename_i s' hw
    rw [hw] at hwrite
    exact hwrite.trans (moved_close s' ev)
  · rename_i s' hw
    rw [hw] at hwrite
    exact hwrite
  · rename_i s' hw
    rw [hw] at hwrite
    exact hwrite.trans (moved_recordSeen s' ev a)

lemma moved_wakeReplay (s : SessionState) (ev : LogEvent) (a : Answers) :
    Moved ev s (wakeReplay s ev a) := by
  unfold wakeReplay
  split
  · exact moved_close s ev
  · split
    · exact moved_close s ev
    · exact Moved.refl ev s

lemma moved_logEvent (c : StreamSession) (s : SessionState) (ev : LogEvent) (a : Answers) :
    Moved ev s (logEvent c s ev a) := by
  unfold logEvent
  dsimp only
  have hrecent : Moved ev s (if s.recentIds.contains ev.id then markBroadcastPersisted
      (markEventPersisted s ev.id ev.createdAt) (broadcastHwmFromLogEvent ev) else s) := by
    split
    · exact (moved_mark s ev).trans (moved_markBroadcast _ ev _)
    · exact Moved.refl ev s
  split
  · exact hrecent
  · split
    · split
      · exact hrecent.trans (moved_recordSeen _ ev a)
      · split
        · exact hrecent.trans (moved_writeThenRecord _ ev a)
        · exact hrecent.trans (moved_recordSeen _ ev a)
    · split
      · exact hrecent.trans (moved_recordSeen _ ev a)
      · split
        · exact hrecent.trans (moved_recordSeen _ ev a)
        · split
          · exact hrecent.trans (moved_wakeReplay _ ev a)
          · exact hrecent.trans (moved_writeThenRecord _ ev a)

/-! ### The event id -/

lemma known_mark {s : SessionState}
    (hp : s.lastPersistedHwm.isSome → s.lastPersistedEventId.isSome) (id createdAt : String) :
    (markEventPersisted s id createdAt).lastPersistedEventId.isSome := by
  unfold markEventPersisted
  dsimp only
  split
  · rename_i hany
    apply hp
    cases h : s.lastPersistedHwm with
    | none => simp [h] at hany
    | some last => rfl
  · rfl

lemma known_recordSeen {s : SessionState}
    (hp : s.lastPersistedHwm.isSome → s.lastPersistedEventId.isSome) (ev : LogEvent)
    (a : Answers) : (recordSeen s ev a).lastPersistedEventId.isSome := by
  have hmark := known_mark (s := remember s ev.id) hp ev.id ev.createdAt
  have hbroadcast := (moved_markBroadcast _ ev (broadcastHwmFromLogEvent ev)).known hmark
  unfold recordSeen
  dsimp only
  split
  · exact hbroadcast
  · split
    · exact hbroadcast
    · exact hbroadcast

lemma known_writeThenRecord {s : SessionState}
    (hp : s.lastPersistedHwm.isSome → s.lastPersistedEventId.isSome) {ev : LogEvent} {a : Answers}
    (hopen : (writeThenRecord s ev a).closed = false) :
    (writeThenRecord s ev a).lastPersistedEventId.isSome := by
  have hpaired := (moved_write s ev a).paired hp
  unfold writeThenRecord at hopen ⊢
  split
  · rename_i s' hw
    simp [hw] at hopen
  · rename_i s' hw
    have hskip : s' = markEventPersisted s ev.id ev.createdAt := by
      unfold writeInboxLine appendInboxLine at hw
      grind
    rw [hskip]
    exact known_mark hp ev.id ev.createdAt
  · rename_i s' hw
    rw [hw] at hpaired
    exact known_recordSeen hpaired ev a

/-- A log event that was dealt with leaves an event id to resume from. -/
lemma known_logEvent {c : StreamSession} {s : SessionState}
    (hp : s.lastPersistedHwm.isSome → s.lastPersistedEventId.isSome) {ev : LogEvent} {a : Answers}
    (hopen : (logEvent c s ev a).closed = false) :
    (logEvent c s ev a).lastPersistedEventId.isSome := by
  by_cases hrecent : s.recentIds.contains ev.id = true
  · have hmarked := (moved_markBroadcast _ ev (broadcastHwmFromLogEvent ev)).known
      (known_mark hp ev.id ev.createdAt)
    have hmoved : Moved ev (markBroadcastPersisted (markEventPersisted s ev.id ev.createdAt)
        (broadcastHwmFromLogEvent ev)) (logEvent c s ev a) := by
      unfold logEvent
      simp only [hrecent, if_true, Bool.true_and]
      split
      · exact Moved.refl ev _
      · split
        · split
          · exact moved_recordSeen _ ev a
          · split
            · exact moved_writeThenRecord _ ev a
            · exact moved_recordSeen _ ev a
        · split
          · exact moved_recordSeen _ ev a
          · split
            · exact moved_recordSeen _ ev a
            · split
              · exact moved_wakeReplay _ ev a
              · exact moved_writeThenRecord _ ev a
    exact hmoved.known hmarked
  · unfold logEvent at hopen ⊢
    simp only [hrecent, Bool.false_and, Bool.false_eq_true, if_false] at hopen ⊢
    split
    · split
      · rename_i hkind hauthor
        rw [if_pos hkind, if_pos hauthor] at hopen
        exact known_writeThenRecord hp hopen
      · exact known_recordSeen hp ev a
    · rename_i hkind
      rw [if_neg hkind] at hopen
      split
      · exact known_recordSeen hp ev a
      · rename_i hdirect
        rw [if_neg hdirect] at hopen
        split
        · exact known_recordSeen hp ev a
        · rename_i hown
          rw [if_neg hown] at hopen
          exact known_writeThenRecord hp hopen

/-! ### The positions of a run -/

lemma told_log {c : StreamSession} {events : List SessionEvent} {s : SessionState}
    (h : Told c events s) (hopen : s.closed = false) (ev : LogEvent) (a : Answers) :
    Told c (events ++ [.log ev a]) (logEvent c s ev a) := by
  have hmoved := moved_logEvent c s ev a
  have hlast : SessionEvent.log ev a ∈ events ++ [.log ev a] := by simp
  refine ⟨?_, ?_, ?_, hmoved.paired h.paired, ?_, ?_⟩
  · intro p hp
    rcases hmoved.hwm p hp with hp | rfl
    · exact (h.hwm p hp).imp_right (fun hr => hr.append _)
    · exact Or.inr (Or.inl ⟨ev, a, hlast, Or.inl rfl⟩)
  · intro p hp
    rcases hmoved.stored p hp with hp | hp
    · exact (h.stored p hp).append _
    · exact Or.inl ⟨ev, a, hlast, Or.inr hp⟩
  · intro id hid
    rcases hmoved.recent id hid with hid | rfl
    · exact (h.recent id hid).append _
    · exact ⟨ev, a, hlast, rfl⟩
  · intro hopen' hnone
    have hknown := known_logEvent h.paired hopen'
    simp [hnone] at hknown
  · intro _ hnone p hmem
    have hbefore : s.lastBroadcastHwm = none := by
      by_contra hsome
      have hkept := hmoved.broadcast (Option.isSome_iff_ne_none.mpr hsome)
      simp [hnone] at hkept
    rcases mem_append.mp hmem with hmem | hmem
    · exact h.unheard hopen hbefore p hmem
    · simp at hmem

lemma told_heartbeat {c : StreamSession} {events : List SessionEvent} {s : SessionState}
    (h : Told c events s) (hopen : s.closed = false) (hwm : Option BroadcastHwm) :
    Told c (events ++ [.heartbeat hwm]) (heartbeat s hwm) := by
  unfold heartbeat
  split
  · exact h.quiet rfl rfl rfl rfl (fun hc => ⟨hc, by simp⟩) (fun _ hn => ⟨hn, by simp⟩)
  · rename_i p
    split
    · rename_i hnone
      dsimp only
      split
      · rename_i hid
        obtain ⟨hc, hl, hlog⟩ := h.fresh hopen hid
        have hwm_none : s.lastPersistedHwm = none := by
          by_contra hsome
          have hknown := h.paired (Option.isSome_iff_ne_none.mpr hsome)
          simp [hid] at hknown
        have hreceived : Received c (events ++ [.heartbeat (some p)]) p :=
          Or.inr ⟨hc, hl, events, [], rfl, hlog, h.unheard hopen hnone⟩
        have hmark : markEventPersisted (markBroadcastPersisted s (some p)) p.id p.created_at =
            { markBroadcastPersisted s (some p) with
              lastPersistedHwm := some p, lastPersistedEventId := some p.id } := by
          unfold markEventPersisted
          have hkept : (markBroadcastPersisted s (some p)).lastPersistedHwm = none := hwm_none
          simp [hkept]
        rw [hmark]
        refine ⟨?_, ?_, ?_, fun _ => rfl, ?_, ?_⟩
        · intro q hq
          obtain rfl := Option.some.inj hq
          exact Or.inr hreceived
        · intro q hq
          exact (h.stored q hq).append _
        · intro id hid'
          exact (h.recent id hid').append _
        · intro _ hnone'
          simp at hnone'
        · intro _ hnone'
          simp [markBroadcastPersisted] at hnone'
      · exact h.quiet rfl rfl rfl rfl (fun hc => ⟨hc, by simp⟩)
          (fun _ hn => by simp [markBroadcastPersisted] at hn)
    · rename_i last hlast
      have hheard : s.lastBroadcastHwm ≠ none := by simp [hlast]
      split
      · exact h.quiet rfl rfl rfl rfl (fun hc => ⟨hc, by simp⟩) (fun _ hn => absurd hn hheard)
      · split
        · exact h.quiet rfl rfl rfl rfl (fun hc => ⟨hc, by simp⟩) (fun _ hn => absurd hn hheard)
        · exact h.quiet rfl rfl rfl rfl (fun hc => ⟨hc, by simp⟩) (fun _ hn => absurd hn hheard)

/-- In every run the positions come from what the session was told. -/
lemma told_session (c : StreamSession) (inbox : List Char) (events : List SessionEvent) :
    Told c events (session c inbox events) := by
  apply invariant_of_history (sessionStep c) (Told c) (told_start c inbox)
  intro events event h
  set s := run (sessionStep c) (c.start inbox) events
  unfold sessionStep
  by_cases hclosed : s.closed = true
  · rw [if_pos hclosed]
    exact h.quiet rfl rfl rfl rfl (by simp [hclosed]) (by simp [hclosed])
  · rw [if_neg hclosed]
    have hopen : s.closed = false := by simpa using hclosed
    cases event with
    | log ev a => exact told_log h hopen ev a
    | heartbeat hwm => exact told_heartbeat h hopen hwm
    | bookmark =>
      exact h.quiet rfl rfl rfl rfl (fun hc => ⟨hc, by simp⟩) (fun _ hn => ⟨hn, by simp⟩)
    | eviction reason a => exact h.quiet rfl rfl rfl rfl (by simp [eviction]) (by simp [eviction])
    | error => exact h.quiet rfl rfl rfl rfl (by simp) (by simp)
    | unknown =>
      exact h.quiet rfl rfl rfl rfl (fun hc => ⟨hc, by simp⟩) (fun _ hn => ⟨hn, by simp⟩)
    | divergence =>
      dsimp only
      unfold divergence
      split
      · exact h.quiet rfl rfl rfl rfl (fun hc => ⟨hc, by simp⟩) (fun _ hn => ⟨hn, by simp⟩)
      · split
        · exact h.quiet rfl rfl rfl rfl (fun hc => ⟨hc, by simp⟩) (fun _ hn => ⟨hn, by simp⟩)
        · exact h.quiet rfl rfl rfl rfl (by simp) (by simp)
    | close => exact h.quiet rfl rfl rfl rfl (by simp) (by simp)

/-! ### What a session owes -/

/-- The session's position, or the stored cursor, is at or after `p`. -/
def Passes (s : SessionState) (p : BroadcastHwm) : Prop :=
  (∃ h, s.lastPersistedHwm = some h ∧ compareBroadcastHwm p h ≤ 0) ∨
    ∃ h ∈ s.stored, compareBroadcastHwm p h ≤ 0

/-- The entry is for this drone: an ack of its own entry, a direct entry naming it, or a
broadcast. -/
def Addressed (c : StreamSession) (ev : LogEvent) : Prop :=
  if ev.data.kind = some "ack" then ev.data.author_drone_id = some c.droneId
  else ev.data.visibility = some "direct" → isRecipient c ev = true

/-- The inbox has the entry's line, as it is written now or as it was before lines carried ids. -/
def HoldsLine (inbox : List Char) (ev : LogEvent) (line : String) : Prop :=
  line.toList ∈ splitLines inbox ∨ legacyForm ev.id line ∈ splitLines inbox

/-- The event, coming after `before`, brings an entry the session has to append: addressed, not
the drone's own post, later than the resume cursor, and not received before (in this session, in
the inbox of an earlier one, or, for a re-ping, by a drone that has read it since). -/
structure Owed (c : StreamSession) (inbox : List Char) (before : List SessionEvent) (ev : LogEvent)
    (a : Answers) : Prop where
  addressed : Addressed c ev
  notOwn : ev.data.drone_id = some c.droneId → isHeartbeatPing ev = true
  later : ∀ h, c.cursor = some h → 0 < compareBroadcastHwm ev.point h
  new : ¬ Arrived before ev.id
  absent : ∀ line, ev.line a = some line → ¬ HoldsLine (session c inbox before).inbox ev line
  unread : ev.wake_nonce.isSome → a.pending ≠ some false

/-- The entry is appended when it comes, and no position passed it before; where the append or a
call before it fails, the session ends without passing it. -/
structure Kept (c : StreamSession) (inbox : List Char) (before : List SessionEvent) (ev : LogEvent)
    (a : Answers) : Prop where
  ahead : ∀ earlier, earlier <+: before → ¬ Passes (session c inbox earlier) ev.point
  appended :
    (session c inbox (before ++ [.log ev a])).appended =
      (session c inbox before).appended ++ [(ev.id, true)] ∨
    ((ev.line a = none ∨ a.reads = false ∨ a.appends = false) ∧
      (session c inbox (before ++ [.log ev a])).closed = true ∧
      ¬ Passes (session c inbox (before ++ [.log ev a])) ev.point)

/-- Every entry the session owes is kept. -/
def Lossless (c : StreamSession) (inbox : List Char) (events : List SessionEvent) : Prop :=
  ∀ before ev a after, events = before ++ .log ev a :: after →
    (session c inbox before).closed = false → Owed c inbox before ev a → Kept c inbox before ev a

/-- The event comes before any position at or after it, a re-ping is known to be pending, and an
inbox that is consulted does not quote the entry's marker. -/
structure InOrder (c : StreamSession) (inbox : List Char) (before : List SessionEvent)
    (ev : LogEvent) (a : Answers) : Prop where
  ahead : ∀ h, Received c before h → 0 < compareBroadcastHwm ev.point h
  answered : ev.wake_nonce.isSome → a.pending = some true
  unquoted : consultInboxFile (session c inbox before) ev = true →
    ∀ line, ev.line a = some line →
      inboxRawHasEntry (session c inbox before).inbox ev.id line = false

lemma session_append (c : StreamSession) (inbox : List Char) (events more : List SessionEvent) :
    session c inbox (events ++ more) = run (sessionStep c) (session c inbox events) more := by
  unfold session
  rw [run_append]

/-- Positions in order are not passed. -/
lemma not_passes {c : StreamSession} {events : List SessionEvent} {s : SessionState}
    (h : Told c events s) {p : BroadcastHwm}
    (hlater : ∀ h, c.cursor = some h → 0 < compareBroadcastHwm p h)
    (hahead : ∀ h, Received c events h → 0 < compareBroadcastHwm p h) : ¬ Passes s p := by
  rintro (⟨q, hq, hle⟩ | ⟨q, hq, hle⟩)
  · rcases h.hwm q hq with hc | hr
    · exact absurd (hlater q hc) (by omega)
    · exact absurd (hahead q hr) (by omega)
  · exact absurd (hahead q (h.stored q hq)) (by omega)

/-- An owed entry reaches the append. -/
lemma logEvent_owed {c : StreamSession} {inbox : List Char} {before : List SessionEvent}
    {ev : LogEvent} {a : Answers} (h : Owed c inbox before ev a) :
    logEvent c (session c inbox before) ev a = writeThenRecord (session c inbox before) ev a := by
  have hrecent : (session c inbox before).recentIds.contains ev.id = false := by
    rw [← Bool.not_eq_true, contains_iff_mem]
    intro hmem
    exact h.new ((told_session c inbox before).recent ev.id hmem)
  have haddressed := h.addressed
  unfold Addressed at haddressed
  unfold logEvent
  simp only [hrecent, Bool.false_and, Bool.false_eq_true, if_false]
  by_cases hkind : ev.data.kind = some "ack"
  · rw [if_pos hkind] at haddressed
    rw [if_pos hkind, if_pos haddressed]
  · rw [if_neg hkind] at haddressed
    rw [if_neg hkind, if_neg, if_neg]
    · intro hown
      simp only [Bool.and_eq_true, decide_eq_true_eq, Bool.not_eq_true'] at hown
      rw [h.notOwn hown.1] at hown
      exact absurd hown.2 (by simp)
    · intro hdirect
      simp only [Bool.and_eq_true, decide_eq_true_eq, Bool.not_eq_true'] at hdirect
      rw [haddressed hdirect.1] at hdirect
      exact absurd hdirect.2 (by simp)

lemma recordSeen_appended (s : SessionState) (ev : LogEvent) (a : Answers) :
    (recordSeen s ev a).appended = s.appended := by
  unfold recordSeen
  have hmark : ∀ t : SessionState,
      (markEventPersisted t ev.id ev.createdAt).appended = t.appended := by
    intro t
    unfold markEventPersisted
    dsimp only
    split <;> rfl
  have hbroadcast : ∀ (t : SessionState) (hwm : Option BroadcastHwm),
      (markBroadcastPersisted t hwm).appended = t.appended := by
    intro t hwm
    cases hwm <;> rfl
  have hseen := (hbroadcast _ (broadcastHwmFromLogEvent ev)).trans (hmark (remember s ev.id))
  dsimp only
  split
  · exact hseen
  · split
    · exact hseen
    · exact hseen

/-- An entry in order is appended, unless a call fails. -/
lemma writeThenRecord_inOrder {s : SessionState} {ev : LogEvent} {a : Answers}
    (hpast : ¬ Passes s ev.point) (hanswered : ev.wake_nonce.isSome → a.pending = some true)
    (hunquoted : consultInboxFile s ev = true → ∀ line, ev.line a = some line →
      inboxRawHasEntry s.inbox ev.id line = false) :
    (writeThenRecord s ev a).appended = s.appended ++ [(ev.id, true)] ∨
    ((ev.line a = none ∨ a.reads = false ∨ a.appends = false) ∧
      (writeThenRecord s ev a).closed = true ∧ ¬ Passes (writeThenRecord s ev a) ev.point) := by
  have hcatchup : atOrBeforeResumeCursor s ev = false := by
    unfold atOrBeforeResumeCursor
    cases hhwm : s.lastPersistedHwm with
    | none => simp
    | some last =>
      have hlt : ¬ compareBroadcastHwm ev.point last ≤ 0 :=
        fun hle => hpast (Or.inl ⟨last, hhwm, hle⟩)
      simp [hlt]
  unfold writeThenRecord writeInboxLine
  cases hline : ev.line a with
  | none => exact Or.inr ⟨Or.inl rfl, rfl, hpast⟩
  | some line =>
    have hping : (ev.wake_nonce.isSome && a.pending != some true) = false := by
      cases hn : ev.wake_nonce.isSome with
      | false => rfl
      | true => simp [hanswered hn]
    simp only [hping, hcatchup, Bool.false_eq_true, if_false, Bool.not_false, Bool.true_and,
      Bool.false_or]
    by_cases hreads : (consultInboxFile s ev && !a.reads) = true
    · rw [if_pos hreads]
      simp only [Bool.and_eq_true, Bool.not_eq_true'] at hreads
      exact Or.inr ⟨Or.inr (Or.inl hreads.2), rfl, hpast⟩
    · have hfile : (consultInboxFile s ev && inboxRawHasEntry s.inbox ev.id line) = false := by
        cases hc : consultInboxFile s ev with
        | false => rfl
        | true => rw [hunquoted hc line hline]; rfl
      rw [if_neg hreads, hfile]
      simp only [Bool.false_eq_true, if_false]
      unfold appendInboxLine
      cases happends : a.appends with
      | false => exact Or.inr ⟨Or.inr (Or.inr rfl), rfl, hpast⟩
      | true =>
        left
        cases a.injects with
        | false => rfl
        | true => exact recordSeen_appended _ ev a

/-- In a session whose owed entries all come in order, every one of them is appended, before the
session's position or the stored cursor passes it. -/
theorem session_lossless {c : StreamSession} {inbox : List Char} {events : List SessionEvent}
    (h : ∀ before ev a after, events = before ++ .log ev a :: after →
      (session c inbox before).closed = false → Owed c inbox before ev a →
      InOrder c inbox before ev a) : Lossless c inbox events := by
  intro before ev a after hsplit hopen howed
  have horder := h before ev a after hsplit hopen howed
  have hpast : ∀ earlier, earlier <+: before → ¬ Passes (session c inbox earlier) ev.point := by
    rintro earlier ⟨rest, rfl⟩
    exact not_passes (told_session c inbox earlier) howed.later
      (fun p hp => horder.ahead p (hp.append rest))
  refine ⟨hpast, ?_⟩
  have hstep : session c inbox (before ++ [.log ev a]) =
      writeThenRecord (session c inbox before) ev a := by
    rw [session_append, run_cons, run_nil]
    unfold sessionStep
    rw [hopen]
    exact logEvent_owed howed
  rw [hstep]
  exact writeThenRecord_inOrder (hpast before (prefix_refl before)) horder.answered horder.unquoted

end Laws

section Sessions

/-- Positions compared as text, instant first. -/
@[reducible] def textOrder : StreamText where
  toISOString := some
  compareBroadcastHwm := fun a b =>
    if a.created_at < b.created_at then -1
    else if b.created_at < a.created_at then 1
    else if a.id < b.id then -1
    else if b.id < a.id then 1 else 0

attribute [local instance] textOrder

/-- A session that resumes from a stored cursor. -/
def resumed : StreamSession where
  droneId := "d1"
  cursor := some ⟨"e0", "2026-05-11T12:00:00.000Z"⟩
  lastEventId := none

def broadcastAt (id created_at : String) : LogEvent where
  id := id
  data := { id := some id, drone_id := some "d2", created_at := some created_at, message := some "m" }

/-- An entry replayed behind a live one is owed, and taken for one the inbox has. -/
theorem replay_behind_live_lost :
    ¬ Lossless resumed [] [.log (broadcastAt "e2" "2026-05-11T12:00:05.000Z") {},
        .log (broadcastAt "e1" "2026-05-11T12:00:01.000Z") {}, .bookmark] ∧
      (session resumed [] [.log (broadcastAt "e2" "2026-05-11T12:00:05.000Z") {},
        .log (broadcastAt "e1" "2026-05-11T12:00:01.000Z") {}, .bookmark]).appended =
          [("e2", true)] := by
  refine ⟨?_, by decide +kernel⟩
  intro h
  have howed : Owed resumed [] [.log (broadcastAt "e2" "2026-05-11T12:00:05.000Z") {}]
      (broadcastAt "e1" "2026-05-11T12:00:01.000Z") {} := by
    refine ⟨?_, ?_, ?_, ?_, ?_, ?_⟩
    · simp [Addressed, broadcastAt]
    · simp [broadcastAt, resumed]
    · rintro _ ⟨⟩
      decide +kernel
    · rintro ⟨ev, a, hmem, hid⟩
      obtain ⟨rfl, -⟩ := SessionEvent.log.inj (mem_singleton.mp hmem)
      simp [broadcastAt] at hid
    · rintro _ ⟨⟩
      unfold HoldsLine
      decide +kernel
    · simp [broadcastAt]
  have hkept := h [.log (broadcastAt "e2" "2026-05-11T12:00:05.000Z") {}] _ _ [.bookmark] rfl
    (by decide +kernel) howed
  have hmark : (session resumed [] [.log (broadcastAt "e2" "2026-05-11T12:00:05.000Z") {}]
      ).lastPersistedHwm = some ⟨"e2", "2026-05-11T12:00:05.000Z"⟩ := by
    decide +kernel
  exact hkept.ahead _ (prefix_refl _) (Or.inl ⟨_, hmark, by decide +kernel⟩)

/-- A replayed entry and a later live one are both appended. -/
theorem session_lossless_replay :
    Lossless resumed [] [.log (broadcastAt "e1" "2026-05-11T12:00:01.000Z") {}, .bookmark,
      .log (broadcastAt "e2" "2026-05-11T12:00:05.000Z") {}] := by
  apply session_lossless
  intro before ev a after hsplit _ _
  have hcomes : before = [] ∧ ev = broadcastAt "e1" "2026-05-11T12:00:01.000Z" ∨
      before = [.log (broadcastAt "e1" "2026-05-11T12:00:01.000Z") {}, .bookmark] ∧
        ev = broadcastAt "e2" "2026-05-11T12:00:05.000Z" := by
    rcases before with _ | ⟨x, _ | ⟨y, _ | ⟨z, rest⟩⟩⟩
    · simp_all
    · simp at hsplit
    · simp only [cons_append, nil_append, cons.injEq, SessionEvent.log.injEq] at hsplit
      obtain ⟨rfl, rfl, ⟨rfl, -⟩, -⟩ := hsplit
      exact Or.inr ⟨rfl, rfl⟩
    · simp at hsplit
  rcases hcomes with ⟨rfl, rfl⟩ | ⟨rfl, rfl⟩
  · refine ⟨?_, by simp [broadcastAt], fun hconsult => absurd hconsult (by decide +kernel)⟩
    rintro h (⟨ev', a', hmem, -⟩ | ⟨hc, -⟩)
    · simp at hmem
    · simp [resumed] at hc
  · refine ⟨?_, by simp [broadcastAt], fun hconsult => absurd hconsult (by decide +kernel)⟩
    rintro h (⟨ev', a', hmem, hpos⟩ | ⟨hc, -⟩)
    · obtain ⟨rfl, -⟩ : ev' = broadcastAt "e1" "2026-05-11T12:00:01.000Z" ∧ a' = {} := by
        simpa using hmem
      rcases hpos with rfl | hcur
      · decide +kernel
      · simp [broadcastAt] at hcur
    · simp [resumed] at hc

end Sessions

end BorgClient.Stream
