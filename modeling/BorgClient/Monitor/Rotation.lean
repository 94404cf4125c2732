import BorgClient.Monitor.ArmReplayRuns

/-!
# Rotations of the inbox

The stream's owner replaces the inbox by its last lines when it has grown long. A tail goes on with
the file it has opened until it finds the new one, and reads that from its start. What it then
delivers again has been handled, and the monitor remembers it: the lines of the new file before the
point the tail had reached are fewer than the lines the deduper keeps.
-/

namespace BorgClient.Monitor
open List Runs
open BorgClient.Stream (INBOX_TAIL_LINES_CAP)

/-! ### What is recent -/

/-- Of distinct lines kept in their order, none of the last `cap` is dropped to keep `cap`. -/
lemma mem_drop_of_recent {kept log : List Line} (hnodup : log.Nodup) (hkept : kept <+ log)
    {line : Line} (hmem : line ∈ kept) {index cap : ℕ} (hindex : log[index]? = some line)
    (hrecent : log.length ≤ index + cap) : line ∈ kept.drop (kept.length - cap) := by
  obtain ⟨before, after, rfl⟩ := append_of_mem hmem
  obtain ⟨head, tail, rfl, -, htail⟩ := append_sublist_iff.mp hkept
  obtain ⟨upTo, rest, rfl, hin, hrest⟩ := cons_sublist_iff.mp htail
  obtain ⟨place, hplace, hat⟩ := getElem_of_mem hin
  have hsame : head.length + place = index := by
    have hget : (head ++ (upTo ++ rest))[head.length + place]? = some line := by
      rw [getElem?_append_right (by omega), Nat.add_sub_cancel_left, getElem?_append_left hplace,
        getElem?_eq_getElem hplace, hat]
    have hlt : head.length + place < (head ++ (upTo ++ rest)).length := by
      simp only [length_append]
      omega
    exact (getElem?_inj hlt hnodup).mp (hget.trans hindex.symm)
  have hlength := hrest.length_le
  simp only [length_append] at hrecent
  have hcut : (before ++ line :: after).length - cap ≤ before.length := by
    simp only [length_append, length_cons]
    omega
  rw [drop_append_of_le_length hcut]
  exact mem_append_right _ mem_cons_self

lemma take_succ_eq {log : List Line} {index : ℕ} {line : Line} (h : log[index]? = some line) :
    log.take (index + 1) = log.take index ++ [line] := by
  rw [take_add_one, h]
  rfl

/-! ### The world -/

section Laws

variable [MonitorText]

/-- A monitor run. The lines its tail has not delivered are those of the file it has opened;
`replaced` says that the inbox is no longer that file, `delivered` are the lines handed over. -/
structure TailWorld where
  root : ReplayWorld
  replaced : Bool
  delivered : List Line := []

inductive TailStep
  | append (line : Line)
  | trim
  /-- The tail opens the file that replaced its own. -/
  | reread
  | deliver

namespace TailWorld

/-- An armed monitor whose tail has opened nothing yet. -/
def start (file : List Line) (cursor : Option ReplayCursor) (timeMs : ℤ) : TailWorld :=
  let root := ({ log := file, file := file, cursor := cursor } : ReplayWorld).arm timeMs
  { root := { root with monitor := root.monitor.map (fun m => { m with rest := [] }) }
    replaced := true }

/-- The tail sees the line unless its file has been replaced. -/
def append (w : TailWorld) (line : Line) : TailWorld :=
  { w with
    root := { w.root.append line with
      monitor := if w.replaced then w.root.monitor else (w.root.append line).monitor } }

/-- `trimInboxFileToRecentLines` behind an append: past twice the cap, the last lines are kept. -/
def trim (w : TailWorld) : TailWorld :=
  if w.root.file.length ≤ INBOX_TAIL_LINES_CAP * 2 then w
  else
    { w with
      root := { w.root.trim (w.root.file.length - INBOX_TAIL_LINES_CAP) with
        monitor := w.root.monitor }
      replaced := true }

def reread (w : TailWorld) : TailWorld :=
  if w.replaced then
    { w with
      root := { w.root with monitor := w.root.monitor.map (fun m => { m with rest := w.root.file }) }
      replaced := false }
  else w

/-- The line the tail delivers next. -/
def next (w : TailWorld) : Option Line := w.root.monitor.bind (·.rest.head?)

def deliver (w : TailWorld) : TailWorld :=
  { w with root := w.root.deliver, delivered := w.delivered ++ w.next.toList }

end TailWorld

def tailStep (w : TailWorld) : TailStep → TailWorld
  | .append line => w.append line
  | .trim => w.trim
  | .reread => w.reread
  | .deliver => w.deliver

/-! ### One line -/

/-- The line is no entry, or the monitor has it in its history or its memory. -/
def Known (m : Armed) (line : Line) : Prop :=
  isEntry line = true → line ∈ m.plan.history ∨ line ∈ m.seen

/-- What handling a line does: a known line changes nothing that is remembered or printed, a new one
is remembered, and printed at most once. -/
lemma handleStateRootLine_spec (w : ReplayWorld) (m : Armed) (line : Line)
    (hapart : ∀ line ∈ m.pending, line ∉ m.plan.history) :
    ∃ m', (w.handleStateRootLine m line).monitor = some m' ∧ m'.plan = m.plan ∧
      m'.rest = m.rest ∧ m'.pending ⊆ m.pending ∧
      (w.handleStateRootLine m line).log = w.log ∧
      (w.handleStateRootLine m line).file = w.file ∧
      ((Known m line ∧ m'.seen = m.seen ∧ (w.handleStateRootLine m line).emitted = w.emitted) ∨
        (¬ Known m line ∧ m'.seen = remember m.seen line ∧
          ((w.handleStateRootLine m line).emitted = w.emitted ∨
            (w.handleStateRootLine m line).emitted = w.emitted ++ [line]))) := by
  unfold ReplayWorld.handleStateRootLine
  by_cases hentry : isEntry line = false
  · rw [if_pos hentry]
    refine ⟨m, rfl, rfl, rfl, Subset.refl _, rfl, rfl, .inl ⟨fun h => ?_, rfl, rfl⟩⟩
    rw [hentry] at h
    cases h
  rw [if_neg hentry]
  rw [Bool.not_eq_false] at hentry
  by_cases hpending : line ∈ m.pending
  · rw [if_pos hpending]
    refine ⟨_, rfl, rfl, rfl, fun _ h => (mem_filter.mp h).1, rfl, rfl, ?_⟩
    by_cases hseen : line ∈ m.seen
    · refine .inl ⟨fun _ => .inr hseen, ?_, if_pos hseen⟩
      exact if_pos hseen
    · refine .inr ⟨fun h => ?_, rfl, .inr (if_neg hseen)⟩
      exact (h hentry).elim (hapart line hpending) hseen
  rw [if_neg hpending]
  by_cases hskip : line ∈ m.plan.history ∨ line ∈ m.seen
  · rw [if_pos hskip]
    exact ⟨m, rfl, rfl, rfl, Subset.refl _, rfl, rfl, .inl ⟨fun _ => hskip, rfl, rfl⟩⟩
  · rw [if_neg hskip]
    refine ⟨_, rfl, rfl, rfl, fun _ h => (mem_filter.mp h).1, rfl, rfl,
      .inr ⟨fun h => hskip (h hentry), rfl, ?_⟩⟩
    by_cases hfresh : (entryTimestampMs line).any (fun ts => m.armSinceMs ≤ ts) = true
    · exact .inr (if_pos hfresh)
    · exact .inl (if_neg hfresh)

/-! ### Runs -/

/-- Positions in the log: where the inbox starts, where the tail's file starts, the next line the
tail delivers, the end of its file, and the point up to which it has ever delivered. -/
structure Marks where
  kept : ℕ
  opened : ℕ
  next : ℕ
  stop : ℕ
  reached : ℕ

/-- The lines the tail delivers again are among the last the monitor has handled, and it knows
those. -/
structure TailOk (w : TailWorld) (m : Armed) (at_ : Marks) : Prop where
  monitor : w.root.monitor = some m
  file : w.root.file = w.root.log.drop at_.kept
  rest : m.rest = (w.root.log.take at_.stop).drop at_.next
  keptIn : at_.kept ≤ w.root.log.length
  openedKept : at_.opened ≤ at_.kept
  openedNext : at_.opened ≤ at_.next
  nextReached : at_.next ≤ at_.reached
  reachedNext : at_.reached ≤ at_.next + INBOX_TAIL_LINES_CAP
  reachedStop : at_.reached ≤ at_.stop
  stopIn : at_.stop ≤ w.root.log.length
  current : w.replaced = false → at_.stop = w.root.log.length
  replaced : w.replaced = true → at_.stop ≤ at_.kept + INBOX_TAIL_LINES_CAP
  apart : ∀ line ∈ m.pending, line ∉ m.plan.history
  seen : m.seen <+ w.root.log.take at_.reached
  emitted : w.root.emitted <+ w.root.log.take at_.reached
  known : ∀ index line, w.root.log[index]? = some line → at_.opened ≤ index →
    index < at_.reached → at_.reached ≤ index + INBOX_TAIL_LINES_CAP → Known m line
  delivered : ∀ line ∈ w.delivered, line ∈ w.root.log.take at_.reached

variable {w : TailWorld} {m : Armed} {at_ : Marks}

lemma plan_apart (file : List Line) (cursor : Option ReplayCursor) (sinceMs : ℤ) (cap : ℕ) :
    ∀ line ∈ (planArmReplay file cursor sinceMs cap).replay,
      line ∉ (planArmReplay file cursor sinceMs cap).history := by
  cases cursor with
  | none =>
    intro line h
    cases h
  | some cursor =>
    intro line h hin
    have hnot := (mem_filter.mp hin).2
    rw [Bool.not_eq_true', contains_eq_mem, decide_eq_false_iff_not] at hnot
    exact hnot h

lemma tail_start_ok (file : List Line) (cursor : Option ReplayCursor) (timeMs : ℤ) :
    ∃ m at_, TailOk (.start file cursor timeMs) m at_ := by
  refine ⟨_, ⟨0, 0, 0, 0, 0⟩, rfl, rfl, rfl, Nat.zero_le _, le_refl _, le_refl _, le_refl _,
    Nat.zero_le _, le_refl _, Nat.zero_le _, fun h => ?_, fun _ => Nat.zero_le _,
    plan_apart _ _ _ _, nil_sublist _, nil_sublist _, fun index line _ _ h => ?_, fun line h => by cases h⟩
  · cases h
  · exact absurd h (Nat.not_lt_zero index)

lemma tail_append_ok (h : TailOk w m at_) (line : Line) :
    ∃ m at_, TailOk (w.append line) m at_ := by
  have hlog : (w.append line).root.log = w.root.log ++ [line] := rfl
  have hfile : (w.append line).root.file = w.root.file ++ [line] := rfl
  have htake : ∀ n ≤ w.root.log.length, (w.append line).root.log.take n = w.root.log.take n :=
    fun n hn => take_append_of_le_length hn
  have hreached : at_.reached ≤ w.root.log.length := h.reachedStop.trans h.stopIn
  have hknown : ∀ index other, (w.append line).root.log[index]? = some other →
      at_.opened ≤ index → index < at_.reached →
      at_.reached ≤ index + INBOX_TAIL_LINES_CAP → Known m other := by
    intro index other hat hopened hlt hrecent
    rw [hlog, getElem?_append_left (by omega)] at hat
    exact h.known index other hat hopened hlt hrecent
  have hkept : (w.append line).root.file = (w.append line).root.log.drop at_.kept := by
    rw [hlog, hfile, h.file, drop_append_of_le_length h.keptIn]
  have hlength : (w.append line).root.log.length = w.root.log.length + 1 := length_append
  have hin := h.keptIn
  have hstop := h.stopIn
  by_cases hreplaced : w.replaced = true
  · refine ⟨m, at_, ?_, hkept, ?_, by omega, h.openedKept, h.openedNext, h.nextReached,
      h.reachedNext, h.reachedStop, by omega, fun hcurrent => ?_, h.replaced, h.apart, ?_, ?_,
      hknown, ?_⟩
    · exact (if_pos hreplaced).trans h.monitor
    · rw [htake _ h.stopIn]
      exact h.rest
    · exact absurd (hreplaced.symm.trans hcurrent) (by decide)
    · rw [htake _ hreached]
      exact h.seen
    · rw [htake _ hreached]
      exact h.emitted
    · rw [htake _ hreached]
      exact h.delivered
  · have hcurrent := h.current (by simpa using hreplaced)
    have hrest : m.rest ++ [line] =
        ((w.append line).root.log.take (at_.stop + 1)).drop at_.next := by
      have hnext := h.nextReached
      rw [hlog, hcurrent, take_of_length_le (by simp), drop_append_of_le_length (by omega), h.rest,
        hcurrent, take_length]
    refine ⟨{ m with rest := m.rest ++ [line] }, { at_ with stop := at_.stop + 1 }, ?_, hkept,
      hrest, ?_, h.openedKept, h.openedNext, h.nextReached, h.reachedNext, ?_, ?_, fun _ => ?_,
      fun hr => absurd hr hreplaced, h.apart, ?_, ?_, hknown, ?_⟩
    · refine (if_neg hreplaced).trans ?_
      simp only [ReplayWorld.append, h.monitor, Option.map_some]
    · change at_.kept ≤ _
      omega
    · exact h.reachedStop.trans (Nat.le_succ _)
    · change at_.stop + 1 ≤ _
      omega
    · change at_.stop + 1 = _
      omega
    · change m.seen <+ (w.append line).root.log.take at_.reached
      rw [htake _ hreached]
      exact h.seen
    · change w.root.emitted <+ (w.append line).root.log.take at_.reached
      rw [htake _ hreached]
      exact h.emitted
    · change ∀ other ∈ w.delivered, other ∈ (w.append line).root.log.take at_.reached
      rw [htake _ hreached]
      exact h.delivered

omit [MonitorText] in
lemma tail_trim_ok (h : TailOk w m at_) : ∃ m at_, TailOk w.trim m at_ := by
  unfold TailWorld.trim
  by_cases hshort : w.root.file.length ≤ INBOX_TAIL_LINES_CAP * 2
  · rw [if_pos hshort]
    exact ⟨m, at_, h⟩
  · rw [if_neg hshort]
    have hlength : w.root.file.length = w.root.log.length - at_.kept := by
      rw [h.file, length_drop]
    have hkept := h.keptIn
    have hopened := h.openedKept
    have hstop := h.stopIn
    generalize hdropped : w.root.file.length - INBOX_TAIL_LINES_CAP = dropped
    refine ⟨m, { at_ with kept := at_.kept + dropped }, ?_, ?_, ?_, ?_, ?_, h.openedNext,
      h.nextReached, h.reachedNext, h.reachedStop, ?_, ?_, fun _ => ?_, h.apart, ?_, ?_, ?_, ?_⟩
    · exact h.monitor
    · change w.root.file.drop dropped = w.root.log.drop _
      rw [h.file, drop_drop]
    · exact h.rest
    · change at_.kept + dropped ≤ w.root.log.length
      omega
    · exact hopened.trans (Nat.le_add_right _ _)
    · exact h.stopIn
    · intro hr
      cases hr
    · change at_.stop ≤ at_.kept + dropped + INBOX_TAIL_LINES_CAP
      omega
    · exact h.seen
    · exact h.emitted
    · exact h.known
    · exact h.delivered

omit [MonitorText] in
lemma tail_reread_ok (h : TailOk w m at_) : ∃ m at_, TailOk w.reread m at_ := by
  unfold TailWorld.reread
  by_cases hreplaced : w.replaced = true
  · rw [if_pos hreplaced]
    have hstop := h.replaced hreplaced
    have hreached := h.reachedStop
    have hle : w.root.log.take at_.reached <+ w.root.log.take (max at_.reached at_.kept) :=
      take_sublist_take_left (le_max_left _ _)
    refine ⟨{ m with rest := w.root.file },
      ⟨at_.kept, at_.kept, at_.kept, w.root.log.length, max at_.reached at_.kept⟩, ?_, h.file, ?_,
      h.keptIn, le_refl _, le_refl _, le_max_right _ _, ?_, ?_, le_refl _, fun _ => rfl,
      (fun hr => by cases hr), h.apart, h.seen.trans hle, h.emitted.trans hle, ?_,
      fun line hline => hle.subset (h.delivered line hline)⟩
    · change w.root.monitor.map _ = _
      rw [h.monitor]
      rfl
    · change w.root.file = _
      rw [take_length, h.file]
    · change max at_.reached at_.kept ≤ at_.kept + INBOX_TAIL_LINES_CAP
      omega
    · exact max_le (hreached.trans h.stopIn) h.keptIn
    · intro index line hat hopened hlt hrecent
      dsimp only at hopened hlt hrecent
      have hlt' : index < at_.reached := by omega
      exact h.known index line hat (h.openedKept.trans hopened) hlt' (by omega)
  · rw [if_neg hreplaced]
    exact ⟨m, at_, h⟩

omit [MonitorText] in
/-- What the deduper holds of the log up to a point, with the next line. -/
lemma remember_known {seen log : List Line} {line : Line} {index : ℕ} (hnodup : log.Nodup)
    (hseen : seen <+ log.take index) (hline : log[index]? = some line) (hnew : line ∉ seen) :
    remember seen line <+ log.take (index + 1) ∧
      ∀ place other, log[place]? = some other → other ∈ seen ∨ other = line → place ≤ index →
        index + 1 ≤ place + RECENT_EMITTED_LINE_CAP → other ∈ remember seen line := by
  have hsub : seen ++ [line] <+ log.take (index + 1) := by
    rw [take_succ_eq hline]
    exact hseen.append (Sublist.refl _)
  have hremember : remember seen line =
      (seen ++ [line]).drop ((seen ++ [line]).length - RECENT_EMITTED_LINE_CAP) := by
    rw [remember, if_neg hnew, length_append]
    rfl
  rw [hremember]
  refine ⟨(drop_sublist _ _).trans hsub, fun place other hplace hin hle hrecent => ?_⟩
  have hmem : other ∈ seen ++ [line] := by
    rw [mem_append, mem_singleton]
    exact hin
  have hat : (log.take (index + 1))[place]? = some other := by
    rw [getElem?_take_of_lt (by omega)]
    exact hplace
  exact mem_drop_of_recent (hnodup.sublist (take_sublist _ _)) hsub hmem hat
    ((length_take_le _ _).trans hrecent)

lemma tail_deliver_ok (h : TailOk w m at_) (hnodup : w.root.log.Nodup) :
    ∃ m at_, TailOk w.deliver m at_ := by
  have hnext : w.next = m.rest.head? := by
    rw [TailWorld.next, h.monitor]
    rfl
  rw [TailWorld.deliver, hnext]
  cases hrest : m.rest with
  | nil =>
    have hdeliver : w.root.deliver = w.root := by
      rw [ReplayWorld.deliver, h.monitor]
      dsimp only
      rw [hrest]
    rw [hdeliver]
    refine ⟨m, at_, { h with delivered := fun line hline => h.delivered line ?_ }⟩
    simpa using hline
  | cons line rest =>
    have hdeliver : w.root.deliver = w.root.handleStateRootLine { m with rest } line := by
      rw [ReplayWorld.deliver, h.monitor]
      dsimp only
      rw [hrest]
    rw [hdeliver]
    dsimp only [head?_cons, Option.toList_some]
    have hcons := hrest.symm.trans h.rest
    have hline : (w.root.log.take at_.stop)[at_.next]? = some line := by
      rw [← head?_drop, ← hcons]
      rfl
    obtain ⟨hlt, hget⟩ := List.getElem?_eq_some_iff.mp hline
    rw [length_take] at hlt
    have hat : w.root.log[at_.next]? = some line := by
      rwa [getElem?_take_of_lt (by omega)] at hline
    have hatTake : ∀ {n}, at_.next < n → (w.root.log.take n)[at_.next]? = some line := by
      intro n hn
      rw [getElem?_take_of_lt hn]
      exact hat
    have hrest' : rest = (w.root.log.take at_.stop).drop (at_.next + 1) := by
      rw [← tail_drop, ← hcons]
      rfl
    obtain ⟨m', hmonitor, hplan, hrestSame, hpending, hlog, hfile, hcase⟩ :=
      handleStateRootLine_spec w.root { m with rest } line h.apart
    generalize w.root.handleStateRootLine { m with rest } line = root at hmonitor hlog hfile hcase
    have hapart : ∀ line ∈ m'.pending, line ∉ m'.plan.history := by
      intro other hother
      rw [hplan]
      exact h.apart other (hpending hother)
    have hrestLog : m'.rest = (root.log.take at_.stop).drop (at_.next + 1) := by
      rw [hrestSame, hlog]
      exact hrest'
    have hknownSame : m'.seen = m.seen → ∀ other, Known m other → Known m' other := by
      intro hseen other hother hentry
      rw [hplan, hseen]
      exact hother hentry
    have hopened := h.openedNext
    have hreachedStop := h.reachedStop
    have hreachedNext := h.reachedNext
    rcases Nat.lt_or_ge at_.next at_.reached with hbehind | hahead
    · -- the line is delivered again
      have hknown : Known m line := h.known _ _ hat hopened hbehind hreachedNext
      rcases hcase with ⟨-, hseen, hemitted⟩ | ⟨hnew, -⟩
      · refine ⟨m', { at_ with next := at_.next + 1 }, hmonitor, ?_, hrestLog, ?_, h.openedKept,
          hopened.trans (Nat.le_succ _), hbehind, ?_, hreachedStop, ?_, ?_, h.replaced, hapart, ?_,
          ?_, ?_, ?_⟩
        · rw [hfile, hlog]
          exact h.file
        · rw [hlog]
          exact h.keptIn
        · change at_.reached ≤ at_.next + 1 + INBOX_TAIL_LINES_CAP
          omega
        · rw [hlog]
          exact h.stopIn
        · rw [hlog]
          exact h.current
        · rw [hseen, hlog]
          exact h.seen
        · rw [hemitted, hlog]
          exact h.emitted
        · intro index other hother hin hlt hrecent
          rw [hlog] at hother
          exact hknownSame hseen other (h.known index other hother hin hlt hrecent)
        · intro other hother
          rw [hlog]
          rcases mem_append.mp hother with hother | hother
          · exact h.delivered other hother
          · rw [mem_singleton.mp hother]
            exact mem_of_getElem? (hatTake hbehind)
      · exact absurd hknown hnew
    · -- the tail has never delivered so far
      have heq : at_.next = at_.reached := le_antisymm h.nextReached hahead
      have hseenBefore : m.seen <+ w.root.log.take at_.next := heq ▸ h.seen
      have hemittedBefore : w.root.emitted <+ w.root.log.take at_.next := heq ▸ h.emitted
      have hgrow : w.root.log.take at_.next <+ w.root.log.take (at_.next + 1) :=
        take_sublist_take_left (Nat.le_succ _)
      have hprinted : root.emitted <+ w.root.log.take (at_.next + 1) := by
        rcases hcase with ⟨-, -, hemitted⟩ | ⟨-, -, hemitted | hemitted⟩
        · exact hemitted ▸ hemittedBefore.trans hgrow
        · exact hemitted ▸ hemittedBefore.trans hgrow
        · rw [hemitted, take_succ_eq hat]
          exact hemittedBefore.append (Sublist.refl _)
      have hmemory : m'.seen <+ w.root.log.take (at_.next + 1) ∧ ∀ index other,
          w.root.log[index]? = some other → at_.opened ≤ index → index < at_.next + 1 →
          at_.next + 1 ≤ index + INBOX_TAIL_LINES_CAP → Known m' other := by
        have hearlier : ∀ index other, w.root.log[index]? = some other → at_.opened ≤ index →
            index < at_.next → at_.next + 1 ≤ index + INBOX_TAIL_LINES_CAP → Known m other :=
          fun index other hother hin hlt hrecent =>
            h.known index other hother hin (by omega) (by omega)
        rcases hcase with ⟨hline, hseen, -⟩ | ⟨hnew, hseen, -⟩
        · refine ⟨hseen ▸ hseenBefore.trans hgrow, fun index other hother hin hlt hrecent => ?_⟩
          refine hknownSame hseen other ?_
          rcases Nat.lt_succ_iff_lt_or_eq.mp hlt with hlt | rfl
          · exact hearlier index other hother hin hlt hrecent
          · rw [hat] at hother
            cases hother
            exact hline
        · have hnotSeen : line ∉ m.seen := fun hin => hnew (fun _ => .inr hin)
          obtain ⟨hsub, hkeep⟩ := remember_known hnodup hseenBefore hat hnotSeen
          refine ⟨hseen ▸ hsub, fun index other hother hin hlt hrecent hentry => ?_⟩
          rw [hplan, hseen]
          have hcap : at_.next + 1 ≤ index + RECENT_EMITTED_LINE_CAP :=
            hrecent.trans (Nat.add_le_add_left (by decide) index)
          rcases Nat.lt_succ_iff_lt_or_eq.mp hlt with hlt | rfl
          · exact (hearlier index other hother hin hlt hrecent hentry).imp_right
              (fun hmem => hkeep index other hother (.inl hmem) hlt.le hcap)
          · rw [hat] at hother
            cases hother
            exact .inr (hkeep _ _ hat (.inr rfl) (le_refl _) hcap)
      refine ⟨m', { at_ with next := at_.next + 1, reached := at_.next + 1 }, hmonitor, ?_,
        hrestLog, ?_, h.openedKept, hopened.trans (Nat.le_succ _), le_refl _, Nat.le_add_right _ _,
        ?_, ?_, ?_, h.replaced, hapart, ?_, ?_, ?_, ?_⟩
      · rw [hfile, hlog]
        exact h.file
      · rw [hlog]
        exact h.keptIn
      · change at_.next + 1 ≤ at_.stop
        omega
      · rw [hlog]
        exact h.stopIn
      · rw [hlog]
        exact h.current
      · rw [hlog]
        exact hmemory.1
      · rw [hlog]
        exact hprinted
      · rw [hlog]
        exact hmemory.2
      · intro other hother
        rw [hlog]
        rcases mem_append.mp hother with hother | hother
        · exact hgrow.subset (heq ▸ h.delivered other hother)
        · rw [mem_singleton.mp hother]
          exact mem_of_getElem? (hatTake (Nat.lt_succ_self _))

omit [MonitorText] in
/-- A line delivered before is known when it comes again. -/
lemma next_known (h : TailOk w m at_) (hnodup : w.root.log.Nodup) {line : Line}
    (hnext : m.rest.head? = some line) (hdelivered : line ∈ w.delivered) : Known m line := by
  rw [h.rest, head?_drop] at hnext
  have hat : w.root.log[at_.next]? = some line := by
    rw [getElem?_take] at hnext
    split at hnext
    · exact hnext
    · cases hnext
  obtain ⟨index, hlt, hget⟩ := getElem_of_mem (h.delivered line hdelivered)
  rw [length_take] at hlt
  rw [getElem_take] at hget
  have hsame : w.root.log[at_.next]? = w.root.log[index]? := by
    rw [hat, getElem?_eq_getElem (by omega), hget]
  have hin : at_.next < w.root.log.length := (List.getElem?_eq_some_iff.mp hat).1
  have heq : at_.next = index := (getElem?_inj hin hnodup).mp hsame
  exact h.known _ _ hat h.openedNext (by omega) h.reachedNext

/-! ### One run -/

lemma handleStateRootLine_log (w : ReplayWorld) (m : Armed) (line : Line) :
    (w.handleStateRootLine m line).log = w.log := by
  unfold ReplayWorld.handleStateRootLine
  split_ifs <;> rfl

lemma deliver_log (w : ReplayWorld) : w.deliver.log = w.log := by
  unfold ReplayWorld.deliver
  split
  · rfl
  · split
    · rfl
    · exact handleStateRootLine_log _ _ _

lemma log_grows (w : TailWorld) (step : TailStep) :
    w.root.log <+: (tailStep w step).root.log := by
  cases step with
  | append line => exact prefix_append _ _
  | trim =>
    rw [tailStep, TailWorld.trim]
    split
    · exact prefix_refl _
    · dsimp only [ReplayWorld.trim]
      exact prefix_refl _
  | reread =>
    rw [tailStep, TailWorld.reread]
    split
    · exact prefix_refl _
    · exact prefix_refl _
  | deliver =>
    change w.root.log <+: w.root.deliver.log
    rw [deliver_log]

lemma run_log_grows (w : TailWorld) (steps : List TailStep) :
    w.root.log <+: (run tailStep w steps).root.log := by
  induction steps generalizing w with
  | nil => exact prefix_refl _
  | cons step steps ih => exact (log_grows w step).trans (ih (tailStep w step))

lemma tailStep_ok (h : TailOk w m at_) (hnodup : w.root.log.Nodup) (step : TailStep) :
    ∃ m at_, TailOk (tailStep w step) m at_ := by
  cases step with
  | append line => exact tail_append_ok h line
  | trim => exact tail_trim_ok h
  | reread => exact tail_reread_ok h
  | deliver => exact tail_deliver_ok h hnodup

lemma run_ok {steps : List TailStep} (h : ∃ m at_, TailOk w m at_)
    (hnodup : (run tailStep w steps).root.log.Nodup) :
    ∃ m at_, TailOk (run tailStep w steps) m at_ := by
  induction steps generalizing w with
  | nil => exact h
  | cons step steps ih =>
    obtain ⟨m, at_, h⟩ := h
    have hlog := hnodup.sublist (run_log_grows w (step :: steps)).sublist
    exact ih (tailStep_ok h hlog step) hnodup

end Laws

section
attribute [local instance] plainMonitorText

end

end BorgClient.Monitor
