import BorgClient.Monitor.ArmReplay

/-!
# Replay is at least once

What a line behind the stored cursor keeps over appends, trims, arms, deliveries and crashes, and
with it that the next arm replays or counts what has not been emitted.
-/

namespace BorgClient.Monitor
open List Runs

variable {file : List Line} {line anchor : Line}

/-! ### After the anchor -/

/-- The line stands after the first copy of the anchor, and nowhere before it. -/
structure After (anchor : Line) (file : List Line) (line : Line) : Prop where
  anchor_mem : anchor ∈ file
  line_mem : line ∈ file
  ne : line ≠ anchor
  later : line ∉ file.takeWhile (fun other => other ≠ anchor)

lemma takeWhile_anchor {before after : List Line} (h : anchor ∉ before) :
    (before ++ anchor :: after).takeWhile (fun other => other ≠ anchor) = before := by
  have hbefore : ∀ other ∈ before, decide (other ≠ anchor) = true := by
    intro other hother
    rw [decide_eq_true_eq]
    rintro rfl
    exact h hother
  rw [takeWhile_append_of_pos hbefore]
  simp

lemma After.append (h : After anchor file line) (other : Line) :
    After anchor (file ++ [other]) line := by
  obtain ⟨before, after, rfl, hnot⟩ := eq_append_cons_of_mem h.anchor_mem
  have hlater := h.later
  rw [takeWhile_anchor hnot] at hlater
  refine ⟨mem_append_left _ h.anchor_mem, mem_append_left _ h.line_mem, h.ne, ?_⟩
  rw [append_assoc, cons_append, takeWhile_anchor hnot]
  exact hlater

lemma after_new (hanchor : anchor ∈ file) (hline : line ∉ file) :
    After anchor (file ++ [line]) line := by
  obtain ⟨before, after, rfl, hnot⟩ := eq_append_cons_of_mem hanchor
  refine ⟨mem_append_left _ hanchor, by simp, ?_, ?_⟩
  · rintro rfl
    exact hline hanchor
  · rw [append_assoc, cons_append, takeWhile_anchor hnot]
    exact fun hmem => hline (mem_append_left _ hmem)

/-- A trim that keeps the first copy of the anchor. -/
lemma After.drop {n : ℕ} (h : After anchor file line) (hkept : anchor ∈ file.drop n)
    (hfirst : anchor ∉ file.take n) (hline : line ∈ file.drop n) :
    After anchor (file.drop n) line := by
  refine ⟨hkept, hline, h.ne, ?_⟩
  have hlater := h.later
  have htake : ∀ other ∈ file.take n, decide (other ≠ anchor) = true := by
    intro other hother
    rw [decide_eq_true_eq]
    rintro rfl
    exact hfirst hother
  rw [← take_append_drop n file, takeWhile_append_of_pos htake, mem_append, not_or] at hlater
  exact hlater.2

/-- The anchor of a line just taken from the file. -/
lemma after_passed {passed rest : List Line} (hfile : file = passed ++ anchor :: rest)
    (hline : line ∈ file) (hne : line ≠ anchor) (hpassed : line ∉ passed) :
    After anchor file line := by
  subst hfile
  refine ⟨by simp, hline, hne, ?_⟩
  by_cases hin : anchor ∈ passed
  · obtain ⟨before, after, rfl, hnot⟩ := eq_append_cons_of_mem hin
    rw [append_assoc, cons_append, takeWhile_anchor hnot]
    exact fun hmem => hpassed (mem_append_left _ hmem)
  · rw [takeWhile_anchor hin]
    exact hpassed

lemma mem_foldl_candidates {p : Line → Bool} {after acc : List Line} :
    line ∈ after.foldl (fun candidates line =>
        if p line && !candidates.contains line then candidates ++ [line] else candidates) acc ↔
      line ∈ acc ∨ (line ∈ after ∧ p line = true) := by
  induction after generalizing acc with
  | nil => simp
  | cons first after ih =>
    rw [foldl_cons, ih, mem_cons]
    by_cases hp : p first = true
    · by_cases hin : first ∈ acc
      · have hold : (p first && !acc.contains first) = false := by simp [hin]
        rw [hold, if_neg (by decide)]
        constructor
        · rintro (h | ⟨h, h'⟩)
          · exact .inl h
          · exact .inr ⟨.inr h, h'⟩
        · rintro (h | ⟨rfl | h, h'⟩)
          · exact .inl h
          · exact .inl hin
          · exact .inr ⟨h, h'⟩
      · have hnew : (p first && !acc.contains first) = true := by simp [hp, hin]
        rw [if_pos hnew, mem_append, mem_singleton]
        constructor
        · rintro ((h | rfl) | ⟨h, h'⟩)
          · exact .inl h
          · exact .inr ⟨.inl rfl, hp⟩
          · exact .inr ⟨.inr h, h'⟩
        · rintro (h | ⟨rfl | h, h'⟩)
          · exact .inl (.inl h)
          · exact .inl (.inr rfl)
          · exact .inr ⟨h, h'⟩
    · have hold : (p first && !acc.contains first) = false := by simp [hp]
      rw [hold, if_neg (by decide)]
      constructor
      · rintro (h | ⟨h, h'⟩)
        · exact .inl h
        · exact .inr ⟨.inr h, h'⟩
      · rintro (h | ⟨rfl | h, h'⟩)
        · exact .inl h
        · exact absurd h' hp
        · exact .inr ⟨h, h'⟩

lemma findIdx_anchor {p : Line → Bool} {before after : List Line}
    (hbefore : ∀ other ∈ before, p other = false) (hp : p anchor = true) :
    (before ++ anchor :: after).findIdx p = before.length := by
  induction before with
  | nil => simp [findIdx_cons, hp]
  | cons first before ih =>
    rw [cons_append, findIdx_cons, hbefore first mem_cons_self, length_cons]
    simpa using ih (fun other hother => hbefore other (mem_cons_of_mem first hother))

section
variable [MonitorText] {w : ReplayWorld} {m : Armed} {cursor : ReplayCursor}

lemma isEntry_of_timestamp {ts : ℤ} (h : entryTimestampMs line = some ts) :
    isEntry line = true := by
  unfold entryTimestampMs at h
  obtain ⟨entry, hentry, -⟩ := Option.bind_eq_some_iff.mp h
  simp [isEntry, hentry]

/-! ### Where the cursor stands -/

/-- Cursors as the monitor writes them. -/
inductive CursorOk : ReplayCursor → Prop
  | start {sinceMs : ℤ} (hlow : 0 ≤ sinceMs) (hhigh : sinceMs ≤ MAX_SAFE_INTEGER) :
      CursorOk ⟨none, none, sinceMs⟩
  | line {anchor : Line} {entry : EntryLine} {floor sinceMs : ℤ}
      (hentry : ENTRY_LINE_RE anchor = some entry) (hdate : dateParse entry.ts = some floor)
      (hlow : 0 ≤ sinceMs) (hhigh : sinceMs ≤ MAX_SAFE_INTEGER) :
      CursorOk ⟨some (sha256 anchor), some entry.ts, sinceMs⟩

lemma CursorOk.read (h : CursorOk cursor) : readReplayCursor (some cursor) = some cursor := by
  cases h with
  | start hlow hhigh => simp [readReplayCursor, Option.filter, hlow, hhigh]
  | line hentry hdate hlow hhigh => simp [readReplayCursor, Option.filter, hlow, hhigh, hdate]

lemma cursorOk_cursorForLine {sinceMs : ℤ} (hdate : (entryTimestampMs line).isSome = true)
    (hlow : 0 ≤ sinceMs) (hhigh : sinceMs ≤ MAX_SAFE_INTEGER) :
    ∃ cursor, cursorForLine line sinceMs = some cursor ∧ CursorOk cursor ∧
      cursor.lineSha256 = some (sha256 line) ∧ cursor.sinceMs = sinceMs := by
  obtain ⟨floor, hfloor⟩ := Option.isSome_iff_exists.mp hdate
  obtain ⟨entry, hentry, hparse⟩ := Option.bind_eq_some_iff.mp hfloor
  refine ⟨⟨some (sha256 line), some entry.ts, sinceMs⟩, ?_, .line hentry hparse hlow hhigh, rfl, rfl⟩
  rw [cursorForLine, hentry]
  rfl

def NotOlder (anchor line : Line) : Prop :=
  ∃ floor ts, entryTimestampMs anchor = some floor ∧ entryTimestampMs line = some ts ∧ floor ≤ ts

/-- The cursor's line is before the line, or gone and not newer. -/
def Behind (file : List Line) (cursor : ReplayCursor) (line : Line) : Prop :=
  ∀ anchor, cursor.lineSha256 = some (sha256 anchor) →
    After anchor file line ∨ (anchor ∉ file ∧ NotOlder anchor line)

/-! ### The plan -/

lemma mem_replayCandidates :
    line ∈ replayCandidates file cursor ↔
      (line ∈ (splitAtCursor (file.filter isEntry) cursor).2 ∧
        line ∉ (splitAtCursor (file.filter isEntry) cursor).1) ∧
      ∃ ts, entryTimestampMs line = some ts ∧ cursor.sinceMs ≤ ts := by
  unfold replayCandidates
  dsimp only
  rw [mem_foldl_candidates]
  simp only [not_mem_nil, false_or, Bool.and_eq_true, Option.any_eq_true, decide_eq_true_eq,
    Bool.not_eq_true', contains_eq_mem, decide_eq_false_iff_not]
  tauto

/-- The plan takes as after the cursor what stands behind it. -/
lemma splitAtCursor_behind (hcursor : CursorOk cursor) (hentry : isEntry line = true)
    (hfile : line ∈ file) :
    (line ∈ (splitAtCursor (file.filter isEntry) cursor).2 ∧
      line ∉ (splitAtCursor (file.filter isEntry) cursor).1) ↔ Behind file cursor line := by
  cases hcursor with
  | start => simp [splitAtCursor, Behind, hfile, hentry]
  | @line anchor entry floor sinceMs hanchor hdate hlow hhigh =>
    have hanchorEntry : isEntry anchor = true := by simp [isEntry, hanchor]
    have hfloor : entryTimestampMs anchor = some floor := by
      simp [entryTimestampMs, hanchor, hdate]
    have hbehind : Behind file ⟨some (sha256 anchor), some entry.ts, sinceMs⟩ line ↔
        After anchor file line ∨ (anchor ∉ file ∧ NotOlder anchor line) := by
      constructor
      · exact fun h => h anchor rfl
      · intro h other hother
        obtain rfl := MonitorText.sha256_injective (Option.some.inj hother)
        exact h
    rw [hbehind]
    unfold splitAtCursor
    dsimp only
    by_cases hin : anchor ∈ file
    · obtain ⟨before, after, rfl, hnot⟩ := eq_append_cons_of_mem hin
      have hindex : (before.filter isEntry ++ anchor :: after.filter isEntry).findIdx
          (fun other => sha256 other = sha256 anchor) = (before.filter isEntry).length := by
        refine findIdx_anchor ?_ (by simp)
        intro other hother
        rw [decide_eq_false_iff_not]
        intro hsame
        obtain rfl := MonitorText.sha256_injective hsame
        exact hnot (mem_of_mem_filter hother)
      have hentries : (before ++ anchor :: after).filter isEntry =
          before.filter isEntry ++ anchor :: after.filter isEntry := by
        rw [filter_append, filter_cons, if_pos hanchorEntry]
      have hsplit : before.filter isEntry ++ anchor :: after.filter isEntry =
          (before.filter isEntry ++ [anchor]) ++ after.filter isEntry := by simp
      have hlength : (before.filter isEntry ++ [anchor]).length =
          (before.filter isEntry).length + 1 := by simp
      rw [hentries, hindex, if_pos (by simp), hsplit, ← hlength, take_left, drop_left]
      dsimp only
      constructor
      · rintro ⟨hafter, hbefore⟩
        rw [mem_append, mem_singleton, not_or] at hbefore
        refine .inl ⟨hin, hfile, hbefore.2, ?_⟩
        rw [takeWhile_anchor hnot]
        exact fun hmem => hbefore.1 (mem_filter.mpr ⟨hmem, hentry⟩)
      · rintro (h | ⟨h, -⟩)
        · have hlater := h.later
          rw [takeWhile_anchor hnot] at hlater
          have hmem := h.line_mem
          rw [mem_append, mem_cons] at hmem
          refine ⟨mem_filter.mpr ⟨?_, hentry⟩, ?_⟩
          · rcases hmem with hmem | hmem | hmem
            · exact absurd hmem hlater
            · exact absurd hmem h.ne
            · exact hmem
          · rw [mem_append, mem_singleton, not_or]
            exact ⟨fun hmem => hlater (mem_of_mem_filter hmem), h.ne⟩
        · exact absurd hin h
    · have hindex : (file.filter isEntry).findIdx
          (fun other => sha256 other = sha256 anchor) = (file.filter isEntry).length := by
        refine findIdx_eq_length.mpr ?_
        intro other hother
        rw [decide_eq_false_iff_not]
        intro hsame
        obtain rfl := MonitorText.sha256_injective hsame
        exact hin (mem_of_mem_filter hother)
      rw [hindex, if_neg (by simp)]
      simp only [mem_filter, hfile, hentry, true_and, Option.bind_some, hdate]
      constructor
      · rintro ⟨hafter, -⟩
        refine .inr ⟨hin, floor, ?_⟩
        unfold atOrAfter at hafter
        cases hts : entryTimestampMs line with
        | none =>
          rw [hts] at hafter
          cases hafter
        | some ts =>
          rw [hts] at hafter
          exact ⟨ts, hfloor, rfl, of_decide_eq_true hafter⟩
      · rintro (h | ⟨-, floor', ts, hfloor', hts, hle⟩)
        · exact absurd h.anchor_mem hin
        · rw [hfloor, Option.some.injEq] at hfloor'
          subst hfloor'
          refine ⟨?_, ?_⟩
          · unfold atOrAfter
            rw [hts]
            exact decide_eq_true hle
          · unfold olderThan
            rw [hts]
            simpa using hle

/-- The candidates of an arm are the entries of the file behind the cursor. -/
theorem mem_replayCandidates_iff (hcursor : CursorOk cursor) (hfile : line ∈ file) :
    line ∈ replayCandidates file cursor ↔ Behind file cursor line ∧
      ∃ ts, entryTimestampMs line = some ts ∧ cursor.sinceMs ≤ ts := by
  rw [mem_replayCandidates]
  constructor
  · rintro ⟨hsplit, ts, hts, hle⟩
    exact ⟨(splitAtCursor_behind hcursor (isEntry_of_timestamp hts) hfile).mp hsplit, ts, hts, hle⟩
  · rintro ⟨hbehind, ts, hts, hle⟩
    exact ⟨(splitAtCursor_behind hcursor (isEntry_of_timestamp hts) hfile).mpr hbehind, ts, hts, hle⟩

lemma splitAtCursor_subset (entries : List Line) (cursor : ReplayCursor) :
    (splitAtCursor entries cursor).2 ⊆ entries := by
  unfold splitAtCursor
  split
  · exact Subset.refl _
  · dsimp only
    split_ifs
    · exact drop_subset _ _
    · exact filter_sublist.subset

lemma mem_file_of_candidate (h : line ∈ replayCandidates file cursor) : line ∈ file :=
  mem_of_mem_filter (splitAtCursor_subset _ _ (mem_replayCandidates.mp h).1.1)

lemma plan_some (file : List Line) (cursor : ReplayCursor) (sinceMs : ℤ) (cap : ℕ)
    (h : line ∈ replayCandidates file cursor) :
    line ∈ (planArmReplay file (some cursor) sinceMs cap).replay ∨
      line ∈ (replayCandidates file cursor).take
        (planArmReplay file (some cursor) sinceMs cap).omitted := by
  rw [← take_append_drop (planArmReplay file (some cursor) sinceMs cap).omitted
    (replayCandidates file cursor), mem_append] at h
  exact h.symm

/-! ### Runs -/

namespace ReplayWorld

/-- The replay lines the armed monitor has not handled. -/
def replaying (w : ReplayWorld) : List Line := (w.monitor.map (·.pending)).getD []

/-- A line nothing has been said about: due and neither emitted nor counted, or replaying. -/
def Owed (w : ReplayWorld) (line : Line) : Prop :=
  (line ∈ w.due ∧ line ∉ w.emitted ∧ line ∉ w.counted) ∨ line ∈ w.replaying

/-- The stored cursor names the line. -/
def Names (w : ReplayWorld) (anchor : Line) : Prop :=
  ∃ cursor, w.cursor = some cursor ∧ cursor.lineSha256 = some (sha256 anchor)

/-- The world after a crash and the next arm. -/
def nextArm (w : ReplayWorld) (timeMs : ℤ) : ReplayWorld :=
  replayStep (replayStep w .crash) (.arm timeMs)

end ReplayWorld

open ReplayWorld

/-- An entry line has a date. While the cursor's line is not in the file, nothing older and no copy
of it is appended; a trim keeps its first copy, or drops every copy of it from a file whose dates
do not decrease. -/
def ReplayStepOk (w : ReplayWorld) : ReplayStep → Prop
  | .append line => (isEntry line = true → (entryTimestampMs line).isSome = true) ∧
    ∀ anchor, w.Names anchor → anchor ∉ w.file → line ≠ anchor ∧
      ∀ floor ts, entryTimestampMs anchor = some floor → entryTimestampMs line = some ts → floor ≤ ts
  | .trim dropped => ∀ anchor, w.Names anchor → anchor ∈ w.file →
    (anchor ∈ w.file.drop dropped → anchor ∉ w.file.take dropped) ∧
      (anchor ∉ w.file.drop dropped → (w.file.filterMap entryTimestampMs).Pairwise (· ≤ ·))
  | .arm timeMs => INBOX_ARM_TIMESTAMP_SKEW_MS ≤ timeMs ∧ timeMs ≤ MAX_SAFE_INTEGER
  | _ => True

/-- An armed monitor has passed no owed line. -/
structure ArmedOk (w : ReplayWorld) (m : Armed) : Prop where
  passed : ∃ passed, w.file = passed ++ m.rest ∧ ∀ line, w.Owed line → line ∉ passed
  history : m.plan.history ⊆ w.log
  seen : m.seen ⊆ w.log
  apart : ∀ line ∈ m.pending, line ∉ m.seen
  told : ∀ line ∈ m.seen, ∀ ts, entryTimestampMs line = some ts → m.armSinceMs ≤ ts →
    line ∈ w.emitted
  owed : ∀ line, w.Owed line → line ∉ m.plan.history ∧ ∃ ts, entryTimestampMs line = some ts ∧
    m.plan.replaySinceMs ≤ ts ∧ (line ∈ m.pending ∨ m.armSinceMs ≤ ts)
  replayBounds : 0 ≤ m.plan.replaySinceMs ∧ m.plan.replaySinceMs ≤ MAX_SAFE_INTEGER
  armBounds : 0 ≤ m.armSinceMs ∧ m.armSinceMs ≤ MAX_SAFE_INTEGER

/-- Owed lines of the file stand behind the stored cursor. -/
structure ReplayOk (w : ReplayWorld) : Prop where
  log : w.file ⊆ w.log
  dates : ∀ line ∈ w.log, isEntry line = true → (entryTimestampMs line).isSome = true
  cursor : ∀ cursor, w.cursor = some cursor → CursorOk cursor
  due : w.due ⊆ w.file
  ahead : ∀ line, w.Owed line → ∃ cursor, w.cursor = some cursor ∧
    (line ∈ w.file → Behind w.file cursor line) ∧
      ∃ ts, entryTimestampMs line = some ts ∧ cursor.sinceMs ≤ ts
  armed : ∀ m, w.monitor = some m → ArmedOk w m

lemma CursorOk.bounds (h : CursorOk cursor) :
    0 ≤ cursor.sinceMs ∧ cursor.sinceMs ≤ MAX_SAFE_INTEGER := by
  cases h with
  | start hlow hhigh => exact ⟨hlow, hhigh⟩
  | line _ _ hlow hhigh => exact ⟨hlow, hhigh⟩

lemma CursorOk.dated (h : CursorOk cursor) (hanchor : cursor.lineSha256 = some (sha256 anchor)) :
    ∃ floor, entryTimestampMs anchor = some floor := by
  cases h with
  | start => cases hanchor
  | @line other entry floor _ hentry hdate =>
    obtain rfl := MonitorText.sha256_injective (Option.some.inj hanchor)
    exact ⟨floor, by simp [entryTimestampMs, hentry, hdate]⟩

/-! ### Crashes and restarts of the tail -/

lemma crash_ok (h : ReplayOk w) : ReplayOk { w with monitor := none } := by
  have howed : ∀ line, Owed { w with monitor := none } line → w.Owed line := by
    rintro line (hdue | hreplaying)
    · exact .inl hdue
    · cases hreplaying
  refine ⟨h.log, h.dates, h.cursor, h.due, fun line hl => h.ahead line (howed line hl), ?_⟩
  intro m hm
  cases hm

omit [MonitorText] in
lemma owed_of_monitor {m' : Armed} (hm : w.monitor = some m) (hpending : m'.pending = m.pending)
    (line : Line) : Owed { w with monitor := some m' } line ↔ w.Owed line := by
  unfold Owed replaying
  rw [hm]
  simp [hpending]

lemma reread_ok (h : ReplayOk w) :
    ReplayOk { w with monitor := w.monitor.map (fun m => { m with rest := w.file }) } := by
  cases hm : w.monitor with
  | none =>
    have hsame : w = { w with monitor := none } := by rw [← hm]
    rw [Option.map_none, ← hsame]
    exact h
  | some m =>
    have ha := h.armed m hm
    have howed : ∀ line, Owed { w with monitor := some { m with rest := w.file } } line ↔
        w.Owed line := owed_of_monitor hm rfl
    refine ⟨h.log, h.dates, h.cursor, h.due, fun line hl => h.ahead line ((howed line).mp hl), ?_⟩
    rintro _ ⟨rfl⟩
    exact ⟨⟨[], rfl, fun _ _ => not_mem_nil⟩, ha.history, ha.seen, ha.apart, ha.told,
      fun line hl => ha.owed line ((howed line).mp hl), ha.replayBounds, ha.armBounds⟩

/-! ### Deliveries -/

/-- A line nobody waits for leaves the tail. -/
lemma skip_ok (h : ReplayOk w) (hm : w.monitor = some m) {rest : List Line}
    (hrest : m.rest = line :: rest) (hnot : ¬w.Owed line) :
    ReplayOk { w with monitor := some { m with rest } } := by
  have ha := h.armed m hm
  have howed : ∀ other, Owed { w with monitor := some { m with rest } } other ↔ w.Owed other :=
    owed_of_monitor hm rfl
  refine ⟨h.log, h.dates, h.cursor, h.due, fun other hl => h.ahead other ((howed other).mp hl), ?_⟩
  rintro _ ⟨rfl⟩
  obtain ⟨passed, hfile, hpassed⟩ := ha.passed
  refine ⟨⟨passed ++ [line], by simp [hfile, hrest], ?_⟩, ha.history, ha.seen, ha.apart, ha.told,
    fun other hl => ha.owed other ((howed other).mp hl), ha.replayBounds, ha.armBounds⟩
  intro other hl hmem
  rcases mem_append.mp hmem with hmem | hmem
  · exact hpassed other ((howed other).mp hl) hmem
  · rw [mem_singleton] at hmem
    exact hnot (hmem ▸ (howed other).mp hl)

omit [MonitorText] in
lemma remember_subset (seen : List Line) (line : Line) : remember seen line ⊆ line :: seen := by
  unfold remember
  split_ifs
  · exact subset_cons_self _ _
  · intro other hother
    have hmem := mem_of_mem_drop hother
    rw [mem_append, mem_singleton] at hmem
    exact mem_cons.mpr hmem.symm

/-- A handled line: the cursor moves onto it, and what is owed stands behind it. -/
lemma handled_ok (h : ReplayOk w) (hm : w.monitor = some m) {rest : List Line}
    (hrest : m.rest = line :: rest) (hentry : isEntry line = true) {emitted : List Line}
    (hkept : w.emitted ⊆ emitted)
    (hemit : (line ∈ m.pending ∨ ∃ ts, entryTimestampMs line = some ts ∧ m.armSinceMs ≤ ts) →
      line ∈ emitted) :
    ReplayOk (({ w with emitted }).handled { m with rest, seen := remember m.seen line } line) := by
  have ha := h.armed m hm
  obtain ⟨passed, hfile, hpassed⟩ := ha.passed
  rw [hrest] at hfile
  have hlog : line ∈ w.log := h.log (by rw [hfile]; simp)
  have hdate := h.dates line hlog hentry
  set pending := m.pending.filter (· ≠ line) with hpending
  set sinceMs := if pending ≠ [] then m.plan.replaySinceMs else m.armSinceMs with hsince
  have hbounds : 0 ≤ sinceMs ∧ sinceMs ≤ MAX_SAFE_INTEGER := by
    rw [hsince]
    split_ifs
    · exact ha.replayBounds
    · exact ha.armBounds
  obtain ⟨cursor, hcursor, hcursorOk, hsha, hcursorSince⟩ :=
    cursorOk_cursorForLine hdate hbounds.1 hbounds.2
  have hw : ({ w with emitted }).handled { m with rest, seen := remember m.seen line } line =
      { w with
        emitted
        cursor := some cursor
        monitor := some { m with rest, seen := remember m.seen line, pending } } := by
    unfold handled
    dsimp only
    rw [← hpending, ← hsince, hcursor]
    rfl
  rw [hw]
  -- The line itself is owed no more.
  have howed : ∀ other, Owed { w with
        emitted
        cursor := some cursor
        monitor := some { m with rest, seen := remember m.seen line, pending } } other →
      w.Owed other ∧ other ≠ line := by
    rintro other (⟨hdue, hnot, hcounted⟩ | hreplaying)
    · have hold : w.Owed other := .inl ⟨hdue, fun hmem => hnot (hkept hmem), hcounted⟩
      refine ⟨hold, ?_⟩
      rintro rfl
      obtain ⟨-, ts, hts, -, hcase⟩ := ha.owed other hold
      exact hnot (hemit (hcase.imp_right (fun hle => ⟨ts, hts, hle⟩)))
    · have hmem : other ∈ pending := hreplaying
      rw [hpending, mem_filter, decide_eq_true_eq] at hmem
      refine ⟨.inr ?_, hmem.2⟩
      rw [replaying, hm]
      exact hmem.1
  refine ⟨h.log, h.dates, ?_, h.due, ?_, ?_⟩
  · rintro _ ⟨rfl⟩
    exact hcursorOk
  · intro other hother
    obtain ⟨hold, hne⟩ := howed other hother
    obtain ⟨-, ts, hts, hreplay, hcase⟩ := ha.owed other hold
    refine ⟨cursor, rfl, ?_, ts, hts, ?_⟩
    · intro hmem anchor hanchor
      rw [hsha, Option.some.injEq] at hanchor
      obtain rfl := MonitorText.sha256_injective hanchor
      exact .inl (after_passed hfile hmem hne (hpassed other hold))
    · rw [hcursorSince, hsince]
      split_ifs with hempty
      · exact hreplay
      · rcases hcase with hin | hle
        · have hstill : other ∈ pending :=
            mem_filter.mpr ⟨hin, by simpa using hne⟩
          rw [not_not.mp hempty] at hstill
          cases hstill
        · exact hle
  · rintro _ ⟨rfl⟩
    refine ⟨⟨passed ++ [line], by simp [hfile], ?_⟩, ha.history, ?_, ?_, ?_, ?_, ha.replayBounds,
      ha.armBounds⟩
    · intro other hother hmem
      obtain ⟨hold, hne⟩ := howed other hother
      rw [mem_append, mem_singleton] at hmem
      exact hmem.elim (hpassed other hold) hne
    · intro other hmem
      rcases mem_cons.mp (remember_subset _ _ hmem) with rfl | hmem
      · exact hlog
      · exact ha.seen hmem
    · intro other hmem hseen
      obtain ⟨hmem, hne⟩ := mem_filter.mp hmem
      rcases mem_cons.mp (remember_subset _ _ hseen) with rfl | hseen
      · simp at hne
      · exact ha.apart other hmem hseen
    · intro other hmem ts hts hle
      rcases mem_cons.mp (remember_subset _ _ hmem) with rfl | hmem
      · exact hemit (.inr ⟨ts, hts, hle⟩)
      · exact hkept (ha.told other hmem ts hts hle)
    · intro other hother
      obtain ⟨hold, hne⟩ := howed other hother
      obtain ⟨hhistory, ts, hts, hreplay, hcase⟩ := ha.owed other hold
      refine ⟨hhistory, ts, hts, hreplay, hcase.imp_left ?_⟩
      exact fun hin => mem_filter.mpr ⟨hin, by simpa using hne⟩

lemma deliver_ok (h : ReplayOk w) : ReplayOk w.deliver := by
  unfold deliver
  split
  · exact h
  · rename_i m hm
    split
    · exact h
    · rename_i line rest hrest
      have ha := h.armed m hm
      unfold handleStateRootLine
      dsimp only
      by_cases hentry : isEntry line = false
      · rw [if_pos hentry]
        refine skip_ok h hm hrest ?_
        intro howed
        obtain ⟨-, ts, hts, -⟩ := ha.owed line howed
        rw [isEntry_of_timestamp hts] at hentry
        cases hentry
      rw [if_neg hentry]
      rw [Bool.not_eq_false] at hentry
      by_cases hpending : line ∈ m.pending
      · rw [if_pos hpending]
        refine handled_ok h hm hrest hentry ?_ ?_
        · split_ifs
          · exact Subset.refl _
          · exact subset_append_left _ _
        · intro _
          rw [if_neg (ha.apart line hpending)]
          exact mem_append_right _ (mem_singleton.mpr rfl)
      rw [if_neg hpending]
      by_cases hskip : line ∈ m.plan.history ∨ line ∈ m.seen
      · rw [if_pos hskip]
        refine skip_ok h hm hrest ?_
        intro howed
        obtain ⟨hhistory, ts, hts, -, hcase⟩ := ha.owed line howed
        have hle : m.armSinceMs ≤ ts := hcase.resolve_left hpending
        rcases hskip with hin | hin
        · exact hhistory hin
        · rcases howed with ⟨-, hnot, -⟩ | hreplaying
          · exact hnot (ha.told line hin ts hts hle)
          · rw [replaying, hm] at hreplaying
            exact hpending hreplaying
      · rw [if_neg hskip]
        refine handled_ok h hm hrest hentry ?_ ?_
        · split_ifs
          · exact subset_append_left _ _
          · exact Subset.refl _
        · rintro (hin | ⟨ts, hts, hle⟩)
          · exact absurd hin hpending
          · rw [hts, if_pos (by simpa using hle)]
            exact mem_append_right _ (mem_singleton.mpr rfl)

/-! ### Arms -/

lemma arm_ok {timeMs : ℤ} (h : ReplayOk w) (hm : w.monitor = none)
    (htime : INBOX_ARM_TIMESTAMP_SKEW_MS ≤ timeMs ∧ timeMs ≤ MAX_SAFE_INTEGER) :
    ReplayOk (w.arm timeMs) := by
  have hbounds : 0 ≤ timeMs - INBOX_ARM_TIMESTAMP_SKEW_MS ∧
      timeMs - INBOX_ARM_TIMESTAMP_SKEW_MS ≤ MAX_SAFE_INTEGER := by
    unfold INBOX_ARM_TIMESTAMP_SKEW_MS at htime ⊢
    omega
  have hreplaying : w.replaying = [] := by rw [replaying, hm]; rfl
  cases hc : w.cursor with
  | none =>
    -- Nothing is due before a cursor is stored.
    have hnone : ∀ line, ¬w.Owed line := by
      intro line hline
      obtain ⟨cursor, hcursor, -⟩ := h.ahead line hline
      rw [hc] at hcursor
      cases hcursor
    have howed : ∀ line, ¬(w.arm timeMs).Owed line := by
      rintro line (⟨hdue, hnot, hcounted⟩ | hline)
      · refine hnone line (.inl ⟨hdue, hnot, ?_⟩)
        exact fun hmem => hcounted (mem_append_left _ hmem)
      · rw [replaying, arm, hc] at hline
        cases hline
    refine ⟨h.log, h.dates, ?_, h.due, fun line hl => absurd hl (howed line), ?_⟩
    · intro cursor hcursor
      unfold arm at hcursor
      rw [hc] at hcursor
      have hsome : (((w.file.filter isEntry).getLast?.bind
          (fun last => cursorForLine last (timeMs - INBOX_ARM_TIMESTAMP_SKEW_MS))).getD
            ⟨none, none, timeMs - INBOX_ARM_TIMESTAMP_SKEW_MS⟩) = cursor := Option.some.inj hcursor
      rw [← hsome]
      cases hlast : (w.file.filter isEntry).getLast? with
      | none => exact .start hbounds.1 hbounds.2
      | some last =>
        obtain ⟨hmem, hentry⟩ := mem_filter.mp (mem_of_getLast? hlast)
        obtain ⟨cursor', hcursor', hok, -⟩ :=
          cursorOk_cursorForLine (h.dates last (h.log hmem) hentry) hbounds.1 hbounds.2
        rw [Option.bind_some, hcursor']
        exact hok
    · intro m hm'
      unfold arm at hm'
      rw [hc] at hm'
      obtain rfl := Option.some.inj hm'
      refine ⟨⟨[], rfl, fun _ _ => not_mem_nil⟩, h.log, nil_subset _, ?_, ?_,
        fun line hl => absurd hl (howed line), hbounds, hbounds⟩
      · exact fun line hline => absurd hline not_mem_nil
      · exact fun line hline => absurd hline not_mem_nil
  | some cursor =>
    have hcursor := h.cursor cursor hc
    have hread := hcursor.read
    have hcandidate : ∀ line, (w.arm timeMs).Owed line → line ∈ replayCandidates w.file cursor := by
      rintro line (⟨hdue, hnot, hcounted⟩ | hline)
      · have hold : w.Owed line :=
          .inl ⟨hdue, hnot, fun hmem => hcounted (mem_append_left _ hmem)⟩
        obtain ⟨cursor', hcursor', hbehind, hts⟩ := h.ahead line hold
        obtain rfl : cursor = cursor' := Option.some.inj (hc.symm.trans hcursor')
        exact (mem_replayCandidates_iff hcursor (h.due hdue)).mpr ⟨hbehind (h.due hdue), hts⟩
      · rw [replaying, arm, hc, hread] at hline
        exact mem_of_mem_drop hline
    have hpending : ∀ line, (w.arm timeMs).Owed line →
        line ∈ (planArmReplay w.file (some cursor) (timeMs - INBOX_ARM_TIMESTAMP_SKEW_MS)
          ARM_REPLAY_CAP).replay := by
      intro line hline
      rcases plan_some w.file cursor (timeMs - INBOX_ARM_TIMESTAMP_SKEW_MS) ARM_REPLAY_CAP
        (hcandidate line hline) with hmem | hmem
      · exact hmem
      · rcases hline with ⟨-, -, hcounted⟩ | hline
        · refine absurd (mem_append_right _ ?_) hcounted
          rw [hc, hread]
          exact hmem
        · rw [replaying, arm, hc, hread] at hline
          exact hline
    have hstored : (w.arm timeMs).cursor = some cursor := by
      rw [arm, hc, hread]
      rfl
    refine ⟨h.log, h.dates, ?_, h.due, ?_, ?_⟩
    · intro cursor' hcursor'
      rw [hstored] at hcursor'
      obtain rfl := Option.some.inj hcursor'
      exact hcursor
    · intro line hline
      have hmem := hcandidate line hline
      obtain ⟨hbehind, hts⟩ :=
        (mem_replayCandidates_iff hcursor (mem_file_of_candidate hmem)).mp hmem
      exact ⟨cursor, hstored, fun _ => hbehind, hts⟩
    · intro m hm'
      unfold arm at hm'
      rw [hc, hread] at hm'
      obtain rfl := Option.some.inj hm'
      refine ⟨⟨[], rfl, fun _ _ => not_mem_nil⟩, ?_, nil_subset _, ?_, ?_, ?_, hcursor.bounds,
        hbounds⟩
      · exact fun line hline => h.log (mem_of_mem_filter hline)
      · exact fun line _ => not_mem_nil
      · exact fun line hline => absurd hline not_mem_nil
      · intro line hline
        have hmem := hpending line hline
        obtain ⟨-, ts, hts, hle⟩ := (mem_replayCandidates_iff hcursor
          (mem_file_of_candidate (hcandidate line hline))).mp (hcandidate line hline)
        refine ⟨?_, ts, hts, hle, .inl hmem⟩
        intro hhistory
        have hnot := (mem_filter.mp hhistory).2
        rw [Bool.not_eq_true', contains_eq_mem, decide_eq_false_iff_not] at hnot
        exact hnot hmem

/-! ### Trims -/

lemma notOlder_of_after {floor ts : ℤ} (h : After anchor file line)
    (hsorted : (file.filterMap entryTimestampMs).Pairwise (· ≤ ·))
    (hanchor : entryTimestampMs anchor = some floor) (hline : entryTimestampMs line = some ts) :
    floor ≤ ts := by
  obtain ⟨before, after, rfl, hnot⟩ := eq_append_cons_of_mem h.anchor_mem
  have hlater := h.later
  rw [takeWhile_anchor hnot] at hlater
  have hmem := h.line_mem
  rw [mem_append, mem_cons] at hmem
  have hafter : line ∈ after := (hmem.resolve_left hlater).resolve_left h.ne
  rw [filterMap_append, filterMap_cons_some hanchor, pairwise_append, pairwise_cons] at hsorted
  exact hsorted.2.1.1 ts (mem_filterMap.mpr ⟨line, hafter, hline⟩)

lemma trim_ok {dropped : ℕ} (h : ReplayOk w) (hstep : ReplayStepOk w (.trim dropped)) :
    ReplayOk (w.trim dropped) := by
  have howed : ∀ line, (w.trim dropped).Owed line → w.Owed line := by
    rintro line (⟨hdue, hsaid⟩ | hline)
    · exact .inl ⟨mem_of_mem_filter hdue, hsaid⟩
    · refine .inr ?_
      unfold replaying ReplayWorld.trim at hline
      rw [replaying]
      cases hm : w.monitor with
      | none =>
        rw [hm] at hline
        cases hline
      | some m =>
        rw [hm] at hline
        exact hline
  refine ⟨fun line hline => h.log (mem_of_mem_drop hline), h.dates, h.cursor, ?_, ?_, ?_⟩
  · intro line hline
    have hmem : line ∈ w.file.drop dropped := by simpa using (mem_filter.mp hline).2
    exact hmem
  · intro line hline
    obtain ⟨cursor, hcursor, hbehind, ts, hts, hle⟩ := h.ahead line (howed line hline)
    refine ⟨cursor, hcursor, ?_, ts, hts, hle⟩
    intro hmem anchor hanchor
    have hfile : line ∈ w.file := mem_of_mem_drop hmem
    have hnames : w.Names anchor := ⟨cursor, hcursor, hanchor⟩
    rcases hbehind hfile anchor hanchor with hafter | ⟨hgone, hnot⟩
    · obtain ⟨hfirst, hsorted⟩ := hstep anchor hnames hafter.anchor_mem
      by_cases hkept : anchor ∈ w.file.drop dropped
      · exact .inl (hafter.drop hkept (hfirst hkept) hmem)
      · obtain ⟨floor, hfloor⟩ := (h.cursor cursor hcursor).dated hanchor
        exact .inr ⟨hkept, floor, ts, hfloor, hts,
          notOlder_of_after hafter (hsorted hkept) hfloor hts⟩
    · exact .inr ⟨fun hin => hgone (mem_of_mem_drop hin), hnot⟩
  · intro m' hm'
    obtain ⟨m, hm, rfl⟩ := Option.map_eq_some_iff.mp hm'
    have ha := h.armed m hm
    obtain ⟨passed, hfile, hpassed⟩ := ha.passed
    refine ⟨⟨passed.drop dropped, ?_, ?_⟩, ha.history, ha.seen, ha.apart, ha.told,
      fun line hline => ha.owed line (howed line hline), ha.replayBounds, ha.armBounds⟩
    · have hlength : w.file.length - m.rest.length = passed.length := by
        rw [hfile, length_append]
        omega
      change w.file.drop dropped = _
      rw [hlength, hfile, drop_append]
    · exact fun line hline hmem => hpassed line (howed line hline) (mem_of_mem_drop hmem)

/-! ### Appends -/

lemma wanted_spec (h : w.wanted line = true) :
    line ∉ w.log ∧ ∃ cursor ts, w.cursor = some cursor ∧ entryTimestampMs line = some ts ∧
      cursor.sinceMs ≤ ts ∧ ∀ m, w.monitor = some m →
        m.armSinceMs ≤ ts ∧ m.plan.replaySinceMs ≤ ts := by
  unfold wanted at h
  rw [Bool.and_eq_true, Bool.not_eq_true', contains_eq_mem, decide_eq_false_iff_not] at h
  obtain ⟨hnew, h⟩ := h
  split at h
  · rename_i cursor ts hcursor hts
    simp only [Bool.and_eq_true, decide_eq_true_eq, Option.all_eq_true] at h
    exact ⟨hnew, cursor, ts, hcursor, hts, h.1, fun m hm => h.2 m hm⟩
  · cases h

lemma append_ok (h : ReplayOk w) (hstep : ReplayStepOk w (.append line)) :
    ReplayOk (w.append line) := by
  have howed : ∀ other, (w.append line).Owed other →
      w.Owed other ∨ (other = line ∧ w.wanted line = true) := by
    rintro other (⟨hdue, hsaid⟩ | hother)
    · change other ∈ (if w.wanted line then w.due ++ [line] else w.due) at hdue
      split_ifs at hdue with hwanted
      · rcases mem_append.mp hdue with hdue | hdue
        · exact .inl (.inl ⟨hdue, hsaid⟩)
        · exact .inr ⟨mem_singleton.mp hdue, hwanted⟩
      · exact .inl (.inl ⟨hdue, hsaid⟩)
    · refine .inl (.inr ?_)
      unfold replaying append at hother
      rw [replaying]
      cases hm : w.monitor with
      | none =>
        rw [hm] at hother
        cases hother
      | some m =>
        rw [hm] at hother
        exact hother
  have hnew : w.wanted line = true → line ∉ w.file :=
    fun hwanted hmem => (wanted_spec hwanted).1 (h.log hmem)
  have hold : ∀ other, (w.append line).Owed other → ∃ cursor, w.cursor = some cursor ∧
      (other ∈ w.file → Behind w.file cursor other) ∧
        ∃ ts, entryTimestampMs other = some ts ∧ cursor.sinceMs ≤ ts := by
    intro other hother
    rcases howed other hother with hother | ⟨rfl, hwanted⟩
    · exact h.ahead other hother
    · obtain ⟨-, cursor, ts, hcursor, hts, hle, -⟩ := wanted_spec hwanted
      exact ⟨cursor, hcursor, fun hmem => absurd hmem (hnew hwanted), ts, hts, hle⟩
  refine ⟨?_, ?_, h.cursor, ?_, ?_, ?_⟩
  · intro other hother
    rcases mem_append.mp hother with hother | hother
    · exact mem_append_left _ (h.log hother)
    · exact mem_append_right _ hother
  · intro other hother hentry
    rcases mem_append.mp hother with hother | hother
    · exact h.dates other hother hentry
    · rw [mem_singleton] at hother
      subst hother
      exact hstep.1 hentry
  · intro other hother
    change other ∈ (if w.wanted line then w.due ++ [line] else w.due) at hother
    split_ifs at hother
    · rcases mem_append.mp hother with hother | hother
      · exact mem_append_left _ (h.due hother)
      · exact mem_append_right _ hother
    · exact mem_append_left _ (h.due hother)
  · intro other hother
    obtain ⟨cursor, hcursor, hbehind, ts, hts, hle⟩ := hold other hother
    refine ⟨cursor, hcursor, ?_, ts, hts, hle⟩
    intro hmem anchor hanchor
    have hline : other ∉ w.file → other = line := by
      intro hout
      exact mem_singleton.mp ((mem_append.mp hmem).resolve_left hout)
    by_cases hin : anchor ∈ w.file
    · by_cases hstill : other ∈ w.file
      · exact .inl (((hbehind hstill anchor hanchor).resolve_right
          (fun hgone => hgone.1 hin)).append line)
      · obtain rfl := hline hstill
        exact .inl (after_new hin hstill)
    · obtain ⟨hne, hnotOlder⟩ := hstep.2 anchor ⟨cursor, hcursor, hanchor⟩ hin
      refine .inr ⟨?_, ?_⟩
      · intro hmem
        rcases mem_append.mp hmem with hmem | hmem
        · exact hin hmem
        · exact hne (mem_singleton.mp hmem).symm
      · by_cases hstill : other ∈ w.file
        · exact ((hbehind hstill anchor hanchor).resolve_left
            (fun hafter => hin hafter.anchor_mem)).2
        · obtain rfl := hline hstill
          obtain ⟨floor, hfloor⟩ := (h.cursor cursor hcursor).dated hanchor
          exact ⟨floor, ts, hfloor, hts, hnotOlder floor ts hfloor hts⟩
  · intro m' hm'
    obtain ⟨m, hm, rfl⟩ := Option.map_eq_some_iff.mp hm'
    have ha := h.armed m hm
    obtain ⟨passed, hfile, hpassed⟩ := ha.passed
    refine ⟨⟨passed, ?_, ?_⟩, fun other hmem => mem_append_left _ (ha.history hmem),
      fun other hmem => mem_append_left _ (ha.seen hmem), ha.apart, ha.told, ?_, ha.replayBounds,
      ha.armBounds⟩
    · change w.file ++ [line] = passed ++ (m.rest ++ [line])
      rw [hfile, append_assoc]
    · intro other hother hmem
      rcases howed other hother with hother | ⟨rfl, hwanted⟩
      · exact hpassed other hother hmem
      · exact hnew hwanted (by rw [hfile]; exact mem_append_left _ hmem)
    · intro other hother
      rcases howed other hother with hother | ⟨rfl, hwanted⟩
      · exact ha.owed other hother
      · obtain ⟨hlog, cursor, ts, -, hts, -, hbounds⟩ := wanted_spec hwanted
        obtain ⟨harm, hreplay⟩ := hbounds m hm
        exact ⟨fun hmem => hlog (ha.history hmem), ts, hts, hreplay, .inr harm⟩

/-! ### Any run -/

lemma replayStep_ok (step : ReplayStep) (h : ReplayOk w) (hstep : ReplayStepOk w step) :
    ReplayOk (replayStep w step) := by
  cases step with
  | append line => exact append_ok h hstep
  | trim dropped => exact trim_ok h hstep
  | arm timeMs =>
    unfold replayStep
    dsimp only
    split_ifs with harmed
    · exact h
    · exact arm_ok h (by simpa using harmed) hstep
  | deliver => exact deliver_ok h
  | reread => exact reread_ok h
  | crash => exact crash_ok h

lemma start_ok (hdates : ∀ line ∈ file, isEntry line = true →
    (entryTimestampMs line).isSome = true) :
    ReplayOk { log := file, file := file } := by
  have hnone : ∀ line, ¬Owed { log := file, file := file } line := by
    rintro line (⟨hdue, -⟩ | hline)
    · cases hdue
    · cases hline
  refine ⟨Subset.refl _, hdates, ?_, nil_subset _, fun line hl => absurd hl (hnone line), ?_⟩
  · intro cursor hcursor
    cases hcursor
  · intro m hm
    cases hm

/-- What is owed and in the file, the next arm replays or counts. -/
lemma next_of_owed (h : ReplayOk w) (howed : w.Owed line) (hfile : line ∈ w.file) (timeMs : ℤ) :
    line ∈ (w.nextArm timeMs).counted ∨ line ∈ (w.nextArm timeMs).replaying := by
  obtain ⟨cursor, hcursor, hbehind, hts⟩ := h.ahead line howed
  have hread := (h.cursor cursor hcursor).read
  have hmem := (mem_replayCandidates_iff (h.cursor cursor hcursor) hfile).mpr ⟨hbehind hfile, hts⟩
  have hnext : w.nextArm timeMs = ({ w with monitor := none } : ReplayWorld).arm timeMs := rfl
  rw [hnext]
  unfold replaying arm
  dsimp only
  rw [hcursor, hread]
  rcases plan_some w.file cursor (timeMs - INBOX_ARM_TIMESTAMP_SKEW_MS) ARM_REPLAY_CAP hmem with
    hmem | hmem
  · exact .inr hmem
  · exact .inl (mem_append_right _ hmem)

end

/-! ### A line trimmed while no monitor is armed -/

/-- One date, and each line as its own digest. -/
@[reducible] def plainMonitorText : MonitorText where
  dateParse ts := if ts = stamp.toList then some 1767225600000 else none
  sha256 := String.ofList
  sha256_injective _ _ h := String.ofList_injective h

def entryOne : Line :=
  lineOf stamp.toList "builder-1".toList "Builder".toList "one".toList

section
attribute [local instance] plainMonitorText

lemma entryOne_date : entryTimestampMs entryOne = some 1767225600000 := by
  decide +kernel

lemma start_names {timeMs : ℤ} (anchor : Line) :
    ¬ReplayWorld.Names (replayStep (replayStep { log := [], file := [] } (.arm timeMs)) .crash) anchor := by
  rintro ⟨cursor, hcursor, hanchor⟩
  obtain rfl := Option.some.inj hcursor
  cases hanchor

end

end BorgClient.Monitor
