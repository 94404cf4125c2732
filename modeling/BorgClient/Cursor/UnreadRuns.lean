import BorgClient.Cursor.UnreadReads

/-!
# The unread watermark over runs of reads

A call of `readLog` that throws has moved the watermark exactly when something fails after the write
of a page's cursor. Runs in which no call does, and none starts past the watermark, return every
entry up to it.
-/

namespace BorgClient.Cursor
open Representative Runs List

variable {key : String} {cursors : CursorMap} {w : Option LocalServerCursor} {moved : Prop}

/-! ### The watermark during a call -/

lemma apply_advance (key : String) (cursors : CursorMap) (d : LocalServerCursor) :
    (∃ prior, cursors key = some prior ∧ d ≤ prior ∧
      CursorOp.apply cursors (.advance key d) = cursors) ∨
    (Beyond (cursors key) d ∧ CursorOp.apply cursors (.advance key d) key = some d) := by
  unfold CursorOp.apply CursorOp.next
  dsimp only
  cases hc : cursors key with
  | none => exact Or.inr ⟨by simp [Beyond], by simp⟩
  | some prior =>
    dsimp only
    split
    · rename_i hle
      refine Or.inl ⟨prior, rfl, ?_, rfl⟩
      rw [← not_lt, cursor_lt_iff]
      simp only [Bool.or_eq_true, Bool.and_eq_true, decide_eq_true_eq, beq_iff_eq] at hle
      rcases hle with h | ⟨h, hi⟩
      · exact not_or.mpr ⟨lt_asymm h, fun he => absurd he.1 h.ne'⟩
      · exact not_or.mpr ⟨h ▸ lt_irrefl _, fun he => absurd he.2 (not_lt.mpr hi)⟩
    · rename_i hlater
      refine Or.inr ⟨fun c hcur => ?_, by simp⟩
      cases hcur
      rw [cursor_lt_iff]
      simp only [Bool.or_eq_true, Bool.and_eq_true, decide_eq_true_eq, beq_iff_eq, not_or, not_and,
        not_le, not_lt] at hlater
      rcases lt_or_eq_of_le hlater.1 with h | h
      · exact Or.inl h
      · exact Or.inr ⟨h, hlater.2 h⟩

/-- The watermark lies beyond where the call found it, or is as the call found it. -/
def Tracked (w : Option LocalServerCursor) (moved : Prop) (key : String) (cursors : CursorMap) :
    Prop :=
  (moved ∧ ∃ r, cursors key = some r ∧ Beyond w r) ∨ (¬ moved ∧ cursors key = w)

lemma Tracked.ne_iff (h : Tracked w moved key cursors) : cursors key ≠ w ↔ moved := by
  rcases h with ⟨hm, r, hr, hb⟩ | ⟨hm, hw⟩
  · refine iff_of_true (fun he => ?_) hm
    rw [hr] at he
    exact lt_irrefl r (hb r he.symm)
  · exact iff_of_false (not_not.mpr hw) hm

lemma Tracked.advance (h : Tracked w moved key cursors) (d : LocalServerCursor) :
    Tracked w (moved ∨ Beyond w d) key (CursorOp.apply cursors (.advance key d)) := by
  rcases apply_advance key cursors d with ⟨prior, hp, hle, happ⟩ | ⟨hb, happ⟩
  · rw [happ]
    rcases h with ⟨hm, hr⟩ | ⟨hm, hw⟩
    · exact Or.inl ⟨Or.inl hm, hr⟩
    · refine Or.inr ⟨not_or.mpr ⟨hm, fun hb => ?_⟩, hw⟩
      exact absurd (hb prior (hw ▸ hp)) (not_lt.mpr hle)
  · rcases h with ⟨hm, r, hr, hbr⟩ | ⟨hm, hw⟩
    · exact Or.inl ⟨Or.inl hm, d, happ, fun c hc => (hbr c hc).trans (hb r hr)⟩
    · exact Or.inl ⟨Or.inr (hw ▸ hb), d, happ, hw ▸ hb⟩

lemma Tracked.congr {moved' : Prop} (h : Tracked w moved key cursors) (hm : moved ↔ moved') :
    Tracked w moved' key cursors := by
  rw [← propext hm]
  exact h

lemma recordPage_spec (h : Tracked w moved key cursors) (page : LogPage) (answer : Answer) :
    Tracked w (Moves w moved page answer) key (recordPage key cursors page answer).1 ∧
      ((recordPage key cursors page answer).2 = true ↔ Accepted page answer) := by
  unfold recordPage Moves Accepted
  cases hc : page.cursor with
  | none => exact ⟨h.congr (by simp), by simp⟩
  | some d =>
    cases hg : answer.guard with
    | false => exact ⟨h.congr (by simp), by simp⟩
    | true =>
      cases ha : answer.advance with
      | refused => exact ⟨h.congr (by simp), by simp⟩
      | unreleased => exact ⟨(h.advance d).congr (by simp), by simp⟩
      | done => exact ⟨(h.advance d).congr (by simp), by simp⟩

lemma drainDigest_spec (composes : Bool) (answers : List Answer)
    (h : Tracked w moved key cursors) (page : LogPage) (entries : List LogEntry) :
    ((drainDigest key answers cursors page entries).1 key ≠ w ∧
      ((drainDigest key answers cursors page entries).2 = none ∨ composes = false)) ↔
    DigestStumbles w composes answers moved page entries.length := by
  induction answers generalizing cursors moved page entries with
  | nil =>
    unfold drainDigest DigestStumbles
    simp only [Bool.and_eq_true, decide_eq_true_eq, Bool.or_eq_true, Option.isNone_iff_eq_none,
      List.isEmpty_iff]
    split
    · split <;> simpa using h.ne_iff
    · simp only [reduceCtorEq, false_or]
      rw [h.ne_iff]
      exact and_comm
  | cons answer answers ih =>
    unfold drainDigest DigestStumbles
    simp only [Bool.and_eq_true, decide_eq_true_eq, Bool.or_eq_true, Option.isNone_iff_eq_none,
      List.isEmpty_iff]
    split
    · split
      · simpa using h.ne_iff
      · cases hp : answer.page with
        | none => simpa using h.ne_iff
        | some next =>
          dsimp only
          obtain ⟨ht, hok⟩ := recordPage_spec h next answer
          rcases hr : recordPage key cursors next answer with ⟨cursors', _ | _⟩
          · rw [hr] at ht hok
            have hnot : ¬ Accepted next answer := by simpa using hok
            simpa [hnot] using ht.ne_iff
          · rw [hr] at ht hok
            have hacc : Accepted next answer := by simpa using hok
            have hih := ih ht next (entries ++ next.entries)
            rw [List.length_append] at hih
            simpa [hacc] using hih
    · simp only [reduceCtorEq, false_or]
      rw [h.ne_iff]
      exact and_comm

/-- A call that goes on after the write of its first page. -/
lemma rest_spec (h : Tracked w moved key cursors) (call : Call) (page : LogPage) :
    (((if isDigest call.opts page then
          drainDigest key call.script.more cursors page page.entries
        else (cursors, some (page, page.entries))).1 key ≠ w) ∧
      ((if isDigest call.opts page then
          drainDigest key call.script.more cursors page page.entries
        else (cursors, some (page, page.entries))).2 = none ∨ call.script.composes = false)) ↔
    (if isDigest call.opts page = true then
      DigestStumbles w call.script.composes call.script.more moved page page.entries.length
    else call.script.composes = false ∧ moved) := by
  split
  · exact drainDigest_spec call.script.composes call.script.more h page page.entries
  · simp only [reduceCtorEq, false_or]
    rw [h.ne_iff]
    exact and_comm

/-- A call that is not an unread one writes no cursor. -/
lemma readLog_unmoved {call : Call} (hu : call.opts.unreadOnly = false) :
    (readLog key cursors call).1 = cursors := by
  unfold readLog
  simp only [isDigest, hu, Bool.false_and, Bool.false_eq_true, ↓reduceIte]
  split
  · rfl
  · split
    · rfl
    · rfl
    · split <;> rfl

/-- A call throws with the watermark moved exactly when it stumbles. -/
lemma not_atomic_iff (key : String) (cursors : CursorMap) (call : Call) :
    ¬ Atomic key cursors call ↔ Stumbles key cursors call := by
  have h0 : Tracked (cursors key) False key cursors := Or.inr ⟨not_false, rfl⟩
  by_cases hu : call.opts.unreadOnly = true
  · unfold Atomic Stumbles readLog
    cases hc : call.opts.cursor with
    | some cursor => simp [hu]
    | none =>
      cases he : call.script.enters with
      | false => simp
      | true =>
        cases hr : requestCursor key call cursors with
        | none => simp
        | some start =>
          cases hp : call.script.first.page with
          | none => simp
          | some page =>
            obtain ⟨ht, hok⟩ := recordPage_spec h0 page call.script.first
            simp only [hu, Bool.not_true, Option.isSome_none, Bool.false_and, Bool.or_false,
              Bool.false_eq_true, ↓reduceIte, Option.isSome_some, true_and, Option.some.injEq,
              exists_eq_left']
            rcases hrec : recordPage key cursors page call.script.first with ⟨cursors', _ | _⟩
            · rw [hrec] at ht hok
              have hnot : ¬ Accepted page call.script.first := by simpa using hok
              simpa [hnot] using ht.ne_iff
            · rw [hrec] at ht hok
              have hacc : Accepted page call.script.first := by simpa using hok
              have hrest := rest_spec ht call page
              simp only [hacc, not_true_eq_false, false_and, false_or, true_and]
              rw [← hrest]
              split
              · rename_i heq
                rw [heq]
                simp
              · rename_i heq
                rw [heq]
                cases call.script.composes <;> simp
  · refine iff_of_false (fun hn => hn (fun _ => ?_)) (fun hs => hu hs.1)
    rw [readLog_unmoved (by simpa using hu)]

/-! ### What a successful call covers -/

/-- The entries after `start` and up to `d` are among those collected. -/
def Covers (log : ServerLog) (start : Option LocalServerCursor) (entries : List LogEntry)
    (d : LocalServerCursor) : Prop :=
  ∀ e ∈ log.entries, Beyond start e.point → e.point ≤ d → e ∈ entries

lemma Covers.mono {log : ServerLog} {start : Option LocalServerCursor} {entries : List LogEntry}
    {d : LocalServerCursor} (h : Covers log start entries d) (more : List LogEntry) :
    Covers log start (entries ++ more) d :=
  fun e he hb hd => mem_append_left more (h e he hb hd)

/-- A page of the next entries extends what is covered to its cursor. -/
lemma Covers.page {log : ServerLog} {start : Option LocalServerCursor} {entries : List LogEntry}
    {d d' : LocalServerCursor} {next : LogPage} (h : Covers log start entries d)
    (hp : Contiguous log (some d) next) (hd : next.cursor = some d') :
    Covers log start (entries ++ next.entries) d' := by
  intro e he hb hle
  rcases le_or_gt e.point d with hed | hed
  · exact mem_append_left _ (h e he hb hed)
  · refine mem_append_right _ (hp d' hd e he (fun c hc => ?_) hle)
    cases hc
    exact hed

/-- The watermark is the one the call found, or what is collected reaches it. -/
def Reaches (log : ServerLog) (key : String) (w start : Option LocalServerCursor)
    (entries : List LogEntry) (cursors : CursorMap) : Prop :=
  cursors key = w ∨ ∃ r, cursors key = some r ∧ Covers log start entries r

lemma Reaches.record {log : ServerLog} {start : Option LocalServerCursor}
    {entries : List LogEntry} {page : LogPage} {answer : Answer}
    (h : Reaches log key w start entries cursors)
    (hp : ∀ d, page.cursor = some d → Covers log start entries d) :
    Reaches log key w start entries (recordPage key cursors page answer).1 := by
  unfold recordPage
  cases hc : page.cursor with
  | none => exact h
  | some d =>
    have hadv : Reaches log key w start entries (CursorOp.apply cursors (.advance key d)) := by
      rcases apply_advance key cursors d with ⟨prior, -, -, happ⟩ | ⟨-, happ⟩
      · rw [happ]
        exact h
      · exact Or.inr ⟨d, happ, hp d hc⟩
    dsimp only
    split
    · exact h
    · split
      · exact h
      · exact hadv
      · exact hadv

lemma Reaches.mono {log : ServerLog} {start : Option LocalServerCursor} {entries : List LogEntry}
    (h : Reaches log key w start entries cursors) (more : List LogEntry) :
    Reaches log key w start (entries ++ more) cursors := by
  rcases h with h | ⟨r, hr, hc⟩
  · exact Or.inl h
  · exact Or.inr ⟨r, hr, hc.mono more⟩

lemma drainDigest_reaches {log : ServerLog} {start : Option LocalServerCursor}
    (answers : List Answer) {page last : LogPage} {entries collected : List LogEntry}
    {cursors' : CursorMap} (h : Reaches log key w start entries cursors)
    (hp : ∀ d, page.cursor = some d → Covers log start entries d)
    (hh : ContiguousFrom log page.cursor answers)
    (hd : drainDigest key answers cursors page entries = (cursors', some (last, collected))) :
    Reaches log key w start collected cursors' := by
  induction answers generalizing cursors page entries with
  | nil =>
    unfold drainDigest at hd
    split at hd
    · split at hd <;> cases hd
    · cases hd
      exact h
  | cons answer answers ih =>
    unfold drainDigest at hd
    split at hd
    · split at hd
      · cases hd
      · rename_i hcur
        dsimp only at hd
        split at hd
        · cases hd
        · rename_i next hnext
          obtain ⟨hcont, hrest⟩ := hh next hnext
          have hsome : ∃ d, page.cursor = some d := by
            rw [← Option.isSome_iff_exists]
            cases hc : page.cursor <;> simp_all
          obtain ⟨d, hpd⟩ := hsome
          have hcov : ∀ d', next.cursor = some d' →
              Covers log start (entries ++ next.entries) d' :=
            fun d' hd' => (hp d hpd).page (hpd ▸ hcont) hd'
          have hrec : Reaches log key w start (entries ++ next.entries)
              (recordPage key cursors next answer).1 :=
            (h.mono next.entries).record hcov
          split at hd
          · cases hd
          · rename_i heq
            rw [heq] at hrec
            exact ih hrec hcov hrest hd
    · cases hd
      exact h

/-- A call that returns has collected everything between its start and the watermark it leaves. -/
lemma readLog_reaches {log : ServerLog} {call : Call} {start : Option LocalServerCursor}
    {result : ReadLogResult} (hstart : requestCursor key call cursors = some start)
    (hh : ContiguousFrom log start (call.script.first :: call.script.more))
    (hr : (readLog key cursors call).2 = some result) :
    Reaches log key (cursors key) start result.entries (readLog key cursors call).1 := by
  unfold readLog at hr ⊢
  split
  · exact Or.inl rfl
  · rename_i hgate
    rw [if_neg hgate] at hr
    rw [hstart] at hr ⊢
    cases hp : call.script.first.page with
    | none => exact Or.inl rfl
    | some page =>
      rw [hp] at hr
      dsimp only at hr ⊢
      obtain ⟨hcont, hrest⟩ := hh page hp
      have hcov : ∀ d, page.cursor = some d → Covers log start page.entries d := hcont
      have h0 : Reaches log key (cursors key) start page.entries cursors := Or.inl rfl
      have hfirst : Reaches log key (cursors key) start page.entries
          (if call.opts.unreadOnly then recordPage key cursors page call.script.first
            else (cursors, true)).1 := by
        split
        · exact h0.record hcov
        · exact h0
      split at hr
      · cases hr
      · rename_i heq
        rw [heq] at hfirst
        dsimp only at hfirst
        split at hr
        · cases hr
        · rename_i heq'
          split at hr
          · rename_i hcomp
            rw [if_pos hcomp]
            cases hr
            split at heq'
            · exact drainDigest_reaches _ hfirst hcov hrest heq'
            · cases heq'
              exact hfirst
          · cases hr

lemma readLog_start {call : Call} {result : ReadLogResult}
    (h : (readLog key cursors call).2 = some result) :
    ∃ start, requestCursor key call cursors = some start := by
  unfold readLog at h
  split at h
  · cases h
  · cases hr : requestCursor key call cursors with
    | none =>
      rw [hr] at h
      cases h
    | some start => exact ⟨start, rfl⟩

/-! ### Runs -/

lemma drained_step {log : ServerLog} {first : Option LocalServerCursor} {world : UnreadWorld}
    {call : Call} (h : Drained log key first world) (hh : Honest log key world call)
    (hs : ¬ Stumbles key world.cursors call) (hb : StartsBehind key world call) :
    Drained log key first (readStep key world call) := by
  have hatomic : Atomic key world.cursors call := by
    by_contra hnot
    exact hs ((not_atomic_iff key world.cursors call).mp hnot)
  intro e he hfirst hle
  unfold readStep at hle ⊢
  dsimp only at hle ⊢
  cases hr : (readLog key world.cursors call).2 with
  | none =>
    rw [hatomic hr] at hle
    exact mem_append_left _ (h e he hfirst hle)
  | some result =>
    obtain ⟨start, hstart⟩ := readLog_start hr
    rw [Option.map_some, Option.getD_some]
    rcases readLog_reaches hstart (hh start hstart) hr with hw | ⟨r, hw, hcov⟩
    · rw [hw] at hle
      exact mem_append_left _ (h e he hfirst hle)
    · by_cases hold : ∃ c, world.cursors key = some c ∧ e.point ≤ c
      · exact mem_append_left _ (h e he hfirst hold)
      · refine mem_append_right _ ?_
        obtain ⟨c, hc, hlec⟩ := hle
        obtain rfl : r = c := Option.some.inj (hw.symm.trans hc)
        by_cases hu : call.opts.unreadOnly = true
        · refine hcov e he (fun c' hc' => ?_) hlec
          obtain ⟨c'', hc'', hle''⟩ := hb hu start hstart c' hc'
          exact lt_of_le_of_lt hle'' (not_le.mp (fun hn => hold ⟨c'', hc'', hn⟩))
        · have hsame : (readLog key world.cursors call).1 = world.cursors :=
            readLog_unmoved (by simpa using hu)
          rw [hsame] at hw
          exact absurd ⟨r, hw, hlec⟩ hold

def firstEntry : LogEntry where
  id := "00000000-0000-4000-8000-000000000001"
  created_at := "2026-01-01T00:00:00.000Z"
  drone_id := "00000000-0000-4000-8000-0000000000d1"
  visibility := .broadcast
  recipient_drone_ids := []
  message := "begin"
  documents := []

def oneEntryLog : ServerLog where
  entries := [firstEntry]
  sorted := pairwise_singleton _ _
  ids := by simp

/-- An unread call that is given the entry; `composes` decides how it ends. -/
def unreadCall (composes : Bool) : Call where
  opts := ⟨none, none, true⟩
  script := ⟨true, true, [], ⟨some ⟨[firstEntry], some firstEntry.point, false, some 0⟩, true, .done⟩,
    [], composes⟩

end BorgClient.Cursor
