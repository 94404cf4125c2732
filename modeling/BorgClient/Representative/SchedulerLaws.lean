import BorgClient.Representative.Scheduler
import BorgClient.Representative.SendRuns

/-!
# When the engine wakes the host

The timer's next instant and the scheduler's decisions agree, and an ack that was ignored leaves
no trace in what follows.
-/

namespace BorgClient.Representative
open Platform List Tables Runs

section Steps

variable [Platform]

def engineStep (binding : RepresentativeBinding) (db : Db) (l : Uuid × EngineCall) : Db :=
  (engineCall binding db l.1 l.2).2

/-- The call wakes the host. -/
def Wakes (binding : RepresentativeBinding) (db : Db) (l : Uuid × EngineCall) : Prop :=
  ∃ wake, (engineCall binding db l.1 l.2).1 = .wake (some wake)

end Steps

def EngineCall.isMerge : EngineCall → Bool
  | .merge .. => true
  | _ => false

/-! ### The tick -/

namespace WakeState

variable {s : WakeState} {now d t : ℕ}

lemma mem_clamped_rows {row : WakeRow} : row ∈ (s.clamped t).rows ↔
    ∃ old ∈ s.rows, { old with next_at := min old.next_at (t + MAX_FUTURE_MS) } = row := by
  unfold clamped clampRows
  rw [Table.mem_update]

/-- An expired batch is gone, any other has its deadline clamped. -/
lemma clamped_outstanding {o : Outstanding} :
    (s.clamped t).document.outstanding = some o ↔ ∃ old, s.document.outstanding = some old ∧
      t < old.deadline ∧ { old with deadline := min old.deadline (t + MAX_FUTURE_MS) } = o := by
  have hpos : 0 < MAX_FUTURE_MS := by simp [MAX_FUTURE_MS]
  unfold clamped expireOutstanding clampDocument
  cases ho : s.document.outstanding with
  | none => simp
  | some old =>
    by_cases hlate : min old.deadline (t + MAX_FUTURE_MS) ≤ t
    · have hold : old.deadline ≤ t := by omega
      simp [hold]
    · have hold : ¬ old.deadline ≤ t := by omega
      simp [hlate, not_le.mp hold]

lemma clamped_fields :
    (s.clamped t).document.refusals.retry_at =
        s.document.refusals.retry_at.map (fun at_ => min at_ (t + MAX_FUTURE_MS)) ∧
      (s.clamped t).document.cohort = s.document.cohort ∧
      (s.clamped t).document.debounce_at =
        s.document.debounce_at.map (fun at_ => min at_ (t + MAX_FUTURE_MS)) := by
  unfold clamped expireOutstanding clampDocument
  dsimp only
  split <;> exact ⟨rfl, rfl, rfl⟩

/-- Something keeps every tick before `d` from a wake. -/
def HeldUntil (d : ℕ) (s : WakeState) : Prop :=
  (∃ o, s.document.outstanding = some o ∧ d ≤ o.deadline) ∨
    (∃ at_, s.document.refusals.retry_at = some at_ ∧ d ≤ at_) ∨ s.document.cohortOpen = true ∨
    (∃ at_, s.document.debounce_at = some at_ ∧ d ≤ at_) ∨ ∀ row ∈ s.rows, d ≤ row.next_at

lemma due_of_blocked (h : blocked t s.document = true) : s.due t = [] := by
  simp [due, h]

lemma heldUntil_due (h : HeldUntil d s) (ht : t < d) : s.due t = [] := by
  rcases h with ⟨o, ho, _⟩ | ⟨at_, hat, hd⟩ | hopen | ⟨at_, hat, hd⟩ | hrows
  · exact due_of_blocked (by simp [blocked, ho])
  · exact due_of_blocked (by simp [blocked, hat, ht.trans_le hd])
  · unfold WakeDocument.cohortOpen at hopen
    exact due_of_blocked (by simp [blocked, hopen])
  · exact due_of_blocked (by simp [blocked, hat, ht.trans_le hd])
  · unfold due
    split
    · rfl
    · rw [filter_eq_nil_iff]
      intro row hrow
      have hle := hrows row (mem_sorted.mp hrow)
      simp only [decide_eq_true_eq, not_le]
      omega

/-- Clamping within a day of `d` lifts no hold before `d`. -/
lemma heldUntil_clamped (h : HeldUntil d s) (ht : t < d) (hd : d ≤ t + MAX_FUTURE_MS) :
    HeldUntil d (s.clamped t) := by
  obtain ⟨hretry, hcohort, hdebounce⟩ := clamped_fields (s := s) (t := t)
  rcases h with ⟨o, ho, hle⟩ | ⟨at_, hat, hle⟩ | hopen | ⟨at_, hat, hle⟩ | hrows
  · exact Or.inl ⟨_, clamped_outstanding.mpr ⟨o, ho, ht.trans_le hle, rfl⟩, le_min hle hd⟩
  · exact Or.inr (Or.inl ⟨_, by rw [hretry, hat]; rfl, le_min hle hd⟩)
  · refine Or.inr (Or.inr (Or.inl ?_))
    unfold WakeDocument.cohortOpen at hopen ⊢
    rwa [hcohort]
  · exact Or.inr (Or.inr (Or.inr (Or.inl ⟨_, by rw [hdebounce, hat]; rfl, le_min hle hd⟩)))
  · refine Or.inr (Or.inr (Or.inr (Or.inr (fun row hrow => ?_))))
    obtain ⟨old, hold, rfl⟩ := mem_clamped_rows.mp hrow
    exact le_min (hrows old hold) hd

/-- A tick before `d` wakes nobody and keeps the hold. -/
lemma tick_of_held (h : HeldUntil d s) (ht : t < d) (hd : d ≤ t + MAX_FUTURE_MS) (batch : Uuid) :
    (s.tick t batch).1 = none ∧ HeldUntil d (s.tick t batch).2 := by
  have hclamped := heldUntil_clamped h ht hd
  unfold tick
  dsimp only
  rw [if_pos (heldUntil_due hclamped ht)]
  exact ⟨rfl, hclamped⟩

lemma tick_eq_none {batch : Uuid} (h : (s.tick t batch).1 = none) :
    (s.clamped t).due t = [] ∧ (s.tick t batch).2 = s.clamped t := by
  unfold tick at h ⊢
  dsimp only at h ⊢
  by_cases hdue : (s.clamped t).due t = []
  · rw [if_pos hdue]
    exact ⟨hdue, rfl⟩
  · rw [if_neg hdue] at h
    cases h

/-! ### The next instant -/

/-- The earliest clamped instant of the rows. -/
def earliest (now : ℕ) (s : WakeState) : Option ℕ :=
  (s.sorted.map (fun row => min row.next_at (now + MAX_FUTURE_MS))).min?

lemma earliest_eq_none : s.earliest now = none ↔ ∀ row, row ∉ s.rows := by
  unfold earliest
  rw [min?_eq_none_iff, map_eq_nil_iff, eq_nil_iff_forall_not_mem]
  simp only [mem_sorted]

lemma earliest_eq_some (h : s.earliest now = some d) :
    (∃ row ∈ s.rows, d = min row.next_at (now + MAX_FUTURE_MS)) ∧
      ∀ row ∈ s.rows, d ≤ min row.next_at (now + MAX_FUTURE_MS) := by
  obtain ⟨hmem, hle⟩ := min?_eq_some_iff.mp h
  constructor
  · obtain ⟨row, hrow, heq⟩ := mem_map.mp hmem
    exact ⟨row, mem_sorted.mp hrow, heq.symm⟩
  · intro row hrow
    exact hle _ (mem_map.mpr ⟨row, mem_sorted.mpr hrow, rfl⟩)

/-- Why no instant is next. -/
lemma nextDueAt_eq_none (h : s.nextDueAt now = none) :
    s.document.cohortOpen = true ∨ ∀ row, row ∉ s.rows := by
  unfold nextDueAt at h
  dsimp only at h
  split at h
  · cases h
  · split at h
    · rename_i hretry
      obtain ⟨at_, hat, _⟩ := (Option.any_eq_true _ _).mp hretry
      simp [hat] at h
    · split at h
      · rename_i hopen
        exact Or.inl hopen
      · right
        split at h
        · exact earliest_eq_none.mp (Option.map_eq_none_iff.mp h)
        · exact earliest_eq_none.mp h

/-- The next instant is at most a day away, and the state is held until it. -/
lemma nextDueAt_eq_some (h : s.nextDueAt now = some d) :
    HeldUntil d s ∧ d ≤ now + MAX_FUTURE_MS := by
  unfold nextDueAt at h
  dsimp only at h
  split at h
  · rename_i o ho
    obtain rfl := Option.some.inj h
    exact ⟨Or.inl ⟨o, ho, min_le_left _ _⟩, min_le_right _ _⟩
  · split at h
    · obtain ⟨at_, hat, rfl⟩ := Option.map_eq_some_iff.mp h
      exact ⟨Or.inr (Or.inl ⟨at_, hat, min_le_left _ _⟩), min_le_right _ _⟩
    · split at h
      · cases h
      · have hrows : ∀ {e}, s.earliest now = some e → (∀ row ∈ s.rows, e ≤ row.next_at) ∧
            e ≤ now + MAX_FUTURE_MS := by
          intro e he
          obtain ⟨⟨row, _, rfl⟩, hall⟩ := earliest_eq_some he
          exact ⟨fun row hrow => (hall row hrow).trans (min_le_left _ _), min_le_right _ _⟩
        split at h
        · rename_i debounce hdebounce
          obtain ⟨e, he, rfl⟩ := Option.map_eq_some_iff.mp h
          obtain ⟨hall, hday⟩ := hrows he
          refine ⟨?_, max_le hday (min_le_right _ _)⟩
          rcases max_choice e (min debounce (now + MAX_FUTURE_MS)) with hmax | hmax
          · rw [hmax]
            exact Or.inr (Or.inr (Or.inr (Or.inr hall)))
          · rw [hmax]
            exact Or.inr (Or.inr (Or.inr (Or.inl ⟨debounce, hdebounce, min_le_left _ _⟩)))
        · obtain ⟨hall, hday⟩ := hrows h
          exact ⟨Or.inr (Or.inr (Or.inr (Or.inr hall))), hday⟩

lemma nextDueAt_ne_none (hopen : s.document.cohortOpen = false) {row : WakeRow}
    (hrow : row ∈ s.rows) : s.nextDueAt now ≠ none := by
  intro h
  rcases nextDueAt_eq_none h with h | h
  · rw [hopen] at h
    cases h
  · exact h row hrow

/-- After a tick that decided nothing the next instant lies ahead. -/
lemma nextDueAt_after (h : (s.clamped t).due t = []) (hd : (s.clamped t).nextDueAt t = some d) :
    t < d := by
  have hday : t < t + MAX_FUTURE_MS := by simp [MAX_FUTURE_MS]
  unfold nextDueAt at hd
  dsimp only at hd
  split at hd
  · rename_i o ho
    obtain rfl := Option.some.inj hd
    obtain ⟨old, _, hlate, rfl⟩ := clamped_outstanding.mp ho
    exact lt_min (lt_min hlate hday) hday
  · rename_i ho
    split at hd
    · rename_i hretry
      obtain ⟨at_, hat, rfl⟩ := Option.map_eq_some_iff.mp hd
      rw [hat] at hretry
      exact lt_min (by simpa using hretry) hday
    · rename_i hretry
      split at hd
      · cases hd
      · rename_i hopen
        have hblocked : blocked t (s.clamped t).document =
            (s.clamped t).document.debounce_at.any (· > t) := by
          unfold WakeDocument.cohortOpen at hopen
          simp only [blocked, ho, hretry, hopen, Option.isSome_none, Bool.or_self, Bool.false_or]
        have hearliest : ∀ {e}, (s.clamped t).earliest t = some e →
            blocked t (s.clamped t).document = false → t < e := by
          intro e he hfree
          obtain ⟨⟨row, hrow, rfl⟩, _⟩ := earliest_eq_some he
          unfold due at h
          rw [if_neg (by simp [hfree]), filter_eq_nil_iff] at h
          have hnot := h row (mem_sorted.mpr hrow)
          exact lt_min (by simpa using hnot) hday
        split at hd
        · rename_i debounce hdebounce
          obtain ⟨e, he, rfl⟩ := Option.map_eq_some_iff.mp hd
          by_cases hwait : t < debounce
          · exact (lt_min hwait hday).trans_le (le_max_right _ _)
          · have hfree : blocked t (s.clamped t).document = false := by
              rw [hblocked, hdebounce]
              simpa using hwait
            exact (hearliest he hfree).trans_le (le_max_left _ _)
        · rename_i hdebounce
          exact hearliest hd (by rw [hblocked, hdebounce]; rfl)

/-- Past everything that holds it back, a tick wakes the host. -/
lemma tick_wakes (hopen : s.document.cohortOpen = false)
    (ho : ∀ o, s.document.outstanding = some o → o.deadline ≤ t)
    (hretry : ∀ at_, s.document.refusals.retry_at = some at_ → at_ ≤ t)
    (hdebounce : ∀ at_, s.document.debounce_at = some at_ → at_ ≤ t) {row : WakeRow}
    (hrow : row ∈ s.rows) (hnext : row.next_at ≤ t) (batch : Uuid) :
    ∃ wake, (s.tick t batch).1 = some wake := by
  obtain ⟨hretry', hcohort, hdebounce'⟩ := clamped_fields (s := s) (t := t)
  have hnone : (s.clamped t).document.outstanding = none := by
    cases hc : (s.clamped t).document.outstanding with
    | none => rfl
    | some o =>
      obtain ⟨old, hold, hlate, _⟩ := clamped_outstanding.mp hc
      exact absurd (ho old hold) (not_le.mpr hlate)
  have hfree : blocked t (s.clamped t).document = false := by
    unfold WakeDocument.cohortOpen at hopen
    unfold blocked
    rw [hnone, hretry', hcohort, hopen, hdebounce']
    have hpast : ∀ at_? : Option ℕ, (∀ at_, at_? = some at_ → at_ ≤ t) →
        (at_?.map (fun at_ => min at_ (t + MAX_FUTURE_MS))).any (· > t) = false := by
      intro at_? hat
      cases at_? with
      | none => rfl
      | some at_ =>
        have hle := hat at_ rfl
        simp only [Option.map_some, Option.any_some, decide_eq_false_iff_not]
        omega
    rw [hpast _ hretry, hpast _ hdebounce]
    rfl
  have hdue : (s.clamped t).due t ≠ [] := by
    unfold due
    rw [if_neg (by simp [hfree])]
    refine ne_nil_of_mem (mem_filter.mpr ⟨mem_sorted.mpr (mem_clamped_rows.mpr ⟨row, hrow, rfl⟩), ?_⟩)
    simp only [decide_eq_true_eq]
    omega
  unfold tick
  dsimp only
  rw [if_neg hdue]
  exact ⟨_, rfl⟩

end WakeState

/-! ### What ticks and acks leave alone -/

namespace WakeState

variable {s : WakeState} {now : ℕ}

/-- No statement of a tick or an ack inserts a row or touches the cohort. -/
structure Derived (s s' : WakeState) : Prop where
  cohort : s'.document.cohort = s.document.cohort
  rows : ∀ row ∈ s'.rows, ∃ old ∈ s.rows, old.entry_id = row.entry_id

lemma Derived.refl (s : WakeState) : Derived s s := ⟨rfl, fun row hrow => ⟨row, hrow, rfl⟩⟩

lemma derived_clamped (now : ℕ) (s : WakeState) : Derived s (s.clamped now) where
  cohort := clamped_fields.2.1
  rows := by
    intro row hrow
    obtain ⟨old, hold, rfl⟩ := mem_clamped_rows.mp hrow
    exact ⟨old, hold, rfl⟩

lemma derived_emitted (now : ℕ) (batch : Uuid) (s : WakeState) : Derived s (s.emitted now batch) where
  cohort := rfl
  rows := by
    intro row hrow
    simp only [emitted, emittedRows, Table.mem_update] at hrow
    obtain ⟨old, hold, rfl⟩ := hrow
    refine ⟨old, hold, ?_⟩
    split <;> rfl

lemma derived_tick (now : ℕ) (batch : Uuid) (s : WakeState) : Derived s (s.tick now batch).2 := by
  have hclamped := derived_clamped now s
  unfold tick
  dsimp only
  split
  · exact hclamped
  · have hemitted := derived_emitted now batch (s.clamped now)
    refine ⟨hemitted.cohort.trans hclamped.cohort, fun row hrow => ?_⟩
    obtain ⟨mid, hmid, hid⟩ := hemitted.rows row hrow
    obtain ⟨old, hold, hid'⟩ := hclamped.rows mid hmid
    exact ⟨old, hold, hid'.trans hid⟩

lemma derived_ack (now : ℕ) (wake_id : Uuid) (accepted : Bool) (s : WakeState) :
    Derived s (s.ack now wake_id accepted).2 := by
  have hsame : ∀ doc : WakeDocument, doc.cohort = s.document.cohort →
      Derived s { s with document := doc } := fun doc hdoc => ⟨hdoc, (Derived.refl s).rows⟩
  unfold ack
  split
  · exact .refl s
  · split
    · exact hsame _ rfl
    · split
      · exact .refl s
      · split
        · exact hsame _ rfl
        · refine ⟨rfl, fun row hrow => ?_⟩
          simp only [refusedRows, Table.mem_update] at hrow
          obtain ⟨old, hold, rfl⟩ := hrow
          refine ⟨old, hold, ?_⟩
          split <;> rfl

end WakeState

/-! ### The timer and the scheduler -/

section Timer

variable [Platform] {binding : RepresentativeBinding} {db : Db} {s : WakeState}

lemma Holds.step (h : Holds binding db s) (l : Uuid × EngineCall) :
    Holds binding (engineStep binding db l) (s.call binding l.2).2 ∧
      (engineCall binding db l.1 l.2).1 = (s.call binding l.2).1 := by
  obtain ⟨db', heq, hholds⟩ := h.call l.1 l.2
  unfold engineStep
  rw [heq]
  exact ⟨hholds, rfl⟩

lemma Holds.wakes_iff (h : Holds binding db s) {l : Uuid × EngineCall} :
    Wakes binding db l ↔
      ∃ now batch wake, l.2 = .tick now batch ∧ (s.tick now batch).1 = some wake := by
  unfold Wakes
  rw [(h.step l).2]
  unfold WakeState.call
  constructor
  · rintro ⟨wake, hwake⟩
    split at hwake
    · rename_i now batch heq
      exact ⟨now, batch, wake, heq, by simpa using hwake⟩
    · split at hwake
      · cases hwake
      · cases hwake
    · rename_i now epoch entries more _
      cases hm : (s.merge binding now epoch entries more).1 with
      | error e => simp [hm, EngineOutcome.of] at hwake
      | ok inserted => simp [hm, EngineOutcome.of] at hwake
    · cases hc : s.captureStart with
      | error e => simp [hc, EngineOutcome.of] at hwake
      | ok start => simp [hc, EngineOutcome.of] at hwake
    · cases hwake
  · rintro ⟨now, batch, wake, heq, hwake⟩
    rw [heq]
    exact ⟨wake, by simp [hwake]⟩

/-- An open cohort, or no reply to wake for. -/
def WakeState.Quiet (s : WakeState) : Prop :=
  s.document.cohortOpen = true ∨ ∀ row, row ∉ s.rows

omit [Platform] in
lemma WakeState.Derived.quiet {s' : WakeState} (h : WakeState.Derived s s') (hq : s.Quiet) :
    s'.Quiet := by
  rcases hq with hopen | hnone
  · left
    unfold WakeDocument.cohortOpen at hopen ⊢
    rwa [h.cohort]
  · right
    intro row hrow
    obtain ⟨old, hold, _⟩ := h.rows row hrow
    exact hnone old hold

/-- Only a merge ends the quiet. -/
lemma quiet_call {c : EngineCall} (hc : c.isMerge = false) (h : s.Quiet) :
    (s.call binding c).2.Quiet := by
  cases c with
  | tick now batch => exact (WakeState.derived_tick now batch s).quiet h
  | ack now line =>
    unfold WakeState.call
    dsimp only
    split
    · exact h
    · exact (WakeState.derived_ack now _ _ s).quiet h
  | merge now epoch entries more => cases hc
  | captureStart => exact h
  | capturePersist epoch count =>
    show (s.capturePersist epoch count).2.Quiet
    unfold WakeState.capturePersist
    split
    · exact h
    · split
      · exact h
      · rename_i hopen
        exact Or.inr (h.resolve_left hopen)

omit [Platform] in
/-- Quiet holds every instant. -/
lemma WakeState.Quiet.held (h : s.Quiet) (d : ℕ) : WakeState.HeldUntil d s := by
  rcases h with hopen | hnone
  · exact Or.inr (Or.inr (Or.inl hopen))
  · exact Or.inr (Or.inr (Or.inr (Or.inr (fun row hrow => absurd hrow (hnone row)))))

lemma quiet_not_wakes (h : Holds binding db s) (hq : s.Quiet) (l : Uuid × EngineCall) :
    ¬ Wakes binding db l := by
  rw [h.wakes_iff]
  rintro ⟨now, batch, wake, _, hwake⟩
  have hday : now + 1 ≤ now + MAX_FUTURE_MS := by simp [MAX_FUTURE_MS]
  rw [(WakeState.tick_of_held (hq.held (now + 1)) (Nat.lt_succ_self now) hday batch).1] at hwake
  cases hwake

/-- Without a merge a quiet state wakes nobody. -/
lemma quiet_run (h : Holds binding db s) (hq : s.Quiet) {ls : List (Uuid × EngineCall)}
    (hls : ∀ l ∈ ls, l.2.isMerge = false) :
    Meets (engineStep binding) (fun db l => ¬ Wakes binding db l) db ls := by
  induction ls generalizing db s with
  | nil => trivial
  | cons l ls ih =>
    refine ⟨quiet_not_wakes h hq l, ih (h.step l).1 (quiet_call (hls l mem_cons_self) hq) ?_⟩
    exact fun l hl => hls l (mem_cons_of_mem _ hl)

/-- Ticks before the instant the state is held until wake nobody. -/
lemma held_run {d : ℕ} (h : Holds binding db s) (hd : WakeState.HeldUntil d s)
    {ls : List (Uuid × EngineCall)}
    (hls : ∀ l ∈ ls, ∃ t batch, l.2 = .tick t batch ∧ t < d ∧ d ≤ t + MAX_FUTURE_MS) :
    Meets (engineStep binding) (fun db l => ¬ Wakes binding db l) db ls := by
  induction ls generalizing db s with
  | nil => trivial
  | cons l ls ih =>
    obtain ⟨t, batch, hl, ht, hday⟩ := hls l mem_cons_self
    obtain ⟨hnone, hheld⟩ := WakeState.tick_of_held hd ht hday batch
    refine ⟨?_, ih (h.step l).1 ?_ (fun l hl => hls l (mem_cons_of_mem _ hl))⟩
    · show ¬ Wakes binding db l
      rw [h.wakes_iff, hl]
      rintro ⟨now, batch', wake, heq, hwake⟩
      cases heq
      rw [hnone] at hwake
      cases hwake
    · rw [hl]
      exact hheld

/-- The timer and the scheduler agree. On a valid wake state: with no next instant, nothing but
a merge leads to a wake; with one, no tick before it wakes; after a tick that woke nobody the
next instant lies ahead; and with the cohort closed and a reply stored there is a next instant,
and a tick past the deadline, the retry, the debounce and some reply's instant wakes. -/
theorem timer_agrees_with_scheduler
    (hg : requireCurrentGeneration db binding = .ok (bindingFingerprint binding))
    (hv : wakeProblems db (bindingFingerprint binding) = []) (now : ℕ) :
    ∃ doc due, loadDocument db (bindingFingerprint binding) = .ok doc ∧
      (∀ fresh, transact db (engineTransaction binding fresh (nextDueAt now)) = (.ok due, db)) ∧
      (due = none → ∀ ls : List (Uuid × EngineCall), (∀ l ∈ ls, l.2.isMerge = false) →
        Meets (engineStep binding) (fun db l => ¬ Wakes binding db l) db ls) ∧
      (∀ d, due = some d → ∀ ls : List (Uuid × EngineCall),
        (∀ l ∈ ls, ∃ t batch, l.2 = .tick t batch ∧ now ≤ t ∧ t < d) →
        Meets (engineStep binding) (fun db l => ¬ Wakes binding db l) db ls) ∧
      (∀ t fresh fresh' batch, ¬ Wakes binding db (fresh, .tick t batch) → ∃ due',
        (transact (engineStep binding db (fresh, .tick t batch))
          (engineTransaction binding fresh' (nextDueAt t))).1 = .ok due' ∧
        ∀ d, due' = some d → t < d) ∧
      (doc.cohortOpen = false → (∃ row, row ∈ db.wake_replies (bindingFingerprint binding)) →
        due ≠ none ∧ ∀ t fresh batch,
          (∀ o, doc.outstanding = some o → o.deadline ≤ t) →
          (∀ at_, doc.refusals.retry_at = some at_ → at_ ≤ t) →
          (∀ at_, doc.debounce_at = some at_ → at_ ≤ t) →
          (∃ row ∈ db.wake_replies (bindingFingerprint binding), row.next_at ≤ t) →
          Wakes binding db (fresh, .tick t batch)) := by
  obtain ⟨s, h⟩ := exists_holds hg hv
  refine ⟨s.document, s.nextDueAt now, h.document, fun fresh => h.nextDueAt fresh now,
    ?_, ?_, ?_, ?_⟩
  · intro hnone ls hls
    exact quiet_run h (WakeState.nextDueAt_eq_none hnone) hls
  · intro d hd ls hls
    obtain ⟨hheld, hday⟩ := WakeState.nextDueAt_eq_some hd
    refine held_run h hheld (fun l hl => ?_)
    obtain ⟨t, batch, heq, hnow, ht⟩ := hls l hl
    exact ⟨t, batch, heq, ht, hday.trans (by omega)⟩
  · intro t fresh fresh' batch hnot
    have hnone : (s.tick t batch).1 = none := by
      cases hwake : (s.tick t batch).1 with
      | none => rfl
      | some wake => exact absurd (h.wakes_iff.mpr ⟨t, batch, wake, rfl, hwake⟩) hnot
    obtain ⟨hdue, hstate⟩ := WakeState.tick_eq_none hnone
    have hafter : Holds binding (engineStep binding db (fresh, .tick t batch)) (s.clamped t) :=
      hstate ▸ (h.step (fresh, .tick t batch)).1
    refine ⟨(s.clamped t).nextDueAt t, by rw [hafter.nextDueAt], fun d hd => ?_⟩
    exact WakeState.nextDueAt_after hdue hd
  · rintro hopen ⟨row, hrow⟩
    rw [h.rows] at hrow ⊢
    refine ⟨WakeState.nextDueAt_ne_none hopen hrow, ?_⟩
    rintro t fresh batch ho hretry hdebounce ⟨row', hrow', hnext⟩
    obtain ⟨wake, hwake⟩ := WakeState.tick_wakes hopen ho hretry hdebounce hrow' hnext batch
    exact h.wakes_iff.mpr ⟨t, batch, wake, rfl, hwake⟩

end Timer

section

attribute [local instance] plainPlatform

/-- The bound worktree with one reply found, due at 3, and no wake document yet. -/
def foundDb : Db :=
  { boundDb ⟨[], nodup_nil⟩ with
    wake_replies := fun _ => ⟨[⟨"20000000-0000-4000-8000-000000000001", "2026-01-02T00:00:00.000Z",
      0, 3, true⟩], nodup_singleton _⟩ }

lemma foundCurrent : requireCurrentGeneration foundDb boundBinding =
    .ok (bindingFingerprint boundBinding) := by
  decide +kernel

/-- A tick at 5 wakes the host for it. -/
theorem timer_agrees_with_scheduler_found :
    Wakes boundBinding foundDb ("fresh", .tick 5 "batch") := by
  obtain ⟨doc, due, hdoc, _, _, _, _, hwakes⟩ :=
    timer_agrees_with_scheduler foundCurrent (by decide +kernel) 0
  obtain rfl : emptyDocument = doc := Except.ok.inj hdoc
  have hrow : ∃ row ∈ foundDb.wake_replies (bindingFingerprint boundBinding), row.next_at ≤ 5 :=
    ⟨_, mem_singleton.mpr rfl, by decide⟩
  refine (hwakes rfl ⟨_, hrow.choose_spec.1⟩).2 5 "fresh" "batch" ?_ ?_ ?_ hrow
  · intro o ho
    cases ho
  · intro at_ hat
    cases hat
  · intro at_ hat
    cases hat

end

/-! ### An ignored ack -/

namespace EngineCall

/-- When the call is made, where it looks at the clock. -/
def instant : EngineCall → Option ℕ
  | .tick now _ => some now
  | .ack now _ => some now
  | .merge now .. => some now
  | _ => none

/-- A tick, or an ack line that is one, leaves no batch past its deadline. -/
def expires [Platform] : EngineCall → Bool
  | .tick .. => true
  | .ack _ line => (parseAck line).isSome
  | _ => false

end EngineCall

namespace WakeState

variable {s s' : WakeState} {t now : ℕ}

/-- The same state, but for a batch whose deadline was over at `t`: cleared in `s`. -/
def Cleared (t : ℕ) (s s' : WakeState) : Prop :=
  ∃ o, s'.document.outstanding = some o ∧ o.deadline ≤ t ∧
    s = { s' with document := { s'.document with outstanding := none } }

lemma cleared_clamped (h : Cleared t s s') (hnow : t ≤ now) : s.clamped now = s'.clamped now := by
  obtain ⟨o, ho, hlate, rfl⟩ := h
  have hlate' : min o.deadline (now + MAX_FUTURE_MS) ≤ now := by omega
  unfold clamped expireOutstanding clampDocument
  simp [ho, hlate.trans hnow]

lemma cleared_tick (h : Cleared t s s') (hnow : t ≤ now) (batch : Uuid) :
    s.tick now batch = s'.tick now batch := by
  unfold tick
  rw [cleared_clamped h hnow]

lemma cleared_ack (h : Cleared t s s') (hnow : t ≤ now) (wake_id : Uuid) (accepted : Bool) :
    s.ack now wake_id accepted = s'.ack now wake_id accepted := by
  obtain ⟨o, ho, hlate, rfl⟩ := h
  unfold ack
  simp only [ho, if_pos (hlate.trans hnow)]

/-- A page's document does not look at the batch. -/
lemma mergedDocument_outstanding (doc : WakeDocument) (o : Option Outstanding) (now scanned inserted : ℕ)
    (tail : Option LocalServerCursor) (more anyRow : Bool) :
    mergedDocument { doc with outstanding := o } now scanned inserted tail more anyRow =
      { mergedDocument doc now scanned inserted tail more anyRow with outstanding := o } ∧
    (mergedDocument doc now scanned inserted tail more anyRow).outstanding = doc.outstanding := by
  unfold mergedDocument
  dsimp only
  split
  · exact ⟨rfl, rfl⟩
  · split <;> exact ⟨rfl, rfl⟩

lemma cleared_merge (h : Cleared t s s') (binding : RepresentativeBinding) (now : ℕ)
    (epoch : Option Uuid) (entries : List LogEntry) (more : Bool) :
    (s.merge binding now epoch entries more).1 = (s'.merge binding now epoch entries more).1 ∧
      Cleared t (s.merge binding now epoch entries more).2
        (s'.merge binding now epoch entries more).2 := by
  have hstay := h
  obtain ⟨o, ho, hlate, rfl⟩ := h
  unfold merge
  dsimp only
  split
  · exact ⟨rfl, hstay⟩
  · split
    · exact ⟨rfl, hstay⟩
    · split
      · exact ⟨rfl, hstay⟩
      · rename_i floor _
        obtain ⟨hdoc, hout⟩ := mergedDocument_outstanding s'.document none now entries.length
          (s'.inserted binding floor now entries) (entries.getLast?.map (·.point)) more
          ((mergedRows binding floor now entries s'.rows).rows.length > 0)
        have hout' := (mergedDocument_outstanding s'.document none now entries.length
          (s'.inserted binding floor now entries) (entries.getLast?.map (·.point)) more
          ((mergedRows binding floor now entries s'.rows).rows.length > 0)).2
        refine ⟨rfl, o, hout'.trans ho, hlate, ?_⟩
        unfold merged
        dsimp only
        rw [← hdoc]
        rfl

lemma cleared_capturePersist (h : Cleared t s s') (epoch : Option Uuid) (count : ℕ) :
    (s.capturePersist epoch count).1 = (s'.capturePersist epoch count).1 ∧
      Cleared t (s.capturePersist epoch count).2 (s'.capturePersist epoch count).2 := by
  have hstay := h
  obtain ⟨o, ho, hlate, rfl⟩ := h
  have hsame : ({ s'.document with outstanding := none } : WakeDocument).cohortOpen =
      s'.document.cohortOpen := rfl
  unfold capturePersist
  dsimp only
  split
  · exact ⟨rfl, hstay⟩
  · rw [hsame]
    split
    · exact ⟨rfl, hstay⟩
    · exact ⟨rfl, o, ho, hlate, rfl⟩

/-- An ignored ack changes nothing, or clears a batch whose deadline is over. -/
lemma ack_ignored {wake_id : Uuid} {accepted : Bool}
    (h : (s.ack t wake_id accepted).1 = .ignored) :
    (s.ack t wake_id accepted).2 = s ∨ Cleared t (s.ack t wake_id accepted).2 s := by
  unfold ack at h ⊢
  split
  · exact Or.inl rfl
  · rename_i o ho
    simp only [ho] at h
    by_cases hlate : o.deadline ≤ t
    · rw [if_pos hlate]
      exact Or.inr ⟨o, ho, hlate, rfl⟩
    · rw [if_neg hlate] at h ⊢
      by_cases hbatch : o.batch ≠ wake_id
      · rw [if_pos hbatch]
        exact Or.inl rfl
      · rw [if_neg hbatch] at h
        cases accepted <;> cases h

/-- A call at `t` or later answers the same on both states; both stay as they are to each other,
and are equal after a call that expires. -/
lemma cleared_call [Platform] {binding : RepresentativeBinding} {c : EngineCall} (h : Cleared t s s')
    (hc : ∀ now, c.instant = some now → t ≤ now) :
    (s.call binding c).1 = (s'.call binding c).1 ∧
      ((s.call binding c).2 = (s'.call binding c).2 ∨
        c.expires = false ∧ Cleared t (s.call binding c).2 (s'.call binding c).2) := by
  cases c with
  | tick now batch =>
    have heq : s.call binding (.tick now batch) = s'.call binding (.tick now batch) := by
      unfold call
      dsimp only
      rw [cleared_tick h (hc now rfl) batch]
    exact ⟨congrArg Prod.fst heq, Or.inl (congrArg Prod.snd heq)⟩
  | ack now line =>
    unfold call EngineCall.expires
    dsimp only
    cases parseAck line with
    | none => exact ⟨rfl, Or.inr ⟨rfl, h⟩⟩
    | some parsed =>
      dsimp only
      rw [cleared_ack h (hc now rfl) parsed.1 parsed.2]
      exact ⟨rfl, Or.inl rfl⟩
  | merge now epoch entries more =>
    obtain ⟨hout, hstate⟩ := cleared_merge h binding now epoch entries more
    exact ⟨congrArg (EngineOutcome.of .merged) hout, Or.inr ⟨rfl, hstate⟩⟩
  | captureStart =>
    refine ⟨?_, Or.inr ⟨rfl, h⟩⟩
    obtain ⟨o, ho, hlate, rfl⟩ := h
    rfl
  | capturePersist epoch count =>
    obtain ⟨hout, hstate⟩ := cleared_capturePersist h epoch count
    exact ⟨congrArg EngineOutcome.captured hout, Or.inr ⟨rfl, hstate⟩⟩

end WakeState

section Ack

variable [Platform] {binding : RepresentativeBinding} {db db' : Db} {s s' : WakeState} {t : ℕ}

/-- What the calls of a run answer. -/
def outcomes (binding : RepresentativeBinding) : Db → List (Uuid × EngineCall) → List EngineOutcome
  | _, [] => []
  | db, l :: ls =>
    (engineCall binding db l.1 l.2).1 :: outcomes binding (engineStep binding db l) ls

/-- Equal wake states answer a run alike, and stay equal. -/
lemma equal_run (h : Holds binding db s) (h' : Holds binding db' s) (ls : List (Uuid × EngineCall)) :
    outcomes binding db ls = outcomes binding db' ls ∧ ∃ s₁,
      Holds binding (run (engineStep binding) db ls) s₁ ∧
      Holds binding (run (engineStep binding) db' ls) s₁ := by
  induction ls generalizing db db' s with
  | nil => exact ⟨rfl, s, h, h'⟩
  | cons l ls ih =>
    obtain ⟨hstep, hout⟩ := h.step l
    obtain ⟨hstep', hout'⟩ := h'.step l
    obtain ⟨hrest, hstates⟩ := ih hstep hstep'
    exact ⟨by simp only [outcomes, hout, hout', hrest], hstates⟩

/-- The run from the cleared state answers as the other one, and ends in the same state, or in
the same but for the batch when no call of the run expires. -/
lemma cleared_run (h : Holds binding db s) (h' : Holds binding db' s')
    (hc : WakeState.Cleared t s s') {ls : List (Uuid × EngineCall)}
    (hls : ∀ l ∈ ls, ∀ now, l.2.instant = some now → t ≤ now) :
    outcomes binding db ls = outcomes binding db' ls ∧ ∃ s₁ s₁',
      Holds binding (run (engineStep binding) db ls) s₁ ∧
      Holds binding (run (engineStep binding) db' ls) s₁' ∧
      (s₁ = s₁' ∨ (∀ l ∈ ls, l.2.expires = false) ∧ WakeState.Cleared t s₁ s₁') := by
  induction ls generalizing db db' s s' with
  | nil => exact ⟨rfl, s, s', h, h', Or.inr ⟨fun l hl => absurd hl not_mem_nil, hc⟩⟩
  | cons l ls ih =>
    obtain ⟨hstep, hout⟩ := h.step l
    obtain ⟨hstep', hout'⟩ := h'.step l
    obtain ⟨hsame, hstate⟩ :=
      WakeState.cleared_call hc (hls l mem_cons_self)
    have hlater := fun l hl => hls l (mem_cons_of_mem _ hl)
    rcases hstate with heq | ⟨hexp, hcleared⟩
    · obtain ⟨hrest, s₁, h₁, h₁'⟩ := equal_run (heq ▸ hstep) hstep' ls
      exact ⟨by simp only [outcomes, hout, hout', hsame, hrest], s₁, s₁, h₁, h₁', Or.inl rfl⟩
    · obtain ⟨hrest, s₁, s₁', h₁, h₁', hend⟩ := ih hstep hstep' hcleared hlater
      refine ⟨by simp only [outcomes, hout, hout', hsame, hrest], s₁, s₁', h₁, h₁', ?_⟩
      refine hend.imp_right (fun hend => ⟨fun x hx => ?_, hend.2⟩)
      rcases mem_cons.mp hx with rfl | hx
      · exact hexp
      · exact hend.1 x hx

/-- An ack that answers `ignored` either leaves the database as it is, or finds the current
generation's wake state and clears a batch whose deadline is over. -/
lemma ignored_cases (hv : wakeProblems db (bindingFingerprint binding) = []) {line : AckLine}
    {fresh : Uuid} (h : (engineCall binding db fresh (.ack t line)).1 = .ack .ignored) :
    engineStep binding db (fresh, .ack t line) = db ∨ ∃ s s', Holds binding db s' ∧
      Holds binding (engineStep binding db (fresh, .ack t line)) s ∧
      (s = s' ∨ WakeState.Cleared t s s') := by
  cases hg : requireCurrentGeneration db binding with
  | error e =>
    left
    unfold engineStep engineCall
    dsimp only
    split
    · rfl
    · simp [transact, engineTransaction, hg]
  | ok generation =>
    obtain rfl := (requireCurrentGeneration_eq_ok.mp hg).1
    obtain ⟨s, hs⟩ := exists_holds hg hv
    obtain ⟨hstep, hout⟩ := hs.step (fresh, .ack t line)
    refine Or.inr ⟨_, s, hs, hstep, ?_⟩
    rw [hout] at h
    unfold WakeState.call at h ⊢
    dsimp only at h ⊢
    cases hparse : parseAck line with
    | none => exact Or.inl rfl
    | some parsed =>
      rw [hparse] at h
      exact WakeState.ack_ignored (by simpa using h)

/-- An ignored ack is unobservable: on a valid wake state, every continuation from its instant
on wakes and answers as it does without the line, and ends with the same rows and the same
document, but for the batch whose deadline was already over while no tick and no ack line has
looked at it. -/
theorem ignored_ack_unobservable (hv : wakeProblems db (bindingFingerprint binding) = [])
    {line : AckLine} {fresh : Uuid}
    (hign : (engineCall binding db fresh (.ack t line)).1 = .ack .ignored)
    (ls : List (Uuid × EngineCall)) (hls : ∀ l ∈ ls, ∀ now, l.2.instant = some now → t ≤ now) :
    outcomes binding (engineStep binding db (fresh, .ack t line)) ls = outcomes binding db ls ∧
    (run (engineStep binding) (engineStep binding db (fresh, .ack t line)) ls).wake_replies
        (bindingFingerprint binding) =
      (run (engineStep binding) db ls).wake_replies (bindingFingerprint binding) ∧
    (loadDocument (run (engineStep binding) (engineStep binding db (fresh, .ack t line)) ls)
        (bindingFingerprint binding) =
      loadDocument (run (engineStep binding) db ls) (bindingFingerprint binding) ∨
    (∀ l ∈ ls, l.2.expires = false) ∧ ∃ doc o,
      loadDocument (run (engineStep binding) db ls) (bindingFingerprint binding) = .ok doc ∧
      doc.outstanding = some o ∧ o.deadline ≤ t ∧
      loadDocument (run (engineStep binding) (engineStep binding db (fresh, .ack t line)) ls)
        (bindingFingerprint binding) = .ok { doc with outstanding := none }) := by
  rcases ignored_cases hv hign with hsame | ⟨s, s', hs', hs, rfl | hcleared⟩
  · rw [hsame]
    exact ⟨rfl, rfl, Or.inl rfl⟩
  · obtain ⟨hout, s₁, h₁, h₁'⟩ := equal_run hs hs' ls
    exact ⟨hout, h₁.rows.trans h₁'.rows.symm, Or.inl (h₁.document.trans h₁'.document.symm)⟩
  · obtain ⟨hout, s₁, s₁', h₁, h₁', hend⟩ := cleared_run hs hs' hcleared hls
    rcases hend with rfl | ⟨hexp, o, ho, hlate, rfl⟩
    · exact ⟨hout, h₁.rows.trans h₁'.rows.symm, Or.inl (h₁.document.trans h₁'.document.symm)⟩
    · exact ⟨hout, h₁.rows.trans h₁'.rows.symm,
        Or.inr ⟨hexp, _, o, h₁'.document, ho, hlate, h₁.document⟩⟩

end Ack

section

attribute [local instance] plainPlatform

/-- An accepting line for the batch `wake_id`. -/
def acceptLine (wake_id : Uuid) : AckLine :=
  ⟨70, some [("wake_id", .text wake_id), ("accepted", .boolean true)]⟩

/-- The bound worktree with a batch outstanding until 5. -/
def outstandingDb : Db :=
  { boundDb ⟨[], nodup_nil⟩ with
    wake_state := fun _ => some (.document { emptyDocument with
      outstanding := some ⟨"30000000-0000-4000-8000-000000000003", [], 5, .newReply⟩ }) }

/-- The late ack of a batch is ignored, and every tick after it answers as without it. -/
theorem ignored_ack_unobservable_late :
    outcomes boundBinding (engineStep boundBinding outstandingDb
        ("fresh", .ack 9 (acceptLine "30000000-0000-4000-8000-000000000003")))
      [("fresh", .tick 9 "batch")] =
      outcomes boundBinding outstandingDb [("fresh", .tick 9 "batch")] := by
  refine (ignored_ack_unobservable (by decide +kernel) (by decide +kernel) _ ?_).1
  intro l hl now hnow
  obtain rfl := mem_singleton.mp hl
  obtain rfl := Option.some.inj hnow
  exact le_rfl

/-- The late ack is ignored and clears the batch; with no more than a merge after it the
documents of the two runs differ. -/
theorem ignored_ack_clears_batch :
    ∃ db line, wakeProblems db (bindingFingerprint boundBinding) = [] ∧
      (engineCall boundBinding db "fresh" (.ack 9 line)).1 = .ack .ignored ∧
      (loadDocument (run (engineStep boundBinding)
          (engineStep boundBinding db ("fresh", .ack 9 line))
          [("fresh", .merge 9 none [] false)]) (bindingFingerprint boundBinding)).toOption ≠
        (loadDocument (run (engineStep boundBinding) db [("fresh", .merge 9 none [] false)])
          (bindingFingerprint boundBinding)).toOption := by
  refine ⟨{ outstandingDb with delivery := ⟨[⟨bindingFingerprint boundBinding,
    seatKey boundBinding, bindingStart boundBinding, .binding, none, none⟩], nodup_singleton _⟩ },
    acceptLine "30000000-0000-4000-8000-000000000003", ?_, ?_, ?_⟩
  · decide +kernel
  · decide +kernel
  · decide +kernel

end

end BorgClient.Representative
