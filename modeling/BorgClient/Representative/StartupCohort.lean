import BorgClient.Representative.SchedulerLaws

/-!
# The startup cohort

Over any run of engine calls and restarts, with wake state damaged and discarded in between: an
open cohort holds every wake back, closes within one page of its captured size, and leads to at
most one startup batch.
-/

namespace BorgClient.Representative
open Platform List Tables Runs

inductive CohortStep
  | call (fresh : Uuid) (c : EngineCall)
  /-- The stored document becomes one `parseDocument` refuses. -/
  | damageDocument
  /-- The attempts or the next wake of a row become invalid. -/
  | damageRow (entry_id : Uuid)

def damageRows (entry_id : Uuid) (rows : Table WakeRow.entry_id) : Table WakeRow.entry_id :=
  rows.update (fun row => if row.entry_id = entry_id then { row with wellFormed := false } else row)
    (by intro row; split <;> rfl)

/-- What an open cohort of the wake state has left to scan. -/
def openCohort (db : Db) (generation : String) : Option ℕ :=
  if wakeProblems db generation = [] then
    match loadDocument db generation with
    | .ok doc => (doc.cohort.filter (·.isOpen)).map (·.remaining)
    | .error _ => none
  else none

section Steps

variable [Platform] (binding : RepresentativeBinding)

def cohortStep (db : Db) : CohortStep → Db
  | .call fresh c => engineStep binding db (fresh, c)
  | .damageDocument => { db with
      wake_state := Function.update db.wake_state (bindingFingerprint binding) (some .invalid) }
  | .damageRow entry_id => saveRows db (bindingFingerprint binding)
      (damageRows entry_id (db.wake_replies (bindingFingerprint binding)))

/-- The entries a step merges. -/
def mergedEntries (db : Db) : CohortStep → ℕ
  | .call fresh (.merge now epoch entries more) =>
    match (engineCall binding db fresh (.merge now epoch entries more)).1 with
    | .merged (some _) => entries.length
    | _ => 0
  | _ => 0

/-- The entries a run merges. -/
def mergedTotal : Db → List CohortStep → ℕ
  | _, [] => 0
  | db, l :: ls => mergedEntries binding db l + mergedTotal (cohortStep binding db l) ls

/-- The step emits a startup batch. -/
def startupWake (db : Db) : CohortStep → Bool
  | .call fresh c =>
    match (engineCall binding db fresh c).1 with
    | .wake (some wake) => wake.reason == .startup
    | _ => false
  | _ => false

/-- How many startup batches a run emits. -/
def startupWakes : Db → List CohortStep → ℕ
  | _, [] => 0
  | db, l :: ls => (startupWake binding db l).toNat + startupWakes (cohortStep binding db l) ls

/-- The cohort was open before the step and is not after it. -/
def Closes (db : Db) (l : CohortStep) : Prop :=
  openCohort db (bindingFingerprint binding) ≠ none ∧
    openCohort (cohortStep binding db l) (bindingFingerprint binding) = none

end Steps

/-- A discovery page has at most `DISCOVERY_PAGE` entries, the limit of its request. -/
def CohortStep.paged : CohortStep → Prop
  | .call _ (.merge _ _ entries _) => entries.length ≤ DISCOVERY_PAGE
  | _ => True

/-! ### One step of an open cohort -/

section Open

variable [Platform] {binding : RepresentativeBinding} {db : Db} {s : WakeState} {n : ℕ}

lemma Holds.openCohort (h : Holds binding db s) : openCohort db (bindingFingerprint binding) =
    (s.document.cohort.filter (·.isOpen)).map (·.remaining) := by
  unfold Representative.openCohort
  rw [if_pos h.problems, h.document]

omit [Platform] in
lemma cohort_filter_eq_some {cohort : Option Cohort} :
    (cohort.filter (·.isOpen)).map (·.remaining) = some n ↔ cohort = some ⟨n, true⟩ := by
  cases cohort with
  | none => simp
  | some c =>
    obtain ⟨remaining, isOpen⟩ := c
    cases isOpen <;> simp

omit [Platform] in
lemma cohort_filter_eq_none {cohort : Option Cohort} :
    (cohort.filter (·.isOpen)).map (·.remaining) = none ↔ cohort.any (·.isOpen) = false := by
  cases cohort with
  | none => simp
  | some c =>
    obtain ⟨remaining, isOpen⟩ := c
    cases isOpen <;> simp

omit [Platform] in
/-- A page either closes an open cohort or takes its entries off what is left. -/
lemma mergedDocument_cohort {doc : WakeDocument} (h : doc.cohort = some ⟨n, true⟩)
    (now scanned inserted : ℕ) (tail : Option LocalServerCursor) (more anyRow : Bool) :
    (mergedDocument doc now scanned inserted tail more anyRow).cohort.any (·.isOpen) = false ∨
      scanned < n ∧ (mergedDocument doc now scanned inserted tail more anyRow).cohort =
        some ⟨n - scanned, true⟩ := by
  unfold mergedDocument
  simp only [h, Option.map_some, if_true, Option.any_some, Bool.true_and]
  by_cases hclose : (n - scanned == 0 || !more) = true
  · rw [if_pos hclose]
    exact Or.inl rfl
  · rw [if_neg hclose]
    simp only [Bool.or_eq_true, beq_iff_eq, not_or] at hclose
    right
    refine ⟨by omega, ?_⟩
    split <;> rfl

/-- Outside the current generation a call changes nothing, wakes nobody and merges nothing. -/
lemma engineCall_refused {e : RepresentativeError}
    (hg : requireCurrentGeneration db binding = .error e) (fresh : Uuid) (c : EngineCall) :
    (engineCall binding db fresh c).2 = db ∧
      ((engineCall binding db fresh c).1 = .failed e ∨
        (engineCall binding db fresh c).1 = .ack .ignored) := by
  unfold engineCall
  split
  · simp [transact, engineTransaction, hg, EngineOutcome.of]
  · split
    · exact ⟨rfl, Or.inr rfl⟩
    · simp [transact, engineTransaction, hg, EngineOutcome.of]
  · simp [transact, engineTransaction, hg, EngineOutcome.of]
  · simp [transact, engineTransaction, hg, EngineOutcome.of]
  · simp [transact, engineTransaction, hg, EngineOutcome.of]

lemma mergedEntries_le {l : CohortStep} (hl : l.paged) : mergedEntries binding db l ≤ DISCOVERY_PAGE := by
  unfold mergedEntries
  split
  · split
    · exact hl
    · exact Nat.zero_le _
  · exact Nat.zero_le _

omit [Platform] in
/-- A merge merges its page, or changes nothing. -/
lemma WakeState.merge_cases (binding : RepresentativeBinding) (now : ℕ) (epoch : Option Uuid)
    (entries : List LogEntry) (more : Bool) (s : WakeState) :
    ((s.merge binding now epoch entries more).2 = s ∧
      ∀ inserted, (s.merge binding now epoch entries more).1 ≠ .ok (some inserted)) ∨
    ∃ floor inserted, s.merge binding now epoch entries more =
      (.ok (some inserted), s.merged binding floor now entries more) := by
  unfold merge
  cases s.delivery with
  | none => exact Or.inl ⟨rfl, by simp⟩
  | some delivery =>
    dsimp only
    split
    · exact Or.inl ⟨rfl, by simp⟩
    · cases scanStart delivery with
      | error e => exact Or.inl ⟨rfl, by simp⟩
      | ok start => exact Or.inr ⟨start.2, _, rfl⟩

/-- On a valid state a merge that counts its page merged it. -/
lemma Holds.mergedEntries_cases (h : Holds binding db s) (fresh : Uuid) (now : ℕ)
    (epoch : Option Uuid) (entries : List LogEntry) (more : Bool) :
    (mergedEntries binding db (.call fresh (.merge now epoch entries more)) = 0 ∧
      (s.merge binding now epoch entries more).2 = s) ∨
    (mergedEntries binding db (.call fresh (.merge now epoch entries more)) = entries.length ∧
      ∃ floor, (s.merge binding now epoch entries more).2 =
        s.merged binding floor now entries more) := by
  have hout := (h.step (fresh, .merge now epoch entries more)).2
  unfold WakeState.call at hout
  unfold mergedEntries
  dsimp only at hout ⊢
  rw [hout]
  rcases WakeState.merge_cases binding now epoch entries more s with ⟨hstay, hnot⟩ | ⟨floor, n, heq⟩
  · left
    refine ⟨?_, hstay⟩
    cases hm : (s.merge binding now epoch entries more).1 with
    | error e => simp [hm, EngineOutcome.of]
    | ok merged =>
      cases merged with
      | none => simp [hm, EngineOutcome.of]
      | some inserted => exact absurd hm (hnot inserted)
  · right
    rw [heq]
    exact ⟨rfl, floor, rfl⟩

lemma openCohort_eq_some (h : openCohort db (bindingFingerprint binding) = some n) :
    wakeProblems db (bindingFingerprint binding) = [] ∧
      ∀ s, Holds binding db s → s.document.cohort = some ⟨n, true⟩ := by
  have hv : wakeProblems db (bindingFingerprint binding) = [] := by
    by_contra hv
    rw [openCohort, if_neg hv] at h
    cases h
  refine ⟨hv, fun s hs => ?_⟩
  rw [hs.openCohort] at h
  exact cohort_filter_eq_some.mp h

/-- A call with an open cohort leaves it, closes it, or takes the page it merges off it. -/
lemma openCohort_call (h : openCohort db (bindingFingerprint binding) = some n) (fresh : Uuid)
    (c : EngineCall) :
    (mergedEntries binding db (.call fresh c) = 0 ∧
      openCohort (cohortStep binding db (.call fresh c)) (bindingFingerprint binding) = some n) ∨
    openCohort (cohortStep binding db (.call fresh c)) (bindingFingerprint binding) = none ∨
    (mergedEntries binding db (.call fresh c) < n ∧
      openCohort (cohortStep binding db (.call fresh c)) (bindingFingerprint binding) =
        some (n - mergedEntries binding db (.call fresh c))) := by
  obtain ⟨hv, hcohort⟩ := openCohort_eq_some h
  cases hg : requireCurrentGeneration db binding with
  | error e =>
    obtain ⟨hdb, hout⟩ := engineCall_refused hg fresh c
    left
    constructor
    · unfold mergedEntries
      split
      · rename_i hc
        cases hc
        rcases hout with hout | hout <;> rw [hout]
      · rfl
    · show openCohort (engineCall binding db fresh c).2 _ = some n
      rwa [hdb]
  | ok generation =>
    obtain rfl := (requireCurrentGeneration_eq_ok.mp hg).1
    obtain ⟨s, hs⟩ := exists_holds hg hv
    have hopen := hcohort s hs
    have hstep := (hs.step (fresh, c)).1
    have hsame : (s.call binding c).2.document.cohort = s.document.cohort →
        openCohort (cohortStep binding db (.call fresh c)) (bindingFingerprint binding) = some n := by
      intro heq
      exact hstep.openCohort.trans (cohort_filter_eq_some.mpr (heq.trans hopen))
    cases c with
    | tick now batch => exact Or.inl ⟨rfl, hsame (WakeState.derived_tick now batch s).cohort⟩
    | ack now line =>
      refine Or.inl ⟨rfl, hsame ?_⟩
      unfold WakeState.call
      dsimp only
      split
      · rfl
      · exact (WakeState.derived_ack now _ _ s).cohort
    | captureStart => exact Or.inl ⟨rfl, hsame rfl⟩
    | capturePersist epoch count =>
      refine Or.inl ⟨rfl, hsame ?_⟩
      show (s.capturePersist epoch count).2.document.cohort = s.document.cohort
      unfold WakeState.capturePersist
      split
      · rfl
      · rw [if_pos (by simp [WakeDocument.cohortOpen, hopen])]
    | merge now epoch entries more =>
      rcases hs.mergedEntries_cases fresh now epoch entries more with ⟨hzero, hstay⟩ | ⟨hall, floor, hm⟩
      · exact Or.inl ⟨hzero, hsame (congrArg (fun s => s.document.cohort) hstay)⟩
      · right
        have hafter : openCohort (cohortStep binding db (.call fresh (.merge now epoch entries more)))
            (bindingFingerprint binding) =
            ((s.merged binding floor now entries more).document.cohort.filter (·.isOpen)).map
              (·.remaining) := hm ▸ hstep.openCohort
        rw [hafter, hall]
        rcases mergedDocument_cohort hopen now entries.length (s.inserted binding floor now entries)
          (entries.getLast?.map (·.point)) more
          ((mergedRows binding floor now entries s.rows).rows.length > 0) with hclosed | ⟨hlt, hleft⟩
        · exact Or.inl (cohort_filter_eq_none.mpr hclosed)
        · exact Or.inr ⟨hlt, cohort_filter_eq_some.mpr hleft⟩

omit [Platform] in
/-- Damage to a row leaves the document; a state that is valid after it has no such row. -/
lemma openCohort_damageRow (generation : String) (entry_id : Uuid)
    (h : openCohort db generation = some n) :
    openCohort (saveRows db generation (damageRows entry_id (db.wake_replies generation))) generation =
      none ∨
    openCohort (saveRows db generation (damageRows entry_id (db.wake_replies generation))) generation =
      some n := by
  by_cases hv : wakeProblems (saveRows db generation
      (damageRows entry_id (db.wake_replies generation))) generation = []
  · right
    unfold openCohort at h ⊢
    rw [if_pos hv]
    split at h
    · exact h
    · cases h
  · left
    exact if_neg hv

lemma openCohort_step (h : openCohort db (bindingFingerprint binding) = some n) (l : CohortStep) :
    (mergedEntries binding db l = 0 ∧
      openCohort (cohortStep binding db l) (bindingFingerprint binding) = some n) ∨
    openCohort (cohortStep binding db l) (bindingFingerprint binding) = none ∨
    (mergedEntries binding db l < n ∧
      openCohort (cohortStep binding db l) (bindingFingerprint binding) =
        some (n - mergedEntries binding db l)) := by
  cases l with
  | call fresh c => exact openCohort_call h fresh c
  | damageDocument =>
    right
    left
    refine if_neg ?_
    rw [wakeProblems_eq_nil]
    simp [cohortStep]
  | damageRow entry_id =>
    rcases openCohort_damageRow (bindingFingerprint binding) entry_id h with hnone | hsome
    · exact Or.inr (Or.inl hnone)
    · exact Or.inl ⟨rfl, hsome⟩

/-- While the cohort stays open before every step, a run merges less than what was left and one
page. -/
lemma mergedTotal_lt (h : openCohort db (bindingFingerprint binding) = some n) (hn : 0 < n)
    {ls : List CohortStep} (hpages : ∀ l ∈ ls, l.paged)
    (hopen : Meets (cohortStep binding)
      (fun db _ => openCohort db (bindingFingerprint binding) ≠ none) db ls) :
    mergedTotal binding db ls < n + DISCOVERY_PAGE := by
  induction ls generalizing db n with
  | nil => exact Nat.lt_of_lt_of_le hn (Nat.le_add_right n _)
  | cons l ls ih =>
    have hle : mergedEntries binding db l ≤ DISCOVERY_PAGE := mergedEntries_le (hpages l mem_cons_self)
    have hrest := fun l hl => hpages l (mem_cons_of_mem _ hl)
    show mergedEntries binding db l + mergedTotal binding (cohortStep binding db l) ls < n + DISCOVERY_PAGE
    rcases openCohort_step h l with ⟨hzero, hsome⟩ | hnone | ⟨hlt, hsome⟩
    · have hih := ih hsome hn hrest hopen.2
      omega
    · -- closed: no step follows
      cases ls with
      | nil =>
        show mergedEntries binding db l + 0 < n + DISCOVERY_PAGE
        omega
      | cons x xs => exact absurd hnone hopen.2.1
    · have hih := ih hsome (by omega) hrest hopen.2
      omega

end Open

/-! ### The startup batch -/

/-- The wake state is valid and waits to emit its startup batch. -/
def startupPending (db : Db) (generation : String) : Bool :=
  if wakeProblems db generation = [] then
    match loadDocument db generation with
    | .ok doc => doc.startup_pending
    | .error _ => false
  else false

section Startup

variable [Platform] {binding : RepresentativeBinding} {db : Db} {s : WakeState}

lemma Holds.startupPending (h : Holds binding db s) :
    startupPending db (bindingFingerprint binding) = s.document.startup_pending := by
  unfold Representative.startupPending
  rw [if_pos h.problems, h.document]

/-- What a discard leaves: a valid state with no rows and an empty document. -/
lemma discard_holds (hg : requireCurrentGeneration db binding = .ok (bindingFingerprint binding))
    (hv : wakeProblems db (bindingFingerprint binding) ≠ []) {fresh : Uuid} {text : Option String}
    {db₁ : Db} (hd : discardInvalidWakeState db (bindingFingerprint binding) fresh = .ok (text, db₁)) :
    ∃ s, Holds binding db₁ s ∧ s.document.startup_pending = false ∧ s.document.cohort = none := by
  have hrebuilt : ∀ frontier : Option LocalServerCursor, Holds binding
      (saveDocument (saveRows db (bindingFingerprint binding)
        ((db.wake_replies (bindingFingerprint binding)).delete (fun _ => true)))
        (bindingFingerprint binding)
        { emptyDocument with frontier := frontier, scan_epoch := some fresh })
      ⟨loadDelivery db (bindingFingerprint binding),
        { emptyDocument with frontier := frontier, scan_epoch := some fresh },
        (db.wake_replies (bindingFingerprint binding)).delete (fun _ => true)⟩ := by
    intro frontier
    refine ⟨hg, rfl, ?_, ?_, ?_⟩
    · simp [loadDocument, saveDocument]
    · exact Function.update_self ..
    · intro row hrow
      exact absurd (Table.mem_delete.mp hrow).2 (by simp)
  unfold discardInvalidWakeState at hd
  dsimp only at hd
  rw [if_neg hv] at hd
  split at hd
  · cases hd
    exact ⟨_, hrebuilt none, rfl, rfl⟩
  · rename_i delivery _
    cases hs : scanStart delivery with
    | error e =>
      rw [hs] at hd
      cases hd
    | ok start =>
      rw [hs] at hd
      cases hd
      exact ⟨_, hrebuilt start.1, rfl, rfl⟩

/-- A transaction that discards runs on what the discard left, or throws and changes nothing. -/
lemma transact_discard {α : Type}
    (hg : requireCurrentGeneration db binding = .ok (bindingFingerprint binding))
    (hv : wakeProblems db (bindingFingerprint binding) ≠ []) (fresh : Uuid) (body : EngineBody α) :
    (∃ e, transact db (engineTransaction binding fresh body) = (.error e, db)) ∨
    ∃ db₁ s, Holds binding db₁ s ∧ s.document.startup_pending = false ∧ s.document.cohort = none ∧
      transact db (engineTransaction binding fresh body) =
        transact db₁ (engineTransaction binding fresh body) := by
  cases hd : discardInvalidWakeState db (bindingFingerprint binding) fresh with
  | error e =>
    left
    refine ⟨e, ?_⟩
    simp only [transact, engineTransaction, hg, hd]
  | ok out =>
    obtain ⟨s, hs, hpending, hcohort⟩ := discard_holds hg hv hd
    cases hbody : body out.2 (bindingFingerprint binding) with
    | error e =>
      left
      refine ⟨e, ?_⟩
      simp only [transact, engineTransaction, hg, hd, hbody]
    | ok result =>
      refine Or.inr ⟨out.2, s, hs, hpending, hcohort, ?_⟩
      rw [hs.commits fresh hbody]
      simp only [transact, engineTransaction, hg, hd, hbody]

/-- A call on a damaged state changes nothing and wakes nobody, or answers as on what the discard
left. -/
lemma engineCall_discard (hg : requireCurrentGeneration db binding = .ok (bindingFingerprint binding))
    (hv : wakeProblems db (bindingFingerprint binding) ≠ []) (fresh : Uuid) (c : EngineCall) :
    ((engineCall binding db fresh c).2 = db ∧
      ∀ wake, (engineCall binding db fresh c).1 ≠ .wake (some wake)) ∨
    ∃ db₁ s, Holds binding db₁ s ∧ s.document.startup_pending = false ∧ s.document.cohort = none ∧
      engineCall binding db fresh c = engineCall binding db₁ fresh c := by
  have hcase : ∀ {α : Type} (body : EngineBody α) (answer : α → EngineOutcome),
      ((Prod.map (EngineOutcome.of answer) id
          (transact db (engineTransaction binding fresh body))).2 = db ∧
        ∀ wake, (Prod.map (EngineOutcome.of answer) id
          (transact db (engineTransaction binding fresh body))).1 ≠ .wake (some wake)) ∨
      ∃ db₁ s, Holds binding db₁ s ∧ s.document.startup_pending = false ∧ s.document.cohort = none ∧
        Prod.map (EngineOutcome.of answer) id
            (transact db (engineTransaction binding fresh body)) =
          Prod.map (EngineOutcome.of answer) id
            (transact db₁ (engineTransaction binding fresh body)) := by
    intro α body answer
    rcases transact_discard hg hv fresh body with ⟨e, heq⟩ | ⟨db₁, s, hs, hp, hc, heq⟩
    · rw [heq]
      exact Or.inl ⟨rfl, by simp [EngineOutcome.of]⟩
    · exact Or.inr ⟨db₁, s, hs, hp, hc, by rw [heq]⟩
  cases c with
  | tick now batch => exact hcase _ _
  | ack now line =>
    unfold engineCall
    dsimp only
    cases parseAck line with
    | none => exact Or.inl ⟨rfl, by simp⟩
    | some parsed => exact hcase _ _
  | merge now epoch entries more => exact hcase _ _
  | captureStart => exact hcase _ _
  | capturePersist epoch count => exact hcase _ _

omit [Platform] in
/-- Only the page that closes an open cohort sets the startup batch. -/
lemma mergedDocument_pending (doc : WakeDocument) (now scanned inserted : ℕ)
    (tail : Option LocalServerCursor) (more anyRow : Bool) :
    (mergedDocument doc now scanned inserted tail more anyRow).startup_pending =
        doc.startup_pending ∨
      (doc.cohort.any (·.isOpen) = true ∧
        (mergedDocument doc now scanned inserted tail more anyRow).cohort.any (·.isOpen) = false) := by
  unfold mergedDocument
  dsimp only
  split
  · rename_i hclose
    right
    cases hc : doc.cohort with
    | none => simp [hc] at hclose
    | some c =>
      cases hopen : c.isOpen with
      | false => simp [hc, hopen] at hclose
      | true => simp [hopen]
  · left
    split <;> rfl

omit [Platform] in
lemma tick_pending (now : ℕ) (batch : Uuid) (s : WakeState) :
    ((s.tick now batch).1 = none ∧
      (s.tick now batch).2.document.startup_pending = s.document.startup_pending) ∨
    ∃ wake, (s.tick now batch).1 = some wake ∧
      (s.tick now batch).2.document.startup_pending = false ∧
      (wake.reason = .startup → s.document.startup_pending = true) := by
  have hclamped : (s.clamped now).document.startup_pending = s.document.startup_pending := by
    unfold WakeState.clamped expireOutstanding clampDocument
    dsimp only
    split <;> rfl
  unfold WakeState.tick
  dsimp only
  split
  · exact Or.inl ⟨rfl, hclamped⟩
  · right
    refine ⟨_, rfl, rfl, fun hreason => ?_⟩
    by_contra hnot
    unfold wakeReason at hreason
    rw [hclamped, if_neg hnot] at hreason
    split at hreason <;> cases hreason

omit [Platform] in
lemma ack_pending (now : ℕ) (wake_id : Uuid) (accepted : Bool) (s : WakeState) :
    (s.ack now wake_id accepted).2.document.startup_pending = s.document.startup_pending := by
  unfold WakeState.ack
  split
  · rfl
  · split
    · rfl
    · split
      · rfl
      · split <;> rfl

/-- A call on a valid state that does not close the cohort emits a startup batch only when one
is pending, and then no more is; it sets none. -/
lemma startup_call (h : Holds binding db s) (fresh : Uuid) (c : EngineCall)
    (hclose : ¬ Closes binding db (.call fresh c)) :
    (startupWake binding db (.call fresh c)).toNat +
        (startupPending (cohortStep binding db (.call fresh c)) (bindingFingerprint binding)).toNat ≤
      s.document.startup_pending.toNat := by
  obtain ⟨hstep, hout⟩ := h.step (fresh, c)
  have hafter : startupPending (cohortStep binding db (.call fresh c)) (bindingFingerprint binding) =
      (s.call binding c).2.document.startup_pending := hstep.startupPending
  rw [hafter]
  unfold startupWake
  dsimp only at hout ⊢
  rw [hout]
  cases c with
  | tick now batch =>
    unfold WakeState.call
    dsimp only
    rcases tick_pending now batch s with ⟨hnone, hsame⟩ | ⟨wake, hwake, hoff, hreason⟩
    · simp [hnone, hsame]
    · simp only [Prod.map_fst, Prod.map_snd, id_eq, hwake, hoff]
      by_cases hs : wake.reason = .startup
      · simp [hs, hreason hs]
      · have hno : (wake.reason == .startup) = false := by simpa using hs
        simp [hno]
  | ack now line =>
    unfold WakeState.call
    dsimp only
    cases parseAck line with
    | none => simp
    | some parsed => simp [ack_pending]
  | captureStart =>
    unfold WakeState.call
    cases s.captureStart with
    | error e => simp [EngineOutcome.of]
    | ok start => simp [EngineOutcome.of]
  | capturePersist epoch count =>
    have hoff : (s.capturePersist epoch count).2.document.startup_pending.toNat ≤
        s.document.startup_pending.toNat := by
      unfold WakeState.capturePersist
      split
      · exact le_rfl
      · split
        · exact le_rfl
        · exact Nat.zero_le _
    unfold WakeState.call
    simpa using hoff
  | merge now epoch entries more =>
    unfold WakeState.call
    dsimp only
    have hno : ∀ r : Except RepresentativeError (Option ℕ), (match EngineOutcome.of .merged r with
        | .wake (some wake) => wake.reason == .startup
        | _ => false) = false := by
      intro r
      cases r <;> rfl
    rw [Prod.map_fst, Prod.map_snd, hno]
    rcases WakeState.merge_cases binding now epoch entries more s with ⟨hstay, _⟩ | ⟨floor, n, hm⟩
    · simp [hstay]
    · rcases mergedDocument_pending s.document now entries.length
        (s.inserted binding floor now entries) (entries.getLast?.map (·.point)) more
        ((mergedRows binding floor now entries s.rows).rows.length > 0) with hsame | ⟨hopen, hclosed⟩
      · simp [hm, WakeState.merged, hsame]
      · exfalso
        refine hclose ⟨?_, ?_⟩
        · rw [h.openCohort, ne_eq, cohort_filter_eq_none, hopen]
          simp
        · refine hstep.openCohort.trans (cohort_filter_eq_none.mpr ?_)
          show ((s.merge binding now epoch entries more).2.document.cohort.any (·.isOpen)) = false
          rw [hm]
          exact hclosed

omit [Platform] in
/-- No damage makes a wake state valid. -/
lemma wakeProblems_damageRow {generation : String} {entry_id : Uuid}
    (h : wakeProblems (saveRows db generation
      (damageRows entry_id (db.wake_replies generation))) generation = []) :
    wakeProblems db generation = [] := by
  rw [wakeProblems_eq_nil] at h ⊢
  refine ⟨h.1, fun row hrow => ?_⟩
  have hmem : (if row.entry_id = entry_id then { row with wellFormed := false } else row) ∈
      (saveRows db generation (damageRows entry_id (db.wake_replies generation))).wake_replies
        generation := by
    simp only [saveRows, Function.update_self, damageRows, Table.mem_update]
    exact ⟨row, hrow, rfl⟩
  have hvalid := h.2 _ hmem
  split at hvalid
  · cases hvalid
  · exact hvalid

lemma startupWake_eq_false {fresh : Uuid} {c : EngineCall}
    (h : ∀ wake, (engineCall binding db fresh c).1 ≠ .wake (some wake)) :
    startupWake binding db (.call fresh c) = false := by
  unfold startupWake
  dsimp only
  split
  · rename_i wake hwake
    exact absurd hwake (h wake)
  · rfl

/-- A step that does not close the cohort emits a startup batch only when one is pending, and
then no more is; it sets none. -/
lemma startup_step (l : CohortStep) (hclose : ¬ Closes binding db l) :
    (startupWake binding db l).toNat +
        (startupPending (cohortStep binding db l) (bindingFingerprint binding)).toNat ≤
      (startupPending db (bindingFingerprint binding)).toNat := by
  cases l with
  | damageDocument =>
    have hinvalid : startupPending (cohortStep binding db .damageDocument)
        (bindingFingerprint binding) = false := by
      refine if_neg ?_
      rw [wakeProblems_eq_nil]
      simp [cohortStep]
    rw [hinvalid]
    exact Nat.zero_le _
  | damageRow entry_id =>
    show 0 + _ ≤ _
    rw [zero_add]
    by_cases hv : wakeProblems (cohortStep binding db (.damageRow entry_id))
        (bindingFingerprint binding) = []
    · have hsame : startupPending (cohortStep binding db (.damageRow entry_id))
          (bindingFingerprint binding) = startupPending db (bindingFingerprint binding) := by
        unfold startupPending
        rw [if_pos hv, if_pos (wakeProblems_damageRow hv)]
        rfl
      exact hsame ▸ le_rfl
    · rw [startupPending, if_neg hv]
      exact Nat.zero_le _
  | call fresh c =>
    have hstay : (engineCall binding db fresh c).2 = db →
        (∀ wake, (engineCall binding db fresh c).1 ≠ .wake (some wake)) →
        (startupWake binding db (.call fresh c)).toNat +
          (startupPending (cohortStep binding db (.call fresh c)) (bindingFingerprint binding)).toNat ≤
        (startupPending db (bindingFingerprint binding)).toNat := by
      intro hdb hno
      have hstep : cohortStep binding db (.call fresh c) = db := hdb
      rw [startupWake_eq_false hno, hstep]
      exact (zero_add _).le
    cases hg : requireCurrentGeneration db binding with
    | error e =>
      obtain ⟨hdb, hout⟩ := engineCall_refused hg fresh c
      refine hstay hdb (fun wake hwake => ?_)
      rcases hout with hout | hout
      · cases hout.symm.trans hwake
      · cases hout.symm.trans hwake
    | ok generation =>
      obtain rfl := (requireCurrentGeneration_eq_ok.mp hg).1
      by_cases hv : wakeProblems db (bindingFingerprint binding) = []
      · obtain ⟨s, hs⟩ := exists_holds hg hv
        rw [hs.startupPending]
        exact startup_call hs fresh c hclose
      · rcases engineCall_discard hg hv fresh c with ⟨hdb, hno⟩ | ⟨db₁, s, hs, hp, hc, heq⟩
        · exact hstay hdb hno
        · have hclose₁ : ¬ Closes binding db₁ (.call fresh c) := by
            rintro ⟨hopen, _⟩
            rw [hs.openCohort, hc] at hopen
            exact hopen rfl
          have hle := startup_call hs fresh c hclose₁
          have hwake : startupWake binding db (.call fresh c) =
              startupWake binding db₁ (.call fresh c) := by
            unfold startupWake
            dsimp only
            rw [heq]
          have hstep : cohortStep binding db (.call fresh c) =
              cohortStep binding db₁ (.call fresh c) := congrArg Prod.snd heq
          rw [hwake, hstep]
          rw [hp] at hle
          exact hle.trans (Nat.zero_le _)

/-- Without a close a run emits one startup batch if one is pending, and else none. -/
lemma startup_run {ls : List CohortStep}
    (hls : Meets (cohortStep binding) (fun db l => ¬ Closes binding db l) db ls) :
    startupWakes binding db ls ≤ (startupPending db (bindingFingerprint binding)).toNat := by
  induction ls generalizing db with
  | nil => exact Nat.zero_le _
  | cons l ls ih =>
    have hstep := startup_step l hls.1
    have hrest := ih hls.2
    show (startupWake binding db l).toNat + startupWakes binding (cohortStep binding db l) ls ≤ _
    omega

end Startup

/-! ### Main result -/

section Bounded

variable [Platform] {binding : RepresentativeBinding}

/-- A capture is the only call that opens a cohort, with the size it was given. -/
lemma openCohort_capture {db : Db} {fresh : Uuid} {epoch : Option Uuid} {count n : ℕ}
    (hnone : openCohort db (bindingFingerprint binding) = none)
    (hsome : openCohort (cohortStep binding db (.call fresh (.capturePersist epoch count)))
      (bindingFingerprint binding) = some n) : n = count ∧ 0 < n := by
  have hpure : ∀ s : WakeState, s.document.cohort.any (·.isOpen) = false →
      (s.capturePersist epoch count).2.document.cohort = some ⟨n, true⟩ → n = count ∧ 0 < n := by
    intro s hclosed hopen
    have hnot : s.document.cohort ≠ some ⟨n, true⟩ := by
      intro h
      rw [h] at hclosed
      cases hclosed
    unfold WakeState.capturePersist at hopen
    split at hopen
    · exact absurd hopen hnot
    · split at hopen
      · exact absurd hopen hnot
      · simp only [Option.some.injEq, Cohort.mk.injEq, decide_eq_true_eq] at hopen
        omega
  have hstep : ∀ db₁ s, Holds binding db₁ s → s.document.cohort.any (·.isOpen) = false →
      openCohort (cohortStep binding db₁ (.call fresh (.capturePersist epoch count)))
        (bindingFingerprint binding) = some n → n = count ∧ 0 < n := by
    intro db₁ s hs hclosed hopen
    have hafter := (hs.step (fresh, .capturePersist epoch count)).1.openCohort
    exact hpure s hclosed (cohort_filter_eq_some.mp (hafter.symm.trans hopen))
  have hstay : cohortStep binding db (.call fresh (.capturePersist epoch count)) ≠ db := by
    intro hdb
    rw [hdb, hnone] at hsome
    cases hsome
  cases hg : requireCurrentGeneration db binding with
  | error e => exact absurd (engineCall_refused hg fresh _).1 hstay
  | ok generation =>
    obtain rfl := (requireCurrentGeneration_eq_ok.mp hg).1
    by_cases hv : wakeProblems db (bindingFingerprint binding) = []
    · obtain ⟨s, hs⟩ := exists_holds hg hv
      rw [hs.openCohort] at hnone
      exact hstep db s hs (cohort_filter_eq_none.mp hnone) hsome
    · rcases engineCall_discard hg hv fresh (.capturePersist epoch count) with
        ⟨hdb, _⟩ | ⟨db₁, s, hs, _, hc, heq⟩
      · exact absurd hdb hstay
      · refine hstep db₁ s hs (by rw [hc]; rfl) ?_
        rw [← hsome]
        exact congrArg (fun r => openCohort r.2 (bindingFingerprint binding)) heq.symm

/-- An open cohort keeps every tick from a wake. -/
lemma open_not_wakes {db : Db} {n : ℕ} (h : openCohort db (bindingFingerprint binding) = some n)
    (l : Uuid × EngineCall) : ¬ Wakes binding db l := by
  obtain ⟨hv, hcohort⟩ := openCohort_eq_some h
  cases hg : requireCurrentGeneration db binding with
  | error e =>
    rintro ⟨wake, hwake⟩
    rcases (engineCall_refused hg l.1 l.2).2 with hout | hout
    · cases hout.symm.trans hwake
    · cases hout.symm.trans hwake
  | ok generation =>
    obtain rfl := (requireCurrentGeneration_eq_ok.mp hg).1
    obtain ⟨s, hs⟩ := exists_holds hg hv
    exact quiet_not_wakes hs (Or.inl (by simp [WakeDocument.cohortOpen, hcohort s hs])) l

/-- The startup cohort is bounded. While it is open no call wakes the host and no step raises
what is left of it; from the capture that opens it until it closes a run merges less than the
captured count and one page; and after a close a run emits at most one startup batch before the
next close. -/
theorem startup_cohort_bounded :
    (∀ db n, openCohort db (bindingFingerprint binding) = some n →
      (∀ l, ¬ Wakes binding db l) ∧
      ∀ l m, openCohort (cohortStep binding db l) (bindingFingerprint binding) = some m → m ≤ n) ∧
    (∀ db fresh epoch count n, openCohort db (bindingFingerprint binding) = none →
      openCohort (cohortStep binding db (.call fresh (.capturePersist epoch count)))
        (bindingFingerprint binding) = some n →
      n = count ∧ ∀ ls : List CohortStep, (∀ l ∈ ls, l.paged) →
        Meets (cohortStep binding) (fun db _ => openCohort db (bindingFingerprint binding) ≠ none)
          (cohortStep binding db (.call fresh (.capturePersist epoch count))) ls →
        mergedTotal binding (cohortStep binding db (.call fresh (.capturePersist epoch count))) ls <
          count + DISCOVERY_PAGE) ∧
    ∀ db l, Closes binding db l → ∀ ls,
      Meets (cohortStep binding) (fun db l => ¬ Closes binding db l) (cohortStep binding db l) ls →
      startupWakes binding (cohortStep binding db l) ls ≤ 1 := by
  refine ⟨fun db n h => ⟨open_not_wakes h, fun l m hm => ?_⟩, ?_, ?_⟩
  · rcases openCohort_step h l with ⟨_, hsome⟩ | hnone | ⟨_, hsome⟩
    · exact (Option.some.inj (hm.symm.trans hsome)).le
    · rw [hnone] at hm
      cases hm
    · rw [Option.some.inj (hm.symm.trans hsome)]
      exact Nat.sub_le _ _
  · intro db fresh epoch count n hnone hsome
    obtain ⟨rfl, hpos⟩ := openCohort_capture hnone hsome
    exact ⟨rfl, fun ls hpages hopen => mergedTotal_lt hsome hpos hpages hopen⟩
  · intro db l _ ls hls
    exact (startup_run hls).trans (Bool.toNat_le _)

end Bounded

end BorgClient.Representative
