import BorgClient.Representative.ReadWindowLaws
import BorgClient.Representative.SchedulerLaws

/-!
# Wake batches

What the host was told and what it answered, beside the stored wake state: every batch an EMIT
transaction committed, with the first answer that named it before its deadline. The attempts of
a reply and the refusal count are these accounts.
-/

namespace BorgClient.Representative
open Platform List Tables Runs

/-! ### The accounts -/

/-- A batch as it was persisted, and the answer it got in time. -/
structure Batch where
  stored : Outstanding
  answer : Option Bool
deriving DecidableEq, Repr

/-- Accepted or refused in time, or its absolute deadline passed. -/
def Batch.over (now : ℕ) (b : Batch) : Prop := b.answer.isSome ∨ b.stored.deadline ≤ now

instance (now : ℕ) (b : Batch) : Decidable (b.over now) := inferInstanceAs (Decidable (_ ∨ _))

/-- An ack of `wake_id` at `now` answers the batch. -/
def Batch.awaits (now : ℕ) (wake_id : Uuid) (b : Batch) : Prop :=
  b.answer = none ∧ b.stored.batch = wake_id ∧ now < b.stored.deadline

instance (now : ℕ) (wake_id : Uuid) (b : Batch) : Decidable (b.awaits now wake_id) :=
  inferInstanceAs (Decidable (_ ∧ _ ∧ _))

def Batch.contains (id : Uuid) (b : Batch) : Bool := b.stored.replies.contains id

def Batch.refused (id : Uuid) (b : Batch) : Bool := b.contains id && b.answer == some false

/-- How many batches contain the reply. -/
def batchesWith (id : Uuid) (batches : List Batch) : ℕ := batches.countP (Batch.contains id)

/-- How many of them were refused in time. -/
def refusalsWith (id : Uuid) (batches : List Batch) : ℕ := batches.countP (Batch.refused id)

/-- The refusals since the last accept; the newest answer is first. -/
def refusalsSince (answers : List Bool) : ℕ := (answers.takeWhile (fun accepted => !accepted)).length

/-- The answer of an ack that names `wake_id`. -/
def answeredBatches (now : ℕ) (wake_id : Uuid) (accepted : Bool) (batches : List Batch) :
    List Batch :=
  batches.map (fun b => if b.awaits now wake_id then { b with answer := some accepted } else b)

/-! ### The listener's world -/

/-- The store and the clock; the wake whose event the engine has still to write; the events
`emit` was called with, the batches persisted and the answers in time, the newest first. -/
structure WakeWorld where
  db : Db
  clock : ℕ
  pending : Option WakeEmission
  events : List WakeEmission
  batches : List Batch
  answers : List Bool

def WakeWorld.start (db : Db) (clock : ℕ) : WakeWorld := ⟨db, clock, none, [], [], []⟩

/-- Time passes; the engine runs a transaction, or writes the event of the wake it committed;
the host reads and delivers; the listener dies and is started again. -/
inductive WakeStep
  | pass (ms : ℕ)
  | call (fresh : Uuid) (c : EngineCall)
  | emit
  | widen (window : List LocalServerCursor)
  | deliver (point : LocalServerCursor)
  | restart (head : ServerHead)

section Steps

variable [Platform] (binding : RepresentativeBinding)

def storedOutstanding (db : Db) : Option Outstanding :=
  match loadDocument db (bindingFingerprint binding) with
  | .ok doc => doc.outstanding
  | .error _ => none

/-- The accounts after an ack line: the batches that await its answer get it. -/
def WakeWorld.heard (w : WakeWorld) (line : AckLine) : WakeWorld :=
  match parseAck line with
  | none => w
  | some (wake_id, accepted) =>
    if w.batches.any (fun b => b.awaits w.clock wake_id) then
      { w with
        batches := answeredBatches w.clock wake_id accepted w.batches
        answers := accepted :: w.answers }
    else w

/-- The accounts after a committed transaction: a wake is a new batch, as it was stored. -/
def WakeWorld.woken (w : WakeWorld) : EngineOutcome → WakeWorld
  | .wake (some wake) =>
    { w with
      pending := some wake
      batches := (storedOutstanding binding w.db).toList.map (fun o => ⟨o, none⟩) ++ w.batches }
  | _ => w

/-- The accounts of a call are those of its line before it runs. -/
def WakeWorld.called (w : WakeWorld) : EngineCall → WakeWorld
  | .ack _ line => w.heard line
  | _ => w

/-- A transaction starts when the event of the wake before it is written, and reads the clock. -/
def WakeWorld.enabled (w : WakeWorld) (c : EngineCall) : Bool :=
  w.pending.isNone && c.instant.all (· == w.clock)

def wakeStep (w : WakeWorld) : WakeStep → WakeWorld
  | .pass ms => { w with clock := w.clock + ms }
  | .call fresh c =>
    if w.enabled c then
      let out := engineCall binding w.db fresh c
      WakeWorld.woken binding { w.called c with db := out.2 } out.1
    else w
  | .emit =>
    match w.pending with
    | none => w
    | some wake => { w with pending := none, events := wake :: w.events }
  | .widen window => { w with db := (transact w.db (widenTransaction binding window)).2 }
  | .deliver point => { w with db := (transact w.db (deliverTransaction binding point)).2 }
  -- a wake that was persisted and not written stays persisted
  | .restart head =>
    { w with
      pending := none
      db := (transact (transact w.db (ensureRow binding)).2 (resolveHead binding head)).2 }

end Steps

/-- The pages are of one log, where an id names one entry. -/
def WakeStep.ofLog (posted : Uuid → Instant) : WakeStep → Prop
  | .call _ (.merge _ _ entries _) => ∀ entry ∈ entries, entry.created_at = posted entry.id
  | _ => True

/-! ### The accounts of a wake state -/

/-- The stored state agrees with the accounts. -/
structure Accounts (posted : Uuid → Instant) (clock : ℕ) (batches : List Batch)
    (answers : List Bool) (s : WakeState) : Prop where
  resolved : ∃ d, s.delivery = some d ∧ d.startKind ≠ .headPending
  current : ∀ o, s.document.outstanding = some o → ∃ rest, batches = ⟨o, none⟩ :: rest
  idle : s.document.outstanding = none → ∀ b ∈ batches, b.over clock
  earlier : ∀ b ∈ batches.tail, b.over clock
  deadlines : ∀ b ∈ batches, b.stored.deadline ≤ clock + WAKE_ACK_DEADLINE_MS
  refusals : s.document.refusals.count = refusalsSince answers
  instants : ∀ row ∈ s.rows, row.created_at = posted row.entry_id
  attempts : ∀ row ∈ s.rows, row.attempts + refusalsWith row.entry_id batches =
    batchesWith row.entry_id batches
  held : ∀ d, s.delivery = some d → ∀ b ∈ batches, ∀ id ∈ b.stored.replies,
    (∃ row ∈ s.rows, row.entry_id = id) ∨ (⟨id, posted id⟩ : LocalServerCursor) ≤ d.floor

lemma Batch.over_mono {b : Batch} {now now' : ℕ} (h : b.over now) (hle : now ≤ now') : b.over now' :=
  h.imp_right (fun hd => hd.trans hle)

lemma Batch.not_awaits {b : Batch} {now : ℕ} {wake_id : Uuid} (h : b.over now) :
    ¬ b.awaits now wake_id := by
  rintro ⟨hnone, _, hlt⟩
  rcases h with hsome | hle
  · simp [hnone] at hsome
  · omega

/-- An ack leaves batches that are over as they are. -/
lemma answeredBatches_of_over {now : ℕ} {wake_id : Uuid} {accepted : Bool} {batches : List Batch}
    (h : ∀ b ∈ batches, b.over now) : answeredBatches now wake_id accepted batches = batches := by
  unfold answeredBatches
  conv_rhs => rw [← map_id batches]
  refine map_congr_left (fun b hb => ?_)
  rw [if_neg (Batch.not_awaits (h b hb))]
  rfl

section Accounts

variable {posted : Uuid → Instant} {clock : ℕ} {batches : List Batch} {answers : List Bool}
  {s : WakeState}

namespace Accounts

lemma pass (h : Accounts posted clock batches answers s) (ms : ℕ) :
    Accounts posted (clock + ms) batches answers s where
  resolved := h.resolved
  current := h.current
  idle := fun ho b hb => Batch.over_mono (h.idle ho b hb) (Nat.le_add_right clock ms)
  earlier := fun b hb => Batch.over_mono (h.earlier b hb) (Nat.le_add_right clock ms)
  deadlines := by
    intro b hb
    have := h.deadlines b hb
    omega
  refusals := h.refusals
  instants := h.instants
  attempts := h.attempts
  held := h.held

/-- A document with the same batch and refusals. -/
lemma document (h : Accounts posted clock batches answers s) {doc : WakeDocument}
    (ho : doc.outstanding = s.document.outstanding) (hr : doc.refusals = s.document.refusals) :
    Accounts posted clock batches answers { s with document := doc } where
  resolved := h.resolved
  current := fun o hdoc => h.current o (ho ▸ hdoc)
  idle := fun hdoc => h.idle (ho ▸ hdoc)
  earlier := h.earlier
  deadlines := h.deadlines
  refusals := hr ▸ h.refusals
  instants := h.instants
  attempts := h.attempts
  held := h.held

/-- The stored batch is done with: it is over, and every other was before. -/
lemma cleared (h : Accounts posted clock batches answers s)
    (hover : ∀ b ∈ batches, b.over clock) {doc : WakeDocument}
    (ho : doc.outstanding = none) (hr : doc.refusals.count = refusalsSince answers) :
    Accounts posted clock batches answers { s with document := doc } where
  resolved := h.resolved
  current := by
    intro o hdoc
    rw [ho] at hdoc
    cases hdoc
  idle := fun _ => hover
  earlier := h.earlier
  deadlines := h.deadlines
  refusals := hr
  instants := h.instants
  attempts := h.attempts
  held := h.held

/-- Past the deadline of the stored batch every batch is over. -/
lemma over_of_late (h : Accounts posted clock batches answers s) {o : Outstanding}
    (ho : s.document.outstanding = some o) (hlate : o.deadline ≤ clock) :
    ∀ b ∈ batches, b.over clock := by
  obtain ⟨rest, rfl⟩ := h.current o ho
  intro b hb
  rcases mem_cons.mp hb with rfl | hb
  · exact Or.inr hlate
  · exact h.earlier b hb

/-- The clamp is idle on deadlines, and an expired batch is over. -/
lemma clamped (h : Accounts posted clock batches answers s) :
    Accounts posted clock batches answers (s.clamped clock) := by
  have hday : WAKE_ACK_DEADLINE_MS ≤ MAX_FUTURE_MS := by
    simp [WAKE_ACK_DEADLINE_MS, MAX_FUTURE_MS]
  have hcount : (s.clamped clock).document.refusals.count = s.document.refusals.count := by
    unfold WakeState.clamped expireOutstanding clampDocument
    dsimp only
    split <;> rfl
  refine ⟨h.resolved, ?_, ?_, h.earlier, h.deadlines, hcount.trans h.refusals, ?_, ?_, ?_⟩
  · intro o ho
    obtain ⟨old, hold, _, rfl⟩ := WakeState.clamped_outstanding.mp ho
    obtain ⟨rest, rfl⟩ := h.current old hold
    have hle := h.deadlines _ mem_cons_self
    rw [min_eq_left (by dsimp only at hle; omega)]
    exact ⟨rest, rfl⟩
  · intro hnone
    cases ho : s.document.outstanding with
    | none => exact h.idle ho
    | some o =>
      refine h.over_of_late ho (not_lt.mp (fun hlt => ?_))
      rw [WakeState.clamped_outstanding.mpr ⟨o, ho, hlt, rfl⟩] at hnone
      cases hnone
  · intro row hrow
    obtain ⟨old, hold, rfl⟩ := WakeState.mem_clamped_rows.mp hrow
    exact h.instants old hold
  · intro row hrow
    obtain ⟨old, hold, rfl⟩ := WakeState.mem_clamped_rows.mp hrow
    exact h.attempts old hold
  · intro d hd b hb id hid
    rcases h.held d hd b hb id hid with ⟨row, hrow, rfl⟩ | hle
    · exact Or.inl ⟨_, WakeState.mem_clamped_rows.mpr ⟨row, hrow, rfl⟩, rfl⟩
    · exact Or.inr hle

/-- A wake is emitted when no batch is stored, and is one more batch with one more attempt of
each of its replies. -/
lemma emitted (h : Accounts posted clock batches answers s) (batch : Uuid)
    (hdue : s.due clock ≠ []) : (∀ b ∈ batches, b.over clock) ∧ ∃ o,
      (s.emitted clock batch).document.outstanding = some o ∧
      o.batch = batch ∧ o.replies.length = (s.due clock).length ∧
      Accounts posted clock (⟨o, none⟩ :: batches) answers (s.emitted clock batch) := by
  have hidle : s.document.outstanding = none := by
    cases ho : s.document.outstanding with
    | none => rfl
    | some o =>
      refine absurd (WakeState.due_of_blocked ?_) hdue
      simp [blocked, ho]
  have hover := h.idle hidle
  refine ⟨hover, _, rfl, rfl, length_map _, ?_⟩
  have hcontains : ∀ id, (s.due clock).any (fun due => due.entry_id == id) =
      ((s.due clock).map (·.entry_id)).contains id := by
    intro id
    rw [Bool.eq_iff_iff]
    simp
  refine ⟨h.resolved, ?_, ?_, hover, ?_, h.refusals, ?_, ?_, ?_⟩
  · intro o ho
    exact ⟨batches, by rw [Option.some.inj ho]⟩
  · intro hnone
    cases hnone
  · intro b hb
    rcases mem_cons.mp hb with rfl | hb
    · exact le_rfl
    · exact h.deadlines b hb
  · intro row hrow
    simp only [WakeState.emitted, emittedRows, Table.mem_update] at hrow
    obtain ⟨old, hold, rfl⟩ := hrow
    have := h.instants old hold
    split <;> exact this
  · intro row hrow
    simp only [WakeState.emitted, emittedRows, Table.mem_update] at hrow
    obtain ⟨old, hold, rfl⟩ := hrow
    have hold := h.attempts old hold
    unfold refusalsWith batchesWith at hold ⊢
    rw [countP_cons, countP_cons]
    simp only [Batch.refused, Batch.contains, ← hcontains] at hold ⊢
    by_cases hin : (s.due clock).any (fun due => due.entry_id == old.entry_id) = true
    · simp only [hin, if_true] at hold ⊢
      simp
      omega
    · rw [Bool.not_eq_true] at hin
      simp only [hin, Bool.false_eq_true, if_false, Bool.false_and] at hold ⊢
      exact hold
  · intro d hd b hb id hid
    have hkept : ∀ row ∈ s.rows, ∃ row' ∈ (s.emitted clock batch).rows, row'.entry_id = row.entry_id := by
      intro row hrow
      refine ⟨_, mem_map_of_mem hrow, ?_⟩
      split <;> rfl
    rcases mem_cons.mp hb with rfl | hb
    · left
      obtain ⟨row, hrow, rfl⟩ := mem_map.mp hid
      unfold WakeState.due at hrow
      split at hrow
      · cases hrow
      · exact hkept row (WakeState.mem_sorted.mp (mem_filter.mp hrow).1)
    · rcases h.held d hd b hb id hid with ⟨row, hrow, rfl⟩ | hle
      · exact Or.inl (hkept row hrow)
      · exact Or.inr hle

lemma tick (h : Accounts posted clock batches answers s) (batch : Uuid) :
    ((s.tick clock batch).1 = none ∧
      Accounts posted clock batches answers (s.tick clock batch).2) ∨
    ∃ wake o, (s.tick clock batch).1 = some wake ∧ (∀ b ∈ batches, b.over clock) ∧
      (s.tick clock batch).2.document.outstanding = some o ∧ o.batch = wake.wake_id ∧
      o.replies.length = wake.count ∧
      Accounts posted clock (⟨o, none⟩ :: batches) answers (s.tick clock batch).2 := by
  unfold WakeState.tick
  dsimp only
  by_cases hdue : (s.clamped clock).due clock = []
  · rw [if_pos hdue]
    exact Or.inl ⟨rfl, h.clamped⟩
  · rw [if_neg hdue]
    obtain ⟨hover, o, ho, hbatch, hlength, hnext⟩ := h.clamped.emitted batch hdue
    exact Or.inr ⟨_, o, rfl, hover, ho, hbatch, hlength, hnext⟩

/-- The answer of the stored batch ends it. -/
lemma answered_current {o : Outstanding} {rest : List Batch} (hearlier : ∀ b ∈ rest, b.over clock)
    (hlt : clock < o.deadline) (accepted : Bool) :
    answeredBatches clock o.batch accepted (⟨o, none⟩ :: rest) = ⟨o, some accepted⟩ :: rest := by
  have hrest : answeredBatches clock o.batch accepted rest = rest := answeredBatches_of_over hearlier
  unfold answeredBatches at hrest ⊢
  rw [map_cons, hrest, if_pos ⟨rfl, rfl, hlt⟩]

/-- The members of a refused batch that are still there have one attempt less. -/
lemma refusedBack (h : Accounts posted clock batches answers s) {o : Outstanding}
    {rest : List Batch} (hb : batches = ⟨o, none⟩ :: rest) (retry : ℕ) {doc : WakeDocument}
    (ho : doc.outstanding = none) (hr : doc.refusals.count = s.document.refusals.count + 1) :
    Accounts posted clock (⟨o, some false⟩ :: rest) (false :: answers)
      { s with document := doc, rows := refusedRows retry o.replies s.rows } := by
  subst hb
  refine ⟨h.resolved, ?_, ?_, h.earlier, ?_, ?_, ?_, ?_, ?_⟩
  · intro o' ho'
    rw [ho] at ho'
    cases ho'
  · intro _ b hb
    rcases mem_cons.mp hb with rfl | hb
    · exact Or.inl rfl
    · exact h.earlier b hb
  · intro b hb
    rcases mem_cons.mp hb with rfl | hb
    · exact h.deadlines ⟨o, none⟩ mem_cons_self
    · exact h.deadlines b (mem_cons_of_mem _ hb)
  · rw [hr, h.refusals]
    simp [refusalsSince]
  · intro row hrow
    simp only [refusedRows, Table.mem_update] at hrow
    obtain ⟨old, hold, rfl⟩ := hrow
    have := h.instants old hold
    split <;> exact this
  · intro row hrow
    simp only [refusedRows, Table.mem_update] at hrow
    obtain ⟨old, hold, rfl⟩ := hrow
    have hold := h.attempts old hold
    have hle : refusalsWith old.entry_id rest ≤ batchesWith old.entry_id rest := by
      refine countP_mono_left (fun b _ hb => ?_)
      exact (Bool.and_eq_true_iff.mp hb).1
    unfold refusalsWith batchesWith at hold hle ⊢
    rw [countP_cons, countP_cons] at hold ⊢
    simp only [Batch.refused, Batch.contains] at hold hle ⊢
    by_cases hin : o.replies.contains old.entry_id = true
    · simp only [hin, if_true] at hold hle ⊢
      simp at hold hle ⊢
      omega
    · rw [Bool.not_eq_true] at hin
      simp only [hin, Bool.false_eq_true, if_false, Bool.false_and] at hold ⊢
      exact hold
  · intro d hd b hb id hid
    have hheld : (∃ row ∈ s.rows, row.entry_id = id) ∨
        (⟨id, posted id⟩ : LocalServerCursor) ≤ d.floor := by
      rcases mem_cons.mp hb with rfl | hb
      · exact h.held d hd ⟨o, none⟩ mem_cons_self id hid
      · exact h.held d hd b (mem_cons_of_mem _ hb) id hid
    rcases hheld with ⟨row, hrow, rfl⟩ | hle
    · refine Or.inl ⟨_, mem_map_of_mem hrow, ?_⟩
      split <;> rfl
    · exact Or.inr hle

/-- An accept changes no count of the replies. -/
lemma accepted (h : Accounts posted clock batches answers s) {o : Outstanding}
    {rest : List Batch} (hb : batches = ⟨o, none⟩ :: rest) {doc : WakeDocument}
    (ho : doc.outstanding = none) (hr : doc.refusals.count = 0) :
    Accounts posted clock (⟨o, some true⟩ :: rest) (true :: answers) { s with document := doc } := by
  subst hb
  refine ⟨h.resolved, ?_, ?_, h.earlier, ?_, hr, h.instants, h.attempts, ?_⟩
  · intro o' ho'
    rw [ho] at ho'
    cases ho'
  · intro _ b hb
    rcases mem_cons.mp hb with rfl | hb
    · exact Or.inl rfl
    · exact h.earlier b hb
  · intro b hb
    rcases mem_cons.mp hb with rfl | hb
    · exact h.deadlines ⟨o, none⟩ mem_cons_self
    · exact h.deadlines b (mem_cons_of_mem _ hb)
  · intro d hd b hb id hid
    rcases mem_cons.mp hb with rfl | hb
    · exact h.held d hd ⟨o, none⟩ mem_cons_self id hid
    · exact h.held d hd b (mem_cons_of_mem _ hb) id hid

/-- No batch awaits the answer, and the accounts stay as they are. -/
lemma none_awaits (hover : ∀ b ∈ batches, b.over clock) (wake_id : Uuid) :
    batches.any (fun b => b.awaits clock wake_id) = false := by
  rw [any_eq_false]
  intro b hb
  simpa using Batch.not_awaits (hover b hb)

/-- What an ack line writes is what the accounts hear of it. -/
lemma ack (h : Accounts posted clock batches answers s) (wake_id : Uuid) (accepted : Bool) :
    (batches.any (fun b => b.awaits clock wake_id) = false ∧
      Accounts posted clock batches answers (s.ack clock wake_id accepted).2) ∨
    (batches.any (fun b => b.awaits clock wake_id) = true ∧
      Accounts posted clock (answeredBatches clock wake_id accepted batches) (accepted :: answers)
        (s.ack clock wake_id accepted).2) := by
  unfold WakeState.ack
  cases ho : s.document.outstanding with
  | none => exact Or.inl ⟨none_awaits (h.idle ho) wake_id, h⟩
  | some o =>
    dsimp only
    by_cases hlate : o.deadline ≤ clock
    · have hover := h.over_of_late ho hlate
      rw [if_pos hlate]
      exact Or.inl ⟨none_awaits hover wake_id, h.cleared hover rfl h.refusals⟩
    · rw [if_neg hlate]
      obtain ⟨rest, hb⟩ := h.current o ho
      have hearlier : ∀ b ∈ rest, b.over clock := by
        have := h.earlier
        rwa [hb] at this
      by_cases hbatch : o.batch ≠ wake_id
      · rw [if_pos hbatch]
        refine Or.inl ⟨?_, h⟩
        rw [hb, any_cons, none_awaits hearlier wake_id]
        simp [Batch.awaits, hbatch]
      · rw [if_neg hbatch]
        obtain rfl := not_not.mp hbatch
        right
        have hanswered := answered_current hearlier (not_le.mp hlate) accepted
        rw [hb, hanswered]
        refine ⟨?_, ?_⟩
        · rw [any_cons, Bool.or_eq_true]
          exact Or.inl (decide_eq_true ⟨rfl, rfl, not_le.mp hlate⟩)
        · cases accepted with
          | true => exact h.accepted hb rfl rfl
          | false => exact h.refusedBack hb _ rfl rfl

end Accounts

/-! ### Pages and deliveries -/

/-- A row of the table after a page was there before it, or is a new one after the floor. -/
lemma mem_inserted {binding : RepresentativeBinding} {floor : LocalServerCursor} {now : ℕ}
    (entries : List LogEntry) (hposted : ∀ entry ∈ entries, entry.created_at = posted entry.id)
    (acc : Table WakeRow.entry_id × ℕ) :
    (∀ row ∈ acc.1, row ∈ (entries.foldl (insertReply binding floor now) acc).1) ∧
      ∀ row ∈ (entries.foldl (insertReply binding floor now) acc).1, row ∈ acc.1 ∨
        row.attempts = 0 ∧ row.created_at = posted row.entry_id ∧ floor < row.point := by
  induction entries generalizing acc with
  | nil => exact ⟨fun row hrow => hrow, fun row hrow => Or.inl hrow⟩
  | cons entry rest ih =>
    obtain ⟨hkeep, hnew⟩ := ih (fun e he => hposted e (mem_cons_of_mem _ he))
      (insertReply binding floor now acc entry)
    have hstep : (∀ row ∈ acc.1, row ∈ (insertReply binding floor now acc entry).1) ∧
        ∀ row ∈ (insertReply binding floor now acc entry).1, row ∈ acc.1 ∨
          row.attempts = 0 ∧ row.created_at = posted row.entry_id ∧ floor < row.point := by
      unfold insertReply
      split
      · exact ⟨fun row hrow => hrow, fun row hrow => Or.inl hrow⟩
      · split
        · exact ⟨fun row hrow => hrow, fun row hrow => Or.inl hrow⟩
        · rename_i hafter
          refine ⟨fun row hrow => Table.mem_insertOrIgnore_of_mem hrow, fun row hrow => ?_⟩
          rcases Table.mem_of_mem_insertOrIgnore hrow with hold | rfl
          · exact Or.inl hold
          · rw [comparePoints_nonpos, not_le] at hafter
            exact Or.inr ⟨rfl, hposted entry mem_cons_self, hafter⟩
    refine ⟨fun row hrow => hkeep row (hstep.1 row hrow), fun row hrow => ?_⟩
    rcases hnew row hrow with hmem | hfresh
    · exact hstep.2 row hmem
    · exact Or.inr hfresh

/-- `""` is the least text. -/
lemma empty_le (t : String) : "" ≤ t := by
  rw [← not_lt]
  intro h
  exact List.not_lt_nil _ (String.lt_iff_toList_lt.mp h)

/-- The rows at or before a position, as the statement on `wake_replies` has them. -/
lemma point_le_of_row {c : LocalServerCursor} {row : WakeRow}
    (h : deliveredRow (some c) row = true) : row.point ≤ c := by
  unfold deliveredRow at h
  simp only [Option.map_some, Option.getD_some, Bool.or_eq_true, Bool.and_eq_true,
    decide_eq_true_eq, beq_iff_eq] at h
  rw [← not_lt, cursor_lt_iff]
  rintro (hlt | ⟨heq, hlt⟩)
  · rcases h with hc | ⟨heq, _⟩
    · exact lt_asymm hlt hc
    · exact absurd heq (ne_of_gt hlt)
  · rcases h with hc | ⟨_, hid⟩
    · exact absurd heq (ne_of_gt hc)
    · exact absurd hlt (not_lt.mpr hid)

/-- Every row a write of the delivery state deletes is at or before its floor. -/
lemma point_le_of_delivered {d : DeliveryState} {row : WakeRow}
    (h : deliveredRow d.checkpoint row = true) : row.point ≤ d.floor := by
  cases hc : d.checkpoint with
  | some c =>
    rw [hc] at h
    exact (point_le_of_row h).trans (checkpoint_le_floor hc)
  | none =>
    -- without a checkpoint the statement compares with empty text
    rw [hc] at h
    have hleast : (⟨"", ""⟩ : LocalServerCursor) ≤ d.floor := by
      rw [← not_lt, cursor_lt_iff]
      rintro (hlt | ⟨_, hlt⟩)
      · exact absurd hlt (not_lt.mpr (empty_le _))
      · exact absurd hlt (not_lt.mpr (empty_le _))
    exact (point_le_of_row (c := ⟨"", ""⟩) h).trans hleast

namespace Accounts

/-- A new row is of a reply no batch contains. -/
lemma batches_of_new (h : Accounts posted clock batches answers s) {d : DeliveryState}
    (hd : s.delivery = some d) {row : WakeRow} (hcreated : row.created_at = posted row.entry_id)
    (hafter : d.floor < row.point) (hnone : ∀ old ∈ s.rows, old.entry_id ≠ row.entry_id) :
    batchesWith row.entry_id batches = 0 ∧ refusalsWith row.entry_id batches = 0 := by
  have hnot : ∀ b ∈ batches, b.contains row.entry_id = false := by
    intro b hb
    by_contra hcontains
    rw [Bool.not_eq_false] at hcontains
    rcases h.held d hd b hb row.entry_id (List.contains_iff_mem.mp hcontains) with
      ⟨old, hold, hid⟩ | hle
    · exact hnone old hold hid
    · rw [← hcreated] at hle
      exact absurd hafter (not_lt.mpr hle)
  unfold batchesWith refusalsWith
  rw [countP_eq_zero, countP_eq_zero]
  refine ⟨fun b hb => by simp [hnot b hb], fun b hb => by simp [Batch.refused, hnot b hb]⟩

lemma merged (h : Accounts posted clock batches answers s) {d : DeliveryState}
    (hd : s.delivery = some d) (binding : RepresentativeBinding) {entries : List LogEntry}
    (hposted : ∀ entry ∈ entries, entry.created_at = posted entry.id) (more : Bool) :
    Accounts posted clock batches answers (s.merged binding d.floor clock entries more) := by
  obtain ⟨hkeep, hnew⟩ := @mem_inserted posted binding d.floor clock entries hposted (s.rows, 0)
  have hdoc : ∀ scanned inserted tail anyRow,
      (mergedDocument s.document clock scanned inserted tail more anyRow).outstanding =
          s.document.outstanding ∧
        (mergedDocument s.document clock scanned inserted tail more anyRow).refusals =
          s.document.refusals := by
    intro scanned inserted tail anyRow
    refine ⟨(WakeState.mergedDocument_outstanding s.document none clock scanned inserted tail more anyRow).2, ?_⟩
    unfold mergedDocument
    dsimp only
    split
    · rfl
    · split <;> rfl
  have hrows : ∀ row ∈ (s.merged binding d.floor clock entries more).rows, row ∈ s.rows ∨
      row.attempts = 0 ∧ row.created_at = posted row.entry_id ∧ d.floor < row.point ∧
        ∀ old ∈ s.rows, old.entry_id ≠ row.entry_id := by
    intro row hrow
    have hmem := (Table.mem_delete.mp hrow).1
    by_cases hold : row ∈ s.rows
    · exact Or.inl hold
    · obtain ⟨hzero, hcreated, hafter⟩ := (hnew row hmem).resolve_left hold
      refine Or.inr ⟨hzero, hcreated, hafter, fun old hmemOld hid => hold ?_⟩
      rwa [← Table.eq_of_key (hkeep old hmemOld) hmem hid]
  refine ⟨h.resolved, ?_, ?_, h.earlier, h.deadlines, ?_, ?_, ?_, ?_⟩
  · intro o ho
    exact h.current o ((hdoc ..).1.symm.trans ho)
  · intro ho
    exact h.idle ((hdoc ..).1.symm.trans ho)
  · exact (congrArg Refusals.count (hdoc ..).2).trans h.refusals
  · intro row hrow
    rcases hrows row hrow with hold | ⟨_, hcreated, _⟩
    · exact h.instants row hold
    · exact hcreated
  · intro row hrow
    rcases hrows row hrow with hold | ⟨hzero, hcreated, hafter, hnone⟩
    · exact h.attempts row hold
    · obtain ⟨hb, hr⟩ := h.batches_of_new hd hcreated hafter hnone
      rw [hzero, hb, hr]
  · intro d' hd' b hb id hid
    obtain rfl : d = d' := Option.some.inj (hd.symm.trans hd')
    rcases h.held d hd b hb id hid with ⟨row, hrow, rfl⟩ | hle
    · by_cases hdel : deliveredRow (some d.floor) row = true
      · right
        rw [← h.instants row hrow]
        exact point_le_of_row hdel
      · exact Or.inl ⟨row, Table.mem_delete.mpr ⟨hkeep row hrow, by simpa using hdel⟩, rfl⟩
    · exact Or.inr hle

lemma merge (h : Accounts posted clock batches answers s) (binding : RepresentativeBinding)
    (epoch : Option Uuid) {entries : List LogEntry}
    (hposted : ∀ entry ∈ entries, entry.created_at = posted entry.id) (more : Bool) :
    Accounts posted clock batches answers (s.merge binding clock epoch entries more).2 := by
  unfold WakeState.merge
  cases hd : s.delivery with
  | none => exact h
  | some d =>
    dsimp only
    split
    · exact h
    · cases hstart : scanStart d with
      | error e => exact h
      | ok start =>
        have hscan : scanStart d = .ok (start.1, start.2) := hstart
        obtain ⟨_, hfloor, _⟩ := scanStart_ok hscan
        dsimp only
        rw [hfloor]
        exact h.merged hd binding hposted more

lemma capturePersist (h : Accounts posted clock batches answers s) (epoch : Option Uuid)
    (count : ℕ) : Accounts posted clock batches answers (s.capturePersist epoch count).2 := by
  unfold WakeState.capturePersist
  split
  · exact h
  · split
    · exact h
    · exact h.document rfl rfl

/-- The floor moves forward, and only rows it has reached are deleted. -/
lemma written (h : Accounts posted clock batches answers s) {d next : DeliveryState}
    (hd : s.delivery = some d) (hkind : next.startKind = d.startKind) (hfloor : d.floor ≤ next.floor) :
    Accounts posted clock batches answers
      { s with delivery := some next, rows := s.rows.delete (deliveredRow next.checkpoint) } where
  resolved := by
    obtain ⟨d', hd', hresolved⟩ := h.resolved
    obtain rfl : d = d' := Option.some.inj (hd.symm.trans hd')
    exact ⟨next, rfl, hkind ▸ hresolved⟩
  current := h.current
  idle := h.idle
  earlier := h.earlier
  deadlines := h.deadlines
  refusals := h.refusals
  instants := fun row hrow => h.instants row (Table.mem_delete.mp hrow).1
  attempts := fun row hrow => h.attempts row (Table.mem_delete.mp hrow).1
  held := by
    intro next' hnext b hb id hid
    obtain rfl : next = next' := Option.some.inj hnext
    rcases h.held d hd b hb id hid with ⟨row, hrow, rfl⟩ | hle
    · by_cases hdel : deliveredRow next.checkpoint row = true
      · right
        rw [← h.instants row hrow]
        exact point_le_of_delivered hdel
      · exact Or.inl ⟨row, Table.mem_delete.mpr ⟨hrow, by simpa using hdel⟩, rfl⟩
    · exact Or.inr (hle.trans hfloor)

end Accounts

end Accounts

end BorgClient.Representative
