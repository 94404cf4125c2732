import BorgClient.Lib.Runs
import BorgClient.Representative.Push

/-!
# The engine on valid wake state

On a valid wake state of the current generation every engine transaction is a function of the
document, the reply rows and, for a merge, the delivery state. Stored instants have the form of
`toISOString`, where text order is the order of the milliseconds they stand for.
-/

namespace BorgClient.Representative
open Platform List Tables Runs

/-! ### Calls of the engine -/

inductive EngineCall
  | tick (now : ℕ) (batch : Uuid)
  | ack (now : ℕ) (line : AckLine)
  | merge (now : ℕ) (epoch : Option Uuid) (entries : List LogEntry) (more : Bool)
  | captureStart
  | capturePersist (epoch : Option Uuid) (count : ℕ)

/-- What a call answers. -/
inductive EngineOutcome
  | wake (wake : Option WakeEmission)
  | ack (outcome : AckOutcome)
  | merged (inserted : Option ℕ)
  | probe (start : Option ScanAt)
  | captured (persisted : Bool)
  | failed (error : RepresentativeError)
deriving DecidableEq, Repr

def EngineOutcome.of {α : Type} (answer : α → EngineOutcome) :
    Except RepresentativeError α → EngineOutcome
  | .ok a => answer a
  | .error e => .failed e

section Calls

variable [Platform]

/-- The transaction of a call; `fresh` is what a discard in it draws from `randomUUID`. A line
that is no ack starts none. -/
def engineCall (binding : RepresentativeBinding) (db : Db) (fresh : Uuid) :
    EngineCall → EngineOutcome × Db
  | .tick now batch =>
    (transact db (engineTransaction binding fresh (tick now batch))).map (.of .wake) id
  | .ack now line =>
    match parseAck line with
    | none => (.ack .ignored, db)
    | some (wake_id, accepted) =>
      (transact db (engineTransaction binding fresh (ackTransition now wake_id accepted))).map
        (.of .ack) id
  | .merge now epoch entries more =>
    (transact db (engineTransaction binding fresh (merge binding now epoch entries more))).map
      (.of .merged) id
  | .captureStart =>
    (transact db (engineTransaction binding fresh captureStart)).map (.of .probe) id
  | .capturePersist epoch count =>
    (transact db (engineTransaction binding fresh (capturePersist epoch count))).map
      (.of .captured) id

end Calls

/-! ### Transitions of a valid wake state -/

/-- What the engine reads and writes of a generation; the delivery state is only read. -/
structure WakeState where
  delivery : Option DeliveryState
  document : WakeDocument
  rows : Table WakeRow.entry_id

def WakeDocument.cohortOpen (doc : WakeDocument) : Bool := doc.cohort.any (·.isOpen)

namespace WakeState

/-- `ORDER BY created_at, entry_id`. -/
def sorted (s : WakeState) : List WakeRow :=
  s.rows.rows.insertionSort (fun a b => comparePoints a.point (some b.point) ≤ 0)

@[simp] lemma mem_sorted {s : WakeState} {row : WakeRow} : row ∈ s.sorted ↔ row ∈ s.rows :=
  mem_insertionSort _

/-- The state `tick` decides on: instants clamped, a batch past its deadline expired. -/
def clamped (now : ℕ) (s : WakeState) : WakeState :=
  { s with
    document := expireOutstanding now (clampDocument now s.document)
    rows := clampRows now s.rows }

def due (now : ℕ) (s : WakeState) : List WakeRow :=
  if blocked now s.document then [] else s.sorted.filter (·.next_at ≤ now)

def emitted (now : ℕ) (batch : Uuid) (s : WakeState) : WakeState :=
  { s with
    document := emittedDocument now batch (s.due now) s.document
    rows := emittedRows now (s.due now) s.rows }

def tick (now : ℕ) (batch : Uuid) (s : WakeState) : Option WakeEmission × WakeState :=
  let s := s.clamped now
  if s.due now = [] then (none, s)
  else (some ⟨batch, wakeReason s.document (s.due now), (s.due now).length⟩, s.emitted now batch)

def nextDueAt (now : ℕ) (s : WakeState) : Option ℕ :=
  let ms (at_ : ℕ) : ℕ := min at_ (now + MAX_FUTURE_MS)
  let earliest := (s.sorted.map (fun row => ms row.next_at)).min?
  match s.document.outstanding with
  | some o => some (ms o.deadline)
  | none =>
    if s.document.refusals.retry_at.any (· > now) then s.document.refusals.retry_at.map ms
    else if s.document.cohortOpen then none
    else
      match s.document.debounce_at with
      | some debounce => earliest.map (fun at_ => max at_ (ms debounce))
      | none => earliest

def ack (now : ℕ) (wake_id : Uuid) (accepted : Bool) (s : WakeState) : AckOutcome × WakeState :=
  match s.document.outstanding with
  | none => (.ignored, s)
  | some o =>
    if o.deadline ≤ now then (.ignored, { s with document := { s.document with outstanding := none } })
    else if o.batch ≠ wake_id then (.ignored, s)
    else if accepted then
      (.accepted, { s with document := { s.document with outstanding := none, refusals := ⟨0, none⟩ } })
    else
      let count := s.document.refusals.count + 1
      let retry := now + refusalBackoffMs count
      (.refused, { s with
        document := { s.document with outstanding := none, refusals := ⟨count, some retry⟩ }
        rows := refusedRows retry o.replies s.rows })

/-- How many rows a page inserts. -/
def inserted (binding : RepresentativeBinding) (floor : LocalServerCursor) (now : ℕ)
    (entries : List LogEntry) (s : WakeState) : ℕ :=
  (entries.foldl (insertReply binding floor now) (s.rows, 0)).2

def merged (binding : RepresentativeBinding) (floor : LocalServerCursor) (now : ℕ)
    (entries : List LogEntry) (more : Bool) (s : WakeState) : WakeState :=
  let rows := mergedRows binding floor now entries s.rows
  { s with
    document := mergedDocument s.document now entries.length (s.inserted binding floor now entries)
      (entries.getLast?.map (·.point)) more (rows.rows.length > 0)
    rows := rows }

def merge (binding : RepresentativeBinding) (now : ℕ) (epoch : Option Uuid)
    (entries : List LogEntry) (more : Bool) (s : WakeState) :
    Except RepresentativeError (Option ℕ) × WakeState :=
  match s.delivery with
  | none => (.error missingDelivery, s)
  | some delivery =>
    if s.document.scan_epoch ≠ epoch then (.ok none, s)
    else
      match scanStart delivery with
      | .error e => (.error e, s)
      | .ok (_, floor) =>
        (.ok (some (s.inserted binding floor now entries)), s.merged binding floor now entries more)

def captureStart (s : WakeState) : Except RepresentativeError (Option ScanAt) :=
  if s.document.cohortOpen then .ok none
  else
    match s.delivery with
    | none => .error missingDelivery
    | some delivery => (scanStart delivery).map (fun start =>
        some ⟨later s.document.frontier start.1, s.document.scan_epoch⟩)

def capturePersist (epoch : Option Uuid) (count : ℕ) (s : WakeState) : Bool × WakeState :=
  if s.document.scan_epoch ≠ epoch then (false, s)
  else if s.document.cohortOpen then (true, s)
  else (true, { s with document :=
    { s.document with cohort := some ⟨count, decide (count > 0)⟩, startup_pending := false } })

def call [Platform] (binding : RepresentativeBinding) (s : WakeState) :
    EngineCall → EngineOutcome × WakeState
  | .tick now batch => (s.tick now batch).map .wake id
  | .ack now line =>
    match parseAck line with
    | none => (.ack .ignored, s)
    | some (wake_id, accepted) => (s.ack now wake_id accepted).map .ack id
  | .merge now epoch entries more => (s.merge binding now epoch entries more).map (.of .merged) id
  | .captureStart => (.of .probe s.captureStart, s)
  | .capturePersist epoch count => (s.capturePersist epoch count).map .captured id

end WakeState

/-! ### The stored state -/

lemma wakeProblems_eq_nil {db : Db} {generation : String} :
    wakeProblems db generation = [] ↔ db.wake_state generation ≠ some .invalid ∧
      ∀ row ∈ db.wake_replies generation, row.wellFormed = true := by
  unfold wakeProblems
  simp only [append_eq_nil_iff, ite_eq_right_iff, cons_ne_nil, imp_false, gt_iff_lt, not_lt,
    Nat.le_zero, length_eq_zero_iff, filter_eq_nil_iff, Bool.not_eq_true', Bool.not_eq_false]
  exact Iff.rfl

lemma loadDocument_ok {db : Db} {generation : String} :
    (∃ doc, loadDocument db generation = .ok doc) ↔ db.wake_state generation ≠ some .invalid := by
  unfold loadDocument
  split
  · simp_all
  · simp_all
  · simp_all

section Stored

variable [Platform] {binding : RepresentativeBinding} {db : Db} {s : WakeState}

/-- The current generation's wake state is valid, and it is `s`. -/
structure Holds (binding : RepresentativeBinding) (db : Db) (s : WakeState) : Prop where
  current : requireCurrentGeneration db binding = .ok (bindingFingerprint binding)
  delivery : loadDelivery db (bindingFingerprint binding) = s.delivery
  document : loadDocument db (bindingFingerprint binding) = .ok s.document
  rows : db.wake_replies (bindingFingerprint binding) = s.rows
  valid : ∀ row ∈ s.rows, row.wellFormed = true

/-- A current generation without problems has a wake state. -/
lemma exists_holds (hg : requireCurrentGeneration db binding = .ok (bindingFingerprint binding))
    (hv : wakeProblems db (bindingFingerprint binding) = []) : ∃ s, Holds binding db s := by
  obtain ⟨hdoc, hrows⟩ := wakeProblems_eq_nil.mp hv
  obtain ⟨doc, hload⟩ := loadDocument_ok.mpr hdoc
  exact ⟨⟨_, doc, db.wake_replies (bindingFingerprint binding)⟩, hg, rfl, hload, rfl, hrows⟩

namespace Holds

lemma problems (h : Holds binding db s) : wakeProblems db (bindingFingerprint binding) = [] :=
  wakeProblems_eq_nil.mpr ⟨loadDocument_ok.mp ⟨_, h.document⟩, h.rows ▸ h.valid⟩

lemma sorted (h : Holds binding db s) : wakeRows db (bindingFingerprint binding) = s.sorted := by
  unfold wakeRows WakeState.sorted
  rw [h.rows]

/-- Nothing is discarded, so the body runs on the state as it is. -/
lemma commits {α : Type} (h : Holds binding db s) (fresh : Uuid) {body : EngineBody α} {a : α}
    {db' : Db} (hbody : body db (bindingFingerprint binding) = .ok (a, db')) :
    transact db (engineTransaction binding fresh body) = (.ok a, db') := by
  unfold transact engineTransaction discardInvalidWakeState
  simp only [h.current, h.problems, if_true, hbody]

lemma throws {α : Type} (h : Holds binding db s) (fresh : Uuid) {body : EngineBody α}
    {e : RepresentativeError} (hbody : body db (bindingFingerprint binding) = .error e) :
    transact db (engineTransaction binding fresh body) = (.error e, db) := by
  unfold transact engineTransaction discardInvalidWakeState
  simp only [h.current, h.problems, if_true, hbody]

lemma saveDocument (h : Holds binding db s) (doc : WakeDocument) :
    Holds binding (Representative.saveDocument db (bindingFingerprint binding) doc)
      { s with document := doc } where
  current := h.current
  delivery := h.delivery
  document := by simp [loadDocument, Representative.saveDocument]
  rows := h.rows
  valid := h.valid

lemma saveRows (h : Holds binding db s) {rows : Table WakeRow.entry_id}
    (hrows : ∀ row ∈ rows, row.wellFormed = true) :
    Holds binding (Representative.saveRows db (bindingFingerprint binding) rows)
      { s with rows := rows } where
  current := h.current
  delivery := h.delivery
  document := h.document
  rows := Function.update_self ..
  valid := hrows

/-- A statement that keeps which rows are well formed. -/
lemma valid_update (h : Holds binding db s) {f : WakeRow → WakeRow}
    {hf : ∀ row, (f row).entry_id = row.entry_id} (hw : ∀ row, (f row).wellFormed = row.wellFormed) :
    ∀ row ∈ s.rows.update f hf, row.wellFormed = true := by
  intro row hrow
  obtain ⟨old, hold, rfl⟩ := Table.mem_update.mp hrow
  exact (hw old).trans (h.valid old hold)

lemma clamped (h : Holds binding db s) (now : ℕ) : Holds binding
    (Representative.saveRows db (bindingFingerprint binding)
      (clampRows now (db.wake_replies (bindingFingerprint binding))))
    { s with rows := clampRows now s.rows } := by
  rw [h.rows]
  exact h.saveRows (h.valid_update (fun _ => rfl))

lemma tick (h : Holds binding db s) (fresh : Uuid) (now : ℕ) (batch : Uuid) : ∃ db',
    transact db (engineTransaction binding fresh (Representative.tick now batch)) =
      (.ok (s.tick now batch).1, db') ∧ Holds binding db' (s.tick now batch).2 := by
  have hclamped := h.clamped now
  have hdue : (if blocked now (expireOutstanding now (clampDocument now s.document)) then []
      else (wakeRows (Representative.saveRows db (bindingFingerprint binding)
        (clampRows now (db.wake_replies (bindingFingerprint binding))))
        (bindingFingerprint binding)).filter (·.next_at ≤ now)) = (s.clamped now).due now := by
    rw [hclamped.sorted]
    rfl
  unfold WakeState.tick
  dsimp only
  by_cases hnone : (s.clamped now).due now = []
  · rw [if_pos hnone]
    refine ⟨_, h.commits fresh ?_, hclamped.saveDocument (s.clamped now).document⟩
    unfold Representative.tick
    simp only [h.document, hdue, hnone, if_true]
    rfl
  · rw [if_neg hnone]
    have hrows : ∀ row ∈ emittedRows now ((s.clamped now).due now) (clampRows now s.rows),
        row.wellFormed = true := by
      refine hclamped.valid_update (fun row => ?_)
      split <;> rfl
    refine ⟨_, h.commits fresh ?_, (hclamped.saveRows hrows).saveDocument _⟩
    unfold Representative.tick
    simp only [h.document, hdue, hnone, if_false]
    rw [hclamped.rows]
    rfl

lemma ack (h : Holds binding db s) (fresh : Uuid) (now : ℕ) (wake_id : Uuid) (accepted : Bool) :
    ∃ db', transact db (engineTransaction binding fresh (ackTransition now wake_id accepted)) =
      (.ok (s.ack now wake_id accepted).1, db') ∧ Holds binding db' (s.ack now wake_id accepted).2 := by
  unfold WakeState.ack
  cases ho : s.document.outstanding with
  | none =>
    refine ⟨db, h.commits fresh ?_, h⟩
    simp only [ackTransition, h.document, ho]
  | some o =>
    dsimp only
    by_cases hlate : o.deadline ≤ now
    · rw [if_pos hlate]
      refine ⟨_, h.commits fresh ?_, h.saveDocument _⟩
      simp only [ackTransition, h.document, ho, if_pos hlate]
    · by_cases hbatch : o.batch ≠ wake_id
      · rw [if_neg hlate, if_pos hbatch]
        refine ⟨db, h.commits fresh ?_, h⟩
        simp only [ackTransition, h.document, ho, if_neg hlate, if_pos hbatch]
      · rw [if_neg hlate, if_neg hbatch]
        cases accepted with
        | true =>
          refine ⟨_, h.commits fresh ?_, h.saveDocument _⟩
          simp only [ackTransition, h.document, ho, if_neg hlate, if_neg hbatch, if_true]
        | false =>
          have hrows : ∀ row ∈ refusedRows (now + refusalBackoffMs (s.document.refusals.count + 1))
              o.replies s.rows, row.wellFormed = true := by
            refine h.valid_update (fun row => ?_)
            split <;> rfl
          refine ⟨_, h.commits fresh ?_, (h.saveRows hrows).saveDocument _⟩
          simp only [ackTransition, h.document, ho, if_neg hlate, if_neg hbatch, h.rows,
            Bool.false_eq_true, if_false]

/-- The rows a page inserts are well formed. -/
lemma valid_merged (h : Holds binding db s) (floor : LocalServerCursor) (now : ℕ)
    (entries : List LogEntry) :
    ∀ row ∈ mergedRows binding floor now entries s.rows, row.wellFormed = true := by
  have hfold : ∀ (entries : List LogEntry) (acc : Table WakeRow.entry_id × ℕ),
      (∀ row ∈ acc.1, row.wellFormed = true) →
        ∀ row ∈ (entries.foldl (insertReply binding floor now) acc).1, row.wellFormed = true := by
    intro entries
    induction entries with
    | nil => exact fun acc hacc => hacc
    | cons e rest ih =>
      intro acc hacc
      refine ih _ (fun row hrow => ?_)
      unfold insertReply at hrow
      split at hrow
      · exact hacc row hrow
      · split at hrow
        · exact hacc row hrow
        · rcases Table.mem_of_mem_insertOrIgnore hrow with hold | rfl
          · exact hacc row hold
          · rfl
  intro row hrow
  exact hfold entries (s.rows, 0) h.valid row (Table.mem_delete.mp hrow).1

lemma merge (h : Holds binding db s) (fresh : Uuid) (now : ℕ) (epoch : Option Uuid)
    (entries : List LogEntry) (more : Bool) :
    ∃ db', transact db (engineTransaction binding fresh
        (Representative.merge binding now epoch entries more)) =
      ((s.merge binding now epoch entries more).1, db') ∧
      Holds binding db' (s.merge binding now epoch entries more).2 := by
  unfold WakeState.merge
  cases hd : s.delivery with
  | none =>
    refine ⟨db, h.throws fresh ?_, h⟩
    simp only [Representative.merge, h.delivery, hd]
  | some delivery =>
    dsimp only
    by_cases hepoch : s.document.scan_epoch ≠ epoch
    · rw [if_pos hepoch]
      refine ⟨db, h.commits fresh ?_, h⟩
      simp only [Representative.merge, h.delivery, hd, h.document, if_pos hepoch]
    · rw [if_neg hepoch]
      cases hstart : scanStart delivery with
      | error e =>
        refine ⟨db, h.throws fresh ?_, h⟩
        simp only [Representative.merge, h.delivery, hd, h.document, if_neg hepoch, hstart]
      | ok start =>
        refine ⟨_, h.commits fresh ?_,
          (h.saveRows (h.valid_merged start.2 now entries)).saveDocument _⟩
        simp only [Representative.merge, h.delivery, hd, h.document, if_neg hepoch, hstart, h.rows]
        rfl

lemma captureStart (h : Holds binding db s) (fresh : Uuid) :
    transact db (engineTransaction binding fresh Representative.captureStart) =
      (s.captureStart, db) := by
  unfold WakeState.captureStart
  by_cases hopen : s.document.cohortOpen = true
  · rw [if_pos hopen]
    refine h.commits fresh ?_
    simp only [Representative.captureStart, h.document]
    exact if_pos hopen
  · rw [if_neg hopen]
    have hskip : Representative.captureStart db (bindingFingerprint binding) =
        match deliveryStart db (bindingFingerprint binding) with
        | .error e => .error e
        | .ok (cursor, _) =>
          .ok (some ⟨later s.document.frontier cursor, s.document.scan_epoch⟩, db) := by
      simp only [Representative.captureStart, h.document]
      exact if_neg hopen
    cases hd : s.delivery with
    | none =>
      refine h.throws fresh (hskip.trans ?_)
      simp only [deliveryStart, h.delivery, hd]
    | some delivery =>
      cases hstart : scanStart delivery with
      | error e =>
        simp only [hstart, Except.map]
        refine h.throws fresh (hskip.trans ?_)
        simp only [deliveryStart, h.delivery, hd, hstart]
      | ok start =>
        simp only [hstart, Except.map]
        refine h.commits fresh (hskip.trans ?_)
        simp only [deliveryStart, h.delivery, hd, hstart]

lemma capturePersist (h : Holds binding db s) (fresh : Uuid) (epoch : Option Uuid) (count : ℕ) :
    ∃ db', transact db (engineTransaction binding fresh (Representative.capturePersist epoch count)) =
      (.ok (s.capturePersist epoch count).1, db') ∧
      Holds binding db' (s.capturePersist epoch count).2 := by
  unfold WakeState.capturePersist
  by_cases hepoch : s.document.scan_epoch ≠ epoch
  · rw [if_pos hepoch]
    refine ⟨db, h.commits fresh ?_, h⟩
    simp only [Representative.capturePersist, h.document, if_pos hepoch]
  · rw [if_neg hepoch]
    by_cases hopen : s.document.cohortOpen = true
    · rw [if_pos hopen]
      refine ⟨db, h.commits fresh ?_, h⟩
      simp only [Representative.capturePersist, h.document, if_neg hepoch]
      exact if_pos hopen
    · rw [if_neg hopen]
      refine ⟨_, h.commits fresh ?_, h.saveDocument _⟩
      simp only [Representative.capturePersist, h.document, if_neg hepoch]
      exact if_neg hopen

/-- Every call answers and writes what it does on the wake state. -/
lemma call (h : Holds binding db s) (fresh : Uuid) (c : EngineCall) : ∃ db',
    engineCall binding db fresh c = ((s.call binding c).1, db') ∧
      Holds binding db' (s.call binding c).2 := by
  cases c with
  | tick now batch =>
    obtain ⟨db', heq, hholds⟩ := h.tick fresh now batch
    exact ⟨db', by rw [engineCall, heq]; rfl, hholds⟩
  | ack now line =>
    unfold engineCall WakeState.call
    dsimp only
    cases parseAck line with
    | none => exact ⟨db, rfl, h⟩
    | some parsed =>
      obtain ⟨db', heq, hholds⟩ := h.ack fresh now parsed.1 parsed.2
      exact ⟨db', by dsimp only; rw [heq]; rfl, hholds⟩
  | merge now epoch entries more =>
    obtain ⟨db', heq, hholds⟩ := h.merge fresh now epoch entries more
    exact ⟨db', by rw [engineCall, heq]; rfl, hholds⟩
  | captureStart => exact ⟨db, by rw [engineCall, h.captureStart]; rfl, h⟩
  | capturePersist epoch count =>
    obtain ⟨db', heq, hholds⟩ := h.capturePersist fresh epoch count
    exact ⟨db', by rw [engineCall, heq]; rfl, hholds⟩

lemma nextDueAt (h : Holds binding db s) (fresh : Uuid) (now : ℕ) :
    transact db (engineTransaction binding fresh (Representative.nextDueAt now)) =
      (.ok (s.nextDueAt now), db) := by
  refine h.commits fresh ?_
  unfold Representative.nextDueAt WakeState.nextDueAt WakeDocument.cohortOpen
  simp only [h.document, h.sorted]
  cases s.document.outstanding with
  | some o => rfl
  | none =>
    dsimp only
    split
    · rfl
    · split
      · rfl
      · cases s.document.debounce_at with
        | none => rfl
        | some debounce => rfl

end Holds

end Stored

end BorgClient.Representative
