import BorgClient.Representative.Read

/-!
# The push engine

`representative-push.ts`: which direct Coordinator replies wake the host, and when. All wake
state is one document and the reply rows of a generation; every transition is one transaction,
which discards invalid wake state first.
-/

namespace BorgClient.Representative
open Platform List Tables

def WAKE_ACK_DEADLINE_MS : ℕ := 60000
def WAKE_DEBOUNCE_MS : ℕ := 2000
def DISCOVERY_PAGE : ℕ := 200
def WAKE_ACK_LINE_MAX_BYTES : ℕ := 1024
def REWAKE_BACKOFF_MS : List ℕ := [10 * 60000, 60 * 60000, 6 * 60 * 60000, 24 * 60 * 60000]
def REFUSAL_BACKOFF_BASE_MS : ℕ := 30000
def REFUSAL_BACKOFF_MAX_MS : ℕ := 30 * 60000
def MAX_FUTURE_MS : ℕ := 24 * 60 * 60000

def rewakeBackoffMs (attempts : ℕ) : ℕ :=
  REWAKE_BACKOFF_MS.getD (min (max attempts 1) REWAKE_BACKOFF_MS.length - 1) 0

def refusalBackoffMs (count : ℕ) : ℕ :=
  min (REFUSAL_BACKOFF_BASE_MS * 2 ^ (count - 1)) REFUSAL_BACKOFF_MAX_MS

lemma rewakeBackoffMs_le (attempts : ℕ) : rewakeBackoffMs attempts ≤ MAX_FUTURE_MS := by
  have hall : ∀ ms ∈ REWAKE_BACKOFF_MS, ms ≤ MAX_FUTURE_MS := by
    simp [REWAKE_BACKOFF_MS, MAX_FUTURE_MS]
  unfold rewakeBackoffMs
  rw [getD_eq_getElem?_getD]
  cases h : REWAKE_BACKOFF_MS[min (max attempts 1) REWAKE_BACKOFF_MS.length - 1]? with
  | none => simp
  | some ms => exact hall ms (mem_of_getElem? h)

lemma refusalBackoffMs_le (count : ℕ) : refusalBackoffMs count ≤ MAX_FUTURE_MS :=
  (min_le_right _ _).trans (by simp [REFUSAL_BACKOFF_MAX_MS, MAX_FUTURE_MS])

/-! ### Documents and rows -/

def emptyDocument : WakeDocument where
  frontier := none
  outstanding := none
  refusals := ⟨0, none⟩
  cohort := none
  startup_pending := false
  debounce_at := none
  scan_epoch := none

def WakeRow.point (row : WakeRow) : LocalServerCursor := ⟨row.entry_id, row.created_at⟩

def loadDocument (db : Db) (generation : String) : Except RepresentativeError WakeDocument :=
  match db.wake_state generation with
  | none => .ok emptyDocument
  | some (.document doc) => .ok doc
  | some .invalid => .error (stateError "The representative state holds an invalid wake record")

def saveDocument (db : Db) (generation : String) (doc : WakeDocument) : Db :=
  { db with wake_state := Function.update db.wake_state generation (some (.document doc)) }

/-- The rows of the generation after a statement on `wake_replies`. -/
def saveRows (db : Db) (generation : String) (rows : Table WakeRow.entry_id) : Db :=
  { db with wake_replies := Function.update db.wake_replies generation rows }

/-- `ORDER BY created_at, entry_id`. -/
def wakeRows (db : Db) (generation : String) : List WakeRow :=
  (db.wake_replies generation).rows.insertionSort
    (fun a b => comparePoints a.point (some b.point) ≤ 0)

@[simp] lemma mem_wakeRows {db : Db} {generation : String} {row : WakeRow} :
    row ∈ wakeRows db generation ↔ row ∈ db.wake_replies generation :=
  mem_insertionSort _

/-- The problems of the stored wake state, as they are reported. -/
def wakeProblems (db : Db) (generation : String) : List String :=
  let invalidRows := ((db.wake_replies generation).rows.filter (fun row => !row.wellFormed)).length
  (if db.wake_state generation = some .invalid then ["an invalid wake_state document"] else []) ++
    if invalidRows > 0 then [toString invalidRows ++ " invalid wake_replies row(s)"] else []

/-- Invalid wake state is discarded, both tables, and rebuilt from the delivered boundary under
a fresh scan epoch. -/
def discardInvalidWakeState (db : Db) (generation : String) (fresh : Uuid) :
    Except RepresentativeError (Option String × Db) :=
  let problems := wakeProblems db generation
  if problems = [] then .ok (none, db)
  else
    let db := saveRows db generation ((db.wake_replies generation).delete (fun _ => true))
    let rebuilt (frontier : Option LocalServerCursor) : Option String × Db :=
      (some (" and ".intercalate problems),
        saveDocument db generation { emptyDocument with frontier := frontier, scan_epoch := some fresh })
    match loadDelivery db generation with
    | none => .ok (rebuilt none)
    | some delivery => (scanStart delivery).map (fun start => rebuilt start.1)

/-- What an engine transaction runs. -/
abbrev EngineBody (α : Type) := Db → String → Except RepresentativeError (α × Db)

/-- One engine transaction: the generation is still current, invalid wake state is discarded,
then the body runs. -/
def engineTransaction {α : Type} [Platform] (binding : RepresentativeBinding) (fresh : Uuid)
    (body : EngineBody α) : Transaction α := fun db =>
  match requireCurrentGeneration db binding with
  | .error e => .error e
  | .ok generation =>
    match discardInvalidWakeState db generation fresh with
    | .error e => .error e
    | .ok (_, db) => body db generation

def missingDelivery : RepresentativeError :=
  stateError "Representative delivery state is missing for the current generation"

/-- Where the delivery state says scanning starts. -/
def deliveryStart (db : Db) (generation : String) :
    Except RepresentativeError (Option LocalServerCursor × LocalServerCursor) :=
  match loadDelivery db generation with
  | none => .error missingDelivery
  | some delivery => scanStart delivery

/-! ### Discovery -/

/-- Where a discovery or probe starts, and under which scan epoch. -/
structure ScanAt where
  cursor : Option LocalServerCursor
  epoch : Option Uuid
deriving DecidableEq, Repr

/-- From the frontier, or the delivered position if the host has read further. -/
def scanOnceStart : EngineBody ScanAt := fun db generation =>
  match deliveryStart db generation with
  | .error e => .error e
  | .ok (cursor, _) =>
    match loadDocument db generation with
    | .error e => .error e
    | .ok doc => .ok (⟨later doc.frontier cursor, doc.scan_epoch⟩, db)

/-- One entry of a page: a direct reply after the floor is inserted unless it is there; with the
number of rows inserted so far. Entries come from the protocol decoder, so the row is well
formed. -/
def insertReply (binding : RepresentativeBinding) (floor : LocalServerCursor) (now : ℕ)
    (acc : Table WakeRow.entry_id × ℕ) (entry : LogEntry) : Table WakeRow.entry_id × ℕ :=
  if isAddressedCoordinatorEntry binding entry ≠ some .direct then acc
  else if comparePoints entry.point (some floor) ≤ 0 then acc
  else
    let row : WakeRow := ⟨entry.id, entry.created_at, 0, now, true⟩
    (acc.1.insertOrIgnore row, acc.2 + if (acc.1.find entry.id).isNone then 1 else 0)

/-- The rows after a page: its replies inserted, what the floor has reached deleted. -/
def mergedRows (binding : RepresentativeBinding) (floor : LocalServerCursor) (now : ℕ)
    (entries : List LogEntry) (rows : Table WakeRow.entry_id) : Table WakeRow.entry_id :=
  (entries.foldl (insertReply binding floor now) (rows, 0)).1.delete (deliveredRow (some floor))

/-- The document after a page: the frontier moves forward; the page that completes an open
cohort closes it, and another page with new replies starts the debounce, never extending it. -/
def mergedDocument (doc : WakeDocument) (now : ℕ) (scanned inserted : ℕ)
    (tail : Option LocalServerCursor) (more : Bool) (anyRow : Bool) : WakeDocument :=
  let doc := { doc with
    frontier := later doc.frontier tail
    cohort := doc.cohort.map (fun (cohort : Cohort) =>
      if cohort.isOpen then { cohort with remaining := cohort.remaining - scanned } else cohort) }
  if doc.cohort.any (fun (cohort : Cohort) => cohort.isOpen && (cohort.remaining == 0 || !more)) then
    { doc with
      cohort := doc.cohort.map (fun (cohort : Cohort) => { cohort with isOpen := false })
      startup_pending := anyRow
      debounce_at := none }
  else if inserted > 0 && !doc.cohort.any (·.isOpen) && doc.debounce_at.isNone then
    { doc with debounce_at := some (now + WAKE_DEBOUNCE_MS) }
  else doc

/-- Merges one discovery page; `none`, and no write, when the page was read under another scan
epoch. -/
def merge (binding : RepresentativeBinding) (now : ℕ) (epoch : Option Uuid)
    (entries : List LogEntry) (more : Bool) : EngineBody (Option ℕ) := fun db generation =>
  match loadDelivery db generation with
  | none => .error missingDelivery
  | some delivery =>
    match loadDocument db generation with
    | .error e => .error e
    | .ok doc =>
      if doc.scan_epoch ≠ epoch then .ok (none, db)
      else
        match scanStart delivery with
        | .error e => .error e
        | .ok (_, floor) =>
          let inserted := (entries.foldl (insertReply binding floor now)
            (db.wake_replies generation, 0)).2
          let rows := mergedRows binding floor now entries (db.wake_replies generation)
          let tail := entries.getLast?.map (·.point)
          .ok (some inserted, saveDocument (saveRows db generation rows) generation
            (mergedDocument doc now entries.length inserted tail more (rows.rows.length > 0)))

/-! ### The startup cohort -/

/-- `none`: an open cohort keeps its stored target, and no request is made. -/
def captureStart : EngineBody (Option ScanAt) := fun db generation =>
  match loadDocument db generation with
  | .error e => .error e
  | .ok doc =>
    if doc.cohort.any (·.isOpen) then .ok (none, db)
    else
      match deliveryStart db generation with
      | .error e => .error e
      | .ok (cursor, _) => .ok (some ⟨later doc.frontier cursor, doc.scan_epoch⟩, db)

/-- The entries beyond the scan position; without `behind_by` the size is unknown. -/
def captureCount (entries : List LogEntry) (behind_by : Option ℕ) : ℕ :=
  match behind_by with
  | none => 0
  | some behind_by => entries.length + behind_by

/-- Whether the probe counts; one read under an older epoch is dropped. -/
def capturePersist (epoch : Option Uuid) (count : ℕ) : EngineBody Bool := fun db generation =>
  match loadDocument db generation with
  | .error e => .error e
  | .ok doc =>
    if doc.scan_epoch ≠ epoch then .ok (false, db)
    else if doc.cohort.any (·.isOpen) then .ok (true, db)
    else .ok (true, saveDocument db generation
      { doc with cohort := some ⟨count, decide (count > 0)⟩, startup_pending := false })

/-! ### The scheduler -/

structure WakeEmission where
  wake_id : Uuid
  reason : WakeReason
  count : ℕ
deriving DecidableEq, Repr

/-- Instants a clock jump left more than 24 h ahead. -/
def clampRows (now : ℕ) (rows : Table WakeRow.entry_id) : Table WakeRow.entry_id :=
  rows.update (fun row => { row with next_at := min row.next_at (now + MAX_FUTURE_MS) })
    (fun _ => rfl)

def clampDocument (now : ℕ) (doc : WakeDocument) : WakeDocument :=
  let clamp (at_ : ℕ) : ℕ := min at_ (now + MAX_FUTURE_MS)
  { doc with
    outstanding := doc.outstanding.map (fun o => { o with deadline := clamp o.deadline })
    refusals := { doc.refusals with retry_at := doc.refusals.retry_at.map clamp }
    debounce_at := doc.debounce_at.map clamp }

/-- An outstanding batch whose deadline passed; its attempts stay counted. -/
def expireOutstanding (now : ℕ) (doc : WakeDocument) : WakeDocument :=
  if doc.outstanding.any (·.deadline ≤ now) then { doc with outstanding := none } else doc

/-- No batch may be emitted: one is outstanding, or refusal backoff, the startup cohort or the
debounce is not over. -/
def blocked (now : ℕ) (doc : WakeDocument) : Bool :=
  doc.outstanding.isSome || doc.refusals.retry_at.any (· > now) ||
    doc.cohort.any (·.isOpen) || doc.debounce_at.any (· > now)

def wakeReason (doc : WakeDocument) (due : List WakeRow) : WakeReason :=
  if doc.startup_pending then .startup
  else if due.any (·.attempts == 0) then .newReply else .rewake

/-- The due rows with one attempt more and their next wake. -/
def emittedRows (now : ℕ) (due : List WakeRow) (rows : Table WakeRow.entry_id) :
    Table WakeRow.entry_id :=
  rows.update (fun row =>
    if due.any (·.entry_id == row.entry_id) then
      { row with attempts := row.attempts + 1, next_at := now + rewakeBackoffMs (row.attempts + 1) }
    else row) (by intro row; split <;> rfl)

def emittedDocument (now : ℕ) (batch : Uuid) (due : List WakeRow) (doc : WakeDocument) :
    WakeDocument :=
  { doc with
    outstanding := some ⟨batch, due.map (·.entry_id), now + WAKE_ACK_DEADLINE_MS, wakeReason doc due⟩
    startup_pending := false
    debounce_at := none
    refusals := { doc.refusals with
      retry_at := if doc.refusals.retry_at.any (· ≤ now) then none else doc.refusals.retry_at } }

/-- One scheduler step: expire, then emit every due reply in one batch if a wake is eligible. -/
def tick (now : ℕ) (batch : Uuid) : EngineBody (Option WakeEmission) := fun db generation =>
  match loadDocument db generation with
  | .error e => .error e
  | .ok doc =>
    let db := saveRows db generation (clampRows now (db.wake_replies generation))
    let doc := expireOutstanding now (clampDocument now doc)
    let due := if blocked now doc then [] else (wakeRows db generation).filter (·.next_at ≤ now)
    if due = [] then .ok (none, saveDocument db generation doc)
    else
      .ok (some ⟨batch, wakeReason doc due, due.length⟩,
        saveDocument (saveRows db generation (emittedRows now due (db.wake_replies generation)))
          generation (emittedDocument now batch due doc))

/-- The next instant at which `tick` can change something; `none` when only discovery can. -/
def nextDueAt (now : ℕ) : EngineBody (Option ℕ) := fun db generation =>
  match loadDocument db generation with
  | .error e => .error e
  | .ok doc =>
    let ms (at_ : ℕ) : ℕ := min at_ (now + MAX_FUTURE_MS)
    let earliest := ((wakeRows db generation).map (fun row => ms row.next_at)).min?
    match doc.outstanding with
    | some o => .ok (some (ms o.deadline), db)
    | none =>
      if doc.refusals.retry_at.any (· > now) then .ok (doc.refusals.retry_at.map ms, db)
      else if doc.cohort.any (·.isOpen) then .ok (none, db)
      else
        match doc.debounce_at with
        | some debounce => .ok (earliest.map (fun at_ => max at_ (ms debounce)), db)
        | none => .ok (earliest, db)

/-! ### Acks -/

/-- A member of a parsed ack line. -/
inductive AckMember
  | text (value : String)
  | boolean (value : Bool)
  | other
deriving DecidableEq, Repr

/-- A stdin line: its length in bytes, and the members of the JSON object it parses to, each
name once; `none` for anything but an object. -/
structure AckLine where
  byteLength : ℕ
  members : Option (List (String × AckMember))
deriving DecidableEq, Repr

/-- At most 1 KiB, exactly a UUID `wake_id` and a boolean `accepted`. -/
def parseAck [Platform] (line : AckLine) : Option (Uuid × Bool) :=
  if line.byteLength > WAKE_ACK_LINE_MAX_BYTES then none
  else
    match line.members with
    | none => none
    | some members =>
      match members.lookup "wake_id", members.lookup "accepted" with
      | some (.text wakeId), some (.boolean accepted) =>
        if members.length ≠ 2 || !isRepresentativeUuid wakeId then none else some (wakeId, accepted)
      | _, _ => none

inductive AckOutcome | accepted | refused | ignored
deriving DecidableEq, Repr

/-- The members of a refused batch that are still there, one attempt less, due at the retry. -/
def refusedRows (retry : ℕ) (replies : List Uuid) (rows : Table WakeRow.entry_id) :
    Table WakeRow.entry_id :=
  rows.update (fun row =>
    if replies.contains row.entry_id then { row with attempts := row.attempts - 1, next_at := retry }
    else row) (by intro row; split <;> rfl)

/-- The transaction of a well-formed ack. The deadline is absolute: an ack after it is late. -/
def ackTransition (now : ℕ) (wake_id : Uuid) (accepted : Bool) : EngineBody AckOutcome :=
  fun db generation =>
  match loadDocument db generation with
  | .error e => .error e
  | .ok doc =>
    match doc.outstanding with
    | none => .ok (.ignored, db)
    | some o =>
      if o.deadline ≤ now then
        .ok (.ignored, saveDocument db generation { doc with outstanding := none })
      else if o.batch ≠ wake_id then .ok (.ignored, db)
      else if accepted then
        .ok (.accepted, saveDocument db generation
          { doc with outstanding := none, refusals := ⟨0, none⟩ })
      else
        let count := doc.refusals.count + 1
        let retry := now + refusalBackoffMs count
        .ok (.refused, saveDocument
          (saveRows db generation (refusedRows retry o.replies (db.wake_replies generation)))
          generation { doc with outstanding := none, refusals := ⟨count, some retry⟩ })

/-! ### The summary -/

structure WakeSummary where
  undelivered : ℕ
  outstanding : Option (Uuid × ℕ × ℕ)
  refusals : Refusals
  cohort_open : Bool
  frontier : Option LocalServerCursor
deriving DecidableEq, Repr

def summarize : EngineBody WakeSummary := fun db generation =>
  match loadDocument db generation with
  | .error e => .error e
  | .ok doc => .ok ({
      undelivered := (wakeRows db generation).length
      outstanding := doc.outstanding.map (fun o => (o.batch, o.replies.length, o.deadline))
      refusals := doc.refusals
      cohort_open := doc.cohort.any (·.isOpen)
      frontier := doc.frontier }, db)

end BorgClient.Representative
