import BorgClient.Lib.Runs

/-!
# OpenCode submissions

`opencode-drone.ts`: the entries an MCP child injects into its OpenCode session, from the queue to
the one submission of each source, which is marked in the binding file before it is made.
-/

namespace BorgClient.OpenCode
open List Runs

abbrev EntryId := String

structure PendingOpenCodeSubmission where
  sourceEntryId : EntryId
  sessionId : String
deriving DecidableEq, Repr

structure OpenCodeDeliveryRecord where
  text : String
  sourceEntryId : EntryId
deriving DecidableEq, Repr

/-- Where `deliverOpenCodeEntry` waits: for its turn or its target, for the search in the target,
for the source's owner, for the answer to the one POST, for the message to be seen. -/
inductive DeliveryStage
  | queued
  | searching (target : String) (submittedBefore : Bool)
  | ready (target : String)
  | posted
  | confirming
deriving DecidableEq, Repr

structure OpenCodeDelivery where
  entryId : EntryId
  sourceEntryId : EntryId
  text : String
  allowSubmit : Bool
  acceptedSubmission : Bool := false
  settled : Bool := false
  stage : DeliveryStage := .queued
deriving DecidableEq, Repr

abbrev PendingSubmissions := List (EntryId × PendingOpenCodeSubmission)
abbrev DeliveryRecords := List (EntryId × OpenCodeDeliveryRecord)

/-- A binding file that `bindingMatchesState` accepts: of this seat, or of its launch and not
claimed yet. -/
structure SessionBinding where
  resolved : Bool
  sessionId : String
  pendingSubmissions : PendingSubmissions
deriving DecidableEq, Repr

/-- `Map.set`: a key keeps its place. -/
def mapSet {α : Type} (key : EntryId) (value : α) (entries : List (EntryId × α)) :
    List (EntryId × α) :=
  if entries.any (·.1 == key) then
    entries.map (fun entry => if entry.1 = key then (key, value) else entry)
  else entries ++ [(key, value)]

def mapDelete {α : Type} (key : EntryId) (entries : List (EntryId × α)) : List (EntryId × α) :=
  entries.filter (·.1 != key)

/-- `new Map(entries)`. -/
def mapOf {α : Type} (entries : List (EntryId × α)) : List (EntryId × α) :=
  entries.foldl (fun built entry => mapSet entry.1 entry.2 built) []

def OPEN_CODE_DELIVERY_HISTORY_LIMIT : ℕ := 256

def rememberBounded (entries : DeliveryRecords) (entryId : EntryId) (text : String)
    (sourceEntryId : EntryId) : DeliveryRecords :=
  let entries := mapSet entryId ⟨text, sourceEntryId⟩ (mapDelete entryId entries)
  entries.drop (entries.length - OPEN_CODE_DELIVERY_HISTORY_LIMIT)

/-- The connected state with the binding file its seat and launch share. -/
structure Drone where
  sessionId : Option String := none
  pendingSubmissions : PendingSubmissions := []
  activeDeliveries : List OpenCodeDelivery := []
  deliveredEntries : DeliveryRecords := []
  unconfirmedEntries : DeliveryRecords := []
  failedEntries : DeliveryRecords := []
  file : Option SessionBinding := none
deriving DecidableEq, Repr

namespace Drone

/-- `writeBinding` of the state's own list; `ok` says whether the write succeeds. -/
def writeBinding (w : Drone) (sessionId : String) (ok : Bool) : Drone :=
  if ok then
    { w with
      sessionId := some sessionId
      file := some ⟨true, sessionId, w.pendingSubmissions⟩ }
  else w

/-- Nothing is written without a session. -/
def persistCurrentBinding (w : Drone) (ok : Bool) : Drone × Bool :=
  match w.sessionId with
  | none => (w, false)
  | some sessionId => (w.writeBinding sessionId ok, ok)

/-- `claimed` says whether an unclaimed binding can be claimed and written under the seat's
labels. -/
def restoreBinding (w : Drone) (claimed : Bool) : Drone :=
  if w.sessionId.isSome then
    if w.file.any (·.resolved) then w else { w with sessionId := none }
  else
    match w.file with
    | none => w
    | some binding =>
      if binding.resolved || claimed then
        { w with
          sessionId := some binding.sessionId
          pendingSubmissions := mapOf binding.pendingSubmissions
          file := some { binding with resolved := true } }
      else w

/-- A file that names a submission stays. -/
def clearBinding (w : Drone) : Drone :=
  { w with
    sessionId := none
    file := if w.pendingSubmissions.isEmpty then none else w.file }

def clearPendingSubmission (w : Drone) (entryId : EntryId) (ok : Bool) : Drone :=
  if w.pendingSubmissions.any (·.1 == entryId) then
    ({ w with pendingSubmissions := mapDelete entryId w.pendingSubmissions }
      |>.persistCurrentBinding ok).1
  else w

/-- The active delivery of the entry, changed. -/
def change (w : Drone) (entryId : EntryId) (f : OpenCodeDelivery → OpenCodeDelivery) : Drone :=
  { w with
    activeDeliveries := w.activeDeliveries.map
      (fun delivery => if delivery.entryId = entryId then f delivery else delivery) }

def find (w : Drone) (entryId : EntryId) : Option OpenCodeDelivery :=
  w.activeDeliveries.find? (·.entryId == entryId)

/-! ### Injections -/

/-- What a caller gets: an answer, or the promise of an active delivery. -/
inductive InjectAnswer
  | done (delivered : Bool)
  | joined (entryId : EntryId)
deriving DecidableEq, Repr

/-- A record of another entry of the same source. -/
def ofSource (records : DeliveryRecords) (entryId sourceEntryId : EntryId) :
    Option OpenCodeDeliveryRecord :=
  (records.find? (fun record => record.1 != entryId && record.2.sourceEntryId == sourceEntryId)).map
    (·.2)

def mismatch (w : Drone) (text : String) (entryId sourceEntryId : EntryId) : Drone × InjectAnswer :=
  ({ w with failedEntries := rememberBounded w.failedEntries entryId text sourceEntryId },
    .done false)

/-- `injectOpenCodeEntry` behind the look at pending submissions. -/
def enqueue (w : Drone) (text : String) (entryId : EntryId) (allowSubmit : Bool)
    (sourceEntryId : EntryId) : Drone × InjectAnswer :=
  match ofSource w.deliveredEntries entryId sourceEntryId with
  | some record => (w, .done (record.text == text))
  | none =>
  match ofSource w.unconfirmedEntries entryId sourceEntryId with
  | some record => (w, .done (record.text == text))
  | none =>
  match w.activeDeliveries.find? (fun active =>
      active.entryId != entryId && active.sourceEntryId == sourceEntryId) with
  | some active => (w, if active.text = text then .joined active.entryId else .done false)
  | none =>
  match w.deliveredEntries.lookup entryId with
  | some record =>
    if record.text ≠ text ∨ record.sourceEntryId ≠ sourceEntryId then
      w.mismatch text entryId sourceEntryId
    else (w, .done true)
  | none =>
  match w.unconfirmedEntries.lookup entryId with
  | some record =>
    if record.text ≠ text ∨ record.sourceEntryId ≠ sourceEntryId then
      w.mismatch text entryId sourceEntryId
    else (w, .done (w.pendingSubmissions.any (·.1 == entryId)))
  | none =>
  match w.find entryId with
  | some active =>
    if active.text ≠ text ∨ active.sourceEntryId ≠ sourceEntryId then
      w.mismatch text entryId sourceEntryId
    else (w, .joined entryId)
  | none =>
    ({ w with
      failedEntries := mapDelete entryId w.failedEntries
      activeDeliveries := w.activeDeliveries ++
        [{ entryId := entryId, sourceEntryId := sourceEntryId, text := text,
           allowSubmit := allowSubmit }] }, .joined entryId)

/-- A pending submission of another entry of the source. -/
def pendingSource (w : Drone) (entryId sourceEntryId : EntryId) :
    Option (EntryId × PendingOpenCodeSubmission) :=
  w.pendingSubmissions.find?
    (fun pending => pending.1 != entryId && pending.2.sourceEntryId == sourceEntryId)

/-- `none` where `depth` calls do not suffice. -/
def injectOpenCodeEntry (claimed : Bool) (text : String) (sourceEntryId : EntryId) :
    ℕ → Drone → EntryId → Bool → Option (Drone × InjectAnswer)
  | 0, _, _, _ => none
  | depth + 1, w, entryId, allowSubmit =>
    let w := w.restoreBinding claimed
    match w.pendingSource entryId sourceEntryId with
    | some pending => injectOpenCodeEntry claimed text sourceEntryId depth w pending.1 false
    | none => some (w.enqueue text entryId allowSubmit sourceEntryId)

/-! ### Settling and delivering -/

def settleOpenCodeEntry (w : Drone) (sourceEntryId : EntryId) (ok : Bool) : Drone :=
  let unconfirmed := w.unconfirmedEntries.filter (·.2.sourceEntryId == sourceEntryId)
  let active := w.activeDeliveries.filter (·.sourceEntryId == sourceEntryId)
  let pending := w.pendingSubmissions.filter (fun pending =>
    !unconfirmed.any (·.1 == pending.1) && !active.any (·.entryId == pending.1))
  let settled := { w with
    unconfirmedEntries := w.unconfirmedEntries.filter (·.2.sourceEntryId != sourceEntryId)
    failedEntries := w.failedEntries.filter (·.2.sourceEntryId != sourceEntryId)
    activeDeliveries := w.activeDeliveries.map (fun delivery =>
      if delivery.sourceEntryId = sourceEntryId then { delivery with settled := true }
      else delivery)
    pendingSubmissions := pending }
  if pending.length < w.pendingSubmissions.length then (settled.persistCurrentBinding ok).1
  else settled

/-- The target is there: its session, or the one of an earlier submission, is searched. -/
def search (w : Drone) (entryId : EntryId) (target : String) : Drone :=
  w.change entryId (fun delivery =>
    match delivery.stage with
    | .queued =>
      { delivery with stage := .searching target (w.pendingSubmissions.any (·.1 == entryId)) }
    | _ => delivery)

/-- The search found nothing. -/
def notFound (w : Drone) (entryId : EntryId) : Drone :=
  w.change entryId (fun delivery =>
    match delivery.stage with
    | .searching target submittedBefore =>
      if submittedBefore then { delivery with acceptedSubmission := true, stage := .confirming }
      else if !delivery.allowSubmit then { delivery with stage := .queued }
      else if delivery.settled then delivery
      else { delivery with stage := .ready target }
    | _ => delivery)

/-- The intent is made durable before the POST, or taken back. -/
def submit (w : Drone) (entryId : EntryId) (ok : Bool) : Drone :=
  match w.find entryId with
  | none => w
  | some delivery =>
    match delivery.stage with
    | .ready target =>
      let marked := { w with
        pendingSubmissions := mapSet entryId ⟨delivery.sourceEntryId, target⟩ w.pendingSubmissions }
      let persisted := marked.persistCurrentBinding ok
      if persisted.2 then persisted.1.change entryId (fun d => { d with stage := .posted })
      else { persisted.1 with
        pendingSubmissions := mapDelete entryId persisted.1.pendingSubmissions }
    | _ => w

/-- The POST may have been accepted. -/
def accepted (w : Drone) (entryId : EntryId) : Drone :=
  w.change entryId (fun delivery =>
    match delivery.stage with
    | .posted => { delivery with acceptedSubmission := true, stage := .confirming }
    | _ => delivery)

/-- The answer to the POST: a refusal takes the marker back, and a target that is gone the
binding. -/
def answered (w : Drone) (entryId : EntryId) (status : Option ℕ) (ok : Bool) : Drone :=
  match status with
  | some status =>
    if status ≠ 200 ∧ status ≠ 204 then
      let cleared := w.clearPendingSubmission entryId ok
      if status = 404 then cleared.clearBinding else cleared
    else w.accepted entryId
  | none => w.accepted entryId

inductive OpenCodeDeliveryOutcome
  | delivered
  | deliveredUnconfirmed
  | failed
deriving DecidableEq, Repr

def confirmOpenCodeDelivery (w : Drone) (entryId : EntryId) (text : String)
    (sourceEntryId : EntryId) (ok : Bool) : Drone :=
  if (w.unconfirmedEntries.lookup entryId).any (·.text != text) then w
  else
    let cleared := { w with
      unconfirmedEntries := mapDelete entryId w.unconfirmedEntries
      failedEntries := mapDelete entryId w.failedEntries } |>.clearPendingSubmission entryId ok
    { cleared with
      deliveredEntries := rememberBounded cleared.deliveredEntries entryId text sourceEntryId }

/-- The end of a delivery in `processOpenCodeDeliveries`. -/
def finish (w : Drone) (entryId : EntryId) (outcome : OpenCodeDeliveryOutcome) (ok : Bool) :
    Drone :=
  match w.find entryId with
  | none => w
  | some delivery =>
    let rest := { w with
      activeDeliveries := w.activeDeliveries.filter (·.entryId != entryId) }
    if delivery.settled then rest
    else
      match outcome with
      | .delivered =>
        rest.confirmOpenCodeDelivery entryId delivery.text delivery.sourceEntryId ok
      | .deliveredUnconfirmed => { rest with
          failedEntries := mapDelete entryId rest.failedEntries
          unconfirmedEntries := rememberBounded rest.unconfirmedEntries entryId delivery.text
            delivery.sourceEntryId }
      | .failed => { rest with
          unconfirmedEntries := mapDelete entryId rest.unconfirmedEntries
          failedEntries := rememberBounded rest.failedEntries entryId delivery.text
            delivery.sourceEntryId }

end Drone

/-- What the process and its surroundings do, each up to its next wait. Claims and writes carry
whether they succeed. -/
inductive DroneStep
  | inject (claimed : Bool) (depth : ℕ) (text : String) (entryId : EntryId) (allowSubmit : Bool)
    (sourceEntryId : EntryId)
  | settle (sourceEntryId : EntryId) (ok : Bool)
  /-- A probe, or a delivery that looks for its target. -/
  | restore (claimed : Bool)
  | clear
  | save (sessionId : String) (ok : Bool)
  | search (entryId : EntryId) (target : String)
  | found (entryId : EntryId) (ok : Bool)
  | notFound (entryId : EntryId)
  | submit (entryId : EntryId) (ok : Bool)
  | answered (entryId : EntryId) (status : Option ℕ) (ok : Bool)
  | finish (entryId : EntryId) (outcome : Drone.OpenCodeDeliveryOutcome) (ok : Bool)
  /-- A late sight of an unconfirmed entry. -/
  | reconcile (entryId : EntryId) (text : String) (sourceEntryId : EntryId) (ok : Bool)
  | reconnect
  /-- Another process of the launch writes the file. -/
  | write (file : Option SessionBinding)

def droneStep (w : Drone) : DroneStep → Drone
  | .inject claimed depth text entryId allowSubmit sourceEntryId =>
    ((Drone.injectOpenCodeEntry claimed text sourceEntryId depth w entryId allowSubmit).map
      (·.1)).getD (w.restoreBinding claimed)
  | .settle sourceEntryId ok => w.settleOpenCodeEntry sourceEntryId ok
  | .restore claimed => w.restoreBinding claimed
  | .clear => w.clearBinding
  | .save sessionId ok => w.writeBinding sessionId ok
  | .search entryId target => w.search entryId target
  | .found entryId ok => w.clearPendingSubmission entryId ok
  | .notFound entryId => w.notFound entryId
  | .submit entryId ok => w.submit entryId ok
  | .answered entryId status ok => w.answered entryId status ok
  | .finish entryId outcome ok => w.finish entryId outcome ok
  | .reconcile entryId text sourceEntryId ok =>
    w.confirmOpenCodeDelivery entryId text sourceEntryId ok
  | .reconnect => { file := w.file }
  | .write file => { w with file := file }

end BorgClient.OpenCode
