import BorgClient.Lib.Windows
import BorgClient.Representative.Delivery

/-!
# Reading and delivering replies

`readRepresentativeReplies` and `deliverRepresentativeReplies` of `representative-core.ts`:
the snapshot transaction, the page-by-page scan, the byte-limited window, the widening
transaction, and the deliver transaction.
-/

namespace BorgClient.Representative
open Platform List Tables

/-! ### Log entries -/

inductive Visibility | direct | broadcast
deriving DecidableEq, Repr

/-- A document citation; `details` is everything but the id. -/
structure DocumentCitation where
  id : Uuid
  details : Option String
deriving DecidableEq, Repr

structure LogEntry where
  id : Uuid
  created_at : Instant
  drone_id : Uuid
  visibility : Visibility
  recipient_drone_ids : List Uuid
  message : String
  documents : List DocumentCitation
deriving DecidableEq, Repr

def LogEntry.point (entry : LogEntry) : LocalServerCursor := ⟨entry.id, entry.created_at⟩

inductive Addressed | direct | broadcast
deriving DecidableEq, Repr

def isAddressedCoordinatorEntry (binding : RepresentativeBinding) (entry : LogEntry) :
    Option Addressed :=
  if entry.drone_id != binding.coordinatorDroneId then none
  else if entry.visibility = .direct then
    if entry.recipient_drone_ids.contains binding.representativeDroneId then some .direct else none
  else some .broadcast

structure RepresentativeReply where
  entry_id : Uuid
  created_at : Instant
  from_drone_id : Uuid
  from_label : String
  addressed : Addressed
  in_reply_to : Option Uuid
  message : String
  documents : List DocumentCitation
  document_delivery : Option String
  oversize : Bool
  documents_reduced : Bool
deriving DecidableEq, Repr

structure CheckpointView where
  entry_id : Option Uuid
  created_at : Option Instant
deriving DecidableEq, Repr

def checkpointView (point : Option LocalServerCursor) : CheckpointView :=
  ⟨point.map (·.id), point.map (·.created_at)⟩

structure ReadResult where
  replies : List RepresentativeReply
  checkpoint : CheckpointView
  has_more : Bool
  ignored_entries : ℕ
  binding_fingerprint : String
  delivery : String
deriving DecidableEq, Repr

/-- The text functions a read uses: the lower-cased UUIDs quoted in a message, and the byte
length of the serialized result. -/
class ReadText where
  quoted : String → List Uuid
  byteLength : ReadResult → ℕ

def REPRESENTATIVE_DELIVERY_NOTE : String :=
  "read returns undelivered replies without consuming them; persist, route by in_reply_to " ++
    "(unknown: hold for the human), then deliver through the last persisted entry_id. ack only " ++
    "notifies the Coordinator. A separate borg representative listen process emits body-free " ++
    "wake hints. Any number of host processes may use these tools at once; status is " ++
    "read-only. Stop routing if binding_fingerprint changes."

def DOCUMENT_DELIVERY : String :=
  "Document bodies are not included and cannot be fetched through this connection. Ask the " ++
    "Coordinator to provide the content through a supported channel."

def READ_SCAN_PAGE : ℕ := 500
def REPRESENTATIVE_ENVELOPE_FLOOR : ℕ := 16384
def SERVER_HEAD_MAX_PAGES : ℕ := 40

/-- One answer of `readAfter`. -/
structure Page where
  entries : List LogEntry
  has_more : Bool
deriving DecidableEq, Repr

/-- The newest log position: pages are read until one is the last, at most
`SERVER_HEAD_MAX_PAGES` of them. -/
def serverHead (pages : List Page) : ServerHead :=
  go (pages.take SERVER_HEAD_MAX_PAGES) none
where
  go : List Page → Option LocalServerCursor → ServerHead
    | [], _ => .unbounded
    | page :: rest, cursor =>
      let tail := page.entries.getLast?
      let cursor := (tail.map (·.point)).orElse (fun _ => cursor)
      if !page.has_more || tail.isNone then
        match cursor with
        | none => .empty
        | some point => .position point
      else go rest cursor

/-! ### Input -/

/-- The three fields as passed, none absent. -/
structure RawReadInput where
  include_broadcast : Option Bool
  limit : Option Int
  max_bytes : Option Int
deriving DecidableEq, Repr

/-- A decoded read input; the bounds come with it. -/
structure ReadInput where
  include_broadcast : Bool
  limit : ℕ
  max_bytes : ℕ
  limit_bounds : 1 ≤ limit ∧ limit ≤ 50
  max_bytes_bounds : 4096 ≤ max_bytes ∧ max_bytes ≤ 60000

def boundedError (name : String) (min max : ℕ) : RepresentativeError :=
  ⟨.INVALID_INPUT, name ++ " must be an integer from " ++ toString min ++ " to " ++ toString max ++
    ".", none⟩

lemma bounded_toNat {min max : ℕ} {value : Int} (h : (min : Int) ≤ value ∧ value ≤ max) :
    min ≤ value.toNat ∧ value.toNat ≤ max := by
  omega

/-- An absent field takes its fallback, which lies within the bounds. -/
def bounded (name : String) (min max : ℕ) (fallback : { n : ℕ // min ≤ n ∧ n ≤ max })
    (value : Option Int) : Except RepresentativeError { n : ℕ // min ≤ n ∧ n ≤ max } :=
  match value with
  | none => .ok fallback
  | some value =>
    if h : (min : Int) ≤ value ∧ value ≤ max then .ok ⟨value.toNat, bounded_toNat h⟩
    else .error (boundedError name min max)

def readInput (raw : RawReadInput) : Except RepresentativeError ReadInput :=
  match bounded "limit" 1 50 ⟨10, by omega⟩ raw.limit with
  | .error e => .error e
  | .ok limit =>
    match bounded "max_bytes" 4096 60000 ⟨32768, by omega⟩ raw.max_bytes with
    | .error e => .error e
    | .ok maxBytes =>
      .ok ⟨raw.include_broadcast == some true, limit, maxBytes, limit.2, maxBytes.2⟩

/-! ### The scan -/

structure Candidate where
  reply : RepresentativeReply
  point : LocalServerCursor
  ignoredBefore : ℕ
deriving DecidableEq, Repr

structure ScanState where
  candidates : List Candidate
  ignored : ℕ
  cursor : Option LocalServerCursor
  last : LocalServerCursor
  done : Bool
deriving DecidableEq, Repr

/-- Whether a read of this input wants an entry, and how it is addressed. -/
def wanted (binding : RepresentativeBinding) (include_broadcast : Bool) (entry : LogEntry) :
    Option Addressed :=
  match isAddressedCoordinatorEntry binding entry with
  | some .broadcast => if include_broadcast then some .broadcast else none
  | addressed => addressed

section Scan

variable [ReadText] (binding : RepresentativeBinding) (input : ReadInput) (requestIds : List Uuid)

def replyOf (entry : LogEntry) (addressed : Addressed) : RepresentativeReply where
  entry_id := entry.id
  created_at := entry.created_at
  from_drone_id := binding.coordinatorDroneId
  from_label := binding.coordinatorLabel
  addressed := addressed
  in_reply_to := (ReadText.quoted entry.message).find? (requestIds.contains ·)
  message := entry.message
  documents := entry.documents
  document_delivery := if entry.documents.isEmpty then none else some DOCUMENT_DELIVERY
  oversize := false
  documents_reduced := false

/-- One entry of a page: never repeat, regress, or precede the start; the first candidate
beyond the limit ends the scan. -/
def scanEntry (s : ScanState) (entry : LogEntry) : ScanState :=
  if s.done || comparePoints entry.point (some s.last) ≤ 0 then s
  else
    match wanted binding input.include_broadcast entry with
    | none => { s with last := entry.point, ignored := s.ignored + 1 }
    | some addressed =>
      let candidates := s.candidates ++
        [⟨replyOf binding requestIds entry addressed, entry.point, s.ignored⟩]
      { s with last := entry.point, candidates := candidates,
               done := decide (candidates.length > input.limit) }

def scanPage (s : ScanState) (page : Page) : ScanState :=
  let s := page.entries.foldl (scanEntry binding input requestIds) s
  if s.done then s
  else
    match page.entries.getLast? with
    | none => { s with done := true }
    | some tail =>
      if page.has_more then { s with cursor := some tail.point } else { s with done := true }

end Scan

/-! ### The window -/

/-- `while (count < bound && fits(count + 1)) count += 1`, at most `remaining` times. -/
def countFitting (fits : ℕ → Bool) : ℕ → ℕ → ℕ
  | 0, count => count
  | remaining + 1, count =>
    if fits (count + 1) then countFitting fits remaining (count + 1) else count

lemma countFitting_le (fits : ℕ → Bool) :
    ∀ remaining count, countFitting fits remaining count ≤ count + remaining
  | 0, count => le_rfl
  | remaining + 1, count => by
    unfold countFitting
    split
    · have h := countFitting_le fits remaining (count + 1)
      omega
    · omega

/-- The first reply with its citations reduced to ids. -/
def reduceDocuments (result : ReadResult) : ReadResult :=
  match result.replies with
  | [] => result
  | reply :: rest => { result with replies :=
      { reply with
        documents := reply.documents.map (fun document => ⟨document.id, none⟩)
        documents_reduced := true } :: rest }

lemma reduceDocuments_replies_length (result : ReadResult) :
    (reduceDocuments result).replies.length = result.replies.length := by
  unfold reduceDocuments
  split
  · rfl
  · rename_i h
    rw [h]
    rfl

section Window

variable [Platform] (binding : RepresentativeBinding) (input : ReadInput) (state : DeliveryState)
  (s : ScanState)

def readResult (count : ℕ) (oversize : Bool) : ReadResult where
  replies := ((s.candidates.take count).map (·.reply)).mapIdx (fun index reply =>
    if oversize && index == 0 then { reply with oversize := true } else reply)
  checkpoint := checkpointView state.checkpoint
  has_more := decide (s.candidates.length > count)
  ignored_entries := match s.candidates[count]? with
    | some candidate => candidate.ignoredBefore
    | none => s.ignored
  binding_fingerprint := bindingFingerprint binding
  delivery := REPRESENTATIVE_DELIVERY_NOTE

lemma readResult_replies_length (count : ℕ) (oversize : Bool) :
    (readResult binding state s count oversize).replies.length = min count s.candidates.length := by
  simp [readResult]

variable [ReadText]

/-- How many whole replies fit `max_bytes`. -/
def fittingCount : ℕ :=
  countFitting (fun count =>
      decide (ReadText.byteLength (readResult binding state s count false) ≤ input.max_bytes))
    (min input.limit s.candidates.length) 0

/-- Whether the next reply is oversize, and the result before it is refused for that. -/
def fittedResult : Bool × ReadResult :=
  let count := fittingCount binding input state s
  let oversize := count == 0 && s.candidates.length > 0
  let final := readResult binding state s (if oversize then 1 else count) oversize
  if oversize && final.replies.head?.any (fun reply => !reply.documents.isEmpty) &&
      ReadText.byteLength final > max input.max_bytes REPRESENTATIVE_ENVELOPE_FLOOR then
    (oversize, reduceDocuments final)
  else (oversize, final)

/-- The result to return, or the refusal of a reply that does not fit even alone. -/
def finalResult : Except RepresentativeError ReadResult :=
  let (oversize, final) := fittedResult binding input state s
  let bound := max input.max_bytes REPRESENTATIVE_ENVELOPE_FLOOR
  let measured := ReadText.byteLength final
  if oversize && measured > bound then
    .error ⟨.REPRESENTATIVE_READ_OVERSIZE, "The next reply does not fit " ++ toString bound ++
      " bytes even alone with its citations reduced to ids. Nothing was read or advanced. " ++
      "Raise max_bytes (up to 60000); beyond that the operator must reduce the server post limit.",
      some { entry_id := final.replies.head?.map (·.entry_id), measured_bytes := some measured,
             bound := some bound }⟩
  else .ok final

lemma fittedResult_length : (fittedResult binding input state s).2.replies.length ≤ input.limit := by
  have hcount : fittingCount binding input state s ≤ input.limit := by
    have hle := countFitting_le (fun count => decide (ReadText.byteLength
      (readResult binding state s count false) ≤ input.max_bytes))
      (min input.limit s.candidates.length) 0
    unfold fittingCount
    omega
  have hpos := input.limit_bounds.1
  have hsame : ∀ (oversize reduce : Bool) (final : ReadResult),
      (if reduce then (oversize, reduceDocuments final) else (oversize, final)).2.replies.length =
        final.replies.length := by
    intro oversize reduce final
    cases reduce
    · rfl
    · exact reduceDocuments_replies_length final
  unfold fittedResult
  dsimp only
  rw [hsame, readResult_replies_length]
  split <;> omega

/-- A read returns at most `limit` replies. -/
lemma finalResult_length {final : ReadResult} (h : finalResult binding input state s = .ok final) :
    final.replies.length ≤ input.limit := by
  unfold finalResult at h
  dsimp only at h
  split at h
  · cases h
  · cases h
    exact fittedResult_length binding input state s

/-- The positions of the replies returned. -/
def readWindow (final : ReadResult) : List LocalServerCursor :=
  (s.candidates.take final.replies.length).map (·.point)

end Window

/-! ### Transactions -/

section Transactions

variable [Platform]

/-- T1: the window start and the ledger's request ids. -/
def readSnapshot (binding : RepresentativeBinding) : Transaction (DeliveryState × List Uuid) :=
  fun db =>
  match requireCurrentGeneration db binding with
  | .error e => .error e
  | .ok generation =>
    match loadDelivery db generation with
    | none => .error (stateError "Representative delivery state is missing for the current generation")
    | some state => .ok ((state, (db.requests generation).rows.map (·.requestId)), db)

/-- T2: the fence and the membership widen before the caller sees the entries. -/
def widenTransaction (binding : RepresentativeBinding) (window : List LocalServerCursor) :
    Transaction Unit := fun db =>
  match requireCurrentGeneration db binding with
  | .error e => .error e
  | .ok generation => (widenReadWindow db generation window).map (fun db' => ((), db'))

structure DeliverResult where
  checkpoint : CheckpointView
  advanced : Bool
  binding_fingerprint : String
deriving DecidableEq, Repr

/-- The refusal of an entry outside the read window. -/
def outside : RepresentativeError :=
  ⟨.REPRESENTATIVE_DELIVER_UNKNOWN_ENTRY, "That entry is not in the current read window: " ++
    "deliver only a reply that borg_representative_read returned. Nothing changed.", none⟩

/-- Membership of the full tuple against the current rows, then the forward-only advance. -/
def deliverTransaction (binding : RepresentativeBinding) (point : LocalServerCursor) :
    Transaction DeliverResult := fun db =>
  match requireCurrentGeneration db binding with
  | .error e => .error e
  | .ok generation =>
    match loadDelivery db generation with
    | none => .error (stateError "Representative delivery state is missing for the current generation")
    | some state =>
      if state.checkpoint.isSome && comparePoints point state.checkpoint ≤ 0 then
        .ok (⟨checkpointView state.checkpoint, false, bindingFingerprint binding⟩, db)
      else if !state.returned.contains point || state.readThrough.isNone ||
          comparePoints point state.readThrough > 0 then .error outside
      else (advanceCheckpoint db generation point).map (fun out =>
        (⟨checkpointView out.1.2.checkpoint,
          out.1.2.checkpoint.any (fun after => 0 < comparePoints after out.1.1.checkpoint),
          bindingFingerprint binding⟩, out.2))

lemma readSnapshot_ok {db : Db} {binding : RepresentativeBinding} {state : DeliveryState}
    {requestIds : List Uuid}
    (h : (transact db (readSnapshot binding)).1 = .ok (state, requestIds)) :
    loadDelivery db (bindingFingerprint binding) = some state := by
  unfold transact readSnapshot at h
  cases hg : requireCurrentGeneration db binding with
  | error e => simp [hg] at h
  | ok generation =>
    obtain rfl := (requireCurrentGeneration_eq_ok.mp hg).1
    cases hl : loadDelivery db (bindingFingerprint binding) with
    | none => simp [hg, hl] at h
    | some d =>
      simp only [hg, hl, Except.ok.injEq, Prod.mk.injEq] at h
      rw [h.1]

lemma widenTransaction_ok {db db' : Db} {binding : RepresentativeBinding}
    {window : List LocalServerCursor}
    (h : transact db (widenTransaction binding window) = (.ok (), db')) :
    widenReadWindow db (bindingFingerprint binding) window = .ok db' := by
  unfold transact widenTransaction at h
  cases hg : requireCurrentGeneration db binding with
  | error e => simp [hg] at h
  | ok generation =>
    obtain rfl := (requireCurrentGeneration_eq_ok.mp hg).1
    cases hw : widenReadWindow db (bindingFingerprint binding) window with
    | error e => simp [hg, hw, Except.map] at h
    | ok db'' =>
      simp only [hg, hw, Except.map, Prod.mk.injEq, true_and] at h
      rw [h]

/-- A deliver changes nothing, or advances the checkpoint to a returned reply within the
fence. -/
lemma deliverTransaction_cases (db : Db) (binding : RepresentativeBinding)
    (point : LocalServerCursor) :
    (transact db (deliverTransaction binding point)).2 = db ∨
    ∃ d r out, loadDelivery db (bindingFingerprint binding) = some d ∧ point ∈ d.returned ∧
      d.readThrough = some r ∧ point ≤ r ∧ 0 < comparePoints point d.checkpoint ∧
      advanceCheckpoint db (bindingFingerprint binding) point =
        .ok (out, (transact db (deliverTransaction binding point)).2) := by
  unfold transact deliverTransaction
  cases hg : requireCurrentGeneration db binding with
  | error e => exact Or.inl rfl
  | ok generation =>
    obtain rfl := (requireCurrentGeneration_eq_ok.mp hg).1
    simp only
    cases hl : loadDelivery db (bindingFingerprint binding) with
    | none => exact Or.inl rfl
    | some d =>
      simp only
      by_cases hbefore : (d.checkpoint.isSome && comparePoints point d.checkpoint ≤ 0) = true
      · rw [if_pos hbefore]
        exact Or.inl rfl
      · rw [if_neg hbefore]
        by_cases hout : (!d.returned.contains point || d.readThrough.isNone ||
            comparePoints point d.readThrough > 0) = true
        · rw [if_pos hout]
          exact Or.inl rfl
        · rw [if_neg hout]
          cases hadv : advanceCheckpoint db (bindingFingerprint binding) point with
          | error e => exact Or.inl rfl
          | ok out =>
            right
            simp only [Bool.or_eq_true, Bool.not_eq_true', not_or, Bool.not_eq_false,
              List.contains_iff_mem, Option.isNone_iff_eq_none, decide_eq_true_eq] at hout
            obtain ⟨⟨hmem, hnone⟩, hle⟩ := hout
            obtain ⟨r, hr⟩ := Option.ne_none_iff_exists'.mp hnone
            refine ⟨d, r, out.1, rfl, hmem, hr, ?_, ?_, rfl⟩
            · rw [hr] at hle
              rw [← comparePoints_nonpos]
              omega
            · cases hc : d.checkpoint with
              | none => simp [comparePoints]
              | some c =>
                simp only [hc, Option.isSome_some, Bool.true_and, decide_eq_true_eq] at hbefore
                omega

/-- `deliverRepresentativeReplies`: the entry as the server reports it, then the transaction. -/
def deliverReplies (binding : RepresentativeBinding) (entries : List LogEntry) (through : Uuid) :
    Transaction DeliverResult := fun db =>
  match entries.find? (·.id == through) with
  | none => .error outside
  | some entry =>
    if (isAddressedCoordinatorEntry binding entry).isNone then .error outside
    else deliverTransaction binding entry.point db

end Transactions

end BorgClient.Representative
