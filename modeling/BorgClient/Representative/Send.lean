import BorgClient.Lib.Runs
import BorgClient.Representative.Store

/-!
# Sending one message to the Coordinator

`sendOnce` of `representative-core.ts` as a state machine: the reserve transaction, the
live-binding check, the append (one transport attempt) and the settle or release
transaction are separate steps of one attempt, and a process may die between any two.
-/

namespace BorgClient.Representative
open Platform List Tables

structure RepresentativeSendInput where
  request_id : Option Uuid
  kind : RepresentativeKind
  authorization : RepresentativeAuthorization
  message : String
deriving DecidableEq, Repr

structure CoordinatorRef where
  drone_id : Uuid
  label : String
deriving DecidableEq, Repr

structure SendFailureCause where
  code : String
  message : String
deriving DecidableEq, Repr

inductive SendOutcome | sent | ambiguous
deriving DecidableEq, Repr

structure RepresentativeSendResult where
  outcome : SendOutcome
  request_id : Uuid
  entry_id : Option Uuid := none
  deduplicated : Option Bool := none
  duplicate : Option Bool := none
  coordinator : CoordinatorRef
  warning : Option String := none
  cause : Option SendFailureCause := none
  guidance : Option String := none
deriving DecidableEq, Repr

/-! ### The live-binding check -/

structure RosterRole where
  id : Uuid
  name : String
  is_human_seat : Bool
  role_class : Option String
deriving DecidableEq, Repr

structure RosterDrone where
  id : Uuid
  label : String
  role_id : Uuid
  is_queen_class : Bool
deriving DecidableEq, Repr

structure Roster where
  drones : List RosterDrone
  roles : List RosterRole
deriving DecidableEq, Repr

structure Whoami where
  cube_id : Uuid
  drone_id : Uuid
deriving DecidableEq, Repr

def assertRepresentativeRole (role : RosterRole) (drone : RosterDrone) :
    Except RepresentativeError Unit :=
  if role.is_human_seat || role.role_class == some "queen" || drone.is_queen_class then
    .error ⟨.REPRESENTATIVE_ROLE_NOT_PERMITTED, "Role " ++ role.name.quote ++
      " is a human-seat or coordinating role. The human representative must hold its own " ++
      "separate non-human-seat worker role and never occupies or replaces the Coordinator.", none⟩
  else .ok ()

/-- What the backend answered to `whoami` and `roster`, or the message of what it threw. -/
structure LiveAnswer where
  whoami : Except String Whoami
  roster : Except String Roster

/-- An error of the backend passes through `sendOnce` as it is. -/
def backendError (message : String) : RepresentativeError := ⟨.BACKEND_ERROR, message, none⟩

/-- Re-prove, against the live cube, that this seat and the bound Coordinator are still the
bound ones. -/
def verifyLiveBinding (binding : RepresentativeBinding) (answer : LiveAnswer) :
    Except RepresentativeError (RosterDrone × RosterDrone) :=
  match answer.whoami with
  | .error message => .error (backendError message)
  | .ok me =>
    if me.cube_id != binding.cubeId || me.drone_id != binding.representativeDroneId then
      .error ⟨.BINDING_MISMATCH, "The live connection is not the bound cube/drone. Run `" ++
        representativeRecoveryCommand binding ++ "` explicitly; nothing was sent.", none⟩
    else match answer.roster with
    | .error message => .error (backendError message)
    | .ok roster =>
      let self := roster.drones.find? (·.id == binding.representativeDroneId)
      let selfRole := self.bind (fun s => roster.roles.find? (·.id == s.role_id))
      match self, selfRole with
      | some self, some selfRole =>
        match assertRepresentativeRole selfRole self with
        | .error e => .error e
        | .ok () =>
          let coordinator := roster.drones.find? (·.id == binding.coordinatorDroneId)
          let coordinatorRole := coordinator.bind
            (fun c => roster.roles.find? (·.id == c.role_id))
          match coordinator with
          | some coordinator =>
            if coordinatorRole.any (·.is_human_seat) then .ok (coordinator, self)
            else .error (unavailable binding)
          | none => .error (unavailable binding)
      | _, _ =>
        .error ⟨.SEAT_UNAVAILABLE,
          "The representative drone is no longer active in the cube.", none⟩
where
  unavailable (binding : RepresentativeBinding) : RepresentativeError :=
    ⟨.COORDINATOR_UNAVAILABLE, "The bound Coordinator " ++ binding.coordinatorLabel.quote ++
      " is no longer an active human-seat drone in this cube (evicted, released or reassigned). " ++
      "Restore that Coordinator before running `" ++ representativeRecoveryCommand binding ++
      "`, or explicitly select a replacement Coordinator; no other drone was selected.", none⟩

/-! ### Append outcomes -/

/-- The error classes an append may throw; each carries its sanitized, bounded message. -/
inductive AppendError
  | borgServer (code : String) (message : String)
  | droneEvicted (message : String)
  | cubeDeleted (message : String)
  | http (status : ℕ) (code : Option String) (message : String)
  | unreachable (message : String)
  | protocolMismatch (message : String)
  | protocolContract (message : String)
  | trust (message : String)
  | unknown (message : String)
deriving DecidableEq, Repr

structure AppendFailure where
  definite : Bool
  cause : SendFailureCause
  recovery : String
deriving DecidableEq, Repr

/-- `/^[A-Z0-9_]{1,64}$/`. -/
def isCauseCode (code : String) : Bool :=
  let chars := code.toList
  1 ≤ chars.length && chars.length ≤ 64 &&
    chars.all (fun c => ('A' ≤ c && c ≤ 'Z') || ('0' ≤ c && c ≤ '9') || c == '_')

/-- Classify one failed append. `definite` is claimed only for a typed refusal the server
returned to the single transport attempt. -/
def classifyAppendFailure (error : AppendError) (binding : RepresentativeBinding) :
    AppendFailure :=
  let prepareRecovery := "The operator must restore this connection: run `" ++
    representativeRecoveryCommand binding ++ "`, then restart the MCP process."
  let otherRecovery :=
    "An unrecognised failure interrupted the send. Check `borg representative status`, then retry."
  match error with
  | .borgServer code message =>
    if code == "SESSION_REJECTED" || code == "SESSION_REVOKED" || code == "CREDENTIAL_REJECTED" then
      ⟨true, ⟨code, message⟩, prepareRecovery⟩
    else ⟨false, ⟨"UNKNOWN", message⟩, otherRecovery⟩
  | .droneEvicted message => ⟨true, ⟨"DRONE_EVICTED", message⟩, prepareRecovery⟩
  | .cubeDeleted message => ⟨true, ⟨"CUBE_DELETED", message⟩, prepareRecovery⟩
  | .http status code message =>
    let cause : SendFailureCause :=
      ⟨(code.filter isCauseCode).getD ("HTTP_" ++ toString status), message⟩
    if 400 ≤ status && status < 500 then
      ⟨true, cause,
        if status == 429 then
          "The server is rate limiting this drone. Wait, then retry with the same request_id " ++
            "and identical content."
        else if status == 409 then
          "The server already holds a DIFFERENT message under this request_id. Do not resend; " ++
            "ask the operator to inspect the cube log."
        else if status == 401 || status == 403 then
          "The server denied this drone. " ++ prepareRecovery
        else
          "The server refused this content. Correct it and send it as a new request, or ask " ++
            "the operator."⟩
    else
      ⟨false, cause, "The server reported an internal error and may or may not have stored the " ++
        "message. Check the server, then retry."⟩
  | .unreachable message =>
    ⟨false, ⟨"SERVER_UNREACHABLE", message⟩, "The server did not answer in time; the request " ++
      "may still have arrived. Check that the Borg server is running, then retry."⟩
  | .protocolMismatch message => ⟨false, ⟨"PROTOCOL_MISMATCH", message⟩, unreadable⟩
  | .protocolContract message => ⟨false, ⟨"PROTOCOL_CONTRACT", message⟩, unreadable⟩
  | .trust message =>
    ⟨false, ⟨"SERVER_TRUST", message⟩, "The server's pinned TLS identity could not be " ++
      "confirmed. The operator must verify the server before any retry."⟩
  | .unknown message => ⟨false, ⟨"UNKNOWN", message⟩, otherRecovery⟩
where
  unreadable : String :=
    "The server's response could not be read, which can happen AFTER it stored the message. " ++
      "The operator should check that client and server versions match (`borg update`), " ++
      "then retry."

/-- The part of a successful append's answer the send result reads. -/
structure AppendedEntry where
  id : Uuid
  visibility : String
  recipient_drone_ids : List Uuid
  deduplicated : Bool
  unreachableRecipients : List Uuid
deriving DecidableEq, Repr

inductive AppendOutcome
  | appended (entry : AppendedEntry)
  | failed (error : AppendError)
deriving DecidableEq, Repr

def AppendOutcome.definiteRefusal (o : AppendOutcome) (binding : RepresentativeBinding) : Bool :=
  match o with
  | .appended _ => false
  | .failed error => (classifyAppendFailure error binding).definite

inductive SettledState | sent | ambiguous | rejected
deriving DecidableEq, Repr

def SettledState.state : SettledState → RepresentativeRequestState
  | .sent => .sent
  | .ambiguous => .ambiguous
  | .rejected => .rejected

/-- The state an answered append is settled in. -/
def AppendOutcome.settledState (o : AppendOutcome) (binding : RepresentativeBinding) :
    SettledState :=
  match o with
  | .appended _ => .sent
  | .failed error => if (classifyAppendFailure error binding).definite then .rejected else .ambiguous

lemma definiteRefusal_of_settledState {o : AppendOutcome} {binding : RepresentativeBinding}
    (hs : o.settledState binding ≠ .sent) (ha : o.settledState binding ≠ .ambiguous) :
    o.definiteRefusal binding = true := by
  cases o with
  | appended entry => exact absurd rfl hs
  | failed error =>
    unfold AppendOutcome.settledState at ha
    unfold AppendOutcome.definiteRefusal
    by_contra h
    simp [h] at ha

def AppendOutcome.entryId : AppendOutcome → Option Uuid
  | .appended entry => some entry.id
  | .failed _ => none

/-! ### The three ledger transactions -/

/-- The records with the one under `id` rewritten. -/
def modifyRecord (id : Uuid) (f : RepresentativeRequestRecord → RepresentativeRequestRecord)
    (records : List RepresentativeRequestRecord) : List RepresentativeRequestRecord :=
  records.map (fun r => if r.requestId == id then f r else r)

inductive Reservation
  | alreadySent (entryId : Option Uuid)
  | reserved (prior : Option RepresentativeRequestState)
deriving DecidableEq, Repr

def requestIdConflict : RepresentativeError :=
  ⟨.REQUEST_ID_CONFLICT, "This request_id was already used for different content. " ++
    "Use a new request for new content.", none⟩

def ambiguousSendUnresolved (requestId : Uuid) : RepresentativeError :=
  ⟨.AMBIGUOUS_SEND_UNRESOLVED,
    "Identical content already has an in-flight or unresolved send under request_id " ++
      requestId ++ ". Wait for that call, then retry with that request_id instead of creating " ++
      "a new one.", none⟩

def RepresentativeRequestRecord.unresolved (record : RepresentativeRequestRecord) : Bool :=
  record.state == .ambiguous || record.state == .pending

lemma unresolved_iff {r : RepresentativeRequestRecord} :
    r.unresolved = true ↔ r.state = .ambiguous ∨ r.state = .pending := by
  simp [RepresentativeRequestRecord.unresolved]

lemma not_settled_of_unresolved {r : RepresentativeRequestRecord} (h : r.unresolved = true) :
    r.settled = false := by
  rcases unresolved_iff.mp h with h | h <;> simp [RepresentativeRequestRecord.settled, h]

/-- The record a first reservation pushes. -/
def reservedRecord (input : RepresentativeSendInput) (requestId : Uuid) (digest : String)
    (stamp : Instant) : RepresentativeRequestRecord where
  requestId := requestId
  payloadDigest := digest
  kind := input.kind
  authorization := input.authorization
  state := .pending
  entryId := none
  maybeStored := false
  createdAt := stamp
  updatedAt := stamp

/-- Reserving an existing record again: an earlier attempt under its id may have reached the
log, unless the record was settled. -/
def reserveAgain (stamp : Instant) (record : RepresentativeRequestRecord) :
    RepresentativeRequestRecord :=
  { record with
    maybeStored := record.maybeStored || record.unresolved
    state := .pending
    updatedAt := stamp }

/-- Look up, decide conflicts, and reserve the id as `pending`. -/
def reserve (input : RepresentativeSendInput) (candidateId : Uuid) (digest : String)
    (stamp : Instant) (records : List RepresentativeRequestRecord) :
    Except RepresentativeError (Reservation × List RepresentativeRequestRecord) :=
  let unresolved := records.find? (fun candidate =>
    candidate.payloadDigest == digest && candidate.unresolved &&
      candidate.requestId != candidateId)
  match input.request_id.bind (fun id => records.find? (·.requestId == id)) with
  | some record =>
    if record.payloadDigest != digest then .error requestIdConflict
    else if record.state == .sent then .ok (.alreadySent record.entryId, records)
    else match (if record.state == .rejected then unresolved else none) with
    | some other => .error (ambiguousSendUnresolved other.requestId)
    | none =>
      .ok (.reserved (some record.state),
        modifyRecord record.requestId (reserveAgain stamp) records)
  | none =>
    match unresolved with
    | some other => .error (ambiguousSendUnresolved other.requestId)
    | none => .ok (.reserved none, records ++ [reservedRecord input candidateId digest stamp])

/-- Settling one record: `sent` is terminal, and a definite refusal never hides an attempt
that may be stored. -/
def settleRecord (state : SettledState) (entryId : Option Uuid) (stamp : Instant)
    (record : RepresentativeRequestRecord) : RepresentativeRequestRecord :=
  if record.state = .sent then record
  else
    let maybeStored := record.maybeStored || state == .ambiguous
    { record with
      maybeStored := maybeStored && state != .sent
      state := if state == .rejected && maybeStored then .ambiguous else state.state
      updatedAt := stamp
      entryId := if state == .sent then entryId else record.entryId }

/-- The record a settlement creates when it finds none, already in `state`. -/
def settledRecord (input : RepresentativeSendInput) (requestId : Uuid) (digest : String)
    (state : SettledState) (stamp : Instant) : RepresentativeRequestRecord where
  requestId := requestId
  payloadDigest := digest
  kind := input.kind
  authorization := input.authorization
  state := state.state
  entryId := none
  maybeStored := false
  createdAt := stamp
  updatedAt := stamp

/-- The settle transaction; a missing record is created first. -/
def settle (input : RepresentativeSendInput) (requestId : Uuid) (digest : String)
    (state : SettledState) (entryId : Option Uuid) (stamp : Instant)
    (records : List RepresentativeRequestRecord) :
    Except RepresentativeError (RepresentativeRequestState × List RepresentativeRequestRecord) :=
  match records.find? (·.requestId == requestId) with
  | some record =>
    .ok ((settleRecord state entryId stamp record).state,
      modifyRecord requestId (settleRecord state entryId stamp) records)
  | none =>
    let record := settleRecord state entryId stamp
      (settledRecord input requestId digest state stamp)
    .ok (record.state, records ++ [record])

def withState (state : RepresentativeRequestState) (record : RepresentativeRequestRecord) :
    RepresentativeRequestRecord :=
  { record with state := state }

/-- The release transaction after a failed live check: only a sole, never-posted reservation
is undone. -/
def release (requestId : Uuid) (prior : Option RepresentativeRequestState)
    (records : List RepresentativeRequestRecord) :
    Except RepresentativeError (Unit × List RepresentativeRequestRecord) :=
  match records.find? (·.requestId == requestId) with
  | none => .ok ((), records)
  | some record =>
    if record.state != .pending then .ok ((), records)
    else if record.maybeStored then
      if prior = some .ambiguous then
        .ok ((), modifyRecord requestId (withState .ambiguous) records)
      else .ok ((), records)
    else match prior with
    | none => .ok ((), records.filter (·.requestId != requestId))
    | some prior => .ok ((), modifyRecord requestId (withState prior) records)

/-! ### What each transaction does to the records -/

lemma mem_modifyRecord {id : Uuid} {f : RepresentativeRequestRecord → RepresentativeRequestRecord}
    {records : List RepresentativeRequestRecord} {r : RepresentativeRequestRecord}
    (hr : r ∈ records) :
    (if r.requestId = id then f r else r) ∈ modifyRecord id f records := by
  unfold modifyRecord
  rw [mem_map]
  refine ⟨r, hr, ?_⟩
  by_cases h : r.requestId = id <;> simp [h]

lemma mem_modifyRecord_self {id : Uuid}
    {f : RepresentativeRequestRecord → RepresentativeRequestRecord}
    {records : List RepresentativeRequestRecord} {r : RepresentativeRequestRecord}
    (hr : r ∈ records) (hid : r.requestId = id) : f r ∈ modifyRecord id f records := by
  have h : (if r.requestId = id then f r else r) ∈ modifyRecord id f records :=
    mem_modifyRecord hr
  rwa [if_pos hid] at h

lemma mem_modifyRecord_other {id : Uuid}
    {f : RepresentativeRequestRecord → RepresentativeRequestRecord}
    {records : List RepresentativeRequestRecord} {r : RepresentativeRequestRecord}
    (hr : r ∈ records) (hid : r.requestId ≠ id) : r ∈ modifyRecord id f records := by
  have h : (if r.requestId = id then f r else r) ∈ modifyRecord id f records :=
    mem_modifyRecord hr
  rwa [if_neg hid] at h

lemma modifyRecord_ids {id : Uuid} {f : RepresentativeRequestRecord → RepresentativeRequestRecord}
    (hf : ∀ r, (f r).requestId = r.requestId) (records : List RepresentativeRequestRecord) :
    (modifyRecord id f records).map (·.requestId) = records.map (·.requestId) := by
  unfold modifyRecord
  rw [map_map]
  apply map_congr_left
  intro r _
  by_cases h : r.requestId = id <;> simp [h, hf]

@[simp] lemma reserveAgain_requestId (stamp : Instant) (r : RepresentativeRequestRecord) :
    (reserveAgain stamp r).requestId = r.requestId := rfl

@[simp] lemma withState_requestId (state : RepresentativeRequestState)
    (r : RepresentativeRequestRecord) : (withState state r).requestId = r.requestId := rfl

@[simp] lemma settleRecord_requestId (state : SettledState) (entryId : Option Uuid)
    (stamp : Instant) (r : RepresentativeRequestRecord) :
    (settleRecord state entryId stamp r).requestId = r.requestId := by
  unfold settleRecord
  split <;> rfl

@[simp] lemma settleRecord_payloadDigest (state : SettledState) (entryId : Option Uuid)
    (stamp : Instant) (r : RepresentativeRequestRecord) :
    (settleRecord state entryId stamp r).payloadDigest = r.payloadDigest := by
  unfold settleRecord
  split <;> rfl

/-- An unresolved record that may be stored stays so unless it is settled `sent`. -/
lemma settleRecord_of_maybeStored {state : SettledState} (entryId : Option Uuid) (stamp : Instant)
    {r : RepresentativeRequestRecord} (hun : r.unresolved = true) (hs : state ≠ .sent)
    (hm : (r.maybeStored || state == .ambiguous) = true) :
    (settleRecord state entryId stamp r).unresolved = true ∧
      (settleRecord state entryId stamp r).maybeStored = true := by
  have hns : r.state ≠ .sent := by
    rcases unresolved_iff.mp hun with h | h <;> simp [h]
  unfold settleRecord
  rw [if_neg hns]
  cases state with
  | sent => exact absurd rfl hs
  | ambiguous => simp [RepresentativeRequestRecord.unresolved, SettledState.state]
  | rejected =>
    have hmay : r.maybeStored = true := by simpa using hm
    simp [RepresentativeRequestRecord.unresolved, hmay]

/-- Only the record under `id` changed, was dropped or was added. -/
structure KeepsOthers (id : Uuid) (records records' : List RepresentativeRequestRecord) : Prop where
  nodup : (records'.map (·.requestId)).Nodup
  keep : ∀ r ∈ records, r.requestId ≠ id → r ∈ records'

lemma KeepsOthers.refl (id : Uuid) {records : List RepresentativeRequestRecord}
    (hu : (records.map (·.requestId)).Nodup) : KeepsOthers id records records :=
  ⟨hu, fun _ hr _ => hr⟩

lemma keepsOthers_modifyRecord {id : Uuid}
    {f : RepresentativeRequestRecord → RepresentativeRequestRecord}
    (hf : ∀ r, (f r).requestId = r.requestId) {records : List RepresentativeRequestRecord}
    (hu : (records.map (·.requestId)).Nodup) :
    KeepsOthers id records (modifyRecord id f records) where
  nodup := by rwa [modifyRecord_ids hf]
  keep := fun _ hr hid => mem_modifyRecord_other hr hid

lemma keepsOthers_append {id : Uuid} {records : List RepresentativeRequestRecord}
    (hu : (records.map (·.requestId)).Nodup) {r : RepresentativeRequestRecord}
    (hr : r.requestId = id) (habs : ∀ q ∈ records, q.requestId ≠ id) :
    KeepsOthers id records (records ++ [r]) where
  nodup := by
    rw [map_append, nodup_append]
    refine ⟨hu, by simp, ?_⟩
    intro x hx y hy hxy
    obtain ⟨q, hq, rfl⟩ := mem_map.mp hx
    have hy' : y = id := by simpa [hr] using hy
    exact habs q hq (hxy.trans hy')
  keep := fun _ hr _ => mem_append_left _ hr

lemma keepsOthers_filter {id : Uuid} {records : List RepresentativeRequestRecord}
    (hu : (records.map (·.requestId)).Nodup) :
    KeepsOthers id records (records.filter (·.requestId != id)) where
  nodup := hu.sublist (filter_sublist.map _)
  keep := fun r hr hid => mem_filter.mpr ⟨hr, by simpa using hid⟩

lemma exists_of_find_id {id : Uuid} {records : List RepresentativeRequestRecord}
    {r : RepresentativeRequestRecord} (h : records.find? (·.requestId == id) = some r) :
    r ∈ records ∧ r.requestId = id :=
  ⟨mem_of_find?_eq_some h, by simpa using find?_some h⟩

lemma absent_of_find_id {id : Uuid} {records : List RepresentativeRequestRecord}
    (h : records.find? (·.requestId == id) = none) : ∀ r ∈ records, r.requestId ≠ id := by
  simpa using h

/-- A reservation that was not refused: already sent, an existing record reserved again, or a
fresh record pushed while nothing unresolved holds the digest. -/
lemma reserve_cases {input : RepresentativeSendInput} {candidateId : Uuid} {digest : String}
    {stamp : Instant} {records records' : List RepresentativeRequestRecord} {res : Reservation}
    (h : reserve input candidateId digest stamp records = .ok (res, records')) :
    (∃ entryId, res = .alreadySent entryId ∧ records' = records) ∨
    (∃ r ∈ records, input.request_id = some r.requestId ∧ r.payloadDigest = digest ∧
      r.state ≠ .sent ∧ res = .reserved (some r.state) ∧
      records' = modifyRecord r.requestId (reserveAgain stamp) records) ∨
    (res = .reserved none ∧ records' = records ++ [reservedRecord input candidateId digest stamp] ∧
      ∀ id, input.request_id = some id → ∀ r ∈ records, r.requestId ≠ id) := by
  unfold reserve at h
  dsimp only at h
  split at h
  · rename_i record hrec
    obtain ⟨id, hid, hfind⟩ := Option.bind_eq_some_iff.mp hrec
    obtain ⟨hmem, hrid⟩ := exists_of_find_id hfind
    split at h
    · cases h
    rename_i hdig
    have hd : record.payloadDigest = digest := by simpa using hdig
    split at h
    · cases h
      exact Or.inl ⟨record.entryId, rfl, rfl⟩
    rename_i hsent
    have hs : record.state ≠ .sent := by simpa using hsent
    split at h
    · cases h
    · cases h
      exact Or.inr (Or.inl ⟨record, hmem, by rw [hid, hrid], hd, hs, rfl, rfl⟩)
  · rename_i hnone
    split at h
    · cases h
    · cases h
      refine Or.inr (Or.inr ⟨rfl, rfl, ?_⟩)
      intro id hid
      rw [hid, Option.bind_some] at hnone
      exact absent_of_find_id hnone

/-- A settlement rewrites the record under its id, or creates it when there is none. -/
lemma settle_cases {input : RepresentativeSendInput} {requestId : Uuid} {digest : String}
    {state : SettledState} {entryId : Option Uuid} {stamp : Instant}
    {records records' : List RepresentativeRequestRecord} {st : RepresentativeRequestState}
    (h : settle input requestId digest state entryId stamp records = .ok (st, records')) :
    (∃ r ∈ records, r.requestId = requestId ∧ st = (settleRecord state entryId stamp r).state ∧
      records' = modifyRecord requestId (settleRecord state entryId stamp) records) ∨
    ((∀ r ∈ records, r.requestId ≠ requestId) ∧
      st = (settleRecord state entryId stamp
        (settledRecord input requestId digest state stamp)).state ∧
      records' = records ++ [settleRecord state entryId stamp
        (settledRecord input requestId digest state stamp)]) := by
  unfold settle at h
  split at h
  · rename_i r hfind
    cases h
    obtain ⟨hmem, hid⟩ := exists_of_find_id hfind
    exact Or.inl ⟨r, hmem, hid, rfl, rfl⟩
  · rename_i hfind
    cases h
    exact Or.inr ⟨absent_of_find_id hfind, rfl, rfl⟩

/-- A release keeps the records, undoes a sole never-posted reservation, or puts a record
that may be stored back to `ambiguous`. -/
lemma release_cases {requestId : Uuid} {prior : Option RepresentativeRequestState}
    {records records' : List RepresentativeRequestRecord}
    (h : release requestId prior records = .ok ((), records')) :
    records' = records ∨
    (∃ r ∈ records, r.requestId = requestId ∧ r.state = .pending ∧ r.maybeStored = false ∧
      (prior = none ∧ records' = records.filter (·.requestId != requestId) ∨
        ∃ p, prior = some p ∧
          records' = modifyRecord requestId (withState p) records)) ∨
    (∃ r ∈ records, r.requestId = requestId ∧ r.state = .pending ∧ r.maybeStored = true ∧
      records' = modifyRecord requestId (withState .ambiguous) records) := by
  unfold release at h
  split at h
  · cases h
    exact Or.inl rfl
  rename_i r hfind
  obtain ⟨hmem, hid⟩ := exists_of_find_id hfind
  split at h
  · cases h
    exact Or.inl rfl
  rename_i hst
  have hp : r.state = .pending := by simpa using hst
  split at h
  · rename_i hm
    split at h
    · cases h
      exact Or.inr (Or.inr ⟨r, hmem, hid, hp, hm, rfl⟩)
    · cases h
      exact Or.inl rfl
  · rename_i hm
    have hm' : r.maybeStored = false := by simpa using hm
    split at h
    · cases h
      exact Or.inr (Or.inl ⟨r, hmem, hid, hp, hm', Or.inl ⟨rfl, rfl⟩⟩)
    · rename_i p
      cases h
      exact Or.inr (Or.inl ⟨r, hmem, hid, hp, hm', Or.inr ⟨p, rfl, rfl⟩⟩)

lemma settle_ok (input : RepresentativeSendInput) (requestId : Uuid) (digest : String)
    (state : SettledState) (entryId : Option Uuid) (stamp : Instant)
    (records : List RepresentativeRequestRecord) :
    ∃ out, settle input requestId digest state entryId stamp records = .ok out := by
  unfold settle
  split <;> exact ⟨_, rfl⟩

lemma release_ok (requestId : Uuid) (prior : Option RepresentativeRequestState)
    (records : List RepresentativeRequestRecord) :
    ∃ out, release requestId prior records = .ok out := by
  unfold release
  repeat' split
  all_goals exact ⟨_, rfl⟩

lemma reserve_keepsOthers {input : RepresentativeSendInput} {candidateId : Uuid} {digest : String}
    {stamp : Instant} {records records' : List RepresentativeRequestRecord} {res : Reservation}
    (h : reserve input candidateId digest stamp records = .ok (res, records'))
    (hu : (records.map (·.requestId)).Nodup)
    (hcand : ∀ id, input.request_id = some id → candidateId = id)
    (hfresh : input.request_id = none → ∀ r ∈ records, r.requestId ≠ candidateId) :
    KeepsOthers candidateId records records' := by
  rcases reserve_cases h with ⟨_, _, rfl⟩ | ⟨r, _, hid, _, _, _, rfl⟩ | ⟨_, rfl, hno⟩
  · exact KeepsOthers.refl _ hu
  · rw [hcand _ hid]
    exact keepsOthers_modifyRecord (reserveAgain_requestId stamp) hu
  · refine keepsOthers_append hu rfl ?_
    cases hid : input.request_id with
    | none => exact hfresh hid
    | some id => exact hcand id hid ▸ hno id hid

lemma settle_keepsOthers {input : RepresentativeSendInput} {requestId : Uuid} {digest : String}
    {state : SettledState} {entryId : Option Uuid} {stamp : Instant}
    {records records' : List RepresentativeRequestRecord} {st : RepresentativeRequestState}
    (h : settle input requestId digest state entryId stamp records = .ok (st, records'))
    (hu : (records.map (·.requestId)).Nodup) : KeepsOthers requestId records records' := by
  rcases settle_cases h with ⟨_, _, _, _, rfl⟩ | ⟨habs, _, rfl⟩
  · exact keepsOthers_modifyRecord (settleRecord_requestId state entryId stamp) hu
  · exact keepsOthers_append hu (by simp [settledRecord]) habs

lemma release_keepsOthers {requestId : Uuid} {prior : Option RepresentativeRequestState}
    {records records' : List RepresentativeRequestRecord}
    (h : release requestId prior records = .ok ((), records'))
    (hu : (records.map (·.requestId)).Nodup) : KeepsOthers requestId records records' := by
  rcases release_cases h with rfl | ⟨_, _, _, _, _, ⟨_, rfl⟩ | ⟨p, _, rfl⟩⟩ | ⟨_, _, _, _, _, rfl⟩
  · exact KeepsOthers.refl _ hu
  · exact keepsOthers_filter hu
  · exact keepsOthers_modifyRecord (withState_requestId p) hu
  · exact keepsOthers_modifyRecord (withState_requestId .ambiguous) hu

/-- A `sent` record stays as it is through any of the three transactions. -/
lemma reserve_keeps_sent {input : RepresentativeSendInput} {candidateId : Uuid} {digest : String}
    {stamp : Instant} {records records' : List RepresentativeRequestRecord} {res : Reservation}
    (h : reserve input candidateId digest stamp records = .ok (res, records'))
    (hu : (records.map (·.requestId)).Nodup) {r : RepresentativeRequestRecord} (hr : r ∈ records)
    (hs : r.state = .sent) : r ∈ records' := by
  rcases reserve_cases h with ⟨_, _, rfl⟩ | ⟨q, hq, _, _, hns, _, rfl⟩ | ⟨_, rfl, _⟩
  · exact hr
  · refine mem_modifyRecord_other hr (fun hid => hns ?_)
    rw [← inj_on_of_nodup_map hu hr hq hid, hs]
  · exact mem_append_left _ hr

lemma settle_keeps_sent {input : RepresentativeSendInput} {requestId : Uuid} {digest : String}
    {state : SettledState} {entryId : Option Uuid} {stamp : Instant}
    {records records' : List RepresentativeRequestRecord} {st : RepresentativeRequestState}
    (h : settle input requestId digest state entryId stamp records = .ok (st, records'))
    {r : RepresentativeRequestRecord} (hr : r ∈ records) (hs : r.state = .sent) :
    r ∈ records' := by
  rcases settle_cases h with ⟨_, _, _, _, rfl⟩ | ⟨_, _, rfl⟩
  · have hsame : settleRecord state entryId stamp r = r := by simp [settleRecord, hs]
    have hmem : (if r.requestId = requestId then settleRecord state entryId stamp r else r) ∈
        modifyRecord requestId (settleRecord state entryId stamp) records := mem_modifyRecord hr
    rwa [hsame, ite_self] at hmem
  · exact mem_append_left _ hr

lemma release_keeps_sent {requestId : Uuid} {prior : Option RepresentativeRequestState}
    {records records' : List RepresentativeRequestRecord}
    (h : release requestId prior records = .ok ((), records'))
    (hu : (records.map (·.requestId)).Nodup) {r : RepresentativeRequestRecord} (hr : r ∈ records)
    (hs : r.state = .sent) : r ∈ records' := by
  have hother : ∀ q ∈ records, q.requestId = requestId → q.state = .pending →
      r.requestId ≠ requestId := by
    intro q hq hqid hp hid
    rw [inj_on_of_nodup_map hu hr hq (hid.trans hqid.symm), hp] at hs
    cases hs
  rcases release_cases h with rfl | ⟨q, hq, hqid, hp, _, ⟨_, rfl⟩ | ⟨p, _, rfl⟩⟩ |
    ⟨q, hq, hqid, hp, _, rfl⟩
  · exact hr
  · exact mem_filter.mpr ⟨hr, by simpa using hother q hq hqid hp⟩
  · exact mem_modifyRecord_other hr (hother q hq hqid hp)
  · exact mem_modifyRecord_other hr (hother q hq hqid hp)

/-! ### One attempt and its steps -/

section Attempts

variable [Platform]

def payloadDigest (binding : RepresentativeBinding) (input : RepresentativeSendInput) : String :=
  sha256 [binding.cubeId, binding.coordinatorDroneId,
    match input.kind with
    | .request => "request"
    | .question => "question"
    | .decision => "decision",
    match input.authorization with
    | .user_authorized => "user_authorized"
    | .model_advice => "model_advice",
    input.message]

/-- How far the append of an attempt got; it outlives the process. -/
inductive AppendProgress
  | notStarted
  | inFlight
  | answered (o : AppendOutcome)
deriving DecidableEq, Repr

/-- Where `sendOnce` stands between two of its steps. -/
inductive Control
  | ready
  | reserved (prior : Option RepresentativeRequestState)
  | unverified (prior : Option RepresentativeRequestState) (error : RepresentativeError)
  | verified
  | appending
  | answered (o : AppendOutcome)
  | returned (reply : Except RepresentativeError RepresentativeSendResult)
  | dead
deriving DecidableEq

structure Attempt where
  binding : RepresentativeBinding
  input : RepresentativeSendInput
  /-- `input.request_id ?? randomUUID()`. -/
  candidateId : Uuid
  control : Control
  append : AppendProgress
deriving DecidableEq

def Attempt.digest (a : Attempt) : String := payloadDigest a.binding a.input

def SAME_ID_RETRY : String :=
  "Nothing was re-sent automatically. Retry ONLY by calling borg_representative_send again with " ++
    "the same request_id and identical content: the server deduplicates on that id " ++
    "(protocol post_id), so that retry cannot create a second message. Never re-send this " ++
    "content under a different request_id while it is unresolved."

/-- What the caller is told once the settle transaction recorded `recorded`. -/
def settledReply (a : Attempt) (o : AppendOutcome)
    (recorded : Option RepresentativeRequestState) :
    Except RepresentativeError RepresentativeSendResult :=
  let coordinator : CoordinatorRef := ⟨a.binding.coordinatorDroneId, a.binding.coordinatorLabel⟩
  match o with
  | .failed error =>
    let failure := classifyAppendFailure error a.binding
    if failure.definite then
      .error ⟨.SEND_REJECTED, "The Borg server refused this attempt (" ++ failure.cause.code ++
        "); it was not stored by this attempt. " ++ failure.recovery ++
        (if recorded = some .ambiguous then " An EARLIER attempt under this request_id is " ++
          "still unresolved, so the request stays listed as unresolved." else ""),
        some { request_id := some a.candidateId, cause_code := some failure.cause.code,
               cause_message := some failure.cause.message,
               recovery := some failure.recovery }⟩
    else
      .ok { outcome := .ambiguous, request_id := a.candidateId, coordinator := coordinator,
            cause := some failure.cause,
            guidance := some ("The outcome is unknown (" ++ failure.cause.code ++ "). " ++
              failure.recovery ++ " " ++ SAME_ID_RETRY) }
  | .appended entry =>
    let routing := if entry.visibility != "direct" || entry.recipient_drone_ids !=
        [a.binding.coordinatorDroneId] then
      ["The server's routing echo does not show exactly the bound Coordinator as the direct " ++
        "recipient."] else []
    let unreachable := if entry.unreachableRecipients.contains a.binding.coordinatorDroneId then
      ["The server reports the Coordinator as currently unreachable; it will see the entry when " ++
        "it next reads its log."] else []
    let warnings := routing ++ unreachable
    .ok { outcome := .sent, request_id := a.candidateId, entry_id := some entry.id,
          deduplicated := some entry.deduplicated, duplicate := some false,
          coordinator := coordinator,
          warning := if warnings.isEmpty then none else some (" ".intercalate warnings) }

/-- The reserve transaction of an attempt. -/
def reserveTransaction (a : Attempt) (stamp : Instant) : Transaction (Option Reservation) :=
  transactRequests a.binding (reserve a.input a.candidateId a.digest stamp) .refuse

/-- The settle transaction of an attempt; a settlement after a rebind records nothing. -/
def settleTransaction (a : Attempt) (o : AppendOutcome) (stamp : Instant) :
    Transaction (Option RepresentativeRequestState) :=
  transactRequests a.binding
    (settle a.input a.candidateId a.digest (o.settledState a.binding) o.entryId stamp) .skip

/-- The release transaction of an attempt. -/
def releaseTransaction (a : Attempt) (prior : Option RepresentativeRequestState) :
    Transaction (Option Unit) :=
  transactRequests a.binding (release a.candidateId prior) .skip

end Attempts

end BorgClient.Representative
