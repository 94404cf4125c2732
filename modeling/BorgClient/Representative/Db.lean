import BorgClient.Lib.Tables

/-!
# The representative state database

The tables of `representative-db.ts` that the representative's transactions read and
write, and `transact`: a body runs on the committed tables, and either its result is
committed whole or, when it throws, nothing changes. UUIDs, ISO instants and digests are
text, as in the source; `created_at` and `id` are compared as text.
-/

namespace BorgClient.Representative
open Tables

abbrev Uuid := String
abbrev Instant := String

/-- What the source takes from its platform: hex SHA-256 over an encoding of the hashed
parts (a JSON array, or the parts joined by NUL), and the protocol package's UUID decoder. -/
class Platform where
  sha256 : List String → String
  isRepresentativeUuid : String → Bool

/-- Concatenation hashes without collision on short inputs. -/
@[reducible] def plainPlatform : Platform where
  sha256 := fun parts => ",".intercalate parts
  isRepresentativeUuid := fun id => id.length == 36

structure RepresentativeBinding where
  worktree : String
  origin : String
  trustIdentity : String
  cubeId : Uuid
  cubeName : String
  representativeDroneId : Uuid
  representativeLabel : String
  representativeRoleName : String
  coordinatorDroneId : Uuid
  coordinatorLabel : String
  coordinatorRoleName : String
  repositoryOrigin : Option String
  boundAt : Instant
deriving DecidableEq, Repr

inductive BindingOrigin | prepared | legacy
deriving DecidableEq, Repr

/-- A row of `bindings`. -/
structure BindingRow where
  worktree : String
  generation : String
  seat : String
  origin : BindingOrigin
  binding : RepresentativeBinding
deriving DecidableEq, Repr

inductive RepresentativeRequestState | pending | ambiguous | sent | rejected
deriving DecidableEq, Repr

inductive RepresentativeKind | request | question | decision
deriving DecidableEq, Repr

inductive RepresentativeAuthorization | user_authorized | model_advice
deriving DecidableEq, Repr

/-- One ledger record. `maybeStored` absent and `maybeStored: false` read the same. -/
structure RepresentativeRequestRecord where
  requestId : Uuid
  payloadDigest : String
  kind : RepresentativeKind
  authorization : RepresentativeAuthorization
  state : RepresentativeRequestState
  entryId : Option Uuid
  maybeStored : Bool
  createdAt : Instant
  updatedAt : Instant
deriving DecidableEq, Repr

/-- A log position. -/
structure LocalServerCursor where
  id : Uuid
  created_at : Instant
deriving DecidableEq, Repr

/-- `start_kind`: where a generation's history begins; `headPending` until resolved. -/
inductive StartKind | checkpoint | head | binding | headPending
deriving DecidableEq, Repr

/-- A row of `delivery`. -/
structure DeliveryRow where
  generation : String
  seat : String
  start : LocalServerCursor
  startKind : StartKind
  checkpoint : Option LocalServerCursor
  readThrough : Option LocalServerCursor
deriving DecidableEq, Repr

inductive WakeReason | startup | newReply | rewake
deriving DecidableEq, Repr

/-- The one outstanding batch; instants the client writes are milliseconds. -/
structure Outstanding where
  batch : Uuid
  replies : List Uuid
  deadline : ℕ
  reason : WakeReason
deriving DecidableEq, Repr

structure Refusals where
  count : ℕ
  retry_at : Option ℕ
deriving DecidableEq, Repr

structure Cohort where
  remaining : ℕ
  isOpen : Bool
deriving DecidableEq, Repr

structure WakeDocument where
  frontier : Option LocalServerCursor
  outstanding : Option Outstanding
  refusals : Refusals
  cohort : Option Cohort
  startup_pending : Bool
  debounce_at : Option ℕ
  scan_epoch : Option Uuid
deriving DecidableEq, Repr

/-- The text of `wake_state.state`: a document `parseDocument` accepts, or anything else. -/
inductive StoredDocument
  | document (doc : WakeDocument)
  | invalid
deriving DecidableEq, Repr

/-- A row of `wake_replies`; `wellFormed` is false when some column fails `isWakeRow`. -/
structure WakeRow where
  entry_id : Uuid
  created_at : Instant
  attempts : ℕ
  next_at : ℕ
  wellFormed : Bool
deriving DecidableEq, Repr

/-- The tables; one whose primary key is the generation and more is a function of the
generation, the rest of the key kept unique among the rows of one generation. -/
structure Db where
  bindings : List BindingRow
  requests : String → Table RepresentativeRequestRecord.requestId
  delivery : Table DeliveryRow.generation
  returned : String → Table LocalServerCursor.id
  wake_state : String → Option StoredDocument
  wake_replies : String → Table WakeRow.entry_id

inductive ErrorCode
  | INVALID_INPUT | DECISION_REQUIRES_USER_AUTHORIZATION | REQUEST_ID_CONFLICT
  | AMBIGUOUS_SEND_UNRESOLVED | SEND_REJECTED | SEAT_UNAVAILABLE | BINDING_MISMATCH
  | BINDING_CONFLICT | COORDINATOR_UNAVAILABLE | REPRESENTATIVE_ROLE_NOT_PERMITTED
  | REPRESENTATIVE_DELIVER_UNKNOWN_ENTRY | REPRESENTATIVE_READ_OVERSIZE
  | BACKEND_ERROR | STATE_ERROR
deriving DecidableEq, Repr

structure RepresentativeErrorDetails where
  request_id : Option Uuid := none
  cause_code : Option String := none
  cause_message : Option String := none
  recovery : Option String := none
  entry_id : Option Uuid := none
  measured_bytes : Option ℕ := none
  bound : Option ℕ := none
deriving DecidableEq, Repr

/-- A thrown error: its code (`STATE_ERROR` for an untyped one from the store), message and
details. -/
structure RepresentativeError where
  code : ErrorCode
  message : String
  details : Option RepresentativeErrorDetails := none
deriving DecidableEq, Repr

abbrev Transaction (α : Type) := Db → Except RepresentativeError (α × Db)

/-- `BEGIN IMMEDIATE`, the body, then `COMMIT`, or `ROLLBACK` when the body throws. -/
def transact {α : Type} (db : Db) (body : Transaction α) : Except RepresentativeError α × Db :=
  match body db with
  | .ok (a, db') => (.ok a, db')
  | .error e => (.error e, db)

/-- A body that throws leaves every row exactly as before. -/
lemma transact_error {α : Type} {db : Db} {body : Transaction α} {e : RepresentativeError}
    (h : (transact db body).1 = .error e) : (transact db body).2 = db := by
  unfold transact at h ⊢
  split at h
  · simp at h
  · rfl

end BorgClient.Representative
