import BorgClient.Cubes.Initialization
import BorgClient.Lib.Json
import BorgClient.Lib.Runs

/-!
# The retry key of a cube creation

`getOrCreatePendingServerCubeCreation` and `clearPendingServerCubeCreation` of `config.ts` with
`createBorgServerCube` of `server-handshake.ts`, for one account: any number of calls by any number
of processes, each between two of its steps. A call that dies takes no further step.
-/

namespace BorgClient.Cubes
open List Runs

/-- One origin, trust identity, client and repository. -/
structure RetryAccount where
  origin : String
  trustIdentity : String
  clientId : String
  repository : CreateCubeRepository
  /-- The digest of the repository. -/
  repositoryBinding : String
deriving DecidableEq, Repr

structure CreationInput where
  name : String
  workingRepoName : String
  template : String
deriving DecidableEq, Repr

/-- An attempt: what is sent for the account's repository. -/
structure PendingCreation extends CreationInput where
  retryKey : String
deriving DecidableEq, Repr

/-- The checks of the account's values, and the request decoder of the shared package. -/
class RetryPlatform where
  validBinding : RetryAccount → Bool
  acceptsRequest : RetryAccount → PendingCreation → Bool

def SERVER_CUBE_RETRY_RECORD_VERSION : ℚ := 3

def LEGACY_SERVER_CUBE_RETRY_RECORD_VERSION : ℚ := 2

def isHex (c : Char) : Bool :=
  ('0' ≤ c && c ≤ '9') || ('a' ≤ c && c ≤ 'f') || ('A' ≤ c && c ≤ 'F')

/-- `UUID_RE` -/
def isUuid (value : String) : Bool :=
  ((value.toList.splitOn '-').map length == [8, 4, 4, 4, 12]) &&
    value.toList.all (fun c => isHex c || c == '-')

/-! ### Transactions -/

def isVersion (record : Json) (version : ℚ) : Bool :=
  match record.field? "version" with
  | some (.num value) => value == version
  | _ => false

def sameOperation (account : RetryAccount) (record : Json) (input : CreationInput) : Bool :=
  record.string? "state" == some "pending" && record.string? "origin" == some account.origin &&
    record.string? "trustIdentity" == some account.trustIdentity &&
    record.string? "clientId" == some account.clientId &&
    record.string? "repositoryBinding" == some account.repositoryBinding &&
    record.string? "name" == some input.name &&
    record.string? "workingRepoName" == some input.workingRepoName

def pendingRecord (account : RetryAccount) (pending : PendingCreation) : Json :=
  .obj [("version", .num SERVER_CUBE_RETRY_RECORD_VERSION), ("state", .str "pending"),
    ("origin", .str account.origin), ("trustIdentity", .str account.trustIdentity),
    ("clientId", .str account.clientId), ("repositoryBinding", .str account.repositoryBinding),
    ("retryKey", .str pending.retryKey), ("name", .str pending.name),
    ("workingRepoName", .str pending.workingRepoName), ("template", .str pending.template)]

/-- The account's entry: none, a text that is no JSON, or a value. -/
abbrev RetryEntry := Option (Option Json)

section Model

variable [RetryPlatform]

def validInput (account : RetryAccount) (input : CreationInput) : Bool :=
  RetryPlatform.validBinding account && validRepositoryCubeName input.name

/-- The attempt of a call and what it leaves stored; `none` where it throws. -/
def getOrCreatePending (account : RetryAccount) (stored : RetryEntry) (input : CreationInput)
    (fresh : String) : Option (PendingCreation × RetryEntry) :=
  let written (pending : PendingCreation) : Option (PendingCreation × RetryEntry) :=
    some (pending, some (some (pendingRecord account pending)))
  if validInput account input = false then none
  else
    match stored with
    | none => written ⟨input, fresh⟩
    | some none => none
    | some (some record) =>
      match (record.string? "retryKey").filter isUuid with
      | none => none
      | some retryKey =>
        if sameOperation account record input = false then none
        else if isVersion record SERVER_CUBE_RETRY_RECORD_VERSION then
          if record.string? "template" = some input.template then some (⟨input, retryKey⟩, stored)
          else none
        else if isVersion record LEGACY_SERVER_CUBE_RETRY_RECORD_VERSION then
          if record.string? "template" = some input.template then written ⟨input, retryKey⟩
          else if record.string? "template" = some "default" then written ⟨input, fresh⟩
          else none
        else none

def storedKey (stored : RetryEntry) : Option String :=
  stored.join.bind (fun record => record.string? "retryKey")

def clearPending (stored : RetryEntry) (pending : PendingCreation) : RetryEntry :=
  if storedKey stored = some pending.retryKey then none else stored

/-! ### Calls -/

inductive CreationCall where
  | idle
  | pending (record : PendingCreation) (attempts : ℕ)
  | confirmed (record : PendingCreation)
  | ended
deriving DecidableEq, Repr

/-- An answer: a 201 that decodes, with its repository, or anything else. -/
inductive CreationAnswer where
  | created (repository : CreateCubeRepository)
  | other
deriving DecidableEq, Repr

structure CreationWorld where
  stored : RetryEntry
  calls : ℕ → CreationCall
  sent : List (ℕ × PendingCreation)
  /-- The attempts handed to calls. -/
  handed : List PendingCreation
  /-- The keys a matching 201 was decoded for. -/
  acknowledged : List String
  /-- How often a legacy record of another template was replaced. -/
  migrations : ℕ

def CreationWorld.start (stored : RetryEntry) : CreationWorld :=
  ⟨stored, fun _ => .idle, [], [], [], 0⟩

inductive CreationStep where
  /-- The transaction of a call, with the key it would make. -/
  | prepare (call : ℕ) (input : CreationInput) (fresh : String)
  | send (call : ℕ)
  | answer (call : ℕ) (answer : CreationAnswer)
  | clear (call : ℕ)
deriving DecidableEq, Repr

namespace CreationWorld

def setCall (w : CreationWorld) (call : ℕ) (state : CreationCall) : CreationWorld :=
  { w with calls := Function.update w.calls call state }

/-- Whether the stored record is a legacy one. -/
def legacy (w : CreationWorld) : Bool :=
  w.stored.join.any (fun record => isVersion record LEGACY_SERVER_CUBE_RETRY_RECORD_VERSION)

end CreationWorld

def creationStep (account : RetryAccount) (w : CreationWorld) : CreationStep → CreationWorld
  | .prepare call input fresh =>
    match w.calls call with
    | .idle =>
      match getOrCreatePending account w.stored input fresh with
      | none => w.setCall call .ended
      | some (pending, stored) =>
        let next : CreationWorld := { w with
          stored := stored
          handed := w.handed ++ [pending]
          migrations := w.migrations + if w.legacy && storedKey w.stored != some pending.retryKey
            then 1 else 0 }
        if RetryPlatform.acceptsRequest account pending then next.setCall call (.pending pending 0)
        else next.setCall call .ended
    | _ => w
  | .send call =>
    match w.calls call with
    | .pending record attempts =>
      if attempts < 2 then
        { w with sent := w.sent ++ [(call, record)] }.setCall call (.pending record (attempts + 1))
      else w
    | _ => w
  | .answer call answer =>
    match w.calls call with
    | .pending record (_ + 1) =>
      match answer with
      | .created repository =>
        if repository = account.repository then
          { w with acknowledged := w.acknowledged ++ [record.retryKey] }.setCall call
            (.confirmed record)
        else w.setCall call .ended
      | .other => w.setCall call .ended
    | _ => w
  | .clear call =>
    match w.calls call with
    | .confirmed record => { w with stored := clearPending w.stored record }.setCall call .ended
    | _ => w

/-- A key is made for one attempt. -/
def Unused (w : CreationWorld) : CreationStep → Prop
  | .prepare _ _ fresh => isUuid fresh = true ∧ ∀ record ∈ w.handed, record.retryKey ≠ fresh
  | _ => True

end Model

end BorgClient.Cubes
