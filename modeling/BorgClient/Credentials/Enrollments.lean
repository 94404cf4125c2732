import BorgClient.Credentials.Records

/-!
# Enrollment operations of the credential store

The operations of `config.ts` that go over all accounts: the search for a pending enrollment and
for one to recover, the checks for a stored credential, and the activation with its rollback
snapshot. Each runs under the lock of the store.
-/

namespace BorgClient.Credentials
open List Tables

/-- The values by their accounts, in the order of the file. -/
abbrev Accounts := Table (Prod.fst : String × Json → String)

def Accounts.get (accounts : Accounts) (account : String) : Option Json :=
  (accounts.find account).map Prod.snd

section Operations

variable [CredentialPlatform]

/-! ### Active credentials of an origin -/

/-- The test each operation makes of a value. -/
def isActiveFor (origin : String) (value : Json) : Bool :=
  hasVersion value SERVER_CREDENTIAL_RECORD_VERSION && value.string? "origin" == some origin

def activeAccounts (accounts : Accounts) (origin : String) : List (String × Json) :=
  accounts.rows.filter (fun e => isActiveFor origin e.2)

def digestAccountSnapshot (accounts : Accounts) (origin : String) : String :=
  (CredentialPlatform.digestAccounts (activeAccounts accounts origin)).val

def markerForOrigin (accounts : Accounts) (origin : String) :
    Except CredentialError (Option AcceptedEnrollmentMarker) :=
  match accounts.get (serverAcceptedEnrollmentAccount origin) with
  | none => .ok none
  | some value =>
    match decodeAcceptedEnrollmentMarker value with
    | some marker => .ok (some marker)
    | none => .error .other

def hasServerCredentialForOrigin (accounts : Accounts) (origin : String) :
    Except CredentialError Bool := do
  if (← markerForOrigin accounts origin).isSome then throw .recovery
  return accounts.rows.any (fun e => isActiveFor origin e.2)

def capabilitiesValue (createCube : Bool) : Json :=
  .arr (if createCube then [.str "create_cube"] else [])

def encodeServerCredentialRecord (record : ServerCredentialRecord) : Json :=
  .obj [("version", .num SERVER_CREDENTIAL_RECORD_VERSION), ("origin", .str record.origin),
    ("trustIdentity", .str record.trustIdentity), ("credential", .str record.credential),
    ("clientId", record.clientId.elim .null .str),
    ("serverCapabilities", capabilitiesValue record.createCube)]

/-- `writeServerCredentialRecord` without leave to replace. -/
def storeServerCredential (accounts : Accounts) (record : ServerCredentialRecord) :
    Except CredentialError Accounts :=
  match serverCredentialAccount record.origin record.trustIdentity with
  | none => .error .other
  | some target =>
    if !validCredential record.credential || !record.clientId.all Cubes.isUuid then
      .error .other
    else if (accounts.get target).isSome ||
        accounts.rows.any (fun e => isActiveFor record.origin e.2) then
      .error .other
    else .ok (accounts.upsert (target, encodeServerCredentialRecord record))

/-! ### Searching the accounts -/

/-- The handler around an account's turn: a recovery error goes on, another one only where the
account's name begins with one of the prefixes. -/
def caught {α : Type} (account : String) (prefixes : List String)
    (turn : Except CredentialError (Option α)) : Except CredentialError (Option α) :=
  match turn with
  | .ok found => .ok found
  | .error error =>
    if error.isRecovery then .error error
    else if prefixes.any (fun start => start.toList.isPrefixOf account.toList) then .error .recovery
    else .ok none

/-- A reader's record, or the error it throws. -/
def orInvalid {α : Type} : Option α → Except CredentialError α
  | some record => .ok record
  | none => .error .other

/-- `raw.origin` and `raw.trustIdentity`, both strings. -/
def originAndTrust (value : Json) : Option (String × String) := do
  let origin ← value.string? "origin"
  let trustIdentity ← value.string? "trustIdentity"
  return (origin, trustIdentity)

/-- `null` has no properties to read. -/
def isNull : Json → Bool
  | .null => true
  | _ => false

/-- One turn of `findPendingServerEnrollment`. -/
def scanPending (entry : String × Json) :
    Except CredentialError (Option PendingServerEnrollmentRecord) :=
  caught entry.1 [PENDING_PREFIX, ACCEPTED_PREFIX] (do
    if isNull entry.2 then throw .other
    else if isMarker entry.2 then
      let marker ← orInvalid (decodeAcceptedEnrollmentMarker entry.2)
      if entry.1 ≠ serverAcceptedEnrollmentAccount marker.origin then throw .miskeyed
      throw .recovery
    else if !isPendingVersion entry.2 || entry.2.string? "state" != some "pending" then
      return none
    else
      match originAndTrust entry.2 with
      | none => return none
      | some (origin, trustIdentity) =>
        let account ← orInvalid (serverPendingEnrollmentAccount origin trustIdentity)
        if entry.1 ≠ account then throw .miskeyed
        return some (← orInvalid (decodePendingServerEnrollment entry.2 origin trustIdentity)))

def findPendingServerEnrollment (accounts : Accounts) :
    Except CredentialError (Option PendingServerEnrollmentRecord) := do
  let found := (← accounts.rows.mapM scanPending).reduceOption
  if 1 < found.length then
    throw .other
  return found.head?

inductive EnrollmentRecoveryTransaction
  | accepted (marker : AcceptedEnrollmentMarker)
  | pending (pending : PendingServerEnrollmentRecord)
deriving DecidableEq

def isSelected (selectedOrigin : Option String) (origin : String) : Bool :=
  selectedOrigin.all (· == origin)

/-- One turn of `findEnrollmentRecoveryTransaction`. -/
def scanRecovery (selectedOrigin : Option String) (entry : String × Json) :
    Except CredentialError (Option EnrollmentRecoveryTransaction) :=
  caught entry.1 [ACCEPTED_PREFIX, PENDING_PREFIX, ROLLBACK_PREFIX] (do
    if isNull entry.2 then throw .other
    else if isMarker entry.2 then
      let marker ← orInvalid (decodeAcceptedEnrollmentMarker entry.2)
      if entry.1 ≠ serverAcceptedEnrollmentAccount marker.origin then throw .miskeyed
      return if isSelected selectedOrigin marker.origin then some (.accepted marker) else none
    else if isPendingVersion entry.2 && entry.2.string? "state" == some "pending" then
      match originAndTrust entry.2 with
      | none => return none
      | some (origin, trustIdentity) =>
        let record ← orInvalid (decodePendingServerEnrollment entry.2 origin trustIdentity)
        let account ← orInvalid (serverPendingEnrollmentAccount origin trustIdentity)
        if entry.1 ≠ account then throw .miskeyed
        return if isSelected selectedOrigin record.origin then some (.pending record) else none
    else return none)

def findEnrollmentRecoveryTransaction (selectedOrigin : Option String) (accounts : Accounts) :
    Except CredentialError (Option EnrollmentRecoveryTransaction) := do
  if !selectedOrigin.all Seats.SeatPlatform.isHttpsOrigin then
    throw .other
  let found := (← accounts.rows.mapM (scanRecovery selectedOrigin)).reduceOption
  if 1 < found.length then
    throw .other
  return found.head?

/-! ### Activating a pending enrollment -/

structure Activation where
  origin : String
  trustIdentity : String
  retryKey : String
  credential : String
  clientId : String
  createCube : Bool
  generationId : Option String
  previousPointer : Option EnrollmentTrustPointer
  replacementCapabilityToken : Option String

/-- The consent that activating over `active` takes. -/
def consents (input : Activation) (pending : PendingServerEnrollmentRecord) (accounts : Accounts) :
    Bool :=
  if activeAccounts accounts input.origin ≠ [] then
    pending.replacementCapability.any (fun capability =>
      some capability.token == input.replacementCapabilityToken &&
        capability.priorAccountsDigest == digestAccountSnapshot accounts input.origin &&
          capability.endpoint == input.origin &&
            capability.trustIdentity == input.trustIdentity &&
              capability.retryKey == input.retryKey &&
                pending.artifactBinding.any (fun binding =>
                  capability.artifactDigest == binding.artifactDigest &&
                    capability.caSpkiSha256 == binding.caSpkiSha256))
  else input.replacementCapabilityToken.isNone

/-- The generation the transaction is of. -/
def generationOf (input : Activation) (pending : PendingServerEnrollmentRecord) : Option String :=
  input.generationId.or (pending.artifactBinding.map (·.stagedGenerationId))

/-- The pending enrollment is the one that was answered, of the generation that was staged. -/
def matchesRequest (input : Activation) (pending : PendingServerEnrollmentRecord) : Bool :=
  Cubes.isUuid input.retryKey && validCredential input.credential && Cubes.isUuid input.clientId &&
    pending.retryKey == input.retryKey && pending.credential == input.credential &&
      pending.artifactBinding.all (fun binding =>
        generationOf input pending == some binding.stagedGenerationId)

def rollbackValue (origin : String) (active : List (String × Json)) (pendingAccount : String)
    (pendingValue : Json) : Json :=
  .obj [("version", .num 1), ("state", .str "rollback-snapshot"), ("origin", .str origin),
    ("snapshot", .obj [("activeAccounts", .obj active), ("pendingAccount", .str pendingAccount),
      ("pendingValue", pendingValue)])]

def pointerValue (pointer : EnrollmentTrustPointer) : Json :=
  .obj [("version", .num 1), ("origin", .str pointer.origin),
    ("generationId", .str pointer.generationId), ("trustIdentity", .str pointer.trustIdentity)]

def markerValue (marker : AcceptedEnrollmentMarker) : Json :=
  .obj [("version", .num SERVER_ACCEPTED_ENROLLMENT_MARKER_VERSION), ("state", .str "accepted"),
    ("origin", .str marker.origin), ("trustIdentity", .str marker.trustIdentity),
    ("generationId", .str marker.generationId),
    ("previousPointer", marker.previousPointer.elim .null pointerValue),
    ("activeDigest", .str marker.activeDigest), ("rollbackAccount", .str marker.rollbackAccount),
    ("rollbackDigest", .str marker.rollbackDigest)]

def digestOfValue (value : Json) : String := (CredentialPlatform.digestValue value).val

def activeRecord (input : Activation) : ServerCredentialRecord :=
  ⟨input.origin, input.trustIdentity, input.credential, some input.clientId, input.createCube⟩

/-- The snapshot of an activation. -/
def activationSnapshot (input : Activation) (accounts : Accounts) (pendingAccount : String)
    (pendingValue : Json) : Json :=
  rollbackValue input.origin (activeAccounts accounts input.origin) pendingAccount pendingValue

def activationMarker (input : Activation) (generationId : String) (snapshot : Json) :
    AcceptedEnrollmentMarker where
  origin := input.origin
  trustIdentity := input.trustIdentity
  generationId := generationId
  previousPointer := input.previousPointer
  activeDigest := digestOfValue (encodeServerCredentialRecord (activeRecord input))
  rollbackAccount := serverEnrollmentRollbackAccount input.origin input.retryKey
  rollbackDigest := digestOfValue snapshot

/-- The accounts after the activation, without the journal of a generation. -/
def activated (input : Activation) (accounts : Accounts) (target pendingAccount : String) :
    Accounts :=
  ((accounts.delete (fun e => isActiveFor input.origin e.2)).upsert
    (target, encodeServerCredentialRecord (activeRecord input))).delete
      (fun e => e.1 == pendingAccount)

/-- The snapshot and the marker beside the accounts. -/
def journaled (accounts : Accounts) (marker : AcceptedEnrollmentMarker) (snapshot : Json) :
    Accounts :=
  (accounts.upsert (marker.rollbackAccount, snapshot)).upsert
    (serverAcceptedEnrollmentAccount marker.origin, markerValue marker)

/-- The accounts an activation writes, with the marker and the snapshot among them. -/
def activation (input : Activation) (accounts : Accounts) :
    Except CredentialError (Accounts × Option (AcceptedEnrollmentMarker × Json)) := do
  let pendingAccount ← orInvalid (serverPendingEnrollmentAccount input.origin input.trustIdentity)
  let target ← orInvalid (serverCredentialAccount input.origin input.trustIdentity)
  let stored ← orInvalid (accounts.get pendingAccount)
  let pending ← orInvalid (decodePendingServerEnrollment stored input.origin input.trustIdentity)
  if matchesRequest input pending && consents input pending accounts then
    let next := activated input accounts target pendingAccount
    match generationOf input pending with
    | none => return (next, none)
    | some generationId =>
      let snapshot := activationSnapshot input accounts pendingAccount stored
      let marker := activationMarker input generationId snapshot
      return (journaled next marker snapshot, some (marker, snapshot))
  else throw .other

def activatePendingServerEnrollment (input : Activation) (accounts : Accounts) :
    Except CredentialError Accounts :=
  (activation input accounts).map Prod.fst

/-! ### Reading a snapshot back -/

structure EnrollmentRollbackSnapshot where
  activeAccounts : List (String × Json)
  pendingAccount : String
  pendingValue : Json

/-- Whether a snapshot may name the account as an active credential of the origin. -/
def isSnapshotAccount (origin : String) (entry : String × Json) : Bool :=
  isActiveFor origin entry.2 &&
    (entry.2.string? "trustIdentity").any (fun trustIdentity =>
      serverCredentialAccount origin trustIdentity == some entry.1)

def objectFields : Json → Option (List (String × Json))
  | .obj fields => some fields
  | _ => none

def decodeRollbackRecord (value : Json) (marker : AcceptedEnrollmentMarker) :
    Option EnrollmentRollbackSnapshot := do
  guard (digestOfValue value == marker.rollbackDigest)
  guard (hasVersion value 1 && value.string? "state" == some "rollback-snapshot" &&
    value.string? "origin" == some marker.origin)
  let snapshot ← value.field? "snapshot"
  let pendingAccount ← snapshot.string? "pendingAccount"
  let pendingValue ← snapshot.field? "pendingValue"
  let active ← (snapshot.field? "activeAccounts").bind objectFields
  guard (active.all (isSnapshotAccount marker.origin))
  let (origin, trustIdentity) ← originAndTrust pendingValue
  let pending ← decodePendingServerEnrollment pendingValue origin trustIdentity
  guard (pending.origin == marker.origin && pending.trustIdentity == marker.trustIdentity)
  guard (serverPendingEnrollmentAccount marker.origin marker.trustIdentity == some pendingAccount)
  guard (marker.rollbackAccount == serverEnrollmentRollbackAccount marker.origin pending.retryKey)
  return ⟨active, pendingAccount, pendingValue⟩

end Operations

end BorgClient.Credentials
