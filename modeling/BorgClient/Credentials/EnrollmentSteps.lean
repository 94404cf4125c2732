import BorgClient.Credentials.Enrollments

/-!
# Runs of enrollment operations

The operations of `config.ts` on one account map, in the order in which they take the lock of the
store, and the exchange requests of the processes between them. A process that failed leaves the
map as it was; one that died takes no further step.
-/

namespace BorgClient.Credentials
open List Tables

/-- An invitation to enroll, as a process hands it over. -/
structure EnrollmentRequest where
  origin : String
  trustIdentity : String
  invitation : String
  clientName : Option String
  artifactBinding : Option EnrollmentArtifactBinding
deriving DecidableEq

/-- What `randomUUID` and `randomBytes` return. -/
structure FreshValues where
  retryKey : String
  token : String
  credential : String
deriving DecidableEq

/-! ### The written value -/

def bindingValue (binding : EnrollmentArtifactBinding) : Json :=
  .obj [("artifactFormatVersion", .num binding.artifactFormatVersion),
    ("artifactDigest", .str binding.artifactDigest), ("endpoint", .str binding.endpoint),
    ("caSpkiSha256", .str binding.caSpkiSha256), ("trustIdentity", .str binding.trustIdentity),
    ("expectedAuthority", .str binding.expectedAuthority),
    ("stagedGenerationId", .str binding.stagedGenerationId)]

def capabilityValue (capability : EnrollmentReplacementCapability) : Json :=
  .obj [("token", .str capability.token),
    ("priorAccountsDigest", .str capability.priorAccountsDigest),
    ("endpoint", .str capability.endpoint), ("caSpkiSha256", .str capability.caSpkiSha256),
    ("trustIdentity", .str capability.trustIdentity), ("retryKey", .str capability.retryKey),
    ("artifactDigest", .str capability.artifactDigest)]

def pendingValue (record : PendingServerEnrollmentRecord) : Json :=
  .obj ([("version", .num SERVER_PENDING_ENROLLMENT_RECORD_VERSION), ("state", .str "pending"),
    ("origin", .str record.origin), ("trustIdentity", .str record.trustIdentity),
    ("invitation", .str record.invitation), ("retryKey", .str record.retryKey),
    ("credential", .str record.credential)] ++ Json.entry "clientName" .str record.clientName ++
      Json.entry "artifactBinding" bindingValue record.artifactBinding ++
        Json.entry "replacementCapability" capabilityValue record.replacementCapability)

section Steps

variable [CredentialPlatform]

/-! ### Operations -/

/-- `validateArtifactBinding` -/
def validArtifactBinding (binding : EnrollmentArtifactBinding) : Bool :=
  (readArtifactBinding (bindingValue binding)).isSome

def validRequest (input : EnrollmentRequest) (mintReplacementConsent : Bool) : Bool :=
  validServerCredentialBinding input.origin input.trustIdentity &&
    validInvitation input.invitation && input.clientName.all isPlainName &&
      input.artifactBinding.all (fun binding => validArtifactBinding binding &&
        digestText [input.invitation] == binding.artifactDigest) &&
        (!mintReplacementConsent || input.artifactBinding.isSome)

def newCapability (input : EnrollmentRequest) (fresh : FreshValues) (accounts : Accounts)
    (binding : EnrollmentArtifactBinding) : EnrollmentReplacementCapability where
  token := fresh.token
  priorAccountsDigest := digestAccountSnapshot accounts input.origin
  endpoint := input.origin
  caSpkiSha256 := binding.caSpkiSha256
  trustIdentity := input.trustIdentity
  retryKey := fresh.retryKey
  artifactDigest := binding.artifactDigest

def newRecord (input : EnrollmentRequest) (mintReplacementConsent : Bool) (fresh : FreshValues)
    (accounts : Accounts) : PendingServerEnrollmentRecord where
  origin := input.origin
  trustIdentity := input.trustIdentity
  invitation := input.invitation
  retryKey := fresh.retryKey
  credential := fresh.credential
  clientName := input.clientName
  artifactBinding := input.artifactBinding
  replacementCapability :=
    if mintReplacementConsent then input.artifactBinding.map (newCapability input fresh accounts)
    else none

/-- The stored record is of this request. -/
def matchesStored (input : EnrollmentRequest) (mintReplacementConsent : Bool)
    (record : PendingServerEnrollmentRecord) : Bool :=
  record.invitation == input.invitation && record.clientName == input.clientName &&
    record.artifactBinding == input.artifactBinding &&
      (!mintReplacementConsent || record.replacementCapability.isSome)

/-- The value under the pending account of an origin and a trust identity. -/
def pendingOf (accounts : Accounts) (origin trustIdentity : String) : Option Json :=
  (serverPendingEnrollmentAccount origin trustIdentity).bind accounts.get

def getOrCreatePendingServerEnrollmentInternal (input : EnrollmentRequest)
    (mintReplacementConsent : Bool) (fresh : FreshValues) (accounts : Accounts) :
    Except CredentialError (Accounts × PendingServerEnrollmentRecord) := do
  if !validRequest input mintReplacementConsent then throw .other
  let account ← orInvalid (serverPendingEnrollmentAccount input.origin input.trustIdentity)
  match accounts.get account with
  | some stored =>
    let record ← orInvalid (decodePendingServerEnrollment stored input.origin input.trustIdentity)
    if matchesStored input mintReplacementConsent record then return (accounts, record)
    else throw .other
  | none =>
    let record := newRecord input mintReplacementConsent fresh accounts
    if validCredential record.credential then
      return (accounts.upsert (account, pendingValue record), record)
    else throw .other

def getPendingServerEnrollment (origin trustIdentity : String) (accounts : Accounts) :
    Except CredentialError (Option PendingServerEnrollmentRecord) := do
  let account ← orInvalid (serverPendingEnrollmentAccount origin trustIdentity)
  if (← markerForOrigin accounts origin).isSome then throw .recovery
  match accounts.get account with
  | none => return none
  | some stored =>
    return some (← orInvalid (decodePendingServerEnrollment stored origin trustIdentity))

/-- Deletes the pending record of exactly this attempt. -/
def clearPendingServerEnrollment (origin trustIdentity retryKey : String) (accounts : Accounts) :
    Except CredentialError Accounts := do
  if !Cubes.isUuid retryKey then throw .other
  let account ← orInvalid (serverPendingEnrollmentAccount origin trustIdentity)
  match accounts.get account with
  | none => return accounts
  | some stored =>
    match decodePendingServerEnrollment stored origin trustIdentity with
    | none => return accounts
    | some pending =>
      return if pending.retryKey = retryKey then accounts.delete (fun e => e.1 == account)
        else accounts

def clearServerCredential (origin trustIdentity : String) (accounts : Accounts) :
    Except CredentialError Accounts := do
  let pendingAccount ← orInvalid (serverPendingEnrollmentAccount origin trustIdentity)
  let target ← orInvalid (serverCredentialAccount origin trustIdentity)
  return (accounts.delete (fun e => e.1 == target)).delete (fun e => e.1 == pendingAccount)

/-- Deletes exactly the transaction that was reviewed, and tells whether it was there. -/
def clearEnrollmentTransaction (expected : PendingServerEnrollmentRecord) (accounts : Accounts) :
    Except CredentialError (Accounts × Bool) := do
  let account ← orInvalid
    (serverPendingEnrollmentAccount expected.origin expected.trustIdentity)
  if (← markerForOrigin accounts expected.origin).isSome then throw .recovery
  match accounts.get account with
  | none => return (accounts, false)
  | some stored =>
    return if decodePendingServerEnrollment stored expected.origin expected.trustIdentity =
        some expected then (accounts.delete (fun e => e.1 == account), true)
      else (accounts, false)

def finalizeAcceptedEnrollment (origin trustIdentity generationId : String) (accounts : Accounts) :
    Except CredentialError Accounts := do
  match accounts.get (serverAcceptedEnrollmentAccount origin) with
  | none => return accounts
  | some stored =>
    let marker ← orInvalid (decodeAcceptedEnrollmentMarker stored)
    let target ← orInvalid (serverCredentialAccount origin trustIdentity)
    let active ← orInvalid (accounts.get target)
    if marker.trustIdentity = trustIdentity ∧ marker.generationId = generationId ∧
        digestOfValue active = marker.activeDigest ∧
          (decodeActiveServerCredentialRecord active origin trustIdentity).isSome then
      return (accounts.delete (fun e => e.1 == serverAcceptedEnrollmentAccount origin)).delete
        (fun e => e.1 == marker.rollbackAccount)
    else throw .other

/-- `Object.assign` of some accounts. -/
def assignAccounts (accounts : Accounts) (entries : List (String × Json)) : Accounts :=
  entries.foldl (fun accounts entry => accounts.upsert entry) accounts

def restoreAcceptedEnrollmentAccounts (marker : AcceptedEnrollmentMarker) (accounts : Accounts) :
    Except CredentialError Accounts := do
  let current ← orInvalid (accounts.get (serverAcceptedEnrollmentAccount marker.origin))
  if decodeAcceptedEnrollmentMarker current = some marker then
    let stored ← orInvalid (accounts.get marker.rollbackAccount)
    let rollback ← orInvalid (decodeRollbackRecord stored marker)
    let restored := (assignAccounts (accounts.delete (fun e => isActiveFor marker.origin e.2))
      rollback.activeAccounts).upsert (rollback.pendingAccount, rollback.pendingValue)
    return (restored.delete (fun e => e.1 == serverAcceptedEnrollmentAccount marker.origin)).delete
      (fun e => e.1 == marker.rollbackAccount)
  else throw .other

/-! ### Runs -/

/-- A pending record that was generated, and what it was generated from. -/
structure Mint where
  accounts : Accounts
  input : EnrollmentRequest
  mintReplacementConsent : Bool
  fresh : FreshValues

def Mint.record (mint : Mint) : PendingServerEnrollmentRecord :=
  newRecord mint.input mint.mintReplacementConsent mint.fresh mint.accounts

structure EnrollmentWorld where
  accounts : Accounts
  /-- The tuple a process goes on with. -/
  held : ℕ → Option PendingServerEnrollmentRecord
  minted : List Mint
  /-- The tuples read or generated by a process, in order. -/
  prepared : List PendingServerEnrollmentRecord
  /-- The tuples of the exchange requests, in order. -/
  sent : List PendingServerEnrollmentRecord

inductive EnrollmentStep
  | prepare (process : ℕ) (input : EnrollmentRequest) (mintReplacementConsent : Bool)
    (fresh : FreshValues)
  | resume (process : ℕ) (origin trustIdentity : String)
  | send (process : ℕ)
  | store (record : ServerCredentialRecord)
  | clear (origin trustIdentity retryKey : String)
  | clearCredential (origin trustIdentity : String)
  | clearTransaction (expected : PendingServerEnrollmentRecord)
  | activate (input : Activation)
  | finalize (origin trustIdentity generationId : String)
  | restore (marker : AcceptedEnrollmentMarker)

namespace EnrollmentWorld

def after (w : EnrollmentWorld) (result : Except CredentialError Accounts) : EnrollmentWorld :=
  match result with
  | .ok accounts => { w with accounts }
  | .error _ => w

def hand (w : EnrollmentWorld) (process : ℕ) (record : PendingServerEnrollmentRecord) :
    EnrollmentWorld :=
  { w with
    held := Function.update w.held process (some record)
    prepared := w.prepared ++ [record] }

def prepare (w : EnrollmentWorld) (process : ℕ) (input : EnrollmentRequest)
    (mintReplacementConsent : Bool) (fresh : FreshValues) : EnrollmentWorld :=
  match getOrCreatePendingServerEnrollmentInternal input mintReplacementConsent fresh
    w.accounts with
  | .error _ => w
  | .ok (accounts, record) =>
    let minted := match pendingOf w.accounts input.origin input.trustIdentity with
      | some _ => w.minted
      | none => w.minted ++ [⟨w.accounts, input, mintReplacementConsent, fresh⟩]
    { w with accounts, minted }.hand process record

def resume (w : EnrollmentWorld) (process : ℕ) (origin trustIdentity : String) : EnrollmentWorld :=
  match getPendingServerEnrollment origin trustIdentity w.accounts with
  | .ok (some record) => w.hand process record
  | _ => w

def step (w : EnrollmentWorld) : EnrollmentStep → EnrollmentWorld
  | .prepare process input mintReplacementConsent fresh =>
    w.prepare process input mintReplacementConsent fresh
  | .resume process origin trustIdentity => w.resume process origin trustIdentity
  | .send process => { w with sent := w.sent ++ (w.held process).toList }
  | .store record => w.after (storeServerCredential w.accounts record)
  | .clear origin trustIdentity retryKey =>
    w.after (clearPendingServerEnrollment origin trustIdentity retryKey w.accounts)
  | .clearCredential origin trustIdentity =>
    w.after (clearServerCredential origin trustIdentity w.accounts)
  | .clearTransaction expected =>
    w.after ((clearEnrollmentTransaction expected w.accounts).map Prod.fst)
  | .activate input => w.after (activatePendingServerEnrollment input w.accounts)
  | .finalize origin trustIdentity generationId =>
    w.after (finalizeAcceptedEnrollment origin trustIdentity generationId w.accounts)
  | .restore marker => w.after (restoreAcceptedEnrollmentAccounts marker w.accounts)

def run (w : EnrollmentWorld) (steps : List EnrollmentStep) : EnrollmentWorld :=
  steps.foldl step w

/-- No process has begun. -/
def start (accounts : Accounts) : EnrollmentWorld := ⟨accounts, fun _ => none, [], [], []⟩

end EnrollmentWorld

end Steps

end BorgClient.Credentials
