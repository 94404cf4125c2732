import BorgClient.Cubes.CreationRetry
import BorgClient.Lib.Tables
import BorgClient.Seats.SeatStore

/-!
# Records of the credential store

The accounts of `config.ts` and the readers of their values. A value stands for the text
`JSON.stringify` writes of it, also where a record holds the text of another.
-/

namespace BorgClient.Credentials
open List Tables Seats

/-- SHA-256 and the URL parser of the platform. -/
class CredentialPlatform extends SeatPlatform where
  /-- The digest of a value's text. -/
  digestValue : Json → HexDigest
  /-- The digest of the text of some accounts, sorted by name. -/
  digestAccounts : List (String × Json) → HexDigest

def SERVER_CREDENTIAL_RECORD_VERSION : ℚ := 2

def SERVER_PENDING_ENROLLMENT_RECORD_VERSION : ℚ := 3

def LEGACY_SERVER_PENDING_ENROLLMENT_RECORD_VERSION : ℚ := 1

def SERVER_ACCEPTED_ENROLLMENT_MARKER_VERSION : ℚ := 1

/-- `InvitationArtifactRecoveryError`, the same with `MISKEYED_RECOVERY_ERROR`, or another error. -/
inductive CredentialError
  | recovery
  | miskeyed
  | other
deriving DecidableEq, Repr

def CredentialError.isRecovery : CredentialError → Bool
  | .other => false
  | _ => true

/-! ### Checks of a value -/

/-- `length` of a string, in UTF-16 units. -/
def jsLength (text : String) : ℕ :=
  (text.toList.map (fun c => if c.toNat < 0x10000 then 1 else 2)).sum

def isControl (c : Char) : Bool := c.toNat ≤ 0x1f || c.toNat == 0x7f

/-- `[A-Za-z0-9_-]`. -/
def isTokenChar (c : Char) : Bool := c.isAlphanum || c == '_' || c == '-'

/-- `[A-Za-z0-9][A-Za-z0-9 ._-]*` of at most 120 bytes. -/
def isPlainName (text : String) : Bool :=
  match text.toList with
  | [] => false
  | c :: rest => c.isAlphanum && rest.all (fun c => isTokenChar c || c == ' ' || c == '.') &&
    rest.length < 120

def validInvitation (text : String) : Bool :=
  43 ≤ jsLength text && jsLength text ≤ 1024 && text.toList.all isTokenChar

def validCredential (text : String) : Bool :=
  text.toList.length == 43 && text.toList.all isTokenChar

def isHexDigest (text : String) : Bool := isDigest text.toList

/-- A field that must be a string with the property. -/
def stringWith (value : Json) (name : String) (p : String → Bool) : Option String :=
  (value.string? name).filter p

section Records

variable [CredentialPlatform]

def validServerCredentialBinding (origin trustIdentity : String) : Bool :=
  SeatPlatform.isHttpsOrigin origin && 1 ≤ jsLength trustIdentity &&
    jsLength trustIdentity ≤ 512 && !trustIdentity.toList.any isControl

/-! ### Accounts -/

def digestText (parts : List String) : String := (SeatPlatform.sha256 parts).val

/-- An account bound to an origin and a trust identity; other values have none. -/
def boundAccount (name origin trustIdentity : String) (rest : List String) : Option String :=
  if validServerCredentialBinding origin trustIdentity then
    some (name ++ digestText ((origin :: trustIdentity :: rest).intersperse "\x00"))
  else none

def CREDENTIAL_PREFIX : String := "borg-server-credential:"

def PENDING_PREFIX : String := "borg-server-enrollment-pending:"

def ACCEPTED_PREFIX : String := "borg-server-enrollment-accepted:"

def ROLLBACK_PREFIX : String := "borg-server-enrollment-rollback:"

def CUBE_PREFIX : String := "borg-server-cube-pending:"

def serverCredentialAccount (origin trustIdentity : String) : Option String :=
  boundAccount CREDENTIAL_PREFIX origin trustIdentity []

def serverPendingEnrollmentAccount (origin trustIdentity : String) : Option String :=
  boundAccount PENDING_PREFIX origin trustIdentity []

def serverAcceptedEnrollmentAccount (origin : String) : String :=
  ACCEPTED_PREFIX ++ digestText [origin]

def serverEnrollmentRollbackAccount (origin retryKey : String) : String :=
  ROLLBACK_PREFIX ++ digestText [origin, "\x00", retryKey]

def serverCubeRetryAccount (origin trustIdentity clientId repositoryBinding : String) :
    Option String :=
  if Cubes.isUuid clientId && isHexDigest repositoryBinding then
    boundAccount CUBE_PREFIX origin trustIdentity [clientId, repositoryBinding]
  else none

/-! ### Readers -/

def hasVersion (value : Json) (version : ℚ) : Bool := Cubes.isVersion value version

structure ServerCredentialRecord where
  origin : String
  trustIdentity : String
  credential : String
  clientId : Option String
  /-- `create_cube` is in the list of capabilities. -/
  createCube : Bool
deriving DecidableEq

/-- The list of capabilities: none, or `create_cube` alone. -/
def readCapabilities : Json → Option Bool
  | .arr [] => some false
  | .arr [.str "create_cube"] => some true
  | _ => none

/-- `null`, or a client's id. -/
def readClientId : Json → Option (Option String)
  | .null => some none
  | .str text => if Cubes.isUuid text then some (some text) else none
  | _ => none

def decodeActiveServerCredentialRecord (value : Json) (origin trustIdentity : String) :
    Option ServerCredentialRecord := do
  guard (hasVersion value SERVER_CREDENTIAL_RECORD_VERSION)
  guard (value.string? "origin" == some origin)
  guard (value.string? "trustIdentity" == some trustIdentity)
  let credential ← stringWith value "credential" validCredential
  let clientId ← (value.field? "clientId").bind readClientId
  let createCube ← (value.field? "serverCapabilities").bind readCapabilities
  return ⟨origin, trustIdentity, credential, clientId, createCube⟩

structure EnrollmentArtifactBinding where
  artifactFormatVersion : ℕ
  artifactDigest : String
  endpoint : String
  caSpkiSha256 : String
  trustIdentity : String
  expectedAuthority : String
  stagedGenerationId : String
deriving DecidableEq

def readArtifactBinding (value : Json) : Option EnrollmentArtifactBinding := do
  let endpoint ← value.string? "endpoint"
  let trustIdentity ← value.string? "trustIdentity"
  guard (validServerCredentialBinding endpoint trustIdentity)
  let artifactFormatVersion ← (value.field? "artifactFormatVersion").bind Json.asNat
  guard (1 ≤ artifactFormatVersion ∧ artifactFormatVersion ≤ 2 ^ 53 - 1)
  let artifactDigest ← stringWith value "artifactDigest" isHexDigest
  let caSpkiSha256 ← stringWith value "caSpkiSha256" isHexDigest
  let stagedGenerationId ← stringWith value "stagedGenerationId" isHexDigest
  let expectedAuthority ← stringWith value "expectedAuthority"
    (fun authority => authority == "owner" || authority == "client")
  return ⟨artifactFormatVersion, artifactDigest, endpoint, caSpkiSha256, trustIdentity,
    expectedAuthority, stagedGenerationId⟩

structure EnrollmentReplacementCapability where
  token : String
  priorAccountsDigest : String
  endpoint : String
  caSpkiSha256 : String
  trustIdentity : String
  retryKey : String
  artifactDigest : String
deriving DecidableEq

def readReplacementCapability (value : Json) : Option EnrollmentReplacementCapability := do
  let token ← stringWith value "token" Cubes.isUuid
  let endpoint ← value.string? "endpoint"
  let trustIdentity ← value.string? "trustIdentity"
  guard (validServerCredentialBinding endpoint trustIdentity)
  let priorAccountsDigest ← stringWith value "priorAccountsDigest" isHexDigest
  let caSpkiSha256 ← stringWith value "caSpkiSha256" isHexDigest
  let artifactDigest ← stringWith value "artifactDigest" isHexDigest
  let retryKey ← stringWith value "retryKey" Cubes.isUuid
  return ⟨token, priorAccountsDigest, endpoint, caSpkiSha256, trustIdentity, retryKey,
    artifactDigest⟩

structure PendingServerEnrollmentRecord where
  origin : String
  trustIdentity : String
  invitation : String
  retryKey : String
  credential : String
  clientName : Option String
  artifactBinding : Option EnrollmentArtifactBinding
  replacementCapability : Option EnrollmentReplacementCapability
deriving DecidableEq

/-- The binding is of this authority, and the capability of this attempt. -/
def boundTogether (record : PendingServerEnrollmentRecord) : Bool :=
  record.artifactBinding.all (fun binding =>
    binding.endpoint == record.origin && binding.trustIdentity == record.trustIdentity &&
      record.replacementCapability.all (fun capability =>
        capability.endpoint == record.origin &&
          capability.trustIdentity == record.trustIdentity &&
            capability.retryKey == record.retryKey &&
              capability.artifactDigest == binding.artifactDigest &&
                capability.caSpkiSha256 == binding.caSpkiSha256))

def isPendingVersion (value : Json) : Bool :=
  hasVersion value SERVER_PENDING_ENROLLMENT_RECORD_VERSION ||
    hasVersion value LEGACY_SERVER_PENDING_ENROLLMENT_RECORD_VERSION

/-- What a reader refuses has no record here. -/
def decodePendingServerEnrollment (value : Json) (origin trustIdentity : String) :
    Option PendingServerEnrollmentRecord := do
  guard (isPendingVersion value && value.string? "state" == some "pending")
  guard (value.string? "origin" == some origin)
  guard (value.string? "trustIdentity" == some trustIdentity)
  let invitation ← stringWith value "invitation" validInvitation
  let retryKey ← stringWith value "retryKey" Cubes.isUuid
  let credential ← stringWith value "credential" validCredential
  let clientName ← value.optional (fun name => name.asString.filter isPlainName) "clientName"
  let artifactBinding ← value.optional readArtifactBinding "artifactBinding"
  let replacementCapability ← value.optional readReplacementCapability "replacementCapability"
  let record : PendingServerEnrollmentRecord :=
    ⟨origin, trustIdentity, invitation, retryKey, credential, clientName, artifactBinding,
      replacementCapability⟩
  guard (boundTogether record)
  return record

structure EnrollmentTrustPointer where
  origin : String
  generationId : String
  trustIdentity : String
deriving DecidableEq

structure AcceptedEnrollmentMarker where
  origin : String
  trustIdentity : String
  generationId : String
  previousPointer : Option EnrollmentTrustPointer
  activeDigest : String
  rollbackAccount : String
  rollbackDigest : String
deriving DecidableEq

def isMarker (value : Json) : Bool :=
  hasVersion value SERVER_ACCEPTED_ENROLLMENT_MARKER_VERSION &&
    value.string? "state" == some "accepted"

/-- `null`, or a pointer of the marker's origin. -/
def readPointer (origin : String) : Json → Option (Option EnrollmentTrustPointer)
  | .null => some none
  | value => do
    guard (hasVersion value 1 && value.string? "origin" == some origin)
    let generationId ← stringWith value "generationId" isHexDigest
    let trustIdentity ← value.string? "trustIdentity"
    guard (validServerCredentialBinding origin trustIdentity)
    return some ⟨origin, generationId, trustIdentity⟩

def decodeAcceptedEnrollmentMarker (value : Json) : Option AcceptedEnrollmentMarker := do
  guard (isMarker value)
  let origin ← value.string? "origin"
  let trustIdentity ← value.string? "trustIdentity"
  let generationId ← stringWith value "generationId" isHexDigest
  let activeDigest ← stringWith value "activeDigest" isHexDigest
  let rollbackAccount ← value.string? "rollbackAccount"
  let rollbackDigest ← stringWith value "rollbackDigest" isHexDigest
  guard (validServerCredentialBinding origin trustIdentity)
  let previousPointer ← (value.field? "previousPointer").bind (readPointer origin)
  return ⟨origin, trustIdentity, generationId, previousPointer, activeDigest, rollbackAccount,
    rollbackDigest⟩

end Records

end BorgClient.Credentials
