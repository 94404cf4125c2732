import BorgClient.Lib.Json

/-!
# What the server says of itself

The JSON of `borg-mcp-server status` and `borg-mcp-server update`, as `update-cmd.ts` reads it.
-/

namespace BorgClient.Update
open List

def CLIENT_PACKAGE : String := "borgmcp"

def SERVER_PACKAGE : String := "borgmcp-server"

/-- What a failed call or check throws: a command stopped by a signal, or another error. -/
inductive Failure where
  | signal (number : ℕ)
  | other (message : String)
deriving DecidableEq, Repr

/-- The parser of URLs. -/
class Urls where
  isHttpsOrigin : String → Bool

/-! ### Versions and integrities -/

def isDigitChar (c : Char) : Bool := '0' ≤ c && c ≤ '9'

def isIdentifierChar (c : Char) : Bool :=
  isDigitChar c || ('a' ≤ c && c ≤ 'z') || ('A' ≤ c && c ≤ 'Z') || c == '-'

/-- `0|[1-9]\d*` -/
def isNumeric (part : List Char) : Bool :=
  !part.isEmpty && part.all isDigitChar && (part == ['0'] || part.head? != some '0')

/-- A dotted part of a prerelease: a number, or identifier characters that are not all digits. -/
def isPrerelease (part : List Char) : Bool :=
  isNumeric part || (part.all isIdentifierChar && part.any (fun c => !isDigitChar c))

def isBuild (part : List Char) : Bool := !part.isEmpty && part.all isIdentifierChar

/-- `EXACT_SEMVER` -/
def isExactSemver (value : String) : Bool :=
  let text := value.toList
  let release := text.takeWhile (fun c => c != '+')
  let build := text.drop release.length
  let core := release.takeWhile (fun c => c != '-')
  let prerelease := release.drop core.length
  (core.splitOn '.').length == 3 && (core.splitOn '.').all isNumeric &&
    (prerelease.isEmpty || (prerelease.tail.splitOn '.').all isPrerelease) &&
    (build.isEmpty || (build.tail.splitOn '.').all isBuild)

def isBase64Char (c : Char) : Bool :=
  isDigitChar c || ('a' ≤ c && c ≤ 'z') || ('A' ≤ c && c ≤ 'Z') || c == '+' || c == '/'

/-- `sha512-` and the base64 text of 64 bytes: 86 characters, the last with four zero bits, and
`==`. -/
def isCanonicalSha512Integrity (value : String) : Bool :=
  let text := value.toList
  let encoded := text.drop 7
  text.take 7 == "sha512-".toList && encoded.length == 88 && (encoded.take 86).all isBase64Char &&
    ((encoded.drop 85).head?).any (fun c => c ∈ ['A', 'Q', 'g', 'w']) &&
    encoded.drop 86 == ['=', '=']

/-! ### Status -/

inductive RunState where
  | running
  | stopped
deriving DecidableEq, Repr

inductive ServerMode where
  | foreground
  | managed
  | legacy
  | stopped
deriving DecidableEq, Repr

inductive ServiceAdapter where
  | launchd
  | systemd
deriving DecidableEq, Repr

inductive RuntimeLock where
  | clear
  | stale
deriving DecidableEq, Repr

inductive DataIdentity where
  | available
  | unavailable
deriving DecidableEq, Repr

structure ServerStatus where
  state : RunState
  installedController : String
  preparedRuntime : Option String
  preparedIntegrity : Option String
  runningRuntime : Option String
  runningIntegrity : Option String
  buildIdentity : Option String
  endpoint : Option String
  mode : ServerMode
  serviceAdapter : Option ServiceAdapter
  serviceRecovery : Option (List String)
  runtimeLock : Option RuntimeLock
  dataIdentity : DataIdentity
  nextAction : Option String
deriving DecidableEq, Repr

/-- A field that is null or read by `read`; a missing one is neither. -/
def nullOr {α : Type} (read : Json → Option α) (record : Json) (name : String) :
    Option (Option α) :=
  match record.field? name with
  | some .null => some none
  | some value => (read value).map some
  | none => none

/-- A field that is one of the texts listed. -/
def oneOf {α : Type} (values : List (String × α)) (record : Json) (name : String) : Option α :=
  (record.string? name).bind (fun text => values.lookup text)

def isNextAction (action : String) : Bool :=
  action == "borg-mcp-server update" ||
    ("npm install --global borgmcp-server@".toList.isPrefixOf action.toList &&
      isExactSemver (String.ofList
        (action.toList.drop "npm install --global borgmcp-server@".toList.length)))

def decodeNextAction : Json → Option String
  | .str action => if isNextAction action then some action else none
  | _ => none

/-- `\p{Cc}` -/
def isControl (c : Char) : Bool := c.toNat < 0x20 || (0x7f ≤ c.toNat && c.toNat < 0xa0)

def decodeManagedServiceRecovery (value : Json) : Option (List String) :=
  match value.string? "kind", value.field? "command" with
  | some "run-platform-command", some (.arr command) =>
    if command.isEmpty || 32 < command.length then none
    else command.mapM (fun arg =>
      match arg with
      | .str text =>
        if text.toList.isEmpty || 1024 < text.toList.length || text.toList.any isControl then none
        else some text
      | _ => none)
  | _, _ => none

/-- A positive safe integer. -/
def isProcessId : Json → Bool
  | .num value => value.den == 1 && 0 < value && value ≤ 2 ^ 53 - 1
  | _ => false

def decodeStoppedRuntimeLock (value : Json) : Option RuntimeLock :=
  match value.string? "state" with
  | some "clear" => some .clear
  | some "stale" =>
    if (value.field? "pid").any isProcessId &&
        value.string? "process_state" == some "absent" &&
        (value.string? "runtime").any (fun runtime => !runtime.isEmpty) &&
        ((nullOr Json.asString value "runtime_integrity").any
          (fun integrity => integrity.all isCanonicalSha512Integrity)) &&
        (nullOr Json.asString value "build_identity").isSome &&
        (nullOr Json.asString value "endpoint").isSome &&
        (value.string? "mode").any (fun mode => mode ∈ ["foreground", "managed", "legacy"]) &&
        value.string? "recovery_action" == some "borg-mcp-server recover-stale-lock"
    then some .stale else none
  | _ => none

def invalidStatus : Failure := .other "server returned invalid JSON status"

def invalidRecovery : Failure :=
  .other "server returned invalid managed-service recovery status"

/-- The lock and the recovery of a stopped server. -/
def decodeStopped (record : Json) (serviceAdapter : Option ServiceAdapter) :
    Except Failure (Option (List String) × Option RuntimeLock) :=
  match (record.field? "runtime_lock").bind decodeStoppedRuntimeLock with
  | none => .error (.other "server returned invalid JSON status runtime lock")
  | some lock =>
    match record.string? "service_state" with
    | some state =>
      let recovery := if serviceAdapter.isSome && state == "inactive" then
        (record.field? "service_recovery").bind decodeManagedServiceRecovery else none
      let recoveryIsNull := match record.field? "service_recovery" with
        | some .null => true
        | _ => false
      if state ∉ ["active", "inactive", "absent"] ∨
          (serviceAdapter.isSome ∧ state = "inactive" ∧ recovery = none) ∨
          (state ≠ "inactive" ∧ recoveryIsNull = false) ∨
          (serviceAdapter = none ∧ state ≠ "absent") then .error invalidRecovery
      else .ok (recovery, some lock)
    | none => .error invalidRecovery

/-- The fields by their types, before they are compared. -/
def statusFields (record : Json) : Option ServerStatus := do
  let state ← oneOf [("running", .running), ("stopped", .stopped)] record "status"
  let installedController ← record.string? "installed_controller"
  let preparedRuntime ← nullOr Json.asString record "prepared_runtime"
  let preparedIntegrity ← nullOr Json.asString record "prepared_integrity"
  let runningRuntime ← nullOr Json.asString record "running_runtime"
  let runningIntegrity ← nullOr Json.asString record "running_integrity"
  let buildIdentity ← nullOr Json.asString record "build_identity"
  let endpoint ← nullOr Json.asString record "endpoint"
  let mode ← oneOf [("foreground", .foreground), ("managed", .managed), ("legacy", .legacy),
    ("stopped", .stopped)] record "mode"
  let serviceAdapter ← nullOr (fun value => value.asString.bind (fun text =>
    [("launchd", ServiceAdapter.launchd), ("systemd", .systemd)].lookup text)) record
      "service_adapter"
  let dataIdentity ← oneOf [("available", .available), ("unavailable", .unavailable)] record
    "data_identity"
  let nextAction ← nullOr decodeNextAction record "next_action"
  return ⟨state, installedController, preparedRuntime, preparedIntegrity, runningRuntime,
    runningIntegrity, buildIdentity, endpoint, mode, serviceAdapter, none, none, dataIdentity,
    nextAction⟩

def decodeServerStatus (record : Json) : Except Failure ServerStatus :=
  match statusFields record with
  | none => .error invalidStatus
  | some status =>
    if !status.preparedIntegrity.all isCanonicalSha512Integrity ||
        !status.runningIntegrity.all isCanonicalSha512Integrity then
      .error (.other "server returned invalid JSON status integrity")
    else if (status.state = .stopped ∧ (status.runningRuntime ≠ none ∨
          status.runningIntegrity ≠ none ∨ status.buildIdentity ≠ none ∨ status.endpoint ≠ none ∨
          status.mode ≠ .stopped)) ∨ (status.state = .running ∧ status.mode = .stopped) then
      .error (.other "server returned inconsistent JSON status")
    else
      match status.state with
      | .running => .ok status
      | .stopped => (decodeStopped record status.serviceAdapter).map (fun stopped =>
          { status with serviceRecovery := stopped.1, runtimeLock := stopped.2 })

structure ServerJsonExecution where
  exitCode : ℤ
  value : Json

def decodeServerStatusExecution (execution : ServerJsonExecution) : Except Failure ServerStatus :=
  match decodeServerStatus execution.value with
  | .error error => .error error
  | .ok status =>
    let stale := status.state = .stopped ∧ status.runtimeLock = some .stale
    if (stale ∧ execution.exitCode ≠ 1) ∨ (¬ stale ∧ execution.exitCode ≠ 0) then
      .error (.other s!"server returned invalid JSON status exit pairing ({execution.exitCode})")
    else .ok status

/-! ### Updates -/

inductive UpdateErrorCode where
  | ARTIFACT_VERIFICATION_FAILED
  | ACTIVATION_FAILED
deriving DecidableEq, Repr

inductive UpdateRecovery where
  | verification_failed
  | restored
  | stopped
  | recovery_failed
deriving DecidableEq, Repr

inductive UpdateStatus where
  | prepared
  | updated
deriving DecidableEq, Repr

structure ServerUpdateSuccess where
  status : UpdateStatus
  installedController : String
  artifact : String
  artifactIntegrity : String
  runningRuntime : Option String
  buildIdentity : Option String
  mode : ServerMode
  nextAction : Option String
deriving DecidableEq, Repr

inductive ServerUpdateResult where
  | failed (errorCode : UpdateErrorCode) (recovery : UpdateRecovery)
  | success (update : ServerUpdateSuccess)
deriving DecidableEq, Repr

def decodeUpdateFailure (record : Json) : Except Failure ServerUpdateResult :=
  match oneOf [("ARTIFACT_VERIFICATION_FAILED", UpdateErrorCode.ARTIFACT_VERIFICATION_FAILED),
      ("ACTIVATION_FAILED", .ACTIVATION_FAILED)] record "error_code",
    oneOf [("verification_failed", UpdateRecovery.verification_failed), ("restored", .restored),
      ("stopped", .stopped), ("recovery_failed", .recovery_failed)] record "recovery" with
  | some errorCode, some recovery =>
    if record.string? "data_identity" ≠ some "preserved" ∨
        (errorCode = .ARTIFACT_VERIFICATION_FAILED ∧ recovery ≠ .verification_failed) ∨
        (errorCode = .ACTIVATION_FAILED ∧ recovery = .verification_failed) then
      .error (.other "server returned invalid JSON update failure")
    else .ok (.failed errorCode recovery)
  | _, _ => .error (.other "server returned invalid JSON update failure")

def updateFields (record : Json) : Option ServerUpdateSuccess := do
  let status ← oneOf [("prepared", .prepared), ("updated", .updated)] record "status"
  let installedController ← record.string? "installed_controller"
  let artifact ← record.string? "artifact"
  let artifactIntegrity ← record.string? "artifact_integrity"
  let runningRuntime ← nullOr Json.asString record "running_runtime"
  let buildIdentity ← nullOr Json.asString record "build_identity"
  let mode ← oneOf [("stopped", .stopped), ("managed", .managed)] record "mode"
  let nextAction ← nullOr decodeNextAction record "next_action"
  return ⟨status, installedController, artifact, artifactIntegrity, runningRuntime, buildIdentity,
    mode, nextAction⟩

def decodeServerUpdate (record : Json) : Except Failure ServerUpdateResult :=
  if record.string? "status" = some "failed" then decodeUpdateFailure record
  else
    match updateFields record with
    | none => .error (.other "server returned invalid JSON update result")
    | some update =>
      if record.string? "data_identity" ≠ some "preserved" ∨
          !isCanonicalSha512Integrity update.artifactIntegrity then
        .error (.other "server returned invalid JSON update result")
      else if (update.status = .prepared ∧
            (update.runningRuntime ≠ none ∨ update.mode ≠ .stopped)) ∨
          (update.status = .updated ∧ (update.runningRuntime = none ∨ update.mode ≠ .managed)) then
        .error (.other "server returned inconsistent JSON update result")
      else .ok (.success update)

end BorgClient.Update
