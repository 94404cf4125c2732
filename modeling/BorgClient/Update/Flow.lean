import BorgClient.Lib.Calls
import BorgClient.Update.Decoding

/-!
# `borg update`

`runUpdate` of `update-cmd.ts`: the client is brought to its published version and hands over to
itself; then the server package, then the server's runtime.
-/

namespace BorgClient.Update
open Calls Calls.Prog

/-! ### Packages -/

structure PublishedPackage where
  name : String
  version : String
  integrity : String
  sharedVersion : String
deriving DecidableEq, Repr

structure InstalledPackage where
  name : String
  version : String
  sharedVersion : String
  binPath : String
deriving DecidableEq, Repr

structure UpdateTarget where
  clientVersion : String
  serverVersion : String
  serverPresent : Option Bool
deriving DecidableEq, Repr

structure UpdateOptions where
  yes : Bool
  help : Bool
  registry : Option String
  target : Option UpdateTarget
deriving DecidableEq, Repr

inductive Confirmation where
  | yes
  | no
  | eof
  | interrupted
deriving DecidableEq, Repr

inductive ServerCommand where
  | status
  | update
deriving DecidableEq, Repr

/-- The dependencies of an update. -/
inductive Call where
  | publishedPackage (name version : String)
  | currentClient
  | currentServer
  | isTTY
  | confirm
  | installGlobal (name version : String)
  | reenter (binPath : String) (args : List String)
  | serverJson (binPath : String) (command : ServerCommand)
  | verifyRunningProtocol (origin : String)
  | refreshAgentIntegrations
  | activateHermesPlugin
deriving DecidableEq, Repr

@[reducible] def Reply : Call → Type
  | .publishedPackage _ _ => Except Failure PublishedPackage
  | .currentClient => Except Failure InstalledPackage
  | .currentServer => Except Failure (Option InstalledPackage)
  | .isTTY => Bool
  | .confirm => Except Failure Confirmation
  | .installGlobal _ _ => Except Failure Unit
  | .reenter _ _ => Except Failure ℤ
  | .serverJson _ _ => Except Failure ServerJsonExecution
  | .verifyRunningProtocol _ => Except Failure Unit
  | .refreshAgentIntegrations => Except Failure Unit
  | .activateHermesPlugin => Except Failure ℤ

abbrev Run := Prog Reply Failure

def validatePublishedPackage (value : PublishedPackage) (expectedName : String) :
    Except Failure Unit :=
  if value.name ≠ expectedName ∨ isExactSemver value.version = false then
    .error (.other s!"registry returned an invalid {expectedName} manifest identity (missing or invalid name/version field)")
  else if isCanonicalSha512Integrity value.integrity = false then
    .error (.other s!"registry returned invalid {expectedName} SHA-512 integrity")
  else if isExactSemver value.sharedVersion = false then
    .error (.other s!"registry returned a non-exact {expectedName} borgmcp-shared dependency")
  else .ok ()

structure Pair where
  client : PublishedPackage
  server : PublishedPackage
deriving DecidableEq, Repr

/-- The checks of `publishedPair`. -/
def checkPair (target : Option UpdateTarget) (client server : PublishedPackage) :
    Except Failure Pair := do
  validatePublishedPackage client CLIENT_PACKAGE
  validatePublishedPackage server SERVER_PACKAGE
  if target.any (fun target =>
      client.version != target.clientVersion || server.version != target.serverVersion) then
    throw (.other "published update targets changed during client re-entry")
  if client.sharedVersion ≠ server.sharedVersion then
    throw (.other s!"published pair is incompatible: {CLIENT_PACKAGE}@{client.version} pins borgmcp-shared@{client.sharedVersion}; {SERVER_PACKAGE}@{server.version} pins borgmcp-shared@{server.sharedVersion}. Wait for a compatible published pair and rerun borg update.")
  return ⟨client, server⟩

def isInstalled (installed : InstalledPackage) (published : PublishedPackage) : Bool :=
  installed.name == published.name && installed.version == published.version &&
    installed.sharedVersion == published.sharedVersion

def assertInstalled (installed : InstalledPackage) (published : PublishedPackage) :
    Except Failure Unit :=
  if isInstalled installed published then .ok ()
  else .error (.other s!"{published.name} installation verification failed: expected {published.version} with borgmcp-shared@{published.sharedVersion}")

def exactServerIdentity (version : String) : String := s!"{SERVER_PACKAGE}@{version}"

variable [Urls]

def verifyServerStatus (status : ServerStatus) (target : PublishedPackage) :
    Except Failure RunState :=
  let identity := exactServerIdentity target.version
  if status.installedController ≠ identity ∨ status.preparedRuntime ≠ some identity ∨
      status.preparedIntegrity ≠ some target.integrity ∨ status.nextAction ≠ none then
    .error (.other "final server verification failed: controller, prepared runtime, integrity, or next action mismatched")
  else if status.state = .stopped then
    if status.runningRuntime ≠ none ∨ status.runningIntegrity ≠ none ∨
        status.buildIdentity ≠ none ∨ status.endpoint ≠ none ∨ status.mode ≠ .stopped ∨
        status.dataIdentity ≠ .available then
      .error (.other "final server verification failed: stopped server reported a running runtime")
    else .ok .stopped
  else if status.runningRuntime ≠ some identity ∨ status.runningIntegrity ≠ some target.integrity ∨
      status.mode = .stopped ∨ status.dataIdentity ≠ .available ∨
      !status.endpoint.any Urls.isHttpsOrigin then
    .error (.other "final server verification failed: running runtime mismatched")
  else .ok .running

/-! ### Stages -/

/-- `interrupted ?? 1` -/
def exitCode : Failure → ℤ
  | .signal number => 128 + number
  | .other _ => 1

/-- Both packages and what is installed, asked for together. -/
def discover (options : UpdateOptions) :
    Run (Pair × InstalledPackage × Option InstalledPackage) := do
  let client ← call (.publishedPackage CLIENT_PACKAGE
    ((options.target.map (·.clientVersion)).getD "latest"))
  let server ← call (.publishedPackage SERVER_PACKAGE
    ((options.target.map (·.serverVersion)).getD "latest"))
  let installedClient ← call .currentClient
  let installedServer ← call .currentServer
  let client ← orFail client
  let server ← orFail server
  let pair ← orFail (checkPair options.target client server)
  return (pair, ← orFail installedClient, ← orFail installedServer)

/-- An exit code where the operator did not confirm. -/
def confirmation (options : UpdateOptions) : Run (Option ℤ) := do
  if options.yes then return none
  if !(← call .isTTY) then return some 1
  match ← orFail (← call .confirm) with
  | .yes => return none
  | .no => return some 0
  | .eof => return some 1
  | .interrupted => return some 130

def reentryArgs (options : UpdateOptions) (pair : Pair) (serverWasPresent : Bool) : List String :=
  ["update", "--yes"] ++ (options.registry.toList.flatMap (fun registry => ["--registry", registry])) ++
    ["--target-client", pair.client.version, "--target-server", pair.server.version,
      "--server-present", if serverWasPresent then "yes" else "no"]

/-- The client installs itself and hands over. -/
def updateClient (options : UpdateOptions) (pair : Pair) (serverWasPresent : Bool) : Run ℤ :=
  catchWith (do
      orFail (← call (.installGlobal CLIENT_PACKAGE pair.client.version))
      let installedClient ← orFail (← call .currentClient)
      orFail (assertInstalled installedClient pair.client)
      orFail (← call (.reenter installedClient.binPath
        (reentryArgs options pair serverWasPresent))))
    (fun error => return exitCode error)

/-- An incomplete activation is a warning. -/
def activateHermesPluginAfterUpdate : Run Unit := do
  let _ ← call .activateHermesPlugin

/-- Without a server. -/
def finishClient : Run ℤ := do
  let refreshed ← attempt (do orFail (← call .refreshAgentIntegrations))
  match refreshed with
  | .error _ => return 1
  | .ok _ => do
    activateHermesPluginAfterUpdate
    return 0

def updateController (pair : Pair) (discoveredServer : Option InstalledPackage) :
    Run InstalledPackage := do
  match discoveredServer with
  | none => fail (.other "previously installed server is unavailable")
  | some discovered => do
    if discovered.version ≠ pair.server.version ∨
        discovered.sharedVersion ≠ pair.server.sharedVersion then
      orFail (← call (.installGlobal SERVER_PACKAGE pair.server.version))
    match ← orFail (← call .currentServer) with
    | none => fail (.other "server controller disappeared after installation")
    | some verified => do
      orFail (assertInstalled verified pair.server)
      return verified

/-- The variables a failure of the server stage is reported with. -/
structure Stage where
  observedStatus : Option ServerStatus
  updateAttempted : Bool
  recoveryStatusAttempted : Bool
deriving DecidableEq, Repr

abbrev StageRun := Prog Reply (Failure × Stage)

/-- A step of the server stage. -/
def Stage.during {α : Type} (stage : Stage) (step : Run α) : StageRun α :=
  catchWith step (fun error => fail (error, stage))

def readStatus (server : InstalledPackage) : Run ServerStatus := do
  let execution ← orFail (← call (.serverJson server.binPath .status))
  orFail (decodeServerStatusExecution execution)

/-- `observeStatusAfterFailure` -/
def observeStatus {ε : Type} (server : InstalledPackage) : Prog Reply ε (Option ServerStatus) :=
  catchWith (do return some (← readStatus server)) (fun _ => return none)

/-- Whether the result of an update is the target. -/
def reachedTarget (update : ServerUpdateSuccess) (target : PublishedPackage) : Bool :=
  let identity := exactServerIdentity target.version
  update.installedController == identity && update.artifact == identity &&
    update.artifactIntegrity == target.integrity && update.nextAction == none &&
    (update.status != .updated || update.runningRuntime == some identity)

/-- The one `update` of the server, and the status after it. -/
def activate (server : InstalledPackage) (pair : Pair) : StageRun ServerStatus := do
  let attempted : Stage := ⟨none, true, false⟩
  let update ← attempted.during (do
    let execution ← orFail (← call (.serverJson server.binPath .update))
    orFail (decodeServerUpdate execution.value))
  match update with
  | .failed _ _ => do
    let observed ← observeStatus server
    fail (.other "server update failed", ⟨observed, true, true⟩)
  | .success update => do
    if reachedTarget update pair.server then
      Stage.during ⟨none, true, true⟩ (readStatus server)
    else fail (.other "server update result did not reach the target artifact", attempted)

/-- What is checked of the status a run ends with. -/
def verify (pair : Pair) (initialServerState : RunState) (status : ServerStatus) : Run RunState := do
  let state ← orFail (verifyServerStatus status pair.server)
  let finalClient ← call .currentClient
  let finalServer ← call .currentServer
  let finalClient ← orFail finalClient
  let finalServer ← orFail finalServer
  orFail (assertInstalled finalClient pair.client)
  match finalServer with
  | none => fail (.other "server controller disappeared during final verification")
  | some finalServer => do
    orFail (assertInstalled finalServer pair.server)
    if initialServerState = .running ∧ state = .stopped then
      fail (.other "a previously running local server is now stopped")
    else if state = .running then do
      orFail (← call (.verifyRunningProtocol (status.endpoint.getD "")))
      return state
    else return state

/-- The status a run goes on with: the first, or that after an update. -/
def reachStatus (server : InstalledPackage) (pair : Pair) (status : ServerStatus) :
    StageRun (ServerStatus × Stage) :=
  match verifyServerStatus status pair.server with
  | .ok _ => return (status, ⟨some status, false, false⟩)
  | .error _ => do
    let status ← activate server pair
    return (status, ⟨some status, true, true⟩)

def serverStage (server : InstalledPackage) (pair : Pair) : StageRun ℤ := do
  let status ← Stage.during ⟨none, false, false⟩ (readStatus server)
  if status.installedController ≠ exactServerIdentity pair.server.version then
    fail (.other "server status contradicted the verified controller identity",
      ⟨some status, false, false⟩)
  let (final, stage) ← reachStatus server pair status
  let _ ← stage.during (verify pair status.state final)
  let refreshed ← stage.during (attempt (do orFail (← call .refreshAgentIntegrations)))
  match refreshed with
  | .error error => return exitCode error
  | .ok _ => do
    stage.during activateHermesPluginAfterUpdate
    return 0

/-- A failed update whose state is unknown is looked at once more. -/
def updateServer (server : InstalledPackage) (pair : Pair) : Run ℤ :=
  catchWith (serverStage server pair) (fun (error, stage) => do
    if stage.updateAttempted && !stage.recoveryStatusAttempted &&
        stage.observedStatus.isNone then
      let _ ← observeStatus server
    return exitCode error)

/-- Whether a server was there when the update began. -/
def serverPresent (options : UpdateOptions) (discoveredServer : Option InstalledPackage) : Bool :=
  (options.target.bind (·.serverPresent)).getD discoveredServer.isSome

/-- A confirmed update. -/
def applyUpdate (options : UpdateOptions) (pair : Pair) (client : InstalledPackage)
    (discoveredServer : Option InstalledPackage) : Run ℤ := do
  let serverWasPresent := serverPresent options discoveredServer
  if client.version ≠ pair.client.version ∨ client.sharedVersion ≠ pair.client.sharedVersion then
    updateClient options pair serverWasPresent
  else
    match assertInstalled client pair.client with
    | .error error => return exitCode error
    | .ok _ =>
      if serverWasPresent then do
        let controller ← attempt (updateController pair discoveredServer)
        match controller with
        | .error error => return exitCode error
        | .ok server => updateServer server pair
      else finishClient

def runUpdate (options : UpdateOptions) : Run ℤ := do
  if options.help then return 0
  let discovered ← attempt (discover options)
  match discovered with
  | .error error => return exitCode error
  | .ok (pair, client, discoveredServer) => do
    if options.target.any (·.serverPresent == some true) && discoveredServer.isNone then return 1
    match ← confirmation options with
    | some code => return code
    | none => applyUpdate options pair client discoveredServer

end BorgClient.Update
