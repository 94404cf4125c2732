import BorgClient.Lib.Runs

/-!
# Activation of the Hermes plugin

`hermes-plugin-install.ts`: the generations Borg writes into a Hermes home, the record of the
one the gateway is confirmed to have loaded, and how a run confirms it.
-/

namespace BorgClient.Hermes
open List

/-! ### Gateway status -/

/-- What `hermes gateway status` shows; a failed command shows nothing. -/
inductive GatewaySupervision
  | service (pid : Option String)
  | manual (pid : Option String)
  | multiplexed
  | stopped
  | unknown
deriving DecidableEq, Repr

/-- A positive integer of at most ten digits. -/
def validPid (value : Option String) : Option String :=
  value.filter (fun pid =>
    match pid.toList with
    | [] => false
    | first :: rest => '1' ≤ first && first ≤ '9' && rest.length ≤ 9 && rest.all Char.isDigit)

def gatewayPid : GatewaySupervision → Option String
  | .service pid => validPid pid
  | .manual pid => validPid pid
  | _ => none

inductive HostOutcome | complete | actionNeeded | failed
deriving DecidableEq, Repr

/-- Whether a hand-started gateway with this PID counts as restarted since the write. -/
def reloaded (writtenWithPid current : Option String) : Bool :=
  (validPid writtenWithPid).isSome && current.isSome && current != writtenWithPid

/-- `activateHosts` up to its restart of a service: `none` goes on to restart it. -/
def activateHosts (before : GatewaySupervision) (writtenWithPid : Option String) :
    Option HostOutcome :=
  match before with
  | .stopped => some .complete
  | .manual _ =>
    if reloaded writtenWithPid (gatewayPid before) then some .complete else some .actionNeeded
  | .multiplexed => some .actionNeeded
  | .unknown => some .actionNeeded
  | .service _ => none

/-- After the restart: both PIDs are known and differ. -/
def restartOutcome (oldPid : Option String) (after : GatewaySupervision) : HostOutcome :=
  match after with
  | .service _ =>
    if oldPid.isNone || (gatewayPid after).isNone || gatewayPid after == oldPid then .failed
    else .complete
  | _ => .failed

/-! ### Records -/

def ABSENT_GENERATION : String := "absent"

structure Generation where
  id : String
  digest : String
  gateway_pid : Option String
deriving DecidableEq, Repr

structure ActivationRecord where
  hermes_home : String
  desired : Generation
  activated : Option String
  desktop_reload : Bool
deriving DecidableEq, Repr

/-- `id` is the fresh UUID, `sampled` the answer of the status command. -/
def beginGeneration (home digest : String) (previous : Option ActivationRecord)
    (desktopReload : Bool) (id : String) (sampled : GatewaySupervision) : ActivationRecord where
  hermes_home := home
  desired := ⟨id, digest, gatewayPid sampled⟩
  activated := previous.bind (·.activated)
  desktop_reload := desktopReload

/-! ### What a run sets out to do -/

inductive InstallState | absent | directoryOnly | installed
deriving DecidableEq, Repr

/-- One call: its options, and what it has read of the home before its first write. -/
structure Call where
  uninstall : Bool
  home : String
  state : InstallState
  /-- No stale plugin file and no config step. -/
  inPlace : Bool
  digest : String
  mcpChanged : Bool
  dryRun : Bool
  noRestart : Bool
  mayCreate : Bool
deriving DecidableEq, Repr

inductive Next
  | done
  /-- Write the record, and nothing else. -/
  | keep (record : ActivationRecord)
  /-- Write the record, then finish its generation. -/
  | retry (record : ActivationRecord)
  /-- Begin a generation; `writes` when files or keys are to be written. -/
  | begin (digest : String) (desktopReload writes : Bool)
deriving DecidableEq, Repr

def activate (call : Call) (previous : Option ActivationRecord) : Next :=
  if call.state ≠ .installed ∧ ¬ call.mayCreate then .done
  else if call.state = .installed ∧ call.inPlace then
    match previous with
    | some record =>
      let active := record.desired.digest == call.digest &&
        record.activated == some record.desired.id
      if active && !record.desktop_reload then .done
      else if call.dryRun then .done
      else if active then .keep { record with desktop_reload := false }
      else if record.desired.digest = call.digest then
        .retry { record with desktop_reload := false }
      else .begin call.digest false false
    | none => if call.dryRun then .done else .begin call.digest false false
  else if call.dryRun then .done
  else .begin call.digest call.mcpChanged true

/-- `runHermesPluginUninstall`; a home that is in place has no config step left to remove. -/
def uninstall (call : Call) (previous : Option ActivationRecord) : Next :=
  if call.state ≠ .installed ∧ call.inPlace then
    match previous with
    | none => .done
    | some record =>
      if call.dryRun then .done
      else if record.desired.digest = ABSENT_GENERATION then .retry record
      else .begin ABSENT_GENERATION false false
  else if call.dryRun then .done
  else .begin ABSENT_GENERATION false true

def setOut (call : Call) (previous : Option ActivationRecord) : Next :=
  if call.uninstall then uninstall call previous else activate call previous

/-- The record after a confirmed host step. -/
def confirmed (record : ActivationRecord) : Option ActivationRecord :=
  if record.desired.digest = ABSENT_GENERATION then none
  else some { record with activated := some record.desired.id }

/-! ### Runs beside the operator -/

inductive Supervisor | service | manual | multiplexed
deriving DecidableEq, Repr

/-- A gateway process, and when it started. -/
structure Process where
  pid : String
  supervisor : Supervisor
  started : ℕ
deriving DecidableEq, Repr

/-- How far a run has come. -/
inductive Phase
  | idle
  | begin (call : Call) (previous : Option ActivationRecord) (digest : String)
      (desktopReload writes : Bool)
  /-- About to write the record, to go on to its managed writes or to its host step. -/
  | put (call : Call) (previous : Option ActivationRecord) (record : ActivationRecord)
      (writes : Bool)
  | keep (record : ActivationRecord)
  | writing (call : Call) (previous : Option ActivationRecord) (record : ActivationRecord)
  | rollback (previous : Option ActivationRecord) (record : ActivationRecord)
  | finish (record : ActivationRecord)
  | restart (record : ActivationRecord) (oldPid : Option String)
  | check (record : ActivationRecord) (oldPid : Option String)
  | confirm (record : ActivationRecord)
deriving DecidableEq, Repr

structure World where
  now : ℕ
  gateway : Option Process
  record : Option ActivationRecord
  phase : Phase
  /-- The UUIDs drawn so far, with the PID sampled under each. -/
  sampled : String → Option (Option String)
  /-- When the last managed write of a generation was. -/
  written : String → Option ℕ
  /-- The processes some run was shown. -/
  seen : List Process
  /-- When a run was shown a stopped gateway. -/
  stopped : List ℕ

inductive Act
  /-- The operator or the service manager starts a gateway, or stops it. -/
  | start (pid : String) (supervisor : Supervisor)
  | stop
  | call (call : Call)
  /-- The run asks for the status, and draws a UUID where it begins a generation. -/
  | status (answer : GatewaySupervision) (id : String)
  /-- The run writes its record. -/
  | put
  /-- A plugin file or config key is written, or written back. -/
  | write
  | done
  | fail
  /-- A rollback ends; `complete` when every key was reversed. -/
  | restore (complete : Bool)
  | restarted (succeeded : Bool)
  | crash
deriving DecidableEq, Repr

/-- Whether the command may give this answer: it shows the gateway that runs, or nothing. -/
def truthful : Option Process → GatewaySupervision → Bool
  | none, .stopped => true
  | some p, .service pid => p.supervisor = .service && pid.all (· == p.pid)
  | some p, .manual pid => p.supervisor = .manual && pid.all (· == p.pid)
  | some p, .multiplexed => p.supervisor = .multiplexed
  | _, _ => false

def World.shown (w : World) (answer : GatewaySupervision) : GatewaySupervision :=
  if truthful w.gateway answer then answer else .unknown

/-- A status command leaves its evidence. -/
def World.observe (w : World) (answer : GatewaySupervision) : World :=
  if truthful w.gateway answer then
    match w.gateway with
    | none => { w with stopped := w.now :: w.stopped }
    | some p => { w with seen := p :: w.seen }
  else w

def World.goto (w : World) (phase : Phase) : World := { w with phase := phase }

def afterOutcome (record : ActivationRecord) (outcome : HostOutcome) : Phase :=
  if outcome = .complete then .confirm record else .idle

/-- With `--no-restart` the activation stays pending. -/
def finishPhase (call : Call) (record : ActivationRecord) : Phase :=
  if call.noRestart then .idle else .finish record

def statusStep (w : World) (answer : GatewaySupervision) (id : String) : World :=
  match w.phase with
  | .begin call previous digest desktopReload writes =>
    if (w.sampled id).isSome then w
    else
      let record := beginGeneration call.home digest previous desktopReload id (w.shown answer)
      { w.observe answer with
        phase := .put call previous record writes
        sampled := Function.update w.sampled id (some record.desired.gateway_pid) }
  | .finish record =>
    match activateHosts (w.shown answer) record.desired.gateway_pid with
    | some outcome => (w.observe answer).goto (afterOutcome record outcome)
    | none => (w.observe answer).goto (.restart record (gatewayPid (w.shown answer)))
  | .check record oldPid =>
    (w.observe answer).goto (afterOutcome record (restartOutcome oldPid (w.shown answer)))
  | _ => w

def writeStep (w : World) (record : ActivationRecord) : World :=
  { w with written := Function.update w.written record.desired.id (some w.now) }

def act (w : World) : Act → World
  | .start pid supervisor =>
    if w.gateway.isNone then { w with gateway := some ⟨pid, supervisor, w.now⟩ } else w
  | .stop => { w with gateway := none }
  | .call call =>
    match w.phase with
    | .idle =>
      match setOut call w.record with
      | .done => w
      | .keep record => w.goto (.keep record)
      | .retry record => w.goto (.put call w.record record false)
      | .begin digest desktopReload writes =>
        w.goto (.begin call w.record digest desktopReload writes)
    | _ => w
  | .status answer id => statusStep w answer id
  | .put =>
    match w.phase with
    | .keep record => { w with record := some record, phase := .idle }
    | .put call previous record writes =>
      { w with
        record := some record
        phase := if writes then .writing call previous record else finishPhase call record }
    | .confirm record => { w with record := confirmed record, phase := .idle }
    | _ => w
  | .write =>
    match w.phase with
    | .writing _ _ record => writeStep w record
    | .rollback _ record => writeStep w record
    | _ => w
  | .done =>
    match w.phase with
    | .writing call _ record => w.goto (finishPhase call record)
    | _ => w
  | .fail =>
    match w.phase with
    | .writing _ previous record => w.goto (.rollback previous record)
    | _ => w
  | .restore complete =>
    match w.phase with
    | .rollback previous _ =>
      if complete then { w with record := previous, phase := .idle } else w.goto .idle
    | _ => w
  | .restarted succeeded =>
    match w.phase with
    | .restart record oldPid => w.goto (if succeeded then .check record oldPid else .idle)
    | _ => w
  | .crash => w.goto .idle

def step (w : World) (a : Act) : World := { act w a with now := w.now + 1 }

end BorgClient.Hermes
