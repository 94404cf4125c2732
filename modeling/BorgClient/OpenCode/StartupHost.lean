import BorgClient.Lib.Runs

/-!
# The startup supervisor of OpenCode 2

`runOpenCodeV2StartupHost` of `opencode-v2-startup-host.ts` with `withOpenCodeV2Startup` of
`opencode-v2-startup.ts`: the main flow, the commands chained on `tail`, the shutdown and the
callbacks of the native server, each from one await to the next. The launcher sends any commands.
-/

namespace BorgClient.OpenCode
open List

inductive StartupCommand
  | start
  | close
  | release
deriving DecidableEq, Repr

inductive HostSignal
  | sigterm
  | sigint
deriving DecidableEq, Repr

/-- The await of the command that `tail` is at. -/
inductive CommandAwait
  | none
  | startServer (native : ℕ)
  | closeServer (target : Option ℕ)
deriving DecidableEq, Repr

/-- `awaitTail` counts the commands that were chained before the shutdown and have not ended. -/
inductive ShuttingDown
  | idle
  | awaitTail (commands : ℕ)
  | closeServer (target : Option ℕ)
  | done
deriving DecidableEq, Repr

/-- The main flow: `returned` and `threw` are the two ends of `withOpenCodeV2Startup`. -/
inductive HostFlow
  | acquiring
  | awaitRelease
  | returned
  | threw
  | closeServer (target : Option ℕ)
  | ended
deriving DecidableEq, Repr

inductive HostLife
  | running
  | finished
  | killed
deriving DecidableEq, Repr

structure StartupHost where
  life : HostLife
  connected : Bool
  /-- The signals whose listener has fired. -/
  heard : List HostSignal
  mutex : Bool
  acquired : Bool
  flow : HostFlow
  released : Bool
  /-- The promise `release` is resolved. -/
  unlocked : Bool
  server : Option ℕ
  closingServer : Bool
  tail : List StartupCommand
  command : CommandAwait
  shuttingDown : ShuttingDown
  /-- The native processes that run. -/
  live : List ℕ
  /-- The servers whose `closed` has not called back. -/
  watched : List ℕ
  /-- How many native servers were started; the next one's name. -/
  started : ℕ

def StartupHost.start (connected : Bool) : StartupHost where
  life := .running
  connected := connected
  heard := []
  mutex := false
  acquired := false
  flow := .acquiring
  released := false
  unlocked := false
  server := none
  closingServer := false
  tail := []
  command := .none
  shuttingDown := .idle
  live := []
  watched := []
  started := 0

inductive HostEvent
  | acquire
  | giveUp
  | message (command : StartupCommand)
  | beginCommand
  | startDone (ok : Bool)
  | closeDone
  | nativeExit (native : ℕ)
  | nativeClosed (native : ℕ)
  | ipcLost
  | disconnected
  | signal (kind : HostSignal)
  | shutdownClose
  | shutdownDone
  | rollback (ok : Bool)
  | afterStartup
  | recover
  | recovered
  | finish
deriving DecidableEq, Repr

namespace StartupHost

variable (s : StartupHost)

/-- What `server.close` awaits. -/
def Gone (target : Option ℕ) : Prop := ∀ native ∈ target, native ∉ s.live

instance (target : Option ℕ) : Decidable (s.Gone target) :=
  inferInstanceAs (Decidable (∀ native ∈ target, native ∉ s.live))

def disconnect : StartupHost := { s with connected := false }

def disconnectIf (c : Prop) [Decidable c] : StartupHost := if c then s.disconnect else s

/-- The end of `closeServer`. -/
def serverClosed : StartupHost := { s with server := none, closingServer := false }

/-- The shutdown awaits the commands chained so far. -/
def shutdown : StartupHost :=
  match s.shuttingDown with
  | .idle =>
    { s with shuttingDown := .awaitTail (s.tail.length + if s.command = .none then 0 else 1) }
  | _ => s

/-- A command ends. -/
def commandEnded : StartupHost :=
  { s with
    command := .none
    shuttingDown := match s.shuttingDown with
      | .awaitTail commands => .awaitTail (commands - 1)
      | shuttingDown => shuttingDown }

def beginCommand (command : StartupCommand) : StartupHost :=
  if s.shuttingDown ≠ .idle then s.commandEnded
  else match command with
    | .start =>
      if s.server.isSome || s.released then s.commandEnded
      else { s with
        command := .startServer s.started
        live := s.started :: s.live
        started := s.started + 1 }
    | .close => { s with command := .closeServer s.server, closingServer := true }
    | .release => { s with released := true, unlocked := true }.commandEnded

end StartupHost

/-- What may happen next. A start that fails has closed its process; a native process may exit at
any time. The supervisor finishes when nothing is left to call it back: a lost connection has been
noticed and the shutdown is over. -/
def HostEvent.Enabled (s : StartupHost) : HostEvent → Prop
  | .acquire => s.life = .running ∧ s.flow = .acquiring ∧ s.shuttingDown = .idle
  | .giveUp => s.life = .running ∧ s.flow = .acquiring
  | .message _ => s.life = .running ∧ s.acquired = true
  | .beginCommand => s.life = .running ∧ s.command = .none
  | .startDone ok => s.life = .running ∧
    (ok = true ∨ ∀ native ∈ s.live, s.command ≠ .startServer native)
  | .closeDone => s.life = .running ∧
    match s.command with
    | .closeServer target => s.Gone target
    | _ => False
  | .nativeExit native => native ∈ s.live
  | .nativeClosed native => s.life = .running ∧ native ∈ s.watched ∧ native ∉ s.live
  | .ipcLost => s.life = .running
  | .disconnected => s.life = .running ∧ s.connected = false
  | .signal _ => s.life = .running
  | .shutdownClose => s.life = .running ∧ s.shuttingDown = .awaitTail 0
  | .shutdownDone => s.life = .running ∧
    match s.shuttingDown with
    | .closeServer target => s.Gone target
    | _ => False
  | .rollback _ => s.life = .running ∧ s.flow = .awaitRelease ∧ s.unlocked = true
  | .afterStartup => s.life = .running ∧ s.flow = .returned
  | .recover => s.life = .running ∧ s.flow = .threw
  | .recovered => s.life = .running ∧
    match s.flow with
    | .closeServer target => s.Gone target
    | _ => False
  | .finish => s.life = .running ∧ s.flow = .ended ∧ s.connected = false ∧
    s.shuttingDown = .done ∧ s.command = .none ∧ s.tail = []

instance (s : StartupHost) (event : HostEvent) : Decidable (event.Enabled s) := by
  cases event <;> unfold HostEvent.Enabled <;> first
    | infer_instance
    | (refine @instDecidableAnd _ _ _ ?_; split <;> infer_instance)

def StartupHost.next (s : StartupHost) : HostEvent → StartupHost
  | .acquire => { s with mutex := true, acquired := true, flow := .awaitRelease }
  | .giveUp => { s with flow := .threw }
  | .message command => { s with tail := s.tail ++ [command] }
  | .beginCommand =>
    match s.tail with
    | [] => s
    | command :: rest => { s with tail := rest }.beginCommand command
  | .startDone ok =>
    match s.command with
    | .startServer native =>
      if ok then { s with server := some native, watched := native :: s.watched }.commandEnded
      else s.commandEnded
    | _ => s
  | .closeDone => s.serverClosed.commandEnded.disconnectIf (s.released = true)
  | .nativeExit native => { s with live := s.live.filter (· != native) }
  | .nativeClosed native =>
    { s with
      watched := s.watched.filter (· != native)
      server := if s.server = some native then none else s.server
      }.disconnectIf (s.released = true ∧ s.closingServer = false)
  | .ipcLost => s.disconnect
  | .disconnected => s.shutdown
  | .signal kind =>
    -- A listener is taken off when it fires, and without one the signal ends the process.
    if kind ∈ s.heard then { s with life := .killed, mutex := false }
    else { s with heard := kind :: s.heard }.shutdown
  | .shutdownClose => { s with shuttingDown := .closeServer s.server, closingServer := true }
  | .shutdownDone =>
    { s.serverClosed with shuttingDown := .done, unlocked := true }.disconnect
  | .rollback ok => { s with mutex := false, flow := if ok then .returned else .threw }
  | .afterStartup =>
    { s with flow := .ended }.disconnectIf (s.server = none ∨ s.shuttingDown ≠ ShuttingDown.idle)
  | .recover => { s with flow := .closeServer s.server, closingServer := true }
  | .recovered => { s.serverClosed with flow := .ended }.disconnect
  | .finish => { s with life := .finished }

def hostStep (s : StartupHost) (event : HostEvent) : StartupHost :=
  if event.Enabled s then s.next event else s

end BorgClient.OpenCode
