import BorgClient.Monitor.OrphanInboxes

/-!
# One monitor for an inbox

`inbox-monitor.ts`: any number of monitor processes over one pidfile, its mutation lock and its
heartbeat sidecar. Every file operation is a step of its own, processes die between any two of
them, and their pids are used again.
-/

namespace BorgClient.Monitor

/-- The text of a pidfile: `<pid>:<nonce>` as a monitor writes it, blank, or any other text with
what is read off it. -/
inductive PidfileText
  | holder (pid nonce : ℕ)
  | blank
  | other (text : String) (pid nonce : Option ℕ)
deriving DecidableEq, Repr

/-- The pid, if it is a number, and the nonce, if there is one. -/
def parsePidfileContent : PidfileText → Option ℕ × Option ℕ
  | .holder pid nonce => (some pid, some nonce)
  | .blank => (none, none)
  | .other _ pid nonce => (pid, nonce)

/-! ### Artifacts of older monitors -/

/-- What the checks beside the inbox see: the pidfile, with its text if it can be read, and
whether there is a heartbeat. -/
structure LegacyArtifacts where
  pidfile : Option (Option PidfileText)
  heartbeat : Bool
deriving DecidableEq, Repr

inductive LegacyMonitorArtifactState
  | absent
  | live
  | blocked
deriving DecidableEq, Repr

def legacyMonitorArtifactState (seen : LegacyArtifacts) (isAlive : ℕ → Bool) :
    LegacyMonitorArtifactState :=
  if seen.pidfile.isNone && !seen.heartbeat then .absent
  else
    match seen.pidfile with
    | some (some raw) => if (parsePidfileContent raw).1.any isAlive then .live else .blocked
    | _ => .blocked

/-! ### Processes -/

/-- What a monitor does once its mutation lock is released. -/
inductive AfterMutation
  | arm
  | releasePidfile
  | exit
deriving DecidableEq, Repr

/-- The file operation a monitor does next. `claimModernMonitorSafely` runs from
`claimMutation` to the end of the mutation lock, with the attempts of `acquireInboxLock` from
`link` to `unlink`; `holding` lasts until the shutdown, which removes the heartbeat and then the
pidfile, each under the mutation lock. -/
inductive MonitorPhase
  | claimMutation
  | legacyBefore
  | link (attempt : ℕ)
  | read (attempt : ℕ)
  | judge (attempt : ℕ) (raw : PidfileText)
  | stat (attempt : ℕ) (raw : PidfileText)
  | nonce (attempt : ℕ) (raw : PidfileText) (mtime : ℤ)
  | verify (attempt : ℕ) (raw : PidfileText)
  | unlink (attempt : ℕ) (raw : PidfileText)
  | legacyAfter
  | verifyOwn
  | unlinkOwn
  | verifyMutation (after : AfterMutation)
  | unlinkMutation (after : AfterMutation)
  | arming
  | holding
  | claimForHeartbeat
  | verifyHeartbeat
  | unlinkHeartbeat
  | claimForPidfile
  | exited
deriving DecidableEq, Repr

def AfterMutation.phase : AfterMutation → MonitorPhase
  | .arm => .arming
  | .releasePidfile => .claimForPidfile
  | .exit => .exited

/-- A monitor process; its number is the nonce it drew. -/
structure MonitorProcess where
  pid : ℕ
  phase : MonitorPhase
deriving DecidableEq, Repr

/-- The sidecar: when it was written last, and by whom. -/
structure Heartbeat where
  mtime : ℤ
  nonce : ℕ
deriving DecidableEq, Repr

/-- A live monitor was found wedged at `now`. -/
structure Reaping where
  nonce : ℕ
  mtime : ℤ
  now : ℤ
deriving DecidableEq, Repr

structure LockWorld where
  clock : ℤ
  /-- What runs under a pid: a monitor, or another program. -/
  alive : ℕ → Option (Option ℕ)
  procs : ℕ → Option MonitorProcess
  spawned : ℕ
  mutation : Option ℕ
  pidfile : Option PidfileText
  heartbeat : Option Heartbeat
  reaped : List Reaping

/-- The file operation goes through, or throws; the checks for older monitors see something; a
holder is told to stop. -/
inductive MonitorMove
  | go
  | fail
  | legacy (seen : LegacyArtifacts)
  | stop
deriving DecidableEq, Repr

inductive LockStep
  | pass (ms : ℕ)
  | start (pid : ℕ)
  | other (pid : ℕ)
  | die (pid : ℕ)
  /-- The operator removes the mutation lock of a process confirmed to be stopped. -/
  | operator
  | move (i : ℕ) (m : MonitorMove)
deriving DecidableEq, Repr

namespace LockWorld

/-- `kill(pid, 0)` -/
def isAlive (w : LockWorld) (pid : ℕ) : Bool := (w.alive pid).isSome

/-- The process numbered `i` runs, in the phase it is in. -/
def Live (w : LockWorld) (i : ℕ) (p : MonitorProcess) : Prop :=
  w.procs i = some p ∧ w.alive p.pid = some (some i)

def live (w : LockWorld) (i : ℕ) : Option MonitorProcess :=
  (w.procs i).filter (fun p => w.alive p.pid == some (some i))

def goto (w : LockWorld) (i : ℕ) (p : MonitorProcess) (phase : MonitorPhase) : LockWorld :=
  { w with procs := Function.update w.procs i (some { p with phase := phase }) }

/-- One move of a process; a monitor that lost three attempts yields. -/
def moved (w : LockWorld) (i : ℕ) (p : MonitorProcess) : MonitorMove → LockWorld
  | .go =>
    match p.phase with
    | .claimMutation =>
      if w.mutation = none then { w with mutation := some i }.goto i p .legacyBefore
      else w.goto i p .exited
    | .link attempt =>
      if attempt ≥ 3 then w.goto i p (.verifyMutation .exit)
      else if w.pidfile = none then
        { w with pidfile := some (.holder p.pid i) }.goto i p .legacyAfter
      else w.goto i p (.read attempt)
    | .read attempt =>
      match w.pidfile with
      | none => w.goto i p (.link (attempt + 1))
      | some .blank => w.goto i p (.verify attempt .blank)
      | some raw => w.goto i p (.judge attempt raw)
    | .judge attempt raw =>
      if (parsePidfileContent raw).1.any w.isAlive then w.goto i p (.stat attempt raw)
      else w.goto i p (.verify attempt raw)
    | .stat attempt raw =>
      match (parsePidfileContent raw).2, w.heartbeat with
      | some _, some heartbeat => w.goto i p (.nonce attempt raw heartbeat.mtime)
      | _, _ => w.goto i p (.verifyMutation .exit)
    | .nonce attempt raw mtime =>
      match (parsePidfileContent raw).2, w.heartbeat with
      | some holder, some heartbeat =>
        if HEARTBEAT_STALE_MS ≤ w.clock - mtime ∧ heartbeat.nonce = holder then
          { w with reaped := ⟨holder, mtime, w.clock⟩ :: w.reaped }.goto i p (.verify attempt raw)
        else w.goto i p (.verifyMutation .exit)
      | _, _ => w.goto i p (.verifyMutation .exit)
    | .verify attempt raw =>
      if w.pidfile = some raw then w.goto i p (.unlink attempt raw)
      else w.goto i p (.link (attempt + 1))
    | .unlink attempt _ => { w with pidfile := none }.goto i p (.link (attempt + 1))
    | .verifyOwn =>
      if w.pidfile = some (.holder p.pid i) then w.goto i p .unlinkOwn
      else w.goto i p (.verifyMutation .exit)
    | .unlinkOwn => { w with pidfile := none }.goto i p (.verifyMutation .exit)
    | .verifyMutation after =>
      if w.mutation = some i then w.goto i p (.unlinkMutation after) else w.goto i p after.phase
    | .unlinkMutation after => { w with mutation := none }.goto i p after.phase
    | .arming => { w with heartbeat := some ⟨w.clock, i⟩ }.goto i p .holding
    | .holding => { w with heartbeat := some ⟨w.clock, i⟩ }
    | .claimForHeartbeat =>
      if w.mutation = none then { w with mutation := some i }.goto i p .verifyHeartbeat
      else w.goto i p .claimForPidfile
    | .verifyHeartbeat =>
      if w.heartbeat.any (·.nonce == i) then w.goto i p .unlinkHeartbeat
      else w.goto i p (.verifyMutation .releasePidfile)
    | .unlinkHeartbeat =>
      { w with heartbeat := none }.goto i p (.verifyMutation .releasePidfile)
    | .claimForPidfile =>
      if w.mutation = none then { w with mutation := some i }.goto i p .verifyOwn
      else w.goto i p .exited
    | .legacyBefore | .legacyAfter | .exited => w
  | .fail =>
    match p.phase with
    | .link _ => w.goto i p (.verifyMutation .exit)
    | .read attempt => w.goto i p (.link (attempt + 1))
    | .stat _ _ | .nonce _ _ _ => w.goto i p (.verifyMutation .exit)
    | .verify attempt _ | .unlink attempt _ => w.goto i p (.link (attempt + 1))
    | .verifyOwn | .unlinkOwn => w.goto i p (.verifyMutation .exit)
    | .verifyMutation after | .unlinkMutation after => w.goto i p after.phase
    -- without a first heartbeat the monitor gives the inbox up
    | .arming => w.goto i p .claimForPidfile
    | .verifyHeartbeat | .unlinkHeartbeat => w.goto i p (.verifyMutation .releasePidfile)
    | .claimMutation | .claimForHeartbeat | .claimForPidfile => w.goto i p .exited
    | .legacyBefore | .judge _ _ | .legacyAfter | .holding | .exited => w
  | .legacy seen =>
    match p.phase, legacyMonitorArtifactState seen w.isAlive with
    | .legacyBefore, .absent => w.goto i p (.link 0)
    | .legacyBefore, _ => w.goto i p (.verifyMutation .exit)
    | .legacyAfter, .absent => w.goto i p (.verifyMutation .arm)
    | .legacyAfter, _ => w.goto i p .verifyOwn
    | _, _ => w
  | .stop =>
    match p.phase with
    | .holding => w.goto i p .claimForHeartbeat
    | _ => w

end LockWorld

def lockStep (w : LockWorld) : LockStep → LockWorld
  | .pass ms => { w with clock := w.clock + ms }
  | .start pid =>
    if w.alive pid = none then
      { w with
        alive := Function.update w.alive pid (some (some w.spawned))
        procs := Function.update w.procs w.spawned (some ⟨pid, .claimMutation⟩)
        spawned := w.spawned + 1 }
    else w
  | .other pid =>
    if w.alive pid = none then { w with alive := Function.update w.alive pid (some none) } else w
  | .die pid => { w with alive := Function.update w.alive pid none }
  | .operator =>
    if (w.mutation.bind w.live).isNone then { w with mutation := none } else w
  | .move i m =>
    match w.live i with
    | none => w
    | some p => w.moved i p m

/-! ### What the phases know -/

namespace MonitorPhase

/-- The mutation lock is held. -/
def inMutation : MonitorPhase → Bool
  | .claimMutation | .arming | .holding | .claimForHeartbeat | .claimForPidfile | .exited => false
  | _ => true

/-- The pidfile was linked, and neither released nor given up. -/
def claimed : MonitorPhase → Bool
  | .legacyAfter | .verifyOwn | .unlinkOwn | .arming | .holding | .claimForHeartbeat
  | .verifyHeartbeat | .unlinkHeartbeat | .claimForPidfile => true
  | .verifyMutation after | .unlinkMutation after => after != .exit
  | _ => false

/-- The text that was read from the pidfile. -/
def raw : MonitorPhase → Option PidfileText
  | .judge _ raw | .stat _ raw | .nonce _ raw _ | .verify _ raw | .unlink _ raw => some raw
  | _ => none

/-- The text that is to be removed. -/
def doomed : MonitorPhase → Option PidfileText
  | .verify _ raw | .unlink _ raw => some raw
  | _ => none

lemma inMutation_of_raw {phase : MonitorPhase} {raw : PidfileText} (h : phase.raw = some raw) :
    phase.inMutation = true := by
  cases phase <;> first | rfl | cases h

lemma raw_of_doomed {phase : MonitorPhase} {raw : PidfileText} (h : phase.doomed = some raw) :
    phase.raw = some raw := by
  cases phase <;> first | exact h | cases h

end MonitorPhase

namespace LockWorld

def WasReaped (w : LockWorld) (i : ℕ) : Prop := ∃ r ∈ w.reaped, r.nonce = i

/-- No live monitor that was not found wedged is named by the text. -/
def Doomed (w : LockWorld) (raw : PidfileText) : Prop :=
  ∀ pid j, raw = .holder pid j → (∃ p, w.Live j p) → w.WasReaped j

/-- What is so of a live monitor in its phase. -/
structure PhaseOk (w : LockWorld) (i : ℕ) (p : MonitorProcess) : Prop where
  mutation : p.phase.inMutation = true → w.mutation = some i
  claimed : p.phase.claimed = true → ¬ w.WasReaped i → w.pidfile = some (.holder p.pid i)
  raw : ∀ raw, p.phase.raw = some raw → w.pidfile = some raw
  doomed : ∀ raw, p.phase.doomed = some raw → w.Doomed raw
  own : p.phase = .unlinkOwn → w.pidfile = some (.holder p.pid i)

/-- Live monitors are where the files say; the pidfile names a process that was started. -/
structure LockSafe (w : LockWorld) : Prop where
  phases : ∀ i p, w.Live i p → w.PhaseOk i p
  named : ∀ pid j, w.pidfile = some (.holder pid j) →
    j < w.spawned ∧ ∀ p, w.procs j = some p → p.pid = pid
  started : ∀ j, w.spawned ≤ j → w.procs j = none
  stale : ∀ r ∈ w.reaped, HEARTBEAT_STALE_MS ≤ r.now - r.mtime

lemma live_eq_some {w : LockWorld} {i : ℕ} {p : MonitorProcess} :
    w.live i = some p ↔ w.Live i p := by
  unfold live Live
  rw [Option.filter_eq_some_iff, beq_iff_eq]

end LockWorld

end BorgClient.Monitor
