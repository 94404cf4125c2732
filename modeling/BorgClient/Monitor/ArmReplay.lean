import BorgClient.Lib.Runs
import BorgClient.Monitor.EventLine

/-!
# Arm replay

`inbox-monitor.ts`: the replay cursor a monitor keeps in its state root, the plan an arm draws from
it, and the handling of the lines its tail delivers. The inbox is the list of its lines.
-/

namespace BorgClient.Monitor
open List Runs

abbrev Line := List Char

/-- `Date.parse`, `none` for no date, and the digest a cursor names its line by. -/
class MonitorText where
  dateParse : List Char → Option ℤ
  sha256 : Line → String
  sha256_injective : Function.Injective sha256

export MonitorText (dateParse sha256)

structure ReplayCursor where
  lineSha256 : Option String
  lineTs : Option (List Char)
  sinceMs : ℤ
deriving DecidableEq, Repr

structure ArmReplayPlan where
  history : List Line
  replay : List Line
  omitted : ℕ
  cursorAtArm : Option ReplayCursor
  replaySinceMs : ℤ
deriving DecidableEq, Repr

def ARM_REPLAY_CAP : ℕ := 20
def INBOX_ARM_TIMESTAMP_SKEW_MS : ℤ := 5000
def RECENT_EMITTED_LINE_CAP : ℕ := 1024
def MAX_SAFE_INTEGER : ℤ := 9007199254740991

def isEntry (line : Line) : Bool := (ENTRY_LINE_RE line).isSome

variable [MonitorText]

def cursorForLine (line : Line) (sinceMs : ℤ) : Option ReplayCursor :=
  (ENTRY_LINE_RE line).map (fun entry => ⟨some (sha256 line), some entry.ts, sinceMs⟩)

def entryTimestampMs (line : Line) : Option ℤ :=
  (ENTRY_LINE_RE line).bind (fun entry => dateParse entry.ts)

/-- A stored cursor as the next arm reads it; one with a member that is not of its form is none. -/
def readReplayCursor (stored : Option ReplayCursor) : Option ReplayCursor :=
  stored.filter (fun cursor => 0 ≤ cursor.sinceMs && cursor.sinceMs ≤ MAX_SAFE_INTEGER &&
    match cursor.lineSha256, cursor.lineTs with
    | none, none => true
    | some _, some ts => (dateParse ts).isSome
    | _, _ => false)

/-! ### The plan -/

/-- `(entryTimestampMs(line) ?? -Infinity) < floor`, false where `floor` is no number. -/
def olderThan (floor : Option ℤ) (line : Line) : Bool :=
  match floor, entryTimestampMs line with
  | none, _ => false
  | some _, none => true
  | some floor, some ts => ts < floor

/-- `(entryTimestampMs(line) ?? -Infinity) >= floor`. -/
def atOrAfter (floor : Option ℤ) (line : Line) : Bool :=
  match floor, entryTimestampMs line with
  | some floor, some ts => floor ≤ ts
  | _, _ => false

/-- The entry lines at or before the cursor, and those after it. -/
def splitAtCursor (entries : List Line) (cursor : ReplayCursor) : List Line × List Line :=
  match cursor.lineSha256 with
  | none => ([], entries)
  | some hash =>
    let index := entries.findIdx (fun line => sha256 line = hash)
    if index < entries.length then (entries.take (index + 1), entries.drop (index + 1))
    else
      let floor := cursor.lineTs.bind dateParse
      (entries.filter (olderThan floor), entries.filter (atOrAfter floor))

def replayCandidates (lines : List Line) (cursor : ReplayCursor) : List Line :=
  let (before, after) := splitAtCursor (lines.filter isEntry) cursor
  after.foldl (fun candidates line =>
    if (entryTimestampMs line).any (fun ts => cursor.sinceMs ≤ ts) && !before.contains line &&
      !candidates.contains line then candidates ++ [line] else candidates) []

def planArmReplay (lines : List Line) (cursor : Option ReplayCursor) (armSinceMs : ℤ)
    (cap : ℕ) : ArmReplayPlan :=
  match cursor with
  | none =>
    { history := lines
      replay := []
      omitted := 0
      cursorAtArm := some (((lines.filter isEntry).getLast?.bind
        (fun last => cursorForLine last armSinceMs)).getD ⟨none, none, armSinceMs⟩)
      replaySinceMs := armSinceMs }
  | some cursor =>
    let candidates := replayCandidates lines cursor
    let omitted := candidates.length - cap
    let replay := candidates.drop omitted
    { history := lines.filter (fun line => !replay.contains line)
      replay := replay
      omitted := omitted
      cursorAtArm := none
      replaySinceMs := cursor.sinceMs }

/-! ### The armed monitor -/

/-- An armed monitor: its plan and the replay lines not handled yet, its boundary, the lines its
deduper remembers, and those of the inbox its tail has not delivered. -/
structure Armed where
  plan : ArmReplayPlan
  pending : List Line
  armSinceMs : ℤ
  seen : List Line
  rest : List Line

/-- `RecentLineDeduper.remember`. -/
def remember (seen : List Line) (line : Line) : List Line :=
  if line ∈ seen then seen
  else (seen ++ [line]).drop (seen.length + 1 - RECENT_EMITTED_LINE_CAP)

/-- The inbox with all lines ever appended, the stored cursor and the monitor. `emitted` and
`counted` are the lines printed and those in the number of a notice; `sought` are the lines that
were new when appended behind a stored cursor and not older than its boundary and the armed
monitor's, `due` those of them that no trim has taken out of the file. -/
structure ReplayWorld where
  log : List Line
  file : List Line
  cursor : Option ReplayCursor := none
  monitor : Option Armed := none
  emitted : List Line := []
  counted : List Line := []
  sought : List Line := []
  due : List Line := []

inductive ReplayStep
  | append (line : Line)
  /-- The file is replaced by its last lines. -/
  | trim (dropped : ℕ)
  | arm (timeMs : ℤ)
  /-- The tail hands the next line over. -/
  | deliver
  /-- The tail starts over with a replaced file. -/
  | reread
  | crash

namespace ReplayWorld

/-- Not older than the stored cursor's boundary and the armed monitor's. -/
def wanted (w : ReplayWorld) (line : Line) : Bool :=
  !w.log.contains line && match w.cursor, entryTimestampMs line with
    | some cursor, some ts => cursor.sinceMs ≤ ts &&
      w.monitor.all (fun m => m.armSinceMs ≤ ts && m.plan.replaySinceMs ≤ ts)
    | _, _ => false

def append (w : ReplayWorld) (line : Line) : ReplayWorld :=
  { w with
    log := w.log ++ [line]
    file := w.file ++ [line]
    monitor := w.monitor.map (fun m => { m with rest := m.rest ++ [line] })
    sought := if w.wanted line then w.sought ++ [line] else w.sought
    due := if w.wanted line then w.due ++ [line] else w.due }

def trim (w : ReplayWorld) (dropped : ℕ) : ReplayWorld :=
  { w with
    file := w.file.drop dropped
    monitor := w.monitor.map (fun m =>
      { m with rest := m.rest.drop (dropped - (w.file.length - m.rest.length)) })
    due := w.due.filter (fun line => (w.file.drop dropped).contains line) }

def arm (w : ReplayWorld) (timeMs : ℤ) : ReplayWorld :=
  let armSinceMs := timeMs - INBOX_ARM_TIMESTAMP_SKEW_MS
  let stored := readReplayCursor w.cursor
  let plan := planArmReplay w.file stored armSinceMs ARM_REPLAY_CAP
  { w with
    cursor := plan.cursorAtArm.or w.cursor
    monitor := some ⟨plan, plan.replay, armSinceMs, [], w.file⟩
    counted := w.counted ++
      (stored.map (fun cursor => (replayCandidates w.file cursor).take plan.omitted)).getD [] }

/-- `progress.handled(line)` and the write of the cursor it returns. -/
def handled (w : ReplayWorld) (m : Armed) (line : Line) : ReplayWorld :=
  let pending := m.pending.filter (· ≠ line)
  let sinceMs := if pending ≠ [] then m.plan.replaySinceMs else m.armSinceMs
  { w with
    cursor := (cursorForLine line sinceMs).or w.cursor
    monitor := some { m with pending } }

/-- `handleStateRootLine`; `m` is the monitor with the line already taken from its tail. -/
def handleStateRootLine (w : ReplayWorld) (m : Armed) (line : Line) : ReplayWorld :=
  if isEntry line = false then { w with monitor := some m }
  else if line ∈ m.pending then
    ({ w with emitted := if line ∈ m.seen then w.emitted else w.emitted ++ [line] }).handled
      { m with seen := remember m.seen line } line
  else if line ∈ m.plan.history ∨ line ∈ m.seen then { w with monitor := some m }
  else
    ({ w with emitted := if (entryTimestampMs line).any (fun ts => m.armSinceMs ≤ ts)
        then w.emitted ++ [line] else w.emitted }).handled
      { m with seen := remember m.seen line } line

def deliver (w : ReplayWorld) : ReplayWorld :=
  match w.monitor with
  | none => w
  | some m =>
    match m.rest with
    | [] => w
    | line :: rest => w.handleStateRootLine { m with rest } line

end ReplayWorld

def replayStep (w : ReplayWorld) : ReplayStep → ReplayWorld
  | .append line => w.append line
  | .trim dropped => w.trim dropped
  | .arm timeMs => if w.monitor.isSome then w else w.arm timeMs
  | .deliver => w.deliver
  | .reread => { w with monitor := w.monitor.map (fun m => { m with rest := w.file }) }
  | .crash => { w with monitor := none }

end BorgClient.Monitor
