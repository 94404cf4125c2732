import BorgClient.Lib.Runs
import BorgClient.Stream.InboxLine

/-!
# One session of the log stream

`streamOnce`: the events of one SSE connection, catch-up replays and live ones, in the order the
server sends them. A drone's log events go to its inbox file; every event it has dealt with moves
the persisted position.
-/

namespace BorgClient.Stream
open Representative (LocalServerCursor Uuid)
open List Runs

def RECENT_IDS_CAP : ℕ := 50

/-- What a session starts from: its drone, the stored stream cursor, the last event id in memory. -/
structure StreamSession where
  droneId : Uuid
  cursor : Option BroadcastHwm
  lastEventId : Option String
deriving DecidableEq, Repr

structure LogEvent where
  id : String
  data : EnrichedEntry
  wake_nonce : Option String := none
  cursor : Option LocalServerCursor := none
deriving DecidableEq, Repr

/-- `ev.data?.created_at ?? ''`. -/
def LogEvent.createdAt (ev : LogEvent) : String := ev.data.created_at.getD ""

def LogEvent.point (ev : LogEvent) : BroadcastHwm := ⟨ev.id, ev.createdAt⟩

/-- How the awaited calls of one event end, if it makes them. -/
structure Answers where
  /-- The clock, for an entry without an instant. -/
  now : String := ""
  /-- `hasPendingWakeEntry`; `none` when it throws. -/
  pending : Option Bool := some true
  /-- The inbox file can be read. -/
  reads : Bool := true
  /-- `appendLine` succeeds. -/
  appends : Bool := true
  /-- `injectOpenCode` does not throw. -/
  injects : Bool := true
  /-- `advanceLocalServerCursor` succeeds. -/
  advances : Bool := true
deriving DecidableEq, Repr

inductive SessionEvent
  | log (ev : LogEvent) (a : Answers)
  | heartbeat (hwm : Option BroadcastHwm)
  | bookmark
  | eviction (reason : Option String) (a : Answers)
  | error
  | unknown
  /-- The divergence timer fires. -/
  | divergence
  /-- The connection ends, or is aborted. -/
  | close
deriving DecidableEq, Repr

structure SessionState where
  lastPersistedEventId : Option String
  lastPersistedHwm : Option BroadcastHwm
  lastBroadcastHwm : Option BroadcastHwm
  pendingHwmDivergence : Option BroadcastHwm
  recentIds : List String
  recentIdsOrder : List String
  isCatchingUp : Bool
  /-- The text of the inbox file. -/
  inbox : List Char
  /-- The calls of `appendLine` for log events, and whether they succeeded. -/
  appended : List (String × Bool)
  /-- The cursors given to `advanceLocalServerCursor`. -/
  stored : List LocalServerCursor
  closed : Bool
deriving DecidableEq, Repr

def StreamSession.start (c : StreamSession) (inbox : List Char) : SessionState where
  lastPersistedEventId := (c.cursor.map (·.id)).or c.lastEventId
  lastPersistedHwm := c.cursor
  lastBroadcastHwm := none
  pendingHwmDivergence := none
  recentIds := []
  recentIdsOrder := []
  isCatchingUp := c.lastEventId.isSome || c.cursor.isSome
  inbox := inbox
  appended := []
  stored := []
  closed := false

/-- The recent ids after the oldest beyond the cap are forgotten. -/
def forget : List String → List String → List String × List String
  | ids, [] => (ids, [])
  | ids, old :: rest =>
    if (old :: rest).length > RECENT_IDS_CAP then forget (ids.filter (· != old)) rest
    else (ids, old :: rest)

def remember (s : SessionState) (id : String) : SessionState :=
  let kept := forget (id :: s.recentIds) (s.recentIdsOrder ++ [id])
  { s with recentIds := kept.1, recentIdsOrder := kept.2 }

def broadcastHwmFromLogEvent (ev : LogEvent) : Option BroadcastHwm :=
  if ev.data.visibility = some "direct" ∨ ev.data.kind = some "ack" then none
  else if ev.createdAt = "" then none else some ev.point

def isHeartbeatPing (ev : LogEvent) : Bool :=
  ev.data.message.any (fun message => "[HEARTBEAT-PING]".toList.isPrefixOf message.toList)

/-- Whether one handler returned or threw. -/
inductive Handled | returned | threw
deriving DecidableEq, Repr

inductive WriteOutcome | persistedSkip | written | threw
deriving DecidableEq, Repr

section Events

variable [StreamText]

open StreamText

/-! ### The persisted position -/

/-- Forward only, unless one of the two instants is missing. -/
def markEventPersisted (s : SessionState) (id createdAt : String) : SessionState :=
  let next : BroadcastHwm := ⟨id, createdAt⟩
  if s.lastPersistedHwm.any (fun last =>
      createdAt != "" && last.created_at != "" && compareBroadcastHwm next last ≤ 0) then s
  else { s with lastPersistedHwm := some next, lastPersistedEventId := some id }

def markBroadcastPersisted (s : SessionState) : Option BroadcastHwm → SessionState
  | none => s
  | some hwm =>
    let last := match s.lastBroadcastHwm with
      | none => hwm
      | some last => if compareBroadcastHwm hwm last > 0 then hwm else last
    { s with
      lastBroadcastHwm := some last
      pendingHwmDivergence :=
        if s.pendingHwmDivergence.any (fun pending => compareBroadcastHwm last pending ≥ 0) then none
        else s.pendingHwmDivergence }

/-! ### Log events -/

/-- Whether the event is at or before the persisted position during catch-up. -/
def atOrBeforeResumeCursor (s : SessionState) (ev : LogEvent) : Bool :=
  s.isCatchingUp && ev.createdAt != "" &&
    s.lastPersistedHwm.any (fun last => compareBroadcastHwm ev.point last ≤ 0)

/-- Whether the inbox file is consulted: for a re-ping, and in a catch-up without a position. -/
def consultInboxFile (s : SessionState) (ev : LogEvent) : Bool :=
  ev.wake_nonce.isSome || (s.isCatchingUp && s.lastPersistedHwm.isNone)

def LogEvent.line (ev : LogEvent) (a : Answers) : Option String :=
  formatInboxLine a.now (withSseEventId ev.data ev.id)

/-- The append, and the wake after it. -/
def appendInboxLine (s : SessionState) (ev : LogEvent) (a : Answers) (line : String) :
    SessionState × WriteOutcome :=
  if !a.appends then ({ s with appended := s.appended ++ [(ev.id, false)] }, .threw)
  else
    ({ s with
        inbox := appendCappedInboxLine s.inbox line
        appended := s.appended ++ [(ev.id, true)] },
      if a.injects then .written else .threw)

/-- The inbox line of an event that is for this drone, unless a re-ping is not pending any more or
the event has been persisted already. -/
def writeInboxLine (s : SessionState) (ev : LogEvent) (a : Answers) : SessionState × WriteOutcome :=
  match ev.line a with
  | none => (s, .threw)
  | some line =>
    let isReping := ev.wake_nonce.isSome
    if isReping && a.pending != some true then
      (markEventPersisted s ev.id ev.createdAt, .persistedSkip)
    else if !atOrBeforeResumeCursor s ev && consultInboxFile s ev && !a.reads then (s, .threw)
    else if atOrBeforeResumeCursor s ev ||
        (consultInboxFile s ev && inboxRawHasEntry s.inbox ev.id line) then
      if isReping && !a.injects then (s, .threw)
      else (markEventPersisted s ev.id ev.createdAt, .persistedSkip)
    else appendInboxLine s ev a line

/-- The event is recent from now on, and the positions move. -/
def recordSeen (s : SessionState) (ev : LogEvent) (a : Answers) : SessionState :=
  let s := markBroadcastPersisted (markEventPersisted (remember s ev.id) ev.id ev.createdAt)
    (broadcastHwmFromLogEvent ev)
  match ev.cursor with
  | none => s
  | some cursor =>
    if a.advances then { s with stored := s.stored ++ [cursor] } else { s with closed := true }

def writeThenRecord (s : SessionState) (ev : LogEvent) (a : Answers) : SessionState :=
  match writeInboxLine s ev a with
  | (s, .threw) => { s with closed := true }
  | (s, .persistedSkip) => s
  | (s, .written) => recordSeen s ev a

/-- Whether a direct event names this drone. -/
def isRecipient (c : StreamSession) (ev : LogEvent) : Bool :=
  (ev.data.recipient_drone_ids.getD []).contains c.droneId

/-- A re-ping of an event that was appended moments ago: a wake, no append. -/
def wakeReplay (s : SessionState) (ev : LogEvent) (a : Answers) : SessionState :=
  match ev.line a with
  | none => { s with closed := true }
  | some _ => if a.pending = some true && !a.injects then { s with closed := true } else s

def logEvent (c : StreamSession) (s : SessionState) (ev : LogEvent) (a : Answers) : SessionState :=
  let recent := s.recentIds.contains ev.id
  let isRecentWakeReplay := recent && ev.wake_nonce.isSome
  let s := if recent then markBroadcastPersisted (markEventPersisted s ev.id ev.createdAt)
    (broadcastHwmFromLogEvent ev) else s
  if recent && !isRecentWakeReplay then s
  else if ev.data.kind = some "ack" then
    if isRecentWakeReplay then recordSeen s ev a
    else if ev.data.author_drone_id = some c.droneId then writeThenRecord s ev a
    else recordSeen s ev a
  else if ev.data.visibility = some "direct" && !isRecipient c ev then recordSeen s ev a
  else if ev.data.drone_id = some c.droneId && !isHeartbeatPing ev then recordSeen s ev a
  else if isRecentWakeReplay then wakeReplay s ev a
  else writeThenRecord s ev a

/-! ### The other events -/

/-- The server's broadcast position: a baseline before any broadcast, else compared. -/
def heartbeat (s : SessionState) : Option BroadcastHwm → SessionState
  | none => s
  | some hwm =>
    match s.lastBroadcastHwm with
    | none =>
      let s' := markBroadcastPersisted s (some hwm)
      if s.lastPersistedEventId = none then markEventPersisted s' hwm.id hwm.created_at else s'
    | some last =>
      if compareBroadcastHwm hwm last ≤ 0 then { s with pendingHwmDivergence := none }
      else if s.pendingHwmDivergence.any (·.id == hwm.id) then s
      else { s with pendingHwmDivergence := some hwm }

/-- The timer's check: still behind, so the connection is aborted. -/
def divergence (s : SessionState) : SessionState :=
  match s.pendingHwmDivergence with
  | none => s
  | some hwm =>
    if s.lastBroadcastHwm.any (fun last => compareBroadcastHwm last hwm ≥ 0) then
      { s with pendingHwmDivergence := none }
    else { s with closed := true }

/-- The eviction wake is best effort; the session ends. -/
def eviction (s : SessionState) (reason : Option String) (a : Answers) : SessionState :=
  { s with
    inbox := if a.appends then
      appendCappedInboxLine s.inbox (formatEvictionSentinelLine a.now reason) else s.inbox
    closed := true }

def sessionStep (c : StreamSession) (s : SessionState) (event : SessionEvent) : SessionState :=
  if s.closed then s
  else
    match event with
    | .log ev a => logEvent c s ev a
    | .heartbeat hwm => heartbeat s hwm
    | .bookmark => { s with isCatchingUp := false }
    | .eviction reason a => eviction s reason a
    | .unknown => s
    | .divergence => divergence s
    | .error | .close => { s with closed := true }

/-- The state after the events. -/
def session (c : StreamSession) (inbox : List Char) (events : List SessionEvent) : SessionState :=
  run (sessionStep c) (c.start inbox) events

end Events

end BorgClient.Stream
