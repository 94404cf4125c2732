import BorgClient.Lib.Runs

/-!
# Codex wakes

`codex-app-wake.ts`: the queue of per-entry wakes and its drain, the retry drain and the heartbeat,
as three coroutines over the module's variables. Every `await` is a control point; a function that
returns leaves its `.finally`, or the loop that awaits it, to a microtask of its own.
-/

namespace BorgClient.Codex
open Runs

def DELIVERED_WAKE_KEY_CAP : ℕ := 100
def WAKE_RETRY_MAX_AGE_MS : ℤ := 45 * 60000

abbrev EntryId := String
abbrev ThreadId := String

/-! ### Sets in insertion order -/

/-- A `Set` of entry ids: each with the number of its insertion. A loop over the set that stands
after some insertion goes on with the next one present. -/
structure IdSet where
  rows : List (EntryId × ℕ)
  next : ℕ
deriving DecidableEq, Repr

namespace IdSet

def empty : IdSet := ⟨[], 0⟩

def ids (s : IdSet) : List EntryId := s.rows.map Prod.fst

def add (s : IdSet) (e : EntryId) : IdSet :=
  if e ∈ s.ids then s else ⟨s.rows ++ [(e, s.next + 1)], s.next + 1⟩

def delete (s : IdSet) (e : EntryId) : IdSet := ⟨s.rows.filter (fun row => row.1 != e), s.next⟩

def clear (s : IdSet) : IdSet := ⟨[], s.next⟩

def after (s : IdSet) (last : ℕ) : Option (EntryId × ℕ) := s.rows.find? (fun row => last < row.2)

end IdSet

/-! ### The module's state -/

structure Request where
  reason : String
  deliveryIdentity : Option String
  sourceEntryId : Option EntryId
deriving DecidableEq, Repr

/-- `if (sourceEntryId)` -/
def Request.entry (r : Request) : Option EntryId := r.sourceEntryId.filter (· ≠ "")

def wakeKey (thread : ThreadId) (r : Request) : ThreadId × String :=
  (thread, r.deliveryIdentity.getD r.reason)

/-- Where the drain of the wake queue is: between `active` and `starting` it waits for the named
operation of one wake, `returned` is the loop's own microtask, `ending` that of its `.finally`. -/
inductive DrainControl
  | idle
  | active (r : Request)
  | checking (r : Request)
  | resolving (r : Request)
  | connecting (r : Request) (thread : ThreadId)
  | reading (r : Request) (thread : ThreadId)
  | rechecking (r : Request) (thread : ThreadId)
  | starting (r : Request) (thread : ThreadId)
  | returned
  | ending
deriving DecidableEq, Repr

/-- One retry loop: its attempts so far and when it started. -/
structure Attempts where
  attempts : ℕ
  startedAt : ℤ
deriving DecidableEq, Repr

inductive RetryControl
  | idle
  | sleeping (a : Attempts)
  | active (a : Attempts)
  | pruning (a : Attempts) (entry : EntryId) (last : ℕ)
  | resolving (a : Attempts)
  | connecting (a : Attempts) (thread : ThreadId)
  | reading (a : Attempts) (thread : ThreadId)
  | repruning (a : Attempts) (thread : ThreadId) (entry : EntryId) (last : ℕ)
  | starting (a : Attempts) (thread : ThreadId)
  | ending
deriving DecidableEq, Repr

inductive HeartControl
  | idle
  | active
  | checking
  | resolving
  | connecting (thread : ThreadId)
  | reading (thread : ThreadId)
  | starting (thread : ThreadId)
deriving DecidableEq, Repr

structure WakeWorld where
  wakeInFlight : Bool
  pendingWakeRequests : List Request
  /-- `deliveredWakeKeyOrder`, and the set of the same keys. -/
  deliveredWakeKeys : List (ThreadId × String)
  retryDrainInFlight : Bool
  retryDrainSourceEntryIds : IdSet
  retryDrainHasUnscopedWork : Bool
  lastDeliveredAt : Option ℤ
  deliveryDeferred : Bool
  heartbeatInFlight : Bool
  injectInFlight : Bool
  drain : DrainControl
  retry : RetryControl
  heart : HeartControl
  /-- The entries that wait for the seat, as the server answers. -/
  unread : List EntryId

/-- What one step meets: whether the awaited operation fails, whether a cube is active, the thread
that resolves, whether it is mid-turn, the clock, and the attempts a retry loop is allowed. -/
structure Choice where
  fails : Bool
  cube : Bool
  thread : Option ThreadId
  busy : Bool
  now : ℤ
  maxAttempts : ℕ
deriving DecidableEq, Repr

inductive WakeStep
  | wake (enabled : Bool) (r : Request) (c : Choice)
  | drain (c : Choice)
  | retry (c : Choice)
  | tick (owner : Bool) (cadence : ℤ) (c : Choice)
  | heart (c : Choice)
  /-- The seat reads an entry by other means. -/
  | read (e : EntryId)
  | arrive (e : EntryId)

namespace WakeWorld

def start (unread : List EntryId) : WakeWorld where
  wakeInFlight := false
  pendingWakeRequests := []
  deliveredWakeKeys := []
  retryDrainInFlight := false
  retryDrainSourceEntryIds := .empty
  retryDrainHasUnscopedWork := false
  lastDeliveredAt := none
  deliveryDeferred := false
  heartbeatInFlight := false
  injectInFlight := false
  drain := .idle
  retry := .idle
  heart := .idle
  unread := unread

/-! ### Health -/

/-- `codexWakePathHealthy` over the present delivery state: `none` is degraded. -/
def codexWakePathHealthy (w : WakeWorld) (armed : Option Bool) : Option Bool :=
  match armed with
  | some false => some false
  | none => none
  | some true =>
    if w.retryDrainInFlight ||
        decide (w.retryDrainSourceEntryIds.ids.length +
          (if w.retryDrainHasUnscopedWork then 1 else 0) > 0) || w.deliveryDeferred then none
    else some true

/-- Something is left to the retry drain. -/
def obliged (w : WakeWorld) : Bool :=
  w.retryDrainHasUnscopedWork || !w.retryDrainSourceEntryIds.ids.isEmpty

/-! ### The retry drain -/

def wakeRetryExpired (startedAt now : ℤ) : Bool := now - startedAt ≥ WAKE_RETRY_MAX_AGE_MS

/-- After the loop: what is left goes over to the deferral marker. -/
def ageOut (w : WakeWorld) : WakeWorld :=
  if w.obliged then
    { w with
      retryDrainSourceEntryIds := w.retryDrainSourceEntryIds.clear
      retryDrainHasUnscopedWork := false
      deliveryDeferred := true
      retry := .ending }
  else { w with retry := .ending }

/-- The head of the loop. -/
def retryLoop (w : WakeWorld) (a : Attempts) (c : Choice) : WakeWorld :=
  if !wakeRetryExpired a.startedAt c.now && a.attempts < c.maxAttempts then
    { w with retry := .sleeping a }
  else w.ageOut

/-- `scheduleRetryDrain`; the loop runs up to its first sleep. -/
def scheduleRetryDrain (w : WakeWorld) (sourceEntryId : Option EntryId) (c : Choice) : WakeWorld :=
  let w := match sourceEntryId with
    | some e => { w with retryDrainSourceEntryIds := w.retryDrainSourceEntryIds.add e }
    | none => { w with retryDrainHasUnscopedWork := true }
  if w.retryDrainInFlight then w
  else { w with retryDrainInFlight := true }.retryLoop ⟨0, c.now⟩ c

/-- `continue`, with the lock given back. -/
def again (w : WakeWorld) (a : Attempts) (c : Choice) : WakeWorld :=
  { w with injectInFlight := false }.retryLoop a c

/-- `return`, with the lock given back. -/
def settled (w : WakeWorld) : WakeWorld := { w with injectInFlight := false, retry := .ending }

def markDelivered (w : WakeWorld) (c : Choice) : WakeWorld :=
  { w with lastDeliveredAt := some c.now, deliveryDeferred := false }

/-- The first pruning goes on after insertion `last`. -/
def prune (w : WakeWorld) (a : Attempts) (last : ℕ) : WakeWorld :=
  match w.retryDrainSourceEntryIds.after last with
  | some (entry, n) => { w with retry := .pruning a entry n }
  | none => if w.obliged then { w with retry := .resolving a } else w.settled

def reprune (w : WakeWorld) (a : Attempts) (thread : ThreadId) (last : ℕ) : WakeWorld :=
  match w.retryDrainSourceEntryIds.after last with
  | some (entry, n) => { w with retry := .repruning a thread entry n }
  | none => if w.obliged then { w with retry := .starting a thread } else w.settled

def dropRead (w : WakeWorld) (entry : EntryId) : WakeWorld :=
  if entry ∈ w.unread then w
  else { w with retryDrainSourceEntryIds := w.retryDrainSourceEntryIds.delete entry }

def advanceRetry (w : WakeWorld) (c : Choice) : WakeWorld :=
  match w.retry with
  | .idle => w
  | .sleeping a =>
    let a := { a with attempts := a.attempts + 1 }
    if w.injectInFlight then w.retryLoop a c
    else { w with injectInFlight := true, retry := .active a }
  | .active a =>
    if c.fails || !c.cube then w.again a c else w.prune a 0
  | .pruning a entry last =>
    if c.fails then w.prune a last else (w.dropRead entry).prune a last
  | .resolving a =>
    if c.fails then w.again a c
    else
      match c.thread with
      | none => w.again a c
      | some thread => { w with retry := .connecting a thread }
  | .connecting a thread => if c.fails then w.again a c else { w with retry := .reading a thread }
  | .reading a thread => if c.fails || c.busy then w.again a c else w.reprune a thread 0
  | .repruning a thread entry last =>
    if c.fails then w.again a c else (w.dropRead entry).reprune a thread last
  | .starting a _ =>
    if c.fails then w.again a c
    else
      ({ w with
          retryDrainSourceEntryIds := w.retryDrainSourceEntryIds.clear
          retryDrainHasUnscopedWork := false }.markDelivered c).settled
  | .ending => { w with retryDrainInFlight := false, retry := .idle }

/-! ### The wake queue -/

/-- `wakeCodexTargeted` returns, with the lock given back. -/
def finish (w : WakeWorld) : WakeWorld := { w with injectInFlight := false, drain := .returned }

/-- It leaves its entry to the retry drain and returns. -/
def retryLater (w : WakeWorld) (r : Request) (c : Choice) : WakeWorld :=
  (w.scheduleRetryDrain r.entry c).finish

/-- The loop over the queue, up to the first `await` of the next wake. -/
def drainCodexWakeQueue (w : WakeWorld) (c : Choice) : WakeWorld :=
  match w.pendingWakeRequests with
  | [] => { w with drain := .ending }
  | r :: rest =>
    let w := { w with pendingWakeRequests := rest }
    if w.injectInFlight then { w.scheduleRetryDrain r.entry c with drain := .returned }
    else { w with injectInFlight := true, drain := .active r }

def wakeCodexViaAppServer (w : WakeWorld) (r : Request) (c : Choice) : WakeWorld :=
  let w := { w with pendingWakeRequests := w.pendingWakeRequests ++ [r] }
  if w.wakeInFlight then w else { w with wakeInFlight := true }.drainCodexWakeQueue c

def rememberDeliveredWake (w : WakeWorld) (key : ThreadId × String) : WakeWorld :=
  if key ∈ w.deliveredWakeKeys then w
  else
    let keys := w.deliveredWakeKeys ++ [key]
    { w with deliveredWakeKeys := keys.drop (keys.length - DELIVERED_WAKE_KEY_CAP) }

def advanceDrain (w : WakeWorld) (c : Choice) : WakeWorld :=
  match w.drain with
  | .idle => w
  | .active r =>
    if c.fails then w.retryLater r c
    else if !c.cube then w.finish
    else if r.entry.isSome then { w with drain := .checking r }
    else { w with drain := .resolving r }
  | .checking r =>
    if c.fails then w.retryLater r c
    else if r.entry.any (fun e => e ∉ w.unread) then w.finish
    else { w with drain := .resolving r }
  | .resolving r =>
    if c.fails then w.retryLater r c
    else
      match c.thread with
      | none =>
        if r.entry.isSome then { w with deliveryDeferred := true }.retryLater r c
        else w.retryLater r c
      | some thread =>
        if wakeKey thread r ∈ w.deliveredWakeKeys then w.finish
        else { w with drain := .connecting r thread }
  | .connecting r thread =>
    if c.fails then w.retryLater r c else { w with drain := .reading r thread }
  | .reading r thread =>
    if c.fails || c.busy then w.retryLater r c
    else if r.entry.isSome then { w with drain := .rechecking r thread }
    else { w with drain := .starting r thread }
  | .rechecking r thread =>
    if c.fails then w.retryLater r c
    else if r.entry.any (fun e => e ∉ w.unread) then w.finish
    else { w with drain := .starting r thread }
  | .starting r thread =>
    if c.fails then w.retryLater r c
    else ((w.rememberDeliveredWake (wakeKey thread r)).markDelivered c).finish
  | .returned => w.drainCodexWakeQueue c
  | .ending => { w with wakeInFlight := false, drain := .idle }

/-! ### The heartbeat -/

def shouldFireHeartbeat (lastDeliveredAt : Option ℤ) (now cadence : ℤ) : Bool :=
  match lastDeliveredAt with
  | none => true
  | some at_ => now - at_ ≥ cadence

def fireCodexHeartbeatTick (w : WakeWorld) (owner : Bool) (cadence : ℤ) (c : Choice) : WakeWorld :=
  if w.heartbeatInFlight || !shouldFireHeartbeat w.lastDeliveredAt c.now cadence || !owner ||
      w.injectInFlight then w
  else { w with injectInFlight := true, heartbeatInFlight := true, heart := .active }

/-- The tick returns, with its flag and the lock given back. -/
def rest (w : WakeWorld) : WakeWorld :=
  { w with heartbeatInFlight := false, injectInFlight := false, heart := .idle }

def defer (w : WakeWorld) : WakeWorld := { w with deliveryDeferred := true }.rest

def advanceHeart (w : WakeWorld) (c : Choice) : WakeWorld :=
  match w.heart with
  | .idle => w
  | .active => if c.fails then w.defer else if !c.cube then w.rest else { w with heart := .checking }
  | .checking =>
    if c.fails then w.defer
    else if w.unread.isEmpty then { w with deliveryDeferred := false }.rest
    else { w with heart := .resolving }
  | .resolving =>
    if c.fails then w.defer
    else
      match c.thread with
      | none => w.defer
      | some thread => { w with heart := .connecting thread }
  | .connecting thread => if c.fails then w.defer else { w with heart := .reading thread }
  | .reading thread =>
    if c.fails || c.busy then w.defer else { w with heart := .starting thread }
  | .starting _ => if c.fails then w.defer else (w.markDelivered c).rest

end WakeWorld

def wakeStep (w : WakeWorld) : WakeStep → WakeWorld
  | .wake enabled r c => if enabled then w.wakeCodexViaAppServer r c else w
  | .drain c => w.advanceDrain c
  | .retry c => w.advanceRetry c
  | .tick owner cadence c => w.fireCodexHeartbeatTick owner cadence c
  | .heart c => w.advanceHeart c
  | .read e => { w with unread := w.unread.filter (· ≠ e) }
  | .arrive e => { w with unread := w.unread ++ [e] }

end BorgClient.Codex
