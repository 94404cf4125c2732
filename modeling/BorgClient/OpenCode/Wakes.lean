import Mathlib.Data.List.Basic

/-!
# Wakes of the launch broker

`opencode-v2-broker.ts`: `/wake` with its queue, the handoff to a human session, `/settle` and the
timer. A request or a timer run holds the queue to its end; everything else happens between any
two of its awaits. Each step ends at the next await, and the answers of the native host, like the
fate of a journal write, are arguments.
-/

namespace BorgClient.OpenCode

/-- What never changes about a delivery: its native message id, session, text and source. -/
structure Wake where
  id : String
  sessionID : String
  text : String
  source : String
deriving DecidableEq, Repr

structure Delivery extends Wake where
  admitted : Bool
  delivered : Bool
  settled : Bool
deriving DecidableEq, Repr

/-- The body of a `/wake`. The text is absent where the body has none that is a string with more
than blanks in it. -/
structure WakeRequest where
  key : String
  text : Option String
  source : Option String
  allowSubmit : Bool
  resume : Bool
deriving DecidableEq, Repr

/-- A proposed session. Two proposals of one session are two objects: `stamp` tells them
apart. -/
structure Handoff where
  sessionID : String
  stamp : ℕ
deriving DecidableEq, Repr

/-- What a `reconcile` is done for. -/
inductive Reconcile
  | submit (resume : Bool)
  | look
  | rejected
  | sweep
deriving DecidableEq, Repr

/-- Where the task that holds the queue waits. -/
inductive QueuePhase
  | idle
  | resolving (request : WakeRequest)
  | verifying (request : WakeRequest) (sessionID : String)
  | message (purpose : Reconcile) (source : String)
  | inbox (purpose : Reconcile) (source : String)
  | prompting (source : String)
  | sweeping
deriving DecidableEq, Repr

/-- A `session.prompt` that was sent. -/
structure Post where
  wake : Wake
  resume : Bool
deriving DecidableEq, Repr

/-- The broker of one launch. `verified`, `posted` and `rejected` are what happened so far, the
newest first: the sessions that passed `verifySession`, the prompts, and the sources of those that
failed. -/
structure WakeBroker where
  assimilated : Bool
  sessionID : String
  pluginReady : Bool
  tools : List String
  humanHandoff : Option Handoff
  stamps : ℕ
  captured : List Handoff
  prepared : List Handoff
  revoked : Bool
  deliveries : List Delivery
  aliases : List (String × String)
  journal : List Delivery
  phase : QueuePhase
  verified : List String
  posted : List Post
  rejected : List String
deriving DecidableEq, Repr

namespace WakeBroker

def start (assimilated : Bool) (sessionID : String) : WakeBroker where
  assimilated := assimilated
  sessionID := sessionID
  pluginReady := false
  tools := []
  humanHandoff := none
  stamps := 0
  captured := []
  prepared := []
  revoked := false
  deliveries := []
  aliases := []
  journal := []
  phase := .idle
  verified := []
  posted := []
  rejected := []

def goto (w : WakeBroker) (phase : QueuePhase) : WakeBroker := { w with phase := phase }

def find (w : WakeBroker) (source : String) : Option Delivery :=
  w.deliveries.find? (·.source == source)

/-- A new delivery. -/
def hold (w : WakeBroker) (wake : Wake) : WakeBroker :=
  { w with deliveries := w.deliveries ++ [⟨wake, false, false, false⟩] }

/-- A journal write, which may fail and then throws. -/
def persist (w : WakeBroker) (ok : Bool) : WakeBroker :=
  if ok then { w with journal := w.deliveries } else w

/-- The flags of the deliveries of a source. -/
def mark (w : WakeBroker) (source : String) (flags : Delivery → Delivery) : WakeBroker :=
  { w with deliveries := w.deliveries.map (fun d => if d.source = source then
      { flags d with toWake := d.toWake } else d) }

def accept (w : WakeBroker) (source : String) : WakeBroker :=
  w.mark source (fun d => { d with admitted := true })

def deliver (w : WakeBroker) (source : String) : WakeBroker :=
  w.mark source (fun d => { d with admitted := true, delivered := true })

/-- The way on where a `reconcile` returned; `ok` is the fate of the write before a prompt. -/
def reconciled (w : WakeBroker) (purpose : Reconcile) (source : String) (ok : Bool) : WakeBroker :=
  match purpose with
  | .submit resume =>
    match w.find source with
    | none => w.goto .idle
    | some d =>
      if d.admitted || d.delivered || d.settled then w.goto .idle
      else if ok then
        { w.persist true with
          phase := .prompting source
          posted := ⟨d.toWake, resume⟩ :: w.posted }
      else w.goto .idle
  | .look => w.goto .idle
  | .rejected => w.goto .idle
  | .sweep => w.goto .sweeping

/-- The way on where a `reconcile` threw: only the timer catches it. -/
def threw (w : WakeBroker) (purpose : Reconcile) : WakeBroker :=
  match purpose with
  | .sweep => w.goto .sweeping
  | _ => w.goto .idle

/-- `reconcile` up to its first await. -/
def reconcile (w : WakeBroker) (purpose : Reconcile) (source : String) (ok : Bool) : WakeBroker :=
  match w.find source with
  | none => w.goto .idle
  | some d =>
    if d.settled || d.delivered then w.reconciled purpose source ok
    else w.goto (.message purpose source)

/-- The key becomes an alias of the source, and the delivery is submitted or looked for. -/
def attach (w : WakeBroker) (request : WakeRequest) (source : String) (written ok : Bool) :
    WakeBroker :=
  let aliased := { w with aliases := (request.key, source) :: w.aliases }
  if written then
    (aliased.persist true).reconcile
      (if request.allowSubmit then .submit (request.key != "readiness" && request.resume) else .look)
      source ok
  else aliased.goto .idle

/-- `/wake` from the answer of `verifySession` to its next await. -/
def openWake (w : WakeBroker) (request : WakeRequest) (id : String) (created written ok : Bool) :
    WakeBroker :=
  if request.key != "readiness" && w.assimilated && request.allowSubmit &&
      (!w.pluginReady || w.tools.isEmpty) then w.goto .idle
  else
    match request.text with
    | none => w.goto .idle
    | some text =>
      let aliasOf := w.aliases.lookup request.key
      let source := request.source.getD (aliasOf.getD request.key)
      if aliasOf.any (· != source) then w.goto .idle
      else
        match w.find source with
        | some d => if d.text = text then w.attach request source written ok else w.goto .idle
        | none =>
          if request.allowSubmit then
            let held := w.hold ⟨id, w.sessionID, text, source⟩
            if created then (held.persist true).attach request source written ok
            else held.goto .idle
          else w.goto .idle

end WakeBroker

inductive BrokerStep
  /-- A `/wake` takes the queue. -/
  | wake (request : WakeRequest)
  /-- Its `resolveHandoff` returns, with the session changed or without the human's message, or
  throws. -/
  | resolved (ok : Bool)
  /-- Its `verifySession` returns or throws. `id` is what `nextMessageID` gives. -/
  | verified (ok : Bool) (id : String) (createdOk writtenOk promptOk : Bool)
  /-- The answer to `transport.message`: whether it is the wake's own. -/
  | message (own writtenOk promptOk : Bool)
  /-- The answer to `inbox.list`, or its failure. -/
  | inbox (listed : Option Bool) (writtenOk promptOk : Bool)
  | prompted (ok writtenOk : Bool)
  | timer
  | sweep (source : String)
  | swept
  | settle (source : String) (ok : Bool)
  | human (sessionID : String)
  | capture
  | handoffVerified (handoff : Handoff)
  | handoffPrepared (handoff : Handoff) (ok : Bool)
  | selectSession (sessionID : String) (ok : Bool)
  | plugin (ready : Bool)
  | catalog (tools : List String)
  | close
deriving DecidableEq, Repr

/-- One step. A step that cannot happen leaves the broker as it is. -/
def brokerStep (w : WakeBroker) : BrokerStep → WakeBroker
  | .wake request =>
    if w.phase = .idle && !w.revoked then w.goto (.resolving request) else w
  | .resolved ok =>
    match w.phase with
    | .resolving request => w.goto (if ok then .verifying request w.sessionID else .idle)
    | _ => w
  | .verified ok id createdOk writtenOk promptOk =>
    match w.phase with
    | .verifying request sessionID =>
      if ok then
        { w with verified := sessionID :: w.verified }.openWake request id createdOk writtenOk
          promptOk
      else w.goto .idle
    | _ => w
  | .message own writtenOk promptOk =>
    match w.phase with
    | .message purpose source =>
      if own then
        if writtenOk then ((w.deliver source).persist true).reconciled purpose source promptOk
        else (w.deliver source).threw purpose
      else w.goto (.inbox purpose source)
    | _ => w
  | .inbox listed writtenOk promptOk =>
    match w.phase with
    | .inbox purpose source =>
      match listed with
      | none => w.threw purpose
      | some false => w.reconciled purpose source promptOk
      | some true =>
        if writtenOk then ((w.accept source).persist true).reconciled purpose source promptOk
        else (w.accept source).threw purpose
    | _ => w
  | .prompted ok writtenOk =>
    match w.phase with
    | .prompting source =>
      if ok then
        if writtenOk then ((w.accept source).persist true).goto .idle
        else (w.accept source).reconcile .rejected source false
      else { w with rejected := source :: w.rejected }.reconcile .rejected source false
    | _ => w
  | .timer => if w.phase = .idle then w.goto .sweeping else w
  | .sweep source => if w.phase = .sweeping then w.reconcile .sweep source false else w
  | .swept => if w.phase = .sweeping then w.goto .idle else w
  | .settle source ok =>
    if w.revoked then w else (w.mark source (fun d => { d with settled := true })).persist ok
  | .human sessionID =>
    { w with
      verified := sessionID :: w.verified
      humanHandoff := some ⟨sessionID, w.stamps⟩
      stamps := w.stamps + 1 }
  | .capture => { w with captured := w.humanHandoff.toList ++ w.captured }
  | .handoffVerified handoff =>
    if handoff ∈ w.captured then { w with
      verified := handoff.sessionID :: w.verified
      prepared := handoff :: w.prepared }
    else w
  | .handoffPrepared handoff ok =>
    if handoff ∈ w.prepared ∧ w.humanHandoff = some handoff then
      { w with sessionID := handoff.sessionID, humanHandoff := none }.persist ok
    else w
  | .selectSession sessionID ok =>
    { w with verified := sessionID :: w.verified, sessionID := sessionID }.persist ok
  | .plugin ready =>
    if w.revoked then w
    else { w with pluginReady := ready, tools := if ready then w.tools else [] }
  | .catalog tools => if w.revoked then w else { w with tools := tools }
  | .close => { w with revoked := true }

end BorgClient.OpenCode
