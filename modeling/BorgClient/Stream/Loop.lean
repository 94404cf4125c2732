import BorgClient.Lib.Runs

/-!
# The loop of the log stream

`runLoop` of `log-stream.ts` inside `runStreamLoopForever`: which seat is streamed, under which
lease, from which event, and when it stops. What the loop does is kept as a trace, the newest act
first.
-/

namespace BorgClient.Stream

/-- What the loop reads of the active cube. -/
structure StreamSeat where
  cubeId : String
  droneId : String
  localSessionCredentialRef : Option String
deriving DecidableEq, Repr

def StreamSeat.key (seat : StreamSeat) : String := seat.cubeId ++ ":" ++ seat.droneId

inductive LoopAct
  | selected (key : String)
  | acquired (lease : ℕ) (key : String)
  /-- `release` was called. -/
  | released (lease : ℕ)
  /-- A refresh told that the lease is gone. -/
  | lost (lease : ℕ)
  /-- `streamOnce` was called with the last event id. -/
  | opened (lease : ℕ) (key : String) (lastEventId : Option String)
  | recorded (id : String)
  | closed
  /-- The session threw; the wait is `streamReconnectDelay attempt`. -/
  | backedOff (attempt : ℕ)
  | slept
  /-- `runLoop` threw, and starts anew. -/
  | restarted
  | terminated (key : String)
deriving DecidableEq, Repr

/-- How a session ends. An end with the ownership lost is the same whatever else it is. -/
inductive SessionEnd
  | clean
  | ownerLost
  | failed
  /-- The server refuses the seat for good; `gone` where the drone or the cube is no more.
  `replacement` is what `getActiveCube` then gives. -/
  | refused (gone : Bool) (replacement : Option StreamSeat)
deriving DecidableEq, Repr

/-- The answers of one iteration. `active` and `acquired` are absent where the call throws. -/
structure LoopIteration where
  active : Option (Option StreamSeat)
  releases : Bool := true
  acquired : Option (Option ℕ) := some none
  snapshot : Bool := true
  events : List String := []
  ending : SessionEnd := .clean
  endSnapshot : Bool := true
deriving DecidableEq, Repr

structure LoopState where
  attempt : ℕ
  lastEventId : Option String
  currentStreamKey : Option String
  lease : Option ℕ
  leaseKey : Option String
  stopped : Bool
  trace : List LoopAct
deriving DecidableEq, Repr

namespace LoopState

def start : LoopState := ⟨0, none, none, none, none, false, []⟩

def note (s : LoopState) (act : LoopAct) : LoopState := { s with trace := act :: s.trace }

/-- The lease is released, if there is one. -/
def drop (s : LoopState) : LoopState :=
  match s.lease with
  | none => s
  | some lease => { s.note (.released lease) with lease := none, leaseKey := none }

/-- An error leaves `runLoop`, whose `finally` releases; after five seconds it starts anew. -/
def throwOut (s : LoopState) : LoopState :=
  { s.drop.note .restarted with attempt := 0, lastEventId := none, currentStreamKey := none }

/-- A release that threw: the `finally` calls it again. -/
def releaseThrew (s : LoopState) (lease : ℕ) : LoopState := (s.note (.released lease)).throwOut

/-- The resume cursor is of one seat only. -/
def select (s : LoopState) (key : String) : LoopState :=
  if s.currentStreamKey = some key then s
  else { s.note (.selected key) with currentStreamKey := some key, lastEventId := none }

def hold (s : LoopState) (lease : ℕ) (key : String) : LoopState :=
  { s.note (.acquired lease key) with lease := some lease, leaseKey := some key }

def record (s : LoopState) (id : String) : LoopState :=
  { s.note (.recorded id) with lastEventId := some id }

/-- After `streamOnce`. -/
def finish (s : LoopState) (seat : StreamSeat) (lease : ℕ) (it : LoopIteration) : LoopState :=
  match it.ending with
  | .clean => { s.note .closed with attempt := 0 }
  | .ownerLost =>
    let left := { s.note (.lost lease) with lease := none, leaseKey := none }
    if it.endSnapshot then left.note .slept else left.throwOut
  | .failed => { s.note (.backedOff s.attempt) with attempt := s.attempt + 1 }
  | .refused gone replacement =>
    if replacement.any (fun other => other.localSessionCredentialRef !=
        seat.localSessionCredentialRef || other.cubeId != seat.cubeId ||
        other.droneId != seat.droneId) then
      if it.endSnapshot then s.drop else s.drop.throwOut
    else if gone && !it.endSnapshot then s.drop.throwOut
    else { s.drop.note (.terminated seat.key) with stopped := true }

/-- A session under a lease. -/
def connect (s : LoopState) (seat : StreamSeat) (lease : ℕ) (it : LoopIteration) : LoopState :=
  if it.snapshot then
    (it.events.foldl record (s.note (.opened lease seat.key s.lastEventId))).finish seat lease it
  else s.throwOut

/-- From the lease of the seat, or without one. -/
def stream (s : LoopState) (seat : StreamSeat) (it : LoopIteration) : LoopState :=
  match s.lease with
  | some lease => s.connect seat lease it
  | none =>
    match it.acquired with
    | none => s.throwOut
    | some none => if it.snapshot then s.note .slept else s.throwOut
    | some (some lease) => (s.hold lease seat.key).connect seat lease it

def pass (s : LoopState) (it : LoopIteration) : LoopState :=
  match it.active with
  | none => s.throwOut
  | some none =>
    match s.lease with
    | none => s.note .slept
    | some lease => if it.releases then s.drop.note .slept else s.releaseThrew lease
  | some (some seat) =>
    let selected := s.select seat.key
    match selected.lease with
    | none => selected.stream seat it
    | some lease =>
      if selected.leaseKey = some seat.key then selected.stream seat it
      else if it.releases then selected.drop.stream seat it
      else selected.releaseThrew lease

end LoopState

/-- One iteration. After a `TerminalStreamError` there is none. -/
def loopStep (s : LoopState) (it : LoopIteration) : LoopState :=
  if s.stopped then s else s.pass it

/-! ### What a trace says -/

/-- The lease that is held, and for which seat. -/
def heldIn : List LoopAct → Option (ℕ × String)
  | [] => none
  | .acquired lease key :: _ => some (lease, key)
  | .released _ :: _ => none
  | .lost _ :: _ => none
  | _ :: earlier => heldIn earlier

/-- The seat that is streamed. -/
def selectedIn : List LoopAct → Option String
  | [] => none
  | .selected key :: _ => some key
  | .restarted :: _ => none
  | _ :: earlier => selectedIn earlier

/-- The last event of the seat since it was selected. -/
def resumeIn : List LoopAct → Option String
  | [] => none
  | .recorded id :: _ => some id
  | .selected _ :: _ => none
  | .restarted :: _ => none
  | _ :: earlier => resumeIn earlier

/-- The sessions that threw since the last one that ended cleanly. -/
def failuresIn : List LoopAct → ℕ
  | [] => 0
  | .backedOff _ :: earlier => failuresIn earlier + 1
  | .closed :: _ => 0
  | .restarted :: _ => 0
  | _ :: earlier => failuresIn earlier

/-- What may be done after `earlier`. -/
def Allowed (earlier : List LoopAct) : LoopAct → Prop
  | .acquired _ key => heldIn earlier = none ∧ selectedIn earlier = some key
  | .opened lease key lastEventId => heldIn earlier = some (lease, key) ∧
      selectedIn earlier = some key ∧ lastEventId = resumeIn earlier
  | .backedOff attempt => attempt = failuresIn earlier
  | .terminated key => heldIn earlier = none ∧ selectedIn earlier = some key
  | .slept => True
  | .restarted => heldIn earlier = none
  | .selected key => selectedIn earlier ≠ some key
  | .recorded _ => (heldIn earlier).isSome = true
  | .released lease => (∃ key, heldIn earlier = some (lease, key)) ∨
      ∃ before, earlier = .released lease :: before
  | .lost lease => ∃ key, heldIn earlier = some (lease, key)
  | .closed => (heldIn earlier).isSome = true

/-- Every act was allowed by what came before it, and nothing comes after the end. -/
def Lawful : List LoopAct → Prop
  | [] => True
  | act :: earlier => Allowed earlier act ∧ (∀ key, .terminated key ∉ earlier) ∧ Lawful earlier

end BorgClient.Stream
