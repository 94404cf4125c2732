import BorgClient.Lib.Runs
import BorgClient.Representative.Db

/-!
# Generation directories

`representative-db.ts`: the pointer file CURRENT, the generation directories with one database
each, and the publish mutex; `transact`, the first publish and `resetRepresentativeState` as the
file and database steps of any number of processes. A process holds a database's write lock from
`BEGIN` to `COMMIT` or `ROLLBACK`, and its locks go when it dies.
-/

namespace BorgClient.Representative
open Runs

def RETAINED_GENERATIONS : ℕ := 3

/-- `g<stamp>-<random>`. -/
structure Gen where
  stamp : ℕ
  random : ℕ
deriving DecidableEq, Repr

/-- The order of the names: by stamp, then by the random part. -/
instance : LinearOrder Gen :=
  LinearOrder.lift' (fun g => toLex (g.stamp, g.random)) (by
    rintro ⟨s, r⟩ ⟨s', r'⟩ h
    simpa using h)

/-- `.sort().reverse()` of directory names. -/
def newestFirst (names : List Gen) : List Gen := names.insertionSort (· ≥ ·)

/-- What opening a database finds: it passes `quick_check`, it does not, or SQLite refuses it
altogether, and then nobody can begin or commit a transaction on it. -/
inductive Health | sound | damaged | unopenable
deriving DecidableEq, Repr

/-- A generation directory; `linked` while it is there, `writer` the process in a write
transaction. -/
structure GenFiles where
  linked : Bool
  rows : Db
  health : Health
  writer : Option ℕ

inductive RepresentativeStateErrorCode
  | REPRESENTATIVE_STATE_INVALID | REPRESENTATIVE_STATE_CORRUPT
  | REPRESENTATIVE_STATE_VERSION | REPRESENTATIVE_STATE_BUSY
deriving DecidableEq, Repr

/-- What a call throws: one of the state's own errors, what its body threw, or the error of a file
or database operation. -/
inductive StateFailure
  | state (code : RepresentativeStateErrorCode)
  | body (e : RepresentativeError)
  | operation
deriving DecidableEq, Repr

inductive ResetOutcome | reset | healthy | notInitialized
deriving DecidableEq, Repr

inductive CallResult
  | committed
  | threw (e : StateFailure)
  | resetDone (outcome : ResetOutcome)
deriving DecidableEq, Repr

/-- A call of `transact`: its body, and whether this is the second attempt. -/
structure TransactCall where
  body : Transaction Unit
  retried : Bool

/-- Who publishes: a first `transact`, or a reset over `previous`, `exclusive` when it holds that
database's write lock. -/
inductive Publisher
  | first (call : TransactCall)
  | reset (previous : Gen) (exclusive : Bool)

/-- How a process leaves the publish mutex. -/
inductive Leaving
  | first (call : TransactCall) (e : Option StateFailure)
  | reset (result : CallResult)

/-- Where a process is. From `checking` to `committing` it is in a write transaction, which found
the rows `begun`. -/
inductive GenControl
  | idle
  | locate (call : TransactCall) (published : Bool)
  | opening (call : TransactCall) (target : Gen)
  | beginning (call : TransactCall) (target : Gen)
  | checking (call : TransactCall) (gen : Gen) (begun : Db)
  | running (call : TransactCall) (gen : Gen) (begun : Db)
  | committing (gen : Gen) (begun next : Db)
  | refused (call : TransactCall) (target : Option Gen) (e : StateFailure)
  | firstMutex (call : TransactCall)
  | firstCheck (call : TransactCall)
  | resetMutex
  | resetRead
  | inspecting (previous : Gen)
  | excluding (previous : Gen)
  | making (pub : Publisher)
  | filling (pub : Publisher) (gen : Gen)
  | publishing (pub : Publisher) (gen : Gen)
  | retaining (pub : Publisher) (gen : Gen)
  | unlocking (previous : Gen) (result : CallResult)
  | releasing (leaving : Leaving)
  | finished (result : CallResult)

structure GenWorld where
  current : Option Gen
  files : Gen → GenFiles
  /-- Every directory name made so far. -/
  names : List Gen
  mutex : Option ℕ
  handle : ℕ → Option Gen
  control : ℕ → GenControl
  /-- What CURRENT named at the start, and the generations first publishes and resets renamed it
  to, in order. -/
  origin : Option Gen
  firsts : List Gen
  resets : List Gen

def emptyDb : Db where
  bindings := []
  requests := fun _ => ⟨[], List.nodup_nil⟩
  delivery := ⟨[], List.nodup_nil⟩
  returned := fun _ => ⟨[], List.nodup_nil⟩
  wake_state := fun _ => none
  wake_replies := fun _ => ⟨[], List.nodup_nil⟩

/-- No process is in a call; every lock is free. -/
def GenWorld.start (current : Option Gen) (names : List Gen)
    (files : Gen → Bool × Db × Health) : GenWorld where
  current := current
  files := fun g => ⟨(files g).1, (files g).2.1, (files g).2.2, none⟩
  names := current.toList ++ names
  mutex := none
  handle := fun _ => none
  control := fun _ => .idle
  origin := current
  firsts := []
  resets := []

/-- What the environment decides in one step: whether the operation fails and with what, the clock
and random bytes of a new name, the rows a new generation is filled with, and how many directories
retention removes. -/
structure Choice where
  fails : Option StateFailure
  clock : ℕ
  random : ℕ
  rows : Db
  removed : ℕ

inductive GenStep
  | transact (p : ℕ) (body : Transaction Unit)
  | reset (p : ℕ)
  | advance (p : ℕ) (c : Choice)
  | crash (p : ℕ)
  /-- A database file is damaged, never repaired. -/
  | damage (g : Gen) (h : Health)

namespace GenWorld

/-! ### Changes -/

def goto (w : GenWorld) (p : ℕ) (control : GenControl) : GenWorld :=
  { w with control := Function.update w.control p control }

def setWriter (w : GenWorld) (g : Gen) (writer : Option ℕ) : GenWorld :=
  { w with files := Function.update w.files g { w.files g with writer := writer } }

def setRows (w : GenWorld) (g : Gen) (rows : Db) : GenWorld :=
  { w with files := Function.update w.files g { w.files g with rows := rows } }

def setMutex (w : GenWorld) (mutex : Option ℕ) : GenWorld := { w with mutex := mutex }

def setHandle (w : GenWorld) (p : ℕ) (handle : Option Gen) : GenWorld :=
  { w with handle := Function.update w.handle p handle }

/-- `mkdir` and an empty database. -/
def addDirectory (w : GenWorld) (g : Gen) : GenWorld :=
  { w with
    files := Function.update w.files g ⟨true, emptyDb, .sound, none⟩
    names := w.names ++ [g] }

/-- The rename over CURRENT. -/
def setCurrent (w : GenWorld) (g : Gen) (pub : Publisher) : GenWorld :=
  match pub with
  | .first _ => { w with current := some g, firsts := w.firsts ++ [g] }
  | .reset _ _ => { w with current := some g, resets := w.resets ++ [g] }

/-- The directories that are there, newest first. -/
def listing (w : GenWorld) : List Gen :=
  newestFirst (w.names.filter (fun g => (w.files g).linked))

/-- Later than every existing generation. -/
def newGenerationName (w : GenWorld) (clock random : ℕ) : Gen :=
  let newest := (w.listing.map (·.stamp)).foldl max 0
  ⟨if clock > newest then clock else newest + 1, random⟩

/-- The generations retention removes: all but the current and the newest others. -/
def cleanupGenerations (w : GenWorld) (current : Gen) : List Gen :=
  (w.listing.filter (· != current)).drop RETAINED_GENERATIONS

def unlink (w : GenWorld) (gens : List Gen) : GenWorld :=
  { w with files := fun g => { w.files g with linked := (w.files g).linked && !gens.contains g } }

/-! ### Steps -/

/-- Giving up a publication. -/
def abandon (w : GenWorld) (p : ℕ) (pub : Publisher) (e : StateFailure) : GenWorld :=
  match pub with
  | .first call => w.goto p (.releasing (.first call (some e)))
  | .reset previous true => w.goto p (.unlocking previous (.threw e))
  | .reset _ false => w.goto p (.releasing (.reset (.threw e)))

/-- `ROLLBACK`. -/
def rollback (w : GenWorld) (p : ℕ) (g : Gen) (control : GenControl) : GenWorld :=
  (w.setWriter g none).goto p control

def invalid : StateFailure := .state .REPRESENTATIVE_STATE_INVALID
def corrupt : StateFailure := .state .REPRESENTATIVE_STATE_CORRUPT
def busy : StateFailure := .state .REPRESENTATIVE_STATE_BUSY

/-- Opening the captured generation. -/
def openGeneration (w : GenWorld) (target : Gen) : Except StateFailure Unit :=
  if !(w.files target).linked then .error invalid
  else if (w.files target).health ≠ .sound then .error corrupt
  else .ok ()

/-- One step of process `p`; a step that waits for a lock leaves everything as it is. -/
def advance (w : GenWorld) (p : ℕ) (c : Choice) : GenWorld :=
  match w.control p with
  | .idle | .finished _ => w
  | .locate call published =>
    match c.fails, w.current with
    | some e, _ => w.goto p (.refused call none e)
    | none, some g =>
      if w.handle p = some g then w.goto p (.beginning call g)
      else (w.setHandle p none).goto p (.opening call g)
    | none, none =>
      if published then w.goto p (.refused call none invalid) else w.goto p (.firstMutex call)
  | .opening call target =>
    match c.fails, w.openGeneration target with
    | some e, _ | none, .error e => w.goto p (.refused call (some target) e)
    | none, .ok () => (w.setHandle p (some target)).goto p (.beginning call target)
  | .beginning call target =>
    match c.fails with
    | some e => w.goto p (.refused call (some target) e)
    | none =>
      if (w.files target).health = .unopenable then w.goto p (.refused call (some target) corrupt)
      else if (w.files target).writer.isSome then w
      else (w.setWriter target (some p)).goto p (.checking call target (w.files target).rows)
  | .checking call gen begun =>
    match c.fails with
    | some e => w.rollback p gen (.finished (.threw e))
    | none =>
      if w.current = some gen then w.goto p (.running call gen begun)
      else if call.retried then (w.setHandle p none).rollback p gen (.finished (.threw busy))
      else (w.setHandle p none).rollback p gen (.locate ⟨call.body, true⟩ false)
  | .running call gen begun =>
    match call.body (w.files gen).rows, c.fails with
    | .error e, _ => w.rollback p gen (.finished (.threw (.body e)))
    | .ok _, some e => w.rollback p gen (.finished (.threw e))
    | .ok out, none => w.goto p (.committing gen begun out.2)
  | .committing gen _ next =>
    match c.fails with
    | some e => w.rollback p gen (.finished (.threw e))
    | none =>
      if (w.files gen).health = .unopenable then
        (w.setHandle p none).rollback p gen (.finished (.threw corrupt))
      else ((w.setRows gen next).setWriter gen none).goto p (.finished .committed)
  | .refused call target e =>
    let nowCurrent := if c.fails.isSome then none else w.current
    if !call.retried && target.isSome && nowCurrent.isSome && nowCurrent != target then
      (w.setHandle p none).goto p (.locate ⟨call.body, true⟩ false)
    else (w.setHandle p none).goto p (.finished (.threw e))
  | .firstMutex call =>
    match c.fails, w.mutex with
    | some e, _ => w.goto p (.refused call none e)
    | none, some _ => w
    | none, none => (w.setMutex (some p)).goto p (.firstCheck call)
  | .firstCheck call =>
    match c.fails, w.current with
    | some e, _ => w.goto p (.releasing (.first call (some e)))
    | none, some _ => w.goto p (.releasing (.first call none))
    | none, none => w.goto p (.making (.first call))
  | .resetMutex =>
    match c.fails, w.mutex with
    | some e, _ => w.goto p (.finished (.threw e))
    | none, some _ => w
    | none, none => (w.setMutex (some p)).goto p .resetRead
  | .resetRead =>
    match c.fails, w.current with
    | some e, _ => w.goto p (.releasing (.reset (.threw e)))
    | none, some g => w.goto p (.inspecting g)
    | none, none => w.goto p (.releasing (.reset (.resetDone .notInitialized)))
  | .inspecting previous =>
    match c.fails with
    | some e => w.goto p (.releasing (.reset (.threw e)))
    | none =>
      if !(w.files previous).linked then w.goto p (.releasing (.reset (.threw invalid)))
      else
        match (w.files previous).health with
        | .sound => w.goto p (.releasing (.reset (.resetDone .healthy)))
        | .damaged => w.goto p (.excluding previous)
        | .unopenable => w.goto p (.making (.reset previous false))
  | .excluding previous =>
    match c.fails with
    | some e => w.goto p (.releasing (.reset (.threw e)))
    | none =>
      if (w.files previous).health = .unopenable then w.goto p (.making (.reset previous false))
      else if (w.files previous).writer.isSome then w
      else (w.setWriter previous (some p)).goto p (.making (.reset previous true))
  | .making pub =>
    let gen := w.newGenerationName c.clock c.random
    match c.fails with
    | some e => w.abandon p pub e
    | none =>
      if gen ∈ w.names then w.abandon p pub .operation
      else (w.addDirectory gen).goto p (.filling pub gen)
  | .filling pub gen =>
    match c.fails with
    | some e => w.abandon p pub e
    | none => (w.setRows gen c.rows).goto p (.publishing pub gen)
  | .publishing pub gen =>
    match c.fails with
    | some e => w.abandon p pub e
    | none => (w.setCurrent gen pub).goto p (.retaining pub gen)
  | .retaining pub gen =>
    let w := w.unlink ((w.cleanupGenerations gen).take c.removed)
    match c.fails, pub with
    | some e, pub => w.abandon p pub e
    | none, .first call => w.goto p (.releasing (.first call none))
    | none, .reset previous true => w.goto p (.unlocking previous (.resetDone .reset))
    | none, .reset _ false => w.goto p (.releasing (.reset (.resetDone .reset)))
  | .unlocking previous result =>
    (w.setWriter previous none).goto p (.releasing (.reset result))
  | .releasing leaving =>
    match leaving with
    | .first call none => (w.setMutex none).goto p (.locate call true)
    | .first call (some e) => (w.setMutex none).goto p (.refused call none e)
    | .reset result => (w.setMutex none).goto p (.finished result)

/-- A process dies: its locks are released. -/
def crash (w : GenWorld) (p : ℕ) : GenWorld :=
  { w with
    mutex := if w.mutex = some p then none else w.mutex
    files := fun g =>
      { w.files g with writer := if (w.files g).writer = some p then none else (w.files g).writer }
    handle := Function.update w.handle p none
    control := Function.update w.control p .idle }

def damage (w : GenWorld) (g : Gen) (h : Health) : GenWorld :=
  match (w.files g).health, h with
  | .unopenable, _ | .damaged, .sound => w
  | _, h => { w with files := Function.update w.files g { w.files g with health := h } }

/-- Nothing is running in process `p`. -/
def free (w : GenWorld) (p : ℕ) : Bool :=
  match w.control p with
  | .idle | .finished _ => true
  | _ => false

end GenWorld

def genStep (w : GenWorld) : GenStep → GenWorld
  | .transact p body => if w.free p then w.goto p (.locate ⟨body, false⟩ false) else w
  | .reset p => if w.free p then w.goto p .resetMutex else w
  | .advance p c => w.advance p c
  | .crash p => w.crash p
  | .damage g h => w.damage g h

end BorgClient.Representative
