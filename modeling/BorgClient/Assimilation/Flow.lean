import BorgClient.Seats.SeatRuns

/-!
# The assimilation flow

`runAssimilationFlow` of `assimilate-cmd.ts` with the transactions and the attach request of
`assimilate-deps.ts`: any number of runs over one seat store, each between two reads, transactions,
server answers or worktree operations.
-/

namespace BorgClient.Assimilation
open List Tables Runs Seats

/-! ### Roles -/

structure Role where
  id : String
  name : String
  is_default : Bool
  is_mandatory : Bool
  is_human_seat : Bool
  role_class : Option RoleClass
deriving DecidableEq, Repr

structure RoleOccupant where
  role_id : String
  presumed_abandoned : Bool
deriving DecidableEq, Repr

/-- What the role names take from the string library. -/
class RoleText where
  toLowerCase : String → String

/-- Names that are in lower case already. -/
@[reducible] def plainRoles : RoleText where
  toLowerCase := id

/-- `[_\s]`. -/
def isSeparator (c : Char) : Bool :=
  c == '_' || (9 ≤ c.toNat && c.toNat ≤ 13) ||
    (c.toNat ∈ [0x20, 0xa0, 0x1680, 0x2028, 0x2029, 0x202f, 0x205f, 0x3000, 0xfeff]) ||
    (0x2000 ≤ c.toNat && c.toNat ≤ 0x200a)

/-- Each run of separators as one hyphen; `after` inside such a run. -/
def hyphenate (after : Bool) : List Char → List Char
  | [] => []
  | c :: rest =>
    if isSeparator c then if after then hyphenate true rest else '-' :: hyphenate true rest
    else c :: hyphenate false rest

def roleSlug [RoleText] (raw : String) : String :=
  String.ofList ((hyphenate false (RoleText.toLowerCase raw).toList).filter
    (fun c => ('a' ≤ c && c ≤ 'z') || c.isDigit || c == '-'))

def matchRoleByName [RoleText] (roles : List Role) (query : String) : Option Role :=
  roles.find? (fun r => roleSlug r.name == roleSlug query)

def occupiedRoleIdsForAutoRole (drones : List RoleOccupant) : List String :=
  (drones.filter (fun d => !d.presumed_abandoned)).map RoleOccupant.role_id

def pickDefaultRole (roles : List Role) (isFirstDrone : Bool) (occupied : List String) :
    Option Role :=
  let mandatory := roles.filter (fun r => r.is_mandatory && r.role_class ≠ some .queen)
  let eligible := roles.filter (fun r => r.role_class ≠ some .queen && !r.is_human_seat)
  (if isFirstDrone then roles.find? (fun r => r.is_human_seat) else none) <|>
    mandatory.find? (fun r => r.id ∉ occupied) <|>
    eligible.find? (fun r => r.id ∉ occupied) <|>
    roles.find? (fun r => r.is_default)

/-! ### What a run is given and what it saves -/

structure AssimilateFlags where
  worktree : Option String
  here : Bool
  force : Bool
deriving DecidableEq, Repr

structure AssimilateArgs where
  role : Option String
  flags : AssimilateFlags
deriving DecidableEq, Repr

/-- What the run learns about its repository, its server and the cube. -/
structure Context where
  projectRoot : String
  commonDir : String
  repositoryOrigin : Option String
  /-- The server's URL and trust identity, and the id of the cube. -/
  authority : SeatAuthority
  cubeName : String
  roles : List Role
  drones : List RoleOccupant
deriving DecidableEq, Repr

/-- `CanonicalActiveCube`, of the saved ACTIVE record. -/
structure ActiveCube where
  cubeId : String
  droneId : String
  sessionToken : String
  apiUrl : String
  serverTrustIdentity : String
  localSessionCredentialRef : String
  operation : SeatOperation
  roleName : Option String
deriving DecidableEq, Repr

structure PersistedLocalSeat where
  cubeId : String
  droneId : Option String
  apiUrl : String
  serverTrustIdentity : String
  localSessionCredentialRef : String
  operation : SeatOperation
  state : SeatState
  roleName : Option String
deriving DecidableEq, Repr

/-- `resumeCredentialRef`, `resumeDroneId` and `resumeState`. -/
structure Resume where
  credentialRef : String
  droneId : Option String
  state : SeatState
deriving DecidableEq, Repr

/-- What the flow has decided about the seat so far. -/
structure SeatChoice where
  sessionOperation : SeatOperation
  savedLocalRole : Option Role
  resume : Option Resume
  reattachPriorId : Option String
  remintInvalidPrior : Bool
deriving DecidableEq, Repr

section Reads

variable [SeatPlatform]

/-- `getActiveSeatForWorktree`; an error for several ACTIVE seats. -/
def getActiveSeatForWorktree (store : SeatsFile) (worktree : String) :
    Except Unit (Option SeatRecord) :=
  match store.rows.filter (fun e => bound worktree e && seatRef e.2.toSeatIdentity == e.1) with
  | [] => .ok none
  | [e] => .ok (some e.2)
  | _ => .error ()

/-- `getActiveSeatCredential` at the record's own ref. -/
def getActiveSeatCredential (store : SeatsFile) (record : SeatRecord) : Option String :=
  let ref := seatRef record.toSeatIdentity
  match recordMatches (store.get ref) ref record.toSeatAuthority with
  | some r => if r.state = .active then some r.credential else none
  | none => none

/-- `hydrateActiveCube`, with the bearer it read. -/
def hydrateActiveCube (record : SeatRecord) (sessionToken : String) : ActiveCube where
  cubeId := record.cubeId
  droneId := record.droneId.getD ""
  sessionToken := sessionToken
  apiUrl := record.origin
  serverTrustIdentity := record.trustIdentity
  localSessionCredentialRef := seatRef record.toSeatIdentity
  operation := record.operation
  roleName := record.roleName

def hasSeatForWorktree (store : SeatsFile) (worktree : String) : Bool :=
  store.rows.any (fun e => e.2.worktree = some worktree)

def getSeatForWorktree (store : SeatsFile) (worktree : String) : Option SeatRecord :=
  (store.rows.find? (fun e => e.2.worktree = some worktree &&
    seatRef e.2.toSeatIdentity == e.1)).map Prod.snd

def readPersistedLocalSeat (store : SeatsFile) (worktree : String) : Option PersistedLocalSeat :=
  (getSeatForWorktree store worktree).map (fun record =>
    { cubeId := record.cubeId
      droneId := record.droneId
      apiUrl := record.origin
      serverTrustIdentity := record.trustIdentity
      localSessionCredentialRef := seatRef record.toSeatIdentity
      operation := record.operation
      state := record.state
      roleName := record.roleName })

def IMPLICIT_SIBLING : String := "implicit-sibling:"

/-- An unbound PENDING attempt of an implicit sibling of the repository. -/
def isIncompleteSibling (authority : SeatAuthority) (projectRoot : String)
    (e : String × SeatRecord) : Bool :=
  e.2.state = .pending && e.2.worktree = none && e.2.operation.kind = .sibling &&
    IMPLICIT_SIBLING.toList.isPrefixOf e.2.operation.operationKey.toList &&
    IMPLICIT_SIBLING.length < e.2.operation.operationKey.length &&
    e.2.toSeatAuthority = authority && e.2.operation.projectRoot = projectRoot &&
    seatRef e.2.toSeatIdentity == e.1

def findIncompleteSiblingAttempt (store : SeatsFile) (authority : SeatAuthority)
    (projectRoot : String) : Option SeatRecord :=
  (store.rows.find? (isIncompleteSibling authority projectRoot)).map Prod.snd

end Reads

/-! ### The decisions of the flow -/

def wantSibling (flags : AssimilateFlags) (existing : Option ActiveCube)
    (hasPersistedIdentity : Bool) : Bool :=
  flags.worktree.isSome || (!flags.here && !(existing.isNone && hasPersistedIdentity))

/-- The operation of a new sibling, or the saved one for `--here`; `uuid` is random. -/
def sessionOperation (args : AssimilateArgs) (projectRoot uuid : String)
    (existing : Option ActiveCube) : SeatOperation :=
  let sibling : SeatOperation :=
    { projectRoot := projectRoot
      kind := .sibling
      operationKey := match args.flags.worktree with
        | none => IMPLICIT_SIBLING ++ uuid
        | some name => "named-sibling:" ++ name }
  match existing with
  | some existing => if args.flags.here then existing.operation else sibling
  | none => sibling

/-- An attempt in flight is adopted with its operation and role. -/
def adoptSibling [SeatPlatform] (context : Context) (choice : SeatChoice)
    (inflight : Option SeatRecord) : SeatChoice :=
  match inflight with
  | none => choice
  | some record =>
    match context.roles.find? (fun r => r.id == record.roleId) with
    | none => choice
    | some role =>
      { choice with
        sessionOperation := record.operation
        savedLocalRole := some role
        resume := some ⟨seatRef record.toSeatIdentity, none, .pending⟩ }

/-- The saved seat is resumed under its own operation and role. -/
def resumePersisted (context : Context) (choice : SeatChoice) (persisted : PersistedLocalSeat) :
    Option SeatChoice := do
  let name ← persisted.roleName
  let role ← context.roles.find? (fun r => r.name == name)
  return { choice with
    sessionOperation := persisted.operation
    savedLocalRole := some role
    resume := some ⟨persisted.localSessionCredentialRef,
      if persisted.state = .active then persisted.droneId else none, persisted.state⟩ }

def resolveConnectionRole [RoleText] (args : AssimilateArgs) (context : Context)
    (savedLocalRole : Option Role) : Option Role :=
  match savedLocalRole, args.role with
  | some role, _ => some role
  | none, some requested => matchRoleByName context.roles requested
  | none, none => pickDefaultRole context.roles (context.drones.length == 0)
      (occupiedRoleIdsForAutoRole context.drones)

section Prepare

variable [SeatPlatform]

/-- What `prepareAssimilationSeat` expects of the saved record. -/
def sessionExpected (choice : SeatChoice) (existing : Option ActiveCube) : SeatExpectation :=
  match choice.resume with
  | some resume =>
    if resume.state = .pending then .absent else .exact resume.credentialRef resume.droneId none
  | none =>
    match existing with
    | none => .absent
    | some existing =>
      if choice.remintInvalidPrior then
        .exact existing.localSessionCredentialRef (some existing.droneId) none
      else if choice.reattachPriorId.isSome then
        .exact existing.localSessionCredentialRef (some existing.droneId)
          (some (digestOf existing.sessionToken))
      else .absent

/-- The input of `prepareSeat` for a fresh bearer. -/
def prepareInput (context : Context) (choice : SeatChoice) (existing : Option ActiveCube)
    (role : Role) (credential : String) : PrepareSeat where
  expected := sessionExpected choice existing
  revalidate := true
  scrubBeforeMint := choice.remintInvalidPrior
  seed :=
    { toSeatAuthority := context.authority
      roleId := role.id
      operation := choice.sessionOperation
      credential := credential }

end Prepare

/-- A verified attach response, for the requested cube and role. -/
structure AttachAnswer where
  droneId : String
  droneLabel : String
  sessionId : String
  created : Bool
deriving DecidableEq, Repr

/-- The answer names another drone than the reattach or the remint asked for. -/
def answerMismatch (choice : SeatChoice) (answer : AttachAnswer) : Bool :=
  match choice.reattachPriorId with
  | none => false
  | some prior =>
    if choice.remintInvalidPrior then !answer.created || answer.droneId == prior
    else answer.created || answer.droneId != prior

/-- The attach request: the seat it was prepared for and the bearer it carries. -/
structure SentAttach where
  identity : SeatIdentity
  credential : String
deriving DecidableEq, Repr

/-- The role the server assigned, by its id. -/
def assignedRole (context : Context) (role : Role) : Role :=
  (context.roles.find? (fun r => r.id == role.id)).getD role

section Finalize

variable [SeatPlatform]

def SentAttach.ref (sent : SentAttach) : String := seatRef sent.identity

def activateInput (context : Context) (role : Role) (sent : SentAttach) (answer : AttachAnswer)
    (worktree : String) : ActivateSeat :=
  { sent.identity with
    droneId := answer.droneId
    sessionId := answer.sessionId
    expectedPendingDigest := digestOf sent.credential
    worktree := worktree
    commonDir := some context.commonDir
    repositoryOrigin := context.repositoryOrigin
    name := context.cubeName
    droneLabel := answer.droneLabel
    roleName := some role.name
    roleClass := role.role_class
    isHumanSeat := some role.is_human_seat }

def bindInput (context : Context) (role : Role) (sent : SentAttach) (answer : AttachAnswer)
    (worktree : String) : BindPendingSeat :=
  { sent.identity with
    expectedPendingDigest := digestOf sent.credential
    droneId := some answer.droneId
    worktree := worktree
    name := context.cubeName
    droneLabel := answer.droneLabel
    roleName := some role.name
    roleClass := role.role_class
    isHumanSeat := some role.is_human_seat }

end Finalize

/-! ### Runs -/

/-- Where a run is: what it does next. -/
inductive Control
  /-- `getActiveSeatForWorktree`. -/
  | reading
  /-- `getActiveSeatCredential`. -/
  | hydrating
  /-- `hasSeatForWorktree`, after no active seat was found. -/
  | checkingSaved
  /-- The choice of the operation, and `findIncompleteSiblingAttempt`. -/
  | choosing
  /-- `readPersistedLocalSeat`. -/
  | resuming
  /-- `observeSeat` of the persisted record. -/
  | peeking
  /-- `probeSeat` of the saved seat. -/
  | probing
  /-- The role, and `prepareSeat`. -/
  | preparing
  /-- The attach request is, or may be, on its way. -/
  | attaching
  | scrubbing
  /-- `git worktree add`. -/
  | spawning
  /-- Preferences, access provisioning, and `activateAndBindSeat`. -/
  | activating
  | bindingPending
  /-- `git worktree remove`. -/
  | rollingBack
  | committed
  | stopped
deriving DecidableEq, Repr

/-- A run with the flow's local variables. -/
structure AssimilationRun where
  args : AssimilateArgs
  context : Context
  control : Control
  record : Option SeatRecord
  existing : Option ActiveCube
  hasPersistedIdentity : Bool
  choice : SeatChoice
  persisted : Option PersistedLocalSeat
  role : Role
  sent : Option SentAttach
  answer : AttachAnswer
  /-- The worktree to bind: the run's own, or the spawned one. -/
  target : Option String
  /-- An activation of this run took effect. -/
  placed : Bool
deriving DecidableEq

structure AssimilationWorld where
  /-- The seat store as the next transaction loads it. -/
  store : SeatsFile
  runs : ℕ → Option AssimilationRun
  worktrees : List String
  /-- The bearers generated so far. -/
  used : List String
  /-- ACTIVE records an activation moved: the ref, and the worktree it left. -/
  moves : List (String × String)

def AssimilationWorld.start (store : SeatsFile) (worktrees : List String) : AssimilationWorld :=
  ⟨store, fun _ => none, worktrees, store.rows.map (fun e => e.2.credential), []⟩

/-- How a transaction ends: well, or thrown with its commit in effect or not. -/
inductive Fault | none | threw (took : Bool)
deriving DecidableEq, Repr

inductive SeatStatus | live | evicted | other
deriving DecidableEq, Repr

inductive RunMove
  | readActive
  | hydrate
  | checkSaved
  | choose (uuid : String)
  | readPersisted
  | peek
  /-- The server's verdict, and whether a live monitor holds the seat. -/
  | probe (status : SeatStatus) (holder : Bool)
  | prepare (credential : String) (fault : Fault)
  /-- The answer to the attach request, `none` for an error or a response out of the request. -/
  | attach (answer : Option AttachAnswer)
  | scrub (fault : Fault)
  | spawn (path : String)
  | activate (fault : Fault)
  | bindPending (fault : Fault)
  /-- A preference or an access that cannot be provisioned. -/
  | refuse
  | rollBack (removed : Bool)
  /-- The process dies, or another of its operations fails. -/
  | stop
deriving DecidableEq

inductive AssimilationStep
  | begin (i : ℕ) (args : AssimilateArgs) (context : Context)
  | move (i : ℕ) (m : RunMove)
deriving DecidableEq

def AssimilationRun.start (args : AssimilateArgs) (context : Context) : AssimilationRun where
  args := args
  context := context
  control := .reading
  record := none
  existing := none
  hasPersistedIdentity := false
  choice := ⟨⟨"", .sibling, ""⟩, none, none, none, false⟩
  persisted := none
  role := ⟨"", "", false, false, false, none⟩
  sent := none
  answer := ⟨"", "", "", false⟩
  target := none
  placed := false

def AssimilationRun.wantSibling (r : AssimilationRun) : Bool :=
  Assimilation.wantSibling r.args.flags r.existing r.hasPersistedIdentity

def AssimilationRun.goto (r : AssimilationRun) (control : Control) : AssimilationRun :=
  { r with control := control }

section Steps

variable [SeatPlatform] [RoleText]

/-- A transaction and the load after it. -/
def transacted (store : SeatsFile) (call : SeatCall) : SeatsFile :=
  match call.commit store with
  | none => store
  | some written => repairOrderedDuplicateBindings written

/-- A transaction that may throw. -/
def transactedUnless (store : SeatsFile) (call : SeatCall) : Fault → SeatsFile
  | .none => transacted store call
  | .threw true => transacted store call
  | .threw false => store

/-- After the reads of a run without a saved seat to resume: `--here` goes on with its saved active
seat, every other run with the role. -/
def AssimilationRun.afterChoice (r : AssimilationRun) : AssimilationRun :=
  match r.existing with
  | none => r.goto .preparing
  | some existing =>
    if !r.args.flags.here then r.goto .preparing
    else if existing.apiUrl ≠ r.context.authority.origin ||
        existing.serverTrustIdentity ≠ r.context.authority.trustIdentity then r.goto .stopped
    else
      { r with
        choice := { r.choice with
          savedLocalRole := existing.roleName.bind
            (fun name => r.context.roles.find? (fun role => role.name == name)) }
        control := .probing }

/-- The choice of the operation, with the attempt in flight the store shows. -/
def AssimilationRun.choose (r : AssimilationRun) (store : SeatsFile) (uuid : String) :
    AssimilationRun :=
  let choice : SeatChoice :=
    ⟨sessionOperation r.args r.context.projectRoot uuid r.existing, none, none, none, false⟩
  if r.args.flags.here && r.existing.isNone && !r.hasPersistedIdentity then r.goto .stopped
  else if r.args.flags.here && r.existing.any (fun e => e.cubeId ≠ r.context.authority.cubeId) then
    r.goto .stopped
  else
    let choice :=
      if r.wantSibling && r.args.flags.worktree.isNone then
        adoptSibling r.context choice
          (findIncompleteSiblingAttempt store r.context.authority r.context.projectRoot)
      else choice
    let r := { r with choice := choice }
    if r.existing.isNone && r.hasPersistedIdentity then r.goto .resuming else r.afterChoice

/-- `readPersistedLocalSeat`, of this server and not for a sibling. -/
def AssimilationRun.readPersisted (r : AssimilationRun) (store : SeatsFile) : AssimilationRun :=
  match readPersistedLocalSeat store r.context.projectRoot with
  | none => r.goto .stopped
  | some persisted =>
    if r.wantSibling || persisted.apiUrl ≠ r.context.authority.origin ||
        persisted.serverTrustIdentity ≠ r.context.authority.trustIdentity then r.goto .stopped
    else { r with persisted := some persisted, control := .peeking }

/-- A saved seat whose record is still there is resumed. -/
def AssimilationRun.peek (r : AssimilationRun) (store : SeatsFile) : AssimilationRun :=
  match r.persisted with
  | none => r.goto .stopped
  | some persisted =>
    let binding := { r.context.authority with cubeId := persisted.cubeId }
    let ref := persisted.localSessionCredentialRef
    match recordMatches (store.get ref) ref binding, resumePersisted r.context r.choice persisted with
    | some _, some choice => { r with choice := choice, control := .preparing }
    | _, _ => r.goto .stopped

def AssimilationRun.probe (r : AssimilationRun) (status : SeatStatus) (holder : Bool) :
    AssimilationRun :=
  match r.existing with
  | none => r.goto .stopped
  | some existing =>
    if status = .other || (status = .live && r.choice.savedLocalRole.isNone) ||
        (holder && !r.args.flags.force) then r.goto .stopped
    else
      { r with
        choice := { r.choice with
          reattachPriorId := some existing.droneId
          remintInvalidPrior := status = .evicted }
        control := .preparing }

/-- What `prepareSeat` is called with, unless no role fits. -/
def AssimilationRun.prepareInput (r : AssimilationRun) (credential : String) :
    Option (Role × PrepareSeat) :=
  (resolveConnectionRole r.args r.context r.choice.savedLocalRole).map
    (fun role => (role, Assimilation.prepareInput r.context r.choice r.existing role credential))

/-- A run whose seat was prepared sends the record's bearer. -/
def AssimilationRun.prepared (r : AssimilationRun) (role : Role) (input : PrepareSeat)
    (record : SeatRecord) : AssimilationRun :=
  { r with
    role := role
    sent := some ⟨input.seed.toSeatIdentity, record.credential⟩
    target := if r.wantSibling then none else some r.context.projectRoot
    control := .attaching }

def AssimilationWorld.set (w : AssimilationWorld) (i : ℕ) (r : AssimilationRun) :
    AssimilationWorld :=
  { w with runs := Function.update w.runs i (some r) }

/-- The worktree an activation takes an ACTIVE record from. -/
def movedFrom (store : SeatsFile) (ref worktree : String) : List (String × String) :=
  match store.get ref with
  | some record =>
    match record.worktree with
    | some left => if record.state = .active && left ≠ worktree then [(ref, left)] else []
    | none => []
  | none => []

/-- `finalizeServerSeat`: the activation, whose errors are an outcome of their own. -/
def AssimilationWorld.activate (w : AssimilationWorld) (i : ℕ) (r : AssimilationRun)
    (sent : SentAttach) (worktree : String) (fault : Fault) : AssimilationWorld :=
  let input := activateInput r.context (assignedRole r.context r.role) sent r.answer worktree
  let outcome := (activateAndBindSeat input w.store).1
  let took := (activateAndBindSeat input w.store).2.isSome && fault ≠ .threw false
  let w' : AssimilationWorld :=
    { w with
      store := transactedUnless w.store (.activate input) fault
      moves := if took then w.moves ++ movedFrom w.store sent.ref worktree else w.moves }
  match outcome, fault with
  | .ok .activated, .none => w'.set i { r with placed := true, control := .committed }
  | _, _ => w'.set i { r with placed := r.placed || took, control := .bindingPending }

/-- One move of run `i`; a move that is not the run's next leaves everything as it is. -/
def moveStep (w : AssimilationWorld) (i : ℕ) (r : AssimilationRun) (m : RunMove) :
    AssimilationWorld :=
  match m, r.control with
  | .readActive, .reading =>
    match getActiveSeatForWorktree w.store r.context.projectRoot with
    | .error _ => w.set i (r.goto .stopped)
    | .ok none => w.set i (r.goto .checkingSaved)
    | .ok (some record) => w.set i { r with record := some record, control := .hydrating }
  | .hydrate, .hydrating =>
    match r.record with
    | none => w
    | some record =>
      match getActiveSeatCredential w.store record with
      | none => w.set i (r.goto .checkingSaved)
      | some sessionToken =>
        w.set i { r with
          existing := some (hydrateActiveCube record sessionToken)
          hasPersistedIdentity := true
          control := .choosing }
  | .checkSaved, .checkingSaved =>
    w.set i { r with
      hasPersistedIdentity := hasSeatForWorktree w.store r.context.projectRoot
      control := .choosing }
  | .choose uuid, .choosing => w.set i (r.choose w.store uuid)
  | .readPersisted, .resuming => w.set i (r.readPersisted w.store)
  | .peek, .peeking => w.set i (r.peek w.store)
  | .probe status holder, .probing => w.set i (r.probe status holder)
  | .prepare credential fault, .preparing =>
    if credential ∈ w.used then w
    else
      match r.prepareInput credential with
      | none => w.set i (r.goto .stopped)
      | some (role, input) =>
        let w' : AssimilationWorld :=
          { w with
            store := transactedUnless w.store (.prepare input) fault
            used := credential :: w.used }
        match (prepareSeat input w.store).1, fault with
        | .ok record, .none => w'.set i (r.prepared role input record)
        | _, _ => w'.set i (r.goto .stopped)
  | .attach answer, .attaching =>
    match answer with
    | none => w.set i (r.goto .stopped)
    | some answer =>
      if answerMismatch r.choice answer then w.set i { r with answer := answer, control := .scrubbing }
      else
        w.set i { r with
          answer := answer
          control := if r.wantSibling then .spawning else .activating }
  | .scrub fault, .scrubbing =>
    match r.sent with
    | none => w
    | some sent =>
      let call : SeatCall := .scrub sent.ref sent.identity.toSeatAuthority (digestOf sent.credential)
      { w with store := transactedUnless w.store call fault }.set i (r.goto .stopped)
  | .spawn path, .spawning =>
    if path ∈ w.worktrees then w
    else
      { w with worktrees := path :: w.worktrees }.set i
        { r with target := some path, control := .activating }
  | .refuse, .activating => w.set i (r.goto .rollingBack)
  | .activate fault, .activating =>
    match r.sent, r.target with
    | some sent, some worktree => w.activate i r sent worktree fault
    | _, _ => w
  | .bindPending fault, .bindingPending =>
    match r.sent, r.target with
    | some sent, some worktree =>
      let input := bindInput r.context (assignedRole r.context r.role) sent r.answer worktree
      let w' : AssimilationWorld :=
        { w with store := transactedUnless w.store (.bindPending input) fault }
      match (bindPendingSeatToWorktree input w.store).1, fault with
      | .ok .bound, .none => w'.set i (r.goto .stopped)
      | _, _ => w'.set i (r.goto .rollingBack)
    | _, _ => w
  | .rollBack removed, .rollingBack =>
    let worktrees := if removed && r.wantSibling then w.worktrees.filter (some · ≠ r.target)
      else w.worktrees
    { w with worktrees := worktrees }.set i (r.goto .stopped)
  | .stop, .committed => w
  | .stop, _ => w.set i (r.goto .stopped)
  | _, _ => w

def assimilationStep (w : AssimilationWorld) : AssimilationStep → AssimilationWorld
  | .begin i args context =>
    if (w.runs i).isSome then w else w.set i (.start args context)
  | .move i m =>
    match w.runs i with
    | none => w
    | some r => moveStep w i r m

end Steps

end BorgClient.Assimilation
