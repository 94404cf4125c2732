import BorgClient.Cursor.CursorFile
import BorgClient.Lib.Json
import BorgClient.Lib.Tables
import BorgClient.Seats.StoreLock

/-!
# The seat store

`seats.ts`: the records of `seats.json`, what makes a file acceptable, the repair of a loaded
store, and the eight transactions, each the data it commits for the store it was given.
-/

namespace BorgClient.Seats
open List Tables
open Cursor (matchesUuid)

/-! ### Records -/

/-- `[a-f0-9]{64}`. -/
def isDigest (text : List Char) : Bool :=
  text.length == 64 && text.all (fun c => c.isDigit || ('a' ≤ c && c ≤ 'f'))

/-- A SHA-256 in hex. -/
abbrev HexDigest := { text : String // isDigest text.toList = true }

/-- The digests and the URL parser the store takes from its platform. -/
class SeatPlatform where
  /-- SHA-256 over the parts, one after the other. -/
  sha256 : List String → HexDigest
  /-- `new URL(text)` has the protocol `https:` and the origin `text`. -/
  isHttpsOrigin : String → Bool

/-- The parts told apart by their length. -/
@[reducible] def plainSeats : SeatPlatform where
  sha256 parts :=
    ⟨String.ofList (replicate 64 ("0123456789abcdef".toList.getD
      ((parts.map String.length).sum % 16) '0')), by
      have hdigit : ∀ k : Fin 16, (fun c : Char => c.isDigit || ('a' ≤ c && c ≤ 'f'))
          ("0123456789abcdef".toList.getD k '0') = true := by decide
      rw [String.toList_ofList, isDigest, length_replicate, Bool.and_eq_true]
      refine ⟨rfl, all_eq_true.mpr ?_⟩
      intro c hc
      rw [eq_of_mem_replicate hc]
      exact hdigit ⟨_, Nat.mod_lt _ (by omega)⟩⟩
  isHttpsOrigin := fun text => text.startsWith "https://"

inductive OperationKind | seat | sibling
deriving DecidableEq, Repr

inductive SeatState | pending | active
deriving DecidableEq, Repr

inductive RoleClass | queen | worker
deriving DecidableEq, Repr

structure SeatOperation where
  projectRoot : String
  kind : OperationKind
  operationKey : String
deriving DecidableEq, Repr

/-- The origin, trust and cube a caller binds a record to. -/
structure SeatAuthority where
  origin : String
  trustIdentity : String
  cubeId : String
deriving DecidableEq, Repr

/-- What a seat's ref is derived from. -/
structure SeatIdentity extends SeatAuthority where
  roleId : String
  operation : SeatOperation
deriving DecidableEq, Repr

structure SeatRecord extends SeatIdentity where
  credential : String
  state : SeatState
  bindingOrder : Option ℕ
  droneId : Option String
  sessionId : Option String
  worktree : Option String
  commonDir : Option String
  repositoryOrigin : Option String
  name : Option String
  droneLabel : Option String
  roleName : Option String
  roleClass : Option RoleClass
  isHumanSeat : Option Bool
deriving DecidableEq, Repr

def OperationKind.text : OperationKind → String
  | .seat => "seat"
  | .sibling => "sibling"

def SeatState.text : SeatState → String
  | .pending => "pending"
  | .active => "active"

def RoleClass.text : RoleClass → String
  | .queen => "queen"
  | .worker => "worker"

def REF_PREFIX : String := "borg-server-session:"

/-- `REF_RE`. -/
def matchesRef (ref : String) : Bool :=
  REF_PREFIX.toList.isPrefixOf ref.toList && isDigest (ref.toList.drop REF_PREFIX.toList.length)

/-- `SEAT_BEARER_RE`. -/
def matchesBearer (text : String) : Bool :=
  43 ≤ text.length && text.length ≤ 1024 && text.toList.all (fun c => c.isAlphanum || c == '_' || c == '-')

section Refs

variable [SeatPlatform]

def seatRef (input : SeatIdentity) : String :=
  REF_PREFIX ++ (SeatPlatform.sha256 ([input.origin, input.trustIdentity, input.cubeId, input.roleId,
    input.operation.projectRoot, input.operation.kind.text,
    input.operation.operationKey].intersperse "\x00")).val

def digestOf (bearer : String) : HexDigest := SeatPlatform.sha256 [bearer]

end Refs

/-! ### The file -/

/-- `seats.json`: no JSON, or a value. -/
inductive SeatsText
  | malformed
  | json (value : Json)

/-- The records by their refs, in the order of the file. -/
abbrev SeatsFile := Table (Prod.fst : String × SeatRecord → String)

def SEATS_VERSION : ℕ := 1

def emptyStore : SeatsFile := ⟨[], by simp⟩

def SeatsFile.get (store : SeatsFile) (ref : String) : Option SeatRecord :=
  (store.find ref).map Prod.snd

def SeatsFile.put (store : SeatsFile) (ref : String) (record : SeatRecord) : SeatsFile :=
  store.upsert (ref, record)

def SeatsFile.remove (store : SeatsFile) (ref : String) : SeatsFile :=
  store.delete (fun e => e.1 == ref)

def isValidOperation (op : SeatOperation) : Bool := op.projectRoot ≠ "" && op.operationKey ≠ ""

def MAX_SAFE_INTEGER : ℕ := 9007199254740991

def asKind : Json → Option OperationKind
  | .str "seat" => some .seat
  | .str "sibling" => some .sibling
  | _ => none

def asState : Json → Option SeatState
  | .str "pending" => some .pending
  | .str "active" => some .active
  | _ => none

def asRoleClass : Json → Option RoleClass
  | .str "queen" => some .queen
  | .str "worker" => some .worker
  | _ => none

def readOperation (value : Json) : Option SeatOperation := do
  let op ← value.field? "operation"
  let projectRoot ← op.string? "projectRoot"
  let kind ← (op.field? "kind").bind asKind
  let operationKey ← op.string? "operationKey"
  return ⟨projectRoot, kind, operationKey⟩

/-- The types of a record's fields: what `isValidSeatRecord` asks of them before their values. -/
def readSeatRecord (value : Json) : Option SeatRecord := do
  let origin ← value.string? "origin"
  let trustIdentity ← value.string? "trustIdentity"
  let cubeId ← value.string? "cubeId"
  let roleId ← value.string? "roleId"
  let operation ← readOperation value
  let credential ← value.string? "credential"
  let state ← (value.field? "state").bind asState
  let bindingOrder ← value.optional Json.asNat "bindingOrder"
  let name ← value.optional Json.asString "name"
  let droneLabel ← value.optional Json.asString "droneLabel"
  let roleName ← value.optional Json.asString "roleName"
  let roleClass ← value.optional asRoleClass "roleClass"
  let isHumanSeat ← value.optional Json.asBool "isHumanSeat"
  let worktree ← value.optional Json.asString "worktree"
  let commonDir ← value.optional Json.asString "commonDir"
  let repositoryOrigin ← value.optional Json.asString "repositoryOrigin"
  let droneId ← value.optional Json.asString "droneId"
  let sessionId ← value.optional Json.asString "sessionId"
  return {
    origin, trustIdentity, cubeId, roleId, operation, credential, state, bindingOrder, droneId,
    sessionId, worktree, commonDir, repositoryOrigin, name, droneLabel, roleName, roleClass,
    isHumanSeat }

/-- An ACTIVE record has its server session and worktree, a PENDING one no session or order. -/
def stateConsistent (r : SeatRecord) : Bool :=
  match r.state with
  | .active => r.droneId.isSome && r.sessionId.isSome && r.worktree.isSome && r.name.isSome &&
      r.droneLabel.isSome
  | .pending => r.sessionId.isNone && r.bindingOrder.isNone

section Store

variable [SeatPlatform]

/-- The values of a record's fields, each of its type. -/
def isValidSeatRecord (ref : String) (r : SeatRecord) : Bool :=
  matchesRef ref && r.origin ≠ "" && r.trustIdentity ≠ "" && r.cubeId ≠ "" && r.roleId ≠ "" &&
    isValidOperation r.operation && matchesBearer r.credential &&
    r.bindingOrder.all (fun n => 1 ≤ n && n ≤ MAX_SAFE_INTEGER) &&
    r.commonDir.all (· ≠ "") && r.repositoryOrigin.all (· ≠ "") &&
    r.droneId.all matchesUuid && r.sessionId.all matchesUuid &&
    stateConsistent r && seatRef r.toSeatIdentity == ref

/-- `LegacySessionCredentialCollisionError`. -/
structure LegacySessionCredentialCollisionError where
  origin : String
deriving DecidableEq, Repr

/-- The record without its `replacement` field. -/
def withoutReplacement : Json → Json
  | .obj fields => .obj (fields.filter (fun field => field.1 != "replacement"))
  | value => value

/-- A `replacement` that holds a bearer and nothing else. -/
def exactReplacement : Json → Bool
  | .obj [("credential", .str credential)] => matchesBearer credential
  | _ => false

/-- The records of the file's entries, all of them or none. -/
def readSeats : List (String × Json) →
    Except LegacySessionCredentialCollisionError (Option (List (String × SeatRecord)))
  | [] => .ok (some [])
  | (ref, value) :: rest =>
    match value.field? "replacement" with
    | some replacement =>
      match readSeatRecord (withoutReplacement value) with
      | some record =>
        if record.state = .active && exactReplacement replacement &&
            SeatPlatform.isHttpsOrigin record.origin && isValidSeatRecord ref record then
          .error ⟨record.origin⟩
        else .ok none
      | none => .ok none
    | none =>
      match readSeatRecord value with
      | some record =>
        if isValidSeatRecord ref record then
          (readSeats rest).map (fun records => records.map (fun rest => (ref, record) :: rest))
        else .ok none
      | none => .ok none

/-- The ACTIVE entries of a worktree. -/
def bound (worktree : String) (e : String × SeatRecord) : Bool :=
  e.2.state = .active && e.2.worktree = some worktree

/-- The entry a worktree keeps alone: the one of greatest order, where the orders of its ordered
entries differ. -/
def newestBinding (candidates : List (String × SeatRecord)) : Option (String × SeatRecord) :=
  if candidates.length < 2 then none
  else
    let ordered := candidates.filter (fun e => e.2.bindingOrder.isSome)
    if ¬ (ordered.map (fun e => e.2.bindingOrder)).Nodup then none
    else match ordered with
      | [] => none
      | first :: rest => some (rest.foldl (fun left right =>
          if left.2.bindingOrder.getD 0 > right.2.bindingOrder.getD 0 then left else right) first)

/-- The entries of a worktree, without those its newest supersedes. -/
def repairWorktree (candidates : List (String × SeatRecord)) (store : SeatsFile) : SeatsFile :=
  match newestBinding candidates with
  | none => store
  | some newest =>
    store.delete (fun e => candidates.any (fun c => c.1 == e.1) && e.1 != newest.1)

/-- The worktrees of the ACTIVE entries. -/
def boundWorktrees (store : SeatsFile) : List String :=
  (store.rows.filterMap (fun e => if e.2.state = .active then e.2.worktree else none)).dedup

def repairOrderedDuplicateBindings (store : SeatsFile) : SeatsFile :=
  (boundWorktrees store).foldl
    (fun repaired worktree => repairWorktree (store.rows.filter (bound worktree)) repaired) store

def parseStore : SeatsText → Except LegacySessionCredentialCollisionError (Option SeatsFile)
  | .malformed => .ok none
  | .json value =>
    match value.field? "version", value.field? "seats" with
    | some (.num version), some (.obj seats) =>
      if version = SEATS_VERSION then
        (readSeats seats).map
          (fun records => (records.bind Table.ofRows).map repairOrderedDuplicateBindings)
      else .ok none
    | _, _ => .ok none

/-! ### Writing -/

def operationJson (op : SeatOperation) : Json :=
  .obj [("projectRoot", .str op.projectRoot), ("kind", .str op.kind.text),
    ("operationKey", .str op.operationKey)]

def recordJson (r : SeatRecord) : Json :=
  .obj ([("origin", .str r.origin), ("trustIdentity", .str r.trustIdentity),
      ("cubeId", .str r.cubeId), ("roleId", .str r.roleId),
      ("operation", operationJson r.operation), ("credential", .str r.credential),
      ("state", .str r.state.text)] ++
    Json.entry "bindingOrder" (fun n : ℕ => .num n) r.bindingOrder ++
    Json.entry "droneId" .str r.droneId ++
    Json.entry "sessionId" .str r.sessionId ++
    Json.entry "worktree" .str r.worktree ++
    Json.entry "commonDir" .str r.commonDir ++
    Json.entry "repositoryOrigin" .str r.repositoryOrigin ++
    Json.entry "name" .str r.name ++
    Json.entry "droneLabel" .str r.droneLabel ++
    Json.entry "roleName" .str r.roleName ++
    Json.entry "roleClass" (fun c : RoleClass => .str c.text) r.roleClass ++
    Json.entry "isHumanSeat" .bool r.isHumanSeat)

def renderStore (store : SeatsFile) : SeatsText :=
  .json (.obj [("version", .num SEATS_VERSION),
    ("seats", .obj (store.rows.map (fun e => (e.1, recordJson e.2))))])

/-- The store as `withStore` reads and writes it: a parser that throws commits nothing either. -/
def seatsFormat : StoreFormat SeatsFile SeatsText where
  emptyState := emptyStore
  parse text :=
    match parseStore text with
    | .ok store => store
    | .error _ => none
  render := renderStore

/-! ### What is written is read back -/

omit [SeatPlatform] in
lemma readOperation_recordJson (r : SeatRecord) :
    readOperation (recordJson r) = some r.operation := by
  have hop : (recordJson r).field? "operation" = some (operationJson r.operation) := rfl
  have hroot : (operationJson r.operation).string? "projectRoot" = some r.operation.projectRoot :=
    rfl
  have hkind : (operationJson r.operation).field? "kind" = some (.str r.operation.kind.text) := rfl
  have hkey : (operationJson r.operation).string? "operationKey" = some r.operation.operationKey :=
    rfl
  have hread : asKind (.str r.operation.kind.text) = some r.operation.kind := by
    cases r.operation.kind <;> rfl
  unfold readOperation
  simp only [hop, hroot, hkind, hkey, hread, Option.bind_eq_bind, Option.bind_some, Option.pure_def]

omit [SeatPlatform] in
/-- A field that may be missing is written under its name alone. -/
lemma field_recordJson (r : SeatRecord) (name : String) :
    (recordJson r).field? name =
      (([("origin", Json.str r.origin), ("trustIdentity", .str r.trustIdentity),
        ("cubeId", .str r.cubeId), ("roleId", .str r.roleId),
        ("operation", operationJson r.operation), ("credential", .str r.credential),
        ("state", .str r.state.text)].lookup name).or
      ((if name = "bindingOrder" then r.bindingOrder.map (fun n : ℕ => .num n) else none).or
      ((if name = "droneId" then r.droneId.map .str else none).or
      ((if name = "sessionId" then r.sessionId.map .str else none).or
      ((if name = "worktree" then r.worktree.map .str else none).or
      ((if name = "commonDir" then r.commonDir.map .str else none).or
      ((if name = "repositoryOrigin" then r.repositoryOrigin.map .str else none).or
      ((if name = "name" then r.name.map .str else none).or
      ((if name = "droneLabel" then r.droneLabel.map .str else none).or
      ((if name = "roleName" then r.roleName.map .str else none).or
      ((if name = "roleClass" then r.roleClass.map (fun c => .str c.text) else none).or
      (if name = "isHumanSeat" then r.isHumanSeat.map .bool else none)))))))))))) := by
  simp only [recordJson, Json.field?, lookup_append, Json.lookup_entry, Option.or_assoc]

omit [SeatPlatform] in
/-- The fields written for a record are the record. -/
lemma readSeatRecord_recordJson (r : SeatRecord) : readSeatRecord (recordJson r) = some r := by
  have hstate : asState (.str r.state.text) = some r.state := by cases r.state <;> rfl
  have hrole : ∀ c : RoleClass, asRoleClass (.str c.text) = some c := by
    intro c
    cases c <;> rfl
  have horder : (recordJson r).optional Json.asNat "bindingOrder" = some r.bindingOrder := by
    apply Json.optional_eq Json.asNat_num
    simp [field_recordJson, lookup_cons]
  have hclass : (recordJson r).optional asRoleClass "roleClass" = some r.roleClass := by
    apply Json.optional_eq hrole
    simp [field_recordJson, lookup_cons]
  have hhuman : (recordJson r).optional Json.asBool "isHumanSeat" = some r.isHumanSeat := by
    apply Json.optional_eq Json.asBool_bool
    simp [field_recordJson, lookup_cons]
  have hname : (recordJson r).optional Json.asString "name" = some r.name := by
    apply Json.optional_eq Json.asString_str
    simp [field_recordJson, lookup_cons]
  have hlabel : (recordJson r).optional Json.asString "droneLabel" = some r.droneLabel := by
    apply Json.optional_eq Json.asString_str
    simp [field_recordJson, lookup_cons]
  have hroleName : (recordJson r).optional Json.asString "roleName" = some r.roleName := by
    apply Json.optional_eq Json.asString_str
    simp [field_recordJson, lookup_cons]
  have hworktree : (recordJson r).optional Json.asString "worktree" = some r.worktree := by
    apply Json.optional_eq Json.asString_str
    simp [field_recordJson, lookup_cons]
  have hcommon : (recordJson r).optional Json.asString "commonDir" = some r.commonDir := by
    apply Json.optional_eq Json.asString_str
    simp [field_recordJson, lookup_cons]
  have hrepo : (recordJson r).optional Json.asString "repositoryOrigin" =
      some r.repositoryOrigin := by
    apply Json.optional_eq Json.asString_str
    simp [field_recordJson, lookup_cons]
  have hdrone : (recordJson r).optional Json.asString "droneId" = some r.droneId := by
    apply Json.optional_eq Json.asString_str
    simp [field_recordJson, lookup_cons]
  have hsession : (recordJson r).optional Json.asString "sessionId" = some r.sessionId := by
    apply Json.optional_eq Json.asString_str
    simp [field_recordJson, lookup_cons]
  have horigin : (recordJson r).string? "origin" = some r.origin := rfl
  have htrust : (recordJson r).string? "trustIdentity" = some r.trustIdentity := rfl
  have hcube : (recordJson r).string? "cubeId" = some r.cubeId := rfl
  have hroleId : (recordJson r).string? "roleId" = some r.roleId := rfl
  have hcred : (recordJson r).string? "credential" = some r.credential := rfl
  have hfield : (recordJson r).field? "state" = some (.str r.state.text) := rfl
  unfold readSeatRecord
  simp only [readOperation_recordJson, horigin, htrust, hcube, hroleId, hcred, hfield, hstate,
    horder, hname, hlabel, hroleName, hclass, hhuman, hworktree, hcommon, hrepo, hdrone, hsession,
    Option.bind_eq_bind, Option.bind_some, Option.pure_def]

/-- Every entry is one the parser accepts. -/
def SeatsFile.Valid (store : SeatsFile) : Prop :=
  ∀ e ∈ store, isValidSeatRecord e.1 e.2 = true

lemma readSeats_records {rows : List (String × SeatRecord)}
    (h : ∀ e ∈ rows, isValidSeatRecord e.1 e.2 = true) :
    readSeats (rows.map (fun e => (e.1, recordJson e.2))) = .ok (some rows) := by
  induction rows with
  | nil => rfl
  | cons e rows ih =>
    have hreplacement : (recordJson e.2).field? "replacement" = none := by
      simp [field_recordJson, lookup_cons]
    have hrest := ih (fun e he => h e (mem_cons_of_mem _ he))
    rw [map_cons, readSeats]
    simp only [hreplacement, readSeatRecord_recordJson, h e mem_cons_self, if_true, hrest]
    rfl

lemma readSeats_valid {fields : List (String × Json)} {rows : List (String × SeatRecord)}
    (h : readSeats fields = .ok (some rows)) : ∀ e ∈ rows, isValidSeatRecord e.1 e.2 = true := by
  induction fields generalizing rows with
  | nil =>
    cases h
    simp
  | cons field fields ih =>
    unfold readSeats at h
    split at h
    · split at h
      · split at h <;> cases h
      · cases h
    · split at h
      · rename_i record _
        split at h
        · rename_i hvalid
          cases hrest : readSeats fields with
          | error e =>
            rw [hrest] at h
            cases h
          | ok rest =>
            rw [hrest] at h
            cases rest with
            | none => cases h
            | some rest =>
              cases h
              intro e he
              rcases mem_cons.mp he with rfl | he
              · exact hvalid
              · exact ih hrest e he
        · cases h
      · cases h

/-- Entries just written, acceptable or not, are read back as they are or not at all. -/
lemma readSeats_written {rows out : List (String × SeatRecord)}
    (h : readSeats (rows.map (fun e => (e.1, recordJson e.2))) = .ok (some out)) :
    out = rows ∧ ∀ e ∈ rows, isValidSeatRecord e.1 e.2 = true := by
  have hvalid := readSeats_valid h
  have hout : out = rows := by
    clear hvalid
    induction rows generalizing out with
    | nil =>
      cases h
      rfl
    | cons e rows ih =>
      have hreplacement : (recordJson e.2).field? "replacement" = none := by
        simp [field_recordJson, lookup_cons]
      rw [map_cons, readSeats] at h
      simp only [hreplacement, readSeatRecord_recordJson] at h
      split at h
      · cases hrest : readSeats (rows.map (fun e => (e.1, recordJson e.2))) with
        | error e =>
          rw [hrest] at h
          cases h
        | ok rest =>
          rw [hrest] at h
          cases rest with
          | none => cases h
          | some rest =>
            obtain rfl := ih hrest
            cases h
            rfl
      · cases h
  subst hout
  exact ⟨rfl, hvalid⟩

/-- An accepted text holds acceptable entries, from which the store is repaired. -/
lemma parseStore_eq_some {text : SeatsText} {store : SeatsFile}
    (h : parseStore text = .ok (some store)) :
    ∃ raw : SeatsFile, raw.Valid ∧ store = repairOrderedDuplicateBindings raw := by
  unfold parseStore at h
  split at h
  · cases h
  · split at h
    · rename_i fields _ _
      split at h
      · cases hread : readSeats fields with
        | error e =>
          rw [hread] at h
          cases h
        | ok records =>
          rw [hread] at h
          cases records with
          | none => cases h
          | some records =>
            cases htable : (Table.ofRows records : Option SeatsFile) with
            | none => simp [Except.map, htable] at h
            | some raw =>
              simp only [Except.map, Option.bind_some, htable, Option.map_some, Except.ok.injEq,
                Option.some.injEq] at h
              refine ⟨raw, ?_, h.symm⟩
              intro e he
              rw [Table.mem_def, Table.ofRows_eq_some.mp htable] at he
              exact readSeats_valid hread e he
      · cases h
    · cases h

/-- A written store is parsed as its entries are. -/
lemma parseStore_renderStore_eq (store : SeatsFile) :
    parseStore (renderStore store) =
      (readSeats (store.rows.map (fun e => (e.1, recordJson e.2)))).map
        (fun records => (records.bind Table.ofRows).map repairOrderedDuplicateBindings) := by
  have hversion : (Json.obj [("version", .num SEATS_VERSION),
      ("seats", .obj (store.rows.map (fun e => (e.1, recordJson e.2))))]).field? "version" =
      some (.num SEATS_VERSION) := rfl
  have hseats : (Json.obj [("version", .num SEATS_VERSION),
      ("seats", .obj (store.rows.map (fun e => (e.1, recordJson e.2))))]).field? "seats" =
      some (.obj (store.rows.map (fun e => (e.1, recordJson e.2)))) := rfl
  unfold parseStore renderStore
  simp only [hversion, hseats, if_true]

/-- A written store is accepted, and read back repaired. -/
theorem parseStore_renderStore {store : SeatsFile} (h : store.Valid) :
    parseStore (renderStore store) = .ok (some (repairOrderedDuplicateBindings store)) := by
  have htable : Table.ofRows store.rows = some store := Table.ofRows_eq_some.mpr rfl
  rw [parseStore_renderStore_eq, readSeats_records h]
  simp [Except.map, htable]

/-- Whatever was written, an accepted text is read back repaired. -/
lemma parseStore_renderStore_some {store read : SeatsFile}
    (h : parseStore (renderStore store) = .ok (some read)) :
    read = repairOrderedDuplicateBindings store := by
  have hvalid : store.Valid := by
    rw [parseStore_renderStore_eq] at h
    cases hrows : readSeats (store.rows.map (fun e => (e.1, recordJson e.2))) with
    | error e =>
      rw [hrows] at h
      cases h
    | ok records =>
      cases records with
      | none =>
        rw [hrows] at h
        cases h
      | some records => exact (readSeats_written hrows).2
  rw [parseStore_renderStore hvalid] at h
  exact (Option.some.inj (Except.ok.inj h)).symm

end Store

/-! ### The repair -/

/-- The greatest order is a candidate's. -/
lemma foldl_greatest (rest : List (String × SeatRecord)) (first : String × SeatRecord) :
    let greatest := rest.foldl (fun left right =>
      if left.2.bindingOrder.getD 0 > right.2.bindingOrder.getD 0 then left else right) first
    greatest ∈ first :: rest ∧
      ∀ e ∈ first :: rest, e.2.bindingOrder.getD 0 ≤ greatest.2.bindingOrder.getD 0 := by
  dsimp only
  induction rest generalizing first with
  | nil => simp
  | cons e rest ih =>
    rw [foldl_cons]
    split
    · rename_i hlt
      obtain ⟨hmem, hle⟩ := ih first
      have hfirst := hle first mem_cons_self
      refine ⟨?_, ?_⟩
      · rcases mem_cons.mp hmem with h | h
        · exact mem_cons.mpr (Or.inl h)
        · exact mem_cons_of_mem _ (mem_cons_of_mem _ h)
      · intro o ho
        rcases mem_cons.mp ho with rfl | ho
        · exact hfirst
        · rcases mem_cons.mp ho with rfl | ho
          · omega
          · exact hle o (mem_cons_of_mem _ ho)
    · rename_i hle'
      obtain ⟨hmem, hle⟩ := ih e
      have he := hle e mem_cons_self
      refine ⟨mem_cons_of_mem _ hmem, ?_⟩
      intro o ho
      rcases mem_cons.mp ho with rfl | ho
      · omega
      · exact hle o ho

/-- `newest` has an order, and a greater one than every other ordered candidate. -/
def Newest (candidates : List (String × SeatRecord)) (newest : String × SeatRecord) : Prop :=
  newest ∈ candidates ∧ ∃ n, newest.2.bindingOrder = some n ∧
    ∀ e ∈ candidates, e ≠ newest → ∀ m, e.2.bindingOrder = some m → m < n

lemma newestBinding_eq_some {candidates : List (String × SeatRecord)}
    {newest : String × SeatRecord} (h : newestBinding candidates = some newest) :
    Newest candidates newest := by
  unfold newestBinding at h
  split at h
  · cases h
  · dsimp only at h
    split at h
    · cases h
    · rename_i hnodup
      have hnodup := not_not.mp hnodup
      split at h
      · cases h
      · rename_i first rest hordered
        obtain ⟨hmem, hle⟩ := foldl_greatest rest first
        obtain rfl := Option.some.inj h
        rw [← hordered] at hmem hle
        obtain ⟨hmem', hsome⟩ := mem_filter.mp hmem
        obtain ⟨n, hn⟩ := Option.isSome_iff_exists.mp hsome
        refine ⟨hmem', n, hn, ?_⟩
        intro e he hne m hm
        have heordered : e ∈ candidates.filter (fun e => e.2.bindingOrder.isSome) :=
          mem_filter.mpr ⟨he, by simp [hm]⟩
        have hle' := hle e heordered
        rw [hn, hm] at hle'
        have hmn : m ≤ n := hle'
        have hdistinct : m ≠ n := by
          rintro rfl
          exact hne (inj_on_of_nodup_map hnodup heordered hmem (hm.trans hn.symm))
        omega

lemma mem_repairWorktree {candidates : List (String × SeatRecord)} {store : SeatsFile}
    {e : String × SeatRecord} :
    e ∈ repairWorktree candidates store ↔ e ∈ store ∧
      ∀ newest, newestBinding candidates = some newest → (∃ c ∈ candidates, c.1 = e.1) →
        e.1 = newest.1 := by
  unfold repairWorktree
  split
  · rename_i hnone
    simp [hnone]
  · rename_i newest hsome
    simp only [Table.mem_delete, Bool.and_eq_false_imp, any_eq_true, beq_iff_eq, hsome,
      Option.some.injEq, forall_eq', bne_eq_false_iff_eq]

lemma mem_foldl_repairWorktree {worktrees : List String}
    {candidates : String → List (String × SeatRecord)} {store : SeatsFile}
    {e : String × SeatRecord} :
    e ∈ worktrees.foldl (fun repaired w => repairWorktree (candidates w) repaired) store ↔
      e ∈ store ∧ ∀ w ∈ worktrees, ∀ newest, newestBinding (candidates w) = some newest →
        (∃ c ∈ candidates w, c.1 = e.1) → e.1 = newest.1 := by
  induction worktrees generalizing store with
  | nil => simp
  | cons w worktrees ih =>
    rw [foldl_cons, ih, mem_repairWorktree]
    simp [and_assoc]

lemma bound_iff {w : String} {e : String × SeatRecord} :
    bound w e = true ↔ e.2.state = .active ∧ e.2.worktree = some w := by
  simp [bound]

lemma mem_boundWorktrees {store : SeatsFile} {w : String} {e : String × SeatRecord}
    (he : e ∈ store) (hw : bound w e = true) : w ∈ boundWorktrees store := by
  obtain ⟨hactive, hworktree⟩ := bound_iff.mp hw
  unfold boundWorktrees
  rw [mem_dedup, mem_filterMap]
  exact ⟨e, he, by simp [hactive, hworktree]⟩

/-- What the repair keeps: every entry but those of a worktree with another newest one. -/
lemma mem_repair {store : SeatsFile} {e : String × SeatRecord} :
    e ∈ repairOrderedDuplicateBindings store ↔ e ∈ store ∧
      ∀ w newest, bound w e = true →
        newestBinding (store.rows.filter (bound w)) = some newest → e.1 = newest.1 := by
  unfold repairOrderedDuplicateBindings
  refine mem_foldl_repairWorktree.trans (and_congr_right (fun he => ?_))
  constructor
  · intro h w newest hw hnewest
    exact h w (mem_boundWorktrees he hw) newest hnewest ⟨e, mem_filter.mpr ⟨he, hw⟩, rfl⟩
  · rintro h w - newest hnewest ⟨c, hc, hk⟩
    obtain ⟨hc, hw⟩ := mem_filter.mp hc
    obtain rfl := Table.eq_of_key hc he hk
    exact h w newest hw hnewest

lemma repair_sublist (store : SeatsFile) :
    (repairOrderedDuplicateBindings store).rows <+ store.rows := by
  have hfold : ∀ (worktrees : List String) (repaired : SeatsFile),
      (worktrees.foldl (fun repaired worktree =>
        repairWorktree (store.rows.filter (bound worktree)) repaired) repaired).rows <+
          repaired.rows := by
    intro worktrees
    induction worktrees with
    | nil => exact fun _ => Sublist.refl _
    | cons worktree worktrees ih =>
      intro repaired
      refine (ih _).trans ?_
      dsimp only
      unfold repairWorktree
      split
      · exact Sublist.refl _
      · exact filter_sublist
  exact hfold _ store

/-- The repair does not touch what is not ACTIVE. -/
lemma find?_repair {store : SeatsFile} {p : String × SeatRecord → Bool}
    (hp : ∀ e, p e = true → e.2.state = .pending) :
    (repairOrderedDuplicateBindings store).rows.find? p = store.rows.find? p := by
  refine Table.find?_of_sublist (repair_sublist store) store.unique.of_map ?_
  intro e he hpe
  refine mem_repair.mpr ⟨he, fun w newest hw _ => ?_⟩
  rw [bound_iff, hp e hpe] at hw
  cases hw.1

/-- Another ACTIVE entry of the worktree is the newest by its order. -/
def Superseded (store : SeatsFile) (e : String × SeatRecord) : Prop :=
  ∃ w newest, bound w e = true ∧ newest ≠ e ∧ newest ∈ repairOrderedDuplicateBindings store ∧
    Newest (store.rows.filter (bound w)) newest

/-- The repair loses nothing but what is superseded. -/
lemma repair_keeps {store : SeatsFile} {e : String × SeatRecord} (he : e ∈ store) :
    e ∈ repairOrderedDuplicateBindings store ∨ Superseded store e := by
  by_cases h : e ∈ repairOrderedDuplicateBindings store
  · exact Or.inl h
  · right
    rw [mem_repair] at h
    simp only [he, true_and, not_forall] at h
    obtain ⟨w, newest, hw, hnewest, hne⟩ := h
    have hspec := newestBinding_eq_some hnewest
    obtain ⟨hmem, hbound⟩ := mem_filter.mp hspec.1
    refine ⟨w, newest, hw, fun heq => hne (by rw [heq]), mem_repair.mpr ⟨hmem, ?_⟩, hspec⟩
    intro w' newest' hw' hnewest'
    obtain rfl : w' = w := by
      have hworktree := (bound_iff.mp hw').2
      rw [(bound_iff.mp hbound).2] at hworktree
      exact (Option.some.inj hworktree).symm
    rw [hnewest] at hnewest'
    rw [Option.some.inj hnewest']

/-- Two ACTIVE entries of one worktree have no order. -/
def Plain (store : SeatsFile) : Prop :=
  ∀ e ∈ store, ∀ o ∈ store, e ≠ o → ∀ w, bound w e = true → bound w o = true →
    e.2.bindingOrder = none

/-- No two ACTIVE entries of one worktree have the same order. -/
def Untied (store : SeatsFile) : Prop :=
  ∀ e ∈ store, ∀ o ∈ store, e ≠ o → ∀ w, bound w e = true → bound w o = true →
    ∀ n, e.2.bindingOrder = some n → o.2.bindingOrder ≠ some n

/-- The repair has nothing to do in a plain store. -/
lemma Plain.repair_eq {store : SeatsFile} (h : Plain store) :
    repairOrderedDuplicateBindings store = store := by
  have hnone : ∀ w, newestBinding (store.rows.filter (bound w)) = none := by
    intro w
    cases hnewest : newestBinding (store.rows.filter (bound w)) with
    | none => rfl
    | some newest =>
      obtain ⟨hmem, n, hn, -⟩ := newestBinding_eq_some hnewest
      have hlen : 2 ≤ (store.rows.filter (bound w)).length := by
        by_contra hlt
        unfold newestBinding at hnewest
        rw [if_pos (by omega)] at hnewest
        cases hnewest
      have hnodup : (store.rows.filter (bound w)).Nodup :=
        (Nodup.of_map _ store.unique).filter _
      obtain ⟨o, ho, hne⟩ : ∃ o ∈ store.rows.filter (bound w), o ≠ newest := by
        by_contra hall
        push Not at hall
        have hsub : (store.rows.filter (bound w)).length ≤ [newest].length :=
          (hnodup.subperm (fun o ho => by simp [hall o ho])).length_le
        simp at hsub
        omega
      obtain ⟨hmem, hbound⟩ := mem_filter.mp hmem
      obtain ⟨ho, hobound⟩ := mem_filter.mp ho
      have hnoOrder := h newest hmem o ho hne.symm w hbound hobound
      rw [hn] at hnoOrder
      cases hnoOrder
  unfold repairOrderedDuplicateBindings
  induction boundWorktrees store with
  | nil => rfl
  | cons w worktrees ih =>
    rw [foldl_cons]
    have hw : repairWorktree (store.rows.filter (bound w)) store = store := by
      unfold repairWorktree
      rw [hnone w]
    rw [hw]
    exact ih

/-- Ties apart, a repaired store is plain. -/
lemma plain_of_repaired {raw : SeatsFile} (h : Untied (repairOrderedDuplicateBindings raw)) :
    Plain (repairOrderedDuplicateBindings raw) := by
  intro e he o ho hne w hwe hwo
  obtain ⟨heraw, hekeep⟩ := mem_repair.mp he
  obtain ⟨horaw, hokeep⟩ := mem_repair.mp ho
  -- two entries of the worktree survived, so it has no newest one
  have hnone : newestBinding (raw.rows.filter (bound w)) = none := by
    cases hnewest : newestBinding (raw.rows.filter (bound w)) with
    | none => rfl
    | some newest =>
      have hsame : e.1 = o.1 := (hekeep w newest hwe hnewest).trans (hokeep w newest hwo hnewest).symm
      exact absurd (Table.eq_of_key heraw horaw hsame) hne
  have hkept : ∀ c ∈ raw, bound w c = true → c ∈ repairOrderedDuplicateBindings raw := by
    intro c hc hwc
    refine mem_repair.mpr ⟨hc, ?_⟩
    intro w' newest hw' hnewest
    obtain rfl : w' = w := by
      have hworktree := (bound_iff.mp hw').2
      rw [(bound_iff.mp hwc).2] at hworktree
      exact (Option.some.inj hworktree).symm
    rw [hnone] at hnewest
    cases hnewest
  have hlen : ¬ (raw.rows.filter (bound w)).length < 2 := by
    intro hlt
    have hemem : e ∈ raw.rows.filter (bound w) := mem_filter.mpr ⟨heraw, hwe⟩
    have homem : o ∈ raw.rows.filter (bound w) := mem_filter.mpr ⟨horaw, hwo⟩
    match hrows : raw.rows.filter (bound w) with
    | [] => simp [hrows] at hemem
    | [c] =>
      rw [hrows, mem_singleton] at hemem homem
      exact hne (hemem.trans homem.symm)
    | _ :: _ :: _ =>
      rw [hrows] at hlt
      simp at hlt
  unfold newestBinding at hnone
  rw [if_neg hlen] at hnone
  dsimp only at hnone
  split at hnone
  · rename_i hdup
    -- a repeated order is a tie the repair left in place
    exfalso
    apply hdup
    refine Nodup.map_on ?_ (((Nodup.of_map _ raw.unique).filter _).filter _)
    intro c hc d hd horder
    by_contra hcd
    obtain ⟨hc, hcsome⟩ := mem_filter.mp hc
    obtain ⟨hd, -⟩ := mem_filter.mp hd
    obtain ⟨hc, hwc⟩ := mem_filter.mp hc
    obtain ⟨hd, hwd⟩ := mem_filter.mp hd
    obtain ⟨n, hn⟩ := Option.isSome_iff_exists.mp hcsome
    exact h c (hkept c hc hwc) d (hkept d hd hwd) hcd w hwc hwd n hn (horder ▸ hn)
  · split at hnone
    · rename_i hordered
      by_contra hsome
      have hmem : e ∈ (raw.rows.filter (bound w)).filter (fun e => e.2.bindingOrder.isSome) :=
        mem_filter.mpr ⟨mem_filter.mpr ⟨heraw, hwe⟩, Option.isSome_iff_ne_none.mpr hsome⟩
      rw [hordered] at hmem
      cases hmem
    · cases hnone

end BorgClient.Seats
