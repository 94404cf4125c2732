import BorgClient.Lib.Tables
import BorgClient.Lib.Utf8
import BorgClient.Assimilation.Flow
import BorgClient.Cubes.Initialization

/-!
# The repository identity store

`parseState`, `withIdentityState` and the three calls of `repository-identity.ts`, with the derived
name of `resolveGitRepositoryContext`. The file holds what `JSON.stringify` wrote of a state.
-/

namespace BorgClient.Cubes
open List Tables
open Assimilation (RoleText roleSlug)

/-- `createHmac` in hex, of the secret, the purpose and the value. -/
class IdentityPlatform where
  digest : String → String → String → String

/-! ### Grammars -/

def isLowerHex (c : Char) : Bool := c.isDigit || ('a' ≤ c && c ≤ 'f')

def isHexDigit (c : Char) : Bool := isLowerHex c || ('A' ≤ c && c ≤ 'F')

/-- `/^[a-f0-9]{64}$/`. -/
def isDigest (text : String) : Bool := text.toList.length == 64 && text.toList.all isLowerHex

/-- `UUID_RE`: the third group begins with a 4, the fourth with one of `89ab`. -/
def matchesUuid (text : String) : Bool :=
  match text.toList.splitOn '-' with
  | [first, second, '4' :: third, variant :: fourth, fifth] =>
    first.length == 8 && first.all isHexDigit && second.length == 4 && second.all isHexDigit &&
      third.length == 3 && third.all isHexDigit && ['8', '9', 'a', 'b', 'A', 'B'].contains variant &&
      fourth.length == 3 && fourth.all isHexDigit && fifth.length == 12 && fifth.all isHexDigit
  | _ => false

def isAlphanumeric (c : Char) : Bool :=
  c.isDigit || ('a' ≤ c && c ≤ 'z') || ('A' ≤ c && c ≤ 'Z')

/-- `DISPLAY_NAME_RE`. -/
def matchesDisplayName (text : String) : Bool :=
  match text.toList with
  | [] => false
  | c :: rest =>
    isAlphanumeric c && rest.all (fun c => isAlphanumeric c || [' ', '.', '_', '-'].contains c)

/-- At most 120 bytes of a display name. -/
def isStoredName (text : String) : Bool :=
  decide (Utf8.byteLength text.toList ≤ 120) && matchesDisplayName text

/-- The name derived from a directory; none stands for the empty one. -/
def normalizeCubeName [RoleText] (raw : String) : String :=
  String.ofList ((roleSlug raw).toList.take 64)

/-! ### The file -/

abbrev LocalIdentities := Table (Prod.fst : String × String → String)

abbrev Associations := Table (Prod.fst : String × RepositoryAssociation → String)

structure RepositoryIdentityState where
  localIdentities : LocalIdentities
  associations : Associations

def emptyState : RepositoryIdentityState := ⟨⟨[], nodup_nil⟩, ⟨[], nodup_nil⟩⟩

structure IdentityStore where
  secret : Option String
  file : Option RepositoryIdentityState

inductive IdentityCall
  | getOrCreateRepositoryIdentity (commonDir : String)
    (publicRepository : Option CreateCubeRepository) (randomUUID : String)
  | getRepositoryAssociation (trustIdentity : String) (repository : CreateCubeRepository)
  | saveRepositoryAssociation (trustIdentity : String) (repository : CreateCubeRepository)
    (association : RepositoryAssociation)

inductive IdentityResult
  | repository (repository : CreateCubeRepository)
  | association (association : Option RepositoryAssociation)
  | saved
deriving DecidableEq

section Store

variable [CubePlatform] [IdentityPlatform]

def isLocalIdentity (entry : String × String) : Bool := isDigest entry.1 && matchesUuid entry.2

/-- The checks of an association, its template apart. -/
def hasStoredNames (association : RepositoryAssociation) : Bool :=
  matchesUuid association.cubeId && isStoredName association.name &&
    isStoredName association.workingRepoName

def isAssociation (entry : String × RepositoryAssociation) : Bool :=
  isDigest entry.1 && hasStoredNames entry.2 &&
    (entry.2.template == "default" || CubePlatform.templateNames.contains entry.2.template)

def isLegacy (entry : String × RepositoryAssociation) : Bool := entry.2.template == "default"

/-- The state and whether an association of the removed template was dropped. -/
def parseState : Option RepositoryIdentityState → Option (RepositoryIdentityState × Bool)
  | none => some (emptyState, false)
  | some state =>
    if state.localIdentities.rows.all isLocalIdentity && state.associations.rows.all isAssociation
    then some ({ state with associations := state.associations.delete isLegacy },
      state.associations.rows.any isLegacy)
    else none

/-- What an operation makes of the secret and the state: its result, the state and whether it is
to be written. -/
abbrev IdentityOperation :=
  String → RepositoryIdentityState → IdentityResult × RepositoryIdentityState × Bool

/-- Under the lock. A malformed secret or state refuses the call. -/
def withIdentityState (operation : IdentityOperation) (randomBytes : String)
    (store : IdentityStore) : Option IdentityResult × IdentityStore :=
  if store.secret.all isDigest then
    let secret := store.secret.getD randomBytes
    match parseState store.file with
    | none => (none, { store with secret := some secret })
    | some (state, migrated) =>
      let outcome := operation secret state
      (some outcome.1,
        ⟨some secret, if migrated || outcome.2.2 then some outcome.2.1 else store.file⟩)
  else (none, store)

def localKey (secret commonDir : String) : String :=
  IdentityPlatform.digest secret "git-common-dir" commonDir

def associationBinding (secret trustIdentity : String) (repository : CreateCubeRepository) :
    String :=
  IdentityPlatform.digest secret "association"
    (trustIdentity ++ "\x00" ++ repository.kind ++ "\x00" ++ repository.value)

def identityOperation : IdentityCall → IdentityOperation
  | .getOrCreateRepositoryIdentity commonDir _ randomUUID => fun secret state =>
    match state.localIdentities.find (localKey secret commonDir) with
    | some entry => (.repository ⟨"local", entry.2⟩, state, false)
    | none => (.repository ⟨"local", randomUUID⟩,
      { state with
        localIdentities :=
          state.localIdentities.upsert (localKey secret commonDir, randomUUID) }, true)
  | .getRepositoryAssociation trustIdentity repository => fun secret state =>
    (.association
      ((state.associations.find (associationBinding secret trustIdentity repository)).map Prod.snd),
      state, false)
  | .saveRepositoryAssociation trustIdentity repository association => fun secret state =>
    (.saved,
      { state with
        associations := state.associations.upsert
          (associationBinding secret trustIdentity repository, association) }, true)

/-- A call, with the bytes a missing secret is made of. A public repository is its own identity. -/
def identityCall (call : IdentityCall) (randomBytes : String) (store : IdentityStore) :
    Option IdentityResult × IdentityStore :=
  match call with
  | .getOrCreateRepositoryIdentity _ (some repository) _ => (some (.repository repository), store)
  | call => withIdentityState (identityOperation call) randomBytes store

def identityAnswer (store : IdentityStore) (call : IdentityCall × String) : Option IdentityResult :=
  (identityCall call.1 call.2 store).1

def identityStep (store : IdentityStore) (call : IdentityCall × String) : IdentityStore :=
  (identityCall call.1 call.2 store).2

/-- The association is within the reader's grammar. -/
def IdentityCall.Readable : IdentityCall → Prop
  | .saveRepositoryAssociation _ _ association => hasStoredNames association = true
  | _ => True

/-- The identity of a repository without a public one. -/
def localIdentity (commonDir randomUUID randomBytes : String) : IdentityCall × String :=
  (.getOrCreateRepositoryIdentity commonDir none randomUUID, randomBytes)

end Store

end BorgClient.Cubes
