import BorgClient.Lib.Faults
import BorgClient.Credentials.Consent

/-!
# Committing an enrollment

`commitTrust`, `recoverAcceptedEnrollment` and `restoreBorgServerEnrollment` of `server-trust.ts`
over the two resources they write: the trust pointer of the origin and the accounts. A run is a
commit and any number of later attempts to recover, each with the fates of its calls.
-/

namespace BorgClient.Credentials
open List Tables Faults

/-- The calls of the programs. -/
inductive Site
  | readPointer
  | readLegacy
  | migrate
  | activate
  | readMarker
  | publish
  | readGeneration
  | finalize
  | rereadMarker
  | readPrevious
  | rollBackPointer
  | rereadPointer
  | restore
deriving DecidableEq, Repr

structure TrustWorld where
  /-- The pointer file of the origin. -/
  pointer : Option EnrollmentTrustPointer
  /-- The pointer that the trust files of an older client migrate to. -/
  legacy : Option EnrollmentTrustPointer
  /-- The identity of a generation that is on disk and verifies. -/
  generations : String → Option String
  accounts : Accounts

abbrev TrustAct := Act TrustWorld Site

/-- The pointer that a load of the trust goes by. -/
def TrustWorld.current (w : TrustWorld) : Option EnrollmentTrustPointer := w.pointer.or w.legacy

/-! ### Pointers -/

def readTrustPointer (site : Site) : TrustAct (Option EnrollmentTrustPointer) :=
  .read site (fun w => some w.pointer)

def publishTrustPointer (site : Site) (pointer : EnrollmentTrustPointer) : TrustAct Unit :=
  .write site (fun w => some { w with pointer := some pointer })

def removeTrustPointer (site : Site) : TrustAct Unit :=
  .write site (fun w => some { w with pointer := none })

def migrateLegacyRemoteTrust : TrustAct (Option EnrollmentTrustPointer) := do
  match ← Act.read .readLegacy (fun w => some w.legacy) with
  | none => return none
  | some pointer => do
    publishTrustPointer .migrate pointer
    return some pointer

/-- The pointer a commit starts from. -/
def previousTrustPointer : TrustAct (Option EnrollmentTrustPointer) := do
  match ← readTrustPointer .readPointer with
  | some pointer => return some pointer
  | none => migrateLegacyRemoteTrust

/-- A generation that is read and has the identity. -/
def readGeneration (site : Site) (generationId identity : String) : TrustAct Unit :=
  .read site (fun w => if w.generations generationId = some identity then some () else none)

section Commit

variable [CredentialPlatform]

/-! ### Accounts -/

def changeAccounts (site : Site) (operation : Accounts → Except CredentialError Accounts) :
    TrustAct Unit :=
  .write site (fun w =>
    (operation w.accounts).toOption.map (fun accounts => { w with accounts := accounts }))

def getAcceptedEnrollmentMarker (site : Site) (origin : String) :
    TrustAct (Option AcceptedEnrollmentMarker) :=
  .read site (fun w => (markerForOrigin w.accounts origin).toOption)

def getServerCredentialRecord (origin trustIdentity : String) (accounts : Accounts) :
    Except CredentialError (Option ServerCredentialRecord) := do
  if (← markerForOrigin accounts origin).isSome then throw .recovery
  let target ← orInvalid (serverCredentialAccount origin trustIdentity)
  return (accounts.get target).bind
    (fun stored => decodeActiveServerCredentialRecord stored origin trustIdentity)

/-! ### Programs -/

def restoreEnrollmentPointer (marker : AcceptedEnrollmentMarker) : TrustAct Unit := do
  match marker.previousPointer with
  | none => do
    removeTrustPointer .rollBackPointer
    match ← readTrustPointer .rereadPointer with
    | none => return ()
    | some _ => Act.throw
  | some previous => do
    readGeneration .readPrevious previous.generationId previous.trustIdentity
    publishTrustPointer .rollBackPointer previous
    match ← readTrustPointer .rereadPointer with
    | none => Act.throw
    | some restored =>
      if restored.generationId = previous.generationId then return () else Act.throw

/-- The rollback of a commit and of a recovery. -/
def rollBack (marker : AcceptedEnrollmentMarker) : TrustAct Unit := do
  restoreEnrollmentPointer marker
  changeAccounts .restore (restoreAcceptedEnrollmentAccounts marker)

/-- The staged generation of a commit, as the pointer to it. -/
def stagedPointer (input : Activation) (generationId : String) : EnrollmentTrustPointer :=
  ⟨input.origin, generationId, input.trustIdentity⟩

def publishAndFinalize (origin trustIdentity generationId : String) : TrustAct Unit := do
  publishTrustPointer .publish ⟨origin, generationId, trustIdentity⟩
  readGeneration .readGeneration generationId trustIdentity
  changeAccounts .finalize (finalizeAcceptedEnrollment origin trustIdentity generationId)

/-- `activate` is the activation of the enrollment that was answered. -/
def commitTrust (input : Activation) (generationId : String) : TrustAct Unit := do
  let previousPointer ← previousTrustPointer
  Act.catchWith (do
      changeAccounts .activate (activatePendingServerEnrollment
        { input with generationId := some generationId, previousPointer := previousPointer })
      match ← getAcceptedEnrollmentMarker .readMarker input.origin with
      | none => Act.throw
      | some accepted =>
        if accepted.generationId = generationId ∧ accepted.trustIdentity = input.trustIdentity then
          publishAndFinalize input.origin input.trustIdentity generationId
        else Act.throw)
    (do
      match ← getAcceptedEnrollmentMarker .rereadMarker input.origin with
      | none => Act.throw
      | some marker => do
        rollBack marker
        Act.throw)

def recoverAcceptedEnrollment (origin : String) : TrustAct Unit := do
  match ← getAcceptedEnrollmentMarker .readMarker origin with
  | none => return ()
  | some marker =>
    Act.catchWith (do
        readGeneration .readGeneration marker.generationId marker.trustIdentity
        publishTrustPointer .publish ⟨origin, marker.generationId, marker.trustIdentity⟩
        changeAccounts .finalize
          (finalizeAcceptedEnrollment origin marker.trustIdentity marker.generationId))
      (do
        rollBack marker
        Act.throw)

def restoreBorgServerEnrollment (expected : AcceptedEnrollmentMarker) : TrustAct Bool := do
  match ← getAcceptedEnrollmentMarker .readMarker expected.origin with
  | none => return false
  | some marker =>
    if marker = expected then do
      rollBack expected
      return true
    else return false

/-! ### Runs -/

/-- An attempt to recover, with the fates of its calls. -/
inductive RecoveryAttempt
  | recover (fates : Site → Fate)
  | restore (expected : AcceptedEnrollmentMarker) (fates : Site → Fate)

def RecoveryAttempt.run (origin : String) (w : TrustWorld) : RecoveryAttempt → TrustWorld
  | .recover fates => (recoverAcceptedEnrollment origin fates w).2
  | .restore expected fates =>
    if expected.origin = origin then (restoreBorgServerEnrollment expected fates w).2 else w

/-- A commit and the attempts after it. -/
def commitRun (input : Activation) (generationId : String) (fates : Site → Fate)
    (attempts : List RecoveryAttempt) (prior : TrustWorld) : TrustWorld :=
  attempts.foldl (RecoveryAttempt.run input.origin) (commitTrust input generationId fates prior).2

end Commit

end BorgClient.Credentials
