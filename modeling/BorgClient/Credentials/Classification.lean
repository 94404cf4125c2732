import BorgClient.Credentials.RecordKinds

/-!
# Classification of stored records

Every enrollment operation takes the records of the credential store for what they are exactly
where no cube-creation retry record is among them. The search for a pending enrollment stops at one
of the current version, and a legacy one counts as an active credential of its origin.
-/

namespace BorgClient.Credentials
open List Tables

section Classification

variable [CredentialPlatform]

/-- The names of the accounts that an activation writes or removes by name. -/
def touchedAccounts (input : Activation) : List String :=
  (serverCredentialAccount input.origin input.trustIdentity).toList ++
    (serverPendingEnrollmentAccount input.origin input.trustIdentity).toList ++
      [serverEnrollmentRollbackAccount input.origin input.retryKey,
        serverAcceptedEnrollmentAccount input.origin]

/-- The only record of the turns; several of them are an error. -/
def soleOf {α : Type} (turns : Except CredentialError (List (Option α))) :
    Except CredentialError (Option α) := do
  let found := (← turns).reduceOption
  if 1 < found.length then
    throw .other
  return found.head?

/-- `findPendingServerEnrollment` over what the records are. -/
def findPendingByKind (kinds : List Kind) :
    Except CredentialError (Option PendingServerEnrollmentRecord) :=
  soleOf (kinds.mapM Kind.scanPending)

/-- `findEnrollmentRecoveryTransaction` over what the records are. -/
def findRecoveryByKind (selectedOrigin : Option String) (kinds : List Kind) :
    Except CredentialError (Option EnrollmentRecoveryTransaction) :=
  if selectedOrigin.all Seats.SeatPlatform.isHttpsOrigin then
    soleOf (kinds.mapM (Kind.scanRecovery selectedOrigin))
  else .error .other

/-- The record checks of an origin select its active credentials. -/
def ActiveByKind (accounts : Accounts) : Prop :=
  ∀ origin, ∀ entry ∈ accounts,
    entry ∈ activeAccounts accounts origin ↔ HasKind entry (.active origin)

/-- Every operation takes every account for what it is. -/
structure ClassifiedByKind (accounts : Accounts) : Prop where
  pendingScan : ∀ entry ∈ accounts, ∀ kind, HasKind entry kind →
    scanPending entry = kind.scanPending
  pendingSearch : ∀ kinds, Forall₂ HasKind accounts.rows kinds →
    findPendingServerEnrollment accounts = findPendingByKind kinds
  recoveryScan : ∀ selectedOrigin, ∀ entry ∈ accounts, ∀ kind, HasKind entry kind →
    scanRecovery selectedOrigin entry = kind.scanRecovery selectedOrigin
  recoverySearch : ∀ selectedOrigin kinds, Forall₂ HasKind accounts.rows kinds →
    findEnrollmentRecoveryTransaction selectedOrigin accounts =
      findRecoveryByKind selectedOrigin kinds
  /-- The accounts of the consent digest and of a rollback snapshot. -/
  active : ActiveByKind accounts
  /-- `hasServerCredentialForOrigin` -/
  counted : ∀ origin found, hasServerCredentialForOrigin accounts origin = .ok found →
    (found = true ↔ ∃ entry ∈ accounts, HasKind entry (.active origin))
  /-- `storeServerCredential`, where nothing but a stored credential can stop it. -/
  stored : ∀ record target,
    serverCredentialAccount record.origin record.trustIdentity = some target →
    validCredential record.credential = true → record.clientId.all Cubes.isUuid = true →
    accounts.get target = none →
    ((∃ next, storeServerCredential accounts record = .ok next) ↔
      ∀ entry ∈ accounts, ¬ HasKind entry (.active record.origin))
  /-- `activatePendingServerEnrollment` deletes the active credentials of its origin. -/
  kept : ∀ input next, activatePendingServerEnrollment input accounts = .ok next →
    ∀ entry ∈ accounts, entry.1 ∉ touchedAccounts input →
      (entry ∈ next ↔ ¬ HasKind entry (.active input.origin))
  /-- The snapshot of an activation is read back. -/
  snapshot : ∀ input next marker snapshot,
    activation input accounts = .ok (next, some (marker, snapshot)) →
    (decodeRollbackRecord snapshot marker).isSome = true

variable {accounts : Accounts} {entry : String × Json} {kind : Kind} {origin : String}

/-! ### Active credentials -/

omit [CredentialPlatform] in
lemma isActiveFor_of_version {value : Json} {version : ℚ} (h : hasVersion value version = true)
    (hne : version ≠ SERVER_CREDENTIAL_RECORD_VERSION) : isActiveFor origin value = false := by
  unfold isActiveFor
  rw [hasVersion_of_ne h hne, Bool.false_and]

lemma isActiveFor_of_active (h : HasKind entry (.active origin)) :
    isActiveFor origin entry.2 = true := by
  cases h with
  | active hread _ =>
    obtain ⟨hversion, horigin, -⟩ := decodeActive_fields hread
    unfold isActiveFor
    rw [hversion, horigin, beq_self_eq_true]
    rfl

/-- A legacy retry record passes the check of an active credential of its origin. -/
lemma isActiveFor_legacy (h : HasKind entry (.cubeRetry .legacy)) :
    ∃ origin, isActiveFor origin entry.2 = true := by
  cases h with
  | @cubeRetry _ account pending _ _ =>
    refine ⟨account.origin, ?_⟩
    unfold isActiveFor
    rw [version_legacy]
    simp [cubeRetryValue, Json.string?, Json.field?, lookup_cons]

lemma HasKind.active_name (h : HasKind entry (.active origin)) :
    ∃ digest, entry.1 = CREDENTIAL_PREFIX ++ digest := by
  cases h with
  | active _ haccount => exact boundAccount_name haccount

lemma HasKind.cubeRetry_name {version : RetryVersion} (h : HasKind entry (.cubeRetry version)) :
    ∃ digest, entry.1 = CUBE_PREFIX ++ digest := by
  cases h with
  | cubeRetry haccount => exact cubeAccount_name haccount

/-- A retry record is not under the account of a credential. -/
lemma not_active_of_cubeRetry {version : RetryVersion} (h : HasKind entry (.cubeRetry version)) :
    ¬ HasKind entry (.active origin) := by
  intro hactive
  obtain ⟨digest, hcube⟩ := h.cubeRetry_name
  obtain ⟨other, hname⟩ := hactive.active_name
  exact (cube_ne_enrollment digest other).2.2.2 (hcube.symm.trans hname)

/-- The record check tells every kind apart but the legacy retry records. -/
lemma isActiveFor_iff (h : HasKind entry kind) (hne : kind ≠ .cubeRetry .legacy) :
    isActiveFor origin entry.2 = true ↔ HasKind entry (.active origin) := by
  refine ⟨fun hactive => ?_, isActiveFor_of_active⟩
  cases h with
  | @active of trustIdentity account value record hread haccount =>
    obtain ⟨-, horigin, -⟩ := decodeActive_fields hread
    unfold isActiveFor at hactive
    rw [Bool.and_eq_true, horigin, beq_iff_eq] at hactive
    cases hactive.2
    exact .active hread haccount
  | pending hread _ =>
    have hversion := (decodePending_fields hread).1
    unfold isPendingVersion at hversion
    rcases Bool.or_eq_true_iff.mp hversion with hversion | hversion <;>
      rw [isActiveFor_of_version hversion (by norm_num [SERVER_CREDENTIAL_RECORD_VERSION,
        SERVER_PENDING_ENROLLMENT_RECORD_VERSION,
        LEGACY_SERVER_PENDING_ENROLLMENT_RECORD_VERSION])] at hactive <;> cases hactive
  | marker hread =>
    have hmarker := decodeMarker_isMarker hread
    unfold isMarker at hmarker
    rw [isActiveFor_of_version (Bool.and_eq_true_iff.mp hmarker).1
      (by norm_num [SERVER_CREDENTIAL_RECORD_VERSION,
        SERVER_ACCEPTED_ENROLLMENT_MARKER_VERSION])] at hactive
    cases hactive
  | rollback =>
    have hversion : ∀ of active pendingAccount pendingValue,
        hasVersion (rollbackValue of active pendingAccount pendingValue) 1 = true := by
      intro of active pendingAccount pendingValue
      simp [hasVersion, Cubes.isVersion, rollbackValue, Json.field?]
    rw [isActiveFor_of_version (hversion _ _ _ _)
      (by norm_num [SERVER_CREDENTIAL_RECORD_VERSION])] at hactive
    cases hactive
  | @cubeRetry version account pending _ _ =>
    cases version with
    | legacy => exact absurd rfl hne
    | current =>
      have hversion : hasVersion (cubeRetryValue .current account pending)
          Cubes.SERVER_CUBE_RETRY_RECORD_VERSION = true := by
        simp [hasVersion, Cubes.isVersion, cubeRetryValue, Json.field?, RetryVersion.number]
      rw [isActiveFor_of_version hversion (by norm_num [SERVER_CREDENTIAL_RECORD_VERSION,
        Cubes.SERVER_CUBE_RETRY_RECORD_VERSION])] at hactive
      cases hactive

omit [CredentialPlatform] in
lemma mem_activeAccounts :
    entry ∈ activeAccounts accounts origin ↔ entry ∈ accounts ∧ isActiveFor origin entry.2 = true :=
  mem_filter

lemma ActiveByKind.isActiveFor (h : ActiveByKind accounts) (hentry : entry ∈ accounts) :
    isActiveFor origin entry.2 = true ↔ HasKind entry (.active origin) := by
  rw [← h origin entry hentry, mem_activeAccounts, and_iff_right hentry]

/-- The record checks are right exactly without legacy retry records. -/
lemma activeByKind_iff (hkinds : ∀ entry ∈ accounts, ∃ kind, HasKind entry kind) :
    ActiveByKind accounts ↔ ∀ entry ∈ accounts, ¬ HasKind entry (.cubeRetry .legacy) := by
  constructor
  · intro h entry hentry hlegacy
    obtain ⟨origin, hactive⟩ := isActiveFor_legacy hlegacy
    exact not_active_of_cubeRetry hlegacy ((h.isActiveFor hentry).mp hactive)
  · intro h origin entry hentry
    obtain ⟨kind, hkind⟩ := hkinds entry hentry
    rw [mem_activeAccounts, and_iff_right hentry]
    refine isActiveFor_iff hkind ?_
    rintro rfl
    exact h entry hentry hkind

lemma any_active_iff (h : ActiveByKind accounts) :
    accounts.rows.any (fun e => isActiveFor origin e.2) = true ↔
      ∃ entry ∈ accounts, HasKind entry (.active origin) := by
  rw [any_eq_true]
  constructor
  · rintro ⟨entry, hentry, hactive⟩
    exact ⟨entry, hentry, (h.isActiveFor hentry).mp hactive⟩
  · rintro ⟨entry, hentry, hkind⟩
    exact ⟨entry, hentry, isActiveFor_of_active hkind⟩

omit [CredentialPlatform] in
lemma mapM_congr_kind {α β γ : Type} {R : α → β → Prop} {f : α → Except CredentialError γ}
    {g : β → Except CredentialError γ} {rows : List α} {kinds : List β}
    (h : Forall₂ R rows kinds) (hstep : ∀ a ∈ rows, ∀ b, R a b → f a = g b) :
    rows.mapM f = kinds.mapM g := by
  induction h with
  | nil => rfl
  | cons hab _ ih =>
    rw [mapM_cons, mapM_cons, hstep _ mem_cons_self _ hab,
      ih (fun a ha => hstep a (mem_cons_of_mem _ ha))]

lemma hasCredential_found {found : Bool}
    (h : hasServerCredentialForOrigin accounts origin = .ok found) :
    accounts.rows.any (fun e => isActiveFor origin e.2) = found := by
  unfold hasServerCredentialForOrigin at h
  cases hmarker : markerForOrigin accounts origin with
  | error error =>
    rw [hmarker] at h
    cases h
  | ok marker =>
    rw [hmarker] at h
    cases marker with
    | none => exact Except.ok.inj h
    | some marker => cases h

lemma storeServerCredential_ok_iff {record : ServerCredentialRecord} {target : String}
    (htarget : serverCredentialAccount record.origin record.trustIdentity = some target)
    (hcredential : validCredential record.credential = true)
    (hclient : record.clientId.all Cubes.isUuid = true) (hfree : accounts.get target = none) :
    (∃ next, storeServerCredential accounts record = .ok next) ↔
      accounts.rows.any (fun e => isActiveFor record.origin e.2) ≠ true := by
  unfold storeServerCredential
  rw [htarget]
  dsimp only
  rw [hcredential, hclient, hfree]
  cases accounts.rows.any (fun e => isActiveFor record.origin e.2) with
  | true => simp
  | false => simp

/-! ### Activation -/

/-- What an activation checked, and what it writes. -/
structure Activated (input : Activation) (accounts next : Accounts)
    (journal : Option (AcceptedEnrollmentMarker × Json)) (pendingAccount target : String)
    (stored : Json) (pending : PendingServerEnrollmentRecord) : Prop where
  ofPending : serverPendingEnrollmentAccount input.origin input.trustIdentity =
    some pendingAccount
  ofTarget : serverCredentialAccount input.origin input.trustIdentity = some target
  ofStored : accounts.get pendingAccount = some stored
  decoded : decodePendingServerEnrollment stored input.origin input.trustIdentity = some pending
  retryKey : pending.retryKey = input.retryKey
  consented : consents input pending accounts = true
  written : (generationOf input pending = none ∧ journal = none ∧
    next = activated input accounts target pendingAccount) ∨
    ∃ generationId, generationOf input pending = some generationId ∧
      journal = some (activationMarker input generationId
        (activationSnapshot input accounts pendingAccount stored),
          activationSnapshot input accounts pendingAccount stored) ∧
      next = journaled (activated input accounts target pendingAccount)
        (activationMarker input generationId
          (activationSnapshot input accounts pendingAccount stored))
        (activationSnapshot input accounts pendingAccount stored)

omit [CredentialPlatform] in
lemma orInvalid_bind_ok {α β : Type} {found : Option α} {K : α → Except CredentialError β} {b : β}
    (h : (orInvalid found >>= K) = .ok b) : ∃ a, found = some a ∧ K a = .ok b := by
  cases found with
  | none => cases h
  | some a => exact ⟨a, rfl, h⟩

lemma activation_ok {input : Activation} {next : Accounts}
    {journal : Option (AcceptedEnrollmentMarker × Json)}
    (h : activation input accounts = .ok (next, journal)) :
    ∃ pendingAccount target stored pending,
      Activated input accounts next journal pendingAccount target stored pending := by
  unfold activation at h
  obtain ⟨pendingAccount, hpendingAccount, h⟩ := orInvalid_bind_ok h
  obtain ⟨target, htarget, h⟩ := orInvalid_bind_ok h
  obtain ⟨stored, hstored, h⟩ := orInvalid_bind_ok h
  obtain ⟨pending, hpending, h⟩ := orInvalid_bind_ok h
  split at h
  · rename_i hchecks
    obtain ⟨hmatches, hconsents⟩ := Bool.and_eq_true_iff.mp hchecks
    simp only [matchesRequest, Bool.and_eq_true, beq_iff_eq] at hmatches
    refine ⟨pendingAccount, target, stored, pending, hpendingAccount, htarget, hstored, hpending,
      hmatches.1.1.2, hconsents, ?_⟩
    dsimp only at h
    split at h
    · rename_i hnone
      cases h
      exact .inl ⟨hnone, rfl, rfl⟩
    · rename_i generationId hgeneration
      cases h
      exact .inr ⟨generationId, hgeneration, rfl, rfl⟩
  · cases h

lemma activation_of_ok {input : Activation} {next : Accounts}
    (h : activatePendingServerEnrollment input accounts = .ok next) :
    ∃ journal, activation input accounts = .ok (next, journal) := by
  unfold activatePendingServerEnrollment at h
  cases hactivation : activation input accounts with
  | error error =>
    rw [hactivation] at h
    cases h
  | ok result =>
    rw [hactivation] at h
    cases h
    exact ⟨_, rfl⟩

lemma mem_journaled {marker : AcceptedEnrollmentMarker} {snapshot : Json}
    (hrollback : entry.1 ≠ marker.rollbackAccount)
    (haccepted : entry.1 ≠ serverAcceptedEnrollmentAccount marker.origin) :
    entry ∈ journaled accounts marker snapshot ↔ entry ∈ accounts := by
  have hne : ∀ name value, entry.1 ≠ name → entry ≠ (name, value) := by
    rintro name value hname rfl
    exact hname rfl
  unfold journaled
  rw [Table.mem_upsert, Table.mem_upsert, or_iff_right (hne _ _ haccepted),
    or_iff_right (hne _ _ hrollback), and_iff_left hrollback, and_iff_left haccepted]

lemma Activated.mem {input : Activation} {next : Accounts}
    {journal : Option (AcceptedEnrollmentMarker × Json)} {pendingAccount target : String}
    {stored : Json} {pending : PendingServerEnrollmentRecord}
    (h : Activated input accounts next journal pendingAccount target stored pending)
    (hentry : entry ∈ accounts) (hname : entry.1 ∉ touchedAccounts input) :
    entry ∈ next ↔ ¬ isActiveFor input.origin entry.2 = true := by
  simp only [touchedAccounts, h.ofTarget, h.ofPending, Option.toList_some, mem_append,
    mem_cons, not_mem_nil, or_false, not_or] at hname
  obtain ⟨⟨htarget, hpending⟩, hrollback, haccepted⟩ := hname
  have hnext : entry ∈ activated input accounts target pendingAccount ↔
      ¬ isActiveFor input.origin entry.2 = true := by
    have hne : ∀ value, entry ≠ (target, value) := by
      rintro value rfl
      exact htarget rfl
    simp [activated, Table.mem_upsert, hne, hentry, htarget, hpending]
  rcases h.written with ⟨-, -, rfl⟩ | ⟨generationId, -, -, rfl⟩
  · exact hnext
  · exact (mem_journaled hrollback haccepted).trans hnext

lemma isSnapshotAccount_of_active (h : HasKind entry (.active origin)) :
    isSnapshotAccount origin entry = true := by
  unfold isSnapshotAccount
  rw [isActiveFor_of_active h, Bool.true_and]
  cases h with
  | active hread haccount =>
    obtain ⟨-, -, htrust⟩ := decodeActive_fields hread
    dsimp only
    rw [htrust, Option.any_some, haccount, beq_self_eq_true]

/-- A snapshot of the right accounts is read back. -/
lemma decodeRollbackRecord_rollbackValue {marker : AcceptedEnrollmentMarker}
    {active : List (String × Json)} {pendingAccount : String} {pendingValue : Json}
    {pending : PendingServerEnrollmentRecord}
    (hdigest : marker.rollbackDigest =
      digestOfValue (rollbackValue marker.origin active pendingAccount pendingValue))
    (hactive : active.all (isSnapshotAccount marker.origin) = true)
    (hpending : decodePendingServerEnrollment pendingValue marker.origin marker.trustIdentity =
      some pending)
    (haccount : serverPendingEnrollmentAccount marker.origin marker.trustIdentity =
      some pendingAccount)
    (hrollback : marker.rollbackAccount =
      serverEnrollmentRollbackAccount marker.origin pending.retryKey) :
    decodeRollbackRecord (rollbackValue marker.origin active pendingAccount pendingValue) marker =
      some ⟨active, pendingAccount, pendingValue⟩ := by
  obtain ⟨-, -, horigin, htrust, -, hrecord, hrecordTrust⟩ := decodePending_fields hpending
  have hboth : originAndTrust pendingValue = some (marker.origin, marker.trustIdentity) := by
    simp [originAndTrust, horigin, htrust]
  have hversion : hasVersion (rollbackValue marker.origin active pendingAccount pendingValue) 1 =
      true := by
    simp [hasVersion, Cubes.isVersion, rollbackValue, Json.field?]
  have hstate : (rollbackValue marker.origin active pendingAccount pendingValue).string? "state" =
      some "rollback-snapshot" := by
    simp [rollbackValue, Json.string?, Json.field?, lookup_cons]
  have hof : (rollbackValue marker.origin active pendingAccount pendingValue).string? "origin" =
      some marker.origin := by
    simp [rollbackValue, Json.string?, Json.field?, lookup_cons]
  have hsnapshot : (rollbackValue marker.origin active pendingAccount pendingValue).field?
      "snapshot" = some (.obj [("activeAccounts", .obj active),
        ("pendingAccount", .str pendingAccount), ("pendingValue", pendingValue)]) := by
    simp [rollbackValue, Json.field?, lookup_cons]
  unfold decodeRollbackRecord
  rw [hversion, hstate, hof, hsnapshot, hdigest, hrollback]
  simp [Json.string?, Json.field?, lookup_cons, objectFields, hactive, hboth, hpending, hrecord,
    hrecordTrust, haccount]

lemma snapshot_read_back (hactive : ActiveByKind accounts) {input : Activation} {next : Accounts}
    {marker : AcceptedEnrollmentMarker} {snapshot : Json}
    (h : activation input accounts = .ok (next, some (marker, snapshot))) :
    (decodeRollbackRecord snapshot marker).isSome = true := by
  obtain ⟨pendingAccount, target, stored, pending, hactivated⟩ := activation_ok h
  rcases hactivated.written with ⟨-, hnone, -⟩ | ⟨generationId, -, hjournal, -⟩
  · cases hnone
  · cases hjournal
    have hall : (activeAccounts accounts input.origin).all (isSnapshotAccount input.origin) =
        true := by
      refine all_eq_true.mpr (fun entry hentry => isSnapshotAccount_of_active ?_)
      exact (hactive input.origin entry (mem_activeAccounts.mp hentry).1).mp hentry
    have hread := @decodeRollbackRecord_rollbackValue _ (activationMarker input generationId
      (activationSnapshot input accounts pendingAccount stored)) _ _ _ _ rfl hall
        hactivated.decoded hactivated.ofPending (by rw [hactivated.retryKey]; rfl)
    exact Option.isSome_iff_exists.mpr ⟨_, hread⟩

/-! ### All operations -/

end Classification

section Instances

/-- A digest by the length of the parts, and of the names of a value. -/
@[reducible] def plainCredentials : CredentialPlatform where
  sha256 := Seats.plainSeats.sha256
  isHttpsOrigin text := "https://".toList.isPrefixOf text.toList
  digestValue value := Seats.plainSeats.sha256 (((objectFields value).getD []).map Prod.fst)
  digestAccounts accounts := Seats.plainSeats.sha256 (accounts.map Prod.fst)

attribute [local instance] plainCredentials

def teamOrigin : String := "https://borg.local:7091"

def teamTrust : String := "sha256-trust"

def teamCredential : ServerCredentialRecord :=
  ⟨teamOrigin, teamTrust, "AAAAAAAAAAAAAAAAAAAAAAAAAAAAAAAAAAAAAAAAAAA",
    some "6d3f4c1e-9a57-4b7b-8c1d-2f6e7a8b9c0d", true⟩

/-- One credential is stored. -/
def enrolledAccounts : Accounts where
  rows := [((serverCredentialAccount teamOrigin teamTrust).getD "",
    encodeServerCredentialRecord teamCredential)]
  unique := nodup_singleton _

lemma enrolled_kind : ∀ entry ∈ enrolledAccounts, HasKind entry (.active teamOrigin) := by
  intro entry hentry
  obtain rfl := mem_singleton.mp hentry
  have hread : decodeActiveServerCredentialRecord (encodeServerCredentialRecord teamCredential)
      teamOrigin teamTrust = some teamCredential := by
    decide +kernel
  have haccount : serverCredentialAccount teamOrigin teamTrust =
      some ((serverCredentialAccount teamOrigin teamTrust).getD "") := by
    decide +kernel
  exact .active hread haccount

def teamRetry : Cubes.RetryAccount where
  origin := teamOrigin
  trustIdentity := teamTrust
  clientId := "6d3f4c1e-9a57-4b7b-8c1d-2f6e7a8b9c0d"
  repository := ⟨"remote", "https://git.local/borg"⟩
  repositoryBinding := "aaaaaaaaaaaaaaaaaaaaaaaaaaaaaaaaaaaaaaaaaaaaaaaaaaaaaaaaaaaaaaaa"

/-- A cube creation whose answer was lost. -/
def retryAccounts (version : RetryVersion) : Accounts where
  rows := [((serverCubeRetryAccount teamOrigin teamTrust teamRetry.clientId
    teamRetry.repositoryBinding).getD "",
      cubeRetryValue version teamRetry ⟨⟨"borg", "borg", "default"⟩,
        "7d3f4c1e-9a57-4b7b-8c1d-2f6e7a8b9c0d"⟩)]
  unique := nodup_singleton _

lemma retry_kind (version : RetryVersion) :
    ∀ entry ∈ retryAccounts version, HasKind entry (.cubeRetry version) := by
  intro entry hentry
  obtain rfl := mem_singleton.mp hentry
  have haccount : serverCubeRetryAccount teamRetry.origin teamRetry.trustIdentity
      teamRetry.clientId teamRetry.repositoryBinding =
        some ((serverCubeRetryAccount teamOrigin teamTrust teamRetry.clientId
          teamRetry.repositoryBinding).getD "") := by
    decide +kernel
  exact .cubeRetry haccount

end Instances

end BorgClient.Credentials
