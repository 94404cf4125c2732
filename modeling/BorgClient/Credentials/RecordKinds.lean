import BorgClient.Credentials.Enrollments

/-!
# Kinds of stored records

Which operations tell the records of the credential store apart. A version number is shared: an
active credential and a legacy cube-creation retry record have version 2, a pending enrollment and a
cube-creation retry record version 3.
-/

namespace BorgClient.Credentials
open List Tables

/-- `LEGACY_SERVER_CUBE_RETRY_RECORD_VERSION`, `SERVER_CUBE_RETRY_RECORD_VERSION`. -/
inductive RetryVersion
  | legacy
  | current
deriving DecidableEq, Repr

def RetryVersion.number : RetryVersion → ℚ
  | legacy => Cubes.LEGACY_SERVER_CUBE_RETRY_RECORD_VERSION
  | current => Cubes.SERVER_CUBE_RETRY_RECORD_VERSION

def cubeRetryValue (version : RetryVersion) (account : Cubes.RetryAccount)
    (pending : Cubes.PendingCreation) : Json :=
  .obj [("version", .num version.number), ("state", .str "pending"),
    ("origin", .str account.origin), ("trustIdentity", .str account.trustIdentity),
    ("clientId", .str account.clientId), ("repositoryBinding", .str account.repositoryBinding),
    ("retryKey", .str pending.retryKey), ("name", .str pending.name),
    ("workingRepoName", .str pending.workingRepoName), ("template", .str pending.template)]

/-- The record that a cube creation writes. -/
lemma cubeRetryValue_current (account : Cubes.RetryAccount) (pending : Cubes.PendingCreation) :
    cubeRetryValue .current account pending = Cubes.pendingRecord account pending := rfl

/-- What a record is for, whatever its version number. -/
inductive Kind
  | active (origin : String)
  | pending (record : PendingServerEnrollmentRecord)
  | marker (marker : AcceptedEnrollmentMarker)
  | rollback
  | cubeRetry (version : RetryVersion)

section Kinds

variable [CredentialPlatform]

/-- The records the client writes or still supports, each under its own account. -/
inductive HasKind : String × Json → Kind → Prop
  | active {origin trustIdentity account : String} {value : Json} {record : ServerCredentialRecord}
      (hread : decodeActiveServerCredentialRecord value origin trustIdentity = some record)
      (haccount : serverCredentialAccount origin trustIdentity = some account) :
      HasKind (account, value) (.active origin)
  | pending {origin trustIdentity account : String} {value : Json}
      {record : PendingServerEnrollmentRecord}
      (hread : decodePendingServerEnrollment value origin trustIdentity = some record)
      (haccount : serverPendingEnrollmentAccount origin trustIdentity = some account) :
      HasKind (account, value) (.pending record)
  | marker {value : Json} {marker : AcceptedEnrollmentMarker}
      (hread : decodeAcceptedEnrollmentMarker value = some marker) :
      HasKind (serverAcceptedEnrollmentAccount marker.origin, value) (.marker marker)
  | rollback {origin retryKey pendingAccount : String} {active : List (String × Json)}
      {pendingValue : Json} :
      HasKind (serverEnrollmentRollbackAccount origin retryKey,
        rollbackValue origin active pendingAccount pendingValue) .rollback
  | cubeRetry {version : RetryVersion} {account : Cubes.RetryAccount}
      {pending : Cubes.PendingCreation} {name : String}
      (haccount : serverCubeRetryAccount account.origin account.trustIdentity account.clientId
        account.repositoryBinding = some name) :
      HasKind (name, cubeRetryValue version account pending) (.cubeRetry version)

/-- Whether the record is an active credential of the origin. -/
def Kind.isActiveFor (origin : String) : Kind → Bool
  | .active of => of == origin
  | _ => false

/-- What the search for a pending enrollment has to make of the record. -/
def Kind.scanPending : Kind → Except CredentialError (Option PendingServerEnrollmentRecord)
  | .pending record => .ok (some record)
  | .marker _ => .error .recovery
  | _ => .ok none

/-- What the search for an enrollment to recover has to make of the record. -/
def Kind.scanRecovery (selectedOrigin : Option String) :
    Kind → Except CredentialError (Option EnrollmentRecoveryTransaction)
  | .pending record =>
    .ok (if isSelected selectedOrigin record.origin then some (.pending record) else none)
  | .marker accepted =>
    .ok (if isSelected selectedOrigin accepted.origin then some (.accepted accepted) else none)
  | _ => .ok none

/-! ### Fields of the records -/

omit [CredentialPlatform] in
lemma hasVersion_of_ne {value : Json} {a b : ℚ} (h : hasVersion value a = true) (hne : a ≠ b) :
    hasVersion value b = false := by
  unfold hasVersion Cubes.isVersion at h ⊢
  split
  · rename_i version hversion
    rw [hversion] at h
    have hva : version = a := by simpa using h
    rw [hva]
    simpa using hne
  · rfl

omit [CredentialPlatform] in
lemma decodeActive_fields {value : Json} {origin trustIdentity : String}
    {record : ServerCredentialRecord}
    (h : decodeActiveServerCredentialRecord value origin trustIdentity = some record) :
    hasVersion value SERVER_CREDENTIAL_RECORD_VERSION = true ∧
      value.string? "origin" = some origin ∧
        value.string? "trustIdentity" = some trustIdentity := by
  simp only [decodeActiveServerCredentialRecord, Option.bind_eq_bind, Option.bind_eq_some_iff,
    Option.guard_eq_some', beq_iff_eq] at h
  obtain ⟨-, hversion, -, horigin, -, htrust, -⟩ := h
  exact ⟨hversion, horigin, htrust⟩

lemma decodePending_fields {value : Json} {origin trustIdentity : String}
    {record : PendingServerEnrollmentRecord}
    (h : decodePendingServerEnrollment value origin trustIdentity = some record) :
    isPendingVersion value = true ∧ value.string? "state" = some "pending" ∧
      value.string? "origin" = some origin ∧ value.string? "trustIdentity" = some trustIdentity ∧
        (value.string? "invitation").isSome = true ∧ record.origin = origin ∧
          record.trustIdentity = trustIdentity := by
  simp only [decodePendingServerEnrollment, Option.bind_eq_bind, Option.bind_eq_some_iff,
    Option.guard_eq_some', beq_iff_eq, Bool.and_eq_true, stringWith, Option.filter_eq_some_iff,
    Option.pure_def, Option.some.injEq] at h
  obtain ⟨-, ⟨hversion, hstate⟩, -, horigin, -, htrust, invitation, ⟨hinvitation, -⟩, -, -, -, -, -,
    -, -, -, -, -, -, -, rfl⟩ := h
  exact ⟨hversion, hstate, horigin, htrust, by rw [hinvitation]; rfl, rfl, rfl⟩

lemma decodeMarker_isMarker {value : Json} {marker : AcceptedEnrollmentMarker}
    (h : decodeAcceptedEnrollmentMarker value = some marker) : isMarker value = true := by
  simp only [decodeAcceptedEnrollmentMarker, Option.bind_eq_bind, Option.bind_eq_some_iff,
    Option.guard_eq_some'] at h
  obtain ⟨-, hmarker, -⟩ := h
  exact hmarker

/-! ### Accounts of a retry record -/

/-- The name of a retry record's account. -/
lemma cubeAccount_name {origin trustIdentity clientId repositoryBinding name : String}
    (h : serverCubeRetryAccount origin trustIdentity clientId repositoryBinding = some name) :
    ∃ digest, name = CUBE_PREFIX ++ digest := by
  unfold serverCubeRetryAccount boundAccount at h
  split_ifs at h
  exact ⟨_, (Option.some.inj h).symm⟩

lemma boundAccount_name {start origin trustIdentity name : String} {rest : List String}
    (h : boundAccount start origin trustIdentity rest = some name) :
    ∃ digest, name = start ++ digest := by
  unfold boundAccount at h
  split_ifs at h
  exact ⟨_, (Option.some.inj h).symm⟩

lemma cubeAccount_bound {origin trustIdentity clientId repositoryBinding name : String}
    (h : serverCubeRetryAccount origin trustIdentity clientId repositoryBinding = some name) :
    validServerCredentialBinding origin trustIdentity = true := by
  unfold serverCubeRetryAccount boundAccount at h
  split_ifs at h with _ hbinding
  exact hbinding

omit [CredentialPlatform] in
/-- No account of an enrollment is one of a cube creation. -/
lemma cube_ne_enrollment (digest other : String) :
    CUBE_PREFIX ++ digest ≠ PENDING_PREFIX ++ other ∧
      CUBE_PREFIX ++ digest ≠ ACCEPTED_PREFIX ++ other ∧
        CUBE_PREFIX ++ digest ≠ ROLLBACK_PREFIX ++ other ∧
          CUBE_PREFIX ++ digest ≠ CREDENTIAL_PREFIX ++ other := by
  refine ⟨?_, ?_, ?_, ?_⟩ <;> intro h <;> replace h := congrArg String.toList h <;>
    simp [CUBE_PREFIX, PENDING_PREFIX, ACCEPTED_PREFIX, ROLLBACK_PREFIX, CREDENTIAL_PREFIX] at h

omit [CredentialPlatform] in
lemma cube_not_prefixed (digest : String) :
    ¬ ACCEPTED_PREFIX.toList <+: CUBE_PREFIX.toList ++ digest.toList ∧
      ¬ PENDING_PREFIX.toList <+: CUBE_PREFIX.toList ++ digest.toList ∧
        ¬ ROLLBACK_PREFIX.toList <+: CUBE_PREFIX.toList ++ digest.toList := by
  simp [CUBE_PREFIX, PENDING_PREFIX, ACCEPTED_PREFIX, ROLLBACK_PREFIX, cons_prefix_cons]

/-! ### What each operation makes of a record -/

variable {entry : String × Json} {kind : Kind}

omit [CredentialPlatform] in
lemma not_null_of_field {value : Json} {name : String} (h : (value.field? name).isSome = true) :
    isNull value = false := by
  cases value with
  | null => cases h
  | _ => rfl

omit [CredentialPlatform] in
lemma not_null_of_version {value : Json} {version : ℚ} (h : hasVersion value version = true) :
    isNull value = false := by
  cases value with
  | null => cases h
  | _ => rfl

omit [CredentialPlatform] in
lemma isMarker_eq_false_of_state {value : Json} {state : String}
    (h : value.string? "state" = some state) (hne : state ≠ "accepted") :
    isMarker value = false := by
  unfold isMarker
  rw [h, Bool.and_eq_false_iff]
  exact Or.inr (by simpa using hne)

/-- The searches pass over the record. -/
structure PassedOver (value : Json) : Prop where
  notNull : isNull value = false
  notMarker : isMarker value = false
  notPending : (isPendingVersion value && value.string? "state" == some "pending") = false

omit [CredentialPlatform] in
lemma passedOver_of_version {value : Json}
    (h : hasVersion value SERVER_CREDENTIAL_RECORD_VERSION = true) : PassedOver value where
  notNull := not_null_of_version h
  notMarker := by
    unfold isMarker
    rw [hasVersion_of_ne h (by norm_num [SERVER_CREDENTIAL_RECORD_VERSION,
      SERVER_ACCEPTED_ENROLLMENT_MARKER_VERSION]), Bool.false_and]
  notPending := by
    unfold isPendingVersion
    rw [hasVersion_of_ne h (by norm_num [SERVER_CREDENTIAL_RECORD_VERSION,
      SERVER_PENDING_ENROLLMENT_RECORD_VERSION]), hasVersion_of_ne h (by
      norm_num [SERVER_CREDENTIAL_RECORD_VERSION, LEGACY_SERVER_PENDING_ENROLLMENT_RECORD_VERSION])]
    rfl

lemma scanPending_passedOver (h : PassedOver entry.2) : scanPending entry = .ok none := by
  have hnot : (!isPendingVersion entry.2 || entry.2.string? "state" != some "pending") = true := by
    have hpending := h.notPending
    rw [Bool.and_eq_false_iff] at hpending
    obtain hversion | hstate := hpending
    · rw [hversion]
      rfl
    · rw [bne, hstate]
      simp
  unfold scanPending
  rw [h.notNull, h.notMarker, hnot]
  rfl

lemma scanRecovery_passedOver (selectedOrigin : Option String) (h : PassedOver entry.2) :
    scanRecovery selectedOrigin entry = .ok none := by
  unfold scanRecovery
  rw [h.notNull, h.notMarker, h.notPending]
  rfl

omit [CredentialPlatform] in
lemma passedOver_rollback (origin : String) (active : List (String × Json)) (pendingAccount : String)
    (pendingValue : Json) :
    PassedOver (rollbackValue origin active pendingAccount pendingValue) where
  notNull := rfl
  notMarker := isMarker_eq_false_of_state rfl (by decide)
  notPending := by simp [rollbackValue, Json.string?, Json.field?, lookup_cons]

/-- The searches meet a marker. -/
lemma scan_marker {account : String} {value : Json} {marker : AcceptedEnrollmentMarker}
    (hread : decodeAcceptedEnrollmentMarker value = some marker)
    (haccount : account = serverAcceptedEnrollmentAccount marker.origin)
    (selectedOrigin : Option String) :
    scanPending (account, value) = .error .recovery ∧ scanRecovery selectedOrigin (account, value) =
      .ok (if isSelected selectedOrigin marker.origin then some (.accepted marker) else none) := by
  have hmarker := decodeMarker_isMarker hread
  have hnull : isNull value = false := by
    unfold isMarker at hmarker
    exact not_null_of_version (Bool.and_eq_true_iff.mp hmarker).1
  unfold scanPending scanRecovery
  dsimp only
  rw [hnull, hmarker, hread, haccount]
  constructor
  · simp [caught, orInvalid, CredentialError.isRecovery, throw, throwThe, MonadExceptOf.throw,
      bind, Except.bind]
  · simp [caught, orInvalid, bind, Except.bind, pure, Except.pure]

/-- The searches meet a pending enrollment. -/
lemma scan_pending {origin trustIdentity account : String} {value : Json}
    {record : PendingServerEnrollmentRecord}
    (hread : decodePendingServerEnrollment value origin trustIdentity = some record)
    (haccount : serverPendingEnrollmentAccount origin trustIdentity = some account)
    (selectedOrigin : Option String) :
    scanPending (account, value) = .ok (some record) ∧ scanRecovery selectedOrigin (account, value) =
      .ok (if isSelected selectedOrigin record.origin then some (.pending record) else none) := by
  obtain ⟨hversion, hstate, horigin, htrust, hinvitation, -, -⟩ := decodePending_fields hread
  have hnull : isNull value = false := by
    unfold isPendingVersion at hversion
    rcases Bool.or_eq_true_iff.mp hversion with h | h <;> exact not_null_of_version h
  have hmarker : isMarker value = false := isMarker_eq_false_of_state hstate (by decide)
  have hboth : originAndTrust value = some (origin, trustIdentity) := by
    simp [originAndTrust, horigin, htrust]
  constructor
  · simp [scanPending, hnull, hmarker, hversion, hstate, hboth, haccount, hread, caught, orInvalid,
      bind, Except.bind, pure, Except.pure]
  · simp [scanRecovery, hnull, hmarker, hversion, hstate, hboth, haccount, hread, caught, orInvalid,
      bind, Except.bind, pure, Except.pure]

/-- The searches meet a retry record of the current version: its account is none of a pending
enrollment, and its text has no invitation. -/
lemma scan_cubeRetry {account : Cubes.RetryAccount} {pending : Cubes.PendingCreation} {name : String}
    (haccount : serverCubeRetryAccount account.origin account.trustIdentity account.clientId
      account.repositoryBinding = some name) (selectedOrigin : Option String) :
    scanPending (name, cubeRetryValue .current account pending) = .error .miskeyed ∧
      scanRecovery selectedOrigin (name, cubeRetryValue .current account pending) = .ok none := by
  obtain ⟨digest, rfl⟩ := cubeAccount_name haccount
  have hversion : isPendingVersion (cubeRetryValue .current account pending) = true := by
    simp [isPendingVersion, hasVersion, Cubes.isVersion, cubeRetryValue, Json.field?,
      RetryVersion.number, Cubes.SERVER_CUBE_RETRY_RECORD_VERSION,
      SERVER_PENDING_ENROLLMENT_RECORD_VERSION]
  have hstate : (cubeRetryValue .current account pending).string? "state" = some "pending" := by
    simp [cubeRetryValue, Json.string?, Json.field?, lookup_cons]
  have hmarker := isMarker_eq_false_of_state hstate (by decide)
  have hboth : originAndTrust (cubeRetryValue .current account pending) =
      some (account.origin, account.trustIdentity) := by
    simp [originAndTrust, cubeRetryValue, Json.string?, Json.field?, lookup_cons]
  have hnull : isNull (cubeRetryValue .current account pending) = false := rfl
  obtain ⟨other, hother⟩ : ∃ other, serverPendingEnrollmentAccount account.origin
      account.trustIdentity = some (PENDING_PREFIX ++ other) := by
    unfold serverPendingEnrollmentAccount boundAccount
    rw [if_pos (cubeAccount_bound haccount)]
    exact ⟨_, rfl⟩
  have hread : decodePendingServerEnrollment (cubeRetryValue .current account pending)
      account.origin account.trustIdentity = none := by
    refine Option.eq_none_iff_forall_ne_some.mpr (fun record hrecord => ?_)
    obtain ⟨-, -, -, -, hinvitation, -⟩ := decodePending_fields hrecord
    simp [cubeRetryValue, Json.string?, Json.field?, lookup_cons] at hinvitation
  have hname := (cube_ne_enrollment digest other).1
  constructor
  · simp [scanPending, hnull, hmarker, hversion, hstate, hboth, hother, hname, caught, orInvalid,
      CredentialError.isRecovery, throw, throwThe, MonadExceptOf.throw, bind, Except.bind]
  · simp [scanRecovery, hnull, hmarker, hversion, hstate, hboth, hread, caught, orInvalid,
      CredentialError.isRecovery, cube_not_prefixed, bind, Except.bind]

/-! ### The kinds told apart -/

omit [CredentialPlatform] in
lemma version_legacy (account : Cubes.RetryAccount) (pending : Cubes.PendingCreation) :
    hasVersion (cubeRetryValue .legacy account pending) SERVER_CREDENTIAL_RECORD_VERSION = true := by
  simp [hasVersion, Cubes.isVersion, cubeRetryValue, Json.field?, RetryVersion.number,
    Cubes.LEGACY_SERVER_CUBE_RETRY_RECORD_VERSION, SERVER_CREDENTIAL_RECORD_VERSION]

/-- The search for an enrollment to recover tells every kind apart. -/
lemma scanRecovery_kind (h : HasKind entry kind) (selectedOrigin : Option String) :
    scanRecovery selectedOrigin entry = kind.scanRecovery selectedOrigin := by
  cases h with
  | active hread _ =>
    exact scanRecovery_passedOver _ (passedOver_of_version (decodeActive_fields hread).1)
  | pending hread haccount => exact (scan_pending hread haccount selectedOrigin).2
  | marker hread => exact (scan_marker hread rfl selectedOrigin).2
  | rollback => exact scanRecovery_passedOver _ (passedOver_rollback _ _ _ _)
  | @cubeRetry version account pending name haccount =>
    cases version with
    | legacy => exact scanRecovery_passedOver _ (passedOver_of_version (version_legacy _ _))
    | current => exact (scan_cubeRetry haccount selectedOrigin).2

/-- The search for a pending enrollment takes a retry record of the current version for one out of
its place, and tells every other kind apart. -/
lemma scanPending_kind (h : HasKind entry kind) :
    scanPending entry = kind.scanPending ↔
      ∀ version, kind = .cubeRetry version → version = .legacy := by
  cases h with
  | active hread _ =>
    rw [scanPending_passedOver (passedOver_of_version (decodeActive_fields hread).1)]
    simp [Kind.scanPending]
  | pending hread haccount => simp [(scan_pending hread haccount none).1, Kind.scanPending]
  | marker hread => simp [(scan_marker hread rfl none).1, Kind.scanPending]
  | rollback =>
    rw [scanPending_passedOver (passedOver_rollback _ _ _ _)]
    simp [Kind.scanPending]
  | @cubeRetry version account pending name haccount =>
    cases version with
    | legacy =>
      rw [scanPending_passedOver (passedOver_of_version (version_legacy _ _))]
      simp [Kind.scanPending]
    | current => simp [(scan_cubeRetry haccount none).1, Kind.scanPending]

end Kinds

end BorgClient.Credentials
