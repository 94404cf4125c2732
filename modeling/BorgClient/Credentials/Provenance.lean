import BorgClient.Credentials.Classification
import BorgClient.Credentials.EnrollmentSteps

/-!
# Where the stored values of a run come from

A pending record of the store, also one inside a rollback snapshot, is one that was generated in
the run, and a stored credential is under its own account. Every operation keeps both.
-/

namespace BorgClient.Credentials
open List Tables

section Provenance

variable [CredentialPlatform]

/-! ### Reading a generated record back -/

lemma readArtifactBinding_eq {binding other : EnrollmentArtifactBinding}
    (h : readArtifactBinding (bindingValue binding) = some other) : other = binding := by
  simp [readArtifactBinding, bindingValue, stringWith, Json.string?, Json.field?, lookup_cons,
    Option.bind_eq_some_iff, Option.filter_eq_some_iff] at h
  obtain ⟨-, -, -, -, -, -, rfl⟩ := h
  rfl

lemma readReplacementCapability_eq {capability other : EnrollmentReplacementCapability}
    (h : readReplacementCapability (capabilityValue capability) = some other) :
    other = capability := by
  simp [readReplacementCapability, capabilityValue, stringWith, Json.string?, Json.field?,
    lookup_cons, Option.bind_eq_some_iff, Option.filter_eq_some_iff] at h
  obtain ⟨-, -, -, -, -, -, rfl⟩ := h
  rfl

omit [CredentialPlatform] in
/-- What an optional field is read as, where it is read at all. -/
lemma optional_written {α : Type} {fields : List (String × Json)} {name : String}
    {write : α → Json} {read : Json → Option α} {value result : Option α}
    (hread : ∀ a b, read (write a) = some b → b = a)
    (hfield : (Json.obj fields).field? name = value.map write)
    (h : Json.optional read (.obj fields) name = some result) : result = value := by
  unfold Json.optional at h
  rw [hfield] at h
  cases value with
  | none =>
    cases h
    rfl
  | some a =>
    obtain ⟨b, hb, rfl⟩ := Option.map_eq_some_iff.mp h
    rw [hread a b hb]

omit [CredentialPlatform] in
lemma pendingValue_fields (record : PendingServerEnrollmentRecord) :
    (pendingValue record).field? "clientName" = record.clientName.map .str ∧
      (pendingValue record).field? "artifactBinding" = record.artifactBinding.map bindingValue ∧
        (pendingValue record).field? "replacementCapability" =
          record.replacementCapability.map capabilityValue ∧
            (pendingValue record).field? "snapshot" = none := by
  obtain ⟨origin, trustIdentity, invitation, retryKey, credential, clientName, artifactBinding,
    replacementCapability⟩ := record
  cases clientName <;> cases artifactBinding <;> cases replacementCapability <;>
    simp [pendingValue, Json.entry, Json.field?, lookup_cons]

lemma decode_pendingValue {record other : PendingServerEnrollmentRecord}
    {origin trustIdentity : String}
    (h : decodePendingServerEnrollment (pendingValue record) origin trustIdentity = some other) :
    other = record := by
  obtain ⟨hclient, hbinding, hcapability, -⟩ := pendingValue_fields record
  have hstrings : (pendingValue record).string? "origin" = some record.origin ∧
      (pendingValue record).string? "trustIdentity" = some record.trustIdentity ∧
        (pendingValue record).string? "invitation" = some record.invitation ∧
          (pendingValue record).string? "retryKey" = some record.retryKey ∧
            (pendingValue record).string? "credential" = some record.credential := by
    simp [pendingValue, Json.string?, Json.field?, lookup_cons]
  obtain ⟨horigin, htrust, hinvitation, hretry, hcredential⟩ := hstrings
  simp only [decodePendingServerEnrollment, Option.bind_eq_bind, Option.bind_eq_some_iff,
    Option.guard_eq_some', beq_iff_eq, stringWith, Option.filter_eq_some_iff, Option.pure_def,
    Option.some.injEq, horigin, htrust, hinvitation, hretry, hcredential] at h
  obtain ⟨-, -, -, rfl, -, rfl, _, ⟨rfl, -⟩, _, ⟨rfl, -⟩, _, ⟨rfl, -⟩, clientName, hname,
    artifactBinding, hartifact, capability, hreplacement, -, -, rfl⟩ := h
  have hname := optional_written (fun a b hread =>
    (Option.some.inj (Option.filter_eq_some_iff.mp hread).1).symm) hclient hname
  have hartifact := optional_written (fun _ _ => readArtifactBinding_eq) hbinding hartifact
  have hreplacement := optional_written (fun _ _ => readReplacementCapability_eq) hcapability
    hreplacement
  rw [hname, hartifact, hreplacement]

/-! ### Values -/

/-- A value that is no pending record and holds no snapshot, or one that the run made. -/
inductive Written (minted : List Mint) : Json → Prop
  | plain {value : Json}
      (hpending : ∀ origin trustIdentity,
        decodePendingServerEnrollment value origin trustIdentity = none)
      (hsnapshot : value.field? "snapshot" = none) : Written minted value
  | pending {mint : Mint} (hmint : mint ∈ minted) : Written minted (pendingValue mint.record)
  | rollback {origin pendingAccount : String} {active : List (String × Json)} {value : Json}
      (hactive : ∀ entry ∈ active, Written minted entry.2) (hvalue : Written minted value) :
      Written minted (rollbackValue origin active pendingAccount value)

variable {minted : List Mint} {accounts : Accounts} {entry : String × Json} {value : Json}
  {origin trustIdentity : String} {record : PendingServerEnrollmentRecord}

lemma Written.mono {later : List Mint} (hsub : minted ⊆ later) (h : Written minted value) :
    Written later value := by
  induction h with
  | plain hpending hsnapshot => exact .plain hpending hsnapshot
  | pending hmint => exact .pending (hsub hmint)
  | rollback _ _ ihactive ihvalue => exact .rollback ihactive ihvalue

lemma decodePending_passedOver (h : PassedOver value) :
    decodePendingServerEnrollment value origin trustIdentity = none := by
  refine Option.eq_none_iff_forall_ne_some.mpr (fun record hrecord => ?_)
  obtain ⟨hversion, hstate, -⟩ := decodePending_fields hrecord
  have hnot := h.notPending
  rw [hversion, hstate] at hnot
  cases hnot

/-- A stored pending record was generated in the run. -/
lemma Written.decoded (h : Written minted value)
    (hread : decodePendingServerEnrollment value origin trustIdentity = some record) :
    ∃ mint ∈ minted, value = pendingValue mint.record ∧ record = mint.record := by
  cases h with
  | plain hpending _ =>
    rw [hpending] at hread
    cases hread
  | pending hmint => exact ⟨_, hmint, rfl, decode_pendingValue hread⟩
  | rollback =>
    rw [decodePending_passedOver (passedOver_rollback _ _ _ _)] at hread
    cases hread

/-- What a snapshot that is read back holds. -/
lemma decodeRollback_fields {marker : AcceptedEnrollmentMarker}
    {snapshot : EnrollmentRollbackSnapshot}
    (h : decodeRollbackRecord value marker = some snapshot) :
    (∃ field, value.field? "snapshot" = some field ∧
      field.string? "pendingAccount" = some snapshot.pendingAccount ∧
        field.field? "pendingValue" = some snapshot.pendingValue ∧
          (field.field? "activeAccounts").bind objectFields = some snapshot.activeAccounts) ∧
      (∀ entry ∈ snapshot.activeAccounts, isSnapshotAccount marker.origin entry = true) ∧
        ∃ origin trustIdentity record,
          decodePendingServerEnrollment snapshot.pendingValue origin trustIdentity =
            some record := by
  simp only [decodeRollbackRecord, Option.bind_eq_bind, Option.bind_eq_some_iff,
    Option.guard_eq_some', Option.pure_def, Option.some.injEq] at h
  obtain ⟨-, -, -, -, field, hfield, pendingAccount, haccount, pendingValue, hvalue, active,
    hactive, -, hall, ⟨origin, trustIdentity⟩, -, record, hrecord, -, -, -, -, -, -, rfl⟩ := h
  obtain ⟨activeField, hactiveField, hfields⟩ := hactive
  refine ⟨⟨field, hfield, haccount, hvalue, ?_⟩, all_eq_true.mp hall, origin, trustIdentity, record,
    hrecord⟩
  rw [hactiveField, Option.bind_some, hfields]

lemma Written.snapshot {marker : AcceptedEnrollmentMarker} {snapshot : EnrollmentRollbackSnapshot}
    (h : Written minted value) (hread : decodeRollbackRecord value marker = some snapshot) :
    (∀ entry ∈ snapshot.activeAccounts, Written minted entry.2) ∧
      Written minted snapshot.pendingValue := by
  obtain ⟨⟨field, hfield, -, hvalue, hactive⟩, -⟩ := decodeRollback_fields hread
  cases h with
  | plain _ hsnapshot =>
    rw [hsnapshot] at hfield
    cases hfield
  | @pending mint _ =>
    rw [(pendingValue_fields mint.record).2.2.2] at hfield
    cases hfield
  | rollback hold hpending =>
    simp only [rollbackValue, Json.field?, lookup_cons] at hfield
    cases hfield
    simp only [Json.field?, lookup_cons] at hvalue hactive
    cases hvalue
    cases hactive
    exact ⟨hold, hpending⟩

/-! ### Accounts -/

/-- A credential is under its own account. -/
def WellNamed (entry : String × Json) : Prop :=
  ∀ origin, isActiveFor origin entry.2 = true → isSnapshotAccount origin entry = true

/-- An entry that the run may have left. -/
structure Fits (minted : List Mint) (entry : String × Json) : Prop where
  written : Written minted entry.2
  named : WellNamed entry

lemma Fits.mono {later : List Mint} (hsub : minted ⊆ later) (h : Fits minted entry) :
    Fits later entry := ⟨h.written.mono hsub, h.named⟩

lemma wellNamed_of_version {version : ℚ} (h : hasVersion entry.2 version = true)
    (hne : version ≠ SERVER_CREDENTIAL_RECORD_VERSION) : WellNamed entry := by
  intro origin hactive
  rw [isActiveFor_of_version h hne] at hactive
  cases hactive

lemma wellNamed_of_pending
    (h : decodePendingServerEnrollment entry.2 origin trustIdentity = some record) :
    WellNamed entry := by
  have hversion := (decodePending_fields h).1
  unfold isPendingVersion at hversion
  rcases Bool.or_eq_true_iff.mp hversion with hversion | hversion
  · exact wellNamed_of_version hversion (by norm_num [SERVER_CREDENTIAL_RECORD_VERSION,
      SERVER_PENDING_ENROLLMENT_RECORD_VERSION])
  · exact wellNamed_of_version hversion (by norm_num [SERVER_CREDENTIAL_RECORD_VERSION,
      LEGACY_SERVER_PENDING_ENROLLMENT_RECORD_VERSION])

omit [CredentialPlatform] in
lemma isActiveFor_origin (h : isActiveFor origin value = true) :
    value.string? "origin" = some origin := by
  unfold isActiveFor at h
  rw [Bool.and_eq_true, beq_iff_eq] at h
  exact h.2

lemma wellNamed_of_snapshot (h : isSnapshotAccount origin entry = true) : WellNamed entry := by
  intro other hother
  have hactive : isActiveFor origin entry.2 = true := by
    unfold isSnapshotAccount at h
    exact (Bool.and_eq_true_iff.mp h).1
  have horigin := (isActiveFor_origin hactive).symm.trans (isActiveFor_origin hother)
  cases horigin
  exact h

lemma fits_credential {credential : ServerCredentialRecord} {target : String}
    (htarget : serverCredentialAccount credential.origin credential.trustIdentity = some target) :
    Fits minted (target, encodeServerCredentialRecord credential) := by
  have hversion : hasVersion (encodeServerCredentialRecord credential)
      SERVER_CREDENTIAL_RECORD_VERSION = true := by
    simp [hasVersion, Cubes.isVersion, encodeServerCredentialRecord, Json.field?]
  refine ⟨.plain (fun _ _ => decodePending_passedOver (passedOver_of_version hversion)) ?_, ?_⟩
  · simp [encodeServerCredentialRecord, Json.field?, lookup_cons]
  · have hsnapshot : isSnapshotAccount credential.origin
        (target, encodeServerCredentialRecord credential) = true := by
      unfold isSnapshotAccount isActiveFor
      rw [hversion]
      simp [encodeServerCredentialRecord, Json.string?, Json.field?, lookup_cons, htarget]
    exact wellNamed_of_snapshot hsnapshot

lemma fits_marker {account : String} (marker : AcceptedEnrollmentMarker) :
    Fits minted (account, markerValue marker) := by
  have hversion : hasVersion (markerValue marker) SERVER_ACCEPTED_ENROLLMENT_MARKER_VERSION =
      true := by
    simp [hasVersion, Cubes.isVersion, markerValue, Json.field?]
  refine ⟨.plain (fun origin trustIdentity => ?_) ?_, wellNamed_of_version hversion
    (by norm_num [SERVER_CREDENTIAL_RECORD_VERSION, SERVER_ACCEPTED_ENROLLMENT_MARKER_VERSION])⟩
  · refine Option.eq_none_iff_forall_ne_some.mpr (fun record hrecord => ?_)
    have hstate := (decodePending_fields hrecord).2.1
    simp [markerValue, Json.string?, Json.field?, lookup_cons] at hstate
  · simp [markerValue, Json.field?, lookup_cons]

lemma fits_rollback {account pendingAccount : String} {active : List (String × Json)}
    (hactive : ∀ entry ∈ active, Written minted entry.2) (hvalue : Written minted value) :
    Fits minted (account, rollbackValue origin active pendingAccount value) := by
  have hversion : hasVersion (rollbackValue origin active pendingAccount value) 1 = true := by
    simp [hasVersion, Cubes.isVersion, rollbackValue, Json.field?]
  exact ⟨.rollback hactive hvalue,
    wellNamed_of_version hversion (by norm_num [SERVER_CREDENTIAL_RECORD_VERSION])⟩

lemma fits_pending {account : String} {mint : Mint} (hmint : mint ∈ minted) :
    Fits minted (account, pendingValue mint.record) := by
  have hversion : hasVersion (pendingValue mint.record) SERVER_PENDING_ENROLLMENT_RECORD_VERSION =
      true := by
    simp [hasVersion, Cubes.isVersion, pendingValue, Json.field?]
  exact ⟨.pending hmint, wellNamed_of_version hversion (by
    norm_num [SERVER_CREDENTIAL_RECORD_VERSION, SERVER_PENDING_ENROLLMENT_RECORD_VERSION])⟩

omit [CredentialPlatform] in
lemma mem_of_get {account : String} (h : accounts.get account = some value) :
    (account, value) ∈ accounts := by
  obtain ⟨⟨name, other⟩, hfind, rfl⟩ := Option.map_eq_some_iff.mp h
  obtain ⟨hmem, rfl⟩ := Table.find_eq_some.mp hfind
  exact hmem

lemma fits_upsert (h : ∀ e ∈ accounts, Fits minted e) (hentry : Fits minted entry) :
    ∀ e ∈ accounts.upsert entry, Fits minted e := by
  intro e he
  rcases Table.mem_upsert.mp he with rfl | ⟨he, -⟩
  · exact hentry
  · exact h e he

lemma fits_delete (h : ∀ e ∈ accounts, Fits minted e) (p : String × Json → Bool) :
    ∀ e ∈ accounts.delete p, Fits minted e :=
  fun e he => h e (Table.mem_delete.mp he).1

lemma fits_assign {entries : List (String × Json)} (h : ∀ e ∈ accounts, Fits minted e)
    (hentries : ∀ e ∈ entries, Fits minted e) :
    ∀ e ∈ assignAccounts accounts entries, Fits minted e := by
  induction entries generalizing accounts with
  | nil => exact h
  | cons entry entries ih =>
    exact ih (fits_upsert h (hentries entry mem_cons_self))
      (fun e he => hentries e (mem_cons_of_mem _ he))

end Provenance

end BorgClient.Credentials
