import BorgClient.Credentials.Consent

/-!
# Accounts of an activation

What the accounts hold between the activation of an enrollment and its end: the marker, the new
credential and the rollback snapshot. A finalization leaves the new credential alone, and a rollback
brings back what was there before.
-/

namespace BorgClient.Credentials
open List Tables

section Accounts

variable [CredentialPlatform] {accounts next restored : Accounts} {entry : String × Json}
  {origin trustIdentity account : String} {value : Json}

/-! ### Entries -/

omit [CredentialPlatform] in
lemma get_eq_some_iff : accounts.get account = some value ↔ (account, value) ∈ accounts := by
  refine ⟨mem_of_get, fun h => ?_⟩
  unfold Accounts.get
  rw [Table.find_eq_some.mpr ⟨h, rfl⟩]
  rfl

omit [CredentialPlatform] in
lemma get_eq_none_iff : accounts.get account = none ↔ ∀ value, (account, value) ∉ accounts := by
  constructor
  · intro h value hmem
    rw [get_eq_some_iff.mpr hmem] at h
    cases h
  · intro h
    cases hget : accounts.get account with
    | none => rfl
    | some value => exact absurd (get_eq_some_iff.mp hget) (h value)

omit [CredentialPlatform] in
lemma mem_assignAccounts {entries : List (String × Json)} (hnodup : (entries.map Prod.fst).Nodup) :
    entry ∈ assignAccounts accounts entries ↔
      entry ∈ entries ∨ entry ∈ accounts ∧ entry.1 ∉ entries.map Prod.fst := by
  induction entries generalizing accounts with
  | nil => simp [assignAccounts]
  | cons head entries ih =>
    rw [map_cons, nodup_cons] at hnodup
    have hstep : assignAccounts accounts (head :: entries) =
        assignAccounts (accounts.upsert head) entries := rfl
    rw [hstep, ih hnodup.2, Table.mem_upsert, map_cons, mem_cons, mem_cons, not_or]
    constructor
    · rintro (h | ⟨rfl | ⟨h, hne⟩, hnot⟩)
      · exact .inl (.inr h)
      · exact .inl (.inl rfl)
      · exact .inr ⟨h, hne, hnot⟩
    · rintro ((rfl | h) | ⟨h, hne, hnot⟩)
      · exact .inr ⟨.inl rfl, hnodup.1⟩
      · exact .inl h
      · exact .inr ⟨.inr ⟨h, hne⟩, hnot⟩

omit [CredentialPlatform] in
lemma entry_eq_of_name {other : String × Json} (h : entry ∈ accounts) (hother : other ∈ accounts)
    (hname : entry.1 = other.1) : entry = other :=
  Table.eq_of_key h hother hname

/-! ### Names -/

omit [CredentialPlatform] in
lemma enrollment_prefixes_apart (digest other : String) :
    PENDING_PREFIX ++ digest ≠ ACCEPTED_PREFIX ++ other ∧
      PENDING_PREFIX ++ digest ≠ ROLLBACK_PREFIX ++ other ∧
        ACCEPTED_PREFIX ++ digest ≠ ROLLBACK_PREFIX ++ other := by
  refine ⟨?_, ?_, ?_⟩ <;> intro h <;> replace h := congrArg String.toList h <;>
    simp [PENDING_PREFIX, ACCEPTED_PREFIX, ROLLBACK_PREFIX] at h

/-- The names that an activation writes are apart. -/
structure NamesApart (input : Activation) (target pendingAccount : String) : Prop where
  targetPending : target ≠ pendingAccount
  targetAccepted : target ≠ serverAcceptedEnrollmentAccount input.origin
  targetRollback : target ≠ serverEnrollmentRollbackAccount input.origin input.retryKey
  pendingAccepted : pendingAccount ≠ serverAcceptedEnrollmentAccount input.origin
  pendingRollback : pendingAccount ≠ serverEnrollmentRollbackAccount input.origin input.retryKey
  acceptedRollback : serverAcceptedEnrollmentAccount input.origin ≠
    serverEnrollmentRollbackAccount input.origin input.retryKey

lemma namesApart {input : Activation} {target pendingAccount : String}
    (hpending : serverPendingEnrollmentAccount input.origin input.trustIdentity =
      some pendingAccount)
    (htarget : serverCredentialAccount input.origin input.trustIdentity = some target) :
    NamesApart input target pendingAccount := by
  obtain ⟨digest, rfl⟩ := boundAccount_name hpending
  obtain ⟨other, rfl⟩ := boundAccount_name htarget
  exact ⟨(credential_ne_enrollment _ _).1, (credential_ne_enrollment _ _).2.1,
    (credential_ne_enrollment _ _).2.2, (enrollment_prefixes_apart _ _).1,
    (enrollment_prefixes_apart _ _).2.1, (enrollment_prefixes_apart _ _).2.2⟩

/-! ### The accounts of a transaction -/

/-- An activation that names its generation. -/
structure Transaction (input : Activation) (accounts next : Accounts)
    (marker : AcceptedEnrollmentMarker) (pendingAccount target : String) (stored : Json) : Prop where
  apart : NamesApart input target pendingAccount
  ofPending : serverPendingEnrollmentAccount input.origin input.trustIdentity =
    some pendingAccount
  ofTarget : serverCredentialAccount input.origin input.trustIdentity = some target
  pendingMem : (pendingAccount, stored) ∈ accounts
  pendingInactive : isActiveFor input.origin stored = false
  ofMarker : ∃ generationId, input.generationId = some generationId ∧ marker =
    activationMarker input generationId (activationSnapshot input accounts pendingAccount stored)
  ofNext : next = journaled (activated input accounts target pendingAccount) marker
    (activationSnapshot input accounts pendingAccount stored)

lemma isActiveFor_of_pending {record : PendingServerEnrollmentRecord} {of : String}
    (h : decodePendingServerEnrollment value origin trustIdentity = some record) :
    isActiveFor of value = false := by
  have hversion := (decodePending_fields h).1
  unfold isPendingVersion at hversion
  rcases Bool.or_eq_true_iff.mp hversion with hversion | hversion
  · exact isActiveFor_of_version hversion (by norm_num [SERVER_CREDENTIAL_RECORD_VERSION,
      SERVER_PENDING_ENROLLMENT_RECORD_VERSION])
  · exact isActiveFor_of_version hversion (by norm_num [SERVER_CREDENTIAL_RECORD_VERSION,
      LEGACY_SERVER_PENDING_ENROLLMENT_RECORD_VERSION])

lemma transaction_of_activation {input : Activation} {generationId : String}
    (hgeneration : input.generationId = some generationId)
    (h : activatePendingServerEnrollment input accounts = .ok next) :
    ∃ marker pendingAccount target stored,
      Transaction input accounts next marker pendingAccount target stored := by
  obtain ⟨journal, hactivation⟩ := activation_of_ok h
  obtain ⟨pendingAccount, target, stored, pending, hactivated⟩ := activation_ok hactivation
  have hof : generationOf input pending = some generationId := by
    rw [generationOf, hgeneration]
    rfl
  rcases hactivated.written with ⟨hnone, -, -⟩ | ⟨other, hother, -, hnext⟩
  · cases hnone.symm.trans hof
  · cases hother.symm.trans hof
    exact ⟨_, pendingAccount, target, stored,
      namesApart hactivated.ofPending hactivated.ofTarget, hactivated.ofPending,
      hactivated.ofTarget, mem_of_get hactivated.ofStored, isActiveFor_of_pending hactivated.decoded,
      ⟨generationId, hgeneration, rfl⟩, hnext⟩

lemma decode_markerValue {marker other : AcceptedEnrollmentMarker}
    (h : decodeAcceptedEnrollmentMarker (markerValue marker) = some other) : other = marker := by
  obtain ⟨of, trust, generationId, previousPointer, activeDigest, rollbackAccount,
    rollbackDigest⟩ := marker
  cases previousPointer with
  | none =>
    simp [decodeAcceptedEnrollmentMarker, markerValue, stringWith, Json.string?, Json.field?,
      lookup_cons, readPointer, Option.bind_eq_some_iff, Option.filter_eq_some_iff] at h
    obtain ⟨-, -, -, -, -, rfl⟩ := h
    rfl
  | some pointer =>
    obtain ⟨pointerOrigin, pointerGeneration, pointerTrust⟩ := pointer
    simp [decodeAcceptedEnrollmentMarker, markerValue, pointerValue, stringWith, Json.string?,
      Json.field?, lookup_cons, readPointer, Option.bind_eq_some_iff,
      Option.filter_eq_some_iff] at h
    obtain ⟨-, -, -, -, -, ⟨⟨-, rfl⟩, -⟩, rfl⟩ := h
    rfl

omit [CredentialPlatform] in
lemma isActiveFor_markerValue (marker : AcceptedEnrollmentMarker) :
    isActiveFor origin (markerValue marker) = false := by
  have hversion : hasVersion (markerValue marker) SERVER_ACCEPTED_ENROLLMENT_MARKER_VERSION =
      true := by
    simp [hasVersion, Cubes.isVersion, markerValue, Json.field?]
  exact isActiveFor_of_version hversion
    (by norm_num [SERVER_CREDENTIAL_RECORD_VERSION, SERVER_ACCEPTED_ENROLLMENT_MARKER_VERSION])

omit [CredentialPlatform] in
lemma isActiveFor_rollbackValue (of pendingAccount : String) (active : List (String × Json))
    (pendingValue : Json) :
    isActiveFor origin (rollbackValue of active pendingAccount pendingValue) = false := by
  have hversion : hasVersion (rollbackValue of active pendingAccount pendingValue) 1 = true := by
    simp [hasVersion, Cubes.isVersion, rollbackValue, Json.field?]
  exact isActiveFor_of_version hversion (by norm_num [SERVER_CREDENTIAL_RECORD_VERSION])

omit [CredentialPlatform] in
lemma isActiveFor_credential (credential : ServerCredentialRecord) :
    isActiveFor credential.origin (encodeServerCredentialRecord credential) = true := by
  simp [isActiveFor, hasVersion, Cubes.isVersion, encodeServerCredentialRecord, Json.string?,
    Json.field?, lookup_cons]

variable {input : Activation} {marker : AcceptedEnrollmentMarker} {pendingAccount target : String}
  {stored : Json}

lemma Transaction.origin_eq
    (t : Transaction input accounts next marker pendingAccount target stored) :
    marker.origin = input.origin := by
  obtain ⟨generationId, -, rfl⟩ := t.ofMarker
  rfl

lemma Transaction.rollback_eq
    (t : Transaction input accounts next marker pendingAccount target stored) :
    marker.rollbackAccount = serverEnrollmentRollbackAccount input.origin input.retryKey := by
  obtain ⟨generationId, -, rfl⟩ := t.ofMarker
  rfl

/-- What the accounts are while the marker is there. -/
lemma Transaction.mem_next
    (t : Transaction input accounts next marker pendingAccount target stored) :
    entry ∈ next ↔ entry = (serverAcceptedEnrollmentAccount input.origin, markerValue marker) ∨
      entry.1 ≠ serverAcceptedEnrollmentAccount input.origin ∧
        (entry = (marker.rollbackAccount,
          activationSnapshot input accounts pendingAccount stored) ∨
        entry.1 ≠ marker.rollbackAccount ∧ entry.1 ≠ pendingAccount ∧
          (entry = (target, encodeServerCredentialRecord (activeRecord input)) ∨
            entry.1 ≠ target ∧ entry ∈ accounts ∧
              isActiveFor input.origin entry.2 = false)) := by
  rw [t.ofNext, journaled, Table.mem_upsert, Table.mem_upsert, activated, Table.mem_delete,
    Table.mem_upsert, Table.mem_delete, t.origin_eq, beq_eq_false_iff_ne]
  tauto

lemma Transaction.accepted_mem
    (t : Transaction input accounts next marker pendingAccount target stored) :
    (serverAcceptedEnrollmentAccount input.origin, value) ∈ next ↔ value = markerValue marker := by
  rw [t.mem_next]
  simp

lemma Transaction.active_mem
    (t : Transaction input accounts next marker pendingAccount target stored)
    (hactive : isActiveFor input.origin entry.2 = true) :
    entry ∈ next ↔ entry = (target, encodeServerCredentialRecord (activeRecord input)) := by
  rw [t.mem_next]
  constructor
  · rintro (rfl | ⟨-, rfl | ⟨-, -, rfl | ⟨-, -, hnot⟩⟩⟩)
    · cases (isActiveFor_markerValue marker).symm.trans hactive
    · cases (isActiveFor_rollbackValue _ _ _ _).symm.trans hactive
    · rfl
    · cases hnot.symm.trans hactive
  · rintro rfl
    refine .inr ⟨t.apart.targetAccepted, .inr ⟨?_, t.apart.targetPending, .inl rfl⟩⟩
    rw [t.rollback_eq]
    exact t.apart.targetRollback

lemma Transaction.not_pending
    (t : Transaction input accounts next marker pendingAccount target stored) :
    (pendingAccount, value) ∉ next := by
  rw [t.mem_next]
  rintro (h | ⟨-, h | ⟨-, h, -⟩⟩)
  · exact t.apart.pendingAccepted (congrArg Prod.fst h)
  · exact t.apart.pendingRollback ((congrArg Prod.fst h).trans t.rollback_eq)
  · exact h rfl

/-- The names of the transaction. -/
lemma Transaction.touched
    (t : Transaction input accounts next marker pendingAccount target stored)
    (hname : entry.1 ∉ touchedAccounts input) :
    entry.1 ≠ target ∧ entry.1 ≠ pendingAccount ∧ entry.1 ≠ marker.rollbackAccount ∧
      entry.1 ≠ serverAcceptedEnrollmentAccount input.origin := by
  rw [t.rollback_eq]
  simp only [touchedAccounts, t.ofTarget, t.ofPending, Option.toList_some, mem_append, mem_cons,
    not_mem_nil, or_false, not_or] at hname
  exact ⟨hname.1.1, hname.1.2, hname.2.1, hname.2.2⟩

/-! ### Finalized and restored accounts -/

lemma marker_read {found : AcceptedEnrollmentMarker} (hmem : ∀ value,
    (serverAcceptedEnrollmentAccount origin, value) ∈ accounts ↔ value = markerValue marker)
    (h : markerForOrigin accounts origin = .ok (some found)) : found = marker := by
  unfold markerForOrigin at h
  rw [get_eq_some_iff.mpr ((hmem _).mpr rfl)] at h
  dsimp only at h
  split at h
  · rename_i other hother
    cases h
    exact decode_markerValue hother
  · cases h

/-- What a finalization leaves. -/
lemma Transaction.mem_finalized {generationId : String}
    (t : Transaction input accounts next marker pendingAccount target stored)
    (h : finalizeAcceptedEnrollment input.origin trustIdentity generationId next = .ok restored) :
    entry ∈ restored ↔ entry ∈ next ∧
      entry.1 ≠ serverAcceptedEnrollmentAccount input.origin ∧ entry.1 ≠ marker.rollbackAccount := by
  unfold finalizeAcceptedEnrollment at h
  rw [get_eq_some_iff.mpr (t.accepted_mem.mpr rfl)] at h
  obtain ⟨found, hfound, h⟩ := orInvalid_bind_ok h
  obtain ⟨account, -, h⟩ := orInvalid_bind_ok h
  obtain ⟨active, -, h⟩ := orInvalid_bind_ok h
  split at h
  · cases h
    rw [Table.mem_delete, Table.mem_delete, beq_eq_false_iff_ne, beq_eq_false_iff_ne,
      decode_markerValue hfound, and_assoc]
  · cases h

/-- What a rollback reads back. -/
lemma Transaction.rollback_read
    (t : Transaction input accounts next marker pendingAccount target stored)
    {found : Json} {snapshot : EnrollmentRollbackSnapshot}
    (hfound : next.get marker.rollbackAccount = some found)
    (hread : decodeRollbackRecord found marker = some snapshot) :
    snapshot = ⟨activeAccounts accounts input.origin, pendingAccount, stored⟩ ∧
      ∀ e ∈ activeAccounts accounts input.origin, isSnapshotAccount input.origin e = true := by
  have hmem := mem_of_get hfound
  have hvalue : found = activationSnapshot input accounts pendingAccount stored := by
    rcases t.mem_next.mp hmem with h | ⟨-, h | ⟨h, -⟩⟩
    · have hname := (congrArg Prod.fst h).symm.trans t.rollback_eq
      exact absurd hname t.apart.acceptedRollback
    · exact congrArg Prod.snd h
    · exact absurd rfl h
  subst hvalue
  obtain ⟨⟨field, hfield, haccount, hpending, hactive⟩, hall, -⟩ := decodeRollback_fields hread
  obtain ⟨active, account, pendingValue⟩ := snapshot
  simp only [activationSnapshot, rollbackValue, Json.field?, lookup_cons] at hfield
  cases hfield
  simp only [Json.string?, Json.field?, lookup_cons] at haccount hpending hactive
  cases hpending
  cases haccount
  cases hactive
  refine ⟨rfl, ?_⟩
  rw [t.origin_eq] at hall
  exact hall

/-- What a rollback leaves. -/
lemma Transaction.mem_restored
    (t : Transaction input accounts next marker pendingAccount target stored)
    (h : restoreAcceptedEnrollmentAccounts marker next = .ok restored) :
    (∀ e ∈ activeAccounts accounts input.origin, isSnapshotAccount input.origin e = true) ∧
      ∀ entry, entry ∈ restored ↔
        entry.1 ≠ serverAcceptedEnrollmentAccount input.origin ∧ entry.1 ≠ marker.rollbackAccount ∧
          (entry = (pendingAccount, stored) ∨ entry.1 ≠ pendingAccount ∧
            (entry ∈ activeAccounts accounts input.origin ∨
              (entry ∈ next ∧ isActiveFor input.origin entry.2 = false) ∧
                entry.1 ∉ (activeAccounts accounts input.origin).map Prod.fst)) := by
  unfold restoreAcceptedEnrollmentAccounts at h
  obtain ⟨current, -, h⟩ := orInvalid_bind_ok h
  split at h
  · obtain ⟨found, hfound, h⟩ := orInvalid_bind_ok h
    obtain ⟨snapshot, hread, h⟩ := orInvalid_bind_ok h
    obtain ⟨rfl, hall⟩ := t.rollback_read hfound hread
    cases h
    have hnodup : ((activeAccounts accounts input.origin).map Prod.fst).Nodup :=
      Table.nodup_of_sublist filter_sublist accounts.unique
    refine ⟨hall, fun entry => ?_⟩
    rw [Table.mem_delete, Table.mem_delete, Table.mem_upsert, mem_assignAccounts hnodup,
      Table.mem_delete, beq_eq_false_iff_ne, beq_eq_false_iff_ne, t.origin_eq]
    tauto
  · cases h

/-! ### What the accounts hold -/

/-- The same credentials and the same pending record of the origin, and the same other accounts. -/
structure SameAccounts (input : Activation) (accounts restored : Accounts) : Prop where
  active : ∀ entry, isActiveFor input.origin entry.2 = true →
    (entry ∈ restored ↔ entry ∈ accounts)
  pending : pendingOf restored input.origin input.trustIdentity =
    pendingOf accounts input.origin input.trustIdentity
  other : ∀ entry, entry.1 ∉ touchedAccounts input → isActiveFor input.origin entry.2 = false →
    (entry ∈ restored ↔ entry ∈ accounts)

lemma SameAccounts.refl : SameAccounts input accounts accounts :=
  ⟨fun _ _ => Iff.rfl, rfl, fun _ _ _ => Iff.rfl⟩

lemma Transaction.pendingOf_eq
    (t : Transaction input accounts next marker pendingAccount target stored) :
    pendingOf restored input.origin input.trustIdentity = restored.get pendingAccount := by
  rw [pendingOf, t.ofPending, Option.bind_some]

lemma Transaction.other_mem
    (t : Transaction input accounts next marker pendingAccount target stored)
    (hname : entry.1 ∉ touchedAccounts input)
    (hactive : isActiveFor input.origin entry.2 = false) : entry ∈ next ↔ entry ∈ accounts := by
  obtain ⟨htarget, hpending, hrollback, haccepted⟩ := t.touched hname
  have hne : ∀ name value, entry.1 ≠ name → entry ≠ (name, value) := by
    rintro name value hother rfl
    exact hother (rfl)
  rw [t.mem_next, or_iff_right (hne _ _ haccepted), and_iff_right haccepted,
    or_iff_right (hne _ _ hrollback), and_iff_right hrollback, and_iff_right hpending,
    or_iff_right (hne _ _ htarget), and_iff_right htarget, and_iff_left hactive]

/-- A rollback brings back the accounts of before. -/
lemma Transaction.restored_same
    (t : Transaction input accounts next marker pendingAccount target stored)
    (h : restoreAcceptedEnrollmentAccounts marker next = .ok restored) :
    SameAccounts input accounts restored := by
  obtain ⟨hall, hmem⟩ := t.mem_restored h
  constructor
  · intro entry hactive
    rw [hmem]
    constructor
    · rintro ⟨-, -, rfl | ⟨-, h | ⟨⟨-, hnot⟩, -⟩⟩⟩
      · exact t.pendingMem
      · exact (mem_activeAccounts.mp h).1
      · cases hnot.symm.trans hactive
    · intro hentry
      have hmemActive := mem_activeAccounts.mpr ⟨hentry, hactive⟩
      have hsnapshot := hall entry hmemActive
      unfold isSnapshotAccount at hsnapshot
      obtain ⟨trust, -, haccount⟩ :=
        (Option.any_eq_true _ _).mp (Bool.and_eq_true_iff.mp hsnapshot).2
      obtain ⟨digest, hname⟩ := boundAccount_name (eq_of_beq haccount)
      obtain ⟨other, hpending⟩ := boundAccount_name t.ofPending
      refine ⟨?_, ?_, .inr ⟨?_, .inl hmemActive⟩⟩
      · rw [hname]
        exact (credential_ne_enrollment _ _).2.1
      · rw [hname, t.rollback_eq]
        exact (credential_ne_enrollment _ _).2.2
      · rw [hname, hpending]
        exact (credential_ne_enrollment _ _).1
  · rw [t.pendingOf_eq, t.pendingOf_eq, get_eq_some_iff.mpr t.pendingMem]
    refine get_eq_some_iff.mpr ((hmem _).mpr ⟨t.apart.pendingAccepted, ?_, .inl (rfl)⟩)
    rw [t.rollback_eq]
    exact t.apart.pendingRollback
  · intro entry hname hactive
    obtain ⟨htarget, hpending, hrollback, haccepted⟩ := t.touched hname
    have hne : entry ≠ (pendingAccount, stored) := by
      rintro rfl
      exact hpending (rfl)
    have hnot : entry ∉ activeAccounts accounts input.origin := by
      intro h
      cases hactive.symm.trans (mem_activeAccounts.mp h).2
    rw [hmem, and_iff_right haccepted, and_iff_right hrollback, or_iff_right hne,
      and_iff_right hpending, or_iff_right hnot, and_iff_left hactive, t.other_mem hname hactive]
    refine ⟨And.left, fun h => ⟨h, ?_⟩⟩
    intro hname
    obtain ⟨other, hother, hsame⟩ := mem_map.mp hname
    obtain ⟨hin, hotherActive⟩ := mem_activeAccounts.mp hother
    cases entry_eq_of_name h hin hsame.symm
    cases hactive.symm.trans hotherActive

/-- The accounts of after: the new credential alone, and no pending record. -/
structure CommittedAccounts (input : Activation) (accounts final : Accounts) : Prop where
  active : ∀ entry, isActiveFor input.origin entry.2 = true → (entry ∈ final ↔
    (serverCredentialAccount input.origin input.trustIdentity = some entry.1 ∧
      entry.2 = encodeServerCredentialRecord (activeRecord input)))
  pending : pendingOf final input.origin input.trustIdentity = none
  other : ∀ entry, entry.1 ∉ touchedAccounts input → isActiveFor input.origin entry.2 = false →
    (entry ∈ final ↔ entry ∈ accounts)

/-- A finalization leaves the accounts of after. -/
lemma Transaction.finalized_committed {generationId : String}
    (t : Transaction input accounts next marker pendingAccount target stored)
    (h : finalizeAcceptedEnrollment input.origin trustIdentity generationId next = .ok restored) :
    CommittedAccounts input accounts restored := by
  constructor
  · intro entry hactive
    rw [t.mem_finalized h, t.active_mem hactive, t.ofTarget]
    constructor
    · rintro ⟨rfl, -, -⟩
      exact ⟨rfl, rfl⟩
    · rintro ⟨hname, hvalue⟩
      obtain rfl := Option.some.inj hname
      refine ⟨Prod.ext (rfl) hvalue, t.apart.targetAccepted, ?_⟩
      rw [t.rollback_eq]
      exact t.apart.targetRollback
  · rw [t.pendingOf_eq, get_eq_none_iff]
    intro value hmem
    exact t.not_pending (t.mem_finalized h |>.mp hmem).1
  · intro entry hname hactive
    obtain ⟨-, -, hrollback, haccepted⟩ := t.touched hname
    rw [t.mem_finalized h, t.other_mem hname hactive, and_iff_left ⟨haccepted, hrollback⟩]

end Accounts

end BorgClient.Credentials
