import BorgClient.Credentials.Provenance

/-!
# Replacement consent

An activation removes stored credentials only with a capability that was minted over exactly these
credentials, and a pending record is generated at most once until it is removed.
-/

namespace BorgClient.Credentials
open List Tables

section Consent

variable [CredentialPlatform] {w : EnrollmentWorld} {origin trustIdentity : String}

/-- No enrollment is under way, and every credential is under its own account. -/
def NoEnrollment (accounts : Accounts) : Prop :=
  ∀ entry ∈ accounts, (∀ origin trustIdentity,
    decodePendingServerEnrollment entry.2 origin trustIdentity = none) ∧
      entry.2.field? "snapshot" = none ∧ WellNamed entry

/-- The credentials of the origin whose digests the run compares. -/
def EnrollmentWorld.snapshots (w : EnrollmentWorld) (origin : String) :
    List (List (String × Json)) :=
  activeAccounts w.accounts origin :: w.minted.map (fun mint => activeAccounts mint.accounts origin)

/-- No two different texts that the activation compares have one digest. -/
structure CollisionFree (w : EnrollmentWorld) (input : Activation) : Prop where
  accounts : ∀ active ∈ w.snapshots input.origin, ∀ other ∈ w.snapshots input.origin,
    CredentialPlatform.digestAccounts active = CredentialPlatform.digestAccounts other →
      active ~ other
  names : ∀ entry ∈ w.accounts, ∀ origin trustIdentity, isActiveFor origin entry.2 = true →
    entry.2.string? "trustIdentity" = some trustIdentity →
    digestText [origin, "\x00", trustIdentity] =
      digestText [input.origin, "\x00", input.trustIdentity] → origin = input.origin

/-- The stored pending record was minted, with consent, over the origin's credentials of now: for
the same trust identity, artifact and retry key. -/
def Consented (w : EnrollmentWorld) (input : Activation) : Prop :=
  ∃ mint ∈ w.minted, ∃ binding capability,
    pendingOf w.accounts input.origin input.trustIdentity = some (pendingValue mint.record) ∧
      mint.mintReplacementConsent = true ∧ mint.input.artifactBinding = some binding ∧
        mint.record.replacementCapability = some capability ∧
          capability = newCapability mint.input mint.fresh mint.accounts binding ∧
            mint.input.origin = input.origin ∧ mint.input.trustIdentity = input.trustIdentity ∧
              mint.fresh.retryKey = input.retryKey ∧
                capability.artifactDigest = binding.artifactDigest ∧
                  activeAccounts mint.accounts input.origin ~ activeAccounts w.accounts input.origin

/-! ### Every operation keeps the provenance -/

omit [CredentialPlatform] in
@[simp] lemma after_minted (result : Except CredentialError Accounts) :
    (w.after result).minted = w.minted := by
  cases result <;> rfl

omit [CredentialPlatform] in
@[simp] lemma after_prepared (result : Except CredentialError Accounts) :
    (w.after result).prepared = w.prepared := by
  cases result <;> rfl

omit [CredentialPlatform] in
lemma mem_after_minted {result : Except CredentialError Accounts} {mint : Mint}
    (h : mint ∈ (w.after result).minted) : mint ∈ w.minted := by
  rwa [after_minted] at h

lemma after_fits {result : Except CredentialError Accounts}
    (h : ∀ e ∈ w.accounts, Fits w.minted e)
    (hok : ∀ accounts, result = .ok accounts → ∀ e ∈ accounts, Fits w.minted e) :
    ∀ e ∈ (w.after result).accounts, Fits w.minted e := by
  cases result with
  | error error => exact h
  | ok accounts => exact hok accounts rfl

variable {minted : List Mint} {accounts next : Accounts}

lemma store_fits {credential : ServerCredentialRecord} (h : ∀ e ∈ accounts, Fits minted e)
    (hok : storeServerCredential accounts credential = .ok next) : ∀ e ∈ next, Fits minted e := by
  unfold storeServerCredential at hok
  split at hok
  · cases hok
  · rename_i target htarget
    split_ifs at hok
    cases hok
    exact fits_upsert h (fits_credential htarget)

lemma clear_fits {retryKey : String} (h : ∀ e ∈ accounts, Fits minted e)
    (hok : clearPendingServerEnrollment origin trustIdentity retryKey accounts = .ok next) :
    ∀ e ∈ next, Fits minted e := by
  unfold clearPendingServerEnrollment at hok
  split_ifs at hok
  · cases hok
  · obtain ⟨account, -, hok⟩ := orInvalid_bind_ok hok
    split at hok
    · cases hok
      exact h
    · split at hok
      · cases hok
        exact h
      · cases hok
        split
        · exact fits_delete h _
        · exact h

lemma clearCredential_fits (h : ∀ e ∈ accounts, Fits minted e)
    (hok : clearServerCredential origin trustIdentity accounts = .ok next) :
    ∀ e ∈ next, Fits minted e := by
  unfold clearServerCredential at hok
  obtain ⟨pendingAccount, -, hok⟩ := orInvalid_bind_ok hok
  obtain ⟨target, -, hok⟩ := orInvalid_bind_ok hok
  cases hok
  exact fits_delete (fits_delete h _) _

/-- Nothing is written for a reviewed transaction. -/
lemma clearTransaction_mem {expected : PendingServerEnrollmentRecord}
    (hok : (clearEnrollmentTransaction expected accounts).map Prod.fst = .ok next) :
    ∀ e ∈ next, e ∈ accounts := by
  unfold clearEnrollmentTransaction at hok
  cases haccount : serverPendingEnrollmentAccount expected.origin expected.trustIdentity with
  | none =>
    rw [haccount] at hok
    cases hok
  | some account =>
    rw [haccount] at hok
    cases hmarker : markerForOrigin accounts expected.origin with
    | error error =>
      rw [hmarker] at hok
      cases hok
    | ok marker =>
      rw [hmarker] at hok
      cases marker with
      | some marker => cases hok
      | none =>
        cases hstored : accounts.get account with
        | none =>
          simp only [orInvalid, bind, Except.bind, hstored, pure, Except.pure, Except.map,
            Option.isSome_none, Bool.false_eq_true, if_false] at hok
          cases hok
          exact fun e he => he
        | some stored =>
          simp only [orInvalid, bind, Except.bind, hstored, pure, Except.pure, Except.map,
            Option.isSome_none, Bool.false_eq_true, if_false] at hok
          cases hok
          split
          · exact fun e he => (Table.mem_delete.mp he).1
          · exact fun e he => he

lemma finalize_fits {generationId : String} (h : ∀ e ∈ accounts, Fits minted e)
    (hok : finalizeAcceptedEnrollment origin trustIdentity generationId accounts = .ok next) :
    ∀ e ∈ next, Fits minted e := by
  unfold finalizeAcceptedEnrollment at hok
  split at hok
  · cases hok
    exact h
  · obtain ⟨marker, -, hok⟩ := orInvalid_bind_ok hok
    obtain ⟨target, -, hok⟩ := orInvalid_bind_ok hok
    obtain ⟨active, -, hok⟩ := orInvalid_bind_ok hok
    split at hok
    · cases hok
      exact fits_delete (fits_delete h _) _
    · cases hok

lemma restore_fits {marker : AcceptedEnrollmentMarker} (h : ∀ e ∈ accounts, Fits minted e)
    (hok : restoreAcceptedEnrollmentAccounts marker accounts = .ok next) :
    ∀ e ∈ next, Fits minted e := by
  unfold restoreAcceptedEnrollmentAccounts at hok
  obtain ⟨current, -, hok⟩ := orInvalid_bind_ok hok
  split at hok
  · obtain ⟨stored, hstored, hok⟩ := orInvalid_bind_ok hok
    obtain ⟨rollback, hrollback, hok⟩ := orInvalid_bind_ok hok
    cases hok
    have hwritten := (h _ (mem_of_get hstored)).written
    obtain ⟨hactive, hpending⟩ := hwritten.snapshot hrollback
    obtain ⟨-, hnamed, _, _, _, hrecord⟩ := decodeRollback_fields hrollback
    have hassigned := fits_assign (fits_delete h (fun e => isActiveFor marker.origin e.2))
      (fun e he => ⟨hactive e he, wellNamed_of_snapshot (hnamed e he)⟩)
    exact fits_delete (fits_delete (fits_upsert hassigned
      ⟨hpending, wellNamed_of_pending hrecord⟩) _) _
  · cases hok

lemma activate_fits {input : Activation} (h : ∀ e ∈ accounts, Fits minted e)
    (hok : activatePendingServerEnrollment input accounts = .ok next) :
    ∀ e ∈ next, Fits minted e := by
  obtain ⟨journal, hactivation⟩ := activation_of_ok hok
  obtain ⟨pendingAccount, target, stored, pending, hactivated⟩ := activation_ok hactivation
  have hnext : ∀ e ∈ activated input accounts target pendingAccount, Fits minted e :=
    fits_delete (fits_upsert (fits_delete h _) (fits_credential hactivated.ofTarget)) _
  rcases hactivated.written with ⟨-, -, rfl⟩ | ⟨generationId, -, -, rfl⟩
  · exact hnext
  · have hsnapshot : ∀ account, Fits minted (account,
        activationSnapshot input accounts pendingAccount stored) := fun account =>
      fits_rollback (fun e he => (h e (mem_activeAccounts.mp he).1).written)
        (h _ (mem_of_get hactivated.ofStored)).written
    exact fits_upsert (fits_upsert hnext (hsnapshot _)) (fits_marker _)

/-- What a process is handed. -/
inductive Handed (accounts : Accounts) (input : EnrollmentRequest) (mintReplacementConsent : Bool)
    (fresh : FreshValues) : Accounts → PendingServerEnrollmentRecord → Prop
  | stored {stored : Json} {record : PendingServerEnrollmentRecord}
      (hstored : pendingOf accounts input.origin input.trustIdentity = some stored)
      (hread : decodePendingServerEnrollment stored input.origin input.trustIdentity =
        some record) :
      Handed accounts input mintReplacementConsent fresh accounts record
  | minted {account : String}
      (haccount : serverPendingEnrollmentAccount input.origin input.trustIdentity = some account)
      (hnone : pendingOf accounts input.origin input.trustIdentity = none) :
      Handed accounts input mintReplacementConsent fresh
        (accounts.upsert (account,
          pendingValue (newRecord input mintReplacementConsent fresh accounts)))
        (newRecord input mintReplacementConsent fresh accounts)

lemma getOrCreate_handed {input : EnrollmentRequest} {mintReplacementConsent : Bool}
    {fresh : FreshValues} {record : PendingServerEnrollmentRecord}
    (h : getOrCreatePendingServerEnrollmentInternal input mintReplacementConsent fresh accounts =
      .ok (next, record)) : Handed accounts input mintReplacementConsent fresh next record := by
  unfold getOrCreatePendingServerEnrollmentInternal at h
  split_ifs at h
  · cases h
  · obtain ⟨account, haccount, h⟩ := orInvalid_bind_ok h
    have hof : pendingOf accounts input.origin input.trustIdentity = accounts.get account := by
      rw [pendingOf, haccount, Option.bind_some]
    split at h
    · rename_i stored hstored
      obtain ⟨record, hread, h⟩ := orInvalid_bind_ok h
      split_ifs at h
      cases h
      exact .stored (hof.trans hstored) hread
    · rename_i hnone
      dsimp only at h
      split_ifs at h
      cases h
      exact .minted haccount (hof.trans hnone)

lemma step_fits (h : ∀ e ∈ w.accounts, Fits w.minted e) (s : EnrollmentStep) :
    ∀ e ∈ (w.step s).accounts, Fits (w.step s).minted e := by
  cases s with
  | prepare process input mintReplacementConsent fresh =>
    simp only [EnrollmentWorld.step, EnrollmentWorld.prepare]
    cases hcall : getOrCreatePendingServerEnrollmentInternal input mintReplacementConsent fresh
      w.accounts with
    | error error => exact h
    | ok result =>
      obtain ⟨accounts, record⟩ := result
      dsimp only [EnrollmentWorld.hand]
      cases getOrCreate_handed hcall with
      | stored hstored _ =>
        rw [hstored]
        exact h
      | minted haccount hnone =>
        rw [hnone]
        refine fits_upsert (fun e he => (h e he).mono (subset_append_left _ _)) ?_
        exact @fits_pending _ _ _ ⟨w.accounts, input, mintReplacementConsent, fresh⟩
          (mem_append_right _ (mem_singleton_self _))
  | resume process origin trustIdentity =>
    simp only [EnrollmentWorld.step, EnrollmentWorld.resume]
    split
    · exact h
    · exact h
  | send process => exact h
  | store credential =>
    simp only [EnrollmentWorld.step, after_minted]
    exact after_fits h (fun _ hok => store_fits h hok)
  | clear origin trustIdentity retryKey =>
    simp only [EnrollmentWorld.step, after_minted]
    exact after_fits h (fun _ hok => clear_fits h hok)
  | clearCredential origin trustIdentity =>
    simp only [EnrollmentWorld.step, after_minted]
    exact after_fits h (fun _ hok => clearCredential_fits h hok)
  | clearTransaction expected =>
    simp only [EnrollmentWorld.step, after_minted]
    exact after_fits h (fun _ hok e he => h e (clearTransaction_mem hok e he))
  | activate input =>
    simp only [EnrollmentWorld.step, after_minted]
    exact after_fits h (fun _ hok => activate_fits h hok)
  | finalize origin trustIdentity generationId =>
    simp only [EnrollmentWorld.step, after_minted]
    exact after_fits h (fun _ hok => finalize_fits h hok)
  | restore marker =>
    simp only [EnrollmentWorld.step, after_minted]
    exact after_fits h (fun _ hok => restore_fits h hok)

lemma run_fits (h : ∀ e ∈ w.accounts, Fits w.minted e) (steps : List EnrollmentStep) :
    ∀ e ∈ (w.run steps).accounts, Fits (w.run steps).minted e := by
  induction steps generalizing w with
  | nil => exact h
  | cons s steps ih => exact ih (step_fits h s)

lemma start_fits (h : NoEnrollment accounts) :
    ∀ e ∈ (EnrollmentWorld.start accounts).accounts,
      Fits (EnrollmentWorld.start accounts).minted e := by
  intro e he
  obtain ⟨hpending, hsnapshot, hnamed⟩ := h e he
  exact ⟨.plain hpending hsnapshot, hnamed⟩

/-! ### What an activation removes -/

omit [CredentialPlatform] in
/-- No account of a credential is one that an activation writes beside it. -/
lemma credential_ne_enrollment (digest other : String) :
    CREDENTIAL_PREFIX ++ digest ≠ PENDING_PREFIX ++ other ∧
      CREDENTIAL_PREFIX ++ digest ≠ ACCEPTED_PREFIX ++ other ∧
        CREDENTIAL_PREFIX ++ digest ≠ ROLLBACK_PREFIX ++ other := by
  refine ⟨?_, ?_, ?_⟩ <;> intro h <;> replace h := congrArg String.toList h <;>
    simp [CREDENTIAL_PREFIX, PENDING_PREFIX, ACCEPTED_PREFIX, ROLLBACK_PREFIX] at h

lemma credentialAccount_eq {name : String}
    (h : serverCredentialAccount origin trustIdentity = some name) :
    name = CREDENTIAL_PREFIX ++ digestText [origin, "\x00", trustIdentity] := by
  unfold serverCredentialAccount boundAccount at h
  split_ifs at h
  exact (Option.some.inj h).symm

/-- A credential of another origin stays. -/
lemma origin_of_removed {input : Activation} {entry : String × Json}
    (hnamed : WellNamed entry) (hfree : CollisionFree w input) (hentry : entry ∈ w.accounts)
    (hactive : isActiveFor origin entry.2 = true)
    (hok : activatePendingServerEnrollment input w.accounts = .ok next) (hgone : entry ∉ next) :
    origin = input.origin := by
  by_contra hne
  have hother : ¬ isActiveFor input.origin entry.2 = true := by
    intro hinput
    exact hne (Option.some.inj ((isActiveFor_origin hactive).symm.trans
      (isActiveFor_origin hinput)))
  obtain ⟨journal, hactivation⟩ := activation_of_ok hok
  obtain ⟨pendingAccount, target, stored, pending, hactivated⟩ := activation_ok hactivation
  have htouched : entry.1 ∈ touchedAccounts input := by
    by_contra hname
    exact hgone ((hactivated.mem hentry hname).mpr hother)
  have hsnapshot := hnamed origin hactive
  unfold isSnapshotAccount at hsnapshot
  obtain ⟨trustIdentity, htrust, haccount⟩ :=
    (Option.any_eq_true _ _).mp (Bool.and_eq_true_iff.mp hsnapshot).2
  have hname := credentialAccount_eq (eq_of_beq haccount)
  simp only [touchedAccounts, hactivated.ofTarget, hactivated.ofPending, Option.toList_some,
    mem_append, mem_cons, not_mem_nil, or_false] at htouched
  rcases htouched with (htarget | hpending) | hrollback | haccepted
  · have hinput := credentialAccount_eq hactivated.ofTarget
    rw [← htarget, hname, String.append_right_inj] at hinput
    exact hne (hfree.names entry hentry origin trustIdentity hactive htrust hinput)
  · obtain ⟨digest, hdigest⟩ := boundAccount_name hactivated.ofPending
    exact (credential_ne_enrollment _ digest).1 (hname.symm.trans (hpending.trans hdigest))
  · exact (credential_ne_enrollment _ _).2.2 (hname.symm.trans hrollback)
  · exact (credential_ne_enrollment _ _).2.1 (hname.symm.trans haccepted)

lemma consented_of_removed {input : Activation} {entry : String × Json}
    (hfits : ∀ e ∈ w.accounts, Fits w.minted e) (hfree : CollisionFree w input)
    (hentry : entry ∈ w.accounts) (hactive : isActiveFor input.origin entry.2 = true)
    (hok : activatePendingServerEnrollment input w.accounts = .ok next) :
    Consented w input := by
  obtain ⟨journal, hactivation⟩ := activation_of_ok hok
  obtain ⟨pendingAccount, target, stored, pending, hactivated⟩ := activation_ok hactivation
  obtain ⟨mint, hmint, hvalue, hpending⟩ :=
    (hfits _ (mem_of_get hactivated.ofStored)).written.decoded hactivated.decoded
  obtain ⟨-, -, -, -, -, horigin, htrust⟩ := decodePending_fields hactivated.decoded
  have hconsent := hactivated.consented
  have hsome : activeAccounts w.accounts input.origin ≠ [] :=
    ne_nil_of_mem (mem_activeAccounts.mpr ⟨hentry, hactive⟩)
  rw [consents, if_pos hsome] at hconsent
  obtain ⟨capability, hcapability, hchecks⟩ := (Option.any_eq_true _ _).mp hconsent
  simp only [Bool.and_eq_true, beq_iff_eq] at hchecks
  obtain ⟨⟨⟨⟨⟨-, hdigest⟩, -⟩, -⟩, -⟩, -⟩ := hchecks
  subst hpending
  have hmade : mint.mintReplacementConsent = true ∧ ∃ binding,
      mint.input.artifactBinding = some binding ∧
        capability = newCapability mint.input mint.fresh mint.accounts binding := by
    simp only [Mint.record, newRecord] at hcapability
    split at hcapability
    · rename_i hmade
      obtain ⟨binding, hbinding, hnew⟩ := Option.map_eq_some_iff.mp hcapability
      exact ⟨hmade, binding, hbinding, hnew.symm⟩
    · cases hcapability
  obtain ⟨hmade, binding, hbinding, hnew⟩ := hmade
  have hsame : activeAccounts mint.accounts input.origin ~ activeAccounts w.accounts input.origin := by
    refine hfree.accounts _ (mem_cons_of_mem _ (mem_map_of_mem hmint)) _ mem_cons_self ?_
    refine Subtype.ext ?_
    rw [hnew] at hdigest
    change digestAccountSnapshot mint.accounts mint.input.origin =
      digestAccountSnapshot w.accounts input.origin at hdigest
    change mint.input.origin = input.origin at horigin
    rw [horigin] at hdigest
    exact hdigest
  refine ⟨mint, hmint, binding, capability, ?_, hmade, hbinding, hcapability, hnew, horigin, htrust,
    hactivated.retryKey, ?_, hsame⟩
  · rw [pendingOf, hactivated.ofPending, Option.bind_some, hactivated.ofStored]
    exact congrArg some hvalue
  · rw [hnew]
    rfl

/-! ### One tuple until a removal -/

/-- Steps none of which removes the pending record of the origin and trust identity. -/
def Span (origin trustIdentity : String) : EnrollmentWorld → List EnrollmentStep → Prop
  | _, [] => True
  | w, s :: rest =>
    (∀ value, pendingOf w.accounts origin trustIdentity = some value →
      pendingOf (w.step s).accounts origin trustIdentity = some value) ∧
      Span origin trustIdentity (w.step s) rest

def Mint.isFor (origin trustIdentity : String) (mint : Mint) : Bool :=
  mint.input.origin == origin && mint.input.trustIdentity == trustIdentity

def PendingServerEnrollmentRecord.isFor (origin trustIdentity : String)
    (record : PendingServerEnrollmentRecord) : Bool :=
  record.origin == origin && record.trustIdentity == trustIdentity

/-- From `w` to `later`, the pending record is generated at most once, and every tuple a process is
handed is the same. -/
def OneTuple (origin trustIdentity : String) (w later : EnrollmentWorld) : Prop :=
  ∃ mints tuples tuple, later.minted = w.minted ++ mints ∧ later.prepared = w.prepared ++ tuples ∧
    (mints.filter (Mint.isFor origin trustIdentity)).length ≤ 1 ∧
      (∀ mint ∈ mints, mint.isFor origin trustIdentity = true → tuple = some mint.record) ∧
        ∀ record ∈ tuples, record.isFor origin trustIdentity = true → tuple = some record

/-- What a step generates and hands over. -/
inductive Gives (origin trustIdentity : String) (w : EnrollmentWorld) : EnrollmentWorld → Prop
  /-- Nothing of the origin and trust identity. -/
  | other {next : EnrollmentWorld} {mints : List Mint}
      {tuples : List PendingServerEnrollmentRecord}
      (hminted : next.minted = w.minted ++ mints) (hprepared : next.prepared = w.prepared ++ tuples)
      (hmints : ∀ mint ∈ mints, ¬ mint.isFor origin trustIdentity = true)
      (htuples : ∀ record ∈ tuples, ¬ record.isFor origin trustIdentity = true) :
      Gives origin trustIdentity w next
  /-- The stored tuple. -/
  | stored {next : EnrollmentWorld} {value : Json} {record : PendingServerEnrollmentRecord}
      (hstored : pendingOf w.accounts origin trustIdentity = some value)
      (hread : decodePendingServerEnrollment value origin trustIdentity = some record)
      (hminted : next.minted = w.minted) (hprepared : next.prepared = w.prepared ++ [record]) :
      Gives origin trustIdentity w next
  /-- A new tuple, which is stored. -/
  | minted {next : EnrollmentWorld} {mint : Mint}
      (hnone : pendingOf w.accounts origin trustIdentity = none)
      (hstored : pendingOf next.accounts origin trustIdentity = some (pendingValue mint.record))
      (hminted : next.minted = w.minted ++ [mint])
      (hprepared : next.prepared = w.prepared ++ [mint.record]) : Gives origin trustIdentity w next

lemma Gives.quiet {next : EnrollmentWorld} (hminted : next.minted = w.minted)
    (hprepared : next.prepared = w.prepared) : Gives origin trustIdentity w next :=
  @Gives.other _ _ _ _ _ [] [] (by simpa using hminted) (by simpa using hprepared) (by simp)
    (by simp)

lemma getPending_stored {record : PendingServerEnrollmentRecord}
    (h : getPendingServerEnrollment origin trustIdentity accounts = .ok (some record)) :
    ∃ value, pendingOf accounts origin trustIdentity = some value ∧
      decodePendingServerEnrollment value origin trustIdentity = some record := by
  unfold getPendingServerEnrollment at h
  obtain ⟨account, haccount, h⟩ := orInvalid_bind_ok h
  cases hmarker : markerForOrigin accounts origin with
  | error error =>
    rw [hmarker] at h
    cases h
  | ok marker =>
    rw [hmarker] at h
    cases marker with
    | some marker => cases h
    | none =>
      simp only [bind, Except.bind, Option.isSome_none, Bool.false_eq_true, if_false, pure,
        Except.pure] at h
      split at h
      · cases h
      · rename_i stored hstored
        have hof : pendingOf accounts origin trustIdentity = some stored := by
          rw [pendingOf, haccount, Option.bind_some, hstored]
        cases hread : decodePendingServerEnrollment stored origin trustIdentity with
        | none =>
          rw [hread] at h
          cases h
        | some found =>
          rw [hread] at h
          cases h
          exact ⟨stored, hof, hread⟩

omit [CredentialPlatform] in
lemma get_upsert {account : String} {value : Json} :
    Accounts.get (accounts.upsert (account, value)) account = some value := by
  unfold Accounts.get
  rw [Table.find_eq_some.mpr ⟨Table.mem_upsert.mpr (.inl rfl), rfl⟩]
  rfl

lemma step_gives (w : EnrollmentWorld) (s : EnrollmentStep) :
    Gives origin trustIdentity w (w.step s) := by
  cases s with
  | prepare process input mintReplacementConsent fresh =>
    simp only [EnrollmentWorld.step, EnrollmentWorld.prepare]
    cases hcall : getOrCreatePendingServerEnrollmentInternal input mintReplacementConsent fresh
      w.accounts with
    | error error => exact .quiet rfl rfl
    | ok result =>
      obtain ⟨accounts, record⟩ := result
      dsimp only [EnrollmentWorld.hand]
      by_cases hfor : input.origin = origin ∧ input.trustIdentity = trustIdentity
      · obtain ⟨rfl, rfl⟩ := hfor
        cases getOrCreate_handed hcall with
        | stored hstored hread =>
          rw [hstored]
          exact .stored hstored hread rfl rfl
        | minted haccount hnone =>
          rw [hnone]
          refine @Gives.minted _ _ _ _ _ ⟨w.accounts, input, mintReplacementConsent, fresh⟩ hnone ?_
            rfl rfl
          dsimp only
          rw [pendingOf, haccount, Option.bind_some, get_upsert]
          rfl
      · have hrecord : ¬ record.isFor origin trustIdentity = true := by
          intro h
          rw [PendingServerEnrollmentRecord.isFor, Bool.and_eq_true, beq_iff_eq, beq_iff_eq] at h
          cases getOrCreate_handed hcall with
          | stored _ hread =>
            obtain ⟨-, -, -, -, -, horigin, htrust⟩ := decodePending_fields hread
            exact hfor ⟨horigin.symm.trans h.1, htrust.symm.trans h.2⟩
          | minted _ _ => exact hfor h
        have hmint : ¬ Mint.isFor origin trustIdentity
            ⟨w.accounts, input, mintReplacementConsent, fresh⟩ = true := by
          intro h
          rw [Mint.isFor, Bool.and_eq_true, beq_iff_eq, beq_iff_eq] at h
          exact hfor h
        cases pendingOf w.accounts input.origin input.trustIdentity with
        | some value =>
          exact @Gives.other _ _ _ _ _ [] [record] (append_nil _).symm rfl (by simp)
            (by simpa using hrecord)
        | none => exact .other rfl rfl (by simpa using hmint) (by simpa using hrecord)
  | resume process of trust =>
    simp only [EnrollmentWorld.step, EnrollmentWorld.resume]
    split
    · rename_i record hread
      obtain ⟨value, hstored, hdecode⟩ := getPending_stored hread
      by_cases hfor : of = origin ∧ trust = trustIdentity
      · obtain ⟨rfl, rfl⟩ := hfor
        exact .stored hstored hdecode rfl rfl
      · refine @Gives.other _ _ _ _ _ [] [record] (append_nil _).symm rfl (by simp) ?_
        obtain ⟨-, -, -, -, -, horigin, htrust⟩ := decodePending_fields hdecode
        intro other hother h
        obtain rfl := mem_singleton.mp hother
        rw [PendingServerEnrollmentRecord.isFor, Bool.and_eq_true, beq_iff_eq, beq_iff_eq] at h
        exact hfor ⟨horigin.symm.trans h.1, htrust.symm.trans h.2⟩
    · exact .quiet rfl rfl
  | send process => exact .quiet rfl rfl
  | store credential => exact .quiet (after_minted _) (after_prepared _)
  | clear of trust retryKey => exact .quiet (after_minted _) (after_prepared _)
  | clearCredential of trust => exact .quiet (after_minted _) (after_prepared _)
  | clearTransaction expected => exact .quiet (after_minted _) (after_prepared _)
  | activate input => exact .quiet (after_minted _) (after_prepared _)
  | finalize of trust generationId => exact .quiet (after_minted _) (after_prepared _)
  | restore marker => exact .quiet (after_minted _) (after_prepared _)

/-- While a pending record stays, none is generated and it is what every process is handed. -/
lemma span_stored {value : Json} {later : List EnrollmentStep}
    (hspan : Span origin trustIdentity w later)
    (hstored : pendingOf w.accounts origin trustIdentity = some value) :
    ∃ mints tuples, (w.run later).minted = w.minted ++ mints ∧
      (w.run later).prepared = w.prepared ++ tuples ∧
        (∀ mint ∈ mints, ¬ mint.isFor origin trustIdentity = true) ∧
          ∀ record ∈ tuples, record.isFor origin trustIdentity = true →
            decodePendingServerEnrollment value origin trustIdentity = some record := by
  induction later generalizing w with
  | nil => exact ⟨[], [], (append_nil _).symm, (append_nil _).symm, by simp, by simp⟩
  | cons s rest ih =>
    obtain ⟨hkeep, hspan⟩ := hspan
    obtain ⟨mints, tuples, hminted, hprepared, hmints, htuples⟩ := ih hspan (hkeep _ hstored)
    change (w.run (s :: rest)).minted = _ at hminted
    change (w.run (s :: rest)).prepared = _ at hprepared
    have hgives : Gives origin trustIdentity w (w.step s) := step_gives w s
    cases hgives with
    | @other before given hm hp hbefore hgiven =>
      rw [hm, append_assoc] at hminted
      rw [hp, append_assoc] at hprepared
      refine ⟨before ++ mints, given ++ tuples, hminted, hprepared, ?_, ?_⟩
      · intro mint hmint
        rcases mem_append.mp hmint with hmint | hmint
        · exact hbefore mint hmint
        · exact hmints mint hmint
      · intro record hrecord hfor
        rcases mem_append.mp hrecord with hrecord | hrecord
        · exact absurd hfor (hgiven record hrecord)
        · exact htuples record hrecord hfor
    | @stored found record hfound hread hm hp =>
      rw [hm] at hminted
      rw [hp, append_assoc] at hprepared
      refine ⟨mints, [record] ++ tuples, hminted, hprepared, hmints, ?_⟩
      intro other hother hfor
      rcases mem_append.mp hother with hother | hother
      · obtain rfl := mem_singleton.mp hother
        cases hstored.symm.trans hfound
        exact hread
      · exact htuples other hother hfor
    | minted hnone _ _ _ => cases hstored.symm.trans hnone

/-- A span has one tuple. -/
lemma span_oneTuple {later : List EnrollmentStep} (hspan : Span origin trustIdentity w later) :
    OneTuple origin trustIdentity w (w.run later) := by
  induction later generalizing w with
  | nil => exact ⟨[], [], none, (append_nil _).symm, (append_nil _).symm, by simp, by simp, by simp⟩
  | cons s rest ih =>
    cases hpending : pendingOf w.accounts origin trustIdentity with
    | some value =>
      obtain ⟨mints, tuples, hminted, hprepared, hmints, htuples⟩ := span_stored hspan hpending
      refine ⟨mints, tuples, _, hminted, hprepared, ?_, fun mint hmint hfor =>
        absurd hfor (hmints mint hmint), htuples⟩
      rw [filter_eq_nil_iff.mpr hmints]
      exact Nat.zero_le 1
    | none =>
      obtain ⟨-, hrest⟩ := hspan
      have hgives : Gives origin trustIdentity w (w.step s) := step_gives w s
      cases hgives with
      | @other before given hm hp hbefore hgiven =>
        obtain ⟨mints, tuples, tuple, hminted, hprepared, hlength, hmints, htuples⟩ := ih hrest
        rw [hm, append_assoc] at hminted
        rw [hp, append_assoc] at hprepared
        refine ⟨before ++ mints, given ++ tuples, tuple, hminted, hprepared, ?_, ?_, ?_⟩
        · rw [filter_append, filter_eq_nil_iff.mpr hbefore, nil_append]
          exact hlength
        · intro mint hmint hfor
          rcases mem_append.mp hmint with hmint | hmint
          · exact absurd hfor (hbefore mint hmint)
          · exact hmints mint hmint hfor
        · intro record hrecord hfor
          rcases mem_append.mp hrecord with hrecord | hrecord
          · exact absurd hfor (hgiven record hrecord)
          · exact htuples record hrecord hfor
      | stored hstored _ _ _ => cases hstored.symm.trans hpending
      | @minted mint _ hstored hm hp =>
        obtain ⟨mints, tuples, hminted, hprepared, hmints, htuples⟩ := span_stored hrest hstored
        rw [hm, append_assoc] at hminted
        rw [hp, append_assoc] at hprepared
        refine ⟨[mint] ++ mints, [mint.record] ++ tuples, some mint.record, hminted, hprepared,
          ?_, ?_, ?_⟩
        · rw [filter_append, filter_eq_nil_iff.mpr hmints, append_nil]
          exact length_filter_le _ _
        · intro other hother hfor
          rcases mem_append.mp hother with hother | hother
          · rw [mem_singleton.mp hother]
          · exact absurd hfor (hmints other hother)
        · intro record hrecord hfor
          rcases mem_append.mp hrecord with hrecord | hrecord
          · rw [mem_singleton.mp hrecord]
          · rw [decode_pendingValue (htuples record hrecord hfor)]

/-! ### Whole runs -/

lemma step_minted {s : EnrollmentStep} {mint : Mint} (h : mint ∈ (w.step s).minted) :
    mint ∈ w.minted ∨ (∃ process, s = .prepare process mint.input mint.mintReplacementConsent
      mint.fresh) ∧ mint.accounts = w.accounts := by
  cases s with
  | prepare process input mintReplacementConsent fresh =>
    simp only [EnrollmentWorld.step, EnrollmentWorld.prepare] at h
    cases hcall : getOrCreatePendingServerEnrollmentInternal input mintReplacementConsent fresh
      w.accounts with
    | error error =>
      rw [hcall] at h
      exact .inl h
    | ok result =>
      rw [hcall] at h
      dsimp only [EnrollmentWorld.hand] at h
      cases hpending : pendingOf w.accounts input.origin input.trustIdentity with
      | some value =>
        rw [hpending] at h
        exact .inl h
      | none =>
        rw [hpending] at h
        rcases mem_append.mp h with h | h
        · exact .inl h
        · obtain rfl := mem_singleton.mp h
          exact .inr ⟨⟨process, rfl⟩, rfl⟩
  | resume process of trust =>
    simp only [EnrollmentWorld.step, EnrollmentWorld.resume] at h
    split at h
    · exact .inl h
    · exact .inl h
  | send process => exact .inl h
  | store credential => exact .inl (mem_after_minted h)
  | clear of trust retryKey => exact .inl (mem_after_minted h)
  | clearCredential of trust => exact .inl (mem_after_minted h)
  | clearTransaction expected => exact .inl (mem_after_minted h)
  | activate input => exact .inl (mem_after_minted h)
  | finalize of trust generationId => exact .inl (mem_after_minted h)
  | restore marker => exact .inl (mem_after_minted h)

/-- A record was generated by a step of the run, from the accounts of that moment. -/
lemma run_minted {steps : List EnrollmentStep} {mint : Mint} (h : mint ∈ (w.run steps).minted) :
    mint ∈ w.minted ∨ ∃ k process, steps[k]? = some (.prepare process mint.input
      mint.mintReplacementConsent mint.fresh) ∧
        mint.accounts = (w.run (steps.take k)).accounts := by
  induction steps generalizing w with
  | nil => exact .inl h
  | cons s rest ih =>
    rcases ih h with h | ⟨k, process, hstep, haccounts⟩
    · rcases step_minted h with h | ⟨⟨process, rfl⟩, haccounts⟩
      · exact .inl h
      · exact .inr ⟨0, process, rfl, haccounts⟩
    · exact .inr ⟨k + 1, process, hstep, haccounts⟩

/-- In every run, an activation removes credentials only with the consent to remove exactly these,
minted over the accounts of an earlier moment, and until a removal there is one tuple to prepare an
exchange with. -/
theorem replacement_consent_bound (hstart : NoEnrollment accounts) (steps : List EnrollmentStep) :
    (∀ input next, activatePendingServerEnrollment input
      ((EnrollmentWorld.start accounts).run steps).accounts = .ok next →
      CollisionFree ((EnrollmentWorld.start accounts).run steps) input →
      ∀ origin, ∀ entry ∈ ((EnrollmentWorld.start accounts).run steps).accounts,
        isActiveFor origin entry.2 = true → entry ∉ next →
          origin = input.origin ∧ Consented ((EnrollmentWorld.start accounts).run steps) input) ∧
      (∀ mint ∈ ((EnrollmentWorld.start accounts).run steps).minted, ∃ k process,
        steps[k]? = some (.prepare process mint.input mint.mintReplacementConsent mint.fresh) ∧
          mint.accounts = ((EnrollmentWorld.start accounts).run (steps.take k)).accounts) ∧
      ∀ origin trustIdentity later,
        Span origin trustIdentity ((EnrollmentWorld.start accounts).run steps) later →
          OneTuple origin trustIdentity ((EnrollmentWorld.start accounts).run steps)
            (((EnrollmentWorld.start accounts).run steps).run later) := by
  have hfits := run_fits (start_fits hstart) steps
  refine ⟨?_, ?_, fun _ _ _ hspan => span_oneTuple hspan⟩
  · intro input next hok hfree origin entry hentry hactive hgone
    obtain rfl := origin_of_removed (hfits entry hentry).named hfree hentry hactive hok hgone
    exact ⟨rfl, consented_of_removed hfits hfree hentry hactive hok⟩
  · intro mint hmint
    rcases run_minted hmint with h | h
    · cases h
    · exact h

end Consent

section Instances

attribute [local instance] plainCredentials

def teamFresh : FreshValues :=
  ⟨"7d3f4c1e-9a57-4b7b-8c1d-2f6e7a8b9c0d", "8d3f4c1e-9a57-4b7b-8c1d-2f6e7a8b9c0d",
    "BBBBBBBBBBBBBBBBBBBBBBBBBBBBBBBBBBBBBBBBBBB"⟩

def laterFresh : FreshValues :=
  ⟨"9d3f4c1e-9a57-4b7b-8c1d-2f6e7a8b9c0d", "8d3f4c1e-9a57-4b7b-8c1d-2f6e7a8b9c0d",
    "CCCCCCCCCCCCCCCCCCCCCCCCCCCCCCCCCCCCCCCCCCC"⟩

def teamInvitation : String := "DDDDDDDDDDDDDDDDDDDDDDDDDDDDDDDDDDDDDDDDDDD"

def teamRequest : EnrollmentRequest := ⟨teamOrigin, teamTrust, teamInvitation, none, none⟩

def boundRequest : EnrollmentRequest :=
  { teamRequest with
    artifactBinding := some ⟨1, digestText [teamInvitation], teamOrigin, digestText ["ca"],
      teamTrust, "owner", digestText ["generation"]⟩ }

/-- The consent to replace the stored credential. -/
def consentWorld : EnrollmentWorld :=
  (EnrollmentWorld.start enrolledAccounts).run [.prepare 0 boundRequest true teamFresh]

def consentActivation : Activation where
  origin := teamOrigin
  trustIdentity := teamTrust
  retryKey := teamFresh.retryKey
  credential := teamFresh.credential
  clientId := "6d3f4c1e-9a57-4b7b-8c1d-2f6e7a8b9c0d"
  createCube := true
  generationId := none
  previousPointer := none
  replacementCapabilityToken := some teamFresh.token

lemma noEnrollment_enrolled : NoEnrollment enrolledAccounts := by
  intro entry hentry
  have hactive := enrolled_kind entry hentry
  refine ⟨fun _ _ => decodePending_passedOver (passedOver_of_version ?_), ?_,
    wellNamed_of_snapshot (isSnapshotAccount_of_active hactive)⟩
  · have h := isActiveFor_of_active hactive
    unfold isActiveFor at h
    exact (Bool.and_eq_true_iff.mp h).1
  · obtain rfl := mem_singleton.mp hentry
    simp [encodeServerCredentialRecord, Json.field?, lookup_cons]

lemma consentWorld_active :
    activeAccounts consentWorld.accounts teamOrigin = activeAccounts enrolledAccounts teamOrigin :=
  rfl

/-- The consented credential replaces the stored one, of the only origin there is. -/
lemma consentWorld_replaced :
    consentWorld.accounts.rows.all (fun e => e.2.string? "origin" == some teamOrigin) = true ∧
      (activatePendingServerEnrollment consentActivation
        consentWorld.accounts).toOption.any (fun next => next.rows.all (fun e =>
          e.2.string? "credential" != some teamCredential.credential)) = true := by
  decide +kernel

lemma consentWorld_collisionFree : CollisionFree consentWorld consentActivation where
  accounts := by
    have hall : ∀ active ∈ consentWorld.snapshots teamOrigin,
        active = activeAccounts enrolledAccounts teamOrigin := by
      have hminted : consentWorld.minted =
          [⟨enrolledAccounts, boundRequest, true, teamFresh⟩] := rfl
      intro active hactive
      rw [EnrollmentWorld.snapshots, hminted, consentWorld_active] at hactive
      simpa using hactive
    intro active hactive other hother _
    rw [hall active hactive, hall other hother]
  names := by
    intro entry hentry origin _ hactive _ _
    have horigin := eq_of_beq (all_eq_true.mp consentWorld_replaced.1 entry hentry)
    exact Option.some.inj ((isActiveFor_origin hactive).symm.trans horigin)

theorem replacement_consent_bound_case :
    ∃ next, activatePendingServerEnrollment consentActivation consentWorld.accounts = .ok next ∧
      Consented consentWorld consentActivation := by
  obtain ⟨next, hnext, hall⟩ := (Option.any_eq_true _ _).mp consentWorld_replaced.2
  have hresult : activatePendingServerEnrollment consentActivation consentWorld.accounts =
      .ok next := by
    cases h : activatePendingServerEnrollment consentActivation consentWorld.accounts with
    | error error =>
      rw [h] at hnext
      cases hnext
    | ok other =>
      rw [h] at hnext
      cases hnext
      rfl
  have hentry : ((serverCredentialAccount teamOrigin teamTrust).getD "",
      encodeServerCredentialRecord teamCredential) ∈ consentWorld.accounts :=
    mem_cons_self
  have hgone : ((serverCredentialAccount teamOrigin teamTrust).getD "",
      encodeServerCredentialRecord teamCredential) ∉ next := by
    intro hmem
    have hnot := all_eq_true.mp hall _ hmem
    simp [encodeServerCredentialRecord, Json.string?, Json.field?, lookup_cons] at hnot
  have hactive := isActiveFor_of_active (enrolled_kind _ (mem_singleton_self _))
  exact ⟨next, hresult, ((replacement_consent_bound noEnrollment_enrolled
    [.prepare 0 boundRequest true teamFresh]).1 consentActivation next hresult
      consentWorld_collisionFree teamOrigin _ hentry hactive hgone).2⟩

def emptyAccounts : Accounts := ⟨[], nodup_nil⟩

/-- A tuple read by two processes, and removed by one of them after the server refused it. -/
def refusedWorld : EnrollmentWorld :=
  (EnrollmentWorld.start emptyAccounts).run [.prepare 0 teamRequest false teamFresh,
    .resume 1 teamOrigin teamTrust, .send 1, .clear teamOrigin teamTrust teamFresh.retryKey]

/-- The process enrolls again, and the other one sends what it read before. -/
def staleSteps : List EnrollmentStep :=
  [.prepare 1 teamRequest false laterFresh, .send 0, .send 1]

lemma staleSteps_sent :
    (pendingOf refusedWorld.accounts teamOrigin teamTrust).isNone = true ∧
      ∃ first ∈ (refusedWorld.run staleSteps).sent.drop refusedWorld.sent.length,
        ∃ second ∈ (refusedWorld.run staleSteps).sent.drop refusedWorld.sent.length,
          first.isFor teamOrigin teamTrust = true ∧ second.isFor teamOrigin teamTrust = true ∧
            first.retryKey ≠ second.retryKey := by
  decide +kernel

theorem stale_request_sent :
    NoEnrollment emptyAccounts ∧ Span teamOrigin teamTrust refusedWorld staleSteps ∧
      ∃ first ∈ (refusedWorld.run staleSteps).sent.drop refusedWorld.sent.length,
        ∃ second ∈ (refusedWorld.run staleSteps).sent.drop refusedWorld.sent.length,
          first.isFor teamOrigin teamTrust = true ∧ second.isFor teamOrigin teamTrust = true ∧
            first.retryKey ≠ second.retryKey := by
  obtain ⟨hnone, hsent⟩ := staleSteps_sent
  refine ⟨fun entry hentry => absurd hentry not_mem_nil, ⟨?_, fun _ h => h, fun _ h => h, trivial⟩,
    hsent⟩
  intro value hvalue
  rw [hvalue] at hnone
  cases hnone

end Instances

end BorgClient.Credentials
