import BorgClient.Credentials.Transaction
import BorgClient.Credentials.TrustCommit

/-!
# All or nothing

Whatever calls of a commit and of the later recoveries fail, and wherever a process dies: without an
accepted marker the pointer, the credentials and the pending record are those before the commit or
those after it, unless a recovery reports its finalization as failed after it took effect.
-/

namespace BorgClient.Credentials
open List Tables Faults

section Programs

variable [CredentialPlatform] {prior w : TrustWorld} {input : Activation} {generationId : String}
  {marker : AcceptedEnrollmentMarker} {fates : Site → Fate}

/-! ### States of a commit -/

/-- The activation that a commit makes. -/
def commitActivation (prior : TrustWorld) (input : Activation) (generationId : String) :
    Activation :=
  { input with generationId := some generationId, previousPointer := prior.current }

/-- Where a commit, or a recovery from it, stands. -/
inductive Phase (prior : TrustWorld) (input : Activation) (generationId : String) :
    TrustWorld → Prop
  | before {w : TrustWorld} (haccounts : w.accounts = prior.accounts)
      (hpointer : w.current = prior.current) : Phase prior input generationId w
  | marked {w : TrustWorld} {marker : AcceptedEnrollmentMarker} {pendingAccount target : String}
      {stored : Json}
      (ht : Transaction (commitActivation prior input generationId) prior.accounts w.accounts marker
        pendingAccount target stored)
      (hpointer : w.current = prior.current ∨
        w.pointer = some (stagedPointer input generationId)) : Phase prior input generationId w
  | restored {w : TrustWorld} {next : Accounts} {marker : AcceptedEnrollmentMarker}
      {pendingAccount target : String} {stored : Json}
      (ht : Transaction (commitActivation prior input generationId) prior.accounts next marker
        pendingAccount target stored)
      (hrestore : restoreAcceptedEnrollmentAccounts marker next = .ok w.accounts)
      (hpointer : w.current = prior.current) : Phase prior input generationId w
  | committed {w : TrustWorld} {next : Accounts} {marker : AcceptedEnrollmentMarker}
      {pendingAccount target trustIdentity finalized : String} {stored : Json}
      (ht : Transaction (commitActivation prior input generationId) prior.accounts next marker
        pendingAccount target stored)
      (hfinalize : finalizeAcceptedEnrollment input.origin trustIdentity finalized next =
        .ok w.accounts)
      (hpointer : w.pointer = some (stagedPointer input generationId)) :
      Phase prior input generationId w

structure Reached (prior : TrustWorld) (input : Activation) (generationId : String)
    (w : TrustWorld) : Prop where
  legacy : w.legacy = prior.legacy
  phase : Phase prior input generationId w

/-- The marker is there, and the pointer before or after the commit's. -/
structure Marked (prior : TrustWorld) (input : Activation) (generationId : String)
    (marker : AcceptedEnrollmentMarker) (w : TrustWorld) : Prop where
  legacy : w.legacy = prior.legacy
  accounts : ∃ pendingAccount target stored,
    Transaction (commitActivation prior input generationId) prior.accounts w.accounts marker
      pendingAccount target stored
  pointer : w.current = prior.current ∨ w.pointer = some (stagedPointer input generationId)

lemma Marked.reached (h : Marked prior input generationId marker w) :
    Reached prior input generationId w := by
  obtain ⟨pendingAccount, target, stored, ht⟩ := h.accounts
  exact ⟨h.legacy, .marked ht h.pointer⟩

lemma markerForOrigin_none {accounts : Accounts} {origin : String}
    (h : ∀ value, (serverAcceptedEnrollmentAccount origin, value) ∉ accounts) :
    markerForOrigin accounts origin = .ok none := by
  unfold markerForOrigin
  rw [get_eq_none_iff.mpr h]

/-- Where a marker is read, the commit stands between its activation and its end. -/
lemma Reached.marked (hprior : prior.accounts.get (serverAcceptedEnrollmentAccount input.origin) =
    none) (h : Reached prior input generationId w)
    (hread : markerForOrigin w.accounts input.origin = .ok (some marker)) :
    Marked prior input generationId marker w := by
  have hgone : (∀ value, (serverAcceptedEnrollmentAccount input.origin, value) ∉ w.accounts) →
      Marked prior input generationId marker w := by
    intro hnone
    rw [markerForOrigin_none hnone] at hread
    cases hread
  cases h.phase with
  | before haccounts _ =>
    rw [haccounts] at hgone
    exact hgone (get_eq_none_iff.mp hprior)
  | marked ht hpointer =>
    obtain rfl := marker_read (fun _ => ht.accepted_mem) hread
    exact ⟨h.legacy, ⟨_, _, _, ht⟩, hpointer⟩
  | restored ht hrestore _ =>
    exact hgone (fun value hmem => (((ht.mem_restored hrestore).2 _).mp hmem).1 rfl)
  | committed ht hfinalize _ =>
    exact hgone (fun value hmem => ((ht.mem_finalized hfinalize).mp hmem).2.1 rfl)

/-! ### Calls -/

omit [CredentialPlatform] in
lemma changeAccounts_ends {site : Site} {operation : Accounts → Except CredentialError Accounts}
    {Q : Unit → TrustWorld → Prop} {E D : TrustWorld → Prop} (hthrows : E w) (hdies : D w)
    (hdone : ∀ accounts, operation w.accounts = .ok accounts →
      Q () { w with accounts := accounts } ∧
        (fates site = .lost → E { w with accounts := accounts }) ∧
          D { w with accounts := accounts }) :
    (changeAccounts site operation).Ends fates w Q E D := by
  refine Act.write_ends hthrows hdies (fun t _ ht => ?_)
  obtain ⟨accounts, haccounts, rfl⟩ := Option.map_eq_some_iff.mp ht
  refine hdone accounts ?_
  cases hresult : operation w.accounts with
  | error error =>
    rw [hresult] at haccounts
    cases haccounts
  | ok other =>
    rw [hresult] at haccounts
    cases haccounts
    rfl

omit [CredentialPlatform] in
lemma publish_ends {site : Site} {pointer : EnrollmentTrustPointer} {P : TrustWorld → Prop}
    (h : P w) (hwritten : (fates site).takesEffect = true → P { w with pointer := some pointer }) :
    (publishTrustPointer site pointer).Ends fates w (fun _ => P) P P := by
  refine Act.write_ends h h (fun t heffect ht => ?_)
  cases ht
  exact ⟨hwritten heffect, fun _ => hwritten heffect, hwritten heffect⟩

lemma markerRead_ends {site : Site} {E D : TrustWorld → Prop} (hthrows : E w) (hdies : D w) :
    (getAcceptedEnrollmentMarker site input.origin).Ends fates w
      (fun found t => t = w ∧ markerForOrigin w.accounts input.origin = .ok found) E D := by
  refine Act.read_ends hthrows hdies (fun found _ hfound => ⟨rfl, ?_⟩)
  cases hread : markerForOrigin w.accounts input.origin with
  | error error =>
    rw [hread] at hfound
    cases hfound
  | ok other =>
    rw [hread] at hfound
    cases hfound
    rfl

omit [CredentialPlatform] in
lemma readGeneration_ends {site : Site} {id identity : String} {P : TrustWorld → Prop} (h : P w) :
    (readGeneration site id identity).Ends fates w (fun _ => P) P P :=
  Act.read_ends h h (fun _ _ _ => h)

/-! ### Programs -/

lemma Marked.previous (h : Marked prior input generationId marker w) :
    marker.previousPointer = prior.current := by
  obtain ⟨_, _, _, ht⟩ := h.accounts
  obtain ⟨_, -, rfl⟩ := ht.ofMarker
  rfl

lemma Marked.withPointer {pointer : Option EnrollmentTrustPointer}
    (h : Marked prior input generationId marker w)
    (hpointer : pointer.or w.legacy = prior.current ∨
      pointer = some (stagedPointer input generationId)) :
    Marked prior input generationId marker { w with pointer := pointer } :=
  ⟨h.legacy, h.accounts, hpointer⟩

/-- The pointer is rolled back first. -/
lemma restorePointer_ends (h : Marked prior input generationId marker w) :
    (restoreEnrollmentPointer marker).Ends fates w
      (fun _ t => Marked prior input generationId marker t ∧ t.current = prior.current)
      (Reached prior input generationId) (Reached prior input generationId) := by
  have hprevious := h.previous
  unfold restoreEnrollmentPointer
  cases hcase : marker.previousPointer with
  | none =>
    have hlegacy : w.legacy = none := by
      rw [hprevious, TrustWorld.current, Option.or_eq_none_iff] at hcase
      rw [h.legacy]
      exact hcase.2
    have hnone : (none : Option EnrollmentTrustPointer).or w.legacy = prior.current := by
      rw [hlegacy, ← hprevious, hcase]
      rfl
    have hafter := h.withPointer (.inl hnone)
    refine Act.bind_ends (Q := fun _ t => Marked prior input generationId marker t ∧
      t.current = prior.current) (Act.write_ends h.reached h.reached ?_) ?_
    · intro t _ ht
      cases ht
      exact ⟨⟨hafter, hnone⟩, fun _ => hafter.reached, hafter.reached⟩
    · rintro _ t ⟨hmarked, hcurrent⟩
      refine Act.bind_ends (Q := fun _ s => s = t) (Act.read_ends hmarked.reached hmarked.reached
        (fun _ _ _ => rfl)) ?_
      rintro found s rfl
      cases found with
      | none => exact Act.pure_ends ⟨hmarked, hcurrent⟩
      | some _ => exact Act.throw_ends hmarked.reached
  | some previous =>
    have hsome : (some previous).or w.legacy = prior.current := by
      rw [← hprevious, hcase]
      rfl
    have hafter := h.withPointer (.inl hsome)
    refine Act.bind_ends (Q := fun _ t => t = w) (Act.read_ends h.reached h.reached
      (fun _ _ _ => rfl)) ?_
    rintro _ t rfl
    refine Act.bind_ends (Q := fun _ s => Marked prior input generationId marker s ∧
      s.current = prior.current) (Act.write_ends h.reached h.reached ?_) ?_
    · intro s _ hs
      cases hs
      exact ⟨⟨hafter, hsome⟩, fun _ => hafter.reached, hafter.reached⟩
    · rintro _ s ⟨hmarked, hcurrent⟩
      refine Act.bind_ends (Q := fun _ r => r = s) (Act.read_ends hmarked.reached hmarked.reached
        (fun _ _ _ => rfl)) ?_
      rintro found r rfl
      cases found with
      | none => exact Act.throw_ends hmarked.reached
      | some restored =>
        dsimp only
        split
        · exact Act.pure_ends ⟨hmarked, hcurrent⟩
        · exact Act.throw_ends hmarked.reached

lemma rollBack_ends (h : Marked prior input generationId marker w) :
    (rollBack marker).Ends fates w (fun _ => Reached prior input generationId)
      (Reached prior input generationId) (Reached prior input generationId) := by
  refine Act.bind_ends (restorePointer_ends h) ?_
  rintro _ t ⟨hmarked, hcurrent⟩
  refine changeAccounts_ends hmarked.reached hmarked.reached (fun accounts hrestore => ?_)
  obtain ⟨_, _, _, ht⟩ := hmarked.accounts
  have hrestored : Reached prior input generationId { t with accounts := accounts } :=
    ⟨hmarked.legacy, .restored ht hrestore hcurrent⟩
  exact ⟨hrestored, fun _ => hrestored, hrestored⟩

/-- A recovery whose finalization took effect and was reported as failed, and that rolled the
pointer back then. -/
def Harmful (prior : TrustWorld) (fates : Site → Fate) : Prop :=
  fates .finalize = .lost ∧ (prior.current ≠ none → fates .readPrevious = .works) ∧
    (fates .rollBackPointer).takesEffect = true

/-- After a finalization that was reported as failed, a rollback stops before it writes. -/
lemma rollBack_stops (hprevious : marker.previousPointer = prior.current)
    (hlost : fates .finalize = .lost) (hfates : ¬ Harmful prior fates) {P : TrustWorld → Prop}
    (h : P w) : (rollBack marker).Ends fates w (fun _ => P) P P := by
  have hnot : (prior.current ≠ none → fates .readPrevious = .works) →
      ¬ (fates .rollBackPointer).takesEffect = true :=
    fun hread heffect => hfates ⟨hlost, hread, heffect⟩
  refine Act.bind_ends (Q := fun _ _ => False) ?_ (fun _ _ hfalse => hfalse.elim)
  unfold restoreEnrollmentPointer
  cases hcase : marker.previousPointer with
  | none =>
    refine Act.bind_ends (Q := fun _ _ => False) (Act.write_ends h h ?_)
      (fun _ _ hfalse => hfalse.elim)
    intro t heffect _
    exact absurd heffect (hnot (fun hsome => absurd (hprevious.symm.trans hcase) hsome))
  | some previous =>
    refine Act.bind_ends (Q := fun _ t => t = w ∧ fates .readPrevious = .works)
      (Act.read_ends h h (fun _ hworks _ => ⟨rfl, hworks⟩)) ?_
    rintro _ t ⟨rfl, hworks⟩
    refine Act.bind_ends (Q := fun _ _ => False) (Act.write_ends h h ?_)
      (fun _ _ hfalse => hfalse.elim)
    intro s heffect _
    exact absurd heffect (hnot (fun _ => hworks))

lemma Marked.finalized {trustIdentity finalized : String} {accounts : Accounts}
    (h : Marked prior input generationId marker w)
    (hpointer : w.pointer = some (stagedPointer input generationId))
    (hfinalize : finalizeAcceptedEnrollment input.origin trustIdentity finalized w.accounts =
      .ok accounts) :
    Reached prior input generationId { w with accounts := accounts } := by
  obtain ⟨_, _, _, ht⟩ := h.accounts
  exact ⟨h.legacy, .committed ht hfinalize hpointer⟩

/-- A recovery leaves the commit in one of its states. -/
lemma recover_ends (hprior : prior.accounts.get (serverAcceptedEnrollmentAccount input.origin) =
    none) (h : Reached prior input generationId w) (hfates : ¬ Harmful prior fates) :
    (recoverAcceptedEnrollment input.origin).Ends fates w (fun _ => Reached prior input generationId)
      (Reached prior input generationId) (Reached prior input generationId) := by
  unfold recoverAcceptedEnrollment
  refine Act.bind_ends (markerRead_ends h h) ?_
  rintro found _ ⟨rfl, hread⟩
  cases found with
  | none => exact Act.pure_ends h
  | some marker =>
    have hmarked := h.marked hprior hread
    have hstaged : (⟨input.origin, marker.generationId, marker.trustIdentity⟩ :
        EnrollmentTrustPointer) = stagedPointer input generationId := by
      obtain ⟨_, _, _, ht⟩ := hmarked.accounts
      obtain ⟨other, hother, rfl⟩ := ht.ofMarker
      cases hother
      rfl
    refine Act.catch_ends (E := fun t => Marked prior input generationId marker t ∨
      Reached prior input generationId t ∧ fates .finalize = .lost) ?_ ?_
    · refine Act.bind_ends (Q := fun _ => Marked prior input generationId marker)
        (Act.read_ends (.inl hmarked) h (fun _ _ _ => hmarked)) ?_
      intro _ t ht
      have hpublished := ht.withPointer (.inr (congrArg some hstaged))
      refine Act.bind_ends (Q := fun _ s => Marked prior input generationId marker s ∧
        s.pointer = some (stagedPointer input generationId))
        (Act.write_ends (.inl ht) ht.reached ?_) ?_
      · intro s _ hs
        cases hs
        exact ⟨⟨hpublished, congrArg some hstaged⟩, fun _ => .inl hpublished, hpublished.reached⟩
      · rintro _ s ⟨hs, hpointer⟩
        refine changeAccounts_ends (.inl hs) hs.reached (fun accounts hfinalize => ?_)
        have hreached := hs.finalized hpointer hfinalize
        exact ⟨hreached, fun hlost => .inr ⟨hreached, hlost⟩, hreached⟩
    · intro t ht
      refine Act.bind_ends (Q := fun _ => Reached prior input generationId) ?_
        (fun _ _ hs => Act.throw_ends hs)
      rcases ht with ht | ⟨ht, hlost⟩
      · exact rollBack_ends ht
      · exact rollBack_stops hmarked.previous hlost hfates ht

lemma restore_ends {expected : AcceptedEnrollmentMarker}
    (hprior : prior.accounts.get (serverAcceptedEnrollmentAccount input.origin) = none)
    (h : Reached prior input generationId w) (horigin : expected.origin = input.origin) :
    (restoreBorgServerEnrollment expected).Ends fates w
      (fun _ => Reached prior input generationId) (Reached prior input generationId)
      (Reached prior input generationId) := by
  unfold restoreBorgServerEnrollment
  rw [horigin]
  refine Act.bind_ends (markerRead_ends h h) ?_
  rintro found _ ⟨rfl, hread⟩
  cases found with
  | none => exact Act.pure_ends h
  | some marker =>
    dsimp only
    split
    · rename_i hsame
      subst hsame
      exact Act.bind_ends (rollBack_ends (h.marked hprior hread))
        (fun _ _ ht => Act.pure_ends ht)
    · exact Act.pure_ends h

/-- The pointer a commit starts from is the one of before. -/
lemma previousPointer_ends :
    previousTrustPointer.Ends fates prior
      (fun found t => found = prior.current ∧ t.accounts = prior.accounts ∧
        t.legacy = prior.legacy ∧ t.current = prior.current)
      (Reached prior input generationId) (Reached prior input generationId) := by
  have hbefore : Reached prior input generationId prior := ⟨rfl, .before rfl rfl⟩
  refine Act.bind_ends (Q := fun found t => found = prior.pointer ∧ t = prior)
    (Act.read_ends hbefore hbefore ?_) ?_
  · intro found _ hfound
    cases hfound
    exact ⟨rfl, rfl⟩
  · rintro _ t ⟨rfl, ht⟩
    rw [ht]
    cases hpointer : prior.pointer with
    | some pointer =>
      refine Act.pure_ends ⟨?_, rfl, rfl, rfl⟩
      rw [TrustWorld.current, hpointer]
      rfl
    | none =>
      have hcurrent : prior.current = prior.legacy := by
        rw [TrustWorld.current, hpointer]
        rfl
      refine Act.bind_ends (Q := fun found t => found = prior.legacy ∧ t = prior)
        (Act.read_ends hbefore hbefore ?_) ?_
      · intro found _ hfound
        cases hfound
        exact ⟨rfl, rfl⟩
      · rintro _ t ⟨rfl, ht⟩
        rw [ht]
        cases hlegacy : prior.legacy with
        | none => exact Act.pure_ends ⟨(hcurrent.trans hlegacy).symm, rfl, hlegacy, rfl⟩
        | some pointer =>
          have hafter : ({ prior with pointer := some pointer } : TrustWorld).current =
              prior.current := (hcurrent.trans hlegacy).symm
          have hmigrated : Reached prior input generationId
              { prior with pointer := some pointer } := ⟨rfl, .before rfl hafter⟩
          refine Act.bind_ends (Q := fun _ t => t.accounts = prior.accounts ∧
            t.legacy = prior.legacy ∧ t.current = prior.current)
            (Act.write_ends hbefore hbefore ?_) ?_
          · intro t _ ht
            cases ht
            exact ⟨⟨rfl, rfl, hafter⟩, fun _ => hmigrated, hmigrated⟩
          · intro _ t ht
            exact Act.pure_ends
              ⟨(hcurrent.trans hlegacy).symm, ht.1, ht.2.1.trans hlegacy, ht.2.2⟩

/-- A commit ends in one of its states, however it ends. -/
lemma commit_ends (hprior : prior.accounts.get (serverAcceptedEnrollmentAccount input.origin) =
    none) :
    (commitTrust input generationId).Ends fates prior (fun _ => Reached prior input generationId)
      (Reached prior input generationId) (Reached prior input generationId) := by
  unfold commitTrust
  refine Act.bind_ends previousPointer_ends ?_
  rintro _ t ⟨rfl, haccounts, hlegacy, hcurrent⟩
  have hbefore : Reached prior input generationId t := ⟨hlegacy, .before haccounts hcurrent⟩
  refine Act.catch_ends (E := Reached prior input generationId) ?_ ?_
  · refine Act.bind_ends (Q := fun _ => Reached prior input generationId)
      (changeAccounts_ends hbefore hbefore ?_) ?_
    · intro accounts hactivate
      rw [haccounts] at hactivate
      obtain ⟨_, _, _, _, htransaction⟩ := transaction_of_activation rfl hactivate
      have hmarked : Reached prior input generationId { t with accounts := accounts } :=
        ⟨hlegacy, .marked htransaction (.inl hcurrent)⟩
      exact ⟨hmarked, fun _ => hmarked, hmarked⟩
    · intro _ s hs
      refine Act.bind_ends (markerRead_ends hs hs) ?_
      rintro found _ ⟨rfl, hread⟩
      cases found with
      | none => exact Act.throw_ends hs
      | some accepted =>
        have hmarked := hs.marked hprior hread
        dsimp only
        split
        · have hpublished := hmarked.withPointer
            (.inr (rfl : some (stagedPointer input generationId) = _))
          refine Act.bind_ends (Q := fun _ r => Marked prior input generationId accepted r ∧
            r.pointer = some (stagedPointer input generationId))
            (Act.write_ends hs hs ?_) ?_
          · intro r _ hr
            cases hr
            exact ⟨⟨hpublished, rfl⟩, fun _ => hpublished.reached, hpublished.reached⟩
          · rintro _ r ⟨hr, hpointer⟩
            refine Act.bind_ends (Q := fun _ q => q = r) (Act.read_ends hr.reached hr.reached
              (fun _ _ _ => rfl)) ?_
            rintro _ _ rfl
            refine changeAccounts_ends hr.reached hr.reached (fun accounts hfinalize => ?_)
            have hreached := hr.finalized hpointer hfinalize
            exact ⟨hreached, fun _ => hreached, hreached⟩
        · exact Act.throw_ends hs
  · intro s hs
    refine Act.bind_ends (markerRead_ends hs hs) ?_
    rintro found _ ⟨rfl, hread⟩
    cases found with
    | none => exact Act.throw_ends hs
    | some marker =>
      exact Act.bind_ends (rollBack_ends (hs.marked hprior hread))
        (fun _ _ ht => Act.throw_ends ht)

/-! ### Runs -/

/-- A recovery rolls no pointer back after a finalization that took effect. -/
def RecoveryAttempt.Harmless (prior : TrustWorld) : RecoveryAttempt → Prop
  | .recover fates => ¬ Harmful prior fates
  | .restore _ _ => True

lemma attempt_reached {attempt : RecoveryAttempt}
    (hprior : prior.accounts.get (serverAcceptedEnrollmentAccount input.origin) = none)
    (h : Reached prior input generationId w) (hattempt : attempt.Harmless prior) :
    Reached prior input generationId (attempt.run input.origin w) := by
  cases attempt with
  | recover fates => exact (recover_ends hprior h hattempt).state
  | restore expected fates =>
    simp only [RecoveryAttempt.run]
    split
    · rename_i horigin
      have hends := @restore_ends _ prior w input generationId fates expected hprior h horigin
      exact hends.state
    · exact h

lemma run_reached {attempts : List RecoveryAttempt}
    (hprior : prior.accounts.get (serverAcceptedEnrollmentAccount input.origin) = none)
    (hattempts : ∀ attempt ∈ attempts, attempt.Harmless prior) :
    Reached prior input generationId (commitRun input generationId fates attempts prior) := by
  have hrun : ∀ w, Reached prior input generationId w →
      Reached prior input generationId (attempts.foldl (RecoveryAttempt.run input.origin) w) := by
    induction attempts with
    | nil => exact fun _ h => h
    | cons attempt attempts ih =>
      intro w h
      exact ih (fun other hother => hattempts other (mem_cons_of_mem _ hother)) _
        (attempt_reached hprior h (hattempts attempt mem_cons_self))
  exact hrun _ (commit_ends hprior).state

/-! ### The triple -/

/-- The trust pointer, the active credentials and the pending record of one enrollment. -/
@[ext] structure EnrollmentTriple where
  pointer : Option EnrollmentTrustPointer
  active : Set (String × Json)
  pending : Option Json

def TrustWorld.triple (w : TrustWorld) (input : Activation) : EnrollmentTriple where
  pointer := w.current
  active := {entry | entry ∈ w.accounts ∧ isActiveFor input.origin entry.2 = true}
  pending := pendingOf w.accounts input.origin input.trustIdentity

/-- The triple after a commit. -/
def committedTriple (input : Activation) (generationId : String) : EnrollmentTriple where
  pointer := some (stagedPointer input generationId)
  active := {entry | serverCredentialAccount input.origin input.trustIdentity = some entry.1 ∧
    entry.2 = encodeServerCredentialRecord (activeRecord input)}
  pending := none

lemma triple_of_same (haccounts : SameAccounts input prior.accounts w.accounts)
    (hpointer : w.current = prior.current) : w.triple input = prior.triple input := by
  refine EnrollmentTriple.ext hpointer (Set.ext fun entry => ?_) haccounts.pending
  exact and_congr_left (haccounts.active entry)

lemma triple_of_committed (haccounts : CommittedAccounts input prior.accounts w.accounts)
    (hpointer : w.pointer = some (stagedPointer input generationId)) :
    w.triple input = committedTriple input generationId := by
  refine EnrollmentTriple.ext ?_ (Set.ext fun entry => ?_) haccounts.pending
  · change w.pointer.or w.legacy = _
    rw [hpointer]
    rfl
  · constructor
    · rintro ⟨hmem, hactive⟩
      exact (haccounts.active entry hactive).mp hmem
    · rintro ⟨hname, hvalue⟩
      have hactive : isActiveFor input.origin entry.2 = true := by
        rw [hvalue]
        exact isActiveFor_credential (activeRecord input)
      exact ⟨(haccounts.active entry hactive).mpr ⟨hname, hvalue⟩, hactive⟩

/-- Without a marker, the triple is the one of before or the one of after. -/
lemma Reached.triple (h : Reached prior input generationId w)
    (hnone : w.accounts.get (serverAcceptedEnrollmentAccount input.origin) = none) :
    w.triple input = prior.triple input ∨ w.triple input = committedTriple input generationId := by
  cases h.phase with
  | before haccounts hpointer =>
    refine .inl (triple_of_same ?_ hpointer)
    rw [haccounts]
    exact .refl
  | marked ht _ =>
    have hsome := get_eq_some_iff.mpr (ht.accepted_mem.mpr rfl)
    cases hnone.symm.trans hsome
  | restored ht hrestore hpointer =>
    have hsame := ht.restored_same hrestore
    exact .inl (triple_of_same ⟨hsame.active, hsame.pending, hsame.other⟩ hpointer)
  | committed ht hfinalize hpointer =>
    have hcommitted := ht.finalized_committed hfinalize
    exact .inr (triple_of_committed
      ⟨hcommitted.active, hcommitted.pending, hcommitted.other⟩ hpointer)

/-- The accounts under other names that are no credentials of the origin stay. -/
lemma Reached.other {entry : String × Json} (h : Reached prior input generationId w)
    (hname : entry.1 ∉ touchedAccounts input)
    (hactive : isActiveFor input.origin entry.2 = false) :
    entry ∈ w.accounts ↔ entry ∈ prior.accounts := by
  cases h.phase with
  | before haccounts _ => rw [haccounts]
  | marked ht _ => exact ht.other_mem hname hactive
  | restored ht hrestore _ => exact (ht.restored_same hrestore).other entry hname hactive
  | committed ht hfinalize _ => exact (ht.finalized_committed hfinalize).other entry hname hactive

/-- No credential of the origin can be read. -/
structure ReadsRefused (origin : String) (accounts : Accounts) : Prop where
  credential : ∀ trustIdentity found, getServerCredentialRecord origin trustIdentity accounts ≠
    .ok found
  any : ∀ found, hasServerCredentialForOrigin accounts origin ≠ .ok found
  pending : ∀ trustIdentity found, getPendingServerEnrollment origin trustIdentity accounts ≠
    .ok found

lemma readsRefused {accounts : Accounts} {origin : String} {value : Json}
    (h : accounts.get (serverAcceptedEnrollmentAccount origin) = some value) :
    ReadsRefused origin accounts := by
  have hmarker : (∃ error, markerForOrigin accounts origin = .error error) ∨
      ∃ marker, markerForOrigin accounts origin = .ok (some marker) := by
    unfold markerForOrigin
    rw [h]
    dsimp only
    cases decodeAcceptedEnrollmentMarker value with
    | none => exact .inl ⟨_, rfl⟩
    | some marker => exact .inr ⟨marker, rfl⟩
  constructor
  · intro trustIdentity found hread
    unfold getServerCredentialRecord at hread
    rcases hmarker with ⟨error, hmarker⟩ | ⟨marker, hmarker⟩ <;> rw [hmarker] at hread <;>
      cases hread
  · intro found hread
    unfold hasServerCredentialForOrigin at hread
    rcases hmarker with ⟨error, hmarker⟩ | ⟨marker, hmarker⟩ <;> rw [hmarker] at hread <;>
      cases hread
  · intro trustIdentity found hread
    unfold getPendingServerEnrollment at hread
    obtain ⟨account, -, hread⟩ := orInvalid_bind_ok hread
    rcases hmarker with ⟨error, hmarker⟩ | ⟨marker, hmarker⟩ <;> rw [hmarker] at hread <;>
      cases hread

/-- All or nothing: in every run of a commit and of later recoveries, whatever fails in it and
wherever a process dies. -/
theorem commit_all_or_nothing {attempts : List RecoveryAttempt}
    (hprior : prior.accounts.get (serverAcceptedEnrollmentAccount input.origin) = none)
    (hattempts : ∀ attempt ∈ attempts, attempt.Harmless prior) :
    ((commitRun input generationId fates attempts prior).accounts.get
      (serverAcceptedEnrollmentAccount input.origin) = none →
      (commitRun input generationId fates attempts prior).triple input = prior.triple input ∨
        (commitRun input generationId fates attempts prior).triple input =
          committedTriple input generationId) ∧
      (∀ value, (commitRun input generationId fates attempts prior).accounts.get
        (serverAcceptedEnrollmentAccount input.origin) = some value →
        ReadsRefused input.origin (commitRun input generationId fates attempts prior).accounts) ∧
        ∀ entry, entry.1 ∉ touchedAccounts input → isActiveFor input.origin entry.2 = false →
          (entry ∈ (commitRun input generationId fates attempts prior).accounts ↔
            entry ∈ prior.accounts) := by
  have hreached := @run_reached _ prior input generationId fates attempts hprior hattempts
  exact ⟨hreached.triple, fun _ hvalue => readsRefused hvalue,
    fun _ hname hactive => hreached.other hname hactive⟩

end Programs

section Instances

attribute [local instance] plainCredentials

def oldPointer : EnrollmentTrustPointer := ⟨teamOrigin, digestText ["old generation"], teamTrust⟩

/-- An enrollment that waits for its answer, over an older generation. -/
def pendingWorld : TrustWorld where
  pointer := some oldPointer
  legacy := none
  generations := fun _ => some teamTrust
  accounts := ((EnrollmentWorld.start emptyAccounts).run
    [.prepare 0 teamRequest false teamFresh]).accounts

def answeredActivation : Activation :=
  { consentActivation with replacementCapabilityToken := none }

/-- The process dies after its activation. -/
def diesActivated (site : Site) : Fate := if site = .activate then .diesAfter else .works

/-- The finalization takes effect and is reported as failed. -/
def losesFinalized (site : Site) : Fate := if site = .finalize then .lost else .works

def recoveredWorld (fates : Site → Fate) : TrustWorld :=
  commitRun answeredActivation (digestText ["generation"]) diesActivated [.recover fates]
    pendingWorld

lemma pendingWorld_unmarked :
    pendingWorld.accounts.get (serverAcceptedEnrollmentAccount teamOrigin) = none := by
  have hnone : (pendingWorld.accounts.get (serverAcceptedEnrollmentAccount teamOrigin)).isNone =
      true := by
    decide +kernel
  exact Option.isNone_iff_eq_none.mp hnone

theorem commit_all_or_nothing_recovered :
    (recoveredWorld (fun _ => .works)).triple answeredActivation =
        pendingWorld.triple answeredActivation ∨
      (recoveredWorld (fun _ => .works)).triple answeredActivation =
        committedTriple answeredActivation (digestText ["generation"]) := by
  have hunmarked : (recoveredWorld (fun _ => .works)).accounts.get
      (serverAcceptedEnrollmentAccount answeredActivation.origin) = none := by
    rw [← Option.isNone_iff_eq_none]
    decide +kernel
  have hharmless : ∀ attempt ∈ [RecoveryAttempt.recover (fun _ => .works)],
      attempt.Harmless pendingWorld := by
    intro attempt hattempt
    obtain rfl := mem_singleton.mp hattempt
    intro hharmful
    cases hharmful.1
  exact (@commit_all_or_nothing _ pendingWorld answeredActivation (digestText ["generation"])
    diesActivated _ pendingWorld_unmarked hharmless).1 hunmarked

/-- With the finalization reported as failed the accounts are the committed ones, under the prior
pointer. -/
lemma recoveredWorld_lost :
    ((recoveredWorld losesFinalized).accounts.get
        (serverAcceptedEnrollmentAccount teamOrigin)).isNone = true ∧
      (pendingOf (recoveredWorld losesFinalized).accounts teamOrigin teamTrust).isNone = true ∧
      (recoveredWorld losesFinalized).current ≠
        some (stagedPointer answeredActivation (digestText ["generation"])) := by
  decide +kernel

/-- The pointer is rolled back under the committed accounts. -/
theorem pointer_rolled_back_alone :
    pendingWorld.accounts.get (serverAcceptedEnrollmentAccount teamOrigin) = none ∧
      (recoveredWorld losesFinalized).accounts.get (serverAcceptedEnrollmentAccount teamOrigin) =
        none ∧
        (recoveredWorld losesFinalized).triple answeredActivation ≠
          pendingWorld.triple answeredActivation ∧
          (recoveredWorld losesFinalized).triple answeredActivation ≠
            committedTriple answeredActivation (digestText ["generation"]) := by
  obtain ⟨hunmarked, hgone, hold⟩ := recoveredWorld_lost
  refine ⟨pendingWorld_unmarked, Option.isNone_iff_eq_none.mp hunmarked, ?_, ?_⟩
  · intro h
    have hthere : (pendingOf pendingWorld.accounts teamOrigin teamTrust).isSome = true := by
      decide +kernel
    have hpending : pendingOf (recoveredWorld losesFinalized).accounts teamOrigin teamTrust =
        pendingOf pendingWorld.accounts teamOrigin teamTrust :=
      congrArg EnrollmentTriple.pending h
    rw [hpending, Option.isNone_iff_eq_none] at hgone
    rw [hgone] at hthere
    cases hthere
  · intro h
    have hpointer : (recoveredWorld losesFinalized).current =
        some (stagedPointer answeredActivation (digestText ["generation"])) :=
      congrArg EnrollmentTriple.pointer h
    exact hold hpointer

end Instances

end BorgClient.Credentials
