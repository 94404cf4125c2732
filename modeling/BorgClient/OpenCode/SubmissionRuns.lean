import BorgClient.OpenCode.Submissions

/-!
# One submission for each source

A delivery is queued only where no other entry of its source is queued or pending, so its marker is
the only one of its source, unless the binding file brings another.
-/

namespace BorgClient.OpenCode
open List Runs

/-- Whether the one POST of the delivery may still come. -/
def OpenCodeDelivery.canSubmit (delivery : OpenCodeDelivery) : Bool :=
  match delivery.stage with
  | .queued => delivery.allowSubmit
  | .searching _ submittedBefore => delivery.allowSubmit && !submittedBefore
  | .ready _ => true
  | _ => false

def ApartPending (first second : EntryId × PendingOpenCodeSubmission) : Prop :=
  first.1 ≠ second.1 ∧ first.2.sourceEntryId ≠ second.2.sourceEntryId

def ApartActive (first second : OpenCodeDelivery) : Prop :=
  first.entryId ≠ second.entryId ∧ first.sourceEntryId ≠ second.sourceEntryId

/-- A delivery that may submit is of a source that no other entry has pending. -/
structure DroneOk (w : Drone) : Prop where
  pending : w.pendingSubmissions.Pairwise ApartPending
  active : w.activeDeliveries.Pairwise ApartActive
  free : ∀ delivery ∈ w.activeDeliveries, delivery.canSubmit = true →
    ∀ pending ∈ w.pendingSubmissions, pending.2.sourceEntryId = delivery.sourceEntryId →
      pending.1 = delivery.entryId

variable {w : Drone}

/-! ### Maps -/

lemma mapSet_keys {α : Type} (key : EntryId) (value : α) {entries : List (EntryId × α)}
    (h : entries.Pairwise (fun first second => first.1 ≠ second.1)) :
    (mapSet key value entries).Pairwise (fun first second => first.1 ≠ second.1) := by
  unfold mapSet
  split
  · rw [pairwise_map]
    refine h.imp (fun {first second} hne => ?_)
    split_ifs with hfirst hsecond hsecond
    · exact absurd (hfirst.trans hsecond.symm) hne
    · exact fun heq => hsecond heq.symm
    · exact hfirst
    · exact hne
  · rename_i hnone
    rw [pairwise_append]
    refine ⟨h, pairwise_singleton _ _, fun first hfirst second hsecond heq => hnone ?_⟩
    rw [mem_singleton.mp hsecond] at heq
    exact any_eq_true.mpr ⟨first, hfirst, beq_iff_eq.mpr heq⟩

lemma mapOf_keys {α : Type} (entries : List (EntryId × α)) :
    (mapOf entries).Pairwise (fun first second => first.1 ≠ second.1) := by
  have hfold : ∀ {built : List (EntryId × α)},
      built.Pairwise (fun first second => first.1 ≠ second.1) →
      (entries.foldl (fun built entry => mapSet entry.1 entry.2 built) built).Pairwise
        (fun first second => first.1 ≠ second.1) := by
    induction entries with
    | nil => exact fun h => h
    | cons entry entries ih => exact fun h => ih (mapSet_keys _ _ h)
  exact hfold .nil

/-- A marker is set where no other entry has one of its source. -/
lemma mapSet_apart {entries : PendingSubmissions} (h : entries.Pairwise ApartPending)
    {key : EntryId} {value : PendingOpenCodeSubmission}
    (hfree : ∀ entry ∈ entries, entry.2.sourceEntryId = value.sourceEntryId → entry.1 = key) :
    (mapSet key value entries).Pairwise ApartPending := by
  unfold mapSet
  split
  · rw [pairwise_map]
    refine h.imp_of_mem (fun {first second} hfirst hsecond hne => ?_)
    split_ifs with hkey hkey' hkey'
    · exact absurd (hkey.trans hkey'.symm) hne.1
    · exact ⟨fun heq => hkey' heq.symm, fun heq => hkey' (hfree second hsecond heq.symm)⟩
    · exact ⟨hkey, fun heq => hkey (hfree first hfirst heq)⟩
    · exact hne
  · rename_i hnone
    have hother : ∀ entry ∈ entries, entry.1 ≠ key := fun entry hentry heq =>
      hnone (any_eq_true.mpr ⟨entry, hentry, beq_iff_eq.mpr heq⟩)
    rw [pairwise_append]
    refine ⟨h, pairwise_singleton _ _, fun first hfirst second hsecond => ?_⟩
    rw [mem_singleton.mp hsecond]
    exact ⟨hother first hfirst, fun heq => hother first hfirst (hfree first hfirst heq)⟩

lemma mem_mapSet {α : Type} {key : EntryId} {value : α} {entries : List (EntryId × α)}
    {entry : EntryId × α} (h : entry ∈ mapSet key value entries) :
    entry = (key, value) ∨ entry ∈ entries := by
  unfold mapSet at h
  split at h
  · obtain ⟨other, hother, heq⟩ := mem_map.mp h
    split at heq
    · exact .inl heq.symm
    · exact .inr (heq ▸ hother)
  · exact (mem_append.mp h).symm.imp_left mem_singleton.mp

/-! ### Steps that add nothing -/

/-- Markers and deliveries may go, and a delivery may come nearer to its end. -/
lemma DroneOk.keep {w' : Drone} (h : DroneOk w)
    (hpending : w'.pendingSubmissions <+ w.pendingSubmissions)
    (hactive : w'.activeDeliveries.Pairwise ApartActive)
    (hfrom : ∀ delivery ∈ w'.activeDeliveries, delivery.canSubmit = true →
      ∃ before ∈ w.activeDeliveries, before.canSubmit = true ∧ before.entryId = delivery.entryId ∧
        before.sourceEntryId = delivery.sourceEntryId) : DroneOk w' where
  pending := h.pending.sublist hpending
  active := hactive
  free := by
    intro delivery hdelivery hcan pending hmem hsource
    obtain ⟨before, hbefore, hcan', hid, hsource'⟩ := hfrom delivery hdelivery hcan
    rw [← hid]
    exact h.free before hbefore hcan' pending (hpending.subset hmem) (hsource.trans hsource'.symm)

/-- The deliveries stay as they are. -/
lemma DroneOk.same {w' : Drone} (h : DroneOk w)
    (hpending : w'.pendingSubmissions <+ w.pendingSubmissions)
    (hactive : w'.activeDeliveries = w.activeDeliveries) : DroneOk w' :=
  h.keep hpending (hactive ▸ h.active) (fun delivery hdelivery hcan =>
    ⟨delivery, hactive ▸ hdelivery, hcan, rfl, rfl⟩)

lemma writeBinding_same (w : Drone) (sessionId : String) (ok : Bool) :
    (w.writeBinding sessionId ok).pendingSubmissions = w.pendingSubmissions ∧
      (w.writeBinding sessionId ok).activeDeliveries = w.activeDeliveries := by
  unfold Drone.writeBinding
  split <;> exact ⟨rfl, rfl⟩

lemma persist_same (w : Drone) (ok : Bool) :
    (w.persistCurrentBinding ok).1.pendingSubmissions = w.pendingSubmissions ∧
      (w.persistCurrentBinding ok).1.activeDeliveries = w.activeDeliveries := by
  unfold Drone.persistCurrentBinding
  split
  · exact ⟨rfl, rfl⟩
  · exact writeBinding_same w _ ok

lemma clearPending_same (w : Drone) (entryId : EntryId) (ok : Bool) :
    (w.clearPendingSubmission entryId ok).pendingSubmissions <+ w.pendingSubmissions ∧
      (w.clearPendingSubmission entryId ok).activeDeliveries = w.activeDeliveries := by
  unfold Drone.clearPendingSubmission
  split
  · obtain ⟨hpending, hactive⟩ := persist_same
      { w with pendingSubmissions := mapDelete entryId w.pendingSubmissions } ok
    exact ⟨hpending ▸ filter_sublist, hactive⟩
  · exact ⟨Sublist.refl _, rfl⟩

lemma confirm_same (w : Drone) (entryId : EntryId) (text : String) (sourceEntryId : EntryId)
    (ok : Bool) :
    (w.confirmOpenCodeDelivery entryId text sourceEntryId ok).pendingSubmissions <+
        w.pendingSubmissions ∧
      (w.confirmOpenCodeDelivery entryId text sourceEntryId ok).activeDeliveries =
        w.activeDeliveries := by
  unfold Drone.confirmOpenCodeDelivery
  split
  · exact ⟨Sublist.refl _, rfl⟩
  · dsimp only
    exact clearPending_same { w with
      unconfirmedEntries := mapDelete entryId w.unconfirmedEntries
      failedEntries := mapDelete entryId w.failedEntries } entryId ok

/-- A delivery changed in place keeps its names and comes no further from its end. -/
lemma change_ok (h : DroneOk w) (entryId : EntryId) {f : OpenCodeDelivery → OpenCodeDelivery}
    (hid : ∀ delivery, (f delivery).entryId = delivery.entryId ∧
      (f delivery).sourceEntryId = delivery.sourceEntryId)
    (hcan : ∀ delivery, (f delivery).canSubmit = true → delivery.canSubmit = true) :
    DroneOk (w.change entryId f) := by
  have hf : ∀ delivery : OpenCodeDelivery,
      (if delivery.entryId = entryId then f delivery else delivery).entryId = delivery.entryId ∧
      (if delivery.entryId = entryId then f delivery else delivery).sourceEntryId =
        delivery.sourceEntryId ∧
      ((if delivery.entryId = entryId then f delivery else delivery).canSubmit = true →
        delivery.canSubmit = true) := by
    intro delivery
    split
    · exact ⟨(hid delivery).1, (hid delivery).2, hcan delivery⟩
    · exact ⟨rfl, rfl, fun h => h⟩
  refine h.keep (Sublist.refl _) ?_ ?_
  · change (w.activeDeliveries.map _).Pairwise _
    rw [pairwise_map]
    refine h.active.imp (fun {first second} hne => ?_)
    rw [ApartActive, (hf first).1, (hf first).2.1, (hf second).1, (hf second).2.1]
    exact hne
  · intro delivery hdelivery hcan'
    obtain ⟨before, hbefore, rfl⟩ := mem_map.mp hdelivery
    exact ⟨before, hbefore, (hf before).2.2 hcan', (hf before).1.symm, (hf before).2.1.symm⟩

lemma clear_ok (h : DroneOk w) : DroneOk w.clearBinding := h.same (Sublist.refl _) rfl

lemma search_ok (h : DroneOk w) (entryId : EntryId) (target : String) :
    DroneOk (w.search entryId target) := by
  refine change_ok h entryId (fun delivery => ?_) (fun delivery hcan => ?_)
  · split <;> exact ⟨rfl, rfl⟩
  · split at hcan
    · rename_i hstage
      rw [OpenCodeDelivery.canSubmit, hstage]
      exact ((Bool.and_eq_true _ _).mp hcan).1
    · exact hcan

lemma notFound_ok (h : DroneOk w) (entryId : EntryId) : DroneOk (w.notFound entryId) := by
  refine change_ok h entryId (fun delivery => ?_) (fun delivery hcan => ?_)
  · split
    · split_ifs <;> exact ⟨rfl, rfl⟩
    · exact ⟨rfl, rfl⟩
  · split at hcan
    · rename_i _ submittedBefore hstage
      cases submittedBefore with
      | true =>
        rw [if_pos rfl] at hcan
        exact Bool.noConfusion (show false = true from hcan)
      | false =>
        rw [if_neg (by decide)] at hcan
        cases hallow : delivery.allowSubmit with
        | true => rw [OpenCodeDelivery.canSubmit, hstage, hallow]; rfl
        | false =>
          rw [hallow, Bool.not_false, if_pos rfl] at hcan
          exact Bool.noConfusion (show false = true from hcan)
    · exact hcan

lemma accepted_ok (h : DroneOk w) (entryId : EntryId) : DroneOk (w.accepted entryId) := by
  refine change_ok h entryId (fun delivery => ?_) (fun delivery hcan => ?_)
  · split <;> exact ⟨rfl, rfl⟩
  · split at hcan
    · exact Bool.noConfusion (show false = true from hcan)
    · exact hcan

lemma answered_ok (h : DroneOk w) (entryId : EntryId) (status : Option ℕ) (ok : Bool) :
    DroneOk (w.answered entryId status ok) := by
  unfold Drone.answered
  split
  · split
    · have hcleared : DroneOk (w.clearPendingSubmission entryId ok) :=
        h.same (clearPending_same w entryId ok).1 (clearPending_same w entryId ok).2
      dsimp only
      split
      · exact clear_ok hcleared
      · exact hcleared
    · exact accepted_ok h entryId
  · exact accepted_ok h entryId

lemma settle_ok (h : DroneOk w) (sourceEntryId : EntryId) (ok : Bool) :
    DroneOk (w.settleOpenCodeEntry sourceEntryId ok) := by
  have hsettled : ∀ {w' : Drone}, w'.pendingSubmissions <+ w.pendingSubmissions →
      w'.activeDeliveries = w.activeDeliveries.map (fun delivery =>
        if delivery.sourceEntryId = sourceEntryId then { delivery with settled := true }
        else delivery) → DroneOk w' := by
    intro w' hpending hactive
    have hsame : ∀ delivery : OpenCodeDelivery,
        (if delivery.sourceEntryId = sourceEntryId then { delivery with settled := true }
          else delivery).entryId = delivery.entryId ∧
        (if delivery.sourceEntryId = sourceEntryId then { delivery with settled := true }
          else delivery).sourceEntryId = delivery.sourceEntryId ∧
        (if delivery.sourceEntryId = sourceEntryId then { delivery with settled := true }
          else delivery).canSubmit = delivery.canSubmit := by
      intro delivery
      split <;> exact ⟨rfl, rfl, rfl⟩
    refine h.keep hpending ?_ ?_
    · rw [hactive, pairwise_map]
      refine h.active.imp (fun {first second} hne => ?_)
      rw [ApartActive, (hsame first).1, (hsame first).2.1, (hsame second).1, (hsame second).2.1]
      exact hne
    · intro delivery hdelivery hcan
      rw [hactive] at hdelivery
      obtain ⟨before, hbefore, rfl⟩ := mem_map.mp hdelivery
      exact ⟨before, hbefore, (hsame before).2.2 ▸ hcan, (hsame before).1.symm,
        (hsame before).2.1.symm⟩
  unfold Drone.settleOpenCodeEntry
  dsimp only
  split
  · refine hsettled ?_ ?_
    · rw [(persist_same _ ok).1]
      exact filter_sublist
    · rw [(persist_same _ ok).2]
  · exact hsettled filter_sublist rfl

lemma finish_ok (h : DroneOk w) (entryId : EntryId) (outcome : Drone.OpenCodeDeliveryOutcome)
    (ok : Bool) : DroneOk (w.finish entryId outcome ok) := by
  unfold Drone.finish
  split
  · exact h
  · rename_i delivery _
    have hrest : DroneOk { w with
        activeDeliveries := w.activeDeliveries.filter (·.entryId != entryId) } :=
      h.keep (Sublist.refl _) (h.active.sublist filter_sublist) (fun other hother hcan =>
        ⟨other, (mem_filter.mp hother).1, hcan, rfl, rfl⟩)
    dsimp only
    split
    · exact hrest
    · split
      · obtain ⟨hpending, hactive⟩ := confirm_same { w with
          activeDeliveries := w.activeDeliveries.filter (·.entryId != entryId) } entryId
            delivery.text delivery.sourceEntryId ok
        exact hrest.same hpending hactive
      · exact hrest.same (Sublist.refl _) rfl
      · exact hrest.same (Sublist.refl _) rfl

/-! ### Submissions -/

lemma find_mem {entryId : EntryId} {delivery : OpenCodeDelivery}
    (h : w.find entryId = some delivery) :
    delivery ∈ w.activeDeliveries ∧ delivery.entryId = entryId := by
  refine ⟨mem_of_find?_eq_some h, ?_⟩
  have := find?_some h
  rwa [beq_iff_eq] at this

/-- A source has one active delivery. -/
lemma DroneOk.eq_of_source (h : DroneOk w) {first second : OpenCodeDelivery}
    (hfirst : first ∈ w.activeDeliveries) (hsecond : second ∈ w.activeDeliveries)
    (hsource : first.sourceEntryId = second.sourceEntryId) : first = second := by
  by_contra hne
  have : Std.Symm ApartActive := ⟨fun _ _ h => ⟨h.1.symm, h.2.symm⟩⟩
  exact (h.active.forall hfirst hsecond hne).2 hsource

lemma marked_ok (h : DroneOk w) {delivery : OpenCodeDelivery}
    (hmem : delivery ∈ w.activeDeliveries) (hcan : delivery.canSubmit = true) (target : String) :
    DroneOk { w with
      pendingSubmissions := mapSet delivery.entryId ⟨delivery.sourceEntryId, target⟩
        w.pendingSubmissions } where
  pending := mapSet_apart h.pending (h.free delivery hmem hcan)
  active := h.active
  free := by
    intro other hother hcan' pending hpending hsource
    rcases mem_mapSet hpending with rfl | hin
    · rw [h.eq_of_source hmem hother hsource]
    · exact h.free other hother hcan' pending hin hsource

lemma submit_ok (h : DroneOk w) (entryId : EntryId) (ok : Bool) : DroneOk (w.submit entryId ok) := by
  unfold Drone.submit
  split
  · exact h
  · rename_i delivery hfind
    obtain ⟨hmem, rfl⟩ := find_mem hfind
    split
    · rename_i target hstage
      have hcan : delivery.canSubmit = true := by
        rw [OpenCodeDelivery.canSubmit, hstage]
      have hmarked := marked_ok h hmem hcan target
      obtain ⟨hpending, hactive⟩ := persist_same { w with
        pendingSubmissions := mapSet delivery.entryId ⟨delivery.sourceEntryId, target⟩
          w.pendingSubmissions } ok
      have hpersisted := hmarked.same (hpending ▸ Sublist.refl _) hactive
      dsimp only
      split
      · exact change_ok hpersisted delivery.entryId (fun d => ⟨rfl, rfl⟩)
          (fun d hcan => Bool.noConfusion (show false = true from hcan))
      · exact hpersisted.same filter_sublist rfl
    · exact h

/-! ### Restores -/

/-- What a restore would load from the file. -/
def Drone.loads (w : Drone) (claimed : Bool) : Option PendingSubmissions :=
  if w.sessionId.isSome then none
  else (w.file.filter (fun binding => binding.resolved || claimed)).map
    (fun binding => mapOf binding.pendingSubmissions)

/-- A list with one entry for each source, none of it beside another entry that is queued to be
submitted for its source. -/
structure Loadable (w : Drone) (loaded : PendingSubmissions) : Prop where
  one : ∀ first ∈ loaded, ∀ second ∈ loaded,
    first.2.sourceEntryId = second.2.sourceEntryId → first.1 = second.1
  free : ∀ delivery ∈ w.activeDeliveries, delivery.canSubmit = true →
    ∀ pending ∈ loaded, pending.2.sourceEntryId = delivery.sourceEntryId →
      pending.1 = delivery.entryId

instance (w : Drone) (loaded : PendingSubmissions) : Decidable (Loadable w loaded) :=
  decidable_of_iff (_ ∧ _) ⟨fun h => ⟨h.1, h.2⟩, fun h => ⟨h.one, h.free⟩⟩

def RestoreOk (w : Drone) (claimed : Bool) : Prop :=
  ∀ loaded ∈ w.loads claimed, Loadable w loaded

instance (w : Drone) (claimed : Bool) : Decidable (RestoreOk w claimed) :=
  inferInstanceAs (Decidable (∀ loaded ∈ w.loads claimed, Loadable w loaded))

lemma restore_loads (w : Drone) (claimed : Bool) :
    (w.restoreBinding claimed).activeDeliveries = w.activeDeliveries ∧
      (w.restoreBinding claimed).pendingSubmissions =
        (w.loads claimed).getD w.pendingSubmissions := by
  unfold Drone.restoreBinding Drone.loads
  split
  · split <;> exact ⟨rfl, rfl⟩
  · split
    · rename_i hfile
      rw [hfile]
      exact ⟨rfl, rfl⟩
    · rename_i binding hfile
      rw [hfile, Option.filter_some]
      split <;> exact ⟨rfl, rfl⟩

lemma restore_ok (h : DroneOk w) {claimed : Bool} (hok : RestoreOk w claimed) :
    DroneOk (w.restoreBinding claimed) := by
  obtain ⟨hactive, hpending⟩ := restore_loads w claimed
  cases hloads : w.loads claimed with
  | none =>
    rw [hloads, Option.getD_none] at hpending
    exact h.same (hpending ▸ Sublist.refl _) hactive
  | some loaded =>
    rw [hloads, Option.getD_some] at hpending
    obtain ⟨hone, hfree⟩ := hok loaded hloads
    have hkeys : loaded.Pairwise (fun first second => first.1 ≠ second.1) := by
      unfold Drone.loads at hloads
      split at hloads
      · cases hloads
      · obtain ⟨binding, -, rfl⟩ := Option.map_eq_some_iff.mp hloads
        exact mapOf_keys _
    constructor
    · rw [hpending]
      exact hkeys.imp_of_mem (fun hfirst hsecond hne =>
        ⟨hne, fun heq => hne (hone _ hfirst _ hsecond heq)⟩)
    · rw [hactive]
      exact h.active
    · rw [hactive, hpending]
      exact hfree

/-! ### Injections -/

lemma mismatch_ok (h : DroneOk w) (text : String) (entryId sourceEntryId : EntryId) :
    DroneOk (w.mismatch text entryId sourceEntryId).1 := by
  unfold Drone.mismatch
  generalize rememberBounded w.failedEntries entryId text sourceEntryId = failed
  exact ⟨h.pending, h.active, h.free⟩

lemma enqueue_ok (h : DroneOk w) (text : String) {entryId sourceEntryId : EntryId}
    (hnone : w.pendingSource entryId sourceEntryId = none) (allowSubmit : Bool) :
    DroneOk (w.enqueue text entryId allowSubmit sourceEntryId).1 := by
  unfold Drone.enqueue
  split
  · exact h
  split
  · exact h
  split
  · exact h
  rename_i hother
  split
  · split
    · exact mismatch_ok h text entryId sourceEntryId
    · exact h
  split
  · split
    · exact mismatch_ok h text entryId sourceEntryId
    · exact h
  split
  · split
    · exact mismatch_ok h text entryId sourceEntryId
    · exact h
  -- no delivery of this entry or this source: a new one
  rename_i hfind
  have hid : ∀ active ∈ w.activeDeliveries, active.entryId ≠ entryId := fun active hactive heq =>
    find?_eq_none.mp hfind active hactive (beq_iff_eq.mpr heq)
  have hsource : ∀ active ∈ w.activeDeliveries, active.sourceEntryId ≠ sourceEntryId :=
    fun active hactive heq => find?_eq_none.mp hother active hactive
      (by rw [bne_iff_ne.mpr (hid active hactive), beq_iff_eq.mpr heq, Bool.and_self])
  constructor
  · exact h.pending
  · refine pairwise_append.mpr ⟨h.active, pairwise_singleton _ _, ?_⟩
    intro active hactive added hadded
    rw [mem_singleton.mp hadded]
    exact ⟨hid active hactive, hsource active hactive⟩
  · intro delivery hdelivery hcan pending hpending heq
    rcases mem_append.mp hdelivery with hold | hnew
    · exact h.free delivery hold hcan pending hpending heq
    · rw [mem_singleton.mp hnew] at heq ⊢
      by_contra hne
      exact find?_eq_none.mp hnone pending hpending
        (by rw [bne_iff_ne.mpr hne, beq_iff_eq.mpr heq, Bool.and_self])

/-- What a second restore loads has the sources' same entries pending as before it. -/
def Agrees (w : Drone) (claimed : Bool) (sourceEntryId : EntryId) : Prop :=
  ∀ loaded ∈ w.loads claimed,
    ∀ first ∈ w.pendingSubmissions, first.2.sourceEntryId = sourceEntryId →
      ∀ second ∈ loaded, second.2.sourceEntryId = sourceEntryId → second.1 = first.1

instance (w : Drone) (claimed : Bool) (sourceEntryId : EntryId) :
    Decidable (Agrees w claimed sourceEntryId) := by
  unfold Agrees
  infer_instance

/-- The call for the entry that is pending finds no other. -/
lemma pendingSource_restored (h : DroneOk w) {claimed : Bool} {entryId sourceEntryId : EntryId}
    {pending : EntryId × PendingOpenCodeSubmission}
    (hpending : w.pendingSource entryId sourceEntryId = some pending)
    (hagrees : Agrees w claimed sourceEntryId) :
    (w.restoreBinding claimed).pendingSource pending.1 sourceEntryId = none := by
  have hmem : pending ∈ w.pendingSubmissions := mem_of_find?_eq_some hpending
  have hsource : pending.2.sourceEntryId = sourceEntryId := by
    have hfound := find?_some hpending
    exact beq_iff_eq.mp ((Bool.and_eq_true _ _).mp hfound).2
  refine find?_eq_none.mpr (fun other hother hboth => ?_)
  obtain ⟨hne, heq⟩ := (Bool.and_eq_true _ _).mp hboth
  rw [bne_iff_ne] at hne
  rw [beq_iff_eq] at heq
  rw [(restore_loads w claimed).2] at hother
  cases hloads : w.loads claimed with
  | none =>
    rw [hloads, Option.getD_none] at hother
    have : Std.Symm ApartPending := ⟨fun _ _ h => ⟨h.1.symm, h.2.symm⟩⟩
    refine (h.pending.forall hother hmem (fun hsame => hne (by rw [hsame]))).2 ?_
    rw [heq, hsource]
  | some loaded =>
    rw [hloads, Option.getD_some] at hother
    exact hne (hagrees loaded hloads pending hmem hsource other hother heq)

/-- The condition of an injection: on what its own look at the file loads, and on what the look
of the one more call would. -/
structure InjectOk (w : Drone) (claimed : Bool) (sourceEntryId : EntryId) : Prop where
  first : RestoreOk w claimed
  second : RestoreOk (w.restoreBinding claimed) claimed
  agrees : Agrees (w.restoreBinding claimed) claimed sourceEntryId

instance (w : Drone) (claimed : Bool) (sourceEntryId : EntryId) :
    Decidable (InjectOk w claimed sourceEntryId) :=
  decidable_of_iff (_ ∧ _ ∧ _)
    ⟨fun h => ⟨h.1, h.2.1, h.2.2⟩, fun h => ⟨h.first, h.second, h.agrees⟩⟩

/-- One more call at most, which answers. -/
lemma inject_cases (h : DroneOk w) {claimed : Bool} {sourceEntryId : EntryId}
    (hok : InjectOk w claimed sourceEntryId) (text : String) (entryId : EntryId)
    (allowSubmit : Bool) :
    ∃ result : Drone × Drone.InjectAnswer, DroneOk result.1 ∧
      (∀ depth, Drone.injectOpenCodeEntry claimed text sourceEntryId (depth + 2) w entryId
        allowSubmit = some result) ∧
      (Drone.injectOpenCodeEntry claimed text sourceEntryId 1 w entryId allowSubmit =
          some result ∨
        Drone.injectOpenCodeEntry claimed text sourceEntryId 1 w entryId allowSubmit = none) := by
  have hfirst := restore_ok h hok.first
  cases hpending : (w.restoreBinding claimed).pendingSource entryId sourceEntryId with
  | none =>
    have hcall : ∀ depth, Drone.injectOpenCodeEntry claimed text sourceEntryId (depth + 1) w
        entryId allowSubmit =
          some ((w.restoreBinding claimed).enqueue text entryId allowSubmit sourceEntryId) := by
      intro depth
      rw [Drone.injectOpenCodeEntry, hpending]
    exact ⟨_, enqueue_ok hfirst text hpending allowSubmit, fun depth => hcall (depth + 1),
      .inl (hcall 0)⟩
  | some pending =>
    have hnone := pendingSource_restored hfirst hpending hok.agrees
    refine ⟨((w.restoreBinding claimed).restoreBinding claimed).enqueue text pending.1 false
      sourceEntryId, enqueue_ok (restore_ok hfirst hok.second) text hnone false, fun depth => ?_,
      .inr ?_⟩
    · rw [Drone.injectOpenCodeEntry, hpending]
      dsimp only
      rw [Drone.injectOpenCodeEntry, hnone]
    · rw [Drone.injectOpenCodeEntry, hpending]
      rfl

/-! ### Runs -/

/-- The condition of a step: a restore loads a list with one entry for each source, none of it
beside another entry queued for its source. -/
def StepOk (w : Drone) : DroneStep → Prop
  | .inject claimed _ _ _ _ sourceEntryId => InjectOk w claimed sourceEntryId
  | .restore claimed => RestoreOk w claimed
  | _ => True

instance (w : Drone) (step : DroneStep) : Decidable (StepOk w step) := by
  cases step <;> (unfold StepOk; infer_instance)

lemma connected_ok (file : Option SessionBinding) : DroneOk { file := file } :=
  ⟨.nil, .nil, fun _ hdelivery => absurd hdelivery not_mem_nil⟩

lemma droneStep_ok (w : Drone) (step : DroneStep) (h : DroneOk w) (hok : StepOk w step) :
    DroneOk (droneStep w step) := by
  cases step with
  | inject claimed depth text entryId allowSubmit sourceEntryId =>
    obtain ⟨result, hresult, hcall, hone⟩ := inject_cases h hok text entryId allowSubmit
    change DroneOk (((Drone.injectOpenCodeEntry claimed text sourceEntryId depth w entryId
      allowSubmit).map (·.1)).getD (w.restoreBinding claimed))
    match depth with
    | 0 => exact restore_ok h hok.first
    | 1 =>
      rcases hone with hsome | hnone
      · rw [hsome]
        exact hresult
      · rw [hnone]
        exact restore_ok h hok.first
    | depth + 2 =>
      rw [hcall depth]
      exact hresult
  | settle sourceEntryId ok => exact settle_ok h sourceEntryId ok
  | restore claimed => exact restore_ok h hok
  | clear => exact clear_ok h
  | save sessionId ok =>
    obtain ⟨hpending, hactive⟩ := writeBinding_same w sessionId ok
    exact h.same (hpending ▸ Sublist.refl _) hactive
  | search entryId target => exact search_ok h entryId target
  | found entryId ok =>
    exact h.same (clearPending_same w entryId ok).1 (clearPending_same w entryId ok).2
  | notFound entryId => exact notFound_ok h entryId
  | submit entryId ok => exact submit_ok h entryId ok
  | answered entryId status ok => exact answered_ok h entryId status ok
  | finish entryId outcome ok => exact finish_ok h entryId outcome ok
  | reconcile entryId text sourceEntryId ok =>
    obtain ⟨hpending, hactive⟩ := confirm_same w entryId text sourceEntryId ok
    exact h.same hpending hactive
  | reconnect => exact connected_ok w.file
  | write file => exact h.same (Sublist.refl _) rfl

/-- Where two entries of a source are pending, no number of calls suffices. -/
lemma inject_endless {claimed : Bool} (hrestore : w.restoreBinding claimed = w)
    {sourceEntryId : EntryId} {first second : EntryId × PendingOpenCodeSubmission}
    (hfirst : first ∈ w.pendingSubmissions) (hsecond : second ∈ w.pendingSubmissions)
    (hne : first.1 ≠ second.1) (hsource : first.2.sourceEntryId = sourceEntryId)
    (hsource' : second.2.sourceEntryId = sourceEntryId) (text : String) (depth : ℕ)
    (entryId : EntryId) (allowSubmit : Bool) :
    Drone.injectOpenCodeEntry claimed text sourceEntryId depth w entryId allowSubmit = none := by
  induction depth generalizing entryId allowSubmit with
  | zero => rfl
  | succ depth ih =>
    rw [Drone.injectOpenCodeEntry, hrestore]
    cases hpending : w.pendingSource entryId sourceEntryId with
    | some pending => exact ih pending.1 false
    | none =>
      -- one of the two is another entry
      have hother : ∀ pending ∈ w.pendingSubmissions, pending.2.sourceEntryId = sourceEntryId →
          pending.1 = entryId := by
        intro pending hmem heq
        by_contra hid
        exact find?_eq_none.mp hpending pending hmem
          (by rw [bne_iff_ne.mpr hid, beq_iff_eq.mpr heq, Bool.and_self])
      exact absurd ((hother first hfirst hsource).trans (hother second hsecond hsource').symm) hne

end BorgClient.OpenCode
