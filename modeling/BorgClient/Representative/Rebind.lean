import BorgClient.Representative.Isolation

/-!
# Rebinding a worktree

Runs of operator saves and of transactions of calls in flight. What a rebind leaves behind: the
calls begun under the generation before it change nothing any more, the same selection carries
its ledger over, and another selection starts with none.
-/

namespace BorgClient.Representative
open Platform List Tables Runs

/-- A generation without rows in any table. -/
structure EmptyAt (generation : String) (db : Db) : Prop where
  requests : (db.requests generation).rows = []
  delivery : db.delivery.find generation = none
  returned : (db.returned generation).rows = []
  wake_state : db.wake_state generation = none
  wake_replies : (db.wake_replies generation).rows = []

lemma OnlyAt.emptyAt {generation g : String} {db db' : Db} (h : OnlyAt generation db db')
    (hg : g ≠ generation) (he : EmptyAt g db) : EmptyAt g db' where
  requests := by rw [h.requests g hg]; exact he.requests
  delivery := by rw [h.delivery g hg]; exact he.delivery
  returned := by rw [h.returned g hg]; exact he.returned
  wake_state := by rw [h.wake_state g hg]; exact he.wake_state
  wake_replies := by rw [h.wake_replies g hg]; exact he.wake_replies

/-- Every generation with a row in some table is bound to a worktree: the state of a database
just seeded, with whatever was imported into it. -/
def OwnedByBindings (db : Db) : Prop :=
  ∀ g, (∀ row ∈ db.bindings, row.generation ≠ g) → EmptyAt g db

section Saves

variable [Platform]

inductive BindingStep
  | save (binding : RepresentativeBinding) (rebind : Bool)
  | call (c : StateCall)

def bindingStep (db : Db) : BindingStep → Db
  | .save binding rebind => (transact db (saveBinding binding rebind)).2
  | .call c => (transact db c.transaction).2

/-- No worktree was bound to the generation at any point of the run. -/
def NeverBound (db : Db) (ls : List BindingStep) (generation : String) : Prop :=
  ∀ pre, pre <+: ls → ∀ row ∈ (run bindingStep db pre).bindings, row.generation ≠ generation

/-! ### What a save does -/

/-- The ledger a save stores under the new generation. -/
def carriedRows (db : Db) (row : Option BindingRow) (binding : RepresentativeBinding) :
    List RepresentativeRequestRecord :=
  match row with
  | some existing =>
    if sameSelection existing.binding binding then (db.requests existing.generation).rows else []
  | none => []

/-- A save that took effect, over the worktree's row `row`. -/
structure Saved (db : Db) (row : Option BindingRow) (binding : RepresentativeBinding) (db' : Db) :
    Prop where
  valid : validBinding binding binding.worktree = true
  bindings : db'.bindings = db.bindings.filter (·.worktree != binding.worktree) ++
    [⟨binding.worktree, bindingFingerprint binding, seatKey binding, .prepared, binding⟩]
  others : ∀ g, g ≠ bindingFingerprint binding → db'.requests g = db.requests g
  ledger : (db'.requests (bindingFingerprint binding)).rows =
    if carriedRows db row binding = [] then (db.requests (bindingFingerprint binding)).rows
    else carriedRows db row binding
  delivery : db'.delivery = db.delivery
  returned : db'.returned = db.returned
  wake_state : db'.wake_state = db.wake_state
  wake_replies : db'.wake_replies = db.wake_replies

lemma insertBindingRow_ok {db db' : Db} {binding : RepresentativeBinding} {origin : BindingOrigin}
    (h : insertBindingRow db binding origin = .ok db') :
    db' = { db with bindings := db.bindings ++
      [⟨binding.worktree, bindingFingerprint binding, seatKey binding, origin, binding⟩] } := by
  unfold insertBindingRow at h
  dsimp only at h
  split at h
  · cases h
  · split at h
    · cases h
    · cases h
      rfl

/-- What a valid save runs once it is not refused: over no row, or as a rebind. -/
lemma saveBinding_replaces {db : Db} {binding : RepresentativeBinding} {rebind : Bool}
    {row : Option BindingRow} (hvalid : validBinding binding binding.worktree = true)
    (hrow : currentBindingRow db binding.worktree = .ok row) (hr : row = none ∨ rebind = true) :
    saveBinding binding rebind db =
      match insertBindingRow
          { db with bindings := db.bindings.filter (·.worktree != binding.worktree) }
          binding .prepared with
      | .error e => .error e
      | .ok inserted =>
        if (carriedRows db row binding).length > 0 then
          (storeRequests inserted (bindingFingerprint binding) (carriedRows db row binding)).map
            (fun db' => (if row.isSome then SaveOutcome.rebound else .created, db'))
        else .ok (if row.isSome then SaveOutcome.rebound else .created, inserted) := by
  unfold saveBinding
  simp only [hvalid, Bool.not_true, Bool.false_eq_true, if_false, hrow]
  rcases hr with rfl | rfl
  · rfl
  · cases row <;> rfl

lemma saveBinding_ok {db db' : Db} {binding : RepresentativeBinding} {rebind : Bool}
    {outcome : SaveOutcome} (h : saveBinding binding rebind db = .ok (outcome, db')) :
    outcome = .unchanged ∧ db' = db ∨
    ∃ row, currentBindingRow db binding.worktree = .ok row ∧
      outcome = (if row.isSome then .rebound else .created) ∧ Saved db row binding db' := by
  by_cases hvalid : validBinding binding binding.worktree = true
  · cases hrow : currentBindingRow db binding.worktree with
    | error e => simp [saveBinding, hvalid, hrow] at h
    | ok row =>
      by_cases hr : row = none ∨ rebind = true
      · right
        refine ⟨row, rfl, ?_⟩
        rw [saveBinding_replaces hvalid hrow hr] at h
        split at h
        · cases h
        · rename_i inserted hinsert
          obtain rfl := insertBindingRow_ok hinsert
          split at h
          · rename_i hlen
            cases hst : storeRequests _ (bindingFingerprint binding) (carriedRows db row binding) with
            | error e => rw [hst] at h; cases h
            | ok stored =>
              rw [hst] at h
              obtain ⟨t, ht, rfl⟩ := storeRequests_eq_ok hst
              cases h
              refine ⟨rfl, hvalid, rfl, fun g hg => Function.update_of_ne hg .., ?_, rfl, rfl, rfl, rfl⟩
              rw [if_neg (ne_nil_of_length_pos hlen)]
              simp [ht]
          · rename_i hlen
            cases h
            refine ⟨rfl, hvalid, rfl, fun _ _ => rfl, ?_, rfl, rfl, rfl, rfl⟩
            rw [if_pos (length_eq_zero_iff.mp (by omega))]
      · left
        simp only [not_or, Bool.not_eq_true] at hr
        obtain ⟨existing, rfl⟩ := Option.ne_none_iff_exists'.mp hr.1
        unfold saveBinding at h
        simp only [hvalid, Bool.not_true, Bool.false_eq_true, if_false, hrow, hr.2] at h
        split at h
        · cases h
          exact ⟨rfl, rfl⟩
        · cases h
  · simp [saveBinding, hvalid] at h

/-- A save step changes nothing, or takes effect over the worktree's current row. -/
lemma saveStep_cases (db : Db) (binding : RepresentativeBinding) (rebind : Bool) :
    bindingStep db (.save binding rebind) = db ∨
    ∃ row, Saved db row binding (bindingStep db (.save binding rebind)) := by
  unfold bindingStep transact
  dsimp only
  cases h : saveBinding binding rebind db with
  | error e => exact Or.inl rfl
  | ok out =>
    rcases saveBinding_ok h with ⟨-, hsame⟩ | ⟨row, -, -, hsaved⟩
    · exact Or.inl hsame
    · exact Or.inr ⟨row, hsaved⟩

lemma Saved.mem {db db' : Db} {row : Option BindingRow} {binding : RepresentativeBinding}
    (h : Saved db row binding db') :
    (⟨binding.worktree, bindingFingerprint binding, seatKey binding, .prepared, binding⟩ :
      BindingRow) ∈ db'.bindings := by
  rw [h.bindings]
  simp

/-- The saved row is the worktree's row. -/
lemma Saved.find {db db' : Db} {row : Option BindingRow} {binding : RepresentativeBinding}
    (h : Saved db row binding db') : db'.bindings.find? (·.worktree == binding.worktree) =
      some ⟨binding.worktree, bindingFingerprint binding, seatKey binding, .prepared, binding⟩ := by
  rw [h.bindings, find?_append, find?_eq_none.mpr]
  · simp
  · intro r hr
    simpa using (mem_filter.mp hr).2

/-- The row of another worktree stays. -/
lemma Saved.find_other {db db' : Db} {row : Option BindingRow} {binding : RepresentativeBinding}
    (h : Saved db row binding db') {worktree : String} (hw : worktree ≠ binding.worktree) :
    db'.bindings.find? (·.worktree == worktree) = db.bindings.find? (·.worktree == worktree) := by
  rw [h.bindings, find?_append, find?_filter]
  have hnew : [(⟨binding.worktree, bindingFingerprint binding, seatKey binding, .prepared,
      binding⟩ : BindingRow)].find? (·.worktree == worktree) = none := by
    simp [Ne.symm hw]
  rw [hnew, Option.or_none]
  congr 1
  funext r
  by_cases hr : r.worktree = worktree
  · simp [hr, hw]
  · simp [hr]

/-! ### Generations never bound -/

lemma NeverBound.of_append {db : Db} {ls ms : List BindingStep} {g : String}
    (h : NeverBound db (ls ++ ms) g) : NeverBound db ls g :=
  fun pre hpre => h pre (hpre.trans (prefix_append ls ms))

lemma emptyAt_save {db : Db} {binding : RepresentativeBinding} {rebind : Bool} {g : String}
    (hnew : ∀ row ∈ (bindingStep db (.save binding rebind)).bindings, row.generation ≠ g)
    (h : EmptyAt g db) : EmptyAt g (bindingStep db (.save binding rebind)) := by
  rcases saveStep_cases db binding rebind with hsame | ⟨row, hsaved⟩
  · rw [hsame]
    exact h
  · have hg : g ≠ bindingFingerprint binding := Ne.symm (hnew _ hsaved.mem)
    refine ⟨?_, ?_, ?_, ?_, ?_⟩
    · rw [hsaved.others g hg]
      exact h.requests
    · rw [hsaved.delivery]
      exact h.delivery
    · rw [hsaved.returned]
      exact h.returned
    · rw [hsaved.wake_state]
      exact h.wake_state
    · rw [hsaved.wake_replies]
      exact h.wake_replies

lemma emptyAt_call {db : Db} {c : StateCall} {g : String}
    (hnew : ∀ row ∈ db.bindings, row.generation ≠ g) (h : EmptyAt g db) :
    EmptyAt g (bindingStep db (.call c)) := by
  unfold bindingStep
  dsimp only
  cases hcur : requireCurrentGeneration db c.binding with
  | error e =>
    rw [refused_transaction hcur]
    exact h
  | ok generation =>
    obtain ⟨rfl, row, hrow, hgen⟩ := requireCurrentGeneration_eq_ok.mp hcur
    apply (onlyAt_transaction c db).emptyAt _ h
    rintro rfl
    apply hnew row _ hgen
    unfold currentBindingRow at hrow
    split at hrow
    · cases hrow
    · rename_i found hfind
      split at hrow
      · cases hrow
      · cases hrow
        exact mem_of_find?_eq_some hfind

/-- A generation that was never bound has no rows. -/
lemma emptyAt_run {db : Db} (hseed : OwnedByBindings db) (ls : List BindingStep) :
    ∀ g, NeverBound db ls g → EmptyAt g (run bindingStep db ls) := by
  apply invariant_of_history bindingStep (fun ls db' => ∀ g, NeverBound db ls g → EmptyAt g db')
  · intro g hg
    exact hseed g (hg [] (prefix_refl []))
  · intro ls l ih g hg
    have hbefore : ∀ row ∈ (run bindingStep db ls).bindings, row.generation ≠ g :=
      hg ls (prefix_append ls [l])
    have hafter := hg (ls ++ [l]) (prefix_refl _)
    rw [run_append] at hafter
    cases l with
    | save binding rebind => exact emptyAt_save hafter (ih g hg.of_append)
    | call c => exact emptyAt_call hbefore (ih g hg.of_append)

/-! ### Calls of the generation before -/

/-- The worktree has a valid row, of another generation. -/
def Superseded (worktree generation : String) (db : Db) : Prop :=
  ∃ row, db.bindings.find? (·.worktree == worktree) = some row ∧
    validBinding row.binding worktree = true ∧
    bindingFingerprint row.binding = row.generation ∧ row.generation ≠ generation

lemma Superseded.refuses {worktree generation : String} {db : Db}
    (h : Superseded worktree generation db) {binding : RepresentativeBinding}
    (hw : binding.worktree = worktree) (hg : bindingFingerprint binding = generation) :
    requireCurrentGeneration db binding = .error generationError := by
  obtain ⟨row, hfind, hvalid, hfp, hne⟩ := h
  subst hw hg
  unfold requireCurrentGeneration currentBindingRow
  rw [hfind]
  simp [hvalid, hfp, hne]

lemma Saved.superseded {db db' : Db} {row : Option BindingRow} {binding : RepresentativeBinding}
    (h : Saved db row binding db') {generation : String}
    (hne : bindingFingerprint binding ≠ generation) : Superseded binding.worktree generation db' :=
  ⟨_, h.find, h.valid, rfl, hne⟩

lemma Superseded.step {worktree generation : String} {db : Db}
    (h : Superseded worktree generation db) {l : BindingStep}
    (hl : ∀ binding rebind, l = .save binding rebind → binding.worktree = worktree →
      bindingFingerprint binding ≠ generation) :
    Superseded worktree generation (bindingStep db l) := by
  cases l with
  | call c =>
    unfold Superseded bindingStep
    rw [(onlyAt_transaction c db).bindings]
    exact h
  | save binding rebind =>
    rcases saveStep_cases db binding rebind with hsame | ⟨row, hsaved⟩
    · rw [hsame]
      exact h
    · by_cases hw : binding.worktree = worktree
      · subst hw
        exact hsaved.superseded (hl binding rebind rfl rfl)
      · unfold Superseded
        rw [hsaved.find_other (Ne.symm hw)]
        exact h

lemma Superseded.run {worktree generation : String} {db : Db}
    (h : Superseded worktree generation db) (ls : List BindingStep)
    (hls : ∀ binding rebind, .save binding rebind ∈ ls → binding.worktree = worktree →
      bindingFingerprint binding ≠ generation) :
    Superseded worktree generation (run bindingStep db ls) := by
  induction ls generalizing db with
  | nil => exact h
  | cons l ls ih =>
    apply ih (h.step _)
    · intro binding rebind hmem
      exact hls binding rebind (mem_cons_of_mem l hmem)
    · rintro binding rebind rfl
      exact hls binding rebind mem_cons_self

/-! ### The rebind -/

omit [Platform] in
lemma transact_fst {α : Type} {db : Db} {body : Transaction α} {r : Except RepresentativeError α}
    (h : (transact db body).1 = r) : transact db body = (r, (transact db body).2) :=
  Prod.ext h rfl

/-- The row of a generation that has none yet. -/
lemma ensureRow_creates {db : Db} {binding : RepresentativeBinding}
    (hcur : requireCurrentGeneration db binding = .ok (bindingFingerprint binding))
    (h : EmptyAt (bindingFingerprint binding) db) :
    (transact db (ensureRow binding)).1 = .ok false ∧
      loadDelivery (transact db (ensureRow binding)).2 (bindingFingerprint binding) =
        some ⟨bindingStart binding, .binding, none, none, []⟩ := by
  have hkind : startKindOf db (bindingFingerprint binding) = none := by
    simp [startKindOf, h.delivery]
  unfold transact ensureRow
  simp only [hcur, hkind, true_and]
  unfold loadDelivery
  rw [Table.find_insertOrIgnore, if_pos ⟨h.delivery, rfl⟩]
  simp [h.returned, sortPoints]

/-- A rebind committed over the worktree's current row by a generation that was never bound. In
every run after it that does not bind the old generation again, no transaction of a call of the
old generation changes a row; the same selection carries its ledger over, another one starts with
an empty ledger and no checkpoint. -/
theorem rebind_isolates {db₀ db : Db} (hseed : OwnedByBindings db₀) (before : List BindingStep)
    {row : BindingRow} {binding : RepresentativeBinding}
    (hrow : currentBindingRow (run bindingStep db₀ before) binding.worktree = .ok (some row))
    (hnew : NeverBound db₀ before (bindingFingerprint binding))
    (hsave : transact (run bindingStep db₀ before) (saveBinding binding true) = (.ok .rebound, db)) :
    (∀ after, (∀ later rebind, .save later rebind ∈ after → later.worktree = binding.worktree →
        bindingFingerprint later ≠ row.generation) →
      ∀ c : StateCall, c.binding.worktree = binding.worktree →
        bindingFingerprint c.binding = row.generation →
        transact (run bindingStep db after) c.transaction =
          (refusal c generationError, run bindingStep db after)) ∧
    (sameSelection row.binding binding = true →
      (db.requests (bindingFingerprint binding)).rows =
        ((run bindingStep db₀ before).requests row.generation).rows) ∧
    (sameSelection row.binding binding = false →
      (db.requests (bindingFingerprint binding)).rows = [] ∧
      loadDelivery db (bindingFingerprint binding) = none ∧
      (transact db (ensureRow binding)).1 = .ok false ∧
      loadDelivery (transact db (ensureRow binding)).2 (bindingFingerprint binding) =
        some ⟨bindingStart binding, .binding, none, none, []⟩) := by
  set db₁ := run bindingStep db₀ before with hdb₁
  have hempty : EmptyAt (bindingFingerprint binding) db₁ := emptyAt_run hseed before _ hnew
  have hsaved : Saved db₁ (some row) binding db := by
    unfold transact at hsave
    cases hbody : saveBinding binding true db₁ with
    | error e => simp [hbody] at hsave
    | ok out =>
      obtain ⟨outcome, db'⟩ := out
      simp only [hbody, Prod.mk.injEq, Except.ok.injEq] at hsave
      obtain ⟨rfl, rfl⟩ := hsave
      rcases saveBinding_ok hbody with ⟨hout, -⟩ | ⟨row', hrow', -, hsaved⟩
      · cases hout
      · rw [hrow] at hrow'
        cases hrow'
        exact hsaved
  have hold : bindingFingerprint binding ≠ row.generation := by
    apply Ne.symm
    apply hnew before (prefix_refl before) row
    unfold currentBindingRow at hrow
    split at hrow
    · cases hrow
    · rename_i found hfind
      split at hrow
      · cases hrow
      · cases hrow
        exact mem_of_find?_eq_some hfind
  refine ⟨?_, ?_, ?_⟩
  · intro after hafter c hw hg
    have hsup := (hsaved.superseded hold).run after hafter
    exact refused_transaction (hsup.refuses hw hg)
  · intro hsel
    have hcarried : carriedRows db₁ (some row) binding = (db₁.requests row.generation).rows := by
      simp [carriedRows, hsel]
    rw [hsaved.ledger, hcarried]
    split
    · rename_i hnil
      rw [hempty.requests, hnil]
    · rfl
  · intro hsel
    have hcarried : carriedRows db₁ (some row) binding = [] := by
      simp [carriedRows, hsel]
    have hstart : EmptyAt (bindingFingerprint binding) db := by
      refine ⟨?_, ?_, ?_, ?_, ?_⟩
      · rw [hsaved.ledger, if_pos hcarried]
        exact hempty.requests
      · rw [hsaved.delivery]
        exact hempty.delivery
      · rw [hsaved.returned]
        exact hempty.returned
      · rw [hsaved.wake_state]
        exact hempty.wake_state
      · rw [hsaved.wake_replies]
        exact hempty.wake_replies
    have hcur : requireCurrentGeneration db binding = .ok (bindingFingerprint binding) := by
      unfold requireCurrentGeneration currentBindingRow
      rw [hsaved.find]
      simp [hsaved.valid]
    refine ⟨hstart.requests, ?_, ensureRow_creates hcur hstart⟩
    unfold loadDelivery
    rw [hstart.delivery]
    rfl

end Saves

section Rebound

attribute [local instance] plainPlatform

/-- The operator's next selection for the worktree: another Coordinator. -/
def reboundBinding : RepresentativeBinding :=
  { boundBinding with
    coordinatorDroneId := "10000000-0000-4000-8000-000000000004"
    boundAt := "2026-01-02T00:00:00.000Z" }

/-- The worktree rebound, with an empty ledger before. -/
def reboundDb : Db := (transact (boundDb ⟨[], nodup_nil⟩) (saveBinding reboundBinding true)).2

/-- A deliver begun under the old selection refuses, and the new one has no checkpoint. -/
theorem rebind_isolates_deliver :
    transact reboundDb (StateCall.deliver boundBinding (bindingStart boundBinding)).transaction =
      (.error generationError, reboundDb) ∧
    loadDelivery reboundDb (bindingFingerprint reboundBinding) = none := by
  have hseed : OwnedByBindings (boundDb ⟨[], nodup_nil⟩) := by
    intro g _
    refine ⟨?_, rfl, rfl, rfl, rfl⟩
    simp [boundDb]
  have hnew : NeverBound (boundDb ⟨[], nodup_nil⟩) [] (bindingFingerprint reboundBinding) := by
    intro pre hpre row hrow
    obtain rfl := prefix_nil.mp hpre
    obtain rfl := mem_singleton.mp hrow
    decide +kernel
  have hrow : currentBindingRow (run bindingStep (boundDb ⟨[], nodup_nil⟩) [])
      reboundBinding.worktree = .ok (some boundRow) := by
    decide +kernel
  have hsave : transact (run bindingStep (boundDb ⟨[], nodup_nil⟩) [])
      (saveBinding reboundBinding true) = (.ok .rebound, reboundDb) := by
    rw [run_nil, reboundDb]
    exact transact_fst (by decide +kernel)
  have h := rebind_isolates hseed [] hrow hnew hsave
  refine ⟨?_, (h.2.2 (by decide +kernel)).2.1⟩
  have hrefused := h.1 [] (by simp) (.deliver boundBinding (bindingStart boundBinding)) rfl rfl
  rwa [refusal_refuse rfl] at hrefused

end Rebound

end BorgClient.Representative
