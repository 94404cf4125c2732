import BorgClient.Representative.Db

/-!
# Bindings and the request ledger

`representative-store.ts`: the binding row of a worktree, its generation fingerprint, and
the per-generation request ledger with its bounded settled history.
-/

namespace BorgClient.Representative
open Platform List Tables

/-! ### The ledger -/

def SETTLED_REQUEST_LIMIT : ℕ := 200

def RepresentativeRequestRecord.settled (record : RepresentativeRequestRecord) : Bool :=
  record.state == .sent || record.state == .rejected

/-- Settled history is bounded: the oldest settled records beyond the limit are dropped. -/
def pruneSettled (records : List RepresentativeRequestRecord) : List RepresentativeRequestRecord :=
  let settled := records.filter (·.settled)
  if settled.length ≤ SETTLED_REQUEST_LIMIT then records
  else
    let drop := (settled.take (settled.length - SETTLED_REQUEST_LIMIT)).map (·.requestId)
    records.filter (fun record => !drop.contains record.requestId)

lemma pruneSettled_sublist (records : List RepresentativeRequestRecord) :
    pruneSettled records <+ records := by
  unfold pruneSettled
  dsimp only
  split
  · exact Sublist.refl records
  · exact filter_sublist

/-- Unresolved records are never dropped: a dropped id belongs to a settled record, and ids
are unique. -/
lemma mem_pruneSettled {records : List RepresentativeRequestRecord}
    (hu : (records.map (·.requestId)).Nodup) {r : RepresentativeRequestRecord}
    (hr : r ∈ records) (hs : r.settled = false) : r ∈ pruneSettled records := by
  unfold pruneSettled
  dsimp only
  split
  · exact hr
  · rw [mem_filter]
    refine ⟨hr, ?_⟩
    by_contra hc
    simp only [Bool.not_eq_true, Bool.not_eq_false', contains_iff_mem, mem_map] at hc
    obtain ⟨q, hq, hid⟩ := hc
    have hqf := mem_filter.mp (mem_of_mem_take hq)
    have hqr : q = r := inj_on_of_nodup_map hu hqf.1 hr hid
    rw [hqr, hs] at hqf
    exact Bool.false_ne_true hqf.2

/-- The settled records behind the one under `id`. -/
def settledBehind (id : String) (records : List RepresentativeRequestRecord) : ℕ :=
  ((records.dropWhile (·.requestId != id)).tail.filter (·.settled)).length

/-- A settled record survives exactly when fewer than the limit are settled behind it. -/
lemma mem_pruneSettled_iff {records : List RepresentativeRequestRecord}
    (hu : (records.map (·.requestId)).Nodup) {r : RepresentativeRequestRecord}
    (hr : r ∈ records) (hs : r.settled = true) :
    r ∈ pruneSettled records ↔ settledBehind r.requestId records < SETTLED_REQUEST_LIMIT := by
  obtain ⟨front, back, rfl⟩ := append_of_mem hr
  have hfront : ∀ q ∈ front, q.requestId ≠ r.requestId := by
    intro q hq h
    rw [map_append, nodup_append] at hu
    exact hu.2.2 _ (mem_map_of_mem hq) _ (by simp) h
  have hdrop : (front ++ r :: back).dropWhile (·.requestId != r.requestId) = r :: back := by
    rw [dropWhile_append_of_pos (by simpa using hfront)]
    simp
  have hsettled : (front ++ r :: back).filter (·.settled) =
      front.filter (·.settled) ++ r :: back.filter (·.settled) := by
    rw [filter_append, filter_cons_of_pos hs]
  unfold settledBehind
  rw [hdrop, tail_cons]
  unfold pruneSettled
  dsimp only
  rw [hsettled]
  simp only [length_append, length_cons]
  split
  · rename_i hle
    exact ⟨fun _ => by omega, fun _ => hr⟩
  · rename_i hgt
    rw [mem_filter]
    have hdropped : (((front.filter (·.settled) ++ r :: back.filter (·.settled)).take
        ((front.filter (·.settled)).length + ((back.filter (·.settled)).length + 1) -
          SETTLED_REQUEST_LIMIT)).map (·.requestId)).contains r.requestId = true ↔
        SETTLED_REQUEST_LIMIT ≤ (back.filter (·.settled)).length := by
      rw [contains_iff_mem, mem_map]
      constructor
      · rintro ⟨q, hq, hid⟩
        by_contra hlt
        rw [take_append_of_le_length (by omega)] at hq
        exact hfront q (mem_filter.mp (mem_of_mem_take hq)).1 hid
      · intro hle
        refine ⟨r, ?_, rfl⟩
        rw [take_append, mem_append]
        right
        rw [take_cons (by omega)]
        exact mem_cons_self
    rw [← not_le, ← hdropped]
    simp [hr]

/-- `DELETE` then one `INSERT` a record; `PRIMARY KEY (generation, request_id)` refuses a
repeated id. -/
def storeRequests (db : Db) (generation : String) (records : List RepresentativeRequestRecord) :
    Except RepresentativeError Db :=
  match Table.ofRows records with
  | some table => .ok { db with requests := Function.update db.requests generation table }
  | none => .error ⟨.STATE_ERROR,
      "UNIQUE constraint failed: requests.generation, requests.request_id", none⟩

lemma storeRequests_eq_ok {db db' : Db} {g : String} {records : List RepresentativeRequestRecord}
    (h : storeRequests db g records = .ok db') :
    ∃ t : Table RepresentativeRequestRecord.requestId, t.rows = records ∧
      db' = { db with requests := Function.update db.requests g t } := by
  unfold storeRequests at h
  split at h
  · rename_i t ht
    cases h
    exact ⟨t, Table.ofRows_eq_some.mp ht, rfl⟩
  · cases h

inductive OnStale | refuse | skip
deriving DecidableEq, Repr

def sameSelection (a b : RepresentativeBinding) : Bool :=
  a.origin == b.origin && a.trustIdentity == b.trustIdentity && a.cubeId == b.cubeId &&
    a.representativeDroneId == b.representativeDroneId &&
    a.coordinatorDroneId == b.coordinatorDroneId

inductive SaveOutcome | created | unchanged | rebound
deriving DecidableEq, Repr

/-! ### Bindings and transactions -/

variable [Platform]

/-- Host fence for one binding generation. -/
def bindingFingerprint (binding : RepresentativeBinding) : String :=
  sha256 [binding.origin, binding.trustIdentity, binding.cubeId,
    binding.representativeDroneId, binding.coordinatorDroneId, binding.boundAt]

def seatKey (binding : RepresentativeBinding) : String :=
  sha256 [binding.origin, binding.trustIdentity, binding.cubeId, binding.representativeDroneId]

/-- A single-quoted shell word: every quote inside closes, escapes and reopens it. -/
def shellEscape (s : String) : String :=
  "'" ++ s.replace "'" "'\\''" ++ "'"

def representativeRecoveryCommand (binding : RepresentativeBinding) : String :=
  "cd " ++ shellEscape binding.worktree ++ " && borg representative prepare --coordinator " ++
    shellEscape binding.coordinatorLabel ++ " --role " ++
    shellEscape binding.representativeRoleName ++ " --rebind"

def generationError : RepresentativeError where
  code := .BINDING_MISMATCH
  message := "The operator rebound this representative connection while this operation ran. " ++
    "Nothing was changed; restart the host connection to use the new binding."

/-- The string fields `validBinding` requires to be present and non-empty. -/
def bindingStringFields (binding : RepresentativeBinding) : List String :=
  [binding.worktree, binding.origin, binding.trustIdentity, binding.cubeId, binding.cubeName,
    binding.representativeDroneId, binding.representativeLabel, binding.representativeRoleName,
    binding.coordinatorDroneId, binding.coordinatorLabel, binding.coordinatorRoleName,
    binding.boundAt]

def validBinding (binding : RepresentativeBinding) (key : String) : Bool :=
  (bindingStringFields binding).all (· != "") && binding.worktree == key &&
    isRepresentativeUuid binding.cubeId && isRepresentativeUuid binding.representativeDroneId &&
    isRepresentativeUuid binding.coordinatorDroneId &&
    binding.representativeDroneId != binding.coordinatorDroneId

/-- The worktree's current binding row inside a transaction, or none. -/
def currentBindingRow (db : Db) (worktree : String) :
    Except RepresentativeError (Option BindingRow) :=
  match db.bindings.find? (·.worktree == worktree) with
  | none => .ok none
  | some row =>
    if !validBinding row.binding worktree || bindingFingerprint row.binding != row.generation then
      .error ⟨.STATE_ERROR,
        "The representative state holds an invalid binding row for " ++ worktree, none⟩
    else .ok (some row)

/-- Refuse unless `binding`'s generation is the worktree's current one. -/
def requireCurrentGeneration (db : Db) (binding : RepresentativeBinding) :
    Except RepresentativeError String :=
  match currentBindingRow db binding.worktree with
  | .error e => .error e
  | .ok none => .error generationError
  | .ok (some row) =>
    if row.generation != bindingFingerprint binding then .error generationError
    else .ok (bindingFingerprint binding)

/-- Read-compare-write over the ledger of `binding`'s generation; a stale generation
refuses, or with `skip` changes nothing and returns `none`. -/
def transactRequests {α : Type} (binding : RepresentativeBinding)
    (op : List RepresentativeRequestRecord →
      Except RepresentativeError (α × List RepresentativeRequestRecord))
    (onStale : OnStale) : Transaction (Option α) := fun db =>
  match requireCurrentGeneration db binding with
  | .error e =>
    if onStale = .skip ∧ e = generationError then .ok (none, db) else .error e
  | .ok generation =>
    match op (db.requests generation).rows with
    | .error e => .error e
    | .ok (result, records) =>
      let next := pruneSettled records
      if next = (db.requests generation).rows then .ok (some result, db)
      else (storeRequests db generation next).map (fun db' => (some result, db'))

/-- Inserts a binding row; another worktree holding the same generation refuses, and so do
the keys `worktree PRIMARY KEY` and `generation UNIQUE`. -/
def insertBindingRow (db : Db) (binding : RepresentativeBinding) (origin : BindingOrigin) :
    Except RepresentativeError Db :=
  let generation := bindingFingerprint binding
  let holder := db.bindings.find? (·.generation == generation)
  match holder.filter (·.worktree != binding.worktree) with
  | some holder =>
    .error ⟨.BINDING_CONFLICT, "Representative drone " ++ binding.representativeLabel ++
      " is already bound to Coordinator " ++ binding.coordinatorLabel ++ " in worktree " ++
      holder.worktree ++ " with the same binding generation. " ++
      "Prepare this worktree with its own representative seat.", none⟩
  | none =>
    if holder.isSome || db.bindings.any (·.worktree == binding.worktree) then
      .error ⟨.STATE_ERROR, "UNIQUE constraint failed: bindings", none⟩
    else
      .ok { db with bindings :=
        db.bindings ++ [⟨binding.worktree, generation, seatKey binding, origin, binding⟩] }

/-- Saves the operator's selection. A rebind starts a new generation; the same selection
keeps its ledger, a different one starts with none. -/
def saveBinding (binding : RepresentativeBinding) (rebind : Bool) : Transaction SaveOutcome :=
  fun db =>
  if !validBinding binding binding.worktree then
    .error ⟨.STATE_ERROR, "Refusing to save an invalid representative binding", none⟩
  else match currentBindingRow db binding.worktree with
  | .error e => .error e
  | .ok row =>
    match row, rebind with
    | some existing, false =>
      if sameSelection existing.binding binding then .ok (.unchanged, db)
      else .error ⟨.BINDING_CONFLICT, "This worktree is already bound to Coordinator " ++
        existing.binding.coordinatorLabel ++ " in cube " ++ existing.binding.cubeName ++
        ". To confirm the new selection, run `" ++ representativeRecoveryCommand binding ++ "`.", none⟩
    | row, _ =>
      let carried := match row with
        | some existing =>
          if sameSelection existing.binding binding then (db.requests existing.generation).rows
          else []
        | none => []
      let cleared := { db with bindings := db.bindings.filter (·.worktree != binding.worktree) }
      match insertBindingRow cleared binding .prepared with
      | .error e => .error e
      | .ok inserted =>
        let outcome := if row.isSome then SaveOutcome.rebound else .created
        if carried.length > 0 then
          (storeRequests inserted (bindingFingerprint binding) carried).map
            (fun db' => (outcome, db'))
        else .ok (outcome, inserted)

lemma requireCurrentGeneration_eq_ok {db : Db} {binding : RepresentativeBinding} {g : String} :
    requireCurrentGeneration db binding = .ok g ↔ g = bindingFingerprint binding ∧
      ∃ row, currentBindingRow db binding.worktree = .ok (some row) ∧ row.generation = g := by
  constructor
  · intro h
    unfold requireCurrentGeneration at h
    split at h
    · cases h
    · cases h
    · rename_i row hrow
      split at h
      · cases h
      · rename_i hg
        cases h
        exact ⟨rfl, row, hrow, by simpa using hg⟩
  · rintro ⟨rfl, row, hrow, hg⟩
    simp [requireCurrentGeneration, hrow, hg]

/-- All a committed ledger transaction can do: it was stale and skipped, or its body ran on
the current generation's ledger, whose rows are now the body's rows, pruned. -/
lemma transactRequests_cases {α : Type} {binding : RepresentativeBinding}
    {op : List RepresentativeRequestRecord →
      Except RepresentativeError (α × List RepresentativeRequestRecord)}
    {onStale : OnStale} {db db' : Db} {res : Option α}
    (h : transactRequests binding op onStale db = .ok (res, db')) :
    (requireCurrentGeneration db binding = .error generationError ∧ res = none ∧ db' = db) ∨
    ∃ result records, ∃ t : Table RepresentativeRequestRecord.requestId,
      requireCurrentGeneration db binding = .ok (bindingFingerprint binding) ∧
      op (db.requests (bindingFingerprint binding)).rows = .ok (result, records) ∧
      res = some result ∧ t.rows = pruneSettled records ∧
      db' = { db with requests := Function.update db.requests (bindingFingerprint binding) t } := by
  unfold transactRequests at h
  split at h
  · rename_i e he
    split at h
    · rename_i hskip
      cases h
      exact Or.inl ⟨hskip.2 ▸ he, rfl, rfl⟩
    · cases h
  · rename_i g hg
    obtain rfl := (requireCurrentGeneration_eq_ok.mp hg).1
    right
    split at h
    · cases h
    · rename_i result records hop
      refine ⟨result, records, ?_⟩
      dsimp only at h
      split at h
      · rename_i heq
        cases h
        refine ⟨db.requests (bindingFingerprint binding), hg, hop, rfl, heq.symm, ?_⟩
        rw [Function.update_eq_self]
      · cases hst : storeRequests db (bindingFingerprint binding) (pruneSettled records) with
        | error e => rw [hst] at h; cases h
        | ok db1 =>
          rw [hst] at h
          cases h
          obtain ⟨t, ht, rfl⟩ := storeRequests_eq_ok hst
          exact ⟨t, hg, hop, rfl, ht, rfl⟩

/-- On the current generation a body that does not throw, and keeps ids distinct, commits. -/
lemma transactRequests_commits {α : Type} {binding : RepresentativeBinding}
    {op : List RepresentativeRequestRecord →
      Except RepresentativeError (α × List RepresentativeRequestRecord)}
    (onStale : OnStale) {db : Db} {result : α} {records : List RepresentativeRequestRecord}
    (hg : requireCurrentGeneration db binding = .ok (bindingFingerprint binding))
    (hop : op (db.requests (bindingFingerprint binding)).rows = .ok (result, records))
    (hu : (records.map (·.requestId)).Nodup) :
    ∃ t : Table RepresentativeRequestRecord.requestId, t.rows = pruneSettled records ∧
      transact db (transactRequests binding op onStale) = (.ok (some result),
        { db with requests := Function.update db.requests (bindingFingerprint binding) t }) := by
  unfold transact transactRequests
  simp only [hg, hop]
  by_cases hsame : pruneSettled records = (db.requests (bindingFingerprint binding)).rows
  · refine ⟨db.requests (bindingFingerprint binding), hsame.symm, ?_⟩
    simp only [hsame, if_true, Function.update_eq_self]
  · have hn : ((pruneSettled records).map (·.requestId)).Nodup :=
      Table.nodup_of_sublist (pruneSettled_sublist records) hu
    refine ⟨⟨pruneSettled records, hn⟩, rfl, ?_⟩
    simp only [hsame, if_false, storeRequests, Table.ofRows, dif_pos hn, Except.map]

lemma requireCurrentGeneration_error {db : Db} {binding : RepresentativeBinding}
    {e : RepresentativeError} (h : requireCurrentGeneration db binding = .error e) :
    e = generationError ∨ e.code = .STATE_ERROR := by
  unfold requireCurrentGeneration at h
  split at h
  · rename_i e' hrow
    cases h
    unfold currentBindingRow at hrow
    split at hrow
    · cases hrow
    · split at hrow
      · cases hrow
        exact Or.inr rfl
      · cases hrow
  · cases h
    exact Or.inl rfl
  · split at h
    · cases h
      exact Or.inl rfl
    · cases h

/-- A skipping transaction whose body does not throw fails with the store's own errors only. -/
lemma transactRequests_skip_error {α : Type} {binding : RepresentativeBinding}
    {op : List RepresentativeRequestRecord →
      Except RepresentativeError (α × List RepresentativeRequestRecord)}
    {db : Db} {e : RepresentativeError} (hop : ∀ records, ∃ out, op records = .ok out)
    (h : (transact db (transactRequests binding op .skip)).1 = .error e) :
    e.code = .STATE_ERROR := by
  unfold transact transactRequests at h
  cases hg : requireCurrentGeneration db binding with
  | error e' =>
    simp only [hg, true_and] at h
    rcases requireCurrentGeneration_error hg with rfl | he
    · simp at h
    · have hne : e' ≠ generationError := by
        rintro rfl
        cases he
      simp only [hne, if_false, Except.error.injEq] at h
      rw [← h, he]
  | ok g =>
    obtain ⟨⟨result, records⟩, hout⟩ := hop (db.requests g).rows
    simp only [hg, hout] at h
    split at h
    · cases h
    · rename_i e' hst
      cases h
      split at hst
      · cases hst
      · unfold storeRequests at hst
        split at hst
        · cases hst
        · cases hst
          rfl

/-! ### The ledger a worktree's next transaction sees -/

/-- The ledger of the worktree's current generation. -/
def currentLedger (db : Db) (worktree : String) :
    Option (Table RepresentativeRequestRecord.requestId) :=
  match currentBindingRow db worktree with
  | .ok (some row) => some (db.requests row.generation)
  | _ => none

lemma currentLedger_eq_some {db : Db} {worktree : String}
    {t : Table RepresentativeRequestRecord.requestId} :
    currentLedger db worktree = some t ↔
      ∃ row, currentBindingRow db worktree = .ok (some row) ∧ db.requests row.generation = t := by
  unfold currentLedger
  split
  · rename_i row hrow
    simp [hrow]
  · rename_i hno
    simp only [reduceCtorEq, false_iff, not_exists, not_and]
    intro row hrow
    exact absurd hrow (hno row)

lemma currentBindingRow_congr {db db' : Db} (h : db'.bindings = db.bindings) (worktree : String) :
    currentBindingRow db' worktree = currentBindingRow db worktree := by
  unfold currentBindingRow
  rw [h]

lemma currentLedger_update {db : Db} {worktree : String} {row : BindingRow}
    (hrow : currentBindingRow db worktree = .ok (some row))
    (t : Table RepresentativeRequestRecord.requestId) :
    currentLedger { db with requests := Function.update db.requests row.generation t } worktree =
      some t :=
  currentLedger_eq_some.mpr ⟨row, by rw [← hrow]; exact currentBindingRow_congr rfl worktree,
    Function.update_self ..⟩

/-- A ledger transaction, seen from the worktree: it left the state alone and produced no
result, or the current ledger's rows are now the body's rows, pruned. -/
lemma transact_requests_cases {α : Type} (db : Db) (binding : RepresentativeBinding)
    (op : List RepresentativeRequestRecord →
      Except RepresentativeError (α × List RepresentativeRequestRecord)) (onStale : OnStale) :
    ((transact db (transactRequests binding op onStale)).2 = db ∧
      ∀ result, (transact db (transactRequests binding op onStale)).1 ≠ .ok (some result)) ∨
    ∃ result records, ∃ t t' : Table RepresentativeRequestRecord.requestId,
      requireCurrentGeneration db binding = .ok (bindingFingerprint binding) ∧
      db.requests (bindingFingerprint binding) = t ∧
      currentLedger db binding.worktree = some t ∧ op t.rows = .ok (result, records) ∧
      (transact db (transactRequests binding op onStale)).1 = .ok (some result) ∧
      t'.rows = pruneSettled records ∧
      currentLedger (transact db (transactRequests binding op onStale)).2 binding.worktree =
        some t' := by
  unfold transact
  cases htr : transactRequests binding op onStale db with
  | error e => exact Or.inl ⟨rfl, by simp⟩
  | ok out =>
    obtain ⟨res, db'⟩ := out
    rcases transactRequests_cases htr with
      ⟨_, hres, hdb⟩ | ⟨result, records, t', hg, hop, hres, ht, hdb⟩
    · exact Or.inl ⟨hdb, by simp [hres]⟩
    · right
      obtain ⟨_, row, hrow, hgen⟩ := requireCurrentGeneration_eq_ok.mp hg
      refine ⟨result, records, db.requests (bindingFingerprint binding), t', hg, rfl, ?_, hop,
        by rw [hres], ht, ?_⟩
      · exact currentLedger_eq_some.mpr ⟨row, hrow, by rw [hgen]⟩
      · rw [hdb, ← hgen]
        exact currentLedger_update hrow t'

lemma insertBindingRow_eq_ok {db db' : Db} {binding : RepresentativeBinding}
    {origin : BindingOrigin} (h : insertBindingRow db binding origin = .ok db') :
    db' = { db with bindings := db.bindings ++
      [⟨binding.worktree, bindingFingerprint binding, seatKey binding, origin, binding⟩] } := by
  unfold insertBindingRow at h
  dsimp only at h
  split at h
  · cases h
  · split at h
    · cases h
    · cases h
      rfl

/-- The row `saveBinding` inserts is the worktree's current one. -/
lemma currentBindingRow_saved (db : Db) {binding : RepresentativeBinding} {row : BindingRow}
    (hv : validBinding binding binding.worktree = true)
    (hrow : row = ⟨binding.worktree, bindingFingerprint binding, seatKey binding, .prepared,
      binding⟩) (rest : Db)
    (hb : rest.bindings = db.bindings.filter (·.worktree != binding.worktree) ++ [row]) :
    currentBindingRow rest binding.worktree = .ok (some row) := by
  subst hrow
  have hnone : (db.bindings.filter (·.worktree != binding.worktree)).find?
      (·.worktree == binding.worktree) = none := by
    rw [find?_eq_none]
    intro x hx
    simpa using (mem_filter.mp hx).2
  unfold currentBindingRow
  rw [hb, find?_append, hnone]
  simp [hv]

/-- A rebind to the selection already bound keeps the ledger: if it commits, the current
ledger has the same rows, unless there were none. -/
lemma saveBinding_sameSelection {db : Db} {binding : RepresentativeBinding} {row : BindingRow}
    (hrow : currentBindingRow db binding.worktree = .ok (some row))
    (hs : sameSelection row.binding binding = true) :
    ∃ t', currentLedger (transact db (saveBinding binding true)).2 binding.worktree = some t' ∧
      ((db.requests row.generation).rows ≠ [] → t'.rows = (db.requests row.generation).rows) := by
  have hsame : ∃ t', currentLedger db binding.worktree = some t' ∧
      ((db.requests row.generation).rows ≠ [] → t'.rows = (db.requests row.generation).rows) :=
    ⟨_, currentLedger_eq_some.mpr ⟨row, hrow, rfl⟩, fun _ => rfl⟩
  cases hsave : saveBinding binding true db with
  | error e => simpa only [transact, hsave] using hsame
  | ok res =>
    obtain ⟨outcome, db'⟩ := res
    simp only [transact, hsave]
    unfold saveBinding at hsave
    split at hsave
    · cases hsave
    rename_i hv
    have hv' : validBinding binding binding.worktree = true := by simpa using hv
    rw [hrow] at hsave
    simp only [hs, if_true] at hsave
    split at hsave
    · cases hsave
    rename_i inserted hins
    have hin := insertBindingRow_eq_ok hins
    split at hsave
    · -- the carried ledger is written under the new generation
      cases hst : storeRequests inserted (bindingFingerprint binding)
          (db.requests row.generation).rows with
      | error e => rw [hst] at hsave; cases hsave
      | ok db2 =>
        rw [hst] at hsave
        cases hsave
        obtain ⟨t, ht, rfl⟩ := storeRequests_eq_ok hst
        refine ⟨t, currentLedger_eq_some.mpr ⟨_, currentBindingRow_saved db hv' rfl _ ?_,
          ?_⟩, fun _ => ht⟩
        · rw [hin]
        · exact Function.update_self ..
    · rename_i hlen
      cases hsave
      have hnil : (db.requests row.generation).rows = [] := by
        rw [← length_eq_zero_iff]
        omega
      refine ⟨_, currentLedger_eq_some.mpr ⟨_, currentBindingRow_saved db hv' rfl _ ?_,
        rfl⟩, fun h => absurd hnil h⟩
      rw [hin]

end BorgClient.Representative
