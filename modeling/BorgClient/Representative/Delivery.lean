import BorgClient.Representative.Store

/-!
# Delivery state

`representative-delivery-store.ts`: where a generation's history starts, the delivered
checkpoint, the read fence and the returned set.
-/

namespace BorgClient.Representative
open Platform List Tables

/-! ### Log positions -/

/-- Two windows of at most 50 replies, with and without broadcasts. -/
def RETURNED_CAP : ℕ := 100

def NIL_UUID : Uuid := "00000000-0000-0000-0000-000000000000"

/-- `(created_at, id)` order, the server log order. -/
def comparePoints (a : LocalServerCursor) (b : Option LocalServerCursor) : Int :=
  match b with
  | none => 1
  | some b =>
    if a.created_at ≠ b.created_at then if a.created_at < b.created_at then -1 else 1
    else if a.id = b.id then 0 else if a.id < b.id then -1 else 1

/-- The log order as a linear order. -/
instance : LinearOrder LocalServerCursor :=
  LinearOrder.lift' (fun c => toLex (c.created_at, c.id)) (by
    intro a b h
    simp only [EmbeddingLike.apply_eq_iff_eq, Prod.mk.injEq] at h
    cases a
    cases b
    simp_all)

lemma cursor_lt_iff {a b : LocalServerCursor} :
    a < b ↔ a.created_at < b.created_at ∨ a.created_at = b.created_at ∧ a.id < b.id :=
  Prod.Lex.toLex_lt_toLex

lemma cursor_ext {a b : LocalServerCursor} (hc : a.created_at = b.created_at) (hi : a.id = b.id) :
    a = b := by
  cases a
  cases b
  simp_all

/-- The sign of `comparePoints` is the log order. -/
lemma comparePoints_spec (a b : LocalServerCursor) :
    (comparePoints a (some b) < 0 ↔ a < b) ∧ (comparePoints a (some b) = 0 ↔ a = b) ∧
      (0 < comparePoints a (some b) ↔ b < a) := by
  rw [cursor_lt_iff, cursor_lt_iff]
  unfold comparePoints
  dsimp only
  by_cases hc : a.created_at = b.created_at
  · rw [if_neg (not_not.mpr hc)]
    by_cases hi : a.id = b.id
    · rw [if_pos hi, cursor_ext hc hi]
      simp
    · have hne : a ≠ b := fun h => hi (by rw [h])
      rw [if_neg hi]
      rcases lt_or_gt_of_ne hi with h | h
      · have h' := lt_asymm h
        simp [hc, h, h', hne]
      · have h' := lt_asymm h
        simp [hc, h, h', hne]
  · have hne : a ≠ b := fun h => hc (by rw [h])
    rw [if_pos hc]
    rcases lt_or_gt_of_ne hc with h | h
    · have h' := lt_asymm h
      simp [h, h', hne, hc, Ne.symm hc]
    · have h' := lt_asymm h
      simp [h, h', hne, hc, Ne.symm hc]

lemma comparePoints_pos {a b : LocalServerCursor} : 0 < comparePoints a (some b) ↔ b < a :=
  (comparePoints_spec a b).2.2

lemma comparePoints_nonpos {a b : LocalServerCursor} : comparePoints a (some b) ≤ 0 ↔ a ≤ b := by
  rw [← not_lt, comparePoints_pos, not_lt]

def later (a b : Option LocalServerCursor) : Option LocalServerCursor :=
  match a, b with
  | none, b => b
  | a, none => a
  | some a, some b => if comparePoints a (some b) ≥ 0 then some a else some b

lemma later_some (a b : LocalServerCursor) : later (some a) (some b) = some (max a b) := by
  unfold later
  by_cases h : comparePoints a (some b) ≥ 0
  · have hle : b ≤ a := by
      rw [← not_lt, ← (comparePoints_spec a b).1]
      omega
    simp [h, max_eq_left hle]
  · have hlt : a < b := (comparePoints_spec a b).1.mp (by omega)
    simp [h, max_eq_right hlt.le]

@[simp] lemma later_none_left (b : Option LocalServerCursor) : later none b = b := by
  cases b <;> rfl

@[simp] lemma later_none_right (a : Option LocalServerCursor) : later a none = a := by
  cases a <;> rfl

/-- The position `a`, if any, is reached in `b`. -/
def NotBehind (a b : Option LocalServerCursor) : Prop := ∀ c, a = some c → ∃ c', b = some c' ∧ c ≤ c'

lemma NotBehind.refl (a : Option LocalServerCursor) : NotBehind a a := fun c hc => ⟨c, hc, le_rfl⟩

lemma NotBehind.later (a : Option LocalServerCursor) (p : LocalServerCursor) :
    NotBehind a (later a (some p)) := by
  rintro c rfl
  exact ⟨max c p, later_some c p, le_max_left c p⟩

/-- Stable sort in log order. -/
def sortPoints (points : List LocalServerCursor) : List LocalServerCursor :=
  points.insertionSort (fun a b => comparePoints a (some b) ≤ 0)

@[simp] lemma mem_sortPoints {points : List LocalServerCursor} {p : LocalServerCursor} :
    p ∈ sortPoints points ↔ p ∈ points :=
  mem_insertionSort _

@[simp] lemma length_sortPoints (points : List LocalServerCursor) :
    (sortPoints points).length = points.length :=
  length_insertionSort _ points

/-! ### Delivery state of one generation -/

structure DeliveryState where
  start : LocalServerCursor
  startKind : StartKind
  checkpoint : Option LocalServerCursor
  readThrough : Option LocalServerCursor
  returned : List LocalServerCursor
deriving DecidableEq, Repr

def loadDelivery (db : Db) (generation : String) : Option DeliveryState :=
  (db.delivery.find generation).map (fun row =>
    { start := row.start, startKind := row.startKind, checkpoint := row.checkpoint,
      readThrough := row.readThrough, returned := sortPoints (db.returned generation).rows })

def stateError (message : String) : RepresentativeError := ⟨.STATE_ERROR, message, none⟩

/-- The floor every scanned entry must exceed. -/
def DeliveryState.floor (state : DeliveryState) : LocalServerCursor :=
  (later (some state.start) state.checkpoint).getD state.start

/-- Where a scan starts: the server cursor (`none` is the log start) and the floor. A binding
start is a synthetic lower bound, never sent to the server. -/
def scanStart (state : DeliveryState) :
    Except RepresentativeError (Option LocalServerCursor × LocalServerCursor) :=
  if state.startKind = .headPending then
    .error (stateError "The delivery start is not resolved yet")
  else
    match state.checkpoint with
    | some checkpoint => .ok (some checkpoint, state.floor)
    | none => .ok (if state.startKind = .binding then none else some state.start, state.floor)

def fenceError : RepresentativeError :=
  stateError "A representative state write would move the checkpoint beyond the read fence"

/-- The checkpoint lies within the read fence. -/
def DeliveryState.fenced (state : DeliveryState) : Bool :=
  match state.checkpoint with
  | none => true
  | some checkpoint => state.readThrough.isSome && comparePoints checkpoint state.readThrough ≤ 0

/-- `created_at < ? OR (created_at = ? AND entry_id <= ?)` at the checkpoint, empty text for
none. -/
def deliveredRow (checkpoint : Option LocalServerCursor) (row : WakeRow) : Bool :=
  let at_ := (checkpoint.map (·.created_at)).getD ""
  let id := (checkpoint.map (·.id)).getD ""
  row.created_at < at_ || (row.created_at == at_ && row.entry_id ≤ id)

def write (db : Db) (generation : String) (next : DeliveryState) :
    Except RepresentativeError Db :=
  if !next.fenced then .error fenceError
  else
    match Table.ofRows next.returned with
    | none => .error (stateError "UNIQUE constraint failed: returned.generation, returned.entry_id")
    | some returned =>
      .ok { db with
        delivery := db.delivery.update (fun row =>
          if row.generation = generation then
            { row with checkpoint := next.checkpoint, readThrough := next.readThrough }
          else row) (by intro row; split <;> rfl)
        returned := Function.update db.returned generation returned
        wake_replies := Function.update db.wake_replies generation
          ((db.wake_replies generation).delete (deliveredRow next.checkpoint)) }

/-- The first entry under each id. -/
def firstById : List LocalServerCursor → List LocalServerCursor
  | [] => []
  | entry :: rest => entry :: (firstById rest).filter (·.id != entry.id)

/-- What `widenReadWindow` keeps of the returned set, before the cap. -/
def widened (d : DeliveryState) (window : List LocalServerCursor) : List LocalServerCursor :=
  sortPoints ((firstById (d.returned ++ window)).filter
    (fun entry => 0 < comparePoints entry d.checkpoint))

/-- Widen the read fence and the returned set: entries after the checkpoint, the last
`RETURNED_CAP` of them. -/
def widenReadWindow (db : Db) (generation : String) (window : List LocalServerCursor) :
    Except RepresentativeError Db :=
  match loadDelivery db generation, window.getLast? with
  | some before, some last =>
    let returned := widened before window
    write db generation { before with
      readThrough := later before.readThrough (some last)
      returned := returned.drop (returned.length - RETURNED_CAP) }
  | _, _ => .ok db

/-- The state `advanceCheckpoint` writes. -/
def advanced (d : DeliveryState) (p : LocalServerCursor) : DeliveryState :=
  { d with
    checkpoint := later d.checkpoint (some p)
    returned := d.returned.filter
      (fun entry => 0 < comparePoints entry (later d.checkpoint (some p))) }

/-- Move the delivered checkpoint forward, never back; the returned set keeps what is after it. -/
def advanceCheckpoint (db : Db) (generation : String) (to_ : LocalServerCursor) :
    Except RepresentativeError ((DeliveryState × DeliveryState) × Db) :=
  match loadDelivery db generation with
  | none => .error (stateError "No representative delivery state for this generation")
  | some before =>
    let after := advanced before to_
    (write db generation after).map (fun db' => ((before, after), db'))

lemma floor_of_none {d : DeliveryState} (h : d.checkpoint = none) : d.floor = d.start := by
  simp [DeliveryState.floor, h]

lemma floor_of_some {d : DeliveryState} {c : LocalServerCursor} (h : d.checkpoint = some c) :
    d.floor = max d.start c := by
  simp [DeliveryState.floor, h, later_some]

lemma start_le_floor (d : DeliveryState) : d.start ≤ d.floor := by
  cases h : d.checkpoint with
  | none => exact (floor_of_none h).ge
  | some c =>
    rw [floor_of_some h]
    exact le_max_left _ _

lemma checkpoint_le_floor {d : DeliveryState} {c : LocalServerCursor}
    (h : d.checkpoint = some c) : c ≤ d.floor := by
  rw [floor_of_some h]
  exact le_max_right _ _

/-- After the start, being after the checkpoint and after the floor are the same. -/
lemma after_checkpoint_iff {d : DeliveryState} {p : LocalServerCursor} (hp : d.start < p) :
    0 < comparePoints p d.checkpoint ↔ d.floor < p := by
  cases h : d.checkpoint with
  | none =>
    rw [floor_of_none h]
    simp [comparePoints, hp]
  | some c =>
    rw [floor_of_some h, comparePoints_pos, max_lt_iff]
    exact ⟨fun hc => ⟨hp, hc⟩, fun hc => hc.2⟩

lemma scanStart_ok {state : DeliveryState} {cursor : Option LocalServerCursor}
    {floor : LocalServerCursor} (h : scanStart state = .ok (cursor, floor)) :
    state.startKind ≠ .headPending ∧ floor = state.floor ∧ ∀ c, cursor = some c → c ≤ floor := by
  unfold scanStart at h
  split at h
  · cases h
  · rename_i hkind
    refine ⟨hkind, ?_⟩
    split at h
    · rename_i checkpoint hc
      cases h
      exact ⟨rfl, fun c hc' => Option.some.inj hc' ▸ checkpoint_le_floor hc⟩
    · cases h
      refine ⟨rfl, fun c hc => ?_⟩
      split at hc
      · cases hc
      · exact Option.some.inj hc ▸ start_le_floor state

/-! ### What the writes do -/

/-- `db'` is `db` with the generation's delivery state written as `next`. -/
structure DeliveryWritten (db db' : Db) (generation : String) (next : DeliveryState) : Prop where
  loaded : loadDelivery db' generation =
    some { next with returned := sortPoints next.returned }
  bindings : db'.bindings = db.bindings
  requests : db'.requests = db.requests
  wake_state : db'.wake_state = db.wake_state
  wake_replies : db'.wake_replies generation =
    (db.wake_replies generation).delete (deliveredRow next.checkpoint)

/-- Within the fence, and with distinct ids, a write succeeds. -/
lemma write_ok {db : Db} {generation : String} {d : DeliveryState} (next : DeliveryState)
    (hload : loadDelivery db generation = some d) (hstart : next.start = d.start)
    (hkind : next.startKind = d.startKind) (hf : next.fenced = true)
    (hn : (next.returned.map (·.id)).Nodup) :
    ∃ db', write db generation next = .ok db' ∧ DeliveryWritten db db' generation next := by
  unfold loadDelivery at hload
  obtain ⟨row, hrow, rfl⟩ := Option.map_eq_some_iff.mp hload
  have hgen : row.generation = generation := (Table.find_eq_some.mp hrow).2
  unfold write Table.ofRows
  simp only [hf, Bool.not_true, Bool.false_eq_true, if_false, dif_pos hn]
  refine ⟨_, rfl, ?_, rfl, rfl, rfl, Function.update_self ..⟩
  unfold loadDelivery
  simp only [Table.find_update, hrow, Option.map_some, hgen, if_true, Function.update_self]
  simp only [hstart, hkind]

lemma mem_of_mem_firstById {p : LocalServerCursor} :
    ∀ {points : List LocalServerCursor}, p ∈ firstById points → p ∈ points
  | [], h => h
  | entry :: rest, h => by
    rcases mem_cons.mp h with rfl | h
    · exact mem_cons_self
    · exact mem_cons_of_mem _ (mem_of_mem_firstById (mem_filter.mp h).1)

/-- Every id keeps an entry. -/
lemma exists_mem_firstById {p : LocalServerCursor} :
    ∀ {points : List LocalServerCursor}, p ∈ points → ∃ q ∈ firstById points, q.id = p.id
  | entry :: rest, h => by
    by_cases hid : p.id = entry.id
    · exact ⟨entry, mem_cons_self, hid.symm⟩
    · have hrest : p ∈ rest := by
        rcases mem_cons.mp h with rfl | h
        · exact absurd rfl hid
        · exact h
      obtain ⟨q, hq, hqid⟩ := exists_mem_firstById hrest
      refine ⟨q, mem_cons_of_mem _ (mem_filter.mpr ⟨hq, ?_⟩), hqid⟩
      simpa [hqid] using hid

lemma firstById_nodup : ∀ points : List LocalServerCursor,
    ((firstById points).map (·.id)).Nodup
  | [] => nodup_nil
  | entry :: rest => by
    rw [firstById, map_cons, nodup_cons]
    refine ⟨?_, (firstById_nodup rest).sublist (filter_sublist.map _)⟩
    intro h
    obtain ⟨q, hq, hid⟩ := mem_map.mp h
    simpa [hid] using (mem_filter.mp hq).2

lemma fenced_iff {d : DeliveryState} :
    d.fenced = true ↔ ∀ c, d.checkpoint = some c → ∃ r, d.readThrough = some r ∧ c ≤ r := by
  unfold DeliveryState.fenced
  cases hc : d.checkpoint with
  | none => simp
  | some c =>
    cases hr : d.readThrough with
    | none => simp
    | some r => simp [comparePoints_nonpos]

lemma later_checkpoint_le {a : Option LocalServerCursor} {c p : LocalServerCursor} :
    later a (some p) = some c → (a = none ∧ c = p) ∨ ∃ b, a = some b ∧ c = max b p := by
  cases a with
  | none => simp [eq_comm]
  | some b =>
    rw [later_some]
    intro h
    exact Or.inr ⟨b, rfl, (Option.some.inj h).symm⟩

lemma mem_of_mem_widened {d : DeliveryState} {window : List LocalServerCursor}
    {p : LocalServerCursor} (h : p ∈ widened d window) :
    (p ∈ d.returned ∨ p ∈ window) ∧ 0 < comparePoints p d.checkpoint := by
  unfold widened at h
  rw [mem_sortPoints, mem_filter] at h
  exact ⟨mem_append.mp (mem_of_mem_firstById h.1), by simpa using h.2⟩

/-- Where an id names one position, every position after the checkpoint is kept. -/
lemma mem_widened {d : DeliveryState} {window : List LocalServerCursor} {p : LocalServerCursor}
    (hp : p ∈ d.returned ∨ p ∈ window)
    (hone : ∀ q, q ∈ d.returned ∨ q ∈ window → q.id = p.id → q = p)
    (hafter : 0 < comparePoints p d.checkpoint) : p ∈ widened d window := by
  unfold widened
  rw [mem_sortPoints, mem_filter]
  obtain ⟨q, hq, hid⟩ := exists_mem_firstById (mem_append.mpr hp)
  obtain rfl : q = p := hone q (mem_append.mp (mem_of_mem_firstById hq)) hid
  exact ⟨hq, by simpa using hafter⟩

lemma widened_nodup (d : DeliveryState) (window : List LocalServerCursor) :
    ((widened d window).map (·.id)).Nodup := by
  have hperm : (widened d window).Perm _ := perm_insertionSort _ _
  exact (hperm.map _).nodup_iff.mpr ((firstById_nodup _).sublist (filter_sublist.map _))

/-- The widening of a fenced state succeeds. -/
lemma widenReadWindow_ok {db : Db} {generation : String} {d : DeliveryState}
    {window : List LocalServerCursor} {last : LocalServerCursor}
    (hload : loadDelivery db generation = some d) (hf : d.fenced = true)
    (hlast : window.getLast? = some last) :
    ∃ db', widenReadWindow db generation window = .ok db' ∧
      DeliveryWritten db db' generation { d with
        readThrough := later d.readThrough (some last)
        returned := (widened d window).drop ((widened d window).length - RETURNED_CAP) } := by
  unfold widenReadWindow
  simp only [hload, hlast]
  refine write_ok _ hload rfl rfl ?_ ?_
  · rw [fenced_iff] at hf ⊢
    intro c hc
    obtain ⟨r, hr, hcr⟩ := hf c hc
    exact ⟨max r last, by simp only [hr, later_some], hcr.trans (le_max_left r last)⟩
  · exact (widened_nodup d window).sublist ((drop_sublist _ _).map _)

/-- Advancing to a point within the read fence succeeds. -/
lemma advanceCheckpoint_ok {db : Db} {generation : String} {d : DeliveryState}
    {p r : LocalServerCursor} (hload : loadDelivery db generation = some d) (hf : d.fenced = true)
    (hn : (d.returned.map (·.id)).Nodup) (hr : d.readThrough = some r) (hp : p ≤ r) :
    ∃ db', advanceCheckpoint db generation p = .ok ((d, advanced d p), db') ∧
      DeliveryWritten db db' generation (advanced d p) := by
  have hfence : (advanced d p).fenced = true := by
    rw [fenced_iff] at hf ⊢
    intro c hc
    refine ⟨r, hr, ?_⟩
    rcases later_checkpoint_le hc with ⟨_, rfl⟩ | ⟨b, hb, rfl⟩
    · exact hp
    · obtain ⟨r', hr', hbr⟩ := hf b hb
      rw [hr] at hr'
      exact max_le (Option.some.inj hr' ▸ hbr) hp
  obtain ⟨db', hw, hwritten⟩ :=
    write_ok (advanced d p) hload rfl rfl hfence (hn.sublist (filter_sublist.map _))
  refine ⟨db', ?_, hwritten⟩
  unfold advanceCheckpoint
  simp only [hload, hw, Except.map]

/-! ### Creating it -/

inductive ServerHead
  | empty
  | position (point : LocalServerCursor)
  | unbounded
deriving DecidableEq, Repr

variable [Platform]

def startKindOf (db : Db) (generation : String) : Option StartKind :=
  (db.delivery.find generation).map (·.startKind)

def bindingStart (binding : RepresentativeBinding) : LocalServerCursor :=
  ⟨NIL_UUID, binding.boundAt⟩

/-- What a 5.x checkpoint file held. -/
inductive LegacyCheckpoint
  | absent
  | valid (checkpoint : Option LocalServerCursor)
  | invalid
deriving DecidableEq, Repr

inductive LegacyHistory | empty | present | unknown
deriving DecidableEq, Repr

/-- The row `legacySeed` inserts for an imported 5.x binding. -/
def seedRow (binding : RepresentativeBinding) (delivery : LegacyCheckpoint)
    (history : LegacyHistory) : DeliveryRow :=
  let checkpoint := match delivery with
    | .valid checkpoint => checkpoint
    | _ => none
  let kind := match delivery, checkpoint with
    | _, some _ => StartKind.checkpoint
    | .valid _, none => .binding
    | _, none => if history = .empty then .headPending else .binding
  { generation := bindingFingerprint binding
    seat := seatKey binding
    start := checkpoint.getD (bindingStart binding)
    startKind := kind
    checkpoint := checkpoint
    readThrough := checkpoint }

/-- First transaction of `ensureDeliveryState`: a generation without a row starts at its
binding start. Answers whether the start is still to be resolved. -/
def ensureRow (binding : RepresentativeBinding) : Transaction Bool := fun db =>
  match requireCurrentGeneration db binding with
  | .error e => .error e
  | .ok generation =>
    match startKindOf db generation with
    | none =>
      let row : DeliveryRow :=
        ⟨generation, seatKey binding, bindingStart binding, .binding, none, none⟩
      .ok (false, { db with delivery := db.delivery.insertOrIgnore row })
    | some kind => .ok (kind == .headPending, db)

/-- The kind and position of a resolved start: the server head, or the binding start when the
seat has delivery state of another generation or no head was found. -/
def resolvedStart (binding : RepresentativeBinding) (head : ServerHead) (seatHistory : Bool) :
    StartKind × LocalServerCursor :=
  match head, seatHistory with
  | .position point, false => (.head, point)
  | _, _ => (.binding, bindingStart binding)

/-- Second transaction: a start still pending is resolved. -/
def resolveHead (binding : RepresentativeBinding) (head : ServerHead) : Transaction Unit := fun db =>
  match requireCurrentGeneration db binding with
  | .error e => .error e
  | .ok generation =>
    if startKindOf db generation ≠ some .headPending then .ok ((), db)
    else
      let seatHistory := db.delivery.rows.any (fun row =>
        row.seat == seatKey binding && row.generation != generation)
      let resolved := resolvedStart binding head seatHistory
      let delivery := db.delivery.update (fun row =>
        if row.generation = generation then
          { row with startKind := resolved.1, start := resolved.2 }
        else row) (by intro row; split <;> rfl)
      .ok ((), { db with delivery := delivery })

/-- `ensureRow` changes nothing, or adds the missing row of the current generation. -/
lemma ensureRow_cases (db : Db) (binding : RepresentativeBinding) :
    (transact db (ensureRow binding)).2 = db ∨
    (db.delivery.find (bindingFingerprint binding) = none ∧
      ∃ delivery, (transact db (ensureRow binding)).2 = { db with delivery := delivery } ∧
        delivery.find (bindingFingerprint binding) = some ⟨bindingFingerprint binding,
          seatKey binding, bindingStart binding, .binding, none, none⟩) := by
  unfold transact ensureRow
  cases hg : requireCurrentGeneration db binding with
  | error e => exact Or.inl rfl
  | ok generation =>
    obtain rfl := (requireCurrentGeneration_eq_ok.mp hg).1
    dsimp only
    cases hk : startKindOf db (bindingFingerprint binding) with
    | some kind => exact Or.inl rfl
    | none =>
      have hfind : db.delivery.find (bindingFingerprint binding) = none := by
        simpa [startKindOf] using hk
      refine Or.inr ⟨hfind, _, rfl, ?_⟩
      rw [Table.find_insertOrIgnore, if_pos ⟨hfind, rfl⟩]

/-- `resolveHead` changes nothing, or gives a pending start its kind and position. -/
lemma resolveHead_cases (db : Db) (binding : RepresentativeBinding) (head : ServerHead) :
    (transact db (resolveHead binding head)).2 = db ∨
    ∃ row delivery kind start, db.delivery.find (bindingFingerprint binding) = some row ∧
      row.startKind = .headPending ∧
      (transact db (resolveHead binding head)).2 = { db with delivery := delivery } ∧
      delivery.find (bindingFingerprint binding) =
        some { row with startKind := kind, start := start } := by
  unfold transact resolveHead
  cases hg : requireCurrentGeneration db binding with
  | error e => exact Or.inl rfl
  | ok generation =>
    obtain rfl := (requireCurrentGeneration_eq_ok.mp hg).1
    dsimp only
    by_cases hk : startKindOf db (bindingFingerprint binding) ≠ some .headPending
    · rw [if_pos hk]
      exact Or.inl rfl
    · rw [if_neg hk]
      obtain ⟨row, hrow, hkind⟩ := Option.map_eq_some_iff.mp (not_not.mp hk)
      have hgen : row.generation = bindingFingerprint binding := (Table.find_eq_some.mp hrow).2
      set resolved := resolvedStart binding head (db.delivery.rows.any (fun row =>
        row.seat == seatKey binding && row.generation != bindingFingerprint binding))
      refine Or.inr ⟨row, _, resolved.1, resolved.2, hrow, hkind, rfl, ?_⟩
      rw [Table.find_update, hrow, Option.map_some, if_pos hgen]

end BorgClient.Representative
