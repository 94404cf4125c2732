import BorgClient.Seats.SeatTransactions

/-!
# Runs of seat transactions

Whole transactions of any number of processes, one after the other, over one `seats.json`. What the
written stores keep: the parser accepts them and reads every record back, and binds are ordered.
-/

namespace BorgClient.Seats
open List Tables Runs
open Cursor (matchesUuid)

section Invariants

variable [SeatPlatform]

/-! ### Acceptable entries -/

/-- Inputs of the shape the parser asks of the records made from them. -/
def SeatCall.WellShaped : SeatCall → Prop
  | .mint seed => isValidSeatRecord (seatRef seed.toSeatIdentity) seed.record = true
  | .prepare input => isValidSeatRecord (seatRef input.seed.toSeatIdentity) input.seed.record = true
  | .activate input => input.commonDir ≠ some "" ∧ input.repositoryOrigin ≠ some ""
  | _ => True

omit [SeatPlatform] in
lemma le_highestOrder {store : SeatsFile} {e : String × SeatRecord} {n : ℕ} (he : e ∈ store)
    (hn : e.2.bindingOrder = some n) : n ≤ highestOrder store := by
  have hfold : ∀ (rows : List (String × SeatRecord)) (start : ℕ),
      start ≤ rows.foldl (fun highest e => max highest (e.2.bindingOrder.getD 0)) start ∧
      ∀ o ∈ rows, o.2.bindingOrder.getD 0 ≤
        rows.foldl (fun highest e => max highest (e.2.bindingOrder.getD 0)) start := by
    intro rows
    induction rows with
    | nil => simp
    | cons r rows ih =>
      intro start
      obtain ⟨hstart, hrows⟩ := ih (max start (r.2.bindingOrder.getD 0))
      rw [foldl_cons]
      refine ⟨le_trans (le_max_left _ _) hstart, ?_⟩
      intro o ho
      rcases mem_cons.mp ho with rfl | ho
      · exact le_trans (le_max_right _ _) hstart
      · exact hrows o ho
  have h := (hfold store.rows 0).2 e he
  rw [hn] at h
  exact h

omit [SeatPlatform] in
/-- An activation's order is the record's own, or a new greatest one. -/
lemma nextOrder_cases (store : SeatsFile) (record : SeatRecord) (worktree : String) :
    record.state = .active ∧ record.worktree = some worktree ∧
        record.bindingOrder = some (nextOrder store record worktree) ∨
      (record.state = .active ∧ record.worktree = some worktree → record.bindingOrder = none) ∧
        nextOrder store record worktree = highestOrder store + 1 := by
  unfold nextOrder
  split
  · rename_i order horder
    split
    · rename_i h
      simp only [Bool.and_eq_true, decide_eq_true_eq] at h
      exact Or.inl ⟨h.1, h.2, horder⟩
    · rename_i h
      simp only [Bool.and_eq_true, decide_eq_true_eq] at h
      exact Or.inr ⟨fun hb => absurd hb h, rfl⟩
  · rename_i horder
    exact Or.inr ⟨fun _ => horder, rfl⟩

/-- What the parser asks of an acceptable entry, field by field. -/
structure ValidEntry (ref : String) (r : SeatRecord) : Prop where
  reference : matchesRef ref = true
  identity : r.origin ≠ "" ∧ r.trustIdentity ≠ "" ∧ r.cubeId ≠ "" ∧ r.roleId ≠ "" ∧
    isValidOperation r.operation = true
  credential : matchesBearer r.credential = true
  order : ∀ n, r.bindingOrder = some n → 1 ≤ n ∧ n ≤ MAX_SAFE_INTEGER
  commonDir : r.commonDir ≠ some ""
  repositoryOrigin : r.repositoryOrigin ≠ some ""
  droneId : ∀ id, r.droneId = some id → matchesUuid id = true
  sessionId : ∀ id, r.sessionId = some id → matchesUuid id = true
  active : r.state = .active → r.droneId.isSome ∧ r.sessionId.isSome ∧ r.worktree.isSome ∧
    r.name.isSome ∧ r.droneLabel.isSome
  pending : r.state = .pending → r.sessionId = none ∧ r.bindingOrder = none
  ref_eq : seatRef r.toSeatIdentity = ref

lemma isValidSeatRecord_iff {ref : String} {r : SeatRecord} :
    isValidSeatRecord ref r = true ↔ ValidEntry ref r := by
  have hstate : stateConsistent r = true ↔
      (r.state = .active → r.droneId.isSome ∧ r.sessionId.isSome ∧ r.worktree.isSome ∧
        r.name.isSome ∧ r.droneLabel.isSome) ∧
      (r.state = .pending → r.sessionId = none ∧ r.bindingOrder = none) := by
    unfold stateConsistent
    cases r.state <;> simp [and_assoc]
  unfold isValidSeatRecord
  simp only [Bool.and_eq_true, hstate, decide_eq_true_eq, beq_iff_eq, Option.all_eq_true, ne_eq,
    and_assoc]
  constructor
  · rintro ⟨h1, h2, h3, h4, h5, h6, h7, h8, h9, h10, h11, h12, h13, h14, h15⟩
    exact ⟨h1, ⟨h2, h3, h4, h5, h6⟩, h7, h8, fun h => h9 _ h rfl, fun h => h10 _ h rfl, h11, h12,
      h13, h14, h15⟩
  · rintro ⟨h1, ⟨h2, h3, h4, h5, h6⟩, h7, h8, h9, h10, h11, h12, h13, h14, h15⟩
    refine ⟨h1, h2, h3, h4, h5, h6, h7, h8, ?_, ?_, h11, h12, h13, h14, h15⟩
    · rintro _ hdir rfl
      exact h9 hdir
    · rintro _ horigin rfl
      exact h10 horigin

/-! ### Every commit is acceptable -/

lemma ValidEntry.over_activate {ref : String} {r : SeatRecord} {input : ActivateSeat} {n : ℕ}
    (h : ValidEntry ref r) (hdrone : matchesUuid input.droneId = true)
    (hsession : matchesUuid input.sessionId = true) (hn : 1 ≤ n) (hmax : n ≤ MAX_SAFE_INTEGER)
    (hcommon : input.commonDir ≠ some "") (horigin : input.repositoryOrigin ≠ some "") :
    ValidEntry ref (input.over n r) where
  reference := h.reference
  identity := h.identity
  credential := h.credential
  order := by
    rintro m ⟨⟩
    exact ⟨hn, hmax⟩
  commonDir := by
    dsimp only [ActivateSeat.over]
    cases hc : input.commonDir with
    | none => exact h.commonDir
    | some dir =>
      rw [hc] at hcommon
      exact hcommon
  repositoryOrigin := by
    dsimp only [ActivateSeat.over]
    cases hc : input.repositoryOrigin with
    | none => exact h.repositoryOrigin
    | some dir =>
      rw [hc] at horigin
      exact horigin
  droneId := by
    rintro id ⟨⟩
    exact hdrone
  sessionId := by
    rintro id ⟨⟩
    exact hsession
  active := fun _ => ⟨rfl, rfl, rfl, rfl, rfl⟩
  pending := nofun
  ref_eq := h.ref_eq

lemma ValidEntry.over_bind {ref : String} {r : SeatRecord} {input : BindPendingSeat}
    (h : ValidEntry ref r) (hpending : r.state = .pending)
    (hdrone : input.droneId.all matchesUuid = true) : ValidEntry ref (input.over r) where
  reference := h.reference
  identity := h.identity
  credential := h.credential
  order := h.order
  commonDir := h.commonDir
  repositoryOrigin := h.repositoryOrigin
  droneId := by
    intro id hid
    dsimp only [BindPendingSeat.over] at hid
    cases hd : input.droneId with
    | none =>
      rw [hd] at hid
      exact h.droneId id hid
    | some droneId =>
      rw [hd] at hid hdrone
      obtain rfl : droneId = id := Option.some.inj hid
      exact hdrone
  sessionId := h.sessionId
  active := fun hactive => by
    have hstate : r.state = .active := hactive
    rw [hpending] at hstate
    cases hstate
  pending := h.pending
  ref_eq := h.ref_eq

lemma ValidEntry.over_refresh {ref : String} {r : SeatRecord} {display : SeatDisplay}
    (h : ValidEntry ref r) : ValidEntry ref (display.over r) where
  reference := h.reference
  identity := h.identity
  credential := h.credential
  order := h.order
  commonDir := h.commonDir
  repositoryOrigin := h.repositoryOrigin
  droneId := h.droneId
  sessionId := h.sessionId
  active := fun hactive => by
    obtain ⟨hd, hs, hw, -, -⟩ := h.active hactive
    exact ⟨hd, hs, hw, rfl, rfl⟩
  pending := h.pending
  ref_eq := h.ref_eq

/-- A transaction on acceptable entries commits acceptable ones. -/
lemma SeatChange.valid {store written : SeatsFile} {call : SeatCall}
    (hchange : SeatChange store written call) (hshape : call.WellShaped) (hvalid : store.Valid) :
    written.Valid := by
  intro e he
  cases hchange with
  | minted _ seed hcall hmem =>
    rcases (hmem e).mp he with rfl | ⟨hold, -⟩
    · rcases hcall with rfl | ⟨input, rfl, rfl⟩
      · exact hshape
      · exact hshape
    · exact hvalid e hold
  | activated input record hrecord hdrone hsession _ horder hmem =>
    rcases (hmem e).mp he with rfl | ⟨hold, -, -⟩
    · have hentry := isValidSeatRecord_iff.mp (hvalid _ hrecord)
      have hpos : 1 ≤ nextOrder store record input.worktree := by
        rcases nextOrder_cases store record input.worktree with ⟨-, -, hown⟩ | ⟨-, hnew⟩
        · exact (hentry.order _ hown).1
        · omega
      exact isValidSeatRecord_iff.mpr
        (hentry.over_activate hdrone hsession hpos horder hshape.1 hshape.2)
    · exact hvalid e hold
  | boundPending input record hrecord hpending _ hdrone hmem =>
    rcases (hmem e).mp he with rfl | ⟨hold, -⟩
    · exact isValidSeatRecord_iff.mpr
        ((isValidSeatRecord_iff.mp (hvalid _ hrecord)).over_bind hpending hdrone)
    · exact hvalid e hold
  | removed _ ref _ hmem => exact hvalid e ((hmem e).mp he).1
  | refreshed input record hrecord _ hmem =>
    rcases (hmem e).mp he with rfl | ⟨hold, -⟩
    · exact isValidSeatRecord_iff.mpr (isValidSeatRecord_iff.mp (hvalid _ hrecord)).over_refresh
    · exact hvalid e hold

/-- A transaction leaves a plain store plain. -/
lemma SeatChange.plain {store written : SeatsFile} {call : SeatCall}
    (hchange : SeatChange store written call) (hplain : Plain store) : Plain written := by
  intro e he o ho hne w hwe hwo
  cases hchange with
  | minted _ seed _ hmem =>
    have hstate : ∀ c, c ∈ written → bound w c = true → c ∈ store := by
      intro c hc hwc
      rcases (hmem c).mp hc with rfl | ⟨hold, -⟩
      · cases (bound_iff.mp hwc).1
      · exact hold
    exact hplain e (hstate e he hwe) o (hstate o ho hwo) hne w hwe hwo
  | activated input record _ _ _ _ _ hmem =>
    -- the activated entry is the only one of its worktree
    have halone : ∀ c, c ∈ written → bound w c = true → w = input.worktree →
        c = (seatRef input.toSeatIdentity, input.over (nextOrder store record input.worktree) record) := by
      rintro c hc hwc rfl
      rcases (hmem c).mp hc with h | ⟨-, -, hfalse⟩
      · exact h
      · rw [hwc] at hfalse
        cases hfalse
    by_cases hw : w = input.worktree
    · exact absurd ((halone e he hwe hw).trans (halone o ho hwo hw).symm) hne
    · have hold : ∀ c, c ∈ written → bound w c = true → c ∈ store := by
        intro c hc hwc
        rcases (hmem c).mp hc with rfl | ⟨hold, -, -⟩
        · have hworktree := (bound_iff.mp hwc).2
          exact absurd (Option.some.inj hworktree).symm hw
        · exact hold
      exact hplain e (hold e he hwe) o (hold o ho hwo) hne w hwe hwo
  | boundPending input record _ hpending _ _ hmem =>
    have hold : ∀ c, c ∈ written → bound w c = true → c ∈ store := by
      intro c hc hwc
      rcases (hmem c).mp hc with rfl | ⟨hold, -⟩
      · have hactive : record.state = .active := (bound_iff.mp hwc).1
        rw [hpending] at hactive
        cases hactive
      · exact hold
    exact hplain e (hold e he hwe) o (hold o ho hwo) hne w hwe hwo
  | removed _ ref _ hmem =>
    exact hplain e ((hmem e).mp he).1 o ((hmem o).mp ho).1 hne w hwe hwo
  | refreshed input record hrecord _ hmem =>
    -- the refreshed entry keeps its worktree and its order
    have hold : ∀ c, c ∈ written → bound w c = true → ∃ c' ∈ store, c'.1 = c.1 ∧
        bound w c' = true ∧ c'.2.bindingOrder = c.2.bindingOrder := by
      intro c hc hwc
      rcases (hmem c).mp hc with rfl | ⟨hold, -⟩
      · exact ⟨_, hrecord, rfl, hwc, rfl⟩
      · exact ⟨c, hold, rfl, hwc, rfl⟩
    obtain ⟨e', he', hek, hwe', horder⟩ := hold e he hwe
    obtain ⟨o', ho', hok, hwo', -⟩ := hold o ho hwo
    rw [← horder]
    refine hplain e' he' o' ho' ?_ w hwe' hwo'
    rintro rfl
    exact hne (Table.eq_of_key he ho (hek.symm.trans hok))

/-! ### Runs -/

/-- The file, and what its history was. -/
structure SeatWorld where
  file : Option SeatsText
  clock : ℕ
  /-- When the ref's record was last moved to a worktree. -/
  boundAt : String → ℕ
  /-- The activation that wrote the ref's session last. -/
  writer : String → Option ActivateSeat

def SeatWorld.start (file : Option SeatsText) : SeatWorld := ⟨file, 0, fun _ => 0, fun _ => none⟩

/-- An activation in a worktree where its record is not ACTIVE already binds it there. -/
def recordBind (store : SeatsFile) (clock : ℕ) (boundAt : String → ℕ) : SeatCall → String → ℕ
  | .activate input =>
    if store.rows.any (fun e => e.1 == seatRef input.toSeatIdentity && bound input.worktree e) then
      boundAt
    else Function.update boundAt (seatRef input.toSeatIdentity) clock
  | _ => boundAt

def recordWriter (writer : String → Option ActivateSeat) : SeatCall → String → Option ActivateSeat
  | .activate input => Function.update writer (seatRef input.toSeatIdentity) (some input)
  | _ => writer

def SeatWorld.commit (w : SeatWorld) (store written : SeatsFile) (call : SeatCall) : SeatWorld where
  file := some (seatsFormat.render written)
  clock := w.clock + 1
  boundAt := recordBind store w.clock w.boundAt call
  writer := recordWriter w.writer call

/-- One whole transaction: a file that is refused, and a transaction that commits nothing, leave
everything as it is. -/
def seatStep (w : SeatWorld) (call : SeatCall) : SeatWorld :=
  match seatsFormat.load w.file with
  | none => w
  | some store =>
    match call.commit store with
    | none => w
    | some written => w.commit store written call

/-- A step changes nothing, or commits what its transaction made of the loaded store. -/
lemma seatStep_cases (w : SeatWorld) (call : SeatCall) :
    seatStep w call = w ∨
    ∃ store written, seatsFormat.load w.file = some store ∧ call.commit store = some written ∧
      seatStep w call = w.commit store written call := by
  unfold seatStep
  cases hload : seatsFormat.load w.file with
  | none => exact Or.inl rfl
  | some store =>
    dsimp only
    cases hcommit : call.commit store with
    | none => exact Or.inl rfl
    | some written => exact Or.inr ⟨store, written, rfl, hcommit, rfl⟩

lemma load_render {store : SeatsFile} (h : store.Valid) :
    seatsFormat.load (some (seatsFormat.render store)) =
      some (repairOrderedDuplicateBindings store) := by
  simp only [StoreFormat.load, seatsFormat, parseStore_renderStore h]

/-- A loaded store is the repair of acceptable entries. -/
lemma load_eq_some {file : Option SeatsText} {store : SeatsFile}
    (h : seatsFormat.load file = some store) :
    ∃ raw : SeatsFile, raw.Valid ∧ store = repairOrderedDuplicateBindings raw := by
  cases file with
  | none =>
    obtain rfl := Option.some.inj h
    refine ⟨emptyStore, fun e he => absurd he (not_mem_nil), ?_⟩
    rfl
  | some text =>
    dsimp only [StoreFormat.load, seatsFormat] at h
    split at h
    · rename_i hparse
      subst h
      exact parseStore_eq_some hparse
    · cases h

/-- What is loaded from a written store is its repair. -/
lemma load_written {written store : SeatsFile}
    (h : seatsFormat.load (some (seatsFormat.render written)) = some store) :
    store = repairOrderedDuplicateBindings written := by
  dsimp only [StoreFormat.load, seatsFormat] at h
  split at h
  · rename_i hparse
    subst h
    exact parseStore_renderStore_some hparse
  · cases h

lemma load_valid {file : Option SeatsText} {store : SeatsFile}
    (h : seatsFormat.load file = some store) : store.Valid := by
  obtain ⟨raw, hraw, rfl⟩ := load_eq_some h
  intro e he
  exact hraw e (mem_repair.mp he).1

/-- The file is accepted, and plain if the store of the start had no ties. -/
structure Sound (initial : SeatsFile) (w : SeatWorld) : Prop where
  accepted : ∃ store, seatsFormat.load w.file = some store
  plain : Untied initial → ∀ store, seatsFormat.load w.file = some store → Plain store

lemma Sound.step {initial : SeatsFile} {w : SeatWorld} (h : Sound initial w) (call : SeatCall)
    (hshape : call.WellShaped) : Sound initial (seatStep w call) := by
  rcases seatStep_cases w call with heq | ⟨store, written, hload, hcommit, heq⟩
  · rw [heq]
    exact h
  · rw [heq]
    have hchange := SeatCall.commit_change hcommit
    have hwritten := hchange.valid hshape (load_valid hload)
    have hreload := load_render hwritten
    refine ⟨⟨_, hreload⟩, ?_⟩
    intro huntied store' hload'
    have hplain := hchange.plain (h.plain huntied store hload)
    obtain rfl : repairOrderedDuplicateBindings written = store' :=
      Option.some.inj (hreload.symm.trans hload')
    rw [hplain.repair_eq]
    exact hplain

lemma Sound.start {file : Option SeatsText} {initial : SeatsFile}
    (hload : seatsFormat.load file = some initial) : Sound initial (.start file) := by
  refine ⟨⟨initial, hload⟩, ?_⟩
  intro huntied store hload'
  obtain rfl : initial = store := Option.some.inj (hload.symm.trans hload')
  obtain ⟨raw, -, rfl⟩ := load_eq_some hload
  exact plain_of_repaired huntied

/-- What holds of the stores that grow from an empty one. -/
structure Represented (w : SeatWorld) (store : SeatsFile) : Prop where
  single : ∀ e ∈ store, ∀ o ∈ store, ∀ worktree, bound worktree e = true →
    bound worktree o = true → e = o
  active : ∀ e ∈ store, e.2.state = .active → e.2.worktree.isSome ∧ e.2.droneId.isSome ∧
    e.2.sessionId.isSome ∧ e.2.bindingOrder.isSome
  pending : ∀ e ∈ store, e.2.state = .pending → e.2.sessionId = none ∧ e.2.bindingOrder = none
  distinct : ∀ e ∈ store, ∀ o ∈ store, ∀ n, e.2.bindingOrder = some n →
    o.2.bindingOrder = some n → e = o
  /-- Of two ACTIVE records the one bound later has the larger order. -/
  later : ∀ e ∈ store, ∀ o ∈ store, ∀ m n, e.2.bindingOrder = some m → o.2.bindingOrder = some n →
    (m < n ↔ w.boundAt e.1 < w.boundAt o.1)

/-- With every bind in the past, what a commit preserves. -/
structure Grown (w : SeatWorld) (store : SeatsFile) : Prop extends Represented w store where
  past : ∀ e ∈ store, e.2.bindingOrder.isSome → w.boundAt e.1 < w.clock

/-- Every ACTIVE entry of `written` is one of `store`, up to its session and display. -/
def KeepsBinds (store written : SeatsFile) : Prop :=
  ∀ e ∈ written, e.2.state = .active → ∃ o ∈ store, o.1 = e.1 ∧ o.2.state = .active ∧
    o.2.worktree = e.2.worktree ∧ o.2.bindingOrder = e.2.bindingOrder

lemma active_of_order {store : SeatsFile} (h : store.Valid) {e : String × SeatRecord} {n : ℕ}
    (he : e ∈ store) (hn : e.2.bindingOrder = some n) : e.2.state = .active := by
  have hentry := isValidSeatRecord_iff.mp (h e he)
  cases hstate : e.2.state with
  | active => rfl
  | pending =>
    rw [(hentry.pending hstate).2] at hn
    cases hn

/-- Without a new bind nothing changes. -/
lemma Grown.of_keeps {w w' : SeatWorld} {store written : SeatsFile} (h : Grown w store)
    (hwritten : written.Valid) (hkeeps : KeepsBinds store written)
    (hbound : w'.boundAt = w.boundAt) (hclock : w.clock ≤ w'.clock) : Grown w' written where
  single := by
    intro e he o ho worktree hwe hwo
    obtain ⟨hea, hew⟩ := bound_iff.mp hwe
    obtain ⟨hoa, how⟩ := bound_iff.mp hwo
    obtain ⟨e', he', hek, hea', hew', -⟩ := hkeeps e he hea
    obtain ⟨o', ho', hok, hoa', how', -⟩ := hkeeps o ho hoa
    obtain rfl := h.single e' he' o' ho' worktree (bound_iff.mpr ⟨hea', hew'.trans hew⟩)
      (bound_iff.mpr ⟨hoa', how'.trans how⟩)
    exact Table.eq_of_key he ho (hek.symm.trans hok)
  active := by
    intro e he hactive
    obtain ⟨hdrone, hsession, hworktree, -, -⟩ :=
      (isValidSeatRecord_iff.mp (hwritten e he)).active hactive
    obtain ⟨e', he', -, hactive', -, horder⟩ := hkeeps e he hactive
    exact ⟨hworktree, hdrone, hsession, horder ▸ (h.active e' he' hactive').2.2.2⟩
  pending := fun e he => (isValidSeatRecord_iff.mp (hwritten e he)).pending
  distinct := by
    intro e he o ho n hn hm
    obtain ⟨e', he', hek, -, -, horder⟩ := hkeeps e he (active_of_order hwritten he hn)
    obtain ⟨o', ho', hok, -, -, horder'⟩ := hkeeps o ho (active_of_order hwritten ho hm)
    obtain rfl := h.distinct e' he' o' ho' n (horder.trans hn) (horder'.trans hm)
    exact Table.eq_of_key he ho (hek.symm.trans hok)
  later := by
    intro e he o ho m n hm hn
    obtain ⟨e', he', hek, -, -, horder⟩ := hkeeps e he (active_of_order hwritten he hm)
    obtain ⟨o', ho', hok, -, -, horder'⟩ := hkeeps o ho (active_of_order hwritten ho hn)
    rw [hbound, ← hek, ← hok]
    exact h.later e' he' o' ho' m n (horder.trans hm) (horder'.trans hn)
  past := by
    intro e he hsome
    obtain ⟨n, hn⟩ := Option.isSome_iff_exists.mp hsome
    obtain ⟨e', he', hek, -, -, horder⟩ := hkeeps e he (active_of_order hwritten he hn)
    have hpast := h.past e' he' (horder ▸ hsome)
    rw [hbound, ← hek]
    omega

/-- A new bind takes the greatest order, at the latest time. -/
lemma Grown.of_bind {w : SeatWorld} {store written : SeatsFile} {input : ActivateSeat}
    {record : SeatRecord} (h : Grown w store) (hwritten : written.Valid)
    (hmem : ∀ e, e ∈ written ↔
      e = (seatRef input.toSeatIdentity, input.over (highestOrder store + 1) record) ∨
      e ∈ store ∧ e.1 ≠ seatRef input.toSeatIdentity ∧ bound input.worktree e = false)
    {w' : SeatWorld} (hclock : w'.clock = w.clock + 1)
    (hbound : w'.boundAt = Function.update w.boundAt (seatRef input.toSeatIdentity) w.clock) :
    Grown w' written := by
  set ref := seatRef input.toSeatIdentity with href
  set e₀ := (ref, input.over (highestOrder store + 1) record) with he₀
  have hbound₀ : w'.boundAt e₀.1 = w.clock := by rw [hbound]; exact Function.update_self ..
  have hbound' : ∀ e ∈ store, e.1 ≠ ref → w'.boundAt e.1 = w.boundAt e.1 := by
    intro e _ hne
    rw [hbound]
    exact Function.update_of_ne hne ..
  have horder₀ : e₀.2.bindingOrder = some (highestOrder store + 1) := rfl
  refine ⟨⟨?_, ?_, ?_, ?_, ?_⟩, ?_⟩
  · intro e he o ho worktree hwe hwo
    have hworktree₀ : bound worktree e₀ = true → worktree = input.worktree := by
      intro hb
      exact (Option.some.inj (bound_iff.mp hb).2).symm
    rcases (hmem e).mp he with rfl | ⟨heold, -, hefalse⟩
    · obtain rfl := hworktree₀ hwe
      rcases (hmem o).mp ho with rfl | ⟨-, -, hofalse⟩
      · rfl
      · rw [hwo] at hofalse
        cases hofalse
    · rcases (hmem o).mp ho with rfl | ⟨hoold, -, -⟩
      · obtain rfl := hworktree₀ hwo
        rw [hwe] at hefalse
        cases hefalse
      · exact h.single e heold o hoold worktree hwe hwo
  · intro e he hactive
    obtain ⟨hdrone, hsession, hworktree, -, -⟩ :=
      (isValidSeatRecord_iff.mp (hwritten e he)).active hactive
    refine ⟨hworktree, hdrone, hsession, ?_⟩
    rcases (hmem e).mp he with rfl | ⟨heold, -, -⟩
    · rfl
    · exact (h.active e heold hactive).2.2.2
  · exact fun e he => (isValidSeatRecord_iff.mp (hwritten e he)).pending
  · intro e he o ho n hn hm
    rcases (hmem e).mp he with rfl | ⟨heold, -, -⟩
    · rcases (hmem o).mp ho with rfl | ⟨hoold, -, -⟩
      · rfl
      · have hle := le_highestOrder hoold hm
        rw [horder₀] at hn
        have hn := Option.some.inj hn
        omega
    · rcases (hmem o).mp ho with rfl | ⟨hoold, -, -⟩
      · have hle := le_highestOrder heold hn
        rw [horder₀] at hm
        have hm := Option.some.inj hm
        omega
      · exact h.distinct e heold o hoold n hn hm
  · intro e he o ho m n hm hn
    rcases (hmem e).mp he with rfl | ⟨heold, hene, -⟩
    · rcases (hmem o).mp ho with rfl | ⟨hoold, hone, -⟩
      · rw [hm] at hn
        have heq := Option.some.inj hn
        simp [heq]
      · have hle := le_highestOrder hoold hn
        have hpast := h.past o hoold (by simp [hn])
        rw [hbound₀, hbound' o hoold hone]
        rw [horder₀] at hm
        have hm := Option.some.inj hm
        omega
    · rcases (hmem o).mp ho with rfl | ⟨hoold, hone, -⟩
      · have hle := le_highestOrder heold hm
        have hpast := h.past e heold (by simp [hm])
        rw [hbound₀, hbound' e heold hene]
        rw [horder₀] at hn
        have hn := Option.some.inj hn
        omega
      · rw [hbound' e heold hene, hbound' o hoold hone]
        exact h.later e heold o hoold m n hm hn
  · intro e he hsome
    rcases (hmem e).mp he with rfl | ⟨heold, hene, -⟩
    · rw [hbound₀, hclock]
      omega
    · have hpast := h.past e heold hsome
      rw [hbound' e heold hene, hclock]
      omega

lemma Grown.step {w : SeatWorld} {store written : SeatsFile} {call : SeatCall} (h : Grown w store)
    (hvalid : store.Valid) (hshape : call.WellShaped) (hchange : SeatChange store written call) :
    Grown (w.commit store written call) written := by
  have hwritten := hchange.valid hshape hvalid
  have hclock : w.clock ≤ (w.commit store written call).clock := Nat.le_succ _
  cases hchange with
  | minted _ seed hcall hmem =>
    refine h.of_keeps hwritten ?_ ?_ hclock
    · intro e he hactive
      rcases (hmem e).mp he with rfl | ⟨hold, -⟩
      · cases hactive
      · exact ⟨e, hold, rfl, hactive, rfl, rfl⟩
    · rcases hcall with rfl | ⟨input, rfl, -⟩ <;> rfl
  | activated input record hrecord _ _ _ _ hmem =>
    rcases nextOrder_cases store record input.worktree with ⟨hactive, hworktree, hown⟩ | ⟨hnot, hnew⟩
    · have hany : store.rows.any (fun e => e.1 == seatRef input.toSeatIdentity &&
          bound input.worktree e) = true := by
        rw [any_eq_true]
        refine ⟨_, hrecord, ?_⟩
        rw [Bool.and_eq_true, bound_iff]
        exact ⟨beq_self_eq_true _, hactive, hworktree⟩
      refine h.of_keeps hwritten ?_ ?_ hclock
      · intro e he heactive
        rcases (hmem e).mp he with rfl | ⟨hold, -, -⟩
        · exact ⟨_, hrecord, rfl, hactive, hworktree, hown⟩
        · exact ⟨e, hold, rfl, heactive, rfl, rfl⟩
      · exact if_pos hany
    · rw [hnew] at hmem
      refine h.of_bind hwritten hmem rfl (if_neg ?_)
      intro hany
      obtain ⟨e, he, hkey⟩ := any_eq_true.mp hany
      rw [Bool.and_eq_true, bound_iff, beq_iff_eq] at hkey
      obtain rfl := Table.eq_of_key he hrecord hkey.1
      have hsome := (h.active _ he hkey.2.1).2.2.2
      rw [hnot hkey.2] at hsome
      cases hsome
  | boundPending input record _ hpending _ _ hmem =>
    refine h.of_keeps hwritten ?_ rfl hclock
    intro e he hactive
    rcases (hmem e).mp he with rfl | ⟨hold, -⟩
    · have hstate : record.state = .active := hactive
      rw [hpending] at hstate
      cases hstate
    · exact ⟨e, hold, rfl, hactive, rfl, rfl⟩
  | removed _ ref hcall hmem =>
    refine h.of_keeps hwritten ?_ ?_ hclock
    · intro e he hactive
      exact ⟨e, ((hmem e).mp he).1, rfl, hactive, rfl, rfl⟩
    · cases call with
      | reset _ => rfl
      | scrub _ _ _ => rfl
      | clear _ => rfl
      | _ => exact hcall.elim
  | refreshed input record hrecord hactive hmem =>
    refine h.of_keeps hwritten ?_ rfl hclock
    intro e he heactive
    rcases (hmem e).mp he with rfl | ⟨hold, -⟩
    · exact ⟨_, hrecord, rfl, hactive, rfl, rfl⟩
    · exact ⟨e, hold, rfl, heactive, rfl, rfl⟩

/-- A run of well-shaped transactions keeps the file accepted, and from no file also in order. -/
lemma sound_run {file : Option SeatsText} {initial : SeatsFile}
    (hload : seatsFormat.load file = some initial) {calls : List SeatCall}
    (hcalls : ∀ call ∈ calls, call.WellShaped) :
    Sound initial (run seatStep (.start file) calls) := by
  induction calls using List.reverseRecOn with
  | nil => exact Sound.start hload
  | append_singleton calls call ih =>
    rw [run_append]
    exact (ih (fun c hc => hcalls c (mem_append_left _ hc))).step call (hcalls call (by simp))

omit [SeatPlatform] in
lemma emptyStore_untied : Untied emptyStore := fun _ he => absurd he not_mem_nil

lemma grown_run {calls : List SeatCall} (hcalls : ∀ call ∈ calls, call.WellShaped) :
    ∀ store, seatsFormat.load (run seatStep (.start none) calls).file = some store →
      Grown (run seatStep (.start none) calls) store := by
  induction calls using List.reverseRecOn with
  | nil =>
    intro store hload
    obtain rfl : emptyStore = store := Option.some.inj hload
    have hnone : ∀ e, e ∉ emptyStore := fun e he => absurd he not_mem_nil
    exact ⟨⟨fun e he => absurd he (hnone e), fun e he => absurd he (hnone e),
      fun e he => absurd he (hnone e), fun e he => absurd he (hnone e),
      fun e he => absurd he (hnone e)⟩, fun e he => absurd he (hnone e)⟩
  | append_singleton calls call ih =>
    have hcalls' : ∀ c ∈ calls, c.WellShaped := fun c hc => hcalls c (mem_append_left _ hc)
    have hshape : call.WellShaped := hcalls call (by simp)
    have hsound := sound_run (rfl : seatsFormat.load none = some emptyStore) hcalls'
    rw [run_append, run_cons, run_nil]
    rcases seatStep_cases (run seatStep (.start none) calls) call with
      heq | ⟨store, written, hload, hcommit, heq⟩
    · rw [heq]
      exact ih hcalls'
    · rw [heq]
      have hchange := SeatCall.commit_change hcommit
      have hplain := hchange.plain (hsound.plain emptyStore_untied store hload)
      intro store' hload'
      have hreload := load_render (hchange.valid hshape (load_valid hload))
      rw [hplain.repair_eq] at hreload
      obtain rfl : written = store' := Option.some.inj (hreload.symm.trans hload')
      exact (ih hcalls' store hload).step (load_valid hload) hshape hchange

/-- The write path never bricks the read path: whatever a transaction commits is accepted again, and
read back without loss but for what a persisted order shows superseded; without ties at the start
nothing is lost. What grows from no file is moreover ordered by its binds. -/
theorem seats_representation {file : Option SeatsText} {initial : SeatsFile}
    (hload : seatsFormat.load file = some initial) {calls : List SeatCall}
    (hcalls : ∀ call ∈ calls, call.WellShaped) :
    let w := run seatStep (.start file) calls
    (∃ store, seatsFormat.load w.file = some store ∧
      ∀ (call : SeatCall) (written : SeatsFile), call.WellShaped →
        call.commit store = some written →
        parseStore (renderStore written) = .ok (some (repairOrderedDuplicateBindings written)) ∧
        (∀ e ∈ written, e ∈ repairOrderedDuplicateBindings written ∨ Superseded written e) ∧
        (Untied initial → repairOrderedDuplicateBindings written = written)) ∧
    (file = none → ∀ store, seatsFormat.load w.file = some store → Represented w store) := by
  intro w
  have hsound : Sound initial w := sound_run hload hcalls
  refine ⟨?_, ?_⟩
  · obtain ⟨store, hstore⟩ := hsound.accepted
    refine ⟨store, hstore, ?_⟩
    intro call written hshape hcommit
    have hchange := SeatCall.commit_change hcommit
    refine ⟨parseStore_renderStore (hchange.valid hshape (load_valid hstore)), ?_, ?_⟩
    · intro e he
      exact repair_keeps he
    · intro huntied
      exact (hchange.plain (hsound.plain huntied store hstore)).repair_eq
  · rintro rfl store hstore
    exact (grown_run hcalls store hstore).toRepresented

end Invariants

section Instances

attribute [local instance] plainSeats

/-- An ACTIVE record of `/repo` under the given key and order. -/
def boundSeat (key : String) (order : ℕ) : SeatRecord where
  origin := "https://borg"
  trustIdentity := "trust"
  cubeId := "cube"
  roleId := "role"
  operation := ⟨"/repo", .sibling, key⟩
  credential := String.ofList (replicate 43 'a')
  state := .active
  bindingOrder := some order
  droneId := some "00000000-0000-0000-0000-000000000000"
  sessionId := some "00000000-0000-0000-0000-000000000000"
  worktree := some "/repo"
  commonDir := none
  repositoryOrigin := none
  name := some "cube"
  droneLabel := some "drone"
  roleName := none
  roleClass := none
  isHumanSeat := none

def boundEntry (key : String) (order : ℕ) : String × SeatRecord :=
  (seatRef (boundSeat key order).toSeatIdentity, boundSeat key order)

/-- Three seats of one worktree, of which the order does not decide. -/
def tiedStore : SeatsFile :=
  ⟨[boundEntry "a" 5, boundEntry "ab" 5, boundEntry "abc" 3], by decide +kernel⟩

def untiedStore : SeatsFile := ⟨[boundEntry "ab" 5, boundEntry "abc" 3], by decide +kernel⟩

/-- Clearing one of two tied seats decides the order of the others: the next load drops a record
the transaction wrote. -/
theorem seats_reload_loses :
    ∃ (initial written reread : SeatsFile) (call : SeatCall),
      seatsFormat.load (some (renderStore initial)) = some initial ∧ call.WellShaped ∧
      call.commit initial = some written ∧ parseStore (renderStore written) = .ok (some reread) ∧
      ∃ e ∈ written, e ∉ reread := by
  have hvalid : ∀ e ∈ tiedStore.rows, isValidSeatRecord e.1 e.2 = true := by decide +kernel
  have hvalid' : ∀ e ∈ untiedStore.rows, isValidSeatRecord e.1 e.2 = true := by decide +kernel
  have hrepair : (repairOrderedDuplicateBindings tiedStore).rows = tiedStore.rows := by
    decide +kernel
  have hlost : boundEntry "abc" 3 ∉ (repairOrderedDuplicateBindings untiedStore).rows := by
    decide +kernel
  have hcommit : (SeatCall.clear (boundEntry "a" 5).1).commit tiedStore = some untiedStore := by
    apply congrArg some
    apply Table.ext_rows
    decide +kernel
  have hload := load_render hvalid
  rw [Table.ext_rows hrepair] at hload
  exact ⟨tiedStore, untiedStore, _, .clear (boundEntry "a" 5).1, hload, trivial, hcommit,
    parseStore_renderStore hvalid', boundEntry "abc" 3, by simp [Table.mem_def, untiedStore], hlost⟩

def mintedSeed : SeatSeed where
  origin := "https://borg"
  trustIdentity := "trust"
  cubeId := "cube"
  roleId := "role"
  operation := ⟨"/repo", .sibling, "implicit"⟩
  credential := String.ofList (replicate 43 'a')

/-- The file after a mint into no file. -/
theorem seats_representation_mint :
    let w := run seatStep (.start none) [.mint mintedSeed]
    (∃ store, seatsFormat.load w.file = some store ∧
      ∀ (call : SeatCall) (written : SeatsFile), call.WellShaped →
        call.commit store = some written →
        parseStore (renderStore written) = .ok (some (repairOrderedDuplicateBindings written)) ∧
        (∀ e ∈ written, e ∈ repairOrderedDuplicateBindings written ∨ Superseded written e) ∧
        (Untied emptyStore → repairOrderedDuplicateBindings written = written)) ∧
    ((none : Option SeatsText) = none → ∀ store, seatsFormat.load w.file = some store →
      Represented w store) := by
  have hshape : SeatCall.WellShaped (.mint mintedSeed) := by
    have h : isValidSeatRecord (seatRef mintedSeed.toSeatIdentity) mintedSeed.record = true := by
      decide +kernel
    exact h
  have hload : seatsFormat.load none = some emptyStore := rfl
  exact seats_representation hload (by simpa using hshape)

end Instances

end BorgClient.Seats
