import BorgClient.Lib.Runs
import BorgClient.Representative.ServerLog

/-!
# Overlapping reads and delivers in one generation

Any number of reads, each between its snapshot and its widening transaction, and delivers by
any number of processes, over one generation's delivery state and a growing server log.
-/

namespace BorgClient.Representative
open Platform List Tables Runs

/-- A call of `readRepresentativeReplies`. -/
inductive ReadCall
  | scanning (input : ReadInput) (state : DeliveryState) (requestIds : List Uuid) (s : ScanState)
  | returned (final : ReadResult)
  | failed (error : RepresentativeError)

structure DeliveryWorld where
  db : Db
  log : ServerLog
  reads : ℕ → Option ReadCall
  /-- The windows of the completed reads. -/
  windows : List (List LocalServerCursor)

inductive DeliveryStep
  | append (entry : LogEntry)
  | ensureRow
  | resolveHead (pages : List Page)
  | readStart (i : ℕ) (raw : RawReadInput)
  | readPage (i : ℕ) (n : ℕ) (has_more : Bool)
  | readFinish (i : ℕ)
  | deliver (through : Uuid)

def DeliveryWorld.setRead (w : DeliveryWorld) (i : ℕ) (call : ReadCall) : DeliveryWorld :=
  { w with reads := Function.update w.reads i (some call) }

/-- Some completed read returned the reply at `p`. -/
def Returned (w : DeliveryWorld) (p : LocalServerCursor) : Prop := ∃ window ∈ w.windows, p ∈ window

lemma not_returned {w : DeliveryWorld} (h : w.windows = []) (p : LocalServerCursor) : ¬ Returned w p := by
  rintro ⟨window, hmem, _⟩
  simp [h] at hmem

section Steps

variable [Platform] [ReadText]

/-- The snapshot transaction of a call with a decoded input, and where its scan starts. -/
def readStartStep (binding : RepresentativeBinding) (w : DeliveryWorld) (i : ℕ)
    (input : ReadInput) : DeliveryWorld :=
  match (transact w.db (readSnapshot binding)).1 with
  | .error e => w.setRead i (.failed e)
  | .ok (state, requestIds) =>
    match scanStart state with
    | .error e => w.setRead i (.failed e)
    | .ok (cursor, floor) =>
      w.setRead i (.scanning input state requestIds ⟨[], 0, cursor, floor, false⟩)

/-- The widening transaction of a finished scan. -/
def readFinishStep (binding : RepresentativeBinding) (w : DeliveryWorld) (i : ℕ)
    (input : ReadInput) (state : DeliveryState) (s : ScanState) : DeliveryWorld :=
  match finalResult binding input state s with
  | .error e => w.setRead i (.failed e)
  | .ok final =>
    match transact w.db (widenTransaction binding (readWindow s final)) with
    | (.error e, db) => { w with db := db }.setRead i (.failed e)
    | (.ok (), db) =>
      { w with db := db, windows := w.windows ++ [readWindow s final] }.setRead i (.returned final)

/-- A deliver looks its entry up on the server and then runs its transaction; entries of an
append-only log do not change in between. -/
def deliveryStep (binding : RepresentativeBinding) (w : DeliveryWorld) :
    DeliveryStep → DeliveryWorld
  | .append entry => { w with log := w.log.append entry }
  | .ensureRow => { w with db := (transact w.db (ensureRow binding)).2 }
  | .resolveHead pages => { w with db := (transact w.db (resolveHead binding (serverHead pages))).2 }
  | .readStart i raw =>
    match w.reads i with
    | some _ => w
    | none =>
      match readInput raw with
      | .error e => w.setRead i (.failed e)
      | .ok input => readStartStep binding w i input
  | .readPage i n has_more =>
    match w.reads i with
    | some (.scanning input state requestIds s) =>
      if s.done then w
      else w.setRead i (.scanning input state requestIds (scanPage binding input requestIds s
        ⟨w.log.pageAfter s.cursor (min n READ_SCAN_PAGE), has_more⟩))
    | _ => w
  | .readFinish i =>
    match w.reads i with
    | some (.scanning input state _ s) =>
      if s.done then readFinishStep binding w i input state s else w
    | _ => w
  | .deliver through =>
    { w with db := (transact w.db (deliverReplies binding w.log.entries through)).2 }

end Steps

/-! ### The delivery invariant -/

section Invariant

variable [Platform]

/-- A scan under way started from a floor the current one has reached since. -/
structure ReadOk (binding : RepresentativeBinding) (w : DeliveryWorld) (d : DeliveryState)
    (input : ReadInput) (state : DeliveryState) (s : ScanState) : Prop where
  start_le : d.start ≤ state.floor
  floor_le : state.floor ≤ d.floor
  origin : state.floor = d.start ∨ Returned w state.floor
  scan : ScanOk binding input.include_broadcast w.log state.floor s

/-- The invariant of the generation's delivery state, once it has a row. -/
structure DeliveryOk (binding : RepresentativeBinding) (w : DeliveryWorld) (d : DeliveryState) :
    Prop where
  fenced : d.fenced = true
  nodup : (d.returned.map (·.id)).Nodup
  origin : ∀ c, d.checkpoint = some c →
    (d.startKind = .checkpoint ∧ c = d.start) ∨ Returned w c
  window : ∀ p, Returned w p → d.start < p ∧ p ∈ wantedPoints binding true w.log ∧
    ∃ r, d.readThrough = some r ∧ p ≤ r
  near : ∀ p, Returned w p → d.floor < p →
    p ∈ Windows.firstAfter (wantedPoints binding false w.log) 50 d.floor ∨
      p ∈ Windows.firstAfter (wantedPoints binding true w.log) 50 d.floor
  stored : ∀ p, p ∈ d.returned ↔ Returned w p ∧ d.floor < p
  covered : ∀ p, Returned w p → ∀ q ∈ wantedPoints binding false w.log, d.start < q → q ≤ p →
    Returned w q
  pending : d.startKind = .headPending → w.windows = [] ∧
    ∀ i input state requestIds s, w.reads i ≠ some (.scanning input state requestIds s)
  reads : ∀ i input state requestIds s, w.reads i = some (.scanning input state requestIds s) →
    ReadOk binding w d input state s

structure DeliveryInv (binding : RepresentativeBinding) (w : DeliveryWorld) : Prop where
  absent : loadDelivery w.db (bindingFingerprint binding) = none →
    (w.db.returned (bindingFingerprint binding)).rows = [] ∧ w.windows = [] ∧
    ∀ i input state requestIds s, w.reads i ≠ some (.scanning input state requestIds s)
  present : ∀ d, loadDelivery w.db (bindingFingerprint binding) = some d → DeliveryOk binding w d

end Invariant

/-! ### Each step keeps the invariant -/

/-- The floor of a loaded state is the start, or a reply some read returned. -/
lemma DeliveryOk.floor_origin {binding : RepresentativeBinding} {w : DeliveryWorld}
    {d : DeliveryState} (hok : DeliveryOk binding w d) :
    d.floor = d.start ∨ Returned w d.floor := by
  cases hc : d.checkpoint with
  | none => exact Or.inl (floor_of_none hc)
  | some c =>
    rcases hok.origin c hc with ⟨_, rfl⟩ | hr
    · exact Or.inl (by rw [floor_of_some hc, max_self])
    · right
      rw [floor_of_some hc, max_eq_right (hok.window c hr).1.le]
      exact hr

/-! ### Windows near the floor -/

section Near

variable {binding : RepresentativeBinding} {w : DeliveryWorld} {d state : DeliveryState}
  {input : ReadInput} {s : ScanState} {p : LocalServerCursor} {n : ℕ}

/-- A position a read returns: after the start, addressed, and, when still after the floor,
among the first 50 there of the read's kind. -/
lemma ReadOk.near (hread : ReadOk binding w d input state s) (hn : n ≤ 50)
    (hp : p ∈ (s.candidates.map (·.point)).take n) :
    d.start < p ∧ p ∈ wantedPoints binding true w.log ∧ (d.floor < p →
      p ∈ Windows.firstAfter (wantedPoints binding false w.log) 50 d.floor ∨
        p ∈ Windows.firstAfter (wantedPoints binding true w.log) 50 d.floor) := by
  obtain ⟨hwanted, hfloor, _⟩ := hread.scan.scan.mem p (mem_of_mem_take hp)
  have hp50 : p ∈ (s.candidates.map (·.point)).take 50 :=
    (take_sublist_take_left hn).subset hp
  have hnear := fun hlt => Windows.firstAfter_advance hread.floor_le
    (hread.scan.scan.mem_firstAfter hp50) hlt
  refine ⟨hread.start_le.trans_lt hfloor, ?_, fun hlt => ?_⟩
  · cases hb : input.include_broadcast with
    | false => exact wantedPoints_mono (hb ▸ hwanted)
    | true => exact hb ▸ hwanted
  · cases hb : input.include_broadcast with
    | false => exact Or.inl (hb ▸ hnear hlt)
    | true => exact Or.inr (hb ▸ hnear hlt)

/-- With one, a read returns every direct reply after the start and before it that no read
returned already. -/
lemma ReadOk.covers (hread : ReadOk binding w d input state s) (hok : DeliveryOk binding w d)
    (hp : p ∈ (s.candidates.map (·.point)).take n) {q : LocalServerCursor}
    (hq : q ∈ wantedPoints binding false w.log) (hstart : d.start < q) (hqp : q ≤ p) :
    Returned w q ∨ q ∈ (s.candidates.map (·.point)).take n := by
  by_cases hfloor : q ≤ state.floor
  · left
    rcases hread.origin with ho | hr
    · exact absurd hstart (not_lt.mpr (ho ▸ hfloor))
    · exact hok.covered state.floor hr q hq hstart hfloor
  · right
    have hwanted : q ∈ wantedPoints binding input.include_broadcast w.log := wantedPoints_mono hq
    have hlast := hqp.trans (hread.scan.scan.mem p (mem_of_mem_take hp)).2.2
    exact hread.scan.scan.mem_take_of_le hp
      (hread.scan.scan.complete q hwanted (not_le.mp hfloor) hlast) hqp

/-- Positions with one id are one position: they are entries of one log. -/
lemma eq_of_wanted_id {log : ServerLog} {q : LocalServerCursor}
    (hp : p ∈ wantedPoints binding true log) (hq : q ∈ wantedPoints binding true log)
    (hid : q.id = p.id) : q = p := by
  obtain ⟨e, he, _, rfl⟩ := mem_wantedPoints.mp hp
  obtain ⟨x, hx, _, rfl⟩ := mem_wantedPoints.mp hq
  rw [log.eq_of_id hx he hid]

/-- The cap never bites: what is kept after the floor lies in the first 50 direct and the
first 50 addressed positions there. -/
lemma widened_length (hok : DeliveryOk binding w d) (hread : ReadOk binding w d input state s)
    (hn : n ≤ 50) : (widened d ((s.candidates.map (·.point)).take n)).length ≤ RETURNED_CAP := by
  have hnodup : (widened d ((s.candidates.map (·.point)).take n)).Nodup :=
    Nodup.of_map _ (widened_nodup _ _)
  rw [← toFinset_card_of_nodup hnodup]
  have hsub : (widened d ((s.candidates.map (·.point)).take n)).toFinset ⊆
      Windows.firstAfter (wantedPoints binding false w.log) 50 d.floor ∪
        Windows.firstAfter (wantedPoints binding true w.log) 50 d.floor := by
    intro p hp
    obtain ⟨hfrom, hafter⟩ := mem_of_mem_widened (mem_toFinset.mp hp)
    rw [Finset.mem_union]
    rcases hfrom with hret | hwin
    · obtain ⟨hr, hfloor⟩ := (hok.stored p).mp hret
      exact hok.near p hr hfloor
    · obtain ⟨hstart, _, hnear⟩ := hread.near hn hwin
      exact hnear ((after_checkpoint_iff hstart).mp hafter)
  calc _ ≤ _ := Finset.card_le_card hsub
    _ ≤ _ := Finset.card_union_le _ _
    _ ≤ 50 + 50 := add_le_add (Windows.card_firstAfter_le _ _ _) (Windows.card_firstAfter_le _ _ _)

/-- The widening keeps the invariant, whatever else the write does: the fence and the returned
set take in the window. -/
lemma deliveryOk_widen (hok : DeliveryOk binding w d) (hread : ReadOk binding w d input state s)
    (hn : n ≤ 50) {w' : DeliveryWorld} {d' : DeliveryState} (hlog : w'.log = w.log)
    (hwin : w'.windows = w.windows ++ [(s.candidates.map (·.point)).take n])
    (hreads : ∀ i input state requestIds s, w'.reads i = some (.scanning input state requestIds s) →
      w.reads i = some (.scanning input state requestIds s))
    (hstart : d'.start = d.start) (hkind : d'.startKind = d.startKind)
    (hkindNe : d.startKind ≠ .headPending) (hcp : d'.checkpoint = d.checkpoint)
    (hfence : d'.fenced = true) (hnodup : (d'.returned.map (·.id)).Nodup)
    (hthrough : ∀ p, (∃ r, d.readThrough = some r ∧ p ≤ r) ∨
      p ∈ (s.candidates.map (·.point)).take n → ∃ r, d'.readThrough = some r ∧ p ≤ r)
    (hstored : ∀ p, p ∈ d'.returned ↔
      (p ∈ d.returned ∨ p ∈ (s.candidates.map (·.point)).take n) ∧ d.floor < p) :
    DeliveryOk binding w' d' := by
  have hfloor : d'.floor = d.floor := by
    unfold DeliveryState.floor
    rw [hstart, hcp]
  have hret : ∀ p, Returned w' p ↔ Returned w p ∨ p ∈ (s.candidates.map (·.point)).take n := by
    intro p
    unfold Returned
    rw [hwin]
    simp [or_and_right, exists_or]
  refine ⟨hfence, hnodup, ?_, ?_, ?_, ?_, ?_, ?_, ?_⟩
  · intro c hc
    rw [hcp] at hc
    rcases hok.origin c hc with ⟨hk, hs⟩ | hr
    · exact Or.inl ⟨hkind ▸ hk, hs.trans hstart.symm⟩
    · exact Or.inr ((hret c).mpr (Or.inl hr))
  · intro p hp
    rw [hlog, hstart]
    rcases (hret p).mp hp with hr | hw
    · obtain ⟨hs, hwanted, hle⟩ := hok.window p hr
      exact ⟨hs, hwanted, hthrough p (Or.inl hle)⟩
    · obtain ⟨hs, hwanted, _⟩ := hread.near hn hw
      exact ⟨hs, hwanted, hthrough p (Or.inr hw)⟩
  · intro p hp hlt
    rw [hlog, hfloor]
    rw [hfloor] at hlt
    rcases (hret p).mp hp with hr | hw
    · exact hok.near p hr hlt
    · exact (hread.near hn hw).2.2 hlt
  · intro p
    rw [hstored, hret, hfloor]
    constructor
    · rintro ⟨hp | hp, hlt⟩
      · exact ⟨Or.inl ((hok.stored p).mp hp).1, hlt⟩
      · exact ⟨Or.inr hp, hlt⟩
    · rintro ⟨hp | hp, hlt⟩
      · exact ⟨Or.inl ((hok.stored p).mpr ⟨hp, hlt⟩), hlt⟩
      · exact ⟨Or.inr hp, hlt⟩
  · intro p hp q hq hsq hqp
    rw [hlog] at hq
    rw [hstart] at hsq
    rw [hret]
    rcases (hret p).mp hp with hr | hw
    · exact Or.inl (hok.covered p hr q hq hsq hqp)
    · exact hread.covers hok hw hq hsq hqp
  · intro hp
    exact absurd (hkind ▸ hp) hkindNe
  · intro i input' state' requestIds' s' hi
    have hold := hok.reads i input' state' requestIds' s' (hreads i _ _ _ _ hi)
    refine ⟨hstart ▸ hold.start_le, hfloor ▸ hold.floor_le, ?_, hlog ▸ hold.scan⟩
    rcases hold.origin with ho | hr
    · exact Or.inl (ho.trans hstart.symm)
    · exact Or.inr ((hret _).mpr (Or.inl hr))

/-- Delivering through a returned reply keeps the invariant: the floor moves to it. -/
lemma deliveryOk_advance (hok : DeliveryOk binding w d) (hp : p ∈ d.returned) {w' : DeliveryWorld}
    {d' : DeliveryState} (hlog : w'.log = w.log) (hwin : w'.windows = w.windows)
    (hreads : w'.reads = w.reads) (hstart : d'.start = d.start) (hkind : d'.startKind = d.startKind)
    (hcp : d'.checkpoint = some p) (hthrough : d'.readThrough = d.readThrough)
    (hfence : d'.fenced = true) (hnodup : (d'.returned.map (·.id)).Nodup)
    (hstored : ∀ q, q ∈ d'.returned ↔ q ∈ d.returned ∧ p < q) : DeliveryOk binding w' d' := by
  obtain ⟨hr, hfloorp⟩ := (hok.stored p).mp hp
  have hsp := (hok.window p hr).1
  have hfloor : d'.floor = p := by
    rw [floor_of_some hcp, hstart, max_eq_right hsp.le]
  have hret : ∀ q, Returned w' q ↔ Returned w q := by
    intro q
    unfold Returned
    rw [hwin]
  refine ⟨hfence, hnodup, ?_, ?_, ?_, ?_, ?_, ?_, ?_⟩
  · intro c hc
    obtain rfl : p = c := Option.some.inj (hcp.symm.trans hc)
    exact Or.inr ((hret p).mpr hr)
  · intro q hq
    rw [hlog, hstart, hthrough]
    exact hok.window q ((hret q).mp hq)
  · intro q hq hlt
    rw [hfloor] at hlt
    rw [hlog, hfloor]
    rcases hok.near q ((hret q).mp hq) (hfloorp.trans hlt) with hn | hn
    · exact Or.inl (Windows.firstAfter_advance hfloorp.le hn hlt)
    · exact Or.inr (Windows.firstAfter_advance hfloorp.le hn hlt)
  · intro q
    rw [hstored, hret, hfloor]
    exact ⟨fun h => ⟨((hok.stored q).mp h.1).1, h.2⟩,
      fun h => ⟨(hok.stored q).mpr ⟨h.1, hfloorp.trans h.2⟩, h.2⟩⟩
  · intro q hq x hx hsx hxq
    rw [hlog] at hx
    rw [hstart] at hsx
    exact (hret x).mpr (hok.covered q ((hret q).mp hq) x hx hsx hxq)
  · intro hpend
    rw [hwin, hreads]
    exact hok.pending (hkind ▸ hpend)
  · intro i input' state' requestIds' s' hi
    rw [hreads] at hi
    have hold := hok.reads i input' state' requestIds' s' hi
    refine ⟨hstart ▸ hold.start_le, ?_, ?_, hlog ▸ hold.scan⟩
    · rw [hfloor]
      exact hold.floor_le.trans hfloorp.le
    · rcases hold.origin with ho | ho
      · exact Or.inl (ho.trans hstart.symm)
      · exact Or.inr ((hret _).mpr ho)

end Near

section Keep

variable [Platform] {binding : RepresentativeBinding} {w : DeliveryWorld}

/-- A read that ended, or failed, constrains nothing. -/
lemma DeliveryInv.setRead (h : DeliveryInv binding w) (i : ℕ) {call : ReadCall}
    (hc : ∀ input state requestIds s, call ≠ .scanning input state requestIds s) :
    DeliveryInv binding (w.setRead i call) := by
  have hback : ∀ j input state requestIds s,
      (w.setRead i call).reads j = some (.scanning input state requestIds s) →
        w.reads j = some (.scanning input state requestIds s) := by
    intro j input state requestIds s hj
    by_cases hji : j = i
    · subst hji
      simp only [DeliveryWorld.setRead, Function.update_self, Option.some.injEq] at hj
      exact absurd hj (hc input state requestIds s)
    · simp only [DeliveryWorld.setRead, Function.update_of_ne hji] at hj
      exact hj
  constructor
  · intro hn
    obtain ⟨hr, hw, hs⟩ := h.absent hn
    exact ⟨hr, hw, fun j input state requestIds s hj => hs j _ _ _ _ (hback j _ _ _ _ hj)⟩
  · intro d hd
    have hok := h.present d hd
    exact { hok with
      pending := fun hp => ⟨(hok.pending hp).1,
        fun j input state requestIds s hj => (hok.pending hp).2 j _ _ _ _ (hback j _ _ _ _ hj)⟩
      reads := fun j input state requestIds s hj =>
        let hread := hok.reads j input state requestIds s (hback j _ _ _ _ hj)
        ⟨hread.start_le, hread.floor_le, hread.origin, hread.scan⟩ }

/-- The log grows behind everything scanned and returned. -/
lemma deliveryInv_append (h : DeliveryInv binding w) (entry : LogEntry) :
    DeliveryInv binding { w with log := w.log.append entry } := by
  constructor
  · exact h.absent
  · intro d hd
    have hok := h.present d hd
    have hgrow := fun b => wantedPoints_append binding b w.log entry
    have hlater : ∀ b, ∀ q ∈ wantedPoints binding b (w.log.append entry),
        q ∉ wantedPoints binding b w.log → ∀ x ∈ wantedPoints binding b w.log, x < q := by
      intro b q hq hn x hx
      obtain ⟨e, he, _, rfl⟩ := mem_wantedPoints.mp hx
      exact (hgrow b).2 q hq hn e he
    refine ⟨hok.fenced, hok.nodup, hok.origin, ?_, ?_, hok.stored, ?_, hok.pending, ?_⟩
    · intro p hp
      obtain ⟨hstart, hwanted, hread⟩ := hok.window p hp
      exact ⟨hstart, (hgrow true).1 hwanted, hread⟩
    · intro p hp hfloor
      rcases hok.near p hp hfloor with hn | hn
      · exact Or.inl (Windows.firstAfter_extend (hgrow false).1 (hlater false) hn)
      · exact Or.inr (Windows.firstAfter_extend (hgrow true).1 (hlater true) hn)
    · intro p hp q hq hstart hqp
      by_cases hold : q ∈ wantedPoints binding false w.log
      · exact hok.covered p hp q hold hstart hqp
      · obtain ⟨e, he, _, rfl⟩ := mem_wantedPoints.mp (hok.window p hp).2.1
        exact absurd ((hgrow false).2 q hq hold e he) (not_lt.mpr hqp)
    · intro i input state requestIds s hi
      have hread := hok.reads i input state requestIds s hi
      exact ⟨hread.start_le, hread.floor_le, hread.origin, hread.scan.append entry⟩

lemma deliveryInv_ensureRow (h : DeliveryInv binding w) :
    DeliveryInv binding { w with db := (transact w.db (ensureRow binding)).2 } := by
  rcases ensureRow_cases w.db binding with hdb | ⟨hfind, delivery, hdb, hnew⟩
  · rw [hdb]
    exact h
  · rw [hdb]
    obtain ⟨hrows, hwin, hscan⟩ := h.absent (by simp [loadDelivery, hfind])
    have hno := not_returned hwin
    constructor
    · intro hn
      simp [loadDelivery, hnew] at hn
    · intro d hd
      simp only [loadDelivery, hnew, Option.map_some, Option.some.injEq] at hd
      subst hd
      refine ⟨rfl, ?_, ?_, ?_, ?_, ?_, ?_, ?_, ?_⟩
      · simp [hrows, sortPoints]
      · intro c hc
        cases hc
      · exact fun p hp => absurd hp (hno p)
      · exact fun p hp => absurd hp (hno p)
      · intro p
        simp only [hrows, mem_sortPoints, not_mem_nil, false_iff, not_and]
        exact fun hp => absurd hp (hno p)
      · exact fun p hp => absurd hp (hno p)
      · intro hp
        cases hp
      · exact fun i input state requestIds s hi => absurd hi (hscan i _ _ _ _)

lemma deliveryInv_resolveHead (h : DeliveryInv binding w) (head : ServerHead) :
    DeliveryInv binding { w with db := (transact w.db (resolveHead binding head)).2 } := by
  rcases resolveHead_cases w.db binding head with
    hdb | ⟨row, delivery, kind, start, hrow, hkind, hdb, hnew⟩
  · rw [hdb]
    exact h
  · rw [hdb]
    have hok := h.present _ (by rw [loadDelivery, hrow, Option.map_some])
    obtain ⟨hwin, hscan⟩ := hok.pending hkind
    have hno := not_returned hwin
    have hcp : row.checkpoint = none := by
      cases hc : row.checkpoint with
      | none => rfl
      | some c =>
        rcases hok.origin c hc with ⟨hstart, _⟩ | hr
        · rw [hkind] at hstart
          cases hstart
        · exact absurd hr (hno c)
    constructor
    · intro hn
      simp [loadDelivery, hnew] at hn
    · intro d hd
      simp only [loadDelivery, hnew, Option.map_some, Option.some.injEq] at hd
      subst hd
      refine ⟨?_, hok.nodup, ?_, ?_, ?_, ?_, ?_, ?_, ?_⟩
      · simp [DeliveryState.fenced, hcp]
      · intro c hc
        simp [hcp] at hc
      · exact fun p hp => absurd hp (hno p)
      · exact fun p hp => absurd hp (hno p)
      · intro p
        constructor
        · exact fun hp => absurd ((hok.stored p).mp hp).1 (hno p)
        · exact fun hp => absurd hp.1 (hno p)
      · exact fun p hp => absurd hp (hno p)
      · exact fun _ => ⟨hwin, hscan⟩
      · exact fun i input state requestIds s hi => absurd hi (hscan i _ _ _ _)

/-- A scan under way, of a generation whose start is resolved. -/
lemma DeliveryInv.setScanning (h : DeliveryInv binding w) (i : ℕ) {d : DeliveryState}
    (hd : loadDelivery w.db (bindingFingerprint binding) = some d)
    (hkind : d.startKind ≠ .headPending) {input : ReadInput} {state : DeliveryState}
    {requestIds : List Uuid} {s : ScanState} (hread : ReadOk binding w d input state s) :
    DeliveryInv binding (w.setRead i (.scanning input state requestIds s)) := by
  constructor
  · intro hn
    exact absurd (hd.symm.trans hn) (by simp)
  · intro d' hd'
    obtain rfl : d' = d := Option.some.inj (hd'.symm.trans hd)
    have hok := h.present d' hd
    refine { hok with pending := fun hp => absurd hp hkind, reads := ?_ }
    intro j input' state' requestIds' s' hj
    by_cases hji : j = i
    · subst hji
      simp only [DeliveryWorld.setRead, Function.update_self, Option.some.injEq,
        ReadCall.scanning.injEq] at hj
      obtain ⟨rfl, rfl, rfl, rfl⟩ := hj
      exact ⟨hread.start_le, hread.floor_le, hread.origin, hread.scan⟩
    · simp only [DeliveryWorld.setRead, Function.update_of_ne hji] at hj
      have hold := hok.reads j input' state' requestIds' s' hj
      exact ⟨hold.start_le, hold.floor_le, hold.origin, hold.scan⟩

lemma deliveryInv_readStart (h : DeliveryInv binding w) (i : ℕ) (input : ReadInput) :
    DeliveryInv binding (readStartStep binding w i input) := by
  unfold readStartStep
  split
  · exact h.setRead i (by simp)
  · rename_i state requestIds hsnap
    have hload := readSnapshot_ok hsnap
    split
    · exact h.setRead i (by simp)
    · rename_i cursor floor hstart
      obtain ⟨hkind, rfl, hcursor⟩ := scanStart_ok hstart
      have hok := h.present state hload
      exact h.setScanning i hload hkind ⟨start_le_floor state, le_rfl, hok.floor_origin,
        scanOk_start binding input.include_broadcast w.log hcursor⟩

/-- Delivering through `p` moves the floor to it and drops what lies before. -/
lemma deliveryInv_deliver (h : DeliveryInv binding w) (through : Uuid) :
    DeliveryInv binding
      { w with db := (transact w.db (deliverReplies binding w.log.entries through)).2 } := by
  have hstay : DeliveryInv binding { w with db := w.db } := h
  unfold transact deliverReplies
  cases hf : w.log.entries.find? (·.id == through) with
  | none => exact hstay
  | some entry =>
    dsimp only
    by_cases ha : (isAddressedCoordinatorEntry binding entry).isNone = true
    · rw [if_pos ha]
      exact hstay
    · rw [if_neg ha]
      have hcases := deliverTransaction_cases w.db binding entry.point
      unfold transact at hcases
      rcases hcases with hdb | ⟨d, r, out, hd, hmem, hr, hle, hafter, hadv⟩
      · rw [hdb]
        exact hstay
      · have hok := h.present d hd
        obtain ⟨db', hdb', hwritten⟩ := advanceCheckpoint_ok hd hok.fenced hok.nodup hr hle
        obtain ⟨rfl, rfl⟩ : (d, advanced d entry.point) = out ∧ db' = _ := by
          simpa using hdb'.symm.trans hadv
        have hfloor := ((hok.stored _).mp hmem).2
        have hcp : later d.checkpoint (some entry.point) = some entry.point := by
          cases hc : d.checkpoint with
          | none => rfl
          | some c => rw [later_some, max_eq_right ((checkpoint_le_floor hc).trans hfloor.le)]
        have hload := hwritten.loaded
        constructor
        · intro hnone
          exact absurd (hload.symm.trans hnone) (by simp)
        · intro d' hd'
          obtain rfl := Option.some.inj (hd'.symm.trans hload)
          refine deliveryOk_advance hok hmem rfl rfl rfl rfl rfl hcp rfl ?_ ?_ ?_
          · rw [fenced_iff]
            intro c hc
            obtain rfl : entry.point = c := Option.some.inj (hcp.symm.trans hc)
            exact ⟨r, hr, hle⟩
          · exact ((perm_insertionSort _ _).map _).nodup_iff.mpr
              (hok.nodup.sublist (filter_sublist.map _))
          · intro q
            rw [mem_sortPoints]
            simp only [advanced, hcp, mem_filter, comparePoints_pos, decide_eq_true_eq]

variable [ReadText]

lemma deliveryInv_readPage (h : DeliveryInv binding w) {i : ℕ} {input : ReadInput}
    {state : DeliveryState} {requestIds : List Uuid} {s : ScanState}
    (hi : w.reads i = some (.scanning input state requestIds s)) (n : ℕ) (has_more : Bool) :
    DeliveryInv binding (w.setRead i (.scanning input state requestIds
      (scanPage binding input requestIds s ⟨w.log.pageAfter s.cursor n, has_more⟩))) := by
  cases hd : loadDelivery w.db (bindingFingerprint binding) with
  | none => exact absurd hi ((h.absent hd).2.2 i _ _ _ _)
  | some d =>
    have hok := h.present d hd
    have hread := hok.reads i input state requestIds s hi
    exact h.setScanning i hd (fun hp => (hok.pending hp).2 i _ _ _ _ hi)
      ⟨hread.start_le, hread.floor_le, hread.origin, scanOk_page hread.scan n has_more⟩

lemma deliveryInv_readFinish (h : DeliveryInv binding w) {i : ℕ} {input : ReadInput}
    {state : DeliveryState} {requestIds : List Uuid} {s : ScanState}
    (hi : w.reads i = some (.scanning input state requestIds s)) :
    DeliveryInv binding (readFinishStep binding w i input state s) := by
  unfold readFinishStep
  split
  · exact h.setRead i (by simp)
  · rename_i final hfinal
    split
    · rename_i e db heq
      obtain rfl : w.db = db := by
        rw [← transact_error (congrArg Prod.fst heq), heq]
      exact h.setRead i (by simp)
    · rename_i db heq
      have hwiden := widenTransaction_ok heq
      cases hd : loadDelivery w.db (bindingFingerprint binding) with
      | none => exact absurd hi ((h.absent hd).2.2 i _ _ _ _)
      | some d =>
        have hok := h.present d hd
        have hread := hok.reads i input state requestIds s hi
        have hkind : d.startKind ≠ .headPending := fun hp => (hok.pending hp).2 i _ _ _ _ hi
        have hn : final.replies.length ≤ 50 :=
          (finalResult_length binding input state s hfinal).trans input.limit_bounds.2
        have hwindow : readWindow s final =
            (s.candidates.map (·.point)).take final.replies.length := by
          unfold readWindow
          exact map_take
        rw [hwindow] at hwiden ⊢
        have hreads : ∀ j input state requestIds s', (Function.update w.reads i
            (some (.returned final))) j = some (.scanning input state requestIds s') →
            w.reads j = some (.scanning input state requestIds s') := by
          intro j input' state' requestIds' s' hj
          by_cases hji : j = i
          · subst hji
            simp at hj
          · rwa [Function.update_of_ne hji] at hj
        have hcap := widened_length hok hread hn
        set window := (s.candidates.map (·.point)).take final.replies.length with hw
        cases hlast : window.getLast? with
        | none =>
          -- nothing to widen by
          have hnil : window = [] := getLast?_eq_none_iff.mp hlast
          obtain rfl : w.db = db := by
            simpa [widenReadWindow, hd, hlast] using hwiden
          constructor
          · intro hnone
            exact absurd (hd.symm.trans hnone) (by simp)
          · intro d' hd'
            obtain rfl : d' = d := Option.some.inj (hd'.symm.trans hd)
            refine deliveryOk_widen hok hread hn rfl rfl hreads rfl rfl hkind rfl hok.fenced
              hok.nodup ?_ ?_
            · rw [← hw, hnil]
              intro p hp
              simpa using hp
            · rw [← hw, hnil]
              intro p
              simp only [not_mem_nil, or_false]
              exact ⟨fun hp => ⟨hp, ((hok.stored p).mp hp).2⟩, fun hp => hp.1⟩
        | some last =>
          obtain ⟨db', hdb', hwritten⟩ := widenReadWindow_ok hd hok.fenced hlast
          obtain rfl : db' = db := Except.ok.inj (hdb'.symm.trans hwiden)
          have hdrop : (widened d window).drop ((widened d window).length - RETURNED_CAP) =
              widened d window := by
            rw [Nat.sub_eq_zero_of_le hcap, drop_zero]
          have hload := hwritten.loaded
          rw [hdrop] at hload
          have hwanted : ∀ p, p ∈ d.returned ∨ p ∈ window →
              d.start < p ∧ p ∈ wantedPoints binding true w.log := by
            rintro p (hp | hp)
            · have hr := hok.window p ((hok.stored p).mp hp).1
              exact ⟨hr.1, hr.2.1⟩
            · have hr := hread.near hn hp
              exact ⟨hr.1, hr.2.1⟩
          constructor
          · intro hnone
            exact absurd (hload.symm.trans hnone) (by simp)
          · intro d' hd'
            obtain rfl := Option.some.inj (hd'.symm.trans hload)
            refine deliveryOk_widen hok hread hn rfl rfl hreads rfl rfl hkind rfl ?_ ?_ ?_ ?_
            · rw [fenced_iff]
              intro c hc
              obtain ⟨r, hr, hcr⟩ := fenced_iff.mp hok.fenced c hc
              exact ⟨max r last, by simp only [hr, later_some], hcr.trans (le_max_left r last)⟩
            · exact ((perm_insertionSort _ _).map _).nodup_iff.mpr (widened_nodup d window)
            · rintro p (⟨r, hr, hpr⟩ | hp)
              · exact ⟨max r last, by simp only [hr, later_some], hpr.trans (le_max_left r last)⟩
              · have hple : p ≤ last := Windows.le_getLast_of_mem
                  (hread.scan.scan.sorted.sublist (take_sublist _ _)) hlast hp
                cases hr : d.readThrough with
                | none => exact ⟨last, later_none_left _, hple⟩
                | some r => exact ⟨max r last, later_some r last, hple.trans (le_max_right r last)⟩
            · intro p
              rw [mem_sortPoints]
              constructor
              · intro hp
                obtain ⟨hfrom, hafter⟩ := mem_of_mem_widened hp
                exact ⟨hfrom, (after_checkpoint_iff (hwanted p hfrom).1).mp hafter⟩
              · rintro ⟨hfrom, hlt⟩
                refine mem_widened hfrom (fun q hq hid => ?_)
                  ((after_checkpoint_iff (hwanted p hfrom).1).mpr hlt)
                exact eq_of_wanted_id (hwanted p hfrom).2 (hwanted q hq).2 hid

/-- Every step keeps the delivery invariant. -/
lemma deliveryInv_step (h : DeliveryInv binding w) (l : DeliveryStep) :
    DeliveryInv binding (deliveryStep binding w l) := by
  cases l with
  | append entry => exact deliveryInv_append h entry
  | ensureRow => exact deliveryInv_ensureRow h
  | resolveHead pages => exact deliveryInv_resolveHead h (serverHead pages)
  | deliver through => exact deliveryInv_deliver h through
  | readStart i raw =>
    unfold deliveryStep
    dsimp only
    split
    · exact h
    · split
      · exact h.setRead i (by simp)
      · exact deliveryInv_readStart h i _
  | readPage i n has_more =>
    unfold deliveryStep
    dsimp only
    split
    · rename_i hi
      split
      · exact h
      · exact deliveryInv_readPage h hi _ has_more
    · exact h
  | readFinish i =>
    unfold deliveryStep
    dsimp only
    split
    · rename_i hi
      split
      · exact deliveryInv_readFinish h hi
      · exact h
    · exact h

end Keep

end BorgClient.Representative
