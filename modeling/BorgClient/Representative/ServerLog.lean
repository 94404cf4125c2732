import BorgClient.Representative.Read

/-!
# The server log, as the client sees it

An append-only log in `(created_at, id)` order with contiguous pages, and what scanning its
pages from a floor collects.
-/

namespace BorgClient.Representative
open Platform List Tables

/-- The assumption on the server: entries in strictly increasing order, with distinct ids. -/
structure ServerLog where
  entries : List LogEntry
  sorted : entries.Pairwise (fun a b => a.point < b.point)
  ids : (entries.map (·.id)).Nodup

/-- A new entry is later than every other and has an id of its own; anything else is no
append. -/
def ServerLog.append (log : ServerLog) (entry : LogEntry) : ServerLog :=
  if h : ∀ e ∈ log.entries, e.point < entry.point ∧ e.id ≠ entry.id then
    { entries := log.entries ++ [entry]
      sorted := by
        rw [pairwise_append]
        refine ⟨log.sorted, pairwise_singleton _ _, ?_⟩
        intro a ha b hb
        rw [mem_singleton.mp hb]
        exact (h a ha).1
      ids := by
        rw [map_append, nodup_append]
        refine ⟨log.ids, by simp, ?_⟩
        intro x hx y hy hxy
        obtain ⟨e, he, rfl⟩ := mem_map.mp hx
        have hy' : y = entry.id := by simpa using hy
        exact (h e he).2 (hxy.trans hy') }
  else log

/-- The `n` entries strictly after a cursor. -/
def ServerLog.pageAfter (log : ServerLog) (cursor : Option LocalServerCursor) (n : ℕ) :
    List LogEntry :=
  (log.entries.filter (fun e => 0 < comparePoints e.point cursor)).take n

lemma ServerLog.append_cases (log : ServerLog) (entry : LogEntry) :
    log.append entry = log ∨
    ((∀ e ∈ log.entries, e.point < entry.point ∧ e.id ≠ entry.id) ∧
      (log.append entry).entries = log.entries ++ [entry]) := by
  unfold ServerLog.append
  split
  · rename_i h
    exact Or.inr ⟨h, rfl⟩
  · exact Or.inl rfl

lemma ServerLog.mem_append {log : ServerLog} {entry e : LogEntry} (he : e ∈ log.entries) :
    e ∈ (log.append entry).entries := by
  rcases log.append_cases entry with h | ⟨_, h⟩
  · rwa [h]
  · rw [h]
    exact mem_append_left _ he

/-- Entries at the same position, or with the same id, are the same entry. -/
lemma ServerLog.eq_of_id {log : ServerLog} {a b : LogEntry} (ha : a ∈ log.entries)
    (hb : b ∈ log.entries) (h : a.id = b.id) : a = b :=
  inj_on_of_nodup_map log.ids ha hb h

lemma ServerLog.eq_of_point {log : ServerLog} {a b : LogEntry} (ha : a ∈ log.entries)
    (hb : b ∈ log.entries) (h : a.point = b.point) : a = b :=
  log.eq_of_id ha hb (congrArg LocalServerCursor.id h)

/-- A prefix of a sorted list holds everything of the list before one of its members. -/
lemma mem_take_of_lt {entries : List LogEntry}
    (hs : entries.Pairwise (fun a b => a.point < b.point)) {n : ℕ} {e q : LogEntry}
    (he : e ∈ entries.take n) (hq : q ∈ entries) (hlt : q.point < e.point) :
    q ∈ entries.take n := by
  rw [← take_append_drop n entries, pairwise_append] at hs
  rcases mem_append.mp ((take_append_drop n entries).symm ▸ hq) with h | h
  · exact h
  · exact absurd (hs.2.2 e he q h) (lt_asymm hlt)

/-! ### Wanted positions -/

/-- The positions of the entries a read wants: the direct replies, or with broadcasts every
addressed entry. -/
def wantedPoints (binding : RepresentativeBinding) (include_broadcast : Bool) (log : ServerLog) :
    Finset LocalServerCursor :=
  ((log.entries.filter (fun e => (wanted binding include_broadcast e).isSome)).map (·.point)).toFinset

lemma mem_wantedPoints {binding : RepresentativeBinding} {include_broadcast : Bool}
    {log : ServerLog} {p : LocalServerCursor} :
    p ∈ wantedPoints binding include_broadcast log ↔
      ∃ e ∈ log.entries, (wanted binding include_broadcast e).isSome = true ∧ e.point = p := by
  simp [wantedPoints, and_assoc]

/-- What is wanted without broadcasts is wanted with them. -/
lemma wantedPoints_mono {binding : RepresentativeBinding} {include_broadcast : Bool}
    {log : ServerLog} {p : LocalServerCursor} (h : p ∈ wantedPoints binding false log) :
    p ∈ wantedPoints binding include_broadcast log := by
  obtain ⟨e, he, hw, hp⟩ := mem_wantedPoints.mp h
  refine mem_wantedPoints.mpr ⟨e, he, ?_, hp⟩
  unfold wanted at hw ⊢
  cases ha : isAddressedCoordinatorEntry binding e with
  | none => rw [ha] at hw; cases hw
  | some addressed =>
    cases addressed with
    | direct => rfl
    | broadcast => rw [ha] at hw; cases hw

lemma wantedPoints_append (binding : RepresentativeBinding) (include_broadcast : Bool)
    (log : ServerLog) (entry : LogEntry) :
    wantedPoints binding include_broadcast log ⊆
        wantedPoints binding include_broadcast (log.append entry) ∧
      ∀ q ∈ wantedPoints binding include_broadcast (log.append entry),
        q ∉ wantedPoints binding include_broadcast log →
        ∀ e ∈ log.entries, e.point < q := by
  constructor
  · intro p hp
    obtain ⟨e, he, hw, rfl⟩ := mem_wantedPoints.mp hp
    exact mem_wantedPoints.mpr ⟨e, ServerLog.mem_append he, hw, rfl⟩
  · intro q hq hn e he
    obtain ⟨x, hx, hw, rfl⟩ := mem_wantedPoints.mp hq
    rcases log.append_cases entry with h | ⟨hlater, h⟩
    · rw [h] at hx
      exact absurd (mem_wantedPoints.mpr ⟨x, hx, hw, rfl⟩) hn
    · rw [h] at hx
      rcases List.mem_append.mp hx with hx | hx
      · exact absurd (mem_wantedPoints.mpr ⟨x, hx, hw, rfl⟩) hn
      · rw [mem_singleton.mp hx]
        exact (hlater e he).1

/-! ### Scanning pages -/

/-- The candidates are the wanted entries after the floor, in order, up to the last position
considered; the next page starts at or before it. -/
structure ScanOk (binding : RepresentativeBinding) (include_broadcast : Bool) (log : ServerLog)
    (floor : LocalServerCursor) (s : ScanState) : Prop where
  scan : Windows.Scan (wantedPoints binding include_broadcast log) floor s.last
    (s.candidates.map (·.point))
  cursor : ∀ c, s.cursor = some c → c ≤ s.last
  reached : s.last = floor ∨ ∃ e ∈ log.entries, e.point = s.last

/-- Entries appended later leave the scan as it is. -/
lemma ScanOk.append {binding : RepresentativeBinding} {log : ServerLog}
    {floor : LocalServerCursor} {s : ScanState} {include_broadcast : Bool}
    (h : ScanOk binding include_broadcast log floor s) (entry : LogEntry) : ScanOk binding include_broadcast (log.append entry) floor s where
  scan := by
    obtain ⟨hsub, hlater⟩ := wantedPoints_append binding include_broadcast log entry
    refine h.scan.extend hsub ?_
    intro q hq hn hfloor
    rcases h.reached with hr | ⟨e, he, hr⟩
    · rwa [hr]
    · rw [← hr]
      exact hlater q hq hn e he
  cursor := h.cursor
  reached := by
    rcases h.reached with hr | ⟨e, he, hr⟩
    · exact Or.inl hr
    · exact Or.inr ⟨e, ServerLog.mem_append he, hr⟩

/-- Before any page nothing is scanned. -/
lemma scanOk_start (binding : RepresentativeBinding) (include_broadcast : Bool) (log : ServerLog)
    {floor : LocalServerCursor} {cursor : Option LocalServerCursor}
    (hc : ∀ c, cursor = some c → c ≤ floor) :
    ScanOk binding include_broadcast log floor ⟨[], 0, cursor, floor, false⟩ where
  scan := Windows.Scan.start _ floor
  cursor := hc
  reached := Or.inl rfl

section Scan

variable [ReadText] {binding : RepresentativeBinding} {input : ReadInput} {requestIds : List Uuid}
  {log : ServerLog} {floor : LocalServerCursor} {s : ScanState}

lemma foldl_scanEntry_done (hd : s.done = true) (entries : List LogEntry) :
    entries.foldl (scanEntry binding input requestIds) s = s := by
  induction entries with
  | nil => rfl
  | cons e rest ih =>
    have he : scanEntry binding input requestIds s e = s := by simp [scanEntry, hd]
    rw [foldl_cons, he, ih]

@[simp] lemma scanEntry_cursor (s : ScanState) (e : LogEntry) :
    (scanEntry binding input requestIds s e).cursor = s.cursor := by
  unfold scanEntry
  split
  · rfl
  · split <;> rfl

/-- One more entry considered: no entry of the log lies between the last one and it. -/
lemma scanOk_entry (requestIds : List Uuid)
    (h : ScanOk binding input.include_broadcast log floor s) {e : LogEntry}
    (he : e ∈ log.entries) (hd : s.done = false) (hlast : s.last < e.point)
    (hnext : ∀ q ∈ log.entries, s.last < q.point → ¬ q.point < e.point) :
    ScanOk binding input.include_broadcast log floor (scanEntry binding input requestIds s e) ∧
      (scanEntry binding input requestIds s e).last = e.point := by
  have hpos : ¬ comparePoints e.point (some s.last) ≤ 0 := by
    rw [comparePoints_nonpos]
    exact not_le.mpr hlast
  have hcursor : ∀ c, s.cursor = some c → c ≤ e.point :=
    fun c hc => (h.cursor c hc).trans hlast.le
  unfold scanEntry
  rw [if_neg (by simpa [hd] using hpos)]
  cases hw : wanted binding input.include_broadcast e with
  | none =>
    refine ⟨⟨h.scan.skip hlast ?_, hcursor, Or.inr ⟨e, he, rfl⟩⟩, rfl⟩
    intro q hq hql
    obtain ⟨x, hx, hxw, rfl⟩ := mem_wantedPoints.mp hq
    rcases lt_or_eq_of_le (not_lt.mp (hnext x hx hql)) with hlt | heq
    · exact hlt
    · obtain rfl : e = x := log.eq_of_point he hx heq
      rw [hw] at hxw
      cases hxw
  | some addressed =>
    refine ⟨⟨?_, hcursor, Or.inr ⟨e, he, rfl⟩⟩, rfl⟩
    dsimp only
    rw [map_append, map_singleton]
    refine h.scan.take hlast (mem_wantedPoints.mpr ⟨e, he, by rw [hw]; rfl, rfl⟩) ?_
    intro q hq hql
    obtain ⟨x, hx, _, rfl⟩ := mem_wantedPoints.mp hq
    exact not_lt.mp (hnext x hx hql)

/-- Entries of a contiguous stretch of the log, considered in order. -/
lemma scanOk_foldl (requestIds : List Uuid) {entries : List LogEntry}
    (h : ScanOk binding input.include_broadcast log floor s)
    (hsub : ∀ e ∈ entries, e ∈ log.entries)
    (hs : entries.Pairwise (fun a b => a.point < b.point))
    (hcontig : ∀ e ∈ entries, ∀ q ∈ log.entries, s.last < q.point → q.point < e.point →
      q ∈ entries) :
    ScanOk binding input.include_broadcast log floor
        (entries.foldl (scanEntry binding input requestIds) s) ∧
      s.last ≤ (entries.foldl (scanEntry binding input requestIds) s).last ∧
      ((entries.foldl (scanEntry binding input requestIds) s).done = false →
        ∀ e ∈ entries, e.point ≤ (entries.foldl (scanEntry binding input requestIds) s).last) := by
  induction entries generalizing s with
  | nil => exact ⟨h, le_rfl, by simp⟩
  | cons e rest ih =>
    by_cases hd : s.done = true
    · rw [foldl_scanEntry_done hd]
      exact ⟨h, le_rfl, fun hf => absurd hd (by simp [hf])⟩
    have hd' : s.done = false := by simpa using hd
    obtain ⟨hfirst, hrest⟩ := pairwise_cons.mp hs
    rw [foldl_cons]
    by_cases hle : e.point ≤ s.last
    · -- at or before the last position: skipped
      have hskip : scanEntry binding input requestIds s e = s := by
        unfold scanEntry
        rw [if_pos (by simp [comparePoints_nonpos.mpr hle])]
      rw [hskip]
      obtain ⟨hok, hmono, hall⟩ := ih h (fun x hx => hsub x (mem_cons_of_mem _ hx)) hrest (by
        intro x hx q hq hlq hqx
        rcases mem_cons.mp (hcontig x (mem_cons_of_mem _ hx) q hq hlq hqx) with rfl | hq'
        · exact absurd hle (not_le.mpr hlq)
        · exact hq')
      refine ⟨hok, hmono, fun hf x hx => ?_⟩
      rcases mem_cons.mp hx with rfl | hx
      · exact hle.trans hmono
      · exact hall hf x hx
    · have hlast := not_le.mp hle
      -- the head is the least of the stretch, so nothing lies before it
      have hnext : ∀ q ∈ log.entries, s.last < q.point → ¬ q.point < e.point := by
        intro q hq hlq hqe
        rcases mem_cons.mp (hcontig e mem_cons_self q hq hlq hqe) with rfl | hq'
        · exact lt_irrefl _ hqe
        · exact lt_asymm hqe (hfirst q hq')
      obtain ⟨hok₁, hlast₁⟩ := scanOk_entry requestIds h (hsub e mem_cons_self) hd'
        hlast hnext
      obtain ⟨hok, hmono, hall⟩ := ih hok₁ (fun x hx => hsub x (mem_cons_of_mem _ hx)) hrest (by
        intro x hx q hq hlq hqx
        rw [hlast₁] at hlq
        rcases mem_cons.mp (hcontig x (mem_cons_of_mem _ hx) q hq (hlast.trans hlq) hqx) with
          rfl | hq'
        · exact absurd hlq (lt_irrefl _)
        · exact hq')
      rw [hlast₁] at hmono
      refine ⟨hok, hlast.le.trans hmono, fun hf x hx => ?_⟩
      rcases mem_cons.mp hx with rfl | hx
      · exact hmono
      · exact hall hf x hx

/-- A page after the scan's cursor keeps the scan. -/
lemma scanOk_page (h : ScanOk binding input.include_broadcast log floor s) (n : ℕ) (more : Bool) :
    ScanOk binding input.include_broadcast log floor
      (scanPage binding input requestIds s ⟨log.pageAfter s.cursor n, more⟩) := by
  have hsortedAll : (log.entries.filter (fun e => 0 < comparePoints e.point s.cursor)).Pairwise
      (fun a b => a.point < b.point) := log.sorted.filter _
  have hsub : ∀ e ∈ log.pageAfter s.cursor n, e ∈ log.entries :=
    fun e he => (mem_filter.mp (mem_of_mem_take he)).1
  have hcontig : ∀ e ∈ log.pageAfter s.cursor n, ∀ q ∈ log.entries, s.last < q.point →
      q.point < e.point → q ∈ log.pageAfter s.cursor n := by
    intro e he q hq hlq hqe
    refine mem_take_of_lt hsortedAll he (mem_filter.mpr ⟨hq, ?_⟩) hqe
    cases hc : s.cursor with
    | none => simp [comparePoints]
    | some c =>
      rw [decide_eq_true_eq, comparePoints_pos]
      exact (h.cursor c hc).trans_lt hlq
  obtain ⟨hok, hmono, hall⟩ := scanOk_foldl requestIds h hsub
    (hsortedAll.sublist (take_sublist _ _)) hcontig
  unfold scanPage
  dsimp only
  split
  · exact hok
  · rename_i hd
    have hd' : ((log.pageAfter s.cursor n).foldl (scanEntry binding input requestIds) s).done =
        false := by simpa using hd
    split
    · exact ⟨hok.scan, hok.cursor, hok.reached⟩
    · rename_i tail htail
      split
      · refine ⟨hok.scan, ?_, hok.reached⟩
        intro c hc
        obtain rfl := Option.some.inj hc
        exact hall hd' tail (mem_of_getLast? htail)
      · exact ⟨hok.scan, hok.cursor, hok.reached⟩

end Scan

end BorgClient.Representative
