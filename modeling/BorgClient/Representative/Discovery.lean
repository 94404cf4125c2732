import BorgClient.Representative.ReadWindow
import BorgClient.Representative.StartupCohort
import BorgClient.Representative.WakeBatches

/-!
# Discovery

The push engine scans the log page by page into the stored replies, one scan at a time, beside
deliveries, other engine calls and wake state that is damaged and rebuilt.
-/

namespace BorgClient.Representative
open Platform List Tables Runs

/-- `readAfter(cursor, DISCOVERY_PAGE)`: a page of at least one entry if there is one, and whether
the log goes on behind it. -/
def ServerLog.discoveryPage (log : ServerLog) (cursor : Option LocalServerCursor) (size : ℕ) :
    Page :=
  let n := min (max size 1) DISCOVERY_PAGE
  ⟨log.pageAfter cursor n, decide (n < (log.after cursor).length)⟩

/-- What the running scan does next; `next` is where it reads on after the tick, if it does. -/
inductive ScanPhase
  | starting
  | reading (at_ : ScanAt)
  | merging (at_ : ScanAt) (page : Page)
  | ticking (next : Option ScanAt)
deriving DecidableEq, Repr

/-- The store, the server's log, the scan that runs, whether it is to run once more, and what
`randomUUID` has drawn. -/
structure DiscoveryWorld where
  db : Db
  log : ServerLog
  scanning : Option ScanPhase
  rescan : Bool
  drawn : List Uuid

def DiscoveryWorld.start (db : Db) (log : ServerLog) : DiscoveryWorld := ⟨db, log, none, false, []⟩

/-- The server appends; a trigger comes; the scan starts, reads a page, merges it, ticks or fails;
the engine runs another transaction; the host reads and delivers; the stored state is damaged;
the listener dies and is started again. -/
inductive DiscoveryStep
  | append (entry : LogEntry)
  | discover
  | scan (fresh : Uuid)
  | read (size : ℕ)
  | merge (fresh : Uuid) (now : ℕ)
  | tick (fresh : Uuid) (now : ℕ) (batch : Uuid)
  | fail
  | call (fresh : Uuid) (c : EngineCall)
  | widen (window : List LocalServerCursor)
  | deliver (point : LocalServerCursor)
  | damageDocument
  | damageRow (entry_id : Uuid)
  | restart (head : ServerHead)

/-- The id a step holds ready for a discard. -/
def DiscoveryStep.draws : DiscoveryStep → Option Uuid
  | .scan fresh => some fresh
  | .merge fresh _ => some fresh
  | .tick fresh _ _ => some fresh
  | .call fresh _ => some fresh
  | _ => none

/-- `scanOnce` returned: once more if a trigger came meanwhile. -/
def DiscoveryWorld.scanned (w : DiscoveryWorld) : DiscoveryWorld :=
  if w.rescan then { w with scanning := some .starting, rescan := false }
  else { w with scanning := none }

/-- Where a scan reads on after a page, if it does. -/
def nextPage (at_ : ScanAt) (page : Page) : Option ScanAt :=
  if page.has_more then page.entries.getLast?.map (fun tail => ⟨some tail.point, at_.epoch⟩)
  else none

section Steps

variable [Platform] (binding : RepresentativeBinding)

/-- The step of the running scan; a scan whose transaction throws is over. -/
def DiscoveryWorld.scanStep (w : DiscoveryWorld) : DiscoveryStep → ScanPhase → DiscoveryWorld
  | .scan fresh, .starting =>
    match transact w.db (engineTransaction binding fresh scanOnceStart) with
    | (.ok at_, db) => { w with db := db, scanning := some (.reading at_) }
    | (.error _, db) => { w with db := db, scanning := none }
  | .read size, .reading at_ =>
    { w with scanning := some (.merging at_ (w.log.discoveryPage at_.cursor size)) }
  | .merge fresh now, .merging at_ page =>
    match engineCall binding w.db fresh (.merge now at_.epoch page.entries page.has_more) with
    -- the page was read under an older epoch: it is dropped
    | (.merged none, db) => { w with db := db, rescan := true }.scanned
    | (.merged (some _), db) => { w with db := db, scanning := some (.ticking (nextPage at_ page)) }
    | (_, db) => { w with db := db, scanning := none }
  | .tick fresh now batch, .ticking next =>
    match engineCall binding w.db fresh (.tick now batch), next with
    | (.wake _, db), some at_ => { w with db := db, scanning := some (.reading at_) }
    | (.wake _, db), none => { w with db := db }.scanned
    | (_, db), _ => { w with db := db, scanning := none }
  | .fail, _ => { w with scanning := none }
  | _, _ => w

def DiscoveryWorld.act (w : DiscoveryWorld) : DiscoveryStep → DiscoveryWorld
  | .append entry => { w with log := w.log.append entry }
  | .discover =>
    match w.scanning with
    | none => { w with scanning := some .starting, rescan := false }
    | some _ => { w with rescan := true }
  -- only the scan merges
  | .call fresh c => if c.isMerge then w else { w with db := (engineCall binding w.db fresh c).2 }
  | .widen window => { w with db := (transact w.db (widenTransaction binding window)).2 }
  | .deliver point => { w with db := (transact w.db (deliverTransaction binding point)).2 }
  | .damageDocument => { w with db := cohortStep binding w.db .damageDocument }
  | .damageRow entry_id => { w with db := cohortStep binding w.db (.damageRow entry_id) }
  | .restart head =>
    { w with
      scanning := none
      rescan := false
      db := (transact (transact w.db (ensureRow binding)).2 (resolveHead binding head)).2 }
  | l =>
    match w.scanning with
    | none => w
    | some phase => w.scanStep binding l phase

/-- A step; `randomUUID` draws no id twice. -/
def discoveryStep (w : DiscoveryWorld) (l : DiscoveryStep) : DiscoveryWorld :=
  if l.draws.any (w.drawn.contains ·) then w
  else { w with drawn := l.draws.toList ++ w.drawn }.act binding l

end Steps

/-! ### What the stored rows say about the log -/

/-- A frontier at or behind which `p` lies. -/
def Reached (frontier : Option LocalServerCursor) (p : LocalServerCursor) : Prop :=
  ∃ f, frontier = some f ∧ p ≤ f

lemma reached_later {a b : Option LocalServerCursor} {p : LocalServerCursor} :
    Reached (later a b) p ↔ Reached a p ∨ Reached b p := by
  cases a with
  | none => simp [Reached]
  | some x =>
    cases b with
    | none => simp [Reached]
    | some y => simp [Reached, later_some]

/-- The stored rows are the direct replies of the log after the floor, up to the frontier. -/
def WakeState.Exact (binding : RepresentativeBinding) (log : ServerLog) (s : WakeState) : Prop :=
  ∀ d, s.delivery = some d → ∀ p, (∃ row ∈ s.rows, row.point = p) ↔
    p ∈ wantedPoints binding false log ∧ d.floor < p ∧ Reached s.document.frontier p

/-- A scan under the stored epoch has nothing undiscovered before its cursor. -/
def WakeState.Behind (s : WakeState) (at_ : ScanAt) : Prop :=
  s.document.scan_epoch = at_.epoch → ∀ d c, s.delivery = some d → at_.cursor = some c →
    c ≤ d.floor ∨ Reached s.document.frontier c

/-- The frontier is delivered, or no further than an entry of the log. -/
def WakeState.Known (log : ServerLog) (s : WakeState) : Prop :=
  ∀ d f, s.delivery = some d → s.document.frontier = some f →
    f ≤ d.floor ∨ ∃ e ∈ log.entries, f ≤ e.point

structure WakeState.Discovered (binding : RepresentativeBinding) (log : ServerLog)
    (drawn : List Uuid) (scan : Option ScanAt) (s : WakeState) : Prop where
  resolved : ∃ d, s.delivery = some d ∧ d.startKind ≠ .headPending
  exact_ : s.Exact binding log
  known : s.Known log
  epoch : ∀ id, s.document.scan_epoch = some id → id ∈ drawn
  behind : ∀ at_, scan = some at_ → s.Behind at_

/-- A page as the log had it when it was read: entries of the log in order, with nothing left out
between the cursor and any of them. -/
structure PageOf (log : ServerLog) (cursor : Option LocalServerCursor) (entries : List LogEntry) :
    Prop where
  mem : ∀ e ∈ entries, e ∈ log.entries
  filled : ∀ q ∈ log.entries, 0 < comparePoints q.point cursor →
    ∀ e ∈ entries, q.point ≤ e.point → q ∈ entries
  sorted : entries.Pairwise (fun a b => a.point < b.point)

lemma pageOf_discoveryPage (log : ServerLog) (cursor : Option LocalServerCursor) (size : ℕ) :
    PageOf log cursor (log.discoveryPage cursor size).entries where
  mem := fun _ he => (mem_filter.mp (mem_of_mem_take he)).1
  filled := by
    intro q hq hafter e he hle
    rcases lt_or_eq_of_le hle with hlt | heq
    · have hsorted : (log.entries.filter (fun e => 0 < comparePoints e.point cursor)).Pairwise
          (fun a b => a.point < b.point) := log.sorted.filter _
      exact mem_take_of_lt hsorted he (mem_filter.mpr ⟨hq, by simpa using hafter⟩) hlt
    · rwa [log.eq_of_point hq (mem_filter.mp (mem_of_mem_take he)).1 heq]
  sorted := (log.sorted.filter _).sublist (take_sublist _ _)

/-- An entry appended later is behind every entry of the page. -/
lemma PageOf.append {log : ServerLog} {cursor : Option LocalServerCursor} {entries : List LogEntry}
    (h : PageOf log cursor entries) (entry : LogEntry) :
    PageOf (log.append entry) cursor entries where
  mem := fun e he => ServerLog.mem_append (h.mem e he)
  filled := by
    intro q hq hafter e he hle
    rcases log.append_cases entry with hsame | ⟨hlater, happ⟩
    · rw [hsame] at hq
      exact h.filled q hq hafter e he hle
    · rw [happ] at hq
      rcases List.mem_append.mp hq with hq | hq
      · exact h.filled q hq hafter e he hle
      · rw [mem_singleton.mp hq] at hle
        exact absurd hle (not_le.mpr (hlater e (h.mem e he)).1)
  sorted := h.sorted

lemma PageOf.le_last {log : ServerLog} {cursor : Option LocalServerCursor} {entries : List LogEntry}
    (h : PageOf log cursor entries) {tail e : LogEntry} (htail : entries.getLast? = some tail)
    (he : e ∈ entries) : e.point ≤ tail.point := by
  obtain ⟨front, rfl⟩ := getLast?_eq_some_iff.mp htail
  rcases List.mem_append.mp he with he | he
  · exact ((pairwise_append.mp h.sorted).2.2 e he tail mem_cons_self).le
  · rw [mem_singleton.mp he]

/-! ### A page is merged -/

lemma deliveredRow_iff {c : LocalServerCursor} {row : WakeRow} :
    deliveredRow (some c) row = true ↔ row.point ≤ c := by
  unfold deliveredRow
  rw [← not_lt, cursor_lt_iff]
  simp only [Option.map_some, Option.getD_some, Bool.or_eq_true, Bool.and_eq_true,
    decide_eq_true_eq, beq_iff_eq, not_or, not_and, not_lt]
  constructor
  · rintro (hlt | ⟨heq, hid⟩)
    · exact ⟨hlt.le, fun heq => absurd heq (ne_of_gt hlt)⟩
    · exact ⟨heq.le, fun _ => hid⟩
  · rintro ⟨hle, hid⟩
    rcases lt_or_eq_of_le hle with hlt | heq
    · exact Or.inl hlt
    · exact Or.inr ⟨heq, hid heq.symm⟩

section Fold

variable {binding : RepresentativeBinding} {floor : LocalServerCursor} {now : ℕ}

/-- The rows after a page are the old ones and one for each direct entry after the floor. -/
lemma rows_inserted (entries : List LogEntry) (acc : Table WakeRow.entry_id × ℕ) :
    (∀ row ∈ acc.1, row ∈ (entries.foldl (insertReply binding floor now) acc).1) ∧
    (∀ row ∈ (entries.foldl (insertReply binding floor now) acc).1, row ∈ acc.1 ∨
      ∃ e ∈ entries, isAddressedCoordinatorEntry binding e = some .direct ∧ row.point = e.point) ∧
    (∀ e ∈ entries, isAddressedCoordinatorEntry binding e = some .direct → floor < e.point →
      ∃ row ∈ (entries.foldl (insertReply binding floor now) acc).1, row.entry_id = e.id) := by
  induction entries generalizing acc with
  | nil => exact ⟨fun _ hrow => hrow, fun _ hrow => Or.inl hrow, fun e he => absurd he not_mem_nil⟩
  | cons entry rest ih =>
    obtain ⟨hkeep, hnew, hall⟩ := ih (insertReply binding floor now acc entry)
    have hstep : (∀ row ∈ acc.1, row ∈ (insertReply binding floor now acc entry).1) ∧
        (∀ row ∈ (insertReply binding floor now acc entry).1, row ∈ acc.1 ∨
          isAddressedCoordinatorEntry binding entry = some .direct ∧ row.point = entry.point) ∧
        (isAddressedCoordinatorEntry binding entry = some .direct → floor < entry.point →
          ∃ row ∈ (insertReply binding floor now acc entry).1, row.entry_id = entry.id) := by
      unfold insertReply
      split
      · rename_i hother
        exact ⟨fun _ hrow => hrow, fun _ hrow => Or.inl hrow, fun hd => absurd hd hother⟩
      · rename_i hdirect
        split
        · rename_i hle
          rw [comparePoints_nonpos] at hle
          refine ⟨fun _ hrow => hrow, fun _ hrow => Or.inl hrow, fun _ hlt => ?_⟩
          exact absurd hle (not_le.mpr hlt)
        · refine ⟨fun _ hrow => Table.mem_insertOrIgnore_of_mem hrow, fun row hrow => ?_,
            fun _ _ => ?_⟩
          · rcases Table.mem_of_mem_insertOrIgnore hrow with hold | rfl
            · exact Or.inl hold
            · exact Or.inr ⟨not_not.mp hdirect, rfl⟩
          · exact Table.exists_mem_insertOrIgnore _ _
    refine ⟨fun row hrow => hkeep row (hstep.1 row hrow), fun row hrow => ?_, fun e he hd hlt => ?_⟩
    · rcases hnew row hrow with hmid | ⟨e, he, hd, hp⟩
      · rcases hstep.2.1 row hmid with hold | ⟨hd, hp⟩
        · exact Or.inl hold
        · exact Or.inr ⟨entry, mem_cons_self, hd, hp⟩
      · exact Or.inr ⟨e, mem_cons_of_mem _ he, hd, hp⟩
    · rcases mem_cons.mp he with rfl | he
      · obtain ⟨row, hrow, hid⟩ := hstep.2.2 hd hlt
        exact ⟨row, hkeep row hrow, hid⟩
      · exact hall e he hd hlt

end Fold

/-- The frontier moves forward to the last entry of the page, and the epoch stays. -/
lemma mergedDocument_frontier (doc : WakeDocument) (now scanned inserted : ℕ)
    (tail : Option LocalServerCursor) (more anyRow : Bool) :
    (mergedDocument doc now scanned inserted tail more anyRow).frontier = later doc.frontier tail ∧
      (mergedDocument doc now scanned inserted tail more anyRow).scan_epoch = doc.scan_epoch := by
  unfold mergedDocument
  dsimp only
  split
  · exact ⟨rfl, rfl⟩
  · split <;> exact ⟨rfl, rfl⟩

lemma mem_directPoints {binding : RepresentativeBinding} {log : ServerLog} {p : LocalServerCursor} :
    p ∈ wantedPoints binding false log ↔ ∃ e ∈ log.entries,
      isAddressedCoordinatorEntry binding e = some .direct ∧ e.point = p := by
  rw [mem_wantedPoints]
  have hwanted : ∀ e, (wanted binding false e).isSome = true ↔
      isAddressedCoordinatorEntry binding e = some .direct := by
    intro e
    unfold wanted
    cases isAddressedCoordinatorEntry binding e with
    | none => simp
    | some addressed => cases addressed <;> simp
  simp only [hwanted]

namespace WakeState

variable {binding : RepresentativeBinding} {log : ServerLog} {s : WakeState} {at_ : ScanAt}
  {d : DeliveryState} {entries : List LogEntry} {now : ℕ}

/-- A page of a scan under the stored epoch keeps the rows exact. -/
lemma Exact.merged (h : s.Exact binding log) (hd : s.delivery = some d)
    (hpage : PageOf log at_.cursor entries) (hbehind : s.Behind at_)
    (hepoch : s.document.scan_epoch = at_.epoch) (more : Bool) :
    (s.merged binding d.floor now entries more).Exact binding log := by
  intro d' hd' p
  obtain rfl : d = d' := Option.some.inj (hd.symm.trans hd')
  obtain ⟨hkeep, hnew, hall⟩ := @rows_inserted binding d.floor now entries (s.rows, 0)
  have hfrontier : (s.merged binding d.floor now entries more).document.frontier =
      later s.document.frontier (entries.getLast?.map (·.point)) :=
    (mergedDocument_frontier ..).1
  have hreached : Reached (entries.getLast?.map (·.point)) p ↔
      ∃ tail, entries.getLast? = some tail ∧ p ≤ tail.point := by
    constructor
    · rintro ⟨f, hf, hle⟩
      obtain ⟨tail, htail, rfl⟩ := Option.map_eq_some_iff.mp hf
      exact ⟨tail, htail, hle⟩
    · rintro ⟨tail, htail, hle⟩
      exact ⟨tail.point, by rw [htail]; rfl, hle⟩
  rw [hfrontier, reached_later, hreached]
  have hrows : ∀ row, row ∈ (s.merged binding d.floor now entries more).rows ↔
      row ∈ (entries.foldl (insertReply binding d.floor now) (s.rows, 0)).1 ∧
        d.floor < row.point := by
    intro row
    refine Table.mem_delete.trans (and_congr_right (fun _ => ?_))
    rw [← not_le, ← deliveredRow_iff, Bool.not_eq_true]
  constructor
  · rintro ⟨row, hrow, rfl⟩
    obtain ⟨hmem, hafter⟩ := (hrows row).mp hrow
    rcases hnew row hmem with hold | ⟨e, he, hdirect, hpoint⟩
    · obtain ⟨hw, _, hr⟩ := (h d hd row.point).mp ⟨row, hold, rfl⟩
      exact ⟨hw, hafter, Or.inl hr⟩
    · refine ⟨mem_directPoints.mpr ⟨e, hpage.mem e he, hdirect, hpoint.symm⟩, hafter, Or.inr ?_⟩
      obtain ⟨tail, htail⟩ := Option.ne_none_iff_exists'.mp
        (fun hnone => ne_nil_of_mem he (getLast?_eq_none_iff.mp hnone))
      exact ⟨tail, htail, hpoint ▸ hpage.le_last htail he⟩
  · rintro ⟨hw, hafter, hreach⟩
    have hstored : Reached s.document.frontier p →
        ∃ row ∈ (s.merged binding d.floor now entries more).rows, row.point = p := by
      intro hr
      obtain ⟨row, hrow, rfl⟩ := (h d hd p).mpr ⟨hw, hafter, hr⟩
      exact ⟨row, (hrows row).mpr ⟨hkeep row hrow, hafter⟩, rfl⟩
    rcases hreach with hr | ⟨tail, htail, hle⟩
    · exact hstored hr
    · obtain ⟨e, he, hdirect, rfl⟩ := mem_directPoints.mp hw
      by_cases hcursor : 0 < comparePoints e.point at_.cursor
      · -- the page has the entry
        have hin := hpage.filled e he hcursor tail (mem_of_getLast? htail) hle
        obtain ⟨row, hrow, hid⟩ := hall e hin hdirect hafter
        have hpoint : row.point = e.point := by
          rcases hnew row hrow with hold | ⟨e', he', _, hp⟩
          · obtain ⟨hw', _, _⟩ := (h d hd row.point).mp ⟨row, hold, rfl⟩
            obtain ⟨e', he', _, hp⟩ := mem_directPoints.mp hw'
            have hsame : e'.id = e.id := (congrArg LocalServerCursor.id hp).trans hid
            rw [← hp, log.eq_of_id he' he hsame]
          · have hsame : e'.id = e.id := (congrArg LocalServerCursor.id hp).symm.trans hid
            rw [hp, log.eq_of_id (hpage.mem e' he') he hsame]
        exact ⟨row, (hrows row).mpr ⟨hrow, hpoint ▸ hafter⟩, hpoint⟩
      · -- before the cursor everything is discovered
        cases hc : at_.cursor with
        | none => simp [hc, comparePoints] at hcursor
        | some c =>
          rw [hc, comparePoints_pos, not_lt] at hcursor
          rcases hbehind hepoch d c hd hc with hfloor | ⟨f, hf, hcf⟩
          · exact absurd (hcursor.trans hfloor) (not_le.mpr hafter)
          · exact hstored ⟨f, hf, hcursor.trans hcf⟩

lemma Known.merged (h : s.Known log) (hpage : PageOf log at_.cursor entries) (more : Bool)
    (floor : LocalServerCursor) : (s.merged binding floor now entries more).Known log := by
  intro d f hd hf
  rw [show (s.merged binding floor now entries more).document.frontier =
    later s.document.frontier (entries.getLast?.map (·.point)) from
      (mergedDocument_frontier ..).1] at hf
  have hreach := (reached_later (p := f)).mp ⟨f, hf, le_rfl⟩
  rcases hreach with ⟨f', hf', hle⟩ | ⟨f', hf', hle⟩
  · rcases h d f' hd hf' with hfloor | ⟨e, he, hlast⟩
    · exact Or.inl (hle.trans hfloor)
    · exact Or.inr ⟨e, he, hle.trans hlast⟩
  · obtain ⟨tail, htail, rfl⟩ := Option.map_eq_some_iff.mp hf'
    exact Or.inr ⟨tail, hpage.mem tail (mem_of_getLast? htail), hle⟩

/-- After the page nothing is undiscovered before the next one. -/
lemma behind_nextPage {page : Page} (more : Bool) {next : ScanAt}
    (hnext : nextPage at_ page = some next) (floor : LocalServerCursor) :
    (s.merged binding floor now page.entries more).Behind next := by
  intro _ d c _ hc
  unfold nextPage at hnext
  split at hnext
  · obtain ⟨tail, htail, rfl⟩ := Option.map_eq_some_iff.mp hnext
    obtain rfl : tail.point = c := Option.some.inj hc
    right
    rw [show (s.merged binding floor now page.entries more).document.frontier =
      later s.document.frontier (page.entries.getLast?.map (·.point)) from
        (mergedDocument_frontier ..).1, reached_later]
    exact Or.inr ⟨tail.point, by rw [htail]; rfl, le_rfl⟩
  · cases hnext

end WakeState

/-! ### The calls beside the scan -/

lemma scanStart_resolved {d : DeliveryState} (h : d.startKind ≠ .headPending) :
    ∃ cursor, scanStart d = .ok (cursor, d.floor) ∧ ∀ c, cursor = some c → c ≤ d.floor := by
  have hok : ∃ start, scanStart d = .ok start := by
    unfold scanStart
    rw [if_neg h]
    split <;> exact ⟨_, rfl⟩
  obtain ⟨⟨cursor, floor⟩, hstart⟩ := hok
  obtain ⟨_, rfl, hle⟩ := scanStart_ok hstart
  exact ⟨cursor, hstart, hle⟩

namespace WakeState

variable {binding : RepresentativeBinding} {log : ServerLog} {drawn : List Uuid}
  {scan : Option ScanAt} {s s' : WakeState}

/-- Between two states neither the position and epoch of discovery changed nor which replies are
stored. -/
structure SameFound (s s' : WakeState) : Prop where
  delivery : s'.delivery = s.delivery
  frontier : s'.document.frontier = s.document.frontier
  epoch : s'.document.scan_epoch = s.document.scan_epoch
  rows : ∀ p, (∃ row ∈ s'.rows, row.point = p) ↔ ∃ row ∈ s.rows, row.point = p

lemma SameFound.refl (s : WakeState) : SameFound s s := ⟨rfl, rfl, rfl, fun _ => Iff.rfl⟩

lemma SameFound.trans {s'' : WakeState} (h : SameFound s s') (h' : SameFound s' s'') :
    SameFound s s'' :=
  ⟨h'.delivery.trans h.delivery, h'.frontier.trans h.frontier, h'.epoch.trans h.epoch,
    fun p => (h'.rows p).trans (h.rows p)⟩

/-- A statement that keeps the position of every row. -/
lemma points_update {rows : Table WakeRow.entry_id} {f : WakeRow → WakeRow}
    (hpoint : ∀ row, (f row).point = row.point) (p : LocalServerCursor) :
    (∃ row ∈ rows.update f (fun row => congrArg LocalServerCursor.id (hpoint row)), row.point = p) ↔
      ∃ row ∈ rows, row.point = p := by
  constructor
  · rintro ⟨row, hrow, rfl⟩
    obtain ⟨old, hold, rfl⟩ := Table.mem_update.mp hrow
    exact ⟨old, hold, (hpoint old).symm⟩
  · rintro ⟨row, hrow, rfl⟩
    exact ⟨f row, Table.mem_update.mpr ⟨row, hrow, rfl⟩, hpoint row⟩

lemma sameFound_clamped (now : ℕ) (s : WakeState) : SameFound s (s.clamped now) where
  delivery := rfl
  frontier := by
    unfold clamped expireOutstanding clampDocument
    dsimp only
    split <;> rfl
  epoch := by
    unfold clamped expireOutstanding clampDocument
    dsimp only
    split <;> rfl
  rows := points_update
    (f := fun row => { row with next_at := min row.next_at (now + MAX_FUTURE_MS) }) (fun _ => rfl)

lemma sameFound_tick (now : ℕ) (batch : Uuid) (s : WakeState) :
    SameFound s (s.tick now batch).2 := by
  have hclamped := sameFound_clamped now s
  unfold tick
  dsimp only
  split
  · exact hclamped
  · refine hclamped.trans ⟨rfl, rfl, rfl, points_update (fun row => ?_)⟩
    split <;> rfl

lemma sameFound_ack (now : ℕ) (wake_id : Uuid) (accepted : Bool) (s : WakeState) :
    SameFound s (s.ack now wake_id accepted).2 := by
  unfold ack
  split
  · exact .refl s
  · split
    · exact ⟨rfl, rfl, rfl, fun _ => Iff.rfl⟩
    · split
      · exact .refl s
      · split
        · exact ⟨rfl, rfl, rfl, fun _ => Iff.rfl⟩
        · refine ⟨rfl, rfl, rfl, points_update (fun row => ?_)⟩
          split <;> rfl

/-- Only a merge discovers. -/
lemma sameFound_call [Platform] {c : EngineCall} (hc : c.isMerge = false) (s : WakeState) :
    SameFound s (s.call binding c).2 := by
  cases c with
  | tick now batch => exact sameFound_tick now batch s
  | ack now line =>
    unfold call
    dsimp only
    split
    · exact .refl s
    · exact sameFound_ack now _ _ s
  | merge now epoch entries more => cases hc
  | captureStart => exact .refl s
  | capturePersist epoch count =>
    show SameFound s (s.capturePersist epoch count).2
    unfold capturePersist
    split
    · exact .refl s
    · split
      · exact .refl s
      · exact ⟨rfl, rfl, rfl, fun _ => Iff.rfl⟩

lemma Behind.same {at_ : ScanAt} (h : s.Behind at_) (hs : SameFound s s') : s'.Behind at_ := by
  intro hepoch d c hd hc
  rw [hs.epoch] at hepoch
  rw [hs.delivery] at hd
  rw [hs.frontier]
  exact h hepoch d c hd hc

namespace Discovered

lemma same (h : s.Discovered binding log drawn scan) (hs : SameFound s s') :
    s'.Discovered binding log drawn scan where
  resolved := hs.delivery ▸ h.resolved
  exact_ := by
    intro d hd p
    rw [hs.delivery] at hd
    rw [hs.rows, hs.frontier]
    exact h.exact_ d hd p
  known := by
    intro d f hd hf
    exact h.known d f (hs.delivery ▸ hd) (hs.frontier ▸ hf)
  epoch := by
    rw [hs.epoch]
    exact h.epoch
  behind := fun at_ hat => (h.behind at_ hat).same hs

lemma drew (h : s.Discovered binding log drawn scan) {drawn' : List Uuid}
    (hsub : ∀ id ∈ drawn, id ∈ drawn') : s.Discovered binding log drawn' scan :=
  ⟨h.resolved, h.exact_, h.known, fun id hid => hsub id (h.epoch id hid), h.behind⟩

lemma of_scan (h : s.Discovered binding log drawn scan) {scan' : Option ScanAt}
    (hscan : ∀ at_, scan' = some at_ → s.Behind at_) : s.Discovered binding log drawn scan' :=
  ⟨h.resolved, h.exact_, h.known, h.epoch, hscan⟩

/-- A new entry is behind the frontier. -/
lemma append (h : s.Discovered binding log drawn scan) (entry : LogEntry) :
    s.Discovered binding (log.append entry) drawn scan where
  resolved := h.resolved
  exact_ := by
    intro d hd p
    obtain ⟨hsub, hlater⟩ := wantedPoints_append binding false log entry
    rw [h.exact_ d hd p]
    refine ⟨fun hp => ⟨hsub hp.1, hp.2⟩, fun hp => ⟨?_, hp.2⟩⟩
    obtain ⟨hw, hfloor, f, hf, hle⟩ := hp
    by_contra hnot
    rcases h.known d f hd hf with hback | ⟨e, he, hlast⟩
    · exact absurd (hle.trans hback) (not_le.mpr hfloor)
    · exact absurd (hle.trans hlast) (not_le.mpr (hlater p hw hnot e he))
  known := by
    intro d f hd hf
    refine (h.known d f hd hf).imp_right (fun hlast => ?_)
    obtain ⟨e, he, hle⟩ := hlast
    exact ⟨e, ServerLog.mem_append he, hle⟩
  epoch := h.epoch
  behind := h.behind

/-- The floor moves forward, and the rows it has reached are deleted. -/
lemma written (h : s.Discovered binding log drawn scan) {d next : DeliveryState}
    (hd : s.delivery = some d) (hstart : next.start = d.start)
    (hkind : next.startKind = d.startKind) (hfloor : d.floor ≤ next.floor)
    {returned : List LocalServerCursor} :
    ({ s with
      delivery := some { next with returned := returned }
      rows := s.rows.delete (deliveredRow next.checkpoint) } : WakeState).Discovered
        binding log drawn scan where
  resolved := by
    obtain ⟨d', hd', hresolved⟩ := h.resolved
    obtain rfl : d = d' := Option.some.inj (hd.symm.trans hd')
    refine ⟨_, rfl, ?_⟩
    show next.startKind ≠ _
    rwa [hkind]
  exact_ := by
    intro d' hd' p
    obtain rfl := Option.some.inj hd'
    show _ ↔ _ ∧ next.floor < p ∧ _
    constructor
    · rintro ⟨row, hrow, rfl⟩
      obtain ⟨hrow, hdel⟩ := Table.mem_delete.mp hrow
      obtain ⟨hw, hafter, hr⟩ := (h.exact_ d hd row.point).mp ⟨row, hrow, rfl⟩
      refine ⟨hw, ?_, hr⟩
      have hlow : next.start < row.point := hstart ▸ (start_le_floor d).trans_lt hafter
      cases hc : next.checkpoint with
      | none => rwa [floor_of_none hc]
      | some c =>
        rw [floor_of_some hc, max_lt_iff]
        refine ⟨hlow, ?_⟩
        rw [hc] at hdel
        rw [← not_le, ← deliveredRow_iff, hdel]
        exact Bool.false_ne_true
    · rintro ⟨hw, hafter, hr⟩
      obtain ⟨row, hrow, rfl⟩ := (h.exact_ d hd p).mpr ⟨hw, hfloor.trans_lt hafter, hr⟩
      refine ⟨row, Table.mem_delete.mpr ⟨hrow, ?_⟩, rfl⟩
      rw [← Bool.not_eq_true]
      exact fun hdel => absurd (point_le_of_delivered hdel) (not_le.mpr hafter)
  known := by
    intro d' f hd' hf
    obtain rfl := Option.some.inj hd'
    exact (h.known d f hd hf).imp_left (fun hle => hle.trans hfloor)
  epoch := h.epoch
  behind := by
    intro at_ hat hepoch d' c hd' hc
    obtain rfl := Option.some.inj hd'
    exact (h.behind at_ hat hepoch d c hd hc).imp_left (fun hle => hle.trans hfloor)

/-- A page read under another epoch is dropped; any other is discovered. -/
lemma merge {at_ : ScanAt} (h : s.Discovered binding log drawn (some at_)) {page : Page}
    (hpage : PageOf log at_.cursor page.entries) (now : ℕ) :
    s.merge binding now at_.epoch page.entries page.has_more = (.ok none, s) ∨
    ∃ d n, s.delivery = some d ∧ s.document.scan_epoch = at_.epoch ∧
      s.merge binding now at_.epoch page.entries page.has_more =
        (.ok (some n), s.merged binding d.floor now page.entries page.has_more) ∧
      (s.merged binding d.floor now page.entries page.has_more).Discovered binding log drawn
        (nextPage at_ page) := by
  obtain ⟨d, hd, hkind⟩ := h.resolved
  obtain ⟨cursor, hstart, _⟩ := scanStart_resolved hkind
  unfold WakeState.merge
  rw [hd]
  dsimp only
  by_cases hepoch : s.document.scan_epoch ≠ at_.epoch
  · rw [if_pos hepoch]
    exact Or.inl rfl
  · rw [if_neg hepoch, hstart]
    have hsame := not_not.mp hepoch
    refine Or.inr ⟨d, _, rfl, hsame, rfl, h.resolved, ?_, ?_, ?_, ?_⟩
    · exact h.exact_.merged hd hpage (h.behind at_ rfl) hsame page.has_more
    · exact h.known.merged hpage page.has_more d.floor
    · rw [show (s.merged binding d.floor now page.entries page.has_more).document.scan_epoch =
        s.document.scan_epoch from (mergedDocument_frontier ..).2]
      exact h.epoch
    · exact fun next hnext => WakeState.behind_nextPage page.has_more hnext d.floor

end Discovered

end WakeState

end BorgClient.Representative
