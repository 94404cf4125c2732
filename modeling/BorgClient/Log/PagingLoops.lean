import BorgClient.Lib.Paging
import BorgClient.Representative.Push

/-!
# The loops that page through a log

Five loops ask a server for one page after another, each from where the last page ended. Only two
of them look whether a page moves the cursor, and those only compare it with the cursor they asked
for (`remote-client.ts`, `representative-core.ts`, `representative-push.ts`).
-/

namespace BorgClient.Log
open List Paging
open Representative (LocalServerCursor LogEntry Uuid RepresentativeError Page ReadText ReadInput
  RepresentativeBinding ScanState scanPage scanEntry Platform Db engineTransaction merge)

/-- Where a request starts; `none` is before every position of the log. -/
abbrev Position := WithBot LocalServerCursor

def position (cursor : Option LocalServerCursor) : Position := cursor

/-! ### Pending wakes -/

/-- A member of the wrong type is absent. -/
structure PendingWakeEntry where
  id : Option String
  drone_id : Option String
  message : Option String
  visibility : Option String
  recipient_drone_ids : List String

structure PendingWakePage where
  entries : List PendingWakeEntry
  cursor : Option LocalServerCursor
  has_more : Bool

def isPendingWakeEntry (droneId : String) (entry : PendingWakeEntry) : Bool :=
  if entry.visibility = some "direct" ∧ droneId ∉ entry.recipient_drone_ids then false
  else
    let isHeartbeatPing := entry.message.any
      (fun message => "[HEARTBEAT-PING]".toList.isPrefixOf message.toList)
    entry.drone_id != some droneId || isHeartbeatPing

def NON_ADVANCING : String := "Local Borg server returned a non-advancing log cursor"

/-- A page of a scan for an entry `found` looks for; the loop ends with the answer or the error. -/
def pendingTurn (found : PendingWakeEntry → Bool) (cursor : Option LocalServerCursor)
    (page : PendingWakePage) : Turn (Option LocalServerCursor) (Except String Bool) :=
  if page.entries.any found then .stop (.ok true)
  else if !page.has_more then .stop (.ok false)
  else if page.cursor = none ∨ page.cursor = cursor then .stop (.error NON_ADVANCING)
  else .goOn page.cursor

def hasPendingWakeActivity (droneId : String) :=
  pendingTurn (isPendingWakeEntry droneId)

def hasPendingWakeEntry (droneId entryId : String) :=
  pendingTurn (fun entry => entry.id == some entryId && isPendingWakeEntry droneId entry)

/-! ### The cursor of an entry or instant -/

structure LogPage where
  entries : List LogEntry
  cursor : Option LocalServerCursor
  has_more : Bool

/-- The page's cursor, and the last position seen that is not later than the instant. -/
structure ResolveState where
  scanCursor : Option LocalServerCursor
  timestampCursor : Option LocalServerCursor

/-- The entries of a page: what ends the scan, or the last position seen. -/
def resolveEntries (isUuid : Bool) (since : String) :
    Option LocalServerCursor → List LogEntry → Option LocalServerCursor ⊕ Option LocalServerCursor
  | timestampCursor, [] => .inr timestampCursor
  | timestampCursor, entry :: rest =>
    if isUuid then
      if entry.id = since then .inl (some entry.point)
      else resolveEntries isUuid since timestampCursor rest
    else if since < entry.created_at then .inl timestampCursor
    else resolveEntries isUuid since (some entry.point) rest

/-- `isUuid`: whether `since` is an entry's id; else it is an instant in its canonical form, which
is checked before the first page. -/
def resolveLocalLogCursor (isUuid : Bool) (since : String) (s : ResolveState) (page : LogPage) :
    Turn ResolveState (Except String (Option LocalServerCursor)) :=
  match resolveEntries isUuid since s.timestampCursor page.entries with
  | .inl result => .stop (.ok result)
  | .inr timestampCursor =>
    if !page.has_more || page.cursor.isNone then
      if isUuid then .stop (.error "Local Borg server log cursor was not found")
      else .stop (.ok timestampCursor)
    else .goOn ⟨page.cursor, timestampCursor⟩

/-! ### The representative's reads -/

/-- The scan of `readRepresentativeReplies`: it ends with the scan's last state. -/
def repliesTurn [ReadText] (binding : RepresentativeBinding) (input : ReadInput)
    (requestIds : List Uuid) (s : ScanState) (page : Page) : Turn ScanState ScanState :=
  let s := scanPage binding input requestIds s page
  if s.done then .stop s else .goOn s

/-- A discovery page with the database it is merged into, what the merge draws and reads, and
whether the tick after it goes through. -/
structure DiscoveryPage where
  entries : List LogEntry
  has_more : Bool
  db : Db
  fresh : Uuid
  now : ℕ
  ticks : Bool

inductive ScanOnceEnd
  | finished
  /-- Wake state was rebuilt: another scan follows. -/
  | rescan
  | thrown

def scanOnce [Platform] (binding : RepresentativeBinding) (epoch : Option Uuid)
    (_cursor : Option LocalServerCursor) (page : DiscoveryPage) :
    Turn (Option LocalServerCursor) ScanOnceEnd :=
  match engineTransaction binding page.fresh
      (merge binding page.now epoch page.entries page.has_more) page.db with
  | .error _ => .stop .thrown
  | .ok (none, _) => .stop .rescan
  | .ok (some _, _) =>
    if !page.ticks then .stop .thrown
    else
      match page.entries.getLast? with
      | none => .stop .finished
      | some tail => if page.has_more then .goOn (some tail.point) else .stop .finished

/-! ### Where the pages lead -/

/-- The starts of the requests that follow from the pages alone: the first, then where each page
says to go on. -/
def positionsOf (start : Position) (next : ℕ → Position) : ℕ → Position
  | 0 => start
  | n + 1 => next n

def lastPoint (entries : List LogEntry) : Option LocalServerCursor :=
  entries.getLast?.map LogEntry.point

/-- The page has nothing the scan looks for, and names a cursor to go on from. -/
def PendingWakePage.GoesOn (found : PendingWakeEntry → Bool) (page : PendingWakePage) : Prop :=
  page.entries.any found = false ∧ page.has_more = true ∧ page.cursor ≠ none

lemma pendingTurn_goOn {found : PendingWakeEntry → Bool} {cursor after : Option LocalServerCursor}
    {page : PendingWakePage} : pendingTurn found cursor page = .goOn after ↔
      (page.GoesOn found ∧ page.cursor ≠ cursor) ∧ after = page.cursor := by
  unfold pendingTurn PendingWakePage.GoesOn
  by_cases hf : page.entries.any found = true
  · simp [hf]
  · by_cases hm : page.has_more = true
    · by_cases hc : page.cursor = none ∨ page.cursor = cursor
      · rw [if_neg hf, if_neg (by simp [hm]), if_pos hc]
        simp
        tauto
      · rw [if_neg hf, if_neg (by simp [hm]), if_neg hc]
        rw [not_or] at hc
        simp [hf, hm, hc.1, hc.2, eq_comm]
    · simp [hf, hm]

/-- No entry of the page ends the scan, and the page names a cursor to go on from. -/
def LogPage.GoesOn (isUuid : Bool) (since : String) (page : LogPage) : Prop :=
  (∀ entry ∈ page.entries,
    if isUuid then entry.id ≠ since else ¬ since < entry.created_at) ∧
  page.has_more = true ∧ page.cursor ≠ none

lemma resolveEntries_inr (isUuid : Bool) (since : String) (entries : List LogEntry)
    (seen : Option LocalServerCursor) :
    (∃ after, resolveEntries isUuid since seen entries = .inr after) ↔
      ∀ entry ∈ entries, if isUuid then entry.id ≠ since else ¬ since < entry.created_at := by
  induction entries generalizing seen with
  | nil => simp [resolveEntries]
  | cons entry rest ih =>
    unfold resolveEntries
    rw [forall_mem_cons]
    cases isUuid with
    | true =>
      by_cases h : entry.id = since
      · simp [h]
      · simpa [h] using ih seen
    | false =>
      by_cases h : since < entry.created_at
      · simp [h]
      · simpa [h] using ih (some entry.point)

lemma resolve_goOn {isUuid : Bool} {since : String} {s : ResolveState} {page : LogPage} :
    (∃ after, resolveLocalLogCursor isUuid since s page = .goOn after) ↔
      page.GoesOn isUuid since := by
  unfold resolveLocalLogCursor LogPage.GoesOn
  rw [← resolveEntries_inr isUuid since page.entries s.timestampCursor]
  cases resolveEntries isUuid since s.timestampCursor page.entries with
  | inl result => simp
  | inr seen =>
    by_cases hm : page.has_more = true
    · cases hc : page.cursor with
      | none => cases isUuid <;> simp [hm]
      | some cursor => simp [hm]
    · cases isUuid <;> simp [hm]

lemma resolve_cursor {isUuid : Bool} {since : String} {s after : ResolveState} {page : LogPage}
    (h : resolveLocalLogCursor isUuid since s page = .goOn after) :
    after.scanCursor = page.cursor := by
  unfold resolveLocalLogCursor at h
  split at h
  · cases h
  · split at h
    · split at h <;> cases h
    · cases h
      rfl

lemma scanPage_goOn [ReadText] {binding : RepresentativeBinding} {input : ReadInput}
    {requestIds : List Uuid} {s : ScanState} {page : Page}
    (h : (scanPage binding input requestIds s page).done = false) :
    (scanPage binding input requestIds s page).cursor = lastPoint page.entries := by
  unfold scanPage at h ⊢
  dsimp only at h ⊢
  split at h
  · rename_i hd
    rw [hd] at h
    cases h
  · rename_i hd
    rw [if_neg hd]
    unfold lastPoint
    split at h
    · cases h
    · rename_i tail ht
      rw [ht]
      split at h
      · rename_i hm
        rw [if_pos hm]
        rfl
      · cases h

/-- The scan's state after the first pages. -/
def scanned [ReadText] (binding : RepresentativeBinding) (input : ReadInput)
    (requestIds : List Uuid) (start : ScanState) (pages : ℕ → Page) : ℕ → ScanState
  | 0 => start
  | n + 1 => scanPage binding input requestIds
      (scanned binding input requestIds start pages n) (pages n)

/-- The page is merged under the epoch the scan started in, the tick goes through, and the page
has an entry to go on from. -/
def DiscoveryPage.GoesOn [Platform] (binding : RepresentativeBinding) (epoch : Option Uuid)
    (page : DiscoveryPage) : Prop :=
  (∃ inserted db, engineTransaction binding page.fresh
    (merge binding page.now epoch page.entries page.has_more) page.db = .ok (some inserted, db)) ∧
  page.ticks = true ∧ page.has_more = true ∧ page.entries ≠ []

lemma scanOnce_goOn [Platform] {binding : RepresentativeBinding} {epoch : Option Uuid}
    {cursor after : Option LocalServerCursor} {page : DiscoveryPage} :
    scanOnce binding epoch cursor page = .goOn after ↔
      page.GoesOn binding epoch ∧ after = lastPoint page.entries := by
  unfold scanOnce DiscoveryPage.GoesOn
  cases engineTransaction binding page.fresh
    (merge binding page.now epoch page.entries page.has_more) page.db with
  | error e => simp
  | ok result =>
    obtain ⟨inserted, db⟩ := result
    cases inserted with
    | none => simp
    | some inserted =>
      dsimp only
      by_cases ht : page.ticks = true
      · rw [if_neg (by simp [ht])]
        unfold lastPoint
        cases hl : page.entries.getLast? with
        | none => simp [getLast?_eq_none_iff.mp hl]
        | some tail =>
          have hne : page.entries ≠ [] := by
            rintro he
            rw [he] at hl
            cases hl
          by_cases hm : page.has_more = true
          · simp [ht, hm, hne, eq_comm]
          · simp [hm]
      · simp [ht]

/-! ### The requests -/

lemma pending_advances_iff (found : PendingWakeEntry → Bool) (start : Option LocalServerCursor)
    (pages : ℕ → PendingWakePage) :
    Advances (pendingTurn found) start pages position ↔
      ∀ n, (∀ k ≤ n, (pages k).GoesOn found ∧
          positionsOf (position start) (fun i => position (pages i).cursor) (k + 1) ≠
            positionsOf (position start) (fun i => position (pages i).cursor) k) →
        positionsOf (position start) (fun i => position (pages i).cursor) n <
          positionsOf (position start) (fun i => position (pages i).cursor) (n + 1) := by
  refine advances_iff_positions
    (fun n c => position c =
      positionsOf (position start) (fun i => position (pages i).cursor) n)
    rfl (fun n c after _ h => ?_) (fun n c h => ?_) (fun n c h => h)
  · rw [(pendingTurn_goOn.mp h).2]
    rfl
  · rw [← h]
    constructor
    · rintro ⟨after, hturn⟩
      exact (pendingTurn_goOn.mp hturn).1
    · exact fun hgoes => ⟨_, pendingTurn_goOn.mpr ⟨hgoes, rfl⟩⟩

/-- For every sequence of pages, each loop's requests are each later than all before exactly when
the pages it goes on from lead forward. The scans for pending wakes stop where a page names the
cursor they asked for; no loop looks whether a page leads back. -/
theorem requests_advance_iff [ReadText] [Platform] :
    (∀ (droneId : String) (start : Option LocalServerCursor) (pages : ℕ → PendingWakePage),
      Advances (hasPendingWakeActivity droneId) start pages position ↔
        ∀ n, (∀ k ≤ n, (pages k).GoesOn (isPendingWakeEntry droneId) ∧
            positionsOf (position start) (fun i => position (pages i).cursor) (k + 1) ≠
              positionsOf (position start) (fun i => position (pages i).cursor) k) →
          positionsOf (position start) (fun i => position (pages i).cursor) n <
            positionsOf (position start) (fun i => position (pages i).cursor) (n + 1)) ∧
    (∀ (droneId entryId : String) (start : Option LocalServerCursor)
      (pages : ℕ → PendingWakePage),
      Advances (hasPendingWakeEntry droneId entryId) start pages position ↔
        ∀ n, (∀ k ≤ n, (pages k).GoesOn
              (fun entry => entry.id == some entryId && isPendingWakeEntry droneId entry) ∧
            positionsOf (position start) (fun i => position (pages i).cursor) (k + 1) ≠
              positionsOf (position start) (fun i => position (pages i).cursor) k) →
          positionsOf (position start) (fun i => position (pages i).cursor) n <
            positionsOf (position start) (fun i => position (pages i).cursor) (n + 1)) ∧
    (∀ (isUuid : Bool) (since : String) (pages : ℕ → LogPage),
      Advances (resolveLocalLogCursor isUuid since) ⟨none, none⟩ pages
          (fun s => position s.scanCursor) ↔
        ∀ n, (∀ k ≤ n, (pages k).GoesOn isUuid since) →
          positionsOf ⊥ (fun i => position (pages i).cursor) n <
            positionsOf ⊥ (fun i => position (pages i).cursor) (n + 1)) ∧
    (∀ (binding : RepresentativeBinding) (input : ReadInput) (requestIds : List Uuid)
      (cursor : Option LocalServerCursor) (floor : LocalServerCursor) (pages : ℕ → Page),
      Advances (repliesTurn binding input requestIds) ⟨[], 0, cursor, floor, false⟩ pages
          (fun s => position s.cursor) ↔
        ∀ n, (∀ k ≤ n, (scanned binding input requestIds ⟨[], 0, cursor, floor, false⟩ pages
            (k + 1)).done = false) →
          positionsOf (position cursor) (fun i => position (lastPoint (pages i).entries)) n <
            positionsOf (position cursor) (fun i => position (lastPoint (pages i).entries)) (n + 1)) ∧
    (∀ (binding : RepresentativeBinding) (epoch : Option Uuid)
      (cursor : Option LocalServerCursor) (pages : ℕ → DiscoveryPage),
      Advances (scanOnce binding epoch) cursor pages position ↔
        ∀ n, (∀ k ≤ n, (pages k).GoesOn binding epoch) →
          positionsOf (position cursor) (fun i => position (lastPoint (pages i).entries)) n <
            positionsOf (position cursor) (fun i => position (lastPoint (pages i).entries)) (n + 1)) := by
  refine ⟨fun droneId start pages => pending_advances_iff _ start pages,
    fun droneId entryId start pages => pending_advances_iff _ start pages,
    fun isUuid since pages => ?_, fun binding input requestIds cursor floor pages => ?_,
    fun binding epoch cursor pages => ?_⟩
  · refine advances_iff_positions
      (fun n s => position s.scanCursor =
        positionsOf ⊥ (fun i => position (pages i).cursor) n)
      rfl (fun n s after _ h => ?_) (fun n s _ => resolve_goOn) (fun n s h => h)
    rw [resolve_cursor h]
    rfl
  · refine advances_iff_positions
      (fun n s => s = scanned binding input requestIds _ pages n ∧ position s.cursor =
        positionsOf (position cursor) (fun i => position (lastPoint (pages i).entries)) n)
      ⟨rfl, rfl⟩ ?_ ?_ (fun n s h => h.2)
    · rintro n s after ⟨hs, -⟩ hturn
      unfold repliesTurn at hturn
      dsimp only at hturn
      split at hturn
      · cases hturn
      · rename_i hdone
        cases hturn
        refine ⟨?_, ?_⟩
        · rw [hs]
          rfl
        · rw [scanPage_goOn (by simpa using hdone)]
          rfl
    · rintro n s ⟨hs, -⟩
      unfold repliesTurn scanned
      rw [← hs]
      dsimp only
      by_cases hd : (scanPage binding input requestIds s (pages n)).done = true <;> simp [hd]
  · refine advances_iff_positions
      (fun n c => position c =
        positionsOf (position cursor) (fun i => position (lastPoint (pages i).entries)) n)
      rfl (fun n c after _ h => ?_) (fun n c _ => ?_) (fun n c h => h)
    · rw [(scanOnce_goOn.mp h).2]
      rfl
    · exact ⟨fun ⟨after, h⟩ => (scanOnce_goOn.mp h).1, fun h => ⟨_, scanOnce_goOn.mpr ⟨h, rfl⟩⟩⟩

/-! ### A cycle of two pages -/

def earlyPoint : LocalServerCursor :=
  ⟨"00000000-0000-4000-8000-000000000001", "2026-01-01T00:00:01.000Z"⟩

def latePoint : LocalServerCursor :=
  ⟨"00000000-0000-4000-8000-000000000002", "2026-01-01T00:00:02.000Z"⟩

/-- A server that names the two positions in turn, always with more to come. -/
def cyclingPages (n : ℕ) : PendingWakePage :=
  ⟨[], some (if n % 2 = 0 then latePoint else earlyPoint), true⟩

/-- The scan for pending wakes never stops, and its third request is earlier than its second. -/
theorem cycling_pages_never_stop :
    (∀ n, (stateAt (hasPendingWakeActivity "d1") none cyclingPages n).isSome) ∧
      ¬ Advances (hasPendingWakeActivity "d1") none cyclingPages position := by
  have hrun : ∀ n, stateAt (hasPendingWakeActivity "d1") none cyclingPages (n + 1) =
      some (some (if n % 2 = 0 then latePoint else earlyPoint)) := by
    intro n
    induction n with
    | zero => rfl
    | succ n ih =>
      refine stateAt_succ.mpr ⟨_, ih, pendingTurn_goOn.mpr ⟨⟨⟨rfl, rfl, by simp [cyclingPages]⟩, ?_⟩,
        rfl⟩⟩
      have hne : latePoint ≠ earlyPoint := by decide
      rcases Nat.mod_two_eq_zero_or_one n with h | h
      · have h1 : (n + 1) % 2 = 1 := by omega
        simpa [cyclingPages, h, h1] using hne.symm
      · have h1 : (n + 1) % 2 = 0 := by omega
        simpa [cyclingPages, h, h1] using hne
  refine ⟨fun n => ?_, fun h => ?_⟩
  · cases n with
    | zero => rfl
    | succ n =>
      rw [hrun n]
      rfl
  · have hlt : position (some latePoint) < position (some earlyPoint) :=
      h 1 2 _ _ (by decide) (hrun 0) (hrun 1)
    have hlt' : latePoint < earlyPoint := WithBot.coe_lt_coe.mp hlt
    rw [Representative.cursor_lt_iff] at hlt'
    revert hlt'
    decide

end BorgClient.Log
