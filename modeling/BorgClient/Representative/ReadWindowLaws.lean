import BorgClient.Representative.DeliveryLaws
import BorgClient.Representative.ReadWindow

/-!
# What reads return

Every read returns the longest window its text has room for, and reads with no deliver between
them return beginnings of one sequence of replies.
-/

namespace BorgClient.Representative
open Platform List Tables Runs Utf8

/-! ### The text of a window -/

section Text

variable [Platform] [QuotedUuids] {binding : RepresentativeBinding} {input : ReadInput}
  {state : DeliveryState} {requestIds : List Uuid} {entries : List LogEntry}

attribute [local instance] jsonText

lemma grows_jsonText (binding : RepresentativeBinding) (input : ReadInput) (state : DeliveryState)
    (requestIds : List Uuid) (hs : entries.Pairwise (fun a b => a.point < b.point)) :
    Grows binding input state requestIds entries := by
  intro n hn
  have hlt : n < (repliesOf binding input requestIds entries).length := by
    rwa [repliesOf_length]
  refine byteLength_serialize_mono (take_succ_eq_append_getElem hlt) rfl ?_
    (ignoredBefore_mono hs n) rfl rfl
  unfold prefixResult
  simp only [decide_eq_true_eq]
  omega

/-- A window's text keeps within its bound, where an empty one has the texts it should have. -/
lemma WindowExact.byteLength_le {final : ReadResult}
    (h : WindowExact binding input state requestIds entries final)
    (hshort : final.replies = [] → ShortTexts final) :
    byteLength (serializeRepresentativeResult final) ≤
      max input.max_bytes REPRESENTATIVE_ENVELOPE_FLOOR := by
  by_cases hnil : final.replies = []
  · have hdelivery : final.delivery = REPRESENTATIVE_DELIVERY_NOTE := by
      rcases h.replies with ⟨_, _, _, rfl⟩ | ⟨_, _, rfl | rfl⟩
      · rfl
      · rfl
      · unfold reduceDocuments
        split <;> rfl
    exact (byteLength_serialize_nil (hshort hnil) hnil hdelivery).trans (le_max_right _ _)
  · exact h.bound hnil

end Text

/-! ### What a step leaves alone -/

section Frame

variable {w : DeliveryWorld} {l : DeliveryStep} {i k : ℕ}

/-- The call a step belongs to. -/
def DeliveryStep.call : DeliveryStep → Option ℕ
  | .readStart i _ => some i
  | .readPage i _ _ => some i
  | .readFinish i => some i
  | _ => none

lemma setRead_of_ne (h : i ≠ k) (w : DeliveryWorld) (call : ReadCall) :
    (w.setRead i call).reads k = w.reads k :=
  Function.update_of_ne h.symm _ _

variable [Platform] [ReadText]

/-- A step of a call changes that call, and the database only by a widening. -/
lemma deliveryStep_call (binding : RepresentativeBinding) (w : DeliveryWorld)
    (hcall : l.call = some i) :
    deliveryStep binding w l = w ∨ (∃ call, deliveryStep binding w l = w.setRead i call) ∨
    ∃ db windows window call,
      widenReadWindow w.db (bindingFingerprint binding) window = .ok db ∧
      deliveryStep binding w l =
        ({ w with db := db, windows := windows } : DeliveryWorld).setRead i call := by
  cases l with
  | append entry => cases hcall
  | ensureRow => cases hcall
  | resolveHead pages => cases hcall
  | deliver through => cases hcall
  | readStart i' raw =>
    obtain rfl : i' = i := Option.some.inj hcall
    unfold deliveryStep readStartStep
    dsimp only
    split
    · exact Or.inl rfl
    · right
      left
      split
      · exact ⟨_, rfl⟩
      · split
        · exact ⟨_, rfl⟩
        · split <;> exact ⟨_, rfl⟩
  | readPage i' n has_more =>
    obtain rfl : i' = i := Option.some.inj hcall
    unfold deliveryStep
    dsimp only
    split
    · split
      · exact Or.inl rfl
      · exact Or.inr (Or.inl ⟨_, rfl⟩)
    · exact Or.inl rfl
  | readFinish i' =>
    obtain rfl : i' = i := Option.some.inj hcall
    unfold deliveryStep
    dsimp only
    split
    · split
      · right
        unfold readFinishStep
        split
        · exact Or.inl ⟨_, rfl⟩
        · split
          · rename_i db heq
            obtain rfl : w.db = db := by
              rw [← transact_error (congrArg Prod.fst heq), heq]
            exact Or.inl ⟨_, rfl⟩
          · rename_i db heq
            exact Or.inr ⟨db, _, _, _, widenTransaction_ok heq, rfl⟩
      · exact Or.inl rfl
    · exact Or.inl rfl

lemma deliveryStep_reads (binding : RepresentativeBinding) (w : DeliveryWorld)
    (h : l.call ≠ some k) : (deliveryStep binding w l).reads k = w.reads k := by
  cases hcall : l.call with
  | none => cases l <;> first | rfl | cases hcall
  | some i =>
    have hne : i ≠ k := fun hik => h (hcall.trans (congrArg some hik))
    rcases deliveryStep_call binding w hcall with heq | ⟨call, heq⟩ | ⟨db, windows, _, call, _, heq⟩
    · rw [heq]
    · rw [heq]
      exact setRead_of_ne hne w call
    · rw [heq]
      exact setRead_of_ne hne _ call

/-- The log only grows by appends. -/
lemma deliveryStep_log (binding : RepresentativeBinding) (w : DeliveryWorld) (l : DeliveryStep) :
    (deliveryStep binding w l).log = w.log ∨
      ∃ entry, (deliveryStep binding w l).log = w.log.append entry := by
  cases hcall : l.call with
  | none =>
    cases l with
    | append entry => exact Or.inr ⟨entry, rfl⟩
    | ensureRow => exact Or.inl rfl
    | resolveHead pages => exact Or.inl rfl
    | deliver through => exact Or.inl rfl
    | _ => cases hcall
  | some i =>
    left
    rcases deliveryStep_call binding w hcall with heq | ⟨_, heq⟩ | ⟨_, _, _, _, _, heq⟩
    · rw [heq]
    · rw [heq, DeliveryWorld.setRead]
    · rw [heq, DeliveryWorld.setRead]

end Frame

/-! ### The floor between delivers -/

/-- A write that succeeds was within the fence, of distinct ids. -/
lemma write_written {db db' : Db} {generation : String} {d next : DeliveryState}
    (hload : loadDelivery db generation = some d) (hstart : next.start = d.start)
    (hkind : next.startKind = d.startKind) (h : write db generation next = .ok db') :
    DeliveryWritten db db' generation next := by
  have hf : next.fenced = true := by
    by_contra hf
    unfold write at h
    rw [if_pos (by simpa using hf)] at h
    cases h
  have hn : (next.returned.map (·.id)).Nodup := by
    by_contra hn
    unfold write Table.ofRows at h
    rw [if_neg (by simp [hf]), dif_neg hn] at h
    cases h
  obtain ⟨db'', hw, hwritten⟩ := write_ok next hload hstart hkind hf hn
  obtain rfl : db'' = db' := Except.ok.inj (hw.symm.trans h)
  exact hwritten

section Floor

variable [Platform] {binding : RepresentativeBinding} {db db' : Db}

/-- Where the next read starts, once the start is resolved. -/
def readFloor (binding : RepresentativeBinding) (db : Db) : Option LocalServerCursor :=
  (loadDelivery db (bindingFingerprint binding)).bind (fun d =>
    if d.startKind = .headPending then none else some d.floor)

/-- Widening keeps the floor. -/
lemma readFloor_widen {window : List LocalServerCursor}
    (h : widenReadWindow db (bindingFingerprint binding) window = .ok db') :
    readFloor binding db' = readFloor binding db := by
  unfold widenReadWindow at h
  split at h
  · rename_i before last hload _
    dsimp only at h
    have hwritten := write_written hload (by rfl) (by rfl) h
    unfold readFloor
    rw [hwritten.loaded, hload]
    rfl
  · cases h
    rfl

variable [ReadText] {w : DeliveryWorld} {l : DeliveryStep} {floor : LocalServerCursor}

/-- Only a deliver moves the floor. -/
lemma readFloor_step (hl : ∀ through, l ≠ .deliver through)
    (h : readFloor binding w.db = some floor) :
    readFloor binding (deliveryStep binding w l).db = some floor := by
  cases hcall : l.call with
  | some i =>
    rcases deliveryStep_call binding w hcall with heq | ⟨call, heq⟩ | ⟨db, _, _, call, hwiden, heq⟩
    · rwa [heq]
    · rw [heq]
      exact h
    · rw [heq]
      exact (readFloor_widen hwiden).trans h
  | none =>
    cases l with
    | append entry => exact h
    | deliver through => exact absurd rfl (hl through)
    | ensureRow =>
      unfold deliveryStep
      dsimp only
      rcases ensureRow_cases w.db binding with hdb | ⟨hfind, _⟩
      · rwa [hdb]
      · simp [readFloor, loadDelivery, hfind] at h
    | resolveHead pages =>
      unfold deliveryStep
      dsimp only
      rcases resolveHead_cases w.db binding (serverHead pages) with
        hdb | ⟨row, delivery, kind, start, hrow, hpending, hdb, hnew⟩
      · rwa [hdb]
      · simp [readFloor, loadDelivery, hrow, hpending] at h
    | _ => cases hcall

end Floor

/-! ### Replies and their positions -/

lemma readInput_broadcast {raw : RawReadInput} {input : ReadInput} (h : readInput raw = .ok input) :
    input.include_broadcast = (raw.include_broadcast == some true) := by
  unfold readInput at h
  split at h
  · cases h
  · split at h
    · cases h
    · cases h
      rfl

lemma readResult_ids [Platform] (binding : RepresentativeBinding) (state : DeliveryState) (s : ScanState)
    (count : ℕ) (oversize : Bool) :
    (readResult binding state s count oversize).replies.map (·.entry_id) =
      (s.candidates.take count).map (·.reply.entry_id) := by
  unfold readResult
  apply ext_getElem
  · simp
  · intro n hn hn'
    simp only [getElem_map, getElem_mapIdx]
    split <;> rfl

section Named

variable [ReadText] {binding : RepresentativeBinding} {input : ReadInput}
  {requestIds : List Uuid} {s : ScanState}

/-- The replies of a scan carry the ids of their positions. -/
def Named (s : ScanState) : Prop := ∀ c ∈ s.candidates, c.reply.entry_id = c.point.id

lemma Named.entry (h : Named s) (e : LogEntry) :
    Named (scanEntry binding input requestIds s e) := by
  unfold scanEntry
  split
  · exact h
  · split
    · exact h
    · intro c hc
      rcases mem_append.mp hc with hc | hc
      · exact h c hc
      · rw [mem_singleton.mp hc]
        rfl

lemma Named.foldl (h : Named s) (entries : List LogEntry) :
    Named (entries.foldl (scanEntry binding input requestIds) s) := by
  induction entries generalizing s with
  | nil => exact h
  | cons e rest ih => exact ih (h.entry e)

lemma Named.page (h : Named s) (page : Page) :
    Named (scanPage binding input requestIds s page) := by
  have hfold : Named (page.entries.foldl (scanEntry binding input requestIds) s) :=
    h.foldl page.entries
  unfold scanPage
  dsimp only
  split
  · exact hfold
  · split
    · exact hfold
    · split <;> exact hfold

variable [Platform] {state : DeliveryState} {final : ReadResult}

/-- The ids a read returns are those of its first candidates. -/
lemma finalResult_ids (hs : Named s) (h : finalResult binding input state s = .ok final) :
    ∃ n, final.replies.map (·.entry_id) =
      ((s.candidates.map (·.point)).take n).map (·.id) := by
  have hids : ∀ n, (s.candidates.take n).map (·.reply.entry_id) =
      ((s.candidates.map (·.point)).take n).map (·.id) := by
    intro n
    rw [← map_take, map_map]
    exact map_congr_left (fun c hc => hs c (mem_of_mem_take hc))
  have hsame : ∀ (oversize reduce : Bool) (final : ReadResult),
      (if reduce then (oversize, reduceDocuments final) else (oversize, final)).2.replies.map
        (·.entry_id) = final.replies.map (·.entry_id) := by
    intro oversize reduce final
    cases reduce
    · rfl
    · exact (reduceDocuments_ids final).1
  unfold finalResult at h
  dsimp only at h
  split at h
  · cases h
  · cases h
    unfold fittedResult
    dsimp only
    rw [hsame, readResult_ids, hids]
    exact ⟨_, rfl⟩

end Named

/-! ### Reads without a deliver between them -/

section Between

variable [Platform] {binding : RepresentativeBinding} {include_broadcast : Bool}
  {w : DeliveryWorld} {l : DeliveryStep} {i k : ℕ}

/-- A call from the present floor: what it has found so far, or what it returned, begins the
wanted entries after that floor. -/
def ReadFrom (binding : RepresentativeBinding) (include_broadcast : Bool) (w : DeliveryWorld) :
    ReadCall → Prop
  | .scanning input state _ s =>
    input.include_broadcast = include_broadcast ∧ readFloor binding w.db = some state.floor ∧
      ScanOk binding include_broadcast w.log state.floor s ∧ Named s
  | .returned final => ∃ floor s n, readFloor binding w.db = some floor ∧
      ScanOk binding include_broadcast w.log floor s ∧
      final.replies.map (·.entry_id) = ((s.candidates.map (·.point)).take n).map (·.id)
  | .failed _ => True

def CallFrom (binding : RepresentativeBinding) (include_broadcast : Bool) (k : ℕ)
    (w : DeliveryWorld) : Prop :=
  ∀ call, w.reads k = some call → ReadFrom binding include_broadcast w call

lemma CallFrom.set (k : ℕ) {call : ReadCall} (h : ReadFrom binding include_broadcast w call) :
    CallFrom binding include_broadcast k (w.setRead k call) := by
  intro call' hcall
  simp only [DeliveryWorld.setRead, Function.update_self, Option.some.injEq] at hcall
  rw [← hcall]
  cases call <;> exact h

/-- Two calls from one floor return beginnings of one sequence. -/
lemma CallFrom.comparable {final final' : ReadResult}
    (hi : CallFrom binding include_broadcast i w) (hk : CallFrom binding include_broadcast k w)
    (hfinal : w.reads i = some (.returned final))
    (hfinal' : w.reads k = some (.returned final')) :
    final.replies.map (·.entry_id) <+: final'.replies.map (·.entry_id) ∨
      final'.replies.map (·.entry_id) <+: final.replies.map (·.entry_id) := by
  obtain ⟨floor, s, n, hfloor, hs, hids⟩ := hi _ hfinal
  obtain ⟨floor', s', n', hfloor', hs', hids'⟩ := hk _ hfinal'
  obtain rfl : floor = floor' := Option.some.inj (hfloor.symm.trans hfloor')
  rw [hids, hids']
  rcases hs.scan.comparable hs'.scan with hp | hp
  · exact ( prefix_or_prefix_of_prefix (( take_prefix n _).trans hp) ( take_prefix n' _)).imp
      (·.map _) (·.map _)
  · exact ( prefix_or_prefix_of_prefix ( take_prefix n _) (( take_prefix n' _).trans hp)).imp
      (·.map _) (·.map _)

variable [ReadText]

/-- A step that neither delivers nor belongs to the call keeps it. -/
lemma ReadFrom.step {call : ReadCall} (h : ReadFrom binding include_broadcast w call)
    (hl : ∀ through, l ≠ .deliver through) :
    ReadFrom binding include_broadcast (deliveryStep binding w l) call := by
  have hscan : ∀ floor s, ScanOk binding include_broadcast w.log floor s →
      ScanOk binding include_broadcast (deliveryStep binding w l).log floor s := by
    intro floor s hs
    rcases deliveryStep_log binding w l with hlog | ⟨entry, hlog⟩
    · rwa [hlog]
    · rw [hlog]
      exact hs.append entry
  cases call with
  | scanning input state requestIds s =>
    obtain ⟨hkind, hfloor, hs, hnamed⟩ := h
    exact ⟨hkind, readFloor_step hl hfloor, hscan _ _ hs, hnamed⟩
  | returned final =>
    obtain ⟨floor, s, n, hfloor, hs, hids⟩ := h
    exact ⟨floor, s, n, readFloor_step hl hfloor, hscan _ _ hs, hids⟩
  | failed e => trivial

/-- A call's own step: it starts at the present floor, and goes on from where it is. -/
lemma CallFrom.step (h : CallFrom binding include_broadcast k w)
    (hl : ∀ through, l ≠ .deliver through)
    (hkind : ∀ raw, l = .readStart k raw → (raw.include_broadcast == some true) = include_broadcast) :
    CallFrom binding include_broadcast k (deliveryStep binding w l) := by
  have hother : (deliveryStep binding w l).reads k = w.reads k →
      CallFrom binding include_broadcast k (deliveryStep binding w l) :=
    fun hsame call hcall => (h call (hsame ▸ hcall)).step hl
  by_cases hk : l.call = some k
  · cases l with
    | append entry => cases hk
    | ensureRow => cases hk
    | resolveHead pages => cases hk
    | deliver through => cases hk
    | readStart i raw =>
      obtain rfl : i = k := Option.some.inj hk
      have hraw := hkind raw rfl
      unfold deliveryStep
      dsimp only
      split
      · exact h
      · split
        · exact CallFrom.set i trivial
        · rename_i input hinput
          unfold readStartStep
          split
          · exact CallFrom.set i trivial
          · rename_i state requestIds hsnapshot
            split
            · exact CallFrom.set i trivial
            · rename_i cursor floor hstart
              obtain ⟨hpending, rfl, hcursor⟩ := scanStart_ok hstart
              refine CallFrom.set i ⟨(readInput_broadcast hinput).trans hraw, ?_,
                scanOk_start binding include_broadcast w.log hcursor, ?_⟩
              · unfold readFloor
                rw [readSnapshot_ok hsnapshot, Option.bind_some, if_neg hpending]
              · intro c hc
                cases hc
    | readPage i n has_more =>
      obtain rfl : i = k := Option.some.inj hk
      unfold deliveryStep
      dsimp only
      split
      · rename_i input state requestIds s hread
        split
        · exact h
        · obtain ⟨hbroadcast, hfloor, hs, hnamed⟩ := h _ hread
          subst hbroadcast
          exact CallFrom.set i ⟨rfl, hfloor, scanOk_page hs _ has_more, hnamed.page _⟩
      · exact h
    | readFinish i =>
      obtain rfl : i = k := Option.some.inj hk
      unfold deliveryStep
      dsimp only
      split
      · rename_i input state requestIds s hread
        obtain ⟨_, hfloor, hs, hnamed⟩ := h _ hread
        split
        · unfold readFinishStep
          split
          · exact CallFrom.set i trivial
          · rename_i final hfinal
            split
            · exact CallFrom.set i trivial
            · rename_i db heq
              obtain ⟨n, hids⟩ := finalResult_ids hnamed hfinal
              exact CallFrom.set i ⟨state.floor, s, n,
                (readFloor_widen (widenTransaction_ok heq)).trans hfloor, hs, hids⟩
        · exact h
      · exact h
  · exact hother (deliveryStep_reads binding w hk)

lemma callFrom_run (h : CallFrom binding include_broadcast k w) {ls : List DeliveryStep}
    (hls : ∀ through, .deliver through ∉ ls)
    (hkind : ∀ raw, .readStart k raw ∈ ls →
      (raw.include_broadcast == some true) = include_broadcast) :
    CallFrom binding include_broadcast k (run (deliveryStep binding) w ls) := by
  induction ls generalizing w with
  | nil => exact h
  | cons l ls ih =>
    refine ih (h.step (fun through hl => hls through (hl ▸ mem_cons_self))
      (fun raw hl => hkind raw (hl ▸ mem_cons_self)))
      (fun through hmem => hls through (mem_cons_of_mem _ hmem))
      (fun raw hmem => hkind raw (mem_cons_of_mem _ hmem))

end Between

/-! ### Main result -/

section Laws

attribute [local instance] jsonText

/-- Read window exactness. A read of any log returns the longest prefix of the addressed entries
after the floor that is within its limit and fits, or the first one flagged when not even that
fits, and counts what remains and what it passed over exactly; its text never exceeds
`max_bytes` or the envelope floor, given a result without replies has short texts; and a call
that throws has left the database as others made it. Of two calls with no deliver between their
starts and their returns, however they overlap and whatever is appended, the ids one returns
begin those the other returns. -/
theorem read_window_exact [Platform] [QuotedUuids] (binding : RepresentativeBinding) :
    (∀ (input : ReadInput) (log : ServerLog) (sizes : ℕ → ℕ) (between : Db → Db) (db : Db),
      (∀ e, (readReplies binding input log sizes between db).1 = .error e →
        (readReplies binding input log sizes between db).2 = db ∨
          (readReplies binding input log sizes between db).2 = between db) ∧
      ∀ final, (readReplies binding input log sizes between db).1 = .ok final →
        ∃ state requestIds,
          (transact db (readSnapshot binding)).1 = .ok (state, requestIds) ∧
          WindowExact binding input state requestIds (log.beyond state.floor) final ∧
          ((final.replies = [] → ShortTexts final) →
            byteLength (serializeRepresentativeResult final) ≤
              max input.max_bytes REPRESENTATIVE_ENVELOPE_FLOOR)) ∧
    ∀ (w : DeliveryWorld) (ls : List DeliveryStep) (i k : ℕ) (include_broadcast : Bool)
      (final final' : ReadResult), w.reads i = none → w.reads k = none →
      (∀ through, .deliver through ∉ ls) →
      (∀ raw, .readStart i raw ∈ ls ∨ .readStart k raw ∈ ls →
        (raw.include_broadcast == some true) = include_broadcast) →
      (run (deliveryStep binding) w ls).reads i = some (.returned final) →
      (run (deliveryStep binding) w ls).reads k = some (.returned final') →
      final.replies.map (·.entry_id) <+: final'.replies.map (·.entry_id) ∨
        final'.replies.map (·.entry_id) <+: final.replies.map (·.entry_id) := by
  refine ⟨fun input log sizes between db => ⟨fun e he => readReplies_error he, ?_⟩, ?_⟩
  · intro final hfinal
    obtain ⟨state, requestIds, cursor, hsnapshot, _, hscan, hresult⟩ := readReplies_ok hfinal
    have hsorted := log.beyond_sorted state.floor
    have hwindow := hscan.exact hsorted (grows_jsonText binding input state requestIds hsorted)
      hresult
    exact ⟨state, requestIds, hsnapshot, hwindow, hwindow.byteLength_le⟩
  · intro w ls i k include_broadcast final final' hi hk hno hkind hfinal hfinal'
    have hcall : ∀ j, w.reads j = none → (∀ raw, .readStart j raw ∈ ls →
        (raw.include_broadcast == some true) = include_broadcast) →
        CallFrom binding include_broadcast j (run (deliveryStep binding) w ls) := by
      intro j hj hraw
      refine callFrom_run (fun call hcall => ?_) hno hraw
      rw [hj] at hcall
      cases hcall
    exact (hcall i hi (fun raw hraw => hkind raw (Or.inl hraw))).comparable
      (hcall k hk (fun raw hraw => hkind raw (Or.inr hraw))) hfinal hfinal'

end Laws

section

attribute [local instance] plainPlatform

/-- No message quotes a UUID. -/
@[reducible] def noQuotes : QuotedUuids := ⟨fun _ => []⟩

attribute [local instance] noQuotes jsonText

lemma directInput_limit : 1 ≤ 10 ∧ 10 ≤ 50 := by decide

lemma directInput_maxBytes : 4096 ≤ 32768 ∧ 32768 ≤ 60000 := by decide

def directInput : ReadInput := ⟨false, 10, 32768, directInput_limit, directInput_maxBytes⟩

/-- Of the two-reply run the next read returns the second reply, and nothing is left. -/
def secondRead : Except RepresentativeError ReadResult :=
  (readReplies boundBinding directInput deliveredWorld.log (fun _ => 500) id deliveredWorld.db).1

/-! The read is followed call by call: its text, taken as a whole, is slow to take apart. -/

lemma jsonText_byteLength (body : ReadResult) :
    ReadText.byteLength body = byteLength (serializeRepresentativeResult body) := rfl

lemma one_reply_length {body : ReadResult} (hnil : body.replies = [])
    (reply : RepresentativeReply) :
    byteLength (serializeRepresentativeResult { body with replies := [reply] }) =
      byteLength (serializeRepresentativeResult body) + byteLength (replyText 4 reply) + 8 := by
  have hmarks : byteLength (indentation 2) = 2 ∧ byteLength (indentation (2 + 2)) = 4 ∧
      Char.utf8Size '[' = 1 ∧ Char.utf8Size ']' = 1 ∧ Char.utf8Size '\n' = 1 := by decide
  unfold serializeRepresentativeResult
  rw [hnil]
  simp only [block, member, byteLength_append, byteLength_cons, flatMap_cons, flatMap_nil,
    byteLength_nil, List.map_cons, List.map_nil]
  omega

lemma countFitting_one {fits : ℕ → Bool} (h : fits 1 = true) : countFitting fits 1 0 = 1 := by
  unfold countFitting
  rw [if_pos h]
  rfl

lemma finalResult_fits {binding : RepresentativeBinding} {input : ReadInput}
    {state : DeliveryState} {s : ScanState} {n : ℕ}
    (hcount : fittingCount binding input state s = n + 1) :
    finalResult binding input state s = .ok (readResult binding state s (n + 1) false) := by
  have hfitted : fittedResult binding input state s =
      (false, readResult binding state s (n + 1) false) := by
    unfold fittedResult
    rw [hcount]
    rfl
  unfold finalResult
  rw [hfitted]
  rfl

lemma readReplies_eq {binding : RepresentativeBinding} {input : ReadInput} {log : ServerLog}
    {sizes : ℕ → ℕ} {between : Db → Db} {db : Db} {state : DeliveryState} {requestIds : List Uuid}
    {cursor : Option LocalServerCursor} {floor : LocalServerCursor} {s : ScanState}
    {final : ReadResult} (hsnapshot : (transact db (readSnapshot binding)).1 = .ok (state, requestIds))
    (hstart : scanStart state = .ok (cursor, floor))
    (hscan : scanLog binding input requestIds log sizes cursor floor = s)
    (hfinal : finalResult binding input state s = .ok final)
    (hwidened : (transact (between db) (widenTransaction binding (readWindow s final))).1 =
      .ok ()) :
    (readReplies binding input log sizes between db).1 = .ok final := by
  unfold readReplies
  rw [hsnapshot]
  dsimp only
  rw [hstart]
  dsimp only
  rw [hscan, hfinal]
  dsimp only
  split
  · rename_i heq
    rw [heq] at hwidened
    cases hwidened
  · rfl

/-- What the second read scans, and what it returns with no reply and with its one. -/
def secondScan : ScanState :=
  ⟨[⟨replyOf boundBinding [] secondReply .direct, secondReply.point, 0⟩], 0,
    some firstReply.point, secondReply.point, true⟩

def noReplies : ReadResult where
  replies := []
  checkpoint := checkpointView (some firstReply.point)
  has_more := false
  ignored_entries := 0
  binding_fingerprint := bindingFingerprint boundBinding
  delivery := REPRESENTATIVE_DELIVERY_NOTE

def secondResult : ReadResult :=
  { noReplies with replies := [replyOf boundBinding [] secondReply .direct] }

lemma second_result :
    readResult boundBinding deliveredState secondScan 1 false = secondResult := rfl

lemma second_length :
    byteLength (serializeRepresentativeResult secondResult) ≤ directInput.max_bytes := by
  have hshort : ShortTexts noReplies := ⟨by decide +kernel, by decide +kernel⟩
  have hnil := byteLength_serialize_nil hshort rfl rfl
  have hone := one_reply_length (show noReplies.replies = [] from rfl)
    (replyOf boundBinding [] secondReply .direct)
  have hreply : byteLength (replyText 4 (replyOf boundBinding [] secondReply .direct)) ≤
      1000 := by
    change byteLength (block _ _ _ [_, _, _, _, _, _, _]) ≤ 1000
    simp only [block, flatMap_cons, flatMap_nil, member, byteLength_append, byteLength_cons,
      byteLength_nil]
    decide +kernel
  have hbound : directInput.max_bytes = 32768 := rfl
  rw [hbound]
  unfold REPRESENTATIVE_ENVELOPE_FLOOR at hnil
  exact hone.trans_le (by omega)

lemma second_count : fittingCount boundBinding directInput deliveredState secondScan = 1 := by
  have hmin : min directInput.limit secondScan.candidates.length = 1 := rfl
  unfold fittingCount
  rw [hmin]
  apply countFitting_one
  simp only [second_result, jsonText_byteLength, second_length, decide_true]

lemma second_snapshot : (transact deliveredWorld.db (readSnapshot boundBinding)).1 =
    .ok (deliveredState, []) := by decide +kernel

lemma second_start : scanStart deliveredState = .ok (some firstReply.point, firstReply.point) := by
  decide +kernel

lemma second_scan : scanLog boundBinding directInput [] deliveredWorld.log (fun _ => 500)
    (some firstReply.point) firstReply.point = secondScan := by decide +kernel

lemma second_final : finalResult boundBinding directInput deliveredState secondScan =
    .ok secondResult := by
  rw [finalResult_fits second_count, second_result]

lemma second_widened : (transact (id deliveredWorld.db) (widenTransaction boundBinding
    (readWindow secondScan secondResult))).1 = .ok () := by
  have hwindow : readWindow secondScan secondResult = [secondReply.point] := rfl
  rw [hwindow]
  decide +kernel

lemma second_call : (readReplies boundBinding directInput deliveredWorld.log (fun _ => 500) id
    deliveredWorld.db).1 = .ok secondResult :=
  readReplies_eq second_snapshot second_start second_scan second_final second_widened

/-- The second read in any world. It mentions the world of `secondRead`, so that the two unfold
together. -/
def readIn (w : DeliveryWorld) : Except RepresentativeError ReadResult :=
  (fun _ : DeliveryWorld =>
    (readReplies boundBinding directInput w.log (fun _ => 500) id w.db).1) deliveredWorld

lemma readIn_eq {w : DeliveryWorld}
    (hsnapshot : (transact w.db (readSnapshot boundBinding)).1 = .ok (deliveredState, []))
    (hscan : scanLog boundBinding directInput [] w.log (fun _ => 500) (some firstReply.point)
      firstReply.point = secondScan)
    (hwidened : (transact (id w.db) (widenTransaction boundBinding
      (readWindow secondScan secondResult))).1 = .ok ()) : readIn w = .ok secondResult := by
  unfold readIn
  exact readReplies_eq hsnapshot second_start hscan second_final hwidened

lemma secondRead_ok : secondRead = .ok secondResult :=
  show readIn deliveredWorld = .ok secondResult from
    readIn_eq second_snapshot second_scan second_widened

theorem read_window_exact_second :
    ∃ final, secondRead = .ok final ∧ final.replies.map (·.entry_id) = [secondReply.id] ∧
      ¬ final.has_more = true ∧
      byteLength (serializeRepresentativeResult final) ≤ 32768 := by
  obtain ⟨state, requestIds, hsnapshot, hwindow, hbound⟩ :=
    ((read_window_exact boundBinding).1 directInput deliveredWorld.log (fun _ => 500) id
      deliveredWorld.db).2 secondResult second_call
  have hone : secondResult.replies.length = 1 := rfl
  have hsome : secondResult.replies ≠ [] := by
    rw [← length_pos_iff, hone]
    exact Nat.one_pos
  obtain rfl : deliveredState = state :=
    Option.some.inj (load_delivered.symm.trans (readSnapshot_ok hsnapshot))
  refine ⟨secondResult, secondRead_ok, rfl, ?_, hbound (fun hnil => absurd hnil hsome)⟩
  rw [hwindow.has_more, hone]
  decide +kernel

end

end BorgClient.Representative
