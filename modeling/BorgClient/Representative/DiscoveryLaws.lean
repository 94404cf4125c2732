import BorgClient.Representative.Discovery
import BorgClient.Representative.WakeBatchLaws

/-!
# Discovery misses nothing

Whatever the order of pages, deliveries, other transactions, damage and restarts: the stored rows
are the direct replies of the log after the delivered position, up to the frontier, and a
trigger is never lost.
-/

namespace BorgClient.Representative
open Platform List Tables Runs

/-! ### The stored state -/

section Stored

variable [Platform] {binding : RepresentativeBinding} {log : ServerLog} {drawn : List Uuid}
  {scan : Option ScanAt} {db : Db} {s : WakeState} {fresh : Uuid}

/-- What is stored, damaged or not: a document that can be read is of a discovered state. -/
structure Discoverable (binding : RepresentativeBinding) (log : ServerLog) (drawn : List Uuid)
    (scan : Option ScanAt) (db : Db) : Prop where
  current : requireCurrentGeneration db binding = .ok (bindingFingerprint binding)
  resolved : ∃ d, loadDelivery db (bindingFingerprint binding) = some d ∧ d.startKind ≠ .headPending
  state : ∀ doc, loadDocument db (bindingFingerprint binding) = .ok doc →
    (⟨loadDelivery db (bindingFingerprint binding), doc,
      db.wake_replies (bindingFingerprint binding)⟩ : WakeState).Discovered binding log drawn scan
  epochs : ∀ at_ id, scan = some at_ → at_.epoch = some id → id ∈ drawn

lemma Holds.discoverable (h : Holds binding db s) (hs : s.Discovered binding log drawn scan)
    (hepochs : ∀ at_ id, scan = some at_ → at_.epoch = some id → id ∈ drawn) :
    Discoverable binding log drawn scan db where
  current := h.current
  resolved := by
    rw [h.delivery]
    exact hs.resolved
  state := by
    intro doc hdoc
    obtain rfl : s.document = doc := Except.ok.inj (h.document.symm.trans hdoc)
    rw [h.delivery, h.rows]
    exact hs
  epochs := hepochs

/-- What the host writes of the delivery state: nothing, or a state whose floor is not behind. -/
def HostWrite (binding : RepresentativeBinding) (db db' : Db) : Prop :=
  db' = db ∨ ∃ d next, loadDelivery db (bindingFingerprint binding) = some d ∧
    DeliveryWritten db db' (bindingFingerprint binding) next ∧ next.start = d.start ∧
    next.startKind = d.startKind ∧ d.floor ≤ next.floor

lemma hostWrite_widen (binding : RepresentativeBinding) (db : Db)
    (window : List LocalServerCursor) :
    HostWrite binding db (transact db (widenTransaction binding window)).2 := by
  cases hout : (transact db (widenTransaction binding window)).1 with
  | error e =>
    left
    unfold transact at hout ⊢
    split at hout
    · cases hout
    · rfl
  | ok u =>
    have hw := widenTransaction_ok (Prod.ext hout rfl)
    unfold widenReadWindow at hw
    split at hw
    · rename_i before last hload _
      exact Or.inr ⟨before, _, hload, write_written hload (by rfl) (by rfl) hw, rfl, rfl, le_rfl⟩
    · exact Or.inl (Except.ok.inj hw).symm

lemma hostWrite_deliver (binding : RepresentativeBinding) (db : Db) (point : LocalServerCursor) :
    HostWrite binding db (transact db (deliverTransaction binding point)).2 := by
  rcases deliverTransaction_cases db binding point with hsame | ⟨_, _, _, _, _, _, _, _, hadv⟩
  · exact Or.inl hsame
  · unfold advanceCheckpoint at hadv
    split at hadv
    · cases hadv
    · rename_i before hload
      cases hw : write db (bindingFingerprint binding) (advanced before point) with
      | error e => simp [hw, Except.map] at hadv
      | ok db' =>
        simp only [hw, Except.map, Except.ok.injEq, Prod.mk.injEq] at hadv
        rw [← hadv.2]
        exact Or.inr ⟨before, _, hload, write_written hload (by rfl) (by rfl) hw, rfl, rfl,
          floor_le_advanced before point⟩

omit [Platform] in
/-- What a discard of the generation writes. -/
lemma discard_eq {generation : String} {d : DeliveryState} {cursor : Option LocalServerCursor}
    (hv : wakeProblems db generation ≠ []) (hd : loadDelivery db generation = some d)
    (hstart : scanStart d = .ok (cursor, d.floor)) (fresh : Uuid) :
    discardInvalidWakeState db generation fresh =
      .ok (some (" and ".intercalate (wakeProblems db generation)),
        saveDocument (saveRows db generation ((db.wake_replies generation).delete (fun _ => true)))
          generation { emptyDocument with frontier := cursor, scan_epoch := some fresh }) := by
  unfold discardInvalidWakeState
  dsimp only
  rw [if_neg hv, show loadDelivery (saveRows db generation
    ((db.wake_replies generation).delete (fun _ => true))) generation = some d from hd]
  dsimp only
  rw [hstart]
  rfl

namespace Discoverable

lemma of_holds (h : Discoverable binding log drawn scan db) (hs : Holds binding db s) :
    s.Discovered binding log drawn scan := by
  have := h.state s.document hs.document
  rwa [hs.delivery, hs.rows] at this

lemma drew (h : Discoverable binding log drawn scan db) {drawn' : List Uuid}
    (hsub : ∀ id ∈ drawn, id ∈ drawn') : Discoverable binding log drawn' scan db :=
  ⟨h.current, h.resolved, fun doc hdoc => (h.state doc hdoc).drew hsub,
    fun at_ id hat hid => hsub id (h.epochs at_ id hat hid)⟩

/-- The state an engine transaction runs on: the stored one, or what a discard left. -/
lemma entered (h : Discoverable binding log drawn scan db) (hfresh : fresh ∉ drawn) :
    ∃ db₁ s text, discardInvalidWakeState db (bindingFingerprint binding) fresh = .ok (text, db₁) ∧
      Holds binding db₁ s ∧ s.Discovered binding log (fresh :: drawn) scan := by
  obtain ⟨d, hd, hkind⟩ := h.resolved
  by_cases hv : wakeProblems db (bindingFingerprint binding) = []
  · obtain ⟨s, hs⟩ := exists_holds h.current hv
    refine ⟨db, s, none, ?_, hs, (h.of_holds hs).drew (fun id hid => mem_cons_of_mem _ hid)⟩
    unfold discardInvalidWakeState
    rw [if_pos hv]
  · obtain ⟨cursor, hstart, hle⟩ := scanStart_resolved hkind
    refine ⟨_, ⟨some d, { emptyDocument with frontier := cursor, scan_epoch := some fresh },
      (db.wake_replies (bindingFingerprint binding)).delete (fun _ => true)⟩, _,
      discard_eq hv hd hstart fresh, ?_, ?_⟩
    · refine ⟨h.current, hd, ?_, Function.update_self .., ?_⟩
      · simp [loadDocument, saveDocument]
      · intro row hrow
        exact absurd (Table.mem_delete.mp hrow).2 (by simp)
    · refine ⟨⟨d, rfl, hkind⟩, ?_, ?_, ?_, ?_⟩
      · -- no row is left, and the frontier is delivered
        intro d' hd' p
        obtain rfl : d = d' := Option.some.inj hd'
        constructor
        · rintro ⟨row, hrow, _⟩
          exact absurd (Table.mem_delete.mp hrow).2 (by simp)
        · rintro ⟨_, hfloor, f, hf, hlast⟩
          exact absurd (hlast.trans (hle f hf)) (not_le.mpr hfloor)
      · intro d' f hd' hf
        obtain rfl : d = d' := Option.some.inj hd'
        exact Or.inl (hle f hf)
      · intro id hid
        obtain rfl : fresh = id := Option.some.inj hid
        exact mem_cons_self
      · -- a scan that was under way is of another epoch
        intro at_ hat hepoch
        exact absurd (h.epochs at_ fresh hat hepoch.symm) hfresh

/-- A transaction commits what it does on the state it runs on. -/
lemma commits (h : Discoverable binding log drawn scan db) (hfresh : fresh ∉ drawn) :
    ∃ db₁ s, Holds binding db₁ s ∧ s.Discovered binding log (fresh :: drawn) scan ∧
      ∀ {α : Type} (body : EngineBody α) (a : α) (db' : Db),
        transact db₁ (engineTransaction binding fresh body) = (.ok a, db') →
          transact db (engineTransaction binding fresh body) = (.ok a, db') := by
  obtain ⟨db₁, s, text, hdiscard, hs, hfound⟩ := h.entered hfresh
  refine ⟨db₁, s, hs, hfound, fun body a db' hok => ?_⟩
  cases hbody : body db₁ (bindingFingerprint binding) with
  | error e =>
    rw [hs.throws fresh hbody] at hok
    cases hok
  | ok out =>
    rw [hs.commits fresh hbody] at hok
    cases hok
    simp only [transact, engineTransaction, h.current, hdiscard, hbody]

/-- A call answers and writes what it does on such a state, or is a line that is no ack. -/
lemma call (h : Discoverable binding log drawn scan db) (hfresh : fresh ∉ drawn) (c : EngineCall) :
    (∃ (s : WakeState) (db' : Db), s.Discovered binding log (fresh :: drawn) scan ∧
      engineCall binding db fresh c = ((s.call binding c).1, db') ∧
      Holds binding db' (s.call binding c).2) ∨
    engineCall binding db fresh c = (.ack .ignored, db) := by
  obtain ⟨db₁, s, hs, hfound, hcommit⟩ := h.commits hfresh
  obtain ⟨d, hd, hkind⟩ := hfound.resolved
  obtain ⟨cursor, hstart, _⟩ := scanStart_resolved hkind
  cases c with
  | tick now batch =>
    obtain ⟨db', heq, hholds⟩ := hs.tick fresh now batch
    refine Or.inl ⟨s, db', hfound, ?_, hholds⟩
    rw [engineCall, hcommit _ _ _ heq]
    rfl
  | ack now line =>
    cases hparse : parseAck line with
    | none =>
      right
      simp only [engineCall, hparse]
    | some parsed =>
      obtain ⟨db', heq, hholds⟩ := hs.ack fresh now parsed.1 parsed.2
      refine Or.inl ⟨s, db', hfound, ?_, ?_⟩
      · simp only [engineCall, WakeState.call, hparse, hcommit _ _ _ heq]
        rfl
      · simp only [WakeState.call, hparse]
        exact hholds
  | merge now epoch entries more =>
    obtain ⟨db', heq, hholds⟩ := hs.merge fresh now epoch entries more
    refine Or.inl ⟨s, db', hfound, ?_, hholds⟩
    have hok : ∃ merged, (s.merge binding now epoch entries more).1 = .ok merged := by
      unfold WakeState.merge
      rw [hd]
      dsimp only
      split
      · exact ⟨_, rfl⟩
      · rw [hstart]
        exact ⟨_, rfl⟩
    obtain ⟨merged, hmerged⟩ := hok
    rw [hmerged] at heq
    rw [engineCall, hcommit _ _ _ heq]
    unfold WakeState.call
    dsimp only [Prod.map]
    rw [hmerged]
    rfl
  | captureStart =>
    refine Or.inl ⟨s, db₁, hfound, ?_, hs⟩
    have hok : ∃ probe, s.captureStart = .ok probe := by
      unfold WakeState.captureStart
      split
      · exact ⟨_, rfl⟩
      · rw [hd]
        dsimp only
        rw [hstart]
        exact ⟨_, rfl⟩
    obtain ⟨probe, hprobe⟩ := hok
    have heq := hs.captureStart fresh
    rw [hprobe] at heq
    rw [engineCall, hcommit _ _ _ heq]
    unfold WakeState.call
    dsimp only [Prod.map]
    rw [hprobe]
    rfl
  | capturePersist epoch count =>
    obtain ⟨db', heq, hholds⟩ := hs.capturePersist fresh epoch count
    refine Or.inl ⟨s, db', hfound, ?_, hholds⟩
    rw [engineCall, hcommit _ _ _ heq]
    rfl

/-- The start of a scan is under the stored epoch, with nothing undiscovered before it. -/
lemma scanOnceStart (h : Discoverable binding log drawn scan db) (hfresh : fresh ∉ drawn) :
    ∃ (s : WakeState) (at_ : ScanAt) (db' : Db),
      s.Discovered binding log (fresh :: drawn) scan ∧ Holds binding db' s ∧
      transact db (engineTransaction binding fresh Representative.scanOnceStart) = (.ok at_, db') ∧
      at_.epoch = s.document.scan_epoch ∧ s.Behind at_ := by
  obtain ⟨db₁, s, hs, hfound, hcommit⟩ := h.commits hfresh
  obtain ⟨d, hd, hkind⟩ := hfound.resolved
  obtain ⟨cursor, hstart, hle⟩ := scanStart_resolved hkind
  refine ⟨s, ⟨later s.document.frontier cursor, s.document.scan_epoch⟩, db₁, hfound, hs, ?_, rfl,
    ?_⟩
  · refine hcommit _ _ _ (hs.commits fresh ?_)
    simp only [Representative.scanOnceStart, deliveryStart, hs.delivery, hd, hstart, hs.document]
  · intro _ d' c hd' hc
    obtain rfl : d = d' := Option.some.inj (hd.symm.trans hd')
    rcases reached_later.mp ⟨c, hc, le_rfl⟩ with hr | ⟨c', hc', hcc⟩
    · exact Or.inr hr
    · exact Or.inl (hcc.trans (hle c' hc'))

/-- A new entry of the log. -/
lemma append (h : Discoverable binding log drawn scan db) (entry : LogEntry) :
    Discoverable binding (log.append entry) drawn scan db :=
  ⟨h.current, h.resolved, fun doc hdoc => (h.state doc hdoc).append entry, h.epochs⟩

/-- Another scan, or none. -/
lemma of_scan (h : Discoverable binding log drawn scan db) {scan' : Option ScanAt}
    (hscan : scan' = none ∨ scan' = scan) : Discoverable binding log drawn scan' db := by
  rcases hscan with rfl | rfl
  · refine ⟨h.current, h.resolved, fun doc hdoc => (h.state doc hdoc).of_scan ?_, ?_⟩
    · exact fun at_ hat => by cases hat
    · exact fun at_ id hat => by cases hat
  · exact h

/-- A write of the delivery state that does not move the floor back. -/
lemma written (h : Discoverable binding log drawn scan db) {db' : Db} {d next : DeliveryState}
    (hd : loadDelivery db (bindingFingerprint binding) = some d)
    (hw : DeliveryWritten db db' (bindingFingerprint binding) next)
    (hstart : next.start = d.start) (hkind : next.startKind = d.startKind)
    (hfloor : d.floor ≤ next.floor) : Discoverable binding log drawn scan db' where
  current := by
    have hcurrent := h.current
    unfold requireCurrentGeneration at hcurrent ⊢
    rwa [currentBindingRow_congr hw.bindings]
  resolved := by
    obtain ⟨d', hd', hresolved⟩ := h.resolved
    obtain rfl : d = d' := Option.some.inj (hd.symm.trans hd')
    refine ⟨_, hw.loaded, ?_⟩
    show next.startKind ≠ _
    rwa [hkind]
  state := by
    intro doc hdoc
    have hdoc' : loadDocument db (bindingFingerprint binding) = .ok doc := by
      unfold loadDocument at hdoc ⊢
      rwa [hw.wake_state] at hdoc
    rw [hw.loaded, hw.wake_replies]
    exact (h.state doc hdoc').written hd hstart hkind hfloor
  epochs := h.epochs

lemma hostWrite (h : Discoverable binding log drawn scan db) {db' : Db}
    (hw : HostWrite binding db db') : Discoverable binding log drawn scan db' := by
  rcases hw with rfl | ⟨d, next, hd, hwritten, hstart, hkind, hfloor⟩
  · exact h
  · exact h.written hd hwritten hstart hkind hfloor

lemma damageDocument (h : Discoverable binding log drawn scan db) :
    Discoverable binding log drawn scan (cohortStep binding db .damageDocument) where
  current := h.current
  resolved := h.resolved
  state := by
    intro doc hdoc
    simp [cohortStep, loadDocument] at hdoc
  epochs := h.epochs

lemma damageRow (h : Discoverable binding log drawn scan db) (entry_id : Uuid) :
    Discoverable binding log drawn scan (cohortStep binding db (.damageRow entry_id)) where
  current := h.current
  resolved := h.resolved
  state := by
    intro doc hdoc
    refine (h.state doc hdoc).same ⟨rfl, rfl, rfl, fun p => ?_⟩
    unfold cohortStep
    dsimp only
    rw [show (saveRows db (bindingFingerprint binding) (damageRows entry_id
      (db.wake_replies (bindingFingerprint binding)))).wake_replies (bindingFingerprint binding) =
        damageRows entry_id (db.wake_replies (bindingFingerprint binding)) from
          Function.update_self ..]
    refine WakeState.points_update (fun row => ?_) p
    split <;> rfl
  epochs := h.epochs

/-- With the delivery start resolved, a restart of the listener writes nothing. -/
lemma restart (h : Discoverable binding log drawn scan db) (head : ServerHead) :
    (transact (transact db (ensureRow binding)).2 (resolveHead binding head)).2 = db := by
  obtain ⟨d, hload, hresolved⟩ := h.resolved
  obtain ⟨row, hrow, hrowd⟩ := Option.map_eq_some_iff.mp hload
  have hensure : (transact db (ensureRow binding)).2 = db := by
    rcases ensureRow_cases db binding with hdb | ⟨hnone, _⟩
    · exact hdb
    · rw [hrow] at hnone
      cases hnone
  rw [hensure]
  rcases resolveHead_cases db binding head with hdb | ⟨row', _, _, _, hrow', hpending, _⟩
  · exact hdb
  · obtain rfl : row = row' := Option.some.inj (hrow.symm.trans hrow')
    exact absurd (by rw [← hrowd]; exact hpending) hresolved

end Discoverable

end Stored

/-! ### Steps of the world -/

section World

variable [Platform] {binding : RepresentativeBinding} {w : DiscoveryWorld}

/-- Where the running scan reads on. -/
def ScanPhase.scanAt : ScanPhase → Option ScanAt
  | .starting => none
  | .reading at_ => some at_
  | .merging at_ _ => some at_
  | .ticking next => next

/-- The store agrees with the log, and a page to merge is one of the log. -/
structure DiscoverySafe (binding : RepresentativeBinding) (w : DiscoveryWorld) : Prop where
  stored : Discoverable binding w.log w.drawn (w.scanning.bind ScanPhase.scanAt) w.db
  page : ∀ at_ page, w.scanning = some (.merging at_ page) → PageOf w.log at_.cursor page.entries

namespace DiscoverySafe

/-- The scan is over, or starts again. -/
lemma scanned {db : Db} {rescan : Bool} {scan : Option ScanAt}
    (h : Discoverable binding w.log w.drawn scan db) :
    DiscoverySafe binding { w with db := db, rescan := rescan }.scanned := by
  unfold DiscoveryWorld.scanned
  split
  · exact ⟨h.of_scan (Or.inl rfl), fun _ _ hp => by cases hp⟩
  · exact ⟨h.of_scan (Or.inl rfl), fun _ _ hp => by cases hp⟩

/-- A store of the same scan. -/
lemma stored_at (h : DiscoverySafe binding w) {phase : ScanPhase} (hp : w.scanning = some phase) :
    Discoverable binding w.log w.drawn phase.scanAt w.db := by
  have hstored := h.stored
  rwa [hp] at hstored

/-- Neither the scan nor the log moved. -/
lemma of_db (h : DiscoverySafe binding w) {db : Db} {drawn : List Uuid}
    (hdb : Discoverable binding w.log drawn (w.scanning.bind ScanPhase.scanAt) db) :
    DiscoverySafe binding { w with db := db, drawn := drawn } :=
  ⟨hdb, h.page⟩

lemma call (h : DiscoverySafe binding w) {fresh : Uuid} (hfresh : fresh ∉ w.drawn) {c : EngineCall}
    (hc : c.isMerge = false) :
    DiscoverySafe binding
      { w with db := (engineCall binding w.db fresh c).2, drawn := fresh :: w.drawn } := by
  refine h.of_db ?_
  rcases h.stored.call hfresh c with ⟨s, db', hs, heq, hholds⟩ | heq
  · rw [heq]
    refine hholds.discoverable (hs.same (WakeState.sameFound_call hc s)) ?_
    exact fun at_ id hat hid => mem_cons_of_mem _ (h.stored.epochs at_ id hat hid)
  · rw [heq]
    exact h.stored.drew (fun id hid => mem_cons_of_mem _ hid)

lemma scan (h : DiscoverySafe binding w) {fresh : Uuid} (hfresh : fresh ∉ w.drawn) :
    ∃ at_ db', transact w.db (engineTransaction binding fresh scanOnceStart) = (.ok at_, db') ∧
      DiscoverySafe binding
        { w with db := db', scanning := some (.reading at_), drawn := fresh :: w.drawn } := by
  obtain ⟨s, at_, db', hs, hholds, heq, hepoch, hbehind⟩ := h.stored.scanOnceStart hfresh
  refine ⟨at_, db', heq, ?_, fun _ _ hp => by cases hp⟩
  refine hholds.discoverable (hs.of_scan ?_) ?_
  · rintro _ ⟨⟩
    exact hbehind
  · rintro _ id ⟨⟩ hid
    exact hs.epoch id (hepoch ▸ hid)

/-- A page is dropped or merged. -/
lemma merge (h : DiscoverySafe binding w) {fresh : Uuid} (hfresh : fresh ∉ w.drawn) (now : ℕ)
    {at_ : ScanAt} {page : Page} (hp : w.scanning = some (.merging at_ page)) :
    (∃ db', engineCall binding w.db fresh (.merge now at_.epoch page.entries page.has_more) =
        (.merged none, db') ∧ Discoverable binding w.log (fresh :: w.drawn) (some at_) db') ∨
    ∃ (s : WakeState) (d : DeliveryState) (n : ℕ) (db' : Db),
      s.Discovered binding w.log (fresh :: w.drawn) (some at_) ∧
      s.delivery = some d ∧ s.document.scan_epoch = at_.epoch ∧
      engineCall binding w.db fresh (.merge now at_.epoch page.entries page.has_more) =
        (.merged (some n), db') ∧
      Holds binding db' (s.merged binding d.floor now page.entries page.has_more) ∧
      Discoverable binding w.log (fresh :: w.drawn) (nextPage at_ page) db' := by
  have hstored := h.stored_at hp
  have hdrawn : ∀ id, at_.epoch = some id → id ∈ fresh :: w.drawn :=
    fun id hid => mem_cons_of_mem _ (hstored.epochs at_ id rfl hid)
  rcases hstored.call hfresh (.merge now at_.epoch page.entries page.has_more) with
    ⟨s, db', hs, heq, hholds⟩ | heq
  · unfold WakeState.call at heq hholds
    dsimp only [Prod.map, id] at heq hholds
    rcases hs.merge (h.page at_ page hp) now with hm | ⟨d, n, hd, hepoch, hm, hnext⟩
    · rw [hm] at heq hholds
      refine Or.inl ⟨db', heq, hholds.discoverable hs ?_⟩
      rintro _ id ⟨⟩ hid
      exact hdrawn id hid
    · rw [hm] at heq hholds
      refine Or.inr ⟨s, d, n, db', hs, hd, hepoch, heq, hholds, hholds.discoverable hnext ?_⟩
      intro next id hat hid
      refine hdrawn id ?_
      unfold nextPage at hat
      split at hat
      · obtain ⟨tail, _, rfl⟩ := Option.map_eq_some_iff.mp hat
        exact hid
      · cases hat
  · -- a merge answers no line
    unfold engineCall at heq
    cases hm : (transact w.db (engineTransaction binding fresh
        (Representative.merge binding now at_.epoch page.entries page.has_more))).1 with
    | ok _ => simp [hm, EngineOutcome.of, Prod.ext_iff] at heq
    | error _ => simp [hm, EngineOutcome.of, Prod.ext_iff] at heq

/-- The tick of the scan wakes somebody or nobody. -/
lemma tick (h : DiscoverySafe binding w) {fresh : Uuid} (hfresh : fresh ∉ w.drawn) (now : ℕ)
    (batch : Uuid) : ∃ (s : WakeState) (db' : Db) (wake : Option WakeEmission),
      s.Discovered binding w.log (fresh :: w.drawn) (w.scanning.bind ScanPhase.scanAt) ∧
      engineCall binding w.db fresh (.tick now batch) = (.wake wake, db') ∧
      Holds binding db' (s.tick now batch).2 ∧
      Discoverable binding w.log (fresh :: w.drawn) (w.scanning.bind ScanPhase.scanAt) db' := by
  rcases h.stored.call hfresh (.tick now batch) with ⟨s, db', hs, heq, hholds⟩ | heq
  · refine ⟨s, db', _, hs, heq, hholds, ?_⟩
    refine hholds.discoverable (hs.same (WakeState.sameFound_tick now batch s)) ?_
    exact fun at_ id hat hid => mem_cons_of_mem _ (h.stored.epochs at_ id hat hid)
  · unfold engineCall at heq
    cases hm : (transact w.db (engineTransaction binding fresh
        (Representative.tick now batch))).1 with
    | ok _ => simp [hm, EngineOutcome.of, Prod.ext_iff] at heq
    | error _ => simp [hm, EngineOutcome.of, Prod.ext_iff] at heq

lemma scanStep (h : DiscoverySafe binding w) {l : DiscoveryStep}
    (hdraws : ∀ fresh, l.draws = some fresh → fresh ∉ w.drawn) {phase : ScanPhase}
    (hp : w.scanning = some phase) : DiscoverySafe binding
      ({ w with drawn := l.draws.toList ++ w.drawn }.scanStep binding l phase) := by
  have hkeep : DiscoverySafe binding { w with drawn := l.draws.toList ++ w.drawn } :=
    h.of_db (h.stored.drew (fun id hid => List.mem_append_right _ hid))
  unfold DiscoveryWorld.scanStep
  split
  · -- the start
    rename_i fresh
    obtain ⟨at_, db', heq, hnext⟩ := h.scan (hdraws fresh rfl)
    rw [heq]
    exact hnext
  · -- a page of the log as it is
    rename_i size at_
    refine ⟨?_, ?_⟩
    · have hstored := hkeep.stored
      rw [show _ = w.scanning from rfl, hp] at hstored
      exact hstored
    · rintro _ _ ⟨⟩
      exact pageOf_discoveryPage w.log at_.cursor size
  · rename_i fresh now at_ page
    rcases h.merge (hdraws fresh rfl) now hp with
      ⟨db', heq, hstored⟩ | ⟨s, d, n, db', _, _, _, heq, _, hstored⟩
    · rw [heq]
      exact scanned (w := { w with drawn := fresh :: w.drawn }) hstored
    · rw [heq]
      exact ⟨hstored, fun _ _ hp => by cases hp⟩
  · rename_i fresh now batch next
    obtain ⟨s, db', wake, _, heq, _, hstored⟩ := h.tick (hdraws fresh rfl) now batch
    rw [hp] at hstored
    rw [heq]
    cases next with
    | none => exact scanned (w := { w with drawn := fresh :: w.drawn }) hstored
    | some at_ => exact ⟨hstored, fun _ _ hp => by cases hp⟩
  · exact ⟨hkeep.stored.of_scan (Or.inl rfl), fun _ _ hp => by cases hp⟩
  · exact hkeep

lemma act (h : DiscoverySafe binding w) {l : DiscoveryStep}
    (hdraws : ∀ fresh, l.draws = some fresh → fresh ∉ w.drawn) :
    DiscoverySafe binding ({ w with drawn := l.draws.toList ++ w.drawn }.act binding l) := by
  have hkeep : DiscoverySafe binding { w with drawn := l.draws.toList ++ w.drawn } :=
    h.of_db (h.stored.drew (fun id hid => List.mem_append_right _ hid))
  unfold DiscoveryWorld.act
  split
  · rename_i entry
    exact ⟨h.stored.append entry, fun at_ page hp => (h.page at_ page hp).append entry⟩
  · dsimp only
    split
    · exact ⟨h.stored.of_scan (Or.inl rfl), fun _ _ hp => by cases hp⟩
    · exact ⟨h.stored, h.page⟩
  · rename_i fresh c
    split
    · exact hkeep
    · rename_i hc
      exact h.call (hdraws fresh rfl) (by simpa using hc)
  · rename_i window
    exact h.of_db (h.stored.hostWrite (hostWrite_widen binding w.db window))
  · rename_i point
    exact h.of_db (h.stored.hostWrite (hostWrite_deliver binding w.db point))
  · exact h.of_db h.stored.damageDocument
  · rename_i entry_id
    exact h.of_db (h.stored.damageRow entry_id)
  · rename_i head
    dsimp only
    rw [h.stored.restart head]
    exact ⟨h.stored.of_scan (Or.inl rfl), fun _ _ hp => by cases hp⟩
  · dsimp only
    split
    · exact hkeep
    · rename_i phase hp
      exact h.scanStep hdraws hp

/-- Every step keeps the store in agreement with the log. -/
lemma step (h : DiscoverySafe binding w) (l : DiscoveryStep) :
    DiscoverySafe binding (discoveryStep binding w l) := by
  unfold discoveryStep
  split
  · exact h
  · rename_i hnew
    refine h.act (fun fresh hfresh hdrawn => hnew ?_)
    rw [hfresh]
    simpa using hdrawn

end DiscoverySafe

lemma FreshWake.discoverySafe {db : Db} (h : FreshWake binding db) (log : ServerLog) :
    DiscoverySafe binding (.start db log) := by
  obtain ⟨d, hd, hresolved⟩ := h.resolved
  have hnone : ∀ row, row ∉ db.wake_replies (bindingFingerprint binding) := by
    intro row hrow
    rw [Table.mem_def, h.rows] at hrow
    cases hrow
  refine ⟨⟨h.current, ⟨d, hd, hresolved⟩, ?_, fun _ _ hat => by cases hat⟩,
    fun _ _ hp => by cases hp⟩
  intro doc hdoc
  have hempty : loadDocument db (bindingFingerprint binding) = .ok emptyDocument := by
    unfold loadDocument
    rw [h.document]
  obtain rfl : emptyDocument = doc := Except.ok.inj (hempty.symm.trans hdoc)
  refine ⟨⟨d, hd, hresolved⟩, ?_, ?_, ?_, ?_⟩
  · intro _ _ p
    constructor
    · rintro ⟨row, hrow, _⟩
      exact absurd hrow (hnone row)
    · rintro ⟨_, _, f, hf, _⟩
      cases hf
  · intro _ f _ hf
    cases hf
  · intro id hid
    cases hid
  · intro at_ hat
    cases hat

/-- In every run from a fresh wake state, with wake state damaged, the scan failing and the
listener dying at any point: while the stored document can be read, the reply rows are exactly
the direct replies of the server's log after the delivered position, up to the frontier. -/
theorem discovery_exact {db : Db} (h : FreshWake binding db) (log : ServerLog)
    (ls : List DiscoveryStep) :
    (let w := run (discoveryStep binding) (.start db log) ls
    ∀ doc d, loadDocument w.db (bindingFingerprint binding) = .ok doc →
      loadDelivery w.db (bindingFingerprint binding) = some d → ∀ p,
        (∃ row ∈ w.db.wake_replies (bindingFingerprint binding), row.point = p) ↔
          p ∈ wantedPoints binding false w.log ∧ d.floor < p ∧ Reached doc.frontier p) := by
  have hsafe := invariant (discoveryStep binding) (DiscoverySafe binding)
    (fun _ l hw => hw.step l) (h.discoverySafe log) ls
  intro w doc d hdoc hd p
  exact (hsafe.stored.state doc hdoc).exact_ d hd p

/-! ### A trigger is not lost -/

/-- Nothing fails, dies or is damaged in the step. -/
def DiscoveryStep.calm : DiscoveryStep → Bool
  | .fail => false
  | .damageDocument => false
  | .damageRow _ => false
  | .restart _ => false
  | _ => true

/-- The store is valid, and the entries `asked` are delivered or discovered. -/
def Caught (binding : RepresentativeBinding) (asked : List LogEntry) (db : Db) : Prop :=
  ∃ s d, Holds binding db s ∧ s.delivery = some d ∧
    ∀ e ∈ asked, e.point ≤ d.floor ∨ Reached s.document.frontier e.point

/-- The scan has still to read the log, or a page of it that has what was asked for, unless that
is discovered. -/
def ScanPhase.Owes (binding : RepresentativeBinding) (asked : List LogEntry) (db : Db) :
    ScanPhase → Prop
  | .starting => True
  | .reading _ => True
  | .merging at_ page => (nextPage at_ page).isSome ∨
      ∀ e ∈ asked, 0 < comparePoints e.point at_.cursor → e ∈ page.entries
  | .ticking next => next.isSome ∨ Caught binding asked db

/-- The trigger at which the log was `asked` is owed a scan, or had one. -/
structure Awaited (binding : RepresentativeBinding) (asked : List LogEntry) (w : DiscoveryWorld) :
    Prop where
  log : ∀ e ∈ asked, e ∈ w.log.entries
  idle : w.scanning = none → Caught binding asked w.db
  owes : ∀ phase, w.scanning = some phase → w.rescan = true ∨ phase.Owes binding asked w.db

variable {asked : List LogEntry}

lemma Caught.of_same {db : Db} {s s' : WakeState} {d : DeliveryState} (h : Holds binding db s')
    (hs : WakeState.SameFound s s') (hd : s.delivery = some d)
    (hall : ∀ e ∈ asked, e.point ≤ d.floor ∨ Reached s.document.frontier e.point) :
    Caught binding asked db :=
  ⟨s', d, h, hs.delivery ▸ hd, hs.frontier ▸ hall⟩

/-- On a valid store a call does what it does on the state. -/
lemma Caught.call (h : Caught binding asked w.db) (fresh : Uuid) {c : EngineCall}
    (hc : c.isMerge = false) : Caught binding asked (engineCall binding w.db fresh c).2 := by
  obtain ⟨s, d, hs, hd, hall⟩ := h
  obtain ⟨db', heq, hholds⟩ := hs.call fresh c
  rw [heq]
  exact .of_same hholds (WakeState.sameFound_call hc s) hd hall

lemma Caught.hostWrite {db' : Db} (h : Caught binding asked w.db)
    (hw : HostWrite binding w.db db') : Caught binding asked db' := by
  rcases hw with rfl | ⟨d, next, hd, hwritten, _, _, hfloor⟩
  · exact h
  · obtain ⟨s, d', hs, hd', hall⟩ := h
    obtain rfl : d = d' := Option.some.inj (hd.symm.trans (hs.delivery.trans hd'))
    refine ⟨_, _, hs.deliveryWritten hwritten, rfl, fun e he => ?_⟩
    exact (hall e he).imp_left (fun hle => hle.trans hfloor)

omit [Platform] in
/-- A page behind which the log ends has every entry after the cursor. -/
lemma owes_discoveryPage (log : ServerLog) (at_ : ScanAt) (size : ℕ) :
    (nextPage at_ (log.discoveryPage at_.cursor size)).isSome ∨
      ∀ e ∈ log.entries, 0 < comparePoints e.point at_.cursor →
        e ∈ (log.discoveryPage at_.cursor size).entries := by
  have hpos : 0 < min (max size 1) DISCOVERY_PAGE := by
    simp [DISCOVERY_PAGE]
  unfold nextPage ServerLog.discoveryPage ServerLog.pageAfter
  dsimp only
  by_cases hmore : min (max size 1) DISCOVERY_PAGE < (log.after at_.cursor).length
  · left
    rw [if_pos (by simpa using hmore), Option.isSome_map, Option.isSome_iff_ne_none, Ne,
      getLast?_eq_none_iff, take_eq_nil_iff, not_or]
    exact ⟨hpos.ne', ne_nil_of_length_pos (hpos.trans hmore)⟩
  · right
    intro e he hafter
    have hlength : (log.after at_.cursor).length ≤ min (max size 1) DISCOVERY_PAGE :=
      not_lt.mp hmore
    unfold ServerLog.after at hlength
    rw [take_of_length_le hlength]
    exact mem_filter.mpr ⟨he, by simpa using hafter⟩

lemma ScanPhase.Owes.of_db {db db' : Db} {phase : ScanPhase} (h : phase.Owes binding asked db)
    (hdb : Caught binding asked db → Caught binding asked db') : phase.Owes binding asked db' := by
  cases phase with
  | starting => trivial
  | reading at_ => trivial
  | merging at_ page => exact h
  | ticking next => exact Or.imp_right hdb h

/-- The last page of a scan: everything it was to find is delivered or discovered. -/
lemma caught_merged {db : Db} {s : WakeState} {d : DeliveryState} {at_ : ScanAt} {page : Page}
    {log : ServerLog} {now : ℕ} (hd : s.delivery = some d) (hbehind : s.Behind at_)
    (hepoch : s.document.scan_epoch = at_.epoch)
    (hholds : Holds binding db (s.merged binding d.floor now page.entries page.has_more))
    (hpage : PageOf log at_.cursor page.entries)
    (hall : ∀ e ∈ asked, 0 < comparePoints e.point at_.cursor → e ∈ page.entries) :
    Caught binding asked db := by
  refine ⟨_, d, hholds, hd, fun e he => ?_⟩
  rw [show (s.merged binding d.floor now page.entries page.has_more).document.frontier =
    later s.document.frontier (page.entries.getLast?.map (·.point)) from
      (mergedDocument_frontier ..).1, reached_later]
  by_cases hcursor : 0 < comparePoints e.point at_.cursor
  · right
    right
    have hin := hall e he hcursor
    obtain ⟨tail, htail⟩ := Option.ne_none_iff_exists'.mp
      (fun hnone => ne_nil_of_mem hin (getLast?_eq_none_iff.mp hnone))
    exact ⟨tail.point, by rw [htail]; rfl, hpage.le_last htail hin⟩
  · cases hc : at_.cursor with
    | none => simp [hc, comparePoints] at hcursor
    | some c =>
      rw [hc, comparePoints_pos, not_lt] at hcursor
      rcases hbehind hepoch d c hd hc with hfloor | ⟨f, hf, hcf⟩
      · exact Or.inl (hcursor.trans hfloor)
      · exact Or.inr (Or.inl ⟨f, hf, hcursor.trans hcf⟩)

namespace Awaited

lemma running {phase : ScanPhase} (hlog : ∀ e ∈ asked, e ∈ w.log.entries)
    (hp : w.scanning = some phase) (howes : w.rescan = true ∨ phase.Owes binding asked w.db) :
    Awaited binding asked w where
  log := hlog
  idle := by
    intro hnone
    rw [hp] at hnone
    cases hnone
  owes := by
    intro phase' hp'
    obtain rfl : phase = phase' := Option.some.inj (hp.symm.trans hp')
    exact howes

lemma scanned (hlog : ∀ e ∈ asked, e ∈ w.log.entries)
    (h : w.rescan = true ∨ Caught binding asked w.db) : Awaited binding asked w.scanned := by
  unfold DiscoveryWorld.scanned
  split
  · exact running hlog rfl (Or.inr trivial)
  · rename_i hnot
    exact ⟨hlog, fun _ => h.resolve_left hnot, fun _ hp => by cases hp⟩

/-- A store that keeps what is caught. -/
lemma of_db (h : Awaited binding asked w) {db : Db} {drawn : List Uuid}
    (hdb : Caught binding asked w.db → Caught binding asked db) :
    Awaited binding asked { w with db := db, drawn := drawn } :=
  ⟨h.log, fun hnone => hdb (h.idle hnone),
    fun phase hp => (h.owes phase hp).imp_right (fun howes => howes.of_db hdb)⟩

lemma scanStep (h : Awaited binding asked w) (hsafe : DiscoverySafe binding w) {l : DiscoveryStep}
    (hdraws : ∀ fresh, l.draws = some fresh → fresh ∉ w.drawn) (hcalm : l.calm = true)
    {phase : ScanPhase} (hp : w.scanning = some phase) : Awaited binding asked
      ({ w with drawn := l.draws.toList ++ w.drawn }.scanStep binding l phase) := by
  have howes := h.owes phase hp
  unfold DiscoveryWorld.scanStep
  split
  · rename_i fresh
    obtain ⟨at_, db', heq, _⟩ := hsafe.scan (hdraws fresh rfl)
    rw [heq]
    exact running h.log rfl (Or.inr trivial)
  · rename_i size at_
    refine running h.log rfl (Or.inr ?_)
    exact (owes_discoveryPage w.log at_ size).imp_right (fun hall e he => hall e (h.log e he))
  · rename_i fresh now at_ page
    rcases hsafe.merge (hdraws fresh rfl) now hp with
      ⟨db', heq, _⟩ | ⟨s, d, n, db', hs, hd, hepoch, heq, hholds, _⟩
    · rw [heq]
      exact scanned (w := { w with db := db', rescan := true, drawn := fresh :: w.drawn })
        h.log (Or.inl rfl)
    · rw [heq]
      refine running h.log rfl ?_
      refine howes.imp_right (fun howed => howed.imp_right (fun hall => ?_))
      exact caught_merged hd (hs.behind at_ rfl) hepoch hholds (hsafe.page at_ page hp) hall
  · rename_i fresh now batch next
    obtain ⟨_, db', wake, _, heq, _, _⟩ := hsafe.tick (hdraws fresh rfl) now batch
    have hkept : Caught binding asked w.db → Caught binding asked db' := by
      intro hcaught
      have hnext := hcaught.call fresh (c := .tick now batch) rfl
      rwa [heq] at hnext
    rw [heq]
    cases next with
    | some at_ => exact running h.log rfl (Or.inr trivial)
    | none =>
      refine scanned (w := { w with db := db', drawn := fresh :: w.drawn }) h.log ?_
      exact howes.imp_right (fun howed => hkept (howed.resolve_left Bool.false_ne_true))
  · cases hcalm
  · exact h.of_db id

lemma act (h : Awaited binding asked w) (hsafe : DiscoverySafe binding w) {l : DiscoveryStep}
    (hdraws : ∀ fresh, l.draws = some fresh → fresh ∉ w.drawn) (hcalm : l.calm = true) :
    Awaited binding asked ({ w with drawn := l.draws.toList ++ w.drawn }.act binding l) := by
  unfold DiscoveryWorld.act
  split
  · rename_i entry
    exact ⟨fun e he => ServerLog.mem_append (h.log e he), h.idle, h.owes⟩
  · dsimp only
    split
    · exact running h.log rfl (Or.inr trivial)
    · rename_i phase hp
      exact running h.log hp (Or.inl rfl)
  · rename_i fresh c
    split
    · exact h.of_db id
    · rename_i hc
      exact h.of_db (fun hcaught => hcaught.call fresh (by simpa using hc))
  · rename_i window
    exact h.of_db (fun hcaught => hcaught.hostWrite (hostWrite_widen binding w.db window))
  · rename_i point
    exact h.of_db (fun hcaught => hcaught.hostWrite (hostWrite_deliver binding w.db point))
  · cases hcalm
  · cases hcalm
  · cases hcalm
  · dsimp only
    split
    · exact h.of_db id
    · rename_i phase hp
      exact h.scanStep hsafe hdraws hcalm hp

lemma step (h : Awaited binding asked w) (hsafe : DiscoverySafe binding w) {l : DiscoveryStep}
    (hcalm : l.calm = true) : Awaited binding asked (discoveryStep binding w l) := by
  unfold discoveryStep
  split
  · exact h
  · rename_i hnew
    refine h.act hsafe (fun fresh hfresh hdrawn => hnew ?_) hcalm
    rw [hfresh]
    simpa using hdrawn

/-- What a trigger asks for is awaited from then on. -/
lemma discover (hlog : ∀ e ∈ asked, e ∈ w.log.entries) :
    Awaited binding asked (discoveryStep binding w .discover) := by
  unfold discoveryStep
  rw [if_neg (by simp [DiscoveryStep.draws])]
  unfold DiscoveryWorld.act
  dsimp only
  split
  · exact running hlog rfl (Or.inr trivial)
  · rename_i phase hp
    exact running hlog hp (Or.inl rfl)

end Awaited

lemma awaited_run (hsafe : DiscoverySafe binding w) (h : Awaited binding asked w)
    {ls : List DiscoveryStep} (hcalm : ∀ l ∈ ls, l.calm = true) :
    DiscoverySafe binding (run (discoveryStep binding) w ls) ∧
      Awaited binding asked (run (discoveryStep binding) w ls) := by
  induction ls generalizing w with
  | nil => exact ⟨hsafe, h⟩
  | cons l ls ih =>
    exact ih (hsafe.step l) (h.step hsafe (hcalm l mem_cons_self))
      (fun l hl => hcalm l (mem_cons_of_mem _ hl))

/-- A trigger is never lost: whatever came before it, once no scan runs any more and nothing
failed, died or was damaged meanwhile, the stored wake state is valid, and every direct reply the
log had at the trigger is delivered or has its row. -/
theorem trigger_not_lost {db : Db} (h : FreshWake binding db) (log : ServerLog)
    (before after : List DiscoveryStep) (hcalm : ∀ l ∈ after, l.calm = true) :
    (let asked := run (discoveryStep binding) (.start db log) before
    let w := run (discoveryStep binding) asked (.discover :: after)
    w.scanning = none → wakeProblems w.db (bindingFingerprint binding) = [] ∧
      ∃ d, loadDelivery w.db (bindingFingerprint binding) = some d ∧
        ∀ p ∈ wantedPoints binding false asked.log, p ≤ d.floor ∨
          ∃ row ∈ w.db.wake_replies (bindingFingerprint binding), row.point = p) := by
  intro asked w hidle
  have hbefore : DiscoverySafe binding asked := invariant (discoveryStep binding)
    (DiscoverySafe binding) (fun _ l hw => hw.step l) (h.discoverySafe log) before
  obtain ⟨hsafe, hawaited⟩ := awaited_run (hbefore.step .discover)
    (Awaited.discover (w := asked) (fun e (he : e ∈ asked.log.entries) => he)) hcalm
  obtain ⟨s, d, hs, hd, hcaught⟩ := hawaited.idle hidle
  refine ⟨hs.problems, d, hs.delivery.trans hd, fun p hp => ?_⟩
  obtain ⟨e, he, hdirect, rfl⟩ := mem_directPoints.mp hp
  rcases hcaught e he with hle | hreach
  · exact Or.inl hle
  · by_cases hfloor : e.point ≤ d.floor
    · exact Or.inl hfloor
    · have hw := mem_directPoints.mpr ⟨e, hawaited.log e he, hdirect, rfl⟩
      have hrow := ((hsafe.stored.of_holds hs).exact_ d hd e.point).mpr
        ⟨hw, not_le.mp hfloor, hreach⟩
      rw [← hs.rows] at hrow
      exact Or.inr hrow

end World

section Bound

attribute [local instance] plainPlatform

/-- A scan that finds one page. -/
def onePage : List DiscoveryStep :=
  [.scan "a", .read 1, .merge "b" 0, .tick "c" 0 "batch"]

/-- A reply comes and is found. -/
def oneFound : List DiscoveryStep := .append firstReply :: .discover :: onePage

/-- The world after it. -/
def worldFound : DiscoveryWorld := run (discoveryStep boundBinding) (.start wakeDb emptyLog) oneFound

lemma worldFound_eq :
    run (discoveryStep boundBinding) (.start wakeDb emptyLog) oneFound = worldFound := rfl

lemma worldFound_asked : run (discoveryStep boundBinding)
    (run (discoveryStep boundBinding) (.start wakeDb emptyLog) [.append firstReply])
      (.discover :: onePage) = worldFound := by
  rw [← run_append]
  exact worldFound_eq

lemma worldFound_eval : worldFound.scanning = none ∧
    (loadDocument worldFound.db (bindingFingerprint boundBinding)).toOption.isSome = true ∧
    (loadDelivery worldFound.db (bindingFingerprint boundBinding)).isSome = true := by
  decide +kernel

theorem discovery_exact_one :
    ∃ doc d, loadDocument worldFound.db (bindingFingerprint boundBinding) = .ok doc ∧
      loadDelivery worldFound.db (bindingFingerprint boundBinding) = some d ∧
      ((∃ row ∈ worldFound.db.wake_replies (bindingFingerprint boundBinding),
          row.point = firstReply.point) ↔
        firstReply.point ∈ wantedPoints boundBinding false worldFound.log ∧
        d.floor < firstReply.point ∧ Reached doc.frontier firstReply.point) := by
  obtain ⟨-, hdoc, hd⟩ := worldFound_eval
  obtain ⟨d, hd⟩ := Option.isSome_iff_exists.mp hd
  cases hload : loadDocument worldFound.db (bindingFingerprint boundBinding) with
  | error e => rw [hload] at hdoc; cases hdoc
  | ok doc =>
    have hexact := discovery_exact freshWake_bound emptyLog oneFound
    dsimp only at hexact
    rw [worldFound_eq] at hexact
    exact ⟨doc, d, rfl, hd, hexact doc d hload hd firstReply.point⟩

/-- The log of one reply, and a trigger whose scan ends after a page. -/
theorem trigger_not_lost_one :
    ∃ d, loadDelivery worldFound.db (bindingFingerprint boundBinding) = some d ∧
      ∀ p ∈ wantedPoints boundBinding false (run (discoveryStep boundBinding)
          (.start wakeDb emptyLog) [.append firstReply]).log, p ≤ d.floor ∨
        ∃ row ∈ worldFound.db.wake_replies (bindingFingerprint boundBinding), row.point = p := by
  have hlost := trigger_not_lost freshWake_bound emptyLog [.append firstReply] onePage (by decide)
  dsimp only at hlost
  rw [worldFound_asked] at hlost
  exact (hlost worldFound_eval.1).2

end Bound

end BorgClient.Representative
