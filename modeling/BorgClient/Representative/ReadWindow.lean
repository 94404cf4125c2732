import BorgClient.Representative.DeliveryRuns
import BorgClient.Representative.Serialize

/-!
# What a read returns

One read over one log: the pages of its scan together hold every entry after the floor, and the
replies it returns are counted off those entries.
-/

namespace BorgClient.Representative
open Platform List Tables Runs

/-! ### The scan of a whole log -/

def ServerLog.after (log : ServerLog) (cursor : Option LocalServerCursor) : List LogEntry :=
  log.entries.filter (fun e => 0 < comparePoints e.point cursor)

/-- A page has between one and `READ_SCAN_PAGE` entries, as the server chooses. -/
def pageSize (size : ℕ) : ℕ := min (max size 1) READ_SCAN_PAGE

lemma pageSize_pos (size : ℕ) : 0 < pageSize size := by
  unfold pageSize READ_SCAN_PAGE
  omega

/-- `readAfter(cursor, READ_SCAN_PAGE)` -/
def ServerLog.answer (log : ServerLog) (cursor : Option LocalServerCursor) (size : ℕ) : Page :=
  ⟨log.pageAfter cursor (pageSize size), decide (pageSize size < (log.after cursor).length)⟩

/-- The entries a scan from a floor considers. -/
def ServerLog.beyond (log : ServerLog) (floor : LocalServerCursor) : List LogEntry :=
  log.entries.filter (fun e => floor < e.point)

lemma ServerLog.after_some (log : ServerLog) (cursor : LocalServerCursor) :
    log.after (some cursor) = log.beyond cursor := by
  simp only [ServerLog.after, ServerLog.beyond, comparePoints_pos]

lemma ServerLog.beyond_sorted (log : ServerLog) (floor : LocalServerCursor) :
    (log.beyond floor).Pairwise (fun a b => a.point < b.point) := log.sorted.filter _

/-- Behind the last entry of a page stands what the page left out. -/
lemma ServerLog.after_page {log : ServerLog} {cursor : Option LocalServerCursor} {n : ℕ}
    {tail : LogEntry} (htail : ((log.after cursor).take n).getLast? = some tail) :
    log.after (some tail.point) = (log.after cursor).drop n := by
  have hsorted : (log.after cursor).Pairwise (fun a b => a.point < b.point) := log.sorted.filter _
  have hsplit := hsorted
  rw [← take_append_drop n (log.after cursor), pairwise_append] at hsplit
  have hmem : tail ∈ log.after cursor := mem_of_mem_take (mem_of_getLast? htail)
  have hfilter : log.beyond tail.point =
      (log.after cursor).filter (fun e => tail.point < e.point) := by
    unfold ServerLog.beyond ServerLog.after
    rw [filter_filter]
    apply filter_congr
    intro e _
    cases cursor with
    | none => simp [comparePoints]
    | some c =>
      have hc : c < tail.point := by
        have := (mem_filter.mp hmem).2
        rwa [decide_eq_true_eq, comparePoints_pos] at this
      rw [Bool.eq_iff_iff]
      simp only [decide_eq_true_eq, Bool.and_eq_true, comparePoints_pos]
      exact ⟨fun h => ⟨h, hc.trans h⟩, fun h => h.1⟩
  rw [ServerLog.after_some, hfilter]
  conv_lhs => rw [← take_append_drop n (log.after cursor), filter_append]
  have htake : ((log.after cursor).take n).filter (fun e => tail.point < e.point) = [] := by
    rw [filter_eq_nil_iff]
    intro e he
    obtain ⟨front, hfront⟩ := getLast?_eq_some_iff.mp htail
    rw [hfront] at he
    rcases List.mem_append.mp he with he | he
    · have hs := hsplit.1
      rw [hfront, pairwise_append] at hs
      simpa using (hs.2.2 e he tail (by simp)).le
    · rw [mem_singleton.mp he]
      simp
  have hdrop : ((log.after cursor).drop n).filter (fun e => tail.point < e.point) =
      (log.after cursor).drop n := by
    rw [filter_eq_self]
    intro e he
    simpa using hsplit.2.2 tail (mem_of_getLast? htail) e he
  rw [htake, hdrop, nil_append]

/-! ### The addressed entries of a list -/

section Addressed
variable (binding : RepresentativeBinding) (input : ReadInput)

def addressedOf (entries : List LogEntry) : List LogEntry :=
  entries.filter (fun e => (wanted binding input.include_broadcast e).isSome)

/-- The unaddressed entries before the addressed one at place `n`, or all when there is none. -/
def ignoredBefore (entries : List LogEntry) (n : ℕ) : ℕ :=
  (entries.filter (fun e => (wanted binding input.include_broadcast e).isNone &&
    ((addressedOf binding input entries)[n]?).all (fun next => e.point < next.point))).length

variable {binding input}

/-- With no addressed entry at its place, every unaddressed one counts. -/
lemma ignoredBefore_all {entries : List LogEntry} {n : ℕ}
    (h : (addressedOf binding input entries).length ≤ n) :
    ignoredBefore binding input entries n =
      (entries.filter (fun e => (wanted binding input.include_broadcast e).isNone)).length := by
  unfold ignoredBefore
  rw [getElem?_eq_none h]
  simp

lemma ignoredBefore_mono {entries : List LogEntry}
    (hs : entries.Pairwise (fun a b => a.point < b.point)) (n : ℕ) :
    ignoredBefore binding input entries n ≤ ignoredBefore binding input entries (n + 1) := by
  unfold ignoredBefore
  apply Sublist.length_le
  apply monotone_filter_right
  intro e he
  simp only [Bool.and_eq_true] at he ⊢
  refine ⟨he.1, ?_⟩
  have hsorted : (addressedOf binding input entries).Pairwise (fun a b => a.point < b.point) :=
    hs.filter _
  by_cases hnext : n + 1 < (addressedOf binding input entries).length
  · have hn : n < (addressedOf binding input entries).length := by omega
    rw [getElem?_eq_getElem hnext]
    rw [getElem?_eq_getElem hn] at he
    simp only [Option.all_some, decide_eq_true_eq] at he ⊢
    exact he.2.trans (pairwise_iff_getElem.mp hsorted n (n + 1) hn hnext (by omega))
  · rw [getElem?_eq_none (by omega)]
    rfl

end Addressed

/-! ### The loop -/

section Scan
variable [ReadText] (binding : RepresentativeBinding) (input : ReadInput) (requestIds : List Uuid)

/-- `scan: for (;;)`, a page size for each request. -/
def scanLoop (log : ServerLog) (sizes : ℕ → ℕ) : ℕ → ScanState → ScanState
  | 0, s => s
  | fuel + 1, s =>
    if s.done then s
    else scanLoop log sizes fuel
      (scanPage binding input requestIds s (log.answer s.cursor (sizes fuel)))

/-- Every page but the last takes an entry off the log, so there are no more pages than entries. -/
def scanLog (log : ServerLog) (sizes : ℕ → ℕ) (cursor : Option LocalServerCursor)
    (floor : LocalServerCursor) : ScanState :=
  scanLoop binding input requestIds log sizes (log.entries.length + 1) ⟨[], 0, cursor, floor, false⟩

variable {binding input requestIds}

lemma scanEntry_setCursor (s : ScanState) (c : Option LocalServerCursor) (e : LogEntry) :
    scanEntry binding input requestIds { s with cursor := c } e =
      { scanEntry binding input requestIds s e with cursor := c } := by
  unfold scanEntry
  split
  · rfl
  · split <;> rfl

lemma foldl_setCursor (entries : List LogEntry) (s : ScanState) (c : Option LocalServerCursor) :
    entries.foldl (scanEntry binding input requestIds) { s with cursor := c } =
      { entries.foldl (scanEntry binding input requestIds) s with cursor := c } := by
  induction entries generalizing s with
  | nil => rfl
  | cons e rest ih => rw [foldl_cons, foldl_cons, scanEntry_setCursor, ih]

lemma scanLoop_done {log : ServerLog} {sizes : ℕ → ℕ} {s : ScanState} (hd : s.done = true)
    (fuel : ℕ) : scanLoop binding input requestIds log sizes fuel s = s := by
  cases fuel with
  | zero => rfl
  | succ fuel =>
    unfold scanLoop
    rw [if_pos hd]

/-- The loop ends, and it has considered every entry behind its cursor. -/
lemma scanLoop_eq (binding : RepresentativeBinding) (input : ReadInput) (requestIds : List Uuid)
    (log : ServerLog) (sizes : ℕ → ℕ) (fuel : ℕ) {s : ScanState}
    (hd : s.done = false) (hfuel : (log.after s.cursor).length < fuel) :
    (scanLoop binding input requestIds log sizes fuel s).done = true ∧
      (scanLoop binding input requestIds log sizes fuel s).candidates =
        ((log.after s.cursor).foldl (scanEntry binding input requestIds) s).candidates ∧
      (scanLoop binding input requestIds log sizes fuel s).ignored =
        ((log.after s.cursor).foldl (scanEntry binding input requestIds) s).ignored := by
  induction fuel generalizing s with
  | zero => omega
  | succ fuel ih =>
    unfold scanLoop
    rw [if_neg (by simp [hd])]
    have hn := pageSize_pos (sizes fuel)
    set n := pageSize (sizes fuel) with hnDef
    set rest := log.after s.cursor with hrest
    set page := (rest.take n).foldl (scanEntry binding input requestIds) s with hpage
    have hfold : rest.foldl (scanEntry binding input requestIds) s =
        (rest.drop n).foldl (scanEntry binding input requestIds) page := by
      conv_lhs => rw [← take_append_drop n rest, foldl_append]
    have hentries : (log.answer s.cursor (sizes fuel)).entries = rest.take n := rfl
    have hmore : (log.answer s.cursor (sizes fuel)).has_more = decide (n < rest.length) := rfl
    unfold scanPage
    rw [hentries, hmore]
    dsimp only
    rw [← hpage]
    by_cases hpd : page.done = true
    · rw [if_pos hpd, scanLoop_done hpd, hfold, foldl_scanEntry_done hpd]
      exact ⟨hpd, rfl, rfl⟩
    · rw [if_neg hpd]
      cases htail : (rest.take n).getLast? with
      | none =>
        have hnil : rest = [] := by
          have := getLast?_eq_none_iff.mp htail
          rcases take_eq_nil_iff.mp this with h | h
          · omega
          · exact h
        dsimp only
        rw [scanLoop_done rfl]
        have hself : page = s := by rw [hpage, hnil, take_nil, foldl_nil]
        rw [hself, hnil, foldl_nil]
        exact ⟨rfl, rfl, rfl⟩
      | some tail =>
        dsimp only
        have hafter : log.after (some tail.point) = rest.drop n := ServerLog.after_page htail
        by_cases hlong : n < rest.length
        · rw [if_pos (by simpa using hlong)]
          have hlength : (log.after ({ page with cursor := some tail.point } : ScanState).cursor).length
              < fuel := by
            dsimp only
            rw [hafter, length_drop]
            omega
          obtain ⟨hdone, hcandidates, hignored⟩ := ih (s := { page with cursor := some tail.point })
            (by simpa using hpd) hlength
          dsimp only at hcandidates hignored
          rw [hafter, foldl_setCursor] at hcandidates hignored
          exact ⟨hdone, by rw [hcandidates, hfold], by rw [hignored, hfold]⟩
        · rw [if_neg (by simpa using hlong), scanLoop_done rfl]
          have hdrop : rest.drop n = [] := drop_eq_nil_of_le (by omega)
          rw [hfold, hdrop, foldl_nil]
          exact ⟨rfl, rfl, rfl⟩

/-! ### The entries behind the candidates -/

variable (binding input requestIds)

/-- The candidates of a list of entries, `ignored` of them before it. -/
def candidatesOf (ignored : ℕ) : List LogEntry → List Candidate
  | [] => []
  | e :: rest =>
    match wanted binding input.include_broadcast e with
    | none => candidatesOf (ignored + 1) rest
    | some addressed =>
      ⟨replyOf binding requestIds e addressed, e.point, ignored⟩ :: candidatesOf ignored rest

/-- The addressed entries, as replies. -/
def repliesOf (entries : List LogEntry) : List RepresentativeReply :=
  entries.filterMap (fun e => (wanted binding input.include_broadcast e).map
    (replyOf binding requestIds e))

variable {binding input requestIds}

lemma candidatesOf_replies (ignored : ℕ) (entries : List LogEntry) :
    (candidatesOf binding input requestIds ignored entries).map (·.reply) =
      repliesOf binding input requestIds entries := by
  induction entries generalizing ignored with
  | nil => rfl
  | cons e rest ih =>
    unfold candidatesOf repliesOf
    cases hw : wanted binding input.include_broadcast e with
    | none =>
      simp only [filterMap_cons, hw, Option.map_none]
      exact ih (ignored + 1)
    | some addressed =>
      simp only [filterMap_cons, hw, Option.map_some, map_cons]
      exact congrArg _ (ih ignored)

lemma candidatesOf_length (requestIds : List Uuid) (ignored : ℕ) (entries : List LogEntry) :
    (candidatesOf binding input requestIds ignored entries).length =
      (addressedOf binding input entries).length := by
  induction entries generalizing ignored with
  | nil => rfl
  | cons e rest ih =>
    unfold candidatesOf addressedOf
    cases hw : wanted binding input.include_broadcast e with
    | none =>
      simp only [filter_cons, hw, Option.isSome_none, Bool.false_eq_true, if_false]
      exact ih (ignored + 1)
    | some addressed =>
      simp only [filter_cons, hw, Option.isSome_some, if_true, length_cons]
      exact congrArg (· + 1) (ih ignored)

/-- A candidate carries the number of unaddressed entries before it. -/
lemma candidatesOf_ignored {entries : List LogEntry}
    (hs : entries.Pairwise (fun a b => a.point < b.point)) (ignored n : ℕ) {c : Candidate}
    (hc : (candidatesOf binding input requestIds ignored entries)[n]? = some c) :
    c.ignoredBefore = ignored + ignoredBefore binding input entries n := by
  induction entries generalizing ignored n with
  | nil => simp [candidatesOf] at hc
  | cons e rest ih =>
    obtain ⟨hfirst, hrest⟩ := pairwise_cons.mp hs
    unfold candidatesOf at hc
    cases hw : wanted binding input.include_broadcast e with
    | none =>
      rw [hw] at hc
      dsimp only at hc
      rw [ih hrest (ignored + 1) n hc]
      have hsame : addressedOf binding input (e :: rest) = addressedOf binding input rest := by
        simp [addressedOf, hw]
      have hlt : n < (addressedOf binding input rest).length := by
        rw [← candidatesOf_length requestIds (ignored + 1)]
        exact (List.getElem?_eq_some_iff.mp hc).1
      have hnext : e.point < ((addressedOf binding input rest)[n]).point :=
        hfirst _ (mem_filter.mp (getElem_mem hlt)).1
      unfold ignoredBefore
      rw [hsame, getElem?_eq_getElem hlt]
      simp only [filter_cons, hw, Option.isNone_none, Option.all_some, Bool.true_and,
        decide_eq_true_eq, hnext, if_true, length_cons]
      omega
    | some addressed =>
      rw [hw] at hc
      dsimp only at hc
      have hcons : addressedOf binding input (e :: rest) =
          e :: addressedOf binding input rest := by simp [addressedOf, hw]
      cases n with
      | zero =>
        rw [getElem?_cons_zero, Option.some.injEq] at hc
        subst hc
        have hnone : ignoredBefore binding input (e :: rest) 0 = 0 := by
          unfold ignoredBefore
          rw [hcons, getElem?_cons_zero, length_eq_zero_iff, filter_eq_nil_iff]
          intro x hx
          rcases mem_cons.mp hx with rfl | hx
          · simp [hw]
          · have := (hfirst x hx).not_gt
            simp [this]
        rw [hnone]
        rfl
      | succ n =>
        rw [getElem?_cons_succ] at hc
        rw [ih hrest ignored n hc]
        unfold ignoredBefore
        rw [hcons, getElem?_cons_succ]
        simp [hw]

/-- Entries at or before the last position are passed over. -/
lemma foldl_beyond {entries : List LogEntry}
    (hs : entries.Pairwise (fun a b => a.point < b.point)) (s : ScanState) :
    entries.foldl (scanEntry binding input requestIds) s =
      (entries.filter (fun e => s.last < e.point)).foldl (scanEntry binding input requestIds) s := by
  induction entries with
  | nil => rfl
  | cons e rest ih =>
    obtain ⟨hfirst, hrest⟩ := pairwise_cons.mp hs
    by_cases hlast : s.last < e.point
    · have hall : rest.filter (fun x => s.last < x.point) = rest := by
        rw [filter_eq_self]
        intro x hx
        simpa using hlast.trans (hfirst x hx)
      rw [filter_cons_of_pos (by simpa using hlast), hall]
    · have hskip : scanEntry binding input requestIds s e = s := by
        unfold scanEntry
        rw [if_pos (by simp [comparePoints_nonpos.mpr (not_lt.mp hlast)])]
      rw [foldl_cons, hskip, filter_cons_of_neg (by simpa using hlast), ih hrest]

/-- The scan of entries in order: their candidates up to one beyond the limit. -/
lemma foldl_candidates (binding : RepresentativeBinding) (input : ReadInput)
    (requestIds : List Uuid) {entries : List LogEntry}
    (hs : entries.Pairwise (fun a b => a.point < b.point)) {s : ScanState}
    (hlast : ∀ e ∈ entries, s.last < e.point) (hd : s.done = false)
    (hlimit : s.candidates.length ≤ input.limit) :
    (entries.foldl (scanEntry binding input requestIds) s).candidates =
        s.candidates ++ (candidatesOf binding input requestIds s.ignored entries).take
          (input.limit + 1 - s.candidates.length) ∧
      (s.candidates.length + (addressedOf binding input entries).length ≤ input.limit →
        (entries.foldl (scanEntry binding input requestIds) s).ignored = s.ignored +
          (entries.filter (fun e => (wanted binding input.include_broadcast e).isNone)).length) := by
  induction entries generalizing s with
  | nil => simp [candidatesOf]
  | cons e rest ih =>
    obtain ⟨hfirst, hrest⟩ := pairwise_cons.mp hs
    have hpos : ¬ comparePoints e.point (some s.last) ≤ 0 := by
      rw [comparePoints_nonpos]
      exact not_le.mpr (hlast e mem_cons_self)
    rw [foldl_cons]
    cases hw : wanted binding input.include_broadcast e with
    | none =>
      have hstep : scanEntry binding input requestIds s e =
          { s with last := e.point, ignored := s.ignored + 1 } := by
        unfold scanEntry
        rw [if_neg (by simpa [hd] using hpos), hw]
      obtain ⟨hcandidates, hignored⟩ := ih hrest
        (s := { s with last := e.point, ignored := s.ignored + 1 }) hfirst hd hlimit
      have hsame : addressedOf binding input (e :: rest) = addressedOf binding input rest := by
        simp [addressedOf, hw]
      rw [hstep, hcandidates, hsame]
      refine ⟨by simp [candidatesOf, hw], fun hle => ?_⟩
      rw [hignored hle]
      simp only [filter_cons, hw, Option.isNone_none, if_true, length_cons]
      omega
    | some addressed =>
      have hcons : addressedOf binding input (e :: rest) =
          e :: addressedOf binding input rest := by simp [addressedOf, hw]
      set c : Candidate := ⟨replyOf binding requestIds e addressed, e.point, s.ignored⟩ with hc
      have hstep : scanEntry binding input requestIds s e =
          { s with last := e.point, candidates := s.candidates ++ [c],
                   done := decide ((s.candidates ++ [c]).length > input.limit) } := by
        unfold scanEntry
        rw [if_neg (by simpa [hd] using hpos), hw]
      have hcandidatesOf : candidatesOf binding input requestIds s.ignored (e :: rest) =
          c :: candidatesOf binding input requestIds s.ignored rest := by
        simp [candidatesOf, hw, hc]
      rw [hstep, hcandidatesOf, hcons]
      by_cases hfull : s.candidates.length = input.limit
      · have hdone : (decide ((s.candidates ++ [c]).length > input.limit)) = true := by
          simp [hfull]
        rw [foldl_scanEntry_done (by exact hdone)]
        refine ⟨by simp [hfull], fun hle => ?_⟩
        rw [length_cons] at hle
        omega
      · have hopen : (decide ((s.candidates ++ [c]).length > input.limit)) = false := by
          simp only [length_append, length_singleton, decide_eq_false_iff_not]
          omega
        rw [hopen]
        have hlen : (s.candidates ++ [c]).length ≤ input.limit := by
          rw [length_append, length_singleton]
          omega
        obtain ⟨hcandidates, hignored⟩ := ih hrest
          (s := { s with last := e.point, candidates := s.candidates ++ [c], done := false })
          hfirst rfl hlen
        refine ⟨?_, fun hle => ?_⟩
        · rw [hcandidates]
          have hsub : input.limit + 1 - s.candidates.length =
              (input.limit + 1 - (s.candidates ++ [c]).length) + 1 := by
            rw [length_append, length_singleton]
            omega
          rw [hsub, take_succ_cons, append_assoc]
          rfl
        · rw [length_cons] at hle
          rw [hignored (by rw [length_append, length_singleton]; omega)]
          simp [hw]

/-- A scan that has considered these entries. -/
structure Scanned (binding : RepresentativeBinding) (input : ReadInput) (requestIds : List Uuid)
    (entries : List LogEntry) (s : ScanState) : Prop where
  candidates : s.candidates =
    (candidatesOf binding input requestIds 0 entries).take (input.limit + 1)
  ignored : (addressedOf binding input entries).length ≤ input.limit → s.ignored =
    (entries.filter (fun e => (wanted binding input.include_broadcast e).isNone)).length

variable {entries : List LogEntry} {s : ScanState}

lemma repliesOf_length :
    (repliesOf binding input requestIds entries).length =
      (addressedOf binding input entries).length := by
  rw [← candidatesOf_replies 0, length_map, candidatesOf_length]

lemma repliesOf_ids (requestIds : List Uuid) :
    (repliesOf binding input requestIds entries).map (·.entry_id) =
      (addressedOf binding input entries).map (·.id) := by
  unfold repliesOf addressedOf
  induction entries with
  | nil => rfl
  | cons e rest ih =>
    cases hw : wanted binding input.include_broadcast e with
    | none => simpa [hw] using ih
    | some addressed => simpa [hw, replyOf] using ih

lemma Scanned.length (h : Scanned binding input requestIds entries s) :
    s.candidates.length = min (input.limit + 1) (addressedOf binding input entries).length := by
  rw [h.candidates, length_take, candidatesOf_length]

/-- The scan of a whole log has considered the entries beyond the floor. -/
lemma scanned_scanLog (log : ServerLog) (sizes : ℕ → ℕ) (requestIds : List Uuid)
    {cursor : Option LocalServerCursor} {floor : LocalServerCursor}
    (hcursor : ∀ c, cursor = some c → c ≤ floor) :
    Scanned binding input requestIds (log.beyond floor)
      (scanLog binding input requestIds log sizes cursor floor) := by
  have hsorted : (log.after cursor).Pairwise (fun a b => a.point < b.point) := log.sorted.filter _
  have hbeyond : (log.after cursor).filter (fun e => floor < e.point) = log.beyond floor := by
    unfold ServerLog.beyond ServerLog.after
    rw [filter_filter]
    apply filter_congr
    intro e _
    cases cursor with
    | none => simp [comparePoints]
    | some c =>
      rw [Bool.eq_iff_iff]
      simp only [decide_eq_true_eq, Bool.and_eq_true, comparePoints_pos]
      exact ⟨fun h => h.1, fun h => ⟨h, (hcursor c rfl).trans_lt h⟩⟩
  have hlength : (log.after cursor).length < log.entries.length + 1 :=
    Nat.lt_succ_of_le (length_filter_le _ _)
  obtain ⟨_, hcandidates, hignored⟩ := scanLoop_eq binding input requestIds log sizes
    (log.entries.length + 1) (s := ⟨[], 0, cursor, floor, false⟩) rfl hlength
  dsimp only at hcandidates hignored
  rw [foldl_beyond hsorted] at hcandidates hignored
  dsimp only at hcandidates hignored
  rw [hbeyond] at hcandidates hignored
  obtain ⟨hfold, hfold'⟩ := foldl_candidates binding input requestIds (log.beyond_sorted floor)
    (s := ⟨[], 0, cursor, floor, false⟩)
    (fun e he => by simpa using (mem_filter.mp he).2) rfl (Nat.zero_le _)
  constructor
  · unfold scanLog
    rw [hcandidates, hfold]
    rfl
  · intro hle
    unfold scanLog
    rw [hignored, hfold' (by simpa using hle)]
    exact Nat.zero_add _

end Scan

/-- The replies marked as oversize. -/
def flagged (result : ReadResult) : ReadResult :=
  { result with replies := result.replies.map (fun reply => { reply with oversize := true }) }

lemma flagged_length (result : ReadResult) : (flagged result).replies.length = result.replies.length :=
  length_map _

lemma reduceDocuments_ids (result : ReadResult) :
    (reduceDocuments result).replies.map (·.entry_id) = result.replies.map (·.entry_id) ∧
      (reduceDocuments result).has_more = result.has_more ∧
      (reduceDocuments result).ignored_entries = result.ignored_entries := by
  unfold reduceDocuments
  split
  · exact ⟨rfl, rfl, rfl⟩
  · rename_i heq
    rw [heq]
    exact ⟨rfl, rfl, rfl⟩

/-- The greedy count: every step up to it fits, and the next one does not. -/
lemma countFitting_spec (fits : ℕ → Bool) (remaining count : ℕ) :
    count ≤ countFitting fits remaining count ∧
      (∀ i, count < i → i ≤ countFitting fits remaining count → fits i = true) ∧
      (countFitting fits remaining count < count + remaining →
        fits (countFitting fits remaining count + 1) = false) := by
  induction remaining generalizing count with
  | zero => exact ⟨le_rfl, fun i hi hle => by unfold countFitting at hle; omega,
      fun h => by unfold countFitting at h; omega⟩
  | succ remaining ih =>
    unfold countFitting
    by_cases hfits : fits (count + 1) = true
    · rw [if_pos hfits]
      obtain ⟨hle, hall, hnext⟩ := ih (count + 1)
      refine ⟨by omega, fun i hi hi' => ?_, fun h => hnext (by omega)⟩
      by_cases heq : i = count + 1
      · rwa [heq]
      · exact hall i (by omega) hi'
    · rw [if_neg hfits]
      exact ⟨le_rfl, fun i hi hle => by omega, fun _ => by simpa using hfits⟩

/-! ### The result of a scan -/

section Window
variable [Platform] [ReadText] (binding : RepresentativeBinding) (input : ReadInput)
  (state : DeliveryState) (requestIds : List Uuid) (entries : List LogEntry)

/-- The result that returns the first `n` addressed entries. -/
def prefixResult (n : ℕ) : ReadResult where
  replies := (repliesOf binding input requestIds entries).take n
  checkpoint := checkpointView state.checkpoint
  has_more := decide (n < (addressedOf binding input entries).length)
  ignored_entries := ignoredBefore binding input entries n
  binding_fingerprint := bindingFingerprint binding
  delivery := REPRESENTATIVE_DELIVERY_NOTE

/-- The counts of replies that may be returned: no more than asked for, and together within
`max_bytes`. -/
def Fitting (n : ℕ) : Prop :=
  n ≤ input.limit ∧ n ≤ (addressedOf binding input entries).length ∧
    (n = 0 ∨ ReadText.byteLength (prefixResult binding input state requestIds entries n) ≤
      input.max_bytes)

/-- What a read of these entries returns: the longest prefix that fits, or the first entry alone
when it does not. -/
structure WindowExact (final : ReadResult) : Prop where
  replies :
    (∃ n, IsGreatest {n | Fitting binding input state requestIds entries n} n ∧
      (n = 0 → addressedOf binding input entries = []) ∧
      final = prefixResult binding input state requestIds entries n) ∨
    (addressedOf binding input entries ≠ [] ∧
      input.max_bytes <
        ReadText.byteLength (prefixResult binding input state requestIds entries 1) ∧
      (final = flagged (prefixResult binding input state requestIds entries 1) ∨
        final = reduceDocuments (flagged (prefixResult binding input state requestIds entries 1))))
  ids : final.replies.map (·.entry_id) =
    ((addressedOf binding input entries).take final.replies.length).map (·.id)
  has_more : final.has_more = true ↔
    final.replies.length < (addressedOf binding input entries).length
  ignored : final.ignored_entries = ignoredBefore binding input entries final.replies.length
  bound : final.replies ≠ [] →
    ReadText.byteLength final ≤ max input.max_bytes REPRESENTATIVE_ENVELOPE_FLOOR

variable {binding input state requestIds entries} {s : ScanState}

lemma Scanned.readResult (h : Scanned binding input requestIds entries s)
    (hs : entries.Pairwise (fun a b => a.point < b.point)) {n : ℕ} (hn : n ≤ input.limit) :
    readResult binding state s n false = prefixResult binding input state requestIds entries n := by
  have hlength := h.length
  have hreplies : (s.candidates.take n).map (·.reply) =
      (repliesOf binding input requestIds entries).take n := by
    rw [h.candidates, take_take, min_eq_left (by omega), map_take, candidatesOf_replies]
  unfold Representative.readResult prefixResult
  rw [ReadResult.mk.injEq]
  refine ⟨?_, rfl, ?_, ?_, rfl, rfl⟩
  · rw [hreplies]
    exact ext_getElem (by simp) (by simp)
  · rw [decide_eq_decide, hlength]
    omega
  · cases hc : s.candidates[n]? with
    | none =>
      have hle := List.getElem?_eq_none_iff.mp hc
      rw [h.ignored (by omega), ignoredBefore_all (by omega)]
    | some c =>
      rw [h.candidates, List.getElem?_take, if_pos (by omega)] at hc
      have := candidatesOf_ignored hs 0 n hc
      rw [Nat.zero_add] at this
      exact this

lemma Scanned.readResult_oversize (h : Scanned binding input requestIds entries s)
    (hs : entries.Pairwise (fun a b => a.point < b.point)) :
    Representative.readResult binding state s 1 true =
      flagged (prefixResult binding input state requestIds entries 1) := by
  rw [← h.readResult hs input.limit_bounds.1]
  unfold Representative.readResult flagged
  rw [ReadResult.mk.injEq]
  refine ⟨?_, rfl, rfl, rfl, rfl, rfl⟩
  cases s.candidates with
  | nil => rfl
  | cons c rest => rfl

/-- The text of a result grows with its replies. -/
def Grows (binding : RepresentativeBinding) (input : ReadInput) (state : DeliveryState)
    (requestIds : List Uuid) (entries : List LogEntry) : Prop :=
  ∀ n < (addressedOf binding input entries).length,
    ReadText.byteLength (prefixResult binding input state requestIds entries n) ≤
      ReadText.byteLength (prefixResult binding input state requestIds entries (n + 1))

lemma Grows.mono (h : Grows binding input state requestIds entries) {m n : ℕ} (hmn : m ≤ n)
    (hn : n ≤ (addressedOf binding input entries).length) :
    ReadText.byteLength (prefixResult binding input state requestIds entries m) ≤
      ReadText.byteLength (prefixResult binding input state requestIds entries n) := by
  induction n, hmn using Nat.le_induction with
  | base => exact le_rfl
  | succ n _ ih => exact (ih (by omega)).trans (h n (by omega))

/-- The count the loop stops at is the greatest that fits. -/
lemma Scanned.fittingCount (h : Scanned binding input requestIds entries s)
    (hs : entries.Pairwise (fun a b => a.point < b.point))
    (hgrows : Grows binding input state requestIds entries) :
    IsGreatest {n | Fitting binding input state requestIds entries n}
      (fittingCount binding input state s) := by
  have hbound : min input.limit s.candidates.length =
      min input.limit (addressedOf binding input entries).length := by
    rw [h.length]
    omega
  set fits : ℕ → Bool := fun count => decide (ReadText.byteLength
    (Representative.readResult binding state s count false) ≤ input.max_bytes) with hfits
  have hfitsIff : ∀ n ≤ input.limit, (fits n = true ↔ ReadText.byteLength
      (prefixResult binding input state requestIds entries n) ≤ input.max_bytes) := by
    intro n hn
    rw [hfits, decide_eq_true_eq, h.readResult hs hn]
  have hcount : Representative.fittingCount binding input state s =
      countFitting fits (min input.limit (addressedOf binding input entries).length) 0 := by
    unfold Representative.fittingCount
    rw [hbound]
  have hle := countFitting_le fits (min input.limit (addressedOf binding input entries).length) 0
  obtain ⟨_, hall, hnext⟩ :=
    countFitting_spec fits (min input.limit (addressedOf binding input entries).length) 0
  rw [hcount]
  set count := countFitting fits (min input.limit (addressedOf binding input entries).length) 0
  constructor
  · refine ⟨by omega, by omega, ?_⟩
    by_cases hzero : count = 0
    · exact Or.inl hzero
    · exact Or.inr ((hfitsIff count (by omega)).mp (hall count (by omega) le_rfl))
  · rintro n ⟨hlimit, hlength, hn⟩
    by_contra hlt
    have hstop := hnext (by omega)
    have hfit : fits (count + 1) = true := by
      rw [hfitsIff (count + 1) (by omega)]
      rcases hn with hn | hn
      · omega
      · exact (hgrows.mono (by omega) hlength).trans hn
    rw [hfit] at hstop
    cases hstop

/-- What a scan of these entries returns. -/
lemma Scanned.exact (h : Scanned binding input requestIds entries s)
    (hs : entries.Pairwise (fun a b => a.point < b.point))
    (hgrows : Grows binding input state requestIds entries) {final : ReadResult}
    (hfinal : finalResult binding input state s = .ok final) :
    WindowExact binding input state requestIds entries final := by
  have hgreatest : IsGreatest {n | Fitting binding input state requestIds entries n}
      (Representative.fittingCount binding input state s) := h.fittingCount hs hgrows
  have hlength := h.length
  have hlimit := input.limit_bounds.1
  unfold finalResult fittedResult at hfinal
  set count := Representative.fittingCount binding input state s
  dsimp only at hfinal
  by_cases hoversize : (count == 0 && decide (s.candidates.length > 0)) = true
  · rw [hoversize] at hfinal
    simp only [if_true, Bool.true_and] at hfinal
    rw [h.readResult_oversize hs] at hfinal
    simp only [Bool.and_eq_true, beq_iff_eq, decide_eq_true_eq] at hoversize
    obtain ⟨hcount, hsome⟩ := hoversize
    have hne : addressedOf binding input entries ≠ [] := by
      intro hnil
      rw [hlength, hnil, length_nil] at hsome
      omega
    have hpos := length_pos_iff.mpr hne
    have hlong : input.max_bytes <
        ReadText.byteLength (prefixResult binding input state requestIds entries 1) := by
      by_contra hfit
      have := hgreatest.2 (show Fitting binding input state requestIds entries 1 from
        ⟨hlimit, by omega, Or.inr (not_lt.mp hfit)⟩)
      omega
    have hone : (prefixResult binding input state requestIds entries 1).replies.length = 1 := by
      unfold prefixResult
      rw [length_take, repliesOf_length]
      omega
    have hids : (flagged (prefixResult binding input state requestIds entries 1)).replies.map
        (·.entry_id) = ((addressedOf binding input entries).take 1).map (·.id) := by
      unfold flagged prefixResult
      rw [map_map, map_take, map_take, ← repliesOf_ids requestIds]
      rfl
    have hshape : ∀ result : ReadResult,
        result = flagged (prefixResult binding input state requestIds entries 1) ∨
          result = reduceDocuments (flagged (prefixResult binding input state requestIds entries 1)) →
        ReadText.byteLength result ≤ max input.max_bytes REPRESENTATIVE_ENVELOPE_FLOOR →
        WindowExact binding input state requestIds entries result := by
      intro result hresult hbound
      have hlen : result.replies.length = 1 := by
        rcases hresult with rfl | rfl
        · rw [flagged_length, hone]
        · rw [reduceDocuments_replies_length, flagged_length, hone]
      have hrest : result.replies.map (·.entry_id) =
            (flagged (prefixResult binding input state requestIds entries 1)).replies.map
              (·.entry_id) ∧
          result.has_more = decide (1 < (addressedOf binding input entries).length) ∧
          result.ignored_entries = ignoredBefore binding input entries 1 := by
        rcases hresult with rfl | rfl
        · exact ⟨rfl, rfl, rfl⟩
        · exact reduceDocuments_ids _
      refine ⟨Or.inr ⟨hne, hlong, hresult⟩, ?_, ?_, ?_, fun _ => hbound⟩
      · rw [hlen, hrest.1, hids]
      · rw [hlen, hrest.2.1, decide_eq_true_eq]
      · rw [hlen, hrest.2.2]
    split at hfinal
    · split at hfinal
      · cases hfinal
      · rename_i hbound
        cases hfinal
        simp only [Bool.true_and, decide_eq_true_eq] at hbound
        exact hshape _ (Or.inr rfl) (not_lt.mp hbound)
    · split at hfinal
      · cases hfinal
      · rename_i hbound
        cases hfinal
        simp only [Bool.true_and, decide_eq_true_eq] at hbound
        exact hshape _ (Or.inl rfl) (not_lt.mp hbound)
  · rw [Bool.not_eq_true] at hoversize
    rw [hoversize] at hfinal
    simp only [Bool.false_eq_true, if_false, Bool.false_and] at hfinal
    rw [h.readResult hs hgreatest.1.1] at hfinal
    cases hfinal
    have hzero : count = 0 → addressedOf binding input entries = [] := by
      intro hcount
      simp only [hcount, beq_self_eq_true, Bool.true_and, decide_eq_false_iff_not, not_lt,
        Nat.le_zero] at hoversize
      rw [hlength] at hoversize
      exact length_eq_zero_iff.mp (by omega)
    have hlen : (prefixResult binding input state requestIds entries count).replies.length =
        count := by
      unfold prefixResult
      rw [length_take, repliesOf_length]
      have := hgreatest.1.2.1
      omega
    refine ⟨Or.inl ⟨count, hgreatest, hzero, rfl⟩, ?_, ?_, ?_, ?_⟩
    · rw [hlen]
      unfold prefixResult
      rw [map_take, map_take, repliesOf_ids]
    · rw [hlen]
      simp [prefixResult]
    · rw [hlen]
      rfl
    · intro hsome
      rcases hgreatest.1.2.2 with hcount | hfit
      · rw [← length_pos_iff, hlen, hcount] at hsome
        omega
      · exact hfit.trans (le_max_left _ _)

end Window

/-! ### A call -/

section Call
variable [Platform] [ReadText] (binding : RepresentativeBinding) (input : ReadInput)

/-- `readRepresentativeReplies` from its snapshot on. The log stays as it is during the scan;
`between` is what other processes do to the database before the widening transaction. -/
def readReplies (log : ServerLog) (sizes : ℕ → ℕ) (between : Db → Db) (db : Db) :
    Except RepresentativeError ReadResult × Db :=
  match (transact db (readSnapshot binding)).1 with
  | .error e => (.error e, db)
  | .ok (state, requestIds) =>
    match scanStart state with
    | .error e => (.error e, db)
    | .ok (cursor, floor) =>
      let s := scanLog binding input requestIds log sizes cursor floor
      match finalResult binding input state s with
      | .error e => (.error e, db)
      | .ok final =>
        match transact (between db) (widenTransaction binding (readWindow s final)) with
        | (.error e, db) => (.error e, db)
        | (.ok (), db) => (.ok final, db)

variable {binding input} {log : ServerLog} {sizes : ℕ → ℕ} {between : Db → Db} {db : Db}
  {final : ReadResult}

/-- A call that returns has read its snapshot and returns what its scan found. -/
lemma readReplies_ok (h : (readReplies binding input log sizes between db).1 = .ok final) :
    ∃ state requestIds cursor, (transact db (readSnapshot binding)).1 = .ok (state, requestIds) ∧
      scanStart state = .ok (cursor, state.floor) ∧
      Scanned binding input requestIds (log.beyond state.floor)
        (scanLog binding input requestIds log sizes cursor state.floor) ∧
      finalResult binding input state
        (scanLog binding input requestIds log sizes cursor state.floor) = .ok final := by
  unfold readReplies at h
  split at h
  · cases h
  · rename_i state requestIds hsnapshot
    split at h
    · cases h
    · rename_i cursor floor hstart
      obtain ⟨_, rfl, hcursor⟩ := scanStart_ok hstart
      dsimp only at h
      split at h
      · cases h
      · rename_i final' hfinal
        split at h
        · cases h
        · cases h
          exact ⟨state, requestIds, cursor, hsnapshot, hstart,
            scanned_scanLog log sizes requestIds hcursor, hfinal⟩

/-- A call that fails has written nothing. -/
lemma readReplies_error {e : RepresentativeError}
    (h : (readReplies binding input log sizes between db).1 = .error e) :
    (readReplies binding input log sizes between db).2 = db ∨
      (readReplies binding input log sizes between db).2 = between db := by
  unfold readReplies at h ⊢
  split at h
  · exact Or.inl rfl
  · split at h
    · exact Or.inl rfl
    · dsimp only at h ⊢
      split at h
      · exact Or.inl rfl
      · split at h
        · rename_i heq
          right
          dsimp only
          rw [← transact_error (congrArg Prod.fst heq), heq]
        · cases h

end Call

end BorgClient.Representative
