import BorgClient.Monitor.EventLine

/-!
# Whether the inbox holds an entry

The content is searched for the id's marker at any position, so the answer is about the entry only
when no other line quotes the marker (`log-stream.ts`).
-/

namespace BorgClient.Monitor
open List
open Stream (EnrichedEntry StreamText formatInboxLine firstNonEmptyString joinLines splitLines
  removeFirst legacyForm includesText inboxRawHasEntry)

def entryIdOf (entry : EnrichedEntry) : String := firstNonEmptyString [entry.id, entry.entry_id]

def markerOf (entryId : String) : List Char := ("[entry_id: " ++ entryId ++ "]").toList

/-- A line of the content is the entry's line, as it is written now or as it was before lines
carried the id. -/
def HoldsEntry (raw : List Char) (entryId line : String) : Prop :=
  line.toList ∈ splitLines raw ∨ legacyForm entryId line ∈ splitLines raw

/-! ### Texts within texts -/

lemma includesText_iff (raw text : List Char) : includesText raw text = true ↔ text <:+: raw := by
  unfold includesText
  rw [any_eq_true, infix_iff_prefix_suffix]
  constructor
  · rintro ⟨rest, hrest, hp⟩
    exact ⟨rest, isPrefixOf_iff_prefix.mp hp, (mem_tails rest raw).mp hrest⟩
  · rintro ⟨rest, hp, hs⟩
    exact ⟨rest, (mem_tails rest raw).mpr hs, isPrefixOf_iff_prefix.mpr hp⟩

/-- The first line starts the text, and every line stands somewhere in it. -/
lemma splitLines_within (raw : List Char) :
    (∀ line, (splitLines raw).head? = some line → line <+: raw) ∧
      ∀ line ∈ splitLines raw, line <:+: raw := by
  fun_induction splitLines raw with
  | case1 => simp
  | case2 rest ih =>
    refine ⟨fun line h => ?_, fun line h => ?_⟩
    · cases h
      exact nil_prefix
    · rcases mem_cons.mp h with rfl | h
      · exact nil_infix
      · exact ((ih.2 line h).trans (suffix_cons _ _).isInfix).trans (suffix_cons _ _).isInfix
  | case3 rest ih =>
    refine ⟨fun line h => ?_, fun line h => ?_⟩
    · cases h
      exact nil_prefix
    · rcases mem_cons.mp h with rfl | h
      · exact nil_infix
      · exact (ih.2 line h).trans (suffix_cons _ _).isInfix
  | case4 c rest hcr hlf hnil ih =>
    refine ⟨fun line h => ?_, fun line h => ?_⟩
    · cases h
      exact ⟨rest, rfl⟩
    · rw [mem_singleton.mp h]
      exact IsPrefix.isInfix ⟨rest, rfl⟩
  | case5 c rest hcr hlf line lines hcons ih =>
    rw [hcons] at ih
    have hfirst : c :: line <+: c :: rest := (prefix_cons_inj c).mpr (ih.1 line rfl)
    refine ⟨fun piece h => ?_, fun piece h => ?_⟩
    · cases h
      exact hfirst
    · rcases mem_cons.mp h with rfl | h
      · exact hfirst.isInfix
      · exact (ih.2 piece (mem_cons_of_mem line h)).trans (suffix_cons _ _).isInfix

lemma removeFirst_length (pattern text : List Char) :
    text.length ≤ (removeFirst pattern text).length + pattern.length := by
  induction text with
  | nil => simp
  | cons c rest ih =>
    unfold removeFirst
    split
    · rw [length_drop]
      omega
    · simp only [length_cons]
      omega

/-! ### The line of an entry -/

lemma formatInboxLine_line [StreamText] {now : String} {entry : EnrichedEntry} {line : String}
    (h : formatInboxLine now entry = some line) :
    ∃ ts, line.toList = lineOf ts (labelOf entry) (roleOf entry) (shownMessage entry) := by
  cases hts : stampOf now entry with
  | none =>
    have hsome := congrArg Option.isSome h
    have hstamp : (stampOf now entry).isSome = true := by
      unfold formatInboxLine at hsome
      unfold stampOf
      dsimp only at hsome
      rwa [Option.isSome_map] at hsome
    rw [hts] at hstamp
    cases hstamp
  | some ts =>
    obtain ⟨line', hline, heq⟩ := formatInboxLine_eq now entry hts
    cases h.symm.trans hline
    exact ⟨ts.toList, heq⟩

/-- The line of an entry with an id holds the id's marker. -/
lemma marker_within_line [StreamText] {now : String} {entry : EnrichedEntry} {line : String}
    (h : formatInboxLine now entry = some line) (hid : entryIdOf entry ≠ "") :
    markerOf (entryIdOf entry) <:+: line.toList := by
  obtain ⟨ts, heq⟩ := formatInboxLine_line h
  · have hshown : markerOf (entryIdOf entry) <+: shownMessage entry := by
      unfold shownMessage markerOf
      unfold entryIdOf at hid ⊢
      simp [hid, String.toList_append]
    rw [heq]
    unfold lineOf
    refine hshown.isInfix.trans (IsSuffix.isInfix ?_)
    exact ⟨ts ++ ' ' :: (labelOf entry ++ ' ' :: '(' :: (roleOf entry ++ [')', ':', ' '])),
      by simp⟩

/-- A line is longer than the text its legacy form is without. -/
lemma legacyForm_ne_nil [StreamText] {now : String} {entry : EnrichedEntry} {line : String}
    (h : formatInboxLine now entry = some line) : legacyForm (entryIdOf entry) line ≠ [] := by
  obtain ⟨ts, heq⟩ := formatInboxLine_line h
  · unfold legacyForm
    by_cases hid : entryIdOf entry = ""
    · rw [if_pos hid, heq]
      simp [lineOf]
    · rw [if_neg hid]
      intro hnil
      have hlen := removeFirst_length ("[entry_id: " ++ entryIdOf entry ++ "] ").toList line.toList
      rw [hnil, heq] at hlen
      unfold shownMessage lineOf at hlen
      unfold entryIdOf at hid hlen
      simp [hid, String.toList_append] at hlen
      omega

def quotingEntry : EnrichedEntry :=
  { id := some "e2", drone_label := some "builder-1", role_name := some "Builder",
    message := some "see [entry_id: e1]" }

end BorgClient.Monitor
