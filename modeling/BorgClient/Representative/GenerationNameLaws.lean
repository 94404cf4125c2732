import BorgClient.Representative.GenerationNames

/-!
# Later names, and what survives a cleanup

As long as stamps fit their 17 digits every name is later than all valid names before it. A cleanup
takes away only database files of surplus generations, their emptied directories, and temporary
files of `CURRENT`.
-/

namespace BorgClient.Representative.Listing
open List Tables Numerals Runs

/-! ### Order of names -/

lemma GEN_RE_parts {name : Name} (h : GEN_RE name = true) : ∃ digits rest,
    name = 'g' :: (digits ++ '-' :: rest) ∧ digits.length = 17 ∧
      (∀ c ∈ digits, c.isDigit = true) ∧ stampOf name = value digits := by
  unfold GEN_RE at h
  split at h
  · rename_i text
    simp only [Bool.and_eq_true, beq_iff_eq, all_eq_true] at h
    obtain ⟨⟨hlen, hdigits⟩, hmatch⟩ := h
    split at hmatch
    · rename_i hex hdrop
      refine ⟨text.take 17, hex, ?_, hlen, hdigits, rfl⟩
      rw [← hdrop, take_append_drop]
    · cases hmatch
  · cases h

lemma stampOf_new {stamp : ℕ} (h : stamp < 10 ^ 17) (rest : Name) :
    stampOf ('g' :: (padStart 17 stamp ++ '-' :: rest)) = stamp := by
  unfold stampOf
  rw [drop_one, tail_cons, take_left' (padStart_length (by decide) h), value_padStart]

lemma GEN_RE_new {names : List Name} {clock : ℕ} (random : RandomHex)
    (h : newStamp names clock < 10 ^ 17) : GEN_RE (newGenerationName names clock random) = true := by
  have hlen := padStart_length (by decide) h
  have hhead : GEN_RE (newGenerationName names clock random) =
      ((padStart 17 (newStamp names clock)).length == 17 &&
        (padStart 17 (newStamp names clock)).all Char.isDigit &&
        (random.text.length == 16 && random.text.all isHex)) := by
    unfold newGenerationName
    simp only [GEN_RE, take_left' hlen, drop_left' hlen]
  rw [hhead]
  simp only [Bool.and_eq_true, beq_iff_eq, all_eq_true]
  exact ⟨⟨hlen, padStart_digits 17 _⟩, random.width, random.hex⟩

lemma le_newestStamp {names : List Name} {name : Name} (h : name ∈ names)
    (hre : GEN_RE name = true) : stampOf name ≤ newestStamp names := by
  have hfold : ∀ (names : List Name) (newest : ℕ),
      newest ≤ names.foldl (fun newest name => max newest (stampOf name)) newest ∧
        ∀ name ∈ names,
          stampOf name ≤ names.foldl (fun newest name => max newest (stampOf name)) newest := by
    intro names
    induction names with
    | nil => simp
    | cons first names ih =>
      intro newest
      obtain ⟨hseed, hall⟩ := ih (max newest (stampOf first))
      refine ⟨(le_max_left _ _).trans hseed, fun name hname => ?_⟩
      rcases mem_cons.mp hname with rfl | hname
      · exact (le_max_right _ _).trans hseed
      · exact hall name hname
  exact (hfold _ 0).2 name (mem_filter.mpr ⟨h, hre⟩)

lemma newestStamp_lt (names : List Name) (clock : ℕ) : newestStamp names < newStamp names clock := by
  unfold newStamp
  split
  · assumption
  · omega

/-- A new name whose stamp fits comes after every valid name. -/
lemma lt_newGenerationName {names : List Name} {clock : ℕ} (random : RandomHex)
    (hfits : newStamp names clock < 10 ^ 17) {name : Name} (h : name ∈ names)
    (hre : GEN_RE name = true) : name < newGenerationName names clock random := by
  obtain ⟨digits, rest, rfl, hlen, hdigits, hstamp⟩ := GEN_RE_parts hre
  have hlt : value digits < value (padStart 17 (newStamp names clock)) := by
    rw [value_padStart, ← hstamp]
    exact (le_newestStamp h hre).trans_lt (newestStamp_lt names clock)
  unfold newGenerationName
  rw [cons_lt_cons_iff]
  refine .inr ⟨rfl, ?_⟩
  exact append_lt_append (hlen.trans (padStart_length (by decide) hfits).symm) hdigits
    (padStart_digits 17 _) hlt _ _

/-! ### What a cleanup takes -/

lemma lstat_remove (root : Root) (name other : Name) :
    lstat (remove root name) other = if other = name then none else lstat root other := by
  unfold lstat remove
  split
  · rename_i he
    subst he
    rw [Table.find_delete_none]
    · rfl
    · intro e _ hk
      simpa using hk
  · rename_i hne
    rw [Table.find_delete]
    intro e _ hk
    simpa using fun h : e.name = name => hne (hk.symm.trans h)

lemma lstat_setLeaves (root : Root) (name : Name) (leaves : Table DirLeaf.name) (other : Name) :
    lstat (setLeaves root name leaves) other =
      if other = name then (lstat root other).map (fun _ => .directory leaves)
      else lstat root other := by
  unfold lstat setLeaves
  rw [Table.find_update, Option.map_map]
  cases hf : root.find other with
  | none => simp
  | some e =>
    obtain ⟨-, hk⟩ := Table.find_eq_some.mp hf
    rw [Option.map_some, Option.map_some, Option.map_some]
    by_cases he : other = name
    · simp [hk, he]
    · simp [hk, he]

/-- Of the files only regular ones with a database name are gone. -/
def OnlyDbLost (before after : Table DirLeaf.name) : Prop :=
  after.rows <+ before.rows ∧
    ∀ leaf ∈ before, leaf ∉ after → leaf.name ∈ DB_NAMES ∧ leaf.regular = true

lemma OnlyDbLost.refl (leaves : Table DirLeaf.name) : OnlyDbLost leaves leaves :=
  ⟨Sublist.refl _, fun _ hl hn => absurd hl hn⟩

lemma OnlyDbLost.trans {first second third : Table DirLeaf.name} (h : OnlyDbLost first second)
    (h' : OnlyDbLost second third) : OnlyDbLost first third := by
  refine ⟨h'.1.trans h.1, fun leaf hleaf hgone => ?_⟩
  by_cases hmid : leaf ∈ second
  · exact h'.2 leaf hmid hgone
  · exact h.2 leaf hleaf hmid

lemma unlinkDbFiles_lost (fails : String → Bool) {files : List String}
    (hfiles : ∀ file ∈ files, file ∈ DB_NAMES) (leaves : Table DirLeaf.name) :
    OnlyDbLost leaves (unlinkDbFiles fails files leaves).1 := by
  induction files generalizing leaves with
  | nil => exact .refl leaves
  | cons file files ih =>
    have hrest := fun f hf => hfiles f (mem_cons_of_mem file hf)
    unfold unlinkDbFiles
    split
    · rename_i leaf hfind
      obtain ⟨hleaf, hname⟩ := Table.find_eq_some.mp hfind
      split
      · rename_i hregular
        split
        · exact .refl leaves
        · refine OnlyDbLost.trans ⟨filter_sublist, fun other hother hgone => ?_⟩ (ih hrest _)
          rw [Table.mem_delete] at hgone
          have hsame : other.name = file := by
            simpa [hother] using hgone
          have heq := Table.eq_of_key hother hleaf (hsame.trans hname.symm)
          exact ⟨hsame ▸ hfiles file mem_cons_self, heq ▸ hregular⟩
      · exact ih hrest leaves
    · exact ih hrest leaves

/-- What may become of an entry in a cleanup that removes the generations `gone`. -/
inductive Fate (gone : List Name) (name : Name) : Option Node → Option Node → Prop
  | same (node : Option Node) : Fate gone name node node
  | tmp : CURRENT_TMP_RE name = true → Fate gone name (some .regular) none
  | lost {leaves left : Table DirLeaf.name} : name ∈ gone → OnlyDbLost leaves left →
      Fate gone name (some (.directory leaves)) (some (.directory left))
  | removed {leaves left : Table DirLeaf.name} : name ∈ gone → OnlyDbLost leaves left →
      left.rows = [] →
      Fate gone name (some (.directory leaves)) none

lemma Fate.trans {gone : List Name} {name : Name} {first second third : Option Node}
    (h : Fate gone name first second) (h' : Fate gone name second third) :
    Fate gone name first third := by
  cases h with
  | same => exact h'
  | tmp hre =>
    cases h'
    exact .tmp hre
  | lost hg hl =>
    cases h' with
    | same => exact .lost hg hl
    | lost _ hl' => exact .lost hg (hl.trans hl')
    | removed _ hl' hnone => exact .removed hg (hl.trans hl') hnone
  | removed hg hl hnone =>
    cases h'
    exact .removed hg hl hnone

lemma sweepTmp_fate (fails : Failures) (gone : List Name) (s : Sweep) (name other : Name) :
    Fate gone other (lstat s.root other) (lstat (sweepTmp fails s name).root other) := by
  unfold sweepTmp
  split
  · exact .same _
  · rename_i hgo
    split
    · exact .same _
    · rename_i hregular
      split
      · exact .same _
      · dsimp only
        rw [lstat_remove]
        split
        · rename_i he
          rw [he, hregular]
          exact .tmp (by simp_all)
        · exact .same _
    · exact .same _

lemma sweepGeneration_fate (fails : Failures) {gone : List Name} {s : Sweep} {name : Name}
    (hg : name ∈ gone) (other : Name) :
    Fate gone other (lstat s.root other) (lstat (sweepGeneration fails s name).root other) := by
  unfold sweepGeneration
  split
  · exact .same _
  · split
    · exact .same _
    · rename_i leaves hdir
      have hlost := unlinkDbFiles_lost (fails.leaf name) (fun f hf => hf) leaves
      have hkeep : Fate gone other (lstat s.root other) (lstat (setLeaves s.root name
          (unlinkDbFiles (fails.leaf name) DB_NAMES leaves).1) other) := by
        rw [lstat_setLeaves]
        split
        · rename_i he
          rw [he, hdir]
          exact .lost hg hlost
        · exact .same _
      dsimp only
      split
      · exact hkeep
      · split
        · rename_i hempty
          rw [Bool.and_eq_true, List.isEmpty_iff] at hempty
          dsimp only
          rw [lstat_remove]
          split
          · rename_i he
            rw [he, hdir]
            exact .removed hg hlost hempty.1
          · exact .same _
        · exact hkeep
    · exact .same _

/-- Each entry's fate in a whole cleanup. -/
lemma cleanupGenerations_fate (fails : Failures) (root : Root) (current name : Name) :
    Fate (surplus (readdir root) current) name (lstat root name)
      (lstat (cleanupGenerations fails root current).root name) := by
  have htmp : ∀ (names : List Name) (s : Sweep),
      Fate (surplus (readdir root) current) name (lstat s.root name)
        (lstat (names.foldl (sweepTmp fails) s).root name) := by
    intro names
    induction names with
    | nil => exact fun s => .same _
    | cons first names ih =>
      intro s
      exact (sweepTmp_fate fails _ s first name).trans (ih _)
  have hgens : ∀ (gens : List Name), (∀ g ∈ gens, g ∈ surplus (readdir root) current) →
      ∀ s : Sweep, Fate (surplus (readdir root) current) name (lstat s.root name)
        (lstat (gens.foldl (sweepGeneration fails) s).root name) := by
    intro gens
    induction gens with
    | nil => exact fun _ s => .same _
    | cons first gens ih =>
      intro hall s
      exact (sweepGeneration_fate fails (hall first mem_cons_self) name).trans
        (ih (fun g hg => hall g (mem_cons_of_mem first hg)) _)
  unfold cleanupGenerations
  exact (htmp (readdir root) ⟨root, [], false⟩).trans (hgens _ (fun g hg => hg) _)

lemma mem_readdir {root : Root} {name : Name} :
    name ∈ readdir root ↔ ∃ node, lstat root name = some node := by
  unfold readdir lstat
  rw [mem_map]
  constructor
  · rintro ⟨e, he, rfl⟩
    exact ⟨e.node, by rw [Table.find_eq_some.mpr ⟨he, rfl⟩]; rfl⟩
  · rintro ⟨node, h⟩
    obtain ⟨e, he, -⟩ := Option.map_eq_some_iff.mp h
    obtain ⟨hmem, hname⟩ := Table.find_eq_some.mp he
    exact ⟨e, hmem, hname⟩

/-- An entry that is no surplus generation and no temporary file stays as it is. -/
lemma lstat_cleanup {fails : Failures} {root : Root} {current name : Name}
    (hg : name ∉ surplus (readdir root) current) (ht : CURRENT_TMP_RE name = false) :
    lstat (cleanupGenerations fails root current).root name = lstat root name := by
  have hfate := cleanupGenerations_fate fails root current name
  generalize lstat root name = before at hfate
  generalize lstat (cleanupGenerations fails root current).root name = after at hfate
  cases hfate with
  | same => rfl
  | tmp h =>
    rw [ht] at h
    cases h
  | lost h => exact absurd h hg
  | removed h => exact absurd h hg

lemma not_tmp_of_GEN_RE {name : Name} (h : GEN_RE name = true) : CURRENT_TMP_RE name = false := by
  obtain ⟨digits, rest, rfl, hlen, -, -⟩ := GEN_RE_parts h
  have hhead : (('g' :: (digits ++ '-' :: rest)).take 8 == "CURRENT.".toList) = false := by
    rw [beq_eq_false_iff_ne]
    intro he
    have := congrArg List.head? he
    simp at this
  unfold CURRENT_TMP_RE
  rw [hhead]
  simp

lemma current_not_surplus (names : List Name) (current : Name) : current ∉ surplus names current := by
  intro h
  have hmem := mem_of_mem_drop h
  rw [others, mem_insertionSort, mem_filter] at hmem
  simp at hmem

/-! ### Runs of publications -/

/-- The step's new stamp has at most 17 digits. -/
def Fits (s : Published) : RootStep → Prop
  | .publish clock _ _ _ _ => newStamp (readdir s.root) clock < 10 ^ 17
  | .foreign _ => True

/-- The names made are in order, each after all valid names there were, and the root has a valid
name that is not before any of them. -/
structure InOrder (s : Published) : Prop where
  later : ∀ made ∈ s.made, ∀ name ∈ made.1, GEN_RE name = true → name < made.2
  ascending : (s.made.map Prod.snd).Pairwise (· < ·)
  bounded : ∀ made ∈ s.made, ∃ name ∈ readdir s.root, GEN_RE name = true ∧ made.2 ≤ name

lemma mem_readdir_insert {root : Root} {entry : RootEntry} {name : Name}
    (h : name ∈ readdir root) : name ∈ readdir (root.insertOrIgnore entry) := by
  obtain ⟨e, he, hname⟩ := mem_map.mp h
  exact mem_map.mpr ⟨e, Table.mem_insertOrIgnore_of_mem he, hname⟩

lemma inOrder_step (s : Published) (step : RootStep) (h : InOrder s) (hf : Fits s step) :
    InOrder (publishStep s step) := by
  cases step with
  | foreign entry =>
    refine ⟨h.later, h.ascending, fun made hmade => ?_⟩
    obtain ⟨name, hname, hre, hle⟩ := h.bounded made hmade
    exact ⟨name, mem_readdir_insert hname, hre, hle⟩
  | publish clock random leaves completes fails =>
    have hlater : ∀ name ∈ readdir s.root, GEN_RE name = true →
        name < newGenerationName (readdir s.root) clock random :=
      fun name hname hre => lt_newGenerationName random hf hname hre
    have hre := GEN_RE_new random hf
    have hthere : newGenerationName (readdir s.root) clock random ∈ readdir
        (publishStep s (.publish clock random leaves completes fails)).root := by
      have hinserted : newGenerationName (readdir s.root) clock random ∈ readdir
          (s.root.insertOrIgnore
            ⟨newGenerationName (readdir s.root) clock random, .directory leaves⟩) := by
        obtain ⟨e, he, hname⟩ := Table.exists_mem_insertOrIgnore s.root
          ⟨newGenerationName (readdir s.root) clock random, .directory leaves⟩
        exact mem_map.mpr ⟨e, he, hname⟩
      unfold publishStep
      dsimp only
      split
      · rw [mem_readdir, lstat_cleanup (current_not_surplus _ _) (not_tmp_of_GEN_RE hre),
          ← mem_readdir]
        exact hinserted
      · exact hinserted
    have hall : ∀ made ∈ s.made, made.2 < newGenerationName (readdir s.root) clock random := by
      intro made hmade
      obtain ⟨name, hname, hvalid, hle⟩ := h.bounded made hmade
      exact hle.trans_lt (hlater name hname hvalid)
    refine ⟨fun made hmade => ?_, ?_, fun made hmade => ?_⟩
    · rcases mem_append.mp hmade with hmade | hmade
      · exact h.later made hmade
      · rw [mem_singleton.mp hmade]
        exact hlater
    · change ((s.made ++ [_]).map Prod.snd).Pairwise (· < ·)
      rw [map_append, pairwise_append]
      refine ⟨h.ascending, by simp, fun a ha b hb => ?_⟩
      obtain ⟨made, hmade, rfl⟩ := mem_map.mp ha
      rw [mem_singleton.mp hb]
      exact hall made hmade
    · refine ⟨_, hthere, hre, ?_⟩
      rcases mem_append.mp hmade with hmade | hmade
      · exact (hall made hmade).le
      · rw [mem_singleton.mp hmade]

def zeroHex : RandomHex where
  text := replicate 16 '0'
  width := by simp
  hex := by
    intro c hc
    rw [eq_of_mem_replicate hc]
    rfl

def noFailures : Failures := ⟨fun _ _ => false, fun _ => false⟩

def fullName : Name := "g99999999999999999-0000000000000000".toList

def tmpName : Name := "CURRENT.0000000000000000.tmp".toList

def tmpRoot : Root := ⟨[⟨tmpName, .regular⟩], by simp⟩

end BorgClient.Representative.Listing
