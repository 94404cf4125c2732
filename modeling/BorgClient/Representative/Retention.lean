import BorgClient.Representative.Reset

/-!
# What a reset leaves of the generation it replaces

The retention of a publication removes whatever is not among the newest directories, so the
generation CURRENT named before survives exactly while fewer later directories are there than
retention keeps.
-/

namespace BorgClient.Representative
open Tables Tables.Table List

section Order

variable {α : Type*} [LinearOrder α]

/-- In a descending list an element is beyond the first `n` when `n` elements exceed it. -/
lemma mem_drop_iff {l : List α} (hl : l.Pairwise (· > ·)) {a : α} (ha : a ∈ l) (n : ℕ) :
    a ∈ l.drop n ↔ n ≤ (l.filter (a < ·)).length := by
  induction l generalizing n with
  | nil => cases ha
  | cons b l ih =>
    obtain ⟨hb, hl⟩ := pairwise_cons.mp hl
    rcases mem_cons.mp ha with rfl | ha
    · have hnone : l.filter (a < ·) = [] :=
        filter_eq_nil_iff.mpr (fun c hc => by simpa using (hb c hc).le)
      have hnot : a ∉ l := fun h => lt_irrefl a (hb a h)
      cases n with
      | zero => simp
      | succ n =>
        have hdrop : a ∉ l.drop n := fun h => hnot (mem_of_mem_drop h)
        simp [hnone, hdrop]
    · have hlt : a < b := hb a ha
      cases n with
      | zero => simp [ha]
      | succ n => simp [hlt, ih hl ha n]

end Order

lemma pairwise_newestFirst {names : List Gen} (h : names.Nodup) :
    (newestFirst names).Pairwise (· > ·) := by
  have hs : (newestFirst names).Pairwise (· ≥ ·) := pairwise_insertionSort _ names
  have hn : (newestFirst names).Nodup := (perm_insertionSort _ names).nodup_iff.mpr h
  exact (hs.and hn).imp (fun hab => lt_of_le_of_ne hab.1 hab.2.symm)

namespace StateRoot

variable {root : StateRoot} {env : ResetEnv} {g g' : Gen}

/-! ### What each removal touches -/

lemma find_onLeaves (f : Table Leaf.name → Table Leaf.name) :
    (root.onLeaves g f).entries.find g' = (root.entries.find g').map
      (fun e => if e.name = g then { e with leaves := f e.leaves } else e) := by
  unfold onLeaves
  rw [find_update]

lemma find_onLeaves_other (f : Table Leaf.name → Table Leaf.name) (h : g' ≠ g) :
    (root.onLeaves g f).entries.find g' = root.entries.find g' := by
  rw [find_onLeaves]
  cases hf : root.entries.find g' with
  | none => rfl
  | some e =>
    have hname : e.name = g' := (find_eq_some.mp hf).2
    simp [hname, h]

lemma find_onLeaves_self (f : Table Leaf.name → Table Leaf.name) :
    (root.onLeaves g f).entries.find g =
      (root.entries.find g).map (fun e => { e with leaves := f e.leaves }) := by
  rw [find_onLeaves]
  cases hf : root.entries.find g with
  | none => rfl
  | some e =>
    have hname : e.name = g := (find_eq_some.mp hf).2
    simp [hname]

lemma find_rmdir_other (h : g' ≠ g) : (root.rmdir g).entries.find g' = root.entries.find g' :=
  find_delete (fun e _ hk => by simp [hk, h])

lemma find_rmdir (root : StateRoot) (g : Gen) : (root.rmdir g).entries.find g = none :=
  find_delete_none (fun e _ hk => by simpa using hk)

lemma unlinkLeaves_other (h : g' ≠ g) (files : List String) :
    (unlinkLeaves env g files root).1.entries.find g' = root.entries.find g' := by
  induction files generalizing root with
  | nil => rfl
  | cons name files ih =>
    unfold unlinkLeaves
    split
    · rfl
    · split
      · exact ih
      · split
        · split
          · rfl
          · rw [ih]
            exact find_onLeaves_other _ h
        · exact ih

lemma removeGeneration_other (h : g' ≠ g) :
    (root.removeGeneration env g).1.entries.find g' = root.entries.find g' := by
  unfold removeGeneration
  split
  · rfl
  · split
    · rfl
    · split
      · rfl
      · have hu : (unlinkLeaves env g DB_NAMES root).1.entries.find g' =
            root.entries.find g' := unlinkLeaves_other h DB_NAMES
        split
        · rename_i heq
          rw [heq] at hu
          exact hu
        · rename_i heq
          rw [heq] at hu
          dsimp only
          split
          · exact hu
          · rw [find_rmdir_other h]
            exact hu

/-- The state a loop over generations leaves. -/
lemma removeGenerations_cons (gens : List Gen) :
    (removeGenerations env (g :: gens) root).1 =
      match (root.removeGeneration env g).2 with
      | .error _ => (root.removeGeneration env g).1
      | .ok _ => (removeGenerations env gens (root.removeGeneration env g).1).1 := by
  conv_lhs => unfold removeGenerations
  rcases root.removeGeneration env g with ⟨root', error | kept⟩
  · rfl
  · dsimp only
    rcases removeGenerations env gens root' with ⟨root'', error | rest⟩ <;> rfl

lemma removeGenerations_other {gens : List Gen} (h : g' ∉ gens) :
    (removeGenerations env gens root).1.entries.find g' = root.entries.find g' := by
  induction gens generalizing root with
  | nil => rfl
  | cons g gens ih =>
    obtain ⟨hne, hnot⟩ := not_or.mp (mt mem_cons.mpr h)
    rw [removeGenerations_cons]
    split
    · exact removeGeneration_other hne
    · rw [ih hnot]
      exact removeGeneration_other hne

/-! ### What a removal without failures takes away -/

/-- The leaf is gone, the directory with it or not. -/
def Gone (root : StateRoot) (g : Gen) (name : String) : Prop :=
  (root.entries.find g).bind (fun e => e.leaves.find name) = none

lemma gone_unlinkLeaf (name : String) : (root.unlinkLeaf g name).Gone g name := by
  unfold Gone unlinkLeaf
  rw [find_onLeaves_self]
  cases root.entries.find g with
  | none => rfl
  | some e => exact find_delete_none (fun l _ hl => by simpa using hl)

lemma Gone.unlinkLeaf {name : String} (h : root.Gone g name) (file : String) :
    (root.unlinkLeaf g file).Gone g name := by
  by_cases hf : name = file
  · subst hf
    exact gone_unlinkLeaf name
  · unfold Gone StateRoot.unlinkLeaf at *
    rw [find_onLeaves_self]
    cases he : root.entries.find g with
    | none => rfl
    | some e =>
      rw [he] at h
      have hfind : (e.leaves.delete (fun l => l.name == file)).find name = e.leaves.find name :=
        find_delete (fun l _ hl => by simp [hl, hf])
      exact hfind.trans h

lemma Gone.unlinkLeaves {name : String} (h : root.Gone g name) (files : List String) :
    (unlinkLeaves env g files root).1.Gone g name := by
  induction files generalizing root with
  | nil => exact h
  | cons file files ih =>
    unfold StateRoot.unlinkLeaves
    split
    · exact h
    · split
      · exact ih h
      · split
        · split
          · exact h
          · exact ih (h.unlinkLeaf file)
        · exact ih h

lemma unlinkLeaves_ok (hf : ∀ o, env.fails o = false) (files : List String) :
    (unlinkLeaves env g files root).2 = .ok () := by
  induction files generalizing root with
  | nil => rfl
  | cons file files ih =>
    unfold unlinkLeaves
    rw [hf, hf]
    simp only [Bool.false_eq_true, ↓reduceIte]
    split
    · exact ih
    · split <;> exact ih

lemma unlinkLeaves_gone (hf : ∀ o, env.fails o = false) {leaf : Leaf}
    (hl : (root.entries.find g).bind (fun e => e.leaves.find "state.sqlite") = some leaf)
    (hr : leaf.regular = true) :
    (unlinkLeaves env g DB_NAMES root).1.Gone g "state.sqlite" := by
  unfold DB_NAMES unlinkLeaves
  rw [hf, hf]
  simp only [Bool.false_eq_true, ↓reduceIte, hl, hr]
  exact (gone_unlinkLeaf _).unlinkLeaves _

lemma removeGeneration_ok (hf : ∀ o, env.fails o = false) {e : GenEntry}
    (he : root.entries.find g = some e) : ∃ kept, (root.removeGeneration env g).2 = .ok kept := by
  have hu : (unlinkLeaves env g DB_NAMES root).2 = .ok () := unlinkLeaves_ok hf DB_NAMES
  unfold removeGeneration
  rw [hf, he]
  simp only [Bool.false_eq_true, ↓reduceIte]
  split
  · exact ⟨_, rfl⟩
  · split
    · rename_i heq
      rw [heq] at hu
      cases hu
    · split <;> exact ⟨_, rfl⟩

lemma removeGeneration_gone (hf : ∀ o, env.fails o = false) {e : GenEntry} {leaf : Leaf}
    (he : root.entries.find g = some e) (hd : e.directory = true)
    (hl : e.leaves.find "state.sqlite" = some leaf) (hr : leaf.regular = true) :
    (root.removeGeneration env g).1.Gone g "state.sqlite" := by
  have hu : (unlinkLeaves env g DB_NAMES root).1.Gone g "state.sqlite" :=
    unlinkLeaves_gone hf (by rw [he]; exact hl) hr
  unfold removeGeneration
  rw [hf, he]
  simp only [Bool.false_eq_true, ↓reduceIte, hd, Bool.not_true]
  split
  · rename_i heq
    rw [heq] at hu
    exact hu
  · rename_i heq
    rw [heq] at hu
    split
    · exact hu
    · unfold Gone
      rw [find_rmdir]
      rfl

lemma Gone.removed (hf : g ≠ g') {name : String} (h : root.Gone g name) :
    (root.removeGeneration env g').1.Gone g name := by
  unfold Gone at *
  rw [removeGeneration_other hf]
  exact h

lemma removeGenerations_gone (hf : ∀ o, env.fails o = false) {gens : List Gen}
    (hn : gens.Nodup) (hall : ∀ g ∈ gens, ∃ e, root.entries.find g = some e) (hg : g ∈ gens)
    {e : GenEntry} {leaf : Leaf} (he : root.entries.find g = some e) (hd : e.directory = true)
    (hl : e.leaves.find "state.sqlite" = some leaf) (hr : leaf.regular = true) :
    (removeGenerations env gens root).1.Gone g "state.sqlite" := by
  induction gens generalizing root with
  | nil => cases hg
  | cons g₀ gens ih =>
    obtain ⟨hnot, hn⟩ := nodup_cons.mp hn
    obtain ⟨e₀, he₀⟩ := hall g₀ mem_cons_self
    obtain ⟨kept, hk⟩ := removeGeneration_ok hf he₀
    rw [removeGenerations_cons, hk]
    dsimp only
    rcases mem_cons.mp hg with rfl | hg
    · have hgone := removeGeneration_gone hf he hd hl hr
      unfold Gone at *
      rw [removeGenerations_other hnot]
      exact hgone
    · have hne : g ≠ g₀ := fun h => hnot (h ▸ hg)
      refine ih hn (fun g₁ hg₁ => ?_) hg ?_
      · obtain ⟨e₁, he₁⟩ := hall g₁ (mem_cons_of_mem g₀ hg₁)
        have hne₁ : g₁ ≠ g₀ := fun h => hnot (h ▸ hg₁)
        exact ⟨e₁, (removeGeneration_other hne₁).trans he₁⟩
      · exact (removeGeneration_other hne).trans he

/-! ### Publication -/

/-- The state directory when the new generation is published. -/
def made (root : StateRoot) (gen : Gen) : StateRoot :=
  { (root.addDirectory gen).addLeaf gen ⟨"state.sqlite", true, true, .sound⟩ with
    current := some gen }

/-- The generation names after `previous`. -/
def laterNames (root : StateRoot) (previous : Gen) : List Gen :=
  (root.names.filter GEN_RE).filter (previous < ·)

lemma find_made (h : g ≠ g') : (root.made g').entries.find g = root.entries.find g := by
  have hadd : (root.addDirectory g').entries.find g = root.entries.find g := by
    unfold addDirectory
    rw [find_insertOrIgnore, if_neg]
    rintro ⟨-, hk⟩
    exact h hk.symm
  exact (find_onLeaves_other 
    (fun leaves => leaves.insertOrIgnore ⟨"state.sqlite", true, true, .sound⟩) h).trans hadd

lemma names_onLeaves (f : Table Leaf.name → Table Leaf.name) :
    (root.onLeaves g f).names = root.names := by
  unfold names onLeaves Table.update
  rw [map_map]
  refine map_congr_left (fun e _ => ?_)
  simp only [Function.comp_apply]
  split <;> rfl

lemma mem_names : g ∈ root.names ↔ ∃ e, root.entries.find g = some e := by
  unfold names
  constructor
  · intro h
    obtain ⟨e, he, hk⟩ := mem_map.mp h
    exact ⟨e, find_eq_some.mpr ⟨he, hk⟩⟩
  · rintro ⟨e, he⟩
    obtain ⟨he, hk⟩ := find_eq_some.mp he
    exact mem_map.mpr ⟨e, he, hk⟩

lemma names_made (h : g ∉ root.names) : (root.made g).names = root.names ++ [g] := by
  have hadd : (root.addDirectory g).names = root.names ++ [g] := by
    unfold names at h
    unfold names addDirectory insertOrIgnore
    rw [dif_neg h]
    simp
  rw [← hadd]
  exact names_onLeaves (fun leaves => leaves.insertOrIgnore ⟨"state.sqlite", true, true, .sound⟩)

/-- Retention removes a generation when it keeps no more than there are later names. -/
lemma mem_surplus (hg : g ∉ root.names) (hp : g' ∈ root.names) (hre : GEN_RE g' = true) :
    g' ∈ (root.made g).surplus g ↔ RETAINED_GENERATIONS ≤ (root.laterNames g').length := by
  have hfilter : (root.made g).names.filter (fun n => GEN_RE n && n != g) =
      root.names.filter GEN_RE := by
    rw [names_made hg, filter_append]
    have hlast : [g].filter (fun n => GEN_RE n && n != g) = [] := by simp
    rw [hlast, append_nil]
    refine filter_congr (fun n hn => ?_)
    have hne : n ≠ g := fun h => hg (h ▸ hn)
    simp [hne]
  have hn : (root.names.filter GEN_RE).Nodup := root.entries.unique.filter _
  have hperm : newestFirst (root.names.filter GEN_RE) ~ root.names.filter GEN_RE :=
    perm_insertionSort _ _
  have hmem : g' ∈ newestFirst (root.names.filter GEN_RE) :=
    hperm.mem_iff.mpr (mem_filter.mpr ⟨hp, hre⟩)
  unfold surplus laterNames
  rw [hfilter, mem_drop_iff (pairwise_newestFirst hn) hmem]
  exact iff_of_eq (congrArg _ (hperm.filter _).length_eq)

lemma nodup_surplus (root : StateRoot) (g : Gen) : (root.surplus g).Nodup := by
  have hn : (root.names.filter (fun n => GEN_RE n && n != g)).Nodup := root.entries.unique.filter _
  exact ((perm_insertionSort _ _).nodup_iff.mpr hn).sublist (drop_sublist _ _)

lemma mem_names_of_surplus (h : g' ∈ root.surplus g) : g' ∈ root.names := by
  have hs := mem_of_mem_drop h
  exact (mem_filter.mp ((perm_insertionSort _ _).mem_iff.mp hs)).1

/-- What a publication does to an entry that is there: nothing, unless its name is among the
surplus. -/
lemma publishGeneration_other {e : GenEntry} (he : root.entries.find g = some e)
    (hre : GEN_RE g = true)
    (h : root.newGenerationName env.clock env.random ∈ root.names ∨
      (root.laterNames g).length < RETAINED_GENERATIONS) :
    (publishGeneration env root).1.entries.find g = some e := by
  unfold publishGeneration
  dsimp only
  generalize hgen : root.newGenerationName env.clock env.random = gen at *
  split
  · exact he
  · split
    · exact he
    · rename_i hmk
      have hfresh : gen ∉ root.names := by
        intro hmem
        obtain ⟨e', he'⟩ := mem_names.mp hmem
        simp [he'] at hmk
      have hp : g ∈ root.names := mem_names.mpr ⟨e, he⟩
      have hne : g ≠ gen := fun h => hfresh (h ▸ hp)
      have hmade : (root.made gen).entries.find g = some e := (find_made hne).trans he
      have hnot : g ∉ (root.made gen).surplus gen := by
        intro hmem
        have hle := (mem_surplus hfresh hp hre).mp hmem
        rcases h with h | h
        · exact hfresh h
        · omega
      split
      · unfold addDirectory
        rw [find_insertOrIgnore, if_neg, he]
        rintro ⟨hnone, -⟩
        rw [he] at hnone
        cases hnone
      · split
        · exact hmade
        · split
          · exact hmade
          · have hclean : (cleanupGenerations env (root.made gen) gen).1.entries.find g = some e := by
              unfold cleanupGenerations
              split
              · exact hmade
              · rw [removeGenerations_other hnot]
                exact hmade
            split
            · rename_i heq
              exact (congrArg (fun r => r.1.entries.find g) heq).symm.trans hclean
            · rename_i heq
              exact (congrArg (fun r => r.1.entries.find g) heq).symm.trans hclean

/-- A publication in which nothing fails removes the database of a surplus generation. -/
lemma publishGeneration_gone (hf : ∀ o, env.fails o = false) {e : GenEntry} {leaf : Leaf}
    (he : root.entries.find g = some e) (hre : GEN_RE g = true) (hd : e.directory = true)
    (hl : e.leaves.find "state.sqlite" = some leaf) (hr : leaf.regular = true)
    (hfresh : root.newGenerationName env.clock env.random ∉ root.names)
    (hlater : RETAINED_GENERATIONS ≤ (root.laterNames g).length) :
    (publishGeneration env root).1.Gone g "state.sqlite" := by
  unfold publishGeneration
  generalize root.newGenerationName env.clock env.random = gen at *
  have hp : g ∈ root.names := mem_names.mpr ⟨e, he⟩
  have hne : g ≠ gen := fun h => hfresh (h ▸ hp)
  have hnone : root.entries.find gen = none := by
    by_contra hsome
    exact hfresh (mem_names.mpr (Option.ne_none_iff_exists'.mp hsome))
  have hgone : (cleanupGenerations env (root.made gen) gen).1.Gone g "state.sqlite" := by
    unfold cleanupGenerations
    rw [hf, hf]
    refine removeGenerations_gone hf (nodup_surplus _ _) (fun g₁ h₁ => ?_)
      ((mem_surplus hfresh hp hre).mpr hlater) ((find_made hne).trans he) hd hl hr
    exact mem_names.mp (mem_names_of_surplus h₁)
  simp only [hf, hnone, Bool.or_self, Bool.false_eq_true, ↓reduceIte, Option.isSome_none]
  split
  · rename_i heq
    exact (congrArg (fun r => r.1.Gone g "state.sqlite") heq).mp hgone
  · rename_i heq
    exact (congrArg (fun r => r.1.Gone g "state.sqlite") heq).mp hgone

/-! ### The reset -/

/-- The generation is one a reset replaces: its directory passes the checks, and its database is
corrupt. -/
def Replaceable (root : StateRoot) (previous : Gen) : Prop :=
  root.tree = true ∧ GEN_RE previous = true ∧ ∃ e database,
    root.assertGenerationDirectory previous = .ok e ∧
    e.leaves.find "state.sqlite" = some database ∧
    (database.content = .damaged ∨ database.content = .notADatabase)

/-- The directory that CURRENT named is still there, with every file it had. -/
def KeepsPrevious (root root' : StateRoot) : Prop :=
  ∀ previous e, root.current = some previous → root.entries.find previous = some e →
    ∃ e', root'.entries.find previous = some e' ∧ e'.directory = e.directory ∧
      ∀ leaf ∈ e.leaves, leaf ∈ e'.leaves

/-- Fewer later directories are there than retention keeps, or the new one cannot be made. -/
def Sheltered (root : StateRoot) (clock random : ℕ) : Prop :=
  ∀ previous, root.current = some previous → root.Replaceable previous →
    root.newGenerationName clock random ∈ root.names ∨
      (root.laterNames previous).length < RETAINED_GENERATIONS

lemma assertPrivateFile_regular {leaf : Leaf} {b : Bool}
    (h : assertPrivateFile (some leaf) = .ok b) : leaf.regular = true := by
  unfold assertPrivateFile at h
  by_contra hr
  rw [Bool.not_eq_true] at hr
  simp [hr] at h

lemma assertGenerationDirectory_ok {e : GenEntry}
    (h : root.assertGenerationDirectory g = .ok e) :
    root.entries.find g = some e ∧ e.directory = true ∧
      ∀ leaf, e.leaves.find "state.sqlite" = some leaf → leaf.regular = true := by
  unfold assertGenerationDirectory at h
  split at h
  · cases h
  · rename_i e' he
    split at h
    · cases h
    · rename_i hd
      split at h
      · cases h
      · split at h
        · cases h
        · rename_i oks hoks
          cases h
          refine ⟨he, by simpa using hd, fun leaf hl => ?_⟩
          unfold DB_NAMES at hoks
          rw [mapM_cons, hl] at hoks
          cases hfile : assertPrivateFile (some leaf) with
          | error error => simp [hfile, bind, Except.bind] at hoks
          | ok b => exact assertPrivateFile_regular hfile

lemma replaceGeneration_fst (previous : Gen) :
    (replaceGeneration env root previous).1 = (publishGeneration env root).1 := by
  unfold replaceGeneration
  rcases publishGeneration env root with ⟨root', error | ⟨gen, kept⟩⟩
  · rfl
  · dsimp only
    split <;> rfl

/-- A reset leaves every directory as it was unless it publishes over a replaceable one. -/
lemma reset_cases (env : ResetEnv) (root : StateRoot) :
    (resetRepresentativeState env root).1 = root ∨
      ∃ previous, root.current = some previous ∧
        ((∃ leaf, (resetRepresentativeState env root).1 = root.addLeaf previous leaf) ∨
          root.Replaceable previous ∧
            (resetRepresentativeState env root).1 = (publishGeneration env root).1) := by
  unfold resetRepresentativeState
  split
  · exact Or.inl rfl
  · split
    · exact Or.inl rfl
    · rename_i htree
      split
      · exact Or.inl rfl
      · split
        · exact Or.inl rfl
        · rename_i previous hcur
          split
          · exact Or.inl rfl
          · rename_i hre
            split
            · exact Or.inl rfl
            · rename_i e hassert
              have hroot : root.tree = true ∧ GEN_RE previous = true :=
                ⟨by simpa using htree, by simpa using hre⟩
              split
              · exact Or.inl rfl
              · split
                · exact Or.inr ⟨previous, hcur, Or.inl ⟨_, rfl⟩⟩
                · rename_i database hdb
                  split
                  · exact Or.inl rfl
                  · exact Or.inl rfl
                  · rename_i hcontent
                    split
                    · exact Or.inl rfl
                    · refine Or.inr ⟨previous, hcur, Or.inr ⟨⟨hroot.1, hroot.2, e, database,
                        hassert, hdb, Or.inl hcontent⟩, replaceGeneration_fst previous⟩⟩
                  · rename_i hcontent
                    refine Or.inr ⟨previous, hcur, Or.inr ⟨⟨hroot.1, hroot.2, e, database,
                      hassert, hdb, Or.inr hcontent⟩, replaceGeneration_fst previous⟩⟩

/-- With nothing failing, a replaceable generation is replaced. -/
lemma reset_publishes (hf : ∀ o, env.fails o = false) {previous : Gen}
    (hc : root.current = some previous) (hr : root.Replaceable previous) :
    (resetRepresentativeState env root).1 = (publishGeneration env root).1 := by
  obtain ⟨htree, hre, e, database, hassert, hdb, hcontent⟩ := hr
  unfold resetRepresentativeState
  rcases hcontent with hcontent | hcontent
  · simp [hf, htree, hc, hre, hassert, hdb, hcontent, replaceGeneration_fst]
  · simp [hf, htree, hc, hre, hassert, hdb, hcontent, replaceGeneration_fst]

lemma KeepsPrevious.refl (root : StateRoot) : KeepsPrevious root root :=
  fun _ e _ he => ⟨e, he, rfl, fun _ hl => hl⟩

def database (content : Content) : Table Leaf.name :=
  ⟨[⟨"state.sqlite", true, true, content⟩], by simp⟩

/-- A damaged current generation, and three directories of publications that never renamed
CURRENT. -/
def crowded : StateRoot where
  tree := true
  current := some ⟨20260101000000000, 7⟩
  entries :=
    ⟨[⟨⟨20260101000000000, 7⟩, true, true, database .damaged⟩,
      ⟨⟨20260201000000000, 1⟩, true, true, database .sound⟩,
      ⟨⟨20260201000000001, 2⟩, true, true, database .sound⟩,
      ⟨⟨20260201000000002, 3⟩, true, true, database .sound⟩], by decide⟩

end StateRoot

end BorgClient.Representative
