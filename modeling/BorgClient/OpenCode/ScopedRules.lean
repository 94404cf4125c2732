import BorgClient.OpenCode.Permissions

/-!
# A rule list scoped to a directory

The patterns `scopeDirectoryPattern` returns accept, together, the texts of the directory that the
pattern accepts.
-/

namespace BorgClient.OpenCode
open List Glob

/-! ### Sets in insertion order -/

section Sets
variable {β : Type*} [DecidableEq β]

lemma mem_addNew {values : List β} {value b : β} :
    b ∈ addNew values value ↔ b ∈ values ∨ b = value := by
  unfold addNew
  split_ifs with h
  · exact ⟨Or.inl, fun hb => hb.elim id (fun hb => hb ▸ h)⟩
  · simp

lemma nodup_addNew {values : List β} {value : β} (h : values.Nodup) :
    (addNew values value).Nodup := by
  unfold addNew
  split_ifs with hv
  · exact h
  · exact h.append (nodup_singleton value) (by simpa using hv)

lemma getElem?_addNew {values : List β} {value b : β} {i : ℕ} (h : values[i]? = some b) :
    (addNew values value)[i]? = some b := by
  unfold addNew
  split_ifs
  · exact h
  · rw [getElem?_append_left (List.getElem?_eq_some_iff.mp h).1]
    exact h

lemma mem_foldl_addNew {values acc : List β} {b : β} :
    b ∈ values.foldl addNew acc ↔ b ∈ acc ∨ b ∈ values := by
  induction values generalizing acc with
  | nil => simp
  | cons v values ih => rw [foldl_cons, ih, mem_addNew, mem_cons, or_assoc]

@[simp] lemma mem_setOf {values : List β} {b : β} : b ∈ OpenCode.setOf values ↔ b ∈ values := by
  simp [OpenCode.setOf, mem_foldl_addNew]

end Sets

/-! ### Positions of a pattern -/

section Positions
variable {pattern : Text} {positions : List ℕ}

/-- What is left of the pattern at a position. -/
def leftAt (pattern : Text) (position : ℕ) : List (Sym UInt16) := (pattern.drop position).map symOf

def dot (u : UInt16) : Bool := !isTerminator u

/-- The pattern at some position accepts the text. -/
def AcceptsAt (pattern : Text) (positions : List ℕ) (text : Text) : Prop :=
  ∃ i ∈ positions, accepts dot (leftAt pattern i) text = true

/-- Distinct positions of the pattern, with the one behind every star among them. -/
structure Closed (pattern : Text) (positions : List ℕ) : Prop where
  nodup : positions.Nodup
  le : ∀ i ∈ positions, i ≤ pattern.length
  after_star : ∀ i ∈ positions, pattern[i]? = some star → i + 1 ∈ positions

lemma symOf_star : symOf star = .star := rfl

lemma symOf_lit {u : UInt16} (hs : u ≠ star) (hq : u ≠ question) : symOf u = .lit u := by
  rw [symOf, if_neg hs, if_neg hq]

lemma map_symOf_lit {text : Text} (h : ∀ u ∈ text, u ≠ star ∧ u ≠ question) :
    text.map symOf = text.map .lit :=
  map_congr_left (fun u hu => symOf_lit (h u hu).1 (h u hu).2)

lemma leftAt_cons {i : ℕ} {token : UInt16} (h : pattern[i]? = some token) :
    leftAt pattern i = symOf token :: leftAt pattern (i + 1) := by
  obtain ⟨hi, rfl⟩ := List.getElem?_eq_some_iff.mp h
  rw [leftAt, drop_eq_getElem_cons hi, map_cons, leftAt]

lemma leftAt_none {i : ℕ} (h : pattern[i]? = none) : leftAt pattern i = [] := by
  rw [leftAt, drop_eq_nil_of_le (getElem?_eq_none_iff.mp h), map_nil]

lemma lt_of_token {i : ℕ} {token : UInt16} (h : pattern[i]? = some token) : i < pattern.length :=
  (List.getElem?_eq_some_iff.mp h).1

/-! ### Closing a set of positions -/

/-- The positions the first turns have looked at have their successors. -/
structure ClosedUpTo (pattern : Text) (start : List ℕ) (turns : ℕ) (positions : List ℕ) :
    Prop where
  nodup : positions.Nodup
  le : ∀ i ∈ positions, i ≤ pattern.length
  after_star : ∀ m i, m < turns → positions[m]? = some i → pattern[i]? = some star → i + 1 ∈ positions
  extends_ : start ⊆ positions
  skips : ∀ i ∈ positions, ∃ j ∈ start, Skips (leftAt pattern j) (leftAt pattern i)

lemma skips_trans_star {p q : List (Sym UInt16)} (h : Skips p (.star :: q)) : Skips p q := by
  generalize hr : Sym.star :: q = r at h
  induction h with
  | refl => subst hr; exact .skip (.refl q)
  | skip _ ih => exact .skip (ih hr)

lemma closedUpTo_step {start : List ℕ} {turns : ℕ}
    (h : ClosedUpTo pattern start turns positions) :
    ClosedUpTo pattern start (turns + 1) (closeStep pattern positions turns) := by
  unfold closeStep
  cases hturn : positions[turns]? with
  | none =>
    refine ⟨h.nodup, h.le, ?_, h.extends_, h.skips⟩
    intro m i hm hi hstar
    rcases Nat.lt_succ_iff_lt_or_eq.mp hm with hm | rfl
    · exact h.after_star m i hm hi hstar
    · rw [hturn] at hi
      exact absurd hi (by simp)
  | some index =>
    have hindex : index ∈ positions := mem_of_getElem? hturn
    dsimp only
    split_ifs with hs
    · refine ⟨nodup_addNew h.nodup, ?_, ?_, ?_, ?_⟩
      · intro i hi
        rcases mem_addNew.mp hi with hi | rfl
        · exact h.le i hi
        · exact lt_of_token hs
      · intro m i hm hi hstar
        have hlen : turns < positions.length := (List.getElem?_eq_some_iff.mp hturn).1
        have hold : positions[m]? = some i := by
          obtain ⟨j, hj⟩ : ∃ j, positions[m]? = some j :=
            ⟨_, getElem?_eq_getElem (show m < positions.length by omega)⟩
          rw [getElem?_addNew hj] at hi
          rw [hj, hi]
        rcases Nat.lt_succ_iff_lt_or_eq.mp hm with hm | rfl
        · exact mem_addNew.mpr (.inl (h.after_star m i hm hold hstar))
        · rw [hturn, Option.some.injEq] at hold
          exact mem_addNew.mpr (.inr (by rw [hold]))
      · exact fun i hi => mem_addNew.mpr (.inl (h.extends_ hi))
      · intro i hi
        rcases mem_addNew.mp hi with hi | rfl
        · exact h.skips i hi
        · obtain ⟨j, hj, hskip⟩ := h.skips index hindex
          rw [leftAt_cons hs, symOf_star] at hskip
          exact ⟨j, hj, skips_trans_star hskip⟩
    · refine ⟨h.nodup, h.le, ?_, h.extends_, h.skips⟩
      intro m i hm hi hstar
      rcases Nat.lt_succ_iff_lt_or_eq.mp hm with hm | rfl
      · exact h.after_star m i hm hi hstar
      · rw [hturn, Option.some.injEq] at hi
        exact absurd (hi ▸ hstar) hs

lemma closedUpTo_turns (hnodup : positions.Nodup) (hle : ∀ i ∈ positions, i ≤ pattern.length)
    (turns : ℕ) :
    ClosedUpTo pattern positions turns ((range turns).foldl (closeStep pattern) positions) := by
  induction turns with
  | zero =>
    exact ⟨hnodup, hle, fun m i hm => absurd hm (Nat.not_lt_zero m), Subset.refl _,
      fun i hi => ⟨i, hi, .refl _⟩⟩
  | succ turns ih =>
    rw [range_succ, foldl_append]
    exact closedUpTo_step ih

lemma length_le_of_bounded {bound : ℕ} (hnodup : positions.Nodup)
    (hle : ∀ i ∈ positions, i ≤ bound) : positions.length ≤ bound + 1 := by
  have hsub : positions ⊆ range (bound + 1) :=
    fun i hi => mem_range.mpr (Nat.lt_succ_of_le (hle i hi))
  simpa using (hnodup.subperm hsub).length_le

/-- The loop ends with a closed set. -/
lemma close_closed (hnodup : positions.Nodup) (hle : ∀ i ∈ positions, i ≤ pattern.length) :
    Closed pattern (close pattern positions) := by
  have h := closedUpTo_turns hnodup hle (pattern.length + 1)
  refine ⟨h.nodup, h.le, ?_⟩
  intro i hi hstar
  obtain ⟨m, hm, hget⟩ := mem_iff_getElem.mp hi
  have hlen := length_le_of_bounded h.nodup h.le
  have hm' : m < pattern.length + 1 := lt_of_lt_of_le hm hlen
  exact h.after_star m i hm' (List.getElem?_eq_some_iff.mpr ⟨hm, hget⟩) hstar

/-- Closing adds no text. -/
lemma acceptsAt_close (hnodup : positions.Nodup) (hle : ∀ i ∈ positions, i ≤ pattern.length)
    (text : Text) :
    AcceptsAt pattern (close pattern positions) text ↔ AcceptsAt pattern positions text := by
  have h := closedUpTo_turns hnodup hle (pattern.length + 1)
  constructor
  · rintro ⟨i, hi, haccepts⟩
    obtain ⟨j, hj, hskip⟩ := h.skips i hi
    exact ⟨j, hj, accepts_of_skips hskip haccepts⟩
  · rintro ⟨i, hi, haccepts⟩
    exact ⟨i, h.extends_ hi, haccepts⟩

/-! ### Advancing over a code unit -/

/-- The token at `i` takes `u` and leaves position `j`. -/
def StepsTo (pattern : Text) (u : UInt16) (i j : ℕ) : Prop :=
  ∃ token, pattern[i]? = some token ∧
    ((token = star ∧ j = i) ∨
      (token ≠ star ∧ (token = question ∨ patternMatches [token] [u] = true) ∧ j = i + 1))

lemma mem_advanceStep {u : UInt16} {next : List ℕ} {i j : ℕ} :
    j ∈ advanceStep pattern u next i ↔ j ∈ next ∨ StepsTo pattern u i j := by
  unfold advanceStep StepsTo
  cases htoken : pattern[i]? with
  | none => simp
  | some token =>
    simp only [Option.some.injEq, exists_eq_left']
    split_ifs with hs hq
    · simp [mem_addNew, hs]
    · simp [mem_addNew, hs, hq]
    · simp [hs, hq]

lemma nodup_advanceStep {u : UInt16} {next : List ℕ} {i : ℕ} (h : next.Nodup) :
    (advanceStep pattern u next i).Nodup := by
  unfold advanceStep
  cases pattern[i]? with
  | none => exact h
  | some token =>
    dsimp only
    split_ifs
    · exact nodup_addNew h
    · exact nodup_addNew h
    · exact h

lemma mem_advance {u : UInt16} {j : ℕ} :
    j ∈ advance pattern u positions ↔ ∃ i ∈ positions, StepsTo pattern u i j := by
  have hgen : ∀ next, j ∈ positions.foldl (advanceStep pattern u) next ↔
      j ∈ next ∨ ∃ i ∈ positions, StepsTo pattern u i j := by
    induction positions with
    | nil => simp
    | cons i positions ih =>
      intro next
      rw [foldl_cons, ih, mem_advanceStep, or_assoc]
      simp
  simpa [advance] using hgen []

lemma nodup_advance {u : UInt16} : (advance pattern u positions).Nodup := by
  have hgen : ∀ next : List ℕ, next.Nodup →
      (positions.foldl (advanceStep pattern u) next).Nodup := by
    induction positions with
    | nil => exact fun next h => h
    | cons i positions ih => exact fun next h => ih _ (nodup_advanceStep h)
  exact hgen [] nodup_nil

lemma advance_le {u : UInt16} : ∀ j ∈ advance pattern u positions, j ≤ pattern.length := by
  intro j hj
  obtain ⟨i, -, token, htoken, ⟨-, rfl⟩ | ⟨-, -, rfl⟩⟩ := mem_advance.mp hj
  · exact (lt_of_token htoken).le
  · exact lt_of_token htoken

lemma single_matches {token u : UInt16} (hs : token ≠ star) (hq : token ≠ question) :
    patternMatches [token] [u] = true ↔ token = u := by
  rw [patternMatches, map_cons, symOf_lit hs hq]
  simp

/-- A step of a position is a letter taken by the first symbol left there. -/
lemma stepsTo_iff {u : UInt16} (hu : dot u = true) {i : ℕ} {r : List (Sym UInt16)} :
    Eats dot u (leftAt pattern i) r ↔ ∃ j, StepsTo pattern u i j ∧ r = leftAt pattern j := by
  cases htoken : pattern[i]? with
  | none =>
    rw [leftAt_none htoken]
    constructor
    · intro h
      cases h
    · rintro ⟨j, ⟨token, h, -⟩, -⟩
      rw [htoken] at h
      cases h
  | some token =>
    have hleft := leftAt_cons htoken
    constructor
    · intro h
      by_cases hs : token = star
      · refine ⟨i, ⟨token, htoken, .inl ⟨hs, rfl⟩⟩, ?_⟩
        rw [hleft, hs, symOf_star] at h ⊢
        cases h
        rfl
      · refine ⟨i + 1, ⟨token, htoken, .inr ⟨hs, ?_, rfl⟩⟩, ?_⟩
        · by_cases hq : token = question
          · exact .inl hq
          · rw [hleft, symOf_lit hs hq] at h
            cases h
            exact .inr ((single_matches hs hq).mpr rfl)
        · rw [hleft] at h
          by_cases hq : token = question
          · rw [hq, show symOf question = .one from rfl] at h
            cases h
            rfl
          · rw [symOf_lit hs hq] at h
            cases h
            rfl
    · rintro ⟨j, ⟨token', htoken', hcase⟩, rfl⟩
      rw [htoken, Option.some.injEq] at htoken'
      subst htoken'
      rcases hcase with ⟨rfl, rfl⟩ | ⟨hs, hq | hm, rfl⟩
      · rw [hleft, symOf_star]
        exact .star hu
      · rw [hleft, hq, show symOf question = .one from rfl]
        exact .one hu
      · by_cases hq : token = question
        · rw [hleft, hq, show symOf question = .one from rfl]
          exact .one hu
        · rw [hleft, symOf_lit hs hq, (single_matches hs hq).mp hm]
          exact .lit

/-- In a closed set, skipping stars stays in the set. -/
lemma Closed.skips (h : Closed pattern positions) {i : ℕ} (hi : i ∈ positions)
    {q : List (Sym UInt16)} (hskip : Skips (leftAt pattern i) q) :
    ∃ j ∈ positions, q = leftAt pattern j := by
  generalize hp : leftAt pattern i = p at hskip
  induction hskip generalizing i with
  | refl => exact ⟨i, hi, hp.symm⟩
  | skip _ ih =>
    cases htoken : pattern[i]? with
    | none =>
      rw [leftAt_none htoken] at hp
      cases hp
    | some token =>
      rw [leftAt_cons htoken, cons.injEq] at hp
      have hstar : token = star := by
        by_contra hs
        by_cases hq : token = question
        · rw [hq] at hp
          exact absurd hp.1 (by decide)
        · rw [symOf_lit hs hq] at hp
          exact absurd hp.1 (by simp)
      exact ih (h.after_star i hi (hstar ▸ htoken)) hp.2

/-- One code unit further, the positions accept what is left of the text. -/
lemma acceptsAt_advance (h : Closed pattern positions) {u : UInt16} (hu : dot u = true)
    (text : Text) :
    AcceptsAt pattern (advance pattern u positions) text ↔
      AcceptsAt pattern positions (u :: text) := by
  constructor
  · rintro ⟨j, hj, haccepts⟩
    obtain ⟨i, hi, hstep⟩ := mem_advance.mp hj
    exact ⟨i, hi, accepts_of_eats ((stepsTo_iff hu).mpr ⟨j, hstep, rfl⟩) haccepts⟩
  · rintro ⟨i, hi, haccepts⟩
    obtain ⟨q, r, hskip, heats, hr⟩ := (accepts_cons_iff _ _ _).mp haccepts
    obtain ⟨k, hk, rfl⟩ := h.skips hi hskip
    obtain ⟨j, hstep, rfl⟩ := (stepsTo_iff hu).mp heats
    exact ⟨j, mem_advance.mpr ⟨k, hk, hstep⟩, hr⟩

/-- The positions reached over a directory accept the rest of what the pattern accepts. -/
theorem acceptsAt_reached {directory : Text} (hdir : ∀ u ∈ directory, dot u = true)
    (text : Text) :
    AcceptsAt pattern (reached pattern directory) text ↔
      accepts dot (pattern.map symOf) (directory ++ text) = true := by
  have hgen : ∀ (directory : Text) (positions : List ℕ), Closed pattern positions →
      (∀ u ∈ directory, dot u = true) →
      (AcceptsAt pattern (directory.foldl
          (fun positions u => close pattern (advance pattern u positions)) positions) text ↔
        AcceptsAt pattern positions (directory ++ text)) := by
    intro directory
    induction directory with
    | nil => exact fun positions _ _ => Iff.rfl
    | cons u directory ih =>
      intro positions h hdots
      rw [foldl_cons, ih _ (close_closed nodup_advance advance_le)
        (fun v hv => hdots v (mem_cons_of_mem u hv)),
        acceptsAt_close nodup_advance advance_le,
        acceptsAt_advance h (hdots u mem_cons_self), cons_append]
  have hnodup : ([0] : List ℕ).Nodup := nodup_singleton 0
  have hle : ∀ i ∈ ([0] : List ℕ), i ≤ pattern.length := by simp
  rw [reached, hgen directory _ (close_closed hnodup hle) hdir, acceptsAt_close hnodup hle]
  simp [AcceptsAt, leftAt]

end Positions

end BorgClient.OpenCode
