import Mathlib

/-!
# Wildcard patterns

Words over an alphabet, patterns of a run of letters, one letter or a given letter, and what is left
of a pattern behind a first letter. `dot` tells the letters a wildcard may stand for.
-/

namespace Glob

inductive Sym (α : Type*) where
  | star
  | one
  | lit (a : α)
deriving DecidableEq, Repr

variable {α : Type*} [DecidableEq α] {dot : α → Bool}

/-- `rest` accepts what is left of the word behind some letters of `dot`. -/
def starRest (dot : α → Bool) (rest : List α → Bool) : List α → Bool
  | [] => rest []
  | a :: w => rest (a :: w) || (dot a && starRest dot rest w)

def accepts (dot : α → Bool) : List (Sym α) → List α → Bool
  | [], w => w.isEmpty
  | .star :: p, w => starRest dot (accepts dot p) w
  | .one :: _, [] => false
  | .one :: p, a :: w => dot a && accepts dot p w
  | .lit _ :: _, [] => false
  | .lit c :: p, a :: w => decide (c = a) && accepts dot p w

@[simp] lemma accepts_nil_nil : accepts dot ([] : List (Sym α)) [] = true := rfl

@[simp] lemma accepts_nil_cons (a : α) (w : List α) : accepts dot [] (a :: w) = false := rfl

@[simp] lemma accepts_star_nil (p : List (Sym α)) :
    accepts dot (.star :: p) [] = accepts dot p [] := by
  simp only [accepts, starRest]

@[simp] lemma accepts_star_cons (p : List (Sym α)) (a : α) (w : List α) :
    accepts dot (.star :: p) (a :: w) =
      (accepts dot p (a :: w) || (dot a && accepts dot (.star :: p) w)) := by
  simp only [accepts, starRest]

@[simp] lemma accepts_one_nil (p : List (Sym α)) : accepts dot (.one :: p) [] = false := rfl

@[simp] lemma accepts_one_cons (p : List (Sym α)) (a : α) (w : List α) :
    accepts dot (.one :: p) (a :: w) = (dot a && accepts dot p w) := rfl

@[simp] lemma accepts_lit_nil (c : α) (p : List (Sym α)) :
    accepts dot (.lit c :: p) [] = false := rfl

@[simp] lemma accepts_lit_cons (c a : α) (p : List (Sym α)) (w : List α) :
    accepts dot (.lit c :: p) (a :: w) = (decide (c = a) && accepts dot p w) := rfl

lemma accepts_star_of_rest {p : List (Sym α)} {w : List α} (h : accepts dot p w = true) :
    accepts dot (.star :: p) w = true := by
  cases w with
  | nil => simpa using h
  | cons a w => simp [h]

/-! ### Literal prefixes -/

lemma accepts_lits_append (d : List α) (p : List (Sym α)) (w : List α) :
    accepts dot (d.map .lit ++ p) (d ++ w) = accepts dot p w := by
  induction d with
  | nil => rfl
  | cons a d ih => simpa using ih

lemma split_of_accepts_lits {d : List α} {p : List (Sym α)} {w : List α}
    (h : accepts dot (d.map .lit ++ p) w = true) : ∃ v, w = d ++ v ∧ accepts dot p v = true := by
  induction d generalizing w with
  | nil => exact ⟨w, rfl, h⟩
  | cons a d ih =>
    cases w with
    | nil => simp at h
    | cons b w =>
      simp only [List.map_cons, List.cons_append, accepts_lit_cons, Bool.and_eq_true,
        decide_eq_true_eq] at h
      obtain ⟨rfl, h⟩ := h
      obtain ⟨v, rfl, hv⟩ := ih h
      exact ⟨v, rfl, hv⟩

/-- A pattern of letters alone accepts itself alone. -/
lemma accepts_lits (d w : List α) : accepts dot (d.map .lit) w = true ↔ w = d := by
  constructor
  · intro h
    rw [← List.append_nil (d.map Sym.lit)] at h
    obtain ⟨v, rfl, hv⟩ := split_of_accepts_lits h
    cases v with
    | nil => exact List.append_nil d
    | cons a v => simp at hv
  · rintro rfl
    have h := @accepts_lits_append α _ dot w [] []
    simpa using h

/-- A letter of the pattern is in every word it accepts. -/
lemma mem_of_lit {p : List (Sym α)} {w : List α} (h : accepts dot p w = true) {c : α}
    (hc : Sym.lit c ∈ p) : c ∈ w := by
  induction p generalizing w with
  | nil => cases hc
  | cons t p ih =>
    have hrest : ∀ {v : List α}, accepts dot p v = true → t ≠ .lit c → c ∈ v :=
      fun hv ht => ih hv ((List.mem_cons.mp hc).resolve_left (fun heq => ht heq.symm))
    cases t with
    | star =>
      induction w with
      | nil =>
        rw [accepts_star_nil] at h
        exact hrest h (by simp)
      | cons a w ihw =>
        rw [accepts_star_cons, Bool.or_eq_true, Bool.and_eq_true] at h
        rcases h with h | ⟨-, h⟩
        · exact hrest h (by simp)
        · exact List.mem_cons_of_mem a (ihw h)
    | one =>
      cases w with
      | nil => cases h
      | cons a w =>
        rw [accepts_one_cons, Bool.and_eq_true] at h
        exact List.mem_cons_of_mem a (hrest h.2 (by simp))
    | lit d =>
      cases w with
      | nil => cases h
      | cons a w =>
        rw [accepts_lit_cons, Bool.and_eq_true, decide_eq_true_eq] at h
        obtain ⟨rfl, h⟩ := h
        rcases List.mem_cons.mp hc with heq | hc
        · rw [Sym.lit.injEq] at heq
          exact heq ▸ List.mem_cons_self
        · exact List.mem_cons_of_mem d (ih h hc)

/-- Stars alone accept every word of `dot`. -/
lemma accepts_stars {p : List (Sym α)} (hp : ∀ t ∈ p, t = .star) (hne : p ≠ []) {w : List α}
    (hw : ∀ a ∈ w, dot a = true) : accepts dot p w = true := by
  induction p generalizing w with
  | nil => exact absurd rfl hne
  | cons t p ih =>
    obtain rfl := hp t List.mem_cons_self
    have hempty : accepts dot p [] = true := by
      cases p with
      | nil => rfl
      | cons u p => exact ih (fun t ht => hp t (List.mem_cons_of_mem _ ht)) (by simp) (by simp)
    induction w with
    | nil => simpa using hempty
    | cons a w ihw =>
      have hrest := ihw (fun b hb => hw b (List.mem_cons_of_mem a hb))
      simp [hw a List.mem_cons_self, hrest]

/-! ### What is left of a pattern -/

/-- `q` is `p` without some of its leading stars. -/
inductive Skips : List (Sym α) → List (Sym α) → Prop
  | refl (p) : Skips p p
  | skip {p q} : Skips p q → Skips (.star :: p) q

/-- The first symbol of the pattern takes the letter `a`. -/
inductive Eats (dot : α → Bool) (a : α) : List (Sym α) → List (Sym α) → Prop
  | star {p} : dot a = true → Eats dot a (.star :: p) (.star :: p)
  | one {p} : dot a = true → Eats dot a (.one :: p) p
  | lit {p} : Eats dot a (.lit a :: p) p

lemma accepts_of_skips {p q : List (Sym α)} {w : List α} (h : Skips p q)
    (hq : accepts dot q w = true) : accepts dot p w = true := by
  induction h with
  | refl => exact hq
  | skip _ ih => exact accepts_star_of_rest (ih hq)

lemma accepts_of_eats {p q : List (Sym α)} {a : α} {w : List α} (h : Eats dot a p q)
    (hq : accepts dot q w = true) : accepts dot p (a :: w) = true := by
  cases h with
  | star ha => simp [ha, hq]
  | one ha => simp [ha, hq]
  | lit => simp [hq]

/-- A first letter is taken by the first symbol behind some leading stars. -/
theorem accepts_cons_iff (p : List (Sym α)) (a : α) (w : List α) :
    accepts dot p (a :: w) = true ↔
      ∃ q r, Skips p q ∧ Eats dot a q r ∧ accepts dot r w = true := by
  constructor
  · intro h
    induction p with
    | nil => simp at h
    | cons t p ih =>
      cases t with
      | star =>
        rw [accepts_star_cons, Bool.or_eq_true, Bool.and_eq_true] at h
        rcases h with h | ⟨ha, h⟩
        · obtain ⟨q, r, hq, hr, hw⟩ := ih h
          exact ⟨q, r, .skip hq, hr, hw⟩
        · exact ⟨_, _, .refl _, .star ha, h⟩
      | one =>
        rw [accepts_one_cons, Bool.and_eq_true] at h
        exact ⟨_, p, .refl _, .one h.1, h.2⟩
      | lit c =>
        rw [accepts_lit_cons, Bool.and_eq_true, decide_eq_true_eq] at h
        obtain ⟨rfl, h⟩ := h
        exact ⟨_, p, .refl _, .lit, h⟩
  · rintro ⟨q, r, hq, hr, hw⟩
    exact accepts_of_skips hq (accepts_of_eats hr hw)

end Glob
