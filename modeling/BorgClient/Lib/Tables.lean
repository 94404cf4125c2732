import Mathlib

/-!
# Tables with a primary key

A list of rows in which no key occurs twice, and the statements that change one: deleting
rows, updating rows under their keys, inserting a row unless its key is taken, and
replacing all rows, which fails when a key repeats.
-/

namespace Tables
open List

variable {α κ : Type*} {key : α → κ}

/-- Rows with pairwise distinct keys. -/
structure Table (key : α → κ) where
  rows : List α
  unique : (rows.map key).Nodup

namespace Table

lemma ext_rows {t u : Table key} (h : t.rows = u.rows) : t = u := by
  cases t
  cases u
  congr

instance : Membership α (Table key) := ⟨fun t a => a ∈ t.rows⟩

lemma mem_def {t : Table key} {a : α} : a ∈ t ↔ a ∈ t.rows := Iff.rfl

/-- A key names at most one row. -/
lemma eq_of_key {t : Table key} {a b : α} (ha : a ∈ t) (hb : b ∈ t) (h : key a = key b) :
    a = b :=
  inj_on_of_nodup_map t.unique ha hb h

lemma nodup_of_sublist {rows rows' : List α} (hs : rows' <+ rows) (h : (rows.map key).Nodup) :
    (rows'.map key).Nodup :=
  h.sublist (hs.map key)

/-- A sublist that keeps the rows with a property has the same first of them. -/
lemma find?_of_sublist {rows rows' : List α} (hs : rows' <+ rows) (hn : rows.Nodup) {p : α → Bool}
    (hp : ∀ a ∈ rows, p a = true → a ∈ rows') : rows'.find? p = rows.find? p := by
  induction hs with
  | slnil => rfl
  | cons a hs ih =>
    obtain ⟨ha, hn⟩ := nodup_cons.mp hn
    have hnot : p a = false := by
      by_contra h
      exact ha (hs.subset (hp a mem_cons_self (by simpa using h)))
    rw [find?_cons, hnot]
    exact ih hn (fun b hb => hp b (mem_cons_of_mem a hb))
  | cons_cons a hs ih =>
    obtain ⟨ha, hn⟩ := nodup_cons.mp hn
    rw [find?_cons, find?_cons]
    cases p a with
    | true => rfl
    | false =>
      refine ih hn (fun b hb hpb => ?_)
      rcases mem_cons.mp (hp b (mem_cons_of_mem a hb) hpb) with rfl | h
      · exact absurd hb ha
      · exact h

/-- The rows `p` does not hold of. -/
def delete (t : Table key) (p : α → Bool) : Table key where
  rows := t.rows.filter (fun a => !p a)
  unique := nodup_of_sublist filter_sublist t.unique

@[simp] lemma mem_delete {t : Table key} {p : α → Bool} {a : α} :
    a ∈ t.delete p ↔ a ∈ t ∧ p a = false := by
  simp [delete, mem_def]

/-- Every row rewritten by a function that keeps its key. -/
def update (t : Table key) (f : α → α) (hf : ∀ a, key (f a) = key a) : Table key where
  rows := t.rows.map f
  unique := by
    have h : (t.rows.map f).map key = t.rows.map key := by simp [hf]
    rw [h]
    exact t.unique

@[simp] lemma mem_update {t : Table key} {f : α → α} {hf : ∀ a, key (f a) = key a} {b : α} :
    b ∈ t.update f hf ↔ ∃ a ∈ t, f a = b := by
  simp [update, mem_def]

variable [DecidableEq κ]

/-- The row of a key. -/
def find (t : Table key) (k : κ) : Option α := t.rows.find? (fun a => key a == k)

lemma find_eq_some {t : Table key} {a : α} {k : κ} : t.find k = some a ↔ a ∈ t ∧ key a = k := by
  constructor
  · intro h
    exact ⟨mem_of_find?_eq_some h, by simpa using find?_some h⟩
  · rintro ⟨ha, rfl⟩
    cases hf : t.find (key a) with
    | none =>
      have hn := find?_eq_none.mp hf a ha
      simp at hn
    | some b =>
      have hb : b ∈ t := mem_of_find?_eq_some hf
      have hk : key b = key a := by simpa using find?_some hf
      rw [eq_of_key hb ha hk]

@[simp] lemma find_update {t : Table key} {f : α → α} {hf : ∀ a, key (f a) = key a} {k : κ} :
    (t.update f hf).find k = (t.find k).map f := by
  simp [find, update, find?_map, hf]

lemma find_delete {t : Table key} {p : α → Bool} {k : κ} (h : ∀ a ∈ t, key a = k → p a = false) :
    (t.delete p).find k = t.find k := by
  cases hf : t.find k with
  | none =>
    refine find?_eq_none.mpr (fun a ha => ?_)
    exact find?_eq_none.mp hf a (mem_delete.mp ha).1
  | some a =>
    obtain ⟨ha, hk⟩ := find_eq_some.mp hf
    exact find_eq_some.mpr ⟨mem_delete.mpr ⟨ha, h a ha hk⟩, hk⟩

lemma find_delete_none {t : Table key} {p : α → Bool} {k : κ}
    (h : ∀ a ∈ t, key a = k → p a = true) : (t.delete p).find k = none := by
  refine find?_eq_none.mpr (fun a ha => ?_)
  obtain ⟨ha, hp⟩ := mem_delete.mp ha
  intro hk
  simp [h a ha (by simpa using hk)] at hp

/-- `INSERT OR IGNORE`: a taken key leaves the table as it is. -/
def insertOrIgnore (t : Table key) (a : α) : Table key :=
  if h : key a ∈ t.rows.map key then t
  else
    { rows := t.rows ++ [a]
      unique := by
        rw [map_append, nodup_append]
        refine ⟨t.unique, by simp, ?_⟩
        intro b hb c hc hbc
        have hca : c = key a := by simpa using hc
        subst hca
        exact h (hbc ▸ hb) }

lemma mem_insertOrIgnore_of_mem {t : Table key} {a b : α} (h : b ∈ t) :
    b ∈ t.insertOrIgnore a := by
  unfold insertOrIgnore
  split
  · exact h
  · exact mem_append_left _ h

lemma mem_of_mem_insertOrIgnore {t : Table key} {a b : α} (h : b ∈ t.insertOrIgnore a) :
    b ∈ t ∨ b = a := by
  unfold insertOrIgnore at h
  split at h
  · exact Or.inl h
  · simpa [mem_def] using h

/-- After the insert some row has the key. -/
lemma exists_mem_insertOrIgnore (t : Table key) (a : α) :
    ∃ b ∈ t.insertOrIgnore a, key b = key a := by
  unfold insertOrIgnore
  split
  · rename_i h
    obtain ⟨b, hb, hk⟩ := mem_map.mp h
    exact ⟨b, hb, hk⟩
  · exact ⟨a, by simp [mem_def], rfl⟩

lemma find_insertOrIgnore {t : Table key} {a : α} {k : κ} :
    (t.insertOrIgnore a).find k =
      if t.find k = none ∧ key a = k then some a else t.find k := by
  unfold insertOrIgnore find
  split
  · rename_i h
    rw [if_neg]
    rintro ⟨hn, rfl⟩
    obtain ⟨b, hb, hk⟩ := mem_map.mp h
    simpa [hk] using find?_eq_none.mp hn b hb
  · rw [find?_append]
    cases hf : t.rows.find? (fun a => key a == k) with
    | none => by_cases hk : key a = k <;> simp [hk]
    | some b => simp

/-- The row put under its key: in place of the key's row, or as a new last row. -/
def upsert (t : Table key) (a : α) : Table key :=
  (t.update (fun b => if key b = key a then a else b) (by
    intro b
    split
    · rename_i h
      exact h.symm
    · rfl)).insertOrIgnore a

lemma mem_upsert {t : Table key} {a b : α} : b ∈ t.upsert a ↔ b = a ∨ b ∈ t ∧ key b ≠ key a := by
  unfold upsert
  constructor
  · intro h
    rcases mem_of_mem_insertOrIgnore h with h | h
    · obtain ⟨c, hc, he⟩ := mem_update.mp h
      by_cases hk : key c = key a
      · rw [if_pos hk] at he
        exact Or.inl he.symm
      · rw [if_neg hk] at he
        subst he
        exact Or.inr ⟨hc, hk⟩
    · exact Or.inl h
  · rintro (rfl | ⟨hb, hk⟩)
    · obtain ⟨c, hc, hk⟩ := exists_mem_insertOrIgnore
        (t.update (fun c => if key c = key b then b else c) _) b
      rcases mem_of_mem_insertOrIgnore hc with h | rfl
      · obtain ⟨d, -, he⟩ := mem_update.mp h
        by_cases hd : key d = key b
        · rw [if_pos hd] at he
          exact he ▸ hc
        · rw [if_neg hd] at he
          exact absurd (he ▸ hk) hd
      · exact hc
    · exact mem_insertOrIgnore_of_mem (mem_update.mpr ⟨b, hb, if_neg hk⟩)

/-- The first row with a property, after a row with the property was put under its key. -/
lemma find?_upsert {t : Table key} {a : α} {p : α → Bool} (ha : p a = true) :
    (t.upsert a).rows.find? p = some a ∨
      ∃ b, t.rows.find? p = some b ∧ (t.upsert a).rows.find? p = some b := by
  have hmap : ∀ rows : List α, (rows.map (fun b => if key b = key a then a else b)).find? p =
      some a ∨ (rows.map (fun b => if key b = key a then a else b)).find? p = rows.find? p := by
    intro rows
    induction rows with
    | nil => exact Or.inr rfl
    | cons b rows ih =>
      rw [map_cons, find?_cons, find?_cons]
      by_cases hk : key b = key a
      · simp [hk, ha]
      · rw [if_neg hk]
        cases p b with
        | true => exact Or.inr rfl
        | false => exact ih
  have hrows : (t.upsert a).rows = t.rows.map (fun b => if key b = key a then a else b) ∨
      (t.upsert a).rows = t.rows.map (fun b => if key b = key a then a else b) ++ [a] := by
    unfold upsert insertOrIgnore
    split
    · exact Or.inl rfl
    · exact Or.inr rfl
  cases hfind : (t.upsert a).rows.find? p with
  | none =>
    have hnot := find?_eq_none.mp hfind a (mem_upsert.mpr (Or.inl rfl))
    exact absurd ha hnot
  | some b =>
    rcases hmap t.rows with h | h
    · left
      rcases hrows with hr | hr
      · rw [hr, h] at hfind
        exact hfind.symm
      · rw [hr, find?_append, h] at hfind
        exact hfind.symm
    · cases hold : t.rows.find? p with
      | none =>
        left
        rcases hrows with hr | hr
        · rw [hr, h, hold] at hfind
          cases hfind
        · rw [hr, find?_append, h, hold] at hfind
          simpa [ha] using hfind.symm
      | some c =>
        right
        refine ⟨b, ?_, rfl⟩
        rcases hrows with hr | hr
        · rw [hr, h, hold] at hfind
          exact hfind
        · rw [hr, find?_append, h, hold] at hfind
          exact hfind

/-- The first row with a property stands ahead of every other. -/
lemma ahead_of_find? {rows : List α} {p : α → Bool} {a b : α} (h : rows.find? p = some a)
    (hb : b ∈ rows) (hp : p b = true) (hne : b ≠ a) : [a, b] <+ rows := by
  induction rows with
  | nil => cases hb
  | cons c rows ih =>
    rw [find?_cons] at h
    cases hc : p c with
    | true =>
      rw [hc] at h
      obtain rfl := Option.some.inj h
      rcases mem_cons.mp hb with rfl | hb
      · exact absurd rfl hne
      · exact (singleton_sublist.mpr hb).cons_cons c
    | false =>
      rw [hc] at h
      rcases mem_cons.mp hb with rfl | hb
      · rw [hc] at hp
        cases hp
      · exact (ih h hb).cons c

/-- Which row stands ahead of which after a row was put under its key. -/
lemma ahead_upsert {t : Table key} {a b c : α} (h : [b, c] <+ (t.upsert a).rows) :
    (∃ b' c', [b', c'] <+ t.rows ∧ b = (if key b' = key a then a else b') ∧
      c = if key c' = key a then a else c') ∨ c = a ∧ b ∈ t ∧ ∀ d ∈ t, key d ≠ key a := by
  have hmapped : ∀ {b c : α}, [b, c] <+ t.rows.map (fun d => if key d = key a then a else d) →
      ∃ b' c', [b', c'] <+ t.rows ∧ b = (if key b' = key a then a else b') ∧
        c = if key c' = key a then a else c' := by
    intro b c h
    obtain ⟨l, hl, heq⟩ := sublist_map_iff.mp h
    obtain ⟨b', l', rfl, hb, heq⟩ := map_eq_cons_iff.mp heq.symm
    obtain ⟨c', l'', rfl, hc, heq⟩ := map_eq_cons_iff.mp heq
    obtain rfl := map_eq_nil_iff.mp heq
    exact ⟨b', c', hl, hb.symm, hc.symm⟩
  unfold upsert insertOrIgnore at h
  split at h
  · exact Or.inl (hmapped h)
  · rename_i hnew
    obtain ⟨l₁, l₂, heq, h₁, h₂⟩ := sublist_append_iff.mp h
    rcases sublist_singleton.mp h₂ with rfl | rfl
    · rw [append_nil] at heq
      subst heq
      exact Or.inl (hmapped h₁)
    · right
      have hl : l₁ = [b] ∧ c = a := by
        rcases l₁ with _ | ⟨d, _ | ⟨e, l₁⟩⟩
        · simp at heq
        · simp only [cons_append, nil_append, cons.injEq, and_true] at heq
          exact ⟨by rw [heq.1], heq.2⟩
        · simp at heq
      obtain ⟨rfl, rfl⟩ := hl
      have hother : ∀ d ∈ t, key d ≠ key c := by
        intro d hd hk
        refine hnew (mem_map.mpr ⟨c, mem_map.mpr ⟨d, hd, if_pos hk⟩, rfl⟩)
      obtain ⟨d, hd, hdb⟩ := mem_map.mp (h₁.subset mem_cons_self)
      rw [if_neg (hother d hd)] at hdb
      subst hdb
      exact ⟨rfl, hd, hother⟩

/-- All rows replaced, or none when a key repeats. -/
def ofRows (rows : List α) : Option (Table key) :=
  if h : (rows.map key).Nodup then some ⟨rows, h⟩ else none

lemma ofRows_eq_some {rows : List α} {t : Table key} :
    ofRows rows = some t ↔ t.rows = rows := by
  unfold ofRows
  constructor
  · intro h
    split at h
    · cases h
      rfl
    · cases h
  · rintro rfl
    rw [dif_pos t.unique]

end Table

end Tables
