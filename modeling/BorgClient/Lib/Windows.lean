import Mathlib

/-!
# Windows of an ordered log

Positions of an append-only log in a linear order: the first `n` members of a set after a
position, and a scan that has seen every member between a position and the last it passed.
-/

namespace Windows
open Finset

variable {α : Type*} [LinearOrder α]

/-- The members of `S` after `c` with at most `n` members up to and including themselves. -/
def firstAfter (S : Finset α) (n : ℕ) (c : α) : Finset α :=
  S.filter (fun p => c < p ∧ (S.filter (fun q => c < q ∧ q ≤ p)).card ≤ n)

lemma mem_firstAfter {S : Finset α} {n : ℕ} {c p : α} :
    p ∈ firstAfter S n c ↔ p ∈ S ∧ c < p ∧ (S.filter (fun q => c < q ∧ q ≤ p)).card ≤ n := by
  simp [firstAfter]

/-- There are at most `n` of them: all lie at or before the greatest. -/
theorem card_firstAfter_le (S : Finset α) (n : ℕ) (c : α) : (firstAfter S n c).card ≤ n := by
  by_cases he : (firstAfter S n c).Nonempty
  · obtain ⟨-, -, hcard⟩ := mem_firstAfter.mp (max'_mem _ he)
    refine (card_le_card ?_).trans hcard
    intro q hq
    obtain ⟨hqS, hcq, -⟩ := mem_firstAfter.mp hq
    exact mem_filter.mpr ⟨hqS, hcq, le_max' _ q hq⟩
  · rw [not_nonempty_iff_eq_empty.mp he]
    exact Nat.zero_le n

/-- Counting from a later position only counts fewer. -/
lemma firstAfter_advance {S : Finset α} {n : ℕ} {c c' p : α} (hc : c ≤ c')
    (hp : p ∈ firstAfter S n c) (hcp : c' < p) : p ∈ firstAfter S n c' := by
  obtain ⟨hpS, -, hcard⟩ := mem_firstAfter.mp hp
  refine mem_firstAfter.mpr ⟨hpS, hcp, (card_le_card ?_).trans hcard⟩
  intro q hq
  obtain ⟨hqS, hcq, hqp⟩ := mem_filter.mp hq
  exact mem_filter.mpr ⟨hqS, hc.trans_lt hcq, hqp⟩

/-- Members appended after all others push none out. -/
lemma firstAfter_extend {S S' : Finset α} {n : ℕ} {c p : α} (hsub : S ⊆ S')
    (hlater : ∀ q ∈ S', q ∉ S → ∀ x ∈ S, x < q) (hp : p ∈ firstAfter S n c) :
    p ∈ firstAfter S' n c := by
  obtain ⟨hpS, hcp, hcard⟩ := mem_firstAfter.mp hp
  refine mem_firstAfter.mpr ⟨hsub hpS, hcp, (card_le_card ?_).trans hcard⟩
  intro q hq
  obtain ⟨hqS, hcq, hqp⟩ := mem_filter.mp hq
  refine mem_filter.mpr ⟨?_, hcq, hqp⟩
  by_contra hn
  exact absurd (hlater q hqS hn p hpS) (not_lt.mpr hqp)

/-- The last of a sorted list is its greatest. -/
lemma le_getLast_of_mem {l : List α} {p last : α} (hs : l.Pairwise (· < ·))
    (hlast : l.getLast? = some last) (hp : p ∈ l) : p ≤ last := by
  obtain ⟨front, rfl⟩ := List.getLast?_eq_some_iff.mp hlast
  rcases List.mem_append.mp hp with hp | hp
  · exact ((List.pairwise_append.mp hs).2.2 p hp last (by simp)).le
  · rw [List.mem_singleton.mp hp]

/-- A sorted list that is closed downwards in another one is a prefix of it. -/
lemma prefix_of_closed {l l' : List α} (hs : l.Pairwise (· < ·)) (hs' : l'.Pairwise (· < ·))
    (hmem : ∀ p ∈ l, p ∈ l') (hclosed : ∀ p ∈ l, ∀ q ∈ l', q < p → q ∈ l) : l <+: l' := by
  induction l generalizing l' with
  | nil => exact List.nil_prefix
  | cons a rest ih =>
    obtain ⟨ha, hrest⟩ := List.pairwise_cons.mp hs
    cases l' with
    | nil => exact absurd (hmem a List.mem_cons_self) List.not_mem_nil
    | cons b rest' =>
      obtain ⟨hb, hrest'⟩ := List.pairwise_cons.mp hs'
      obtain rfl : a = b := by
        rcases List.mem_cons.mp (hmem a List.mem_cons_self) with hab | hab
        · exact hab
        · have hlt := hb a hab
          rcases List.mem_cons.mp (hclosed a List.mem_cons_self b List.mem_cons_self hlt) with
            hba | hba
          · exact hba.symm
          · exact absurd hlt (lt_asymm (ha b hba))
      refine List.cons_prefix_cons.mpr ⟨rfl, ih hrest hrest' (fun p hp => ?_) (fun p hp q hq hqp => ?_)⟩
      · rcases List.mem_cons.mp (hmem p (List.mem_cons_of_mem _ hp)) with rfl | h
        · exact absurd (ha p hp) (lt_irrefl p)
        · exact h
      · rcases List.mem_cons.mp (hclosed p (List.mem_cons_of_mem _ hp) q
          (List.mem_cons_of_mem _ hq) hqp) with rfl | h
        · exact absurd (hb q hq) (lt_irrefl q)
        · exact h

/-- `l` lists, in order, every member of `S` after `c` and up to `last`. -/
structure Scan (S : Finset α) (c last : α) (l : List α) : Prop where
  sorted : l.Pairwise (· < ·)
  le_last : c ≤ last
  mem : ∀ p ∈ l, p ∈ S ∧ c < p ∧ p ≤ last
  complete : ∀ q ∈ S, c < q → q ≤ last → q ∈ l

namespace Scan

variable {S S' : Finset α} {c last p : α} {l : List α}

lemma start (S : Finset α) (c : α) : Scan S c c [] where
  sorted := List.Pairwise.nil
  le_last := le_rfl
  mem := by simp
  complete := by
    intro q _ hc hq
    exact absurd hc (not_lt.mpr hq)

/-- The next position is no member, and no member lies before it. -/
lemma skip (h : Scan S c last l) (hp : last < p) (hnext : ∀ q ∈ S, last < q → p < q) :
    Scan S c p l where
  sorted := h.sorted
  le_last := h.le_last.trans hp.le
  mem := by
    intro q hq
    obtain ⟨hqS, hcq, hql⟩ := h.mem q hq
    exact ⟨hqS, hcq, hql.trans hp.le⟩
  complete := by
    intro q hq hcq hqp
    by_cases hl : q ≤ last
    · exact h.complete q hq hcq hl
    · exact absurd (hnext q hq (not_le.mp hl)) (not_lt.mpr hqp)

/-- The next position is a member, and no member lies before it. -/
lemma take (h : Scan S c last l) (hp : last < p) (hpS : p ∈ S)
    (hnext : ∀ q ∈ S, last < q → p ≤ q) : Scan S c p (l ++ [p]) where
  sorted := by
    rw [List.pairwise_append]
    refine ⟨h.sorted, List.pairwise_singleton _ _, ?_⟩
    intro q hq x hx
    rw [List.mem_singleton.mp hx]
    exact (h.mem q hq).2.2.trans_lt hp
  le_last := h.le_last.trans hp.le
  mem := by
    intro q hq
    rcases List.mem_append.mp hq with hq | hq
    · obtain ⟨hqS, hcq, hql⟩ := h.mem q hq
      exact ⟨hqS, hcq, hql.trans hp.le⟩
    · rw [List.mem_singleton.mp hq]
      exact ⟨hpS, h.le_last.trans_lt hp, le_rfl⟩
  complete := by
    intro q hq hcq hqp
    by_cases hl : q ≤ last
    · exact List.mem_append_left _ (h.complete q hq hcq hl)
    · have hqe : q = p := le_antisymm hqp (hnext q hq (not_le.mp hl))
      exact List.mem_append_right _ (List.mem_singleton.mpr hqe)

/-- Members appended after `last` leave the scan as it is. -/
lemma extend (h : Scan S c last l) (hsub : S ⊆ S')
    (hlater : ∀ q ∈ S', q ∉ S → c < q → last < q) : Scan S' c last l where
  sorted := h.sorted
  le_last := h.le_last
  mem := by
    intro q hq
    obtain ⟨hqS, hq⟩ := h.mem q hq
    exact ⟨hsub hqS, hq⟩
  complete := by
    intro q hq hcq hql
    by_cases hqS : q ∈ S
    · exact h.complete q hqS hcq hql
    · exact absurd (hlater q hq hqS hcq) (not_lt.mpr hql)

/-- A prefix of the scan is closed downwards. -/
lemma mem_take_of_le (h : Scan S c last l) {n : ℕ} {q : α} (hp : p ∈ l.take n) (hq : q ∈ l)
    (hqp : q ≤ p) : q ∈ l.take n := by
  rcases List.mem_append.mp ((List.take_append_drop n l).symm ▸ hq) with hq | hq
  · exact hq
  · have hs := h.sorted
    rw [← List.take_append_drop n l, List.pairwise_append] at hs
    exact absurd (hs.2.2 p hp q hq) (not_lt.mpr hqp)

lemma prefix_of_le {last' : α} {l' : List α} (h : Scan S c last l) (h' : Scan S c last' l')
    (hle : last ≤ last') : l <+: l' := by
  refine prefix_of_closed h.sorted h'.sorted (fun p hp => ?_) (fun p hp q hq hqp => ?_)
  · obtain ⟨hpS, hcp, hpl⟩ := h.mem p hp
    exact h'.complete p hpS hcp (hpl.trans hle)
  · obtain ⟨hqS, hcq, _⟩ := h'.mem q hq
    exact h.complete q hqS hcq (hqp.le.trans (h.mem p hp).2.2)

/-- Of what two scans after one position have listed, one is the beginning of the other. -/
theorem comparable {last' : α} {l' : List α} (h : Scan S c last l)
    (h' : Scan S c last' l') : l <+: l' ∨ l' <+: l := by
  rcases le_total last last' with hle | hle
  · exact Or.inl (h.prefix_of_le h' hle)
  · exact Or.inr (h'.prefix_of_le h hle)

/-- The first `n` scanned are among the first `n` members after `c`. -/
theorem mem_firstAfter (h : Scan S c last l) {n : ℕ} (hp : p ∈ l.take n) :
    p ∈ firstAfter S n c := by
  obtain ⟨hpS, hcp, hpl⟩ := h.mem p (List.mem_of_mem_take hp)
  refine Windows.mem_firstAfter.mpr ⟨hpS, hcp, ?_⟩
  have hsub : S.filter (fun q => c < q ∧ q ≤ p) ⊆ (l.take n).toFinset := by
    intro q hq
    obtain ⟨hqS, hcq, hqp⟩ := mem_filter.mp hq
    exact List.mem_toFinset.mpr (h.mem_take_of_le hp (h.complete q hqS hcq (hqp.trans hpl)) hqp)
  calc (S.filter (fun q => c < q ∧ q ≤ p)).card
      ≤ (l.take n).toFinset.card := card_le_card hsub
    _ ≤ (l.take n).length := List.toFinset_card_le _
    _ ≤ n := List.length_take_le n l

end Scan

end Windows
