import Mathlib

/-!
# Keeping the first of each key, over groups

Items may have a key. Of the items with one key only the first stays, counted over a list of
groups, and a group that loses its last item goes. A group is read and written through a view.
-/

namespace GroupDedup
open List

variable {α κ γ : Type} [DecidableEq κ]

/-! ### One list -/

/-- The items that stay, with the keys seen then. -/
def dedup (key : α → Option κ) : List κ → List α → List α × List κ
  | seen, [] => ([], seen)
  | seen, item :: rest =>
    match key item with
    | none =>
      let (kept, seen) := dedup key seen rest
      (item :: kept, seen)
    | some k =>
      if k ∈ seen then dedup key seen rest
      else
        let (kept, seen) := dedup key (k :: seen) rest
        (item :: kept, seen)

variable {key : α → Option κ}

lemma dedup_none {item : α} (h : key item = none) (seen : List κ) (rest : List α) :
    dedup key seen (item :: rest) =
      (item :: (dedup key seen rest).1, (dedup key seen rest).2) := by
  simp [dedup, h]

lemma dedup_seen {item : α} {k : κ} (h : key item = some k) {seen : List κ} (hk : k ∈ seen)
    (rest : List α) : dedup key seen (item :: rest) = dedup key seen rest := by
  simp [dedup, h, hk]

lemma dedup_new {item : α} {k : κ} (h : key item = some k) {seen : List κ} (hk : k ∉ seen)
    (rest : List α) : dedup key seen (item :: rest) =
      (item :: (dedup key (k :: seen) rest).1, (dedup key (k :: seen) rest).2) := by
  simp [dedup, h, hk]

lemma dedup_sublist (seen : List κ) (items : List α) : (dedup key seen items).1 <+ items := by
  induction items generalizing seen with
  | nil => exact Sublist.refl _
  | cons item rest ih =>
    cases hk : key item with
    | none =>
      rw [dedup_none hk]
      exact (ih seen).cons_cons item
    | some k =>
      by_cases hs : k ∈ seen
      · rw [dedup_seen hk hs]
        exact (ih seen).cons item
      · rw [dedup_new hk hs]
        exact (ih (k :: seen)).cons_cons item

/-- Items without a key stay where they are. -/
lemma dedup_unkeyed (seen : List κ) (items : List α) :
    (dedup key seen items).1.filter (fun item => (key item).isNone) =
      items.filter (fun item => (key item).isNone) := by
  induction items generalizing seen with
  | nil => rfl
  | cons item rest ih =>
    cases hk : key item with
    | none =>
      rw [dedup_none hk]
      simp [hk, ih seen]
    | some k =>
      by_cases hs : k ∈ seen
      · rw [dedup_seen hk hs, ih seen]
        simp [hk]
      · rw [dedup_new hk hs]
        simp [hk, ih (k :: seen)]

lemma mem_dedup_seen (seen : List κ) (items : List α) (k : κ) :
    k ∈ (dedup key seen items).2 ↔ k ∈ seen ∨ k ∈ items.filterMap key := by
  induction items generalizing seen with
  | nil => simp [dedup]
  | cons item rest ih =>
    cases hk : key item with
    | none =>
      rw [dedup_none hk, filterMap_cons_none hk]
      exact ih seen
    | some k' =>
      rw [filterMap_cons_some hk]
      by_cases hs : k' ∈ seen
      · rw [dedup_seen hk hs, ih seen, mem_cons]
        constructor
        · rintro (h | h)
          · exact .inl h
          · exact .inr (.inr h)
        · rintro (h | rfl | h)
          · exact .inl h
          · exact .inl hs
          · exact .inr h
      · rw [dedup_new hk hs, ih (k' :: seen), mem_cons, mem_cons]
        tauto

/-- Every key left is one of the items' and was not seen before. -/
lemma mem_dedup_keys (seen : List κ) (items : List α) (k : κ) :
    k ∈ (dedup key seen items).1.filterMap key ↔ k ∈ items.filterMap key ∧ k ∉ seen := by
  induction items generalizing seen with
  | nil => simp [dedup]
  | cons item rest ih =>
    cases hk : key item with
    | none =>
      rw [dedup_none hk, filterMap_cons_none hk, filterMap_cons_none hk]
      exact ih seen
    | some k' =>
      by_cases hs : k' ∈ seen
      · rw [dedup_seen hk hs, filterMap_cons_some hk, ih seen, mem_cons]
        constructor
        · rintro ⟨h, hn⟩
          exact ⟨.inr h, hn⟩
        · rintro ⟨rfl | h, hn⟩
          · exact absurd hs hn
          · exact ⟨h, hn⟩
      · rw [dedup_new hk hs, filterMap_cons_some hk, filterMap_cons_some hk, mem_cons, mem_cons,
          ih (k' :: seen), mem_cons]
        constructor
        · rintro (rfl | ⟨h, hn⟩)
          · exact ⟨.inl rfl, hs⟩
          · exact ⟨.inr h, fun hk => hn (.inr hk)⟩
        · rintro ⟨rfl | h, hn⟩
          · exact .inl rfl
          · by_cases he : k = k'
            · exact .inl he
            · exact .inr ⟨h, by tauto⟩

lemma dedup_nodup (seen : List κ) (items : List α) :
    ((dedup key seen items).1.filterMap key).Nodup := by
  induction items generalizing seen with
  | nil => simp [dedup]
  | cons item rest ih =>
    cases hk : key item with
    | none =>
      rw [dedup_none hk, filterMap_cons_none hk]
      exact ih seen
    | some k =>
      by_cases hs : k ∈ seen
      · rw [dedup_seen hk hs]
        exact ih seen
      · rw [dedup_new hk hs, filterMap_cons_some hk, nodup_cons]
        refine ⟨fun h => ?_, ih (k :: seen)⟩
        exact ((mem_dedup_keys (k :: seen) rest k).mp h).2 mem_cons_self

/-- All items stay exactly when no key is there twice and none was seen before. -/
lemma dedup_eq_self_iff (seen : List κ) (items : List α) :
    (dedup key seen items).1 = items ↔
      (items.filterMap key).Nodup ∧ ∀ k ∈ items.filterMap key, k ∉ seen := by
  constructor
  · intro h
    refine ⟨?_, fun k hk => ?_⟩
    · rw [← h]
      exact dedup_nodup seen items
    · rw [← h] at hk
      exact ((mem_dedup_keys seen items k).mp hk).2
  · induction items generalizing seen with
    | nil => exact fun _ => rfl
    | cons item rest ih =>
      rintro ⟨hnd, hnew⟩
      cases hk : key item with
      | none =>
        rw [filterMap_cons_none hk] at hnd hnew
        rw [dedup_none hk, ih seen ⟨hnd, hnew⟩]
      | some k =>
        rw [filterMap_cons_some hk] at hnd hnew
        have hs : k ∉ seen := hnew k mem_cons_self
        rw [dedup_new hk hs, ih (k :: seen) ⟨hnd.of_cons, fun k' hk' => ?_⟩]
        rw [mem_cons]
        rintro (rfl | h)
        · exact (nodup_cons.mp hnd).1 hk'
        · exact hnew k' (mem_cons_of_mem k hk') h

lemma dedup_append (seen : List κ) (items more : List α) :
    dedup key seen (items ++ more) =
      ((dedup key seen items).1 ++ (dedup key (dedup key seen items).2 more).1,
        (dedup key (dedup key seen items).2 more).2) := by
  induction items generalizing seen with
  | nil => rfl
  | cons item rest ih =>
    rw [cons_append]
    cases hk : key item with
    | none => rw [dedup_none hk, dedup_none hk, ih seen, cons_append]
    | some k =>
      by_cases hs : k ∈ seen
      · rw [dedup_seen hk hs, dedup_seen hk hs, ih seen]
      · rw [dedup_new hk hs, dedup_new hk hs, ih (k :: seen), cons_append]

lemma append_parts {seen : List κ} {items more : List α}
    (h : (dedup key seen items).1 ++ (dedup key (dedup key seen items).2 more).1 = items ++ more) :
    (dedup key seen items).1 = items ∧ (dedup key (dedup key seen items).2 more).1 = more := by
  have hlen := congrArg length h
  rw [length_append, length_append] at hlen
  have h1 : (dedup key seen items).1.length ≤ items.length := (dedup_sublist seen items).length_le
  have h2 : (dedup key (dedup key seen items).2 more).1.length ≤ more.length :=
    (dedup_sublist _ more).length_le
  have hi : (dedup key seen items).1 = items := (dedup_sublist seen items).eq_of_length (by omega)
  refine ⟨hi, ?_⟩
  exact append_cancel_left ((congrArg (· ++ _) hi).symm.trans h)

/-! ### Groups -/

/-- How the items of a group are read and written; some groups have none to read. -/
structure View (γ α : Type) where
  items : γ → Option (List α)
  put : γ → List α → γ
  items_put : ∀ g before after, items g = some before → items (put g after) = some after
  put_items : ∀ g before, items g = some before → put g before = g
  put_put : ∀ g first second, put (put g first) second = put g second

/-- The items of all groups, in order. -/
def View.all (view : View γ α) (groups : List γ) : List α :=
  groups.flatMap (fun g => (view.items g).getD [])

/-- A group with the items that stay, whether it lost its last one, and whether it lost any. -/
structure Deduped (γ : Type) where
  group : γ
  emptied : Bool
  shorter : Bool

def dedupGroups (view : View γ α) (key : α → Option κ) : List κ → List γ → List (Deduped γ)
  | _, [] => []
  | seen, g :: rest =>
    match view.items g with
    | none => ⟨g, false, false⟩ :: dedupGroups view key seen rest
    | some items =>
      let (kept, seen) := dedup key seen items
      ⟨view.put g kept, !items.isEmpty && kept.isEmpty, kept.length != items.length⟩ ::
        dedupGroups view key seen rest

/-- The groups that keep an item, or had none to lose. -/
def dropEmptied (groups : List (Deduped γ)) : List γ :=
  (groups.filter (!·.emptied)).map Deduped.group

variable {view : View γ α}

lemma dedupGroups_none {g : γ} (h : view.items g = none) (seen : List κ) (rest : List γ) :
    dedupGroups view key seen (g :: rest) =
      ⟨g, false, false⟩ :: dedupGroups view key seen rest := by
  simp [dedupGroups, h]

lemma dedupGroups_some {g : γ} {items : List α} (h : view.items g = some items) (seen : List κ)
    (rest : List γ) : dedupGroups view key seen (g :: rest) =
      ⟨view.put g (dedup key seen items).1, !items.isEmpty && (dedup key seen items).1.isEmpty,
          (dedup key seen items).1.length != items.length⟩ ::
        dedupGroups view key (dedup key seen items).2 rest := by
  simp [dedupGroups, h]

lemma dropEmptied_cons (first : Deduped γ) (rest : List (Deduped γ)) :
    dropEmptied (first :: rest) =
      if first.emptied then dropEmptied rest else first.group :: dropEmptied rest := by
  unfold dropEmptied
  rw [filter_cons]
  cases first.emptied <;> simp

lemma all_cons (g : γ) (rest : List γ) :
    view.all (g :: rest) = (view.items g).getD [] ++ view.all rest := by
  unfold View.all
  rw [flatMap_cons]

/-- The group with only its items without a key. -/
def View.unkeyed (view : View γ α) (key : α → Option κ) (g : γ) : γ :=
  match view.items g with
  | none => g
  | some items => view.put g (items.filter (fun item => (key item).isNone))

/-- Every item of the group has a key, and there is one. -/
def View.keyedOnly (view : View γ α) (key : α → Option κ) (g : γ) : Bool :=
  match view.items g with
  | none => false
  | some items => !items.isEmpty && items.all (fun item => (key item).isSome)

omit [DecidableEq κ] in
lemma unkeyed_put {g : γ} {items kept : List α} (h : view.items g = some items)
    (hfree : kept.filter (fun item => (key item).isNone) =
      items.filter (fun item => (key item).isNone)) :
    view.unkeyed key (view.put g kept) = view.unkeyed key g := by
  unfold View.unkeyed
  rw [view.items_put g items _ h, h]
  dsimp only
  rw [view.put_put, hfree]

omit [DecidableEq κ] in
lemma keyedOnly_some {g : γ} {items : List α} (h : view.items g = some items) :
    view.keyedOnly key g = true ↔
      items ≠ [] ∧ items.filter (fun item => (key item).isNone) = [] := by
  unfold View.keyedOnly
  rw [h, filter_eq_nil_iff]
  simp [Option.isSome_iff_ne_none]

/-- Over all groups it is the same as over one list of all their items. -/
lemma all_dropEmptied (seen : List κ) (groups : List γ) :
    view.all (dropEmptied (dedupGroups view key seen groups)) =
      (dedup key seen (view.all groups)).1 := by
  induction groups generalizing seen with
  | nil => rfl
  | cons g rest ih =>
    cases hg : view.items g with
    | none =>
      rw [dedupGroups_none hg, dropEmptied_cons, if_neg (by simp), all_cons, all_cons, ih, hg]
      rfl
    | some items =>
      rw [dedupGroups_some hg, dropEmptied_cons, all_cons g, hg, Option.getD_some, dedup_append]
      dsimp only
      split
      · rename_i he
        rw [Bool.and_eq_true, List.isEmpty_iff] at he
        rw [ih, he.2, nil_append]
      · rw [all_cons, view.items_put g items _ hg, Option.getD_some, ih]

/-- No group loses an item exactly when no key is there twice and none was seen before. -/
lemma not_shorter_iff (seen : List κ) (groups : List γ) :
    (∀ d ∈ dedupGroups view key seen groups, d.shorter = false) ↔
      (((view.all groups).filterMap key).Nodup ∧
        ∀ k ∈ (view.all groups).filterMap key, k ∉ seen) := by
  rw [← dedup_eq_self_iff]
  induction groups generalizing seen with
  | nil => simp [View.all, dedup, dedupGroups]
  | cons g rest ih =>
    rw [all_cons]
    cases hg : view.items g with
    | none =>
      rw [dedupGroups_none hg, forall_mem_cons, ih]
      simp
    | some items =>
      rw [dedupGroups_some hg, forall_mem_cons, ih, Option.getD_some, dedup_append]
      dsimp only
      constructor
      · rintro ⟨hlen, hrest⟩
        rw [(dedup_sublist seen items).eq_of_length (by simpa using hlen), hrest]
      · intro h
        obtain ⟨hi, hr⟩ := append_parts h
        rw [hi] at h ⊢
        exact ⟨by simp, hr⟩

/-- Where no key is there twice every group stays as it is. -/
lemma dedupGroups_eq_self {seen : List κ} {groups : List γ}
    (h : (dedup key seen (view.all groups)).1 = view.all groups) :
    dedupGroups view key seen groups = groups.map (fun g => ⟨g, false, false⟩) := by
  induction groups generalizing seen with
  | nil => rfl
  | cons g rest ih =>
    rw [all_cons] at h
    cases hg : view.items g with
    | none =>
      rw [hg, Option.getD_none, nil_append] at h
      rw [dedupGroups_none hg, ih h, map_cons]
    | some items =>
      rw [hg, Option.getD_some, dedup_append] at h
      obtain ⟨hi, hr⟩ := append_parts h
      rw [dedupGroups_some hg, hi, view.put_items g items hg, ih hr, map_cons]
      simp

/-- What stays of the groups, apart from their keyed items, are the groups in their order. -/
lemma unkeyed_sublist (seen : List κ) (groups : List γ) :
    (dropEmptied (dedupGroups view key seen groups)).map (view.unkeyed key) <+
      groups.map (view.unkeyed key) := by
  induction groups generalizing seen with
  | nil => exact Sublist.refl _
  | cons g rest ih =>
    cases hg : view.items g with
    | none =>
      rw [dedupGroups_none hg, dropEmptied_cons, if_neg (by simp), map_cons, map_cons]
      exact (ih seen).cons_cons _
    | some items =>
      rw [dedupGroups_some hg, dropEmptied_cons]
      dsimp only
      split
      · exact (ih _).cons _
      · rw [map_cons, map_cons, unkeyed_put hg (dedup_unkeyed seen items)]
        exact (ih _).cons_cons _

/-- A group that has an item without a key, or none at all, stays. -/
lemma unkeyed_groups (seen : List κ) (groups : List γ) :
    ((dropEmptied (dedupGroups view key seen groups)).filter (!view.keyedOnly key ·)).map
        (view.unkeyed key) =
      (groups.filter (!view.keyedOnly key ·)).map (view.unkeyed key) := by
  induction groups generalizing seen with
  | nil => rfl
  | cons g rest ih =>
    cases hg : view.items g with
    | none =>
      have hk : view.keyedOnly key g = false := by
        unfold View.keyedOnly
        rw [hg]
      rw [dedupGroups_none hg, dropEmptied_cons, if_neg (by simp), filter_cons, filter_cons]
      simp [hk, ih seen]
    | some items =>
      have hfree : (dedup key seen items).1.filter (fun item => (key item).isNone) =
          items.filter (fun item => (key item).isNone) := dedup_unkeyed seen items
      have hput := view.items_put g items (dedup key seen items).1 hg
      rw [dedupGroups_some hg, dropEmptied_cons]
      dsimp only
      by_cases hk : view.keyedOnly key g = true
      · obtain ⟨hne, hall⟩ := (keyedOnly_some hg).mp hk
        rw [filter_cons_of_neg (a := g) (by simp [hk])]
        split
        · exact ih _
        · rename_i he
          -- The group keeps an item, and every item of it has a key.
          have hkept : (dedup key seen items).1 ≠ [] := by simpa [hne] using he
          have hk' := (keyedOnly_some hput).mpr ⟨hkept, hfree.trans hall⟩
          rw [filter_cons_of_neg (by simp [hk']), ih]
      · have hk' : ¬ view.keyedOnly key (view.put g (dedup key seen items).1) = true := by
          intro hk'
          obtain ⟨hne, hall⟩ := (keyedOnly_some hput).mp hk'
          refine hk ((keyedOnly_some hg).mpr ⟨?_, hfree.symm.trans hall⟩)
          rintro rfl
          exact hne rfl
        have hstays : ¬ (!items.isEmpty && (dedup key seen items).1.isEmpty) = true := by
          intro he
          rw [Bool.and_eq_true, Bool.not_eq_true', List.isEmpty_eq_false_iff,
            List.isEmpty_iff] at he
          refine hk ((keyedOnly_some hg).mpr ⟨he.1, ?_⟩)
          rw [← hfree, he.2]
          rfl
        rw [if_neg hstays, filter_cons_of_pos (by simpa using hk'),
          filter_cons_of_pos (a := g) (by simpa using hk), map_cons, map_cons,
          unkeyed_put hg hfree, ih]

/-- The groups without a keyed item stay as they are, in their order. -/
lemma unkeyed_groups_sublist (seen : List κ) (groups : List γ) :
    groups.filter (fun g => ((view.items g).getD []).all (fun item => (key item).isNone)) <+
      dropEmptied (dedupGroups view key seen groups) := by
  induction groups generalizing seen with
  | nil => exact Sublist.refl _
  | cons g rest ih =>
    cases hg : view.items g with
    | none =>
      rw [dedupGroups_none hg, dropEmptied_cons, if_neg (by simp), filter_cons_of_pos (by simp [hg])]
      exact (ih seen).cons_cons g
    | some items =>
      rw [dedupGroups_some hg, dropEmptied_cons]
      dsimp only
      by_cases hall : items.all (fun item => (key item).isNone) = true
      · have hkeys : items.filterMap key = [] := by
          rw [filterMap_eq_nil_iff]
          intro item hitem
          exact Option.isNone_iff_eq_none.mp (all_eq_true.mp hall item hitem)
        have hself : (dedup key seen items).1 = items := by
          rw [dedup_eq_self_iff, hkeys]
          simp
        rw [filter_cons_of_pos (by simpa [hg] using hall), hself, view.put_items g items hg,
          if_neg (by simp)]
        exact (ih _).cons_cons g
      · rw [filter_cons_of_neg (by simpa [hg] using hall)]
        split
        · exact ih _
        · exact (ih _).cons _

end GroupDedup
