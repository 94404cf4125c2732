import BorgClient.Regen.LeanOrientation

/-!
# What the lean orientation keeps

The shares never exceed the budget, and the fields that fit are never cut. The orientation stays
within its bytes, keeps its fixed text, and ends with the command or the pointer.
-/

namespace BorgClient.Regen
open List Utf16

/-! ### Cut fields -/

/-- A proper prefix of the code points and the marker. -/
def IsCut (value shown : Text) : Prop :=
  ∃ k < (points value).length, shown = unitsOf ((points value).take k) ++ marker

/-- What a field is shown as. -/
def Shown (value shown : Text) : Prop := shown = value ∨ IsCut value shown

lemma marker_plain : Plain marker := by
  intro u hu
  simp only [marker, literal] at hu
  simp at hu
  subst hu
  decide

lemma utf8Bytes_marker : utf8Bytes marker = 3 := by
  simp [marker, literal, utf8Bytes, byteLength, points, Point.byteLength]

lemma keptPoints_initial (room : ℤ) (value : List Point) : keptPoints room value <+: value := by
  induction value generalizing room with
  | nil => exact nil_prefix
  | cons point value ih =>
    unfold keptPoints
    split_ifs with h
    · exact nil_prefix
    · exact cons_prefix_cons.mpr ⟨rfl, ih _⟩

lemma keptPoints_bytes {room : ℤ} (value : List Point) (hroom : 0 ≤ room) :
    pointBytes (keptPoints room value) ≤ room := by
  induction value generalizing room with
  | nil => simpa [keptPoints] using hroom
  | cons point value ih =>
    unfold keptPoints
    split_ifs with h
    · simpa using hroom
    · have hrest := @ih (room - point.byteLength) (by omega)
      rw [pointBytes_cons]
      push_cast
      omega

/-- The marker takes its bytes behind the kept code points. -/
lemma utf8Bytes_kept {value : Text} {kept : List Point} (h : kept <+: points value) :
    utf8Bytes (unitsOf kept ++ marker) = pointBytes kept + 3 := by
  rw [utf8Bytes, byteLength_append (marker_plain.apart_right _), ← utf8Bytes, ← utf8Bytes,
    utf8Bytes_marker, utf8Bytes, byteLength, points_unitsOf h]

lemma truncateUtf8_bytes (value : Text) {maxBytes : ℤ} (h : 0 ≤ maxBytes) :
    utf8Bytes (truncateUtf8 value maxBytes) ≤ maxBytes := by
  unfold truncateUtf8
  dsimp only
  split_ifs with hfits hroom
  · exact hfits
  · simpa [utf8Bytes] using h
  · have hkept := keptPoints_bytes (points value) (not_lt.mp hroom)
    rw [utf8Bytes_kept (keptPoints_initial _ _)]
    rw [utf8Bytes_marker] at hkept ⊢
    push_cast at hkept ⊢
    omega

/-- A field is whole, or nothing is left of it, or it is cut at a code point. -/
lemma truncateUtf8_shown (value : Text) (maxBytes : ℤ) :
    truncateUtf8 value maxBytes = [] ∨ Shown value (truncateUtf8 value maxBytes) := by
  unfold truncateUtf8
  dsimp only
  split_ifs with hfits hroom
  · exact Or.inr (Or.inl rfl)
  · exact Or.inl rfl
  · refine Or.inr (Or.inr ?_)
    have hinitial := keptPoints_initial (maxBytes - utf8Bytes marker) (points value)
    have hbytes := keptPoints_bytes (points value) (not_lt.mp hroom)
    refine ⟨(keptPoints (maxBytes - utf8Bytes marker) (points value)).length, ?_, ?_⟩
    · refine lt_of_le_of_ne hinitial.length_le (fun hlength => hfits ?_)
      -- all the code points together are more than the room
      rw [hinitial.eq_of_length hlength] at hbytes
      rw [utf8Bytes, byteLength]
      omega
    · rw [← prefix_iff_eq_take.mp hinitial]

lemma fitField_bytes {value : Text} {share : ℤ} (h : 0 ≤ share) :
    utf8Bytes (fitField value (utf8Bytes value) share) ≤ share := by
  unfold fitField
  split_ifs with hsize
  · exact hsize
  · exact truncateUtf8_bytes value h

lemma fitField_shown (value : Text) (size : ℕ) (share : ℤ) :
    fitField value size share = [] ∨ Shown value (fitField value size share) := by
  unfold fitField
  split_ifs with hsize
  · exact Or.inr (Or.inl rfl)
  · exact truncateUtf8_shown value share

/-! ### Identity fields on one line -/

lemma oneLine_noBreak (inRun : Bool) (value : Text) :
    ∀ u ∈ oneLine inRun value, isBreak u = false := by
  induction value generalizing inRun with
  | nil => simp [oneLine]
  | cons v value ih =>
    intro u hu
    unfold oneLine at hu
    split_ifs at hu with hbreak hrun
    · exact ih _ u hu
    · obtain rfl | hu := mem_cons.mp hu
      · decide
      · exact ih _ u hu
    · obtain rfl | hu := mem_cons.mp hu
      · simpa using hbreak
      · exact ih _ u hu

/-- An identity field is one line of at most 48 code points, the value on one line or cut from it. -/
theorem boundLeanIdentityField_spec (value : Text) :
    (points (boundLeanIdentityField value)).length ≤ LEAN_IDENTITY_FIELD_MAX ∧
      (∀ u ∈ boundLeanIdentityField value, isBreak u = false) ∧
      Shown (oneLine false value) (boundLeanIdentityField value) := by
  unfold boundLeanIdentityField
  dsimp only
  split_ifs with hlength
  · exact ⟨hlength, oneLine_noBreak false value, Or.inl rfl⟩
  · have hinitial := take_prefix (LEAN_IDENTITY_FIELD_MAX - 1) (points (oneLine false value))
    refine ⟨?_, ?_, Or.inr ⟨_, ?_, rfl⟩⟩
    · rw [points_append (marker_plain.apart_right _), points_unitsOf hinitial, length_append]
      simp [marker, literal, points, LEAN_IDENTITY_FIELD_MAX]
    · intro u hu
      rcases mem_append.mp hu with hu | hu
      · have hunits : unitsOf ((points (oneLine false value)).take
            (LEAN_IDENTITY_FIELD_MAX - 1)) <+: oneLine false value := by
          conv_rhs => rw [← unitsOf_points (oneLine false value),
            ← take_append_drop (LEAN_IDENTITY_FIELD_MAX - 1) (points (oneLine false value))]
          rw [unitsOf, unitsOf, flatMap_append]
          exact prefix_append _ _
        exact oneLine_noBreak false value u (hunits.subset hu)
      · simp [marker, literal] at hu
        subst hu
        decide
    · simp only [LEAN_IDENTITY_FIELD_MAX] at hlength ⊢
      omega

/-! ### Shares -/

section Shares
variable {values : List Text}

lemma order_perm (values : List Text) :
    order values ~ values.zipIdx.map (fun field => (field.2, utf8Bytes field.1)) :=
  perm_insertionSort _ _

lemma order_sorted (values : List Text) : (order values).Pairwise (fun a b => a.2 ≤ b.2) := by
  have htotal : Std.Total (fun a b : ℕ × ℕ => a.2 ≤ b.2) := ⟨fun a b => le_total a.2 b.2⟩
  have htrans : IsTrans (ℕ × ℕ) (fun a b => a.2 ≤ b.2) := ⟨fun _ _ _ => le_trans⟩
  exact pairwise_insertionSort _ _

/-- Every index has one turn. -/
lemma order_indices (values : List Text) : (order values).map Prod.fst ~ range values.length := by
  refine ((order_perm values).map Prod.fst).trans (Perm.of_eq ?_)
  rw [map_map, range_eq_range', ← zipIdx_map_snd]
  rfl

lemma order_nodup (values : List Text) : ((order values).map Prod.fst).Nodup :=
  (order_indices values).nodup_iff.mpr nodup_range

lemma order_size {turn : ℕ × ℕ} (h : turn ∈ order values) :
    turn.2 = utf8Bytes (values.getD turn.1 []) := by
  obtain ⟨⟨value, index⟩, hmem, rfl⟩ := mem_map.mp ((order_perm values).mem_iff.mp h)
  have hget := mem_zipIdx_iff_getElem?.mp hmem
  simp only [getD_eq_getElem?_getD, hget, Option.getD_some]

/-- The turns read their own sizes. -/
def Sized (values : List Text) (order : List (ℕ × ℕ)) : Prop :=
  ∀ turn ∈ order, turn.2 = utf8Bytes (values.getD turn.1 [])

lemma length_shareOut (order : List (ℕ × ℕ)) (result : List Text) (remaining : ℤ) :
    (shareOut values order result remaining).length = result.length := by
  induction order generalizing result remaining with
  | nil => rfl
  | cons turn order ih =>
    rw [shareOut]
    exact (ih _ _).trans length_set

/-- A turn writes no other field. -/
lemma shareOut_other {order : List (ℕ × ℕ)} {index : ℕ} (h : index ∉ order.map Prod.fst)
    (result : List Text) (remaining : ℤ) :
    (shareOut values order result remaining)[index]? = result[index]? := by
  induction order generalizing result remaining with
  | nil => rfl
  | cons turn order ih =>
    rw [map_cons, mem_cons, not_or] at h
    rw [shareOut]
    exact (ih h.2 _ _).trans (getElem?_set_ne (Ne.symm h.1))

/-- The field whose turn it is. -/
lemma shareOut_first {index size : ℕ} {order : List (ℕ × ℕ)} {result : List Text} {remaining : ℤ}
    (hnodup : (((index, size) :: order).map Prod.fst).Nodup) (hindex : index < result.length) :
    (shareOut values ((index, size) :: order) result remaining)[index]? =
      some (fitField (values.getD index []) size (remaining / (order.length + 1 : ℕ))) := by
  rw [shareOut]
  rw [shareOut_other (nodup_cons.mp hnodup).1, getElem?_set_self hindex]

/-- The bytes the result has for the turns. -/
def turnBytes (result : List Text) (turns : List (ℕ × ℕ)) : ℕ :=
  (turns.map (fun turn => utf8Bytes (result.getD turn.1 []))).sum

@[simp] lemma turnBytes_nil (result : List Text) : turnBytes result [] = 0 := rfl

@[simp] lemma turnBytes_cons (result : List Text) (turn : ℕ × ℕ) (turns : List (ℕ × ℕ)) :
    turnBytes result (turn :: turns) =
      utf8Bytes (result.getD turn.1 []) + turnBytes result turns := by
  simp [turnBytes]

lemma getD_shareOut_first {index size : ℕ} {order : List (ℕ × ℕ)} {result : List Text}
    {remaining : ℤ} (hnodup : (((index, size) :: order).map Prod.fst).Nodup)
    (hindex : index < result.length) :
    (shareOut values ((index, size) :: order) result remaining).getD index [] =
      fitField (values.getD index []) size (remaining / (order.length + 1 : ℕ)) := by
  rw [getD_eq_getElem?_getD, shareOut_first hnodup hindex, Option.getD_some]

/-- The turns take no more than there was. -/
lemma shareOut_bytes {order : List (ℕ × ℕ)} {result : List Text} {remaining : ℤ}
    (hsized : Sized values order) (hnodup : (order.map Prod.fst).Nodup)
    (hindex : ∀ turn ∈ order, turn.1 < result.length) (hremaining : 0 ≤ remaining) :
    turnBytes (shareOut values order result remaining) order ≤ remaining := by
  induction order generalizing result remaining with
  | nil => simpa using hremaining
  | cons turn order ih =>
    obtain ⟨index, size⟩ := turn
    have hfirst := @getD_shareOut_first values index size order result remaining hnodup
      (hindex _ mem_cons_self)
    have hvalue : utf8Bytes (fitField (values.getD index []) size
        (remaining / (order.length + 1 : ℕ))) ≤ remaining := by
      have hsize : size = utf8Bytes (values.getD index []) := hsized _ mem_cons_self
      rw [hsize]
      exact (fitField_bytes (Int.ediv_nonneg hremaining (by omega))).trans
        (Int.ediv_le_self _ hremaining)
    rw [turnBytes_cons, hfirst, shareOut]
    generalize fitField (values.getD index []) size (remaining / (order.length + 1 : ℕ)) = value
      at hvalue ⊢
    have hrest := @ih (result.set index value) (remaining - utf8Bytes value)
      (fun turn hturn => hsized turn (mem_cons_of_mem _ hturn)) (nodup_cons.mp hnodup).2
      (fun turn hturn => by rw [length_set]; exact hindex turn (mem_cons_of_mem _ hturn))
      (by omega)
    push_cast
    omega

/-- Each turn shares evenly what the turns before it left. -/
lemma shareOut_turn {before after : List (ℕ × ℕ)} {index size : ℕ} {result : List Text}
    {remaining : ℤ} (hnodup : ((before ++ (index, size) :: after).map Prod.fst).Nodup)
    (hindex : ∀ turn ∈ before ++ (index, size) :: after, turn.1 < result.length) :
    (shareOut values (before ++ (index, size) :: after) result remaining)[index]? =
      some (fitField (values.getD index []) size
        ((remaining - turnBytes
          (shareOut values (before ++ (index, size) :: after) result remaining) before) /
            (after.length + 1 : ℕ))) := by
  induction before generalizing result remaining with
  | nil => simpa using shareOut_first hnodup (hindex _ mem_cons_self)
  | cons turn before ih =>
    obtain ⟨other, otherSize⟩ := turn
    rw [cons_append] at hnodup hindex ⊢
    have hfirst := @getD_shareOut_first values other otherSize _ result remaining hnodup
      (hindex _ mem_cons_self)
    rw [turnBytes_cons, hfirst, shareOut]
    generalize fitField (values.getD other []) otherSize
      (remaining / ((before ++ (index, size) :: after).length + 1 : ℕ)) = value
    have hturn := @ih (result.set other value) (remaining - utf8Bytes value)
      (nodup_cons.mp hnodup).2
      (fun turn hturn => by rw [length_set]; exact hindex turn (mem_cons_of_mem _ hturn))
    rw [hturn, Nat.cast_add (utf8Bytes value), sub_sub]

/-- Where the sizes fit together every field is whole. -/
lemma shareOut_whole {order : List (ℕ × ℕ)} {result : List Text} {remaining : ℤ}
    (hsized : Sized values order) (hnodup : (order.map Prod.fst).Nodup)
    (hsorted : order.Pairwise (fun a b => a.2 ≤ b.2))
    (hindex : ∀ turn ∈ order, turn.1 < result.length)
    (htotal : ((order.map Prod.snd).sum : ℕ) ≤ remaining) :
    ∀ turn ∈ order, (shareOut values order result remaining)[turn.1]? =
      some (values.getD turn.1 []) := by
  induction order generalizing result remaining with
  | nil => simp
  | cons turn order ih =>
    obtain ⟨index, size⟩ := turn
    obtain ⟨hleast, hsorted⟩ := pairwise_cons.mp hsorted
    -- the smallest size is at most the even share
    have hshare : (size : ℤ) ≤ remaining / (order.length + 1 : ℕ) := by
      have hall : order.length • size ≤ (order.map Prod.snd).sum := by
        rw [← length_map (f := Prod.snd)]
        refine card_nsmul_le_sum _ _ (fun m hm => ?_)
        obtain ⟨turn, hturn, rfl⟩ := mem_map.mp hm
        exact hleast turn hturn
      rw [Int.le_ediv_iff_mul_le (by omega)]
      rw [map_cons, sum_cons] at htotal
      push_cast at htotal ⊢
      rw [smul_eq_mul] at hall
      have hall' : (order.length : ℤ) * size ≤ ((order.map Prod.snd).sum : ℕ) := by
        exact_mod_cast hall
      push_cast at hall'
      linarith
    have hvalue : fitField (values.getD index []) size (remaining / (order.length + 1 : ℕ)) =
        values.getD index [] := if_pos hshare
    intro turn hturn
    obtain rfl | hturn := mem_cons.mp hturn
    · rw [shareOut_first hnodup (hindex _ mem_cons_self), hvalue]
    · rw [shareOut]
      refine ih (fun turn hturn => hsized turn (mem_cons_of_mem _ hturn)) (nodup_cons.mp hnodup).2
        hsorted ?_ ?_ turn hturn
      · intro turn hturn
        rw [length_set]
        exact hindex turn (mem_cons_of_mem _ hturn)
      · have hsize := hsized _ mem_cons_self
        rw [map_cons, sum_cons] at htotal
        rw [hvalue, ← hsize]
        push_cast at htotal ⊢
        linarith

lemma turnBytes_order {result : List Text} (h : result.length = values.length) :
    turnBytes result (order values) = (result.map utf8Bytes).sum := by
  have hturns : turnBytes result (order values) =
      (((order values).map Prod.fst).map (fun index => utf8Bytes (result.getD index []))).sum := by
    rw [map_map]
    rfl
  rw [hturns, ((order_indices values).map _).sum_eq, ← h]
  congr 1
  refine List.ext_getElem (by simp) (fun index hleft hright => ?_)
  rw [length_map] at hright
  simp [hright]

lemma index_lt {turn : ℕ × ℕ} (h : turn ∈ order values) : turn.1 < values.length :=
  mem_range.mp ((order_indices values).mem_iff.mp (mem_map_of_mem h))

lemma index_lt_new {turn : ℕ × ℕ} (h : turn ∈ order values) :
    turn.1 < (replicate values.length ([] : Text)).length := by
  rw [length_replicate]
  exact index_lt h

lemma exists_turn {index : ℕ} (h : index < values.length) :
    ∃ size, (index, size) ∈ order values := by
  have hmem := (order_indices values).mem_iff.mpr (mem_range.mpr h)
  obtain ⟨⟨index', size⟩, hturn, rfl⟩ := mem_map.mp hmem
  exact ⟨size, hturn⟩

/-- The even share at a turn, of what the turns before it left. -/
def evenShare (budget : ℤ) (result : List Text) (before : List (ℕ × ℕ)) (left : ℕ) : ℤ :=
  (max 0 budget - turnBytes result before) / left

/-- The shares stay within the budget, and a field no longer than its even share is whole. -/
structure FairShares (values : List Text) (budget : ℤ) (result : List Text) : Prop where
  length_eq : result.length = values.length
  within : ((result.map utf8Bytes).sum : ℕ) ≤ max 0 budget
  whole : ∀ (before : List (ℕ × ℕ)) (index size : ℕ) (after : List (ℕ × ℕ)),
    order values = before ++ (index, size) :: after →
    size ≤ evenShare budget result before (after.length + 1) → result[index]? = values[index]?

lemma length_fitFieldsToBytes (values : List Text) (budget : ℤ) :
    (fitFieldsToBytes values budget).length = values.length :=
  (length_shareOut _ _ _).trans length_replicate

/-- What a field gets at its turn. -/
lemma fitFieldsToBytes_turn {before after : List (ℕ × ℕ)} {index size : ℕ} (budget : ℤ)
    (h : order values = before ++ (index, size) :: after) :
    (fitFieldsToBytes values budget)[index]? = some (fitField (values.getD index []) size
      (evenShare budget (fitFieldsToBytes values budget) before (after.length + 1))) := by
  unfold evenShare fitFieldsToBytes
  rw [h]
  exact shareOut_turn (h ▸ order_nodup values) (fun turn hturn => index_lt_new (h ▸ hturn))

theorem fitFieldsToBytes_fair (values : List Text) (budget : ℤ) :
    FairShares values budget (fitFieldsToBytes values budget) where
  length_eq := length_fitFieldsToBytes values budget
  within := by
    rw [← turnBytes_order (length_fitFieldsToBytes values budget)]
    exact shareOut_bytes (fun _ => order_size) (order_nodup values) (fun _ => index_lt_new)
      (le_max_left 0 budget)
  whole := by
    intro before index size after horder hshare
    have hturn : (index, size) ∈ order values := horder ▸ mem_append_right _ mem_cons_self
    have hindex : index < values.length := index_lt hturn
    rw [fitFieldsToBytes_turn budget horder, fitField, if_pos hshare, getElem?_eq_getElem hindex,
      getD_eq_getElem _ _ hindex]

lemma fitFieldsToBytes_shown (budget : ℤ) {index : ℕ} (h : index < values.length) :
    (fitFieldsToBytes values budget).getD index [] = [] ∨
      Shown (values.getD index []) ((fitFieldsToBytes values budget).getD index []) := by
  obtain ⟨size, hturn⟩ := exists_turn h
  obtain ⟨before, after, horder⟩ := append_of_mem hturn
  have hget : (fitFieldsToBytes values budget).getD index [] = fitField (values.getD index []) size
      (evenShare budget (fitFieldsToBytes values budget) before (after.length + 1)) := by
    rw [getD_eq_getElem?_getD, fitFieldsToBytes_turn budget horder, Option.getD_some]
  rw [hget]
  exact fitField_shown _ _ _

/-- Fields that fit together are all whole. -/
theorem fitFieldsToBytes_whole {budget : ℤ} (h : ((values.map utf8Bytes).sum : ℕ) ≤ max 0 budget) :
    fitFieldsToBytes values budget = values := by
  have hsizes : ((order values).map Prod.snd).sum = (values.map utf8Bytes).sum := by
    rw [((order_perm values).map Prod.snd).sum_eq, map_map]
    have hfst : values.zipIdx.map (utf8Bytes ∘ Prod.fst) = values.map utf8Bytes := by
      rw [← map_map, zipIdx_map_fst]
    exact congrArg List.sum hfst
  refine List.ext_getElem? (fun index => ?_)
  obtain hindex | hindex := lt_or_ge index values.length
  · obtain ⟨size, hturn⟩ := exists_turn hindex
    have hwhole := @shareOut_whole values (order values) (replicate values.length [])
      (max 0 budget) (fun _ => order_size) (order_nodup values) (order_sorted values)
      (fun _ => index_lt_new) (by rw [hsizes]; exact h) _ hturn
    rw [getD_eq_getElem _ _ hindex] at hwhole
    rw [getElem?_eq_getElem hindex]
    exact hwhole
  · rw [getElem?_eq_none hindex, getElem?_eq_none]
    rw [length_fitFieldsToBytes]
    exact hindex

end Shares

/-! ### Bytes of the assembled text -/

lemma plain_newline : Plain [newline] := by
  simp [Plain, newline, isHigh, isLow]

lemma utf8Bytes_newline : utf8Bytes [newline] = 1 := by
  simp [utf8Bytes, byteLength, points, newline, Point.byteLength]

lemma utf8Bytes_line (line rest : Text) :
    utf8Bytes (line ++ [newline] ++ rest) = utf8Bytes line + 1 + utf8Bytes rest := by
  rw [utf8Bytes, byteLength_between plain_newline (by simp), ← utf8Bytes, ← utf8Bytes,
    utf8Bytes_newline]
  rfl

/-- The line of a part that is there. -/
def lineOf (part : Option Text) : Text := part.elim [] (· ++ [newline])

def lineBytes (part : Option Text) : ℕ := part.elim 0 (utf8Bytes · + 1)

lemma assemble_eq (fixed : Text) (identity tail : Option Text) :
    assemble fixed identity tail = fixed ++ [newline] ++ (lineOf identity ++ lineOf tail) := by
  cases identity <;> cases tail <;> simp [assemble, lineOf, intercalate]

lemma utf8Bytes_lineOf (part : Option Text) (rest : Text) :
    utf8Bytes (lineOf part ++ rest) = lineBytes part + utf8Bytes rest := by
  cases part with
  | none => simp [lineOf, lineBytes]
  | some line => exact utf8Bytes_line line rest

lemma utf8Bytes_assemble (fixed : Text) (identity tail : Option Text) :
    utf8Bytes (assemble fixed identity tail) =
      utf8Bytes fixed + 1 + (lineBytes identity + lineBytes tail) := by
  have htail := utf8Bytes_lineOf tail []
  rw [append_nil] at htail
  rw [assemble_eq, utf8Bytes_line, utf8Bytes_lineOf, htail]
  rfl

/-- The bytes of an identity line without its fields. -/
def frameBytes : ℕ :=
  utf8Bytes (literal "**Cube:** ") + utf8Bytes (literal " — **Drone:** ") +
    utf8Bytes (literal "\n**Your role:** ")

lemma utf8Bytes_renderLeanIdentity (fields : List Text) :
    utf8Bytes (renderLeanIdentity fields) = frameBytes + (utf8Bytes (rendered fields 0) +
      utf8Bytes (rendered fields 1) + utf8Bytes (rendered fields 2)) := by
  have hcube : Plain (literal "**Cube:** ") := by simp [Plain, literal, isHigh, isLow]
  have hdrone : Plain (literal " — **Drone:** ") := by simp [Plain, literal, isHigh, isLow]
  have hrole : Plain (literal "\n**Your role:** ") := by simp [Plain, literal, isHigh, isLow]
  unfold renderLeanIdentity frameBytes utf8Bytes
  rw [byteLength_between hrole (by simp [literal]), byteLength_between hdrone (by simp [literal]),
    byteLength_append (hcube.apart_left _)]
  omega

/-- The fields that are not rendered take their bytes from the budget all the same. -/
lemma render_bytes (shown : List Text) :
    utf8Bytes (renderLeanIdentity shown) + ((shown.drop 3).map utf8Bytes).sum =
      utf8Bytes (renderLeanIdentity (shown.map (fun _ => []))) + (shown.map utf8Bytes).sum := by
  have hempty : utf8Bytes ([] : Text) = 0 := rfl
  rw [utf8Bytes_renderLeanIdentity, utf8Bytes_renderLeanIdentity]
  match shown with
  | [] => simp [rendered]
  | [cube] => simp [rendered, hempty]; omega
  | [cube, drone] => simp [rendered, hempty]; omega
  | cube :: drone :: role :: rest => simp [rendered, hempty]; omega

/-! ### Orientations -/

/-- The fixed text, all whole fields and the pointer fit together, the fields beyond the rendered
three as well. -/
def FitsTogether (fixed : Text) (fields : List Text) (command : Option Text) : Prop :=
  utf8Bytes (assemble fixed (some (renderLeanIdentity fields)) (pointerFor command)) +
    ((fields.drop 3).map utf8Bytes).sum ≤ LEAN_ORIENTATION_BUDGET_BYTES - 1

/-- A lean orientation within its bytes. -/
structure LeanOrientation (fixed : Text) (fields : List Text) (command : Option Text) (out : Text) :
    Prop where
  within : utf8Bytes out ≤ LEAN_ORIENTATION_BUDGET_BYTES - 1
  starts : fixed <+: out
  ends : ∀ inline ∈ command, (inline ++ [newline]) <:+ out ∨
    (CLAUDE_MONITOR_COMMAND_POINTER ++ [newline]) <:+ out
  shows : ∃ identity tail, out = assemble fixed identity tail ∧
    (tail = command ∨ tail = pointerFor command) ∧
      (identity = none ∨ ∃ shown, Forall₂ Shown fields shown ∧
        identity = some (renderLeanIdentity shown))
  uncut : FitsTogether fixed fields command → ∃ tail, (tail = command ∨ tail = pointerFor command) ∧
    out = assemble fixed (identityOf fields) tail

variable {fixed : Text} {fields : List Text} {command : Option Text}

lemma fitsTogether_iff : FitsTogether fixed fields command ↔
    skeleton fixed fields command + (fields.map utf8Bytes).sum ≤
      LEAN_ORIENTATION_BUDGET_BYTES - 1 := by
  have hrender := render_bytes fields
  unfold FitsTogether skeleton
  rw [utf8Bytes_assemble, utf8Bytes_assemble]
  simp only [lineBytes, Option.elim_some]
  omega

/-- The identity the budget leaves. -/
def fittedIdentity (fixed : Text) (fields : List Text) (command : Option Text) : Option Text :=
  identityOf (fitFieldsToBytes fields
    ((LEAN_ORIENTATION_BUDGET_BYTES - 1 : ℕ) - skeleton fixed fields command))

/-- The identity goes only where the fitted one is too long with the pointer. -/
lemma fitLeanOrientation_ok (hfixed : utf8Bytes (assemble fixed none (pointerFor command)) ≤
    LEAN_ORIENTATION_BUDGET_BYTES - 1) :
    ∃ identity tail, fitLeanOrientation fixed fields command = .ok (assemble fixed identity tail) ∧
      utf8Bytes (assemble fixed identity tail) ≤ LEAN_ORIENTATION_BUDGET_BYTES - 1 ∧
      (tail = command ∨ tail = pointerFor command) ∧
      (identity = fittedIdentity fixed fields command ∨ identity = none ∧
        LEAN_ORIENTATION_BUDGET_BYTES - 1 < utf8Bytes (assemble fixed
          (fittedIdentity fixed fields command) (pointerFor command))) := by
  unfold fitLeanOrientation
  dsimp only
  rw [← fittedIdentity]
  by_cases hinline : command.isSome && decide (utf8Bytes (assemble fixed
      (fittedIdentity fixed fields command) command) ≤ LEAN_ORIENTATION_BUDGET_BYTES - 1)
  · have hbytes := of_decide_eq_true (Bool.and_eq_true_iff.mp hinline).2
    rw [if_pos hinline, if_neg (not_lt.mpr hbytes), if_neg (not_lt.mpr hbytes)]
    exact ⟨_, _, rfl, hbytes, Or.inl rfl, Or.inl rfl⟩
  · rw [if_neg hinline]
    by_cases hbytes : utf8Bytes (assemble fixed (fittedIdentity fixed fields command)
        (pointerFor command)) ≤ LEAN_ORIENTATION_BUDGET_BYTES - 1
    · rw [if_neg (not_lt.mpr hbytes), if_neg (not_lt.mpr hbytes)]
      exact ⟨_, _, rfl, hbytes, Or.inr rfl, Or.inl rfl⟩
    · rw [if_pos (not_le.mp hbytes), if_neg (not_lt.mpr hfixed)]
      exact ⟨_, _, rfl, hfixed, Or.inr rfl, Or.inr ⟨rfl, not_le.mp hbytes⟩⟩

/-- An identity line shows each field whole or cut. -/
lemma identityOf_fitted (budget : ℤ) : identityOf (fitFieldsToBytes fields budget) = none ∨
    ∃ shown, Forall₂ Shown fields shown ∧
      identityOf (fitFieldsToBytes fields budget) = some (renderLeanIdentity shown) := by
  unfold identityOf
  split_ifs with hempty
  · exact Or.inl rfl
  · refine Or.inr ⟨_, forall₂_iff_get.mpr ⟨(length_fitFieldsToBytes fields budget).symm, ?_⟩, rfl⟩
    intro index hfield hfitted
    have hshown := fitFieldsToBytes_shown budget hfield
    rw [getD_eq_getElem _ _ hfield, getD_eq_getElem _ _ hfitted] at hshown
    refine hshown.resolve_left (fun hnil => hempty ?_)
    exact any_eq_true.mpr ⟨_, getElem_mem hfitted, by simp [hnil]⟩

/-- A whole identity fits where the whole fields do. -/
lemma whole_of_fitsTogether (h : FitsTogether fixed fields command) :
    fittedIdentity fixed fields command = identityOf fields ∧
      utf8Bytes (assemble fixed (identityOf fields) (pointerFor command)) ≤
        LEAN_ORIENTATION_BUDGET_BYTES - 1 := by
  have htotal := fitsTogether_iff.mp h
  constructor
  · unfold fittedIdentity
    rw [fitFieldsToBytes_whole (by omega)]
  · unfold FitsTogether at h
    rw [utf8Bytes_assemble] at h ⊢
    unfold identityOf
    split_ifs
    · simp only [lineBytes, Option.elim_some, Option.elim_none] at h ⊢
      omega
    · omega

lemma fixed_initial (identity tail : Option Text) : fixed <+: assemble fixed identity tail := by
  rw [assemble_eq, append_assoc]
  exact prefix_append _ _

lemma tail_suffix (identity : Option Text) (tail : Text) :
    (tail ++ [newline]) <:+ assemble fixed identity (some tail) := by
  rw [assemble_eq, ← append_assoc]
  exact suffix_append _ _

/-- The lean orientation fits and keeps its instructions, and the shares of its fields are fair. -/
theorem leanOrientation_fits (fixed : Text) (fields : List Text) (command : Option Text)
    (hfixed : utf8Bytes (assemble fixed none (pointerFor command)) ≤
      LEAN_ORIENTATION_BUDGET_BYTES - 1) :
    (∃ out, fitLeanOrientation fixed fields command = .ok out ∧
      LeanOrientation fixed fields command out) ∧
    ∀ (values : List Text) (budget : ℤ),
      FairShares values budget (fitFieldsToBytes values budget) := by
  refine ⟨?_, fitFieldsToBytes_fair⟩
  obtain ⟨identity, tail, hok, hbytes, htail, hidentity⟩ := @fitLeanOrientation_ok fixed fields
    command hfixed
  refine ⟨_, hok, hbytes, fixed_initial identity tail, ?_, ⟨identity, tail, rfl, htail, ?_⟩, ?_⟩
  · intro inline hinline
    obtain rfl := Option.mem_def.mp hinline
    obtain rfl | rfl := htail
    · exact Or.inl (tail_suffix identity inline)
    · exact Or.inr (tail_suffix identity _)
  · obtain rfl | ⟨rfl, -⟩ := hidentity
    · exact identityOf_fitted _
    · exact Or.inl rfl
  · intro htogether
    obtain ⟨hwhole, hfits⟩ := whole_of_fitsTogether htogether
    obtain rfl | ⟨-, hlong⟩ := hidentity
    · exact ⟨tail, htail, by rw [hwhole]⟩
    · rw [hwhole] at hlong
      omega

/-- A Claude drone's orientation. -/
theorem leanOrientation_fits_claude :
    utf8Bytes (assemble (literal "# Borg drone orientation") none
      (pointerFor (some (literal "**Monitor command:** tail")))) ≤
        LEAN_ORIENTATION_BUDGET_BYTES - 1 ∧
    (∃ out, fitLeanOrientation (literal "# Borg drone orientation")
        [literal "cube", literal "worker-1", literal "worker"]
        (some (literal "**Monitor command:** tail")) = .ok out ∧
      LeanOrientation (literal "# Borg drone orientation")
        [literal "cube", literal "worker-1", literal "worker"]
        (some (literal "**Monitor command:** tail")) out) ∧
    ∀ (values : List Text) (budget : ℤ),
      FairShares values budget (fitFieldsToBytes values budget) :=
  ⟨by decide +kernel, leanOrientation_fits _ _ _ (by decide +kernel)⟩

end BorgClient.Regen
