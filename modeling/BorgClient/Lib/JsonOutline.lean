import BorgClient.Lib.JsonText
import BorgClient.Lib.Utf8Cuts

/-!
# JSON texts of one outline

Where two texts differ only in how long their runs of characters beyond ASCII are, so do their
tokens, and their values have the same shape: such runs stand in strings only.
-/

namespace JsonText
open List Utf8

/-! ### Tokens -/

def Token.outline : Token → Token
  | .punct c => .punct c
  | .str body => .str (Utf8.outline false body)
  | .word text => .word (Utf8.outline false text)

/-- Whether what is read last is beyond ASCII. -/
def runAfter (inRun : Bool) (text : List Char) : Bool := text.foldl (fun _ c => !isAscii c) inRun

lemma outline_append (inRun : Bool) (text more : List Char) : Utf8.outline inRun (text ++ more) =
    Utf8.outline inRun text ++ Utf8.outline (runAfter inRun text) more := by
  induction text generalizing inRun with
  | nil => rfl
  | cons c rest ih =>
    by_cases hc : isAscii c = true
    · have hrun : runAfter inRun (c :: rest) = runAfter false rest := by
        rw [runAfter, foldl_cons, hc]
        rfl
      rw [cons_append, outline_ascii hc, outline_ascii hc, ih, hrun, cons_append]
    · rw [Bool.not_eq_true] at hc
      have hrun : runAfter inRun (c :: rest) = runAfter true rest := by
        rw [runAfter, foldl_cons, hc]
        rfl
      rw [cons_append, outline_beyond hc, outline_beyond hc, ih, hrun, append_assoc]

lemma runAfter_snoc (inRun : Bool) (text : List Char) (c : Char) :
    runAfter inRun (text ++ [c]) = !isAscii c := by
  rw [runAfter, foldl_append]
  rfl

def LexState.outline : LexState → LexState
  | .idle => .idle
  | .word text => .word (Utf8.outline false text)
  | .str body escaped => .str (Utf8.outline false body) escaped

/-- Whether the state is in a run of characters beyond ASCII. -/
def LexState.inRun : LexState → Bool
  | .idle => false
  | .word text => runAfter false text
  | .str body _ => runAfter false body

/-- Nothing beyond ASCII opens an escape. -/
def LexState.Plain : LexState → Prop
  | .str body escaped => runAfter false body = true → escaped = false
  | _ => True

lemma beyond_ne {c d : Char} (hc : isAscii c = false) (hd : isAscii d = true) : c ≠ d := by
  rintro rfl
  rw [hc] at hd
  cases hd

lemma beyond_isWs {c : Char} (hc : isAscii c = false) : isWs c = false := by
  rw [← Bool.not_eq_true]
  intro h
  simp only [isWs, contains_eq_mem, decide_eq_true_eq, mem_cons, not_mem_nil, or_false] at h
  rcases h with rfl | rfl | rfl | rfl <;> exact absurd hc (by decide)

lemma beyond_isPunct {c : Char} (hc : isAscii c = false) : isPunct c = false := by
  rw [← Bool.not_eq_true]
  intro h
  rcases isPunct_cases h with rfl | rfl | rfl | rfl | rfl | rfl <;> exact absurd hc (by decide)

lemma beyond_nextEscaped {c : Char} (hc : isAscii c = false) (escaped : Bool) :
    nextEscaped escaped c = false := by
  have hne := beyond_ne hc (d := '\\') (by decide)
  rw [nextEscaped, beq_false_of_ne hne, Bool.and_false]

lemma outline_snoc_ascii {c : Char} (hc : isAscii c = true) (text : List Char) :
    Utf8.outline false (text ++ [c]) = Utf8.outline false text ++ [c] := by
  rw [outline_append, outline_ascii hc]
  rfl

lemma outline_snoc_beyond {c : Char} (hc : isAscii c = false) (text : List Char) :
    Utf8.outline false (text ++ [c]) = Utf8.outline false text ++ mark (runAfter false text) := by
  rw [outline_append, outline_beyond hc]
  rw [Utf8.outline, append_nil]

lemma map_outline (token : Token) (tokens : Option (List Token)) :
    (tokens.map (map Token.outline)).map (token.outline :: ·) =
      (tokens.map (token :: ·)).map (map Token.outline) := by
  rw [Option.map_map, Option.map_map]
  rfl

lemma replacement_isWs : isWs replacement = false := by
  decide

/-- A mark where nothing beyond ASCII came before starts or goes on with a word. -/
lemma lex_mark (word rest : List Char) :
    lex .idle (replacement :: rest) = lex (.word [replacement]) rest ∧
      lex (.word word) (replacement :: rest) = lex (.word (word ++ [replacement])) rest := by
  constructor
  · rw [lex_idle_cons, if_neg (by decide), if_neg (by decide), if_neg (by decide)]
  · rw [lex_word_cons, if_neg (by decide), if_neg (by decide), if_neg (by decide)]

lemma lex_beyond {c : Char} (hc : isAscii c = false) (word rest : List Char) :
    lex .idle (c :: rest) = lex (.word [c]) rest ∧
      lex (.word word) (c :: rest) = lex (.word (word ++ [c])) rest := by
  have hws : ¬ isWs c = true := by simp [beyond_isWs hc]
  have hq : c ≠ '"' := beyond_ne hc (by decide)
  have hp : ¬ isPunct c = true := by simp [beyond_isPunct hc]
  constructor
  · rw [lex_idle_cons, if_neg hws, if_neg hq, if_neg hp]
  · rw [lex_word_cons, if_neg hws, if_neg hq, if_neg hp]

lemma lex_str_beyond {c : Char} (hc : isAscii c = false) (body : List Char) (escaped : Bool)
    (rest : List Char) :
    lex (.str body escaped) (c :: rest) = lex (.str (body ++ [c]) false) rest := by
  have hq : (c == '"') = false := beq_false_of_ne (beyond_ne hc (by decide))
  rw [lex_str_cons, hq, Bool.and_false, if_neg (by decide), beyond_nextEscaped hc]

/-- The tokens of an outline are the outlines of the tokens. -/
theorem lex_outline (state : LexState) (hstate : state.Plain) (text : List Char) :
    lex state.outline (Utf8.outline state.inRun text) =
      (lex state text).map (map Token.outline) := by
  induction text generalizing state with
  | nil => cases state <;> rfl
  | cons c rest ih =>
    have hidle := ih .idle trivial
    have hquote := ih (.str [] false) (fun h => by cases h)
    by_cases hc : isAscii c = true
    · rw [outline_ascii hc]
      have hword : ∀ word, lex (.word (Utf8.outline false word ++ [c])) (Utf8.outline false rest) =
          (lex (.word (word ++ [c])) rest).map (map Token.outline) := by
        intro word
        have hnext := ih (.word (word ++ [c])) trivial
        rwa [LexState.outline, LexState.inRun, outline_snoc_ascii hc, runAfter_snoc, hc] at hnext
      cases state with
      | idle =>
        change lex .idle (c :: Utf8.outline false rest) = _
        rw [lex_idle_cons, lex_idle_cons]
        split_ifs with hws hq hp
        · exact hidle
        · exact hquote
        · exact (congrArg (Option.map (.punct c :: ·)) hidle).trans (map_outline (.punct c) _)
        · exact hword []
      | word word =>
        change lex (.word (Utf8.outline false word)) (c :: Utf8.outline false rest) = _
        rw [lex_word_cons, lex_word_cons]
        split_ifs with hws hq hp
        · exact (congrArg _ hidle).trans (map_outline (.word word) _)
        · exact (congrArg _ hquote).trans (map_outline (.word word) _)
        · refine (congrArg _ hidle).trans ?_
          rw [Option.map_map, Option.map_map]
          rfl
        · exact hword word
      | str body escaped =>
        change lex (.str (Utf8.outline false body) escaped) (c :: Utf8.outline false rest) = _
        rw [lex_str_cons, lex_str_cons]
        split_ifs with hend
        · exact (congrArg _ hidle).trans (map_outline (.str body) _)
        · have hplain : (LexState.str (body ++ [c]) (nextEscaped escaped c)).Plain := by
            intro h
            rw [runAfter_snoc, hc] at h
            cases h
          have hnext := ih _ hplain
          rwa [LexState.outline, LexState.inRun, outline_snoc_ascii hc, runAfter_snoc, hc] at hnext
    · rw [Bool.not_eq_true] at hc
      have hword : ∀ word, lex (.word (Utf8.outline false word ++ mark (runAfter false word)))
          (Utf8.outline true rest) = (lex (.word (word ++ [c])) rest).map (map Token.outline) := by
        intro word
        have hnext := ih (.word (word ++ [c])) trivial
        rwa [LexState.outline, LexState.inRun, outline_snoc_beyond hc, runAfter_snoc, hc] at hnext
      rw [outline_beyond hc]
      cases state with
      | idle =>
        change lex .idle (replacement :: Utf8.outline true rest) = _
        rw [(lex_mark [] _).1, (lex_beyond hc [] rest).1]
        exact hword []
      | word word =>
        rw [(lex_beyond hc word rest).2, ← hword word]
        change lex (.word (Utf8.outline false word))
          (mark (runAfter false word) ++ Utf8.outline true rest) = _
        cases runAfter false word with
        | true => rw [mark, if_pos rfl, append_nil, nil_append]
        | false => rw [mark, if_neg (by decide), singleton_append, (lex_mark _ _).2]
      | str body escaped =>
        have hplain : (LexState.str (body ++ [c]) false).Plain := fun _ => rfl
        have hnext := ih _ hplain
        rw [LexState.outline, LexState.inRun, outline_snoc_beyond hc, runAfter_snoc, hc] at hnext
        rw [lex_str_beyond hc, ← hnext]
        change lex (.str (Utf8.outline false body) escaped)
          (mark (runAfter false body) ++ Utf8.outline true rest) = _
        have hescaped : runAfter false body = true → escaped = false := hstate
        cases hrun : runAfter false body with
        | true =>
          rw [hescaped hrun, mark, if_pos rfl, append_nil, nil_append]
          rfl
        | false =>
          rw [mark, if_neg (by decide), singleton_append, lex_str_beyond (by decide)]
          rfl

/-! ### Strings -/

/-- The first characters are kept with what stands behind them, or one beyond ASCII is among them
before and after. -/
lemma take_outline (count : ℕ) (text : List Char) :
    ((∀ c ∈ text.take count, isAscii c = true) ∧
      (Utf8.outline false text).take count = text.take count ∧
      (Utf8.outline false text).drop count = Utf8.outline false (text.drop count)) ∨
    ((∃ c ∈ text.take count, isAscii c = false) ∧
      ∃ c ∈ (Utf8.outline false text).take count, isAscii c = false) := by
  induction count generalizing text with
  | zero => exact .inl ⟨fun c hc => absurd hc not_mem_nil, rfl, rfl⟩
  | succ count ih =>
    cases text with
    | nil => exact .inl ⟨fun c hc => absurd hc not_mem_nil, rfl, rfl⟩
    | cons c rest =>
      by_cases hc : isAscii c = true
      · rw [outline_ascii hc, take_succ_cons, take_succ_cons, drop_succ_cons, drop_succ_cons]
        rcases ih rest with ⟨hall, htake, hdrop⟩ | ⟨⟨d, hd, hbeyond⟩, e, he, hbeyond'⟩
        · exact .inl ⟨forall_mem_cons.mpr ⟨hc, hall⟩, by rw [htake], hdrop⟩
        · exact .inr ⟨⟨d, mem_cons_of_mem c hd, hbeyond⟩, e, mem_cons_of_mem c he, hbeyond'⟩
      · rw [Bool.not_eq_true] at hc
        rw [outline_beyond hc, mark, if_neg (by decide), singleton_append, take_succ_cons,
          take_succ_cons]
        exact .inr ⟨⟨c, mem_cons_self, hc⟩, replacement, mem_cons_self, by decide⟩

lemma hexValue_beyond {c : Char} (hc : isAscii c = false) : hexValue c = none := by
  rw [isAscii, decide_eq_false_iff_not, Nat.not_le] at hc
  have hdigit : ¬ c.isDigit = true := by
    simp only [Char.isDigit, Bool.and_eq_true, decide_eq_true_eq]
    rintro ⟨-, h⟩
    have h9 : c.toNat ≤ 57 := UInt32.le_iff_toNat_le.mp h
    omega
  have hle : ∀ d : Char, d.toNat ≤ 0x7f → ¬ c ≤ d := by
    intro d hd h
    have hcd : c.toNat ≤ d.toNat := UInt32.le_iff_toNat_le.mp h
    omega
  rw [hexValue, if_neg hdigit, if_neg (fun h => hle 'f' (by decide) h.2),
    if_neg (fun h => hle 'F' (by decide) h.2)]

/-- No four digits hold a character beyond ASCII. -/
lemma readHex_beyond {text : List Char} {c : Char} (hmem : c ∈ text) (hc : isAscii c = false) :
    readHex text = none := by
  unfold readHex
  split
  · split
    · rename_i ha hb hd he
      have hnone := hexValue_beyond hc
      simp only [mem_cons, not_mem_nil, or_false] at hmem
      rcases hmem with rfl | rfl | rfl | rfl
      · exact absurd (hnone.symm.trans ha) (by simp)
      · exact absurd (hnone.symm.trans hb) (by simp)
      · exact absurd (hnone.symm.trans hd) (by simp)
      · exact absurd (hnone.symm.trans he) (by simp)
    · rfl
  · rfl

lemma readHex_outline (text : List Char) :
    readHex ((Utf8.outline false text).take 4) = readHex (text.take 4) ∧
      ((readHex (text.take 4)).isSome = true →
        (Utf8.outline false text).drop 4 = Utf8.outline false (text.drop 4)) := by
  rcases take_outline 4 text with ⟨-, htake, hdrop⟩ | ⟨⟨d, hd, hbeyond⟩, e, he, hbeyond'⟩
  · exact ⟨by rw [htake], fun _ => hdrop⟩
  · rw [readHex_beyond hd hbeyond, readHex_beyond he hbeyond']
    exact ⟨rfl, fun h => by cases h⟩

/-- The second escape of a pair. -/
def lowAfter (text : List Char) : Option ℕ :=
  if text.take 2 = ['\\', 'u'] then readHex ((text.drop 2).take 4) else none

lemma lowAfter_outline (text : List Char) :
    lowAfter (Utf8.outline false text) = lowAfter text ∧
      ((lowAfter text).isSome = true →
        (Utf8.outline false text).drop 6 = Utf8.outline false (text.drop 6)) := by
  unfold lowAfter
  have hne : ∀ {text : List Char} {c : Char}, c ∈ text → isAscii c = false →
      text ≠ ['\\', 'u'] := by
    rintro text c hc hbeyond rfl
    simp only [mem_cons, not_mem_nil, or_false] at hc
    rcases hc with rfl | rfl <;> exact absurd hbeyond (by decide)
  rcases take_outline 2 text with ⟨-, htake, hdrop⟩ | ⟨⟨d, hd, hbeyond⟩, e, he, hbeyond'⟩
  · rw [htake, hdrop]
    split
    · obtain ⟨hhex, hrest⟩ := readHex_outline (text.drop 2)
      refine ⟨hhex, fun h => ?_⟩
      have hdrop' := hrest h
      rwa [← hdrop, drop_drop, drop_drop] at hdrop'
    · exact ⟨rfl, fun h => by cases h⟩
  · rw [if_neg (hne hd hbeyond), if_neg (hne he hbeyond')]
    exact ⟨rfl, fun h => by cases h⟩

lemma readBody_nil (fuel : ℕ) : readBody fuel [] = some [] := by
  cases fuel <;> rfl

lemma readBody_char {c : Char} (hc : c ≠ '\\') (fuel : ℕ) (rest : List Char) :
    readBody (fuel + 1) (c :: rest) =
      if c.toNat < 0x20 then none else (readBody fuel rest).map (c :: ·) := by
  rw [readBody]
  · simp only [hc, or_false]
  · rintro rest' rfl
    exact absurd rfl hc
  · rintro d rest' rfl
    exact absurd rfl hc

lemma readBody_escape {c : Char} (hc : c ≠ 'u') (fuel : ℕ) (rest : List Char) :
    readBody (fuel + 1) ('\\' :: c :: rest) =
      (simpleEscape c).bind (fun c => (readBody fuel rest).map (c :: ·)) := by
  rw [readBody]
  rintro rfl
  exact absurd rfl hc

lemma readBody_unicode (fuel : ℕ) (rest : List Char) :
    readBody (fuel + 1) ('\\' :: 'u' :: rest) =
      (readHex (rest.take 4)).bind (fun high =>
        if 0xd800 ≤ high ∧ high ≤ 0xdbff ∧
            (lowAfter (rest.drop 4)).any (fun low => 0xdc00 ≤ low && low ≤ 0xdfff) then
          (readBody fuel ((rest.drop 4).drop 6)).map
            (Char.ofNat (0x10000 + (high - 0xd800) * 0x400 +
              ((lowAfter (rest.drop 4)).getD 0 - 0xdc00)) :: ·)
        else if 0xd800 ≤ high ∧ high ≤ 0xdfff then
          (readBody fuel (rest.drop 4)).map ('\uFFFD' :: ·)
        else (readBody fuel (rest.drop 4)).map (Char.ofNat high :: ·)) := by
  rw [readBody]
  cases readHex (rest.take 4) <;> rfl

/-- One character of a value, in front of what has one outline. -/
lemma map_outline_cons (seen : Bool) (c : Char) {more more' : Option (List Char)}
    (h : more'.map (Utf8.outline (!isAscii c)) = more.map (Utf8.outline (!isAscii c))) :
    (more'.map (c :: ·)).map (Utf8.outline seen) = (more.map (c :: ·)).map (Utf8.outline seen) := by
  have hcons : ∀ text, Utf8.outline seen (c :: text) =
      (if isAscii c then [c] else mark seen) ++ Utf8.outline (!isAscii c) text := by
    intro text
    cases hc : isAscii c with
    | true => rw [outline_ascii hc, if_pos rfl, singleton_append, Bool.not_true]
    | false => rw [outline_beyond hc, if_neg (by decide), Bool.not_false]
  have hmap : ∀ more : Option (List Char), (more.map (c :: ·)).map (Utf8.outline seen) =
      (more.map (Utf8.outline (!isAscii c))).map ((if isAscii c then [c] else mark seen) ++ ·) := by
    intro more
    rw [Option.map_map, Option.map_map]
    congr 1
    funext text
    exact hcons text
  rw [hmap, hmap, h]

/-- The same, where both characters are beyond ASCII. -/
lemma map_outline_beyond (seen : Bool) {c c' : Char} (hc : isAscii c = false)
    (hc' : isAscii c' = false) {more more' : Option (List Char)}
    (h : more'.map (Utf8.outline true) = more.map (Utf8.outline true)) :
    (more'.map (c' :: ·)).map (Utf8.outline seen) = (more.map (c :: ·)).map (Utf8.outline seen) := by
  have hmap : ∀ {c : Char}, isAscii c = false → ∀ more : Option (List Char),
      (more.map (c :: ·)).map (Utf8.outline seen) =
        (more.map (Utf8.outline true)).map (mark seen ++ ·) := by
    intro c hc more
    rw [Option.map_map, Option.map_map]
    congr 1
    funext text
    exact outline_beyond hc seen text
  rw [hmap hc, hmap hc', h]

lemma simpleEscape_beyond {c : Char} (hc : isAscii c = false) : simpleEscape c = none := by
  unfold simpleEscape
  split
  all_goals
    first
    | exact absurd hc (by decide)
    | rfl

/-- A body and its outline are read alike: both not at all, or with one outline. A character of the
value is beyond ASCII at least where the one of the body is. -/
lemma readBody_outline {fuel fuel' : ℕ} {inRun seen : Bool} {body : List Char}
    (hrun : inRun = true → seen = true) (hfuel : body.length ≤ fuel)
    (hfuel' : (Utf8.outline inRun body).length ≤ fuel') :
    (readBody fuel' (Utf8.outline inRun body)).map (Utf8.outline seen) =
      (readBody fuel body).map (Utf8.outline seen) := by
  induction fuel generalizing fuel' inRun seen body with
  | zero =>
    rw [Nat.le_zero, length_eq_zero_iff] at hfuel
    subst hfuel
    rw [Utf8.outline, readBody_nil, readBody_nil]
  | succ fuel ih =>
    cases body with
    | nil => rw [Utf8.outline, readBody_nil, readBody_nil]
    | cons c rest =>
      have hrest : rest.length ≤ fuel := Nat.le_of_succ_le_succ hfuel
      by_cases hc : isAscii c = true
      · rw [outline_ascii hc] at hfuel' ⊢
        obtain ⟨fuel', rfl⟩ : ∃ n, fuel' = n + 1 := ⟨fuel' - 1, by rw [length_cons] at hfuel'; omega⟩
        have hrest' : (Utf8.outline false rest).length ≤ fuel' := Nat.le_of_succ_le_succ hfuel'
        by_cases hescape : c = '\\'
        · subst hescape
          cases rest with
          | nil => rfl
          | cons d rest =>
            have hlength : rest.length ≤ fuel := (Nat.le_succ _).trans hrest
            by_cases hd : isAscii d = true
            · rw [outline_ascii hd] at hrest' ⊢
              have hlength' : (Utf8.outline false rest).length ≤ fuel' :=
                (Nat.le_succ _).trans hrest'
              by_cases hu : d = 'u'
              · subst hu
                rw [readBody_unicode, readBody_unicode, (readHex_outline rest).1]
                cases hhex : readHex (rest.take 4) with
                | none => rfl
                | some high =>
                  have hdrop := (readHex_outline rest).2 (by rw [hhex]; rfl)
                  have hafter : (rest.drop 4).length ≤ fuel :=
                    (drop_sublist _ _).length_le.trans hlength
                  have hafter' : (Utf8.outline false (rest.drop 4)).length ≤ fuel' := by
                    rw [← hdrop]
                    exact (drop_sublist _ _).length_le.trans hlength'
                  rw [hdrop, (lowAfter_outline (rest.drop 4)).1, Option.bind_some,
                    Option.bind_some]
                  split_ifs with hpair hlone
                  · have hlow : (lowAfter (rest.drop 4)).isSome = true := by
                      cases hlow : lowAfter (rest.drop 4) with
                      | none =>
                        rw [hlow] at hpair
                        exact absurd hpair.2.2 (by decide)
                      | some low => rfl
                    have hdrop' := (lowAfter_outline (rest.drop 4)).2 hlow
                    rw [hdrop']
                    refine map_outline_cons seen _ (ih (fun h => by cases h)
                      ((drop_sublist _ _).length_le.trans hafter) ?_)
                    rw [← hdrop']
                    exact (drop_sublist _ _).length_le.trans hafter'
                  · exact map_outline_cons seen _ (ih (fun h => by cases h) hafter hafter')
                  · exact map_outline_cons seen _ (ih (fun h => by cases h) hafter hafter')
              · rw [readBody_escape hu, readBody_escape hu]
                cases simpleEscape d with
                | none => rfl
                | some e => exact map_outline_cons seen e (ih (fun h => by cases h) hlength hlength')
            · rw [Bool.not_eq_true] at hd
              rw [outline_beyond hd, mark, if_neg (by decide), singleton_append,
                readBody_escape (by decide), readBody_escape (beyond_ne hd (by decide)),
                simpleEscape_beyond hd, simpleEscape_beyond (by decide)]
              rfl
        · rw [readBody_char hescape, readBody_char hescape]
          split
          · rfl
          · exact map_outline_cons seen c (ih (fun h => by cases h) hrest hrest')
      · rw [Bool.not_eq_true] at hc
        have hplain : ∀ {c : Char}, isAscii c = false → ∀ fuel rest, readBody (fuel + 1) (c :: rest) =
            (readBody fuel rest).map (c :: ·) := by
          intro c hc fuel rest
          have hcontrol : ¬ c.toNat < 0x20 := by
            rw [isAscii, decide_eq_false_iff_not] at hc
            omega
          rw [readBody_char (beyond_ne hc (by decide)), if_neg hcontrol]
        rw [outline_beyond hc] at hfuel' ⊢
        cases hin : inRun with
        | true =>
          rw [hin, mark, if_pos rfl, nil_append] at hfuel'
          rw [hrun hin, mark, if_pos rfl, nil_append, hplain hc, ih (fun _ => rfl) hrest hfuel',
            Option.map_map]
          congr 1
          funext text
          exact (outline_beyond hc true text).symm
        | false =>
          rw [hin, mark, if_neg (by decide), singleton_append] at hfuel'
          obtain ⟨fuel', rfl⟩ : ∃ n, fuel' = n + 1 :=
            ⟨fuel' - 1, by rw [length_cons] at hfuel'; omega⟩
          rw [mark, if_neg (by decide), singleton_append, hplain hc, hplain (by decide)]
          exact map_outline_beyond seen hc (by decide)
            (ih (fun _ => rfl) hrest (Nat.le_of_succ_le_succ hfuel'))

/-- Two strings of one outline. -/
def TextAlike (text text' : String) : Prop :=
  Utf8.outline false text.toList = Utf8.outline false text'.toList

lemma readString_outline (body : List Char) :
    Option.Rel TextAlike (readString body) (readString (Utf8.outline false body)) := by
  have h := readBody_outline (fun h => h) (le_refl body.length)
    (le_refl (Utf8.outline false body).length)
  unfold readString
  cases hbody : readBody body.length body with
  | none =>
    rw [hbody, Option.map_none, Option.map_eq_none_iff] at h
    rw [h]
    exact .none
  | some text =>
    rw [hbody, Option.map_some, Option.map_eq_some_iff] at h
    obtain ⟨text', htext', houtline⟩ := h
    rw [htext']
    refine .some ?_
    rw [TextAlike, String.toList_ofList, String.toList_ofList]
    exact houtline.symm

/-! ### Values -/

/-- Strings of one outline, or the same otherwise down to what an array or an object holds. -/
def Alike : Json → Json → Prop
  | .null, .null => True
  | .bool b, .bool b' => b = b'
  | .num q, .num q' => q = q'
  | .str text, .str text' => TextAlike text text'
  | .arr _, .arr _ => True
  | .obj _, .obj _ => True
  | _, _ => False

/-- A key beyond ASCII on both sides, or the same keys in order with values that are alike. -/
def FieldsAlike (fields fields' : List (String × Json)) : Prop :=
  ((∃ field ∈ fields, field.1.toList.all isAscii = false) ∧
    ∃ field ∈ fields', field.1.toList.all isAscii = false) ∨
  Forall₂ (fun field field' => field.1 = field'.1 ∧ Alike field.2 field'.2) fields fields'

/-- Alike, and objects in their fields too. -/
def Same (value value' : Json) : Prop :=
  Alike value value' ∧ ∀ fields fields', value = .obj fields → value' = .obj fields' →
    FieldsAlike fields fields'

def FrameAlike : Frame → Frame → Prop
  | .item _, .item _ => True
  | .field fields key, .field fields' key' => FieldsAlike fields fields' ∧ TextAlike key key'
  | _, _ => False

inductive ReadingAlike : Reading → Reading → Prop
  | value {stack stack' : List Frame} : Forall₂ FrameAlike stack stack' →
      ReadingAlike (.value stack) (.value stack')
  | firstItem {stack stack' : List Frame} : Forall₂ FrameAlike stack stack' →
      ReadingAlike (.firstItem stack) (.firstItem stack')
  | firstKey {stack stack' : List Frame} : Forall₂ FrameAlike stack stack' →
      ReadingAlike (.firstKey stack) (.firstKey stack')
  | key {stack stack' : List Frame} {fields fields' : List (String × Json)} :
      Forall₂ FrameAlike stack stack' → FieldsAlike fields fields' →
      ReadingAlike (.key stack fields) (.key stack' fields')
  | colon {stack stack' : List Frame} {fields fields' : List (String × Json)}
      {key key' : String} : Forall₂ FrameAlike stack stack' → FieldsAlike fields fields' →
      TextAlike key key' → ReadingAlike (.colon stack fields key) (.colon stack' fields' key')
  | after {stack stack' : List Frame} {value value' : Json} : Forall₂ FrameAlike stack stack' →
      Same value value' → ReadingAlike (.after stack value) (.after stack' value')

lemma fieldsAlike_nil : FieldsAlike [] [] := .inr .nil

lemma outline_all {text : List Char} (h : text.all isAscii = true) :
    Utf8.outline false text = text := by
  induction text with
  | nil => rfl
  | cons c rest ih =>
    rw [all_cons, Bool.and_eq_true] at h
    rw [outline_ascii h.1, ih h.2]

/-- What is beyond ASCII shows in the outline. -/
lemma all_outline (text : List Char) : (Utf8.outline false text).all isAscii = text.all isAscii := by
  by_cases h : text.all isAscii = true
  · rw [outline_all h]
  · have hmem : replacement ∈ Utf8.outline false text := by
      induction text with
      | nil => exact absurd rfl h
      | cons c rest ih =>
        by_cases hc : isAscii c = true
        · rw [outline_ascii hc]
          refine mem_cons_of_mem c (ih ?_)
          intro hrest
          exact h (by rw [all_cons, hc, hrest]; rfl)
        · rw [Bool.not_eq_true] at hc
          rw [outline_beyond hc]
          exact mem_append_left _ mem_cons_self
    rw [Bool.not_eq_true] at h
    rw [h, all_eq_false]
    exact ⟨replacement, hmem, by decide⟩

lemma TextAlike.all {text text' : String} (h : TextAlike text text') :
    text.toList.all isAscii = text'.toList.all isAscii := by
  rw [← all_outline text.toList, h, all_outline]

/-- An ASCII string is alike to itself only. -/
lemma TextAlike.eq {text text' : String} (h : TextAlike text text')
    (hascii : text.toList.all isAscii = true) : text = text' := by
  have hascii' : text'.toList.all isAscii = true := h.all ▸ hascii
  rw [TextAlike, outline_all hascii, outline_all hascii'] at h
  exact String.toList_inj.mp h

lemma key_mem_assign (key : String) (value : Json) (fields : List (String × Json)) :
    (∃ field ∈ Json.assign key value fields, field.1 = key) ∧
      ∀ field ∈ fields, ∃ field' ∈ Json.assign key value fields, field'.1 = field.1 := by
  induction fields with
  | nil => exact ⟨⟨_, mem_cons_self, rfl⟩, fun field h => absurd h not_mem_nil⟩
  | cons first rest ih =>
    obtain ⟨k, v⟩ := first
    rw [Json.assign]
    split
    · rename_i hk
      refine ⟨⟨_, mem_cons_self, hk⟩, forall_mem_cons.mpr ⟨⟨_, mem_cons_self, rfl⟩, ?_⟩⟩
      exact fun field hfield => ⟨field, mem_cons_of_mem _ hfield, rfl⟩
    · obtain ⟨⟨field, hfield, hkey⟩, hrest⟩ := ih
      refine ⟨⟨field, mem_cons_of_mem _ hfield, hkey⟩,
        forall_mem_cons.mpr ⟨⟨_, mem_cons_self, rfl⟩, fun other hother => ?_⟩⟩
      obtain ⟨field', hfield', hsame⟩ := hrest other hother
      exact ⟨field', mem_cons_of_mem _ hfield', hsame⟩

lemma FieldsAlike.assign {fields fields' : List (String × Json)} (h : FieldsAlike fields fields')
    {key key' : String} (hkey : TextAlike key key') {value value' : Json}
    (hvalue : Alike value value') :
    FieldsAlike (Json.assign key value fields) (Json.assign key' value' fields') := by
  rcases h with ⟨⟨field, hfield, hbeyond⟩, field', hfield', hbeyond'⟩ | h
  · obtain ⟨other, hother, hsame⟩ := (key_mem_assign key value fields).2 field hfield
    obtain ⟨other', hother', hsame'⟩ := (key_mem_assign key' value' fields').2 field' hfield'
    exact .inl ⟨⟨other, hother, hsame ▸ hbeyond⟩, other', hother', hsame' ▸ hbeyond'⟩
  by_cases hascii : key.toList.all isAscii = true
  · have heq := hkey.eq hascii
    subst heq
    right
    induction h with
    | nil => exact .cons ⟨rfl, hvalue⟩ .nil
    | @cons field field' rest rest' hfield hrest ih =>
      obtain ⟨k, v⟩ := field
      obtain ⟨k', v'⟩ := field'
      obtain ⟨hk, hv⟩ := hfield
      dsimp only at hk hv
      subst hk
      rw [Json.assign, Json.assign]
      split
      · exact .cons ⟨rfl, hvalue⟩ hrest
      · exact .cons ⟨rfl, hv⟩ ih
  · rw [Bool.not_eq_true] at hascii
    obtain ⟨field, hfield, hsame⟩ := (key_mem_assign key value fields).1
    obtain ⟨field', hfield', hsame'⟩ := (key_mem_assign key' value' fields').1
    exact .inl ⟨⟨field, hfield, by rw [hsame]; exact hascii⟩,
      field', hfield', by rw [hsame', ← hkey.all]; exact hascii⟩

lemma readWord_outline (text : List Char) :
    readWord (Utf8.outline false text) = readWord text := by
  by_cases h : text.all isAscii = true
  · rw [outline_all h]
  · have hnone : ∀ {text : List Char}, text.all isAscii = false → readWord text = none := by
      intro text h
      obtain ⟨c, hc, hbeyond⟩ := all_eq_false.mp h
      rw [← Option.not_isSome_iff_eq_none]
      intro hsome
      have hplain := readWord_plain hsome c hc
      simp only [isPlain, Bool.and_eq_true, decide_eq_true_eq] at hplain
      rw [isAscii, decide_eq_true_eq] at hbeyond
      omega
    rw [Bool.not_eq_true] at h
    rw [hnone h, hnone ((all_outline text).trans h)]

lemma alike_refl (value : Json) : Alike value value := by
  cases value <;> trivial

lemma same_refl (value : Json) : Same value value := by
  refine ⟨alike_refl value, ?_⟩
  rintro fields fields' rfl hfields'
  cases hfields'
  exact .inr (forall₂_same.mpr (fun field _ => ⟨rfl, alike_refl field.2⟩))

lemma same_str {text text' : String} (h : TextAlike text text') : Same (.str text) (.str text') :=
  ⟨h, fun fields _ hfields => by cases hfields⟩

/-! ### The machine -/

lemma rel_map {α β γ δ : Type} {r : α → β → Prop} {s : γ → δ → Prop} {f : α → γ} {g : β → δ}
    (hfg : ∀ a b, r a b → s (f a) (g b)) {o : Option α} {o' : Option β} (h : Option.Rel r o o') :
    Option.Rel s (o.map f) (o'.map g) := by
  cases h with
  | none => exact .none
  | some hr => exact .some (hfg _ _ hr)

lemma rel_bind {α β γ δ : Type} {r : α → β → Prop} {s : γ → δ → Prop} {f : α → Option γ}
    {g : β → Option δ} (hfg : ∀ a b, r a b → Option.Rel s (f a) (g b)) {o : Option α}
    {o' : Option β} (h : Option.Rel r o o') : Option.Rel s (o.bind f) (o'.bind g) := by
  cases h with
  | none => exact .none
  | some hr => exact hfg _ _ hr

lemma scalar_alike (token : Token) : Option.Rel Same (scalar token) (scalar token.outline) := by
  cases token with
  | punct c => exact .none
  | str body => exact rel_map (fun _ _ h => same_str h) (readString_outline body)
  | word text =>
    change Option.Rel Same (readWord text) (readWord (Utf8.outline false text))
    rw [readWord_outline]
    cases readWord text with
    | none => exact .none
    | some value => exact .some (same_refl value)

variable {stack stack' : List Frame}

lemma stepValue_alike (h : Forall₂ FrameAlike stack stack') (token : Token) :
    Option.Rel ReadingAlike (stepValue stack token) (stepValue stack' token.outline) := by
  have hscalar : Option.Rel ReadingAlike ((scalar token).map (.after stack))
      ((scalar token.outline).map (.after stack')) :=
    rel_map (fun _ _ hsame => .after h hsame) (scalar_alike token)
  cases token with
  | punct c =>
    by_cases hitem : c = '['
    · subst hitem
      exact .some (.firstItem h)
    by_cases hkey : c = '{'
    · subst hkey
      exact .some (.firstKey h)
    have hother : ∀ stack, stepValue stack (.punct c) = (scalar (.punct c)).map (.after stack) := by
      intro stack
      unfold stepValue
      split
      · rename_i heq
        exact absurd (Token.punct.inj heq) hitem
      · rename_i heq
        exact absurd (Token.punct.inj heq) hkey
      · rfl
    rw [Token.outline, hother, hother]
    exact hscalar
  | str body => exact hscalar
  | word text => exact hscalar

lemma stepKey_alike (h : Forall₂ FrameAlike stack stack') {fields fields' : List (String × Json)}
    (hfields : FieldsAlike fields fields') (token : Token) :
    Option.Rel ReadingAlike (stepKey stack fields token)
      (stepKey stack' fields' token.outline) := by
  cases token with
  | punct c => exact .none
  | str body =>
    exact rel_map (fun _ _ hkey => .colon h hfields hkey) (readString_outline body)
  | word text => exact .none

lemma same_arr (items items' : List Json) : Same (.arr items) (.arr items') :=
  ⟨trivial, fun fields _ hfields => by cases hfields⟩

lemma same_obj {fields fields' : List (String × Json)} (h : FieldsAlike fields fields') :
    Same (.obj fields) (.obj fields') := by
  refine ⟨trivial, fun _ _ hfields hfields' => ?_⟩
  cases hfields
  cases hfields'
  exact h

lemma stepAfter_alike (h : Forall₂ FrameAlike stack stack') {value value' : Json}
    (hvalue : Same value value') (token : Token) :
    Option.Rel ReadingAlike (stepAfter stack value token)
      (stepAfter stack' value' token.outline) := by
  have hnone : ∀ {stack : List Frame} {value : Json} {token : Token},
      token ≠ .punct ',' → token ≠ .punct ']' → token ≠ .punct '}' →
      stepAfter stack value token = none := by
    intro stack value token hcomma hitem hfield
    unfold stepAfter
    split
    · exact absurd rfl hcomma
    · exact absurd rfl hitem
    · exact absurd rfl hcomma
    · exact absurd rfl hfield
    · rfl
  have houtline : ∀ c, token.outline = .punct c ↔ token = .punct c := by
    intro c
    cases token with
    | punct d => rfl
    | str body => exact ⟨fun heq => (by cases heq), fun heq => (by cases heq)⟩
    | word text => exact ⟨fun heq => (by cases heq), fun heq => (by cases heq)⟩
  by_cases hpunct : token = .punct ',' ∨ token = .punct ']' ∨ token = .punct '}'
  · cases h with
    | nil => rcases hpunct with rfl | rfl | rfl <;> exact .none
    | @cons frame frame' stack stack' hframe hstack =>
      cases frame with
      | item items =>
        cases frame' with
        | item items' =>
          rcases hpunct with rfl | rfl | rfl
          · exact .some (.value (.cons trivial hstack))
          · exact .some (.after hstack (same_arr _ _))
          · exact .none
        | field fields' key' => exact hframe.elim
      | field fields key =>
        cases frame' with
        | item items' => exact hframe.elim
        | field fields' key' =>
          have hassign := hframe.1.assign hframe.2 hvalue.1
          rcases hpunct with rfl | rfl | rfl
          · exact .some (.key hstack hassign)
          · exact .none
          · exact .some (.after hstack (same_obj hassign))
  · rw [not_or, not_or] at hpunct
    obtain ⟨hcomma, hitem, hfield⟩ := hpunct
    rw [hnone hcomma hitem hfield,
      hnone (mt (houtline _).mp hcomma) (mt (houtline _).mp hitem) (mt (houtline _).mp hfield)]
    exact .none

lemma stepToken_alike {reading reading' : Reading} (h : ReadingAlike reading reading')
    (token : Token) :
    Option.Rel ReadingAlike (stepToken reading token) (stepToken reading' token.outline) := by
  have houtline : ∀ c, token.outline = .punct c ↔ token = .punct c := by
    intro c
    cases token with
    | punct d => rfl
    | str body => exact ⟨fun heq => (by cases heq), fun heq => (by cases heq)⟩
    | word text => exact ⟨fun heq => (by cases heq), fun heq => (by cases heq)⟩
  cases h with
  | value hstack => exact stepValue_alike hstack token
  | firstItem hstack =>
    simp only [stepToken, houtline]
    split
    · exact .some (.after hstack (same_arr _ _))
    · have hframe : FrameAlike (.item []) (.item []) := trivial
      exact stepValue_alike (.cons hframe hstack) token
  | firstKey hstack =>
    simp only [stepToken, houtline]
    split
    · exact .some (.after hstack (same_obj fieldsAlike_nil))
    · exact stepKey_alike hstack fieldsAlike_nil token
  | key hstack hfields => exact stepKey_alike hstack hfields token
  | colon hstack hfields hkey =>
    simp only [stepToken, houtline]
    split
    · exact .some (.value (.cons ⟨hfields, hkey⟩ hstack))
    · exact .none
  | after hstack hvalue => exact stepAfter_alike hstack hvalue token

lemma runTokens_alike {reading reading' : Reading} (h : ReadingAlike reading reading')
    (tokens : List Token) :
    Option.Rel ReadingAlike (runTokens reading tokens)
      (runTokens reading' (tokens.map Token.outline)) := by
  induction tokens generalizing reading reading' with
  | nil => exact .some h
  | cons token tokens ih =>
    rw [map_cons, runTokens_cons, runTokens_cons]
    exact rel_bind (fun _ _ hnext => ih hnext) (stepToken_alike h token)

lemma valueOf_alike (tokens : List Token) :
    Option.Rel Same (valueOf tokens) (valueOf (tokens.map Token.outline)) := by
  have hrun := runTokens_alike (.value .nil) tokens
  unfold valueOf
  generalize runTokens (.value []) tokens = reading at hrun ⊢
  generalize runTokens (.value []) (tokens.map Token.outline) = reading' at hrun ⊢
  cases hrun with
  | none => exact .none
  | some h =>
    cases h with
    | @after stack stack' value value' hstack hvalue =>
      cases hstack with
      | nil => exact .some hvalue
      | cons _ _ => exact .none
    | value _ => exact .none
    | firstItem _ => exact .none
    | firstKey _ => exact .none
    | key _ _ => exact .none
    | colon _ _ _ => exact .none

/-- A text and its outline have the same value but for characters beyond ASCII. -/
theorem parse_outline (text : List Char) :
    Option.Rel Same (parse text) (parse (Utf8.outline false text)) := by
  have hlex := lex_outline .idle trivial text
  change lex .idle (Utf8.outline false text) = _ at hlex
  rw [parse, parse, hlex]
  cases lex .idle text with
  | none => exact .none
  | some tokens => exact valueOf_alike tokens

end JsonText
