import BorgClient.Stream.Sse

/-!
# Chunks and the frame limit

The frames of a text do not depend on the chunks it came in. The limit is checked on what the
buffer holds at the end of a chunk, so a frame of exactly the limit is refused when the chunk ends
between the two line feeds behind it.
-/

namespace BorgClient.Stream
open List Utf8 Transducer
open Monitor (trim)

/-! ### The frames of a text -/

/-- A line feed after a line feed ends a frame. -/
def frameStep (buffer : List Char) (c : Char) : List Char × List (List Char) :=
  if buffer.getLast? = some '\n' ∧ c = '\n' then ([], [buffer.dropLast]) else (buffer ++ [c], [])

/-- The frames of a text that have their terminator. -/
def framesOf (text : List Char) : List (List Char) := (run frameStep [] text).2

/-- What follows the last terminator. -/
def restOf (text : List Char) : List Char := (run frameStep [] text).1

def Fits (maxFrameBytes : Option ℕ) (frame : List Char) : Prop :=
  ∀ limit ∈ maxFrameBytes, byteLength frame ≤ limit

instance (maxFrameBytes : Option ℕ) (frame : List Char) : Decidable (Fits maxFrameBytes frame) :=
  inferInstanceAs (Decidable (∀ limit ∈ maxFrameBytes, byteLength frame ≤ limit))

lemma Fits.of_append {maxFrameBytes : Option ℕ} {xs ys : List Char}
    (h : Fits maxFrameBytes (xs ++ ys)) : Fits maxFrameBytes xs := by
  intro limit hlimit
  have := h limit hlimit
  rw [byteLength_append] at this
  omega

/-- The two lists of a text without a blank line are the buffer with the text. -/
lemma run_of_cut_none {buffer text : List Char}
    (hsplit : ¬ (buffer.getLast? = some '\n' ∧ text.head? = some '\n'))
    (hcut : FrameBuffer.cutAtTerminator text = none) :
    run frameStep buffer text = (buffer ++ text, []) := by
  induction text generalizing buffer with
  | nil => simp
  | cons c rest ih =>
    unfold FrameBuffer.cutAtTerminator at hcut
    split at hcut
    · cases hcut
    · rename_i hc
      have hstep : frameStep buffer c = (buffer ++ [c], []) := by
        unfold frameStep
        rw [if_neg]
        simpa using hsplit
      have hnext : ¬ ((buffer ++ [c]).getLast? = some '\n' ∧ rest.head? = some '\n') := by
        simpa using hc
      rw [run_cons, hstep, ih hnext (by simpa using hcut)]
      simp

/-- A blank line ends the frame that the buffer and the text before it make. -/
lemma run_of_cut_some {buffer text : List Char} {cut : List Char × List Char}
    (hsplit : ¬ (buffer.getLast? = some '\n' ∧ text.head? = some '\n'))
    (hcut : FrameBuffer.cutAtTerminator text = some cut) :
    run frameStep buffer text =
      ((run frameStep [] cut.2).1, (buffer ++ cut.1) :: (run frameStep [] cut.2).2) := by
  induction text generalizing buffer cut with
  | nil => cases hcut
  | cons c rest ih =>
    have hstep : frameStep buffer c = (buffer ++ [c], []) := by
      unfold frameStep
      rw [if_neg]
      simpa using hsplit
    unfold FrameBuffer.cutAtTerminator at hcut
    split at hcut
    · rename_i hc
      cases hcut
      obtain ⟨rfl, hhead⟩ := hc
      cases rest with
      | nil => cases hhead
      | cons d rest =>
        cases hhead
        have hend : frameStep (buffer ++ ['\n']) '\n' = ([], [buffer]) := by simp [frameStep]
        rw [run_cons, hstep, run_cons, hend]
        simp
    · rename_i hc
      obtain ⟨inner, hinner, rfl⟩ := Option.map_eq_some_iff.mp hcut
      have hnext : ¬ ((buffer ++ [c]).getLast? = some '\n' ∧ rest.head? = some '\n') := by
        simpa using hc
      rw [run_cons, hstep, ih hnext hinner]
      simp

/-! ### One text drained -/

section Drain
variable {maxFrameBytes : Option ℕ}

lemma FrameBuffer.fits (b : FrameBuffer maxFrameBytes) : Fits maxFrameBytes b.buffer := by
  intro limit hlimit
  rw [← b.bytes_eq]
  exact b.le_max limit hlimit

lemma appendFragment_eq (b : FrameBuffer maxFrameBytes) (fragment : List Char) :
    (b.appendFragment fragment).map FrameBuffer.buffer =
      if Fits maxFrameBytes (b.buffer ++ fragment) then some (b.buffer ++ fragment) else none := by
  have hiff : (∀ limit ∈ maxFrameBytes, b.bufferBytes + byteLength fragment ≤ limit) ↔
      Fits maxFrameBytes (b.buffer ++ fragment) := by
    unfold Fits
    rw [byteLength_append, ← b.bytes_eq]
  unfold FrameBuffer.appendFragment
  dsimp only
  split
  · rename_i h
    rw [if_pos (hiff.mp h)]
    rfl
  · rename_i h
    rw [if_neg (fun hfits => h (hiff.mpr hfits))]
    rfl

/-- The blocks are the frames before the first one over the limit; the text is drained when no
frame is over it and the rest is not. -/
lemma drainText_eq (b : FrameBuffer maxFrameBytes) (text : List Char) :
    (b.drainText text).1 = (run frameStep b.buffer text).2.takeWhile (Fits maxFrameBytes) ∧
      (b.drainText text).2.map FrameBuffer.buffer =
        if (∀ frame ∈ (run frameStep b.buffer text).2, Fits maxFrameBytes frame) ∧
            Fits maxFrameBytes (run frameStep b.buffer text).1
        then some (run frameStep b.buffer text).1 else none := by
  fun_induction FrameBuffer.drainText b text with
  | case1 b => simp [b.fits]
  | case2 b c rest hsplit after ih =>
    obtain ⟨hlast, rfl⟩ := hsplit
    have hstep : frameStep b.buffer '\n' = ([], [b.buffer.dropLast]) := by simp [frameStep, hlast]
    have hfits : Fits maxFrameBytes b.buffer.dropLast := by
      have := b.fits
      rw [← dropLast_append_getLast? '\n' hlast] at this
      exact this.of_append
    have hempty : (FrameBuffer.empty : FrameBuffer maxFrameBytes).buffer = [] := rfl
    rw [hempty] at ih
    rw [run_cons, hstep]
    refine ⟨?_, ?_⟩
    · rw [singleton_append, takeWhile_cons_of_pos (by simpa using hfits), ← ih.1]
    · rw [ih.2]
      simp [hfits]
  | case3 b c rest hsplit hcut =>
    rw [run_of_cut_none (by simpa using hsplit) hcut]
    simp [appendFragment_eq]
  | case4 b c rest hsplit cut hcut hnone =>
    have hlong : ¬ Fits maxFrameBytes (b.buffer ++ cut.1) := by
      intro hfits
      have := appendFragment_eq b cut.1
      rw [hnone, if_pos hfits] at this
      cases this
    rw [run_of_cut_some (by simpa using hsplit) hcut]
    simp [hlong]
  | case5 b c rest hsplit cut hcut frame hframe after ih =>
    have happend := appendFragment_eq b cut.1
    rw [hframe, Option.map_some] at happend
    have hempty : (FrameBuffer.empty : FrameBuffer maxFrameBytes).buffer = [] := rfl
    rw [hempty] at ih
    rw [run_of_cut_some (by simpa using hsplit) hcut]
    split at happend
    · rename_i hfits
      have hbuffer := Option.some.inj happend
      refine ⟨?_, ?_⟩
      · rw [takeWhile_cons_of_pos (by simpa using hfits), ← ih.1, hbuffer]
      · rw [ih.2]
        simp [hfits]
    · cases happend

/-! ### The texts of a run -/

/-- The texts one after the other. -/
def drainTexts (b : FrameBuffer maxFrameBytes) :
    List (List Char) → List (List Char) × Option (FrameBuffer maxFrameBytes)
  | [] => ([], some b)
  | text :: rest =>
    match b.drainText text with
    | (blocks, none) => (blocks, none)
    | (blocks, some b) =>
      let after := drainTexts b rest
      (blocks ++ after.1, after.2)

lemma drainTexts_cons_none {b : FrameBuffer maxFrameBytes} {text : List Char}
    {rest : List (List Char)} (h : (b.drainText text).2 = none) :
    drainTexts b (text :: rest) = ((b.drainText text).1, none) := by
  unfold drainTexts
  split
  · rename_i heq
    rw [heq]
  · rename_i heq
    rw [heq] at h
    cases h

lemma drainTexts_cons_some {b next : FrameBuffer maxFrameBytes} {text : List Char}
    {rest : List (List Char)} (h : (b.drainText text).2 = some next) :
    drainTexts b (text :: rest) =
      ((b.drainText text).1 ++ (drainTexts next rest).1, (drainTexts next rest).2) := by
  rw [drainTexts]
  split
  · rename_i heq
    rw [heq] at h
    cases h
  · rename_i heq
    rw [heq] at h
    cases h
    rw [heq]

/-- A drained text: its frames fit and are the blocks, and the rest is the buffer. -/
lemma drainText_some {b next : FrameBuffer maxFrameBytes} {text : List Char}
    (h : (b.drainText text).2 = some next) :
    (b.drainText text).1 = (run frameStep b.buffer text).2 ∧
      next.buffer = (run frameStep b.buffer text).1 ∧
      ∀ frame ∈ (run frameStep b.buffer text).2, Fits maxFrameBytes frame := by
  obtain ⟨hblocks, hbuffer⟩ := drainText_eq b text
  rw [h, Option.map_some] at hbuffer
  split at hbuffer
  · rename_i hfit
    refine ⟨?_, Option.some.inj hbuffer, hfit.1⟩
    rw [hblocks, takeWhile_eq_self_iff]
    intro frame hframe
    simpa using hfit.1 frame hframe
  · cases hbuffer

lemma drainTexts_some {b last : FrameBuffer maxFrameBytes} {texts : List (List Char)}
    (h : (drainTexts b texts).2 = some last) :
    (drainTexts b texts).1 = (run frameStep b.buffer texts.flatten).2 ∧
      last.buffer = (run frameStep b.buffer texts.flatten).1 ∧
      ∀ frame ∈ (run frameStep b.buffer texts.flatten).2, Fits maxFrameBytes frame := by
  induction texts generalizing b with
  | nil =>
    cases h
    simp [drainTexts]
  | cons text rest ih =>
    cases hnext : (b.drainText text).2 with
    | none =>
      rw [drainTexts_cons_none hnext] at h
      cases h
    | some next =>
      rw [drainTexts_cons_some hnext] at h ⊢
      obtain ⟨hblocks, hbuffer, hfit⟩ := drainText_some hnext
      obtain ⟨hblocks', hbuffer', hfit'⟩ := ih h
      rw [hbuffer] at hblocks' hbuffer' hfit'
      rw [flatten_cons, run_append]
      refine ⟨by rw [hblocks, hblocks'], hbuffer', ?_⟩
      intro frame hframe
      rcases mem_append.mp hframe with hframe | hframe
      · exact hfit frame hframe
      · exact hfit' frame hframe

/-- The blocks are the first frames, whether the limit is hit or not. -/
lemma drainTexts_beginning (b : FrameBuffer maxFrameBytes) (texts : List (List Char)) :
    (drainTexts b texts).1 <+: (run frameStep b.buffer texts.flatten).2 := by
  induction texts generalizing b with
  | nil => exact nil_prefix
  | cons text rest ih =>
    rw [flatten_cons, run_append]
    cases hnext : (b.drainText text).2 with
    | none =>
      rw [drainTexts_cons_none hnext, (drainText_eq b text).1]
      exact ( takeWhile_prefix _).trans (prefix_append _ _)
    | some next =>
      obtain ⟨hblocks, hbuffer, _⟩ := drainText_some hnext
      rw [drainTexts_cons_some hnext, hblocks, ← hbuffer]
      exact (prefix_append_right_inj _).mpr (ih next)

lemma drainTexts_append {b mid : FrameBuffer maxFrameBytes} {xs ys : List (List Char)}
    (h : (drainTexts b xs).2 = some mid) :
    drainTexts b (xs ++ ys) =
      ((drainTexts b xs).1 ++ (drainTexts mid ys).1, (drainTexts mid ys).2) := by
  induction xs generalizing b with
  | nil =>
    cases h
    rfl
  | cons text rest ih =>
    cases hnext : (b.drainText text).2 with
    | none =>
      rw [drainTexts_cons_none hnext] at h
      cases h
    | some next =>
      rw [drainTexts_cons_some hnext] at h
      rw [cons_append, drainTexts_cons_some hnext, drainTexts_cons_some hnext, ih h, append_assoc]

lemma drainTexts_append_none {b : FrameBuffer maxFrameBytes} {xs ys : List (List Char)}
    (h : (drainTexts b xs).2 = none) : drainTexts b (xs ++ ys) = drainTexts b xs := by
  induction xs generalizing b with
  | nil => cases h
  | cons text rest ih =>
    cases hnext : (b.drainText text).2 with
    | none => rw [cons_append, drainTexts_cons_none hnext, drainTexts_cons_none hnext]
    | some next =>
      rw [drainTexts_cons_some hnext] at h
      rw [cons_append, drainTexts_cons_some hnext, drainTexts_cons_some hnext, ih h]

/-! ### Where a chunk's end costs a frame -/

/-- A text ends between the line feeds behind a frame of exactly the limit, and no frame before it
is over the limit. -/
def SplitTerminator (maxFrameBytes : Option ℕ) (buffer : List Char) (texts : List (List Char)) :
    Prop :=
  ∃ pre post frame rest, texts = pre ++ post ∧ post.flatten = '\n' :: rest ∧
    (run frameStep buffer pre.flatten).1 = frame ++ ['\n'] ∧ some (byteLength frame) = maxFrameBytes ∧
    ∀ earlier ∈ (run frameStep buffer pre.flatten).2, Fits maxFrameBytes earlier

/-- What a buffer over the limit grows into. -/
lemma run_of_long {buffer : List Char} (text : List Char) (h : ¬ Fits maxFrameBytes buffer) :
    ((run frameStep buffer text).2 = [] ∧ ¬ Fits maxFrameBytes (run frameStep buffer text).1) ∨
      (∃ frame more, (run frameStep buffer text).2 = frame :: more ∧
        ¬ Fits maxFrameBytes frame) ∨
      ∃ frame rest, buffer = frame ++ ['\n'] ∧ text = '\n' :: rest ∧ Fits maxFrameBytes frame := by
  induction text generalizing buffer with
  | nil => exact Or.inl ⟨rfl, h⟩
  | cons c rest ih =>
    by_cases hsplit : buffer.getLast? = some '\n' ∧ c = '\n'
    · obtain ⟨hlast, rfl⟩ := hsplit
      have hstep : frameStep buffer '\n' = ([], [buffer.dropLast]) := by simp [frameStep, hlast]
      right
      by_cases hfits : Fits maxFrameBytes buffer.dropLast
      · exact Or.inr ⟨buffer.dropLast, rest, (dropLast_append_getLast? '\n' hlast).symm, rfl, hfits⟩
      · left
        rw [run_cons, hstep]
        exact ⟨buffer.dropLast, _, rfl, hfits⟩
    · have hstep : frameStep buffer c = (buffer ++ [c], []) := by simp [frameStep, hsplit]
      rw [run_cons, hstep, nil_append]
      rcases ih (fun hfits => h hfits.of_append) with hend | hlong | ⟨frame, more, heq, _, hfits⟩
      · exact Or.inl hend
      · exact Or.inr (Or.inl hlong)
      · -- the frame would be the buffer itself
        have : buffer = frame := (append_inj' heq rfl).1
        exact absurd (this ▸ hfits) h

/-- A run that hits the limit has given the frames before the first one over it, or has lost a frame
to a chunk's end. -/
lemma drainTexts_none {b : FrameBuffer maxFrameBytes} {texts : List (List Char)}
    (h : (drainTexts b texts).2 = none) :
    ((drainTexts b texts).1 =
        (run frameStep b.buffer texts.flatten).2.takeWhile (Fits maxFrameBytes) ∧
      ¬ ((∀ frame ∈ (run frameStep b.buffer texts.flatten).2, Fits maxFrameBytes frame) ∧
        Fits maxFrameBytes (run frameStep b.buffer texts.flatten).1)) ∨
      SplitTerminator maxFrameBytes b.buffer texts := by
  induction texts generalizing b with
  | nil => cases h
  | cons text rest ih =>
    rw [flatten_cons, run_append]
    cases hnext : (b.drainText text).2 with
    | none =>
      rw [drainTexts_cons_none hnext]
      obtain ⟨hblocks, hbuffer⟩ := drainText_eq b text
      rw [hnext, Option.map_none] at hbuffer
      dsimp only
      rw [hblocks]
      by_cases hall : ∀ frame ∈ (run frameStep b.buffer text).2, Fits maxFrameBytes frame
      · -- the buffer at the end of the text is over the limit
        have hbuffer : ¬ Fits maxFrameBytes (run frameStep b.buffer text).1 := by
          intro hfits
          rw [if_pos ⟨hall, hfits⟩] at hbuffer
          cases hbuffer
        have hself : (run frameStep b.buffer text).2.takeWhile (Fits maxFrameBytes) =
            (run frameStep b.buffer text).2 := by
          rw [takeWhile_eq_self_iff]
          intro frame hframe
          simpa using hall frame hframe
        have happend : ∀ more : List (List Char),
            ((run frameStep b.buffer text).2 ++ more).takeWhile (Fits maxFrameBytes) =
              (run frameStep b.buffer text).2 ++ more.takeWhile (Fits maxFrameBytes) := by
          intro more
          rw [takeWhile_append_of_pos]
          intro frame hframe
          simpa using hall frame hframe
        rcases run_of_long rest.flatten hbuffer with
          ⟨hnil, hlong⟩ | ⟨frame, more, hcons, hlong⟩ | ⟨frame, more, heq, hmore, hfits⟩
        · left
          rw [hnil, append_nil]
          exact ⟨rfl, fun hfit => hlong hfit.2⟩
        · left
          rw [happend, hcons, takeWhile_cons_of_neg (by simpa using hlong), append_nil, hself]
          exact ⟨rfl, fun hfit => hlong (hfit.1 frame (by simp))⟩
        · right
          refine ⟨[text], rest, frame, more, rfl, hmore, by simpa using heq, ?_, by simpa using hall⟩
          rw [heq] at hbuffer
          unfold Fits at hbuffer hfits
          push Not at hbuffer
          obtain ⟨limit, hlimit, hlong⟩ := hbuffer
          have hle := hfits limit hlimit
          have hone : byteLength ['\n'] = 1 := by decide
          rw [byteLength_append, hone] at hlong
          rw [Option.mem_def] at hlimit
          rw [hlimit]
          congr 1
          omega
      · left
        push Not at hall
        obtain ⟨frame, hframe, hlong⟩ := hall
        refine ⟨?_, fun hfit => hlong (hfit.1 frame (mem_append_left _ hframe))⟩
        rw [takeWhile_append, if_neg]
        intro hlength
        have hself := ( takeWhile_prefix (l := (run frameStep b.buffer text).2)
          (Fits maxFrameBytes ·)).eq_of_length hlength
        have := (takeWhile_eq_self_iff.mp hself) frame hframe
        exact hlong (by simpa using this)
    | some next =>
      obtain ⟨hblocks, hbuffer, hfit⟩ := drainText_some hnext
      rw [drainTexts_cons_some hnext] at h ⊢
      rw [hblocks, ← hbuffer]
      rcases ih h with ⟨hrest, hnot⟩ | ⟨pre, post, frame, more, rfl, hpost, hend, hlimit, hearlier⟩
      · left
        refine ⟨?_, fun hall => hnot ⟨fun frame hframe =>
          hall.1 frame (mem_append_right _ hframe), hall.2⟩⟩
        dsimp only
        rw [hrest, takeWhile_append_of_pos]
        intro frame hframe
        simpa using hfit frame hframe
      · right
        refine ⟨text :: pre, post, frame, more, rfl, hpost, ?_, hlimit, ?_⟩
        · rw [flatten_cons, run_append, ← hbuffer]
          exact hend
        · rw [flatten_cons, run_append, ← hbuffer]
          intro earlier hmem
          rcases mem_append.mp hmem with hmem | hmem
          · exact hfit earlier hmem
          · exact hearlier earlier hmem

/-- A split terminator: the run hits the limit, and the frame before it is no block of the run. -/
lemma drainTexts_split {b : FrameBuffer maxFrameBytes} {texts : List (List Char)}
    (h : SplitTerminator maxFrameBytes b.buffer texts) :
    (drainTexts b texts).2 = none ∧
      (drainTexts b texts).1 ≠
        (run frameStep b.buffer texts.flatten).2.takeWhile (Fits maxFrameBytes) := by
  obtain ⟨pre, post, frame, more, rfl, hpost, hend, hlimit, hearlier⟩ := h
  have hone : byteLength ['\n'] = 1 := by decide
  have hnone : (drainTexts b pre).2 = none := by
    cases hpre : (drainTexts b pre).2 with
    | none => rfl
    | some last =>
      obtain ⟨_, hbuffer, _⟩ := drainTexts_some hpre
      have hlong := last.fits (byteLength frame) hlimit.symm
      rw [hbuffer, hend, byteLength_append, hone] at hlong
      omega
  rw [drainTexts_append_none hnone]
  refine ⟨hnone, fun heq => ?_⟩
  have hfits : Fits maxFrameBytes frame := by
    intro limit hmem
    rw [← hlimit, Option.mem_some_iff] at hmem
    omega
  have hstep : frameStep (frame ++ ['\n']) '\n' = ([], [frame]) := by simp [frameStep]
  have hframes : (run frameStep b.buffer (pre ++ post).flatten).2 =
      (run frameStep b.buffer pre.flatten).2 ++ frame :: (run frameStep [] more).2 := by
    rw [flatten_append, run_append, hpost, hend, run_cons, hstep]
    rfl
  rw [hframes, takeWhile_append_of_pos (by simpa using hearlier),
    takeWhile_cons_of_pos (by simpa using hfits)] at heq
  have hle := (drainTexts_beginning b pre).length_le
  rw [heq, length_append, length_cons] at hle
  omega

end Drain

/-! ### The reader loop -/

section Loop
variable {maxFrameBytes : Option ℕ}

lemma readLoop_eq (decoder : Decoder) (b : FrameBuffer maxFrameBytes) (chunks : List (List UInt8)) :
    readLoop decoder b chunks =
      ((drainTexts b (runPieces Utf8.step decoder chunks).2).1,
        (drainTexts b (runPieces Utf8.step decoder chunks).2).2.map
          (fun last => ((runPieces Utf8.step decoder chunks).1, last))) := by
  induction chunks generalizing decoder b with
  | nil => rfl
  | cons value rest ih =>
    have hpieces : (runPieces Utf8.step decoder (value :: rest)).2 =
        (decode decoder value).2 :: (runPieces Utf8.step (decode decoder value).1 rest).2 := rfl
    rw [hpieces, readLoop]
    dsimp only
    cases hnext : (b.drainText (decode decoder value).2).2 with
    | none =>
      rw [drainTexts_cons_none hnext]
      split
      · rename_i heq
        rw [heq]
        rfl
      · rename_i heq
        rw [heq] at hnext
        cases hnext
    | some next =>
      rw [drainTexts_cons_some hnext]
      split
      · rename_i heq
        rw [heq] at hnext
        cases hnext
      · rename_i heq
        rw [heq] at hnext ⊢
        cases hnext
        rw [ih]
        rfl

end Loop

/-- The texts the chunks decode to, and the decoder's rest. -/
def textsOf (chunks : List (List UInt8)) : List (List Char) :=
  (runPieces Utf8.step {} chunks).2 ++ [flush (runPieces Utf8.step {} chunks).1]

lemma textsOf_flatten (chunks : List (List UInt8)) :
    (textsOf chunks).flatten = decodeAll chunks.flatten := by
  have h := runPieces_flatten Utf8.step {} chunks
  unfold textsOf decodeAll decode
  rw [flatten_append, ← h]
  simp

/-- The run of `drainTexts` as a run of the parser. -/
def finish {maxFrameBytes : Option ℕ} :
    List (List Char) × Option (FrameBuffer maxFrameBytes) → ParseRun
  | (blocks, none) => ⟨blocks, false⟩
  | (blocks, some b) => ⟨blocks ++ (if trim b.buffer = [] then [] else [b.buffer]), true⟩

lemma readEnd_eq {maxFrameBytes : Option ℕ} (blocks : List (List Char)) (decoder : Decoder)
    (b : FrameBuffer maxFrameBytes) :
    readEnd blocks decoder b =
      finish (blocks ++ (drainTexts b [flush decoder]).1, (drainTexts b [flush decoder]).2) := by
  unfold readEnd
  cases hnext : (b.drainText (flush decoder)).2 with
  | none =>
    rw [drainTexts_cons_none hnext]
    split
    · rename_i heq
      rw [heq]
      rfl
    · rename_i heq
      rw [heq] at hnext
      cases hnext
  | some next =>
    rw [drainTexts_cons_some hnext]
    split
    · rename_i heq
      rw [heq] at hnext
      cases hnext
    · rename_i heq
      rw [heq] at hnext ⊢
      cases hnext
      simp [drainTexts, finish]

lemma parseBlocks_eq (maxFrameBytes : Option ℕ) (chunks : List (List UInt8)) :
    parseBlocks maxFrameBytes chunks =
      finish (drainTexts (FrameBuffer.empty : FrameBuffer maxFrameBytes) (textsOf chunks)) := by
  unfold parseBlocks textsOf
  rw [readLoop_eq]
  cases hmid : (drainTexts (FrameBuffer.empty : FrameBuffer maxFrameBytes)
    (runPieces Utf8.step {} chunks).2).2 with
  | none =>
    have hpair : drainTexts (FrameBuffer.empty : FrameBuffer maxFrameBytes)
        (runPieces Utf8.step {} chunks).2 =
        ((drainTexts (FrameBuffer.empty : FrameBuffer maxFrameBytes)
          (runPieces Utf8.step {} chunks).2).1, none) := by
      rw [← hmid]
    rw [drainTexts_append_none hmid, hpair]
    rfl
  | some mid =>
    rw [drainTexts_append hmid]
    exact readEnd_eq _ _ mid

/-- What the limit says of a text: it is parsed to its end when every frame and the rest are
within the limit, and else up to the first frame that is not. -/
def limitedRun (maxFrameBytes : Option ℕ) (text : List Char) : ParseRun :=
  if (∀ frame ∈ framesOf text, Fits maxFrameBytes frame) ∧ Fits maxFrameBytes (restOf text) then
    ⟨framesOf text ++ (if trim (restOf text) = [] then [] else [restOf text]), true⟩
  else ⟨(framesOf text).takeWhile (Fits maxFrameBytes), false⟩

/-- A run that ends without an error is the run of the limit. -/
lemma parseBlocks_completed {maxFrameBytes : Option ℕ} {chunks : List (List UInt8)}
    (h : hitsFrameLimit maxFrameBytes chunks = false) :
    (parseBlocks maxFrameBytes chunks).blocks =
      framesOf (decodeAll chunks.flatten) ++
        (if trim (restOf (decodeAll chunks.flatten)) = [] then []
          else [restOf (decodeAll chunks.flatten)]) := by
  unfold hitsFrameLimit at h
  rw [parseBlocks_eq] at h ⊢
  cases hlast : (drainTexts (FrameBuffer.empty : FrameBuffer maxFrameBytes) (textsOf chunks)).2 with
  | none =>
    rw [← Prod.eta (drainTexts _ _), hlast] at h
    cases h
  | some last =>
    obtain ⟨hblocks, hbuffer, _⟩ := drainTexts_some hlast
    rw [textsOf_flatten] at hblocks hbuffer
    rw [← Prod.eta (drainTexts _ _), hlast, hblocks]
    dsimp only [finish]
    rw [hbuffer]
    rfl

/-- However a body is cut into chunks, the runs that do not hit the frame limit yield the same
events. -/
theorem parseSSE_chunk_invariant [SseHost] (maxFrameBytes : Option ℕ)
    (chunks chunks' : List (List UInt8)) (hbody : chunks.flatten = chunks'.flatten)
    (h : hitsFrameLimit maxFrameBytes chunks = false)
    (h' : hitsFrameLimit maxFrameBytes chunks' = false) :
    parseSSE maxFrameBytes chunks = parseSSE maxFrameBytes chunks' := by
  unfold parseSSE
  rw [parseBlocks_completed h, parseBlocks_completed h', hbody]

/-- A host for bodies whose events take no JSON value. -/
@[reducible] def plainHost : SseHost := ⟨fun _ => none, fun _ => none, fun _ => none⟩

/-- `event:x`, `data:é` and a blank line: whole, and cut within the letter and the terminator. -/
theorem parseSSE_chunk_invariant_split :
    @parseSSE plainHost (some LOCAL_SERVER_SSE_FRAME_LIMIT_BYTES)
        [[101, 118, 101, 110, 116, 58, 120, 10, 100, 97, 116, 97, 58, 195, 169, 10, 10]] =
      @parseSSE plainHost (some LOCAL_SERVER_SSE_FRAME_LIMIT_BYTES)
        [[101, 118, 101, 110, 116, 58, 120, 10, 100, 97, 116, 97, 58, 195], [169, 10], [10]] :=
  @parseSSE_chunk_invariant plainHost _ _ _ rfl (by decide +kernel) (by decide +kernel)

/-! ### The limit -/

/-- A chunk ends between the line feeds behind a frame of exactly the limit, and no frame before it
is over the limit. -/
def SplitAtLimit (maxFrameBytes : Option ℕ) (chunks : List (List UInt8)) : Prop :=
  ∃ pre post frame rest, chunks = pre ++ post ∧
    decodeAll chunks.flatten = (decode {} pre.flatten).2 ++ '\n' :: rest ∧
    restOf (decode {} pre.flatten).2 = frame ++ ['\n'] ∧ some (byteLength frame) = maxFrameBytes ∧
    ∀ earlier ∈ framesOf (decode {} pre.flatten).2, Fits maxFrameBytes earlier

lemma splitTerminator_iff {maxFrameBytes : Option ℕ} {chunks : List (List UInt8)} :
    SplitTerminator maxFrameBytes [] (textsOf chunks) ↔ SplitAtLimit maxFrameBytes chunks := by
  have htext : ∀ pre : List (List UInt8),
      (runPieces Utf8.step {} pre).2.flatten = (decode {} pre.flatten).2 := by
    intro pre
    unfold decode
    rw [← runPieces_flatten]
  constructor
  · rintro ⟨pre, post, frame, rest, hsplit, hpost, hend, hlimit, hearlier⟩
    -- the decoder's rest is not before the chunk's end, since it is followed by a line feed
    have hlength : pre.length ≤ chunks.length := by
      have hlen := congrArg length hsplit
      rw [textsOf, length_append, length_runPieces, length_append, length_singleton] at hlen
      have hne : post ≠ [] := by
        rintro rfl
        cases hpost
      have := length_pos_iff.mpr hne
      omega
    have hruns : (runPieces Utf8.step {} chunks).2.take pre.length =
        (runPieces Utf8.step {} (chunks.take pre.length)).2 := by
      conv_lhs => rw [← take_append_drop pre.length chunks, runPieces_append]
      rw [take_left' (by simpa using hlength)]
    have hpre : pre = (runPieces Utf8.step {} (chunks.take pre.length)).2 := by
      have htake := congrArg (List.take pre.length) hsplit
      rw [take_left, textsOf, take_append_of_le_length (by simpa using hlength), hruns] at htake
      exact htake.symm
    refine ⟨chunks.take pre.length, chunks.drop pre.length, frame, rest,
      (take_append_drop _ _).symm, ?_, ?_, hlimit, ?_⟩
    · rw [← textsOf_flatten, hsplit, flatten_append, hpost, ← htext, ← hpre]
    · rw [← htext, ← hpre]
      exact hend
    · rw [← htext, ← hpre]
      exact hearlier
  · rintro ⟨pre, post, frame, rest, rfl, hbody, hend, hlimit, hearlier⟩
    have hsplit : textsOf (pre ++ post) = (runPieces Utf8.step {} pre).2 ++
        ((runPieces Utf8.step (runPieces Utf8.step {} pre).1 post).2 ++
          [flush (runPieces Utf8.step {} (pre ++ post)).1]) := by
      rw [textsOf, runPieces_append, append_assoc]
    refine ⟨_, _, frame, rest, hsplit, ?_, ?_, hlimit, ?_⟩
    · rw [← textsOf_flatten, hsplit, flatten_append, htext] at hbody
      exact append_cancel_left hbody
    · rw [htext]
      exact hend
    · rw [htext]
      exact hearlier

/-- What a frame limit promises of a run: it gives the blocks before the first frame over the limit
and fails there, and the buffer kept between two chunks stays within the limit. -/
structure FrameLimitHolds (maxFrameBytes : Option ℕ) (chunks : List (List UInt8)) : Prop where
  run_eq : parseBlocks maxFrameBytes chunks = limitedRun maxFrameBytes (decodeAll chunks.flatten)
  retained : ∀ pre post, chunks = pre ++ post →
    ∀ s ∈ (readLoop {} (FrameBuffer.empty : FrameBuffer maxFrameBytes) pre).2,
      Fits maxFrameBytes s.2.buffer

lemma parseBlocks_of_split {maxFrameBytes : Option ℕ} {chunks : List (List UInt8)}
    (h : SplitAtLimit maxFrameBytes chunks) :
    (parseBlocks maxFrameBytes chunks).completed = false ∧
      (parseBlocks maxFrameBytes chunks).blocks ≠
        (framesOf (decodeAll chunks.flatten)).takeWhile (Fits maxFrameBytes) := by
  obtain ⟨hnone, hne⟩ := drainTexts_split (b := (FrameBuffer.empty : FrameBuffer maxFrameBytes))
    (splitTerminator_iff.mpr h)
  rw [textsOf_flatten] at hne
  rw [parseBlocks_eq, ← Prod.eta (drainTexts _ _), hnone]
  exact ⟨rfl, hne⟩

lemma parseBlocks_of_not_split {maxFrameBytes : Option ℕ} {chunks : List (List UInt8)}
    (h : ¬ SplitAtLimit maxFrameBytes chunks) :
    parseBlocks maxFrameBytes chunks = limitedRun maxFrameBytes (decodeAll chunks.flatten) := by
  have hempty : (FrameBuffer.empty : FrameBuffer maxFrameBytes).buffer = [] := rfl
  rw [parseBlocks_eq]
  cases hlast : (drainTexts (FrameBuffer.empty : FrameBuffer maxFrameBytes) (textsOf chunks)).2 with
  | none =>
    rcases drainTexts_none hlast with ⟨hblocks, hnot⟩ | hterm
    · rw [textsOf_flatten, hempty] at hblocks hnot
      rw [← Prod.eta (drainTexts _ _), hlast, hblocks]
      unfold limitedRun framesOf restOf
      rw [if_neg hnot]
      rfl
    · exact absurd (splitTerminator_iff.mp hterm) h
  | some last =>
    obtain ⟨hblocks, hbuffer, hfit⟩ := drainTexts_some hlast
    have hrest := last.fits
    rw [textsOf_flatten, hempty] at hblocks hbuffer hfit
    rw [hbuffer] at hrest
    rw [← Prod.eta (drainTexts _ _), hlast, hblocks]
    unfold limitedRun framesOf restOf
    rw [if_pos ⟨hfit, hrest⟩]
    dsimp only [finish]
    rw [hbuffer]

/-- The frame limit holds exactly when no chunk ends within the terminator of a frame of exactly
the limit. -/
theorem frameLimitHolds_iff (maxFrameBytes : Option ℕ) (chunks : List (List UInt8)) :
    FrameLimitHolds maxFrameBytes chunks ↔ ¬ SplitAtLimit maxFrameBytes chunks := by
  constructor
  · rintro ⟨hrun, _⟩ hsplit
    obtain ⟨hfailed, hne⟩ := parseBlocks_of_split hsplit
    rw [hrun] at hfailed hne
    unfold limitedRun at hfailed hne
    split at hfailed
    · cases hfailed
    · rename_i hnot
      rw [if_neg hnot] at hne
      exact hne rfl
  · intro hsplit
    exact ⟨parseBlocks_of_not_split hsplit, fun pre post _ s hs => s.2.fits⟩

/-! ### A frame of exactly the limit -/

/-- A body in one chunk has no chunk's end within it. -/
lemma not_splitAtLimit_single {maxFrameBytes : Option ℕ} (chunk : List UInt8) :
    ¬ SplitAtLimit maxFrameBytes [chunk] := by
  rintro ⟨pre, post, frame, rest, hsplit, hbody, hend, _⟩
  cases pre with
  | nil => simp [restOf, decode] at hend
  | cons first pre =>
    have hpre : first = chunk ∧ pre = [] := by
      rw [cons_append, cons.injEq] at hsplit
      exact ⟨hsplit.1.symm, (nil_eq_append_iff.mp hsplit.2).1⟩
    obtain ⟨rfl, rfl⟩ := hpre
    unfold decodeAll at hbody
    have hflush := append_cancel_left hbody
    rcases flush_eq (decode {} [first].flatten).1 with heq | heq
    · rw [heq] at hflush
      cases hflush
    · rw [heq] at hflush
      cases hflush

lemma run_of_not_mem {buffer text : List Char} (h : '\n' ∉ text) :
    run frameStep buffer text = (buffer ++ text, []) := by
  induction text generalizing buffer with
  | nil => simp
  | cons c rest ih =>
    have hc : c ≠ '\n' := fun heq => h (by simp [heq])
    have hstep : frameStep buffer c = (buffer ++ [c], []) := by simp [frameStep, hc]
    rw [run_cons, hstep, ih (fun hmem => h (mem_cons_of_mem _ hmem))]
    simp

/-- A frame of the letter `a`, `n` bytes long. -/
def letters (n : ℕ) : List UInt8 := replicate n 0x61

lemma decode_letters (n : ℕ) (feeds : ℕ) :
    (decode {} (letters n ++ replicate feeds 0x0a)).1.pending = {} ∧
      (decode {} (letters n ++ replicate feeds 0x0a)).2 =
        replicate n 'a' ++ replicate feeds '\n' := by
  have hascii : ∀ b ∈ letters n ++ replicate feeds 0x0a, b.toNat ≤ 0x7f := by
    intro b hb
    rcases mem_append.mp hb with hb | hb
    · rw [eq_of_mem_replicate hb]
      decide
    · rw [eq_of_mem_replicate hb]
      decide
  obtain ⟨hpending, htext⟩ := decode_ascii hascii false
  refine ⟨hpending, ?_⟩
  rw [htext, letters, map_append, map_replicate, map_replicate]
  rfl

lemma decodeAll_letters (n feeds : ℕ) :
    decodeAll (letters n ++ replicate feeds 0x0a) = replicate n 'a' ++ replicate feeds '\n' := by
  obtain ⟨hpending, htext⟩ := decode_letters n feeds
  simp [decodeAll, htext, flush, hpending]

lemma run_letters (n feeds : ℕ) :
    run frameStep [] (replicate n 'a' ++ replicate feeds '\n') =
      run frameStep (replicate n 'a') (replicate feeds '\n') := by
  have hmem : '\n' ∉ replicate n 'a' := by
    intro h
    cases eq_of_mem_replicate h
  rw [run_append, run_of_not_mem hmem]
  simp

lemma byteLength_letters (n : ℕ) : byteLength (replicate n 'a') = n := by
  have hone : 'a'.utf8Size = 1 := by decide
  simp [byteLength, hone]

lemma exact_frame_split (limit : ℕ) :
    ∃ chunks chunks' : List (List UInt8), chunks.flatten = chunks'.flatten ∧
      (∀ frame ∈ framesOf (decodeAll chunks.flatten), byteLength frame ≤ limit) ∧
      hitsFrameLimit (some limit) chunks = false ∧ hitsFrameLimit (some limit) chunks' = true := by
  have hrun : ∀ feeds, run frameStep [] (replicate limit 'a' ++ replicate feeds '\n') =
      run frameStep (replicate limit 'a') (replicate feeds '\n') := run_letters limit
  have hsecond : frameStep (replicate limit 'a' ++ ['\n']) '\n' = ([], [replicate limit 'a']) := by
    simp [frameStep]
  have hfirst : frameStep (replicate limit 'a') '\n' = (replicate limit 'a' ++ ['\n'], []) := by
    cases limit with
    | zero => simp [frameStep]
    | succ n => simp [frameStep, replicate_succ']
  have hframes : framesOf (decodeAll (letters limit ++ replicate 2 0x0a)) = [replicate limit 'a'] ∧
      restOf (decodeAll (letters limit ++ replicate 2 0x0a)) = [] := by
    unfold framesOf restOf
    rw [decodeAll_letters, hrun]
    simp [replicate_succ, run_cons, hfirst, hsecond]
  refine ⟨[letters limit ++ replicate 2 0x0a], [letters limit ++ replicate 1 0x0a, [0x0a]],
    by simp [replicate_succ], ?_, ?_, ?_⟩
  · intro frame hframe
    rw [flatten_singleton, hframes.1, mem_singleton] at hframe
    rw [hframe, byteLength_letters]
  · unfold hitsFrameLimit
    rw [parseBlocks_of_not_split (not_splitAtLimit_single _), flatten_singleton]
    unfold limitedRun
    rw [hframes.1, hframes.2, if_pos]
    · rfl
    · refine ⟨fun frame hframe => ?_, fun limit _ => Nat.zero_le limit⟩
      rw [mem_singleton.mp hframe]
      intro bound hbound
      rw [Option.mem_some_iff] at hbound
      rw [byteLength_letters, hbound]
  · have hsplit : SplitAtLimit (some limit) [letters limit ++ replicate 1 0x0a, [0x0a]] := by
      refine ⟨[letters limit ++ replicate 1 0x0a], [[0x0a]], replicate limit 'a', [], rfl, ?_, ?_,
        by rw [byteLength_letters], ?_⟩
      · have hbody : [letters limit ++ replicate 1 0x0a, [0x0a]].flatten =
            letters limit ++ replicate 2 0x0a := by simp [replicate_succ]
        rw [hbody, decodeAll_letters, flatten_singleton, (decode_letters limit 1).2]
        simp [replicate_succ]
      · unfold restOf
        rw [flatten_singleton, (decode_letters limit 1).2, hrun]
        simp [run_cons, hfirst]
      · unfold framesOf
        rw [flatten_singleton, (decode_letters limit 1).2, hrun]
        simp [run_cons, hfirst]
    unfold hitsFrameLimit
    rw [(parseBlocks_of_split hsplit).1]
    rfl

/-- A frame of 64 KiB is accepted in one chunk and refused when the chunk ends between the two line
feeds behind it. -/
theorem frame_at_limit_split :
    ∃ chunks chunks' : List (List UInt8), chunks.flatten = chunks'.flatten ∧
      (∀ frame ∈ framesOf (decodeAll chunks.flatten),
        byteLength frame ≤ LOCAL_SERVER_SSE_FRAME_LIMIT_BYTES) ∧
      hitsFrameLimit (some LOCAL_SERVER_SSE_FRAME_LIMIT_BYTES) chunks = false ∧
      hitsFrameLimit (some LOCAL_SERVER_SSE_FRAME_LIMIT_BYTES) chunks' = true :=
  exact_frame_split LOCAL_SERVER_SSE_FRAME_LIMIT_BYTES

end BorgClient.Stream
