import BorgClient.Lib.JsonOutline
import BorgClient.Representative.Push
import BorgClient.Settings.Jsonc

/-!
# The listener's input

`representative-listener.ts`: stdin comes in chunks, each decoded on its own and appended to what
is left of the chunks before; every complete line goes to the push engine, and an incomplete one
past the limit is discarded up to its end.
-/

namespace BorgClient.Representative
open List Utf8 JsonText
open Monitor (isSpace)
open Platform (isRepresentativeUuid)

/-- A member as `parseAck` looks at it. -/
def ackMember : Json → AckMember
  | .str value => .text value
  | .bool value => .boolean value
  | _ => .other

def ackMembers : Option Json → Option (List (String × AckMember))
  | some (.obj fields) => some (fields.map (fun field => (field.1, ackMember field.2)))
  | _ => none

/-- A line as it is parsed. -/
def ackLine (line : List Char) : AckLine where
  byteLength := byteLength line
  members := ackMembers (parse line)

structure StdinReader where
  buffered : List Char := []
  overflow : Bool := false

/-- `toString` of a chunk. -/
def chunkText (chunk : List UInt8) : List Char := decodeCuts {} (chunk.map some)

/-- The lines that go to the engine, and the flag behind them: one line ends an oversized one. -/
def takeLines (overflow : Bool) : List (List Char) → Bool × List (List Char)
  | [] => (overflow, [])
  | line :: lines =>
    if overflow then takeLines false lines
    else
      let next := takeLines false lines
      (next.1, if line.all isSpace then next.2 else line :: next.2)

def onData (reader : StdinReader) (chunk : List UInt8) : StdinReader × List (List Char) :=
  let text := linesOf '\n' (reader.buffered ++ chunkText chunk)
  let taken := takeLines reader.overflow text.1
  if byteLength text.2 > WAKE_ACK_LINE_MAX_BYTES then (⟨[], true⟩, taken.2)
  else (⟨text.2, taken.1⟩, taken.2)

/-- What the engine makes of a line it is given. -/
def lineAck [Platform] (line : List Char) : Option (Uuid × Bool) := parseAck (ackLine line)

/-- The acks the engine gets of a stream in chunks. -/
def acks [Platform] (chunks : List (List UInt8)) : List (Uuid × Bool) :=
  (Transducer.run onData {} chunks).2.filterMap lineAck

/-! ### The lines of the stream -/

/-- The bytes of the chunks, and where each ends. -/
def events (chunks : List (List UInt8)) : List (Option UInt8) :=
  chunks.flatMap (fun chunk => chunk.map some ++ [none])

/-- The complete lines with the cuts in them. -/
def inputLines (chunks : List (List UInt8)) : List (List (Option UInt8)) :=
  (linesOf (some 10) (events chunks)).1

/-- What a line says on its own. -/
def ackOf [Platform] (line : List (Option UInt8)) : Option (Uuid × Bool) :=
  lineAck (decodeCuts {} line)

lemma decodeCuts_chunk (p : Pending) (chunk : List UInt8) (rest : List (Option UInt8)) :
    decodeCuts p (chunk.map some ++ none :: rest) =
      decodeCuts p (chunk.map some) ++ decodeCuts {} rest := by
  induction chunk generalizing p with
  | nil => rfl
  | cons byte chunk ih =>
    rw [map_cons, cons_append, decodeCuts, decodeCuts, ih, append_assoc]

lemma decodeCuts_events (chunks : List (List UInt8)) :
    decodeCuts {} (events chunks) = chunks.flatMap chunkText := by
  induction chunks with
  | nil => rfl
  | cons chunk chunks ih =>
    rw [events, flatMap_cons, append_assoc, singleton_append, decodeCuts_chunk, flatMap_cons, ← ih]
    rfl

/-- A blank line is no value. -/
lemma parse_blank {line : List Char} (h : line.all isSpace = true) : parse line = none := by
  rw [← Option.not_isSome_iff_eq_none, Option.isSome_iff_exists]
  rintro ⟨value, hvalue⟩
  obtain ⟨tokens, hlex, hread⟩ := Option.bind_eq_some_iff.mp hvalue
  obtain ⟨after, hrun⟩ := Settings.run_of_parse hlex hvalue
  have hplain := Settings.plainWords_of_run hrun
  cases rendered_of_lex hlex with
  | done hlast => cases hread
  | comma hcommas => cases hcommas
  | @token before rest token tokens hbefore hwell hrest =>
    obtain ⟨c, tail, htext, hspace, -⟩ := Settings.token_head hwell (by
      rintro text rfl
      exact hplain text mem_cons_self)
    have hmem : c ∈ before ++ (token.text ++ rest) := by
      rw [htext]
      exact mem_append_right _ mem_cons_self
    have := all_eq_true.mp h c hmem
    rw [hspace] at this
    cases this

section
variable [Platform]

lemma lineAck_blank {line : List Char} (h : line.all isSpace = true) : lineAck line = none := by
  unfold lineAck parseAck
  split
  · rfl
  · simp only [ackLine, parse_blank h, ackMembers]

lemma takeLines_acks (lines : List (List Char)) :
    (takeLines false lines).1 = false ∧
      (takeLines false lines).2.filterMap lineAck =
        lines.filterMap lineAck := by
  induction lines with
  | nil => exact ⟨rfl, rfl⟩
  | cons line lines ih =>
    rw [takeLines, if_neg (by decide)]
    refine ⟨ih.1, ?_⟩
    dsimp only
    split
    · rename_i hblank
      rw [filterMap_cons_none (lineAck_blank hblank)]
      exact ih.2
    · rw [filterMap_cons, filterMap_cons, ih.2]

lemma lineAck_long {line : List Char} (h : WAKE_ACK_LINE_MAX_BYTES < byteLength line) :
    lineAck line = none := if_pos h

omit [Platform] in
/-- Text in front of a line's end belongs to the first line. -/
lemma linesOf_prefix {dropped : List Char} (h : '\n' ∉ dropped) (text : List Char) :
    (linesOf '\n' text).1 = [] ∧ linesOf '\n' (dropped ++ text) = ([], dropped ++ text) ∧
        (linesOf '\n' text).2 = text ∨
      ∃ line lines, (linesOf '\n' text).1 = line :: lines ∧
        linesOf '\n' (dropped ++ text) = ((dropped ++ line) :: lines, (linesOf '\n' text).2) := by
  by_cases hmem : '\n' ∈ text
  · obtain ⟨line, rest, rfl, hline⟩ := eq_append_cons_of_mem hmem
    have hboth : '\n' ∉ dropped ++ line := by
      rw [mem_append, not_or]
      exact ⟨h, hline⟩
    right
    refine ⟨line, (linesOf '\n' rest).1, by rw [linesOf_line hline], ?_⟩
    rw [← append_assoc, linesOf_line hboth, linesOf_line hline]
  · have hboth : '\n' ∉ dropped ++ text := by
      rw [mem_append, not_or]
      exact ⟨h, hmem⟩
    left
    rw [linesOf_none hmem, linesOf_none hboth]
    exact ⟨rfl, rfl, rfl⟩

/-- The reader holds the line that is incomplete, or has dropped the start of one past the
limit. -/
def HoldsLine (reader : StdinReader) (line : List Char) : Prop :=
  (reader.overflow = false ∧ reader.buffered = line) ∨
  (reader.overflow = true ∧ '\n' ∉ line ∧ (∃ dropped, line = dropped ++ reader.buffered) ∧
    WAKE_ACK_LINE_MAX_BYTES < byteLength line)

omit [Platform] in
/-- What is left of a chunk is held, whatever the flag said. -/
lemma holds_rest {overflow : Bool} {rest line : List Char} (dropped : List Char) (hrest : '\n' ∉ line)
    (hline : line = dropped ++ rest) (hover : overflow = false → dropped = [])
    (hlong : overflow = true → WAKE_ACK_LINE_MAX_BYTES < byteLength line) :
    HoldsLine (if byteLength rest > WAKE_ACK_LINE_MAX_BYTES then ⟨[], true⟩ else ⟨rest, overflow⟩)
      line := by
  split
  · rename_i hbytes
    refine .inr ⟨rfl, hrest, ⟨line, (append_nil line).symm⟩, ?_⟩
    rw [hline, byteLength_append]
    omega
  · cases overflow with
    | false =>
      rw [hover rfl, nil_append] at hline
      exact .inl ⟨rfl, hline.symm⟩
    | true => exact .inr ⟨rfl, hrest, ⟨dropped, hline⟩, hlong rfl⟩

omit [Platform] in
lemma onData_eq (reader : StdinReader) (chunk : List UInt8) :
    onData reader chunk =
      (if byteLength (linesOf '\n' (reader.buffered ++ chunkText chunk)).2 >
          WAKE_ACK_LINE_MAX_BYTES then ⟨[], true⟩
        else ⟨(linesOf '\n' (reader.buffered ++ chunkText chunk)).2,
          (takeLines reader.overflow (linesOf '\n' (reader.buffered ++ chunkText chunk)).1).1⟩,
        (takeLines reader.overflow (linesOf '\n' (reader.buffered ++ chunkText chunk)).1).2) := by
  unfold onData
  dsimp only
  split <;> rfl

lemma onData_holds {reader : StdinReader} {line : List Char} (h : HoldsLine reader line)
    (chunk : List UInt8) :
    HoldsLine (onData reader chunk).1 (linesOf '\n' (line ++ chunkText chunk)).2 ∧
      (onData reader chunk).2.filterMap lineAck =
        (linesOf '\n' (line ++ chunkText chunk)).1.filterMap lineAck := by
  rw [onData_eq]
  generalize chunkText chunk = text
  rcases h with ⟨hover, rfl⟩ | ⟨hover, hline, ⟨dropped, hdropped⟩, hlong⟩
  · rw [hover, (takeLines_acks _).1]
    exact ⟨holds_rest [] (linesOf_last _) (nil_append _).symm (fun _ => rfl) (fun h => by cases h),
      (takeLines_acks _).2⟩
  · have hbuffered : '\n' ∉ reader.buffered := by
      intro hmem
      rw [hdropped] at hline
      exact hline (mem_append_right _ hmem)
    rw [hover]
    rcases linesOf_prefix hline text with ⟨hnone, heq, -⟩ | ⟨first, lines, hsome, heq⟩
    · -- the line goes on
      have hkept : linesOf '\n' (reader.buffered ++ text) = ([], reader.buffered ++ text) := by
        rcases linesOf_prefix hbuffered text with ⟨-, h, -⟩ | ⟨first, lines, hsome, -⟩
        · exact h
        · rw [hnone] at hsome
          cases hsome
      have hlast : '\n' ∉ (linesOf '\n' (line ++ text)).2 := linesOf_last _
      rw [heq] at hlast ⊢
      rw [hkept]
      refine ⟨holds_rest dropped hlast ?_ (fun h => by cases h) (fun _ => ?_), rfl⟩
      · rw [hdropped, append_assoc]
      · rw [byteLength_append]
        exact Nat.lt_add_right _ hlong
    · -- it ends here, and says nothing
      have hkept : linesOf '\n' (reader.buffered ++ text) =
          ((reader.buffered ++ first) :: lines, (linesOf '\n' text).2) := by
        rcases linesOf_prefix hbuffered text with ⟨hnone, -⟩ | ⟨first', lines', hsome', h⟩
        · rw [hnone] at hsome
          cases hsome
        · rw [hsome] at hsome'
          cases hsome'
          exact h
      rw [heq, hkept, takeLines, if_pos rfl, (takeLines_acks lines).1]
      refine ⟨holds_rest [] (linesOf_last text) (nil_append _).symm (fun _ => rfl)
        (fun h => by cases h), ?_⟩
      have hfirst : lineAck (line ++ first) = none := by
        refine lineAck_long ?_
        rw [byteLength_append]
        exact Nat.lt_add_right _ hlong
      rw [filterMap_cons_none hfirst]
      exact (takeLines_acks lines).2

lemma run_holds {reader : StdinReader} {line : List Char} (h : HoldsLine reader line)
    (hline : '\n' ∉ line) (chunks : List (List UInt8)) :
    (Transducer.run onData reader chunks).2.filterMap lineAck =
      (linesOf '\n' (line ++ chunks.flatMap chunkText)).1.filterMap lineAck := by
  induction chunks generalizing reader line with
  | nil =>
    rw [flatMap_nil, append_nil, linesOf_none hline]
    rfl
  | cons chunk chunks ih =>
    obtain ⟨hnext, hacks⟩ := onData_holds h chunk
    rw [Transducer.run_cons, filterMap_append, hacks, ih hnext (linesOf_last _), flatMap_cons,
      ← append_assoc, linesOf_append (line ++ chunkText chunk), filterMap_append]

omit [Platform] in
lemma bytesOf_append (first second : List (Option UInt8)) :
    bytesOf (first ++ second) = bytesOf first ++ bytesOf second := filterMap_append

omit [Platform] in
lemma bytesOf_map_some (bytes : List UInt8) : bytesOf (bytes.map some) = bytes := by
  rw [bytesOf, filterMap_map]
  exact filterMap_some

omit [Platform] in
lemma bytesOf_events (chunks : List (List UInt8)) : bytesOf (events chunks) = chunks.flatten := by
  induction chunks with
  | nil => rfl
  | cons chunk chunks ih =>
    rw [events, flatMap_cons, bytesOf_append, bytesOf_append, bytesOf_map_some, flatten_cons, ← ih]
    exact congrArg (· ++ bytesOf (events chunks)) (append_nil chunk)

omit [Platform] in
/-- The lines of the bytes are the lines without their cuts. -/
lemma linesOf_uncut (events : List (Option UInt8)) :
    (linesOf (some 10) (uncut events)).1 = (linesOf (some 10) events).1.map uncut := by
  have hnone : ∀ {line : List (Option UInt8)}, some 10 ∉ line → some 10 ∉ uncut line := by
    intro line hline hmem
    obtain ⟨byte, hbyte, heq⟩ := mem_map.mp hmem
    cases heq
    obtain ⟨event, hevent, heq⟩ := mem_filterMap.mp hbyte
    cases event with
    | none => cases heq
    | some byte =>
      cases heq
      exact hline hevent
  induction events using linesOf_induction (some (10 : UInt8)) with
  | hlast events h => rw [linesOf_none h, linesOf_none (hnone h), map_nil]
  | hline line rest h ih =>
    have huncut : uncut (line ++ some 10 :: rest) = uncut line ++ some 10 :: uncut rest := by
      rw [uncut, bytesOf_append, bytesOf_some, map_append, map_cons]
      rfl
    rw [huncut, linesOf_line (hnone h), linesOf_line h, ih, map_cons]

omit [Platform] in
/-- In one chunk the lines have no cuts. -/
lemma inputLines_flatten (chunks : List (List UInt8)) :
    inputLines [chunks.flatten] = (inputLines chunks).map uncut := by
  have hevents : events [chunks.flatten] = uncut (events chunks) ++ [none] := by
    rw [uncut, bytesOf_events, events, flatMap_cons, flatMap_nil, append_nil]
  have hrest : ∀ rest : List (Option UInt8), some 10 ∉ rest →
      linesOf (some 10) (rest ++ [none]) = ([], rest ++ [none]) := by
    intro rest hrest
    refine linesOf_none ?_
    rw [mem_append, not_or]
    exact ⟨hrest, by decide⟩
  rw [inputLines, hevents, linesOf_append, hrest _ (linesOf_last _), append_nil, linesOf_uncut]
  rfl

/-- The acks are those of the stream's lines, each on its own. -/
theorem acks_eq (chunks : List (List UInt8)) :
    acks chunks = (inputLines chunks).filterMap ackOf := by
  have hstart : HoldsLine {} [] := .inl ⟨rfl, rfl⟩
  rw [acks, run_holds hstart not_mem_nil, nil_append, ← decodeCuts_events, linesOf_decodeCuts, filterMap_map]
  rfl

/-! ### Cuts and acks -/

omit [Platform] in
lemma ackMember_alike {value value' : Json} (h : Alike value value') :
    (∃ text text', value = .str text ∧ value' = .str text' ∧ TextAlike text text') ∨
      (ackMember value = ackMember value' ∧ ∀ text, ackMember value ≠ .text text) := by
  cases value <;> cases value' <;> first
    | exact h.elim
    | exact .inl ⟨_, _, rfl, rfl, h⟩
    | exact .inr ⟨rfl, fun text heq => by cases heq⟩
    | exact .inr ⟨congrArg AckMember.boolean h, fun text heq => by cases heq⟩

omit [Platform] in
lemma lookup_alike {fields fields' : List (String × Json)}
    (h : Forall₂ (fun field field' => field.1 = field'.1 ∧ Alike field.2 field'.2) fields fields')
    (name : String) : Option.Rel Alike (fields.lookup name) (fields'.lookup name) := by
  induction h with
  | nil => exact .none
  | @cons field field' rest rest' hfield _ ih =>
    obtain ⟨key, value⟩ := field
    obtain ⟨key', value'⟩ := field'
    obtain ⟨hkey, hvalue⟩ := hfield
    dsimp only at hkey hvalue
    subst hkey
    rw [lookup_cons, lookup_cons]
    split
    · exact .some hvalue
    · exact ih

/-- The ack of an object with so many members and these two among them. -/
def ackPair (length : ℕ) (wakeId accepted : Option AckMember) : Option (Uuid × Bool) :=
  match wakeId, accepted with
  | some (.text wakeId), some (.boolean accepted) =>
    if length ≠ 2 || !isRepresentativeUuid wakeId then none else some (wakeId, accepted)
  | _, _ => none

def memberAck (members : List (String × AckMember)) : Option (Uuid × Bool) :=
  ackPair members.length (members.lookup "wake_id") (members.lookup "accepted")

lemma lineAck_eq (line : List Char) : lineAck line =
    if byteLength line > WAKE_ACK_LINE_MAX_BYTES then none
    else (ackMembers (parse line)).bind memberAck := by
  unfold lineAck parseAck ackLine
  dsimp only
  split
  · rfl
  · cases ackMembers (parse line) with
    | none => rfl
    | some members =>
      change _ = ackPair _ _ _
      unfold ackPair
      rfl

omit [Platform] in
lemma mem_of_lookup {members : List (String × AckMember)} {name : String} {member : AckMember}
    (h : members.lookup name = some member) : (name, member) ∈ members := by
  obtain ⟨before, after, rfl, -⟩ := lookup_eq_some_iff.mp h
  exact mem_append_right _ mem_cons_self

/-- An ack has no key beyond ASCII: it has two keys. -/
lemma memberAck_beyond {members : List (String × AckMember)} {member : String × AckMember}
    (hmem : member ∈ members) (hbeyond : member.1.toList.all isAscii = false) :
    memberAck members = none := by
  unfold memberAck ackPair
  split
  · rename_i wakeId accepted hwake haccepted
    rw [if_pos]
    rw [Bool.or_eq_true, decide_eq_true_eq]
    left
    intro hlength
    obtain ⟨first, second, rfl⟩ := length_eq_two.mp hlength
    have hw := mem_of_lookup hwake
    have ha := mem_of_lookup haccepted
    simp only [mem_cons, not_mem_nil, or_false] at hmem hw ha
    have hnw : member.1 ≠ "wake_id" := by
      intro heq
      rw [heq] at hbeyond
      exact absurd hbeyond (by decide)
    have hna : member.1 ≠ "accepted" := by
      intro heq
      rw [heq] at hbeyond
      exact absurd hbeyond (by decide)
    rcases hmem with rfl | rfl
    · rcases hw with heq | heq
      · exact hnw (by rw [← heq])
      · rcases ha with heq' | heq'
        · exact hna (by rw [← heq'])
        · rw [← heq] at heq'
          exact absurd (congrArg Prod.fst heq') (by simp)
    · rcases hw with heq | heq
      · rcases ha with heq' | heq'
        · rw [← heq] at heq'
          exact absurd (congrArg Prod.fst heq') (by simp)
        · exact hna (by rw [← heq'])
      · exact hnw (by rw [← heq])
  · rfl

omit [Platform] in
lemma lookup_members (fields : List (String × Json)) (name : String) :
    (fields.map (fun field => (field.1, ackMember field.2))).lookup name =
      (fields.lookup name).map ackMember := by
  induction fields with
  | nil => rfl
  | cons field rest ih =>
    rw [map_cons, lookup_cons, lookup_cons, ih]
    split <;> rfl

lemma ackPair_none (length : ℕ) (wakeId : Option AckMember) : ackPair length wakeId none = none := by
  cases wakeId with
  | none => rfl
  | some wakeId => cases wakeId <;> rfl

lemma ackPair_not_boolean (length : ℕ) (wakeId : Option AckMember) {accepted : AckMember}
    (h : ∀ b, accepted ≠ .boolean b) : ackPair length wakeId (some accepted) = none := by
  cases accepted with
  | boolean b => exact absurd rfl (h b)
  | text value =>
    cases wakeId with
    | none => rfl
    | some wakeId => cases wakeId <;> rfl
  | other =>
    cases wakeId with
    | none => rfl
    | some wakeId => cases wakeId <;> rfl

/-- A UUID is alike to itself only. -/
lemma ackPair_alike (hascii : ∀ id, isRepresentativeUuid id = true → id.toList.all isAscii = true)
    (length : ℕ) {wakeId wakeId' accepted accepted' : Option Json}
    (hwake : Option.Rel Alike wakeId wakeId') (haccepted : Option.Rel Alike accepted accepted') :
    ackPair length (wakeId.map ackMember) (accepted.map ackMember) =
      ackPair length (wakeId'.map ackMember) (accepted'.map ackMember) := by
  cases haccepted with
  | none => rw [Option.map_none, ackPair_none, ackPair_none]
  | some haccepted =>
    rw [Option.map_some, Option.map_some]
    rcases ackMember_alike haccepted with ⟨text, text', rfl, rfl, -⟩ | ⟨heq, -⟩
    · rw [ackPair_not_boolean _ _ (fun b h => by cases h),
        ackPair_not_boolean _ _ (fun b h => by cases h)]
    rw [heq]
    cases hwake with
    | none => rfl
    | some hwake =>
      rcases ackMember_alike hwake with ⟨text, text', rfl, rfl, halike⟩ | ⟨heq', -⟩
      · rename_i value'
        cases ackMember value' with
        | text value => rfl
        | other => rfl
        | boolean b =>
          by_cases hsame : text = text'
          · rw [hsame]
          · have hid : isRepresentativeUuid text = false := by
              rw [← Bool.not_eq_true]
              exact fun h => hsame (halike.eq (hascii text h))
            have hid' : isRepresentativeUuid text' = false := by
              rw [← Bool.not_eq_true]
              exact fun h => hsame (halike.eq (halike.all.trans (hascii text' h)))
            simp [ackPair, ackMember, hid, hid']
      · rw [Option.map_some, Option.map_some, heq']

lemma memberAck_alike (hascii : ∀ id, isRepresentativeUuid id = true → id.toList.all isAscii = true)
    {fields fields' : List (String × Json)} (h : FieldsAlike fields fields') :
    memberAck (fields.map (fun field => (field.1, ackMember field.2))) =
      memberAck (fields'.map (fun field => (field.1, ackMember field.2))) := by
  rcases h with ⟨⟨field, hfield, hbeyond⟩, field', hfield', hbeyond'⟩ | h
  · rw [memberAck_beyond (mem_map_of_mem hfield) hbeyond,
      memberAck_beyond (mem_map_of_mem hfield') hbeyond']
  · rw [memberAck, memberAck, lookup_members, lookup_members, lookup_members, lookup_members,
      length_map, length_map, h.length_eq]
    exact ackPair_alike hascii _ (lookup_alike h "wake_id") (lookup_alike h "accepted")

/-- What a line says, its length apart, does not depend on the cuts in it. -/
lemma ack_uncut (hascii : ∀ id, isRepresentativeUuid id = true → id.toList.all isAscii = true)
    (line : List (Option UInt8)) :
    (ackMembers (parse (decodeCuts {} line))).bind memberAck =
      (ackMembers (parse (decodeCuts {} (uncut line)))).bind memberAck := by
  have hsame : ∀ {value value' : Option Json}, Option.Rel Same value value' →
      (ackMembers value).bind memberAck = (ackMembers value').bind memberAck := by
    intro value value' h
    cases h with
    | none => rfl
    | @some value value' h =>
      obtain ⟨halike, hfields⟩ := h
      cases value <;> cases value' <;> first
        | exact halike.elim
        | rfl
        | exact memberAck_alike hascii (hfields _ _ rfl rfl)
  have hcut := hsame (parse_outline (decodeCuts {} line))
  have hwhole := hsame (parse_outline (decodeCuts {} (uncut line)))
  rw [outline_uncut] at hcut
  rw [hcut, hwhole]

/-- A line as it is cut says what it says whole, unless the cuts make it too long. -/
lemma ackOf_cut (hascii : ∀ id, isRepresentativeUuid id = true → id.toList.all isAscii = true)
    (line : List (Option UInt8)) : ackOf line =
      if byteLength (decodeCuts {} line) ≤ WAKE_ACK_LINE_MAX_BYTES then ackOf (uncut line)
      else none := by
  have hle := (uncut_le_decodeCuts sound_idle line).1
  unfold ackOf
  rw [lineAck_eq, lineAck_eq, ack_uncut hascii line]
  split_ifs <;> first | rfl | omega

omit [Platform] in
/-- Where one reading drops values of another and changes none, the two agree iff none is
dropped. -/
lemma filterMap_eq_iff {α β : Type} {f g : α → Option β} {xs : List α}
    (h : ∀ x ∈ xs, f x = g x ∨ f x = none) :
    xs.filterMap f = xs.filterMap g ↔ ∀ x ∈ xs, (g x).isSome = true → (f x).isSome = true := by
  have hle : ∀ {xs : List α}, (∀ x ∈ xs, f x = g x ∨ f x = none) →
      (xs.filterMap f).length ≤ (xs.filterMap g).length := by
    intro xs h
    induction xs with
    | nil => exact le_refl _
    | cons x xs ih =>
      have hrest := ih (fun y hy => h y (mem_cons_of_mem x hy))
      rcases h x mem_cons_self with heq | hnone
      · rw [filterMap_cons, filterMap_cons, heq]
        cases g x with
        | none => exact hrest
        | some y => exact Nat.succ_le_succ hrest
      · rw [filterMap_cons_none hnone, filterMap_cons]
        cases g x with
        | none => exact hrest
        | some y => exact hrest.trans (Nat.le_succ _)
  induction xs with
  | nil => exact ⟨fun _ x hx => absurd hx not_mem_nil, fun _ => rfl⟩
  | cons x xs ih =>
    have hrest : ∀ y ∈ xs, f y = g y ∨ f y = none := fun y hy => h y (mem_cons_of_mem x hy)
    have hiff := ih hrest
    have hall : (∀ y ∈ x :: xs, (g y).isSome = true → (f y).isSome = true) ↔
        ((g x).isSome = true → (f x).isSome = true) ∧ xs.filterMap f = xs.filterMap g :=
      forall_mem_cons.trans (and_congr_right' hiff.symm)
    refine Iff.trans ?_ hall.symm
    rw [filterMap_cons, filterMap_cons]
    rcases h x mem_cons_self with heq | hnone
    · rw [heq]
      cases g x with
      | none => simp
      | some y => simp
    · rw [hnone]
      cases hg : g x with
      | none => simp
      | some y =>
        refine ⟨fun hlist => ?_, fun h => absurd (h.1 rfl) (by simp)⟩
        have hlength := congrArg List.length hlist
        have := hle hrest
        rw [length_cons] at hlength
        dsimp only at hlength
        omega

omit [Platform] in
/-- Between two chunks no more than the limit is retained. -/
lemma buffered_bounded (chunks : List (List UInt8)) :
    byteLength (Transducer.run onData {} chunks).1.buffered ≤ WAKE_ACK_LINE_MAX_BYTES := by
  induction chunks using reverseRecOn with
  | nil => exact Nat.zero_le _
  | append_singleton chunks chunk _ =>
    rw [Transducer.run_append]
    change byteLength (onData _ chunk).1.buffered ≤ _
    rw [onData_eq]
    dsimp only
    split
    · exact Nat.zero_le _
    · rename_i hbytes
      exact Nat.not_lt.mp hbytes

/-- The engine gets the same acks in chunks as in one, each line's on its own and none of a line
past the limit, and the buffer stays within the limit, iff no line that is an ack when it is whole
gets longer than the limit by the marks for the characters that the chunks cut. -/
theorem acks_framed_iff
    (hascii : ∀ id, isRepresentativeUuid id = true → id.toList.all isAscii = true)
    (chunks : List (List UInt8)) :
    (acks chunks = acks [chunks.flatten] ∧
      (acks chunks = (inputLines chunks).filterMap ackOf ∧
        ∀ line, WAKE_ACK_LINE_MAX_BYTES < (bytesOf line).length → ackOf line = none) ∧
      ∀ before, before <+: chunks →
        byteLength (Transducer.run onData {} before).1.buffered ≤ WAKE_ACK_LINE_MAX_BYTES) ↔
    ∀ line ∈ inputLines chunks, (ackOf (uncut line)).isSome = true →
      byteLength (decodeCuts {} line) ≤ WAKE_ACK_LINE_MAX_BYTES := by
  have hlong : ∀ line, WAKE_ACK_LINE_MAX_BYTES < (bytesOf line).length → ackOf line = none := by
    intro line hline
    have hle := length_le_decodeCuts sound_idle line
    exact lineAck_long (by omega)
  have hwhole : acks [chunks.flatten] =
      (inputLines chunks).filterMap (fun line => ackOf (uncut line)) := by
    rw [acks_eq, inputLines_flatten, filterMap_map]
    rfl
  have hcut : ∀ line ∈ inputLines chunks, ackOf line = ackOf (uncut line) ∨ ackOf line = none := by
    intro line _
    rw [ackOf_cut hascii]
    split
    · exact .inl rfl
    · exact .inr rfl
  have hsame : acks chunks = acks [chunks.flatten] ↔
      ∀ line ∈ inputLines chunks, (ackOf (uncut line)).isSome = true →
        byteLength (decodeCuts {} line) ≤ WAKE_ACK_LINE_MAX_BYTES := by
    rw [acks_eq, hwhole, filterMap_eq_iff hcut]
    refine forall₂_congr (fun line _ => imp_congr_right (fun hsome => ?_))
    rw [ackOf_cut hascii]
    split
    · rename_i hle
      exact ⟨fun _ => hle, fun _ => hsome⟩
    · rename_i hle
      exact ⟨(fun h => by cases h), fun h => absurd h hle⟩
  rw [← hsame]
  exact ⟨fun h => h.1, fun h => ⟨h, ⟨acks_eq chunks, hlong⟩, fun before _ =>
    buffered_bounded before⟩⟩

end

/-! ### A character cut in two -/

/-- A UUID is 36 characters of ASCII. -/
@[reducible] def uuidPlatform : Platform where
  sha256 := fun parts => ",".intercalate parts
  isRepresentativeUuid := fun id => id.length == 36 && id.toList.all isAscii

lemma uuidPlatform_ascii (id : String) (h : uuidPlatform.isRepresentativeUuid id = true) :
    id.toList.all isAscii = true :=
  ((Bool.and_eq_true _ _).mp h).2

def asciiBytes (text : String) : List UInt8 := text.toList.map (fun c => UInt8.ofNat c.toNat)

/-- An ack of 84 bytes whose first value, written over by a later one, is an emoji. -/
def emojiAck : List (Option UInt8) :=
  (asciiBytes "\x7b\"accepted\":\"").map some ++ some 0xf0 :: none :: some 0x9f :: some 0x98 ::
    some 0x80 :: (asciiBytes
      "\",\"wake_id\":\"11111111-2222-4333-8444-555555555555\",\"accepted\":true\x7d").map some

/-- The ack behind 940 blanks, in two chunks. -/
def cutChunks : List (List UInt8) :=
  [replicate 940 32 ++ asciiBytes "\x7b\"accepted\":\"" ++ [0xf0],
    [0x9f, 0x98, 0x80] ++ asciiBytes
      "\",\"wake_id\":\"11111111-2222-4333-8444-555555555555\",\"accepted\":true\x7d" ++ [10]]

lemma inputLines_cutChunks : inputLines cutChunks = [replicate 940 (some 32) ++ emojiAck] := by
  have hevents : events cutChunks =
      (replicate 940 (some 32) ++ emojiAck) ++ some 10 :: [none] := by
    simp only [events, cutChunks, emojiAck, flatMap_cons, flatMap_nil, map_append, map_replicate,
      map_cons, map_nil, append_assoc, cons_append, nil_append, append_nil]
  have hline : some 10 ∉ replicate 940 (some (32 : UInt8)) ++ emojiAck := by
    rw [mem_append, not_or]
    refine ⟨fun h => absurd (eq_of_mem_replicate h) (by decide), ?_⟩
    decide +kernel
  rw [inputLines, hevents, linesOf_line hline]
  rfl

lemma decodeCuts_blanks (count : ℕ) (rest : List (Option UInt8)) :
    decodeCuts {} (replicate count (some 32) ++ rest) =
      replicate count ' ' ++ decodeCuts {} rest := by
  induction count with
  | zero => rfl
  | succ count ih =>
    rw [replicate_succ, replicate_succ, cons_append, cons_append, ← ih]
    rfl

lemma byteLength_blanks (count : ℕ) (text : List Char) :
    byteLength (replicate count ' ' ++ text) = count + byteLength text := by
  rw [byteLength_append]
  congr 1
  induction count with
  | zero => rfl
  | succ count ih =>
    rw [replicate_succ, byteLength_cons, ih]
    have hsize : ' '.utf8Size = 1 := by decide
    omega

lemma parse_blanks (count : ℕ) (text : List Char) :
    parse (replicate count ' ' ++ text) = parse text := by
  have hwhite : White (replicate count ' ') := by
    intro c hc
    rw [eq_of_mem_replicate hc]
    rfl
  rw [parse, lex_white hwhite, parse]

section
attribute [local instance] uuidPlatform

/-- An ack of 1024 bytes is accepted in one chunk and lost in two. -/
theorem cut_ack_lost : acks cutChunks = [] ∧
    acks [cutChunks.flatten] = [("11111111-2222-4333-8444-555555555555", true)] := by
  have huncut : uncut (replicate 940 (some 32) ++ emojiAck) =
      replicate 940 (some 32) ++ uncut emojiAck := by
    rw [uncut, bytesOf_append, ← map_replicate, bytesOf_map_some, map_append]
    rfl
  have hcut : ackOf (replicate 940 (some 32) ++ emojiAck) = none := by
    refine lineAck_long ?_
    rw [decodeCuts_blanks, byteLength_blanks]
    decide +kernel
  have hwhole : ackOf (uncut (replicate 940 (some 32) ++ emojiAck)) =
      some ("11111111-2222-4333-8444-555555555555", true) := by
    rw [huncut, ackOf, lineAck_eq, decodeCuts_blanks, byteLength_blanks, parse_blanks]
    decide +kernel
  constructor
  · rw [acks_eq, inputLines_cutChunks, filterMap_cons_none hcut, filterMap_nil]
  · rw [acks_eq, inputLines_flatten, inputLines_cutChunks, map_cons, map_nil, filterMap_cons,
      hwhole, filterMap_nil]

/-- An ASCII ack cut in its key. -/
theorem acks_framed_iff_ascii :
    acks [asciiBytes "\x7b\"wake", asciiBytes
        "_id\":\"11111111-2222-4333-8444-555555555555\",\"accepted\":true\x7d\n"] =
      acks [[asciiBytes "\x7b\"wake", asciiBytes
        "_id\":\"11111111-2222-4333-8444-555555555555\",\"accepted\":true\x7d\n"].flatten] := by
  have hshort : ∀ line ∈ inputLines [asciiBytes "\x7b\"wake", asciiBytes
      "_id\":\"11111111-2222-4333-8444-555555555555\",\"accepted\":true\x7d\n"],
      byteLength (decodeCuts {} line) ≤ WAKE_ACK_LINE_MAX_BYTES := by
    decide +kernel
  exact ((acks_framed_iff uuidPlatform_ascii _).mpr (fun line hline _ => hshort line hline)).1

end

end BorgClient.Representative
