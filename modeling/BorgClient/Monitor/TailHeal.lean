import BorgClient.Lib.Runs

/-!
# Self-healing of a hung tail

`inbox-monitor.ts`: the delivery offset, the stall evaluator and the watchdog tick, over an inbox of
lines with byte sizes. A respawned tail reads the file from the byte after the offset.
-/

namespace BorgClient.Monitor
open Runs List

def MONITOR_TICK_MS : ℤ := 30000
def STALL_THRESHOLD_MS : ℤ := 5 * MONITOR_TICK_MS

/-- A line of the inbox: the number of its append, and its bytes with the line break. -/
structure InboxLine where
  id : ℕ
  bytes : ℕ
  pos : 0 < bytes
deriving DecidableEq, Repr

/-- `statSync(inboxPath).size` -/
def sizeOf : List InboxLine → ℕ
  | [] => 0
  | line :: file => line.bytes + sizeOf file

@[simp] lemma sizeOf_append (a b : List InboxLine) : sizeOf (a ++ b) = sizeOf a + sizeOf b := by
  induction a with
  | nil => simp [sizeOf]
  | cons line a ih => simp [sizeOf, ih, Nat.add_assoc]

/-- The whole lines that `tail -c +(offset + 1)` prints: a line the offset falls into comes out
without its beginning. -/
def readFrom : ℕ → List InboxLine → List InboxLine
  | _, [] => []
  | offset, line :: file =>
    if offset = 0 then line :: file
    else if line.bytes ≤ offset then readFrom (offset - line.bytes) file
    else file

/-! ### The stall evaluator -/

structure TailStallState where
  lastEmittedOffset : ℕ
  grewSince : Option ℤ
deriving DecidableEq, Repr

inductive TailStallVerdict
  | ok (state : TailStallState)
  | rotation (state : TailStallState)
  | respawn (state : TailStallState)
deriving DecidableEq, Repr

def evaluateInboxTailStall (inboxSize : ℕ) (state : TailStallState) (now threshold : ℤ) :
    TailStallVerdict :=
  if inboxSize < state.lastEmittedOffset then .rotation ⟨inboxSize, none⟩
  else if inboxSize = state.lastEmittedOffset then .ok ⟨state.lastEmittedOffset, none⟩
  else
    let grewSince := state.grewSince.getD now
    let next : TailStallState := ⟨state.lastEmittedOffset, some grewSince⟩
    if now - grewSince ≥ threshold then .respawn next else .ok next

/-! ### The monitor -/

/-- The inbox, the monitor's stall state, the lines appended since it was armed and those a tail has
delivered; `reread` is what the last respawned tail finds, with what had not been delivered then. -/
structure MonitorWorld where
  file : List InboxLine
  stall : TailStallState
  appended : List InboxLine
  delivered : List InboxLine
  reread : Option (List InboxLine × List InboxLine)

inductive MonitorStep
  | append (line : InboxLine)
  /-- The file is replaced by its last lines. -/
  | trim (dropped : ℕ)
  /-- The tail child hands a line over; `anchors` when the monitor counts it as a delivery: an entry
  line that the arm does not filter. -/
  | deliver (line : InboxLine) (anchors : Bool)
  | tick (now : ℤ)

namespace MonitorWorld

/-- The monitor is armed on a file. -/
def arm (file : List InboxLine) : MonitorWorld where
  file := file
  stall := ⟨sizeOf file, none⟩
  appended := []
  delivered := []
  reread := none

/-- Appended since the arm, and handed over by no tail. -/
def undelivered (w : MonitorWorld) : List InboxLine :=
  w.appended.filter (fun line => line ∉ w.delivered)

def markDelivered (w : MonitorWorld) : MonitorWorld := { w with stall := ⟨sizeOf w.file, none⟩ }

/-- The watchdog tick. -/
def tick (w : MonitorWorld) (now : ℤ) : MonitorWorld :=
  match evaluateInboxTailStall (sizeOf w.file) w.stall now STALL_THRESHOLD_MS with
  | .ok state | .rotation state => { w with stall := state }
  | .respawn state =>
    { w with
      stall := ⟨state.lastEmittedOffset, none⟩
      reread := some (readFrom state.lastEmittedOffset w.file, w.undelivered) }

end MonitorWorld

def monitorStep (w : MonitorWorld) : MonitorStep → MonitorWorld
  | .append line => { w with file := w.file ++ [line], appended := w.appended ++ [line] }
  | .trim dropped => { w with file := w.file.drop dropped }
  | .deliver line anchors =>
    let w := { w with delivered := w.delivered ++ [line] }
    if anchors then w.markDelivered else w
  | .tick now => w.tick now

namespace MonitorWorld

variable {w : MonitorWorld} {line : InboxLine}

/-! ### Reading from an offset -/

lemma readFrom_cons_append {offset : ℕ} {before rest : List InboxLine}
    (h : offset ≤ sizeOf before) (line : InboxLine) :
    line ∈ readFrom offset (before ++ line :: rest) := by
  induction before generalizing offset with
  | nil =>
    obtain rfl : offset = 0 := by simpa [sizeOf] using h
    simp [readFrom]
  | cons first before ih =>
    rw [cons_append]
    unfold readFrom
    split
    · simp
    · split
      · refine ih ?_
        unfold sizeOf at h
        omega
      · simp

/-- The line begins at or after the offset. -/
def BeginsAfter (offset : ℕ) (file : List InboxLine) (line : InboxLine) : Prop :=
  ∃ before rest, file = before ++ line :: rest ∧ offset ≤ sizeOf before

lemma BeginsAfter.mem_readFrom {offset : ℕ} {file : List InboxLine}
    (h : BeginsAfter offset file line) : line ∈ readFrom offset file := by
  obtain ⟨before, rest, rfl, hle⟩ := h
  exact readFrom_cons_append hle line

/-! ### Steps that lose nothing -/

/-- Every line but the one handed over has been delivered when a delivery moves the offset, and
every line when the file is trimmed or a tick finds it shrunk; nothing is appended between a trim
and the step that moves the offset back. -/
def CaughtUp (w : MonitorWorld) : MonitorStep → Prop
  | .append _ => w.stall.lastEmittedOffset ≤ sizeOf w.file
  | .trim _ => w.undelivered = []
  | .deliver line anchors => anchors = true → ∀ other ∈ w.undelivered, other = line
  | .tick _ => sizeOf w.file < w.stall.lastEmittedOffset → w.undelivered = []

/-- Every undelivered line begins at or after the offset. -/
def Ahead (w : MonitorWorld) : Prop :=
  ∀ line ∈ w.undelivered, BeginsAfter w.stall.lastEmittedOffset w.file line

/-- The last respawned tail finds every line that had not been delivered. -/
def RereadOk (w : MonitorWorld) : Prop :=
  ∀ found missed, w.reread = some (found, missed) → ∀ line ∈ missed, line ∈ found

lemma ahead_of_nil (h : w.undelivered = []) : Ahead w := by
  intro line hline
  rw [h] at hline
  cases hline

lemma mem_undelivered : line ∈ w.undelivered ↔ line ∈ w.appended ∧ line ∉ w.delivered := by
  simp [undelivered]

lemma Ahead.append (h : Ahead w) (hle : w.stall.lastEmittedOffset ≤ sizeOf w.file)
    (line : InboxLine) : Ahead (monitorStep w (.append line)) := by
  intro other hother
  obtain ⟨happ, hdel⟩ := mem_undelivered.mp hother
  rcases mem_append.mp happ with hold | hnew
  · obtain ⟨before, rest, hfile, hoff⟩ := h other (mem_undelivered.mpr ⟨hold, hdel⟩)
    refine ⟨before, rest ++ [line], ?_, hoff⟩
    show w.file ++ [line] = _
    rw [hfile, append_assoc, cons_append]
  · rw [mem_singleton] at hnew
    subst hnew
    exact ⟨w.file, [], rfl, hle⟩

lemma Ahead.deliver (h : Ahead w) {anchors : Bool}
    (hc : anchors = true → ∀ other ∈ w.undelivered, other = line) :
    Ahead (monitorStep w (.deliver line anchors)) := by
  have hsub : ∀ other, other ∈ w.appended → other ∉ w.delivered ++ [line] →
      other ∈ w.undelivered ∧ other ≠ line := by
    intro other happ hdel
    rw [mem_append, not_or, mem_singleton] at hdel
    exact ⟨mem_undelivered.mpr ⟨happ, hdel.1⟩, hdel.2⟩
  cases anchors with
  | true =>
    refine ahead_of_nil (eq_nil_iff_forall_not_mem.mpr (fun other hother => ?_))
    obtain ⟨happ, hdel⟩ := mem_undelivered.mp hother
    obtain ⟨hmem, hne⟩ := hsub other happ hdel
    exact hne (hc rfl other hmem)
  | false =>
    intro other hother
    obtain ⟨happ, hdel⟩ := mem_undelivered.mp hother
    exact h other (hsub other happ hdel).1

/-- What a tick does to the offset and to what the respawned tail finds. -/
lemma tick_cases (w : MonitorWorld) (now : ℤ) :
    ((w.tick now).stall.lastEmittedOffset = w.stall.lastEmittedOffset ∨
      sizeOf w.file < w.stall.lastEmittedOffset) ∧
    ((w.tick now).reread = w.reread ∨
      (w.tick now).reread = some (readFrom w.stall.lastEmittedOffset w.file, w.undelivered)) ∧
    (w.tick now).file = w.file ∧ (w.tick now).undelivered = w.undelivered := by
  unfold tick evaluateInboxTailStall
  split_ifs with hlt heq
  · exact ⟨Or.inr hlt, Or.inl rfl, rfl, rfl⟩
  · exact ⟨Or.inl rfl, Or.inl rfl, rfl, rfl⟩
  · dsimp only
    split_ifs
    · exact ⟨Or.inl rfl, Or.inr rfl, rfl, rfl⟩
    · exact ⟨Or.inl rfl, Or.inl rfl, rfl, rfl⟩

structure HealOk (w : MonitorWorld) : Prop where
  ahead : Ahead w
  reread : RereadOk w

lemma HealOk.step (h : HealOk w) (l : MonitorStep) (hc : w.CaughtUp l) :
    HealOk (monitorStep w l) := by
  cases l with
  | append line => exact ⟨h.ahead.append hc line, h.reread⟩
  | trim dropped => exact ⟨ahead_of_nil hc, h.reread⟩
  | deliver line anchors =>
    refine ⟨h.ahead.deliver hc, ?_⟩
    cases anchors <;> exact h.reread
  | tick now =>
    obtain ⟨hoff, hre, hfile, hund⟩ := tick_cases w now
    refine ⟨?_, fun found missed hr => ?_⟩
    · rcases hoff with hoff | hlt
      · intro line hline
        show BeginsAfter (w.tick now).stall.lastEmittedOffset (w.tick now).file line
        rw [hoff, hfile]
        exact h.ahead line (hund ▸ hline)
      · exact ahead_of_nil (hund.trans (hc hlt))
    · rcases hre with hre | hre
      · exact h.reread found missed (hre ▸ hr)
      · have hpair : (readFrom w.stall.lastEmittedOffset w.file, w.undelivered) = (found, missed) :=
          Option.some.inj (hre.symm.trans hr)
        cases hpair
        exact fun line hline => (h.ahead line hline).mem_readFrom

/-- While the tail has caught up whenever the offset moves or the file is trimmed, every respawned
tail finds all the lines appended since the arm that no tail had delivered. -/
theorem respawn_rereads (file : List InboxLine) (ls : List MonitorStep)
    (hc : Meets monitorStep CaughtUp (arm file) ls) : RereadOk (run monitorStep (arm file) ls) := by
  have hstart : HealOk (arm file) :=
    ⟨ahead_of_nil rfl, fun found missed h => by cases h⟩
  exact (invariant_of_meets monitorStep HealOk (fun _ l h hl => h.step l hl) hstart hc).reread

/-! ### A delivery that overtakes a line -/

def inboxLine (id : ℕ) : InboxLine := ⟨id, 10, by omega⟩

/-- Two lines are appended, the tail delivers the first and hangs; a third line keeps the file
growing until the respawn. -/
def overtakenRun : List MonitorStep :=
  [.append (inboxLine 1), .append (inboxLine 2), .deliver (inboxLine 1) true,
    .append (inboxLine 3), .tick 0, .tick 150000]

/-- The respawned tail starts after the second line, which nobody delivered. -/
theorem respawn_skips_overtaken : ¬ RereadOk (run monitorStep (arm []) overtakenRun) := by
  intro h
  have hre : (run monitorStep (arm []) overtakenRun).reread =
      some ([inboxLine 3], [inboxLine 2, inboxLine 3]) := by
    decide
  have hfound := h _ _ hre (inboxLine 2) (by decide)
  revert hfound
  decide

/-- The same lines, the second one appended after the delivery. -/
theorem respawn_rereads_two :
    RereadOk (run monitorStep (arm [])
      [.append (inboxLine 1), .deliver (inboxLine 1) true, .append (inboxLine 2), .tick 0,
        .tick 150000]) := by
  refine respawn_rereads [] _ ⟨?_, fun _ => ?_, ?_, fun h => ?_, fun h => ?_, trivial⟩
  · change _ ≤ _
    decide
  · decide
  · change _ ≤ _
    decide
  · exact absurd h (by decide)
  · exact absurd h (by decide)

end MonitorWorld

end BorgClient.Monitor
