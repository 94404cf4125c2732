import BorgClient.Lib.Exclusion
import BorgClient.Monitor.InboxLock

/-!
# The inbox has one monitor

Whoever is inside the mutation lock finds the pidfile as it read it, and removes only the text of
a process that is gone or was found wedged. So of the live monitors that claimed an inbox the
pidfile names the only one that was not.
-/

namespace BorgClient.Monitor
open Runs Exclusion

/-! ### One monitor moves -/

namespace LockWorld

variable {w w' : LockWorld} {i j : ℕ} {p q : MonitorProcess} {phase : MonitorPhase}

lemma Doomed.mono {raw : PidfileText} (h : w.Doomed raw)
    (hlive : ∀ j, (∃ p, w'.Live j p) → ∃ p, w.Live j p)
    (hreaped : ∀ j, w.WasReaped j → w'.WasReaped j) : w'.Doomed raw :=
  fun pid j hraw hl => hreaped j (h pid j hraw (hlive j hl))

/-- What the move of a process does to the files the others rely on. -/
structure Moved (w w' : LockWorld) (i : ℕ) (p : MonitorProcess) (phase : MonitorPhase) :
    Prop where
  alive : w'.alive = w.alive
  procs : w'.procs = Function.update w.procs i (some { p with phase := phase })
  spawned : w'.spawned = w.spawned
  mutation : w'.mutation = w.mutation ∨ w.mutation = none ∨ w.mutation = some i
  pidfile : w'.pidfile = w.pidfile ∨ w.mutation = some i ∧
    (w.pidfile = none ∧ w'.pidfile = some (.holder p.pid i) ∨
      w'.pidfile = none ∧ ∀ raw, w.pidfile = some raw → w.Doomed raw ∨ raw = .holder p.pid i)
  reaped : ∀ j, w.WasReaped j → w'.WasReaped j

namespace Moved

lemma live (h : Moved w w' i p phase) (hp : w.Live i p) {j : ℕ} {q : MonitorProcess}
    (hq : w'.Live j q) : (j = i ∧ q = { p with phase := phase }) ∨ (j ≠ i ∧ w.Live j q) := by
  obtain ⟨hproc, halive⟩ := hq
  rw [h.procs] at hproc
  rw [h.alive] at halive
  by_cases hji : j = i
  · subst hji
    rw [Function.update_self] at hproc
    exact Or.inl ⟨rfl, (Option.some.inj hproc).symm⟩
  · rw [Function.update_of_ne hji] at hproc
    exact Or.inr ⟨hji, hproc, halive⟩

lemma live_before (h : Moved w w' i p phase) (hp : w.Live i p) (j : ℕ)
    (hj : ∃ q, w'.Live j q) : ∃ q, w.Live j q := by
  obtain ⟨q, hq⟩ := hj
  rcases h.live hp hq with ⟨rfl, _⟩ | ⟨_, hold⟩
  · exact ⟨p, hp⟩
  · exact ⟨q, hold⟩

/-- The others keep what their phases know. -/
lemma others (h : Moved w w' i p phase) (hp : w.Live i p) (hsafe : w.LockSafe) (hji : j ≠ i)
    (hq : w.Live j q) : w'.PhaseOk j q := by
  have hok := hsafe.phases j q hq
  -- inside the mutation lock nobody else touches a file
  have hquiet : q.phase.inMutation = true → w'.mutation = some j ∧ w'.pidfile = w.pidfile := by
    intro hin
    have hmut := hok.mutation hin
    have hnot : w.mutation ≠ some i := by
      rw [hmut]
      exact fun heq => hji (Option.some.inj heq)
    constructor
    · rcases h.mutation with heq | hnone | hself
      · rw [heq, hmut]
      · rw [hmut] at hnone
        cases hnone
      · exact absurd hself hnot
    · exact h.pidfile.resolve_right (fun hwrite => hnot hwrite.1)
  refine ⟨fun hin => (hquiet hin).1, ?_, ?_, ?_, ?_⟩
  · intro hclaimed hnot
    have hold := hok.claimed hclaimed (fun hr => hnot (h.reaped j hr))
    rcases h.pidfile with heq | ⟨_, ⟨hnone, _⟩ | ⟨_, hgone⟩⟩
    · rw [heq, hold]
    · rw [hold] at hnone
      cases hnone
    · rcases hgone _ hold with hdoom | hown
      · exact absurd (h.reaped j (hdoom q.pid j rfl ⟨q, hq⟩)) hnot
      · exact absurd (PidfileText.holder.inj hown).2 hji
  · intro raw hr
    rw [(hquiet (MonitorPhase.inMutation_of_raw hr)).2]
    exact hok.raw raw hr
  · intro raw hr
    exact (hok.doomed raw hr).mono (h.live_before hp) h.reaped
  · intro hown
    rw [(hquiet (by rw [hown]; rfl)).2]
    exact hok.own hown

/-- A move keeps the world safe if the mover knows what its new phase says. -/
lemma safe (h : Moved w w' i p phase) (hp : w.Live i p) (hsafe : w.LockSafe)
    (hself : w'.PhaseOk i { p with phase := phase })
    (hstale : ∀ r ∈ w'.reaped, HEARTBEAT_STALE_MS ≤ r.now - r.mtime) : w'.LockSafe where
  phases := by
    intro j q hq
    rcases h.live hp hq with ⟨rfl, rfl⟩ | ⟨hji, hold⟩
    · exact hself
    · exact h.others hp hsafe hji hold
  named := by
    have hpids : ∀ j q, w'.procs j = some q → ∃ q', w.procs j = some q' ∧ q'.pid = q.pid := by
      intro j q hq
      rw [h.procs] at hq
      by_cases hji : j = i
      · subst hji
        rw [Function.update_self] at hq
        rw [← Option.some.inj hq]
        exact ⟨p, hp.1, rfl⟩
      · rw [Function.update_of_ne hji] at hq
        exact ⟨q, hq, rfl⟩
    intro pid j hpid
    rw [h.spawned]
    rcases h.pidfile with heq | ⟨_, ⟨_, hown⟩ | ⟨hnone, _⟩⟩
    · rw [heq] at hpid
      obtain ⟨hlt, hall⟩ := hsafe.named pid j hpid
      refine ⟨hlt, fun q hq => ?_⟩
      obtain ⟨q', hq', hsame⟩ := hpids j q hq
      exact hsame ▸ hall q' hq'
    · rw [hown] at hpid
      obtain ⟨rfl, rfl⟩ := PidfileText.holder.inj (Option.some.inj hpid)
      refine ⟨?_, fun q hq => ?_⟩
      · by_contra hge
        have hnone := hsafe.started i (not_lt.mp hge)
        rw [hp.1] at hnone
        cases hnone
      · obtain ⟨q', hq', hsame⟩ := hpids i q hq
        obtain rfl : p = q' := Option.some.inj (hp.1.symm.trans hq')
        exact hsame.symm
    · rw [hnone] at hpid
      cases hpid
  started := by
    intro j hj
    rw [h.spawned] at hj
    have hne : j ≠ i := by
      rintro rfl
      have hnone := hsafe.started j hj
      rw [hp.1] at hnone
      cases hnone
    rw [h.procs, Function.update_of_ne hne]
    exact hsafe.started j hj
  stale := hstale

end Moved

/-- A phase that says nothing about texts. -/
def Plain (phase : MonitorPhase) : Prop :=
  phase.raw = none ∧ phase.doomed = none ∧ phase ≠ .unlinkOwn

namespace LockSafe

/-- The files stay as they are. -/
lemma goto (h : w.LockSafe) (hp : w.Live i p)
    (hmut : phase.inMutation = true → p.phase.inMutation = true)
    (hclaimed : phase.claimed = true → p.phase.claimed = true)
    (hraw : ∀ raw, phase.raw = some raw → w.pidfile = some raw)
    (hdoomed : ∀ raw, phase.doomed = some raw → w.Doomed raw)
    (hown : phase = .unlinkOwn → w.pidfile = some (.holder p.pid i)) :
    (w.goto i p phase).LockSafe := by
  have hmoved : Moved w (w.goto i p phase) i p phase :=
    ⟨rfl, rfl, rfl, Or.inl rfl, Or.inl rfl, fun _ hr => hr⟩
  have hok := h.phases i p hp
  refine hmoved.safe hp h ⟨fun hin => hok.mutation (hmut hin), ?_, hraw, ?_, hown⟩ h.stale
  · exact fun hc hr => hok.claimed (hclaimed hc) hr
  · exact fun raw hr => (hdoomed raw hr).mono (hmoved.live_before hp) (fun _ hr => hr)

lemma goto_plain (h : w.LockSafe) (hp : w.Live i p) (hplain : Plain phase)
    (hmut : phase.inMutation = true → p.phase.inMutation = true)
    (hclaimed : phase.claimed = true → p.phase.claimed = true) :
    (w.goto i p phase).LockSafe := by
  obtain ⟨hraw, hdoomed, hown⟩ := hplain
  refine h.goto hp hmut hclaimed ?_ ?_ (fun heq => absurd heq hown)
  · intro raw hr
    rw [hraw] at hr
    cases hr
  · intro raw hr
    rw [hdoomed] at hr
    cases hr

/-- The free mutation lock is taken. -/
lemma lock (h : w.LockSafe) (hp : w.Live i p) (hfree : w.mutation = none) (hplain : Plain phase)
    (hclaimed : phase.claimed = true → p.phase.claimed = true) :
    ({ w with mutation := some i }.goto i p phase).LockSafe := by
  obtain ⟨hraw, hdoomed, hown⟩ := hplain
  have hmoved : Moved w ({ w with mutation := some i }.goto i p phase) i p phase :=
    ⟨rfl, rfl, rfl, Or.inr (Or.inl hfree), Or.inl rfl, fun _ hr => hr⟩
  refine hmoved.safe hp h ⟨fun _ => rfl, ?_, ?_, ?_, fun heq => absurd heq hown⟩ h.stale
  · exact fun hc hr => (h.phases i p hp).claimed (hclaimed hc) hr
  · intro raw hr
    rw [show phase.raw = none from hraw] at hr
    cases hr
  · intro raw hr
    rw [show phase.doomed = none from hdoomed] at hr
    cases hr

/-- The mutation lock is released. -/
lemma unlock (h : w.LockSafe) (hp : w.Live i p) {after : AfterMutation}
    (hphase : p.phase = .unlinkMutation after) :
    ({ w with mutation := none }.goto i p after.phase).LockSafe := by
  have hok := h.phases i p hp
  have hmoved : Moved w ({ w with mutation := none }.goto i p after.phase) i p after.phase :=
    ⟨rfl, rfl, rfl, Or.inr (Or.inr (hok.mutation (by rw [hphase]; rfl))), Or.inl rfl,
      fun _ hr => hr⟩
  refine hmoved.safe hp h ⟨?_, ?_, ?_, ?_, ?_⟩ h.stale
  · cases after <;> exact fun hin => by cases hin
  · intro hc hr
    refine hok.claimed ?_ hr
    rw [hphase]
    cases after with
    | exit => cases hc
    | arm => rfl
    | releasePidfile => rfl
  · cases after <;> exact fun raw hr => by cases hr
  · cases after <;> exact fun raw hr => by cases hr
  · cases after <;> exact fun heq => by cases heq

/-- The pidfile is linked where there was none. -/
lemma link (h : w.LockSafe) (hp : w.Live i p) (hin : p.phase.inMutation = true)
    (hnone : w.pidfile = none) :
    ({ w with pidfile := some (.holder p.pid i) }.goto i p .legacyAfter).LockSafe := by
  have hmut := (h.phases i p hp).mutation hin
  have hmoved : Moved w ({ w with pidfile := some (.holder p.pid i) }.goto i p .legacyAfter) i p
      .legacyAfter :=
    ⟨rfl, rfl, rfl, Or.inl rfl, Or.inr ⟨hmut, Or.inl ⟨hnone, rfl⟩⟩, fun _ hr => hr⟩
  exact hmoved.safe hp h ⟨fun _ => hmut, fun _ _ => rfl, fun raw hr => (by cases hr),
    fun raw hr => (by cases hr), fun heq => (by cases heq)⟩ h.stale

/-- The pidfile is removed, which named nobody, or the mover. -/
lemma remove (h : w.LockSafe) (hp : w.Live i p) (hin : p.phase.inMutation = true)
    (hgone : ∀ raw, w.pidfile = some raw → w.Doomed raw ∨ raw = .holder p.pid i)
    (hplain : Plain phase) (hnot : phase.claimed = false) :
    ({ w with pidfile := none }.goto i p phase).LockSafe := by
  obtain ⟨hraw, hdoomed, hown⟩ := hplain
  have hmut := (h.phases i p hp).mutation hin
  have hmoved : Moved w ({ w with pidfile := none }.goto i p phase) i p phase :=
    ⟨rfl, rfl, rfl, Or.inl rfl, Or.inr ⟨hmut, Or.inr ⟨rfl, hgone⟩⟩, fun _ hr => hr⟩
  refine hmoved.safe hp h ⟨fun _ => hmut, ?_, ?_, ?_, fun heq => absurd heq hown⟩ h.stale
  · intro hc
    rw [show phase.claimed = false from hnot] at hc
    cases hc
  · intro raw hr
    rw [show phase.raw = none from hraw] at hr
    cases hr
  · intro raw hr
    rw [show phase.doomed = none from hdoomed] at hr
    cases hr

/-- The sidecar is nobody's evidence. -/
lemma heartbeat (h : w.LockSafe) (heartbeat : Option Heartbeat) :
    ({ w with heartbeat := heartbeat } : LockWorld).LockSafe where
  phases := fun j q hq =>
    ⟨(h.phases j q hq).mutation, (h.phases j q hq).claimed, (h.phases j q hq).raw,
      (h.phases j q hq).doomed, (h.phases j q hq).own⟩
  named := h.named
  started := h.started
  stale := h.stale

end LockSafe

end LockWorld

/-! ### Every step is safe -/

namespace LockWorld

variable {w : LockWorld} {i : ℕ} {p : MonitorProcess}

lemma plain_verifyMutation (after : AfterMutation) : Plain (.verifyMutation after) :=
  ⟨rfl, rfl, by simp⟩

lemma plain_link (attempt : ℕ) : Plain (.link attempt) := ⟨rfl, rfl, by simp⟩

lemma plain_after (after : AfterMutation) : Plain after.phase := by
  cases after <;> exact ⟨rfl, rfl, by simp [AfterMutation.phase]⟩

namespace LockSafe

/-- The mutation lock is released without giving the pidfile up or having it. -/
lemma leave (h : w.LockSafe) (hp : w.Live i p) (hin : p.phase.inMutation = true) :
    (w.goto i p (.verifyMutation .exit)).LockSafe :=
  h.goto_plain hp (plain_verifyMutation .exit) (fun _ => hin) (fun hc => by cases hc)

/-- The next attempt. -/
lemma retry (h : w.LockSafe) (hp : w.Live i p) (hin : p.phase.inMutation = true) (attempt : ℕ) :
    (w.goto i p (.link attempt)).LockSafe :=
  h.goto_plain hp (plain_link attempt) (fun _ => hin) (fun hc => by cases hc)

/-- A text to look at, or to remove. -/
lemma look (h : w.LockSafe) (hp : w.Live i p) (hin : p.phase.inMutation = true)
    {phase : MonitorPhase} {raw : PidfileText} (hraw : phase.raw = some raw)
    (hpidfile : w.pidfile = some raw) (hdoomed : ∀ r, phase.doomed = some r → w.Doomed r)
    (hclaimed : phase.claimed = false) (hown : phase ≠ .unlinkOwn) :
    (w.goto i p phase).LockSafe := by
  refine h.goto hp (fun _ => hin) (fun hc => ?_) ?_ hdoomed (fun heq => absurd heq hown)
  · rw [hclaimed] at hc
    cases hc
  · intro r hr
    rw [hraw] at hr
    rwa [← Option.some.inj hr]

/-- A pid nothing runs under names no live monitor. -/
lemma doomed_of_dead (h : w.LockSafe) {raw : PidfileText} (hraw : w.pidfile = some raw)
    (hdead : (parsePidfileContent raw).1.any w.isAlive = false) : w.Doomed raw := by
  rintro pid j rfl ⟨q, hq⟩
  have hpid := (h.named pid j hraw).2 q hq.1
  unfold parsePidfileContent isAlive at hdead
  rw [Option.any_some, ← hpid, hq.2] at hdead
  cases hdead

/-- The holder was found wedged: its text is to be removed. -/
lemma reap (h : w.LockSafe) (hp : w.Live i p) {attempt : ℕ} {raw : PidfileText} {mtime : ℤ}
    (hphase : p.phase = .nonce attempt raw mtime) (hraw : w.pidfile = some raw) {holder : ℕ}
    (hnonce : (parsePidfileContent raw).2 = some holder)
    (hstale : HEARTBEAT_STALE_MS ≤ w.clock - mtime) :
    ({ w with reaped := ⟨holder, mtime, w.clock⟩ :: w.reaped }.goto i p
      (.verify attempt raw)).LockSafe := by
  have hmoved : Moved w ({ w with reaped := ⟨holder, mtime, w.clock⟩ :: w.reaped }.goto i p
      (.verify attempt raw)) i p (.verify attempt raw) := by
    refine ⟨rfl, rfl, rfl, Or.inl rfl, Or.inl rfl, ?_⟩
    rintro j ⟨r, hr, hj⟩
    exact ⟨r, List.mem_cons_of_mem _ hr, hj⟩
  have hmut := (h.phases i p hp).mutation (by rw [hphase]; rfl)
  refine hmoved.safe hp h
    ⟨fun _ => hmut, fun hc => (by cases hc), ?_, ?_, fun heq => (by cases heq)⟩ ?_
  · rintro _ ⟨⟩
    exact hraw
  · rintro _ ⟨⟩ pid j rfl _
    exact ⟨_, List.mem_cons_self, (Option.some.inj hnonce).symm⟩
  · intro r hr
    rcases List.mem_cons.mp hr with rfl | hold
    · exact hstale
    · exact h.stale r hold

/-- The mutation lock could not be removed: it stays behind. -/
lemma giveUp (h : w.LockSafe) (hp : w.Live i p) {after : AfterMutation}
    (hphase : p.phase = .verifyMutation after ∨ p.phase = .unlinkMutation after) :
    (w.goto i p after.phase).LockSafe := by
  refine h.goto_plain hp (plain_after after) ?_ ?_
  · cases after <;> exact fun hin => by cases hin
  · intro hc
    have hafter : (after != .exit) = true := by
      cases after with
      | exit => cases hc
      | arm => rfl
      | releasePidfile => rfl
    rcases hphase with heq | heq <;> rw [heq] <;> exact hafter

lemma go (h : w.LockSafe) (hp : w.Live i p) : (w.moved i p .go).LockSafe := by
  have hok := h.phases i p hp
  unfold moved
  dsimp only
  split
  · rename_i hphase
    split
    · rename_i hfree
      exact h.lock hp hfree ⟨rfl, rfl, by simp⟩ (fun hc => by cases hc)
    · exact h.goto_plain hp ⟨rfl, rfl, by simp⟩ (fun hin => by cases hin) (fun hc => by cases hc)
  · rename_i attempt hphase
    have hin : p.phase.inMutation = true := by rw [hphase]; rfl
    split
    · exact h.leave hp hin
    · split
      · rename_i hnone
        exact h.link hp hin hnone
      · exact h.goto_plain hp ⟨rfl, rfl, by simp⟩ (fun _ => hin) (fun hc => by cases hc)
  · rename_i attempt hphase
    have hin : p.phase.inMutation = true := by rw [hphase]; rfl
    split
    · exact h.retry hp hin _
    · rename_i hraw
      refine h.look hp hin rfl hraw ?_ rfl (by simp)
      rintro _ ⟨⟩ pid j hholder
      cases hholder
    · rename_i raw _ hraw
      exact h.look hp hin rfl hraw (fun r hr => by cases hr) rfl (by simp)
  · rename_i attempt raw hphase
    have hin : p.phase.inMutation = true := by rw [hphase]; rfl
    have hraw : w.pidfile = some raw := hok.raw raw (by rw [hphase]; rfl)
    split
    · exact h.look hp hin rfl hraw (fun r hr => by cases hr) rfl (by simp)
    · rename_i hdead
      refine h.look hp hin rfl hraw ?_ rfl (by simp)
      rintro _ ⟨⟩
      exact h.doomed_of_dead hraw (by simpa using hdead)
  · rename_i attempt raw hphase
    have hin : p.phase.inMutation = true := by rw [hphase]; rfl
    have hraw : w.pidfile = some raw := hok.raw raw (by rw [hphase]; rfl)
    split
    · exact h.look hp hin rfl hraw (fun r hr => by cases hr) rfl (by simp)
    · exact h.leave hp hin
  · rename_i attempt raw mtime hphase
    have hin : p.phase.inMutation = true := by rw [hphase]; rfl
    have hraw : w.pidfile = some raw := hok.raw raw (by rw [hphase]; rfl)
    split
    · rename_i holder heartbeat hnonce _
      split
      · rename_i hwedged
        exact h.reap hp hphase hraw hnonce hwedged.1
      · exact h.leave hp hin
    · exact h.leave hp hin
  · rename_i attempt raw hphase
    have hin : p.phase.inMutation = true := by rw [hphase]; rfl
    split
    · rename_i hraw
      refine h.look hp hin rfl hraw ?_ rfl (by simp)
      rintro _ ⟨⟩
      exact hok.doomed raw (by rw [hphase]; rfl)
    · exact h.retry hp hin _
  · rename_i attempt raw hphase
    have hin : p.phase.inMutation = true := by rw [hphase]; rfl
    have hraw : w.pidfile = some raw := hok.raw raw (by rw [hphase]; rfl)
    refine h.remove hp hin ?_ (plain_link _) rfl
    intro raw' hraw'
    obtain rfl : raw = raw' := Option.some.inj (hraw.symm.trans hraw')
    exact Or.inl (hok.doomed raw (by rw [hphase]; rfl))
  · rename_i hphase
    have hin : p.phase.inMutation = true := by rw [hphase]; rfl
    split
    · rename_i hown
      exact h.goto hp (fun _ => hin) (fun _ => by rw [hphase]; rfl) (fun raw hr => by cases hr)
        (fun raw hr => by cases hr) (fun _ => hown)
    · exact h.leave hp hin
  · rename_i hphase
    have hin : p.phase.inMutation = true := by rw [hphase]; rfl
    refine h.remove hp hin ?_ (plain_verifyMutation .exit) rfl
    intro raw hraw
    exact Or.inr (Option.some.inj (hraw.symm.trans (hok.own hphase)))
  · rename_i after hphase
    have hin : p.phase.inMutation = true := by rw [hphase]; rfl
    have hmut := hok.mutation hin
    rw [if_pos hmut]
    exact h.goto_plain hp ⟨rfl, rfl, by simp⟩ (fun _ => hin) (fun hc => by rw [hphase]; exact hc)
  · rename_i after hphase
    exact h.unlock hp hphase
  · rename_i hphase
    exact (h.goto_plain hp ⟨rfl, rfl, by simp⟩ (fun hin => by cases hin)
      (fun _ => by rw [hphase]; rfl)).heartbeat _
  · exact h.heartbeat _
  · rename_i hphase
    split
    · rename_i hfree
      exact h.lock hp hfree ⟨rfl, rfl, by simp⟩ (fun _ => by rw [hphase]; rfl)
    · exact h.goto_plain hp ⟨rfl, rfl, by simp⟩ (fun hin => by cases hin)
        (fun _ => by rw [hphase]; rfl)
  · rename_i hphase
    have hin : p.phase.inMutation = true := by rw [hphase]; rfl
    split
    · exact h.goto_plain hp ⟨rfl, rfl, by simp⟩ (fun _ => hin) (fun _ => by rw [hphase]; rfl)
    · exact h.goto_plain hp (plain_verifyMutation _) (fun _ => hin) (fun _ => by rw [hphase]; rfl)
  · rename_i hphase
    have hin : p.phase.inMutation = true := by rw [hphase]; rfl
    exact (h.goto_plain hp (plain_verifyMutation _) (fun _ => hin)
      (fun _ => by rw [hphase]; rfl)).heartbeat _
  · rename_i hphase
    split
    · rename_i hfree
      exact h.lock hp hfree ⟨rfl, rfl, by simp⟩ (fun _ => by rw [hphase]; rfl)
    · exact h.goto_plain hp ⟨rfl, rfl, by simp⟩ (fun hin => by cases hin) (fun hc => by cases hc)
  · exact h
  · exact h
  · exact h

lemma fail (h : w.LockSafe) (hp : w.Live i p) : (w.moved i p .fail).LockSafe := by
  unfold moved
  dsimp only
  split
  · rename_i attempt hphase
    exact h.leave hp (by rw [hphase]; rfl)
  · rename_i attempt hphase
    exact h.retry hp (by rw [hphase]; rfl) _
  · rename_i attempt raw hphase
    exact h.leave hp (by rw [hphase]; rfl)
  · rename_i attempt raw mtime hphase
    exact h.leave hp (by rw [hphase]; rfl)
  · rename_i attempt raw hphase
    exact h.retry hp (by rw [hphase]; rfl) _
  · rename_i attempt raw hphase
    exact h.retry hp (by rw [hphase]; rfl) _
  · rename_i hphase
    exact h.leave hp (by rw [hphase]; rfl)
  · rename_i hphase
    exact h.leave hp (by rw [hphase]; rfl)
  · rename_i after hphase
    exact h.giveUp hp (Or.inl hphase)
  · rename_i after hphase
    exact h.giveUp hp (Or.inr hphase)
  · rename_i hphase
    exact h.goto_plain hp ⟨rfl, rfl, by simp⟩ (fun hin => by cases hin)
      (fun _ => by rw [hphase]; rfl)
  · rename_i hphase
    exact h.goto_plain hp (plain_verifyMutation _) (fun _ => by rw [hphase]; rfl)
      (fun _ => by rw [hphase]; rfl)
  · rename_i hphase
    exact h.goto_plain hp (plain_verifyMutation _) (fun _ => by rw [hphase]; rfl)
      (fun _ => by rw [hphase]; rfl)
  · exact h.goto_plain hp ⟨rfl, rfl, by simp⟩ (fun hin => by cases hin) (fun hc => by cases hc)
  · exact h.goto_plain hp ⟨rfl, rfl, by simp⟩ (fun hin => by cases hin) (fun hc => by cases hc)
  · exact h.goto_plain hp ⟨rfl, rfl, by simp⟩ (fun hin => by cases hin) (fun hc => by cases hc)
  · exact h
  · exact h
  · exact h
  · exact h
  · exact h

lemma legacy (h : w.LockSafe) (hp : w.Live i p) (seen : LegacyArtifacts) :
    (w.moved i p (.legacy seen)).LockSafe := by
  unfold moved
  dsimp only
  split
  · rename_i hphase _
    exact h.retry hp (by rw [hphase]; rfl) 0
  · rename_i hphase _
    exact h.leave hp (by rw [hphase]; rfl)
  · rename_i hphase _
    exact h.goto_plain hp (plain_verifyMutation _) (fun _ => by rw [hphase]; rfl)
      (fun _ => by rw [hphase]; rfl)
  · rename_i hphase _
    exact h.goto_plain hp ⟨rfl, rfl, by simp⟩ (fun _ => by rw [hphase]; rfl)
      (fun _ => by rw [hphase]; rfl)
  · exact h

lemma stop (h : w.LockSafe) (hp : w.Live i p) : (w.moved i p .stop).LockSafe := by
  unfold moved
  dsimp only
  split
  · rename_i hphase
    exact h.goto_plain hp ⟨rfl, rfl, by simp⟩ (fun hin => by cases hin)
      (fun _ => by rw [hphase]; rfl)
  · exact h

end LockSafe

end LockWorld

/-! ### Whole runs -/

namespace LockWorld

namespace LockSafe

variable {w : LockWorld}

lemma pass (h : w.LockSafe) (clock : ℤ) : ({ w with clock := clock } : LockWorld).LockSafe where
  phases := fun j q hq =>
    ⟨(h.phases j q hq).mutation, (h.phases j q hq).claimed, (h.phases j q hq).raw,
      (h.phases j q hq).doomed, (h.phases j q hq).own⟩
  named := h.named
  started := h.started
  stale := h.stale

/-- Whoever runs afterwards ran before. -/
lemma alive (h : w.LockSafe) {alive : ℕ → Option (Option ℕ)}
    (hsub : ∀ pid i, alive pid = some (some i) → w.alive pid = some (some i)) :
    ({ w with alive := alive } : LockWorld).LockSafe where
  phases := by
    intro j q hq
    have hok := h.phases j q ⟨hq.1, hsub q.pid j hq.2⟩
    refine ⟨hok.mutation, hok.claimed, hok.raw, ?_, hok.own⟩
    intro raw hr
    refine (hok.doomed raw hr).mono ?_ (fun _ hr => hr)
    rintro k ⟨q', hq'⟩
    exact ⟨q', hq'.1, hsub q'.pid k hq'.2⟩
  named := h.named
  started := h.started
  stale := h.stale

/-- A new process holds nothing. -/
lemma start (h : w.LockSafe) (pid : ℕ) : (lockStep w (.start pid)).LockSafe := by
  unfold lockStep
  dsimp only
  split
  · rename_i hfree
    have hold : ∀ j q, ({ w with
        alive := Function.update w.alive pid (some (some w.spawned))
        procs := Function.update w.procs w.spawned (some ⟨pid, .claimMutation⟩)
        spawned := w.spawned + 1 } : LockWorld).Live j q →
          (j = w.spawned ∧ q.phase = .claimMutation) ∨ (j < w.spawned ∧ w.Live j q) := by
      rintro j q ⟨hproc, halive⟩
      dsimp only at hproc halive
      by_cases hj : j = w.spawned
      · subst hj
        rw [Function.update_self] at hproc
        rw [← Option.some.inj hproc]
        exact Or.inl ⟨rfl, rfl⟩
      · rw [Function.update_of_ne hj] at hproc
        have hlt : j < w.spawned := by
          by_contra hge
          rw [h.started j (not_lt.mp hge)] at hproc
          cases hproc
        refine Or.inr ⟨hlt, hproc, ?_⟩
        by_cases hpid : q.pid = pid
        · rw [hpid, Function.update_self] at halive
          exact absurd (Option.some.inj (Option.some.inj halive)).symm hj
        · rwa [Function.update_of_ne hpid] at halive
    refine ⟨?_, ?_, ?_, h.stale⟩
    · intro j q hq
      rcases hold j q hq with ⟨_, hphase⟩ | ⟨_, hlive⟩
      · constructor
        · intro hin
          rw [hphase] at hin
          cases hin
        · intro hc
          rw [hphase] at hc
          cases hc
        · intro raw hr
          rw [hphase] at hr
          cases hr
        · intro raw hr
          rw [hphase] at hr
          cases hr
        · intro hown
          rw [hphase] at hown
          cases hown
      · have hok := h.phases j q hlive
        refine ⟨hok.mutation, hok.claimed, hok.raw, ?_, hok.own⟩
        intro raw hr pid' k hraw hlive'
        obtain ⟨q', hq'⟩ := hlive'
        rcases hold k q' hq' with ⟨rfl, _⟩ | ⟨_, hlive'⟩
        · -- the text was read before this process was started
          have hsame := MonitorPhase.raw_of_doomed hr
          have hnamed := (h.named pid' w.spawned (hraw ▸ hok.raw raw hsame)).1
          exact absurd hnamed (lt_irrefl _)
        · exact hok.doomed raw hr pid' k hraw ⟨q', hlive'⟩
    · intro pid' j hpid
      obtain ⟨hlt, hall⟩ := h.named pid' j hpid
      refine ⟨Nat.lt_succ_of_lt hlt, fun q hq => ?_⟩
      dsimp only at hq
      rw [Function.update_of_ne (ne_of_lt hlt)] at hq
      exact hall q hq
    · intro j hj
      dsimp only
      rw [Function.update_of_ne (Nat.succ_le_iff.mp hj).ne']
      exact h.started j (Nat.le_of_succ_le hj)
  · exact h

lemma step (h : w.LockSafe) (l : LockStep) : (lockStep w l).LockSafe := by
  cases l with
  | pass ms => exact h.pass _
  | start pid => exact h.start pid
  | other pid =>
    unfold lockStep
    dsimp only
    split
    · refine h.alive (fun pid' i halive => ?_)
      by_cases hpid : pid' = pid
      · rw [hpid, Function.update_self] at halive
        cases halive
      · rwa [Function.update_of_ne hpid] at halive
    · exact h
  | die pid =>
    refine h.alive (fun pid' i halive => ?_)
    by_cases hpid : pid' = pid
    · rw [hpid, Function.update_self] at halive
      cases halive
    · rwa [Function.update_of_ne hpid] at halive
  | operator =>
    unfold lockStep
    dsimp only
    split
    · rename_i hstopped
      refine ⟨?_, h.named, h.started, h.stale⟩
      intro j q hq
      have hok := h.phases j q hq
      refine ⟨?_, hok.claimed, hok.raw, hok.doomed, hok.own⟩
      intro hin
      -- the owner is not live
      have hlive : w.Live j q := hq
      rw [hok.mutation hin, Option.bind_some, live_eq_some.mpr hlive] at hstopped
      cases hstopped
    · exact h
  | move i m =>
    unfold lockStep
    dsimp only
    cases hlive : w.live i with
    | none => exact h
    | some p =>
      have hp := live_eq_some.mp hlive
      cases m with
      | go => exact h.go hp
      | fail => exact h.fail hp
      | legacy seen => exact h.legacy hp seen
      | stop => exact h.stop hp

end LockSafe

/-- Before any modern monitor ran for the inbox. -/
def start (clock : ℤ) (pidfile : Option PidfileText) (heartbeat : Option Heartbeat) :
    LockWorld :=
  ⟨clock, fun _ => none, fun _ => none, 0, none, pidfile, heartbeat, []⟩

end LockWorld

/-- A live monitor is inside the mutation lock. -/
def LockWorld.Mutating (w : LockWorld) (i : ℕ) : Prop :=
  ∃ p, w.Live i p ∧ p.phase.inMutation = true

lemma LockWorld.LockSafe.exclusive {w : LockWorld} (h : w.LockSafe) :
    Exclusive w.mutation w.Mutating := by
  rintro i ⟨p, hp, hin⟩
  exact (h.phases i p hp).mutation hin

/-- In every run of monitor processes for one inbox, each stopped or dying between any two of its
file operations, with pids used again and the operator removing the mutation lock of stopped
processes: at most one live monitor is inside the mutation lock; of all live monitors that
claimed the inbox and have not released it at most one was not found wedged, that is with a
sidecar of its nonce whose time was at least `HEARTBEAT_STALE_MS` old; and while it lives, the
pidfile names it. -/
theorem one_monitor_claims (clock : ℤ) (heartbeat : Option Heartbeat) (pidfile : Option PidfileText)
    (hforeign : ∀ pid nonce, pidfile ≠ some (.holder pid nonce)) (ls : List LockStep) :
    (let w := run lockStep (.start clock pidfile heartbeat) ls
    (∀ i j, w.Mutating i → w.Mutating j → i = j) ∧
    (∀ i p, w.Live i p → p.phase.claimed = true → ¬ w.WasReaped i →
      w.pidfile = some (.holder p.pid i)) ∧
    (∀ i j p q, w.Live i p → w.Live j q → p.phase.claimed = true → q.phase.claimed = true →
      i = j ∨ w.WasReaped i ∨ w.WasReaped j) ∧
    ∀ r ∈ w.reaped, HEARTBEAT_STALE_MS ≤ r.now - r.mtime) := by
  have hstart : (LockWorld.start clock pidfile heartbeat).LockSafe := by
    refine ⟨?_, ?_, fun _ _ => rfl, fun r hr => absurd hr List.not_mem_nil⟩
    · rintro i p ⟨hproc, _⟩
      cases hproc
    · intro pid j hpid
      exact absurd hpid (hforeign pid j)
  have hsafe := invariant lockStep LockWorld.LockSafe (fun _ l hw => hw.step l) hstart ls
  intro w
  have hnames : ∀ i p, w.Live i p → p.phase.claimed = true → ¬ w.WasReaped i →
      w.pidfile = some (.holder p.pid i) :=
    fun i p hp hc hr => (hsafe.phases i p hp).claimed hc hr
  refine ⟨fun i j hi hj => hsafe.exclusive.eq hi hj, hnames, ?_, hsafe.stale⟩
  intro i j p q hp hq hpc hqc
  by_cases hi : w.WasReaped i
  · exact Or.inr (Or.inl hi)
  · by_cases hj : w.WasReaped j
    · exact Or.inr (Or.inr hj)
    · have hsame := (hnames i p hp hpc hi).symm.trans (hnames j q hq hqc hj)
      exact Or.inl (PidfileText.holder.inj (Option.some.inj hsame)).2

/-- A monitor that claims the inbox for itself. -/
def claimingMonitor (i pid : ℕ) : List LockStep :=
  .start pid ::
    [.go, .legacy ⟨none, false⟩, .go, .legacy ⟨none, false⟩, .go, .go, .go].map (.move i)

/-- A monitor wakes up after `HEARTBEAT_STALE_MS` beside the one that replaced it. -/
def wedgedMonitor : List LockStep :=
  claimingMonitor 0 100 ++ [.pass 150000, .start 200] ++
    [.go, .legacy ⟨none, false⟩, .go, .go, .go, .go, .go, .go, .go, .go, .legacy ⟨none, false⟩, .go,
      .go, .go].map (.move 1)

theorem one_monitor_claims_wedged :
    let w := run lockStep (.start 0 none none) wedgedMonitor
    (∃ p q, w.Live 0 p ∧ w.Live 1 q ∧ p.phase = .holding ∧ q.phase = .holding) ∧
      (w.WasReaped 0 ∨ w.WasReaped 1) := by
  intro w
  have hlive : w.live 0 = some ⟨100, .holding⟩ ∧ w.live 1 = some ⟨200, .holding⟩ := by
    decide
  have hp := LockWorld.live_eq_some.mp hlive.1
  have hq := LockWorld.live_eq_some.mp hlive.2
  obtain ⟨_, _, hone, _⟩ := one_monitor_claims 0 none none (by simp) wedgedMonitor
  exact ⟨⟨_, _, hp, hq, rfl, rfl⟩, (hone 0 1 _ _ hp hq rfl rfl).resolve_left (by simp)⟩

end BorgClient.Monitor
