import BorgClient.OpenCode.StartupHost

/-!
# What the startup supervisor owns

One native server at most; the mutex covers it until a release or its end.
-/

namespace BorgClient.OpenCode
open List Runs

/-! ### Invariant -/

/-- No start is under way and none begins. -/
def StartupHost.Barred (s : StartupHost) : Prop :=
  s.released = true ∨ s.shuttingDown = .done ∨ s.acquired = false

/-- The native processes that run are the one named. -/
def StartupHost.Owned (s : StartupHost) (target : Option ℕ) : Prop :=
  ∀ native ∈ s.live, target = some native

structure HostSound (s : StartupHost) : Prop where
  one : s.live.length ≤ 1
  owned : (∀ native, s.command ≠ .startServer native) → s.Owned s.server
  starting : ∀ native, s.command = .startServer native →
    s.Owned (some native) ∧ s.server = none ∧ s.released = false
  closing : ∀ target, s.command = .closeServer target → s.Owned target
  awaited : s.shuttingDown = .awaitTail 0 → s.command = .none
  shutting : ∀ target, s.shuttingDown = .closeServer target →
    s.command = .none ∧ s.Owned target
  done : s.shuttingDown = .done → s.command = .none ∧ s.live = []
  unlocked : s.unlocked = true → s.released = true ∨ s.shuttingDown = .done
  polling : s.flow = .acquiring → s.acquired = false
  before : s.acquired = false → s.command = .none ∧ s.tail = [] ∧ s.live = []
  held : s.mutex = true → s.flow = .awaitRelease
  past : s.flow ≠ .acquiring → s.flow ≠ .awaitRelease → s.Barred
  recovering : ∀ target, s.flow = .closeServer target → s.Owned target
  finished : s.life = .finished → s.live = []

/-- A signal finds its listener. -/
def Unheard (s : StartupHost) : HostEvent → Prop
  | .signal kind => kind ∉ s.heard
  | _ => True

theorem hostSound_start (connected : Bool) : HostSound (.start connected) := by
  constructor <;> simp [StartupHost.start, StartupHost.Owned]

namespace HostSound

variable {s : StartupHost}

lemma disconnectIf (h : HostSound s) (c : Prop) [Decidable c] : HostSound (s.disconnectIf c) := by
  unfold StartupHost.disconnectIf
  split
  · exact { h with }
  · exact h

lemma mono_live (h : HostSound s) (native : ℕ) : HostSound (s.next (.nativeExit native)) := by
  have hmem : ∀ x ∈ s.live.filter (· != native), x ∈ s.live := fun x hx => (mem_filter.mp hx).1
  have hnil : s.live = [] → s.live.filter (· != native) = [] := by
    intro h
    rw [h]
    rfl
  exact { h with
    one := (length_filter_le _ _).trans h.one
    owned := fun hne x hx => h.owned hne x (hmem x hx)
    starting := fun x hx => ⟨fun y hy => (h.starting x hx).1 y (hmem y hy), (h.starting x hx).2⟩
    closing := fun t ht x hx => h.closing t ht x (hmem x hx)
    shutting := fun t ht => ⟨(h.shutting t ht).1, fun x hx => (h.shutting t ht).2 x (hmem x hx)⟩
    done := fun hd => ⟨(h.done hd).1, hnil (h.done hd).2⟩
    before := fun ha => ⟨(h.before ha).1, (h.before ha).2.1, hnil (h.before ha).2.2⟩
    recovering := fun t ht x hx => h.recovering t ht x (hmem x hx)
    finished := fun hf => hnil (h.finished hf) }

lemma not_starting (h : HostSound s) (hb : s.Barred) (native : ℕ) :
    s.command ≠ .startServer native := by
  intro hcommand
  rcases hb with hr | hd | ha
  · rw [(h.starting native hcommand).2.2] at hr
    cases hr
  · rw [(h.done hd).1] at hcommand
    cases hcommand
  · rw [(h.before ha).1] at hcommand
    cases hcommand

lemma released_of_unlocked (h : HostSound s) (hd : s.shuttingDown ≠ .done)
    (hu : s.unlocked = true) : s.released = true := (h.unlocked hu).resolve_right hd

lemma barred_of_past (h : HostSound s) (hd : s.shuttingDown ≠ .done)
    (hacquiring : s.flow ≠ .acquiring) (hrelease : s.flow ≠ .awaitRelease) :
    s.released = true ∨ s.acquired = false :=
  (h.past hacquiring hrelease).imp_right (fun hb => hb.resolve_left hd)

lemma shutdown (h : HostSound s) : HostSound s.shutdown := by
  unfold StartupHost.shutdown
  split
  · rename_i hidle
    have hd : s.shuttingDown ≠ .done := by simp [hidle]
    refine { h with
      awaited := fun hzero => ?_
      shutting := by
        intro target hshutting
        cases hshutting
      done := by
        intro hdone
        cases hdone
      unlocked := fun hu => Or.inl (h.released_of_unlocked hd hu)
      past := fun ha hr => (h.barred_of_past hd ha hr).imp_right Or.inr }
    by_contra hne
    have hcount := ShuttingDown.awaitTail.inj hzero
    rw [if_neg hne] at hcount
    omega
  · exact h

lemma commandEnded (h : HostSound s) (ho : s.Owned s.server) : HostSound s.commandEnded := by
  unfold StartupHost.commandEnded
  cases h
  constructor <;> grind [StartupHost.Owned, StartupHost.Barred]

lemma beginCommand (h : HostSound s) (hacquired : s.acquired = true) (hlife : s.life = .running)
    (hcommand : s.command = .none) (command : StartupCommand) :
    HostSound (s.beginCommand command) := by
  have ho : s.Owned s.server := h.owned (by simp [hcommand])
  unfold StartupHost.beginCommand
  split
  · exact h.commandEnded ho
  rename_i hidle
  rw [not_not] at hidle
  cases command with
  | start =>
    dsimp only
    split
    · exact h.commandEnded ho
    · rename_i hfree
      simp only [Bool.or_eq_true, not_or, Option.isSome_iff_ne_none, ne_eq, not_not,
        Bool.not_eq_true] at hfree
      obtain ⟨hserver, hreleased⟩ := hfree
      have hlive : s.live = [] := eq_nil_iff_forall_not_mem.mpr (fun native hmem => by
        have := ho native hmem
        rw [hserver] at this
        cases this)
      have hbarred : ¬ s.Barred := by
        rintro (hr | hd | ha)
        · exact absurd (hr.symm.trans hreleased) (by decide)
        · exact absurd (hd.symm.trans hidle) (by decide)
        · exact absurd (ha.symm.trans hacquired) (by decide)
      cases h
      constructor <;> grind [StartupHost.Owned]
  | close =>
    exact { h with
      owned := fun _ => ho
      starting := by
        intro target hstarting
        cases hstarting
      closing := fun target ht => CommandAwait.closeServer.inj ht ▸ ho
      awaited := fun hzero => absurd (hidle.symm.trans hzero) (by simp)
      shutting := fun target ht => absurd (hidle.symm.trans ht) (by simp)
      done := fun hd => absurd (hidle.symm.trans hd) (by simp)
      before := fun ha => absurd (ha.symm.trans hacquired) (by decide) }
  | release =>
    refine HostSound.commandEnded (s := { s with released := true, unlocked := true }) ?_ ho
    exact { h with
      starting := fun native hc => absurd (hcommand.symm.trans hc) (by simp)
      unlocked := fun _ => Or.inl rfl
      past := fun _ _ => Or.inl rfl }

/-- After a `closeServer` no native process runs. -/
lemma live_eq_nil {target : Option ℕ} (ho : s.Owned target) (hgone : s.Gone target) : s.live = [] :=
  eq_nil_iff_forall_not_mem.mpr (fun native hlive => hgone native (ho native hlive) hlive)

lemma serverClosed (h : HostSound s) (hlive : s.live = [])
    (hstarting : ∀ native, s.command ≠ .startServer native) : HostSound s.serverClosed :=
  { h with
    owned := fun _ _ hmem => absurd (hlive ▸ hmem) not_mem_nil
    starting := fun native hcommand => absurd hcommand (hstarting native) }

lemma next (h : HostSound s) {event : HostEvent} (he : event.Enabled s) (hs : Unheard s event) :
    HostSound (s.next event) := by
  cases event with
  | acquire =>
    exact { h with
      polling := by
        intro hpolling
        cases hpolling
      before := by
        intro hbefore
        cases hbefore
      held := fun _ => rfl
      past := fun _ hflow => absurd rfl hflow
      recovering := by
        intro target hrecovering
        cases hrecovering }
  | giveUp =>
    exact { h with
      polling := by
        intro hpolling
        cases hpolling
      held := fun hm => absurd ((h.held hm).symm.trans he.2) (by decide)
      past := fun _ _ => Or.inr (Or.inr (h.polling he.2))
      recovering := by
        intro target hrecovering
        cases hrecovering }
  | message command => exact { h with before := fun ha => absurd (ha.symm.trans he.2) (by decide) }
  | beginCommand =>
    unfold StartupHost.next
    dsimp only
    split
    · exact h
    · rename_i command rest htail
      have hacquired : s.acquired = true := by
        by_contra hnot
        have := (h.before (Bool.eq_false_of_not_eq_true hnot)).2.1
        rw [htail] at this
        cases this
      exact HostSound.beginCommand (s := { s with tail := rest })
        { h with before := fun ha => absurd (ha.symm.trans hacquired) (by decide) }
        hacquired he.1 he.2 command
  | startDone ok =>
    unfold StartupHost.next
    dsimp only
    split
    · rename_i native hcommand
      obtain ⟨ho, hserver, hreleased⟩ := h.starting native hcommand
      split
      · cases h
        constructor <;> grind [StartupHost.Owned, StartupHost.Barred, StartupHost.commandEnded]
      · rename_i hok
        have hlive : s.live = [] := by
          rcases he.2 with hok' | hgone
          · exact absurd hok' hok
          · refine eq_nil_iff_forall_not_mem.mpr (fun native' hmem => hgone native' hmem ?_)
            rw [hcommand, Option.some.inj (ho native' hmem)]
        exact h.commandEnded (by simp [StartupHost.Owned, hlive])
    · exact h
  | closeDone =>
    obtain ⟨hlife, hgone⟩ := he
    split at hgone
    · rename_i target hcommand
      have hlive := live_eq_nil (h.closing target hcommand) hgone
      refine HostSound.disconnectIf ?_ _
      refine HostSound.commandEnded (h.serverClosed hlive (by simp [hcommand])) ?_
      exact fun native hmem => absurd (hlive ▸ hmem) not_mem_nil
    · exact hgone.elim
  | nativeExit native => exact h.mono_live native
  | nativeClosed native => 
    refine HostSound.disconnectIf ?_ _
    cases h
    constructor <;> grind [StartupHost.Owned, StartupHost.Barred, HostEvent.Enabled]
  | ipcLost => exact { h with }
  | disconnected => exact h.shutdown
  | signal kind =>
    unfold StartupHost.next
    dsimp only
    rw [if_neg hs]
    exact HostSound.shutdown { h with }
  | shutdownClose =>
    obtain ⟨hlife, hshutting⟩ := he
    have hcommand := h.awaited hshutting
    have hd : s.shuttingDown ≠ .done := by simp [hshutting]
    refine { h with
      awaited := by
        intro hawaited
        cases hawaited
      shutting := fun target ht => ⟨hcommand, ?_⟩
      done := by
        intro hdone
        cases hdone
      unlocked := fun hu => Or.inl (h.released_of_unlocked hd hu)
      past := fun ha hr => (h.barred_of_past hd ha hr).imp_right Or.inr }
    cases ht
    exact h.owned (by simp [hcommand])
  | shutdownDone =>
    obtain ⟨hlife, hgone⟩ := he
    split at hgone
    · rename_i target hshutting
      obtain ⟨hcommand, ho⟩ := h.shutting target hshutting
      have hlive := live_eq_nil ho hgone
      have hclosed := h.serverClosed hlive (by simp [hcommand])
      exact { hclosed with
        awaited := by
          intro hawaited
          cases hawaited
        shutting := by
          intro target hshutting
          cases hshutting
        done := fun _ => ⟨hcommand, hlive⟩
        unlocked := fun _ => Or.inr rfl
        past := fun _ _ => Or.inr (Or.inl rfl) }
    · exact hgone.elim
  | rollback ok =>
    obtain ⟨hlife, hflow, hunlocked⟩ := he
    have hbarred : s.Barred := (h.unlocked hunlocked).imp_right Or.inl
    cases ok <;>
      exact { h with
        polling := by
          intro hpolling
          cases hpolling
        held := by
          intro hheld
          cases hheld
        past := fun _ _ => hbarred
        recovering := by
          intro target hrecovering
          cases hrecovering }
  | afterStartup =>
    obtain ⟨hlife, hflow⟩ := he
    have hbarred : s.Barred := h.past (by simp [hflow]) (by simp [hflow])
    refine HostSound.disconnectIf ?_ _
    exact { h with
      polling := by
        intro hpolling
        cases hpolling
      held := fun hm => absurd ((h.held hm).symm.trans hflow) (by decide)
      past := fun _ _ => hbarred
      recovering := by
        intro target hrecovering
        cases hrecovering }
  | recover =>
    obtain ⟨hlife, hflow⟩ := he
    have hbarred : s.Barred := h.past (by simp [hflow]) (by simp [hflow])
    refine { h with
      polling := by
        intro hpolling
        cases hpolling
      held := fun hm => absurd ((h.held hm).symm.trans hflow) (by decide)
      past := fun _ _ => hbarred
      recovering := fun target ht => ?_ }
    cases ht
    exact h.owned (h.not_starting hbarred)
  | recovered =>
    obtain ⟨hlife, hgone⟩ := he
    split at hgone
    · rename_i target hflow
      have hbarred : s.Barred := h.past (by simp [hflow]) (by simp [hflow])
      have hlive := live_eq_nil (h.recovering target hflow) hgone
      have hclosed := h.serverClosed hlive (h.not_starting hbarred)
      exact { hclosed with
        polling := by
          intro hpolling
          cases hpolling
        held := fun hm => absurd ((h.held hm).symm.trans hflow) (by simp)
        past := fun _ _ => hbarred
        recovering := by
          intro target hrecovering
          cases hrecovering }
    · exact hgone.elim
  | finish => exact { h with finished := fun _ => (h.done he.2.2.2.1).2 }

end HostSound

theorem hostSound_step {s : StartupHost} (h : HostSound s) {event : HostEvent}
    (hs : Unheard s event) : HostSound (hostStep s event) := by
  unfold hostStep
  split
  · rename_i he
    exact h.next he hs
  · exact h

/-! ### What gives up the mutex and starts a server -/

/-- What only few events change. -/
structure SameHost (s s' : StartupHost) : Prop where
  mutex : s'.mutex = s.mutex
  started : s'.started = s.started
  heard : s'.heard = s.heard

/-- What an event may do to the mutex, the number of servers started and the listeners. -/
structure HostChange (s : StartupHost) (event : HostEvent) (s' : StartupHost) : Prop where
  mutex : s'.mutex = s.mutex ∨ s'.mutex = true ∨ (∃ ok, event = .rollback ok) ∨ ¬Unheard s event
  started : s'.started = s.started ∨ s.released = false ∧ s.shuttingDown = .idle
  heard : ∀ kind ∈ s'.heard, kind ∈ s.heard ∨ event = .signal kind

lemma SameHost.change {s s' : StartupHost} (h : SameHost s s') (event : HostEvent) :
    HostChange s event s' :=
  ⟨Or.inl h.mutex, Or.inl h.started, fun _ hkind => Or.inl (h.heard ▸ hkind)⟩

lemma sameHost_disconnectIf (s : StartupHost) (c : Prop) [Decidable c] :
    SameHost s (s.disconnectIf c) := by
  unfold StartupHost.disconnectIf
  split <;> exact ⟨rfl, rfl, rfl⟩

lemma sameHost_shutdown (s : StartupHost) : SameHost s s.shutdown := by
  unfold StartupHost.shutdown
  split <;> exact ⟨rfl, rfl, rfl⟩

lemma change_beginCommand (s : StartupHost) (event : HostEvent) (command : StartupCommand) :
    HostChange s event (s.beginCommand command) := by
  have hsame : SameHost s s.commandEnded := ⟨rfl, rfl, rfl⟩
  unfold StartupHost.beginCommand
  split
  · exact hsame.change event
  rename_i hidle
  rw [not_not] at hidle
  cases command with
  | start =>
    dsimp only
    split
    · exact hsame.change event
    · rename_i hfree
      rw [Bool.or_eq_true, not_or, Bool.not_eq_true, Bool.not_eq_true] at hfree
      exact ⟨Or.inl rfl, Or.inr ⟨hfree.2, hidle⟩, fun _ => Or.inl⟩
  | close =>
    refine SameHost.change ?_ event
    exact ⟨rfl, rfl, rfl⟩
  | release =>
    refine SameHost.change ?_ event
    exact ⟨rfl, rfl, rfl⟩

lemma change_next (s : StartupHost) (event : HostEvent) : HostChange s event (s.next event) := by
  cases event with
  | acquire => exact ⟨Or.inr (Or.inl rfl), Or.inl rfl, fun _ => Or.inl⟩
  | beginCommand =>
    unfold StartupHost.next
    dsimp only
    split
    · refine SameHost.change ?_ _
      exact ⟨rfl, rfl, rfl⟩
    · rename_i command rest htail
      obtain ⟨hmutex, hstarted, hheard⟩ :=
        change_beginCommand { s with tail := rest } .beginCommand command
      exact ⟨hmutex, hstarted, hheard⟩
  | startDone ok =>
    unfold StartupHost.next
    dsimp only
    refine SameHost.change ?_ _
    split
    · split <;> exact ⟨rfl, rfl, rfl⟩
    · exact ⟨rfl, rfl, rfl⟩
  | closeDone =>
    obtain ⟨hmutex, hstarted, hheard⟩ :=
      sameHost_disconnectIf s.serverClosed.commandEnded (s.released = true)
    refine SameHost.change ?_ _
    exact ⟨hmutex, hstarted, hheard⟩
  | nativeClosed native =>
    obtain ⟨hmutex, hstarted, hheard⟩ := sameHost_disconnectIf
      { s with
        watched := s.watched.filter (· != native)
        server := if s.server = some native then none else s.server }
      (s.released = true ∧ s.closingServer = false)
    refine SameHost.change ?_ _
    exact ⟨hmutex, hstarted, hheard⟩
  | disconnected => exact (sameHost_shutdown s).change _
  | signal kind =>
    unfold StartupHost.next
    dsimp only
    split
    · rename_i hheard
      exact ⟨Or.inr (Or.inr (Or.inr (not_not_intro hheard))), Or.inl rfl, fun _ => Or.inl⟩
    · obtain ⟨hmutex, hstarted, hheard⟩ := sameHost_shutdown { s with heard := kind :: s.heard }
      refine ⟨Or.inl hmutex, Or.inl hstarted, fun kind' hkind => ?_⟩
      rw [hheard] at hkind
      rcases mem_cons.mp hkind with rfl | hkind
      · exact Or.inr rfl
      · exact Or.inl hkind
  | rollback ok => exact ⟨Or.inr (Or.inr (Or.inl ⟨ok, rfl⟩)), Or.inl rfl, fun _ => Or.inl⟩
  | afterStartup =>
    obtain ⟨hmutex, hstarted, hheard⟩ := sameHost_disconnectIf { s with flow := .ended }
      (s.server = none ∨ s.shuttingDown ≠ ShuttingDown.idle)
    refine SameHost.change ?_ _
    exact ⟨hmutex, hstarted, hheard⟩
  | _ =>
    refine SameHost.change ?_ _
    exact ⟨rfl, rfl, rfl⟩

/-- An event that is not enabled changes nothing. -/
lemma hostStep_cases (s : StartupHost) (event : HostEvent) :
    event.Enabled s ∧ hostStep s event = s.next event ∨ hostStep s event = s := by
  unfold hostStep
  split
  · rename_i he
    exact Or.inl ⟨he, rfl⟩
  · exact Or.inr rfl

/-! ### Runs -/

/-- Each signal comes once at most. -/
def SignalledOnce (events : List HostEvent) : Prop :=
  ∀ kind, events.count (.signal kind) ≤ 1

instance (events : List HostEvent) : Decidable (SignalledOnce events) :=
  decidable_of_iff
    (events.count (.signal .sigterm) ≤ 1 ∧ events.count (.signal .sigint) ≤ 1)
    ⟨fun h kind => by cases kind; exacts [h.1, h.2], fun h => ⟨h .sigterm, h .sigint⟩⟩

lemma heard_run (connected : Bool) (events : List HostEvent) :
    ∀ kind ∈ (run hostStep (.start connected) events).heard, .signal kind ∈ events := by
  refine invariant_of_history hostStep
    (fun events s => ∀ kind ∈ s.heard, HostEvent.signal kind ∈ events) ?_ ?_ events
  · exact fun kind hkind => absurd hkind not_mem_nil
  · intro events event ih kind hkind
    rw [mem_append, mem_singleton]
    rcases hostStep_cases (run hostStep (.start connected) events) event with ⟨-, hstep⟩ | hstep
    · rw [hstep] at hkind
      rcases (change_next _ event).heard kind hkind with hkind | rfl
      · exact Or.inl (ih kind hkind)
      · exact Or.inr rfl
    · rw [hstep] at hkind
      exact Or.inl (ih kind hkind)

lemma unheard_of_once {connected : Bool} {events : List HostEvent} {event : HostEvent}
    (h : SignalledOnce (events ++ [event])) :
    Unheard (run hostStep (.start connected) events) event := by
  cases event with
  | signal kind =>
    intro hheard
    have hcount := h kind
    have hpast := count_pos_iff.mpr (heard_run connected events kind hheard)
    rw [count_append, count_singleton_self] at hcount
    omega
  | _ => trivial

lemma SignalledOnce.of_append {events more : List HostEvent} (h : SignalledOnce (events ++ more)) :
    SignalledOnce events := fun kind => by
  have := h kind
  rw [count_append] at this
  omega

lemma hostSound_run {connected : Bool} {events : List HostEvent} (h : SignalledOnce events) :
    HostSound (run hostStep (.start connected) events) := by
  induction events using reverseRecOn with
  | nil => exact hostSound_start connected
  | append_singleton events event ih =>
    rw [run_append]
    exact hostSound_step (ih h.of_append) (unheard_of_once h)

/-- In every run in which each signal comes once at most: one native server at most runs; the mutex
is given up only after a release was processed or when no native server runs; none is started after
a release or once the shutdown began; and the supervisor does not finish while one runs. -/
theorem startup_excludes {connected : Bool} {events : List HostEvent} {event : HostEvent}
    (h : SignalledOnce (events ++ [event])) :
    (run hostStep (.start connected) (events ++ [event])).live.length ≤ 1 ∧
      ((run hostStep (.start connected) events).mutex = true →
        (run hostStep (.start connected) (events ++ [event])).mutex = false →
          (run hostStep (.start connected) (events ++ [event])).released = true ∨
            (run hostStep (.start connected) (events ++ [event])).live = []) ∧
      ((run hostStep (.start connected) (events ++ [event])).started ≠
          (run hostStep (.start connected) events).started →
        (run hostStep (.start connected) events).released = false ∧
          (run hostStep (.start connected) events).shuttingDown = .idle) ∧
      ((run hostStep (.start connected) (events ++ [event])).life = .finished →
        (run hostStep (.start connected) (events ++ [event])).live = []) := by
  have hbefore : HostSound (run hostStep (.start connected) events) := hostSound_run h.of_append
  have hafter : HostSound (run hostStep (.start connected) (events ++ [event])) := hostSound_run h
  have hs : Unheard (run hostStep (.start connected) events) event := unheard_of_once h
  refine ⟨hafter.one, ?_, ?_, hafter.finished⟩
  · intro hmutex hgone
    rw [run_append] at hgone ⊢
    change (hostStep _ event).mutex = false at hgone
    change (hostStep _ event).released = true ∨ (hostStep _ event).live = []
    rcases hostStep_cases (run hostStep (.start connected) events) event with ⟨he, hstep⟩ | hstep
    · rw [hstep] at hgone ⊢
      rcases (change_next _ event).mutex with hkept | htrue | ⟨ok, rfl⟩ | hheard
      · rw [hgone, hmutex] at hkept
        cases hkept
      · rw [hgone] at htrue
        cases htrue
      · exact (hbefore.unlocked he.2.2).imp_right (fun hdone => (hbefore.done hdone).2)
      · exact absurd hs hheard
    · rw [hstep, hmutex] at hgone
      cases hgone
  · intro hstarted
    rw [run_append] at hstarted
    change (hostStep _ event).started ≠ _ at hstarted
    rcases hostStep_cases (run hostStep (.start connected) events) event with ⟨-, hstep⟩ | hstep
    · rw [hstep] at hstarted
      exact (change_next _ event).started.resolve_left hstarted
    · exact absurd (congrArg StartupHost.started hstep) hstarted

/-- A launcher that starts a server. -/
def startedHost : List HostEvent := [.acquire, .message .start, .beginCommand, .startDone true]

theorem startup_excludes_interrupted :
    (run hostStep (.start true) (startedHost ++ [.signal .sigterm])).live.length ≤ 1 :=
  (@startup_excludes true startedHost (.signal .sigterm) (by decide)).1

/-- A second SIGTERM ends the supervisor while its server runs, and the mutex with it. -/
theorem second_signal_gives_up_mutex :
    (run hostStep (.start true) (startedHost ++ [.signal .sigterm])).mutex = true ∧
      (run hostStep (.start true) (startedHost ++ [.signal .sigterm, .signal .sigterm])).mutex =
        false ∧
      (run hostStep (.start true)
        (startedHost ++ [.signal .sigterm, .signal .sigterm])).released = false ∧
      (run hostStep (.start true)
        (startedHost ++ [.signal .sigterm, .signal .sigterm])).live = [0] := by
  decide

end BorgClient.OpenCode
