import BorgClient.Assimilation.Moves

/-!
# Overlapping runs

Any number of runs interleaved over one seat store, and when each keeps its seat to itself.
-/

namespace BorgClient.Assimilation
open List Tables Runs Seats

/-! ### Runs that keep apart -/

section Apart

variable [SeatPlatform]

/-- The runs that hold one seat bind one worktree, and the seat is ACTIVE in no other. -/
structure Apart (w : AssimilationWorld) : Prop where
  agree : ∀ i j r s, i ≠ j → w.runs i = some r → w.runs j = some s → ∀ ref, r.Holds ref →
    s.Holds ref → r.target = s.target ∧ r.target ≠ none
  settled : ∀ i r, w.runs i = some r → ∀ ref left, r.Holds ref → Seated w.store ref left →
    r.target = some left
  known : ∀ i r, w.runs i = some r → ∀ ref left, r.Reads ref → Seated w.store ref left →
    left = r.context.projectRoot ∨ ∃ j s, w.runs j = some s ∧ s.PlacedAt ref left

/-- What a move of run `i` from `r` to `r'` does to the seats. -/
structure Shift (w w' : AssimilationWorld) (i : ℕ) (r r' : AssimilationRun) : Prop where
  before : w.runs i = some r
  runs : ∀ j, w'.runs j = if j = i then some r' else w.runs j
  context : r'.context = r.context
  holds : ∀ ref, r'.Holds ref →
    (r.Holds ref ∧ (r'.target = r.target ∨ r.target = none)) ∨
    (∀ j s, j ≠ i → w.runs j = some s → s.Holds ref → s.target = r'.target ∧ r'.target ≠ none) ∧
      ∀ left, Seated w'.store ref left → r'.target = some left
  placed : ∀ ref left, r.PlacedAt ref left → r'.PlacedAt ref left
  reads : ∀ ref, r'.Reads ref → r.Reads ref ∨ Seated w.store ref r.context.projectRoot
  store : ∀ ref left, Seated w'.store ref left → Seated w.store ref left ∨
    r.Holds ref ∧ r.target = some left ∧ r'.PlacedAt ref left

lemma Shift.runs_self {w w' : AssimilationWorld} {i : ℕ} {r r' : AssimilationRun}
    (h : Shift w w' i r r') : w'.runs i = some r' := by
  rw [h.runs, if_pos rfl]

lemma Shift.runs_other {w w' : AssimilationWorld} {i j : ℕ} {r r' : AssimilationRun}
    (h : Shift w w' i r r') (hj : j ≠ i) : w'.runs j = w.runs j := by
  rw [h.runs, if_neg hj]

lemma AssimilationRun.PlacedAt.holds {r : AssimilationRun} {ref left : String}
    (h : r.PlacedAt ref left) : r.Holds ref := by
  obtain ⟨sent, hsent, href, hplaced, -⟩ := h
  exact ⟨sent, hsent, href, Or.inr hplaced⟩

/-- The mover against another run. -/
lemma Shift.agree {w w' : AssimilationWorld} {i j : ℕ} {r r' s : AssimilationRun}
    (h : Shift w w' i r r') (hapart : Apart w) (hj : j ≠ i) (hs : w.runs j = some s) {ref : String}
    (hr : r'.Holds ref) (hholds : s.Holds ref) : r'.target = s.target ∧ r'.target ≠ none := by
  rcases h.holds ref hr with ⟨hold, htarget⟩ | ⟨hfresh, -⟩
  · obtain ⟨heq, hne⟩ := hapart.agree i j r s hj.symm h.before hs ref hold hholds
    rcases htarget with htarget | hnone
    · rw [htarget]
      exact ⟨heq, hne⟩
    · exact absurd hnone hne
  · obtain ⟨heq, hne⟩ := hfresh j s hj hs hholds
    exact ⟨heq.symm, hne⟩

lemma Shift.settled {w w' : AssimilationWorld} {i : ℕ} {r r' : AssimilationRun}
    (h : Shift w w' i r r') (hapart : Apart w) {ref left : String} (hr : r'.Holds ref)
    (hseated : Seated w'.store ref left) : r'.target = some left := by
  rcases h.holds ref hr with ⟨hold, htarget⟩ | ⟨-, hfresh⟩
  · rcases h.store ref left hseated with hseated | ⟨-, -, hplaced⟩
    · have hbefore := hapart.settled i r h.before ref left hold hseated
      rcases htarget with htarget | hnone
      · rw [htarget]
        exact hbefore
      · rw [hnone] at hbefore
        cases hbefore
    · obtain ⟨-, -, -, -, htarget⟩ := hplaced
      exact htarget
  · exact hfresh left hseated

theorem Apart.shift {w w' : AssimilationWorld} {i : ℕ} {r r' : AssimilationRun} (hapart : Apart w)
    (h : Shift w w' i r r') : Apart w' where
  agree a b p q hab hp hq ref hpref hqref := by
    by_cases ha : a = i
    · subst ha
      rw [h.runs_self] at hp
      obtain rfl := Option.some.inj hp
      rw [h.runs_other hab.symm] at hq
      exact h.agree hapart hab.symm hq hpref hqref
    · rw [h.runs_other ha] at hp
      by_cases hb : b = i
      · subst hb
        rw [h.runs_self] at hq
        obtain rfl := Option.some.inj hq
        obtain ⟨heq, hne⟩ := h.agree hapart ha hp hqref hpref
        exact ⟨heq.symm, by rw [← heq]; exact hne⟩
      · rw [h.runs_other hb] at hq
        exact hapart.agree a b p q hab hp hq ref hpref hqref
  settled j s hs ref left hholds hseated := by
    by_cases hj : j = i
    · subst hj
      rw [h.runs_self] at hs
      obtain rfl := Option.some.inj hs
      exact h.settled hapart hholds hseated
    · rw [h.runs_other hj] at hs
      rcases h.store ref left hseated with hold | ⟨hholds', htarget, -⟩
      · exact hapart.settled j s hs ref left hholds hold
      · obtain ⟨heq, -⟩ := hapart.agree j i s r hj hs h.before ref hholds hholds'
        rw [heq]
        exact htarget
  known j s hs ref left hreads hseated := by
    -- A run placed before the move is placed after it.
    have hplaced : (∃ k t, w.runs k = some t ∧ t.PlacedAt ref left) →
        ∃ k t, w'.runs k = some t ∧ t.PlacedAt ref left := by
      rintro ⟨k, t, ht, hplaced⟩
      by_cases hk : k = i
      · subst hk
        rw [h.before] at ht
        obtain rfl := Option.some.inj ht
        exact ⟨k, r', h.runs_self, h.placed ref left hplaced⟩
      · exact ⟨k, t, by rw [h.runs_other hk]; exact ht, hplaced⟩
    rcases h.store ref left hseated with hold | ⟨-, -, hnew⟩
    · by_cases hj : j = i
      · subst hj
        rw [h.runs_self] at hs
        obtain rfl := Option.some.inj hs
        rw [h.context]
        rcases h.reads ref hreads with hreads | hroot
        · exact (hapart.known j r h.before ref left hreads hold).imp id hplaced
        · exact Or.inl (hold.unique hroot)
      · rw [h.runs_other hj] at hs
        exact (hapart.known j s hs ref left hreads hold).imp id hplaced
    · exact Or.inr ⟨i, r', h.runs_self, hnew⟩

end Apart

section Steps

variable [SeatPlatform] [RoleText]

/-- A run that combines no `--here` with a name, and a seat prepared that no other run in flight, or
placed, holds for another worktree. -/
def Unclaimed (w : AssimilationWorld) : AssimilationStep → Prop
  | .begin _ args _ => args.flags.here = true → args.flags.worktree = none
  | .move i (.prepare credential _) => ∀ r role input, w.runs i = some r → r.control = .preparing →
      r.prepareInput credential = some (role, input) → Expected input w.store →
      ∀ j s, j ≠ i → w.runs j = some s → s.Holds (seatRef input.seed.toSeatIdentity) →
        r.wantSibling = false ∧ s.target = some r.context.projectRoot
  | .move _ _ => True

/-- Runs stay well formed. -/
lemma Moved.formed {w w' : AssimilationWorld} {i : ℕ} {r : AssimilationRun} {m : RunMove}
    (h : Moved w i r m w') (hr : w.runs i = some r) (hformed : ∀ j s, w.runs j = some s → s.Formed) :
    ∀ j s, w'.runs j = some s → s.Formed := by
  have hmoved : ∀ (v : AssimilationWorld) (r' : AssimilationRun), v.runs = w.runs → r'.Formed →
      ∀ j s, (v.set i r').runs j = some s → s.Formed := by
    intro v r' hv hr' j s hs
    by_cases hj : j = i
    · subst hj
      rw [set_runs_self] at hs
      obtain rfl := Option.some.inj hs
      exact hr'
    · rw [set_runs_of_ne r' hj, hv] at hs
      exact hformed j s hs
  have hrun := hformed i r hr
  cases h with
  | idle => exact hformed
  | decided r' hcontrol h => exact hmoved w r' rfl (h.formed hcontrol hrun)
  | prepared credential fault role input r' _ hcontrol hused hinput hafter =>
    refine hmoved _ r' rfl ?_
    have hearly : r.control.Early := by simp [hcontrol, Control.Early]
    rcases hafter with rfl | ⟨record, -, -, rfl⟩
    · exact (decides_stopped w.store r).formed hearly hrun
    · refine ⟨?_, fun _ => hrun.unplaced (Or.inl hearly), ?_, ?_, hrun.separate⟩
      · simp [AssimilationRun.prepared, Control.Early]
      · exact planned_of_control (by simp [AssimilationRun.prepared, Control.Looking])
          (by simp [AssimilationRun.prepared])
      · rintro (hspawning | ⟨-, hsibling⟩)
        · simp [AssimilationRun.prepared] at hspawning
        · have hsibling : r.wantSibling = true := hsibling
          simp [AssimilationRun.prepared, hsibling]
  | proceeded store worktrees answer control hstore hbefore hafter hattached hspawning hattaching _ =>
    refine hmoved _ _ rfl ⟨fun h => absurd h hafter, ?_, ?_, ?_, hrun.separate⟩
    · rintro (h | h)
      · exact absurd h hafter
      · exact hrun.unplaced (Or.inr (hattached h))
    · obtain ⟨hlooking, hpreparing⟩ := not_looking hafter
      exact planned_of_control hlooking hpreparing
    · rintro (h | ⟨h, -⟩)
      · exact hrun.untargeted (Or.inr (hspawning h))
      · exact absurd h hattaching
  | spawned path hcontrol =>
    refine hmoved _ _ rfl ⟨?_, ?_, ?_, ?_, hrun.separate⟩
    · simp [Control.Early]
    · exact fun _ => hrun.unplaced (Or.inr (by simp [hcontrol, Control.Attached]))
    · exact planned_of_control (by simp [Control.Looking]) (by simp)
    · simp
  | activated sent worktree input fault took control hcontrol hsent htarget _ _ _ hafter =>
    have hlate : ¬ control.Early ∧ ¬ control.Attached ∧ control ≠ .spawning ∧
        control ≠ .attaching := by
      rcases hafter with ⟨rfl, -⟩ | rfl <;> simp [Control.Early, Control.Attached]
    obtain ⟨hlooking, hpreparing⟩ := not_looking hlate.1
    refine hmoved _ _ rfl ⟨fun h => absurd h hlate.1, ?_,
      planned_of_control hlooking hpreparing, ?_, hrun.separate⟩
    · rintro (h | h)
      · exact absurd h hlate.1
      · exact absurd h hlate.2.1
    · rintro (h | ⟨h, -⟩)
      · exact absurd h hlate.2.2.1
      · exact absurd h hlate.2.2.2

/-- The seat of a run that prepared one: its own to bind. -/
lemma prepared_fresh {w : AssimilationWorld} {i : ℕ} {r : AssimilationRun} {credential : String}
    {role : Role} {input : PrepareSeat} {record : SeatRecord} (hapart : Apart w)
    (hr : w.runs i = some r) (hformed : r.Formed) (hcontrol : r.control = .preparing)
    (hinput : r.prepareInput credential = some (role, input))
    (hunclaimed : Unclaimed w (.move i (.prepare credential .none)))
    (hok : (prepareSeat input w.store).1 = .ok record) :
    (∀ j s, j ≠ i → w.runs j = some s → s.Holds (seatRef input.seed.toSeatIdentity) →
      s.target = (r.prepared role input record).target ∧ (r.prepared role input record).target ≠ none) ∧
    ∀ left, Seated (transacted w.store (.prepare input)) (seatRef input.seed.toSeatIdentity) left →
      (r.prepared role input record).target = some left := by
  have hrevalidate : input.revalidate = true := by
    obtain ⟨role', -, heq⟩ := Option.map_eq_some_iff.mp hinput
    obtain ⟨rfl, rfl⟩ := Prod.ext_iff.mp heq
    rfl
  have hexpected := (prepareSeat_ok hok hrevalidate).1
  have hothers := hunclaimed r role input hr hcontrol hinput hexpected
  have htarget : r.wantSibling = false →
      (r.prepared role input record).target = some r.context.projectRoot := by
    intro hown
    simp [AssimilationRun.prepared, hown]
  constructor
  · intro j s hj hs hholds
    obtain ⟨hown, hroot⟩ := hothers j s hj hs hholds
    rw [htarget hown]
    exact ⟨hroot, by simp⟩
  · intro left hseated
    cases hexp : input.expected with
    | absent => exact absurd hseated (not_seated_of_prepared hok hrevalidate hexp)
    | exact ref droneId digest =>
      obtain ⟨hreads, hown⟩ := reads_of_exact hformed hcontrol hinput hexp
      have href : seatRef input.seed.toSeatIdentity = ref := by
        unfold Expected at hexpected
        rw [hexp] at hexpected
        obtain ⟨-, -, -, -, -, href, -⟩ := hexpected
        exact href
      have hseated : Seated w.store ref left := by
        rw [← href]
        rcases @seated_of_transacted _ _ _ _ _ Fault.none hseated with h | ⟨_, h, -⟩
        · exact h
        · cases h
      rw [htarget hown]
      rcases hapart.known i r hr ref left hreads hseated with rfl | ⟨j, s, hs, hplaced⟩
      · rfl
      · have hj : j ≠ i := by
          rintro rfl
          rw [hr] at hs
          obtain rfl := Option.some.inj hs
          exact not_placed hformed (Or.inl (by simp [hcontrol, Control.Early])) ref left hplaced
        obtain ⟨-, hroot⟩ := hothers j s hj hs (by rw [href]; exact hplaced.holds)
        obtain ⟨-, -, -, -, hleft⟩ := hplaced
        exact hroot.symm.trans hleft

/-- Every move shifts the seats of one run, under the condition on `prepareSeat`. -/
lemma Moved.shift {w w' : AssimilationWorld} {i : ℕ} {r : AssimilationRun} {m : RunMove}
    (h : Moved w i r m w') (hr : w.runs i = some r) (hformed : r.Formed) (hapart : Apart w)
    (hunclaimed : Unclaimed w (.move i m)) : w' = w ∨ ∃ r', Shift w w' i r r' := by
  cases h with
  | idle => exact Or.inl rfl
  | decided r' hcontrol h =>
    refine Or.inr ⟨r', hr, runs_set w i r', h.context, ?_, ?_, h.reads, fun _ _ h => Or.inl h⟩
    · rintro ref ⟨sent, hsent, -⟩
      rw [h.sent, hformed.unsent hcontrol] at hsent
      cases hsent
    · intro ref left hplaced
      exact absurd hplaced (not_placed hformed (Or.inl hcontrol) ref left)
  | prepared credential fault role input r' hmove hcontrol hused hinput hafter =>
    have hearly : r.control.Early := by simp [hcontrol, Control.Early]
    have hstore : ∀ ref left, Seated (transactedUnless w.store (.prepare input) fault) ref left →
        Seated w.store ref left := by
      intro ref left hseated
      rcases seated_of_transacted hseated with h | ⟨_, h, -⟩
      · exact h
      · cases h
    refine Or.inr ⟨r', hr, runs_set _ i r', ?_, ?_, ?_, ?_, ?_⟩
    · rcases hafter with rfl | ⟨record, -, -, rfl⟩ <;> rfl
    · intro ref hholds
      rcases hafter with rfl | ⟨record, hok, rfl, rfl⟩
      · exact absurd hholds (by
          rintro ⟨sent, hsent, -⟩
          have hsent : r.sent = some sent := hsent
          rw [hformed.unsent hearly] at hsent
          cases hsent)
      · obtain ⟨sent, hsent, rfl, -⟩ := hholds
        obtain rfl := Option.some.inj hsent
        subst hmove
        exact Or.inr (prepared_fresh hapart hr hformed hcontrol hinput hunclaimed hok)
    · intro ref left hplaced
      exact absurd hplaced (not_placed hformed (Or.inl hearly) ref left)
    · intro ref hreads
      rcases hafter with rfl | ⟨record, -, -, rfl⟩ <;> exact Or.inl hreads
    · intro ref left hseated
      exact Or.inl (hstore ref left hseated)
  | proceeded store worktrees answer control hstore hbefore hafter _ _ _ hstopped =>
    refine Or.inr ⟨_, hr, runs_set _ i _, rfl, ?_, fun _ _ h => h, fun _ h => Or.inl h, ?_⟩
    · rintro ref ⟨sent, hsent, href, hcontrol⟩
      refine Or.inl ⟨⟨sent, hsent, href, hcontrol.imp ?_ id⟩, Or.inl rfl⟩
      intro hne hstop
      exact hne (hstopped hstop)
    · intro ref left hseated
      rcases hstore with rfl | ⟨sent, call, fault, -, hcall, rfl⟩
      · exact Or.inl hseated
      · rcases seated_of_transacted hseated with h | ⟨input, h, -⟩
        · exact Or.inl h
        · rcases hcall with ⟨_, _, rfl⟩ | ⟨_, rfl, -⟩ <;> cases h
  | spawned path hcontrol =>
    have htarget := hformed.untargeted (Or.inl hcontrol)
    refine Or.inr ⟨_, hr, runs_set _ i _, rfl, ?_, ?_, fun _ h => Or.inl h, fun _ _ h => Or.inl h⟩
    · rintro ref ⟨sent, hsent, href, -⟩
      exact Or.inl ⟨⟨sent, hsent, href, Or.inl (by simp [hcontrol])⟩, Or.inr htarget⟩
    · rintro ref left ⟨sent, hsent, href, hplaced, hleft⟩
      rw [htarget] at hleft
      cases hleft
  | activated sent worktree input fault took control hcontrol hsent htarget href hworktree htook _ =>
    refine Or.inr ⟨_, hr, runs_set _ i _, rfl, ?_, ?_, fun _ h => Or.inl h, ?_⟩
    · rintro ref ⟨sent', hsent', href', -⟩
      exact Or.inl ⟨⟨sent', hsent', href', Or.inl (by simp [hcontrol])⟩, Or.inl rfl⟩
    · rintro ref left ⟨sent', hsent', href', hplaced, hleft⟩
      exact ⟨sent', hsent', href', by simp [hplaced], hleft⟩
    · intro ref left hseated
      rcases seated_of_transacted hseated with h | ⟨input', hcall, hsome, hfault, rfl, rfl⟩
      · exact Or.inl h
      · obtain rfl := SeatCall.activate.inj hcall
        have htrue : took = true := by
          have hsome : (activateAndBindSeat input w.store).2.isSome = true := hsome
          rw [htook, hsome]
          simpa using hfault
        refine Or.inr ⟨⟨sent, hsent, href.symm, Or.inl (by simp [hcontrol])⟩, ?_, ?_⟩
        · rw [htarget, hworktree]
        · exact ⟨sent, hsent, href.symm, by simp [htrue], by rw [hworktree]; exact htarget⟩

/-- No activation moves an ACTIVE record, of runs that keep apart. -/
lemma Moved.moves {w w' : AssimilationWorld} {i : ℕ} {r : AssimilationRun} {m : RunMove}
    (h : Moved w i r m w') (hr : w.runs i = some r) (hapart : Apart w) : w'.moves = w.moves := by
  cases h with
  | activated sent worktree input fault took control hcontrol hsent htarget _ _ _ _ =>
    have hnone : movedFrom w.store sent.ref worktree = [] := by
      unfold movedFrom
      split
      · rename_i record hget
        split
        · rename_i left hleft
          rw [if_neg]
          simp only [Bool.and_eq_true, decide_eq_true_eq, not_and, not_not]
          intro hactive
          have hseated : Seated w.store sent.ref left :=
            ⟨record, SeatsFile.get_eq_some.mp hget, hactive, hleft⟩
          have hholds : r.Holds sent.ref := ⟨sent, hsent, rfl, Or.inl (by simp [hcontrol])⟩
          have hown := hapart.settled i r hr sent.ref left hholds hseated
          rw [htarget] at hown
          exact (Option.some.inj hown).symm
        · rfl
      · rfl
    change (if took then w.moves ++ movedFrom w.store sent.ref worktree else w.moves) = w.moves
    rw [hnone, append_nil, ite_self]
  | _ => rfl

/-- The bearer belongs to the ref: the store saves it there, or a run sends it. -/
def Bears (w : AssimilationWorld) (ref credential : String) : Prop :=
  Saved w.store ref credential ∨ ∃ i r sent, w.runs i = some r ∧ r.sent = some sent ∧
    sent.ref = ref ∧ sent.credential = credential

omit [RoleText] in
lemma Bears.of_set {w v : AssimilationWorld} {i : ℕ} {r r' : AssimilationRun}
    {ref credential : String} (h : Bears (v.set i r') ref credential) (hr : w.runs i = some r)
    (hruns : v.runs = w.runs) (hsent : r'.sent = r.sent)
    (hstore : Saved v.store ref credential → Bears w ref credential) : Bears w ref credential := by
  rcases h with hsaved | ⟨j, s, sent, hs, hsent', href⟩
  · exact hstore hsaved
  · by_cases hj : j = i
    · subst hj
      rw [set_runs_self] at hs
      obtain rfl := Option.some.inj hs
      exact Or.inr ⟨j, r, sent, hr, hsent.symm.trans hsent', href⟩
    · rw [set_runs_of_ne r' hj, hruns] at hs
      exact Or.inr ⟨j, s, sent, hs, hsent', href⟩

/-- A move gives no ref a bearer but a fresh one. -/
lemma Moved.bears {w w' : AssimilationWorld} {i : ℕ} {r : AssimilationRun} {m : RunMove}
    (h : Moved w i r m w') (hr : w.runs i = some r) :
    (∀ c ∈ w.used, c ∈ w'.used) ∧ ((∀ ref c, Bears w' ref c → Bears w ref c) ∨
      ∃ fresh credential, credential ∉ w.used ∧ credential ∈ w'.used ∧
        ∀ ref c, Bears w' ref c → Bears w ref c ∨ ref = fresh ∧ c = credential) := by
  cases h with
  | idle => exact ⟨fun _ h => h, Or.inl (fun _ _ h => h)⟩
  | decided r' hcontrol h =>
    exact ⟨fun _ h => h, Or.inl (fun _ _ hbears => hbears.of_set hr rfl h.sent Or.inl)⟩
  | prepared credential fault role input r' hmove hcontrol hused hinput hafter =>
    refine ⟨fun _ h => mem_cons_of_mem _ h, Or.inr ⟨seatRef input.seed.toSeatIdentity, credential,
      hused, mem_cons_self, ?_⟩⟩
    have hinput : input.seed.credential = credential ∧ input.revalidate = true := by
      obtain ⟨role', -, heq⟩ := Option.map_eq_some_iff.mp hinput
      obtain ⟨rfl, rfl⟩ := Prod.ext_iff.mp heq
      exact ⟨rfl, rfl⟩
    have hstore : ∀ ref c, Saved (transactedUnless w.store (.prepare input) fault) ref c →
        Bears w ref c ∨ ref = seatRef input.seed.toSeatIdentity ∧ c = credential := by
      intro ref c hsaved
      rcases saved_of_transacted hsaved with h | ⟨seed, hcall, rfl, rfl⟩
      · exact Or.inl (Or.inl h)
      · rcases hcall with hcall | ⟨input', hcall, rfl⟩
        · cases hcall
        · obtain rfl := SeatCall.prepare.inj hcall
          exact Or.inr ⟨rfl, hinput.1⟩
    rintro ref c (hsaved | ⟨j, s, sent, hs, hsent, hsentRef, hsentBearer⟩)
    · exact hstore ref c hsaved
    · by_cases hj : j = i
      · subst hj
        rw [set_runs_self] at hs
        obtain rfl := Option.some.inj hs
        rcases hafter with rfl | ⟨record, hok, -, rfl⟩
        · exact Or.inl (Or.inr ⟨j, r, sent, hr, hsent, hsentRef, hsentBearer⟩)
        · obtain rfl := Option.some.inj hsent
          rcases (prepareSeat_ok hok hinput.2).2 with h | h
          · refine Or.inl (Or.inl ?_)
            rw [← hsentRef, ← hsentBearer]
            exact h
          · exact Or.inr ⟨hsentRef.symm, hsentBearer.symm.trans (h.trans hinput.1)⟩
      · rw [set_runs_of_ne r' hj] at hs
        exact Or.inl (Or.inr ⟨j, s, sent, hs, hsent, hsentRef, hsentBearer⟩)
  | proceeded store worktrees answer control hstore _ _ _ _ _ _ =>
    refine ⟨fun _ h => h, Or.inl (fun ref c hbears => hbears.of_set hr rfl rfl ?_)⟩
    intro hsaved
    rcases hstore with rfl | ⟨sent, call, fault, -, hcall, rfl⟩
    · exact Or.inl hsaved
    · rcases saved_of_transacted hsaved with h | ⟨seed, h | ⟨input, h, -⟩, -⟩
      · exact Or.inl h
      · rcases hcall with ⟨_, _, rfl⟩ | ⟨_, rfl, -⟩ <;> cases h
      · rcases hcall with ⟨_, _, rfl⟩ | ⟨_, rfl, -⟩ <;> cases h
  | spawned path hcontrol =>
    exact ⟨fun _ h => h, Or.inl (fun _ _ hbears => hbears.of_set hr rfl rfl Or.inl)⟩
  | activated sent worktree input fault took control _ _ _ _ _ _ _ =>
    refine ⟨fun _ h => h, Or.inl (fun ref c hbears => hbears.of_set hr rfl rfl ?_)⟩
    intro hsaved
    rcases saved_of_transacted hsaved with h | ⟨seed, hcall | ⟨input, hcall, -⟩, -⟩
    · exact Or.inl h
    · cases hcall
    · cases hcall

/-- A bearer belongs to one ref. -/
structure Owned (w : AssimilationWorld) : Prop where
  used : ∀ ref c, Bears w ref c → c ∈ w.used
  one : ∀ ref ref' c, Bears w ref c → Bears w ref' c → ref = ref'

lemma Owned.moved {w w' : AssimilationWorld} {i : ℕ} {r : AssimilationRun} {m : RunMove}
    (howned : Owned w) (h : Moved w i r m w') (hr : w.runs i = some r) : Owned w' := by
  obtain ⟨hused, hsame | ⟨fresh, credential, hfresh, hnew, hbears⟩⟩ := h.bears hr
  · exact ⟨fun ref c h => hused c (howned.used ref c (hsame ref c h)),
      fun ref ref' c h h' => howned.one ref ref' c (hsame ref c h) (hsame ref' c h')⟩
  · constructor
    · intro ref c h
      rcases hbears ref c h with h | ⟨-, rfl⟩
      · exact hused c (howned.used ref c h)
      · exact hnew
    · intro ref ref' c h h'
      rcases hbears ref c h with h | ⟨rfl, rfl⟩
      · rcases hbears ref' c h' with h' | ⟨-, rfl⟩
        · exact howned.one ref ref' c h h'
        · exact absurd (howned.used ref c h) hfresh
      · rcases hbears ref' c h' with h' | ⟨rfl, -⟩
        · exact absurd (howned.used ref' c h') hfresh
        · rfl

/-- What holds of every state of runs that keep apart. -/
structure Untangled (w : AssimilationWorld) : Prop where
  formed : ∀ i r, w.runs i = some r → r.Formed
  apart : Apart w
  owned : Owned w
  unmoved : w.moves = []

omit [RoleText] in
lemma untangled_start {initial : SeatsFile} (worktrees : List String)
    (hone : ∀ ref ref' c, Saved initial ref c → Saved initial ref' c → ref = ref') :
    Untangled (.start initial worktrees) where
  formed i r hr := by cases hr
  apart :=
    { agree := by
        intro i j r s _ hr
        cases hr
      settled := by
        intro i r hr
        cases hr
      known := by
        intro i r hr
        cases hr }
  owned := by
    have hsaved : ∀ ref c, Bears (.start initial worktrees) ref c → Saved initial ref c := by
      rintro ref c (h | ⟨i, r, sent, hr, -⟩)
      · exact h
      · cases hr
    refine ⟨?_, fun ref ref' c h h' => hone ref ref' c (hsaved ref c h) (hsaved ref' c h')⟩
    intro ref c h
    obtain ⟨record, hmem, rfl⟩ := hsaved ref c h
    exact mem_map_of_mem hmem
  unmoved := rfl

omit [RoleText] in
lemma Untangled.begin {w : AssimilationWorld} (h : Untangled w) {i : ℕ} {args : AssimilateArgs}
    (context : Context) (hnone : w.runs i = none)
    (hflags : args.flags.here = true → args.flags.worktree = none) :
    Untangled (w.set i (.start args context)) := by
  have hruns : ∀ j s, (w.set i (.start args context)).runs j = some s →
      j = i ∧ s = .start args context ∨ w.runs j = some s := by
    intro j s hs
    rw [runs_set] at hs
    split at hs
    · rename_i hj
      exact Or.inl ⟨hj, (Option.some.inj hs).symm⟩
    · exact Or.inr hs
  have hholds : ∀ ref, ¬ (AssimilationRun.start args context).Holds ref := by
    rintro ref ⟨sent, hsent, -⟩
    cases hsent
  have hreads : ∀ ref, ¬ (AssimilationRun.start args context).Reads ref := by
    rintro ref (⟨_, h, -⟩ | ⟨_, h, -⟩ | ⟨_, h, -⟩) <;> cases h
  refine ⟨?_, ⟨?_, ?_, ?_⟩, ⟨?_, ?_⟩, h.unmoved⟩
  · intro j s hs
    rcases hruns j s hs with ⟨-, rfl⟩ | hs
    · exact formed_start context hflags
    · exact h.formed j s hs
  · intro a b p q hab hp hq ref hpref hqref
    rcases hruns a p hp with ⟨-, rfl⟩ | hp
    · exact absurd hpref (hholds ref)
    · rcases hruns b q hq with ⟨-, rfl⟩ | hq
      · exact absurd hqref (hholds ref)
      · exact h.apart.agree a b p q hab hp hq ref hpref hqref
  · intro j s hs ref left hsholds hseated
    rcases hruns j s hs with ⟨-, rfl⟩ | hs
    · exact absurd hsholds (hholds ref)
    · exact h.apart.settled j s hs ref left hsholds hseated
  · intro j s hs ref left hsreads hseated
    rcases hruns j s hs with ⟨-, rfl⟩ | hs
    · exact absurd hsreads (hreads ref)
    · refine (h.apart.known j s hs ref left hsreads hseated).imp id ?_
      rintro ⟨k, t, ht, hplaced⟩
      refine ⟨k, t, ?_, hplaced⟩
      rw [runs_set, if_neg]
      · exact ht
      · rintro rfl
        rw [hnone] at ht
        cases ht
  all_goals
    have hbears : ∀ ref c, Bears (w.set i (.start args context)) ref c → Bears w ref c := by
      rintro ref c (hsaved | ⟨j, s, sent, hs, hsent, hrest⟩)
      · exact Or.inl hsaved
      · rcases hruns j s hs with ⟨-, rfl⟩ | hs
        · cases hsent
        · exact Or.inr ⟨j, s, sent, hs, hsent, hrest⟩
  · intro ref c hb
    exact h.owned.used ref c (hbears ref c hb)
  · intro ref ref' c hb hb'
    exact h.owned.one ref ref' c (hbears ref c hb) (hbears ref' c hb')

lemma Untangled.step {w : AssimilationWorld} {l : AssimilationStep} (h : Untangled w)
    (hunclaimed : Unclaimed w l) : Untangled (assimilationStep w l) := by
  cases l with
  | begin i args context =>
    unfold assimilationStep
    dsimp only
    split
    · exact h
    · rename_i hsome
      exact h.begin context (Option.not_isSome_iff_eq_none.mp hsome) hunclaimed
  | move i m =>
    unfold assimilationStep
    dsimp only
    split
    · exact h
    · rename_i r hr
      have hmoved := moveStep_moved w i r m
      refine ⟨hmoved.formed hr h.formed, ?_, h.owned.moved hmoved hr,
        (hmoved.moves hr h.apart).trans h.unmoved⟩
      rcases hmoved.shift hr (h.formed i r hr) h.apart hunclaimed with heq | ⟨r', hshift⟩
      · rw [heq]
        exact h.apart
      · exact h.apart.shift hshift

/-- A seat whose ref no other run was given is unclaimed. -/
lemma unclaimed_of_refs {w : AssimilationWorld} {i : ℕ} {credential : String} {fault : Fault}
    (ref : String) (hinput : ((w.runs i).bind (fun r => r.prepareInput credential)).map
      (fun p => seatRef p.2.seed.toSeatIdentity) = some ref)
    (hothers : ∀ j, j ≠ i → ((w.runs j).bind AssimilationRun.sent).map SentAttach.ref ≠ some ref) :
    Unclaimed w (.move i (.prepare credential fault)) := by
  intro r role input hr _ hprepare _ j s hj hs ⟨sent, hsent, href, _⟩
  rw [hr, Option.bind_some, hprepare] at hinput
  have hown : seatRef input.seed.toSeatIdentity = ref := Option.some.inj hinput
  refine absurd ?_ (hothers j hj)
  rw [hs, Option.bind_some, hsent]
  exact congrArg some (href.trans hown)

end Steps

section Instances

attribute [local instance] plainSeats plainRoles

/-- Two siblings of one repository, both without a name. -/
def siblingArgs (worktree : Option String) : AssimilateArgs := ⟨none, ⟨worktree, false, false⟩⟩

def workerRole : Role :=
  ⟨"5d3f4c1e-9a57-4b7b-8c1d-2f6e7a8b9c0d", "worker", true, false, false, some .worker⟩

def repositoryContext : Context where
  projectRoot := "/repo"
  commonDir := "/repo/.git"
  repositoryOrigin := none
  authority := ⟨"https://borg.local:7091", "sha256-trust", "11111111-1111-4111-8111-111111111111"⟩
  cubeName := "cube"
  roles := [workerRole]
  drones := []

def droneAnswer (sessionId : String) : AttachAnswer :=
  ⟨"22222222-2222-4222-8222-222222222222", "worker-1", sessionId, true⟩

/-- From the start to the prepared seat. -/
def prepareSteps (i : ℕ) (uuid credential : String) : List AssimilationStep :=
  [.move i .readActive, .move i .checkSaved, .move i (.choose uuid),
    .move i (.prepare credential .none)]

/-- From the answer to the activation. -/
def finishSteps (i : ℕ) (sessionId path : String) : List AssimilationStep :=
  [.move i (.attach (some (droneAnswer sessionId))), .move i (.spawn path),
    .move i (.activate .none)]

def overlapSteps : List AssimilationStep :=
  [.begin 0 (siblingArgs none) repositoryContext, .begin 1 (siblingArgs none) repositoryContext] ++
    prepareSteps 0 "u0" "bearer-0" ++ prepareSteps 1 "u1" "bearer-1" ++
    finishSteps 0 "33333333-3333-4333-8333-333333333333" "/repo-worker-1" ++
    finishSteps 1 "44444444-4444-4444-8444-444444444444" "/repo-worker-2"

/-- `--here` with a name: the seat of the run's own worktree moves to the named sibling's. -/
example :
    let w := run assimilationStep (.start emptyStore ["/repo"])
      ([.begin 0 (siblingArgs none) repositoryContext] ++ prepareSteps 0 "u0" "bearer-0" ++
        finishSteps 0 "33333333-3333-4333-8333-333333333333" "/repo-worker-1" ++
        [.begin 1 ⟨none, ⟨some "x", true, false⟩⟩
          { repositoryContext with projectRoot := "/repo-worker-1" },
          .move 1 .readActive, .move 1 .hydrate, .move 1 (.choose "u1"), .move 1 (.probe .live false),
          .move 1 (.prepare "bearer-1" .none),
          .move 1 (.attach (some { droneAnswer "44444444-4444-4444-8444-444444444444" with
            created := false })),
          .move 1 (.spawn "/repo-x"), .move 1 (.activate .none)])
    w.moves.map Prod.snd = ["/repo-worker-1"] := by
  decide +kernel

/-- Two siblings with names of their own, one after the other step by step. -/
def namedSteps : List AssimilationStep :=
  [.begin 0 (siblingArgs (some "a")) repositoryContext,
    .begin 1 (siblingArgs (some "beta")) repositoryContext] ++
    prepareSteps 0 "u0" "bearer-0" ++ prepareSteps 1 "u1" "bearer-1" ++
    finishSteps 0 "33333333-3333-4333-8333-333333333333" "/repo-a" ++
    finishSteps 1 "44444444-4444-4444-8444-444444444444" "/repo-beta"

lemma namedSteps_unclaimed :
    Meets assimilationStep Unclaimed (.start emptyStore ["/repo"]) namedSteps := by
  have hunbegun : ∀ k j, j ≠ 0 → j ≠ 1 →
      (run assimilationStep (.start emptyStore ["/repo"]) (namedSteps.take k)).runs j = none := by
    intro k j h0 h1
    refine runs_of_unbegun rfl ?_
    intro args context hmem
    have hmem := mem_of_mem_take hmem
    simp [namedSteps, prepareSteps, finishSteps, h0, h1] at hmem
  refine ⟨fun h => absurd h (by decide), fun h => absurd h (by decide), trivial, trivial, trivial, ?_, trivial, trivial,
    trivial, ?_, trivial, trivial, trivial, trivial, trivial, trivial, trivial⟩
  · refine unclaimed_of_refs ("borg-server-session:" ++ String.ofList (replicate 64 'c'))
      (by decide +kernel) ?_
    intro j hj
    by_cases h1 : j = 1
    · subst h1
      decide +kernel
    · change (((run assimilationStep (.start emptyStore ["/repo"]) (namedSteps.take 5)).runs j).bind
        AssimilationRun.sent).map SentAttach.ref ≠ _
      rw [hunbegun 5 j hj h1]
      simp
  · refine unclaimed_of_refs ("borg-server-session:" ++ String.ofList (replicate 64 'f'))
      (by decide +kernel) ?_
    intro j hj
    by_cases h0 : j = 0
    · subst h0
      decide +kernel
    · change (((run assimilationStep (.start emptyStore ["/repo"]) (namedSteps.take 9)).runs j).bind
        AssimilationRun.sent).map SentAttach.ref ≠ _
      rw [hunbegun 9 j h0 hj]
      simp

end Instances

end BorgClient.Assimilation
