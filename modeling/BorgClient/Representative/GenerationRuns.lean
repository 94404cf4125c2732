import BorgClient.Representative.Generations

/-!
# What a commit may change

CURRENT moves under the publish mutex only, and a reset that moves it away from a generation holds
that generation's write lock, unless nobody can commit there. So a transaction that found CURRENT
naming its generation still finds it so when it commits.
-/

namespace BorgClient.Representative
open Runs

namespace GenWorld

/-- Everything CURRENT has named. -/
def published (w : GenWorld) : List Gen := w.origin.toList ++ w.firsts ++ w.resets

/-- CURRENT names the generation, or nobody can commit to it. -/
def Pinned (w : GenWorld) (g : Gen) : Prop :=
  w.current = some g ∨ (w.files g).health = .unopenable

/-- The process is in a write transaction that found the rows `begun`. -/
structure Holds (w : GenWorld) (p : ℕ) (g : Gen) (begun : Db) : Prop where
  published : g ∈ w.published
  writer : (w.files g).writer = some p
  rows : (w.files g).rows = begun

/-- What a publisher relies on until its rename. -/
def Entitled (w : GenWorld) (p : ℕ) : Publisher → Prop
  | .first _ => w.current = none
  | .reset previous true =>
    w.current = some previous ∧ previous ∈ w.published ∧ (w.files previous).writer = some p
  | .reset previous false =>
    w.current = some previous ∧ previous ∈ w.published ∧ (w.files previous).health = .unopenable

/-- The write lock a reset keeps until it is done. -/
def Keeps (w : GenWorld) (p : ℕ) : Publisher → Prop
  | .reset previous true => previous ∈ w.published ∧ (w.files previous).writer = some p
  | _ => True

/-- What holds at each control point of process `p`. -/
def Ok (w : GenWorld) (p : ℕ) : GenControl → Prop
  | .opening _ g | .beginning _ g => g ∈ w.published
  | .checking _ g begun => w.Holds p g begun
  | .running _ g begun | .committing g begun _ => w.Holds p g begun ∧ w.Pinned g
  | .firstCheck _ | .resetRead | .releasing _ => w.mutex = some p
  | .inspecting g | .excluding g => w.mutex = some p ∧ w.current = some g ∧ g ∈ w.published
  | .making pub => w.mutex = some p ∧ w.Entitled p pub
  | .filling pub g | .publishing pub g =>
    w.mutex = some p ∧ w.Entitled p pub ∧ g ∉ w.published ∧ g ∈ w.names
  | .retaining pub _ => w.mutex = some p ∧ w.Keeps p pub
  | .unlocking g _ => w.mutex = some p ∧ g ∈ w.published ∧ (w.files g).writer = some p
  | .idle | .locate _ _ | .refused _ _ _ | .firstMutex _ | .resetMutex | .finished _ => True

/-- A change by process `p` that takes nothing from the others. -/
structure Spares (p : ℕ) (w w' : GenWorld) : Prop where
  published : ∀ g ∈ w.published, g ∈ w'.published
  names : ∀ g ∈ w.names, g ∈ w'.names
  mutex : ∀ q, q ≠ p → w.mutex = some q →
    w'.mutex = some q ∧ w'.current = w.current ∧ ∀ g ∈ w'.published, g ∈ w.published
  writer : ∀ q, q ≠ p → ∀ g ∈ w.published, (w.files g).writer = some q →
    (w'.files g).writer = some q ∧ (w'.files g).rows = (w.files g).rows ∧
      (w.Pinned g → w'.Pinned g)
  unopenable : ∀ g ∈ w.published, (w.files g).health = .unopenable →
    (w'.files g).health = .unopenable

lemma Spares.refl (p : ℕ) (w : GenWorld) : Spares p w w where
  published := fun _ => id
  names := fun _ => id
  mutex := fun _ _ h => ⟨h, rfl, fun _ => id⟩
  writer := fun _ _ _ _ h => ⟨h, rfl, id⟩
  unopenable := fun _ _ => id

lemma Spares.trans {p : ℕ} {a b c : GenWorld} (h : Spares p a b) (h' : Spares p b c) :
    Spares p a c where
  published := fun g hg => h'.published g (h.published g hg)
  names := fun g hg => h'.names g (h.names g hg)
  mutex := by
    intro q hq hm
    obtain ⟨hm₁, hc₁, hp₁⟩ := h.mutex q hq hm
    obtain ⟨hm₂, hc₂, hp₂⟩ := h'.mutex q hq hm₁
    exact ⟨hm₂, hc₂.trans hc₁, fun g hg => hp₁ g (hp₂ g hg)⟩
  writer := by
    intro q hq g hg hw
    obtain ⟨hw₁, hr₁, hp₁⟩ := h.writer q hq g hg hw
    obtain ⟨hw₂, hr₂, hp₂⟩ := h'.writer q hq g (h.published g hg) hw₁
    exact ⟨hw₂, hr₂.trans hr₁, fun hp => hp₂ (hp₁ hp)⟩
  unopenable := fun g hg hu => h'.unopenable g (h.published g hg) (h.unopenable g hg hu)

variable {w w' : GenWorld} {p q : ℕ} {g : Gen}

lemma Holds.spared {begun : Db} (h : w.Holds q g begun) (hs : Spares p w w') (hq : q ≠ p) :
    w'.Holds q g begun := by
  obtain ⟨hw, hr, -⟩ := hs.writer q hq g h.published h.writer
  exact ⟨hs.published g h.published, hw, hr.trans h.rows⟩

lemma Entitled.spared {pub : Publisher} (h : w.Entitled q pub) (hs : Spares p w w') (hq : q ≠ p)
    (hm : w.mutex = some q) : w'.Entitled q pub := by
  obtain ⟨-, hc, -⟩ := hs.mutex q hq hm
  cases pub with
  | first call => exact hc.trans h
  | reset previous exclusive =>
    cases exclusive with
    | true =>
      obtain ⟨hcur, hpub, hw⟩ := h
      exact ⟨hc.trans hcur, hs.published _ hpub, (hs.writer q hq _ hpub hw).1⟩
    | false =>
      obtain ⟨hcur, hpub, hu⟩ := h
      exact ⟨hc.trans hcur, hs.published _ hpub, hs.unopenable _ hpub hu⟩

/-- What another process relies on, it may still rely on. -/
lemma Ok.spared {control : GenControl} (h : w.Ok q control) (hs : Spares p w w') (hq : q ≠ p) :
    w'.Ok q control := by
  have hmutex : w.mutex = some q → w'.mutex = some q := fun hm => (hs.mutex q hq hm).1
  cases control with
  | idle | locate | refused | firstMutex | resetMutex | finished => trivial
  | opening call g => exact hs.published g h
  | beginning call g => exact hs.published g h
  | checking call g begun => exact Holds.spared h hs hq
  | running call g begun =>
    exact ⟨h.1.spared hs hq, (hs.writer q hq g h.1.published h.1.writer).2.2 h.2⟩
  | committing g begun next =>
    exact ⟨h.1.spared hs hq, (hs.writer q hq g h.1.published h.1.writer).2.2 h.2⟩
  | firstCheck call => exact hmutex h
  | resetRead => exact hmutex h
  | releasing leaving => exact hmutex h
  | inspecting g => exact ⟨hmutex h.1, (hs.mutex q hq h.1).2.1.trans h.2.1, hs.published g h.2.2⟩
  | excluding g => exact ⟨hmutex h.1, (hs.mutex q hq h.1).2.1.trans h.2.1, hs.published g h.2.2⟩
  | making pub => exact ⟨hmutex h.1, h.2.spared hs hq h.1⟩
  | filling pub g =>
    refine ⟨hmutex h.1, h.2.1.spared hs hq h.1, ?_, hs.names g h.2.2.2⟩
    exact fun hg => h.2.2.1 ((hs.mutex q hq h.1).2.2 g hg)
  | publishing pub g =>
    refine ⟨hmutex h.1, h.2.1.spared hs hq h.1, ?_, hs.names g h.2.2.2⟩
    exact fun hg => h.2.2.1 ((hs.mutex q hq h.1).2.2 g hg)
  | retaining pub g =>
    refine ⟨hmutex h.1, ?_⟩
    have hkeeps := h.2
    unfold Keeps at hkeeps ⊢
    split
    · rename_i previous
      exact ⟨hs.published _ hkeeps.1, (hs.writer q hq _ hkeeps.1 hkeeps.2).1⟩
    · trivial
  | unlocking g result =>
    exact ⟨hmutex h.1, hs.published g h.2.1, (hs.writer q hq g h.2.1 h.2.2).1⟩

/-! ### The changes, as the others see them -/

lemma spares_setHandle (handle : Option Gen) : Spares q w (w.setHandle p handle) :=
  ⟨fun _ => id, fun _ => id, fun _ _ h => ⟨h, rfl, fun _ => id⟩, fun _ _ _ _ h => ⟨h, rfl, id⟩,
    fun _ _ => id⟩

/-- Taking or dropping a write lock that no other process holds. -/
lemma spares_setWriter {writer : Option ℕ}
    (h : (w.files g).writer = none ∨ (w.files g).writer = some p) :
    Spares p w (w.setWriter g writer) := by
  have hhealth : ∀ g', ((w.setWriter g writer).files g').health = (w.files g').health := by
    intro g'
    by_cases hg : g' = g
    · subst hg
      simp [setWriter]
    · simp [setWriter, hg]
  refine ⟨fun _ => id, fun _ => id, fun _ _ hm => ⟨hm, rfl, fun _ => id⟩, ?_, ?_⟩
  · intro q hq g' _ hw
    have hg : g' ≠ g := by
      rintro rfl
      rcases h with h | h
      · simp [hw] at h
      · exact hq (Option.some.inj (hw.symm.trans h))
    have hsame : (w.setWriter g writer).files g' = w.files g' := by simp [setWriter, hg]
    refine ⟨by rw [hsame]; exact hw, by rw [hsame], ?_⟩
    intro hp
    unfold Pinned
    rw [hhealth]
    exact hp
  · intro g' _ hu
    rw [hhealth]
    exact hu

/-- Rewriting rows nobody else is in a transaction on. -/
lemma spares_setRows {rows : Db} (h : (w.files g).writer = some p ∨ g ∉ w.published) :
    Spares p w (w.setRows g rows) := by
  have hhealth : ∀ g', ((w.setRows g rows).files g').health = (w.files g').health := by
    intro g'
    by_cases hg : g' = g
    · subst hg
      simp [setRows]
    · simp [setRows, hg]
  refine ⟨fun _ => id, fun _ => id, fun _ _ hm => ⟨hm, rfl, fun _ => id⟩, ?_, ?_⟩
  · intro q hq g' hg' hw
    have hg : g' ≠ g := by
      rintro rfl
      rcases h with h | h
      · exact hq (Option.some.inj (hw.symm.trans h))
      · exact h hg'
    have hsame : (w.setRows g rows).files g' = w.files g' := by simp [setRows, hg]
    refine ⟨by rw [hsame]; exact hw, by rw [hsame], ?_⟩
    intro hp
    unfold Pinned
    rw [hhealth]
    exact hp
  · intro g' _ hu
    rw [hhealth]
    exact hu

/-- Taking or dropping the mutex while no other process holds it. -/
lemma spares_setMutex {mutex : Option ℕ} (h : w.mutex = none ∨ w.mutex = some p) :
    Spares p w (w.setMutex mutex) := by
  refine ⟨fun _ => id, fun _ => id, ?_, fun _ _ _ _ hw => ⟨hw, rfl, id⟩, fun _ _ => id⟩
  intro q hq hm
  rcases h with h | h
  · simp [hm] at h
  · exact absurd (Option.some.inj (hm.symm.trans h)) hq

lemma spares_addDirectory (h : ∀ g' ∈ w.published, g' ≠ g) :
    Spares p w (w.addDirectory g) := by
  have hsame : ∀ g' ∈ w.published, (w.addDirectory g).files g' = w.files g' := by
    intro g' hg'
    simp [addDirectory, h g' hg']
  refine ⟨fun _ => id, fun _ => List.mem_append_left [g], fun _ _ hm => ⟨hm, rfl, fun _ => id⟩,
    ?_, ?_⟩
  · intro q _ g' hg' hw
    refine ⟨by rw [hsame g' hg']; exact hw, by rw [hsame g' hg'], ?_⟩
    intro hp
    unfold Pinned
    rw [hsame g' hg']
    exact hp
  · intro g' hg' hu
    rw [hsame g' hg']
    exact hu

lemma spares_unlink (gens : List Gen) : Spares p w (w.unlink gens) :=
  ⟨fun _ => id, fun _ => id, fun _ _ h => ⟨h, rfl, fun _ => id⟩, fun _ _ _ _ h => ⟨h, rfl, id⟩,
    fun _ _ => id⟩

/-- The rename of an entitled publisher: a transaction it leaves on the old generation cannot
commit. -/
lemma spares_setCurrent {pub : Publisher} (hm : w.mutex = some p) (h : w.Entitled p pub) :
    Spares p w (w.setCurrent g pub) := by
  have hfiles : (w.setCurrent g pub).files = w.files := by cases pub <;> rfl
  have hpublished : ∀ g' ∈ w.published, g' ∈ (w.setCurrent g pub).published := by
    intro g' hg'
    cases pub with
    | first call =>
      simp only [setCurrent, published, List.mem_append] at hg' ⊢
      tauto
    | reset previous exclusive =>
      simp only [setCurrent, published, List.mem_append] at hg' ⊢
      tauto
  refine ⟨hpublished, ?_, ?_, ?_, ?_⟩
  · intro g' hg'
    cases pub <;> exact hg'
  · intro q hq hmq
    exact absurd (Option.some.inj (hmq.symm.trans hm)) hq
  · intro q hq g' _ hw
    rw [hfiles]
    refine ⟨hw, rfl, ?_⟩
    rintro (hcur | hu)
    · cases pub with
      | first call =>
        rw [show w.current = none from h] at hcur
        simp at hcur
      | reset previous exclusive =>
        cases exclusive with
        | true =>
          obtain ⟨hc, -, hwriter⟩ := h
          obtain rfl : g' = previous := Option.some.inj (hcur.symm.trans hc)
          exact absurd (Option.some.inj (hw.symm.trans hwriter)) hq
        | false =>
          obtain ⟨hc, -, hu⟩ := h
          obtain rfl : g' = previous := Option.some.inj (hcur.symm.trans hc)
          exact Or.inr (hfiles ▸ hu)
    · exact Or.inr (hfiles ▸ hu)
  · intro g' _ hu
    rw [hfiles]
    exact hu

lemma spares_goto (control : GenControl) : Spares q w (w.goto p control) :=
  ⟨fun _ => id, fun _ => id, fun _ _ h => ⟨h, rfl, fun _ => id⟩, fun _ _ _ _ h => ⟨h, rfl, id⟩,
    fun _ _ => id⟩

lemma spares_crash : Spares p w (w.crash p) := by
  refine ⟨fun _ => id, fun _ => id, ?_, ?_, fun _ _ => id⟩
  · intro q hq hm
    have hne : w.mutex ≠ some p := by
      rw [hm]
      simpa using hq
    exact ⟨by simp [crash, hm, hq], rfl, fun _ => id⟩
  · intro q hq g' _ hw
    exact ⟨by simp [crash, hw, hq], rfl, id⟩

/-! ### One step -/

/-- CURRENT names the last generation published, and at most one was published first. -/
structure Ledger (w : GenWorld) : Prop where
  names : ∀ g ∈ w.published, g ∈ w.names
  last : w.current = w.published.getLast?
  once : w.firsts.length ≤ 1
  origin : w.origin.isSome → w.firsts = []

/-- The generation a step commits a transaction to. -/
def commitsTo (w : GenWorld) : GenStep → Option Gen
  | .advance p c =>
    match w.control p with
    | .committing g _ _ =>
      if c.fails.isSome || (w.files g).health = .unopenable then none else some g
    | _ => none
  | _ => none

/-- What a step of process `p` that commits to `commit` does. -/
structure Steps (p : ℕ) (w w' : GenWorld) (commit : Option Gen) : Prop where
  spares : Spares p w w'
  others : ∀ q, q ≠ p → w'.control q = w.control q
  own : w'.Ok p (w'.control p)
  ledger : w.Ledger → w'.Ledger
  rows : ∀ g ∈ w.published, commit ≠ some g → (w'.files g).rows = (w.files g).rows

/-- A change that spares process `p` too. -/
lemma Ok.unaffected {control : GenControl} (h : w.Ok p control) (hs : Spares (p + 1) w w') :
    w'.Ok p control :=
  h.spared hs (by omega)

/-- A change of the shared state, and the process moves on. -/
lemma Steps.goto {control : GenControl} {commit : Option Gen} (hs : Spares p w w')
    (hcontrol : w'.control = w.control) (hown : w'.Ok p control) (hledger : w.Ledger → w'.Ledger)
    (hrows : ∀ g ∈ w.published, commit ≠ some g → (w'.files g).rows = (w.files g).rows) :
    Steps p w (w'.goto p control) commit := by
  refine ⟨hs.trans (spares_goto control), ?_, ?_, ?_, hrows⟩
  · intro q hq
    simp [GenWorld.goto, hq, hcontrol]
  · have hself : (w'.goto p control).control p = control := by simp [GenWorld.goto]
    rw [hself]
    exact hown.unaffected (spares_goto control)
  · intro h
    have h' := hledger h
    exact ⟨h'.names, h'.last, h'.once, h'.origin⟩

lemma steps_goto {control : GenControl} {commit : Option Gen} (h : w.Ok p control) :
    Steps p w (w.goto p control) commit :=
  Steps.goto (Spares.refl p w) rfl h id (fun _ _ _ => rfl)

lemma steps_stay {commit : Option Gen} (h : w.Ok p (w.control p)) : Steps p w w commit :=
  ⟨Spares.refl p w, fun _ _ => rfl, h, id, fun _ _ _ => rfl⟩

lemma steps_setHandle {control : GenControl} {commit : Option Gen} (handle : Option Gen)
    (h : w.Ok p control) : Steps p w ((w.setHandle p handle).goto p control) commit :=
  Steps.goto (spares_setHandle handle) rfl (h.unaffected (spares_setHandle handle))
    (fun h => ⟨h.names, h.last, h.once, h.origin⟩) (fun _ _ _ => rfl)

lemma setWriter_rows (writer : Option ℕ) (g' : Gen) :
    ((w.setWriter g writer).files g').rows = (w.files g').rows := by
  by_cases hg : g' = g
  · subst hg
    simp [setWriter]
  · simp [setWriter, hg]

/-- Taking or dropping a write lock, and moving on. -/
lemma steps_setWriter {control : GenControl} {commit : Option Gen} {writer : Option ℕ}
    (h : (w.files g).writer = none ∨ (w.files g).writer = some p)
    (hown : (w.setWriter g writer).Ok p control) :
    Steps p w ((w.setWriter g writer).goto p control) commit :=
  Steps.goto (spares_setWriter h) rfl hown (fun h => ⟨h.names, h.last, h.once, h.origin⟩)
    (fun g' _ _ => setWriter_rows writer g')

/-- `ROLLBACK`: no row changes. -/
lemma steps_rollback {control : GenControl} {commit : Option Gen}
    (h : (w.files g).writer = some p) (hown : ∀ v : GenWorld, v.Ok p control) :
    Steps p w (w.rollback p g control) commit :=
  steps_setWriter (Or.inr h) (hown _)

lemma steps_discard {control : GenControl} {commit : Option Gen}
    (h : (w.files g).writer = some p) (hown : ∀ v : GenWorld, v.Ok p control) :
    Steps p w ((w.setHandle p none).rollback p g control) commit := by
  refine Steps.goto ((spares_setHandle none).trans (spares_setWriter (Or.inr h))) rfl (hown _) ?_ ?_
  · exact fun h => ⟨h.names, h.last, h.once, h.origin⟩
  · exact fun g' _ _ => setWriter_rows (w := w.setHandle p none) none g'

lemma Entitled.keeps {pub : Publisher} (h : w.Entitled p pub) : w.Keeps p pub := by
  cases pub with
  | first call => trivial
  | reset previous exclusive =>
    cases exclusive with
    | true => exact h.2
    | false => trivial

lemma steps_abandon {pub : Publisher} {e : StateFailure} {commit : Option Gen}
    (hm : w.mutex = some p) (h : w.Keeps p pub) : Steps p w (w.abandon p pub e) commit := by
  cases pub with
  | first call => exact steps_goto hm
  | reset previous exclusive =>
    cases exclusive with
    | true => exact steps_goto ⟨hm, h.1, h.2⟩
    | false => exact steps_goto hm

lemma steps_setMutex {control : GenControl} {mutex : Option ℕ} {commit : Option Gen}
    (h : w.mutex = none ∨ w.mutex = some p) (hown : (w.setMutex mutex).Ok p control) :
    Steps p w ((w.setMutex mutex).goto p control) commit :=
  Steps.goto (spares_setMutex h) rfl hown (fun h => ⟨h.names, h.last, h.once, h.origin⟩)
    (fun _ _ _ => rfl)

/-- A publisher's claim survives changes of a directory that was never published. -/
lemma Entitled.files {pub : Publisher} (h : w.Entitled p pub) (hc : w'.current = w.current)
    (hp : w'.published = w.published) (hf : ∀ g ∈ w.published, w'.files g = w.files g) :
    w'.Entitled p pub := by
  cases pub with
  | first call => exact hc.trans h
  | reset previous exclusive =>
    cases exclusive with
    | true =>
      obtain ⟨hcur, hpub, hw⟩ := h
      exact ⟨hc.trans hcur, hp ▸ hpub, by rw [hf previous hpub]; exact hw⟩
    | false =>
      obtain ⟨hcur, hpub, hu⟩ := h
      exact ⟨hc.trans hcur, hp ▸ hpub, by rw [hf previous hpub]; exact hu⟩

lemma steps_making {pub : Publisher} {commit : Option Gen} (hl : w.Ledger)
    (hm : w.mutex = some p) (h : w.Entitled p pub) (hnew : g ∉ w.names) :
    Steps p w ((w.addDirectory g).goto p (.filling pub g)) commit := by
  have hfresh : ∀ g' ∈ w.published, g' ≠ g := by
    rintro g' hg' rfl
    exact hnew (hl.names g' hg')
  have hsame : ∀ g' ∈ w.published, (w.addDirectory g).files g' = w.files g' := by
    intro g' hg'
    simp [addDirectory, hfresh g' hg']
  refine Steps.goto (spares_addDirectory hfresh) rfl ?_ ?_ ?_
  · refine ⟨hm, h.files rfl rfl hsame, fun hg => hfresh g hg rfl, ?_⟩
    simp [addDirectory]
  · exact fun h => ⟨fun g' hg' => List.mem_append_left [g] (h.names g' hg'), h.last, h.once,
      h.origin⟩
  · intro g' hg' _
    rw [hsame g' hg']

lemma steps_filling {pub : Publisher} {rows : Db} {commit : Option Gen}
    (hm : w.mutex = some p) (h : w.Entitled p pub) (hnew : g ∉ w.published) (hg : g ∈ w.names) :
    Steps p w ((w.setRows g rows).goto p (.publishing pub g)) commit := by
  have hsame : ∀ g' ∈ w.published, (w.setRows g rows).files g' = w.files g' := by
    intro g' hg'
    have hne : g' ≠ g := by
      rintro rfl
      exact hnew hg'
    simp [setRows, hne]
  refine Steps.goto (spares_setRows (Or.inr hnew)) rfl ⟨hm, h.files rfl rfl hsame, hnew, hg⟩ ?_ ?_
  · exact fun h => ⟨h.names, h.last, h.once, h.origin⟩
  · intro g' hg' _
    rw [hsame g' hg']

/-- The rename over CURRENT. -/
lemma steps_publishing {pub : Publisher} {commit : Option Gen} (hm : w.mutex = some p)
    (h : w.Entitled p pub) (hg : g ∈ w.names) :
    Steps p w ((w.setCurrent g pub).goto p (.retaining pub g)) commit := by
  have hspares := spares_setCurrent (g := g) hm h
  refine Steps.goto hspares ?_ ?_ ?_ ?_
  · cases pub <;> rfl
  · cases pub with
    | first call => exact ⟨hm, trivial⟩
    | reset previous exclusive =>
      cases exclusive with
      | true => exact ⟨hm, hspares.published _ h.2.1, h.2.2⟩
      | false => exact ⟨hm, trivial⟩
  · intro hl
    cases pub with
    | first call =>
      have hnone : w.published = [] := by
        have hlast := hl.last
        rw [show w.current = none from h] at hlast
        exact List.getLast?_eq_none_iff.mp hlast.symm
      simp only [published, List.append_eq_nil_iff] at hnone
      obtain ⟨⟨ho, hf⟩, hr⟩ := hnone
      refine ⟨?_, ?_, ?_, ?_⟩
      · intro g' hg'
        simp only [setCurrent, published, ho, hf, hr, List.nil_append, List.append_nil,
          List.mem_singleton] at hg'
        exact hg' ▸ hg
      · simp [setCurrent, published, ho, hf, hr]
      · simp [setCurrent, hf]
      · intro hsome
        have horigin : w.origin.isSome := hsome
        rw [show w.origin = none by simpa using ho] at horigin
        simp at horigin
    | reset previous exclusive =>
      refine ⟨?_, ?_, hl.once, hl.origin⟩
      · intro g' hg'
        simp only [setCurrent, published, List.mem_append, List.mem_singleton] at hg'
        rcases hg' with hg' | hg' | rfl
        · exact hl.names g' (List.mem_append_left _ (List.mem_append.mpr hg'))
        · exact hl.names g' (List.mem_append_right _ hg')
        · exact hg
      · simp [setCurrent, published]
  · intro g' _ _
    cases pub <;> rfl

lemma steps_unlink {control : GenControl} {gens : List Gen} {commit : Option Gen}
    (hown : (w.unlink gens).Ok p control) : Steps p w ((w.unlink gens).goto p control) commit :=
  Steps.goto (spares_unlink gens) rfl hown (fun h => ⟨h.names, h.last, h.once, h.origin⟩)
    (fun _ _ _ => rfl)

lemma mem_published (hl : w.Ledger) (h : w.current = some g) : g ∈ w.published :=
  List.mem_of_getLast? (hl.last.symm.trans h)

/-- One step of a process. -/
lemma steps_advance (hl : w.Ledger) (hok : w.Ok p (w.control p)) (c : Choice) :
    Steps p w (w.advance p c) (w.commitsTo (.advance p c)) := by
  have hstay : Steps p w w (w.commitsTo (.advance p c)) := steps_stay hok
  unfold advance
  split
  · exact hstay
  · exact hstay
  · -- locate
    split
    · exact steps_goto trivial
    · rename_i g _ hcurrent
      have hg : g ∈ w.published := mem_published hl hcurrent
      split
      · exact steps_goto hg
      · exact steps_setHandle none hg
    · split
      · exact steps_goto trivial
      · exact steps_goto trivial
  · -- opening
    rename_i call target hctl
    rw [hctl] at hok
    split
    · exact steps_goto trivial
    · exact steps_goto trivial
    · exact steps_setHandle (some target) hok
  · -- beginning
    rename_i call target hctl
    rw [hctl] at hok
    split
    · exact steps_goto trivial
    · split
      · exact steps_goto trivial
      · split
        · exact hstay
        · rename_i hfree
          refine steps_setWriter (Or.inl (by simpa using hfree)) ⟨hok, ?_, ?_⟩
          · simp [setWriter]
          · exact setWriter_rows (some p) target
  · -- checking
    rename_i call gen begun hctl
    rw [hctl] at hok
    split
    · exact steps_rollback hok.writer (fun _ => trivial)
    · split
      · rename_i hcurrent
        exact steps_goto ⟨hok, Or.inl hcurrent⟩
      · split
        · exact steps_discard hok.writer (fun _ => trivial)
        · exact steps_discard hok.writer (fun _ => trivial)
  · -- running
    rename_i call gen begun hctl
    rw [hctl] at hok
    split
    · exact steps_rollback hok.1.writer (fun _ => trivial)
    · exact steps_rollback hok.1.writer (fun _ => trivial)
    · exact steps_goto hok
  · -- committing
    rename_i gen begun next hctl
    rw [hctl] at hok
    split
    · exact steps_rollback hok.1.writer (fun _ => trivial)
    · rename_i hfails
      split
      · exact steps_discard hok.1.writer (fun _ => trivial)
      · rename_i hopen
        have hcommit : w.commitsTo (.advance p c) = some gen := by
          simp [commitsTo, hctl, hfails, hopen]
        have hwriter : ((w.setRows gen next).files gen).writer = some p := by
          simp [setRows, hok.1.writer]
        refine Steps.goto ((spares_setRows (Or.inl hok.1.writer)).trans
          (spares_setWriter (Or.inr hwriter))) rfl trivial
          (fun h => ⟨h.names, h.last, h.once, h.origin⟩) ?_
        intro g _ hne
        rw [hcommit] at hne
        have hg : g ≠ gen := fun h => hne (congrArg some h.symm)
        rw [setWriter_rows]
        simp [setRows, hg]
  · -- refused
    dsimp only
    generalize (if c.fails.isSome then none else w.current) = nowCurrent
    split
    · exact steps_setHandle none trivial
    · exact steps_setHandle none trivial
  · -- firstMutex
    split
    · exact steps_goto trivial
    · exact hstay
    · rename_i hfree
      exact steps_setMutex (Or.inl hfree) rfl
  · -- firstCheck
    rename_i call hctl
    rw [hctl] at hok
    split
    · exact steps_goto hok
    · exact steps_goto hok
    · rename_i hnone
      exact steps_goto ⟨hok, hnone⟩
  · -- resetMutex
    split
    · exact steps_goto trivial
    · exact hstay
    · rename_i hfree
      exact steps_setMutex (Or.inl hfree) rfl
  · -- resetRead
    rename_i hctl
    rw [hctl] at hok
    split
    · exact steps_goto hok
    · rename_i g hcurrent
      exact steps_goto ⟨hok, hcurrent, mem_published hl hcurrent⟩
    · exact steps_goto hok
  · -- inspecting
    rename_i previous hctl
    rw [hctl] at hok
    split
    · exact steps_goto hok.1
    · split
      · exact steps_goto hok.1
      · split
        · exact steps_goto hok.1
        · exact steps_goto hok
        · rename_i hhealth
          exact steps_goto ⟨hok.1, hok.2.1, hok.2.2, hhealth⟩
  · -- excluding
    rename_i previous hctl
    rw [hctl] at hok
    split
    · exact steps_goto hok.1
    · split
      · rename_i hhealth
        exact steps_goto ⟨hok.1, hok.2.1, hok.2.2, hhealth⟩
      · split
        · exact hstay
        · rename_i hfree
          refine steps_setWriter (Or.inl (by simpa using hfree)) ⟨hok.1, hok.2.1, hok.2.2, ?_⟩
          simp [setWriter]
  · -- making
    rename_i pub hctl
    rw [hctl] at hok
    dsimp only
    split
    · exact steps_abandon hok.1 hok.2.keeps
    · split
      · exact steps_abandon hok.1 hok.2.keeps
      · rename_i hnew
        exact steps_making hl hok.1 hok.2 hnew
  · -- filling
    rename_i pub gen hctl
    rw [hctl] at hok
    split
    · exact steps_abandon hok.1 hok.2.1.keeps
    · exact steps_filling hok.1 hok.2.1 hok.2.2.1 hok.2.2.2
  · -- publishing
    rename_i pub gen hctl
    rw [hctl] at hok
    split
    · exact steps_abandon hok.1 hok.2.1.keeps
    · exact steps_publishing hok.1 hok.2.1 hok.2.2.2
  · -- retaining
    rename_i pub gen hctl
    rw [hctl] at hok
    dsimp only
    have hm : w.mutex = some p := hok.1
    cases pub with
    | first call => cases c.fails <;> exact steps_unlink hm
    | reset previous exclusive =>
      cases exclusive with
      | true => cases c.fails <;> exact steps_unlink ⟨hm, hok.2.1, hok.2.2⟩
      | false => cases c.fails <;> exact steps_unlink hm
  · -- unlocking
    rename_i previous result hctl
    rw [hctl] at hok
    exact steps_setWriter (Or.inr hok.2.2) hok.1
  · -- releasing
    rename_i leaving hctl
    rw [hctl] at hok
    split
    · exact steps_setMutex (Or.inr hok) trivial
    · exact steps_setMutex (Or.inr hok) trivial
    · exact steps_setMutex (Or.inr hok) trivial

/-! ### Runs -/

structure GenInv (w : GenWorld) : Prop where
  ok : ∀ p, w.Ok p (w.control p)
  ledger : w.Ledger

lemma GenInv.start (current : Option Gen) (names : List Gen) (files : Gen → Bool × Db × Health) :
    GenInv (.start current names files) where
  ok := fun _ => trivial
  ledger := by
    refine ⟨?_, ?_, by simp [GenWorld.start], by simp [GenWorld.start]⟩
    · intro g hg
      simp only [published, GenWorld.start, List.append_nil] at hg ⊢
      exact List.mem_append_left names hg
    · cases current <;> simp [GenWorld.start, published]

/-- A step of one process keeps what every process relies on. -/
lemma GenInv.of_steps {commit : Option Gen} (h : GenInv w) (hs : Steps p w w' commit) :
    GenInv w' where
  ok := by
    intro q
    by_cases hq : q = p
    · exact hq ▸ hs.own
    · rw [hs.others q hq]
      exact (h.ok q).spared hs.spares hq
  ledger := hs.ledger h.ledger

lemma damage_health (h : Health) (g' : Gen) (hu : (w.files g').health = .unopenable) :
    ((w.damage g h).files g').health = .unopenable := by
  unfold damage
  split
  · exact hu
  · exact hu
  · by_cases hg : g' = g
    · subst hg
      simp_all
    · simpa [hg] using hu

lemma damage_writer_rows (h : Health) (g' : Gen) :
    ((w.damage g h).files g').writer = (w.files g').writer ∧
      ((w.damage g h).files g').rows = (w.files g').rows := by
  unfold damage
  split
  · exact ⟨rfl, rfl⟩
  · exact ⟨rfl, rfl⟩
  · by_cases hg : g' = g
    · subst hg
      simp
    · simp [hg]

lemma damage_same (g : Gen) (h : Health) : (w.damage g h).current = w.current ∧
    (w.damage g h).published = w.published ∧ (w.damage g h).names = w.names ∧
    (w.damage g h).mutex = w.mutex ∧ (w.damage g h).control = w.control ∧
    (w.damage g h).firsts = w.firsts ∧ (w.damage g h).origin = w.origin := by
  unfold damage
  split <;> exact ⟨rfl, rfl, rfl, rfl, rfl, rfl, rfl⟩

/-- Damage to a database file spares everybody. -/
lemma spares_damage (g : Gen) (h : Health) : Spares p w (w.damage g h) := by
  obtain ⟨hc, hp, hn, hm, -⟩ := damage_same (w := w) g h
  refine ⟨?_, ?_, ?_, ?_, fun g' _ => damage_health h g'⟩
  · intro g' hg'
    rwa [hp]
  · intro g' hg'
    rwa [hn]
  · intro q _ hmq
    refine ⟨by rw [hm]; exact hmq, hc, ?_⟩
    intro g' hg'
    rwa [hp] at hg'
  · intro q _ g' _ hw
    obtain ⟨hw', hr'⟩ := damage_writer_rows (w := w) (g := g) h g'
    refine ⟨by rw [hw']; exact hw, hr', ?_⟩
    rintro (hcur | hu)
    · exact Or.inl (hc.trans hcur)
    · exact Or.inr (damage_health h g' hu)

lemma steps_crash : Steps p w (w.crash p) none := by
  refine ⟨spares_crash, ?_, ?_, fun h => ⟨h.names, h.last, h.once, h.origin⟩, fun _ _ _ => rfl⟩
  · intro q hq
    simp [crash, hq]
  · have hidle : (w.crash p).control p = .idle := by simp [crash]
    rw [hidle]
    trivial

lemma GenInv.step (h : GenInv w) (l : GenStep) : GenInv (genStep w l) := by
  cases l with
  | transact p body =>
    unfold genStep
    dsimp only
    split
    · have hgo : Steps p w (w.goto p (.locate ⟨body, false⟩ false)) none := steps_goto trivial
      exact h.of_steps hgo
    · exact h
  | reset p =>
    unfold genStep
    dsimp only
    split
    · have hgo : Steps p w (w.goto p .resetMutex) none := steps_goto trivial
      exact h.of_steps hgo
    · exact h
  | advance p c => exact h.of_steps (steps_advance h.ledger (h.ok p) c)
  | crash p => exact h.of_steps steps_crash
  | damage g health =>
    obtain ⟨hc, hp, hn, hm, hcontrol, hf, ho⟩ := damage_same (w := w) g health
    refine ⟨?_, ?_, ?_, ?_, ?_⟩
    · intro q
      have hsame : (genStep w (.damage g health)).control q = w.control q := congrFun hcontrol q
      rw [hsame]
      exact (h.ok q).unaffected (spares_damage g health)
    · intro g' hg'
      have hg : g' ∈ w.published := hp ▸ hg'
      exact hn ▸ h.ledger.names g' hg
    · exact hc.trans (h.ledger.last.trans (congrArg List.getLast? hp.symm))
    · exact hf ▸ h.ledger.once
    · intro hsome
      exact hf ▸ h.ledger.origin (ho ▸ hsome)

lemma GenInv.run (h : GenInv w) (ls : List GenStep) : GenInv (run genStep w ls) :=
  invariant genStep GenInv (fun _ l hw => hw.step l) h ls

/-- The rows of a published generation change at a commit only. -/
lemma rows_step (h : GenInv w) (l : GenStep) (hcommit : w.commitsTo l ≠ some g)
    (hg : g ∈ w.published) : ((genStep w l).files g).rows = (w.files g).rows := by
  cases l with
  | transact p body =>
    unfold genStep
    dsimp only
    split <;> rfl
  | reset p =>
    unfold genStep
    dsimp only
    split <;> rfl
  | advance p c => exact (steps_advance h.ledger (h.ok p) c).rows g hg hcommit
  | crash p => rfl
  | damage g' health => exact (damage_writer_rows health g).2

/-- A commit goes to the generation CURRENT names. -/
lemma commitsTo_current (h : GenInv w) {l : GenStep} (hcommit : w.commitsTo l = some g) :
    w.current = some g := by
  cases l with
  | advance p c =>
    unfold commitsTo at hcommit
    dsimp only at hcommit
    split at hcommit
    · rename_i gen begun next hctl
      split at hcommit
      · cases hcommit
      · rename_i hopen
        obtain rfl := Option.some.inj hcommit
        have hok := h.ok p
        rw [hctl] at hok
        rcases hok.2 with hcur | hu
        · exact hcur
        · simp [hu] at hopen
    · cases hcommit
  | _ => cases hcommit

/-- The transaction a process is in, and the rows it began with. -/
def transaction (w : GenWorld) (p : ℕ) : Option (Gen × Db) :=
  match w.control p with
  | .checking _ g begun | .running _ g begun | .committing g begun _ => some (g, begun)
  | _ => none

lemma transaction_rows (h : GenInv w) {begun : Db} (ht : w.transaction p = some (g, begun)) :
    g ∈ w.published ∧ (w.files g).rows = begun := by
  have hok := h.ok p
  unfold transaction at ht
  split at ht
  · rename_i hctl
    rw [hctl] at hok
    obtain ⟨rfl, rfl⟩ := Prod.mk.inj (Option.some.inj ht)
    exact ⟨hok.published, hok.rows⟩
  · rename_i hctl
    rw [hctl] at hok
    obtain ⟨rfl, rfl⟩ := Prod.mk.inj (Option.some.inj ht)
    exact ⟨hok.1.published, hok.1.rows⟩
  · rename_i hctl
    rw [hctl] at hok
    obtain ⟨rfl, rfl⟩ := Prod.mk.inj (Option.some.inj ht)
    exact ⟨hok.1.published, hok.1.rows⟩
  · cases ht

end GenWorld

open GenWorld

end BorgClient.Representative
