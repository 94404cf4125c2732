import BorgClient.Cubes.Initialization

/-!
# What the initialization of a cube changes

An observer of the calls of `initializeRepositoryCube`: it knows the last answers, what was resolved,
the cube read back and what was changed.
-/

namespace BorgClient.Cubes
open List Calls Calls.Prog

/-- What the replies so far have shown. -/
structure Observed where
  repository : Option CreateCubeRepository
  /-- What was resolved, with what it was asked for. -/
  resolved : List (CreateCubeRepository × String × ResolvedRepositoryCube)
  readBack : Option RepositoryCubeDetail
  cubes : List (String × String)
  tty : Bool
  answer : Option (Question × Answer)
  /-- The answers to the question for a name. -/
  names : List String
  /-- How many cubes were created or linked. -/
  mutations : ℕ
  saves : ℕ

namespace Observed

def start : Observed := ⟨none, [], none, [], false, none, [], 0, 0⟩

def noteAnswer (seen : Observed) (question : Question) (answer : Answer) : Observed :=
  match question, answer with
  | .cubeName, .text name => { seen with
      answer := some (question, answer)
      names := seen.names ++ [name] }
  | _, _ => { seen with answer := some (question, answer) }

def note (seen : Observed) : Event Reply → Observed
  | ⟨.getIdentity, reply⟩ => { seen with repository := reply.toOption }
  | ⟨.getAssociation _, _⟩ => seen
  | ⟨.getCube _, reply⟩ => { seen with readBack := reply.toOption }
  | ⟨.resolveAssociation repository name, reply⟩ => { seen with
      resolved := seen.resolved ++
        reply.toOption.join.toList.map (fun response => (repository, name, response)) }
  | ⟨.listCubes, reply⟩ => { seen with cubes := (reply.toOption).getD [] }
  | ⟨.isTTY, reply⟩ => { seen with tty := reply }
  | ⟨.prompt question, answer⟩ => seen.noteAnswer question answer
  | ⟨.associateCube _ _ _, _⟩ => { seen with mutations := seen.mutations + 1 }
  | ⟨.createCube _ _ _ _, reply⟩ => { seen with
      mutations := seen.mutations + 1
      readBack := reply.toOption.map (·.cube) }
  | ⟨.saveAssociation _ _, _⟩ => { seen with saves := seen.saves + 1 }

section Allowed

variable [CubePlatform]

/-- The names a cube may be looked for by: the proposed one and those the operator gave. -/
def Named (input : InitInput) (seen : Observed) (name : String) : Prop :=
  name = (input.flags.cubeName.map trimmed).getD input.context.derivedName ∨
    ∃ answer ∈ seen.names, name = nameAnswer input.context.derivedName answer

/-- What a call that changes something needs to have been shown. -/
def Allowed (input : InitInput) (seen : Observed) : Call → Prop
  | .createCube _ workingRepoName repository _ =>
    seen.repository = some repository ∧ workingRepoName = input.context.derivedName ∧
      seen.mutations = 0 ∧ seen.saves = 0
  | .associateCube cubeId workingRepoName repository =>
    seen.repository = some repository ∧ workingRepoName = input.context.derivedName ∧
      seen.mutations = 0 ∧ seen.saves = 0 ∧ seen.tty = true ∧ input.flags.yes = false ∧
      (∃ answer, seen.answer = some (.link, .text answer) ∧ confirmation answer = .affirmed) ∧
      ∃ name cubeName, seen.Named input name ∧ exactMatches seen.cubes name = [(cubeId, cubeName)]
  | .saveAssociation repository association =>
    seen.repository = some repository ∧ seen.saves = 0 ∧
      ∃ response cube, (repository, input.context.derivedName, response) ∈ seen.resolved ∧
        response.repository = repository ∧ response.workingRepoName = input.context.derivedName ∧
        association = response.association ∧ seen.readBack = some cube ∧
        matchesCube response cube = true
  | _ => True

end Allowed

end Observed

section Laws

variable [CubePlatform] {input : InitInput} {s : Observed} {repository : CreateCubeRepository}
  {rounds : ℕ}

def initObserver (input : InitInput) : Observer Reply Observed :=
  ⟨Observed.start, Observed.note, Observed.Allowed input⟩

/-- A run that stops has changed nothing. -/
def Stops (result : RepositoryCubeInitResult) (s : Observed) : Prop :=
  ∀ code, result = .stop code → s.mutations = 0 ∧ s.saves = 0

omit [CubePlatform] in
lemma stops_success {response : ResolvedRepositoryCube} {cube : RepositoryCubeDetail}
    {existing : Bool} : Stops (.success response cube existing) s := nofun

/-! ### Questions -/

/-- Only questions were asked. -/
structure Asked (repository : CreateCubeRepository) (cubes : List (String × String)) (s : Observed) :
    Prop where
  repository : s.repository = some repository
  cubes : s.cubes = cubes
  mutations : s.mutations = 0
  saves : s.saves = 0

variable {cubes : List (String × String)}

omit [CubePlatform] in
lemma Asked.stops (h : Asked repository cubes s) (result : RepositoryCubeInitResult) :
    Stops result s := fun _ _ => ⟨h.mutations, h.saves⟩

lemma confirm_yields {question : Question} (hquestion : question ≠ .cubeName) :
    (initObserver input).Yields s (confirm question rounds)
      (fun code s' => (∃ answer, s' = { s with answer := answer }) ∧
        (code = none → ∃ answer, s'.answer = some (question, .text answer) ∧
          confirmation answer = .affirmed)) := by
  have hnote : ∀ (s : Observed) answer, s.noteAnswer question answer =
      { s with answer := some (question, answer) } := by
    intro s answer
    unfold Observed.noteAnswer
    split
    · exact absurd rfl hquestion
    · rfl
  suffices hloop : ∀ s₀, (∃ answer, s₀ = { s with answer := answer }) →
      (initObserver input).Yields s₀ (confirm question rounds)
        (fun code s' => (∃ answer, s' = { s with answer := answer }) ∧
          (code = none → ∃ answer, s'.answer = some (question, .text answer) ∧
            confirmation answer = .affirmed)) from hloop s ⟨s.answer, rfl⟩
  induction rounds with
  | zero => exact fun _ _ => .wait
  | succ rounds ih =>
    rintro _ ⟨before, rfl⟩
    refine .call_bind trivial (fun reply => ?_)
    change (initObserver input).Yields (Observed.noteAnswer _ question reply) _ _
    rw [hnote]
    cases reply with
    | interrupted => exact .pure ⟨⟨_, rfl⟩, nofun⟩
    | ended => exact .pure ⟨⟨_, rfl⟩, nofun⟩
    | text answer =>
      dsimp only
      cases hanswer : confirmation answer with
      | affirmed => exact .pure ⟨⟨_, rfl⟩, fun _ => ⟨answer, rfl, hanswer⟩⟩
      | declined => exact .pure ⟨⟨_, rfl⟩, nofun⟩
      | unclear => exact ih _ ⟨_, rfl⟩

lemma askName_yields (h : Asked repository cubes s) :
    (initObserver input).Yields s (askName input.context.derivedName rounds)
      (fun result s' => Asked repository cubes s' ∧
        ∀ name, result = .ok name → s'.Named input name) := by
  induction rounds generalizing s with
  | zero => exact .wait
  | succ rounds ih =>
    refine .call_bind trivial (fun reply => ?_)
    cases reply with
    | interrupted => exact .pure ⟨⟨h.1, h.2, h.3, h.4⟩, nofun⟩
    | ended => exact .pure ⟨⟨h.1, h.2, h.3, h.4⟩, nofun⟩
    | text answer =>
      dsimp only
      split
      · refine .pure ⟨⟨h.1, h.2, h.3, h.4⟩, ?_⟩
        rintro name ⟨⟩
        exact Or.inr ⟨answer, mem_append_right _ mem_cons_self, rfl⟩
      · exact ih ⟨h.1, h.2, h.3, h.4⟩

lemma askTemplate_yields (h : Asked repository cubes s) :
    (initObserver input).Yields s (askTemplate rounds)
      (fun _ s' => Asked repository cubes s' ∧ s'.names = s.names) := by
  suffices hloop : ∀ s₀, Asked repository cubes s₀ ∧ s₀.names = s.names →
      (initObserver input).Yields s₀ (askTemplate rounds)
        (fun _ s' => Asked repository cubes s' ∧ s'.names = s.names) from hloop s ⟨h, rfl⟩
  induction rounds with
  | zero => exact fun _ _ => .wait
  | succ rounds ih =>
    rintro s₀ ⟨h₀, hnames⟩
    have hasked : ∀ answer, Asked repository cubes { s₀ with answer := answer } :=
      fun _ => ⟨h₀.1, h₀.2, h₀.3, h₀.4⟩
    refine .call_bind trivial (fun reply => ?_)
    cases reply with
    | interrupted => exact .pure ⟨hasked _, hnames⟩
    | ended => exact .pure ⟨hasked _, hnames⟩
    | text answer =>
      dsimp only
      cases selectedTemplate answer with
      | some template => exact .pure ⟨hasked _, hnames⟩
      | none => exact ih _ ⟨hasked _, hnames⟩

lemma interactive_yields (h : Asked repository cubes s) (unset : Bool) :
    (initObserver input).Yields s (interactive input unset)
      (fun _ s' => Asked repository cubes s' ∧ s'.names = s.names) := by
  unfold interactive
  split
  · exact .call_bind trivial (fun reply => .pure ⟨⟨h.1, h.2, h.3, h.4⟩, rfl⟩)
  · exact .pure ⟨h, rfl⟩

/-! ### Saving -/

lemma saveAssociation_yields {response : ResolvedRepositoryCube}
    (hallowed : s.Allowed input (.saveAssociation repository response.association)) :
    (initObserver input).Yields s (saveAssociation repository response) (fun _ _ => True) := by
  have hsave : (initObserver input).Yields s
      (do orFail (← call (.saveAssociation repository response.association)) : Run Unit)
      (fun _ _ => True) := .call_bind hallowed (fun _ => .orFail (fun _ _ => trivial))
  refine hsave.attempt.bind (fun result s' _ => ?_)
  cases result with
  | ok value => exact .pure trivial
  | error error => exact .fail

lemma saveResolvedAssociation_yields {response : ResolvedRepositoryCube}
    (hrepository : s.repository = some repository) (hsaves : s.saves = 0)
    (hresolved : (repository, input.context.derivedName, response) ∈ s.resolved) :
    (initObserver input).Yields s (saveResolvedAssociation input repository response) Stops := by
  unfold saveResolvedAssociation
  split
  · exact .fail
  · rename_i hmatches
    simp only [ne_eq, not_or, not_not] at hmatches
    refine .call_bind trivial (fun reply => .orFail_bind (fun cube hcube => ?_))
    subst hcube
    split
    · rename_i hcube
      have hallowed : Observed.Allowed input { s with readBack := some cube }
          (.saveAssociation repository response.association) :=
        ⟨hrepository, hsaves, response, cube, hresolved, hmatches.1, hmatches.2, rfl, rfl, hcube⟩
      exact (saveAssociation_yields hallowed).bind (fun _ _ _ => .pure stops_success)
    · exact .fail

/-! ### Adoption and creation -/

lemma confirmLink_yields {cubeId : String} (hrepository : s.repository = some repository)
    (hsaves : s.saves = 0) :
    (initObserver input).Yields s (confirmLink input repository cubeId) Stops := by
  refine .catchWith ?_ (fun error s' => ?_)
  · refine .call_bind trivial (fun reply => .orFail_bind (fun confirmed hconfirmed => ?_))
    subst hconfirmed
    cases confirmed with
    | none => exact .fail
    | some confirmed =>
      dsimp only
      split
      · exact saveResolvedAssociation_yields hrepository hsaves
          (mem_append_right _ mem_cons_self)
      · exact .fail
  · split
    · exact .fail
    · exact .fail

lemma adoptExactMatch_yields {name : String} (h : Asked repository cubes s)
    (hname : s.Named input name) :
    (initObserver input).Yields s (adoptExactMatch rounds input repository cubes name)
      (fun result s' => (result = none → s' = s) ∧ ∀ r, result = some r → Stops r s') := by
  unfold adoptExactMatch
  split
  · exact .pure ⟨fun _ => rfl, nofun⟩
  · rename_i cube hcube
    refine .call_bind trivial (fun tty => ?_)
    have htty : Asked repository cubes { s with tty := tty } := ⟨h.1, h.2, h.3, h.4⟩
    split
    · exact .pure ⟨nofun, fun r _ => htty.stops r⟩
    · rename_i hinteractive
      simp only [Bool.or_eq_true, Bool.not_eq_true', not_or, Bool.not_eq_false,
        Bool.not_eq_true] at hinteractive
      refine (confirm_yields (by decide)).bind ?_
      rintro code s' ⟨⟨answer, rfl⟩, haffirmed⟩
      have hasked : Asked repository cubes { s with
          tty := tty
          answer := answer } := ⟨h.1, h.2, h.3, h.4⟩
      cases code with
      | some code => exact .pure ⟨nofun, fun r _ => hasked.stops r⟩
      | none =>
        have hallowed : Observed.Allowed input { s with
            tty := tty
            answer := answer } (.associateCube cube.1 input.context.derivedName repository) :=
          ⟨h.repository, rfl, h.mutations, h.saves, hinteractive.1, hinteractive.2,
            haffirmed rfl, name, cube.2, hname, by rw [h.cubes, hcube]⟩
        refine .call_bind hallowed (fun reply => .orFail_bind (fun associated _ => ?_))
        split
        · refine (confirmLink_yields ?_ ?_).bind (fun result s' hstops => .pure ⟨nofun, ?_⟩)
          · exact h.repository
          · exact h.saves
          · rintro r ⟨⟩
            exact hstops
        · exact .fail
  · exact .pure ⟨nofun, fun r _ => h.stops r⟩

lemma createCube_yields {name template : String} (h : Asked repository cubes s) :
    (initObserver input).Yields s (createCube input repository name template) Stops := by
  have hcreate : (initObserver input).Yields s (catchWith
      (do orFail (← call (.createCube name input.context.derivedName repository template)))
      (fun error => fail (creationError error)) : Run RepositoryCubeCreation)
      (fun creation s' => s' = { s with
        mutations := s.mutations + 1
        readBack := some creation.cube }) := by
    refine .catchWith (.call_bind ⟨h.repository, rfl, h.mutations, h.saves⟩
      (fun reply => .orFail (fun creation hcreation => ?_))) (fun _ _ => .fail)
    subst hcreation
    rfl
  refine hcreate.bind ?_
  rintro creation _ rfl
  have hresolve : (initObserver input).Yields
      { s with
        mutations := s.mutations + 1
        readBack := some creation.cube }
      (catchWith (do orFail (← call (.resolveAssociation repository input.context.derivedName)))
        (fun _ => fail (.creationConfirmation
          "The server did not return authoritative repository association state.")) :
        Run (Option ResolvedRepositoryCube))
      (fun confirmed s' => s' = { s with
        mutations := s.mutations + 1
        readBack := some creation.cube
        resolved := s.resolved ++ confirmed.toList.map
          (fun response => (repository, input.context.derivedName, response)) }) := by
    refine .catchWith (.call_bind trivial
      (fun reply => .orFail (fun confirmed hconfirmed => ?_))) (fun _ _ => .fail)
    subst hconfirmed
    rfl
  refine hresolve.bind ?_
  rintro confirmed s' hs'
  cases confirmed with
  | none => exact .fail
  | some confirmed =>
    dsimp only
    split
    · rename_i hconfirmed
      simp only [creationConfirmed, Bool.and_eq_true, beq_iff_eq] at hconfirmed
      obtain ⟨⟨⟨⟨hrepository, hname⟩, -⟩, -⟩, hcube⟩ := hconfirmed
      have hallowed : s'.Allowed input (.saveAssociation repository confirmed.association) := by
        subst hs'
        exact ⟨h.repository, h.saves, confirmed, creation.cube, mem_append_right _ mem_cons_self,
          hrepository, hname, rfl, rfl, hcube⟩
      exact (saveAssociation_yields hallowed).bind (fun _ _ _ => .pure stops_success)
    · exact .fail

lemma confirmCreation_yields {name template : String} (h : Asked repository cubes s) :
    (initObserver input).Yields s (confirmCreation rounds input repository name template) Stops := by
  refine (interactive_yields h true).bind ?_
  rintro asks s' ⟨h', -⟩
  split
  · have hcreate : Question.create name template ≠ .cubeName := nofun
    refine (confirm_yields hcreate).bind ?_
    rintro code _ ⟨⟨answer, rfl⟩, -⟩
    have hasked : Asked repository cubes { s' with answer := answer } := ⟨h'.1, h'.2, h'.3, h'.4⟩
    cases code with
    | some code => exact .pure (hasked.stops _)
    | none => exact createCube_yields hasked
  · exact createCube_yields h'

lemma chooseTemplate_yields {requested : Option String} (h : Asked repository cubes s) :
    (initObserver input).Yields s (chooseTemplate rounds input requested)
      (fun _ s' => Asked repository cubes s') := by
  unfold chooseTemplate
  cases requested with
  | some template => exact .pure h
  | none =>
    refine (interactive_yields h true).bind ?_
    rintro asks s' ⟨h', -⟩
    split
    · exact (askTemplate_yields h').weaken (fun _ _ hend => hend.1)
    · split
      · exact .pure h'
      · exact .fail

lemma createNamed_yields {requested : Option String} {name : String}
    (h : Asked repository cubes s) :
    (initObserver input).Yields s (createNamed rounds input repository requested name) Stops := by
  refine (chooseTemplate_yields h).bind (fun result s' h' => ?_)
  cases result with
  | error code => exact .pure (h'.stops _)
  | ok template => exact confirmCreation_yields h'

/-- The name that is proposed. -/
def proposed (input : InitInput) : String :=
  (input.flags.cubeName.map trimmed).getD input.context.derivedName

lemma chooseName_yields (h : Asked repository cubes s) :
    (initObserver input).Yields s (chooseName rounds input (proposed input))
      (fun result s' => Asked repository cubes s' ∧
        ∀ name, result = .ok name → s'.Named input name) := by
  refine (interactive_yields h _).bind ?_
  rintro asks s' ⟨h', -⟩
  split
  · exact askName_yields h'
  · refine .pure ⟨h', ?_⟩
    rintro name ⟨⟩
    exact Or.inl rfl

lemma createNew_yields {requested : Option String} (h : Asked repository cubes s) :
    (initObserver input).Yields s
      (createNew rounds input repository cubes (proposed input) requested) Stops := by
  refine (chooseName_yields h).bind ?_
  rintro result s' ⟨h', hnamed⟩
  cases result with
  | error code => exact .pure (h'.stops _)
  | ok name =>
    dsimp only
    split
    · exact .pure (h'.stops _)
    · split
      · exact createNamed_yields h'
      · refine (adoptExactMatch_yields h' (hnamed name rfl)).bind ?_
        rintro adopted s'' ⟨hnone, hsome⟩
        cases adopted with
        | some result => exact .pure (hsome result rfl)
        | none =>
          obtain rfl := hnone rfl
          exact createNamed_yields h'

lemma initializeUnassociated_yields (hs : s.repository = some repository ∧ s.mutations = 0 ∧
    s.saves = 0) :
    (initObserver input).Yields s (initializeUnassociated rounds input repository) Stops := by
  refine .call_bind trivial (fun reply => .orFail_bind (fun association hassociation => ?_))
  subst hassociation
  cases association with
  | some association =>
    exact saveResolvedAssociation_yields hs.1 hs.2.2 (mem_append_right _ mem_cons_self)
  | none =>
    dsimp only
    split
    · exact .pure (fun _ _ => hs.2)
    · refine .call_bind trivial (fun reply => .orFail_bind (fun cubes hcubes => ?_))
      subst hcubes
      have h : Asked repository cubes { s with
          resolved := s.resolved ++ []
          cubes := cubes } := ⟨hs.1, rfl, hs.2.1, hs.2.2⟩
      refine (adoptExactMatch_yields h (Or.inl rfl)).bind ?_
      rintro adopted s' ⟨hnone, hsome⟩
      cases adopted with
      | some result => exact .pure (hsome result rfl)
      | none =>
        obtain rfl := hnone rfl
        dsimp only
        split
        · exact .pure (h.stops _)
        · have hunattended : (initObserver input).Yields { s with
              resolved := s.resolved ++ []
              cubes := cubes } (unattended input)
              (fun _ s' => Asked repository cubes s') :=
            .call_bind trivial (fun reply => .pure ⟨h.1, h.2, h.3, h.4⟩)
          refine hunattended.bind (fun result s' h' => ?_)
          split
          · exact .pure (h'.stops _)
          · exact createNew_yields h'

lemma initializeRepositoryCube_yields (input : InitInput) (rounds : ℕ) :
    (initObserver input).Yields .start (initializeRepositoryCube rounds input) Stops := by
  refine .call_bind trivial (fun reply => .orFail_bind (fun repository hrepository => ?_))
  subst hrepository
  refine .call_bind trivial (fun reply => .orFail_bind (fun association _ => ?_))
  cases association with
  | some association =>
    exact .call_bind trivial (fun reply => .orFail_bind (fun _ _ => .pure stops_success))
  | none => exact initializeUnassociated_yields ⟨rfl, rfl, rfl⟩

/-! ### Counting -/

/-- A cube is created or linked. -/
def Call.mutates : Call → Bool
  | .associateCube _ _ _ => true
  | .createCube _ _ _ _ => true
  | _ => false

def Call.saves : Call → Bool
  | .saveAssociation _ _ => true
  | _ => false

omit [CubePlatform] in
lemma note_counts (s : Observed) (event : Event Reply) :
    (s.note event).mutations = s.mutations + (if event.1.mutates then 1 else 0) ∧
      (s.note event).saves = s.saves + (if event.1.saves then 1 else 0) := by
  obtain ⟨call, reply⟩ := event
  cases call with
  | prompt question =>
    change (s.noteAnswer question reply).mutations = _ ∧ (s.noteAnswer question reply).saves = _
    unfold Observed.noteAnswer
    split <;> exact ⟨rfl, rfl⟩
  | _ => exact ⟨rfl, rfl⟩

lemma observed_counts (input : InitInput) (calls : List (Event Reply)) :
    ((initObserver input).observed calls).mutations = calls.countP (fun event => event.1.mutates) ∧
      ((initObserver input).observed calls).saves = calls.countP (fun event => event.1.saves) := by
  induction calls using reverseRecOn with
  | nil => exact ⟨rfl, rfl⟩
  | append_singleton calls event ih =>
    rw [Observer.observed_concat, countP_append, countP_append, countP_singleton, countP_singleton]
    change (Observed.note _ event).mutations = _ ∧ (Observed.note _ event).saves = _
    rw [(note_counts _ event).1, (note_counts _ event).2, ih.1, ih.2]
    exact ⟨rfl, rfl⟩

/-- A call that mutates is the first that does. -/
lemma countP_mutates_le {calls : List (Event Reply)} (h : (initObserver input).Lawful calls) :
    calls.countP (fun event => event.1.mutates) ≤ 1 := by
  induction calls using reverseRecOn with
  | nil => exact Nat.zero_le 1
  | append_singleton calls event ih =>
    rw [countP_append, countP_singleton]
    split
    · rename_i hmutates
      have hallowed : Observed.Allowed input ((initObserver input).observed calls) event.1 :=
        h calls event [] rfl
      have hnone : ((initObserver input).observed calls).mutations = 0 := by
        obtain ⟨call, reply⟩ := event
        cases call with
        | associateCube cubeId workingRepoName repository => exact hallowed.2.2.1
        | createCube name workingRepoName repository template => exact hallowed.2.2.1
        | _ => cases hmutates
      rw [← (observed_counts input calls).1, hnone]
    · exact ih h.of_append

/-- For every host and every number of rounds: each change was announced, one cube at most is created
or linked, and a run that stops has changed nothing. -/
theorem initialization_announced (input : InitInput) (rounds : ℕ) (host : Host Reply) :
    (initObserver input).Lawful (initializeRepositoryCube rounds input host []).2 ∧
      (initializeRepositoryCube rounds input host []).2.countP (fun event => event.1.mutates) ≤ 1 ∧
      ∀ code, (initializeRepositoryCube rounds input host []).1 = .done (.stop code) →
        ∀ event ∈ (initializeRepositoryCube rounds input host []).2,
          event.1.mutates = false ∧ event.1.saves = false := by
  obtain ⟨hlawful, hend⟩ :=
    (initializeRepositoryCube_yields input rounds).run host
  refine ⟨hlawful, countP_mutates_le hlawful, ?_⟩
  intro code hcode event hevent
  obtain ⟨hmutations, hsaves⟩ := hend _ hcode code rfl
  obtain ⟨hmutates, hcounted⟩ :=
    observed_counts input (initializeRepositoryCube rounds input host []).2
  rw [hmutations, eq_comm, countP_eq_zero] at hmutates
  rw [hsaves, eq_comm, countP_eq_zero] at hcounted
  exact ⟨Bool.eq_false_of_not_eq_true (hmutates event hevent),
    Bool.eq_false_of_not_eq_true (hcounted event hevent)⟩

end Laws

end BorgClient.Cubes
