import BorgClient.Update.Flow

/-!
# What an update may do, and what its success says

An observer of the calls of `runUpdate`: it knows the packages last seen, the statuses read and
whether the operator agreed.
-/

namespace BorgClient.Update
open List Calls Calls.Prog

/-- What the replies so far have shown. -/
structure Observed where
  publishedClient : Option PublishedPackage
  publishedServer : Option PublishedPackage
  clients : List (Option InstalledPackage)
  servers : List (Option InstalledPackage)
  confirmed : Bool
  reentered : Bool
  statuses : List (Option ServerStatus)
  updates : ℕ
  /-- The origin a server answered at. -/
  probed : Option String
  refreshed : Bool

namespace Observed

def start : Observed := ⟨none, none, [], [], false, false, [], 0, none, false⟩

/-- The last installed client is the published one. -/
def ClientVerified (seen : Observed) : Prop :=
  ∃ published installed, seen.publishedClient = some published ∧
    seen.clients.getLast? = some (some installed) ∧ isInstalled installed published = true

/-- The last installed controller is the published one. -/
def ControllerVerified (seen : Observed) : Prop :=
  ∃ published installed, seen.publishedServer = some published ∧
    seen.servers.getLast? = some (some installed) ∧ isInstalled installed published = true

def Consented (options : UpdateOptions) (seen : Observed) : Prop :=
  options.yes = true ∨ seen.confirmed = true

end Observed

/-- The status of a server at its target. -/
structure AtTarget (target : PublishedPackage) (status : ServerStatus) : Prop where
  controller : status.installedController = exactServerIdentity target.version
  prepared : status.preparedRuntime = some (exactServerIdentity target.version)
  preparedIntegrity : status.preparedIntegrity = some target.integrity
  settled : status.nextAction = none
  running : status.state = .running →
    status.runningRuntime = some (exactServerIdentity target.version) ∧
      status.runningIntegrity = some target.integrity

lemma AtTarget.of_verify [Urls] {status : ServerStatus} {target : PublishedPackage} {state : RunState}
    (h : verifyServerStatus status target = .ok state) :
    AtTarget target status ∧ state = status.state := by
  unfold verifyServerStatus at h
  dsimp only at h
  split at h
  · cases h
  · rename_i hprepared
    simp only [not_or, not_not] at hprepared
    obtain ⟨hcontroller, hruntime, hintegrity, hnext⟩ := hprepared
    split at h
    · rename_i hstopped
      split at h
      · cases h
      · cases h
        exact ⟨⟨hcontroller, hruntime, hintegrity, hnext, fun hrunning =>
          absurd (hstopped.symm.trans hrunning) (by decide)⟩, hstopped.symm⟩
    · rename_i hstopped
      split at h
      · cases h
      · rename_i hrunning
        simp only [not_or, not_not] at hrunning
        cases h
        refine ⟨⟨hcontroller, hruntime, hintegrity, hnext, fun _ => ⟨hrunning.1, hrunning.2.1⟩⟩, ?_⟩
        cases hstate : status.state with
        | running => rfl
        | stopped => exact absurd hstate hstopped

def decodeStatusReply (reply : Except Failure ServerJsonExecution) : Option ServerStatus :=
  reply.toOption.bind (fun execution => (decodeServerStatusExecution execution).toOption)

namespace Observed

def note (seen : Observed) : Event Reply → Observed
  | ⟨.publishedPackage name _, reply⟩ =>
    if name = CLIENT_PACKAGE then { seen with publishedClient := reply.toOption }
    else { seen with publishedServer := reply.toOption }
  | ⟨.currentClient, reply⟩ => { seen with clients := seen.clients ++ [reply.toOption] }
  | ⟨.currentServer, reply⟩ => { seen with servers := seen.servers ++ [reply.toOption.join] }
  | ⟨.confirm, reply⟩ => { seen with confirmed := reply.toOption == some .yes }
  | ⟨.reenter _ _, _⟩ => { seen with reentered := true }
  | ⟨.serverJson _ .status, reply⟩ =>
    { seen with statuses := seen.statuses ++ [decodeStatusReply reply] }
  | ⟨.serverJson _ .update, _⟩ => { seen with updates := seen.updates + 1 }
  | ⟨.verifyRunningProtocol origin, reply⟩ => { seen with probed := reply.toOption.map (fun _ => origin) }
  | ⟨.refreshAgentIntegrations, reply⟩ => { seen with refreshed := reply.toOption.isSome }
  | ⟨.isTTY, _⟩ => seen
  | ⟨.installGlobal _ _, _⟩ => seen
  | ⟨.activateHermesPlugin, _⟩ => seen

/-- What a call needs to have been shown. -/
def Allowed (options : UpdateOptions) (seen : Observed) : Call → Prop
  | .installGlobal name _ =>
    seen.Consented options ∧ (name = SERVER_PACKAGE → seen.ClientVerified)
  | .reenter _ _ => seen.Consented options
  | .serverJson _ .update =>
    seen.Consented options ∧ seen.ClientVerified ∧ seen.ControllerVerified ∧ seen.updates = 0
  | _ => True

/-- The server at the end of a run: at its target, not stopped where it was running, and answering
where it runs. -/
def ServerVerified (seen : Observed) : Prop :=
  seen.ControllerVerified ∧
    ∃ published first final, seen.publishedServer = some published ∧
      seen.statuses.head? = some (some first) ∧ seen.statuses.getLast? = some (some final) ∧
      AtTarget published final ∧ (first.state = .running → final.state = .running) ∧
      (final.state = .running → seen.probed = some (final.endpoint.getD ""))

/-- What an exit code of zero says of a run that did not hand over. -/
structure Verified (options : UpdateOptions) (seen : Observed) : Prop where
  client : seen.ClientVerified
  server : serverPresent options seen.servers.head?.join = true → seen.ServerVerified
  refreshed : seen.refreshed = true

end Observed

def updateObserver (options : UpdateOptions) : Observer Reply Observed :=
  ⟨Observed.start, Observed.note, Observed.Allowed options⟩

/-! ### The stages -/

variable {options : UpdateOptions} {s : Observed} {pair : Pair} {server : InstalledPackage}

lemma exitCode_ne_zero (error : Failure) : exitCode error ≠ 0 := by
  cases error with
  | signal number =>
    change (128 : ℤ) + number ≠ 0
    omega
  | other message => exact one_ne_zero

/-- A failure does not end with zero. -/
lemma yields_exitCode {ε : Type} (error : Failure) {Q : Observed → Prop} :
    (updateObserver options).Yields s (pure (exitCode error) : Prog Reply ε ℤ)
      (fun code s' => code = 0 → Q s') :=
  Observer.Yields.pure (fun h => absurd h (exitCode_ne_zero error))

lemma isInstalled_of_assert {installed : InstalledPackage} {published : PublishedPackage}
    {value : Unit} (h : assertInstalled installed published = .ok value) :
    isInstalled installed published = true := by
  unfold assertInstalled at h
  split at h
  · assumption
  · cases h

lemma checkPair_eq {target : Option UpdateTarget} {client server : PublishedPackage}
    (h : checkPair target client server = .ok pair) : pair = ⟨client, server⟩ := by
  unfold checkPair at h
  cases hclient : validatePublishedPackage client CLIENT_PACKAGE with
  | error error =>
    rw [hclient] at h
    cases h
  | ok _ =>
    cases hserver : validatePublishedPackage server SERVER_PACKAGE with
    | error error =>
      rw [hclient, hserver] at h
      cases h
    | ok _ =>
      rw [hclient, hserver] at h
      dsimp only [Bind.bind, Except.bind] at h
      split at h
      · cases h
      · split at h
        · cases h
        · cases h
          rfl

/-- What the preflight and the operator have shown. -/
def Observed.discovered (pair : Pair) (client : InstalledPackage)
    (discoveredServer : Option InstalledPackage) (confirmed : Bool) : Observed :=
  { Observed.start with
    publishedClient := some pair.client
    publishedServer := some pair.server
    clients := [some client]
    servers := [discoveredServer]
    confirmed := confirmed }

lemma discover_yields :
    (updateObserver options).Yields .start (discover options)
      (fun found s' => s' = .discovered found.1 found.2.1 found.2.2 false) := by
  unfold discover
  refine .call_bind trivial (fun client => .call_bind trivial (fun server =>
    .call_bind trivial (fun installedClient => .call_bind trivial (fun installedServer => ?_))))
  refine .orFail_bind (fun client' hclient => .orFail_bind (fun server' hserver =>
    .orFail_bind (fun pair hpair => .orFail_bind (fun client'' hclient' =>
      .orFail_bind (fun server'' hserver' => .pure ?_)))))
  subst hclient hserver hclient' hserver'
  rw [checkPair_eq hpair]
  rfl

lemma confirmation_yields :
    (updateObserver options).Yields s (confirmation options)
      (fun answer s' => (∃ confirmed, s' = { s with confirmed := confirmed }) ∧
        (answer = none → s'.Consented options) ∧
        (answer = some 0 → ¬s'.Consented options)) := by
  unfold confirmation
  split
  · rename_i hyes
    exact .pure ⟨⟨s.confirmed, rfl⟩, fun _ => Or.inl hyes, nofun⟩
  · rename_i hyes
    refine .call_bind trivial (fun isTTY => ?_)
    split
    · exact .pure ⟨⟨s.confirmed, rfl⟩, nofun, nofun⟩
    · refine .call_bind trivial (fun reply => .orFail_bind (fun answer hanswer => ?_))
      subst hanswer
      cases answer with
      | yes => exact .pure ⟨⟨true, rfl⟩, fun _ => Or.inr rfl, nofun⟩
      | no =>
        refine .pure ⟨⟨false, rfl⟩, nofun, fun _ => ?_⟩
        rintro (h | h)
        · exact hyes h
        · cases h
      | eof => exact .pure ⟨⟨false, rfl⟩, nofun, nofun⟩
      | interrupted => exact .pure ⟨⟨false, rfl⟩, nofun, nofun⟩

lemma updateClient_yields (hs : s.Consented options) (serverWasPresent : Bool) :
    (updateObserver options).Yields s (updateClient options pair serverWasPresent)
      (fun code s' => code = 0 → s'.reentered = true) := by
  unfold updateClient
  refine .catchWith ?_ (fun error s' => yields_exitCode error)
  refine .call_bind ⟨hs, fun h => absurd h (by decide)⟩ (fun reply => .orFail_bind (fun _ _ => ?_))
  refine .call_bind trivial (fun reply => .orFail_bind (fun installedClient _ => ?_))
  refine .orFail_bind (fun _ _ => .call_bind hs (fun reply => .orFail (fun code _ _ => rfl)))

lemma activateHermesPlugin_yields {Post : Unit → Observed → Prop} (h : Post () s) :
    (updateObserver options).Yields s activateHermesPluginAfterUpdate Post :=
  .call_bind trivial (fun _ => .pure h)

lemma refresh_yields {ε : Type} :
    (updateObserver options).Yields s
      (attempt (do orFail (← call .refreshAgentIntegrations)) : Prog Reply ε (Except Failure Unit))
      (fun result s' => ∀ value, result = .ok value → s' = { s with refreshed := true }) := by
  refine .attempt (.call_bind trivial (fun reply => .orFail ?_))
  rintro value rfl
  rfl

lemma finishClient_yields :
    (updateObserver options).Yields s finishClient
      (fun code s' => code = 0 → s' = { s with refreshed := true }) := by
  refine refresh_yields.bind (fun result s' hresult => ?_)
  cases result with
  | error error => exact .pure (fun h => absurd h one_ne_zero)
  | ok value => exact (activateHermesPlugin_yields (hresult value rfl)).bind (fun _ _ h => .pure (fun _ => h))

/-! ### The server -/

lemma readController_yields {K : Option InstalledPackage → Run InstalledPackage}
    (hnone : ∃ failure, K none = fail failure)
    (hsome : ∀ verified, K (some verified) = (do
      orFail (assertInstalled verified pair.server)
      return verified)) :
    (updateObserver options).Yields s (do K (← orFail (← call .currentServer)))
      (fun server s' => s' = { s with servers := s.servers ++ [some server] } ∧
        isInstalled server pair.server = true) := by
  refine .call_bind trivial (fun reply => .orFail_bind (fun installed hinstalled => ?_))
  subst hinstalled
  cases installed with
  | none =>
    obtain ⟨failure, hfail⟩ := hnone
    rw [hfail]
    exact .fail
  | some verified =>
    rw [hsome]
    exact .orFail_bind (fun _ hassert => .pure ⟨rfl, isInstalled_of_assert hassert⟩)

/-- The last controller is one of the replies since. -/
lemma updateController_yields (hs : s.Consented options) (hclient : s.ClientVerified)
    (discoveredServer : Option InstalledPackage) :
    (updateObserver options).Yields s (updateController pair discoveredServer)
      (fun server s' => s' = { s with servers := s.servers ++ [some server] } ∧
        isInstalled server pair.server = true) := by
  unfold updateController
  cases discoveredServer with
  | none => exact .fail
  | some discovered =>
    dsimp only
    split
    · exact .call_bind ⟨hs, fun _ => hclient⟩ (fun reply => .orFail_bind (fun _ _ =>
        readController_yields ⟨_, rfl⟩ (fun _ => rfl)))
    · exact readController_yields ⟨_, rfl⟩ (fun _ => rfl)

lemma readStatus_yields :
    (updateObserver options).Yields s (readStatus server)
      (fun status s' => s' = { s with statuses := s.statuses ++ [some status] }) := by
  refine .call_bind trivial (fun reply => .orFail_bind (fun execution hexecution =>
    .orFail (fun status hstatus => ?_)))
  subst hexecution
  change { s with statuses := s.statuses ++ [(decodeServerStatusExecution execution).toOption] } = _
  rw [hstatus]
  rfl

lemma observeStatus_yields {ε : Type} :
    (updateObserver options).Yields s (observeStatus server : Prog Reply ε (Option ServerStatus))
      (fun _ _ => True) := by
  refine .catchWith ?_ (fun _ _ => .pure trivial)
  exact readStatus_yields.bind (fun _ _ _ => .pure trivial)

lemma during_yields {α : Type} {stage : Stage} {step : Run α} {Post : α → Observed → Prop}
    (h : (updateObserver options).Yields s step Post) :
    (updateObserver options).Yields s (stage.during step) Post :=
  h.catchWith (fun _ _ => .fail)

lemma activate_yields (hs : s.Consented options) (hclient : s.ClientVerified)
    (hcontroller : s.ControllerVerified) (hupdates : s.updates = 0) :
    (updateObserver options).Yields s (activate server pair)
      (fun status s' => s' = { s with
        updates := 1
        statuses := s.statuses ++ [some status] }) := by
  have hupdate : (updateObserver options).Yields s (do
      let execution ← orFail (← call (.serverJson server.binPath .update))
      orFail (decodeServerUpdate execution.value) : Run ServerUpdateResult)
      (fun _ s' => s' = { s with updates := 1 }) := by
    refine .call_bind ⟨hs, hclient, hcontroller, hupdates⟩ (fun reply =>
      .orFail_bind (fun execution _ => .orFail (fun update _ => ?_)))
    change { s with updates := s.updates + 1 } = _
    rw [hupdates]
  refine (during_yields hupdate).bind (fun update s' hs' => ?_)
  subst hs'
  cases update with
  | failed errorCode recovery => exact observeStatus_yields.bind (fun _ _ _ => .fail)
  | success update =>
    dsimp only
    split
    · exact during_yields readStatus_yields
    · exact .fail

/-- The statuses read after the first. -/
lemma reachStatus_yields [Urls] (hs : s.Consented options) (hclient : s.ClientVerified)
    (hcontroller : s.ControllerVerified) (hupdates : s.updates = 0) {first : ServerStatus}
    (hstatus : s.statuses = [some first]) :
    (updateObserver options).Yields s (reachStatus server pair first)
      (fun reached s' => ∃ updates later, s' = { s with
          updates := updates
          statuses := some first :: later } ∧
        s'.statuses.getLast? = some (some reached.1)) := by
  unfold reachStatus
  cases verifyServerStatus first pair.server with
  | ok state => exact .pure ⟨s.updates, [], by rw [← hstatus], by rw [hstatus]; rfl⟩
  | error error =>
    refine (activate_yields hs hclient hcontroller hupdates).bind (fun status s' hs' => ?_)
    subst hs'
    refine .pure ⟨1, [some status], ?_, ?_⟩
    · rw [hstatus]
      rfl
    · simp

lemma verify_yields [Urls] {first final : ServerStatus} (hpublished : s.publishedServer = some pair.server)
    (hclient : s.publishedClient = some pair.client)
    (hfirst : s.statuses.head? = some (some first))
    (hfinal : s.statuses.getLast? = some (some final)) :
    (updateObserver options).Yields s (verify pair first.state final)
      (fun _ s' => (∃ installed, s'.servers = s.servers ++ [installed]) ∧
        s'.ClientVerified ∧ s'.ServerVerified) := by
  unfold verify
  refine .orFail_bind (fun state hstate => ?_)
  obtain ⟨htarget, rfl⟩ := AtTarget.of_verify hstate
  refine .call_bind trivial (fun finalClient => .call_bind trivial (fun finalServer =>
    .orFail_bind (fun client hclient' => .orFail_bind (fun installed hinstalled =>
      .orFail_bind (fun _ hassert => ?_)))))
  subst hclient' hinstalled
  cases installed with
  | none => exact .fail
  | some installed =>
    refine .orFail_bind (fun _ hassert' => ?_)
    have hverified : ∀ probed, (final.state = .running → probed = some (final.endpoint.getD "")) →
        (first.state = .running → final.state = .running) →
        Observed.ClientVerified { s with
          clients := s.clients ++ [some client]
          servers := s.servers ++ [some installed]
          probed := probed } ∧
        Observed.ServerVerified { s with
          clients := s.clients ++ [some client]
          servers := s.servers ++ [some installed]
          probed := probed } := by
      intro probed hprobed hrunning
      exact ⟨⟨pair.client, client, hclient, by simp, isInstalled_of_assert hassert⟩,
        ⟨pair.server, installed, hpublished, by simp, isInstalled_of_assert hassert'⟩,
        pair.server, first, final, hpublished, hfirst, hfinal, htarget, hrunning, hprobed⟩
    split
    · exact .fail
    · rename_i hcontinuous
      have hrunning : first.state = .running → final.state = .running := by
        intro h
        cases hstate : final.state with
        | running => rfl
        | stopped => exact absurd ⟨h, hstate⟩ hcontinuous
      split
      · refine .call_bind trivial (fun reply => .orFail_bind (fun _ hreply => .pure ?_))
        subst hreply
        exact ⟨⟨some installed, rfl⟩, hverified _ (fun _ => rfl) hrunning⟩
      · rename_i hstopped
        exact .pure ⟨⟨some installed, rfl⟩, hverified s.probed (fun h => absurd h hstopped) hrunning⟩

/-- What a zero of the server stage needs of the calls before it. -/
structure Reached (options : UpdateOptions) (pair : Pair) (s : Observed) : Prop where
  consented : s.Consented options
  client : s.ClientVerified
  controller : s.ControllerVerified
  updates : s.updates = 0
  statuses : s.statuses = []
  publishedClient : s.publishedClient = some pair.client
  publishedServer : s.publishedServer = some pair.server

/-- What a zero says after the server stage. -/
def Finished (s s' : Observed) : Prop :=
  (∃ installed, s'.servers = s.servers ++ [installed]) ∧ s'.ClientVerified ∧ s'.ServerVerified ∧
    s'.refreshed = true

lemma serverStage_yields [Urls] (hs : Reached options pair s) :
    (updateObserver options).Yields s (serverStage server pair)
      (fun code s' => code = 0 → Finished s s') := by
  unfold serverStage
  refine (during_yields readStatus_yields).bind (fun first s₁ hs₁ => ?_)
  subst hs₁
  split
  · exact .fail_bind
  · refine (reachStatus_yields (s := { s with statuses := s.statuses ++ [some first] }) hs.consented
      hs.client hs.controller hs.updates (by rw [hs.statuses]; rfl)).bind ?_
    rintro ⟨final, stage⟩ s₂ ⟨updates, later, hs₂, hfinal⟩
    have hpublished : s₂.publishedServer = some pair.server := hs₂ ▸ hs.publishedServer
    have hpublished' : s₂.publishedClient = some pair.client := hs₂ ▸ hs.publishedClient
    have hfirst : s₂.statuses.head? = some (some first) := by
      rw [hs₂]
      rfl
    refine (during_yields (verify_yields hpublished hpublished' hfirst hfinal)).bind ?_
    rintro state s₃ ⟨hservers, hclient, hserver⟩
    rw [hs₂] at hservers
    refine (during_yields refresh_yields).bind (fun result s₄ hresult => ?_)
    cases result with
    | error error => exact yields_exitCode error
    | ok value =>
      obtain rfl := hresult value rfl
      have hfinished : Finished s { s₃ with refreshed := true } := ⟨hservers, hclient, hserver, rfl⟩
      exact (during_yields (activateHermesPlugin_yields hfinished)).bind
        (fun _ _ h => .pure (fun _ => h))

lemma updateServer_yields [Urls] (hs : Reached options pair s) :
    (updateObserver options).Yields s (updateServer server pair)
      (fun code s' => code = 0 → Finished s s') := by
  refine (serverStage_yields hs).catchWith ?_
  rintro ⟨error, stage⟩ s'
  dsimp only
  split
  · exact observeStatus_yields.bind (fun _ _ _ => yields_exitCode error)
  · exact yields_exitCode error

/-- A confirmed update that ends with zero has handed over or is verified. -/
lemma applyUpdate_yields [Urls] {client : InstalledPackage} {discoveredServer : Option InstalledPackage}
    {confirmed : Bool}
    (hconsent : (Observed.discovered pair client discoveredServer confirmed).Consented options) :
    (updateObserver options).Yields (.discovered pair client discoveredServer confirmed)
      (applyUpdate options pair client discoveredServer)
      (fun code s' => code = 0 → s'.reentered = false → s'.Verified options) := by
  unfold applyUpdate
  dsimp only
  split
  · refine (updateClient_yields hconsent _).weaken (fun code s' h hcode hreentered => ?_)
    rw [h hcode] at hreentered
    cases hreentered
  · cases hassert : assertInstalled client pair.client with
    | error error => exact yields_exitCode error
    | ok _ =>
      have hclient : (Observed.discovered pair client discoveredServer confirmed).ClientVerified :=
        ⟨pair.client, client, rfl, rfl, isInstalled_of_assert hassert⟩
      dsimp only
      split
      · refine (updateController_yields hconsent hclient discoveredServer).attempt.bind ?_
        intro result s' hresult
        cases result with
        | error error => exact yields_exitCode error
        | ok server =>
          obtain ⟨rfl, hinstalled⟩ := hresult server rfl
          have hreached : Reached options pair
              { Observed.discovered pair client discoveredServer confirmed with
                servers := [discoveredServer, some server] } :=
            ⟨hconsent, hclient, ⟨pair.server, server, rfl, rfl, hinstalled⟩, rfl, rfl, rfl, rfl⟩
          refine (updateServer_yields hreached).weaken ?_
          intro code s' hfinished hcode _
          obtain ⟨-, hclient, hserver, hrefreshed⟩ := hfinished hcode
          exact ⟨hclient, fun _ => hserver, hrefreshed⟩
      · rename_i habsent
        refine finishClient_yields.weaken (fun code s' h hcode _ => ?_)
        obtain rfl := h hcode
        exact ⟨hclient, fun hpresent => absurd hpresent habsent, rfl⟩

lemma runUpdate_yields [Urls] :
    (updateObserver options).Yields .start (runUpdate options)
      (fun code s' => code = 0 → options.help = false → s'.Consented options →
        s'.reentered = false → s'.Verified options) := by
  unfold runUpdate
  split
  · rename_i hhelp
    exact .pure (fun _ h => absurd (hhelp.symm.trans h) (by decide))
  · refine discover_yields.attempt.bind (fun result s' hresult => ?_)
    cases result with
    | error error =>
      exact (yields_exitCode (Q := fun _ => False) error).weaken (fun _ _ h hcode => (h hcode).elim)
    | ok found =>
      obtain ⟨pair, client, discoveredServer⟩ := found
      obtain rfl := hresult _ rfl
      dsimp only
      split
      · exact .pure (fun h => absurd h one_ne_zero)
      · refine confirmation_yields.bind ?_
        rintro answer s' ⟨⟨confirmed, rfl⟩, hnone, hzero⟩
        cases answer with
        | some code =>
          refine .pure ?_
          rintro rfl _ hconsent
          exact absurd hconsent (hzero rfl)
        | none =>
          exact (applyUpdate_yields (hnone rfl)).weaken (fun _ _ h hcode _ _ => h hcode)

/-- For every host: an install, a hand-over and an update have been agreed to, the server's after the
client, and the update once and after the controller; and an exit code of zero says that the packages
and the server are at their target. -/
theorem runUpdate_verified [Urls] (options : UpdateOptions) (host : Host Reply) :
    (updateObserver options).Lawful (runUpdate options host []).2 ∧
      ((runUpdate options host []).1 = .done 0 → options.help = false →
        ((updateObserver options).observed (runUpdate options host []).2).Consented options →
        ((updateObserver options).observed (runUpdate options host []).2).reentered = false →
        ((updateObserver options).observed (runUpdate options host []).2).Verified options) := by
  obtain ⟨hlawful, hend⟩ := (@runUpdate_yields options _).run host
  exact ⟨hlawful, fun h => hend 0 h rfl⟩

end BorgClient.Update
