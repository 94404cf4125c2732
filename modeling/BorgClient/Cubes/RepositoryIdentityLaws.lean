import BorgClient.Lib.Runs
import BorgClient.Cubes.RepositoryIdentity

/-!
# When the repository identity store stays readable

The reader checks what the writer does not; within its grammar each call leaves what it reads.
-/

namespace BorgClient.Cubes
open List Runs Tables

section Laws

variable [CubePlatform] [IdentityPlatform] {store : IdentityStore} {call : IdentityCall}
  {randomBytes secret : String} {state : RepositoryIdentityState}

/-! ### The reader -/

/-- What the reader lets through. -/
structure Sound (state : RepositoryIdentityState) : Prop where
  localIdentities : ∀ entry ∈ state.localIdentities, isLocalIdentity entry = true
  associations : ∀ entry ∈ state.associations, isAssociation entry = true ∧ isLegacy entry = false

omit [IdentityPlatform] in
lemma sound_empty : Sound emptyState := ⟨nofun, nofun⟩

omit [IdentityPlatform] in
lemma sound_of_parse {file : Option RepositoryIdentityState} {migrated : Bool}
    (h : parseState file = some (state, migrated)) : Sound state := by
  cases file with
  | none =>
    obtain ⟨rfl, -⟩ := Prod.mk.inj (Option.some.inj h)
    exact sound_empty
  | some read =>
    change (if _ then _ else none) = _ at h
    split at h
    · rename_i hvalid
      rw [Bool.and_eq_true, all_eq_true, all_eq_true] at hvalid
      obtain ⟨rfl, -⟩ := Prod.mk.inj (Option.some.inj h)
      refine ⟨hvalid.1, fun entry hentry => ?_⟩
      obtain ⟨hmem, hlegacy⟩ := Table.mem_delete.mp hentry
      exact ⟨hvalid.2 entry hmem, hlegacy⟩
    · cases h

omit [IdentityPlatform] in
lemma parse_sound (h : Sound state) : parseState (some state) = some (state, false) := by
  have hlegacy : state.associations.rows.any isLegacy = false :=
    any_eq_false.mpr (fun entry hentry => by simp [(h.associations entry hentry).2])
  have hkept : state.associations.delete isLegacy = state.associations := by
    refine Table.ext_rows (filter_eq_self.mpr (fun entry hentry => ?_))
    simp [(h.associations entry hentry).2]
  have hvalid : (state.localIdentities.rows.all isLocalIdentity &&
      state.associations.rows.all isAssociation) = true := by
    rw [Bool.and_eq_true, all_eq_true, all_eq_true]
    exact ⟨h.localIdentities, fun entry hentry => (h.associations entry hentry).1⟩
  rw [parseState, if_pos hvalid, hkept, hlegacy]

/-! ### One call -/

omit [CubePlatform] [IdentityPlatform] in
lemma find_upsert {β : Type} (table : Table (Prod.fst : String × β → String)) (entry : String × β)
    (key : String) :
    (table.upsert entry).find key = if entry.1 = key then some entry else table.find key := by
  split
  · rename_i hkey
    exact Table.find_eq_some.mpr ⟨Table.mem_upsert.mpr (Or.inl rfl), hkey⟩
  · rename_i hkey
    cases hfind : table.find key with
    | some found =>
      obtain ⟨hmem, hfound⟩ := Table.find_eq_some.mp hfind
      refine Table.find_eq_some.mpr ⟨Table.mem_upsert.mpr (Or.inr ⟨hmem, ?_⟩), hfound⟩
      rw [hfound]
      exact Ne.symm hkey
    | none =>
      cases hafter : (table.upsert entry).find key with
      | none => rfl
      | some found =>
        obtain ⟨hmem, hfound⟩ := Table.find_eq_some.mp hafter
        rcases Table.mem_upsert.mp hmem with rfl | ⟨hmem, -⟩
        · exact absurd hfound hkey
        · rw [Table.find_eq_some.mpr ⟨hmem, hfound⟩] at hfind
          cases hfind

/-- What the platform and the decoders promise of a call: a random UUID is one, random bytes are
written in hex, and an association has a template of the shared package. -/
def Documented : IdentityCall × String → Prop
  | (.getOrCreateRepositoryIdentity _ _ randomUUID, randomBytes) =>
    matchesUuid randomUUID = true ∧ isDigest randomBytes = true
  | (.getRepositoryAssociation _ _, randomBytes) => isDigest randomBytes = true
  | (.saveRepositoryAssociation _ _ association, randomBytes) =>
    association.template ∈ CubePlatform.templateNames ∧ isDigest randomBytes = true

omit [IdentityPlatform] in
lemma Documented.bytes (h : Documented (call, randomBytes)) : isDigest randomBytes = true := by
  cases call with
  | getRepositoryAssociation trustIdentity repository => exact h
  | _ => exact h.2

/-- What the platform promises of itself: a digest is 64 hex digits, and the removed template is
none of the shared package's. -/
structure PlatformOk : Prop where
  digest : ∀ secret purpose value, isDigest (IdentityPlatform.digest secret purpose value) = true
  templates : "default" ∉ CubePlatform.templateNames

lemma operation_sound (hplatform : PlatformOk) (hdocumented : Documented (call, randomBytes))
    (hreadable : call.Readable) (h : Sound state) :
    Sound (identityOperation call secret state).2.1 := by
  cases call with
  | getOrCreateRepositoryIdentity commonDir publicRepository randomUUID =>
    unfold identityOperation
    dsimp only
    split
    · exact h
    · refine ⟨fun entry hentry => ?_, h.associations⟩
      rcases Table.mem_upsert.mp hentry with rfl | ⟨hmem, -⟩
      · rw [isLocalIdentity, Bool.and_eq_true]
        exact ⟨hplatform.digest _ _ _, hdocumented.1⟩
      · exact h.localIdentities entry hmem
  | getRepositoryAssociation trustIdentity repository => exact h
  | saveRepositoryAssociation trustIdentity repository association =>
    refine ⟨h.localIdentities, fun entry hentry => ?_⟩
    rcases Table.mem_upsert.mp hentry with rfl | ⟨hmem, -⟩
    · have hnot : association.template ≠ "default" := fun heq =>
        hplatform.templates (heq ▸ hdocumented.1)
      refine ⟨?_, by simpa [isLegacy] using hnot⟩
      rw [isAssociation, Bool.and_eq_true, Bool.and_eq_true, Bool.or_eq_true]
      exact ⟨⟨hplatform.digest _ _ _, hreadable⟩, Or.inr (contains_iff_mem.mpr hdocumented.1)⟩
    · exact h.associations entry hmem

omit [CubePlatform] in
lemma operation_unchanged (h : (identityOperation call secret state).2.2 = false) :
    (identityOperation call secret state).2.1 = state := by
  cases call with
  | getOrCreateRepositoryIdentity commonDir publicRepository randomUUID =>
    unfold identityOperation at h ⊢
    dsimp only at h ⊢
    split at h
    · rfl
    · cases h
  | getRepositoryAssociation trustIdentity repository => rfl
  | saveRepositoryAssociation trustIdentity repository association => cases h

/-- The store is not refused. -/
structure Opens (store : IdentityStore) : Prop where
  secret : store.secret.all isDigest = true
  file : (parseState store.file).isSome = true

/-- The state that a call works on. -/
def stateOf (store : IdentityStore) : RepositoryIdentityState :=
  ((parseState store.file).map Prod.fst).getD emptyState

/-- A call under the lock answers with its operation on the state, and leaves that state. -/
lemma withIdentityState_spec (hplatform : PlatformOk) (hopens : Opens store)
    (hdocumented : Documented (call, randomBytes)) (hreadable : call.Readable) :
    (withIdentityState (identityOperation call) randomBytes store).1 =
      some (identityOperation call (store.secret.getD randomBytes) (stateOf store)).1 ∧
    (withIdentityState (identityOperation call) randomBytes store).2.secret =
      some (store.secret.getD randomBytes) ∧
    stateOf (withIdentityState (identityOperation call) randomBytes store).2 =
      (identityOperation call (store.secret.getD randomBytes) (stateOf store)).2.1 ∧
    Opens (withIdentityState (identityOperation call) randomBytes store).2 := by
  obtain ⟨⟨state, migrated⟩, hparse⟩ := Option.isSome_iff_exists.mp hopens.file
  have hstate : stateOf store = state := by
    unfold stateOf
    rw [hparse]
    rfl
  have hsecret : isDigest (store.secret.getD randomBytes) = true := by
    have := hopens.secret
    cases hs : store.secret with
    | none => exact hdocumented.bytes
    | some secret =>
      rw [hs] at this
      exact this
  have hsound : Sound (identityOperation call (store.secret.getD randomBytes) state).2.1 :=
    operation_sound hplatform hdocumented hreadable (sound_of_parse hparse)
  unfold withIdentityState
  rw [if_pos hopens.secret, hparse, hstate]
  dsimp only
  refine ⟨rfl, rfl, ?_, ⟨hsecret, ?_⟩⟩
  · split
    · unfold stateOf
      rw [parse_sound hsound]
      rfl
    · rename_i hkept
      rw [Bool.or_eq_true, not_or, Bool.not_eq_true, Bool.not_eq_true] at hkept
      rw [operation_unchanged hkept.2, ← hstate]
      rfl
  · split
    · rw [parse_sound hsound]
      rfl
    · rw [hparse]
      rfl

/-- A saved association that the reader refuses makes the store unreadable. -/
lemma readable_of_opens (hopens : Opens store)
    (hafter : (parseState (identityStep store (call, randomBytes)).file).isSome = true) :
    call.Readable := by
  obtain ⟨⟨state, migrated⟩, hparse⟩ := Option.isSome_iff_exists.mp hopens.file
  cases call with
  | saveRepositoryAssociation trustIdentity repository association =>
    unfold identityStep identityCall withIdentityState at hafter
    dsimp only at hafter
    rw [if_pos hopens.secret, hparse] at hafter
    dsimp only at hafter
    have hwritten : (identityOperation
        (.saveRepositoryAssociation trustIdentity repository association)
        (store.secret.getD randomBytes) state).2.2 = true := rfl
    rw [hwritten, Bool.or_true, if_pos rfl] at hafter
    change (if _ then _ else none).isSome = true at hafter
    split at hafter
    · rename_i hvalid
      rw [Bool.and_eq_true, all_eq_true, all_eq_true] at hvalid
      have hsaved := hvalid.2 _ (Table.mem_upsert.mpr (Or.inl rfl))
      rw [isAssociation, Bool.and_eq_true, Bool.and_eq_true] at hsaved
      exact hsaved.1.2
    · cases hafter
  | _ => trivial

/-! ### Runs -/

/-- A call that the platform and the decoders allow, within the reader's grammar. -/
def Promised (_ : IdentityStore) (call : IdentityCall × String) : Prop :=
  Documented call ∧ call.1.Readable

lemma identityStep_opens (hplatform : PlatformOk) (hopens : Opens store)
    {call : IdentityCall × String} (hpromised : Promised store call) :
    Opens (identityStep store call) := by
  obtain ⟨call, randomBytes⟩ := call
  obtain ⟨-, -, -, hafter⟩ := withIdentityState_spec hplatform hopens hpromised.1 hpromised.2
  cases call with
  | getOrCreateRepositoryIdentity commonDir publicRepository randomUUID =>
    cases publicRepository with
    | some repository => exact hopens
    | none => exact hafter
  | _ => exact hafter

omit [CubePlatform] in
lemma operation_keeps {key : String} {entry : String × String}
    (h : state.localIdentities.find key = some entry) :
    (identityOperation call secret state).2.1.localIdentities.find key = some entry := by
  cases call with
  | getOrCreateRepositoryIdentity commonDir publicRepository randomUUID =>
    unfold identityOperation
    dsimp only
    split
    · exact h
    · rename_i hnone
      dsimp only
      rw [find_upsert, if_neg, h]
      rintro rfl
      rw [hnone] at h
      cases h
  | _ => exact h

omit [CubePlatform] in
lemma operation_keeps_association {key : String}
    (hother : ∀ trustIdentity repository association,
      call = .saveRepositoryAssociation trustIdentity repository association →
        associationBinding secret trustIdentity repository ≠ key) :
    (identityOperation call secret state).2.1.associations.find key =
      state.associations.find key := by
  cases call with
  | getOrCreateRepositoryIdentity commonDir publicRepository randomUUID =>
    unfold identityOperation
    dsimp only
    split <;> rfl
  | getRepositoryAssociation trustIdentity repository => rfl
  | saveRepositoryAssociation trustIdentity repository association =>
    unfold identityOperation
    dsimp only
    rw [find_upsert, if_neg (hother trustIdentity repository association rfl)]

/-- What a call that is promised does to a store that opens. -/
lemma identityStep_spec (hplatform : PlatformOk) (hopens : Opens store)
    {call : IdentityCall × String} (hpromised : Promised store call)
    (hsecret : store.secret = some secret) :
    (identityStep store call).secret = some secret ∧
      (stateOf (identityStep store call) = stateOf store ∨
        stateOf (identityStep store call) =
          (identityOperation call.1 secret (stateOf store)).2.1) := by
  obtain ⟨call, randomBytes⟩ := call
  obtain ⟨-, hkept, hstate, -⟩ := withIdentityState_spec hplatform hopens hpromised.1 hpromised.2
  rw [hsecret] at hkept hstate
  cases call with
  | getOrCreateRepositoryIdentity commonDir publicRepository randomUUID =>
    cases publicRepository with
    | some repository => exact ⟨hsecret, Or.inl rfl⟩
    | none => exact ⟨hkept, Or.inr hstate⟩
  | _ => exact ⟨hkept, Or.inr hstate⟩

lemma opens_run (hplatform : PlatformOk) (hopens : Opens store)
    {calls : List (IdentityCall × String)} (hm : Meets identityStep Promised store calls) :
    Opens (run identityStep store calls) :=
  invariant_of_meets identityStep Opens
    (fun _ _ h hpromised => identityStep_opens hplatform h hpromised) hopens hm

/-- No association is saved under the key. -/
def Spares (secret key : String) (calls : List (IdentityCall × String)) : Prop :=
  ∀ call ∈ calls, ∀ trustIdentity repository association,
    call.1 = .saveRepositoryAssociation trustIdentity repository association →
      associationBinding secret trustIdentity repository ≠ key

lemma run_keeps (hplatform : PlatformOk) (hopens : Opens store)
    (hsecret : store.secret = some secret) {calls : List (IdentityCall × String)}
    (hm : Meets identityStep Promised store calls) :
    (run identityStep store calls).secret = some secret ∧
    (∀ key entry, (stateOf store).localIdentities.find key = some entry →
      (stateOf (run identityStep store calls)).localIdentities.find key = some entry) ∧
    ∀ key, Spares secret key calls →
      (stateOf (run identityStep store calls)).associations.find key =
        (stateOf store).associations.find key := by
  induction calls generalizing store with
  | nil => exact ⟨hsecret, fun _ _ => id, fun _ _ => rfl⟩
  | cons call calls ih =>
    obtain ⟨hcall, hrest⟩ := hm
    obtain ⟨hafter, hstate⟩ := identityStep_spec hplatform hopens hcall hsecret
    obtain ⟨hkept, hlocal, hassociation⟩ :=
      ih (identityStep_opens hplatform hopens hcall) hafter hrest
    refine ⟨hkept, fun key entry hfind => hlocal key entry ?_, fun key hspares => ?_⟩
    · rcases hstate with hstate | hstate <;> rw [hstate]
      · exact hfind
      · exact operation_keeps hfind
    · rw [run_cons, hassociation key (fun c hc => hspares c (mem_cons_of_mem call hc))]
      rcases hstate with hstate | hstate <;> rw [hstate]
      exact operation_keeps_association (hspares call mem_cons_self)

omit [CubePlatform] in
lemma operation_creates (secret : String) (state : RepositoryIdentityState)
    (commonDir randomUUID : String) (publicRepository : Option CreateCubeRepository) :
    ∃ value,
      (identityOperation (.getOrCreateRepositoryIdentity commonDir publicRepository randomUUID)
        secret state).1 = .repository ⟨"local", value⟩ ∧
      (identityOperation (.getOrCreateRepositoryIdentity commonDir publicRepository randomUUID)
        secret state).2.1.localIdentities.find (localKey secret commonDir) =
          some (localKey secret commonDir, value) := by
  unfold identityOperation
  dsimp only
  split
  · rename_i entry hfind
    obtain ⟨-, hkey⟩ := Table.find_eq_some.mp hfind
    refine ⟨entry.2, rfl, ?_⟩
    rw [hfind, ← hkey]
  · exact ⟨randomUUID, rfl, by rw [find_upsert, if_pos rfl]⟩

omit [CubePlatform] in
lemma operation_found {commonDir randomUUID value : String}
    {publicRepository : Option CreateCubeRepository}
    (h : state.localIdentities.find (localKey secret commonDir) =
      some (localKey secret commonDir, value)) :
    (identityOperation (.getOrCreateRepositoryIdentity commonDir publicRepository randomUUID)
      secret state).1 = .repository ⟨"local", value⟩ := by
  unfold identityOperation
  dsimp only
  rw [h]

lemma local_identity_kept (hplatform : PlatformOk) (hopens : Opens store)
    {commonDir randomUUID randomUUID' randomBytes' : String} {more : List (IdentityCall × String)}
    (hm : Meets identityStep Promised store
      (localIdentity commonDir randomUUID randomBytes :: more ++
        [localIdentity commonDir randomUUID' randomBytes'])) :
    identityAnswer
        (run identityStep store (localIdentity commonDir randomUUID randomBytes :: more))
        (localIdentity commonDir randomUUID' randomBytes') =
      identityAnswer store (localIdentity commonDir randomUUID randomBytes) := by
  obtain ⟨⟨hfirst, hmore⟩, hsecond, -⟩ := (meets_append identityStep).mp hm
  obtain ⟨hanswer, hsecret, hstate, hafter⟩ :=
    withIdentityState_spec hplatform hopens hfirst.1 hfirst.2
  obtain ⟨value, hvalue, hfind⟩ := operation_creates (store.secret.getD randomBytes)
    (stateOf store) commonDir randomUUID none
  obtain ⟨hkept, hlocal, -⟩ := run_keeps hplatform hafter hsecret hmore
  obtain ⟨hagain, -, -, -⟩ := withIdentityState_spec hplatform
    (opens_run hplatform hafter hmore) hsecond.1 hsecond.2
  have hlast := hlocal _ _ (hstate ▸ hfind)
  rw [hkept] at hagain
  refine hagain.trans (Eq.trans ?_ hanswer.symm)
  rw [hvalue]
  exact congrArg some (operation_found hlast)

lemma association_found (hplatform : PlatformOk) (hopens : Opens store)
    {trustIdentity later : String} {repository : CreateCubeRepository}
    {association : RepositoryAssociation} {more : List (IdentityCall × String)}
    (hm : Meets identityStep Promised store
      ((.saveRepositoryAssociation trustIdentity repository association, randomBytes) :: more ++
        [(.getRepositoryAssociation trustIdentity repository, later)]))
    (hspares : Spares (store.secret.getD randomBytes)
      (associationBinding (store.secret.getD randomBytes) trustIdentity repository) more) :
    identityAnswer
        (run identityStep store
          ((.saveRepositoryAssociation trustIdentity repository association, randomBytes) :: more))
        (.getRepositoryAssociation trustIdentity repository, later) =
      some (.association (some association)) := by
  obtain ⟨⟨hsave, hmore⟩, hget, -⟩ := (meets_append identityStep).mp hm
  obtain ⟨-, hsecret, hstate, hafter⟩ := withIdentityState_spec hplatform hopens hsave.1 hsave.2
  obtain ⟨hkept, -, hassociation⟩ := run_keeps hplatform hafter hsecret hmore
  obtain ⟨hanswer, -, -, -⟩ := withIdentityState_spec hplatform
    (opens_run hplatform hafter hmore) hget.1 hget.2
  have hlast := hassociation _ hspares
  rw [hstate] at hlast
  rw [hkept] at hanswer
  refine hanswer.trans ?_
  change some (IdentityResult.association (Option.map Prod.snd (Table.find _ _))) = _
  rw [Option.getD_some]
  have hsaved : (identityOperation
      (.saveRepositoryAssociation trustIdentity repository association)
      (store.secret.getD randomBytes) (stateOf store)).2.1.associations.find
        (associationBinding (store.secret.getD randomBytes) trustIdentity repository) =
      some (associationBinding (store.secret.getD randomBytes) trustIdentity repository,
        association) := by
    change (Table.upsert _ _).find _ = _
    rw [find_upsert, if_pos rfl]
  rw [hsaved] at hlast
  exact congrArg (fun found => some (IdentityResult.association (Option.map Prod.snd found))) hlast

/-- Where each association that is saved is within the reader's grammar, the store stays readable, a
local identity stays what it was, and an association is found until one is saved under its key; the
first association that is not makes the store unreadable. -/
theorem identity_store_stays_readable (hplatform : PlatformOk) (hopens : Opens store)
    {calls : List (IdentityCall × String)} (hm : Meets identityStep Promised store calls) :
    (parseState (run identityStep store calls).file).isSome = true ∧
    (∀ call, Documented call →
      ((parseState (run identityStep store (calls ++ [call])).file).isSome = true ↔
        call.1.Readable)) ∧
    (∀ commonDir randomUUID randomBytes randomUUID' randomBytes' more,
      Meets identityStep Promised (run identityStep store calls)
        (localIdentity commonDir randomUUID randomBytes :: more ++
          [localIdentity commonDir randomUUID' randomBytes']) →
      identityAnswer
          (run identityStep store
            (calls ++ localIdentity commonDir randomUUID randomBytes :: more))
          (localIdentity commonDir randomUUID' randomBytes') =
        identityAnswer (run identityStep store calls)
          (localIdentity commonDir randomUUID randomBytes)) ∧
    ∀ trustIdentity repository association randomBytes more later secret,
      (run identityStep store calls).secret.getD randomBytes = secret →
      Meets identityStep Promised (run identityStep store calls)
        ((.saveRepositoryAssociation trustIdentity repository association, randomBytes) :: more ++
          [(.getRepositoryAssociation trustIdentity repository, later)]) →
      Spares secret (associationBinding secret trustIdentity repository) more →
      identityAnswer
          (run identityStep store (calls ++
            (.saveRepositoryAssociation trustIdentity repository association, randomBytes) :: more))
          (.getRepositoryAssociation trustIdentity repository, later) =
        some (.association (some association)) := by
  have hreached := opens_run hplatform hopens hm
  refine ⟨hreached.file, ?_, ?_, ?_⟩
  · intro call hdocumented
    rw [run_append]
    exact ⟨readable_of_opens hreached,
      fun hreadable => (identityStep_opens hplatform hreached ⟨hdocumented, hreadable⟩).file⟩
  · intro commonDir randomUUID randomBytes randomUUID' randomBytes' more hmeets
    rw [run_append]
    exact local_identity_kept hplatform hreached hmeets
  · intro trustIdentity repository association randomBytes more later secret hsecret hmeets hspares
    subst hsecret
    rw [run_append]
    exact association_found hplatform hreached hmeets hspares

end Laws

/-- A platform with one digest and one template. -/
@[reducible] def oneDigest : IdentityPlatform where
  digest := fun _ _ _ => "0000000000000000000000000000000000000000000000000000000000000000"

@[reducible] def starterCubes : CubePlatform := ⟨id, ["starter"]⟩

attribute [local instance] oneDigest starterCubes Assimilation.plainRoles

def newStore : IdentityStore := ⟨none, none⟩

def randomDigest : String := "1111111111111111111111111111111111111111111111111111111111111111"

/-- What is saved for a cube made for the directory. -/
def savedFor (directory : String) : IdentityCall × String :=
  (.saveRepositoryAssociation "trust" ⟨"origin", "github.com/o/r"⟩
    ⟨"11111111-2222-4333-8444-555555555555", "cube", normalizeCubeName directory, "starter"⟩,
    randomDigest)

/-- The name of the directory `_foo` begins with a hyphen: it is saved, and nothing is read
again. -/
theorem hyphen_name_bricks_store :
    identityAnswer newStore (savedFor "_foo") = some .saved ∧
      (parseState (identityStep newStore (savedFor "_foo")).file).isSome = false ∧
      identityAnswer (identityStep newStore (savedFor "_foo"))
        (.getRepositoryAssociation "trust" ⟨"origin", "github.com/o/r"⟩, randomDigest) = none ∧
      identityAnswer (identityStep newStore (savedFor "_foo"))
        (localIdentity "/r/.git" "11111111-2222-4333-8444-555555555555" randomDigest) = none := by
  decide

theorem identity_store_stays_readable_saved :
    (parseState (run identityStep newStore [savedFor "foo"]).file).isSome = true := by
  have hplatform : PlatformOk := by
    refine ⟨fun secret purpose value => ?_, by decide⟩
    change isDigest "0000000000000000000000000000000000000000000000000000000000000000" = true
    decide
  have hreadable : (savedFor "foo").1.Readable := by
    change hasStoredNames _ = true
    decide
  have hm : Meets identityStep Promised newStore [savedFor "foo"] :=
    ⟨⟨⟨by decide, by decide⟩, hreadable⟩, trivial⟩
  exact (identity_store_stays_readable hplatform ⟨rfl, rfl⟩ hm).1

end BorgClient.Cubes
