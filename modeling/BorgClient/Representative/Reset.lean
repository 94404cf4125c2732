import BorgClient.Lib.Tables
import BorgClient.Representative.Generations

/-!
# Resetting the representative state

`resetRepresentativeState` with `publishGeneration` and `cleanupGenerations`, down to the files of
each generation directory. The call holds the publish mutex, under which nothing else makes or
removes a directory. Every file operation may fail.
-/

namespace BorgClient.Representative
open Tables

def DB_NAMES : List String := ["state.sqlite", "state.sqlite-wal", "state.sqlite-shm"]

/-- `/^g\d{17}-[0-9a-f]{16}$/` -/
def GEN_RE (g : Gen) : Bool := g.stamp < 10 ^ 17 && g.random < 16 ^ 16

/-- What opening a file as a database and checking it finds; `notADatabase` is every error that
SQLite reports as corruption. -/
inductive Content | sound | otherVersion | damaged | notADatabase
deriving DecidableEq, Repr

/-- A leaf of a directory: whether it is a regular file, and one of mode 0600 and this user's. -/
structure Leaf where
  name : String
  regular : Bool
  own : Bool
  content : Content
deriving DecidableEq, Repr

/-- An entry of the state directory with a generation's name: whether it is a directory, and one of
mode 0700 and this user's. -/
structure GenEntry where
  name : Gen
  directory : Bool
  own : Bool
  leaves : Table Leaf.name

/-- The state directory; `tree` when its whole path is there and private. -/
structure StateRoot where
  tree : Bool
  current : Option Gen
  entries : Table GenEntry.name

/-- The operations that can fail. -/
inductive Operation
  | tree | mutex | readCurrent | openPrevious | exclude
  | readNames | mkdir | verify | create | fill | fsync | tmp | rename | fsyncRoot
  | readdir | tmpFiles | lstat (g : Gen) | lstatLeaf (g : Gen) (name : String)
  | unlink (g : Gen) (name : String) | rmdir (g : Gen) | relist
deriving DecidableEq, Repr

/-- The clock and random bytes of the new name, and the operations that fail. -/
structure ResetEnv where
  clock : ℕ
  random : ℕ
  fails : Operation → Bool

structure ResetReport where
  outcome : ResetOutcome
  previous : Option Gen
  current : Option Gen
  retainedAside : List Gen
deriving DecidableEq, Repr

namespace StateRoot

/-! ### Changes -/

def names (root : StateRoot) : List Gen := root.entries.rows.map GenEntry.name

def addDirectory (root : StateRoot) (g : Gen) : StateRoot :=
  { root with entries := root.entries.insertOrIgnore ⟨g, true, true, ⟨[], List.nodup_nil⟩⟩ }

def onLeaves (root : StateRoot) (g : Gen) (f : Table Leaf.name → Table Leaf.name) : StateRoot :=
  { root with
    entries := root.entries.update
      (fun e => if e.name = g then { e with leaves := f e.leaves } else e)
      (by intro e; split <;> rfl) }

def addLeaf (root : StateRoot) (g : Gen) (leaf : Leaf) : StateRoot :=
  root.onLeaves g (fun leaves => leaves.insertOrIgnore leaf)

def unlinkLeaf (root : StateRoot) (g : Gen) (name : String) : StateRoot :=
  root.onLeaves g (fun leaves => leaves.delete (fun l => l.name == name))

def rmdir (root : StateRoot) (g : Gen) : StateRoot :=
  { root with entries := root.entries.delete (fun e => e.name == g) }

/-! ### Checks -/

def invalid : StateFailure := .state .REPRESENTATIVE_STATE_INVALID

def assertPrivateFile (leaf : Option Leaf) : Except StateFailure Bool :=
  match leaf with
  | none => .ok false
  | some l =>
    if !l.regular then .error invalid
    else if !l.own then .error invalid
    else .ok true

def assertGenerationDirectory (root : StateRoot) (g : Gen) : Except StateFailure GenEntry :=
  match root.entries.find g with
  | none => .error invalid
  | some e =>
    if !e.directory then .error invalid
    else if !e.own then .error invalid
    else
      match DB_NAMES.mapM (fun name => assertPrivateFile (e.leaves.find name)) with
      | .error error => .error error
      | .ok _ => .ok e

/-- Later than every existing generation. -/
def newGenerationName (root : StateRoot) (clock random : ℕ) : Gen :=
  let newest := ((root.names.filter GEN_RE).map (·.stamp)).foldl max 0
  ⟨if clock > newest then clock else newest + 1, random⟩

/-! ### Retention -/

/-- The database files of a directory are unlinked one after another. -/
def unlinkLeaves (env : ResetEnv) (g : Gen) :
    List String → StateRoot → StateRoot × Except StateFailure Unit
  | [], root => (root, .ok ())
  | name :: files, root =>
    if env.fails (.lstatLeaf g name) then (root, .error .operation)
    else
      match (root.entries.find g).bind (fun e => e.leaves.find name) with
      | none => unlinkLeaves env g files root
      | some leaf =>
        if leaf.regular then
          if env.fails (.unlink g name) then (root, .error .operation)
          else unlinkLeaves env g files (root.unlinkLeaf g name)
        else unlinkLeaves env g files root

/-- One turn of the loop over the generations to remove: whether the entry stays. -/
def removeGeneration (env : ResetEnv) (root : StateRoot) (g : Gen) :
    StateRoot × Except StateFailure (List Gen) :=
  if env.fails (.lstat g) then (root, .error .operation)
  else
    match root.entries.find g with
    | none => (root, .error .operation)
    | some e =>
      if !e.directory then (root, .ok [g])
      else
        match unlinkLeaves env g DB_NAMES root with
        | (root, .error error) => (root, .error error)
        | (root, .ok ()) =>
          let left := (root.entries.find g).elim [] (fun e => e.leaves.rows)
          if env.fails (.rmdir g) || !left.isEmpty then (root, .ok [g])
          else (root.rmdir g, .ok [])

def removeGenerations (env : ResetEnv) :
    List Gen → StateRoot → StateRoot × Except StateFailure (List Gen)
  | [], root => (root, .ok [])
  | g :: gens, root =>
    match root.removeGeneration env g with
    | (root, .error error) => (root, .error error)
    | (root, .ok kept) =>
      match removeGenerations env gens root with
      | (root, .error error) => (root, .error error)
      | (root, .ok rest) => (root, .ok (kept ++ rest))

/-- The generations beyond the newest others. -/
def surplus (root : StateRoot) (current : Gen) : List Gen :=
  (newestFirst (root.names.filter (fun g => GEN_RE g && g != current))).drop RETAINED_GENERATIONS

def cleanupGenerations (env : ResetEnv) (root : StateRoot) (current : Gen) :
    StateRoot × Except StateFailure (List Gen) :=
  if env.fails .readdir || env.fails .tmpFiles then (root, .error .operation)
  else removeGenerations env (root.surplus current) root

/-! ### Publication and reset -/

def publishGeneration (env : ResetEnv) (root : StateRoot) :
    StateRoot × Except StateFailure (Gen × List Gen) :=
  let gen := root.newGenerationName env.clock env.random
  if env.fails .readNames then (root, .error .operation)
  else if env.fails .mkdir || (root.entries.find gen).isSome then (root, .error .operation)
  else
    let root := root.addDirectory gen
    if env.fails .verify || env.fails .create then (root, .error .operation)
    else
      let root := root.addLeaf gen ⟨"state.sqlite", true, true, .sound⟩
      if env.fails .fill || env.fails .fsync || env.fails .tmp || env.fails .rename then
        (root, .error .operation)
      else
        let root := { root with current := some gen }
        if env.fails .fsyncRoot then (root, .error .operation)
        else
          match cleanupGenerations env root gen with
          | (root, .error error) => (root, .error error)
          | (root, .ok kept) => (root, .ok (gen, kept))

def notInitialized : ResetReport := ⟨.notInitialized, none, none, []⟩

/-- The part after the checks: the new generation, and the report of what stays aside. -/
def replaceGeneration (env : ResetEnv) (root : StateRoot) (previous : Gen) :
    StateRoot × Except StateFailure ResetReport :=
  match publishGeneration env root with
  | (root, .error error) => (root, .error error)
  | (root, .ok (gen, _)) =>
    if env.fails .relist then (root, .error .operation)
    else
      (root, .ok ⟨.reset, some previous, some gen,
        (newestFirst (root.names.filter (fun g => GEN_RE g && g != gen))).reverse⟩)

def resetRepresentativeState (env : ResetEnv) (root : StateRoot) :
    StateRoot × Except StateFailure ResetReport :=
  if env.fails .tree then (root, .error .operation)
  else if !root.tree then (root, .ok notInitialized)
  else if env.fails .mutex || env.fails .readCurrent then (root, .error .operation)
  else
    match root.current with
    | none => (root, .ok notInitialized)
    | some previous =>
      if !GEN_RE previous then (root, .error invalid)
      else
        match root.assertGenerationDirectory previous with
        | .error error => (root, .error error)
        | .ok e =>
          if env.fails .openPrevious then (root, .error .operation)
          else
            match e.leaves.find "state.sqlite" with
            -- opening a file that is not there makes an empty database, of no version
            | none => (root.addLeaf previous ⟨"state.sqlite", true, false, .otherVersion⟩,
                .error (.state .REPRESENTATIVE_STATE_VERSION))
            | some database =>
              match database.content with
              | .sound => (root, .ok ⟨.healthy, some previous, none, []⟩)
              | .otherVersion => (root, .error (.state .REPRESENTATIVE_STATE_VERSION))
              | .damaged =>
                if env.fails .exclude then (root, .error .operation)
                else replaceGeneration env root previous
              | .notADatabase => replaceGeneration env root previous

end StateRoot

end BorgClient.Representative
