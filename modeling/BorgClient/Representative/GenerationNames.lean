import BorgClient.Lib.Numerals
import BorgClient.Lib.Runs
import BorgClient.Lib.Tables
import BorgClient.Representative.Generations

/-!
# The names of generations, and what cleanup leaves

The state root by its directory listing, foreign names among it. A publication names a generation
after every valid name it finds, makes its directory, and cleans up the older ones
(`representative-db.ts`).
-/

namespace BorgClient.Representative.Listing
open List Tables Numerals

abbrev Name := List Char

/-- A file in a directory, and whether it is a regular file and no link. -/
structure DirLeaf where
  name : String
  regular : Bool
deriving DecidableEq, Repr

inductive Node
  | directory (leaves : Table DirLeaf.name)
  | regular
  /-- A link, or anything else. -/
  | other

structure RootEntry where
  name : Name
  node : Node

abbrev Root := Table RootEntry.name

def readdir (root : Root) : List Name := root.rows.map RootEntry.name

def lstat (root : Root) (name : Name) : Option Node := (root.find name).map RootEntry.node

def DB_NAMES : List String := ["state.sqlite", "state.sqlite-wal", "state.sqlite-shm"]

def isHex (c : Char) : Bool := c.isDigit || ('a' ≤ c && c ≤ 'f')

/-- Sixteen hex digits. -/
structure RandomHex where
  text : Name
  width : text.length = 16
  hex : ∀ c ∈ text, isHex c = true

/-! ### Names -/

/-- `/^g\d{17}-[0-9a-f]{16}$/`. -/
def GEN_RE (name : Name) : Bool :=
  match name with
  | 'g' :: rest =>
    (rest.take 17).length == 17 && (rest.take 17).all Char.isDigit &&
      match rest.drop 17 with
      | '-' :: hex => hex.length == 16 && hex.all isHex
      | _ => false
  | _ => false

/-- `/^CURRENT\.[0-9a-f]{16}\.tmp$/`. -/
def CURRENT_TMP_RE (name : Name) : Bool :=
  name.length == 28 && name.take 8 == "CURRENT.".toList && name.drop 24 == ".tmp".toList &&
    ((name.drop 8).take 16).all isHex

def stampOf (name : Name) : ℕ := value ((name.drop 1).take 17)

/-- The newest stamp among the names, 0 without one. -/
def newestStamp (names : List Name) : ℕ :=
  (names.filter GEN_RE).foldl (fun newest name => max newest (stampOf name)) 0

def newStamp (names : List Name) (clock : ℕ) : ℕ :=
  if clock > newestStamp names then clock else newestStamp names + 1

def newGenerationName (names : List Name) (clock : ℕ) (random : RandomHex) : Name :=
  'g' :: (padStart 17 (newStamp names clock) ++ '-' :: random.text)

/-! ### Cleanup -/

/-- The root so far, the generation names left in place, and whether a call has thrown. -/
structure Sweep where
  root : Root
  kept : List Name
  threw : Bool

def remove (root : Root) (name : Name) : Root := root.delete (fun e => e.name == name)

def setLeaves (root : Root) (name : Name) (leaves : Table DirLeaf.name) : Root :=
  root.update (fun e => if e.name = name then { e with node := .directory leaves } else e)
    (by intro e; split <;> rfl)

/-- Which unlink or rmdir fails: of a file in a directory, or of an entry of the root. -/
structure Failures where
  leaf : Name → String → Bool
  entry : Name → Bool

def sweepTmp (fails : Failures) (s : Sweep) (name : Name) : Sweep :=
  if s.threw || !CURRENT_TMP_RE name then s
  else
    match lstat s.root name with
    | none => { s with threw := true }
    | some .regular =>
      if fails.entry name then { s with threw := true }
      else { s with root := remove s.root name }
    | some _ => s

/-- The files left, and whether every unlink went through. -/
def unlinkDbFiles (fails : String → Bool) :
    List String → Table DirLeaf.name → Table DirLeaf.name × Bool
  | [], leaves => (leaves, true)
  | file :: files, leaves =>
    match leaves.find file with
    | some leaf =>
      if leaf.regular then
        if fails file then (leaves, false)
        else unlinkDbFiles fails files (leaves.delete (fun leaf => leaf.name == file))
      else unlinkDbFiles fails files leaves
    | none => unlinkDbFiles fails files leaves

def sweepGeneration (fails : Failures) (s : Sweep) (name : Name) : Sweep :=
  if s.threw then s
  else
    match lstat s.root name with
    | none => { s with threw := true }
    | some (.directory leaves) =>
      let (leaves, unlinked) := unlinkDbFiles (fails.leaf name) DB_NAMES leaves
      if !unlinked then { s with root := setLeaves s.root name leaves, threw := true }
      else if leaves.rows.isEmpty && !fails.entry name then { s with root := remove s.root name }
      else { s with root := setLeaves s.root name leaves, kept := s.kept ++ [name] }
    | some _ => { s with kept := s.kept ++ [name] }

/-- The other generations, newest first. -/
def others (names : List Name) (current : Name) : List Name :=
  (names.filter (fun name => GEN_RE name && name != current)).insertionSort (· ≥ ·)

def surplus (names : List Name) (current : Name) : List Name :=
  (others names current).drop RETAINED_GENERATIONS

def cleanupGenerations (fails : Failures) (root : Root) (current : Name) : Sweep :=
  let names := readdir root
  let s := names.foldl (sweepTmp fails) ⟨root, [], false⟩
  (surplus names current).foldl (sweepGeneration fails) s

/-! ### Publications -/

/-- A publication with its clock, the files it has made when it ends, and whether it gets to the
cleanup; or an entry that someone else makes. -/
inductive RootStep
  | publish (clock : ℕ) (random : RandomHex) (leaves : Table DirLeaf.name) (completes : Bool)
      (fails : Failures)
  | foreign (entry : RootEntry)

/-- The root, and each name made with the names there were before it. -/
structure Published where
  root : Root
  made : List (List Name × Name)

def publishStep (s : Published) : RootStep → Published
  | .publish clock random leaves completes fails =>
    let gen := newGenerationName (readdir s.root) clock random
    let root := s.root.insertOrIgnore ⟨gen, .directory leaves⟩
    ⟨if completes then (cleanupGenerations fails root gen).root else root,
      s.made ++ [(readdir s.root, gen)]⟩
  | .foreign entry => { s with root := s.root.insertOrIgnore entry }

end BorgClient.Representative.Listing
