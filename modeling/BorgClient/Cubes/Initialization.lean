import BorgClient.Lib.Calls
import BorgClient.Monitor.EventLine

/-!
# The cube of a repository

`initializeRepositoryCube` of `repository-cube-init.ts`: the cube a repository is associated with is
found, an accessible one of the same name is linked, or a new one is created. A loop that asks until
the answer is understood takes its number of rounds as an argument.
-/

namespace BorgClient.Cubes
open Calls Calls.Prog
open Monitor (trim)

/-- The case folding of the language, and the templates of the shared package. -/
class CubePlatform where
  toLowerCase : String → String
  templateNames : List String

/-! ### What is stored and sent -/

structure CreateCubeRepository where
  kind : String
  value : String
deriving DecidableEq, Repr

structure RepositoryAssociation where
  cubeId : String
  name : String
  workingRepoName : String
  template : String
deriving DecidableEq, Repr

structure CubeRole where
  id : String
  isHumanSeat : Bool
  isDefault : Bool
deriving DecidableEq, Repr

structure RepositoryCubeDetail where
  id : String
  name : String
  roles : List CubeRole
deriving DecidableEq, Repr

/-- The fields of a resolved association, and of a creation's response. -/
structure ResolvedRepositoryCube where
  cubeId : String
  name : String
  workingRepoName : String
  repository : CreateCubeRepository
  template : String
  humanSeatRoleId : String
  defaultWorkerRoleId : String
deriving DecidableEq, Repr

def ResolvedRepositoryCube.association (response : ResolvedRepositoryCube) :
    RepositoryAssociation :=
  ⟨response.cubeId, response.name, response.workingRepoName, response.template⟩

structure RepositoryCubeCreation where
  /-- `response.result === 'resolved'` -/
  existing : Bool
  response : ResolvedRepositoryCube
  cube : RepositoryCubeDetail
deriving DecidableEq, Repr

structure RepositoryCubeInitFlags where
  cubeName : Option String
  template : Option String
  noTemplate : Bool
  yes : Bool
deriving DecidableEq, Repr

structure GitRepositoryContext where
  root : String
  derivedName : String
deriving DecidableEq, Repr

structure InitInput where
  context : GitRepositoryContext
  flags : RepositoryCubeInitFlags
  canCreate : Bool
deriving DecidableEq, Repr

inductive InitError where
  /-- A `BorgServerError`. -/
  | server (message : String)
  | creationConfirmation (message : String)
  | creationOutcomeUnknown
  | associationConfirmation
  | associationSave
  | other (message : String)
deriving DecidableEq, Repr

inductive RepositoryCubeInitResult where
  | success (response : ResolvedRepositoryCube) (cube : RepositoryCubeDetail) (existing : Bool)
  | stop (code : ℤ)
deriving DecidableEq, Repr

/-! ### Calls -/

inductive Question where
  | link
  | cubeName
  | template
  | create (name template : String)
deriving DecidableEq, Repr

inductive Answer where
  | text (value : String)
  | interrupted
  | ended
deriving DecidableEq, Repr

inductive Call where
  | getIdentity
  | getAssociation (repository : CreateCubeRepository)
  | getCube (cubeId : String)
  | resolveAssociation (repository : CreateCubeRepository) (workingRepoName : String)
  | listCubes
  | isTTY
  | prompt (question : Question)
  | associateCube (cubeId workingRepoName : String) (repository : CreateCubeRepository)
  | createCube (name workingRepoName : String) (repository : CreateCubeRepository)
      (template : String)
  | saveAssociation (repository : CreateCubeRepository) (association : RepositoryAssociation)
deriving DecidableEq, Repr

@[reducible] def Reply : Call → Type
  | .getIdentity => Except InitError CreateCubeRepository
  | .getAssociation _ => Except InitError (Option RepositoryAssociation)
  | .getCube _ => Except InitError RepositoryCubeDetail
  | .resolveAssociation _ _ => Except InitError (Option ResolvedRepositoryCube)
  | .listCubes => Except InitError (List (String × String))
  | .isTTY => Bool
  | .prompt _ => Answer
  | .associateCube _ _ _ => Except InitError String
  | .createCube _ _ _ _ => Except InitError RepositoryCubeCreation
  | .saveAssociation _ _ => Except InitError Unit

abbrev Run := Prog Reply InitError

def ask (question : Question) : Run Answer := call (Call.prompt question)

/-! ### Names and answers -/

def trimmed (text : String) : String := String.ofList (trim text.toList)

def isNameStart (c : Char) : Bool :=
  ('A' ≤ c && c ≤ 'Z') || ('a' ≤ c && c ≤ 'z') || ('0' ≤ c && c ≤ '9')

def isNameChar (c : Char) : Bool :=
  isNameStart c || c == ' ' || c == '.' || c == '_' || c == '-'

/-- `/^[A-Za-z0-9][A-Za-z0-9 ._-]*$/` and at most 120 bytes. -/
def validRepositoryCubeName (value : String) : Bool :=
  decide (value.utf8ByteSize ≤ 120) && value.toList.head?.any isNameStart &&
    value.toList.all isNameChar

/-- A flag that is given and not empty. -/
def given (flag : Option String) : Bool := flag.any (fun value => !value.isEmpty)

section Flow

variable [CubePlatform]

def normalized (name : String) : String := CubePlatform.toLowerCase (trimmed name)

inductive Confirmation where
  | affirmed
  | declined
  | unclear
deriving DecidableEq, Repr

def confirmation (answer : String) : Confirmation :=
  let answer := normalized answer
  if answer = "" ∨ answer = "y" ∨ answer = "yes" then .affirmed
  else if answer = "n" ∨ answer = "no" then .declined
  else .unclear

/-- A question asked until it is affirmed; the code where it is not. -/
def confirm (question : Question) : ℕ → Run (Option ℤ)
  | 0 => wait
  | rounds + 1 => do
    match ← ask question with
    | .interrupted => return some 130
    | .ended => return some 1
    | .text answer =>
      match confirmation answer with
      | .affirmed => return none
      | .declined => return some 0
      | .unclear => confirm question rounds

/-- An empty answer takes the default. -/
def nameAnswer (derivedName answer : String) : String :=
  if trimmed answer = "" then derivedName else trimmed answer

/-- The name asked for until it is valid, or the code the question stops with. -/
def askName (derivedName : String) : ℕ → Run (Except ℤ String)
  | 0 => wait
  | rounds + 1 => do
    match ← ask .cubeName with
    | .interrupted => return .error 130
    | .ended => return .error 1
    | .text answer =>
      if validRepositoryCubeName (nameAnswer derivedName answer) then
        return .ok (nameAnswer derivedName answer)
      else askName derivedName rounds

/-- `/^[1-9]\d*$/` -/
def isOrdinal (text : String) : Bool :=
  text.toList.head?.any (fun c => '1' ≤ c && c ≤ '9') &&
    text.toList.all (fun c => '0' ≤ c && c ≤ '9')

def selectedTemplate (answer : String) : Option String :=
  let selected := trimmed answer
  if selected = "" then CubePlatform.templateNames[0]?
  else if isOrdinal selected then CubePlatform.templateNames[selected.toNat! - 1]?
  else none

def askTemplate : ℕ → Run (Except ℤ String)
  | 0 => wait
  | rounds + 1 => do
    match ← ask .template with
    | .interrupted => return .error 130
    | .ended => return .error 1
    | .text answer =>
      match selectedTemplate answer with
      | some template => return .ok template
      | none => askTemplate rounds

/-! ### Adoption -/

/-- The cube read back is the one that was resolved. -/
def matchesCube (response : ResolvedRepositoryCube) (cube : RepositoryCubeDetail) : Bool :=
  cube.id == response.cubeId && cube.name == response.name &&
    cube.roles.any (fun role => role.id == response.humanSeatRoleId) &&
    cube.roles.any (fun role => role.id == response.defaultWorkerRoleId)

def saveAssociation (repository : CreateCubeRepository) (response : ResolvedRepositoryCube) :
    Run Unit := do
  match ← attempt (do orFail (← call (.saveAssociation repository response.association))) with
  | .ok _ => return ()
  | .error _ => fail .associationSave

def saveResolvedAssociation (input : InitInput) (repository : CreateCubeRepository)
    (response : ResolvedRepositoryCube) : Run RepositoryCubeInitResult := do
  if response.repository ≠ repository ∨ response.workingRepoName ≠ input.context.derivedName then
    fail .associationConfirmation
  else do
    let cube ← orFail (← call (.getCube response.cubeId))
    if matchesCube response cube then do
      saveAssociation repository response
      return .success response cube true
    else fail .associationConfirmation

/-- The reply of a link is resolved again before it is saved. -/
def confirmLink (input : InitInput) (repository : CreateCubeRepository) (cubeId : String) :
    Run RepositoryCubeInitResult :=
  catchWith (do
      match ← orFail (← call (.resolveAssociation repository input.context.derivedName)) with
      | none => fail .associationConfirmation
      | some confirmed =>
        if confirmed.cubeId = cubeId then saveResolvedAssociation input repository confirmed
        else fail .associationConfirmation)
    (fun error =>
      if error = .associationSave then fail .associationSave else fail .associationConfirmation)

/-- The accessible cubes of a name. -/
def exactMatches (accessibleCubes : List (String × String)) (name : String) :
    List (String × String) :=
  accessibleCubes.filter (fun cube => normalized cube.2 == normalized name)

def adoptExactMatch (rounds : ℕ) (input : InitInput) (repository : CreateCubeRepository)
    (accessibleCubes : List (String × String)) (name : String) :
    Run (Option RepositoryCubeInitResult) := do
  match exactMatches accessibleCubes name with
  | [] => return none
  | [cube] => do
    let tty ← call .isTTY
    if !tty || input.flags.yes then return some (.stop 1)
    else do
      match ← confirm .link rounds with
      | some code => return some (.stop code)
      | none => do
        let associated ← orFail
          (← call (.associateCube cube.1 input.context.derivedName repository))
        if associated = cube.1 then do
          return some (← confirmLink input repository associated)
        else fail .associationConfirmation
  | _ => return some (.stop 1)

/-! ### Creation -/

/-- An error of the creation that does not say what happened is an unknown outcome. -/
def creationError : InitError → InitError
  | .server message => .server message
  | .creationConfirmation message => .creationConfirmation message
  | _ => .creationOutcomeUnknown

/-- The creation agrees with what the server resolves. -/
def creationConfirmed (input : InitInput) (repository : CreateCubeRepository)
    (creation : RepositoryCubeCreation) (confirmed : ResolvedRepositoryCube) : Bool :=
  confirmed.repository == repository && confirmed.workingRepoName == input.context.derivedName &&
    confirmed.cubeId == creation.response.cubeId && confirmed.name == creation.response.name &&
    matchesCube confirmed creation.cube

def createCube (input : InitInput) (repository : CreateCubeRepository) (name template : String) :
    Run RepositoryCubeInitResult := do
  let workingRepoName := input.context.derivedName
  let creation ← catchWith
    (do orFail (← call (.createCube name workingRepoName repository template)))
    (fun error => fail (creationError error))
  let confirmed ← catchWith
    (do orFail (← call (.resolveAssociation repository workingRepoName)))
    (fun _ => fail (.creationConfirmation
      "The server did not return authoritative repository association state."))
  match confirmed with
  | none => fail (.creationConfirmation
      "The server did not confirm the created cube through authoritative repository resolution.")
  | some confirmed =>
    if creationConfirmed input repository creation confirmed then do
      saveAssociation repository confirmed
      return .success confirmed creation.cube creation.existing
    else fail (.creationConfirmation
      "The server did not confirm the created cube through authoritative repository resolution.")

/-- `deps.isTTY() && !input.flags.yes`, with what was asked for first. -/
def interactive (input : InitInput) (unset : Bool) : Run Bool := do
  if unset then return (← call .isTTY) && !input.flags.yes
  else return false

/-- The last confirmation. -/
def confirmCreation (rounds : ℕ) (input : InitInput) (repository : CreateCubeRepository)
    (name template : String) : Run RepositoryCubeInitResult := do
  if ← interactive input true then do
    match ← confirm (.create name template) rounds with
    | some code => return .stop code
    | none => createCube input repository name template
  else createCube input repository name template

/-- The template, asked for where the flags leave it open. -/
def chooseTemplate (rounds : ℕ) (input : InitInput) (requested : Option String) :
    Run (Except ℤ String) := do
  match requested with
  | some template => return .ok template
  | none => do
    if ← interactive input true then askTemplate rounds
    else
      match CubePlatform.templateNames.head? with
      | some template => return .ok template
      | none => fail (.other "no template")

def createNamed (rounds : ℕ) (input : InitInput) (repository : CreateCubeRepository)
    (requested : Option String) (name : String) : Run RepositoryCubeInitResult := do
  match ← chooseTemplate rounds input requested with
  | .error code => return .stop code
  | .ok template => confirmCreation rounds input repository name template

def chooseName (rounds : ℕ) (input : InitInput) (proposedName : String) :
    Run (Except ℤ String) := do
  if ← interactive input (!given input.flags.cubeName) then
    askName input.context.derivedName rounds
  else return .ok proposedName

/-- Without an adopted cube. -/
def createNew (rounds : ℕ) (input : InitInput) (repository : CreateCubeRepository)
    (accessibleCubes : List (String × String)) (proposedName : String)
    (requested : Option String) : Run RepositoryCubeInitResult := do
  match ← chooseName rounds input proposedName with
  | .error code => return .stop code
  | .ok name => do
    if validRepositoryCubeName name = false then return .stop 1
    else if name = proposedName then createNamed rounds input repository requested name
    else do
      match ← adoptExactMatch rounds input repository accessibleCubes name with
      | some result => return result
      | none => createNamed rounds input repository requested name

/-- Whether the flags leave open what nobody can be asked for. -/
def unattended (input : InitInput) : Run Bool := do
  let tty ← call .isTTY
  return !tty && !input.flags.yes && (!given input.flags.cubeName || !given input.flags.template)

def parseNewCubeTemplate (value : String) : Option String :=
  CubePlatform.templateNames.find? (fun name => name == value)

def initializeUnassociated (rounds : ℕ) (input : InitInput) (repository : CreateCubeRepository) :
    Run RepositoryCubeInitResult := do
  match ← orFail (← call (.resolveAssociation repository input.context.derivedName)) with
  | some association => saveResolvedAssociation input repository association
  | none => do
    let proposedName := (input.flags.cubeName.map trimmed).getD input.context.derivedName
    if validRepositoryCubeName proposedName = false then return .stop 1
    else do
      let accessibleCubes ← orFail (← call .listCubes)
      match ← adoptExactMatch rounds input repository accessibleCubes proposedName with
      | some result => return result
      | none => do
        let requested := input.flags.template.bind parseNewCubeTemplate
        if input.canCreate = false ∨ input.flags.noTemplate ∨
            (input.flags.template.isSome ∧ requested = none) then return .stop 1
        else if ← unattended input then return .stop 1
        else createNew rounds input repository accessibleCubes proposedName requested

def initializeRepositoryCube (rounds : ℕ) (input : InitInput) : Run RepositoryCubeInitResult := do
  let repository ← orFail (← call .getIdentity)
  match ← orFail (← call (.getAssociation repository)) with
  | some association => do
    let cube ← orFail (← call (.getCube association.cubeId))
    let roleId (role : Option CubeRole) : String := (role.map (·.id)).getD ""
    return .success
      ⟨association.cubeId, cube.name, association.workingRepoName, repository, association.template,
        roleId (cube.roles.find? (·.isHumanSeat)), roleId (cube.roles.find? (·.isDefault))⟩ cube true
  | none => initializeUnassociated rounds input repository

end Flow

end BorgClient.Cubes
