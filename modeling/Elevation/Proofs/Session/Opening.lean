import Elevation.Command.Server
import Elevation.Proofs.Disk.Making
import Elevation.Proofs.Outcome
import Elevation.Proofs.Provider.Archives

/-!
What comes of opening the artifact store. Whatever makes a store or puts it in force may refuse, and
then the answer is that there is none, the one before staying in force. The directory that the
environment names is made before all this: a refusal there is no answer but a failure.
-/

namespace Elevation.Command.Storage

open Response (storageVariable)

variable {σ κ : Type} {keeper : Keeper κ} {environment : Settings.Environment} {current : Option κ}
  {world : World σ} {failure : Failure} {path : String}

/-! ### Choosing a storage -/

/-- The storage that an environment asks for by name; to say nothing is to ask for memory. -/
def asked (environment : Settings.Environment) : String :=
  (environment.lookup storageVariable).getD memoryName

def Names (environment : Settings.Environment) (path : String) : Prop :=
  asked environment = directoryName ∧ Settings.setting? environment pathVariable = some path

theorem choose_eq_error_iff : (choose environment world).1 = .error failure ↔
    ∃ path refusal, Names environment path ∧
      (world.disk.makeDirectories (.ofText path)).1 = .error refusal ∧ failure = .refused refusal := by
  simp only [choose]
  by_cases directory : asked environment = directoryName
  · rw [if_pos (by exact directory)]
    cases named : Settings.setting? environment pathVariable with
    | none => simp [Names, named]
    | some path =>
      simp only [Names, named, directory, true_and, Option.some.injEq]
      rw [mapError_eq_error]
      simp only [map_eq_error]
      constructor
      · rintro ⟨refusal, refused, rfl⟩
        exact ⟨path, refusal, rfl, refused, rfl⟩
      · rintro ⟨_, refusal, rfl, refused, rfl⟩
        exact ⟨refusal, refused, rfl⟩
  · rw [if_neg (by exact directory)]
    constructor
    · intro failed
      split at failed <;> cases failed
    · rintro ⟨_, _, named, -⟩
      exact absurd named.1 directory

/-! ### Opening -/

theorem initialise_eq_error_iff_choose :
    (initialise keeper environment current world).1 = .error failure ↔
      (choose environment world).1 = .error failure := by
  unfold initialise
  rcases choose environment world with ⟨failure' | storage, world'⟩
  · simp only [Except.error.injEq]
  · have answered (answer : Bool) : ¬ (.ok answer : Except Failure Bool) = .error failure := nofun
    cases made : keeper.make storage with
    | error reason => simp only [made, answered, reduceCtorEq]
    | ok store =>
      rcases accepted : keeper.install store current with ⟨reason | _, now⟩ <;>
        simp only [made, accepted, answered, reduceCtorEq]

theorem initialise_eq_error_iff : (initialise keeper environment current world).1 = .error failure ↔
    ∃ path refusal, Names environment path ∧
      (world.disk.makeDirectories (.ofText path)).1 = .error refusal ∧ failure = .refused refusal :=
  initialise_eq_error_iff_choose.trans choose_eq_error_iff

theorem initialise_of_unmade (keeper : Keeper κ) (current : Option κ) {refusal : Disk.Refusal}
    (names : Names environment path)
    (unmade : (world.disk.makeDirectories (.ofText path)).1 = .error refusal) :
    (initialise keeper environment current world).1 = .error (.refused refusal) :=
  initialise_eq_error_iff.mpr ⟨path, refusal, names, unmade, rfl⟩

/-- How opening ends, with the store that is in force then. -/
inductive Ends (keeper : Keeper κ) (environment : Settings.Environment) (current : Option κ)
    (world : World σ) : Except Failure Bool → Option κ → Prop
  | installed (storage : Storage) (store : κ) (chosen : (choose environment world).1 = .ok storage)
    (made : keeper.make storage = .ok store)
    (accepted : keeper.install store current = (.ok (), some store)) :
    Ends keeper environment current world (.ok true) (some store)
  | unmade (storage : Storage) (reason : String) (chosen : (choose environment world).1 = .ok storage)
    (refused : keeper.make storage = .error reason) :
    Ends keeper environment current world (.ok false) current
  | declined (storage : Storage) (store : κ) (reason : String)
    (chosen : (choose environment world).1 = .ok storage) (made : keeper.make storage = .ok store)
    (refused : keeper.install store current = (.error reason, current)) :
    Ends keeper environment current world (.ok false) current
  /-- No store has been made, and nothing has been put in force. -/
  | failed (path : String) (refusal : Disk.Refusal) (names : Names environment path)
    (refused : (world.disk.makeDirectories (.ofText path)).1 = .error refusal) :
    Ends keeper environment current world (.error (.refused refusal)) current

theorem ends_initialise (setter : keeper.IsSetter) (environment : Settings.Environment)
    (current : Option κ) (world : World σ) :
    Ends keeper environment current world (initialise keeper environment current world).1
      (initialise keeper environment current world).2.1 := by
  unfold initialise
  rcases chosen : choose environment world with ⟨failure | storage, world'⟩
  · obtain ⟨path, refusal, names, refused, rfl⟩ := choose_eq_error_iff.mp (congrArg Prod.fst chosen)
    exact .failed path refusal names refused
  · have chosen := congrArg Prod.fst chosen
    cases made : keeper.make storage with
    | error reason =>
      simp only [made]
      exact .unmade storage reason chosen made
    | ok store =>
      simp only [made]
      rcases setter.install_cases store current with accepted | ⟨reason, refused⟩
      · rw [accepted]
        exact .installed storage store chosen made accepted
      · rw [refused]
        exact .declined storage store reason chosen made refused

/-- Opening the artifact store is answered by whether one is in force, whatever made it or refused it,
and no other takes the place of the one before. It fails just where the directory that is named cannot
be made: where a file stands in its place, and where the path leads astray, for instance below a file;
a directory that is there already is in nobody's way. -/
theorem initialise_answers (setter : keeper.IsSetter) (environment : Settings.Environment)
    (current : Option κ) (world : World σ) :
    let opened := initialise keeper environment current world
    Ends keeper environment current world opened.1 opened.2.1 ∧
    ((∃ failure, opened.1 = .error failure) ↔ ∃ path refusal, Names environment path ∧
      (world.disk.makeDirectories (.ofText path)).1 = .error refusal) ∧
    ∀ path, Names environment path →
      (∀ place bytes, world.disk.locate (.ofText path) = .ok place →
        world.disk.find? place = some (.file bytes) →
          opened.1 = .error (.refused ⟨.exists, some (Disk.Path.ofText path).text⟩)) ∧
      (∀ fault, world.disk.locate (.ofText path) = .error fault → fault ≠ .noEntry →
        opened.1 = .error (.refused ⟨fault, some (Disk.Path.ofText path).text⟩)) ∧
      ∀ place, world.disk.locate (.ofText path) = .ok place →
        world.disk.find? place = some .directory → ∃ answer, opened.1 = .ok answer := by
  intro opened
  refine ⟨ends_initialise setter environment current world, ?_, fun path names => ⟨?_, ?_, ?_⟩⟩
  · constructor
    · rintro ⟨failure, failed⟩
      obtain ⟨path, refusal, names, unmade, -⟩ := initialise_eq_error_iff.mp failed
      exact ⟨path, refusal, names, unmade⟩
    · rintro ⟨path, refusal, names, unmade⟩
      exact ⟨_, initialise_of_unmade keeper current names unmade⟩
  · intro place bytes located found
    exact initialise_of_unmade keeper current names
      (congrArg Prod.fst (Disk.Tree.makeDirectories_of_file located found))
  · intro fault astray final
    exact initialise_of_unmade keeper current names
      (congrArg Prod.fst (Disk.Tree.makeDirectories_of_fault astray final))
  · intro place located found
    cases ends : opened.1 with
    | ok answer => exact ⟨answer, rfl⟩
    | error failure =>
      obtain ⟨path', refusal, names', unmade, -⟩ := initialise_eq_error_iff.mp ends
      cases names.2.symm.trans names'.2
      rw [Disk.Tree.makeDirectories_of_directory located found] at unmade
      cases unmade

/-- A keeper that makes a store of every storage, and accepts those in a directory. -/
def shelf : Keeper Storage where
  make storage := .ok storage
  install store current :=
    if store.name = directoryName then (.ok (), some store) else (.error "no such shelf", current)
  storageOf store := store

theorem isSetter_shelf : shelf.IsSetter where
  storageOf_make _ _ made := (Except.ok.inj made).symm
  install_cases store current := by
    by_cases directory : store.name = directoryName
    · exact Or.inl (if_pos directory)
    · exact Or.inr ⟨"no such shelf", if_neg directory⟩

def blocked : World Nat :=
  { Provider.bareWorld with disk := Provider.bareWorld.disk.insert ["art"] (.file ⟨#[120]⟩) }

def archival (path : String) : Settings.Environment :=
  [(storageVariable, directoryName), (pathVariable, path)]

/-- A store in a directory is put in force, and one in memory is refused: the one before stays. -/
theorem initialise_answers_shelf :
    shelf.IsSetter ∧
    (initialise shelf (archival "/tiles/art") none Provider.bareWorld).1 = .ok true ∧
      (initialise shelf (archival "/tiles/art") none Provider.bareWorld).2.1 =
        some (.directory "/tiles/art") ∧
      (initialise shelf [] (some (.directory "old")) Provider.bareWorld).1 = .ok false ∧
      (initialise shelf [] (some (.directory "old")) Provider.bareWorld).2.1 = some (.directory "old") := by
  have opened : (initialise shelf [] (some (.directory "old")) Provider.bareWorld).1 = .ok false := rfl
  have ends := (initialise_answers isSetter_shelf [] (some (.directory "old")) Provider.bareWorld).1
  refine ⟨isSetter_shelf, rfl, rfl, opened, ?_⟩
  rw [opened] at ends
  generalize (initialise shelf [] (some (.directory "old")) Provider.bareWorld).2.1 = now at ends ⊢
  cases ends <;> rfl

/-- Opening a store in a directory whose place a file has taken is a failure and no answer. -/
theorem initialise_fails_blocked :
    (initialise shelf (archival "/art") none blocked).1 = .error (.refused ⟨.exists, some "/art"⟩) := rfl

end Elevation.Command.Storage
