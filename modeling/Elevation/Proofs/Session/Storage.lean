import Elevation.Proofs.Session.Opening
import Elevation.Standin.Basic

/-!
The storage that is reported and the storage that is used. The report repeats what the environment asks
for. The artifact store falls back to memory where that cannot be had, so the two agree just where the
environment asks for something that there is.
-/

namespace Elevation.Command.Storage

open Response (storageVariable)

variable {σ ρ κ : Type} {keeper : Keeper κ} {environment : Settings.Environment} {current now : Option κ}
  {world next : World σ} {storage : Storage}

/-- An environment that asks for memory, or for a directory which it names. -/
def Plain (environment : Settings.Environment) : Prop :=
  asked environment = memoryName ∨
    asked environment = directoryName ∧ (Settings.setting? environment pathVariable).isSome = true

theorem choose_cases (chosen : (choose environment world).1 = .ok storage) :
    (asked environment = directoryName ∧
        ∃ path, Settings.setting? environment pathVariable = some path ∧ storage = .directory path) ∨
      (¬ (asked environment = directoryName ∧
          (Settings.setting? environment pathVariable).isSome = true) ∧ storage = .memory) := by
  simp only [choose] at chosen
  by_cases directory : asked environment = directoryName
  · rw [if_pos (by exact directory)] at chosen
    cases named : Settings.setting? environment pathVariable with
    | none =>
      rw [named] at chosen
      refine Or.inr ⟨?_, (Except.ok.inj chosen).symm⟩
      rintro ⟨-, ⟨⟩⟩
    | some path =>
      simp only [named] at chosen
      obtain ⟨-, -, made⟩ := map_eq_ok.mp (mapError_eq_ok.mp chosen)
      exact Or.inl ⟨directory, path, rfl, made.symm⟩
  · rw [if_neg (by exact directory)] at chosen
    refine Or.inr ⟨fun plain => directory plain.1, ?_⟩
    split at chosen <;> exact (Except.ok.inj chosen).symm

/-- A store that has been put in force keeps artifacts in the storage that was chosen. -/
theorem choose_of_initialise (setter : keeper.IsSetter)
    (opened : initialise keeper environment current world = (.ok true, now, next)) :
    ∃ store, now = some store ∧ (choose environment world).1 = .ok (keeper.storageOf store) := by
  have ends := ends_initialise setter environment current world
  rw [opened] at ends
  cases ends with
  | installed storage store chosen made accepted =>
    exact ⟨store, rfl, by rw [setter.storageOf_make storage store made, chosen]⟩

theorem asked_eq_name_iff (chosen : (choose environment world).1 = .ok storage) :
    asked environment = storage.name ↔ Plain environment := by
  rcases choose_cases chosen with ⟨directory, path, named, rfl⟩ | ⟨missing, rfl⟩
  · have plain : Plain environment := Or.inr ⟨directory, by rw [named]; rfl⟩
    exact iff_of_true directory plain
  · constructor
    · exact Or.inl
    · exact fun plain => plain.resolve_right missing

/-- The report on the storage is right where the environment asks for memory or for a directory which it
names, and wrong in every other case, the store being kept in memory then. -/
theorem storage_of_status_iff [Fields.Coercion] [Machine] (setter : keeper.IsSetter) (session : Session ρ)
    (later : World ρ)
    (opened : initialise keeper session.environment current world = (.ok true, now, next)) :
    ∃ store status, now = some store ∧ (session.answer .status later).1 = .ok (.status status) ∧
      (status.storage = (keeper.storageOf store).name ↔ Plain session.environment) ∧
      (¬ Plain session.environment → keeper.storageOf store = .memory) := by
  obtain ⟨store, inForce, chosen⟩ := choose_of_initialise setter opened
  refine ⟨store, _, inForce, rfl, asked_eq_name_iff chosen, ?_⟩
  intro odd
  rcases choose_cases chosen with ⟨directory, path, named, -⟩ | ⟨-, memory⟩
  · exact absurd (Or.inr ⟨directory, by rw [named]; rfl⟩) odd
  · exact memory

open scoped Standin

def archivist (environment : Settings.Environment) : Session Nat where
  provider := none
  environment := environment
  downloader := fun _ _ _ count => (⟨none, .ok ()⟩, count)
  store := .ready
  label := toString
  stored := []

/-- A keeper that makes and accepts every store. -/
def attic : Keeper Storage where
  make storage := .ok storage
  install store _ := (.ok (), some store)
  storageOf store := store

theorem isSetter_attic : attic.IsSetter where
  storageOf_make _ _ made := (Except.ok.inj made).symm
  install_cases _ _ := Or.inl rfl

theorem storage_of_status_iff_directory :
    ∃ next, initialise attic (archival "/tiles/art") none Provider.bareWorld =
        (.ok true, some (.directory "/tiles/art"), next) ∧
      ∃ status, ((archivist (archival "/tiles/art")).answer .status Provider.bareWorld).1 =
        .ok (.status status) ∧ status.storage = directoryName := by
  have opened : ∃ next, initialise attic (archival "/tiles/art") none Provider.bareWorld =
      (.ok true, some (.directory "/tiles/art"), next) := ⟨_, rfl⟩
  obtain ⟨next, opened⟩ := opened
  obtain ⟨store, status, inForce, answered, agrees, -⟩ := storage_of_status_iff isSetter_attic
    (archivist (archival "/tiles/art")) Provider.bareWorld opened
  cases inForce
  exact ⟨next, opened, status, answered, agrees.mpr (Or.inr ⟨rfl, rfl⟩)⟩

/-- Without a path the store is kept in memory, and the report names a directory all the same. -/
theorem storage_of_status_unnamed :
    (∃ next, initialise attic [(storageVariable, directoryName)] none Provider.bareWorld =
        (.ok true, some .memory, next)) ∧
      ∃ status, ((archivist [(storageVariable, directoryName)]).answer .status
          Provider.bareWorld).1 = .ok (.status status) ∧ status.storage ≠ Storage.memory.name :=
  ⟨⟨_, rfl⟩, _, rfl, by decide⟩

end Elevation.Command.Storage
