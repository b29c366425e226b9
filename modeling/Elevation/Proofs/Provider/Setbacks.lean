import Elevation.Proofs.Grid.Globe
import Elevation.Proofs.Provider.Alone
import Elevation.Proofs.Provider.Counters
import Elevation.Proofs.Provider.Exclusion
import Elevation.Proofs.Provider.Failures
import Elevation.Standin.Basic

/-!
What a failure leaves behind. A tile that cannot be had is a miss and nothing else to the cache; of the
files, no more than the archive of its cell and the partial file of that archive can have changed.
-/

namespace Elevation.Provider

open Elevation.Disk (Tree)
open Elevation.Disk.Tree (Opens)

variable {σ α : Type} [Scalar α] {provider : Provider σ} {world : World σ} {dir : Disk.Place}
  {cell : Cell} {place : Place α} {partition : String} {failure : Failure}

/-! ### The archive -/

structure Published (dir : Disk.Place) (cell : Cell) (disk next : Tree) : Prop where
  absent : disk.find? (dir ++ [archiveName cell]) = none
  present : ∃ bytes, next.find? (dir ++ [archiveName cell]) = some (.file bytes)
  moved : next.find? (dir ++ [partName cell]) = none
  here : next.here = disk.here
  others : ∀ spot, ¬ dir ++ [archiveName cell] <+: spot → ¬ dir ++ [partName cell] <+: spot →
    next.find? spot = disk.find? spot

inductive Ensured (dir : Disk.Place) (cell : Cell) (disk : Tree) : Except Failure Disk.Path → Tree → Prop
  | refused (refusal : Disk.Refusal) : Ensured dir cell disk (.error (.refused refusal)) disk
  | unfetched (url : String) (cause : Failure) :
    Ensured dir cell disk (.error (.retrieval url cause)) (disk.erase (dir ++ [partName cell]))
  | present (path : Disk.Path) : Ensured dir cell disk (.ok path) disk
  | published (path : Disk.Path) (next : Tree) (published : Published dir cell disk next) :
    Ensured dir cell disk (.ok path) next

theorem erase_deposited (disk : Tree) (spot : Disk.Place) (content : Option ByteArray) :
    (deposited disk spot content).erase spot = disk.erase spot := by
  cases content with
  | none => rfl
  | some bytes => simp [deposited, Tree.insert, Tree.erase]

theorem Ready.published {disk : Tree} (ready : Ready provider disk dir cell)
    (absent : disk.find? (dir ++ [archiveName cell]) = none) {content : Option ByteArray} {node : Disk.Node}
    (written : (deposited disk (dir ++ [partName cell]) content).find? (dir ++ [partName cell]) = some node) :
    Published dir cell disk ((deposited disk (dir ++ [partName cell]) content).move
      (dir ++ [partName cell]) (dir ++ [archiveName cell])) := by
  obtain ⟨keeps, closed, others⟩ := deposited_keeps ready.part content
  have apart := partName_ne_archiveName cell cell
  have target : ((deposited disk (dir ++ [partName cell]) content).move (dir ++ [partName cell])
      (dir ++ [archiveName cell])).find? (dir ++ [archiveName cell]) =
        (deposited disk (dir ++ [partName cell]) content).find? (dir ++ [partName cell]) :=
    Tree.find?_move_target _ (by simp) (by simp) (by simpa using apart)
  refine ⟨absent, ?_, ?_, keeps.here, ?_⟩
  · cases node with
    | directory => simp [Tree.isDirectoryAt, written] at closed
    | file bytes => exact ⟨bytes, target.trans written⟩
  · exact Tree.find?_move_source _ (by simp) fun above => apart (prefix_child_iff.mp above).symm
  · intro spot archive part
    rw [Tree.find?_move_of_away _ (by simp) part archive]
    exact others spot fun same => part (same ▸ List.prefix_rfl)

theorem Ready.landed {disk : Tree} (url : String) (ready : Ready provider disk dir cell)
    (absent : disk.find? (dir ++ [archiveName cell]) = none) (delivery : Transfer.Delivery) :
    Ensured dir cell disk (Provider.landed provider url cell dir disk delivery).1
      (Provider.landed provider url cell dir disk delivery).2 := by
  obtain ⟨content, result⟩ := delivery
  unfold Provider.landed
  simp only [erase_deposited]
  cases result with
  | error failure => exact .unfetched url failure
  | ok _ =>
    cases written : (deposited disk (dir ++ [partName cell]) content).find? (dir ++ [partName cell]) with
    | none => exact .unfetched url _
    | some node => exact .published _ _ (ready.published absent written)

theorem Ready.ensured (ready : Ready provider world.disk dir cell)
    (found : held provider place = .ok (partition, cell)) :
    Ensured dir cell world.disk (provider.ensureArchive place world).1
      (provider.ensureArchive place world).2.disk := by
  unfold ensureArchive
  simp only [archiveUrl_eq, found, Except.map, pathOf_urlOf]
  cases present : world.disk.exists? (provider.directory.child (archiveName cell)) with
  | error refusal => exact .refused refusal
  | ok there =>
    cases there with
    | true => exact .present _
    | false =>
      simp only
      cases faulty : provider.directory.childFault? (partName cell) with
      | some fault =>
        obtain ⟨result, disk⟩ := download_refused (provider.urlOf partition cell) ready faulty
        rw [result, disk]
        exact .refused _
      | none =>
        have absent : world.disk.find? (dir ++ [archiveName cell]) = none := by
          rw [ready.opens.exists_child (archiveName_ne_dots cell)
            (Disk.Path.childFault?_of_append faulty)] at present
          simpa using present
        have both := ready.download (provider.urlOf partition cell) faulty
        have ensured := ready.landed (provider.urlOf partition cell) absent
          (provider.downloader (provider.urlOf partition cell) (.ok ()) world.far).1
        rw [← both] at ensured
        exact ensured

/-! ### The tile -/

def Fails [Machine] (provider : Provider σ) (place : Place α) (world : World σ) (failure : Failure)
    (after : Provider σ) (next : World σ) : Prop :=
  provider.tileAt place world = (.error failure, after, next) ∨
    provider.heightAt place world = (.error failure, after, next) ∨
    provider.elevationAt place world = (.error failure, after, next)

variable {after : Provider σ} {next : World σ}

theorem tileAt_of_heightAt [Machine] (failed : provider.heightAt place world = (.error failure, after, next))
    (tileless : Tileless failure) : provider.tileAt place world = (.error failure, after, next) := by
  rw [heightAt_eq] at failed
  obtain ⟨answer, left⟩ := Prod.mk.inj failed
  generalize provider.tileAt place world = outcome at answer left ⊢
  obtain ⟨failure' | tile, outcome⟩ := outcome
  · cases answer
    exact congrArg _ left
  · exact absurd tileless (not_tileless_of_heightAt answer)

theorem Fails.tileAt [Machine] (fails : Fails provider place world failure after next)
    (tileless : Tileless failure) : provider.tileAt place world = (.error failure, after, next) := by
  rcases fails with tile | height | elevation
  · exact tile
  · exact tileAt_of_heightAt height tileless
  · unfold elevationAt at elevation
    rcases read : provider.heightAt place world with ⟨failure' | height, outcome⟩
    · rw [read] at elevation
      cases elevation
      exact tileAt_of_heightAt read tileless
    · rw [read] at elevation
      cases elevation

section

open Threads (Moves)
open Elevation.Cache.Loading (Thread)
open Elevation.Cache.Loading.State (Coherent Taken)

end

section

variable [Machine]

/-! ### What is left of a failure -/

end

open scoped Standin

/-- A downloader that delivers two bytes, which are no archive. -/
def stub : Transfer.Downloader Nat := fun _ _ count => (⟨some ⟨#[80, 75]⟩, .ok ()⟩, count + 1)

/-- A provider that has just been made for tiles of four samples, where the far side has no archives. -/
def damaged : Provider Nat :=
  ⟨lowland, String.ofList (Disk.Path.dropTrailing '/' defaultBaseUrl.toList), 2, ⟨"/", ["tiles"]⟩, stub,
    .empty none⟩

/-- A world in which a partial file has been left by someone else. -/
def littered : World Nat :=
  { bareWorld with disk := bareWorld.disk.insert ["tiles", "N52E004.hgt.zip.part"] (.file ⟨#[115]⟩) }

end Elevation.Provider
