import Elevation.Provider.Basic
import Elevation.Proofs.Archive.Writing
import Elevation.Proofs.Disk.Directory
import Elevation.Proofs.Grid.Name

/-!
Archives in the directory of a provider. The archive of a cell and the partial file of its transfer
have names of their own, and a transfer touches those two files only.
-/

namespace Elevation.Provider

open Elevation.Disk (Node)
open Elevation.Disk.Tree (Keeps Opens)

variable {σ : Type}

/-! ### Names -/

def archiveName (cell : Cell) : String := cell.name ++ archiveSuffix

def partName (cell : Cell) : String := archiveName cell ++ partialSuffix

def urlOf (provider : Provider σ) (partition : String) (cell : Cell) : String :=
  provider.baseUrl ++ "/" ++ (partition ++ "/" ++ cell.name) ++ archiveSuffix

theorem slash_notMem_archiveName (cell : Cell) : '/' ∉ (archiveName cell).toList := by
  have name := cell.slash_notMem_nameChars
  simp [archiveName, Cell.name, archiveSuffix, name]

theorem archiveName_injective : Function.Injective archiveName := by
  intro cell other same
  exact Cell.name_injective (String.append_left_inj archiveSuffix |>.mp same)

theorem partName_injective : Function.Injective partName := by
  intro cell other same
  exact archiveName_injective (String.append_left_inj partialSuffix |>.mp same)

theorem lastSegment_urlOf (provider : Provider σ) (partition : String) (cell : Cell) :
    lastSegment (provider.urlOf partition cell) = archiveName cell := by
  have chars : (provider.urlOf partition cell).toList =
      (provider.baseUrl ++ "/" ++ partition).toList ++ '/' :: (archiveName cell).toList := by
    simp [urlOf, archiveName]
  rw [lastSegment, chars, takeWhile_slash (slash_notMem_archiveName cell), List.reverse_reverse,
    String.ofList_toList]

theorem pathOf_urlOf (provider : Provider σ) (partition : String) (cell : Cell) :
    provider.pathOf (provider.urlOf partition cell) = provider.directory.child (archiveName cell) :=
  congrArg provider.directory.child (lastSegment_urlOf provider partition cell)

theorem urlOf_inj {provider : Provider σ} {partition partition' : String} {cell cell' : Cell}
    (same : provider.urlOf partition cell = provider.urlOf partition' cell') : cell = cell' := by
  have segments := congrArg lastSegment same
  rw [lastSegment_urlOf, lastSegment_urlOf] at segments
  exact archiveName_injective segments

theorem partialOf_child (directory : Disk.Path) (cell : Cell) :
    partialOf (directory.child (archiveName cell)) = directory.child (partName cell) := by
  simp [partialOf, Disk.Path.withName, Disk.Path.name, Disk.Path.child, partName]

theorem getLast?_archiveName (cell : Cell) : (archiveName cell).toList.getLast? = some 'p' := by
  simp [archiveName, archiveSuffix]

theorem getLast?_partName (cell : Cell) : (partName cell).toList.getLast? = some 't' := by
  simp [partName, partialSuffix]

theorem archiveName_ne_dots (cell : Cell) : archiveName cell ≠ ".." := by
  intro same
  have last := getLast?_archiveName cell
  rw [same] at last
  revert last
  decide

theorem partName_ne_dots (cell : Cell) : partName cell ≠ ".." := by
  intro same
  have last := getLast?_partName cell
  rw [same] at last
  revert last
  decide

theorem partName_ne_archiveName (cell other : Cell) : partName cell ≠ archiveName other := by
  intro same
  have last := getLast?_partName cell
  rw [same, getLast?_archiveName] at last
  revert last
  decide

/-! ### Transfers -/

variable {provider : Provider σ} {world : World σ} {place : Disk.Place} {cell : Cell} {url : String}

/-- The directory of a provider, in which no directory stands where files of a cell belong. -/
structure Ready (provider : Provider σ) (disk : Disk.Tree) (place : Disk.Place) (cell : Cell) : Prop where
  opens : Opens disk provider.directory place
  archive : disk.isDirectoryAt (place ++ [archiveName cell]) = false
  part : disk.isDirectoryAt (place ++ [partName cell]) = false

theorem download_refused {fault : Disk.Fault} (url : String) (ready : Ready provider world.disk place cell)
    (faulty : provider.directory.childFault? (partName cell) = some fault) :
    (provider.download url (provider.directory.child (archiveName cell)) world).1 =
        .error (.refused ⟨fault, some (provider.directory.child (partName cell)).text⟩) ∧
      (provider.download url (provider.directory.child (archiveName cell)) world).2.disk =
        world.disk := by
  obtain ⟨unwritable, stuck, nowhere⟩ := ready.opens.refuse_child (partName_ne_dots cell) faulty
  have kept (content : Option ByteArray) :
      deposit world.disk (provider.directory.child (partName cell)) content = world.disk := by
    cases content with
    | none => rfl
    | some bytes => simp [deposit, Disk.Tree.write, unwritable, Disk.Tree.refuse, Except.map]
  have unpublished (result : Except Failure Unit) : ∃ failure,
      publish world.disk (provider.directory.child (partName cell))
        (provider.directory.child (archiveName cell)) result = .error failure := by
    cases result with
    | error failure => exact ⟨failure, rfl⟩
    | ok _ =>
      unfold publish
      rw [nowhere]
      by_cases long : fault = .nameTooLong
      · rw [if_pos long]
        exact ⟨_, rfl⟩
      · rw [if_neg long]
        exact ⟨_, rfl⟩
  unfold download
  rw [partialOf_child]
  simp only [World.note, kept]
  obtain ⟨failure, failed⟩ := unpublished _
  rw [failed]
  simp only [abandon, stuck]
  exact ⟨rfl, rfl⟩

/-- What a transfer leaves in the tree before it is published or abandoned. -/
def deposited (disk : Disk.Tree) (place : Disk.Place) (content : Option ByteArray) : Disk.Tree :=
  match content with
  | none => disk
  | some bytes => disk.insert place (.file bytes)

theorem deposited_find?_self (disk : Disk.Tree) (place : Disk.Place) (name : String) (bytes : ByteArray) :
    (deposited disk (place ++ [name]) (some bytes)).find? (place ++ [name]) = some (.file bytes) := by
  rw [deposited, Disk.Tree.find?_insert _ (by simp), if_pos rfl]

theorem deposited_keeps {disk : Disk.Tree} {place : Disk.Place}
    (closed : disk.isDirectoryAt place = false) (content : Option ByteArray) :
    Keeps disk (deposited disk place content) ∧
      (deposited disk place content).isDirectoryAt place = false ∧
      ∀ other, other ≠ place → (deposited disk place content).find? other = disk.find? other := by
  cases content with
  | none => exact ⟨.refl disk, closed, fun _ _ => rfl⟩
  | some bytes =>
    have here := Disk.Tree.find?_insert disk (Disk.Tree.ne_nil_of_closed closed) (.file bytes)
    refine ⟨Disk.Tree.keeps_insert closed _, ?_, ?_⟩
    · unfold deposited Disk.Tree.isDirectoryAt
      simp only [here, ↓reduceIte]
    · intro other away
      exact (here other).trans (if_neg away)

theorem Ready.deposit (ready : Ready provider world.disk place cell)
    (sound : provider.directory.childFault? (partName cell) = none) (content : Option ByteArray) :
    deposit world.disk (provider.directory.child (partName cell)) content =
      deposited world.disk (place ++ [partName cell]) content := by
  cases content with
  | none => rfl
  | some bytes =>
    simp only [Provider.deposit,
      ready.opens.write_child (partName_ne_dots cell) sound ready.part]
    rfl

/-- What comes of a transfer whose partial file can be written, and the tree that it leaves. -/
def landed (provider : Provider σ) (url : String) (cell : Cell) (place : Disk.Place)
    (disk : Disk.Tree) (delivery : Transfer.Delivery) : Except Failure Disk.Path × Disk.Tree :=
  let part := place ++ [partName cell]
  let disk := deposited disk part delivery.content
  match delivery.result, disk.find? part with
  | .error failure, _ => (.error (.retrieval url failure), disk.erase part)
  | .ok (), none =>
    let text := (provider.directory.child (partName cell)).text
    (.error (.retrieval url (.nothingWritten text)), disk.erase part)
  | .ok (), some _ =>
    (.ok (provider.directory.child (archiveName cell)), disk.move part (place ++ [archiveName cell]))

theorem Ready.download (url : String) (ready : Ready provider world.disk place cell)
    (sound : provider.directory.childFault? (partName cell) = none) :
    ((provider.download url (provider.directory.child (archiveName cell)) world).1,
        (provider.download url (provider.directory.child (archiveName cell)) world).2.disk) =
      landed provider url cell place world.disk (provider.downloader url (.ok ()) world.far).1 := by
  have writable := ready.opens.writable_child (partName_ne_dots cell) sound ready.part
  rcases delivered : provider.downloader url (.ok ()) world.far with ⟨⟨content, result⟩, far⟩
  obtain ⟨keeps, closed, -⟩ := deposited_keeps ready.part content
  have opens := ready.opens.keeps keeps
  simp only [Provider.download, partialOf_child, World.note, writable, Except.map, delivered,
    ready.deposit sound, landed]
  generalize deposited world.disk (place ++ [partName cell]) content = disk at keeps closed opens ⊢
  have removed := opens.remove_child (partName_ne_dots cell) sound closed
  cases result with
  | error failure => simp only [publish, abandon, removed]
  | ok _ =>
    have present := opens.exists_child (partName_ne_dots cell) sound
    cases found : disk.find? (place ++ [partName cell]) with
    | none =>
      rw [found] at present
      simp only [publish, present, Option.isSome_none, abandon, removed]
    | some node =>
      have renamed := opens.rename_child (partName_ne_dots cell) sound (archiveName_ne_dots cell)
        (Disk.Path.childFault?_of_append sound) (by rw [found]; rfl)
      rw [found] at present
      simp only [publish, present, Option.isSome_some, renamed, Except.mapError]

theorem prefix_child_iff {place : Disk.Place} {name other : String} :
    place ++ [name] <+: place ++ [other] ↔ name = other := by
  constructor
  · intro above
    have whole := above.eq_of_length (by simp)
    simpa using whole
  · rintro rfl
    exact List.prefix_rfl

theorem landed_keeps {disk : Disk.Tree} (url : String) (ready : Ready provider disk place cell)
    (delivery : Transfer.Delivery) : Keeps disk (landed provider url cell place disk delivery).2 := by
  obtain ⟨keeps, closed, others⟩ := deposited_keeps ready.part delivery.content
  have away : place ++ [archiveName cell] ≠ place ++ [partName cell] := by
    simpa using (partName_ne_archiveName cell cell).symm
  have closed' : (deposited disk (place ++ [partName cell]) delivery.content).isDirectoryAt
      (place ++ [archiveName cell]) = false := by
    have archive := ready.archive
    unfold Disk.Tree.isDirectoryAt at archive ⊢
    rwa [others _ away]
  unfold landed
  simp only
  split
  · exact keeps.trans (Disk.Tree.keeps_erase closed)
  · exact keeps.trans (Disk.Tree.keeps_erase closed)
  · exact keeps.trans (Disk.Tree.keeps_move closed closed')

/-- The files that a transfer leaves: the partial file is gone, the archive is what was delivered if
the transfer succeeded, and everything else is as it was. -/
theorem landed_find? {disk : Disk.Tree} (url : String) (ready : Ready provider disk place cell)
    (delivery : Transfer.Delivery) (name : String) :
    (landed provider url cell place disk delivery).2.find? (place ++ [name]) =
      if name = partName cell then none
      else if name = archiveName cell ∧ (landed provider url cell place disk delivery).1.isOk then
        (deposited disk (place ++ [partName cell]) delivery.content).find? (place ++ [partName cell])
      else disk.find? (place ++ [name]) := by
  obtain ⟨-, closed, others⟩ := deposited_keeps ready.part delivery.content
  have proper (name : String) : place ++ [name] ≠ [] := by simp
  have apart := (partName_ne_archiveName cell cell).symm
  have erased : ∀ name, ((deposited disk (place ++ [partName cell]) delivery.content).erase
      (place ++ [partName cell])).find? (place ++ [name]) =
        if name = partName cell then none else disk.find? (place ++ [name]) := by
    intro name
    rw [Disk.Tree.find?_erase _ (proper _)]
    by_cases part : name = partName cell
    · simp [part]
    · rw [if_neg (by simpa using part), if_neg part, others _ (by simpa using part)]
  obtain ⟨content, result⟩ := delivery
  cases result with
  | error failure => simpa [landed, Except.isOk, Except.toBool] using erased name
  | ok _ =>
    cases found : (deposited disk (place ++ [partName cell]) content).find?
        (place ++ [partName cell]) with
    | none => simpa [landed, found, Except.isOk, Except.toBool] using erased name
    | some node =>
      simp only [landed, found]
      have unlike : ¬ place ++ [archiveName cell] <+: place ++ [partName cell] :=
        fun above => apart (prefix_child_iff.mp above)
      by_cases part : name = partName cell
      · rw [part, if_pos rfl]
        exact Disk.Tree.find?_move_source _ (proper _) unlike
      · rw [if_neg part]
        by_cases archive : name = archiveName cell
        · rw [if_pos ⟨archive, rfl⟩, archive, ← found]
          exact Disk.Tree.find?_move_target _ (proper _) (proper _) (by simpa using apart.symm)
        · rw [if_neg (fun both => archive both.1), Disk.Tree.find?_move_of_away _ (proper _)
            (fun above => part (prefix_child_iff.mp above).symm)
            (fun above => archive (prefix_child_iff.mp above).symm)]
          exact others _ (by simpa using part)

/-! ### A small world -/

def lowland : Coverage.Index := Coverage.Index.empty.push (Cell.mk 52 4).key "Eurasia"

def coast : Coverage.Index := lowland.push (Cell.mk 52 5).key "Eurasia"

/-- A world with one directory; the far side counts the transfers. -/
def bareWorld : World Nat :=
  { disk := ⟨[(["tiles"], .directory)], []⟩
    homes := fun _ => none
    bundled := fun name => .error ⟨.noEntry, some name⟩
    far := 0
    log := [] }

theorem opens_bareWorld : Opens bareWorld.disk ⟨"/", ["tiles"]⟩ ["tiles"] := by
  have origin : bareWorld.disk.Clear [] := Disk.Tree.clear_nil _
  have walk : bareWorld.disk.walk [] ["tiles"] = .ok ["tiles"] := rfl
  exact ⟨origin, walk, origin.walk walk rfl⟩

/-- Four samples, the last two of which are not plausible. -/
def quad : ByteArray := ⟨#[0, 12, 255, 249, 78, 32, 128, 0]⟩

/-- A provider of tiles of four samples, whose downloader delivers one archive. -/
def quadProvider : Provider Nat :=
  ⟨lowland, defaultBaseUrl, 2, ⟨"/", ["tiles"]⟩,
    fun _ _ count => (⟨some (Archive.storedArchive quad), .ok ()⟩, count + 1), .empty none⟩

def coastProvider (bound : Option Nat) : Provider Nat :=
  { quadProvider with index := coast, cache := .empty bound }

end Elevation.Provider
