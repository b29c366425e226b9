import Elevation.Proofs.Provider.Naming
import Elevation.Proofs.Provider.Setbacks

/-!
When an archive appears in the directory. A transfer that fails leaves neither the archive nor a
partial file; one that succeeds makes the archive of what it has left in the partial file, and
nothing else changes. What it has left need not be its own: a transfer that writes nothing leaves the
partial file of an earlier one where it was.
-/

namespace Elevation.Provider

open Elevation.Disk (Tree)
open Elevation.Disk.Tree (Opens)

variable {σ α : Type} [Scalar α] {provider : Provider σ} {world : World σ} {dir : Disk.Place}
  {cell : Cell} {place : Place α} {partition : String} {disk : Tree} {delivery : Transfer.Delivery}

/-! ### Transfers by what they leave -/

/-- What stands in the partial file of a cell when a transfer is over: what it has written, or else
what was there before. -/
def remains (dir : Disk.Place) (cell : Cell) (disk : Tree) (delivery : Transfer.Delivery) :
    Option Disk.Node :=
  match delivery.content with
  | some bytes => some (.file bytes)
  | none => disk.find? (dir ++ [partName cell])

/-- Why a transfer counts as failed: it says so, or there is no partial file. -/
def lapse? (provider : Provider σ) (dir : Disk.Place) (cell : Cell) (disk : Tree)
    (delivery : Transfer.Delivery) : Option Failure :=
  match delivery.result, remains dir cell disk delivery with
  | .error failure, _ => some failure
  | .ok (), none => some (.nothingWritten (provider.directory.child (partName cell)).text)
  | .ok (), some _ => none

/-- A transfer that ends with the archive in place, or with no trace of it. Nothing else changes;
below the archive and its partial file, which are no directories, nothing can stand. -/
structure Concluded (provider : Provider σ) (url : String) (dir : Disk.Place) (cell : Cell) (disk : Tree)
    (delivery : Transfer.Delivery) (result : Except Failure Disk.Path) (next : Tree) : Prop where
  failed : ∀ cause, lapse? provider dir cell disk delivery = some cause →
    result = .error (.retrieval url cause) ∧ next.find? (dir ++ [archiveName cell]) = none
  succeeded : lapse? provider dir cell disk delivery = none →
    result = .ok (provider.directory.child (archiveName cell)) ∧ ∃ bytes,
      remains dir cell disk delivery = some (.file bytes) ∧
      next.find? (dir ++ [archiveName cell]) = some (.file bytes)
  part : next.find? (dir ++ [partName cell]) = none
  here : next.here = disk.here
  others : ∀ spot, ¬ dir ++ [archiveName cell] <+: spot → ¬ dir ++ [partName cell] <+: spot →
    next.find? spot = disk.find? spot

theorem deposited_find? (dir : Disk.Place) (cell : Cell) (disk : Tree) (delivery : Transfer.Delivery) :
    (deposited disk (dir ++ [partName cell]) delivery.content).find? (dir ++ [partName cell]) =
      remains dir cell disk delivery := by
  obtain ⟨content, result⟩ := delivery
  cases content with
  | none => rfl
  | some bytes => exact deposited_find?_self disk dir (partName cell) bytes

theorem exists_remains (whole : lapse? provider dir cell disk delivery = none) :
    ∃ node, remains dir cell disk delivery = some node := by
  unfold lapse? at whole
  split at whole
  next => cases whole
  next => cases whole
  next node _ left => exact ⟨node, left⟩

theorem landed_eq (url : String) : landed provider url cell dir disk delivery =
    match lapse? provider dir cell disk delivery with
    | some cause => (.error (.retrieval url cause), disk.erase (dir ++ [partName cell]))
    | none =>
      (.ok (provider.directory.child (archiveName cell)),
        (deposited disk (dir ++ [partName cell]) delivery.content).move (dir ++ [partName cell])
          (dir ++ [archiveName cell])) := by
  have left := deposited_find? dir cell disk delivery
  unfold landed lapse?
  simp only [erase_deposited, left]
  cases delivery.result with
  | error failure => rfl
  | ok _ => cases remains dir cell disk delivery <;> rfl

theorem Ready.concluded (url : String) (ready : Ready provider disk dir cell)
    (absent : disk.find? (dir ++ [archiveName cell]) = none) (delivery : Transfer.Delivery) :
    Concluded provider url dir cell disk delivery (Provider.landed provider url cell dir disk delivery).1
      (Provider.landed provider url cell dir disk delivery).2 := by
  have apart := partName_ne_archiveName cell cell
  have proper (name : String) : dir ++ [name] ≠ [] := by simp
  rw [landed_eq]
  cases lapse : lapse? provider dir cell disk delivery with
  | some cause =>
    have erased := Tree.find?_erase disk (proper (partName cell))
    refine ⟨?_, fun whole => ?_, by rw [erased, if_pos rfl], rfl, ?_⟩
    · intro cause' lapse'
      cases lapse.symm.trans lapse'
      rw [erased, if_neg (by simpa using apart.symm)]
      exact ⟨rfl, absent⟩
    · cases lapse.symm.trans whole
    · rintro spot - part
      have away : spot ≠ dir ++ [partName cell] := by
        rintro rfl
        exact part List.prefix_rfl
      rw [erased, if_neg away]
  | none =>
    obtain ⟨node, left⟩ := exists_remains lapse
    have found := (deposited_find? dir cell disk delivery).trans left
    have published := ready.published absent found
    have target := Tree.find?_move_target (deposited disk (dir ++ [partName cell]) delivery.content)
      (proper (partName cell)) (proper (archiveName cell)) (by simpa using apart)
    refine ⟨fun cause lapse' => ?_, fun _ => ⟨rfl, ?_⟩, published.moved, published.here, published.others⟩
    · cases lapse.symm.trans lapse'
    · obtain ⟨bytes, present⟩ := published.present
      refine ⟨bytes, ?_, present⟩
      rw [left, ← found, ← target, present]

/-! ### Making sure of an archive -/

section

variable {world : World σ}

theorem held_of_lookup (covered : provider.index.lookup place = .ok partition)
    (located : place.cell = .ok cell) : held provider place = .ok (partition, cell) := by
  unfold held
  rw [covered, located]
  rfl

theorem ensureArchive_of_present (opens : Opens world.disk provider.directory dir)
    (found : held provider place = .ok (partition, cell))
    (sound : provider.directory.childFault? (archiveName cell) = none)
    (present : world.disk.find? (dir ++ [archiveName cell]) ≠ none)
    (downloader : Transfer.Downloader σ) :
    { provider with downloader := downloader }.ensureArchive place world =
      (.ok (provider.directory.child (archiveName cell)), world) := by
  have there : world.disk.exists? (provider.directory.child (archiveName cell)) = .ok true := by
    rw [opens.exists_child (archiveName_ne_dots cell) sound, Option.isSome_iff_ne_none.mpr present]
  have found' : held { provider with downloader := downloader } place = .ok (partition, cell) := found
  unfold ensureArchive
  rw [archiveUrl_eq, found']
  simp only [Except.map, pathOf_urlOf, there]

theorem ensureArchive_of_absent (opens : Opens world.disk provider.directory dir)
    (found : held provider place = .ok (partition, cell))
    (short : provider.directory.childFault? (archiveName cell) ≠ some .nameTooLong)
    (absent : world.disk.find? (dir ++ [archiveName cell]) = none) :
    provider.ensureArchive place world =
      provider.download (provider.urlOf partition cell) (provider.directory.child (archiveName cell))
        world := by
  have proper := archiveName_ne_dots cell
  have missing : world.disk.exists? (provider.directory.child (archiveName cell)) = .ok false := by
    cases faulty : provider.directory.childFault? (archiveName cell) with
    | none =>
      rw [opens.exists_child proper faulty, absent]
      rfl
    | some fault =>
      obtain ⟨-, -, nowhere⟩ := opens.refuse_child proper faulty
      rw [nowhere, if_neg (by simpa [faulty] using short)]
  unfold ensureArchive
  simp only [archiveUrl_eq, found, Except.map, pathOf_urlOf, missing]

theorem ensureArchive_of_long (opens : Opens world.disk provider.directory dir)
    (found : held provider place = .ok (partition, cell))
    (long : provider.directory.childFault? (archiveName cell) = some .nameTooLong) :
    provider.ensureArchive place world =
      (.error (.refused ⟨.nameTooLong, some (provider.directory.child (archiveName cell)).text⟩),
        world) := by
  obtain ⟨-, -, nowhere⟩ := opens.refuse_child (archiveName_ne_dots cell) long
  unfold ensureArchive
  simp only [archiveUrl_eq, found, Except.map, pathOf_urlOf, nowhere, ↓reduceIte, Tree.refuse]

theorem far_download (provider : Provider σ) (url : String) (path : Disk.Path) (world : World σ) :
    (provider.download url path world).2.far =
      (provider.downloader url ((world.disk.writable (partialOf path)).map fun _ => ()) world.far).2 := by
  unfold download
  simp only [World.note]
  split
  · unfold abandon
    split <;> rfl
  · rfl

theorem ready_of_absent (opens : Opens world.disk provider.directory dir)
    (closed : world.disk.isDirectoryAt (dir ++ [partName cell]) = false)
    (absent : world.disk.find? (dir ++ [archiveName cell]) = none) :
    Ready provider world.disk dir cell :=
  ⟨opens, by simp [Tree.isDirectoryAt, absent], closed⟩

theorem concluded_ensureArchive (opens : Opens world.disk provider.directory dir)
    (found : held provider place = .ok (partition, cell))
    (sound : provider.directory.childFault? (partName cell) = none)
    (closed : world.disk.isDirectoryAt (dir ++ [partName cell]) = false)
    (absent : world.disk.find? (dir ++ [archiveName cell]) = none) :
    Concluded provider (provider.urlOf partition cell) dir cell world.disk
        (provider.downloader (provider.urlOf partition cell) (.ok ()) world.far).1
        (provider.ensureArchive place world).1 (provider.ensureArchive place world).2.disk ∧
      (provider.ensureArchive place world).2.far =
        (provider.downloader (provider.urlOf partition cell) (.ok ()) world.far).2 := by
  have ready := ready_of_absent opens closed absent
  have both := ready.download (provider.urlOf partition cell) sound
  obtain ⟨result, disk⟩ := Prod.mk.inj both
  have short : provider.directory.childFault? (archiveName cell) ≠ some .nameTooLong := by
    simp [Disk.Path.childFault?_of_append sound]
  rw [ensureArchive_of_absent opens found short absent, result, disk, far_download, partialOf_child,
    opens.writable_child (partName_ne_dots cell) sound closed]
  exact ⟨ready.concluded _ absent _, rfl⟩

/-- Where a partial file cannot have its name, it can be neither written nor removed: the transfer is
told so and comes to nothing. -/
theorem refused_ensureArchive {fault : Disk.Fault} (opens : Opens world.disk provider.directory dir)
    (found : held provider place = .ok (partition, cell))
    (faulty : provider.directory.childFault? (partName cell) = some fault)
    (short : provider.directory.childFault? (archiveName cell) ≠ some .nameTooLong)
    (closed : world.disk.isDirectoryAt (dir ++ [partName cell]) = false)
    (absent : world.disk.find? (dir ++ [archiveName cell]) = none) :
    let refusal : Disk.Refusal := ⟨fault, some (provider.directory.child (partName cell)).text⟩
    (provider.ensureArchive place world).1 = .error (.refused refusal) ∧
      (provider.ensureArchive place world).2.disk = world.disk ∧
      (provider.ensureArchive place world).2.far =
        (provider.downloader (provider.urlOf partition cell) (.error refusal) world.far).2 := by
  obtain ⟨result, disk⟩ :=
    download_refused (provider.urlOf partition cell) (ready_of_absent opens closed absent) faulty
  obtain ⟨unwritable, -, -⟩ := opens.refuse_child (partName_ne_dots cell) faulty
  rw [ensureArchive_of_absent opens found short absent, far_download, partialOf_child, unwritable]
  exact ⟨result, disk, rfl⟩

end

/-! ### At a place of the lowland -/

/-- A provider of one cell whose downloader always does the same and counts how often it is asked. -/
def steady (directory : Disk.Path) (delivery : Transfer.Delivery) : Provider Nat :=
  { idle lowland with directory := directory, downloader := fun _ _ count => (delivery, count + 1) }

def shore (delivery : Transfer.Delivery) : Provider Nat := steady ⟨"/", ["tiles"]⟩ delivery

def inland : Place Rat := ⟨105 / 2, 9 / 2⟩

theorem cell_inland : inland.cell = .ok ⟨52, 4⟩ := by
  have south : snapped (105 / 2) = 52 := by decide +kernel
  have west : snapped (9 / 2) = 4 := by decide +kernel
  rw [inland, cell_rat, south, west]

theorem lookup_inland (directory : Disk.Path) (delivery : Transfer.Delivery) :
    (steady directory delivery).index.lookup inland = .ok "Eurasia" := by
  have valid : inland.validate = .ok () := (validate_rat _).mpr (by unfold inland; norm_num)
  exact (lowland.lookup_eq_ok_iff valid cell_inland).mpr (by decide +kernel)

theorem opens_shore (delivery : Transfer.Delivery) :
    Opens littered.disk (shore delivery).directory ["tiles"] :=
  opens_bareWorld.keeps (Tree.keeps_insert rfl _)

theorem vacant_shore (delivery : Transfer.Delivery) :
    (shore delivery).directory.childFault? (partName ⟨52, 4⟩) = none ∧
      littered.disk.isDirectoryAt (["tiles"] ++ [partName ⟨52, 4⟩]) = false ∧
      littered.disk.find? (["tiles"] ++ [archiveName ⟨52, 4⟩]) = none :=
  ⟨show Disk.Path.childFault? ⟨"/", ["tiles"]⟩ (partName ⟨52, 4⟩) = none by decide +kernel,
    by decide +kernel, by decide +kernel⟩

theorem concluded_shore (delivery : Transfer.Delivery) :
    Concluded (shore delivery) "http://example.test/SRTM3/Eurasia/N52E004.hgt.zip" ["tiles"] ⟨52, 4⟩
        littered.disk delivery ((shore delivery).ensureArchive inland littered).1
        ((shore delivery).ensureArchive inland littered).2.disk ∧
      ((shore delivery).ensureArchive inland littered).2.far = 1 := by
  obtain ⟨sound, closed, absent⟩ := vacant_shore delivery
  exact concluded_ensureArchive (opens_shore delivery)
    (held_of_lookup (lookup_inland _ delivery) cell_inland) sound closed absent

/-- A long path to a directory, which goes out of it and back in again. -/
def winding (turns : Nat) : Disk.Path := ⟨"/", "tiles" :: (List.replicate turns ["..", "tiles"]).flatten⟩

theorem text_behind_winding (turns : Nat) {names : List String} (some : names ≠ []) :
    Disk.Path.text ⟨"/", (winding turns).parts ++ names⟩ =
      (winding turns).text ++ ("/" ++ String.intercalate "/" names) := by
  have text (names : List String) : Disk.Path.text ⟨"/", (winding turns).parts ++ names⟩ =
      "/" ++ String.intercalate "/" ((winding turns).parts ++ names) := by
    simp [Disk.Path.text, winding]
  have whole : (winding turns).text = "/" ++ String.intercalate "/" (winding turns).parts := by
    simp [Disk.Path.text, winding]
  rw [text, whole, String.intercalate_append_of_ne_nil (by simp [winding]) some]
  simp only [String.append_assoc]

theorem text_winding (turns : Nat) : (winding turns).text.utf8ByteSize = 6 + 9 * turns ∧
    '\x00' ∉ (winding turns).text.toList := by
  induction turns with
  | zero => decide +kernel
  | succ turns ih =>
    have longer : (winding (turns + 1)).text = (winding turns).text ++ "/../tiles" := by
      rw [show winding (turns + 1) = ⟨"/", (winding turns).parts ++ ["..", "tiles"]⟩ by
        simp [winding, List.replicate_succ'], text_behind_winding turns (by simp)]
      rfl
    rw [longer, String.utf8ByteSize_append, String.toList_append, List.mem_append]
    have size : "/../tiles".utf8ByteSize = 9 := by decide +kernel
    have clean : '\x00' ∉ "/../tiles".toList := by decide +kernel
    exact ⟨by omega, not_or.mpr ⟨ih.2, clean⟩⟩

theorem opens_winding (turns : Nat) : Opens bareWorld.disk (winding turns) ["tiles"] := by
  have walk : bareWorld.disk.walk ["tiles"] (List.replicate turns ["..", "tiles"]).flatten = .ok ["tiles"] := by
    induction turns with
    | zero => rfl
    | succ turns ih => exact ih
  exact ⟨opens_bareWorld.origin, walk, opens_bareWorld.clear⟩

theorem childFault?_winding : (winding 453).childFault? (archiveName ⟨52, 4⟩) = some .nameTooLong := by
  obtain ⟨size, clean⟩ := text_winding 453
  have text : ((winding 453).child (archiveName ⟨52, 4⟩)).text =
      (winding 453).text ++ "/N52E004.hgt.zip" := by
    rw [Disk.Path.child, show (winding 453).root = "/" from rfl, text_behind_winding 453 (by simp)]
    rfl
  have last : "/N52E004.hgt.zip".utf8ByteSize = 16 := by decide +kernel
  have clean' : '\x00' ∉ "/N52E004.hgt.zip".toList := by decide +kernel
  have whole : ((winding 453).child (archiveName ⟨52, 4⟩)).text.toList.contains '\x00' = false := by
    rw [text, String.toList_append, List.contains_eq_mem, decide_eq_false_iff_not, List.mem_append]
    exact not_or.mpr ⟨clean, clean'⟩
  unfold Disk.Path.childFault? Tree.longestPath
  rw [if_neg (by rw [whole]; decide), text, String.utf8ByteSize_append, size, last, if_pos (by decide)]

/-! ### All or nothing -/

/-- Making sure of an archive is all or nothing. Of a place that a partition covers, an archive that
is there is returned and nothing is asked for; one that is not there is asked for once, and then it
holds what the transfer has left in the partial file, or there is a failure with its address and
neither file; nothing else changes. Where a partial file cannot have its name, it is asked for in vain
and nothing changes at all; an archive whose name is too long is refused before anything is asked for. -/
theorem ensureArchive_atomic (opens : Opens world.disk provider.directory dir)
    (covered : provider.index.lookup place = .ok partition) (located : place.cell = .ok cell) :
    provider.archiveUrl place = .ok (provider.urlOf partition cell) ∧
    provider.archivePath place = .ok (provider.directory.child (archiveName cell)) ∧
    (provider.directory.childFault? (archiveName cell) = none →
      world.disk.find? (dir ++ [archiveName cell]) ≠ none → ∀ downloader,
        { provider with downloader := downloader }.ensureArchive place world =
          (.ok (provider.directory.child (archiveName cell)), world)) ∧
    (provider.directory.childFault? (partName cell) = none →
      world.disk.isDirectoryAt (dir ++ [partName cell]) = false →
      world.disk.find? (dir ++ [archiveName cell]) = none →
        Concluded provider (provider.urlOf partition cell) dir cell world.disk
            (provider.downloader (provider.urlOf partition cell) (.ok ()) world.far).1
            (provider.ensureArchive place world).1 (provider.ensureArchive place world).2.disk ∧
          (provider.ensureArchive place world).2.far =
            (provider.downloader (provider.urlOf partition cell) (.ok ()) world.far).2) ∧
    (∀ fault, provider.directory.childFault? (partName cell) = some fault →
      provider.directory.childFault? (archiveName cell) ≠ some .nameTooLong →
      world.disk.isDirectoryAt (dir ++ [partName cell]) = false →
      world.disk.find? (dir ++ [archiveName cell]) = none →
        let refusal : Disk.Refusal := ⟨fault, some (provider.directory.child (partName cell)).text⟩
        (provider.ensureArchive place world).1 = .error (.refused refusal) ∧
          (provider.ensureArchive place world).2.disk = world.disk ∧
          (provider.ensureArchive place world).2.far =
            (provider.downloader (provider.urlOf partition cell) (.error refusal) world.far).2) ∧
    (provider.directory.childFault? (archiveName cell) = some .nameTooLong →
      provider.ensureArchive place world =
        (.error (.refused ⟨.nameTooLong, some (provider.directory.child (archiveName cell)).text⟩),
          world)) := by
  have found := held_of_lookup covered located
  have url : provider.archiveUrl place = .ok (provider.urlOf partition cell) := by
    rw [archiveUrl_eq, found]
    rfl
  refine ⟨url, ?_, ?_, ?_, ?_, ?_⟩
  · rw [archivePath, url]
    exact congrArg Except.ok (pathOf_urlOf provider partition cell)
  · intro sound present downloader
    exact ensureArchive_of_present opens found sound present downloader
  · intro sound closed absent
    exact concluded_ensureArchive opens found sound closed absent
  · intro fault faulty short closed absent
    exact refused_ensureArchive opens found faulty short closed absent
  · intro long
    exact ensureArchive_of_long opens found long

def silent : Transfer.Delivery := ⟨none, .ok ()⟩

def torn : Transfer.Delivery := ⟨some ⟨#[80]⟩, .error (.raised (.ofName "ConnectionError") "reset")⟩

theorem ensureArchive_atomic_torn : ∃ cause,
    ((shore torn).ensureArchive inland littered).1 =
        .error (.retrieval "http://example.test/SRTM3/Eurasia/N52E004.hgt.zip" cause) ∧
      ((shore torn).ensureArchive inland littered).2.disk.find? ["tiles", "N52E004.hgt.zip"] = none ∧
      ((shore torn).ensureArchive inland littered).2.disk.find? ["tiles", "N52E004.hgt.zip.part"] = none ∧
      ((shore torn).ensureArchive inland littered).2.far = 1 := by
  obtain ⟨-, -, -, transfers, -, -⟩ :=
    ensureArchive_atomic (opens_shore torn) (lookup_inland _ torn) cell_inland
  obtain ⟨sound, closed, absent⟩ := vacant_shore torn
  obtain ⟨concluded, far⟩ := transfers sound closed absent
  obtain ⟨result, gone⟩ := concluded.failed _ rfl
  exact ⟨_, result, gone, concluded.part, far⟩

/-- Where there is no room for the name of an archive, making sure of it ends in a refusal, although
the directory is there and holds nothing, and although the transfer would have left nothing. -/
theorem ensureArchive_refused_winding :
    let provider := steady (winding 453) silent
    Opens bareWorld.disk provider.directory ["tiles"] ∧
      provider.index.lookup inland = .ok "Eurasia" ∧ inland.cell = .ok ⟨52, 4⟩ ∧
      (∀ name, bareWorld.disk.find? ["tiles", name] = none) ∧
      ∀ url cause, (provider.ensureArchive inland bareWorld).1 ≠ .error (.retrieval url cause) := by
  have covered := lookup_inland (winding 453) silent
  refine ⟨opens_winding 453, covered, cell_inland, fun name => rfl, ?_⟩
  intro url cause same
  have opens : Opens bareWorld.disk (steady (winding 453) silent).directory ["tiles"] :=
    opens_winding 453
  rw [ensureArchive_of_long opens (held_of_lookup covered cell_inland) childFault?_winding] at same
  cases same

/-! ### What an archive is made of -/

/-- A published archive is what its transfer has written, if it has written anything. One that writes
nothing fails, unless it says that it succeeded and an earlier one has left a partial file: then that
file becomes the archive. -/
theorem ensureArchive_publishes (opens : Opens world.disk provider.directory dir)
    (covered : provider.index.lookup place = .ok partition) (located : place.cell = .ok cell)
    (sound : provider.directory.childFault? (partName cell) = none)
    (closed : world.disk.isDirectoryAt (dir ++ [partName cell]) = false)
    (absent : world.disk.find? (dir ++ [archiveName cell]) = none)
    (sent : (provider.downloader (provider.urlOf partition cell) (.ok ()) world.far).1 = delivery) :
    (∀ path, (provider.ensureArchive place world).1 = .ok path →
      (provider.ensureArchive place world).2.disk.find? (dir ++ [archiveName cell]) =
        match delivery.content with
        | some bytes => some (.file bytes)
        | none => world.disk.find? (dir ++ [partName cell])) ∧
    (delivery.content = none →
      ((∃ cause, (provider.ensureArchive place world).1 =
          .error (.retrieval (provider.urlOf partition cell) cause)) ↔
        (∃ failure, delivery.result = .error failure) ∨
          world.disk.find? (dir ++ [partName cell]) = none)) := by
  have found := held_of_lookup covered located
  obtain ⟨concluded, -⟩ := concluded_ensureArchive opens found sound closed absent
  rw [sent] at concluded
  obtain ⟨content, result⟩ := delivery
  refine ⟨?_, ?_⟩
  · intro path returned
    cases lapse : lapse? provider dir cell world.disk ⟨content, result⟩ with
    | some cause => cases returned.symm.trans (concluded.failed cause lapse).1
    | none =>
      obtain ⟨-, bytes, left, present⟩ := concluded.succeeded lapse
      exact present.trans left.symm
  · rintro rfl
    have left : remains dir cell world.disk ⟨none, result⟩ = world.disk.find? (dir ++ [partName cell]) := rfl
    cases result with
    | error failure =>
      have failed := (concluded.failed failure rfl).1
      exact iff_of_true ⟨failure, failed⟩ (Or.inl ⟨failure, rfl⟩)
    | ok _ =>
      cases there : world.disk.find? (dir ++ [partName cell]) with
      | none =>
        have failed := (concluded.failed _ (by rw [lapse?, left, there])).1
        exact iff_of_true ⟨_, failed⟩ (Or.inr rfl)
      | some node =>
        have returned := (concluded.succeeded (by rw [lapse?, left, there])).1
        refine iff_of_false ?_ (by simp)
        rintro ⟨cause, failed⟩
        cases returned.symm.trans failed

def intact : Transfer.Delivery := ⟨some ⟨#[80, 75]⟩, .ok ()⟩

theorem ensureArchive_publishes_anew :
    ((shore intact).ensureArchive inland littered).1 = .ok ⟨"/", ["tiles", "N52E004.hgt.zip"]⟩ ∧
      ((shore intact).ensureArchive inland littered).2.disk.find? ["tiles", "N52E004.hgt.zip"] =
        some (.file ⟨#[80, 75]⟩) := by
  obtain ⟨sound, closed, absent⟩ := vacant_shore intact
  obtain ⟨returned, -⟩ := (concluded_shore intact).1.succeeded rfl
  obtain ⟨published, -⟩ := ensureArchive_publishes (opens_shore intact) (lookup_inland _ intact)
    cell_inland sound closed absent rfl
  exact ⟨returned, published _ returned⟩

/-- What an earlier transfer has left is published by one that writes nothing. -/
theorem ensureArchive_publishes_remains :
    ((shore silent).ensureArchive inland littered).1 = .ok ⟨"/", ["tiles", "N52E004.hgt.zip"]⟩ ∧
      ((shore silent).ensureArchive inland littered).2.disk.find? ["tiles", "N52E004.hgt.zip"] =
        some (.file ⟨#[115]⟩) ∧
      ((shore silent).ensureArchive inland littered).2.far = 1 := by
  obtain ⟨concluded, far⟩ := concluded_shore silent
  have stale : remains ["tiles"] ⟨52, 4⟩ littered.disk silent = some (.file ⟨#[115]⟩) := by
    decide +kernel
  have whole : lapse? (shore silent) ["tiles"] ⟨52, 4⟩ littered.disk silent = none := by
    rw [lapse?, stale]
    rfl
  obtain ⟨returned, bytes, left, present⟩ := concluded.succeeded whole
  cases stale.symm.trans left
  exact ⟨returned, present, far⟩

end Elevation.Provider
