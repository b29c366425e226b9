import Elevation.Proofs.Provider.Publication

/-!
What a directory offers. Whatever files lie in the directory of a provider, they and the answers of
the downloader settle what the archive of each cell holds: it is there, or a transfer puts it there,
or asking for it fails. To ask for an archive changes none of this, so all later answers are read off
one table that has been fixed before.
-/

namespace Elevation.Provider

open Elevation.Disk (Tree)

variable {σ α : Type} [Scalar α] {provider : Provider σ} {world : World σ} {dir : Disk.Place}
  {cell : Cell} {place : Place α} {partition : String} {disk next : Tree}
  {reply : String → Except Disk.Refusal Unit → Transfer.Delivery}
  {offer : String → Cell → Except Failure ByteArray}

/-! ### Archives -/

/-- What a transfer puts into the archive of a cell. Where it does not fail, a file is left. -/
def transferred (provider : Provider σ)
    (reply : String → Except Disk.Refusal Unit → Transfer.Delivery) (dir : Disk.Place) (disk : Tree)
    (partition : String) (cell : Cell) : Except Failure ByteArray :=
  match provider.directory.childFault? (partName cell) with
  | some fault => .error (.refused ⟨fault, some (provider.directory.child (partName cell)).text⟩)
  | none =>
    let url := provider.urlOf partition cell
    let delivery := reply url (.ok ())
    match lapse? provider dir cell disk delivery, remains dir cell disk delivery with
    | some cause, _ => .error (.retrieval url cause)
    | none, some (.file bytes) => .ok bytes
    | none, _ => .ok .empty

/-- What the archive of a cell holds, once it has been asked for. -/
def offered (provider : Provider σ)
    (reply : String → Except Disk.Refusal Unit → Transfer.Delivery) (dir : Disk.Place) (disk : Tree)
    (partition : String) (cell : Cell) : Except Failure ByteArray :=
  match provider.directory.childFault? (archiveName cell) with
  | some .nameTooLong =>
    .error (.refused ⟨.nameTooLong, some (provider.directory.child (archiveName cell)).text⟩)
  | some _ => transferred provider reply dir disk partition cell
  | none =>
    match disk.find? (dir ++ [archiveName cell]) with
    | some (.file bytes) => .ok bytes
    | _ => transferred provider reply dir disk partition cell

theorem offered_congr (archive : next.find? (dir ++ [archiveName cell]) = disk.find? (dir ++ [archiveName cell]))
    (part : next.find? (dir ++ [partName cell]) = disk.find? (dir ++ [partName cell])) :
    offered provider reply dir next partition cell = offered provider reply dir disk partition cell := by
  have left (delivery : Transfer.Delivery) : remains dir cell next delivery = remains dir cell disk delivery := by
    unfold remains
    rw [part]
  unfold offered transferred lapse?
  simp only [archive, left]

theorem offered_of_present {bytes : ByteArray}
    (sound : provider.directory.childFault? (archiveName cell) = none)
    (present : disk.find? (dir ++ [archiveName cell]) = some (.file bytes)) :
    offered provider reply dir disk partition cell = .ok bytes := by
  simp only [offered, sound, present]

theorem offered_of_absent (sound : provider.directory.childFault? (archiveName cell) = none)
    (absent : disk.find? (dir ++ [archiveName cell]) = none) :
    offered provider reply dir disk partition cell = transferred provider reply dir disk partition cell := by
  simp only [offered, sound, absent]

theorem offered_of_long (long : provider.directory.childFault? (archiveName cell) = some .nameTooLong) :
    offered provider reply dir disk partition cell =
      .error (.refused ⟨.nameTooLong, some (provider.directory.child (archiveName cell)).text⟩) := by
  simp only [offered, long]

theorem offered_of_fault {fault : Disk.Fault}
    (faulty : provider.directory.childFault? (archiveName cell) = some fault) (other : fault ≠ .nameTooLong) :
    offered provider reply dir disk partition cell = transferred provider reply dir disk partition cell := by
  unfold offered
  rw [faulty]
  cases fault <;> first | rfl | exact absurd rfl other

theorem transferred_of_fault {fault : Disk.Fault}
    (faulty : provider.directory.childFault? (partName cell) = some fault) :
    transferred provider reply dir disk partition cell =
      .error (.refused ⟨fault, some (provider.directory.child (partName cell)).text⟩) := by
  simp only [transferred, faulty]

theorem transferred_of_lapse {cause : Failure}
    (sound : provider.directory.childFault? (partName cell) = none)
    (lapse : lapse? provider dir cell disk (reply (provider.urlOf partition cell) (.ok ())) = some cause) :
    transferred provider reply dir disk partition cell =
      .error (.retrieval (provider.urlOf partition cell) cause) := by
  simp only [transferred, sound, lapse]

theorem transferred_of_left {bytes : ByteArray}
    (sound : provider.directory.childFault? (partName cell) = none)
    (whole : lapse? provider dir cell disk (reply (provider.urlOf partition cell) (.ok ())) = none)
    (left : remains dir cell disk (reply (provider.urlOf partition cell) (.ok ())) = some (.file bytes)) :
    transferred provider reply dir disk partition cell = .ok bytes := by
  simp only [transferred, sound, whole, left]

theorem lapse?_of_part_absent {delivery : Transfer.Delivery} {cause : Failure}
    (lapse : lapse? provider dir cell disk delivery = some cause)
    (gone : next.find? (dir ++ [partName cell]) = none) :
    lapse? provider dir cell next delivery = some cause := by
  obtain ⟨content, result⟩ := delivery
  cases result with
  | error failure => exact lapse
  | ok _ =>
    cases content with
    | some bytes => cases lapse
    | none =>
      cases found : disk.find? (dir ++ [partName cell]) with
      | some node => simp [lapse?, remains, found] at lapse
      | none => simpa [lapse?, remains, found, gone] using lapse

/-! ### The directory -/

/-- No directory stands where archives belong, and `offer` is the table of what they hold. -/
structure Offers (provider : Provider σ) (reply : String → Except Disk.Refusal Unit → Transfer.Delivery)
    (offer : String → Cell → Except Failure ByteArray) (dir : Disk.Place) (disk : Tree) : Prop where
  ready : ∀ cell, Ready provider disk dir cell
  table : ∀ {partition cell}, provider.index.find? cell.key = some partition →
    offered provider reply dir disk partition cell = offer partition cell

/-- What comes of asking for an archive: what the table says, and the table stays. -/
structure Ensures (provider : Provider σ) (reply : String → Except Disk.Refusal Unit → Transfer.Delivery)
    (offer : String → Cell → Except Failure ByteArray) (dir : Disk.Place) (partition : String) (cell : Cell)
    (result : Except Failure Disk.Path) (disk : Tree) : Prop where
  result : result = (offer partition cell).map fun _ => provider.directory.child (archiveName cell)
  offers : Offers provider reply offer dir disk
  file : ∀ bytes, offer partition cell = .ok bytes →
    provider.directory.childFault? (archiveName cell) = none ∧
      disk.find? (dir ++ [archiveName cell]) = some (.file bytes)

theorem Offers.ensures_of_error (offers : Offers provider reply offer dir disk) {failure : Failure}
    (failed : offer partition cell = .error failure) :
    Ensures provider reply offer dir partition cell (.error failure) disk := by
  refine ⟨by rw [failed]; rfl, offers, ?_⟩
  intro bytes same
  cases failed.symm.trans same

section

variable {url : String} {delivery : Transfer.Delivery} {result : Except Failure Disk.Path}

theorem Concluded.away (concluded : Concluded provider url dir cell disk delivery result next) {name : String}
    (archive : name ≠ archiveName cell) (part : name ≠ partName cell) :
    next.find? (dir ++ [name]) = disk.find? (dir ++ [name]) :=
  concluded.others _ (fun above => archive (prefix_child_iff.mp above).symm)
    (fun above => part (prefix_child_iff.mp above).symm)

theorem Concluded.ready (concluded : Concluded provider url dir cell disk delivery result next)
    (keeps : Tree.Keeps disk next) (ready : ∀ other, Ready provider disk dir other) (other : Cell) :
    Ready provider next dir other := by
  obtain ⟨opens, archive, part⟩ := ready other
  refine ⟨opens.keeps keeps, ?_, ?_⟩
  · by_cases same : other = cell
    · rw [same]
      cases lapse : lapse? provider dir cell disk delivery with
      | some cause => simp [Tree.isDirectoryAt, (concluded.failed cause lapse).2]
      | none =>
        obtain ⟨-, bytes, -, present⟩ := concluded.succeeded lapse
        simp [Tree.isDirectoryAt, present]
    · unfold Tree.isDirectoryAt
      rwa [concluded.away (fun same' => same (archiveName_injective same'))
        (partName_ne_archiveName cell other).symm]
  · by_cases same : other = cell
    · rw [same]
      simp [Tree.isDirectoryAt, concluded.part]
    · unfold Tree.isDirectoryAt
      rwa [concluded.away (partName_ne_archiveName other cell)
        (fun same' => same (partName_injective same'))]

end

theorem Offers.ensures_of_concluded (offers : Offers provider reply offer dir disk)
    (listed : provider.index.find? cell.key = some partition)
    (sound : provider.directory.childFault? (partName cell) = none)
    (absent : disk.find? (dir ++ [archiveName cell]) = none) {result : Except Failure Disk.Path}
    (concluded : Concluded provider (provider.urlOf partition cell) dir cell disk
      (reply (provider.urlOf partition cell) (.ok ())) result next)
    (keeps : Tree.Keeps disk next) : Ensures provider reply offer dir partition cell result next := by
  have sound' : provider.directory.childFault? (archiveName cell) = none :=
    Disk.Path.childFault?_of_append sound
  have first : transferred provider reply dir disk partition cell = offer partition cell := by
    rw [← offered_of_absent sound' absent]
    exact offers.table listed
  -- Of this cell, the outcome is the table's, and so will the next one be.
  have own : result = (offer partition cell).map (fun _ => provider.directory.child (archiveName cell)) ∧
      offered provider reply dir next partition cell = offer partition cell ∧
      ∀ bytes, offer partition cell = .ok bytes →
        next.find? (dir ++ [archiveName cell]) = some (.file bytes) := by
    cases lapse : lapse? provider dir cell disk (reply (provider.urlOf partition cell) (.ok ())) with
    | some cause =>
      obtain ⟨rfl, absent'⟩ := concluded.failed cause lapse
      have failed := first.symm.trans (transferred_of_lapse sound lapse)
      refine ⟨by rw [failed]; rfl, ?_, ?_⟩
      · rw [offered_of_absent sound' absent',
          transferred_of_lapse sound (lapse?_of_part_absent lapse concluded.part), failed]
      · intro bytes same
        cases failed.symm.trans same
    | none =>
      obtain ⟨rfl, bytes, left, present⟩ := concluded.succeeded lapse
      have given := first.symm.trans (transferred_of_left sound lapse left)
      refine ⟨by rw [given]; rfl, by rw [offered_of_present sound' present, given], ?_⟩
      intro bytes' same
      cases given.symm.trans same
      exact present
  obtain ⟨outcome, again, file⟩ := own
  refine ⟨outcome, ⟨concluded.ready keeps offers.ready, ?_⟩, fun bytes same => ⟨sound', file bytes same⟩⟩
  intro partition' other listed'
  by_cases same : other = cell
  · subst same
    cases listed.symm.trans listed'
    exact again
  · rw [← offers.table listed']
    exact offered_congr
      (concluded.away (fun same' => same (archiveName_injective same'))
        (partName_ne_archiveName cell other).symm)
      (concluded.away (partName_ne_archiveName other cell) (fun same' => same (partName_injective same')))

theorem Offers.ensures_download (offers : Offers provider reply offer dir world.disk)
    (answers : Answers provider.downloader reply) (listed : provider.index.find? cell.key = some partition)
    (sound : provider.directory.childFault? (partName cell) = none)
    (absent : world.disk.find? (dir ++ [archiveName cell]) = none) :
    Ensures provider reply offer dir partition cell
      (provider.download (provider.urlOf partition cell) (provider.directory.child (archiveName cell))
        world).1
      (provider.download (provider.urlOf partition cell) (provider.directory.child (archiveName cell))
        world).2.disk := by
  have ready := offers.ready cell
  obtain ⟨result, disk⟩ := Prod.mk.inj (ready.download (provider.urlOf partition cell) sound)
  rw [result, disk, answers]
  exact offers.ensures_of_concluded listed sound absent (ready.concluded _ absent _)
    (landed_keeps _ ready _)

theorem Offers.ensures_refused (offers : Offers provider reply offer dir world.disk) {fault : Disk.Fault}
    (faulty : provider.directory.childFault? (partName cell) = some fault)
    (row : transferred provider reply dir world.disk partition cell = offer partition cell) :
    Ensures provider reply offer dir partition cell
      (provider.download (provider.urlOf partition cell) (provider.directory.child (archiveName cell))
        world).1
      (provider.download (provider.urlOf partition cell) (provider.directory.child (archiveName cell))
        world).2.disk := by
  obtain ⟨result, disk⟩ := download_refused (provider.urlOf partition cell) (offers.ready cell) faulty
  rw [result, disk]
  exact offers.ensures_of_error (row.symm.trans (transferred_of_fault faulty))

theorem Offers.ensureArchive (offers : Offers provider reply offer dir world.disk)
    (answers : Answers provider.downloader reply) (found : held provider place = .ok (partition, cell))
    (listed : provider.index.find? cell.key = some partition) :
    Ensures provider reply offer dir partition cell (provider.ensureArchive place world).1
      (provider.ensureArchive place world).2.disk := by
  have ready := offers.ready cell
  have row := offers.table listed
  cases faulty : provider.directory.childFault? (archiveName cell) with
  | some fault =>
    by_cases long : fault = .nameTooLong
    · subst long
      rw [ensureArchive_of_long ready.opens found faulty]
      exact offers.ensures_of_error (row.symm.trans (offered_of_long faulty))
    · obtain ⟨-, -, nowhere⟩ := ready.opens.refuse_child (archiveName_ne_dots cell) faulty
      rw [if_neg long] at nowhere
      unfold Provider.ensureArchive
      simp only [archiveUrl_eq, found, Except.map, pathOf_urlOf, nowhere]
      cases faulty' : provider.directory.childFault? (partName cell) with
      | none => cases (Disk.Path.childFault?_of_append faulty').symm.trans faulty
      | some fault' =>
        exact offers.ensures_refused faulty' ((offered_of_fault faulty long).symm.trans row)
  | none =>
    cases present : world.disk.find? (dir ++ [archiveName cell]) with
    | none =>
      have first := (offered_of_absent faulty present).symm.trans row
      rw [ensureArchive_of_absent ready.opens found (by simp [faulty]) present]
      cases faulty' : provider.directory.childFault? (partName cell) with
      | none => exact offers.ensures_download answers listed faulty' present
      | some fault => exact offers.ensures_refused faulty' first
    | some node =>
      obtain ⟨bytes, rfl⟩ : ∃ bytes, node = .file bytes := by
        have archive := ready.archive
        cases node with
        | directory => simp [Tree.isDirectoryAt, present] at archive
        | file bytes => exact ⟨bytes, rfl⟩
      have given := row.symm.trans (offered_of_present faulty present)
      rw [ensureArchive_of_present ready.opens found faulty (by simp [present]) provider.downloader]
      refine ⟨by rw [given]; rfl, offers, ?_⟩
      intro bytes' same
      cases given.symm.trans same
      exact ⟨faulty, present⟩

end Elevation.Provider
