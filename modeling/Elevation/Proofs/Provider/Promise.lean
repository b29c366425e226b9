import Elevation.Proofs.Grid.Bounds
import Elevation.Proofs.Provider.Archives
import Elevation.Proofs.Provider.Steps

/-!
What a provider answers when its downloader always does the same. The answers below are functions of
the place alone, without any state; the invariant `Kept` ties every file in the directory and every
tile in the cache to them.
-/

namespace Elevation.Provider

open Elevation.Disk.Tree (Keeps Opens)

variable {σ α : Type} [Scalar α]

/-- A downloader that answers every request for an address alike. -/
def Answers (downloader : Transfer.Downloader σ)
    (reply : String → Except Disk.Refusal Unit → Transfer.Delivery) : Prop :=
  ∀ url place far, (downloader url place far).1 = reply url place

/-! ### Answers without a state -/

section

variable (provider : Provider σ) (reply : String → Except Disk.Refusal Unit → Transfer.Delivery)

/-- What a transfer into an empty directory delivers. -/
def delivered (url : String) (cell : Cell) : Except Failure ByteArray :=
  let part := provider.directory.child (partName cell)
  match provider.directory.childFault? (partName cell) with
  | some fault => .error (.refused ⟨fault, some part.text⟩)
  | none =>
    match reply url (.ok ()) with
    | ⟨_, .error failure⟩ => .error (.retrieval url failure)
    | ⟨none, .ok ()⟩ => .error (.retrieval url (.nothingWritten part.text))
    | ⟨some bytes, .ok ()⟩ => .ok bytes

/-- The archive of a cell that a partition holds. A name that is too long is refused before any
transfer. -/
def promised (partition : String) (cell : Cell) : Except Failure ByteArray :=
  if provider.directory.childFault? (archiveName cell) = some .nameTooLong then
    .error (.refused ⟨.nameTooLong, some (provider.directory.child (archiveName cell)).text⟩)
  else delivered provider reply (provider.urlOf partition cell) cell

def decoded [Machine] (partition : String) (cell : Cell) : Except Failure (Array Int) :=
  match promised provider reply partition cell with
  | .error failure => .error failure
  | .ok bytes =>
    (Tile.decode (provider.directory.child (archiveName cell)).text (.ok bytes) provider.width).map
      Prod.fst

def built [Machine] (partition : String) (cell : Cell) : Except Failure Tile :=
  match decoded provider reply partition cell with
  | .error failure => .error failure
  | .ok samples => Tile.ofSamples cell provider.width samples

def held (place : Place α) : Except Failure (String × Cell) :=
  match provider.index.lookup place with
  | .error failure => .error failure
  | .ok partition => place.cell.map (partition, ·)

def archiveAt (place : Place α) : Except Failure Disk.Path :=
  match held provider place with
  | .error failure => .error failure
  | .ok (partition, cell) =>
    (promised provider reply partition cell).map fun _ => provider.directory.child (archiveName cell)

def samplesAt [Machine] (place : Place α) : Except Failure (Array Int) :=
  match held provider place with
  | .error failure => .error failure
  | .ok (partition, cell) => decoded provider reply partition cell

def tileFor [Machine] (place : Place α) : Except Failure Tile :=
  match held provider place with
  | .error failure => .error failure
  | .ok (partition, cell) => built provider reply partition cell

def heightFor [Machine] (place : Place α) : Except Failure (Option Int) :=
  match tileFor provider reply place with
  | .error failure => .error failure
  | .ok tile => tile.heightAt place

def elevationFor [Machine] (place : Place α) : Except Failure Float :=
  (heightFor provider reply place).map elevation

def elevationsFor [Machine] (places : List (Place α)) : Except Failure (List Float) :=
  places.mapM (elevationFor provider reply)

end

/-! ### The invariant -/

def IsKeyed (cell : Cell) : Prop := -181 ≤ cell.lon ∧ cell.lon ≤ 180

/-- A tile under its key, as it comes from the archive that was promised. -/
def IsGenuine [Machine] (provider : Provider σ)
    (reply : String → Except Disk.Refusal Unit → Transfer.Delivery) (entry : Int × Tile) : Prop :=
  ∃ partition cell, entry.1 = cell.key ∧ IsKeyed cell ∧
    provider.index.find? cell.key = some partition ∧
      built provider reply partition cell = .ok entry.2

/-- The directory holds nothing but archives as they were promised, and the cache nothing but the
tiles of such archives. -/
structure Kept [Machine] (provider : Provider σ)
    (reply : String → Except Disk.Refusal Unit → Transfer.Delivery) (place : Disk.Place)
    (disk : Disk.Tree) : Prop where
  opens : Opens disk provider.directory place
  files : ∀ name, disk.find? (place ++ [name]) = none ∨ ∃ partition cell bytes,
    name = archiveName cell ∧ IsKeyed cell ∧ provider.index.find? cell.key = some partition ∧
      promised provider reply partition cell = .ok bytes ∧
      disk.find? (place ++ [name]) = some (.file bytes)
  tiles : ∀ entry ∈ provider.cache.entries, IsGenuine provider reply entry

variable {provider : Provider σ} {world : World σ} {dir : Disk.Place} {place : Place α}
  {reply : String → Except Disk.Refusal Unit → Transfer.Delivery} {partition : String} {cell : Cell}

/-! ### Where a place leads -/

theorem archiveUrl_eq (provider : Provider σ) (place : Place α) :
    provider.archiveUrl place = (held provider place).map fun row => provider.urlOf row.1 row.2 := by
  unfold archiveUrl Coverage.Index.qualifiedName held
  cases provider.index.lookup place with
  | error failure => rfl
  | ok partition =>
    simp only [Place.name]
    cases place.cell <;> rfl

theorem held_ok [Scalar.Grounded α] (found : held provider place = .ok (partition, cell)) :
    place.validate = .ok () ∧ place.cell = .ok cell ∧ IsKeyed cell ∧
      provider.index.find? cell.key = some partition := by
  unfold held Coverage.Index.lookup at found
  cases valid : place.validate with
  | error failure => simp [valid] at found
  | ok _ =>
    cases located : place.cell with
    | error failure => simp [valid, Place.key, located, Except.map] at found
    | ok origin =>
      cases listed : provider.index.find? origin.key with
      | none => simp [valid, Place.key, located, Except.map, listed] at found
      | some holder =>
        simp only [valid, Place.key, located, Except.map, listed, Except.ok.injEq, Prod.mk.injEq] at found
        obtain ⟨rfl, rfl⟩ := found
        exact ⟨rfl, rfl, cell_lon_mem valid located, listed⟩

theorem held_of_invalid {failure : Failure} (invalid : place.validate = .error failure) :
    held provider place = .error failure := by
  simp [held, Coverage.Index.lookup, invalid]

theorem held_of_unlocated {failure : Failure} (valid : place.validate = .ok ())
    (unlocated : place.cell = .error failure) : held provider place = .error failure := by
  simp [held, Coverage.Index.lookup, valid, Place.key, unlocated, Except.map]

theorem held_of_find? (valid : place.validate = .ok ()) (located : place.cell = .ok cell)
    (listed : provider.index.find? cell.key = some partition) :
    held provider place = .ok (partition, cell) := by
  simp [held, Coverage.Index.lookup, valid, Place.key, located, Except.map, listed]

/-! ### Archives -/

theorem Kept.archive_cases [Machine] (kept : Kept provider reply dir world.disk)
    (listed : provider.index.find? cell.key = some partition) :
    world.disk.find? (dir ++ [archiveName cell]) = none ∨ ∃ bytes,
      promised provider reply partition cell = .ok bytes ∧
        world.disk.find? (dir ++ [archiveName cell]) = some (.file bytes) := by
  rcases kept.files (archiveName cell) with absent | ⟨holder, other, bytes, named, -, listed', sent, found⟩
  · exact Or.inl absent
  · cases archiveName_injective named
    cases listed.symm.trans listed'
    exact Or.inr ⟨bytes, sent, found⟩

theorem Kept.part_absent [Machine] (kept : Kept provider reply dir world.disk) (cell : Cell) :
    world.disk.find? (dir ++ [partName cell]) = none := by
  rcases kept.files (partName cell) with absent | ⟨-, other, -, named, -⟩
  · exact absent
  · exact absurd named (partName_ne_archiveName cell other)

theorem Kept.ready [Machine] (kept : Kept provider reply dir world.disk)
    (listed : provider.index.find? cell.key = some partition) :
    Ready provider world.disk dir cell := by
  refine ⟨kept.opens, ?_, ?_⟩
  · rcases kept.archive_cases listed with absent | ⟨bytes, -, found⟩
    · simp [Disk.Tree.isDirectoryAt, absent]
    · simp [Disk.Tree.isDirectoryAt, found]
  · simp [Disk.Tree.isDirectoryAt, kept.part_absent cell]

/-- The state after a transfer: the archive is there exactly if it was delivered. -/
theorem Kept.landed [Machine] (kept : Kept provider reply dir world.disk) (keyed : IsKeyed cell)
    (listed : provider.index.find? cell.key = some partition) {delivery : Transfer.Delivery} {url : String}
    (outcome : (Provider.landed provider url cell dir world.disk delivery).1.isOk = true →
      ∃ bytes, promised provider reply partition cell = .ok bytes ∧ delivery.content = some bytes) :
    Kept provider reply dir (Provider.landed provider url cell dir world.disk delivery).2 := by
  have ready := kept.ready listed
  refine ⟨kept.opens.keeps (landed_keeps url ready delivery), ?_, kept.tiles⟩
  intro name
  rw [landed_find? url ready]
  by_cases part : name = partName cell
  · exact Or.inl (if_pos part)
  rw [if_neg part]
  by_cases arrived : name = archiveName cell ∧
      (Provider.landed provider url cell dir world.disk delivery).1.isOk = true
  · obtain ⟨bytes, sent, content⟩ := outcome arrived.2
    rw [if_pos arrived, content, deposited_find?_self]
    exact Or.inr ⟨partition, cell, bytes, arrived.1, keyed, listed, sent, rfl⟩
  · rw [if_neg arrived]
    exact kept.files name

theorem promised_ok {bytes : ByteArray} (sent : promised provider reply partition cell = .ok bytes) :
    provider.directory.childFault? (archiveName cell) = none := by
  unfold promised delivered at sent
  split_ifs at sent
  cases faulty : provider.directory.childFault? (partName cell) with
  | some fault => simp [faulty] at sent
  | none => exact Disk.Path.childFault?_of_append faulty

theorem landed_fst (reply : String → Except Disk.Refusal Unit → Transfer.Delivery) (url : String)
    {disk : Disk.Tree} (sound : provider.directory.childFault? (partName cell) = none)
    (vacant : disk.find? (dir ++ [partName cell]) = none) :
    (landed provider url cell dir disk (reply url (.ok ()))).1 =
        (delivered provider reply url cell).map (fun _ => provider.directory.child (archiveName cell)) ∧
      ∀ bytes, delivered provider reply url cell = .ok bytes →
        (reply url (.ok ())).content = some bytes := by
  unfold delivered landed
  rw [sound]
  rcases reply url (.ok ()) with ⟨content, failure | _⟩
  · simp [Except.map]
  · cases content with
    | none => simp [deposited, vacant, Except.map]
    | some bytes => simp [deposited_find?_self, Except.map]

/-- What comes of asking for an archive: the promised one lies there afterwards, if there is one, and
all promises are kept. -/
structure Obtains [Machine] (provider : Provider σ)
    (reply : String → Except Disk.Refusal Unit → Transfer.Delivery) (dir : Disk.Place)
    (partition : String) (cell : Cell) (outcome : Except Failure Disk.Path × World σ) : Prop where
  result : outcome.1 = (promised provider reply partition cell).map
    fun _ => provider.directory.child (archiveName cell)
  kept : Kept provider reply dir outcome.2.disk
  file : ∀ bytes, promised provider reply partition cell = .ok bytes →
    outcome.2.disk.find? (dir ++ [archiveName cell]) = some (.file bytes)

theorem Kept.obtains_of_refused [Machine] (kept : Kept provider reply dir world.disk)
    (listed : provider.index.find? cell.key = some partition) {fault : Disk.Fault}
    (faulty : provider.directory.childFault? (partName cell) = some fault)
    (promise : promised provider reply partition cell =
      delivered provider reply (provider.urlOf partition cell) cell) :
    Obtains provider reply dir partition cell (provider.download (provider.urlOf partition cell)
      (provider.directory.child (archiveName cell)) world) := by
  obtain ⟨refused, same⟩ :=
    download_refused (provider.urlOf partition cell) (kept.ready listed) faulty
  have failed : promised provider reply partition cell =
      .error (.refused ⟨fault, some (provider.directory.child (partName cell)).text⟩) := by
    simp only [promise, delivered, faulty]
  refine ⟨by rw [failed]; exact refused, ?_, ?_⟩
  · rw [same]
    exact kept
  · intro bytes sent
    cases failed.symm.trans sent

theorem Kept.obtains_of_sound [Machine] (kept : Kept provider reply dir world.disk)
    (answers : Answers provider.downloader reply) (keyed : IsKeyed cell)
    (listed : provider.index.find? cell.key = some partition)
    (sound : provider.directory.childFault? (partName cell) = none)
    (promise : promised provider reply partition cell =
      delivered provider reply (provider.urlOf partition cell) cell) :
    Obtains provider reply dir partition cell (provider.download (provider.urlOf partition cell)
      (provider.directory.child (archiveName cell)) world) := by
  have ready := kept.ready listed
  have both := ready.download (provider.urlOf partition cell) sound
  rw [answers] at both
  obtain ⟨first, sent⟩ := landed_fst reply (provider.urlOf partition cell) sound (kept.part_absent cell)
  rw [← promise] at first sent
  have disk : (provider.download (provider.urlOf partition cell)
      (provider.directory.child (archiveName cell)) world).2.disk = _ := congrArg Prod.snd both
  refine ⟨(congrArg Prod.fst both).trans first, ?_, ?_⟩
  · rw [disk]
    apply kept.landed keyed listed
    intro arrived
    rw [first] at arrived
    cases promise' : promised provider reply partition cell with
    | error failure => simp [promise', Except.map, Except.isOk, Except.toBool] at arrived
    | ok bytes => exact ⟨bytes, rfl, sent bytes promise'⟩
  · intro bytes promise'
    have arrived : (Provider.landed provider (provider.urlOf partition cell) cell dir world.disk
        (reply (provider.urlOf partition cell) (.ok ()))).1.isOk = true := by
      rw [first, promise']
      rfl
    rw [disk, landed_find? _ ready, if_neg (partName_ne_archiveName cell cell).symm,
      if_pos ⟨rfl, arrived⟩, sent bytes promise', deposited_find?_self]

theorem Kept.obtains_download [Machine] (kept : Kept provider reply dir world.disk)
    (answers : Answers provider.downloader reply) (keyed : IsKeyed cell)
    (listed : provider.index.find? cell.key = some partition)
    (short : provider.directory.childFault? (archiveName cell) ≠ some .nameTooLong) :
    Obtains provider reply dir partition cell (provider.download (provider.urlOf partition cell)
      (provider.directory.child (archiveName cell)) world) := by
  have promise : promised provider reply partition cell =
      delivered provider reply (provider.urlOf partition cell) cell := if_neg short
  cases faulty : provider.directory.childFault? (partName cell) with
  | some fault => exact kept.obtains_of_refused listed faulty promise
  | none => exact kept.obtains_of_sound answers keyed listed faulty promise

theorem Kept.obtains [Machine] (kept : Kept provider reply dir world.disk)
    (answers : Answers provider.downloader reply) [Scalar.Grounded α] {place : Place α}
    (found : held provider place = .ok (partition, cell)) :
    Obtains provider reply dir partition cell (provider.ensureArchive place world) := by
  obtain ⟨-, -, keyed, listed⟩ := held_ok found
  have proper := archiveName_ne_dots cell
  have fetched := kept.obtains_download answers keyed listed
  unfold Provider.ensureArchive
  simp only [archiveUrl_eq, found, Except.map, pathOf_urlOf]
  cases faulty : provider.directory.childFault? (archiveName cell) with
  | some fault =>
    obtain ⟨-, -, nowhere⟩ := kept.opens.refuse_child proper faulty
    by_cases long : fault = .nameTooLong
    · have failed : promised provider reply partition cell = .error
          (.refused ⟨.nameTooLong, some (provider.directory.child (archiveName cell)).text⟩) :=
        if_pos (long ▸ faulty)
      rw [nowhere, if_pos long]
      refine ⟨by rw [failed]; rfl, kept, ?_⟩
      intro bytes sent
      cases failed.symm.trans sent
    · rw [nowhere, if_neg long]
      exact fetched (by simpa [faulty] using long)
  | none =>
    rw [kept.opens.exists_child proper faulty]
    rcases kept.archive_cases listed with absent | ⟨bytes, sent, present⟩
    · rw [absent]
      exact fetched (by simp [faulty])
    · rw [present]
      refine ⟨by rw [sent]; rfl, kept, ?_⟩
      intro other same
      cases sent.symm.trans same
      exact present

theorem ensureArchive_of_error {failure : Failure} (place : Place α)
    (failed : held provider place = .error failure) :
    provider.ensureArchive place world = (.error failure, world) := by
  unfold Provider.ensureArchive
  simp only [archiveUrl_eq, failed, Except.map]

theorem Kept.ensureArchive [Machine] [Scalar.Grounded α] (kept : Kept provider reply dir world.disk)
    (answers : Answers provider.downloader reply) (place : Place α) :
    (provider.ensureArchive place world).1 = archiveAt provider reply place ∧
      Kept provider reply dir (provider.ensureArchive place world).2.disk := by
  unfold archiveAt
  cases found : held provider place with
  | error failure =>
    rw [ensureArchive_of_error place found]
    exact ⟨rfl, kept⟩
  | ok row =>
    have obtained := kept.obtains answers found
    exact ⟨obtained.result, obtained.kept⟩

/-! ### Samples and tiles -/

theorem Kept.materialize [Machine] [Scalar.Grounded α] (kept : Kept provider reply dir world.disk)
    (answers : Answers provider.downloader reply) (place : Place α) :
    (provider.materialize place world).1 = samplesAt provider reply place ∧
      Kept provider reply dir (provider.materialize place world).2.disk := by
  obtain ⟨result, disk⟩ := materialize_eq provider place world
  rw [result, disk, samplesAt]
  cases found : held provider place with
  | error failure =>
    rw [ensureArchive_of_error place found]
    exact ⟨rfl, kept⟩
  | ok row =>
    obtain ⟨partition, cell⟩ := row
    obtain ⟨archive, kept', file⟩ := kept.obtains answers found
    refine ⟨?_, kept'⟩
    rw [archive]
    change _ = decoded provider reply partition cell
    unfold decoded
    cases sent : promised provider reply partition cell with
    | error failure => rfl
    | ok bytes =>
      have read := kept'.opens.read_child (archiveName_ne_dots cell) (promised_ok sent) (file bytes sent)
      simp only [Except.map, Except.bind, read]

end Elevation.Provider
