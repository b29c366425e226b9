import Elevation.Proofs.Archive.Faults
import Elevation.Proofs.Tile.Exactness
import Elevation.Standin.Basic

/-!
How decoding goes wrong. It gives all the samples of a tile, or it fails with the class of failures
for damaged archives; what fails otherwise is a tile of too many bytes, a path that is none, or an
archive that asks for something which its reader does not support.
-/

namespace Elevation.Tile

variable {σ : Type} {reader : Reader Archive.Fault σ} {archive bytes taken : ByteArray} {source next : σ}
  {width : Int} {contents : Except Disk.Refusal ByteArray} {path : String} {steps expected : Nat}
  {fault : Archive.Fault} {failure : Failure} {stream : Archive.Stream} {payload : Payload}

/-! ### The number of samples -/

theorem size_collect_le (modest : Modest reader) (small : taken.size ≤ expected)
    (collected : collect reader expected steps taken source = .ok (bytes, next)) :
    bytes.size ≤ expected := by
  induction steps generalizing taken source with
  | zero =>
    obtain ⟨rfl, rfl⟩ := Prod.mk.inj (Except.ok.inj collected)
    exact small
  | succ steps ih =>
    rw [collect] at collected
    split_ifs at collected
    · obtain ⟨rfl, rfl⟩ := Prod.mk.inj (Except.ok.inj collected)
      exact small
    · split at collected
      next => cases collected
      next piece rest read =>
        split_ifs at collected
        · obtain ⟨rfl, rfl⟩ := Prod.mk.inj (Except.ok.inj collected)
          exact small
        · have least := modest _ _ _ _ read
          refine ih ?_ collected
          rw [ByteArray.size_append]
          omega

theorem size_of_exact (modest : Modest reader)
    (read : readPayload reader expected source = .ok (.exact bytes)) : bytes.size = expected := by
  unfold readPayload at read
  split at read
  next => cases read
  next collected =>
    have most := size_collect_le modest (Nat.zero_le _) collected
    split_ifs at read with short
    · cases read
    · split at read
      next => cases read
      next =>
        split_ifs at read
        · cases read
          omega
        · cases read

/-! ### Faults on the way -/

theorem steady_collect {method : Nat} (steady : stream.unpacker.method = method) (steps : Nat)
    (taken : ByteArray) :
    Archive.Steady method
      (collect (fun count stream => Archive.Stream.read stream count) expected steps taken stream) := by
  induction steps generalizing stream taken with
  | zero => exact steady
  | succ steps ih =>
    rw [collect]
    split_ifs
    · exact steady
    · have once := Archive.steady_read stream (min readSize (expected - taken.size))
      rw [steady] at once
      split
      next failed =>
        rw [failed] at once
        exact once
      next piece rest read =>
        rw [read] at once
        split_ifs
        · exact once
        · exact ih once _

theorem spoils_of_readPayload
    (failed : readPayload (fun count stream => Archive.Stream.read stream count) expected stream =
      .error fault) : Archive.Spoils stream.unpacker.method fault := by
  have steady : Archive.Steady stream.unpacker.method
      (collect (fun count stream => Archive.Stream.read stream count) expected expected .empty stream) :=
    steady_collect rfl expected .empty
  unfold readPayload at failed
  split at failed
  next spoilt =>
    cases failed
    rw [spoilt] at steady
    exact steady
  next rest collected =>
    rw [collected] at steady
    split_ifs at failed
    split at failed
    next spoilt =>
      cases failed
      have once := Archive.steady_read rest 1
      rw [show rest.read 1 = .error fault from spoilt] at once
      exact steady ▸ once
    next => cases failed

/-! ### Requests in vain -/

theorem kind_ne (fault : Archive.Fault) : fault.kind ≠ "DecodeError" := by
  cases fault with
  | refused refusal =>
    change refusal.fault.kind ≠ _
    cases refusal.fault <;> decide
  | _ => simp [Archive.Fault.kind, Archive.Fault.family]

theorem kind_archiveFailure (damage : fault.IsDamage) : (archiveFailure path fault).kind = "DecodeError" := by
  unfold archiveFailure
  unfold Archive.Fault.IsDamage at damage
  split <;> simp_all [Failure.kind]

section

variable [Machine]

/-- What an archive may ask for in vain: in its directory, when its first entry is opened, or in the
data of that entry. -/
inductive Unsupported (archive : ByteArray) : Archive.Fault → Prop where
  | listing {record : Archive.EndRecord} {place : Nat} {asked : Archive.Fault} :
      Archive.endRecord? (.file Machine.largestFile) archive = .ok (some record) →
      Archive.Unlisted (record.listing archive) place asked → Unsupported archive asked
  | entry {directory : Archive.Directory} {entry : Archive.Entry} {rest : List Archive.Entry}
      {asked : Archive.Fault} : Archive.readDirectory (.file Machine.largestFile) archive = .ok directory →
      directory.entries = entry :: rest → Archive.Unopened archive entry entry.describe asked →
      Unsupported archive asked
  | data {directory : Archive.Directory} {entry : Archive.Entry} {rest : List Archive.Entry}
      {reason : String} : Archive.readDirectory (.file Machine.largestFile) archive = .ok directory →
      directory.entries = entry :: rest → entry.method = 14 →
      Unsupported archive (.badDecisions reason)

/-- Failures that are not reported as those of a damaged archive. -/
inductive Escapes (width : Int) (contents : Except Disk.Refusal ByteArray) : Failure → Prop where
  | uncountable : mostCountable < payloadSize width → Escapes width contents .tileUncountable
  | unaffordable : Machine.mostReserved < payloadSize width → Escapes width contents .tileTooLarge
  | nowhere {refusal : Disk.Refusal} : contents = .error refusal → refusal.fault = .nullInPath →
      Escapes width contents (.refused refusal)
  | unsupported {bytes : ByteArray} {asked : Archive.Fault} : contents = .ok bytes →
      Unsupported bytes asked → Escapes width contents (.archive asked)

theorem Escapes.kind_ne (escapes : Escapes width contents failure) : failure.kind ≠ "DecodeError" := by
  cases escapes with
  | uncountable _ => decide
  | unaffordable _ => decide
  | nowhere _ _ => exact Tile.kind_ne (.refused _)
  | unsupported _ _ => exact Tile.kind_ne _

theorem kind_or_escapes (cause : fault.IsDamage ∨ Unsupported archive fault) :
    (archiveFailure path fault).kind = "DecodeError" ∨
      Escapes width (.ok archive) (archiveFailure path fault) := by
  by_cases damage : fault.IsDamage
  · exact Or.inl (kind_archiveFailure damage)
  · have named : archiveFailure path fault = .archive fault := by
      unfold archiveFailure
      unfold Archive.Fault.IsDamage at damage
      split <;> simp_all
    rw [named]
    exact Or.inr (.unsupported rfl (cause.resolve_left damage))

theorem archivePayload_error (failed : archivePayload path contents width = .error failure) :
    failure.kind = "DecodeError" ∨ Escapes width contents failure := by
  unfold archivePayload at failed
  split at failed
  next refusal =>
    cases failed
    split_ifs with numbered
    · exact Or.inl rfl
    · exact Or.inr (.nowhere rfl (by simpa [Disk.Refusal.isNumbered] using numbered))
  next archive =>
    split at failed
    next unread =>
      cases failed
      refine kind_or_escapes ((Archive.readDirectory_error unread).imp_right ?_)
      rintro ⟨record, place, found, unlisted⟩
      exact .listing found unlisted
    next directory read =>
      split at failed
      next =>
        cases failed
        exact Or.inl rfl
      next entry rest listed =>
        obtain ⟨fault, spoilt, rfl⟩ := mapError_eq_error.mp failed
        apply kind_or_escapes
        unfold readEntryPayload at spoilt
        split at spoilt
        next unopened =>
          cases spoilt
          exact (Archive.openEntry_error unopened).imp_right fun unopened => .entry read listed unopened
        next stream opened =>
          have method := Archive.openEntry_ok opened
          obtain damage | ⟨packed, reason, rfl⟩ := spoils_of_readPayload spoilt
          · exact Or.inl damage
          · exact Or.inr (.data read listed (method ▸ packed))

theorem archivePayload_ok (read : archivePayload path contents width = .ok (.exact bytes)) :
    bytes.size = payloadSize width := by
  unfold archivePayload at read
  split at read
  next => cases read
  next =>
    split at read
    next => cases read
    next =>
      split at read
      next => cases read
      next =>
        have exactly := mapError_eq_ok.mp read
        unfold readEntryPayload at exactly
        split at exactly
        next => cases exactly
        next => exact size_of_exact modest_read exactly

theorem decode_error (failed : decode path contents width = .error failure) :
    failure.kind = "DecodeError" ∨ Escapes width contents failure := by
  unfold decode at failed
  split at failed
  next room =>
    cases failed
    unfold roomFailure? at room
    split_ifs at room with uncountable unaffordable
    · cases room
      exact Or.inr (.uncountable uncountable)
    · cases room
      exact Or.inr (.unaffordable unaffordable)
  next =>
    split at failed
    next unread =>
      cases failed
      exact archivePayload_error unread
    next =>
      cases failed
      exact Or.inl rfl
    next =>
      cases failed
      exact Or.inl rfl
    next => cases failed

theorem size_of_decode {samples : Array Int} {voids : Nat}
    (decoded : decode path contents width = .ok (samples, voids)) :
    samples.size = width.natAbs * width.natAbs := by
  unfold decode at decoded
  split at decoded
  next => cases decoded
  next =>
    split at decoded
    next => cases decoded
    next => cases decoded
    next => cases decoded
    next bytes read =>
      have size := archivePayload_ok read
      obtain ⟨rfl, -⟩ := Prod.mk.inj (Except.ok.inj decoded)
      simp only [Array.size_map, size_samplesOf, size, payloadSize]
      omega

/-- Whatever stands at a path, decoding gives as many samples as the width asks for, heights and
voids, or it fails; and it fails as for a damaged archive, unless the tile has too many bytes, the
path is none, or the archive asks for something in vain. -/
theorem decode_refuses (path : String) (contents : Except Disk.Refusal ByteArray) (width : Int) :
    (∃ samples voids, decode path contents width = .ok (samples, voids) ∧
      samples.size = width.natAbs * width.natAbs ∧ ∀ sample ∈ samples, IsKept sample) ∨
    ∃ failure, decode path contents width = .error failure ∧
      (failure.kind ≠ "DecodeError" ↔ Escapes width contents failure) := by
  cases outcome : decode path contents width with
  | ok result =>
    obtain ⟨samples, voids⟩ := result
    refine Or.inl ⟨samples, voids, rfl, ?_, mem_of_decode outcome⟩
    exact size_of_decode outcome
  | error failure =>
    refine Or.inr ⟨failure, rfl, ?_⟩
    constructor
    · exact (decode_error outcome).resolve_left
    · exact Escapes.kind_ne

end

open scoped Standin

def locked : ByteArray :=
  ⟨#[80, 75, 3, 4, 20, 0, 1, 0, 0, 0, 0, 0, 33, 0, 0, 0, 0, 0, 0, 0, 0, 0, 0, 0, 0, 0, 1, 0, 0, 0, 104,
    80, 75, 1, 2, 20, 0, 20, 0, 1, 0, 0, 0, 0, 0, 33, 0, 0, 0, 0, 0, 0, 0, 0, 0, 0, 0, 0, 0, 1, 0, 0, 0,
    0, 0, 0, 0, 0, 0, 0, 0, 0, 0, 0, 0, 0, 0, 104, 80, 75, 5, 6, 0, 0, 0, 0, 1, 0, 1, 0, 47, 0, 0, 0,
    31, 0, 0, 0, 0, 0]⟩

theorem decode_locked :
    ∃ failure, decode "a" (.ok locked) 2 = .error failure ∧ failure.kind = "RuntimeError" := by
  have kind : (match decode "a" (.ok locked) 2 with
      | .ok _ => ""
      | .error failure => failure.kind) = "RuntimeError" := by decide +kernel
  cases outcome : decode "a" (.ok locked) 2 with
  | ok samples =>
    rw [outcome] at kind
    exact absurd (show "" = "RuntimeError" from kind) (by decide)
  | error failure =>
    rw [outcome] at kind
    exact ⟨failure, rfl, kind⟩

end Elevation.Tile
