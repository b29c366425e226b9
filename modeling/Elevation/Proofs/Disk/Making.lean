import Elevation.Proofs.Disk.Directory

/-!
Making directories. Whatever comes of it, nothing that stands anywhere goes away; and it is refused
where a file stands in the way.
-/

namespace Elevation.Disk.Tree

variable {tree next last : Tree} {path : Path} {place : Place} {fault : Fault}

/-! ### What stays -/

/-- A tree in which everything stands that stood in another. -/
structure Grows (tree next : Tree) : Prop where
  here : next.here = tree.here
  find? : ∀ place node, tree.find? place = some node → next.find? place = some node

theorem Grows.refl (tree : Tree) : Grows tree tree := ⟨rfl, fun _ _ found => found⟩

theorem Grows.trans (first : Grows tree next) (second : Grows next last) : Grows tree last :=
  ⟨second.here.trans first.here, fun place node found =>
    second.find? place node (first.find? place node found)⟩

theorem Grows.keeps (grows : Grows tree next) : Keeps tree next :=
  ⟨grows.here, fun _ clear front above => grows.find? front _ (clear front above)⟩

theorem makeOne_grows (made : tree.makeOne path = .ok next) : Grows tree next := by
  unfold makeOne at made
  cases located : tree.locate path with
  | error fault => simp [located, refuse] at made
  | ok place =>
    simp only [located] at made
    cases found : tree.find? place with
    | some node =>
      cases node with
      | directory =>
        simp only [found, Except.ok.injEq] at made
        exact made ▸ .refl tree
      | file bytes => simp [found, refuse] at made
    | none =>
      simp only [found] at made
      split_ifs at made
      · cases made
        have proper : place ≠ [] := by
          rintro rfl
          cases found
        refine ⟨rfl, fun other node there => ?_⟩
        have away : other ≠ place := by
          rintro rfl
          cases found.symm.trans there
        rw [find?_insert tree proper, if_neg away, there]
      · cases made

theorem tryOne_grows (tree : Tree) (path : Path) : Grows tree (tree.tryOne path).2 := by
  unfold tryOne
  cases made : tree.makeOne path with
  | error refusal => exact .refl tree
  | ok next => exact makeOne_grows made

theorem makeAll_grows (tree : Tree) (root : String) (names : List String) :
    Grows tree (tree.makeAll root names).2 := by
  induction names generalizing tree with
  | nil => exact tryOne_grows tree _
  | cons name above ih =>
    have first := tryOne_grows tree ⟨root, (name :: above).reverse⟩
    simp only [makeAll]
    generalize tree.tryOne ⟨root, (name :: above).reverse⟩ = tried at first ⊢
    obtain ⟨refusal | _, next⟩ := tried
    · have upper := first.trans (ih next)
      simp only
      split_ifs
      · generalize next.makeAll root above = made at upper ⊢
        obtain ⟨refusal' | _, last⟩ := made
        · exact upper
        · exact upper.trans (tryOne_grows last _)
      · exact first
    · exact first

theorem makeDirectories_grows (tree : Tree) (path : Path) : Grows tree (tree.makeDirectories path).2 :=
  makeAll_grows tree path.root path.parts.reverse

/-! ### What is in the way -/

/-- The first attempt decides, unless all that is missing is a directory above. -/
theorem makeDirectories_of_tryOne {outcome : Except Refusal Unit}
    (tried : tree.tryOne path = (outcome, next))
    (final : ∀ refusal, outcome = .error refusal → refusal.fault ≠ .noEntry) :
    tree.makeDirectories path = (outcome, next) := by
  have whole : (⟨path.root, path.parts.reverse.reverse⟩ : Path) = path := by rw [List.reverse_reverse]
  unfold makeDirectories
  cases names : path.parts.reverse with
  | nil =>
    rw [names] at whole
    rw [makeAll, ← List.reverse_nil, whole, tried]
  | cons name above =>
    rw [names] at whole
    cases outcome with
    | error refusal => simp only [makeAll, whole, tried, if_neg (final refusal rfl)]
    | ok _ => simp only [makeAll, whole, tried]

theorem makeDirectories_of_file {bytes : ByteArray} (located : tree.locate path = .ok place)
    (found : tree.find? place = some (.file bytes)) :
    tree.makeDirectories path = (.error ⟨.exists, some path.text⟩, tree) := by
  refine makeDirectories_of_tryOne ?_ (by simp)
  rw [tryOne, makeOne, located]
  simp only [found, refuse]

theorem makeDirectories_of_fault (astray : tree.locate path = .error fault) (final : fault ≠ .noEntry) :
    tree.makeDirectories path = (.error ⟨fault, some path.text⟩, tree) := by
  refine makeDirectories_of_tryOne ?_ (by simpa using final)
  rw [tryOne, makeOne, astray]
  rfl

theorem makeDirectories_of_directory (located : tree.locate path = .ok place)
    (found : tree.find? place = some .directory) : tree.makeDirectories path = (.ok (), tree) := by
  refine makeDirectories_of_tryOne ?_ (by simp)
  rw [tryOne, makeOne, located]
  simp only [found]

end Elevation.Disk.Tree
