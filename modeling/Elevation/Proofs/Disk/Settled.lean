import Elevation.Proofs.Disk.Directory

/-!
Directories that stay where they are. A path leads to a settled directory whatever becomes of the
files in it; all paths without two dots do, since they do not lead through the directory itself.
-/

namespace Elevation.Disk.Tree

variable {tree next last : Tree} {path : Path} {dir place spot : Place} {name : String}

/-! ### Trees that differ inside a directory -/

def Inside (dir place : Place) : Prop := dir <+: place ∧ place ≠ dir

/-- Two trees that differ inside a directory at most. -/
structure SameOutside (dir : Place) (tree next : Tree) : Prop where
  here : next.here = tree.here
  find? : ∀ place, ¬ Inside dir place → next.find? place = tree.find? place

theorem SameOutside.refl (dir : Place) (tree : Tree) : SameOutside dir tree tree :=
  ⟨rfl, fun _ _ => rfl⟩

theorem SameOutside.trans (first : SameOutside dir tree next) (second : SameOutside dir next last) :
    SameOutside dir tree last :=
  ⟨second.here.trans first.here, fun place outside =>
    (second.find? place outside).trans (first.find? place outside)⟩

theorem not_inside_of_above (above : place <+: dir) : ¬ Inside dir place := by
  rintro ⟨below, different⟩
  exact different (above.eq_of_length_le below.length_le)

theorem SameOutside.clear (same : SameOutside dir tree next) (above : place <+: dir)
    (clear : tree.Clear place) : next.Clear place := by
  intro front higher
  rw [same.find? front (not_inside_of_above (higher.trans above)), clear front higher]

/-- Without two dots a walk only ever leads further down. -/
theorem SameOutside.walk {names : List String} (same : SameOutside dir tree next)
    (plain : ".." ∉ names) (walked : tree.walk place names = .ok dir) :
    place <+: dir ∧ next.walk place names = .ok dir := by
  induction names generalizing place with
  | nil =>
    cases walked
    exact ⟨List.prefix_rfl, rfl⟩
  | cons name rest ih =>
    have down : stepTo place name = place ++ [name] :=
      if_neg fun dots : name = ".." => plain (dots ▸ List.mem_cons_self)
    rw [Tree.walk] at walked
    split at walked
    next => cases walked
    next => cases walked
    next directory =>
      split_ifs at walked with long
      obtain ⟨below, walked'⟩ := ih (fun dots => plain (List.mem_cons_of_mem _ dots)) walked
      rw [down] at below
      have above : place <+: dir := (List.prefix_append place [name]).trans below
      refine ⟨above, ?_⟩
      rw [Tree.walk, same.find? place (not_inside_of_above above), directory]
      simp only [if_neg long, walked']

/-! ### Settled directories -/

/-- A path that leads to a directory, whatever becomes of what is inside. -/
def Settled (tree : Tree) (path : Path) (dir : Place) : Prop :=
  ∀ next, SameOutside dir tree next → Opens next path dir

theorem Settled.opens (settled : Settled tree path dir) : Opens tree path dir :=
  settled tree (.refl dir tree)

theorem Settled.same (settled : Settled tree path dir) (same : SameOutside dir tree next) :
    Settled next path dir :=
  fun last same' => settled last (same.trans same')

theorem settled_of_plain (opens : Opens tree path dir) (plain : ".." ∉ path.parts) :
    Settled tree path dir := by
  intro next same
  obtain ⟨above, walked⟩ := same.walk plain opens.walk
  have origin : next.origin path = tree.origin path := by
    unfold Tree.origin
    rw [same.here]
  refine ⟨?_, ?_, same.clear List.prefix_rfl opens.clear⟩
  · rw [origin]
    exact same.clear above opens.origin
  · rw [origin]
    exact walked

/-! ### Changes at one place -/

/-- Two trees that differ at a place and below it at most. -/
structure SameBeside (spot : Place) (tree next : Tree) : Prop where
  here : next.here = tree.here
  find? : ∀ place, ¬ spot <+: place → next.find? place = tree.find? place

theorem not_child_above (outside : ¬ Inside dir place) (name : String) : ¬ dir ++ [name] <+: place := by
  intro below
  refine outside ⟨(List.prefix_append dir [name]).trans below, ?_⟩
  rintro rfl
  simpa using below.length_le

theorem SameBeside.outside (same : SameBeside (dir ++ [name]) tree next) : SameOutside dir tree next :=
  ⟨same.here, fun place outside => same.find? place (not_child_above outside name)⟩

theorem sameOutside_move (tree : Tree) (dir : Place) (name target : String) :
    SameOutside dir tree (tree.move (dir ++ [name]) (dir ++ [target])) :=
  ⟨rfl, fun _ outside => find?_move_of_away tree (by simp) (not_child_above outside name)
    (not_child_above outside target)⟩

theorem sameBeside_of_filter (here : next.here = tree.here)
    (rows : (next.nodes.filter fun row => !spot.isPrefixOf row.1) =
      tree.nodes.filter fun row => !spot.isPrefixOf row.1) : SameBeside spot tree next := by
  refine ⟨here, fun place away => ?_⟩
  by_cases root : place = []
  · rw [root]
    rfl
  · have kept : (!spot.isPrefixOf place) = true := by
      rw [Bool.not_eq_true', ← Bool.not_eq_true, List.isPrefixOf_iff_prefix]
      exact away
    have before := lookup_filter (fun place => !spot.isPrefixOf place) place tree.nodes
    have after := lookup_filter (fun place => !spot.isPrefixOf place) place next.nodes
    rw [if_pos kept] at before after
    rw [find?_of_ne_nil _ root, find?_of_ne_nil _ root, ← before, ← after, rows]

theorem sameBeside_erase (tree : Tree) (proper : spot ≠ []) :
    SameBeside spot tree (tree.erase spot) := by
  refine ⟨rfl, fun place away => ?_⟩
  rw [find?_erase tree proper, if_neg]
  rintro rfl
  exact away List.prefix_rfl

theorem Opens.exists_child_congr (opens : Opens tree path dir) (opens' : Opens next path dir)
    (proper : name ≠ "..") (same : next.find? (dir ++ [name]) = tree.find? (dir ++ [name])) :
    next.exists? (path.child name) = tree.exists? (path.child name) := by
  cases faulty : path.childFault? name with
  | none => rw [opens.exists_child proper faulty, opens'.exists_child proper faulty, same]
  | some fault =>
    rw [(opens.refuse_child proper faulty).2.2, (opens'.refuse_child proper faulty).2.2]

/-! ### Operations that succeed -/

theorem Opens.childFault?_of_locate (opens : Opens tree path dir) (proper : name ≠ "..")
    (located : tree.locate (path.child name) = .ok place) :
    path.childFault? name = none ∧ place = dir ++ [name] := by
  rw [opens.locate_child proper] at located
  cases faulty : path.childFault? name with
  | none =>
    rw [faulty] at located
    exact ⟨rfl, (Except.ok.inj located).symm⟩
  | some fault =>
    rw [faulty] at located
    cases located

theorem Opens.remove_child_ok (opens : Opens tree path dir) (proper : name ≠ "..")
    (removed : tree.remove (path.child name) = .ok next) : next = tree.erase (dir ++ [name]) := by
  unfold remove at removed
  rw [opens.locate_child proper] at removed
  rcases path.childFault?_cases name with none | null | long
  · rw [none] at removed
    simp only at removed
    split_ifs at removed
    · cases removed
    · exact (Except.ok.inj removed).symm
  · rw [null] at removed
    cases removed
  · rw [long] at removed
    cases removed

theorem Opens.read_child_ok {bytes : ByteArray} (opens : Opens tree path dir) (proper : name ≠ "..")
    (read : tree.read (path.child name) = .ok bytes) :
    path.childFault? name = none ∧ tree.find? (dir ++ [name]) = some (.file bytes) := by
  unfold Tree.read stat at read
  cases located : tree.locate (path.child name) with
  | error fault => simp [located, refuse] at read
  | ok place =>
    obtain ⟨sound, rfl⟩ := opens.childFault?_of_locate proper located
    simp only [located] at read
    cases found : tree.find? (dir ++ [name]) with
    | none => simp [found, refuse] at read
    | some node =>
      cases node with
      | directory => simp [found, refuse] at read
      | file content =>
        simp only [found] at read
        exact ⟨sound, by rw [Except.ok.inj read]⟩

theorem Opens.rename_child_ok {target : String} (opens : Opens tree path dir) (proper : name ≠ "..")
    (proper' : target ≠ "..") (renamed : tree.rename (path.child name) (path.child target) = .ok next) :
    path.childFault? target = none ∧ (tree.find? (dir ++ [name])).isSome = true ∧
      next = tree.move (dir ++ [name]) (dir ++ [target]) := by
  unfold rename at renamed
  cases source : tree.locate (path.child name) with
  | error fault => simp [source, refuse] at renamed
  | ok old =>
    cases destination : tree.locate (path.child target) with
    | error fault => simp [source, destination, refuse] at renamed
    | ok new =>
      obtain ⟨-, rfl⟩ := opens.childFault?_of_locate proper source
      obtain ⟨sound, rfl⟩ := opens.childFault?_of_locate proper' destination
      simp only [source, destination] at renamed
      split_ifs at renamed with absent
      · cases renamed
      · refine ⟨sound, ?_, (Except.ok.inj renamed).symm⟩
        rwa [Bool.not_eq_true, Option.isNone_eq_false_iff] at absent

end Elevation.Disk.Tree
