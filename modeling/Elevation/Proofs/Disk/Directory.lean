import Elevation.Proofs.Disk.Places

/-!
Files in a directory. Once a path opens onto a directory, what an operation does to a file in it
depends on nothing but the name of the file and what stands there; the path stays open.
-/

namespace Elevation.Disk

/-- Why no file in a directory can have a name, if there is a reason. -/
def Path.childFault? (path : Path) (name : String) : Option Fault :=
  if (path.child name).text.toList.contains '\x00' then some .nullInPath
  else if Tree.longestPath < (path.child name).text.utf8ByteSize then some .nameTooLong
  else if Tree.longestName < name.utf8ByteSize then some .nameTooLong
  else none

theorem Path.childFault?_cases (path : Path) (name : String) :
    path.childFault? name = none ∨ path.childFault? name = some .nullInPath ∨
      path.childFault? name = some .nameTooLong := by
  unfold childFault?
  split_ifs <;> simp

theorem Path.text_child_append (path : Path) (name suffix : String) :
    (path.child (name ++ suffix)).text = (path.child name).text ++ suffix := by
  have named (name : String) : (path.child name).text =
      path.root ++ String.intercalate "/" (path.parts ++ [name]) := by
    simp [text, child]
  rw [named, named]
  by_cases top : path.parts = []
  · simp [top, String.append_assoc]
  · rw [String.intercalate_append_of_ne_nil top (by simp), String.intercalate_append_of_ne_nil top (by simp)]
    simp [String.append_assoc]

theorem Path.childFault?_of_append {path : Path} {name suffix : String}
    (sound : path.childFault? (name ++ suffix) = none) : path.childFault? name = none := by
  unfold childFault? at sound ⊢
  rw [text_child_append] at sound
  split_ifs at sound with null long longName
  simp only [String.utf8ByteSize_append, not_lt] at long longName
  have clean : ¬ (path.child name).text.toList.contains '\x00' = true := by
    intro present
    apply null
    simp only [String.toList_append, List.contains_eq_mem, List.mem_append, decide_eq_true_eq] at present ⊢
    exact Or.inl present
  rw [if_neg clean, if_neg (by omega), if_neg (by omega)]

namespace Tree

variable {tree next : Tree} {path : Path} {place : Place} {name : String}

def origin (tree : Tree) (path : Path) : Place := if path.isAbsolute then [] else tree.here

/-- A path that leads to a directory. -/
structure Opens (tree : Tree) (path : Path) (place : Place) : Prop where
  origin : tree.Clear (tree.origin path)
  walk : tree.walk (tree.origin path) path.parts = .ok place
  clear : tree.Clear place

theorem Opens.keeps (opens : Opens tree path place) (keeps : Keeps tree next) :
    Opens next path place := by
  have same : next.origin path = tree.origin path := by
    unfold Tree.origin
    rw [keeps.here]
  refine ⟨?_, ?_, keeps.clear place opens.clear⟩
  · rw [same]
    exact keeps.clear _ opens.origin
  · rw [same]
    exact keeps.walk opens.origin opens.walk opens.clear.find?

theorem Opens.locate_child (opens : Opens tree path place) (proper : name ≠ "..") :
    tree.locate (path.child name) =
      match path.childFault? name with
      | some fault => .error fault
      | none => .ok (place ++ [name]) := by
  have walked : tree.walk (if (path.child name).isAbsolute then [] else tree.here)
      (path.child name).parts = _ := walk_concat opens.origin opens.walk opens.clear.find?
  unfold locate Path.childFault?
  rw [walked, stepTo, if_neg proper]
  split_ifs <;> rfl

/-! ### One file -/

section

variable (opens : Opens tree path place) (proper : name ≠ "..") (sound : path.childFault? name = none)

include opens proper sound

theorem Opens.stat_child : tree.stat (path.child name) =
    match tree.find? (place ++ [name]) with
    | none => .error .noEntry
    | some node => .ok node := by
  unfold stat
  rewrite [opens.locate_child proper, sound]
  rfl

theorem Opens.exists_child :
    tree.exists? (path.child name) = .ok (tree.find? (place ++ [name])).isSome := by
  unfold exists?
  rw [opens.stat_child proper sound]
  cases tree.find? (place ++ [name]) <;> rfl

theorem Opens.read_child {bytes : ByteArray} (found : tree.find? (place ++ [name]) = some (.file bytes)) :
    tree.read (path.child name) = .ok bytes := by
  unfold read
  rw [opens.stat_child proper sound, found]

theorem Opens.writable_child (closed : tree.isDirectoryAt (place ++ [name]) = false) :
    tree.writable (path.child name) = .ok (place ++ [name]) := by
  unfold writable
  rw [opens.locate_child proper, sound]
  simp only [List.dropLast_concat, isDirectoryAt_of_find? opens.clear.find?, closed]
  rfl

theorem Opens.write_child (closed : tree.isDirectoryAt (place ++ [name]) = false) (bytes : ByteArray) :
    tree.write (path.child name) bytes = .ok (tree.insert (place ++ [name]) (.file bytes)) := by
  unfold write
  rw [opens.writable_child proper sound closed]
  rfl

theorem Opens.remove_child (closed : tree.isDirectoryAt (place ++ [name]) = false) :
    tree.remove (path.child name) = .ok (tree.erase (place ++ [name])) := by
  unfold remove
  rw [opens.locate_child proper, sound]
  simp only [closed]
  rfl

theorem Opens.rename_child {target : String} (proper' : target ≠ "..")
    (sound' : path.childFault? target = none) (present : (tree.find? (place ++ [name])).isSome = true) :
    tree.rename (path.child name) (path.child target) =
      .ok (tree.move (place ++ [name]) (place ++ [target])) := by
  unfold rename
  rw [opens.locate_child proper, opens.locate_child proper', sound, sound']
  have absent : (tree.find? (place ++ [name])).isNone = false := by
    rw [← Option.not_isSome, present]
    rfl
  simp only [absent]
  rfl

end

/-- A file whose name is refused is nowhere, and cannot be written or removed. -/
theorem Opens.refuse_child {fault : Fault} (opens : Opens tree path place) (proper : name ≠ "..")
    (faulty : path.childFault? name = some fault) :
    tree.writable (path.child name) = refuse (path.child name) fault ∧
      tree.remove (path.child name) = refuse (path.child name) fault ∧
      tree.exists? (path.child name) =
        if fault = .nameTooLong then refuse (path.child name) .nameTooLong else .ok false := by
  have located := opens.locate_child proper
  rw [faulty] at located
  unfold writable remove exists? stat
  rw [located]
  rcases path.childFault?_cases name with none | null | long
  · rw [none] at faulty
    cases faulty
  · cases null.symm.trans faulty
    exact ⟨rfl, rfl, rfl⟩
  · cases long.symm.trans faulty
    exact ⟨rfl, rfl, rfl⟩

theorem find?_of_names (located : tree.locate path = .ok place) (empty : tree.names path = [])
    (name : String) : tree.find? (place ++ [name]) = none := by
  rw [find?_of_ne_nil _ (by simp), lookup_eq_none_iff_keys]
  intro present
  obtain ⟨entry, listed, here⟩ := List.mem_map.mp present
  have named : name ∈ tree.names path := by
    unfold names
    rw [located]
    simp only [List.mem_mergeSort, List.mem_filterMap]
    exact ⟨entry, listed, by simp [here]⟩
  rw [empty] at named
  cases named

/-! ### Making directories -/

theorem walk_of_directories {names : List String} {start : Place}
    (kept : ∀ front, tree.find? front = some .directory → next.find? front = some .directory)
    (walked : tree.walk start names = .ok place) : next.walk start names = .ok place := by
  induction names generalizing start with
  | nil => exact walked
  | cons name rest ih =>
    rw [Tree.walk] at walked
    split at walked
    next => cases walked
    next => cases walked
    next found =>
      rw [Tree.walk, kept start found]
      simp only at walked ⊢
      split_ifs at walked ⊢
      exact ih walked

theorem makeOne_ok (made : tree.makeOne path = .ok next) :
    Keeps tree next ∧ ∃ place, next.locate path = .ok place ∧ next.find? place = some .directory := by
  unfold makeOne at made
  cases located : tree.locate path with
  | error fault => simp [located, refuse] at made
  | ok place =>
    simp only [located] at made
    cases found : tree.find? place with
    | some node =>
      cases node with
      | directory =>
        simp only [found, Except.ok.injEq] at made
        subst made
        exact ⟨.refl tree, place, located, found⟩
      | file bytes => simp [found, refuse] at made
    | none =>
      simp only [found] at made
      split_ifs at made
      · cases made
        have closed : tree.isDirectoryAt place = false := by simp [isDirectoryAt, found]
        have here := find?_insert tree (ne_nil_of_closed closed) .directory
        have kept (front : Place) (directory : tree.find? front = some .directory) :
            (tree.insert place .directory).find? front = some .directory := by
          rw [here, directory, ite_self]
        refine ⟨keeps_insert closed .directory, place, ?_, by rw [here, if_pos rfl]⟩
        unfold locate at located ⊢
        split_ifs at located ⊢ <;> exact walk_of_directories kept located
      · cases made

theorem tryOne_keeps (tree : Tree) (path : Path) : Keeps tree (tree.tryOne path).2 := by
  unfold tryOne
  cases made : tree.makeOne path with
  | error refusal => exact .refl tree
  | ok next => exact (makeOne_ok made).1

theorem tryOne_ok (made : (tree.tryOne path).1 = .ok ()) :
    tree.makeOne path = .ok (tree.tryOne path).2 := by
  unfold tryOne at made ⊢
  cases made' : tree.makeOne path with
  | error refusal => simp [made'] at made
  | ok next => rfl

theorem makeAll_ok {root : String} {names : List String} (made : (tree.makeAll root names).1 = .ok ()) :
    ∃ before, Keeps tree before ∧
      before.makeOne ⟨root, names.reverse⟩ = .ok (tree.makeAll root names).2 := by
  induction names generalizing tree with
  | nil => exact ⟨tree, .refl tree, tryOne_ok made⟩
  | cons name above ih =>
    unfold makeAll at made ⊢
    simp only at made ⊢
    have first := tryOne_keeps tree ⟨root, (name :: above).reverse⟩
    have once := @tryOne_ok tree ⟨root, (name :: above).reverse⟩
    generalize tree.tryOne ⟨root, (name :: above).reverse⟩ = outcome at made first once ⊢
    obtain ⟨result, tree'⟩ := outcome
    cases result with
    | ok _ => exact ⟨tree, .refl tree, once rfl⟩
    | error refusal =>
      simp only at made first ⊢
      split_ifs at made ⊢
      -- Everything above has been made, and the directory itself is tried once more.
      have upper := @ih tree'
      generalize tree'.makeAll root above = outcome at made upper ⊢
      obtain ⟨result', tree''⟩ := outcome
      cases result' with
      | error refusal' => cases made
      | ok _ =>
        obtain ⟨before, kept, made'⟩ := upper rfl
        exact ⟨tree'', first.trans (kept.trans (makeOne_ok made').1), tryOne_ok made⟩

theorem opens_of_makeDirectories (here : tree.Clear tree.here)
    (made : (tree.makeDirectories path).1 = .ok ()) :
    ∃ place, Opens (tree.makeDirectories path).2 path place ∧
      (tree.makeDirectories path).2.locate path = .ok place := by
  obtain ⟨before, kept, last⟩ := makeAll_ok made
  obtain ⟨kept', place, located, found⟩ := makeOne_ok last
  rw [List.reverse_reverse] at located
  have keeps := kept.trans kept'
  have origin : (tree.makeDirectories path).2.Clear ((tree.makeDirectories path).2.origin path) := by
    unfold Tree.origin
    split_ifs
    · exact clear_nil _
    · rw [show (tree.makeDirectories path).2.here = tree.here from keeps.here]
      exact keeps.clear _ here
  have walked : (tree.makeDirectories path).2.walk ((tree.makeDirectories path).2.origin path)
      path.parts = .ok place := by
    have whole : (tree.makeDirectories path).2.locate path = .ok place := located
    unfold locate at whole
    unfold Tree.origin
    split_ifs at whole ⊢ <;> exact whole
  exact ⟨place, ⟨origin, walked, origin.walk walked found⟩, located⟩

end Tree

end Elevation.Disk
