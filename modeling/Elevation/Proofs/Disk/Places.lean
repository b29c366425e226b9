import Elevation.Disk.Tree
import Elevation.Proofs.Lookup

/-!
Places in a tree. An operation on one file changes what stands there and nowhere else, and every
way through directories stays open.
-/

namespace Elevation.Disk.Tree

variable {tree next : Tree} {place other : Place} {node : Node}

/-! ### What stands where -/

theorem find?_of_ne_nil (tree : Tree) (proper : place ≠ []) :
    tree.find? place = tree.nodes.lookup place := by
  cases place with
  | nil => exact absurd rfl proper
  | cons name rest => rfl

theorem find?_insert (tree : Tree) (proper : place ≠ []) (node : Node) (other : Place) :
    (tree.insert place node).find? other = if other = place then some node else tree.find? other := by
  by_cases root : other = []
  · rw [if_neg (by rw [root]; exact proper.symm), root]
    rfl
  · rw [find?_of_ne_nil _ root, find?_of_ne_nil _ root, insert, lookup_cons_eq_ite, lookup_filter_ne]
    split_ifs <;> rfl

theorem find?_erase (tree : Tree) (proper : place ≠ []) (other : Place) :
    (tree.erase place).find? other = if other = place then none else tree.find? other := by
  by_cases root : other = []
  · rw [if_neg (by rw [root]; exact proper.symm), root]
    rfl
  · rw [find?_of_ne_nil _ root, find?_of_ne_nil _ root, erase, lookup_filter_ne]

/-- A tree after whatever stood at one place has moved to another. -/
def move (tree : Tree) (source target : Place) : Tree :=
  { tree with nodes := (tree.erase target).nodes.map (moveFrom source target) }

section

variable {source target : Place} (rows : List (Place × Node))

theorem lookup_moveFrom_of_away (unmoved : ¬ source <+: other) (away : ¬ target <+: other) :
    (rows.map (moveFrom source target)).lookup other = rows.lookup other := by
  induction rows with
  | nil => rfl
  | cons row rest ih =>
    obtain ⟨name, value⟩ := row
    rw [List.map_cons, moveFrom]
    by_cases moved : source <+: name
    · have gone : other ≠ target ++ name.drop source.length := by
        rintro rfl
        exact away (List.prefix_append _ _)
      have before : other ≠ name := by
        rintro rfl
        exact unmoved moved
      rw [if_pos (List.isPrefixOf_iff_prefix.mpr moved), lookup_cons_eq_ite, lookup_cons_eq_ite, ih,
        if_neg gone, if_neg before]
    · rw [if_neg (mt List.isPrefixOf_iff_prefix.mp moved), lookup_cons_eq_ite, lookup_cons_eq_ite, ih]

theorem lookup_moveFrom_target (vacant : ∀ row ∈ rows, row.1 ≠ target) :
    (rows.map (moveFrom source target)).lookup target = rows.lookup source := by
  induction rows with
  | nil => rfl
  | cons row rest ih =>
    obtain ⟨name, value⟩ := row
    have rest := ih fun row present => vacant row (List.mem_cons_of_mem _ present)
    rw [List.map_cons, moveFrom]
    by_cases moved : source <+: name
    · obtain ⟨below, rfl⟩ := moved
      rw [if_pos (List.isPrefixOf_iff_prefix.mpr (List.prefix_append _ _)), lookup_cons_eq_ite,
        lookup_cons_eq_ite, rest]
      simp only [List.drop_left, List.self_eq_append_right]
    · have before : source ≠ name := by
        rintro rfl
        exact moved List.prefix_rfl
      rw [if_neg (mt List.isPrefixOf_iff_prefix.mp moved), lookup_cons_eq_ite, lookup_cons_eq_ite, rest,
        if_neg (vacant _ List.mem_cons_self).symm, if_neg before]

theorem lookup_moveFrom_source (apart : ¬ target <+: source) :
    (rows.map (moveFrom source target)).lookup source = none := by
  rw [lookup_eq_none_iff_keys]
  intro present
  simp only [List.map_map, List.mem_map, Function.comp_apply] at present
  obtain ⟨row, -, same⟩ := present
  unfold moveFrom at same
  split_ifs at same with moved
  · exact apart (same ▸ List.prefix_append _ _)
  · exact moved (List.isPrefixOf_iff_prefix.mpr (same ▸ List.prefix_rfl))

end

section

variable {source target : Place}

theorem find?_move_target (tree : Tree) (proper : source ≠ []) (proper' : target ≠ [])
    (apart : source ≠ target) : (tree.move source target).find? target = tree.find? source := by
  have vacant : ∀ row ∈ (tree.erase target).nodes, row.1 ≠ target := by
    intro row present
    simpa using (List.mem_filter.mp present).2
  have before := find?_erase tree proper' source
  rw [if_neg apart, find?_of_ne_nil _ proper] at before
  rw [find?_of_ne_nil _ proper', move, lookup_moveFrom_target _ vacant, before]

theorem find?_move_source (tree : Tree) (proper : source ≠ []) (apart : ¬ target <+: source) :
    (tree.move source target).find? source = none := by
  rw [find?_of_ne_nil _ proper, move, lookup_moveFrom_source _ apart]

theorem find?_move_of_away (tree : Tree) (proper' : target ≠ []) (unmoved : ¬ source <+: other)
    (away : ¬ target <+: other) : (tree.move source target).find? other = tree.find? other := by
  by_cases root : other = []
  · rw [root]
    rfl
  · have before := find?_erase tree proper' other
    have different : other ≠ target := by
      rintro rfl
      exact away List.prefix_rfl
    rw [if_neg different, find?_of_ne_nil _ root] at before
    rw [find?_of_ne_nil _ root, move, lookup_moveFrom_of_away _ unmoved away, before]

end

/-! ### Ways through directories -/

/-- A place that is a directory, and so is everything above it. -/
def Clear (tree : Tree) (place : Place) : Prop :=
  ∀ front, front <+: place → tree.find? front = some .directory

theorem clear_nil (tree : Tree) : tree.Clear [] := by
  intro front above
  rw [List.prefix_nil.mp above]
  rfl

theorem Clear.find? (clear : tree.Clear place) : tree.find? place = some .directory :=
  clear place List.prefix_rfl

theorem Clear.dropLast (clear : tree.Clear place) : tree.Clear place.dropLast :=
  fun front above => clear front (above.trans (List.dropLast_prefix place))

theorem Clear.child (clear : tree.Clear place) {name : String}
    (found : tree.find? (place ++ [name]) = some .directory) : tree.Clear (place ++ [name]) := by
  intro front above
  rcases List.prefix_concat_iff.mp above with whole | inside
  · rw [whole, found]
  · exact clear front inside

theorem isDirectoryAt_of_find? (found : tree.find? place = some .directory) :
    tree.isDirectoryAt place = true := by
  simp [isDirectoryAt, found]

theorem Clear.not_prefix (clear : tree.Clear place) (closed : tree.isDirectoryAt other = false) :
    ¬ other <+: place := by
  intro above
  rw [isDirectoryAt_of_find? (clear other above)] at closed
  cases closed

/-- The ways of one tree are open in another. -/
structure Keeps (tree next : Tree) : Prop where
  here : next.here = tree.here
  clear : ∀ place, tree.Clear place → next.Clear place

theorem Keeps.refl (tree : Tree) : Keeps tree tree := ⟨rfl, fun _ clear => clear⟩

theorem Keeps.trans {last : Tree} (first : Keeps tree next) (second : Keeps next last) :
    Keeps tree last :=
  ⟨second.here.trans first.here, fun place clear => second.clear place (first.clear place clear)⟩

theorem keeps_of_find? (here : next.here = tree.here)
    (same : ∀ place, tree.Clear place → next.find? place = tree.find? place) : Keeps tree next := by
  refine ⟨here, fun place clear front above => ?_⟩
  have inside : tree.Clear front := fun top inner => clear top (inner.trans above)
  rw [same front inside, inside.find?]

theorem ne_nil_of_closed (closed : tree.isDirectoryAt place = false) : place ≠ [] := by
  rintro rfl
  cases closed

theorem keeps_insert (closed : tree.isDirectoryAt place = false) (node : Node) :
    Keeps tree (tree.insert place node) := by
  refine keeps_of_find? (by rfl) fun other clear => ?_
  have away : other ≠ place := by
    rintro rfl
    exact clear.not_prefix closed List.prefix_rfl
  rw [find?_insert _ (ne_nil_of_closed closed), if_neg away]

theorem keeps_erase (closed : tree.isDirectoryAt place = false) : Keeps tree (tree.erase place) := by
  refine keeps_of_find? (by rfl) fun other clear => ?_
  have away : other ≠ place := by
    rintro rfl
    exact clear.not_prefix closed List.prefix_rfl
  rw [find?_erase _ (ne_nil_of_closed closed), if_neg away]

theorem keeps_move {source target : Place} (closed : tree.isDirectoryAt source = false)
    (closed' : tree.isDirectoryAt target = false) : Keeps tree (tree.move source target) := by
  refine keeps_of_find? (by rfl) fun other clear => ?_
  exact find?_move_of_away tree (ne_nil_of_closed closed') (clear.not_prefix closed)
    (clear.not_prefix closed')

/-! ### Walking -/

theorem find?_of_walk {names : List String} (walked : tree.walk place names = .ok other)
    (found : tree.find? other = some .directory) : tree.find? place = some .directory := by
  cases names with
  | nil => exact Except.ok.inj walked ▸ found
  | cons name rest =>
    rw [walk] at walked
    split at walked
    next => cases walked
    next => cases walked
    next directory => exact directory

theorem Clear.step {name : String} {rest : List String} (clear : tree.Clear place)
    (walked : tree.walk (stepTo place name) rest = .ok other)
    (found : tree.find? other = some .directory) : tree.Clear (stepTo place name) := by
  have below := find?_of_walk walked found
  unfold stepTo at below ⊢
  split_ifs at below ⊢
  · exact clear.dropLast
  · exact clear.child below

theorem Clear.walk {names : List String} (clear : tree.Clear place)
    (walked : tree.walk place names = .ok other) (found : tree.find? other = some .directory) :
    tree.Clear other := by
  induction names generalizing place with
  | nil => exact Except.ok.inj walked ▸ clear
  | cons name rest ih =>
    rw [Tree.walk, clear.find?] at walked
    simp only at walked
    split_ifs at walked
    exact ih (clear.step walked found) walked

theorem Keeps.walk {names : List String} (keeps : Keeps tree next) (clear : tree.Clear place)
    (walked : tree.walk place names = .ok other) (found : tree.find? other = some .directory) :
    next.walk place names = .ok other := by
  induction names generalizing place with
  | nil => exact walked
  | cons name rest ih =>
    rw [Tree.walk, clear.find?] at walked
    rw [Tree.walk, (keeps.clear place clear).find?]
    simp only at walked ⊢
    split_ifs at walked ⊢
    exact ih (clear.step walked found) walked

theorem walk_concat {names : List String} {name : String} (clear : tree.Clear place)
    (walked : tree.walk place names = .ok other) (found : tree.find? other = some .directory) :
    tree.walk place (names ++ [name]) =
      if longestName < name.utf8ByteSize then .error .nameTooLong else .ok (stepTo other name) := by
  induction names generalizing place with
  | nil =>
    cases walked
    rw [List.nil_append, Tree.walk, found]
    rfl
  | cons first rest ih =>
    rw [Tree.walk, clear.find?] at walked
    rw [List.cons_append, Tree.walk, clear.find?]
    simp only at walked ⊢
    split_ifs at walked with long
    rw [if_neg long]
    exact ih (clear.step walked found) walked

/-! ### Written files -/

/-- Where no directory stands, a new file is in nobody's way. -/
theorem walk_insert {names : List String} (closed : tree.isDirectoryAt other = false) (node : Node)
    {last : Place} (walked : tree.walk place names = .ok last) :
    (tree.insert other node).walk place names = .ok last := by
  induction names generalizing place with
  | nil => exact walked
  | cons name rest ih =>
    unfold walk at walked ⊢
    cases found : tree.find? place with
    | none =>
      rw [found] at walked
      cases walked
    | some here =>
      cases here with
      | file bytes =>
        rw [found] at walked
        cases walked
      | directory =>
        have away : place ≠ other := by
          rintro rfl
          simp [isDirectoryAt, found] at closed
        rw [found] at walked
        rw [find?_insert _ (ne_nil_of_closed closed), if_neg away, found]
        simp only at walked ⊢
        split_ifs at walked ⊢
        exact ih walked

theorem read_write {path : Path} (writable : tree.writable path = .ok place) (bytes : ByteArray) :
    ∃ next, tree.write path bytes = .ok next ∧ next.read path = .ok bytes := by
  refine ⟨tree.insert place (.file bytes), by rw [write, writable]; rfl, ?_⟩
  unfold Tree.writable at writable
  cases located : tree.locate path with
  | error fault =>
    rw [located] at writable
    cases writable
  | ok spot =>
    rw [located] at writable
    simp only at writable
    split_ifs at writable with orphan taken
    · cases writable
    · cases writable
    · cases writable
      have closed : tree.isDirectoryAt place = false := by simpa using taken
      have located' : (tree.insert place (.file bytes)).locate path = .ok place := by
        unfold locate at located ⊢
        split_ifs at located ⊢ <;> exact walk_insert closed _ located
      unfold read stat
      rw [located']
      simp only [find?_insert _ (ne_nil_of_closed closed), ↓reduceIte]

end Elevation.Disk.Tree
