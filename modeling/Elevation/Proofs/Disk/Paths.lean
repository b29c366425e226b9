import Mathlib
import Elevation.Disk.Path
import Elevation.Proofs.Outcome

/-!
Paths and their texts. A path that has been read from a text, or whose home directory has been put in,
is clean: its text is read as the path itself.
-/

namespace Elevation.Disk

/-- Every home directory is an absolute path. -/
def Homes.IsAbsolute (homes : Homes) : Prop :=
  ∀ user home, homes user = some home → (Path.ofHome home).isAbsolute = true

namespace Path

variable {homes : Homes} {path : Path}

/-! ### Cutting at slashes -/

theorem splitFrom_eq_splitOnPPrepend (name text : List Char) :
    splitFrom name text = List.splitOnPPrepend (· == '/') text name := by
  induction text generalizing name with
  | nil => rw [splitFrom, List.splitOnPPrepend_nil]
  | cons c rest ih =>
    rw [splitFrom, List.splitOnPPrepend_cons_eq_if]
    by_cases slash : c = '/'
    · simp [slash, ih, List.splitOnPPrepend_nil_right]
    · simp [slash, ih]

theorem split_eq_splitOn (text : List Char) : split text = text.splitOn '/' := by
  rw [split, splitFrom_eq_splitOnPPrepend, List.splitOnPPrepend_nil_right]
  rfl

theorem slash_notMem_splitFrom {name text piece : List Char} (clean : '/' ∉ name)
    (present : piece ∈ splitFrom name text) : '/' ∉ piece := by
  induction text generalizing name with
  | nil =>
    rw [splitFrom, List.mem_singleton] at present
    rwa [present, List.mem_reverse]
  | cons c rest ih =>
    unfold splitFrom at present
    split_ifs at present with slash
    · rcases List.mem_cons.mp present with rfl | later
      · rwa [List.mem_reverse]
      · exact ih (by simp) later
    · exact ih (by simp [clean, Ne.symm slash]) present

/-! ### Clean paths -/

/-- A path as it is read from a text: its root is one of three, and no name is empty, a dot or holds a
slash. -/
structure IsClean (path : Path) : Prop where
  root : path.root = "" ∨ path.root = "/" ∨ path.root = "//"
  parts : ∀ part ∈ path.parts, isName part.toList = true ∧ '/' ∉ part.toList

theorem rootOf_cases (text : List Char) : rootOf text = "" ∨ rootOf text = "/" ∨ rootOf text = "//" := by
  unfold rootOf
  split <;> simp

theorem isClean_ofText (text : String) : (ofText text).IsClean := by
  refine ⟨rootOf_cases text.toList, fun part present => ?_⟩
  obtain ⟨piece, kept, rfl⟩ := List.mem_map.mp present
  obtain ⟨cut, named⟩ := List.mem_filter.mp kept
  rw [String.toList_ofList]
  exact ⟨named, slash_notMem_splitFrom (by simp) cut⟩

theorem isClean_ofHome (home : String) : (ofHome home).IsClean := isClean_ofText _

/-- What putting the home directory in makes of a path: the path itself, or the names below its tilde
looked up from a home directory. -/
theorem expandHome_cases {expanded : Path} (found : path.expandHome homes = .ok expanded) :
    path.user? = none ∧ expanded = path ∨ ∃ user home, path.user? = some user ∧ homes user = some home ∧
      expanded = ⟨(ofHome home).root, (ofHome home).parts ++ path.parts.tail⟩ := by
  unfold expandHome at found
  split at found
  next plain => exact .inl ⟨plain, (Except.ok.inj found).symm⟩
  next user tilde =>
    obtain ⟨top, known, rfl⟩ := map_eq_ok.mp found
    unfold Homes.pathOf at known
    split_ifs at known
    split at known
    next => cases known
    next home named =>
      split_ifs at known
      obtain rfl := Except.ok.inj known
      exact .inr ⟨user, home, tilde, named, rfl⟩

theorem IsClean.expandHome (clean : path.IsClean) {expanded : Path}
    (found : path.expandHome homes = .ok expanded) : expanded.IsClean := by
  rcases expandHome_cases found with ⟨-, rfl⟩ | ⟨user, home, -, -, rfl⟩
  · exact clean
  · have above := isClean_ofHome home
    generalize ofHome home = top at above ⊢
    refine ⟨above.root, fun part present => ?_⟩
    rcases List.mem_append.mp present with higher | below
    · exact above.parts part higher
    · exact clean.parts part (List.mem_of_mem_tail below)

/-! ### Reading a text back -/

def body (path : Path) : List Char := ['/'].intercalate (path.parts.map String.toList)

theorem IsClean.split_body (clean : path.IsClean) :
    (split path.body).filter isName = path.parts.map String.toList := by
  have slashless : ∀ part ∈ path.parts.map String.toList, '/' ∉ part := by
    intro part present
    obtain ⟨name, listed, rfl⟩ := List.mem_map.mp present
    exact (clean.parts name listed).2
  have named : ∀ part ∈ path.parts.map String.toList, isName part = true := by
    intro part present
    obtain ⟨name, listed, rfl⟩ := List.mem_map.mp present
    exact (clean.parts name listed).1
  rw [split_eq_splitOn, body]
  by_cases top : path.parts.map String.toList = []
  · rw [top]
    rfl
  · rw [List.splitOn_intercalate _ slashless top, List.filter_eq_self.mpr named]

/-- The names do not begin with a slash, so all slashes before them belong to the root. -/
theorem IsClean.takeWhile_body (clean : path.IsClean) : path.body.takeWhile (· = '/') = [] := by
  unfold body
  cases names : path.parts with
  | nil => rfl
  | cons first rest =>
    obtain ⟨named, slashless⟩ := clean.parts first (by rw [names]; exact List.mem_cons_self)
    cases chars : first.toList with
    | nil => simp [chars, isName] at named
    | cons c others =>
      have plain : c ≠ '/' := by
        rintro rfl
        simp [chars] at slashless
      cases rest with
      | nil => simp [chars, plain]
      | cons second rest => simp [List.intercalate_cons_cons, chars, plain]

theorem toList_text (path : Path) (named : ¬ (path.root.isEmpty && path.parts.isEmpty) = true) :
    path.text.toList = path.root.toList ++ path.body := by
  rw [text, if_neg named, String.toList_append, String.toList_intercalate, body]
  rfl

theorem IsClean.rootOf_text (clean : path.IsClean) :
    rootOf (path.root.toList ++ path.body) = path.root := by
  unfold rootOf
  rcases clean.root with root | root | root
  · simp [root, clean.takeWhile_body]
  · simp [root, clean.takeWhile_body]
  · simp [root, clean.takeWhile_body]

theorem IsClean.split_text (clean : path.IsClean) :
    (split (path.root.toList ++ path.body)).filter isName = path.parts.map String.toList := by
  have names := clean.split_body
  rcases clean.root with root | root | root
  · simpa [root] using names
  · simpa [root, split, splitFrom, isName] using names
  · simpa [root, split, splitFrom, isName] using names

theorem IsClean.ofText_text (clean : path.IsClean) : ofText path.text = path := by
  by_cases bare : (path.root.isEmpty && path.parts.isEmpty) = true
  · obtain ⟨root, parts⟩ := path
    obtain ⟨rootless, nameless⟩ : root = "" ∧ parts = [] := by simpa using bare
    subst rootless nameless
    decide +kernel
  · rw [ofText, toList_text path bare, clean.rootOf_text, clean.split_text, List.map_map]
    simp

/-! ### The home directory -/

theorem dropTrailing_eq_rdropWhile (c : Char) (text : List Char) :
    dropTrailing c text = text.rdropWhile (· = c) := rfl

theorem expandHome_of_user? (plain : path.user? = none) (homes : Homes) :
    path.expandHome homes = .ok path := by
  rw [expandHome, plain]

theorem user?_of_isAbsolute (absolute : path.isAbsolute = true) : path.user? = none := by
  simp [user?, absolute]

theorem expandHome_expandHome (absolute : homes.IsAbsolute) {expanded : Path}
    (found : path.expandHome homes = .ok expanded) : expanded.expandHome homes = .ok expanded := by
  apply expandHome_of_user?
  rcases expandHome_cases found with ⟨plain, rfl⟩ | ⟨user, home, -, known, rfl⟩
  · exact plain
  · have rooted := absolute user home known
    generalize ofHome home = top at rooted ⊢
    exact user?_of_isAbsolute rooted

/-- The home directory of nobody but the user behind its tilde matters to a path. -/
theorem expandHome_congr {other : Homes} (alike : ∀ user, path.user? = some user → other user = homes user) :
    path.expandHome other = path.expandHome homes := by
  unfold expandHome
  split
  next => rfl
  next user tilde => rw [Homes.pathOf, Homes.pathOf, alike user tilde]

end Path

end Elevation.Disk
