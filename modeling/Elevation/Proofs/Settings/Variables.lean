import Elevation.Proofs.Settings.Rebuilt

/-!
The environment variables of settings, one by one. Each gives its member the usual value or what its text
is read as; so the issues of an environment are those of its texts, in the order of the variables.
-/

namespace Elevation

namespace Settings

open Fields

inductive Variable where
  | directory | baseUrl | maxTiles | namesDirectory | timeout
  deriving DecidableEq, Repr

namespace Variable

/-- All variables in the order in which they are looked at. -/
def all : List Variable := [directory, baseUrl, maxTiles, namesDirectory, timeout]

def member : Variable → String
  | directory => "cache_dir"
  | baseUrl => "base_url"
  | maxTiles => "cache_max_tiles"
  | namesDirectory => "area_names_dir"
  | timeout => "download_timeout_s"

def name : Variable → String
  | directory => "SRTM_CACHE_DIR"
  | baseUrl => "SRTM_BASE_URL"
  | maxTiles => "SRTM_CACHE_MAX_TILES"
  | namesDirectory => "SRTM_AREA_NAMES_DIR"
  | timeout => "SRTM_DOWNLOAD_TIMEOUT"

def usual : Variable → Json
  | directory => .string Provider.defaultDirectory
  | baseUrl => .string Provider.defaultBaseUrl
  | maxTiles => .int defaultMaxTiles
  | namesDirectory => .null
  | timeout => .float Transfer.defaultTimeout

def value (environment : Environment) (v : Variable) : Json :=
  (setting? environment v.name).elim v.usual .string

theorem pairs_eq : memberNames.zip variableNames = all.map fun v => (v.member, v.name) := rfl

theorem mem_all (v : Variable) : v ∈ all := by cases v <;> decide

theorem paired (v : Variable) : (v.member, v.name) ∈ memberNames.zip variableNames := by
  rw [pairs_eq]
  exact List.mem_map_of_mem (mem_all v)

theorem lookup_member (v : Variable) : (memberNames.zip variableNames).lookup v.member = some v.name := by
  cases v <;> decide +kernel

theorem memberOf_membersOf (environment : Environment) (v : Variable) :
    memberOf (membersOf environment) v.member v.usual = v.value environment := by
  rw [memberOf, lookup_membersOf v.paired, value]
  cases setting? environment v.name <;> rfl

end Variable

theorem honest_value {β : Type} {environment : Environment} {v : Variable} {read : Json → Checked β} {x : β}
    (usual : read v.usual = .ok x) (honest : ∀ raw, Honest (read (.string raw))) :
    Honest (read (v.value environment)) := by
  unfold Variable.value
  cases setting? environment v.name with
  | none => exact usual ▸ honest_ok x
  | some raw => exact honest raw

/-! ### Paths -/

/-- The paths that an environment names, the usual directory among them if it sets none. -/
def pathsIn (environment : Environment) : List Disk.Path :=
  .ofText ((setting? environment Variable.directory.name).getD Provider.defaultDirectory) ::
    ((setting? environment Variable.namesDirectory.name).map Disk.Path.ofText).toList

/-- A path of an environment lies below a home directory that is not to be found. -/
def Lost (homes : Disk.Homes) (environment : Environment) : Prop :=
  ∃ path ∈ pathsIn environment, path.expandHome homes = .error .unknown

theorem value_directory (environment : Environment) : Variable.directory.value environment =
    .string ((setting? environment Variable.directory.name).getD Provider.defaultDirectory) := by
  unfold Variable.value
  cases setting? environment Variable.directory.name <;> rfl

/-! ### Texts of single variables -/

variable [Coercion] {homes : Disk.Homes} {environment : Environment} {raw : String}

/-- A text as a path with its home directory put in; where that cannot be had, there is an issue. -/
def expanded (homes : Disk.Homes) (raw : String) : Checked Disk.Path :=
  ((Disk.Path.ofText raw).expandHome homes).mapError fun fault => [rejection fault.message]

namespace Variable

def Accepts (homes : Disk.Homes) : Variable → String → Prop
  | directory, raw => ∃ path, (Disk.Path.ofText raw).expandHome homes = .ok path
  | baseUrl, raw => isWebAddress raw = true
  | maxTiles, raw => ∃ bound, int (.string raw) = .ok bound ∧ 0 ≤ bound
  | namesDirectory, raw => ∃ path, (Disk.Path.ofText raw).expandHome homes = .ok path
  | timeout, raw => ∃ seconds, float (.string raw) = .ok seconds ∧ Scalar.lt (Scalar.ofInt 0) seconds = true

def issues (homes : Disk.Homes) : Variable → String → List Issue
  | directory, raw => issuesOf (expanded homes raw)
  | baseUrl, raw => issuesOf (baseUrlOf (.string raw))
  | maxTiles, raw => issuesOf (maxTilesOf (.string raw))
  | namesDirectory, raw => issuesOf (expanded homes raw)
  | timeout, raw => issuesOf (positive float (.string raw))

def reason? (homes : Disk.Homes) (v : Variable) (raw : String) : Option String :=
  (v.issues homes raw).head?.map Issue.message

def issuesIn (homes : Disk.Homes) (environment : Environment) (v : Variable) : List Issue :=
  ((setting? environment v.name).elim [] (v.issues homes)).map (Issue.under v.member)

end Variable

theorem honest_expanded (homes : Disk.Homes) (raw : String) : Honest (expanded homes raw) := by
  unfold expanded
  cases (Disk.Path.ofText raw).expandHome homes with
  | error fault => exact honest_error.mpr (List.cons_ne_nil _ _)
  | ok path => exact honest_ok path

theorem expanded_eq_ok {path : Disk.Path} :
    expanded homes raw = .ok path ↔ (Disk.Path.ofText raw).expandHome homes = .ok path := mapError_eq_ok

theorem boundOf_eq_ok {bound : Int} {limit : Option Int} : boundOf (some bound) = .ok limit ↔
    0 ≤ bound ∧ limit = if bound = 0 then none else some bound := by
  unfold boundOf
  dsimp only
  split_ifs with zero negative
  · simp [zero, eq_comm]
  · exact iff_of_false nofun (by omega)
  · simp [not_lt.mp negative, eq_comm]

theorem honest_boundOf (bound : Option Int) : Honest (boundOf bound) := by
  unfold boundOf
  split
  · exact honest_ok _
  · split_ifs
    · exact honest_ok _
    · exact honest_error.mpr (List.cons_ne_nil _ _)
    · exact honest_ok _

theorem maxTilesOf_string (raw : String) :
    maxTilesOf (.string raw) = (int (.string raw)).bind fun bound => boundOf (some bound) := by
  simp only [maxTilesOf, nullable]
  cases int (.string raw) <;> rfl

theorem maxTilesOf_eq_ok {limit : Option Int} : maxTilesOf (.string raw) = .ok limit ↔
    ∃ bound, int (.string raw) = .ok bound ∧ 0 ≤ bound ∧ limit = if bound = 0 then none else some bound := by
  rw [maxTilesOf_string]
  cases int (.string raw) with
  | error issues => simp [Except.bind]
  | ok bound => simp [Except.bind, boundOf_eq_ok]

section

variable [Coercion.Lawful]

theorem baseUrlOf_string (raw : String) : baseUrlOf (.string raw) =
    if isWebAddress raw then .ok (withoutTrailingSlashes raw)
    else .error [rejection "must be an http(s) URL"] := by
  rw [baseUrlOf, Coercion.Lawful.string_text]

theorem honest_baseUrlOf (raw : String) : Honest (baseUrlOf (.string raw)) := by
  rw [baseUrlOf_string]
  split_ifs
  · exact honest_ok _
  · exact honest_error.mpr (List.cons_ne_nil _ _)

theorem honest_maxTilesOf (raw : String) : Honest (maxTilesOf (.string raw)) := by
  rw [maxTilesOf_string]
  exact Honest.bind (Coercion.Lawful.int_honest _) fun bound => honest_boundOf _

theorem Variable.accepts_iff {v : Variable} : v.Accepts homes raw ↔ v.issues homes raw = [] := by
  cases v with
  | directory =>
    rw [issues, ← exists_ok_iff (honest_expanded homes raw)]
    simp only [expanded_eq_ok, Accepts]
  | namesDirectory =>
    rw [issues, ← exists_ok_iff (honest_expanded homes raw)]
    simp only [expanded_eq_ok, Accepts]
  | baseUrl =>
    rw [issues, ← exists_ok_iff (honest_baseUrlOf raw), Accepts, baseUrlOf_string]
    cases isWebAddress raw <;> simp
  | maxTiles =>
    rw [issues, ← exists_ok_iff (honest_maxTilesOf raw)]
    simp only [maxTilesOf_eq_ok, Accepts]
    exact ⟨fun ⟨bound, parsed, room⟩ => ⟨_, bound, parsed, room, rfl⟩,
      fun ⟨_, bound, parsed, room, _⟩ => ⟨bound, parsed, room⟩⟩
  | timeout =>
    rw [issues, ← exists_ok_iff (honest_positive _)]
    simp only [positive_eq_ok, Accepts]

end

/-! ### Reading -/

def namesIn (homes : Disk.Homes) (environment : Environment) : Checked (Option Disk.Path) :=
  (setting? environment Variable.namesDirectory.name).elim (.ok none) fun raw => (expanded homes raw).map some

/-- The settings of an environment whose paths all have a home directory to be found. -/
def readIn (homes : Disk.Homes) (environment : Environment) : Checked Settings :=
  ap (ap (ap (ap (ap (.ok Settings.mk)
    (below Variable.directory.member (expanded homes
      ((setting? environment Variable.directory.name).getD Provider.defaultDirectory))))
    (below Variable.baseUrl.member (baseUrlOf (Variable.baseUrl.value environment))))
    (below Variable.maxTiles.member (maxTilesOf (Variable.maxTiles.value environment))))
    (below Variable.namesDirectory.member (namesIn homes environment)))
    (below Variable.timeout.member (positive float (Variable.timeout.value environment)))

theorem surplus_membersOf (environment : Environment) : surplus (membersOf environment) memberNames = [] := by
  rw [surplus, List.map_eq_nil_iff, List.filter_eq_nil_iff]
  intro member present
  obtain ⟨pair, listed, made⟩ := List.mem_filterMap.mp present
  obtain ⟨_, _, rfl⟩ := Option.map_eq_some_iff.mp made
  simpa using (List.of_mem_zip listed).1

theorem issuesOf_value {β : Type} {v : Variable} {read : Json → Checked β} {x : β} (homes : Disk.Homes)
    (usual : read v.usual = .ok x) (same : ∀ raw, issuesOf (read (.string raw)) = v.issues homes raw) :
    issuesOf (read (v.value environment)) = (setting? environment v.name).elim [] (v.issues homes) := by
  unfold Variable.value
  cases setting? environment v.name with
  | none => rw [Option.elim_none, usual, Option.elim_none, issuesOf]
  | some raw => exact same raw

/-- One's own home directory is known or unknown, but it is asked for without a name. -/
theorem exists_expanded_default (homed : ¬ Lost homes environment)
    (unset : setting? environment Variable.directory.name = none) :
    ∃ path, expanded homes Provider.defaultDirectory = .ok path := by
  have own : (Disk.Path.ofText Provider.defaultDirectory).user? = some "" := by decide +kernel
  cases found : (Disk.Path.ofText Provider.defaultDirectory).expandHome homes with
  | ok path => exact ⟨path, expanded_eq_ok.mpr found⟩
  | error fault =>
    cases fault with
    | unknown => exact absurd ⟨_, List.mem_cons_self, by rwa [unset]⟩ homed
    | nullInName =>
      rw [Disk.Path.expandHome, own, map_eq_error, Disk.Homes.pathOf] at found
      split_ifs at found with null
      · exact absurd null (by decide +kernel)
      · split at found
        next => cases found
        next => split_ifs at found; cases found

theorem issuesOf_namesIn : issuesOf (namesIn homes environment) =
    (setting? environment Variable.namesDirectory.name).elim [] (Variable.namesDirectory.issues homes) := by
  unfold namesIn
  cases setting? environment Variable.namesDirectory.name with
  | none => rfl
  | some raw =>
    rw [Option.elim_some, Option.elim_some, Variable.issues]
    cases expanded homes raw <;> rfl

theorem issuesOf_directory (homed : ¬ Lost homes environment) :
    issuesOf (expanded homes ((setting? environment Variable.directory.name).getD
        Provider.defaultDirectory)) =
      (setting? environment Variable.directory.name).elim [] (Variable.directory.issues homes) := by
  cases unset : setting? environment Variable.directory.name with
  | none =>
    obtain ⟨path, usual⟩ := exists_expanded_default homed unset
    rw [Option.getD_none, usual, issuesOf, Option.elim_none]
  | some raw => rfl

variable [Coercion.Lawful]

theorem pathOf_string (raw : String) : pathOf homes (.string raw) =
    if (Disk.Path.ofText raw).expandHome homes = .error .unknown then .error (.homeless .unknown)
    else .ok (expanded homes raw) := by
  rw [pathOf, Coercion.Lawful.path_text, expanded]
  dsimp only
  rcases (Disk.Path.ofText raw).expandHome homes with (_ | _) | path <;> rfl

theorem pathIfGiven_value (homed : ¬ Lost homes environment) :
    pathIfGiven homes (Variable.namesDirectory.value environment) = .ok (namesIn homes environment) := by
  unfold Variable.value namesIn
  cases given : setting? environment Variable.namesDirectory.name with
  | none => rfl
  | some raw =>
    have found : ¬ (Disk.Path.ofText raw).expandHome homes = .error .unknown :=
      fun missing => homed ⟨_, List.mem_cons_of_mem _ (by rw [given]; exact List.mem_singleton_self _), missing⟩
    rw [Option.elim_some, Option.elim_some, pathIfGiven, pathOf_string, if_neg found]
    · rfl
    · nofun

/-- Settings are read variable by variable, and there is nothing else to read. -/
theorem ofMembers_membersOf (homed : ¬ Lost homes environment) :
    ofMembers homes (membersOf environment) = .ok (readIn homes environment) := by
  have directory := Variable.directory.memberOf_membersOf environment
  have baseUrl := Variable.baseUrl.memberOf_membersOf environment
  have maxTiles := Variable.maxTiles.memberOf_membersOf environment
  have namesDirectory := Variable.namesDirectory.memberOf_membersOf environment
  have timeout := Variable.timeout.memberOf_membersOf environment
  have found : ¬ (Disk.Path.ofText ((setting? environment Variable.directory.name).getD
      Provider.defaultDirectory)).expandHome homes = .error .unknown :=
    fun missing => homed ⟨_, List.mem_cons_self, missing⟩
  simp only [Variable.member, Variable.usual] at directory baseUrl maxTiles namesDirectory timeout
  rw [ofMembers, directory, baseUrl, maxTiles, namesDirectory, timeout, pathIfGiven_value homed,
    value_directory, pathOf_string, if_neg found]
  dsimp only
  rw [closed_of_surplus (surplus_membersOf environment)]
  rfl

theorem ofMembers_of_lost (lost : Lost homes environment) :
    ofMembers homes (membersOf environment) = .error (.homeless .unknown) := by
  have directory := Variable.directory.memberOf_membersOf environment
  have namesDirectory := Variable.namesDirectory.memberOf_membersOf environment
  simp only [Variable.member, Variable.usual] at directory namesDirectory
  rw [ofMembers, directory, namesDirectory, value_directory, pathOf_string]
  obtain ⟨path, named, missing⟩ := lost
  rcases List.mem_cons.mp named with rfl | other
  · rw [if_pos missing]
  · obtain ⟨raw, given, rfl⟩ := Option.map_eq_some_iff.mp (Option.mem_toList.mp other)
    have names : pathIfGiven homes (Variable.namesDirectory.value environment) =
        .error (.homeless .unknown) := by
      rw [Variable.value, given, Option.elim_some, pathIfGiven, pathOf_string, if_pos missing]
      · rfl
      · nofun
    rw [names]
    split_ifs <;> rfl

/-! ### Issues -/

theorem baseUrlOf_default : baseUrlOf Variable.baseUrl.usual = .ok Provider.defaultBaseUrl := by
  rw [Variable.usual, baseUrlOf_string, if_pos (by decide +kernel),
    show withoutTrailingSlashes Provider.defaultBaseUrl = Provider.defaultBaseUrl by decide +kernel]

theorem maxTilesOf_default : maxTilesOf Variable.maxTiles.usual = .ok (some defaultMaxTiles) := by
  simp only [Variable.usual, maxTilesOf, nullable, Coercion.Lawful.int_whole]
  rfl

theorem positive_default : positive float Variable.timeout.usual = .ok Transfer.defaultTimeout :=
  positive_eq_ok.mpr ⟨Coercion.Lawful.float_number _, by decide +kernel⟩

theorem honest_readIn (homes : Disk.Homes) (environment : Environment) :
    Honest (readIn homes environment) := by
  have names : Honest (namesIn homes environment) := by
    unfold namesIn
    cases setting? environment Variable.namesDirectory.name with
    | none => exact honest_ok _
    | some raw => exact fun empty => honest_expanded homes raw (map_eq_error.mp empty)
  exact (((((honest_ok _).ap ((honest_expanded homes _).below _)).ap
    ((honest_value baseUrlOf_default honest_baseUrlOf).below _)).ap
    ((honest_value maxTilesOf_default honest_maxTilesOf).below _)).ap (names.below _)).ap
    ((honest_positive _).below _)

theorem issuesOf_readIn (homed : ¬ Lost homes environment) : issuesOf (readIn homes environment) =
    Variable.all.flatMap (Variable.issuesIn homes environment) := by
  unfold readIn
  simp only [issuesOf_ap, issuesOf_below]
  rw [issuesOf_directory homed, issuesOf_namesIn, issuesOf_value homes baseUrlOf_default fun _ => rfl,
    issuesOf_value homes maxTilesOf_default fun _ => rfl, issuesOf_value homes positive_default fun _ => rfl]
  simp [issuesOf, Variable.all, Variable.issuesIn]

end Settings

end Elevation
