import Mathlib
import Elevation.Settings
import Elevation.Proofs.Disk.Paths
import Elevation.Proofs.Fields.Reading
import Elevation.Proofs.Lookup
import Elevation.Standin.Basic

/-!
Settings built again from their own values. What was accepted has clean paths, a bound that leaves room
for a tile, a positive timeout and a base address without trailing slashes; so each member is accepted
again as it is, paths if no home directory has to be put into them once more. The address may be refused
the second time: it is looked at before its slashes go, and an address of nothing but slashes loses those
of its scheme.
-/

namespace Elevation

namespace Settings

open Fields

variable {homes : Disk.Homes} {environment : Environment} {members : Members} {settings : Settings}

/-! ### Addresses -/

def schemes : List String := ["http://", "https://"]

/-- A text that goes on behind the scheme of a web address with more than slashes. -/
def Addresses (url : String) : Prop :=
  ∃ scheme ∈ schemes, ∃ rest, url.toList = scheme.toList ++ rest ∧ ∃ c ∈ rest, c ≠ '/'

theorem isWebAddress_iff {url : String} :
    isWebAddress url = true ↔ ∃ scheme ∈ schemes, scheme.toList <+: url.toList := by
  simp [isWebAddress, Text.startsWith, schemes]

theorem toList_withoutTrailingSlashes (url : String) :
    (withoutTrailingSlashes url).toList = url.toList.rdropWhile (· = '/') := by
  rw [withoutTrailingSlashes, String.toList_ofList, Disk.Path.dropTrailing_eq_rdropWhile]

theorem withoutTrailingSlashes_idem (url : String) :
    withoutTrailingSlashes (withoutTrailingSlashes url) = withoutTrailingSlashes url := by
  rw [← String.toList_inj, toList_withoutTrailingSlashes, toList_withoutTrailingSlashes,
    List.rdropWhile_idempotent]

theorem getLast?_withoutTrailingSlashes (url : String) :
    (withoutTrailingSlashes url).toList.getLast? ≠ some '/' := by
  rw [toList_withoutTrailingSlashes]
  intro slash
  obtain ⟨something, last⟩ := List.mem_getLast?_eq_getLast slash
  exact List.rdropWhile_last_not _ _ something (by simp [← last])

theorem rdropWhile_append (p : Char → Bool) (front rest : List Char) :
    (front ++ rest).rdropWhile p =
      if rest.rdropWhile p = [] then front.rdropWhile p else front ++ rest.rdropWhile p := by
  unfold List.rdropWhile
  rw [List.reverse_append, List.dropWhile_append]
  simp only [List.isEmpty_iff, List.reverse_eq_nil_iff]
  split_ifs <;> simp

/-- A scheme that loses its slashes begins no address. -/
theorem bare_scheme : ∀ scheme ∈ schemes,
    (Text.startsWith "http://".toList (scheme.toList.rdropWhile (· = '/')) ||
      Text.startsWith "https://".toList (scheme.toList.rdropWhile (· = '/'))) = false := by
  decide +kernel

theorem isWebAddress_withoutTrailingSlashes {url : String} (web : isWebAddress url = true) :
    isWebAddress (withoutTrailingSlashes url) = true ↔ Addresses url := by
  obtain ⟨scheme, known, rest, whole⟩ := isWebAddress_iff.mp web
  constructor
  · intro again
    refine ⟨scheme, known, rest, whole.symm, ?_⟩
    by_contra slashes
    push Not at slashes
    have stripped : (withoutTrailingSlashes url).toList = scheme.toList.rdropWhile (· = '/') := by
      rw [toList_withoutTrailingSlashes, ← whole, rdropWhile_append, if_pos]
      simpa using slashes
    rw [isWebAddress, stripped, bare_scheme scheme known] at again
    cases again
  · rintro ⟨scheme, known, rest, whole, c, present, other⟩
    refine isWebAddress_iff.mpr ⟨scheme, known, ?_⟩
    rw [toList_withoutTrailingSlashes, whole, rdropWhile_append, if_neg]
    · exact List.prefix_append ..
    · intro nothing
      exact other (by simpa using List.rdropWhile_eq_nil_iff.mp nothing c present)

section

variable [Coercion]

theorem baseUrlOf_eq_ok {value : Json} {url : String} :
    baseUrlOf value = .ok url ↔
      ∃ raw, string value = .ok raw ∧ isWebAddress raw = true ∧ withoutTrailingSlashes raw = url := by
  unfold baseUrlOf
  cases string value with
  | error issues => simp
  | ok raw => by_cases web : isWebAddress raw = true <;> simp [web]

/-! ### Accepted members -/

/-- What acceptance makes sure of, apart from the address being one of the web. -/
structure IsSettled (settings : Settings) : Prop where
  directory : settings.directory.IsClean
  baseUrl : withoutTrailingSlashes settings.baseUrl = settings.baseUrl
  maxTiles : ∀ bound ∈ settings.maxTiles, 1 ≤ bound
  namesDirectory : ∀ path ∈ settings.namesDirectory, path.IsClean
  timeout : Scalar.lt (Scalar.ofInt 0) settings.timeout = true

/-- To put home directories in once more changes none of the paths. -/
structure IsPlaced (homes : Disk.Homes) (settings : Settings) : Prop where
  directory : settings.directory.expandHome homes = .ok settings.directory
  namesDirectory : ∀ path ∈ settings.namesDirectory, path.expandHome homes = .ok path

theorem one_le_of_boundOf {bound limit : Option Int} (accepted : boundOf bound = .ok limit) :
    ∀ n ∈ limit, 1 ≤ n := by
  unfold boundOf at accepted
  split at accepted
  next =>
    obtain rfl := Except.ok.inj accepted
    simp
  next n =>
    split_ifs at accepted with zero negative
    · obtain rfl := Except.ok.inj accepted
      simp
    · obtain rfl := Except.ok.inj accepted
      intro m same
      obtain rfl := Option.mem_some.mp same
      omega

theorem boundOf_of_settled {bound : Option Int} (room : ∀ n ∈ bound, 1 ≤ n) :
    boundOf bound = .ok bound := by
  cases bound with
  | none => rfl
  | some n =>
    have positive := room n rfl
    rw [boundOf, if_neg (by omega), if_neg (by omega)]

theorem pathOf_eq_ok {value : Json} {directory : Disk.Path} :
    pathOf homes value = .ok (.ok directory) ↔
      ∃ text, path value = .ok text ∧ (Disk.Path.ofText text).expandHome homes = .ok directory := by
  unfold pathOf
  cases path value with
  | error issues => simp
  | ok text =>
    simp only [Except.ok.injEq, exists_eq_left']
    split <;> simp [*]

theorem pathIfGiven_eq_ok {value : Json} {directory? : Option Disk.Path} :
    pathIfGiven homes value = .ok (.ok directory?) ↔ value = .null ∧ directory? = none ∨
      ∃ directory, value ≠ .null ∧ directory? = some directory ∧
        pathOf homes value = .ok (.ok directory) := by
  unfold pathIfGiven
  split
  next => simp [eq_comm]
  next =>
    simp only [map_eq_ok]
    constructor
    · rintro ⟨checked, read, some⟩
      obtain ⟨directory, rfl, rfl⟩ := some
      exact .inr ⟨directory, by assumption, rfl, read⟩
    · rintro (⟨null, -⟩ | ⟨directory, -, rfl, read⟩)
      · exact absurd null (by assumption)
      · exact ⟨_, read, directory, rfl, rfl⟩

/-- Each member of settings is what stands under its name, or the usual value. -/
structure IsTaken (homes : Disk.Homes) (members : Members) (settings : Settings) : Prop where
  directory : pathOf homes (memberOf members "cache_dir" (.string Provider.defaultDirectory)) =
    .ok (.ok settings.directory)
  baseUrl : baseUrlOf (memberOf members "base_url" (.string Provider.defaultBaseUrl)) =
    .ok settings.baseUrl
  maxTiles : maxTilesOf (memberOf members "cache_max_tiles" (.int defaultMaxTiles)) =
    .ok settings.maxTiles
  namesDirectory : pathIfGiven homes (memberOf members "area_names_dir" .null) =
    .ok (.ok settings.namesDirectory)
  timeout : positive float (memberOf members "download_timeout_s" (.float Transfer.defaultTimeout)) =
    .ok settings.timeout

theorem ofMembers_eq_ok : ofMembers homes members = .ok (.ok settings) ↔
    IsTaken homes members settings ∧ surplus members memberNames = [] := by
  unfold ofMembers
  constructor
  · intro accepted
    split at accepted
    next => cases accepted
    next => cases accepted
    next directory namesDirectory first fourth =>
      obtain ⟨read, known⟩ := closed_eq_ok.mp (Except.ok.inj accepted)
      simp only [ap_eq_ok, below_eq_ok] at read
      obtain ⟨_, timeout, ⟨_, names, ⟨_, tiles, ⟨_, url, ⟨_, directory, made, rfl, rfl⟩, second, rfl⟩,
        third, rfl⟩, rfl, rfl⟩, fifth, rfl⟩ := read
      obtain rfl := Except.ok.inj made
      exact ⟨⟨first, second, third, fourth, fifth⟩, known⟩
  · rintro ⟨taken, known⟩
    rw [taken.directory, taken.namesDirectory, taken.baseUrl, taken.maxTiles, taken.timeout]
    simp [closed, known, ap, below, Except.mapError]

theorem IsTaken.directory_eq (taken : IsTaken homes members settings) :
    ∃ text, (Disk.Path.ofText text).expandHome homes = .ok settings.directory := by
  obtain ⟨text, -, expanded⟩ := pathOf_eq_ok.mp taken.directory
  exact ⟨text, expanded⟩

theorem IsTaken.namesDirectory_eq (taken : IsTaken homes members settings) {directory : Disk.Path}
    (given : directory ∈ settings.namesDirectory) :
    ∃ text, (Disk.Path.ofText text).expandHome homes = .ok directory := by
  rcases pathIfGiven_eq_ok.mp taken.namesDirectory with ⟨-, none⟩ | ⟨_, -, some, read⟩
  · rw [none] at given
    cases given
  · rw [some] at given
    obtain rfl := Option.mem_some.mp given
    obtain ⟨text, -, expanded⟩ := pathOf_eq_ok.mp read
    exact ⟨text, expanded⟩

theorem IsTaken.isSettled [Coercion.Lawful] (taken : IsTaken homes members settings) :
    settings.IsSettled := by
  have clean {text : String} {directory : Disk.Path}
      (expanded : (Disk.Path.ofText text).expandHome homes = .ok directory) : directory.IsClean :=
    (Disk.Path.isClean_ofText text).expandHome expanded
  constructor
  case directory =>
    obtain ⟨_, expanded⟩ := taken.directory_eq
    exact clean expanded
  case baseUrl =>
    obtain ⟨raw, -, -, stripped⟩ := baseUrlOf_eq_ok.mp taken.baseUrl
    rw [← stripped, withoutTrailingSlashes_idem]
  case maxTiles =>
    have bounded := taken.maxTiles
    unfold maxTilesOf at bounded
    split at bounded
    next => cases bounded
    next => exact one_le_of_boundOf bounded
  case namesDirectory =>
    intro directory given
    obtain ⟨_, expanded⟩ := taken.namesDirectory_eq given
    exact clean expanded
  case timeout => exact (positive_eq_ok.mp taken.timeout).2

theorem IsTaken.isPlaced (absolute : homes.IsAbsolute) (taken : IsTaken homes members settings) :
    settings.IsPlaced homes := by
  constructor
  case directory =>
    obtain ⟨_, expanded⟩ := taken.directory_eq
    exact Disk.Path.expandHome_expandHome absolute expanded
  case namesDirectory =>
    intro directory given
    obtain ⟨_, expanded⟩ := taken.namesDirectory_eq given
    exact Disk.Path.expandHome_expandHome absolute expanded

/-! ### The values of settings as members -/

/-- Settings as the members that they are built from; a path is written as its text. -/
def toMembers (settings : Settings) : Members :=
  [("cache_dir", .string settings.directory.text), ("base_url", .string settings.baseUrl),
    ("cache_max_tiles", Json.ofOption .int settings.maxTiles),
    ("area_names_dir", Json.ofOption (fun path => .string path.text) settings.namesDirectory),
    ("download_timeout_s", .float settings.timeout)]

def addressIssue : Issue := (rejection "must be an http(s) URL").under "base_url"

theorem surplus_toMembers (settings : Settings) : surplus settings.toMembers memberNames = [] := by
  simp [surplus, toMembers, memberNames]

variable [Coercion.Lawful]

theorem pathOf_text {directory : Disk.Path} (clean : directory.IsClean) :
    pathOf homes (.string directory.text) = .ok (.ok directory) ↔
      directory.expandHome homes = .ok directory := by
  rw [pathOf_eq_ok, Coercion.Lawful.path_text]
  simp only [Except.ok.injEq, exists_eq_left', clean.ofText_text]

theorem pathIfGiven_toMembers (settled : settings.IsSettled) :
    pathIfGiven homes (Json.ofOption (fun path => .string path.text) settings.namesDirectory) =
        .ok (.ok settings.namesDirectory) ↔
      ∀ path ∈ settings.namesDirectory, path.expandHome homes = .ok path := by
  cases named : settings.namesDirectory with
  | none => exact iff_of_true rfl nofun
  | some directory =>
    simp only [pathIfGiven_eq_ok, Json.ofOption, Option.mem_some_iff, forall_eq',
      ← pathOf_text (settled.namesDirectory directory named)]
    simp

theorem baseUrlOf_stripped {url : String} (stripped : withoutTrailingSlashes url = url) :
    baseUrlOf (.string url) =
      if isWebAddress url then .ok url else .error [rejection "must be an http(s) URL"] := by
  rw [baseUrlOf, Coercion.Lawful.string_text]
  dsimp only
  rw [stripped]

theorem maxTilesOf_toMembers (room : ∀ bound ∈ settings.maxTiles, 1 ≤ bound) :
    maxTilesOf (Json.ofOption .int settings.maxTiles) = .ok settings.maxTiles := by
  have bounded := boundOf_of_settled room
  cases limit : settings.maxTiles with
  | none => rfl
  | some bound =>
    rw [limit] at bounded
    simp [maxTilesOf, nullable, Json.ofOption, Coercion.Lawful.int_whole, Except.map, bounded]

theorem ofMembers_toMembers (settled : settings.IsSettled) (placed : settings.IsPlaced homes) :
    ofMembers homes settings.toMembers =
      .ok (if isWebAddress settings.baseUrl then .ok settings else .error [addressIssue]) := by
  have timeout : positive float (.float settings.timeout) = .ok settings.timeout :=
    positive_eq_ok.mpr ⟨Coercion.Lawful.float_number _, settled.timeout⟩
  unfold ofMembers
  simp only [memberOf, toMembers, List.lookup, String.reduceBEq, Option.getD_some]
  rw [(pathOf_text settled.directory).mpr placed.directory,
    (pathIfGiven_toMembers settled).mpr placed.namesDirectory,
    baseUrlOf_stripped settled.baseUrl, maxTilesOf_toMembers settled.maxTiles, timeout]
  have known := surplus_toMembers settings
  unfold toMembers at known
  split_ifs <;> simp [ap, below, closed, known, Except.mapError, addressIssue, Issue.under]

/-- Settings are built again just if nothing is left to be put into their paths and their address is one
of the web. -/
theorem ofMembers_toMembers_eq_ok (settled : settings.IsSettled) :
    ofMembers homes settings.toMembers = .ok (.ok settings) ↔
      isWebAddress settings.baseUrl = true ∧ settings.IsPlaced homes := by
  constructor
  · intro again
    have taken := (ofMembers_eq_ok.mp again).1
    have directory := taken.directory
    have names := taken.namesDirectory
    obtain ⟨raw, read, web, -⟩ := baseUrlOf_eq_ok.mp taken.baseUrl
    simp only [memberOf, toMembers, List.lookup, String.reduceBEq, Option.getD_some] at directory names read
    rw [Coercion.Lawful.string_text, Except.ok.injEq] at read
    exact ⟨read ▸ web, (pathOf_text settled.directory).mp directory,
      (pathIfGiven_toMembers settled).mp names⟩
  · rintro ⟨web, placed⟩
    rw [ofMembers_toMembers settled placed, if_pos web]

end

/-! ### Settings from an environment -/

theorem lookup_membersOf {member variableName : String}
    (paired : (member, variableName) ∈ memberNames.zip variableNames) (environment : Environment) :
    (membersOf environment).lookup member = (setting? environment variableName).map Json.string := by
  have whole : membersOf environment = (memberNames.zip variableNames).filterMap fun row =>
      ((setting? environment row.2).map Json.string).map (row.1, ·) := by
    unfold membersOf
    congr 1
    funext row
    rw [Option.map_map]
    rfl
  rw [whole]
  exact lookup_filterMap (fun variableName => (setting? environment variableName).map Json.string)
    (by decide) paired

theorem lookup_base_url (environment : Environment) : (membersOf environment).lookup "base_url" =
    (setting? environment "SRTM_BASE_URL").map Json.string :=
  lookup_membersOf (by decide) environment

theorem exists_create {τ : Type} {bound : Option Int} (room : ∀ n ∈ bound, 1 ≤ n) :
    ∃ cache : Cache τ, Cache.create bound = .ok cache := by
  cases bound with
  | none => exact ⟨_, rfl⟩
  | some n =>
    have positive := room n rfl
    exact ⟨_, if_neg (by omega)⟩

/-- Whether the base address of an environment, if it sets one, goes on behind its scheme. -/
def SetsAddress (environment : Environment) : Prop :=
  ∀ url, setting? environment "SRTM_BASE_URL" = some url → Addresses url

section

variable [Coercion]

theorem ofEnvironment_eq_ok :
    ofEnvironment homes environment = .ok settings ↔
      ofMembers homes (membersOf environment) = .ok (.ok settings) := by
  unfold ofEnvironment
  split <;> simp [*]

variable [Coercion.Lawful]

theorem isWebAddress_iff_setsAddress (accepted : ofEnvironment homes environment = .ok settings) :
    isWebAddress settings.baseUrl = true ↔ SetsAddress environment := by
  have taken := (ofMembers_eq_ok.mp (ofEnvironment_eq_ok.mp accepted)).1
  obtain ⟨raw, read, web, stripped⟩ := baseUrlOf_eq_ok.mp taken.baseUrl
  rw [memberOf, lookup_base_url] at read
  cases given : setting? environment "SRTM_BASE_URL" with
  | none =>
    simp only [given, Option.map_none, Option.getD_none, Coercion.Lawful.string_text,
      Except.ok.injEq] at read
    rw [← stripped, ← read]
    exact iff_of_true (by decide +kernel) (by simp [SetsAddress, given])
  | some url =>
    simp only [given, Option.map_some, Option.getD_some, Coercion.Lawful.string_text,
      Except.ok.injEq] at read
    obtain rfl := read
    rw [← stripped, isWebAddress_withoutTrailingSlashes web, SetsAddress, given]
    simp

/-- Settings that an environment gives are built again from their own values just if the base address
that it sets has more than slashes behind its scheme, and nothing is left to be put into their paths, as
it is below absolute home directories; an address of slashes alone is refused then. Whatever environment
it is, the base address has no trailing slash, and a cache can be made for the bound. -/
theorem rebuilt_ofEnvironment (τ : Type) (accepted : ofEnvironment homes environment = .ok settings) :
    (ofMembers homes settings.toMembers = .ok (.ok settings) ↔
      SetsAddress environment ∧ settings.IsPlaced homes) ∧
    (homes.IsAbsolute → settings.IsPlaced homes) ∧
    (settings.IsPlaced homes → ¬ SetsAddress environment →
      ofMembers homes settings.toMembers = .ok (.error [addressIssue])) ∧
    (isWebAddress settings.baseUrl = true ↔ SetsAddress environment) ∧
    settings.baseUrl.toList.getLast? ≠ some '/' ∧
    (∀ bound ∈ settings.maxTiles, 1 ≤ bound) ∧
    ∃ cache : Cache τ, Cache.create settings.maxTiles = .ok cache := by
  have taken := (ofMembers_eq_ok.mp (ofEnvironment_eq_ok.mp accepted)).1
  have settled := taken.isSettled
  have web := isWebAddress_iff_setsAddress accepted
  refine ⟨?_, fun absolute => taken.isPlaced absolute, fun placed bare => ?_, web, ?_, settled.maxTiles,
    exists_create settled.maxTiles⟩
  · rw [ofMembers_toMembers_eq_ok settled, web]
  · rw [ofMembers_toMembers settled placed, if_neg (mt web.mp bare)]
  · rw [← settled.baseUrl]
    exact getLast?_withoutTrailingSlashes settings.baseUrl

end

open scoped Standin

/-- A directory under the home directory of another user, trailing slashes and a bound of zero. -/
def shelf : Environment :=
  [("SRTM_CACHE_DIR", "~grace/tiles"), ("SRTM_BASE_URL", "https://tiles.example/srtm//"),
    ("SRTM_CACHE_MAX_TILES", "0")]

/-- Two users, the first of whom asks. -/
def pair : Disk.Homes := fun user =>
  if user.isEmpty || user = "ada" then some "/home/ada"
  else if user = "grace" then some "/home/grace/" else none

theorem isAbsolute_pair : pair.IsAbsolute := by
  intro user home known
  unfold pair at known
  split_ifs at known
  · obtain rfl := Option.some.inj known
    decide +kernel
  · obtain rfl := Option.some.inj known
    decide +kernel

theorem rebuilt_ofEnvironment_shelf : ∃ settings, ofEnvironment pair shelf = .ok settings ∧
    settings.directory = ⟨"/", ["home", "grace", "tiles"]⟩ ∧
    settings.baseUrl = "https://tiles.example/srtm" ∧ settings.maxTiles = none ∧
    ofMembers pair settings.toMembers = .ok (.ok settings) := by
  have shown : ((ofEnvironment pair shelf).toOption.map fun settings =>
      (settings.directory, settings.baseUrl, settings.maxTiles)) =
        some (⟨"/", ["home", "grace", "tiles"]⟩, "https://tiles.example/srtm", none) := by
    decide +kernel
  cases accepted : ofEnvironment pair shelf with
  | error failure => simp [accepted, Except.toOption] at shown
  | ok settings =>
    simp only [accepted, Except.toOption, Option.map_some, Option.some.injEq, Prod.mk.injEq] at shown
    have sets : SetsAddress shelf := by
      rw [← isWebAddress_iff_setsAddress accepted, shown.2.1]
      decide +kernel
    obtain ⟨rebuilt, placed, -⟩ := rebuilt_ofEnvironment Unit accepted
    exact ⟨settings, rfl, shown.1, shown.2.1, shown.2.2, rebuilt.mpr ⟨sets, placed isAbsolute_pair⟩⟩

/-- An address of a scheme alone is accepted, and refused once its slashes are gone. -/
theorem bare_scheme_not_rebuilt :
    ∃ settings, ofEnvironment pair [("SRTM_BASE_URL", "http://")] = .ok settings ∧
      settings.baseUrl = "http:" ∧
      ofMembers pair settings.toMembers = .ok (.error [addressIssue]) := by
  have shown : ((ofEnvironment pair [("SRTM_BASE_URL", "http://")]).toOption.map
      Settings.baseUrl) = some "http:" := by
    decide +kernel
  cases accepted : ofEnvironment pair [("SRTM_BASE_URL", "http://")] with
  | error failure => simp [accepted, Except.toOption] at shown
  | ok settings =>
    have bare : settings.baseUrl = "http:" := by simpa [accepted, Except.toOption] using shown
    have taken := (ofMembers_eq_ok.mp (ofEnvironment_eq_ok.mp accepted)).1
    refine ⟨settings, rfl, bare, ?_⟩
    rw [ofMembers_toMembers taken.isSettled (taken.isPlaced isAbsolute_pair), bare,
      if_neg (by decide +kernel)]

end Settings

end Elevation
