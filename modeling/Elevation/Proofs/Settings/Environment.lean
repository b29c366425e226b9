import Elevation.Proofs.Settings.Variables

/-!
Settings from an environment. Each member depends on the text of its own variable alone, and on the home
directory of a user where a path begins with a tilde. If a text is refused, the failure names the first
variable with such a text; only a path below a home directory that is not to be found is a failure that
names none.
-/

namespace Elevation

namespace Settings

open Fields

theorem fillFrom_hole {plain : List Char} (text : ∀ c ∈ plain, c ≠ '\x7b' ∧ c ≠ '\x7d') (rest : List Char)
    (filler : String) (fillers : List String) :
    Wording.fillFrom false (plain ++ '\x7b' :: '\x7d' :: rest) (filler :: fillers) =
      plain ++ filler.toList ++ Wording.fillFrom false rest fillers := by
  induction plain with
  | nil => rfl
  | cons c plain ih =>
    obtain ⟨noOpening, noClosing⟩ := text c List.mem_cons_self
    rw [List.cons_append, Wording.fillFrom, if_neg noOpening, if_neg noClosing,
      if_neg Bool.false_ne_true, ih fun c present => text c (List.mem_cons_of_mem _ present)]
    rfl

theorem message_invalidSetting (raw setting reason : String) :
    (Failure.invalidSetting raw setting reason).message =
      "Invalid value '" ++ raw ++ "' for " ++ setting ++ ": " ++ reason := by
  have holes : Wording.invalidSetting.toList = "Invalid value '".toList ++ '\x7b' :: '\x7d' ::
      ("' for ".toList ++ '\x7b' :: '\x7d' :: (": ".toList ++ '\x7b' :: '\x7d' :: [])) := by
    decide +kernel
  have filled : (Failure.invalidSetting raw setting reason).message =
      String.ofList (Wording.fillFrom false Wording.invalidSetting.toList [raw, setting, reason]) := rfl
  rw [filled, holes, fillFrom_hole (by simp), fillFrom_hole (by simp), fillFrom_hole (by simp),
    Wording.fillFrom, ← String.toList_inj]
  simp only [String.toList_ofList, String.toList_append, List.append_nil, List.append_assoc]

theorem setting?_cons_empty (environment : Environment) (name other : String) :
    setting? ((name, "") :: environment) other =
      setting? (environment.filter fun row => row.1 ≠ name) other := by
  unfold setting?
  rw [lookup_cons_eq_ite, lookup_filter_ne]
  by_cases same : other = name
  · rw [if_pos same, if_pos same]
    rfl
  · rw [if_neg same, if_neg same]

/-- The failure for issues that begin with one of a variable names the variable and its text. -/
theorem failureOf_under {environment : Environment} {v : Variable} {raw : String} {issue : Issue}
    {rest : List Issue} (given : setting? environment v.name = some raw) :
    failureOf environment (issue.under v.member :: rest) = .invalidSetting raw v.name issue.message := by
  simp only [failureOf, Issue.under, List.headD_cons, v.lookup_member, Option.getD_some, given]

/-- What a member is read as comes of the text of its variable, or is the usual value. -/
theorem Variable.elim_of_value {environment : Environment} {v : Variable} {τ : Type}
    {read : Json → Checked τ} {x usual : τ} {comes : String → Prop}
    (accepted : read (v.value environment) = .ok x) (otherwise : read v.usual = .ok usual)
    (step : ∀ raw, read (.string raw) = .ok x → comes raw) :
    (setting? environment v.name).elim (x = usual) comes := by
  unfold Variable.value at accepted
  cases given : setting? environment v.name with
  | none =>
    rw [given, Option.elim_none, otherwise] at accepted
    exact (Except.ok.inj accepted).symm
  | some raw =>
    rw [given, Option.elim_some] at accepted
    exact step raw accepted

section

variable [Coercion] {homes : Disk.Homes} {environment : Environment} {settings : Settings}

/-! ### The first refused text -/

structure Variable.IsFirst (homes : Disk.Homes) (environment : Environment) (v : Variable) (raw : String)
    (issue : Issue) : Prop where
  given : setting? environment v.name = some raw
  refused : (v.issues homes raw).head? = some issue
  earlier : ∃ earlier later, Variable.all = earlier ++ v :: later ∧
    ∀ u ∈ earlier, ∀ text, setting? environment u.name = some text → u.issues homes text = []

structure IsBlamed (homes : Disk.Homes) (environment : Environment) (v : Variable) (raw : String) :
    Prop where
  given : setting? environment v.name = some raw
  refused : ¬ v.Accepts homes raw
  earlier : ∃ earlier later, Variable.all = earlier ++ v :: later ∧
    ∀ u ∈ earlier, ∀ text, setting? environment u.name = some text → u.Accepts homes text

/-- Settings with each member from its own variable; paths have their home directory put in. -/
structure IsFrom (homes : Disk.Homes) (environment : Environment) (settings : Settings) : Prop where
  directory : (Disk.Path.ofText ((setting? environment Variable.directory.name).getD
    Provider.defaultDirectory)).expandHome homes = .ok settings.directory
  baseUrl : settings.baseUrl =
    ((setting? environment Variable.baseUrl.name).map withoutTrailingSlashes).getD Provider.defaultBaseUrl
  maxTiles : (setting? environment Variable.maxTiles.name).elim
    (settings.maxTiles = some defaultMaxTiles) fun raw =>
      ∃ bound, int (.string raw) = .ok bound ∧ settings.maxTiles = if bound = 0 then none else some bound
  namesDirectory : (setting? environment Variable.namesDirectory.name).elim (settings.namesDirectory = none)
    fun raw => ∃ path, (Disk.Path.ofText raw).expandHome homes = .ok path ∧
      settings.namesDirectory = some path
  timeout : (setting? environment Variable.timeout.name).elim (settings.timeout = Transfer.defaultTimeout)
    fun raw => float (.string raw) = .ok settings.timeout

theorem not_lost_of_accepts (usual : setting? environment Variable.directory.name = none →
      ∃ path, (Disk.Path.ofText Provider.defaultDirectory).expandHome homes = .ok path)
    (accepts : ∀ (v : Variable) (raw : String), setting? environment v.name = some raw →
      v.Accepts homes raw) : ¬ Lost homes environment := by
  rintro ⟨path, named, missing⟩
  have known : ∃ expanded, path.expandHome homes = .ok expanded := by
    rcases List.mem_cons.mp named with rfl | other
    · cases given : setting? environment Variable.directory.name with
      | none => exact usual given
      | some raw => exact accepts .directory raw given
    · obtain ⟨raw, given, rfl⟩ := Option.map_eq_some_iff.mp (Option.mem_toList.mp other)
      exact accepts .namesDirectory raw given
  obtain ⟨expanded, found⟩ := known
  rw [missing] at found
  cases found

theorem expanded_congr {residents : Disk.Homes} {raw : String} (alike : ∀ user,
    (Disk.Path.ofText raw).user? = some user → residents user = homes user) :
    expanded residents raw = expanded homes raw := by
  rw [expanded, expanded, Disk.Path.expandHome_congr alike]

theorem readIn_congr {other : Environment} {residents : Disk.Homes}
    (texts : ∀ v : Variable, setting? other v.name = setting? environment v.name)
    (neighbours : ∀ path ∈ pathsIn environment, ∀ user, path.user? = some user →
      residents user = homes user) : readIn residents other = readIn homes environment := by
  have values (v : Variable) : v.value other = v.value environment := by
    rw [Variable.value, Variable.value, texts]
  have directory := expanded_congr (neighbours _ List.mem_cons_self)
  have names : namesIn residents other = namesIn homes environment := by
    rw [namesIn, namesIn, texts]
    cases given : setting? environment Variable.namesDirectory.name with
    | none => rfl
    | some raw =>
      rw [Option.elim_some, Option.elim_some, expanded_congr]
      exact neighbours _ (List.mem_cons_of_mem _ (by rw [given]; exact List.mem_singleton_self _))
  rw [readIn, readIn, texts, directory, names, values, values, values]

variable [Coercion.Lawful]

theorem exists_isFirst (homed : ¬ Lost homes environment) {issues : List Issue}
    (refused : readIn homes environment = .error issues) :
    ∃ v raw issue rest, Variable.IsFirst homes environment v raw issue ∧
      issues = issue.under v.member :: rest := by
  have honest := honest_readIn homes environment
  have whole := issuesOf_readIn homed
  rw [refused] at honest whole
  obtain ⟨first, rest, rfl⟩ := List.exists_cons_of_ne_nil (honest_error.mp honest)
  obtain ⟨before, more, after, cut, none, -⟩ := List.flatten_eq_cons_iff.mp whole.symm
  obtain ⟨earlier, others, order, rfl, cut'⟩ := List.map_eq_append_iff.mp cut
  obtain ⟨v, later, rfl, found, -⟩ := List.map_eq_cons_iff.mp cut'
  have silent : ∀ u ∈ earlier, ∀ text, setting? environment u.name = some text →
      u.issues homes text = [] := by
    intro u listed text given
    have nothing := none _ (List.mem_map_of_mem listed)
    rwa [Variable.issuesIn, given, Option.elim_some, List.map_eq_nil_iff] at nothing
  cases given : setting? environment v.name with
  | none => simp [Variable.issuesIn, given] at found
  | some raw =>
    rw [Variable.issuesIn, given, Option.elim_some, List.map_eq_cons_iff] at found
    obtain ⟨issue, others, blamed, rfl, -⟩ := found
    exact ⟨v, raw, issue, rest, ⟨given, by rw [blamed, List.head?_cons], earlier, later, order, silent⟩, rfl⟩

theorem Variable.IsFirst.isBlamed {v : Variable} {raw : String} {issue : Issue}
    (first : v.IsFirst homes environment raw issue) : IsBlamed homes environment v raw where
  given := first.given
  refused := by
    rw [Variable.accepts_iff]
    intro none
    have refused := first.refused
    rw [none] at refused
    cases refused
  earlier := by
    obtain ⟨earlier, later, order, silent⟩ := first.earlier
    exact ⟨earlier, later, order, fun u listed text given =>
      Variable.accepts_iff.mpr (silent u listed text given)⟩

/-! ### Outcomes -/

theorem ofEnvironment_of_lost (lost : Lost homes environment) :
    ofEnvironment homes environment = .error (.homeless .unknown) := by
  rw [ofEnvironment, ofMembers_of_lost lost]

theorem ofEnvironment_of_homed (homed : ¬ Lost homes environment) : ofEnvironment homes environment =
    (readIn homes environment).mapError (failureOf environment) := by
  rw [ofEnvironment, ofMembers_membersOf homed]
  cases readIn homes environment <;> rfl

theorem ofEnvironment_eq_error {failure : Failure} (homed : ¬ Lost homes environment)
    (failed : ofEnvironment homes environment = .error failure) :
    ∃ v raw reason, IsBlamed homes environment v raw ∧ v.reason? homes raw = some reason ∧
      failure = .invalidSetting raw v.name reason := by
  rw [ofEnvironment_of_homed homed, mapError_eq_error] at failed
  obtain ⟨issues, refused, rfl⟩ := failed
  obtain ⟨v, raw, issue, rest, first, rfl⟩ := exists_isFirst homed refused
  exact ⟨v, raw, issue.message, first.isBlamed, by rw [Variable.reason?, first.refused, Option.map_some],
    failureOf_under first.given⟩

theorem isFrom_of_ofEnvironment (accepted : ofEnvironment homes environment = .ok settings) :
    IsFrom homes environment settings := by
  have homed : ¬ Lost homes environment := by
    intro lost
    rw [ofEnvironment_of_lost lost] at accepted
    cases accepted
  rw [ofEnvironment_of_homed homed, mapError_eq_ok] at accepted
  simp only [readIn, ap_eq_ok, below_eq_ok] at accepted
  obtain ⟨_, timeout, ⟨_, names, ⟨_, tiles, ⟨_, url, ⟨_, directory, made, first, rfl⟩, second, rfl⟩,
    third, rfl⟩, fourth, rfl⟩, fifth, rfl⟩ := accepted
  obtain rfl := Except.ok.inj made
  constructor
  case directory => exact expanded_eq_ok.mp first
  case baseUrl =>
    change url = _
    have stripped : (setting? environment Variable.baseUrl.name).elim (url = Provider.defaultBaseUrl)
        fun raw => url = withoutTrailingSlashes raw := by
      refine Variable.elim_of_value second baseUrlOf_default fun raw read => ?_
      rw [baseUrlOf_string, ite_eq_iff] at read
      obtain ⟨-, stripped⟩ | ⟨-, ⟨⟩⟩ := read
      exact (Except.ok.inj stripped).symm
    cases given : setting? environment Variable.baseUrl.name with
    | none => rwa [given] at stripped
    | some raw => rwa [given] at stripped
  case maxTiles =>
    refine Variable.elim_of_value third maxTilesOf_default fun raw read => ?_
    obtain ⟨bound, parsed, -, limit⟩ := maxTilesOf_eq_ok.mp read
    exact ⟨bound, parsed, limit⟩
  case namesDirectory =>
    unfold namesIn at fourth
    cases given : setting? environment Variable.namesDirectory.name with
    | none =>
      rw [given] at fourth
      exact (Except.ok.inj fourth).symm
    | some raw =>
      rw [given] at fourth
      obtain ⟨path, found, some⟩ := map_eq_ok.mp fourth
      exact ⟨path, expanded_eq_ok.mp found, some.symm⟩
  case timeout =>
    exact Variable.elim_of_value fifth positive_default fun raw read => (positive_eq_ok.mp read).1

/-! ### Success -/

theorem exists_readIn_iff (homed : ¬ Lost homes environment) :
    (∃ settings, readIn homes environment = .ok settings) ↔
      ∀ (v : Variable) (raw : String), setting? environment v.name = some raw → v.Accepts homes raw := by
  rw [exists_ok_iff (honest_readIn homes environment), issuesOf_readIn homed, List.flatMap_eq_nil_iff]
  simp only [Variable.accepts_iff]
  constructor
  · intro silent v raw given
    have nothing := silent v v.mem_all
    rwa [Variable.issuesIn, given, Option.elim_some, List.map_eq_nil_iff] at nothing
  · intro silent v _
    rw [Variable.issuesIn, List.map_eq_nil_iff]
    cases given : setting? environment v.name with
    | none => rfl
    | some raw => exact silent v raw given

theorem exists_ofEnvironment_iff : (∃ settings, ofEnvironment homes environment = .ok settings) ↔
    (setting? environment Variable.directory.name = none →
      ∃ path, (Disk.Path.ofText Provider.defaultDirectory).expandHome homes = .ok path) ∧
    ∀ (v : Variable) (raw : String), setting? environment v.name = some raw → v.Accepts homes raw := by
  by_cases lost : Lost homes environment
  · refine iff_of_false (by simp [ofEnvironment_of_lost lost]) fun ⟨usual, accepts⟩ => ?_
    exact not_lost_of_accepts usual accepts lost
  · have usual (unset : setting? environment Variable.directory.name = none) :
        ∃ path, (Disk.Path.ofText Provider.defaultDirectory).expandHome homes = .ok path := by
      obtain ⟨path, found⟩ := exists_expanded_default lost unset
      exact ⟨path, expanded_eq_ok.mp found⟩
    rw [and_iff_right usual, ← exists_readIn_iff lost, ofEnvironment_of_homed lost]
    simp only [mapError_eq_ok]

/-! ### What settings depend on -/

theorem ofEnvironment_congr {other : Environment} {residents : Disk.Homes}
    (texts : ∀ v : Variable, setting? other v.name = setting? environment v.name)
    (neighbours : ∀ path ∈ pathsIn environment, ∀ user, path.user? = some user →
      residents user = homes user) : ofEnvironment residents other = ofEnvironment homes environment := by
  have paths : pathsIn other = pathsIn environment := by
    rw [pathsIn, pathsIn, texts, texts]
  have lost_iff : Lost residents other ↔ Lost homes environment := by
    unfold Lost
    rw [paths]
    refine exists_congr fun path => and_congr_right fun named => ?_
    rw [Disk.Path.expandHome_congr (neighbours path named)]
  by_cases lost : Lost homes environment
  · rw [ofEnvironment_of_lost lost, ofEnvironment_of_lost (lost_iff.mpr lost)]
  · rw [ofEnvironment_of_homed lost, ofEnvironment_of_homed (mt lost_iff.mp lost),
      readIn_congr texts neighbours]
    cases read : readIn homes environment with
    | ok settings => rfl
    | error issues =>
      obtain ⟨v, raw, issue, rest, first, rfl⟩ := exists_isFirst lost read
      change Except.error (failureOf other _) = .error (failureOf environment _)
      rw [failureOf_under first.given, failureOf_under ((texts v).trans first.given)]

theorem ofEnvironment_homesOf (accounts : Disk.Homes) {other : Environment}
    (texts : ∀ v : Variable, setting? other v.name = setting? environment v.name)
    (home : other.lookup "HOME" = environment.lookup "HOME" ∨
      ∀ path ∈ pathsIn environment, path.user? ≠ some "") :
    ofEnvironment (homesOf accounts other) other = ofEnvironment (homesOf accounts environment) environment := by
  refine ofEnvironment_congr texts fun path named user tilde => ?_
  unfold homesOf
  rcases home with same | foreign
  · rw [same]
  · have other : ¬ user.isEmpty = true := by
      rw [String.isEmpty_iff]
      rintro rfl
      exact foreign path named tilde
    rw [if_neg other, if_neg other]

/-- What an environment gives depends on nothing but the texts of the five variables, and on the home
directories of those users by whose names its paths begin, each behind a tilde; one's own is where the
environment says, for a tilde without a name. An empty variable is as good as none. It gives settings
exactly if each text is acceptable for its variable, and each member then comes from its own variable.
Otherwise the failure names the first variable with a text that is not acceptable, and that text; only a
path below a home directory that is not to be found comes to a failure that names neither. -/
theorem ofEnvironment_blames (homes : Disk.Homes) (environment : Environment) :
    (∀ (other : Environment) (residents : Disk.Homes),
      (∀ v : Variable, setting? other v.name = setting? environment v.name) →
      (∀ path ∈ pathsIn environment, ∀ user, path.user? = some user → residents user = homes user) →
        ofEnvironment residents other = ofEnvironment homes environment) ∧
    (∀ (accounts : Disk.Homes) (other : Environment),
      (∀ v : Variable, setting? other v.name = setting? environment v.name) →
      (other.lookup "HOME" = environment.lookup "HOME" ∨
        ∀ path ∈ pathsIn environment, path.user? ≠ some "") →
        ofEnvironment (homesOf accounts other) other =
          ofEnvironment (homesOf accounts environment) environment) ∧
    (∀ v : Variable, ofEnvironment homes ((v.name, "") :: environment) =
      ofEnvironment homes (environment.filter fun row => row.1 ≠ v.name)) ∧
    ((∃ settings, ofEnvironment homes environment = .ok settings) ↔
      (setting? environment Variable.directory.name = none →
        ∃ path, (Disk.Path.ofText Provider.defaultDirectory).expandHome homes = .ok path) ∧
      ∀ (v : Variable) (raw : String), setting? environment v.name = some raw → v.Accepts homes raw) ∧
    (∀ settings, ofEnvironment homes environment = .ok settings → IsFrom homes environment settings) ∧
    ∀ failure, ofEnvironment homes environment = .error failure →
      Lost homes environment ∧ failure = .homeless .unknown ∨
      ¬ Lost homes environment ∧ failure.kind = "ConfigurationError" ∧
        ∃ v raw reason, IsBlamed homes environment v raw ∧ v.reason? homes raw = some reason ∧
          failure.message = "Invalid value '" ++ raw ++ "' for " ++ v.name ++ ": " ++ reason := by
  refine ⟨fun other residents => ofEnvironment_congr, fun accounts other => ofEnvironment_homesOf accounts,
    fun v => ofEnvironment_congr (fun u => setting?_cons_empty environment v.name u.name) fun _ _ _ _ => rfl,
    exists_ofEnvironment_iff, fun settings accepted => isFrom_of_ofEnvironment accepted,
    fun failure failed => ?_⟩
  by_cases lost : Lost homes environment
  · rw [ofEnvironment_of_lost lost, Except.error.injEq] at failed
    exact .inl ⟨lost, failed.symm⟩
  · obtain ⟨v, raw, reason, blamed, stated, rfl⟩ := ofEnvironment_eq_error lost failed
    exact .inr ⟨lost, rfl, v, raw, reason, blamed, stated, message_invalidSetting raw v.name reason⟩

end

open scoped Standin

/-- Two texts that are not acceptable behind one that is, and an empty one. -/
def jumble : Environment :=
  [("SRTM_DOWNLOAD_TIMEOUT", "0"), ("SRTM_BASE_URL", ""), ("SRTM_CACHE_MAX_TILES", "-1"),
    ("SRTM_CACHE_DIR", "~grace/tiles")]

theorem ofEnvironment_blames_jumble : ∃ failure, ofEnvironment pair jumble = .error failure ∧
    failure.kind = "ConfigurationError" ∧
    failure.message = "Invalid value '-1' for SRTM_CACHE_MAX_TILES: Value error, must be >= 0" := by
  obtain ⟨-, -, -, accepts, -, blames⟩ := ofEnvironment_blames pair jumble
  have parsed : int (.string "-1") = .ok (-1) := rfl
  have refused : ¬ Variable.maxTiles.Accepts pair "-1" := by
    rintro ⟨bound, read, room⟩
    obtain rfl := Except.ok.inj (parsed.symm.trans read)
    exact absurd room (by decide)
  have homed : (Disk.Path.ofText "~grace/tiles").expandHome pair =
      .ok ⟨"/", ["home", "grace", "tiles"]⟩ := by
    decide +kernel
  cases outcome : ofEnvironment pair jumble with
  | ok settings => exact absurd ((accepts.mp ⟨settings, outcome⟩).2 .maxTiles "-1" rfl) refused
  | error failure =>
    obtain ⟨⟨path, named, missing⟩, -⟩ | ⟨-, kind, v, raw, reason, ⟨given, bad, earlier, later, order, good⟩,
      stated, message⟩ := blames failure outcome
    · obtain rfl := List.mem_singleton.mp named
      cases homed.symm.trans missing
    · refine ⟨failure, rfl, kind, message.trans ?_⟩
      cases v with
      | directory =>
        obtain rfl := Option.some.inj given
        exact absurd ⟨_, homed⟩ bad
      | baseUrl => cases given
      | maxTiles =>
        obtain rfl := Option.some.inj given
        obtain rfl := Option.some.inj stated
        rfl
      | namesDirectory => cases given
      | timeout =>
        have before : Variable.maxTiles ∈ earlier := by
          rcases earlier with _ | ⟨_, _ | ⟨_, _ | ⟨_, rest⟩⟩⟩ <;> simp_all [Variable.all]
        exact absurd (good .maxTiles before "-1" rfl) refused

/-- A directory below the home directory of a user who is not known is not acceptable, but the failure
does not name its variable. -/
theorem foreign_home_not_named :
    ¬ Variable.directory.Accepts pair "~nosuchuser/tiles" ∧
      ofEnvironment pair [("SRTM_CACHE_DIR", "~nosuchuser/tiles")] = .error (.homeless .unknown) ∧
      (Failure.homeless .unknown).kind = "RuntimeError" := by
  have missing : (Disk.Path.ofText "~nosuchuser/tiles").expandHome pair = .error .unknown := by
    decide +kernel
  refine ⟨?_, ofEnvironment_of_lost ⟨_, List.mem_cons_self, missing⟩, rfl⟩
  rintro ⟨path, found⟩
  cases missing.symm.trans found

end Settings

end Elevation
