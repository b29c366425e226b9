import Elevation.Proofs.Provider.Batch
import Elevation.Proofs.Provider.Foreseen
import Elevation.Proofs.Tile.Summaries
import Elevation.Session.Basic
import Elevation.Standin.Basic

/-!
Points asked for together and one by one. A batch gives the answers that its points would get alone,
in their order, and its summary is made of these; it ends at the first point that would fail alone,
and takes no notice of those behind.
-/

namespace Elevation

open Provider (Answers Ready Steady Query foreseenTile foreseenHeight held_ok)

/-! ### Requests -/

namespace Report

section

variable {α : Type} {places : List (Place α)} {points : List (List α)}

def pair (place : Place α) : List α := [place.lon, place.lat]

theorem pair_injective : Function.Injective (pair : Place α → List α) := by
  rintro ⟨lat, lon⟩ ⟨lat', lon'⟩ same
  cases same
  rfl

def IsWrong (points : List (List α)) : Prop :=
  points = [] ∨ 1000 < points.length ∨ ∃ point ∈ points, point.length ≠ 2

theorem exists_places (right : ¬ IsWrong points) :
    ∃ places : List (Place α), points = places.map pair := by
  have paired : ∀ point ∈ points, point.length = 2 := by
    intro point present
    by_contra odd
    exact right (Or.inr (Or.inr ⟨point, present, odd⟩))
  clear right
  induction points with
  | nil => exact ⟨[], rfl⟩
  | cons first rest ih =>
    obtain ⟨places, rfl⟩ := ih fun point present => paired point (List.mem_cons_of_mem _ present)
    obtain ⟨lon, lat, rfl⟩ := List.length_eq_two.mp (paired first List.mem_cons_self)
    exact ⟨⟨lat, lon⟩ :: places, rfl⟩

variable [Scalar α]

theorem placesOf_map_pair (places : List (Place α)) : placesOf (places.map pair) = .ok places := by
  induction places with
  | nil => rfl
  | cons place rest ih =>
    rw [List.map_cons, pair, placesOf, ih]
    rfl

theorem placesOf_of_length_ne {point : List α} (present : point ∈ points) (odd : point.length ≠ 2) :
    ∃ text, placesOf points = .error (.invalidPoint text) := by
  induction points with
  | nil => cases present
  | cons first rest ih =>
    by_cases paired : first.length = 2
    · obtain ⟨lon, lat, rfl⟩ := List.length_eq_two.mp paired
      have later : point ∈ rest := by
        rcases List.mem_cons.mp present with rfl | later
        · exact absurd rfl odd
        · exact later
      obtain ⟨text, failed⟩ := ih later
      exact ⟨text, by rw [placesOf, failed]; rfl⟩
    · refine ⟨numbersText first, ?_⟩
      unfold placesOf
      split
      next same => cases same
      next same =>
        cases same
        exact absurd rfl paired
      next same =>
        cases same
        rfl

theorem validPlaces_of_isWrong (wrong : IsWrong points) :
    ∃ failure, validPlaces points = .error failure ∧ failure.kind = "ValueError" := by
  unfold validPlaces
  by_cases vacant : points = []
  · exact ⟨.noPoints, by rw [vacant]; rfl, rfl⟩
  · rw [if_neg (by simpa using vacant)]
    by_cases many : mostPoints < points.length
    · exact ⟨_, if_pos many, rfl⟩
    · rw [if_neg many]
      obtain ⟨point, present, odd⟩ := (wrong.resolve_left vacant).resolve_left many
      obtain ⟨text, failed⟩ := placesOf_of_length_ne present odd
      exact ⟨_, failed, rfl⟩

theorem validPlaces_map_pair (some : places ≠ []) (few : places.length ≤ 1000) :
    validPlaces (places.map pair) = .ok places := by
  unfold validPlaces
  rw [if_neg (by simpa using some), if_neg (by simpa [mostPoints] using few), placesOf_map_pair]

end

/-! ### Summaries -/

def summaryOf (points : List Point) : Points where
  heights := points.map Point.height
  range := ((points.filterMap Point.height).min?.getD 0, (points.filterMap Point.height).max?.getD 0)
  voidCount := points.countP fun point => point.height.isNone
  tiles := (points.map Point.tile).eraseDups

theorem eraseDups_filter {β : Type} [BEq β] [LawfulBEq β] (p : β → Bool) :
    ∀ xs : List β, (xs.filter p).eraseDups = xs.eraseDups.filter p
  | [] => by simp
  | x :: rest => by
    have later := eraseDups_filter p (rest.filter fun y => !y == x)
    rw [List.filter_filter] at later
    rw [List.eraseDups_cons, List.filter_cons, List.filter_cons, ← later]
    by_cases kept : p x = true
    · rw [if_pos kept, if_pos kept, List.eraseDups_cons, List.filter_filter]
      simp only [Bool.and_comm]
    · rw [if_neg kept, if_neg kept]
      congr 1
      apply List.filter_congr
      intro y _
      by_cases same : y = x <;> simp [same, kept]
termination_by xs => xs.length
decreasing_by exact Nat.lt_succ_of_le (List.length_filter_le _ _)

section

variable {σ α : Type} [Scalar α] [Machine] {provider : Provider σ} {world : World σ} {dir : Disk.Place}
  {reply : String → Except Disk.Refusal Unit → Transfer.Delivery}
  {offer : String → Cell → Except Failure ByteArray} {place : Place α} {places : List (Place α)}
  {point : Point} {points : List Point}

/-- The answer to a query of one point, from a table of archives. -/
def foreseenPoint (provider : Provider σ) (offer : String → Cell → Except Failure ByteArray)
    (place : Place α) : Except Failure Point :=
  (foreseenHeight provider offer place).bind fun height => place.name.map (⟨height, ·⟩)

theorem held_of_foreseenHeight {height : Option Int}
    (answered : foreseenHeight provider offer place = .ok height) :
    ∃ row, Provider.held provider place = .ok row := by
  unfold foreseenHeight foreseenTile at answered
  cases found : Provider.held provider place with
  | error failure =>
    rw [found] at answered
    cases answered
  | ok row => exact ⟨row, rfl⟩

variable [Scalar.Grounded α]

theorem foreseenPoint_of_height {height : Option Int}
    (answered : foreseenHeight provider offer place = .ok height) :
    ∃ cell, place.cell = .ok cell ∧ Provider.IsKeyed cell ∧
      foreseenPoint provider offer place = .ok ⟨height, cell.name⟩ := by
  obtain ⟨⟨partition, cell⟩, found⟩ := held_of_foreseenHeight answered
  obtain ⟨-, located, keyed, -⟩ := held_ok found
  refine ⟨cell, located, keyed, ?_⟩
  rw [foreseenPoint, answered, Place.name, located]
  rfl

theorem foreseenHeight_eq_map (place : Place α) :
    foreseenHeight provider offer place = (foreseenPoint provider offer place).map Point.height := by
  cases answered : foreseenHeight provider offer place with
  | error failure => rw [foreseenPoint, answered]; rfl
  | ok height =>
    obtain ⟨cell, -, -, point⟩ := foreseenPoint_of_height answered
    rw [point]
    rfl

theorem cell_of_foreseenPoint (answered : foreseenPoint provider offer place = .ok point) :
    ∃ cell, place.cell = .ok cell ∧ Provider.IsKeyed cell ∧ cell.name = point.tile := by
  have height : foreseenHeight provider offer place = .ok point.height := by
    rw [foreseenHeight_eq_map, answered]
    rfl
  obtain ⟨cell, located, keyed, named⟩ := foreseenPoint_of_height height
  have same := Except.ok.inj (answered.symm.trans named)
  exact ⟨cell, located, keyed, (congrArg Point.tile same).symm⟩

theorem cellsOf_names (found : List.Forall₂ (fun place point => foreseenPoint provider offer place = .ok point)
      places points) : ∃ cells, cellsOf places = .ok cells ∧ (∀ cell ∈ cells, Provider.IsKeyed cell) ∧
    cells.map Cell.name = (points.map Point.tile).eraseDups := by
  induction found with
  | nil => exact ⟨[], rfl, by simp, by simp⟩
  | @cons place point places points first _ ih =>
    obtain ⟨cell, located, keyed, named⟩ := cell_of_foreseenPoint first
    obtain ⟨cells, others, keyed', names⟩ := ih
    refine ⟨cell :: cells.filter (·.key ≠ cell.key), ?_, ?_, ?_⟩
    · rw [cellsOf, located, others]
      rfl
    · intro other present
      rcases List.mem_cons.mp present with rfl | present'
      · exact keyed
      · exact keyed' other (List.mem_filter.mp present').1
    · -- Keys tell cells apart as names do.
      have apart : cells.filter (·.key ≠ cell.key) = cells.filter fun other => !other.name == cell.name := by
        apply List.filter_congr
        intro other present
        have told : other.key ≠ cell.key ↔ other.name ≠ cell.name :=
          not_congr ⟨fun same => congrArg Cell.name (Cell.key_injective (keyed' other present) keyed same),
            fun same => congrArg Cell.key (Cell.name_injective same)⟩
        by_cases same : other.name = cell.name <;> simp [told, same]
      rw [List.map_cons, List.map_cons, List.eraseDups_cons, eraseDups_filter, ← names, ← named, apart,
        List.filter_map]
      rfl

theorem summarize_eq {heights : List (Option Int)}
    (found : List.Forall₂ (fun place point => foreseenPoint provider offer place = .ok point) places points)
    (read : heights = points.map Point.height) :
    Points.summarize places heights = .ok (summaryOf points) := by
  obtain ⟨cells, located, -, names⟩ := cellsOf_names found
  unfold Points.summarize summaryOf
  rw [located, read, Tile.rangeOf_eq, List.filterMap_map, List.countP_map, ← names]
  rfl

/-- A batch gives what its points would give one by one. -/
theorem queryPlaces_eq (steady : Steady provider reply offer dir world.disk)
    (answers : Answers provider.downloader reply) (places : List (Place α)) :
    (queryPlaces provider places world).1 =
      (places.mapM (foreseenPoint provider offer)).map summaryOf := by
  have read := (steady.heightsAt answers places).1
  have heights : foreseenHeight provider offer =
      fun place : Place α => (foreseenPoint provider offer place).map Point.height :=
    funext foreseenHeight_eq_map
  rw [heights, mapM_map] at read
  unfold queryPlaces
  generalize provider.heightsAt places world = outcome at read ⊢
  obtain ⟨result, next, world'⟩ := outcome
  simp only at read
  subst read
  cases found : places.mapM (foreseenPoint provider offer) with
  | error failure => rfl
  | ok points => exact summarize_eq (mapM_eq_ok.mp found) rfl

theorem queryPlace_eq (steady : Steady provider reply offer dir world.disk)
    (answers : Answers provider.downloader reply) (place : Place α) :
    (queryPlace provider place world).1 = foreseenPoint provider offer place := by
  have read := (steady.heightAt answers place).1
  rw [foreseenPoint, ← read]
  unfold queryPlace
  rcases provider.heightAt place world with ⟨failure | height, next, world'⟩ <;> rfl

end

/-! ### Batches that fail -/

section

variable {σ α : Type} [Scalar α] [Machine] {provider : Provider σ} {world : World σ}
  {front : List (Place α)} {failure : Failure}

theorem heightsAt_append_of_error (failed : (provider.heightsAt front world).1 = .error failure)
    (rest : List (Place α)) :
    provider.heightsAt (front ++ rest) world = provider.heightsAt front world := by
  induction front generalizing provider world with
  | nil => cases failed
  | cons place front ih =>
    rw [Provider.heightsAt] at failed
    rw [List.cons_append, Provider.heightsAt, Provider.heightsAt]
    generalize provider.heightAt place world = outcome at failed ⊢
    obtain ⟨failure' | height, next, world'⟩ := outcome
    · rfl
    · simp only at failed ⊢
      rw [ih]
      generalize next.heightsAt front world' = outcome at failed ⊢
      obtain ⟨failure' | heights, last⟩ := outcome
      · exact failed
      · cases failed

theorem queryPlaces_append_of_error (failed : (provider.heightsAt front world).1 = .error failure)
    (rest : List (Place α)) :
    queryPlaces provider (front ++ rest) world = queryPlaces provider front world := by
  have read : ∃ outcome, provider.heightsAt front world = (.error failure, outcome) :=
    ⟨_, Prod.ext failed rfl⟩
  obtain ⟨outcome, read⟩ := read
  rw [queryPlaces, queryPlaces, heightsAt_append_of_error failed, read]

end

end Report

/-! ### Sessions -/

namespace Session

open Report

section

variable {σ α : Type} [Scalar α] [Fields.Coercion] [Machine] {session : Session σ}
  {provider : Provider σ} {world opened : World σ} {places : List (Place α)} {points : List (List α)}

theorem queryPlace_fst (prepared : session.ready world = (.ok provider, opened)) (place : Place α) :
    (session.queryPlace place world).1 = (Report.queryPlace provider place opened).1 := by
  unfold queryPlace run
  rw [prepared]

theorem queryPoints_of_places (prepared : session.ready world = (.ok provider, opened))
    (valid : validPlaces points = .ok places) :
    session.queryPoints points world =
      ((queryPlaces provider places opened).1,
        { session with provider := some (queryPlaces provider places opened).2.1 },
        (queryPlaces provider places opened).2.2) := by
  unfold queryPoints run
  rw [valid, prepared]

/-- What a session answers to some points at once is what it answers to each of them. -/
structure Agrees (session : Session σ) (world : World σ) (places : List (Place α)) : Prop where
  returns_iff : (∃ summary, (session.queryPoints (places.map pair) world).1 = .ok summary) ↔
    ∀ place ∈ places, ∃ point, (session.queryPlace place world).1 = .ok point
  summary : ∀ summary, (session.queryPoints (places.map pair) world).1 = .ok summary → ∃ points,
    List.Forall₂ (fun place point => (session.queryPlace place world).1 = .ok point) places points ∧
      summary = summaryOf points
  /-- The points behind the first one that fails are as if they had not been asked for. -/
  fails : ∀ before place rest failure, places = before ++ place :: rest →
    (∀ earlier ∈ before, ∃ point, (session.queryPlace earlier world).1 = .ok point) →
    (session.queryPlace place world).1 = .error failure →
      (session.queryPoints (places.map pair) world).1 = .error failure ∧
        session.queryPoints (places.map pair) world =
          session.queryPoints ((before ++ [place]).map pair) world

variable [Scalar.Grounded α] {dir : Disk.Place}
  {reply : String → Except Disk.Refusal Unit → Transfer.Delivery}
  {offer : String → Cell → Except Failure ByteArray}

theorem agrees_of_steady (prepared : session.ready world = (.ok provider, opened))
    (steady : Steady provider reply offer dir opened.disk) (answers : Answers provider.downloader reply)
    (some : places ≠ []) (few : places.length ≤ 1000) : session.Agrees world places := by
  have single (place : Place α) :
      (session.queryPlace place world).1 = foreseenPoint provider offer place :=
    (queryPlace_fst prepared place).trans (queryPlace_eq steady answers place)
  have batch := queryPoints_of_places prepared (validPlaces_map_pair some few)
  have result : (session.queryPoints (places.map pair) world).1 =
      (places.mapM (foreseenPoint provider offer)).map summaryOf := by
    rw [batch]
    exact queryPlaces_eq steady answers places
  refine ⟨?_, ?_, ?_⟩
  · simp only [single, result, map_eq_ok, ← exists_mapM_iff]
    constructor
    · rintro ⟨summary, points, found, -⟩
      exact ⟨points, found⟩
    · rintro ⟨points, found⟩
      exact ⟨_, points, found, rfl⟩
  · intro summary returned
    rw [result] at returned
    obtain ⟨points, found, rfl⟩ := map_eq_ok.mp returned
    simp only [single]
    exact ⟨points, mapM_eq_ok.mp found, rfl⟩
  · rintro before place rest failure rfl earlier failed
    simp only [single] at earlier failed
    have front := mapM_append_of_error earlier failed
    have split : before ++ place :: rest = (before ++ [place]) ++ rest := by simp
    have few' : (before ++ [place]).length ≤ 1000 := by
      simp only [List.length_append, List.length_cons, List.length_nil] at few ⊢
      omega
    have batch' := queryPoints_of_places prepared
      (validPlaces_map_pair (by simp : before ++ [place] ≠ []) few')
    have read := (steady.heightsAt answers (before ++ [place])).1
    rw [funext foreseenHeight_eq_map, mapM_map, front] at read
    have same := queryPlaces_append_of_error read rest
    rw [batch', batch, split, same]
    refine ⟨?_, rfl⟩
    rw [queryPlaces_eq steady answers, front]
    rfl

/-- Batch and single queries agree. In whatever state queries have left a provider in whose directory
no other directory takes the name of an archive or of a partial file, a request that is wrong in itself
is turned down before anything is done, and any other one is answered as its points would be one by
one; nor does it matter what is asked for between them. -/
theorem queryPoints_agrees {first : Provider σ} {start : World σ}
    (answers : Answers first.downloader reply) (ready : ∀ cell, Ready first start.disk dir cell)
    (vacant : first.cache.entries = []) (queries : List (Query α))
    (reached : first.after queries start = (provider, opened)) (session : Session σ) (world : World σ)
    (prepared : session.ready world = (.ok provider, opened)) :
    (∀ points : List (List α), IsWrong points → ∃ failure,
      session.queryPoints points world = (.error failure, session, world) ∧
        failure.kind = "ValueError") ∧
    (∀ points : List (List α), ¬ IsWrong points →
      ∃ places, points = places.map pair ∧ session.Agrees world places) ∧
    ∀ (later : List (Query α)) provider' world', provider.after later opened = (provider', world') →
      ∀ place : Place α,
        (Report.queryPlace provider' place world').1 = (session.queryPlace place world).1 := by
  obtain ⟨⟨cache, same⟩, steady⟩ :=
    (Provider.steady_of_ready ready vacant reply).after answers queries
  rw [reached] at same steady
  simp only at same steady
  have answers' : Answers provider.downloader reply := by rwa [same]
  refine ⟨?_, ?_, ?_⟩
  · intro points wrong
    obtain ⟨failure, failed, kind⟩ := validPlaces_of_isWrong wrong
    exact ⟨failure, by rw [queryPoints, failed], kind⟩
  · intro points right
    obtain ⟨places, rfl⟩ := exists_places right
    have some : places ≠ [] := fun none => right (Or.inl (by rw [none]; rfl))
    have few : places.length ≤ 1000 :=
      not_lt.mp fun many => right (Or.inr (Or.inl (by rwa [List.length_map])))
    exact ⟨places, rfl, agrees_of_steady prepared steady answers' some few⟩
  · intro later provider' world' reached' place
    obtain ⟨⟨cache', same'⟩, steady'⟩ := steady.after answers' later
    rw [reached'] at same' steady'
    simp only at same' steady'
    rw [queryPlace_fst prepared, queryPlace_eq steady answers', queryPlace_eq steady' (by rwa [same']), same']
    rfl

end

open scoped Standin

def visitor (provider : Provider Nat) : Session Nat where
  provider := some provider
  environment := []
  downloader := fun _ => provider.downloader
  store := .absent
  label := toString
  stored := []

def moored : Provider Nat × World Nat :=
  (Provider.coastProvider (some 1)).after [.elevationAt (Place.mk (52.9 : Float) 5.1)] Provider.bareWorld

/-- From one cell to a void in the other and back. -/
def crossing : List (Place Float) := [⟨52.9, 4.1⟩, ⟨52.1, 5.1⟩, ⟨52.9, 4.1⟩]

theorem queryPoints_agrees_crossing : ∃ points,
    List.Forall₂ (fun place point => ((visitor moored.1).queryPlace place moored.2).1 = .ok point)
        crossing points ∧
      summaryOf points = ⟨[some 12, none, some 12], (12, 12), 1, ["N52E004", "N52E005"]⟩ := by
  have ready (cell : Cell) : Ready (Provider.coastProvider (some 1)) Provider.bareWorld.disk ["tiles"] cell :=
    ⟨Provider.opens_bareWorld, rfl, rfl⟩
  have answers : Answers (Provider.coastProvider (some 1)).downloader
      fun _ _ => ⟨some (Archive.storedArchive Provider.quad), .ok ()⟩ := fun _ _ _ => rfl
  have reached : (Provider.coastProvider (some 1)).after [.elevationAt (Place.mk (52.9 : Float) 5.1)]
      Provider.bareWorld = (moored.1, moored.2) := Prod.mk.eta.symm
  have prepared : (visitor moored.1).ready moored.2 = (.ok moored.1, moored.2) := rfl
  obtain ⟨-, agrees, -⟩ := queryPoints_agrees answers ready rfl _ reached (visitor moored.1) moored.2 prepared
  have right : ¬ IsWrong (crossing.map pair) := by simp [IsWrong, crossing, pair]
  obtain ⟨places, same, agrees⟩ := agrees _ right
  obtain rfl := List.map_injective_iff.mpr pair_injective same
  have returned : ((visitor moored.1).queryPoints (crossing.map pair) moored.2).1.toOption =
      some ⟨[some 12, none, some 12], (12, 12), 1, ["N52E004", "N52E005"]⟩ := by decide +kernel
  cases outcome : ((visitor moored.1).queryPoints (crossing.map pair) moored.2).1 with
  | error failure =>
    rw [outcome] at returned
    cases returned
  | ok summary =>
    rw [outcome] at returned
    obtain ⟨points, found, made⟩ := agrees.summary summary outcome
    exact ⟨points, found, made.symm.trans (Option.some.inj returned)⟩

end Session

end Elevation
