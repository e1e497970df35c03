import OwnerBinding.Proofs.Association.Trace
import OwnerBinding.Proofs.Generation

/-!
# What a run tells

What a run tells about itself goes with how it ends (`Generation.Diagnostics`): a run that cannot
begin, or that finds nothing marked, tells this alone; a run that gives an artifact tells about all
fragment owners, then about all activity owners, and then the sizes of both associations; and a run
that fails tells about the owners up to the first obstructed one, and then its failure. An error is
told only if a run fails, and then once and last.
-/

namespace OwnerBinding

namespace Generation

/-- What a run tells about itself. -/
def notices (events : List RunEvent) : List Notice :=
  events.filterMap fun event =>
    match event with
    | .noticed notice => some notice
    | .delivered _ _ => none

/-- What is told about owners in a run. -/
def told (settings : Settings) (graph : DeclarationGraph) (owners : List ScannedOwner) :
    List Notice :=
  (settings.resolver graph).told settings.allowOwnerOverrides owners

/-- What is told about the kinds of owners before a kind. -/
def toldBefore (settings : Settings) (graph : DeclarationGraph) : OwnerKind → List Notice
  | .fragment => []
  | .activity => told settings graph (scan graph.declarations .fragment)

/-- The number of types among the owners of a kind. -/
def typeCount (graph : DeclarationGraph) (kind : OwnerKind) : Nat :=
  ((graph.marked kind).map (·.toTypeName)).dedup.length

/-- The first obstructed owner of a run, with the owners of its kind before it. -/
structure FirstObstructed (settings : Settings) (graph : DeclarationGraph) (kind : OwnerKind)
    (earlier : List ScannedOwner) (owner : ScannedOwner) (failure : Failure) : Prop where
  isPrefix : earlier ++ [owner] <+: scan graph.declarations kind
  unobstructed : (settings.resolver graph).Unobstructed settings.allowOwnerOverrides earlier
  obstruction :
    (settings.resolver graph).Obstruction settings.allowOwnerOverrides earlier owner failure
  fragments : kind = .activity → Associable settings graph .fragment

/-- What a run tells, by how it ends. -/
structure Diagnostics (settings : Settings) (graph : DeclarationGraph)
    (run : Reported RunEvent Failure (Option Artifact)) : Prop where
  missing : settings.outputDirectory = none →
    ∃ failure, run.result = .error failure ∧ notices run.reports = [.notConfigured failure]
  nothing : settings.outputDirectory ≠ none →
    (∀ d ∈ graph.declarations, ∀ kind, d.isMarked kind = false) →
      run.result = .ok none ∧ notices run.reports = [.nothingMarked]
  artifact : ∀ artifact, run.result = .ok (some artifact) →
    notices run.reports = told settings graph (scan graph.declarations .fragment) ++
      told settings graph (scan graph.declarations .activity) ++
        [.rendering (typeCount graph .fragment) (typeCount graph .activity)]
  failure : settings.outputDirectory ≠ none → ∀ failure, run.result = .error failure →
    ∃ kind earlier owner, FirstObstructed settings graph kind earlier owner failure ∧
      notices run.reports = toldBefore settings graph kind ++
        told settings graph (earlier ++ [owner]) ++ [.resolutionFailed failure]
  error_last : ∀ failure, run.result = .error failure → ∃ before last,
    notices run.reports = before ++ [last] ∧ last.level = .error ∧
      last.message = failure.message ∧ ∀ notice ∈ before, notice.level ≠ .error
  no_error : ∀ given, run.result = .ok given →
    ∀ notice ∈ notices run.reports, notice.level ≠ .error

variable {settings : Settings} {graph : DeclarationGraph}

theorem notices_append (events later : List RunEvent) :
    notices (events ++ later) = notices events ++ notices later :=
  List.filterMap_append

theorem notices_map_noticed (told : List Notice) : notices (told.map .noticed) = told := by
  rw [notices, List.filterMap_map]
  exact List.filterMap_some

/-- A run tells what is told while its module is planned. -/
theorem notices_run : notices (run settings graph).reports = (plan settings graph).reports := by
  cases h : (plan settings graph).result with
  | error failure =>
      rw [run_of_plan_error h]
      exact notices_map_noticed _
  | ok planned =>
      have hdelivered : notices (deliver planned).reports = [] := by
        cases planned <;> rfl
      rw [run_of_plan_ok h, notices_append, notices_map_noticed, hdelivered, List.append_nil]

/-! ## Planning -/

theorem reports_associate (kind : OwnerKind) (h : Associable settings graph kind) :
    (associate (settings.resolver graph) settings.allowOwnerOverrides
      (scan graph.declarations kind)).reports =
        told settings graph (scan graph.declarations kind) :=
  Association.reports_associate_of_unobstructed ((associable_iff kind).1 h)

theorem reports_renderOwners_of_associable (h : ∀ kind, Associable settings graph kind) :
    (renderOwners settings graph (scan graph.declarations .fragment)
      (scan graph.declarations .activity)).reports =
        told settings graph (scan graph.declarations .fragment) ++
          told settings graph (scan graph.declarations .activity) ++
            [.rendering (typeCount graph .fragment) (typeCount graph .activity)] := by
  have hfragment := (result_associate_eq_ok_iff .fragment _).2 ⟨h .fragment, rfl⟩
  have hactivity := (result_associate_eq_ok_iff .activity _).2 ⟨h .activity, rfl⟩
  have hrender : (render settings.factoryOptions (some programVersion)
      (association settings graph .fragment) (association settings graph .activity)).reports =
        [.rendering (typeCount graph .fragment) (typeCount graph .activity)] := by
    rw [typeCount, typeCount, ← size_association .fragment (h .fragment),
      ← size_association .activity (h .activity)]
    rfl
  rw [renderOwners_eq, Reported.bind_eq_of_ok hfragment, Reported.bind_eq_of_ok hactivity,
    hrender, reports_associate .fragment (h .fragment), reports_associate .activity (h .activity),
    List.append_assoc]

/-- A run is obstructed by some first owner, if it fails after it has begun. -/
theorem exists_firstObstructed (hdirectory : settings.outputDirectory ≠ none) {failure : Failure}
    (h : (plan settings graph).result = .error failure) :
    ∃ kind earlier owner, FirstObstructed settings graph kind earlier owner failure := by
  rcases (result_plan_eq_error_iff hdirectory failure).1 h with hfirst | ⟨hfragments, hfirst⟩
  · obtain ⟨earlier, owner, later, hsplit, hearlier, hobstruction⟩ := hfirst
    exact ⟨.fragment, earlier, owner, ⟨later, by simp [hsplit]⟩, hearlier, hobstruction, by simp⟩
  · obtain ⟨earlier, owner, later, hsplit, hearlier, hobstruction⟩ := hfirst
    exact ⟨.activity, earlier, owner, ⟨later, by simp [hsplit]⟩, hearlier, hobstruction,
      fun _ => hfragments⟩

theorem FirstObstructed.result_associate {kind : OwnerKind} {earlier : List ScannedOwner}
    {owner : ScannedOwner} {failure : Failure}
    (h : FirstObstructed settings graph kind earlier owner failure) :
    (associate (settings.resolver graph) settings.allowOwnerOverrides
      (scan graph.declarations kind)).result = .error failure := by
  obtain ⟨later, hlater⟩ := h.isPrefix
  rw [List.append_assoc, List.singleton_append] at hlater
  exact (result_associate_eq_error_iff kind failure).2
    ⟨earlier, owner, later, hlater.symm, h.unobstructed, h.obstruction⟩

theorem FirstObstructed.reports_associate {kind : OwnerKind} {earlier : List ScannedOwner}
    {owner : ScannedOwner} {failure : Failure}
    (h : FirstObstructed settings graph kind earlier owner failure) :
    (associate (settings.resolver graph) settings.allowOwnerOverrides
      (scan graph.declarations kind)).reports =
        told settings graph (earlier ++ [owner]) ++ [.resolutionFailed failure] := by
  obtain ⟨later, hlater⟩ := h.isPrefix
  rw [List.append_assoc, List.singleton_append] at hlater
  rw [← hlater]
  exact Association.reports_associate_of_obstruction h.unobstructed h.obstruction

theorem FirstObstructed.reports_renderOwners {kind : OwnerKind} {earlier : List ScannedOwner}
    {owner : ScannedOwner} {failure : Failure}
    (h : FirstObstructed settings graph kind earlier owner failure) :
    (renderOwners settings graph (scan graph.declarations .fragment)
      (scan graph.declarations .activity)).reports =
        toldBefore settings graph kind ++ told settings graph (earlier ++ [owner]) ++
          [.resolutionFailed failure] := by
  rw [renderOwners_eq]
  cases kind with
  | fragment =>
      rw [Reported.bind_eq_of_error h.result_associate, h.reports_associate]
      rfl
  | activity =>
      have hfragment := (result_associate_eq_ok_iff .fragment _).2 ⟨h.fragments rfl, rfl⟩
      rw [Reported.bind_eq_of_ok hfragment, Reported.bind_eq_of_error h.result_associate,
        Generation.reports_associate .fragment (h.fragments rfl), h.reports_associate,
        List.append_assoc]
      rfl

theorem FirstObstructed.marked_ne_nil {kind : OwnerKind} {earlier : List ScannedOwner}
    {owner : ScannedOwner} {failure : Failure}
    (h : FirstObstructed settings graph kind earlier owner failure) : graph.marked kind ≠ [] := by
  intro hnil
  have hprefix := h.isPrefix
  rw [DeclarationGraph.scan_eq, hnil] at hprefix
  simp at hprefix

theorem reports_plan_of_none (h : settings.outputDirectory = none) :
    (plan settings graph).reports =
      [.notConfigured (.missingOutputDirectory SettingSources.outputOption)] := by
  simp only [plan, Settings.requireOutputDirectory, h]
  rfl

theorem reports_plan_of_unmarked (h : settings.outputDirectory ≠ none)
    (hunmarked : ∀ kind, graph.marked kind = []) :
    (plan settings graph).reports = [.nothingMarked] := by
  obtain ⟨outputDirectory, hdirectory⟩ := Option.ne_none_iff_exists'.1 h
  simp only [plan, Settings.requireOutputDirectory, hdirectory, DeclarationGraph.scan_eq,
    hunmarked]
  rfl

theorem reports_plan_of_marked (h : settings.outputDirectory ≠ none)
    (hmarked : ¬ ∀ kind, graph.marked kind = []) :
    (plan settings graph).reports =
      (renderOwners settings graph (scan graph.declarations .fragment)
        (scan graph.declarations .activity)).reports := by
  obtain ⟨outputDirectory, hdirectory⟩ := Option.ne_none_iff_exists'.1 h
  rw [plan_of_marked hdirectory hmarked]
  cases hfound : (renderOwners settings graph (scan graph.declarations .fragment)
      (scan graph.declarations .activity)).result with
  | ok found => rw [Reported.bind_eq_of_ok hfound, Reported.reports_pure, List.append_nil]
  | error failure => rw [Reported.bind_eq_of_error hfound]

/-! ## Whole runs -/

theorem result_run_eq_error_iff (failure : Failure) :
    (run settings graph).result = .error failure ↔
      (plan settings graph).result = .error failure := by
  rw [result_run]
  cases (plan settings graph).result <;> simp [Except.map]

theorem result_run_eq_ok_none_iff : (run settings graph).result = .ok none ↔
    settings.outputDirectory ≠ none ∧ ∀ kind, graph.marked kind = [] := by
  rw [result_run, ← result_plan_eq_ok_none_iff]
  cases (plan settings graph).result with
  | error failure => simp [Except.map]
  | ok planned => cases planned <;> simp [Except.map]

theorem notices_of_none (h : settings.outputDirectory = none) :
    ∃ failure, (run settings graph).result = .error failure ∧
      notices (run settings graph).reports = [.notConfigured failure] := by
  refine ⟨.missingOutputDirectory SettingSources.outputOption, ?_, ?_⟩
  · rw [result_run_eq_error_iff, result_plan_of_none h]
  · rw [notices_run, reports_plan_of_none h]

theorem notices_of_artifact {artifact : Artifact}
    (h : (run settings graph).result = .ok (some artifact)) :
    notices (run settings graph).reports =
      told settings graph (scan graph.declarations .fragment) ++
        told settings graph (scan graph.declarations .activity) ++
          [.rendering (typeCount graph .fragment) (typeCount graph .activity)] := by
  obtain ⟨found, outputDirectory, hplan, _⟩ := (result_run_eq_ok_some_iff artifact).1 h
  obtain ⟨hdirectory, hmarked, hassociable, _⟩ :=
    (result_plan_eq_ok_some_iff found outputDirectory).1 hplan
  have hdirectory : settings.outputDirectory ≠ none := by simp [hdirectory]
  rw [notices_run, reports_plan_of_marked hdirectory hmarked,
    reports_renderOwners_of_associable hassociable]

theorem notices_of_failure (hdirectory : settings.outputDirectory ≠ none) {failure : Failure}
    (h : (run settings graph).result = .error failure) :
    ∃ kind earlier owner, FirstObstructed settings graph kind earlier owner failure ∧
      notices (run settings graph).reports = toldBefore settings graph kind ++
        told settings graph (earlier ++ [owner]) ++ [.resolutionFailed failure] := by
  obtain ⟨kind, earlier, owner, hfirst⟩ :=
    exists_firstObstructed hdirectory ((result_run_eq_error_iff failure).1 h)
  have hmarked : ¬ ∀ kind, graph.marked kind = [] := fun hnil => hfirst.marked_ne_nil (hnil kind)
  refine ⟨kind, earlier, owner, hfirst, ?_⟩
  rw [notices_run, reports_plan_of_marked hdirectory hmarked, hfirst.reports_renderOwners]

theorem level_ne_error_of_mem_told {owners : List ScannedOwner} {notice : Notice}
    (h : notice ∈ told settings graph owners) : notice.level ≠ .error :=
  Resolver.level_ne_error_of_mem_toldBehind h

theorem level_ne_error_of_mem_toldBefore {kind : OwnerKind} {notice : Notice}
    (h : notice ∈ toldBefore settings graph kind) : notice.level ≠ .error := by
  cases kind with
  | fragment => cases h
  | activity => exact level_ne_error_of_mem_told h

end Generation

end OwnerBinding
