import OwnerBinding.Generation
import OwnerBinding.Proofs.Association.Obstruction
import OwnerBinding.Proofs.Factory.Reference

/-!
# What a run comes to

A run ends in one of four ways, and which one it is can be read off its settings and its graph
(`Generation.Outcome`): without an output directory it fails at once; without marked declarations it
gives nothing; if the owners of both kinds can be associated it gives an artifact; and otherwise it
fails as the first obstructed owner makes it fail, fragment owners before activity owners. Only the
third way hands something over, and that once.
-/

namespace OwnerBinding

theorem DeclarationGraph.scan_eq (graph : DeclarationGraph) (kind : OwnerKind) :
    scan graph.declarations kind =
      (graph.marked kind).map fun d => { declaration := d, ownerType := d.ownerType } := rfl

/-- The resolver of a run. -/
def Settings.resolver (settings : Settings) (graph : DeclarationGraph) : Resolver where
  graph := graph
  contract := settings.bindingContract

namespace Generation

/-- The artifacts that a run hands over, with the directories that they are for. -/
def deliveries (events : List RunEvent) : List (Artifact × Path) :=
  events.filterMap fun event =>
    match event with
    | .noticed _ => none
    | .delivered artifact outputDirectory => some (artifact, outputDirectory)

/-- All marked declarations of a kind have bindings and, unless overrides are allowed, those of one
module and name have bindings of one name. -/
def Associable (settings : Settings) (graph : DeclarationGraph) (kind : OwnerKind) : Prop :=
  (∀ d ∈ graph.marked kind,
      ∃ binding, ((settings.resolver graph).resolve d).result = .ok binding) ∧
    (settings.allowOwnerOverrides = false →
      ∀ d ∈ graph.marked kind, ∀ e ∈ graph.marked kind, d.toTypeName = e.toTypeName →
        ∀ binding other, ((settings.resolver graph).resolve d).result = .ok binding →
          ((settings.resolver graph).resolve e).result = .ok other →
            binding.qualifiedName = other.qualifiedName)

/-- The failure of the first obstructed owner of a kind. -/
def FirstObstruction (settings : Settings) (graph : DeclarationGraph) (kind : OwnerKind)
    (failure : Failure) : Prop :=
  (settings.resolver graph).FirstObstruction settings.allowOwnerOverrides
    (scan graph.declarations kind) failure

/-- How a run ends and what it hands over. -/
structure Outcome (settings : Settings) (graph : DeclarationGraph)
    (run : Reported RunEvent Failure (Option Artifact)) : Prop where
  missing_iff : ∀ option, run.result = .error (.missingOutputDirectory option) ↔
    settings.outputDirectory = none ∧ option = SettingSources.outputOption
  nothing_iff : run.result = .ok none ↔ settings.outputDirectory ≠ none ∧
    ∀ d ∈ graph.declarations, ∀ kind, d.isMarked kind = false
  artifact_iff : (∃ artifact, run.result = .ok (some artifact)) ↔
    settings.outputDirectory ≠ none ∧ (∃ d ∈ graph.declarations, ∃ kind, d.isMarked kind = true) ∧
      ∀ kind, Associable settings graph kind
  /-- In every remaining case the first obstructed owner decides. -/
  failure_iff : settings.outputDirectory ≠ none → ∀ failure, run.result = .error failure ↔
    FirstObstruction settings graph .fragment failure ∨
      Associable settings graph .fragment ∧ FirstObstruction settings graph .activity failure
  delivered_of_artifact : ∀ artifact, run.result = .ok (some artifact) →
    ∃ outputDirectory, settings.outputDirectory = some outputDirectory ∧
      deliveries run.reports = [(artifact, outputDirectory)]
  delivered_otherwise : (∀ artifact, run.result ≠ .ok (some artifact)) →
    deliveries run.reports = []
  /-- There are as many branches as there are types among the owners. -/
  branches_eq : ∀ artifact, run.result = .ok (some artifact) →
    artifact.fragmentBranches = ((graph.marked .fragment).map (·.toTypeName)).dedup.length ∧
      artifact.activityBranches = ((graph.marked .activity).map (·.toTypeName)).dedup.length

/-- The association of the owners of a kind. -/
def association (settings : Settings) (graph : DeclarationGraph) (kind : OwnerKind) :
    Association :=
  .ofList ((settings.resolver graph).pairs (scan graph.declarations kind))

/-- The factory module that a run gives if all owners can be associated. -/
def factory (settings : Settings) (graph : DeclarationGraph) : FactoryModule :=
  .ofAssociations settings.factoryOptions (some programVersion)
    (association settings graph .fragment) (association settings graph .activity)

variable {settings : Settings} {graph : DeclarationGraph}

theorem associable_iff (kind : OwnerKind) :
    Associable settings graph kind ↔
      (settings.resolver graph).Unobstructed settings.allowOwnerOverrides
        (scan graph.declarations kind) := by
  rw [Resolver.unobstructed_iff, DeclarationGraph.scan_eq, Associable]
  simp only [List.forall_mem_map, Resolver.result_resolve_eq_ok_iff]
  rfl

theorem result_associate_eq_ok_iff (kind : OwnerKind) (found : Association) :
    (associate (settings.resolver graph) settings.allowOwnerOverrides
      (scan graph.declarations kind)).result = .ok found ↔
        Associable settings graph kind ∧ found = association settings graph kind := by
  rw [Association.result_associate_eq_ok_iff, associable_iff]
  rfl

theorem result_associate_eq_error_iff (kind : OwnerKind) (failure : Failure) :
    (associate (settings.resolver graph) settings.allowOwnerOverrides
      (scan graph.declarations kind)).result = .error failure ↔
        FirstObstruction settings graph kind failure :=
  Association.result_associate_eq_error_iff _ failure

theorem result_render (options : FactoryOptions) (version : Option String)
    (fragments activities : Association) :
    (render options version fragments activities).result =
      .ok (.ofAssociations options version fragments activities) := by
  rw [render, Reported.bind_eq_of_ok rfl]
  exact FactoryModule.plan_eq options version fragments activities

theorem renderOwners_eq (settings : Settings) (graph : DeclarationGraph)
    (fragments activities : List ScannedOwner) :
    renderOwners settings graph fragments activities = (do
      let fragments ←
        associate (settings.resolver graph) settings.allowOwnerOverrides fragments
      let activities ←
        associate (settings.resolver graph) settings.allowOwnerOverrides activities
      render settings.factoryOptions (some programVersion) fragments activities) := rfl

/-- The factory module is rendered when the owners of both kinds can be associated. -/
theorem result_renderOwners_eq_ok_iff (found : FactoryModule) :
    (renderOwners settings graph (scan graph.declarations .fragment)
      (scan graph.declarations .activity)).result = .ok found ↔
        (∀ kind, Associable settings graph kind) ∧ found = factory settings graph := by
  have hkinds : (∀ kind, Associable settings graph kind) ↔
      Associable settings graph .fragment ∧ Associable settings graph .activity :=
    ⟨fun h => ⟨h .fragment, h .activity⟩, fun h kind => by cases kind <;> simp [h.1, h.2]⟩
  rw [renderOwners_eq, Reported.result_bind_eq_ok_iff, hkinds]
  constructor
  · rintro ⟨fragments, hfragments, hrest⟩
    obtain ⟨activities, hactivities, hrender⟩ := Reported.result_bind_eq_ok_iff.1 hrest
    obtain ⟨hfragment, rfl⟩ := (result_associate_eq_ok_iff .fragment fragments).1 hfragments
    obtain ⟨hactivity, rfl⟩ := (result_associate_eq_ok_iff .activity activities).1 hactivities
    rw [result_render, Except.ok.injEq] at hrender
    exact ⟨⟨hfragment, hactivity⟩, hrender.symm⟩
  · rintro ⟨⟨hfragment, hactivity⟩, rfl⟩
    refine ⟨_, (result_associate_eq_ok_iff .fragment _).2 ⟨hfragment, rfl⟩, ?_⟩
    refine Reported.result_bind_eq_ok_iff.2
      ⟨_, (result_associate_eq_ok_iff .activity _).2 ⟨hactivity, rfl⟩, ?_⟩
    exact result_render _ _ _ _

/-- Rendering fails as the first obstructed owner makes it fail, fragment owners first. -/
theorem result_renderOwners_eq_error_iff (failure : Failure) :
    (renderOwners settings graph (scan graph.declarations .fragment)
      (scan graph.declarations .activity)).result = .error failure ↔
        FirstObstruction settings graph .fragment failure ∨
          Associable settings graph .fragment ∧
            FirstObstruction settings graph .activity failure := by
  rw [renderOwners_eq, Reported.result_bind_eq_error_iff]
  refine or_congr (result_associate_eq_error_iff .fragment failure) ?_
  constructor
  · rintro ⟨fragments, hfragments, hrest⟩
    refine ⟨((result_associate_eq_ok_iff .fragment fragments).1 hfragments).1, ?_⟩
    rcases Reported.result_bind_eq_error_iff.1 hrest with hactivities | ⟨_, _, hrender⟩
    · exact (result_associate_eq_error_iff .activity failure).1 hactivities
    · rw [result_render] at hrender
      cases hrender
  · rintro ⟨hfragment, hactivity⟩
    refine ⟨_, (result_associate_eq_ok_iff .fragment _).2 ⟨hfragment, rfl⟩, ?_⟩
    exact Reported.result_bind_eq_error_iff.2
      (.inl ((result_associate_eq_error_iff .activity failure).2 hactivity))

theorem result_plan_of_none (h : settings.outputDirectory = none) :
    (plan settings graph).result =
      .error (.missingOutputDirectory SettingSources.outputOption) := by
  simp only [plan, Settings.requireOutputDirectory, h]
  rfl

theorem result_plan_of_unmarked {outputDirectory : Path}
    (h : settings.outputDirectory = some outputDirectory)
    (hunmarked : ∀ kind, graph.marked kind = []) : (plan settings graph).result = .ok none := by
  simp only [plan, Settings.requireOutputDirectory, h, DeclarationGraph.scan_eq, hunmarked]
  rfl

/-- With a directory and marked declarations, a run plans the module of its owners. -/
theorem plan_of_marked {outputDirectory : Path}
    (h : settings.outputDirectory = some outputDirectory)
    (hmarked : ¬ ∀ kind, graph.marked kind = []) :
    plan settings graph = (do
      let found ← renderOwners settings graph (scan graph.declarations .fragment)
        (scan graph.declarations .activity)
      return some (found, outputDirectory)) := by
  have hscan : ((scan graph.declarations .fragment).isEmpty &&
      (scan graph.declarations .activity).isEmpty) = false := by
    rw [Bool.and_eq_false_iff]
    by_contra hboth
    apply hmarked
    intro kind
    simp only [DeclarationGraph.scan_eq, List.isEmpty_eq_false_iff, ne_eq, List.map_eq_nil_iff,
      not_or, not_not] at hboth
    cases kind <;> simp [hboth]
  simp only [plan, Settings.requireOutputDirectory, h, hscan, Bool.false_eq_true, ↓reduceIte]

theorem result_plan_of_marked {outputDirectory : Path}
    (h : settings.outputDirectory = some outputDirectory)
    (hmarked : ¬ ∀ kind, graph.marked kind = []) :
    (plan settings graph).result =
      (renderOwners settings graph (scan graph.declarations .fragment)
        (scan graph.declarations .activity)).result.map fun found =>
          some (found, outputDirectory) := by
  rw [plan_of_marked h hmarked]
  cases hfound : (renderOwners settings graph (scan graph.declarations .fragment)
      (scan graph.declarations .activity)).result with
  | ok found => rw [Reported.bind_eq_of_ok hfound]; rfl
  | error failure => rw [Reported.bind_eq_of_error hfound]; rfl

theorem run_of_plan_ok {planned : Option (FactoryModule × Path)}
    (h : (plan settings graph).result = .ok planned) :
    run settings graph =
      ⟨(plan settings graph).reports.map .noticed ++ (deliver planned).reports,
        (deliver planned).result⟩ := by
  have hresult : ((plan settings graph).mapReports RunEvent.noticed).result = .ok planned := h
  exact Reported.bind_eq_of_ok hresult deliver

theorem run_of_plan_error {failure : Failure}
    (h : (plan settings graph).result = .error failure) :
    run settings graph = ⟨(plan settings graph).reports.map .noticed, .error failure⟩ := by
  have hresult : ((plan settings graph).mapReports RunEvent.noticed).result = .error failure := h
  exact Reported.bind_eq_of_error hresult deliver

theorem result_run : (run settings graph).result =
    (plan settings graph).result.map (Option.map fun planned => planned.1.artifact) := by
  cases h : (plan settings graph).result with
  | error failure => rw [run_of_plan_error h]; rfl
  | ok planned =>
      rw [run_of_plan_ok h]
      cases planned <;> rfl

theorem deliveries_map_noticed (notices : List Notice) :
    deliveries (notices.map .noticed) = [] := by
  simp [deliveries]

theorem deliveries_run : deliveries (run settings graph).reports =
    match (plan settings graph).result with
    | .ok (some (found, outputDirectory)) => [(found.artifact, outputDirectory)]
    | _ => [] := by
  cases h : (plan settings graph).result with
  | error failure =>
      rw [run_of_plan_error h]
      exact deliveries_map_noticed _
  | ok planned =>
      have happend : ∀ events, deliveries ((plan settings graph).reports.map .noticed ++ events) =
          deliveries events := by
        intro events
        rw [deliveries, List.filterMap_append]
        exact congrArg (· ++ _) (deliveries_map_noticed _)
      rw [run_of_plan_ok h, happend]
      cases planned <;> rfl

theorem unmarked_iff : (∀ d ∈ graph.declarations, ∀ kind, d.isMarked kind = false) ↔
    ∀ kind, graph.marked kind = [] := by
  simp only [DeclarationGraph.marked, List.filter_eq_nil_iff, Bool.not_eq_true]
  exact ⟨fun h kind d hd => h d hd kind, fun h d hd kind => h kind d hd⟩

theorem not_firstObstruction_of_unmarked {kind : OwnerKind} {failure : Failure}
    (h : graph.marked kind = []) : ¬ FirstObstruction settings graph kind failure := by
  rintro ⟨earlier, owner, later, hsplit, _⟩
  rw [DeclarationGraph.scan_eq, h] at hsplit
  simp at hsplit

theorem not_firstObstruction_missing {kind : OwnerKind} (option : String) :
    ¬ FirstObstruction settings graph kind (.missingOutputDirectory option) := by
  rintro ⟨earlier, owner, later, _, _, hobstruction⟩
  exact hobstruction.ne_missingOutputDirectory option rfl

/-- A run plans an artifact exactly if it has a directory, something is marked, and all owners can be
associated; the artifact is then that of the factory module of its associations. -/
theorem result_plan_eq_ok_some_iff (found : FactoryModule) (outputDirectory : Path) :
    (plan settings graph).result = .ok (some (found, outputDirectory)) ↔
      settings.outputDirectory = some outputDirectory ∧ (¬ ∀ kind, graph.marked kind = []) ∧
        (∀ kind, Associable settings graph kind) ∧ found = factory settings graph := by
  cases hdirectory : settings.outputDirectory with
  | none => simp [result_plan_of_none hdirectory]
  | some directory =>
      by_cases hmarked : ∀ kind, graph.marked kind = []
      · simp [result_plan_of_unmarked hdirectory hmarked, hmarked]
      · rw [result_plan_of_marked hdirectory hmarked, ← result_renderOwners_eq_ok_iff]
        cases hfound : (renderOwners settings graph (scan graph.declarations .fragment)
            (scan graph.declarations .activity)).result with
        | ok other =>
            simp only [Except.map, Except.ok.injEq, Option.some.injEq, Prod.mk.injEq, hmarked,
              not_false_eq_true, true_and]
            exact and_comm
        | error failure => simp [Except.map]

theorem result_plan_eq_error_iff (h : settings.outputDirectory ≠ none) (failure : Failure) :
    (plan settings graph).result = .error failure ↔
      FirstObstruction settings graph .fragment failure ∨
        Associable settings graph .fragment ∧
          FirstObstruction settings graph .activity failure := by
  obtain ⟨directory, hdirectory⟩ := Option.ne_none_iff_exists'.1 h
  by_cases hmarked : ∀ kind, graph.marked kind = []
  · simp [result_plan_of_unmarked hdirectory hmarked, not_firstObstruction_of_unmarked, hmarked]
  · rw [result_plan_of_marked hdirectory hmarked, ← result_renderOwners_eq_error_iff]
    cases (renderOwners settings graph (scan graph.declarations .fragment)
      (scan graph.declarations .activity)).result <;> simp [Except.map]

theorem result_plan_eq_ok_none_iff : (plan settings graph).result = .ok none ↔
    settings.outputDirectory ≠ none ∧ ∀ kind, graph.marked kind = [] := by
  cases hdirectory : settings.outputDirectory with
  | none => simp [result_plan_of_none hdirectory]
  | some directory =>
      by_cases hmarked : ∀ kind, graph.marked kind = []
      · simp [result_plan_of_unmarked hdirectory hmarked, hmarked]
      · rw [result_plan_of_marked hdirectory hmarked]
        cases (renderOwners settings graph (scan graph.declarations .fragment)
          (scan graph.declarations .activity)).result <;> simp [Except.map, hmarked]

theorem result_run_eq_ok_some_iff (artifact : Artifact) :
    (run settings graph).result = .ok (some artifact) ↔
      ∃ found outputDirectory, (plan settings graph).result = .ok (some (found, outputDirectory)) ∧
        artifact = found.artifact := by
  rw [result_run]
  cases (plan settings graph).result with
  | error failure => simp [Except.map]
  | ok planned =>
      cases planned with
      | none => simp [Except.map]
      | some planned => simp [Except.map, Prod.ext_iff, eq_comm]

/-- There are as many entries as there are types among the owners. -/
theorem size_association (kind : OwnerKind) (h : Associable settings graph kind) :
    (association settings graph kind).size =
      ((graph.marked kind).map (·.toTypeName)).dedup.length := by
  have hkeys : Association.keys ((settings.resolver graph).pairs (scan graph.declarations kind)) =
      (graph.marked kind).map (·.toTypeName) := by
    have hclear := (associable_iff kind).1 h
    rw [Association.keys_pairs fun owner howner => hclear.exists_binding howner,
      DeclarationGraph.scan_eq, List.map_map]
    rfl
  rw [association, Association.size_ofList, hkeys]

theorem branches_factory (kind : OwnerKind) (h : Associable settings graph kind) :
    ((factory settings graph).method kind).branches.length =
      ((graph.marked kind).map (·.toTypeName)).dedup.length := by
  rw [← size_association kind h]
  cases kind <;>
    simp [factory, FactoryModule.ofAssociations, FactoryModule.method,
      DispatchMethod.ofAssociation, Association.size, association]

/-- Every run ends in one of the four ways, whatever its settings and its graph are. -/
theorem run_outcome (settings : Settings) (graph : DeclarationGraph) :
    Outcome settings graph (run settings graph) where
  missing_iff := by
    intro option
    rw [result_run]
    by_cases hdirectory : settings.outputDirectory = none
    · simp [result_plan_of_none hdirectory, hdirectory, Except.map, eq_comm]
    · simp only [hdirectory, false_and, iff_false]
      intro hmissing
      have hplan : (plan settings graph).result = .error (.missingOutputDirectory option) := by
        cases h : (plan settings graph).result <;> simp_all [Except.map]
      rcases (result_plan_eq_error_iff hdirectory _).1 hplan with hfirst | ⟨_, hfirst⟩
      · exact not_firstObstruction_missing option hfirst
      · exact not_firstObstruction_missing option hfirst
  nothing_iff := by
    rw [result_run, unmarked_iff, ← result_plan_eq_ok_none_iff]
    cases (plan settings graph).result with
    | error failure => simp [Except.map]
    | ok planned => cases planned <;> simp [Except.map]
  artifact_iff := by
    have hmarked : (∃ d ∈ graph.declarations, ∃ kind, d.isMarked kind = true) ↔
        ¬ ∀ kind, graph.marked kind = [] := by
      rw [← unmarked_iff]
      simp
    rw [hmarked]
    constructor
    · rintro ⟨artifact, hartifact⟩
      obtain ⟨found, directory, hplan, _⟩ := (result_run_eq_ok_some_iff artifact).1 hartifact
      obtain ⟨hdirectory, hmarked, hassociable, _⟩ :=
        (result_plan_eq_ok_some_iff found directory).1 hplan
      exact ⟨by simp [hdirectory], hmarked, hassociable⟩
    · rintro ⟨hdirectory, hmarked, hassociable⟩
      obtain ⟨directory, hdirectory⟩ := Option.ne_none_iff_exists'.1 hdirectory
      have hplan := (result_plan_eq_ok_some_iff (factory settings graph) directory).2
        ⟨hdirectory, hmarked, hassociable, rfl⟩
      exact ⟨_, (result_run_eq_ok_some_iff _).2 ⟨_, _, hplan, rfl⟩⟩
  failure_iff := by
    intro hdirectory failure
    rw [result_run, ← result_plan_eq_error_iff hdirectory]
    cases (plan settings graph).result <;> simp [Except.map]
  delivered_of_artifact := by
    intro artifact hartifact
    obtain ⟨found, directory, hplan, rfl⟩ := (result_run_eq_ok_some_iff artifact).1 hartifact
    refine ⟨directory, ((result_plan_eq_ok_some_iff found directory).1 hplan).1, ?_⟩
    rw [deliveries_run, hplan]
  delivered_otherwise := by
    intro hnone
    rw [deliveries_run]
    split
    · next found directory hplan =>
        exact absurd ((result_run_eq_ok_some_iff _).2 ⟨found, directory, hplan, rfl⟩) (hnone _)
    · rfl
  branches_eq := by
    intro artifact hartifact
    obtain ⟨found, directory, hplan, rfl⟩ := (result_run_eq_ok_some_iff artifact).1 hartifact
    obtain ⟨_, _, hassociable, rfl⟩ := (result_plan_eq_ok_some_iff found directory).1 hplan
    exact ⟨branches_factory .fragment (hassociable .fragment),
      branches_factory .activity (hassociable .activity)⟩

end Generation

end OwnerBinding
