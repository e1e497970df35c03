import OwnerBinding.Proofs.Declaration.Lookup
import OwnerBinding.Proofs.Dispatch
import OwnerBinding.Storage

/-!
# What a run looks at

A run looks at the marked declarations of its graph, in their order, and at what it finds under the
names that their bindings are looked up by. Two graphs that agree in this much
(`DeclarationGraph.Agrees`) have the same runs: the same result, the same notices, the same writes.

So unmarked declarations matter only for what is found under those names. One that stands behind
another of its name, or whose name nobody looks up, can come and go (`run_insert`), and if no name is
repeated, all of them can stand anywhere (`run_perm`).
-/

namespace OwnerBinding

namespace DeclarationGraph

/-- The marked declarations of two graphs are the same, and so is what is found for them. -/
structure Agrees (graph other : DeclarationGraph) : Prop where
  marked_eq : ∀ kind, graph.marked kind = other.marked kind
  get?_eq : ∀ kind, ∀ d ∈ graph.marked kind, ∀ name, d.AsksFor name →
    graph.get? name = other.get? name

variable {graph other : DeclarationGraph}

theorem Agrees.scan_eq (h : graph.Agrees other) (kind : OwnerKind) :
    scan graph.declarations kind = scan other.declarations kind := by
  rw [DeclarationGraph.scan_eq, DeclarationGraph.scan_eq, h.marked_eq]

theorem Agrees.get?_eq_of_mem_scan (h : graph.Agrees other) {kind : OwnerKind}
    {owner : ScannedOwner} (howner : owner ∈ scan graph.declarations kind) {name : String}
    (hname : owner.declaration.AsksFor name) : graph.get? name = other.get? name := by
  rw [DeclarationGraph.scan_eq] at howner
  obtain ⟨d, hd, rfl⟩ := List.mem_map.1 howner
  exact h.get?_eq kind d hd name hname

end DeclarationGraph

namespace Association

variable {resolver other : Resolver}

theorem extend_congr (allowOverrides : Bool) {owners : List ScannedOwner}
    (h : ∀ owner ∈ owners, resolver.resolve owner.declaration = other.resolve owner.declaration)
    (association : Association) :
    association.extend resolver allowOverrides owners =
      association.extend other allowOverrides owners := by
  induction owners generalizing association with
  | nil => rfl
  | cons owner rest ih =>
      rw [List.forall_mem_cons] at h
      rw [extend, extend, h.1]
      congr 1
      funext binding
      congr 1
      funext extended
      exact ih h.2 extended

end Association

namespace Generation

variable {graph other : DeclarationGraph}

theorem associate_congr (settings : Settings) (h : graph.Agrees other) (kind : OwnerKind) :
    associate (settings.resolver graph) settings.allowOwnerOverrides
        (scan graph.declarations kind) =
      associate (settings.resolver other) settings.allowOwnerOverrides
        (scan graph.declarations kind) := by
  apply Association.extend_congr
  intro owner howner
  have hcontract : (settings.resolver graph).contract = (settings.resolver other).contract := rfl
  apply Resolver.resolve_congr hcontract
  intro name hname
  exact h.get?_eq_of_mem_scan howner hname

theorem renderOwners_congr (settings : Settings) (h : graph.Agrees other) :
    renderOwners settings graph (scan graph.declarations .fragment)
        (scan graph.declarations .activity) =
      renderOwners settings other (scan graph.declarations .fragment)
        (scan graph.declarations .activity) := by
  rw [renderOwners_eq, renderOwners_eq, associate_congr settings h .fragment]
  simp only [associate_congr settings h .activity]

theorem plan_congr (settings : Settings) (h : graph.Agrees other) :
    plan settings graph = plan settings other := by
  have hrender := renderOwners_congr settings h
  rw [h.scan_eq .fragment, h.scan_eq .activity] at hrender
  rw [plan, plan]
  simp only [h.scan_eq, hrender]

theorem run_congr (settings : Settings) (h : graph.Agrees other) :
    run settings graph = run settings other := by
  rw [run, run, plan_congr settings h]

end Generation

namespace DeclarationGraph

variable {graph other : DeclarationGraph}

/-- An unmarked declaration is found by its name only if no other one stands before it. -/
theorem agrees_insert {before after : List Declaration} {d : Declaration}
    (hmarked : ∀ kind, d.isMarked kind = false)
    (hname : (∃ e ∈ before, e.qualifiedName = d.qualifiedName) ∨
      ∀ kind, ∀ e ∈ marked { declarations := before ++ after } kind,
        ¬ e.AsksFor d.qualifiedName) :
    Agrees { declarations := before ++ after } { declarations := before ++ d :: after } where
  marked_eq := by
    intro kind
    simp [marked, hmarked kind]
  get?_eq := by
    intro kind e he name hasks
    simp only [get?_eq_find?, List.find?_append, List.find?_cons]
    by_cases hd : d.qualifiedName = name
    · have hbefore : ∃ e ∈ before, e.qualifiedName = d.qualifiedName := by
        rcases hname with hbefore | hunasked
        · exact hbefore
        · rw [hd] at hunasked
          exact absurd hasks (hunasked kind e he)
      rw [hd] at hbefore
      have hfound : (before.find? fun e => e.qualifiedName = name).isSome = true := by
        simpa using hbefore
      obtain ⟨found, hfound⟩ := Option.isSome_iff_exists.1 hfound
      simp [hfound]
    · simp [hd]

theorem agrees_of_perm (hmarked : ∀ kind, graph.marked kind = other.marked kind)
    (hperm : graph.declarations.Perm other.declarations)
    (hnames : (graph.declarations.map (·.qualifiedName)).Nodup) : graph.Agrees other where
  marked_eq := hmarked
  get?_eq := fun _ _ _ name _ => get?_eq_of_perm hperm hnames name

end DeclarationGraph

namespace Generation

variable {graph other : DeclarationGraph}

/-- An unmarked declaration can come and go, unless the binding of a marked one is looked up by its
name and nothing before it has this name. -/
theorem run_insert (settings : Settings) {before after : List Declaration} {d : Declaration}
    (hmarked : ∀ kind, d.isMarked kind = false)
    (hname : (∃ e ∈ before, e.qualifiedName = d.qualifiedName) ∨
      ∀ kind, ∀ e ∈ DeclarationGraph.marked { declarations := before ++ after } kind,
        ¬ e.AsksFor d.qualifiedName) :
    run settings { declarations := before ++ d :: after } =
      run settings { declarations := before ++ after } :=
  (run_congr settings (DeclarationGraph.agrees_insert hmarked hname)).symm

/-- Where no name is repeated, only the order of the marked declarations matters. -/
theorem run_perm (settings : Settings) (hmarked : ∀ kind, graph.marked kind = other.marked kind)
    (hperm : graph.declarations.Perm other.declarations)
    (hnames : (graph.declarations.map (·.qualifiedName)).Nodup) :
    run settings graph = run settings other :=
  run_congr settings (DeclarationGraph.agrees_of_perm hmarked hperm hnames)

/-- Graphs that agree have the same runs, and these leave the same behind in every storage. -/
theorem runs_eq_of_agrees (settings : Settings) (h : graph.Agrees other) :
    run settings graph = run settings other ∧
      ∀ storage : Storage, storage.generate settings graph = storage.generate settings other := by
  have hrun := run_congr settings h
  refine ⟨hrun, ?_⟩
  intro storage
  rw [Storage.generate, Storage.generate, hrun]

end Generation

namespace Screens

/-- A declaration that no other one mentions. -/
def helper : Declaration := { base with name := "Helper" }

/-- The screens with their bindings in another order, without their base and with a helper. -/
def reordered : DeclarationGraph where
  declarations := [detailBinding, listScreen, helper, detailScreen, listBinding]

theorem agrees_reordered : graph.Agrees reordered where
  marked_eq := by
    intro kind
    cases kind <;> rfl
  get?_eq := by
    intro kind d hd name hname
    obtain ⟨superclass, hsuperclass, _, argument, hargument, _, hargumentName⟩ := hname
    have howner : d = listScreen ∨ d = detailScreen := by
      cases kind with
      | activity =>
          have hempty : graph.marked .activity = [] := rfl
          rw [hempty] at hd
          cases hd
      | fragment =>
          rw [marked_fragment] at hd
          simpa using hd
    rcases howner with rfl | rfl
    · cases hsuperclass
      cases List.mem_singleton.1 hargument
      cases hargumentName
      rfl
    · cases hsuperclass
      cases List.mem_singleton.1 hargument
      cases hargumentName
      rfl

theorem runs_eq_reordered : graph ≠ reordered ∧ graph.Agrees reordered ∧
    Generation.run settings graph = Generation.run settings reordered ∧
      ∀ storage : Storage, storage.generate settings graph = storage.generate settings reordered :=
  ⟨by decide, agrees_reordered, Generation.runs_eq_of_agrees settings agrees_reordered⟩

end Screens

end OwnerBinding
