import BeanDiscovery.Proofs.References

/-!
# The plugins of the library

What holds of every plugin of this library, in any list of them. The main statements say that they tell the
truth about libraries, and that none of them fails but for the extension of an inspected class.
-/
namespace BeanDiscovery.Plugin

/-- The plugins of this library. What they learn about libraries they have yet to find out. -/
inductive IsBuiltIn : Plugin → Prop
  | standard : IsBuiltIn .standard
  | testMarkers (package : String) : IsBuiltIn (.testMarkers package)
  | mocking (framework : MockFramework) : IsBuiltIn (.mocking framework)
  | testScope : IsBuiltIn .testScope
  | viewScope : IsBuiltIn .viewScope
  | producerConfig : IsBuiltIn .producerConfig
  | partialBeanProxies : IsBuiltIn .partialBeanProxies

variable {env : Environment} {registry : TypeRegistry} {memory : ScanCache} {plugin : Plugin}
  {plugins : List Plugin}

theorem isBuiltIn_standard_testMarkers (package : String) :
    ∀ plugin ∈ [standard, testMarkers package], plugin.IsBuiltIn :=
  List.forall_mem_cons.2 ⟨.standard, List.forall_mem_singleton.2 (.testMarkers package)⟩

theorem isBuiltIn_defaultSet (package : String) :
    ∀ plugin ∈ defaultSet package, plugin.IsBuiltIn := by
  intro plugin hplugin
  simp only [defaultSet, List.mem_cons, List.not_mem_nil, or_false] at hplugin
  rcases hplugin with rfl | rfl | rfl | rfl | rfl | rfl | rfl | rfl
  all_goals constructor

/-! ## Probes -/

/-- A plugin without answers tells no lies. -/
theorem IsBuiltIn.truthful (h : plugin.IsBuiltIn) (registry : TypeRegistry) :
    plugin.Truthful registry := by
  cases h <;> exact fun _ hprobe => (List.not_mem_nil hprobe).elim

theorem truthful_of_builtIn (h : ∀ plugin ∈ plugins, plugin.IsBuiltIn) (registry : TypeRegistry) :
    ∀ plugin ∈ plugins, plugin.Truthful registry :=
  fun plugin hplugin => (h plugin hplugin).truthful registry

theorem truthful_standard_testMarkers (registry : TypeRegistry) (package : String) :
    ∀ plugin ∈ [standard, testMarkers package], plugin.Truthful registry :=
  truthful_of_builtIn (isBuiltIn_standard_testMarkers package) registry

theorem truthful_defaultSet (registry : TypeRegistry) (package : String) :
    ∀ plugin ∈ defaultSet package, plugin.Truthful registry :=
  truthful_of_builtIn (isBuiltIn_defaultSet package) registry

/-! ## Failures -/

theorem extensionContribution_of_concrete {info : ClassInfo}
    (h : info.isConcreteExtension env.container = true) :
    extensionContribution env info = match env.container.instantiate info with
      | .ok extension => .act (.register ⟨extension, info.name.text⟩) .done
      | .error cause => .fail (.extensionInstantiation info.name cause) := by
  have hconcrete : ¬ (info.isAbstract || !env.container.isExtensionType info) = true := by
    simpa [ClassInfo.isConcreteExtension] using h
  rw [extensionContribution]
  exact if_neg hconcrete

theorem extensionContribution_of_not_concrete {info : ClassInfo}
    (h : ¬ info.isConcreteExtension env.container = true) :
    extensionContribution env info = .done := by
  have hplain : (info.isAbstract || !env.container.isExtensionType info) = true := by
    simpa [ClassInfo.isConcreteExtension, Classical.or_iff_not_imp_left] using h
  rw [extensionContribution, if_pos hplain]

theorem verdict_ite_actions (condition : Prop) [Decidable condition] (actions : List Action) :
    (if condition then Contribution.actions actions else .done).verdict registry memory = none := by
  split
  · exact Contribution.verdict_actions registry memory actions
  · rfl

/-- The plugin for the container's own notions fails for a class only on its extension. -/
theorem verdict_standard_process (env : Environment) (registry : TypeRegistry) (memory : ScanCache)
    (info : ClassInfo) :
    (standard.respond env (.process info)).verdict registry memory =
      (extensionContribution env info).verdict registry memory := by
  change (extensionContribution env info ++ _).verdict registry memory = _
  rw [Contribution.verdict_append, Contribution.verdict_actions, Option.or_none]

/-- If a plugin of this library fails, then because of the extension of an inspected class. -/
theorem IsBuiltIn.verdict (h : plugin.IsBuiltIn) (env : Environment) (point : HookPoint)
    (memory : ScanCache) :
    (plugin.respond env point).verdict env.registry memory = none ∨
      ∃ info, point = .process info ∧ (plugin.respond env point).verdict env.registry memory =
        (extensionContribution env info).verdict env.registry memory := by
  cases h with
  | standard =>
    cases point with
    | bootstrap test => exact Or.inl rfl
    | process info =>
      exact Or.inr ⟨info, rfl, verdict_standard_process env env.registry memory info⟩
    | field info field => exact Or.inl (verdict_ite_actions _ _)
    | method info method => exact Or.inl (verdict_ite_actions _ _)
  | testMarkers package =>
    cases point with
    | bootstrap test => exact Or.inl rfl
    | process info => exact Or.inl (verdict_testMarkersOnClass package env.registry memory info)
    | field info field => exact Or.inl (verdict_ite_actions _ _)
    | method info method => exact Or.inl (verdict_ite_actions _ _)
  | mocking framework =>
    cases point with
    | bootstrap test => exact Or.inl (verdict_ite_actions _ _)
    | process info => exact Or.inl rfl
    | field info field => exact Or.inl (verdict_ite_actions _ _)
    | method info method => exact Or.inl rfl
  | testScope => cases point <;> exact Or.inl rfl
  | viewScope =>
    cases point with
    | bootstrap test => exact Or.inl (verdict_ite_actions _ _)
    | _ => exact Or.inl rfl
  | producerConfig =>
    cases point with
    | bootstrap test => exact Or.inl (verdict_ite_actions _ _)
    | _ => exact Or.inl rfl
  | partialBeanProxies =>
    cases point with
    | process info =>
      left
      change (if info.name = proxySupportMarker then
        Contribution.sequence (proxySentinels.map proxyArchive) else .done).verdict _ _ = none
      split
      · refine Contribution.verdict_sequence.2 fun contribution hmem => ?_
        obtain ⟨sentinel, -, rfl⟩ := List.mem_map.1 hmem
        exact verdict_proxyArchive sentinel
      · rfl
    | _ => exact Or.inl rfl

end BeanDiscovery.Plugin
