import Mathlib.Data.List.Perm.Subperm
import BeanDiscovery.Proofs.Visits

/-!
# The counters of a run

A run ends for every registry and all plugins, and its counters are exact. The main statement ties the
number of processed names to the visits, to the names that ever waited and to the nodes of the graph,
and bounds the number of inspections by the size of the registry.
-/
namespace BeanDiscovery.Run
open Offer

variable {env : Environment} {scans : ScanCache} {plugins : List Plugin}

/-- Each name taken off the worklist is inspected or skipped. -/
theorem length_taken (env : Environment) (scans : ScanCache) (plugins : List Plugin) :
    (complete env scans plugins).trail.taken.length =
      (complete env scans plugins).trail.inspected.length +
        (complete env scans plugins).trail.skipped.length := by
  rw [trail_complete]
  simp only [List.length_map]
  exact List.length_eq_length_filter_add _

/-- Only registered classes are inspected. -/
theorem mem_names_of_mem_inspected {name : ClassName}
    (h : name ∈ (complete env scans plugins).trail.inspected) : name ∈ env.registry.names := by
  rw [trail_complete] at h
  obtain ⟨visit, hvisit, rfl⟩ := List.mem_map.1 h
  obtain ⟨info, hinfo⟩ := Option.isSome_iff_exists.1 (List.mem_filter.1 hvisit).2
  exact Context.mem_names_of_target hinfo

theorem nodup_taken (hf : (complete env scans plugins).failure = none) :
    ((visits env scans plugins).map (·.candidate)).Nodup := by
  rw [candidates_complete hf]
  exact nodup_names_firsts _

theorem nodup_inspected (hf : (complete env scans plugins).failure = none) :
    (complete env scans plugins).trail.inspected.Nodup := by
  rw [trail_complete]
  exact (nodup_taken hf).sublist (List.filter_sublist.map _)

theorem length_inspected_le (hf : (complete env scans plugins).failure = none) :
    (complete env scans plugins).trail.inspected.length ≤ env.registry.size := by
  have h := (List.subperm_of_subset (nodup_inspected hf)
    fun _ => mem_names_of_mem_inspected).length_le
  rwa [TypeRegistry.names, List.length_map] at h

/-- A run ends after finitely many visits. If it ends well, no name was visited twice and none began to
wait twice; the processed names are counted as inspected or skipped, and there are as many of them as
visits, as names that ever waited and as nodes of the graph. No more classes are inspected than the
registry has. -/
theorem complete_ends_with_exact_counters (env : Environment) (scans : ScanCache)
    (plugins : List Plugin) :
    Visits env (seeded env scans plugins) (visits env scans plugins)
      (complete env scans plugins) ∧
    ∀ assembler report, (complete env scans plugins).report assembler = .ok report →
      ((visits env scans plugins).map (·.candidate)).Nodup ∧
      report.stats.processed = (visits env scans plugins).length ∧
      report.stats.processed = report.stats.inspected + report.stats.skipped ∧
      (enqueued env scans plugins).Nodup ∧
      report.stats.processed = (enqueued env scans plugins).length ∧
      report.stats.processed = report.graph.nodes.size ∧
      report.stats.inspected ≤ env.registry.size := by
  refine ⟨visits_complete env scans plugins, fun assembler report hreport => ?_⟩
  have hf := failure_of_report hreport
  have hprocessed : (complete env scans plugins).trail.taken =
      names (firsts (offers env scans plugins)) := by
    rw [trail_complete]
    exact candidates_complete hf
  obtain rfl := eq_of_report hreport
  refine ⟨nodup_taken hf, ?_, length_taken env scans plugins, ?_, ?_, ?_, length_inspected_le hf⟩
  · change (complete env scans plugins).trail.taken.length = _
    rw [trail_complete, List.length_map]
  · rw [enqueued_eq]
    exact nodup_names_firsts _
  · rw [enqueued_eq]
    exact congrArg List.length hprocessed
  · have hnodes := nodes_complete env scans plugins
    exact congrArg List.length (hprocessed.trans hnodes.symm)

theorem exact_counters_circle :
    (complete circle {} [circlePlugin]).report {} = .ok circleReport ∧
    circleReport.stats.processed = circleReport.stats.inspected + circleReport.stats.skipped ∧
    circleReport.stats.processed = (enqueued circle {} [circlePlugin]).length := by
  obtain ⟨-, -, hsum, -, henqueued, -⟩ :=
    (complete_ends_with_exact_counters circle {} [circlePlugin]).2 {} circleReport report_circle
  exact ⟨report_circle, hsum, henqueued⟩

end BeanDiscovery.Run
