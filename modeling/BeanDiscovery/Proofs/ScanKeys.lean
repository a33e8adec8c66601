import BeanDiscovery.Proofs.VisitSteps

/-!
# Keys of remembered scans

A scan is remembered under a text. For locations of the plain form, without a further colon and without an
at sign, the text tells which scan it was, so a memory that began empty holds under each such key what the
scanner finds. The main statement keeps this through all steps of a run over plain locations.
-/
namespace BeanDiscovery

namespace Text

theorem pieces_injective {sep : Char} {first second : List Char}
    (h : pieces sep first = pieces sep second) : first = second := by
  rw [← joined_pieces sep first, h, joined_pieces]

/-- Lists are known by their pieces when all elements have equally many, and at least one. -/
theorem eq_of_flatMap_eq {α β : Type} {f : α → List β} {n : Nat} {first second : List α}
    (hfirst : ∀ a ∈ first, (f a).length = n + 1) (hsecond : ∀ a ∈ second, (f a).length = n + 1)
    (hf : ∀ a b, f a = f b → a = b) (h : first.flatMap f = second.flatMap f) : first = second := by
  induction first generalizing second with
  | nil =>
    cases second with
    | nil => rfl
    | cons b second =>
      have hlength := (List.forall_mem_cons.1 hsecond).1
      rw [List.flatMap_cons, List.flatMap_nil, eq_comm, List.append_eq_nil_iff] at h
      rw [h.1] at hlength
      cases hlength
  | cons a first ih =>
    obtain ⟨ha, hfirst⟩ := List.forall_mem_cons.1 hfirst
    cases second with
    | nil =>
      rw [List.flatMap_cons, List.flatMap_nil, List.append_eq_nil_iff] at h
      rw [h.1] at ha
      cases ha
    | cons b second =>
      obtain ⟨hb, hsecond⟩ := List.forall_mem_cons.1 hsecond
      obtain ⟨hab, hrest⟩ := List.append_inj h (ha.trans hb.symm)
      rw [hf a b hab, ih hfirst hsecond hrest]

end Text

theorem Url.eq_of_toList_eq {root other : Url} (h : root.text.toList = other.text.toList) :
    root = other := by
  cases root; cases other
  exact congrArg Url.mk (String.toList_inj.1 h)

/-- A location of the form file:///path, with neither a further colon nor an at sign. -/
def Url.IsPlain (root : Url) : Prop :=
  ∃ path : String, root.text = "file:///" ++ path ∧ ':' ∉ path.toList ∧ '@' ∉ path.toList

namespace Url.IsPlain
open Text

theorem iff_toList {root : Url} : root.IsPlain ↔
    root.text.toList.take 8 = "file:///".toList ∧
      ':' ∉ root.text.toList.drop 8 ∧ '@' ∉ root.text.toList.drop 8 := by
  constructor
  · rintro ⟨path, htext, hcolon, hat⟩
    have hlist : root.text.toList = "file:///".toList ++ path.toList := by
      rw [htext, String.toList_append]
    rw [hlist]
    exact ⟨rfl, hcolon, hat⟩
  · rintro ⟨htake, hcolon, hat⟩
    have hdrop : (String.ofList (root.text.toList.drop 8)).toList = root.text.toList.drop 8 :=
      String.toList_ofList
    rw [← hdrop] at hcolon hat
    refine ⟨String.ofList (root.text.toList.drop 8), String.toList_inj.1 ?_, hcolon, hat⟩
    rw [String.toList_append, hdrop, ← htake, List.take_append_drop]

instance (root : Url) : Decidable root.IsPlain := decidable_of_iff _ iff_toList.symm

theorem length_pieces {root : Url} (h : root.IsPlain) :
    (pieces ':' root.text.toList).length = 2 := by
  obtain ⟨path, htext, hcolon, -⟩ := h
  have hsplit : root.text.toList = "file".toList ++ ':' :: ("///".toList ++ path.toList) := by
    rw [htext, String.toList_append]
    rfl
  have hrest : ':' ∉ "///".toList ++ path.toList := by simpa using hcolon
  rw [hsplit, pieces_append, pieces_of_notMem hrest, pieces_of_notMem (by decide)]
  rfl

theorem at_notMem {root : Url} (h : root.IsPlain) : '@' ∉ root.text.toList := by
  obtain ⟨path, htext, -, hat⟩ := h
  rw [htext, String.toList_append, List.mem_append, not_or]
  exact ⟨by decide, hat⟩

end Url.IsPlain

namespace ScanCache
open Text

/-- The pieces of a key are those of its roots. -/
theorem pieces_classpathKey {roots : List Url} (hne : roots ≠ []) :
    pieces ':' (classpathKey roots).toList = roots.flatMap fun root => pieces ':' root.text.toList := by
  induction roots with
  | nil => exact absurd rfl hne
  | cons root roots ih =>
    cases roots with
    | nil => simp [classpathKey]
    | cons next rest =>
      have hkey : (classpathKey (root :: next :: rest)).toList =
          root.text.toList ++ ':' :: (classpathKey (next :: rest)).toList := by
        simp [classpathKey, String.intercalate_cons_cons, String.toList_append]
      rw [hkey, pieces_append, ih (List.cons_ne_nil _ _)]
      rfl

/-- A key of plain locations tells the locations. -/
theorem classpathKey_injective {roots others : List Url} (hroots : ∀ root ∈ roots, root.IsPlain)
    (hothers : ∀ root ∈ others, root.IsPlain) (hne : roots ≠ []) (hne' : others ≠ [])
    (h : classpathKey roots = classpathKey others) : roots = others := by
  have hpieces := pieces_classpathKey hne
  rw [h, pieces_classpathKey hne'] at hpieces
  refine eq_of_flatMap_eq (fun root hroot => (hroots root hroot).length_pieces)
    (fun root hroot => (hothers root hroot).length_pieces) (fun first second heq => ?_) hpieces.symm
  exact Url.eq_of_toList_eq (pieces_injective heq)

/-- A key of a package below a plain location tells the package and the location. -/
theorem packageKey_injective {package other : String} {root root' : Url} (hroot : root.IsPlain)
    (hroot' : root'.IsPlain) (h : packageKey package root = packageKey other root') :
    package = other ∧ root = root' := by
  have hpieces : ∀ (package : String) {root : Url}, root.IsPlain →
      pieces '@' (packageKey package root).toList =
        pieces '@' package.toList ++ [root.text.toList] := fun package {root} hplain => by
    have hkey : (packageKey package root).toList =
        package.toList ++ '@' :: root.text.toList := by
      simp [packageKey, String.toList_append]
    rw [hkey, pieces_append, pieces_of_notMem hplain.at_notMem]
  have heq := hpieces package hroot
  rw [h, hpieces other hroot'] at heq
  obtain ⟨hpackage, htext⟩ := List.append_inj' heq rfl
  exact ⟨String.toList_inj.1 (pieces_injective hpackage.symm),
    Url.eq_of_toList_eq (List.singleton_inj.1 htext.symm)⟩

/-! ## Exact memories -/

/-- Under a key of plain locations the memory holds what the scanner finds there. -/
structure Exact (scanner : Scanner) (memory : ScanCache) : Prop where
  classpath : ∀ {roots names}, (∀ root ∈ roots, root.IsPlain) → roots ≠ [] →
    memory.classpathScans.get? (classpathKey roots) = some names → names = scanner.classNames roots
  package : ∀ {package root names}, root.IsPlain →
    memory.packageScans.get? (packageKey package root) = some names →
      names = scanner.packageClassNames package root

variable {scanner : Scanner} {cache : ScanCache}

theorem exact_fresh (scanner : Scanner) : Exact scanner {} :=
  ⟨fun _ _ hkey => (Option.some_ne_none _ hkey.symm).elim,
    fun _ hkey => (Option.some_ne_none _ hkey.symm).elim⟩

theorem Exact.classNamesForClasspath (h : cache.Exact scanner) {roots : List Url}
    (hroots : ∀ root ∈ roots, root.IsPlain) (hne : roots ≠ []) :
    (cache.classNamesForClasspath scanner roots).2.Exact scanner := by
  unfold ScanCache.classNamesForClasspath
  split
  · exact ⟨h.classpath, h.package⟩
  · refine ⟨fun {others names} hothers hne' hkey => ?_, h.package⟩
    rw [Table.get?_insert] at hkey
    split at hkey
    next heq =>
      rw [← classpathKey_injective hroots hothers hne hne' heq]
      exact (Option.some.inj hkey).symm
    next => exact h.classpath hothers hne' hkey

theorem Exact.classNamesForPackage (h : cache.Exact scanner) (package : String) {root : Url}
    (hroot : root.IsPlain) : (cache.classNamesForPackage scanner package root).2.Exact scanner := by
  unfold ScanCache.classNamesForPackage
  split
  · exact ⟨h.classpath, h.package⟩
  · refine ⟨h.classpath, fun {other root' names} hroot' hkey => ?_⟩
    rw [Table.get?_insert] at hkey
    split at hkey
    next heq =>
      obtain ⟨rfl, rfl⟩ := packageKey_injective hroot hroot' heq
      exact (Option.some.inj hkey).symm
    next => exact h.package hroot' hkey

end ScanCache

/-! ## Runs over plain locations -/

namespace TypeRegistry

/-- All classes come from plain locations. -/
def IsPlain (registry : TypeRegistry) : Prop :=
  ∀ info ∈ registry.classes, ∀ root ∈ info.location.toList, root.IsPlain

instance (registry : TypeRegistry) : Decidable registry.IsPlain := List.decidableBAll _ _

theorem IsPlain.location {registry : TypeRegistry} (h : registry.IsPlain) {name : ClassName}
    {root : Url} (hroot : registry.locationOf name = some root) : root.IsPlain := by
  obtain ⟨info, hinfo, hlocation⟩ := Option.bind_eq_some_iff.1 hroot
  exact h info (mem_of_resolve hinfo) root (Option.mem_toList.2 hlocation)

end TypeRegistry

namespace Context
variable {env : Environment} {context : Context}

theorem mem_rootsOf {registry : TypeRegistry} {bases : List ClassName} {root : Url} :
    root ∈ rootsOf registry bases ↔ ∃ base ∈ bases, registry.locationOf base = some root := by
  rw [rootsOf, ← OrderedSet.mem_def, OrderedSet.mem_ofList, List.mem_filterMap]

theorem isPlain_of_mem_rootsOf {registry : TypeRegistry} (hplain : registry.IsPlain)
    {bases : List ClassName} : ∀ root ∈ rootsOf registry bases, root.IsPlain := fun _ hroot => by
  obtain ⟨base, -, hbase⟩ := mem_rootsOf.1 hroot
  exact hplain.location hbase

theorem exact_scanArchives (hplain : env.registry.IsPlain) (h : context.scans.Exact env.scanner)
    (bases : List ClassName) : (context.scanArchives env bases).2.scans.Exact env.scanner := by
  rw [scanArchives]
  split
  · exact h
  next hne => exact h.classNamesForClasspath (isPlain_of_mem_rootsOf hplain) hne

theorem exact_scanPackages (hplain : env.registry.IsPlain) (h : context.scans.Exact env.scanner)
    (bases : List ClassName) : (context.scanPackages env bases).2.scans.Exact env.scanner := by
  induction bases generalizing context with
  | nil => exact h
  | cons base bases ih =>
    have hfirst : (context.scanPackage env base).2.scans.Exact env.scanner := by
      rw [scanPackage]
      split
      · exact h
      next root hroot => exact h.classNamesForPackage base.package (hplain.location hroot)
    exact ih hfirst

theorem exact_take (hplain : env.registry.IsPlain) (h : context.scans.Exact env.scanner)
    (step : HookStep) : (context.take env step).scans.Exact env.scanner := by
  cases step with
  | act action =>
    cases action with
    | offer ref => exact (scans_enqueueAll context _).symm ▸ h
    | offerPackage ref => exact (scans_enqueueAll _ _).symm ▸ exact_scanPackages hplain h _
    | offerArchive ref => exact (scans_enqueueAll _ _).symm ▸ exact_scanArchives hplain h _
    | _ => exact h
  | scanArchives bases => exact exact_scanArchives hplain h bases
  | scanPackages bases => exact exact_scanPackages hplain h bases

theorem exact_takeAll (hplain : env.registry.IsPlain) (h : context.scans.Exact env.scanner)
    (steps : List HookStep) : (context.takeAll env steps).scans.Exact env.scanner := by
  induction steps generalizing context with
  | nil => exact h
  | cons step steps ih => exact ih (exact_take hplain h step)

theorem scans_turnTo (context : Context) (info : ClassInfo) :
    (context.turnTo info).scans = context.scans := by
  rw [turnTo]
  split <;> rfl

end Context

namespace Run
variable {env : Environment}

theorem exact_visit (hplain : env.registry.IsPlain) {run : Run}
    (h : run.context.scans.Exact env.scanner) (candidate : ClassName) :
    (run.visit env candidate).context.scans.Exact env.scanner := by
  cases ht : run.context.target? env candidate with
  | none => rwa [context_visit_of_skipped ht]
  | some info =>
    have hturn : (run.context.turnTo info).scans.Exact env.scanner :=
      (Context.scans_turnTo run.context info).symm ▸ h
    rw [context_visit_of_target ht]
    exact Context.exact_takeAll hplain hturn _

theorem exact_seeded (hplain : env.registry.IsPlain) (plugins : List Plugin) :
    (seeded env {} plugins).context.scans.Exact env.scanner := by
  have hcall := context_call (start env {} plugins) env (.bootstrap env.configuration.testClass)
  have hscans : (start env {} plugins).context.scans = (Context.start env {}).scans :=
    Context.scans_enqueueAll ((Context.start env {}).discover env.configuration.testClass)
      [env.configuration.testClass]
  have hfresh := ScanCache.exact_fresh env.scanner
  have hstart : (start env {} plugins).context.scans.Exact env.scanner :=
    hscans ▸ ⟨hfresh.classpath, hfresh.package⟩
  refine (Context.scans_enqueueAll _ _).symm ▸ ?_
  rw [← context, hcall]
  exact Context.exact_takeAll hplain hstart _

/-- A run over plain locations that begins with an empty memory remembers what the scanner finds. -/
theorem exact_complete (hplain : env.registry.IsPlain) (plugins : List Plugin) :
    (complete env {} plugins).context.scans.Exact env.scanner :=
  ((visits_complete env {} plugins).invariant
    (P := fun run => run.context.scans.Exact env.scanner)
    (fun _ candidate _ _ h => exact_visit hplain h candidate) (exact_seeded hplain plugins)).1

end Run
end BeanDiscovery
