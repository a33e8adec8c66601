import BeanDiscovery.Proofs.ScanRequests

/-!
# Sessions over a changing registry

Between the requests to a memory of scans, roots are added to the registry behind it and classes are
registered. The main statement says that no such change reaches an answer that was given before: names are
what the registry held at the first request under the same key, roots and bean archives are settled by their
first readings, and the counters count the different requests and the repeated ones.
-/
namespace BeanDiscovery

namespace Dialogue
open Exchange
variable {dialogue : Dialogue}

/-- Names are remembered under a text if and only if they were asked for. -/
theorem Recorded.mem_keys_table (h : dialogue.Recorded) {kind : ScanKind} {text : String} :
    text ∈ (dialogue.memory.table kind).keys ↔
      ∃ exchange ∈ dialogue.log, exchange.request.key? = some ⟨kind, text⟩ := by
  have hnames := congrArg Option.isSome (h.names ⟨kind, text⟩)
  rw [firstNames?, Option.isSome_map, Option.isSome_map] at hnames
  rw [← Table.get?_isSome]
  change (dialogue.memory.lookup? ⟨kind, text⟩).isSome = true ↔ _
  rw [hnames, List.find?_isSome]
  simp [hasKey]

theorem Recorded.size_table (h : dialogue.Recorded) (kind : ScanKind) :
    (dialogue.memory.table kind).size = distinctKeys dialogue.log kind := by
  have hkeys : (dialogue.log.filterMap (·.request.key?)).toFinset.filter (·.kind = kind) =
      (dialogue.memory.table kind).keys.toFinset.image (ScanKey.mk kind) := by
    ext ⟨other, text⟩
    simp only [Finset.mem_filter, List.mem_toFinset, List.mem_filterMap, Finset.mem_image,
      h.mem_keys_table, ScanKey.mk.injEq]
    constructor
    · rintro ⟨⟨exchange, hmem, hkey⟩, rfl⟩
      exact ⟨text, ⟨exchange, hmem, hkey⟩, rfl, rfl⟩
    · rintro ⟨_, ⟨exchange, hmem, hkey⟩, rfl, rfl⟩
      exact ⟨⟨exchange, hmem, hkey⟩, rfl⟩
  have hinjective : Function.Injective (ScanKey.mk kind) := by
    intro first second heq
    exact (ScanKey.mk.inj heq).2
  have hnodup : (dialogue.memory.table kind).keys.Nodup := (dialogue.memory.table kind).nodup
  rw [distinctKeys, hkeys, Finset.card_image_of_injective _ hinjective,
    List.toFinset_card_of_nodup hnodup, Table.length_keys]

/-- The remembered lists: one for each key of either kind, and the bean archives once asked for. -/
theorem Recorded.cachedEntries_eq (h : dialogue.Recorded) :
    dialogue.memory.cachedEntries =
      distinctKeys dialogue.log .classpath + distinctKeys dialogue.log .package +
        if dialogue.log.any asksArchives then 1 else 0 := by
  have harchives : dialogue.memory.archives.isSome = dialogue.log.any asksArchives := by
    apply Bool.eq_iff_iff.2
    rw [h.archives, firstArchives?_isSome, List.find?_isSome, List.any_eq_true]
  have hclasspath := h.size_table .classpath
  have hpackage := h.size_table .package
  rw [ScanCache.cachedEntries, harchives, ← hclasspath, ← hpackage]
  rfl

theorem Recorded.answer_of_key (h : dialogue.Recorded) {exchange : Exchange}
    (hmem : exchange ∈ dialogue.log) {key : ScanKey} (hkey : exchange.request.key? = some key) :
    ∃ first, dialogue.log.find? (hasKey key) = some first ∧ exchange.answer = first.scanned := by
  have hanswered := h.answered exchange hmem
  rw [recollect_of_key hkey] at hanswered
  obtain ⟨first, hfirst, hscanned⟩ := Option.map_eq_some_iff.1 hanswered
  exact ⟨first, hfirst, hscanned.symm⟩

theorem Recorded.answer_of_roots (h : dialogue.Recorded) {exchange : Exchange}
    (hmem : exchange ∈ dialogue.log) (hrequest : exchange.request = .allRoots) :
    ∃ first, dialogue.log.find? readsRoots = some first ∧
      exchange.answer = .locations first.scanner.roots := by
  have hanswered := h.answered exchange hmem
  rw [hrequest] at hanswered
  obtain ⟨roots, hroots, hanswer⟩ := Option.map_eq_some_iff.1 hanswered
  obtain ⟨first, hfirst, rfl⟩ := Option.map_eq_some_iff.1 hroots
  exact ⟨first, hfirst, hanswer.symm⟩

theorem Recorded.answer_of_archives (h : dialogue.Recorded) {exchange : Exchange}
    (hmem : exchange ∈ dialogue.log) (hrequest : exchange.request = .beanArchives) :
    ∃ reader first, dialogue.log.find? readsRoots = some reader ∧
      dialogue.log.find? asksArchives = some first ∧
      exchange.answer = .locations (first.scanner.beanArchives reader.scanner.roots) := by
  have hanswered := h.answered exchange hmem
  rw [hrequest] at hanswered
  obtain ⟨archives, harchives, hanswer⟩ := Option.map_eq_some_iff.1 hanswered
  obtain ⟨first, hfirst, hmap⟩ := Option.bind_eq_some_iff.1 harchives
  obtain ⟨roots, hroots, rfl⟩ := Option.map_eq_some_iff.1 hmap
  obtain ⟨reader, hreader, rfl⟩ := Option.map_eq_some_iff.1 hroots
  exact ⟨reader, first, hreader, hfirst, hanswer.symm⟩

end Dialogue

/-! ## Sessions -/

/-- What happens to a memory of scans and to the registry behind it. -/
inductive ScanEvent where
  | ask (request : ScanRequest)
  | addRoot (root : Url) (beanArchive : Bool)
  | register (info : ClassInfo)
  deriving Inhabited

/-- The registry after an event. -/
def TypeRegistry.after (registry : TypeRegistry) : ScanEvent → TypeRegistry
  | .ask _ => registry
  | .addRoot root beanArchive => registry.addRoot root beanArchive
  | .register info => registry.register info

/-- The requests among some events, each with the class path as it is at that moment. -/
def TypeRegistry.requestsOf (registry : TypeRegistry) :
    List ScanEvent → List (Scanner × ScanRequest)
  | [] => []
  | .ask request :: events => (registry.scanner, request) :: registry.requestsOf events
  | event :: events => (registry.after event).requestsOf events

/-- A registry and a memory of scans over it. -/
structure ScanSession where
  registry : TypeRegistry := .initial
  dialogue : Dialogue := {}

namespace ScanSession
open Exchange

/-- A request is put to the memory with the registry as it is at that moment. -/
def step (session : ScanSession) (event : ScanEvent) : ScanSession where
  registry := session.registry.after event
  dialogue :=
    match event with
    | .ask request => session.dialogue.ask session.registry.scanner request
    | _ => session.dialogue

def run (session : ScanSession) (events : List ScanEvent) : ScanSession := events.foldl step session

variable {session : ScanSession}

theorem recorded_step (h : session.dialogue.Recorded) (event : ScanEvent) :
    (session.step event).dialogue.Recorded := by
  cases event with
  | ask request => exact h.ask session.registry.scanner request
  | addRoot root beanArchive => exact h
  | register info => exact h

theorem recorded_run (h : session.dialogue.Recorded) (events : List ScanEvent) :
    (session.run events).dialogue.Recorded := by
  induction events generalizing session with
  | nil => exact h
  | cons event events ih => exact ih (recorded_step h event)

/-- The log has the requests of a session, each with the scanner of its moment. -/
theorem requests_run (session : ScanSession) (events : List ScanEvent) :
    (session.run events).dialogue.log.map (fun exchange => (exchange.scanner, exchange.request)) =
      session.dialogue.log.map (fun exchange => (exchange.scanner, exchange.request)) ++
        session.registry.requestsOf events := by
  induction events generalizing session with
  | nil => exact (List.append_nil _).symm
  | cons event events ih =>
    refine (ih (session.step event)).trans ?_
    cases event with
    | ask request =>
      rw [step, Dialogue.ask, List.map_append, List.append_assoc]
      rfl
    | addRoot root beanArchive => rfl
    | register info => rfl

/-- Whatever is added to the registry between the requests of a session, names are answered as by the
registry at the first request of that kind under that key. The roots are those of the first reading, and
the bean archives are those among them at the first request for bean archives. The scans that reach the
registry are as many as the remembered lists, one for each key of either kind and one for the bean
archives, and all other requests but those for the roots are hits. -/
theorem answers_of_session (registry : TypeRegistry) (events : List ScanEvent) :
    let session := ScanSession.run { registry } events
    let log := session.dialogue.log
    let memory := session.dialogue.memory
    log.map (fun exchange => (exchange.scanner, exchange.request)) = registry.requestsOf events ∧
    (∀ exchange ∈ log, ∀ key, exchange.request.key? = some key →
      ∃ first, log.find? (hasKey key) = some first ∧
        exchange.answer = first.scanner.answer first.request) ∧
    (∀ exchange ∈ log, exchange.request = .allRoots →
      ∃ reader, log.find? readsRoots = some reader ∧
        exchange.answer = .locations reader.scanner.roots) ∧
    (∀ exchange ∈ log, exchange.request = .beanArchives →
      ∃ reader first, log.find? readsRoots = some reader ∧ log.find? asksArchives = some first ∧
        exchange.answer = .locations (first.scanner.beanArchives reader.scanner.roots)) ∧
    memory.physicalScans = memory.cachedEntries ∧
    memory.cachedEntries = distinctKeys log .classpath + distinctKeys log .package +
      (if log.any asksArchives then 1 else 0) ∧
    memory.physicalScans + memory.cacheHits =
      (registry.requestsOf events).countP fun request => decide (request.2 ≠ .allRoots) := by
  intro session log memory
  have hrecorded : session.dialogue.Recorded := recorded_run Dialogue.recorded_fresh events
  have hrequests : log.map (fun exchange => (exchange.scanner, exchange.request)) =
      registry.requestsOf events := requests_run { registry } events
  refine ⟨hrequests, ?_, ?_, ?_, hrecorded.scans, hrecorded.cachedEntries_eq, ?_⟩
  · intro exchange hmem key hkey
    exact hrecorded.answer_of_key hmem hkey
  · intro exchange hmem hrequest
    exact hrecorded.answer_of_roots hmem hrequest
  · intro exchange hmem hrequest
    exact hrecorded.answer_of_archives hmem hrequest
  · rw [← hrequests, List.countP_map]
    exact hrecorded.requests

/-- A class that is registered, and a root that is added, after the first requests are not seen. -/
def lateEvents : List ScanEvent :=
  [.addRoot ⟨"file:///cp/app/"⟩ true,
    .register { name := ⟨"com.example.A"⟩, location := some ⟨"file:///cp/app/"⟩ },
    .ask (.namesBelow [⟨"file:///cp/app/"⟩]), .ask .allRoots,
    .register { name := ⟨"org.late.B"⟩, location := some ⟨"file:///cp/app/"⟩ },
    .addRoot ⟨"file:///cp/lib/"⟩ true,
    .ask .beanArchives, .ask (.namesIn "org.late" ⟨"file:///cp/app/"⟩),
    .ask (.namesBelow [⟨"file:///cp/app/"⟩])]

theorem answers_late :
    let session := ScanSession.run {} lateEvents
    session.dialogue.log.map (·.answer) =
      [.names [⟨"com.example.A"⟩], .locations [⟨"file:///cp/app/"⟩],
        .locations [⟨"file:///cp/app/"⟩], .names [⟨"org.late.B"⟩], .names [⟨"com.example.A"⟩]] ∧
    session.dialogue.memory.physicalScans = 3 ∧
    session.dialogue.memory.physicalScans + session.dialogue.memory.cacheHits = 4 := by
  intro session
  obtain ⟨-, -, -, -, -, -, hcounted⟩ := answers_of_session .initial lateEvents
  refine ⟨by decide +kernel, by decide +kernel, hcounted.trans ?_⟩
  decide +kernel

end ScanSession
end BeanDiscovery
