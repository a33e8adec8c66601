import Mathlib.Data.Finset.Card
import Mathlib.Data.Finset.Image
import BeanDiscovery.ScanCache
import BeanDiscovery.TypeRegistry

/-!
# Requests to a memory of scans

A memory of scans is asked for roots, for bean archives and for names, while the class path behind it may
change. A log keeps what was asked, the scanner that stood behind the memory at that moment, and the answer.
The main statement says that an answer is what the scanner said to the first request under the same key, and
that the counters can be read off the log.
-/
namespace BeanDiscovery

/-- What a memory of scans is asked for. -/
inductive ScanRequest where
  | allRoots
  /-- The bean archives among all roots. -/
  | beanArchives
  | namesBelow (roots : List Url)
  | namesIn (package : String) (root : Url)
  deriving DecidableEq, Inhabited

inductive ScanAnswer where
  | locations (roots : List Url)
  | names (names : List ClassName)
  deriving DecidableEq, Inhabited

def Scanner.answer (scanner : Scanner) : ScanRequest → ScanAnswer
  | .allRoots => .locations scanner.roots
  | .beanArchives => .locations (scanner.beanArchives scanner.roots)
  | .namesBelow roots => .names (scanner.classNames roots)
  | .namesIn package root => .names (scanner.packageClassNames package root)

inductive ScanKind where
  | classpath
  | package
  deriving DecidableEq, Inhabited

structure ScanKey where
  kind : ScanKind
  text : String
  deriving DecidableEq, Inhabited

def ScanRequest.key? : ScanRequest → Option ScanKey
  | .allRoots => none
  | .beanArchives => none
  | .namesBelow roots => some ⟨.classpath, ScanCache.classpathKey roots⟩
  | .namesIn package root => some ⟨.package, ScanCache.packageKey package root⟩

namespace ScanCache
variable {cache : ScanCache} {key : ScanKey} {names : List ClassName}

def table (cache : ScanCache) : ScanKind → Table String (List ClassName)
  | .classpath => cache.classpathScans
  | .package => cache.packageScans

def lookup? (cache : ScanCache) (key : ScanKey) : Option (List ClassName) :=
  (cache.table key.kind).get? key.text

def remember (cache : ScanCache) (key : ScanKey) (names : List ClassName) : ScanCache :=
  match key.kind with
  | .classpath =>
    { cache with
      classpathScans := cache.classpathScans.insert key.text names
      physicalScans := cache.physicalScans + 1 }
  | .package =>
    { cache with
      packageScans := cache.packageScans.insert key.text names
      physicalScans := cache.physicalScans + 1 }

def serve (cache : ScanCache) (scanner : Scanner) : ScanRequest → ScanAnswer × ScanCache
  | .allRoots => (cache.classpathRoots scanner).map .locations id
  | .beanArchives => (cache.beanArchiveRoots scanner).map .locations id
  | .namesBelow roots => (cache.classNamesForClasspath scanner roots).map .names id
  | .namesIn package root => (cache.classNamesForPackage scanner package root).map .names id

theorem lookup?_remember (cache : ScanCache) (key other : ScanKey) (names : List ClassName) :
    (cache.remember key names).lookup? other =
      if key = other then some names else cache.lookup? other := by
  obtain ⟨kind, text⟩ := key
  obtain ⟨kind', text'⟩ := other
  cases kind <;> cases kind' <;> simp [lookup?, remember, table, Table.get?_insert]

theorem cachedEntries_remember (h : cache.lookup? key = none) (names : List ClassName) :
    (cache.remember key names).cachedEntries = cache.cachedEntries + 1 := by
  have hsize : ((cache.table key.kind).insert key.text names).size =
      (cache.table key.kind).size + 1 := Table.size_insert_of_new h names
  obtain ⟨kind, text⟩ := key
  cases kind with
  | classpath =>
    change (cache.classpathScans.insert text names).size + cache.packageScans.size +
      (if cache.archives.isSome then 1 else 0) = cache.cachedEntries + 1
    rw [cachedEntries, show (cache.classpathScans.insert text names).size = _ from hsize, table]
    omega
  | package =>
    change cache.classpathScans.size + (cache.packageScans.insert text names).size +
      (if cache.archives.isSome then 1 else 0) = cache.cachedEntries + 1
    rw [cachedEntries, show (cache.packageScans.insert text names).size = _ from hsize, table]
    omega

theorem physicalScans_remember (cache : ScanCache) (key : ScanKey) (names : List ClassName) :
    (cache.remember key names).physicalScans = cache.physicalScans + 1 := by
  obtain ⟨kind, text⟩ := key
  cases kind <;> rfl

theorem remember_frame (cache : ScanCache) (key : ScanKey) (names : List ClassName) :
    (cache.remember key names).roots = cache.roots ∧
      (cache.remember key names).archives = cache.archives ∧
      (cache.remember key names).cacheHits = cache.cacheHits := by
  obtain ⟨kind, text⟩ := key
  cases kind <;> exact ⟨rfl, rfl, rfl⟩

variable {request : ScanRequest}

/-- The roots are settled by the first reading. -/
theorem classpathRoots_eq (cache : ScanCache) (scanner : Scanner) :
    cache.classpathRoots scanner =
      (cache.roots.getD scanner.roots,
        { cache with roots := some (cache.roots.getD scanner.roots) }) := by
  cases h : cache.roots with
  | some roots =>
    rw [classpathRoots_of_known h, Option.getD_some, ← h]
  | none =>
    rw [classpathRoots, h]
    rfl

theorem beanArchiveRoots_of_new (h : cache.archives = none) (scanner : Scanner) :
    cache.beanArchiveRoots scanner =
      (scanner.beanArchives (cache.roots.getD scanner.roots),
        { cache with
          roots := some (cache.roots.getD scanner.roots)
          archives := some (scanner.beanArchives (cache.roots.getD scanner.roots))
          physicalScans := cache.physicalScans + 1 }) := by
  rw [beanArchiveRoots, h, classpathRoots_eq]

/-- A request under a known key is answered from memory. -/
theorem serve_of_known (hkey : request.key? = some key) (h : cache.lookup? key = some names)
    (scanner : Scanner) :
    cache.serve scanner request = (.names names, { cache with cacheHits := cache.cacheHits + 1 }) := by
  cases request with
  | allRoots => cases hkey
  | beanArchives => cases hkey
  | namesBelow roots =>
    cases hkey
    rw [serve, classNamesForClasspath_of_known h]
    rfl
  | namesIn package root =>
    cases hkey
    rw [serve, classNamesForPackage_of_known h]
    rfl

/-- A request under a new key is answered by the scanner, and the answer is entered. -/
theorem serve_of_new (hkey : request.key? = some key) (h : cache.lookup? key = none)
    (scanner : Scanner) :
    ∃ names, scanner.answer request = .names names ∧
      cache.serve scanner request = (.names names, cache.remember key names) := by
  cases request with
  | allRoots => cases hkey
  | beanArchives => cases hkey
  | namesBelow roots =>
    cases hkey
    refine ⟨scanner.classNames roots, rfl, ?_⟩
    have hnone : cache.classpathScans.get? (classpathKey roots) = none := h
    simp [serve, classNamesForClasspath, hnone, remember]
  | namesIn package root =>
    cases hkey
    refine ⟨scanner.packageClassNames package root, rfl, ?_⟩
    have hnone : cache.packageScans.get? (packageKey package root) = none := h
    simp [serve, classNamesForPackage, hnone, remember]

end ScanCache

/-! ## The log of a memory -/

/-- A request with the scanner behind the memory at that moment and the answer of the memory. -/
structure Exchange where
  scanner : Scanner
  request : ScanRequest
  answer : ScanAnswer

namespace Exchange

def scanned (exchange : Exchange) : ScanAnswer := exchange.scanner.answer exchange.request

def hasKey (key : ScanKey) (exchange : Exchange) : Bool := decide (exchange.request.key? = some key)

def asksArchives (exchange : Exchange) : Bool := decide (exchange.request = .beanArchives)

/-- The roots are read for themselves or for the bean archives among them. -/
def readsRoots (exchange : Exchange) : Bool :=
  decide (exchange.request = .allRoots) || exchange.asksArchives

/-- The counters take no notice of who reads the roots for themselves. -/
def isCounted (exchange : Exchange) : Bool := decide (exchange.request ≠ .allRoots)

def firstRoots? (log : List Exchange) : Option (List Url) :=
  (log.find? readsRoots).map (·.scanner.roots)

/-- The bean archives at the first request for them, among the roots at their first reading. -/
def firstArchives? (log : List Exchange) : Option (List Url) :=
  (log.find? asksArchives).bind fun first => (firstRoots? log).map first.scanner.beanArchives

def firstNames? (log : List Exchange) (key : ScanKey) : Option ScanAnswer :=
  (log.find? (hasKey key)).map scanned

/-- What the first exchanges of a log have to say to a request. -/
def recollect (log : List Exchange) (request : ScanRequest) : Option ScanAnswer :=
  match request with
  | .allRoots => (firstRoots? log).map .locations
  | .beanArchives => (firstArchives? log).map .locations
  | .namesBelow roots => firstNames? log ⟨.classpath, ScanCache.classpathKey roots⟩
  | .namesIn package root => firstNames? log ⟨.package, ScanCache.packageKey package root⟩

def distinctKeys (log : List Exchange) (kind : ScanKind) : Nat :=
  ((log.filterMap (·.request.key?)).toFinset.filter fun key => key.kind = kind).card

variable {log : List Exchange} {exchange : Exchange} {request : ScanRequest} {answer : ScanAnswer}
  {key other : ScanKey}

theorem recollect_of_key (h : request.key? = some key) :
    recollect log request = firstNames? log key := by
  cases request with
  | allRoots => cases h
  | beanArchives => cases h
  | namesBelow roots => cases h; rfl
  | namesIn package root => cases h; rfl

theorem find?_append_of_eq_some {p : Exchange → Bool} {first : Exchange}
    (h : log.find? p = some first) (later : List Exchange) :
    (log ++ later).find? p = some first := by
  rw [List.find?_append, h]
  rfl

theorem firstRoots?_append {roots : List Url} (h : firstRoots? log = some roots)
    (later : List Exchange) : firstRoots? (log ++ later) = some roots := by
  obtain ⟨first, hfirst, rfl⟩ := Option.map_eq_some_iff.1 h
  rw [firstRoots?, find?_append_of_eq_some hfirst]
  rfl

theorem firstArchives?_append {archives : List Url} (h : firstArchives? log = some archives)
    (later : List Exchange) : firstArchives? (log ++ later) = some archives := by
  obtain ⟨first, hfirst, hmap⟩ := Option.bind_eq_some_iff.1 h
  obtain ⟨roots, hroots, rfl⟩ := Option.map_eq_some_iff.1 hmap
  rw [firstArchives?, find?_append_of_eq_some hfirst, firstRoots?_append hroots]
  rfl

/-- What a log recalls does not change when it grows. -/
theorem recollect_append (h : recollect log request = some answer) (later : List Exchange) :
    recollect (log ++ later) request = some answer := by
  cases hkey : request.key? with
  | some key =>
    rw [recollect_of_key hkey] at h ⊢
    obtain ⟨first, hfirst, rfl⟩ := Option.map_eq_some_iff.1 h
    rw [firstNames?, find?_append_of_eq_some hfirst]
    rfl
  | none =>
    cases request with
    | allRoots =>
      obtain ⟨roots, hroots, rfl⟩ := Option.map_eq_some_iff.1 h
      rw [recollect, firstRoots?_append hroots]
      rfl
    | beanArchives =>
      obtain ⟨archives, harchives, rfl⟩ := Option.map_eq_some_iff.1 h
      rw [recollect, firstArchives?_append harchives]
      rfl
    | namesBelow roots => cases hkey
    | namesIn package root => cases hkey

/-- Who asks for the bean archives reads the roots. -/
theorem firstRoots?_isSome (h : (log.find? asksArchives).isSome = true) :
    (firstRoots? log).isSome = true := by
  rw [firstRoots?, Option.isSome_map, List.find?_isSome]
  obtain ⟨exchange, hmem, hasks⟩ := List.find?_isSome.1 h
  exact ⟨exchange, hmem, by rw [readsRoots, hasks, Bool.or_true]⟩

theorem firstArchives?_isSome :
    (firstArchives? log).isSome = true ↔ (log.find? asksArchives).isSome = true := by
  constructor
  · intro h
    obtain ⟨archives, harchives⟩ := Option.isSome_iff_exists.1 h
    obtain ⟨first, hfirst, -⟩ := Option.bind_eq_some_iff.1 harchives
    rw [hfirst]
    rfl
  · intro h
    obtain ⟨roots, hroots⟩ := Option.isSome_iff_exists.1 (firstRoots?_isSome h)
    obtain ⟨first, hfirst⟩ := Option.isSome_iff_exists.1 h
    rw [firstArchives?, hfirst, hroots]
    rfl

/-! ### One exchange more -/

theorem firstNames?_concat (log : List Exchange) (exchange : Exchange) (key : ScanKey) :
    firstNames? (log ++ [exchange]) key =
      (firstNames? log key).or
        (if exchange.request.key? = some key then some exchange.scanned else none) := by
  rw [firstNames?, firstNames?, List.find?_append]
  cases log.find? (hasKey key) with
  | some first => rfl
  | none =>
    by_cases h : exchange.request.key? = some key
    · simp [hasKey, h]
    · simp [hasKey, h]

/-- A request for names neither reads the roots nor asks for bean archives, and is counted. -/
theorem reads_of_key (h : exchange.request.key? = some key) :
    exchange.readsRoots = false ∧ exchange.asksArchives = false ∧ exchange.isCounted = true := by
  have hroots : exchange.request ≠ .allRoots := by
    intro heq
    rw [heq] at h
    cases h
  have harchives : exchange.request ≠ .beanArchives := by
    intro heq
    rw [heq] at h
    cases h
  simp [readsRoots, asksArchives, isCounted, hroots, harchives]

theorem firstRoots?_concat_of_reads (log : List Exchange) (h : exchange.readsRoots = true) :
    firstRoots? (log ++ [exchange]) = some ((firstRoots? log).getD exchange.scanner.roots) := by
  rw [firstRoots?, firstRoots?, List.find?_append]
  cases log.find? readsRoots with
  | some first => rfl
  | none => simp [h]

theorem firstArchives?_concat_of_asks (hnew : firstArchives? log = none)
    (h : exchange.asksArchives = true) :
    firstArchives? (log ++ [exchange]) =
      some (exchange.scanner.beanArchives ((firstRoots? log).getD exchange.scanner.roots)) := by
  have hfirst : log.find? asksArchives = none := by
    rw [← Option.not_isSome_iff_eq_none, ← firstArchives?_isSome, hnew]
    simp
  have hreads : exchange.readsRoots = true := by rw [readsRoots, h, Bool.or_true]
  rw [firstArchives?, firstRoots?_concat_of_reads log hreads, List.find?_append, hfirst]
  simp [h]

theorem firstRoots?_concat_of_key (log : List Exchange) (h : exchange.request.key? = some key) :
    firstRoots? (log ++ [exchange]) = firstRoots? log := by
  have hreads := (reads_of_key h).1
  rw [firstRoots?, firstRoots?, List.find?_append]
  simp [hreads]

theorem countP_concat_of_key (log : List Exchange) (h : exchange.request.key? = some key) :
    (log ++ [exchange]).countP isCounted = log.countP isCounted + 1 := by
  have hcounted := (reads_of_key h).2.2
  rw [List.countP_append, List.countP_singleton, hcounted]
  rfl

/-- Only requests for bean archives have an influence on them. -/
theorem firstArchives?_concat_of_not_asks (log : List Exchange)
    (h : exchange.asksArchives = false) :
    firstArchives? (log ++ [exchange]) = firstArchives? log := by
  cases hfirst : log.find? asksArchives with
  | none =>
    rw [firstArchives?, firstArchives?, List.find?_append, hfirst]
    simp [h]
  | some first =>
    have hsome : (firstArchives? log).isSome = true := by
      rw [firstArchives?_isSome, hfirst]
      rfl
    obtain ⟨archives, harchives⟩ := Option.isSome_iff_exists.1 hsome
    rw [harchives, firstArchives?_append harchives]

end Exchange

/-- A memory of scans with the log of everything it was asked. -/
structure Dialogue where
  memory : ScanCache := {}
  log : List Exchange := []

namespace Dialogue
open Exchange

def ask (dialogue : Dialogue) (scanner : Scanner) (request : ScanRequest) : Dialogue where
  memory := (dialogue.memory.serve scanner request).2
  log := dialogue.log ++
    [{ scanner, request, answer := (dialogue.memory.serve scanner request).1 }]

/-- The memory and its counters follow from the log. -/
structure Recorded (dialogue : Dialogue) : Prop where
  roots : dialogue.memory.roots = firstRoots? dialogue.log
  archives : dialogue.memory.archives = firstArchives? dialogue.log
  names : ∀ key, (dialogue.memory.lookup? key).map .names = firstNames? dialogue.log key
  answered : ∀ exchange ∈ dialogue.log,
    recollect dialogue.log exchange.request = some exchange.answer
  scans : dialogue.memory.physicalScans = dialogue.memory.cachedEntries
  requests : dialogue.memory.physicalScans + dialogue.memory.cacheHits =
    dialogue.log.countP isCounted

variable {dialogue : Dialogue} {scanner : Scanner} {request : ScanRequest} {key : ScanKey}

theorem recorded_fresh : Recorded {} where
  roots := rfl
  archives := rfl
  names := fun key => by
    obtain ⟨kind, text⟩ := key
    cases kind <;> rfl
  answered := fun _ hmem => (List.not_mem_nil hmem).elim
  scans := rfl
  requests := rfl

/-- The log can recall every answer it holds, the latest one included. -/
theorem Recorded.answered_concat (h : dialogue.Recorded) {exchange : Exchange}
    (hnew : recollect (dialogue.log ++ [exchange]) exchange.request = some exchange.answer) :
    ∀ other ∈ dialogue.log ++ [exchange],
      recollect (dialogue.log ++ [exchange]) other.request = some other.answer := by
  intro other hother
  rcases List.mem_append.1 hother with hold | hlast
  · exact recollect_append (h.answered other hold) [exchange]
  · obtain rfl := List.mem_singleton.1 hlast
    exact hnew

theorem Recorded.ask_known (h : dialogue.Recorded) (hkey : request.key? = some key)
    {names : List ClassName} (hknown : dialogue.memory.lookup? key = some names) :
    (dialogue.ask scanner request).Recorded := by
  have hfirst : firstNames? dialogue.log key = some (.names names) := by
    rw [← h.names, hknown]
    rfl
  have hnames : ∀ other, firstNames? (dialogue.log ++ [⟨scanner, request, .names names⟩]) other =
      firstNames? dialogue.log other := by
    intro other
    rw [firstNames?_concat]
    by_cases heq : key = other
    · rw [← heq, hfirst]
      rfl
    · simp [hkey, heq]
  have hserve := ScanCache.serve_of_known hkey hknown scanner
  rw [Dialogue.ask, hserve]
  refine ⟨?_, ?_, ?_, ?_, h.scans, ?_⟩
  · rw [firstRoots?_concat_of_key dialogue.log hkey]
    exact h.roots
  · rw [firstArchives?_concat_of_not_asks dialogue.log (reads_of_key hkey).2.1]
    exact h.archives
  · intro other
    exact (h.names other).trans (hnames other).symm
  · apply h.answered_concat
    rw [recollect_of_key hkey, hnames, hfirst]
  · have hrequests := h.requests
    rw [countP_concat_of_key dialogue.log hkey]
    change dialogue.memory.physicalScans + (dialogue.memory.cacheHits + 1) = _
    omega

theorem Recorded.ask_new (h : dialogue.Recorded) (hkey : request.key? = some key)
    (hnew : dialogue.memory.lookup? key = none) : (dialogue.ask scanner request).Recorded := by
  obtain ⟨names, hanswer, hserve⟩ := ScanCache.serve_of_new hkey hnew scanner
  obtain ⟨hroots, harchives, hhits⟩ := dialogue.memory.remember_frame key names
  have hfirst : firstNames? dialogue.log key = none := by
    rw [← h.names, hnew]
    rfl
  have hnames : ∀ other, firstNames? (dialogue.log ++ [⟨scanner, request, .names names⟩]) other =
      if key = other then some (.names names) else firstNames? dialogue.log other := by
    intro other
    rw [firstNames?_concat]
    by_cases heq : key = other
    · rw [← heq, hfirst]
      simp [hkey, scanned, hanswer]
    · simp [hkey, heq]
  rw [Dialogue.ask, hserve]
  refine ⟨?_, ?_, ?_, ?_, ?_, ?_⟩
  · rw [firstRoots?_concat_of_key dialogue.log hkey]
    exact hroots.trans h.roots
  · rw [firstArchives?_concat_of_not_asks dialogue.log (reads_of_key hkey).2.1]
    exact harchives.trans h.archives
  · intro other
    rw [hnames, ScanCache.lookup?_remember]
    split
    · rfl
    · exact h.names other
  · apply h.answered_concat
    rw [recollect_of_key hkey, hnames, if_pos rfl]
  · rw [ScanCache.physicalScans_remember, ScanCache.cachedEntries_remember hnew, h.scans]
  · have hrequests := h.requests
    rw [countP_concat_of_key dialogue.log hkey, ScanCache.physicalScans_remember, hhits]
    omega

/-- A request for roots or archives enters no names. -/
theorem firstNames?_concat_of_none (log : List Exchange) {exchange : Exchange}
    (h : exchange.request.key? = none) (key : ScanKey) :
    firstNames? (log ++ [exchange]) key = firstNames? log key := by
  rw [firstNames?_concat, h]
  exact Option.or_none

/-- A request for the roots changes no counter. -/
theorem Recorded.ask_roots (h : dialogue.Recorded) (scanner : Scanner) :
    (dialogue.ask scanner .allRoots).Recorded := by
  have hserve : dialogue.memory.serve scanner .allRoots =
      (.locations (dialogue.memory.roots.getD scanner.roots),
        { dialogue.memory with roots := some (dialogue.memory.roots.getD scanner.roots) }) := by
    rw [ScanCache.serve, ScanCache.classpathRoots_eq]
    rfl
  have hroots : ∀ answer, firstRoots? (dialogue.log ++ [⟨scanner, .allRoots, answer⟩]) =
      some ((firstRoots? dialogue.log).getD scanner.roots) := fun _ =>
    firstRoots?_concat_of_reads dialogue.log rfl
  rw [Dialogue.ask, hserve]
  refine ⟨?_, ?_, ?_, ?_, h.scans, ?_⟩
  · rw [hroots, ← h.roots]
  · rw [firstArchives?_concat_of_not_asks dialogue.log rfl]
    exact h.archives
  · intro key
    rw [firstNames?_concat_of_none dialogue.log rfl]
    exact h.names key
  · apply h.answered_concat
    rw [recollect, hroots, ← h.roots]
    rfl
  · rw [List.countP_append, List.countP_singleton]
    exact h.requests

theorem Recorded.ask_archives_known (h : dialogue.Recorded) {archives : List Url}
    (hknown : dialogue.memory.archives = some archives) (scanner : Scanner) :
    (dialogue.ask scanner .beanArchives).Recorded := by
  have hserve : dialogue.memory.serve scanner .beanArchives =
      (.locations archives,
        { dialogue.memory with cacheHits := dialogue.memory.cacheHits + 1 }) := by
    rw [ScanCache.serve, ScanCache.beanArchiveRoots_of_known hknown]
    rfl
  have hfirst : firstArchives? dialogue.log = some archives := h.archives ▸ hknown
  have hasked : (dialogue.log.find? asksArchives).isSome = true := by
    rw [← firstArchives?_isSome, hfirst]
    rfl
  obtain ⟨roots, hroots⟩ := Option.isSome_iff_exists.1 (firstRoots?_isSome hasked)
  rw [Dialogue.ask, hserve]
  refine ⟨?_, ?_, ?_, ?_, h.scans, ?_⟩
  · rw [firstRoots?_append hroots, ← hroots]
    exact h.roots
  · rw [firstArchives?_append hfirst]
    exact hknown
  · intro key
    rw [firstNames?_concat_of_none dialogue.log rfl]
    exact h.names key
  · apply h.answered_concat
    rw [recollect, firstArchives?_append hfirst]
    rfl
  · have hrequests := h.requests
    rw [List.countP_append, List.countP_singleton]
    change dialogue.memory.physicalScans + (dialogue.memory.cacheHits + 1) =
      dialogue.log.countP isCounted + 1
    omega

/-- The first request for bean archives, which reads the roots if nobody has read them before. -/
theorem Recorded.ask_archives_new (h : dialogue.Recorded) (hnew : dialogue.memory.archives = none)
    (scanner : Scanner) : (dialogue.ask scanner .beanArchives).Recorded := by
  have hserve : dialogue.memory.serve scanner .beanArchives =
      (dialogue.memory.beanArchiveRoots scanner).map .locations id := rfl
  rw [ScanCache.beanArchiveRoots_of_new hnew] at hserve
  have hroots : ∀ answer, firstRoots? (dialogue.log ++ [⟨scanner, .beanArchives, answer⟩]) =
      some ((firstRoots? dialogue.log).getD scanner.roots) := fun _ =>
    firstRoots?_concat_of_reads dialogue.log rfl
  have harchives : ∀ answer, firstArchives? (dialogue.log ++ [⟨scanner, .beanArchives, answer⟩]) =
      some (scanner.beanArchives ((firstRoots? dialogue.log).getD scanner.roots)) := fun _ =>
    firstArchives?_concat_of_asks (h.archives ▸ hnew) rfl
  rw [Dialogue.ask, hserve]
  refine ⟨?_, ?_, ?_, ?_, ?_, ?_⟩
  · rw [hroots, ← h.roots]
    rfl
  · rw [harchives, ← h.roots]
    rfl
  · intro key
    rw [firstNames?_concat_of_none dialogue.log rfl]
    exact h.names key
  · apply h.answered_concat
    rw [recollect, harchives, ← h.roots]
    rfl
  · have hscans := h.scans
    rw [ScanCache.cachedEntries, hnew] at hscans
    change dialogue.memory.physicalScans + 1 =
      dialogue.memory.classpathScans.size + dialogue.memory.packageScans.size + 1
    rw [hscans]
    rfl
  · have hrequests := h.requests
    rw [List.countP_append, List.countP_singleton]
    change dialogue.memory.physicalScans + 1 + dialogue.memory.cacheHits =
      dialogue.log.countP isCounted + 1
    omega

/-- Every request keeps the memory in step with the log. -/
theorem Recorded.ask (h : dialogue.Recorded) (scanner : Scanner) (request : ScanRequest) :
    (dialogue.ask scanner request).Recorded := by
  cases hkey : request.key? with
  | some key =>
    cases hlookup : dialogue.memory.lookup? key with
    | some names => exact h.ask_known hkey hlookup
    | none => exact h.ask_new hkey hlookup
  -- Only requests for names have keys.
  | none =>
    cases request with
    | allRoots => exact h.ask_roots scanner
    | beanArchives =>
      cases harchives : dialogue.memory.archives with
      | some archives => exact h.ask_archives_known harchives scanner
      | none => exact h.ask_archives_new harchives scanner
    | namesBelow roots => cases hkey
    | namesIn package root => cases hkey

end Dialogue
end BeanDiscovery
