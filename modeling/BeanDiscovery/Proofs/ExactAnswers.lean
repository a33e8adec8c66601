import BeanDiscovery.Proofs.ScanKeys
import BeanDiscovery.Proofs.ScanSessions

/-!
# Answers to the very request

A memory over a class path that does not change should answer every request as the scanner would. It does so
for every scanner if and only if no two different requests have the same key. The main statements are this
equivalence, that requests about plain locations have different keys, and that other requests need not.
-/
namespace BeanDiscovery

/-- A scanner that says back what it was asked. -/
def Scanner.echo : Scanner where
  label := "echo"
  roots := []
  beanArchives := id
  classNames roots := roots.map fun root => ⟨root.text⟩
  packageClassNames package root := [⟨package⟩, ⟨root.text⟩]

namespace ScanRequest
variable {first second : ScanRequest} {key : ScanKey}

/-- All locations of the request are plain. -/
def IsPlain : ScanRequest → Prop
  | .allRoots => True
  | .beanArchives => True
  | .namesBelow roots => ∀ root ∈ roots, root.IsPlain
  | .namesIn _ root => root.IsPlain

/-- No two different requests have the same key. -/
def KeysApart (requests : List ScanRequest) : Prop :=
  ∀ first ∈ requests, ∀ second ∈ requests, ∀ key,
    first.key? = some key → second.key? = some key → first = second

/-- Requests with the same key that are not the same get different answers from the echo. -/
theorem eq_of_echo_eq (hfirst : first.key? = some key) (hsecond : second.key? = some key)
    (h : Scanner.echo.answer first = Scanner.echo.answer second) : first = second := by
  cases first with
  | allRoots => cases hfirst
  | beanArchives => cases hfirst
  | namesBelow roots =>
    cases hfirst
    cases second with
    | allRoots => cases hsecond
    | beanArchives => cases hsecond
    | namesBelow others =>
      have hname : Function.Injective fun root : Url => (⟨root.text⟩ : ClassName) := by
        intro root other heq
        exact Url.eq_of_toList_eq (congrArg String.toList (ClassName.mk.inj heq))
      rw [List.map_injective_iff.2 hname (ScanAnswer.names.inj h)]
    | namesIn package root => exact absurd (Option.some.inj hsecond) (by simp)
  | namesIn package root =>
    cases hfirst
    cases second with
    | allRoots => cases hsecond
    | beanArchives => cases hsecond
    | namesBelow others => exact absurd (Option.some.inj hsecond) (by simp)
    | namesIn other root' =>
      obtain ⟨root⟩ := root
      obtain ⟨root'⟩ := root'
      have hlists := ScanAnswer.names.inj h
      simp only [Scanner.echo, List.cons.injEq, ClassName.mk.injEq, and_true] at hlists
      rw [hlists.1, hlists.2]

/-- The key of no roots is not the key of any plain ones: it has no colon. -/
theorem classpathKey_ne_of_plain {roots : List Url} (hroots : ∀ root ∈ roots, root.IsPlain)
    (hne : roots ≠ []) : ScanCache.classpathKey [] ≠ ScanCache.classpathKey roots := by
  intro h
  have hpieces := ScanCache.pieces_classpathKey hne
  rw [← h] at hpieces
  have hlength := congrArg List.length hpieces
  obtain ⟨root, rest, rfl⟩ := List.exists_cons_of_ne_nil hne
  rw [List.flatMap_cons, List.length_append, (hroots root List.mem_cons_self).length_pieces] at hlength
  have hempty : (Text.pieces ':' (ScanCache.classpathKey []).toList).length = 1 := rfl
  omega

theorem eq_of_classpathKey_eq {roots others : List Url} (hroots : ∀ root ∈ roots, root.IsPlain)
    (hothers : ∀ root ∈ others, root.IsPlain)
    (h : ScanCache.classpathKey roots = ScanCache.classpathKey others) : roots = others := by
  by_cases hempty : roots = []
  · by_cases hempty' : others = []
    · rw [hempty, hempty']
    · rw [hempty] at h
      exact absurd h (classpathKey_ne_of_plain hothers hempty')
  · by_cases hempty' : others = []
    · rw [hempty'] at h
      exact absurd h.symm (classpathKey_ne_of_plain hroots hempty)
    · exact ScanCache.classpathKey_injective hroots hothers hempty hempty' h

/-- The key of a request about plain locations tells the request. -/
theorem eq_of_key_eq (hplain : first.IsPlain) (hplain' : second.IsPlain)
    (hfirst : first.key? = some key) (hsecond : second.key? = some key) : first = second := by
  cases first with
  | allRoots => cases hfirst
  | beanArchives => cases hfirst
  | namesBelow roots =>
    cases hfirst
    cases second with
    | allRoots => cases hsecond
    | beanArchives => cases hsecond
    | namesBelow others =>
      have hkey := congrArg ScanKey.text (Option.some.inj hsecond)
      rw [eq_of_classpathKey_eq hplain hplain' hkey.symm]
    | namesIn package root => exact absurd (Option.some.inj hsecond) (by simp)
  | namesIn package root =>
    cases hfirst
    cases second with
    | allRoots => cases hsecond
    | beanArchives => cases hsecond
    | namesBelow others => exact absurd (Option.some.inj hsecond) (by simp)
    | namesIn other root' =>
      have hkey := congrArg ScanKey.text (Option.some.inj hsecond)
      obtain ⟨rfl, rfl⟩ := ScanCache.packageKey_injective hplain hplain' hkey.symm
      rfl

theorem keysApart_of_plain {requests : List ScanRequest}
    (h : ∀ request ∈ requests, request.IsPlain) : KeysApart requests := by
  intro first hfirst second hsecond key hkey hkey'
  exact eq_of_key_eq (h first hfirst) (h second hsecond) hkey hkey'

end ScanRequest

namespace Dialogue
open Exchange
variable {dialogue : Dialogue} {scanner : Scanner} {requests : List ScanRequest}

/-- Puts requests one after the other, with the same scanner behind the memory. -/
def askAll (dialogue : Dialogue) (scanner : Scanner) (requests : List ScanRequest) : Dialogue :=
  requests.foldl (fun dialogue request => dialogue.ask scanner request) dialogue

theorem Recorded.askAll (h : dialogue.Recorded) (scanner : Scanner) (requests : List ScanRequest) :
    (dialogue.askAll scanner requests).Recorded := by
  induction requests generalizing dialogue with
  | nil => exact h
  | cons request requests ih => exact ih (h.ask scanner request)

theorem requests_askAll (dialogue : Dialogue) (scanner : Scanner) (requests : List ScanRequest) :
    (dialogue.askAll scanner requests).log.map (·.request) =
      dialogue.log.map (·.request) ++ requests := by
  induction requests generalizing dialogue with
  | nil => exact (List.append_nil _).symm
  | cons request requests ih =>
    refine (ih (dialogue.ask scanner request)).trans ?_
    rw [ask, List.map_append, List.append_assoc]
    rfl

theorem scanner_askAll (h : ∀ exchange ∈ dialogue.log, exchange.scanner = scanner)
    (requests : List ScanRequest) :
    ∀ exchange ∈ (dialogue.askAll scanner requests).log, exchange.scanner = scanner := by
  induction requests generalizing dialogue with
  | nil => exact h
  | cons request requests ih =>
    apply ih
    intro exchange hexchange
    rcases List.mem_append.1 hexchange with hold | hlast
    · exact h exchange hold
    · rw [List.mem_singleton.1 hlast]

/-- The dialogue of a fresh memory over a class path that does not change. -/
def steady (scanner : Scanner) (requests : List ScanRequest) : Dialogue :=
  askAll {} scanner requests

theorem recorded_steady (scanner : Scanner) (requests : List ScanRequest) :
    (steady scanner requests).Recorded :=
  recorded_fresh.askAll scanner requests

theorem requests_steady (scanner : Scanner) (requests : List ScanRequest) :
    (steady scanner requests).log.map (·.request) = requests :=
  requests_askAll {} scanner requests

theorem scanner_steady {exchange : Exchange} (h : exchange ∈ (steady scanner requests).log) :
    exchange.scanner = scanner :=
  scanner_askAll (fun _ hmem => (List.not_mem_nil hmem).elim) requests exchange h

theorem request_mem_of_steady {exchange : Exchange} (h : exchange ∈ (steady scanner requests).log) :
    exchange.request ∈ requests := by
  have hmem := List.mem_map_of_mem (f := (·.request)) h
  rwa [requests_steady] at hmem

theorem exists_exchange_steady {request : ScanRequest} (h : request ∈ requests) (scanner : Scanner) :
    ∃ exchange ∈ (steady scanner requests).log, exchange.request = request := by
  rw [← requests_steady scanner requests] at h
  exact List.mem_map.1 h

/-- The first request under the key of a request is that request, where keys are apart. -/
theorem answer_of_key_apart (h : ScanRequest.KeysApart requests) {exchange : Exchange}
    (hmem : exchange ∈ (steady scanner requests).log) {key : ScanKey}
    (hkey : exchange.request.key? = some key) :
    exchange.answer = scanner.answer exchange.request := by
  obtain ⟨first, hfirst, hanswer⟩ := (recorded_steady scanner requests).answer_of_key hmem hkey
  have hmem' := List.mem_of_find?_eq_some hfirst
  have hhas : first.hasKey key = true := List.find?_some hfirst
  have hkey' : first.request.key? = some key := of_decide_eq_true hhas
  have hsame : first.request = exchange.request :=
    h first.request (request_mem_of_steady hmem') exchange.request (request_mem_of_steady hmem)
      key hkey' hkey
  rw [hanswer, scanned, scanner_steady hmem', hsame]

/-- Requests with different keys get the answers of the scanner. -/
theorem answer_of_keysApart (h : ScanRequest.KeysApart requests) {exchange : Exchange}
    (hmem : exchange ∈ (steady scanner requests).log) :
    exchange.answer = scanner.answer exchange.request := by
  have hrecorded := recorded_steady scanner requests
  cases hkey : exchange.request.key? with
  | some key => exact answer_of_key_apart h hmem hkey
  | none =>
    cases hrequest : exchange.request with
    | allRoots =>
      obtain ⟨reader, hreader, hanswer⟩ := hrecorded.answer_of_roots hmem hrequest
      rw [hanswer, scanner_steady (List.mem_of_find?_eq_some hreader), Scanner.answer]
    | beanArchives =>
      obtain ⟨reader, first, hreader, hfirst, hanswer⟩ := hrecorded.answer_of_archives hmem hrequest
      rw [hanswer, scanner_steady (List.mem_of_find?_eq_some hreader),
        scanner_steady (List.mem_of_find?_eq_some hfirst), Scanner.answer]
    | namesBelow roots =>
      rw [hrequest] at hkey
      cases hkey
    | namesIn package root =>
      rw [hrequest] at hkey
      cases hkey

/-- Where the echo is answered exactly, two requests with the same key are the same. -/
theorem eq_of_echoed (h : ∀ exchange ∈ (steady .echo requests).log,
      exchange.answer = Scanner.echo.answer exchange.request)
    {first second : ScanRequest} (hfirst : first ∈ requests) (hsecond : second ∈ requests)
    {key : ScanKey} (hkey : first.key? = some key) (hkey' : second.key? = some key) :
    first = second := by
  -- Both are answered as the earliest request under their key, and the echo tells which one it was.
  obtain ⟨exchange, hmem, rfl⟩ := exists_exchange_steady hfirst .echo
  obtain ⟨other, hmem', rfl⟩ := exists_exchange_steady hsecond .echo
  have hrecorded := recorded_steady .echo requests
  obtain ⟨earliest, hearliest, hanswer⟩ := hrecorded.answer_of_key hmem hkey
  obtain ⟨earliest', hearliest', hanswer'⟩ := hrecorded.answer_of_key hmem' hkey'
  have hsame : earliest = earliest' := Option.some.inj (hearliest.symm.trans hearliest')
  apply ScanRequest.eq_of_echo_eq hkey hkey'
  rw [← h exchange hmem, ← h other hmem', hanswer, hanswer', hsame]

/-- A memory answers requests like every scanner behind it if and only if no two different requests have
the same key, and requests about plain locations have different keys. -/
theorem exact_iff_keysApart (requests : List ScanRequest) :
    ((∀ scanner, ∀ exchange ∈ (steady scanner requests).log,
        exchange.answer = scanner.answer exchange.request) ↔ ScanRequest.KeysApart requests) ∧
      ((∀ request ∈ requests, request.IsPlain) → ScanRequest.KeysApart requests) := by
  refine ⟨⟨?_, ?_⟩, ScanRequest.keysApart_of_plain⟩
  · intro h first hfirst second hsecond key hkey hkey'
    exact eq_of_echoed (h .echo) hfirst hsecond hkey hkey'
  · intro h scanner exchange hmem
    exact answer_of_keysApart h hmem

/-- Three classes, one of them in a root whose text is the texts of the other two roots with a colon
between them. -/
def joinedRoots : TypeRegistry :=
  TypeRegistry.initial.registerAll
    [{ name := ⟨"com.example.A"⟩, location := some ⟨"file:///cp/a:file:///cp/b"⟩ },
      { name := ⟨"com.example.B"⟩, location := some ⟨"file:///cp/a"⟩ },
      { name := ⟨"com.example.C"⟩, location := some ⟨"file:///cp/b"⟩ }]

def joinedRequests : List ScanRequest :=
  [.namesBelow [⟨"file:///cp/a:file:///cp/b"⟩], .namesBelow [⟨"file:///cp/a"⟩, ⟨"file:///cp/b"⟩]]

theorem answers_joined : (steady joinedRoots.scanner joinedRequests).log.map (·.answer) =
      [.names [⟨"com.example.A"⟩], .names [⟨"com.example.A"⟩]] ∧
    joinedRequests.map joinedRoots.scanner.answer =
      [.names [⟨"com.example.A"⟩], .names [⟨"com.example.B"⟩, ⟨"com.example.C"⟩]] := by
  constructor <;> decide +kernel

/-- Not every answer is the one to its own request. -/
theorem not_exact_joined : ¬ ∀ (scanner : Scanner) (requests : List ScanRequest),
    ∀ exchange ∈ (steady scanner requests).log,
      exchange.answer = scanner.answer exchange.request := by
  intro h
  obtain ⟨hanswers, hscanned⟩ := answers_joined
  have hlog : (steady joinedRoots.scanner joinedRequests).log.map (·.answer) =
      joinedRequests.map joinedRoots.scanner.answer := by
    rw [← requests_steady joinedRoots.scanner joinedRequests, List.map_map, requests_steady]
    exact List.map_congr_left (h joinedRoots.scanner joinedRequests)
  rw [hanswers, hscanned] at hlog
  exact absurd hlog (by decide)

end Dialogue
end BeanDiscovery
