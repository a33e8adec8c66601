import Mathlib.Data.Nat.Digits.Defs
import BeanDiscovery.DiscoveryConfig

/-!
# Overrides by the environment

Two variables of the environment may override a configuration. The text of one is a literal of a number of
threads, the text of the other a class path with colons between its paths. The main statements say which
texts are read as which numbers, which paths a text is cut into, and what a configuration is afterwards.
-/
namespace BeanDiscovery

/-- A way to write a natural number: perhaps a plus sign, then decimal digits, with blanks around. -/
structure NumberLiteral where
  before : List Char
  signed : Bool
  digits : List Char
  after : List Char
  blank_before : ∀ c ∈ before, Text.isBlank c = true
  digits_ne_nil : digits ≠ []
  isDigit_digits : ∀ c ∈ digits, c.isDigit = true
  blank_after : ∀ c ∈ after, Text.isBlank c = true

namespace NumberLiteral

/-- The sign and the digits. -/
def core (literal : NumberLiteral) : List Char :=
  (if literal.signed then ['+'] else []) ++ literal.digits

def text (literal : NumberLiteral) : String :=
  String.ofList (literal.before ++ literal.core ++ literal.after)

def value (literal : NumberLiteral) : Nat :=
  Nat.ofDigits 10 (literal.digits.reverse.map fun c => c.toNat - '0'.toNat)

theorem trimmed_text (literal : NumberLiteral) :
    Text.trimmed literal.text.toList = literal.core := by
  have hblank : ∀ c ∈ literal.core, Text.isBlank c = false := by
    intro c hc
    rcases List.mem_append.1 hc with hsign | hdigit
    · split at hsign
      · rw [List.mem_singleton.1 hsign]
        rfl
      · cases hsign
    · exact Text.isBlank_of_isDigit (literal.isDigit_digits c hdigit)
  rw [text, String.toList_ofList]
  exact Text.trimmed_between (List.append_ne_nil_of_right_ne_nil _ literal.digits_ne_nil)
    literal.blank_before literal.blank_after (fun c hc => hblank c (List.mem_of_head? hc))
    fun c hc => hblank c (List.mem_of_getLast? hc)

/-- Digits are valued from the first one on. -/
theorem value_eq_foldl (literal : NumberLiteral) :
    literal.value = literal.digits.foldl (fun n c => 10 * n + (c.toNat - '0'.toNat)) 0 := by
  rw [value, Nat.ofDigits_eq_foldr, List.foldr_map, List.foldr_reverse]
  refine congrArg (fun step => literal.digits.foldl step 0) (funext₂ fun n c => ?_)
  exact Nat.add_comm _ _

end NumberLiteral

namespace DiscoveryConfig

/-! ## Number of threads -/

theorem exists_sign (cs : List Char) :
    ∃ signed : Bool, (if signed then ['+'] else []) ++ unsigned cs = cs := by
  rw [unsigned.eq_def]
  split
  · exact ⟨true, rfl⟩
  · exact ⟨false, rfl⟩

theorem unsigned_core (literal : NumberLiteral) : unsigned literal.core = literal.digits := by
  rw [NumberLiteral.core]
  split
  · rfl
  · rw [List.nil_append, unsigned.eq_def]
    split
    next cs hdigits =>
      -- A plus sign is no digit.
      have hplus := literal.isDigit_digits '+' (by rw [hdigits]; exact List.mem_cons_self)
      exact absurd hplus (by decide)
    next => rfl

/-- The number of threads is the value of the digits behind the sign. -/
theorem threads?_eq_some_iff_foldl {text : String} {digits : List Char} {count : UInt64}
    (h : unsigned (Text.trimmed text.toList) = digits) :
    threads? text = some count ↔ digits ≠ [] ∧ (∀ c ∈ digits, c.isDigit = true) ∧ 0 < count.toNat ∧
      digits.foldl (fun n c => 10 * n + (c.toNat - '0'.toNat)) 0 = count.toNat := by
  have hguard : (digits.isEmpty || !digits.all Char.isDigit) = false ↔
      digits ≠ [] ∧ ∀ c ∈ digits, c.isDigit = true := by simp
  rw [threads?, h, ← and_assoc, ← hguard]
  generalize digits.foldl (fun n c => 10 * n + (c.toNat - '0'.toNat)) 0 = value
  cases digits.isEmpty || !digits.all Char.isDigit with
  | true => simp
  | false =>
    have hlt : count.toNat < UInt64.size := count.toNat_lt_size
    simp only [Bool.false_eq_true, if_false, true_and, Option.ite_none_right_eq_some,
      Option.some.injEq]
    constructor
    · rintro ⟨⟨hpos, hfits⟩, rfl⟩
      rw [UInt64.toNat_ofNat_of_lt' hfits]
      exact ⟨hpos, rfl⟩
    · rintro ⟨hpos, rfl⟩
      exact ⟨⟨hpos, hlt⟩, UInt64.ofNat_toNat⟩

/-- A text asks for a number of threads by a literal of a positive number that fits into a word. -/
def AsksForThreads (text : String) (count : Nat) : Prop :=
  1 ≤ count ∧ count ≤ 2 ^ 64 - 1 ∧
    ∃ literal : NumberLiteral, literal.text = text ∧ literal.value = count

theorem threads?_eq_some_iff {text : String} {count : UInt64} :
    threads? text = some count ↔ AsksForThreads text count.toNat := by
  have hsize : count.toNat ≤ 2 ^ 64 - 1 := Nat.le_sub_one_of_lt count.toNat_lt
  rw [threads?_eq_some_iff_foldl rfl]
  constructor
  · rintro ⟨hne, hdigits, hpos, hvalue⟩
    obtain ⟨before, after, htext, hbefore, hafter⟩ := Text.exists_trimmed text.toList
    obtain ⟨signed, hsign⟩ := exists_sign (Text.trimmed text.toList)
    let literal : NumberLiteral := ⟨before, signed, _, after, hbefore, hne, hdigits, hafter⟩
    refine ⟨hpos, hsize, literal, ?_, literal.value_eq_foldl.trans hvalue⟩
    rw [NumberLiteral.text, NumberLiteral.core, hsign, htext, String.ofList_toList]
  · rintro ⟨hpos, -, literal, rfl, hvalue⟩
    rw [literal.trimmed_text, unsigned_core, ← literal.value_eq_foldl]
    exact ⟨literal.digits_ne_nil, literal.isDigit_digits, hpos, hvalue⟩

example : threads? " +018446744073709551615" = some 18446744073709551615 ∧
    threads? "18446744073709551616" = none := by decide +kernel

/-! ## Class path -/

/-- The pieces of a text between its colons. -/
structure IsCutAtColons (text : String) (pieces : List String) : Prop where
  ne_nil : pieces ≠ []
  colon_notMem : ∀ piece ∈ pieces, ':' ∉ piece.toList
  intercalate : ":".intercalate pieces = text

theorem isCutAtColons_iff {text : String} {pieces : List String} :
    IsCutAtColons text pieces ↔ Text.split ':' text = pieces := by
  constructor
  · rintro ⟨hne, hcolon, rfl⟩
    exact Text.split_intercalate hne hcolon
  · rintro rfl
    exact ⟨by simp [Text.split, Text.pieces_ne_nil], fun _ => Text.notMem_of_mem_split,
      Text.intercalate_split ':' text⟩

theorem IsCutAtColons.pathsOf_eq {text : String} {pieces : List String}
    (h : IsCutAtColons text pieces) : pathsOf text = pieces.filter (· ≠ "") := by
  rw [pathsOf, isCutAtColons_iff.1 h]

/-! ## Both -/

theorem map_toNat_threads?_eq_some_iff {threads : Option String} {count : Nat} :
    (threads.bind threads?).map UInt64.toNat = some count ↔
      ∃ text ∈ threads, AsksForThreads text count := by
  simp only [Option.map_eq_some_iff, Option.bind_eq_some_iff, threads?_eq_some_iff]
  constructor
  · rintro ⟨word, ⟨text, htext, hasks⟩, rfl⟩
    exact ⟨text, htext, hasks⟩
  · rintro ⟨text, htext, hasks⟩
    have hcount : (UInt64.ofNat count).toNat = count :=
      UInt64.toNat_ofNat_of_lt' (Nat.lt_of_le_pred (by decide) hasks.2.1)
    exact ⟨UInt64.ofNat count, ⟨text, htext, hcount.symm ▸ hasks⟩, hcount⟩

theorem bind_threads?_eq_none_iff {threads : Option String} :
    threads.bind threads? = none ↔ ∀ text ∈ threads, ∀ count, ¬ AsksForThreads text count := by
  rw [← Option.map_eq_none_iff (f := UInt64.toNat), Option.eq_none_iff_forall_ne_some]
  simp only [ne_eq, map_toNat_threads?_eq_some_iff, not_exists, not_and]
  exact ⟨fun h text htext count => h count text htext, fun h count text htext => h text htext count⟩

theorem withEnvironment_twice (config : DiscoveryConfig) (classpath threads : Option String) :
    (config.withEnvironment classpath threads).withEnvironment classpath threads =
      config.withEnvironment classpath threads := by
  have hthreads : (threads.bind threads?).or ((threads.bind threads?).or config.scanThreads) =
      (threads.bind threads?).or config.scanThreads := by
    rw [← Option.or_assoc, Option.or_self]
  have hclasspath : (classpath.map pathsOf).getD ((classpath.map pathsOf).getD config.classpath) =
      (classpath.map pathsOf).getD config.classpath := by
    cases classpath <;> rfl
  simp only [withEnvironment, hthreads, hclasspath]

/-- What a configuration is after the environment has been read. The number of threads is the one that the
environment asks for by a literal, between 1 and the largest word; without one it stays. The class path
consists of the pieces between the colons of the environment's text that are not empty, in order; paths
without a colon are read back from their join, and an empty text clears the class path. Neither variable
touches what the other sets, nothing else changes, and reading the environment again changes nothing. -/
theorem overrides_of_environment (config : DiscoveryConfig) (classpath threads : Option String) :
    let result := config.withEnvironment classpath threads
    (∀ count, result.scanThreads.map UInt64.toNat = some count ↔
      (∃ text ∈ threads, AsksForThreads text count) ∨
      (∀ text ∈ threads, ∀ other, ¬ AsksForThreads text other) ∧
        config.scanThreads.map UInt64.toNat = some count) ∧
    ((∀ text ∈ threads, ∀ count, ¬ AsksForThreads text count) →
      result.scanThreads = config.scanThreads) ∧
    (classpath = none → result.classpath = config.classpath) ∧
    (∀ text ∈ classpath, ∃ pieces, IsCutAtColons text pieces ∧
      result.classpath = pieces.filter (· ≠ "")) ∧
    (classpath = some "" → result.classpath = []) ∧
    (∀ paths, paths ≠ [] → (∀ path ∈ paths, path ≠ "" ∧ ':' ∉ path.toList) →
      classpath = some (":".intercalate paths) → result.classpath = paths) ∧
    (∀ other, (config.withEnvironment classpath other).classpath = result.classpath) ∧
    (∀ other, (config.withEnvironment other threads).scanThreads = result.scanThreads) ∧
    result.descriptors = config.descriptors ∧
    result.frameworkPackage = config.frameworkPackage ∧
    result.withEnvironment classpath threads = result := by
  intro result
  have hthreads : result.scanThreads = (threads.bind threads?).or config.scanThreads := rfl
  have hpaths : ∀ text ∈ classpath, result.classpath = pathsOf text := by
    rintro text ⟨⟩
    rfl
  refine ⟨fun count => ?_, fun hnone => ?_, ?_, fun text htext => ?_, ?_, ?_, fun other => rfl,
    fun other => rfl, rfl, rfl, ?_⟩
  · rw [hthreads, Option.map_or, Option.or_eq_some_iff, map_toNat_threads?_eq_some_iff, Option.map_eq_none_iff,
      bind_threads?_eq_none_iff]
  · rw [hthreads, bind_threads?_eq_none_iff.2 hnone, Option.none_or]
  · rintro rfl
    rfl
  · have hcut := isCutAtColons_iff.2 (rfl : Text.split ':' text = _)
    exact ⟨_, hcut, (hpaths text htext).trans hcut.pathsOf_eq⟩
  · rintro rfl
    rfl
  · rintro paths hne hpath rfl
    have hcut : IsCutAtColons (":".intercalate paths) paths :=
      ⟨hne, fun path hmem => (hpath path hmem).2, rfl⟩
    rw [hpaths _ rfl, hcut.pathsOf_eq]
    exact List.filter_eq_self.2 fun path hmem => decide_eq_true (hpath path hmem).1
  · exact config.withEnvironment_twice classpath threads

/-- A number of threads with blanks around it, a sign and zeros in front. -/
def paddedTwelve : NumberLiteral where
  before := ['\u00a0']
  signed := true
  digits := ['0', '0', '1', '2']
  after := ['\n']
  blank_before := List.forall_mem_singleton.2 rfl
  digits_ne_nil := List.cons_ne_nil _ _
  isDigit_digits := List.all_eq_true.1 rfl
  blank_after := List.forall_mem_singleton.2 rfl

theorem overrides_padded :
    let config : DiscoveryConfig := { classpath := ["/srv/old"], scanThreads := some 4 }
    let result := config.withEnvironment (some "/opt/app:/opt/lib.jar") (some paddedTwelve.text)
    AsksForThreads paddedTwelve.text 12 ∧ result.scanThreads.map UInt64.toNat = some 12 ∧
    (∀ path ∈ ["/opt/app", "/opt/lib.jar"], path ≠ "" ∧ ':' ∉ path.toList) ∧
    result.classpath = ["/opt/app", "/opt/lib.jar"] := by
  intro config result
  obtain ⟨hthreads, -, -, -, -, hpaths, -⟩ :=
    overrides_of_environment config (some "/opt/app:/opt/lib.jar") (some paddedTwelve.text)
  have hasks : AsksForThreads paddedTwelve.text 12 :=
    ⟨by decide, by decide, paddedTwelve, rfl, by decide⟩
  have hclean : ∀ path ∈ ["/opt/app", "/opt/lib.jar"], path ≠ "" ∧ ':' ∉ path.toList := by decide
  exact ⟨hasks, (hthreads 12).2 (Or.inl ⟨_, rfl, hasks⟩), hclean,
    hpaths _ (by decide) hclean (by decide)⟩

end DiscoveryConfig
end BeanDiscovery
