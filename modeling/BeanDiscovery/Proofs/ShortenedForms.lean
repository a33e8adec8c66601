import BeanDiscovery.Json.ClassForms
import BeanDiscovery.Json.ConfigForm
import Mathlib.Data.List.Forall2

/-!
# Forms without their defaults

What is written down may leave out members that hold a default. The reader supplies these. The main statement
is that a value is read back from its JSON form whichever of these members are left out, at any depth.
-/
namespace BeanDiscovery
open JsonForm Json

namespace Json

/-! ## Leaving out members -/

/-- The members that may be left out, each with the value that the reader supplies for it. -/
def defaults : List (String × Json) :=
  [("kind", .string "class"), ("is_abstract", .bool false), ("location", .null),
    ("superclass", .null), ("interfaces", .array []), ("markers", .array []),
    ("fields", .array []), ("methods", .array []), ("params", .array []), ("returns", .null),
    ("value", .array []), ("late", .array []), ("test_method", .null),
    ("additional_classes", .array []), ("classpath", .array []), ("scan_threads", .null),
    ("bean_archive_descriptors", strings ["META-INF/beans.xml"]),
    ("framework_package", .string "io.github.beanscope")]

/-- The value that the reader supplies for a member. -/
def default? (name : String) : Option Json := (Json.object defaults).member? name

mutual

/-- A value becomes another one when members that hold their defaults are left out of it, at any depth. -/
inductive Shortens : Json → Json → Prop
  | same (json) : Shortens json json
  | array {items others} (h : ShortensAll items others) : Shortens (.array items) (.array others)
  | object {members others} (h : ShortensMembers members others) :
      Shortens (.object members) (.object others)

inductive ShortensAll : List Json → List Json → Prop
  | nil : ShortensAll [] []
  | cons {item other items others} (hitem : Shortens item other) (h : ShortensAll items others) :
      ShortensAll (item :: items) (other :: others)

inductive ShortensMembers : List (String × Json) → List (String × Json) → Prop
  | nil : ShortensMembers [] []
  | keep {name value other members others} (hvalue : Shortens value other)
      (h : ShortensMembers members others) :
      ShortensMembers ((name, value) :: members) ((name, other) :: others)
  | leaveOut {name value members others} (hdefault : default? name = some value)
      (h : ShortensMembers members others) : ShortensMembers ((name, value) :: members) others

end

theorem ShortensAll.refl (items : List Json) : ShortensAll items items := by
  induction items with
  | nil => exact .nil
  | cons item items ih => exact .cons (.same item) ih

theorem ShortensMembers.refl (members : List (String × Json)) : ShortensMembers members members := by
  induction members with
  | nil => exact .nil
  | cons member members ih => exact .keep (.same member.2) ih

theorem Shortens.exists_items {items : List Json} {json : Json} (h : Shortens (.array items) json) :
    ∃ others, json = .array others ∧ ShortensAll items others := by
  cases h with
  | same => exact ⟨items, rfl, .refl items⟩
  | array h => exact ⟨_, rfl, h⟩

theorem Shortens.exists_members {members : List (String × Json)} {json : Json}
    (h : Shortens (.object members) json) :
    ∃ others, json = .object others ∧ ShortensMembers members others := by
  cases h with
  | same => exact ⟨members, rfl, .refl members⟩
  | object h => exact ⟨_, rfl, h⟩

/-- A member without a default stays. -/
theorem ShortensMembers.exists_cons {name : String} {value : Json}
    {members others : List (String × Json)} (h : ShortensMembers ((name, value) :: members) others)
    (hname : default? name = none) :
    ∃ other rest, others = (name, other) :: rest ∧ Shortens value other ∧
      ShortensMembers members rest := by
  cases h with
  | keep hvalue h => exact ⟨_, _, rfl, hvalue, h⟩
  | leaveOut hdefault =>
    rw [hname] at hdefault
    cases hdefault

theorem ShortensMembers.eq_nil {others : List (String × Json)} (h : ShortensMembers [] others) :
    others = [] := by
  cases h
  rfl

theorem Shortens.exists_member {name : String} {value json : Json}
    (h : Shortens (.object [(name, value)]) json) (hname : default? name = none) :
    ∃ other, json = .object [(name, other)] ∧ Shortens value other := by
  obtain ⟨others, rfl, hmembers⟩ := h.exists_members
  obtain ⟨other, rest, rfl, hvalue, hrest⟩ := hmembers.exists_cons hname
  rw [hrest.eq_nil]
  exact ⟨other, rfl, hvalue⟩

/-! ## Fields of a record -/

/-- What stands for a field in an object. -/
def slotOf (members : List (String × Json)) (name : String) : Slot :=
  match (Json.object members).member? name with
  | some value => .given value
  | none => .absent

/-- A field is given as it was written, or is absent because it held its default. -/
inductive Fits (name : String) (value : Json) : Slot → Prop
  | given {other} (h : value.Shortens other) : Fits name value (.given other)
  | absent (h : default? name = some value) : Fits name value .absent

variable {members others : List (String × Json)} {name : String} {value : Json}

theorem ShortensMembers.names_sublist (h : ShortensMembers members others) :
    (others.map Prod.fst).Sublist (members.map Prod.fst) := by
  induction members generalizing others with
  | nil =>
    cases h
    exact .refl []
  | cons member members ih =>
    cases h with
    | keep _ h => exact (ih h).cons_cons _
    | leaveOut _ h => exact (ih h).cons _

theorem slotOf_cons (member : String × Json) (members : List (String × Json)) (name : String) :
    slotOf (member :: members) name =
      if member.1 = name then .given member.2 else slotOf members name := by
  by_cases h : member.1 = name
  · simp [slotOf, member?, h]
  · simp [slotOf, member?, h]

theorem slotOf_of_notMem (h : name ∉ members.map Prod.fst) : slotOf members name = .absent := by
  have hfind : (members.find? fun entry => entry.1 = name) = none := by
    refine List.find?_eq_none.2 fun entry hentry hname => h ?_
    exact of_decide_eq_true hname ▸ List.mem_map_of_mem hentry
  rw [slotOf, member?, hfind]
  rfl

theorem ShortensMembers.fits (h : ShortensMembers members others)
    (hnodup : (members.map Prod.fst).Nodup) (hmem : (name, value) ∈ members) :
    Fits name value (slotOf others name) := by
  induction members generalizing others with
  | nil => cases hmem
  | cons member members ih =>
    obtain ⟨hnew, hrest⟩ := List.nodup_cons.1 hnodup
    cases h with
    | keep hvalue h =>
      rw [slotOf_cons]
      rcases List.mem_cons.1 hmem with heq | hmem
      · obtain ⟨rfl, rfl⟩ := Prod.mk.inj heq
        rw [if_pos rfl]
        exact .given hvalue
      · rw [if_neg]
        · exact ih h hrest hmem
        · exact fun hname => hnew (hname ▸ List.mem_map_of_mem hmem)
    | leaveOut hdefault h =>
      rcases List.mem_cons.1 hmem with heq | hmem
      · obtain ⟨rfl, rfl⟩ := Prod.mk.inj heq
        rw [slotOf_of_notMem fun hlater => hnew (h.names_sublist.subset hlater)]
        exact .absent hdefault
      · exact ih h hrest hmem

/-- A record with all its fields, shortened, gives each field its slot. -/
theorem Shortens.exists_slots {fields : List (String × Json)} {json : Json}
    (h : Shortens (.object fields) json) (names : List String) (hnames : fields.map Prod.fst = names)
    (hnodup : names.Nodup) :
    ∃ found, slots names json = some found ∧
      List.Forall₂ (fun field => Fits field.1 field.2) fields found := by
  subst hnames
  obtain ⟨others, rfl, hmembers⟩ := h.exists_members
  refine ⟨(fields.map Prod.fst).map (slotOf others), ?_, ?_⟩
  · rw [slots, if_pos]
    · rfl
    · refine List.all_eq_true.2 fun name _ => decide_eq_true ?_
      have hcount : occurrences others name = (others.map Prod.fst).count name := by
        rw [occurrences, List.count, List.countP_map]
        rfl
      rw [hcount]
      exact List.nodup_iff_count.1 (hnodup.sublist hmembers.names_sublist) name
  · rw [List.map_map, List.forall₂_map_right_iff, List.forall₂_same]
    exact fun field hfield => hmembers.fits hnodup hfield

end Json

/-! ## Reading back -/

/-- A value is read from its form whichever defaults are left out of it, also if none is. -/
def JsonForm.ReadsBack {α : Type} [JsonForm α] (value : α) : Prop :=
  ∀ json, (encode value).Shortens json → decode json = some value

section Values
variable {α : Type} [JsonForm α]

theorem JsonForm.ReadsBack.decode_encode {value : α} (h : ReadsBack value) :
    decode (encode value) = some value :=
  h _ (.same _)

theorem readsBack_string (text : String) : ReadsBack text := by
  intro json h
  cases h
  rfl

theorem readsBack_bool (value : Bool) : ReadsBack value := by
  intro json h
  cases h
  rfl

theorem readsBack_number (number : UInt64) : ReadsBack number := by
  intro json h
  cases h
  simp only [encode, decode]
  rw [if_pos number.toNat_lt_size, UInt64.ofNat_toNat]

theorem readsBack_list {values : List α} (h : ∀ value ∈ values, ReadsBack value) :
    ReadsBack values := by
  intro json hjson
  obtain ⟨others, rfl, hall⟩ := Shortens.exists_items hjson
  show others.mapM decode = some values
  clear hjson
  induction values generalizing others with
  | nil =>
    cases hall
    rfl
  | cons value values ih =>
    cases hall with
    | cons hitem hall =>
      obtain ⟨hvalue, hrest⟩ := List.forall_mem_cons.1 h
      rw [List.mapM_cons, hvalue _ hitem, ih hrest _ hall]
      rfl

/-- Null stands for nothing, so it must not stand for a value. -/
theorem readsBack_option {value? : Option α} (hnull : (decode .null : Option α) = none)
    (h : ∀ value ∈ value?, ReadsBack value) : ReadsBack value? := by
  intro json hjson
  cases value? with
  | none =>
    cases hjson
    rfl
  | some value =>
    have hdecode : (decode json : Option α) = some value := h value rfl json hjson
    cases json with
    | null =>
      rw [hnull] at hdecode
      cases hdecode
    | _ => exact congrArg (Option.map some) hdecode

namespace Json.Fits
variable {name : String} {value default : α} {slot : Slot}

theorem required (h : Fits name (encode value) slot) (hname : default? name = none)
    (hvalue : ReadsBack value) : slot.required = some value := by
  cases h with
  | given hother => exact hvalue _ hother
  | absent hdefault =>
    rw [hname] at hdefault
    cases hdefault

theorem orDefault (h : Fits name (encode value) slot) (hdefault : ReadsBack default)
    (hname : default? name = some (encode default)) (hvalue : ReadsBack value) :
    slot.orDefault default = some value := by
  cases h with
  | given hother => exact hvalue _ hother
  | absent habsent =>
    have heq : encode value = encode default := Option.some.inj (habsent.symm.trans hname)
    have hsame : some default = some value :=
      hdefault.decode_encode.symm.trans ((congrArg decode heq).symm.trans hvalue.decode_encode)
    exact hsame

theorem orNothing {value? : Option α} (h : Fits name (encode value?) slot)
    (hname : default? name = some .null) (hvalue : ReadsBack value?) :
    slot.orNothing = some value? := by
  cases h with
  | given hother => exact hvalue _ hother
  | absent habsent =>
    have heq : encode value? = .null := Option.some.inj (habsent.symm.trans hname)
    exact (congrArg decode heq).symm.trans hvalue.decode_encode

theorem orNil {values : List α} (h : Fits name (encode values) slot)
    (hname : default? name = some (.array [])) (hvalues : ∀ value ∈ values, ReadsBack value) :
    slot.orDefault [] = some values :=
  h.orDefault (readsBack_list (by simp)) hname (readsBack_list hvalues)

end Json.Fits
end Values

/-! ## Classes -/

theorem readsBack_className (name : ClassName) : ReadsBack name := by
  intro json h
  cases h
  rfl

/-- A location in its normal form is read as it is. -/
theorem readsBack_url {url : Url} (hnormal : Url.parse? url.text = some url) : ReadsBack url := by
  intro json h
  cases h
  exact hnormal

theorem readsBack_kind (kind : ClassKind) : ReadsBack kind := by
  intro json h
  cases h
  cases kind <;> rfl

theorem readsBack_markerUse (marker : MarkerUse) : ReadsBack marker := by
  intro json hjson
  obtain ⟨found, hslots, hfits⟩ :=
    Shortens.exists_slots hjson ["name", "value", "late"] rfl (by decide)
  obtain _ | ⟨hname, _ | ⟨hvalue, _ | ⟨hlate, _ | _⟩⟩⟩ := hfits
  have hname := hname.required rfl (readsBack_className marker.name)
  have hvalue := hvalue.orNil rfl fun name _ => readsBack_className name
  have hlate := hlate.orNil rfl fun text _ => readsBack_string text
  simp only [decode, hslots, hname, hvalue, hlate]
  rfl

/-! ### Type references -/

theorem ofJson?_parameterized (body : Json) :
    TypeRef.ofJson? (.object [("Parameterized", body)]) =
      (TypeRef.rawOf? body).bind fun raw => (TypeRef.argsOf? body).map (.parameterized raw) := by
  rw [TypeRef.ofJson?, if_neg (by decide), if_neg (by decide), if_neg (by decide), if_pos rfl]
  cases TypeRef.rawOf? body with
  | none => rfl
  | some raw => cases TypeRef.argsOf? body <;> rfl

mutual

theorem readsBack_typeRef : ∀ type : TypeRef, ReadsBack type
  | .cls name => fun json hjson => by
    obtain ⟨body, rfl, hbody⟩ := Shortens.exists_member hjson rfl
    exact congrArg (Option.map TypeRef.cls) (readsBack_className name body hbody)
  | .parameterized raw args => fun json hjson => by
    obtain ⟨body, rfl, hbody⟩ := Shortens.exists_member hjson rfl
    obtain ⟨members, rfl, hmembers⟩ := hbody.exists_members
    obtain ⟨first, _, rfl, hraw, hrest⟩ := hmembers.exists_cons rfl
    obtain ⟨second, _, rfl, hargs, hrest⟩ := hrest.exists_cons rfl
    obtain rfl := hrest.eq_nil
    obtain ⟨items, rfl, hitems⟩ := hargs.exists_items
    cases hraw
    have hread := ofJsonList?_of_shortensAll args hitems
    exact (ofJson?_parameterized _).trans (congrArg (Option.map (TypeRef.parameterized raw)) hread)
  | .var label => fun json hjson => by
    obtain ⟨body, rfl, hbody⟩ := Shortens.exists_member hjson rfl
    exact congrArg (Option.map TypeRef.var) (readsBack_string label body hbody)
  | .array component => fun json hjson => by
    obtain ⟨body, rfl, hbody⟩ := Shortens.exists_member hjson rfl
    have hcomponent := readsBack_typeRef component body hbody
    exact congrArg (Option.map TypeRef.array) hcomponent

theorem ofJsonList?_of_shortensAll : ∀ (types : List TypeRef) {others : List Json},
    ShortensAll (TypeRef.toJsonList types) others → TypeRef.ofJsonList? others = some types
  | [], others, h => by
    cases h
    rfl
  | type :: types, others, h => by
    cases h with
    | cons hitem h =>
      have htype : TypeRef.ofJson? _ = some type := readsBack_typeRef type _ hitem
      have htypes := ofJsonList?_of_shortensAll types h
      rw [TypeRef.ofJsonList?, htype, htypes]
      rfl

end

/-! ### Members and classes -/

theorem readsBack_field (field : FieldInfo) : ReadsBack field := by
  intro json hjson
  obtain ⟨found, hslots, hfits⟩ :=
    Shortens.exists_slots hjson ["name", "declared", "markers"] rfl (by decide)
  obtain _ | ⟨hname, _ | ⟨hdeclared, _ | ⟨hmarkers, _ | _⟩⟩⟩ := hfits
  have hname := hname.required rfl (readsBack_string field.name)
  have hdeclared := hdeclared.required rfl (readsBack_typeRef field.declared)
  have hmarkers := hmarkers.orNil rfl fun marker _ => readsBack_markerUse marker
  simp only [decode, hslots, hname, hdeclared, hmarkers]
  rfl

theorem readsBack_method (method : MethodInfo) : ReadsBack method := by
  intro json hjson
  obtain ⟨found, hslots, hfits⟩ :=
    Shortens.exists_slots hjson ["name", "params", "returns", "markers"] rfl (by decide)
  obtain _ | ⟨hname, _ | ⟨hparams, _ | ⟨hreturns, _ | ⟨hmarkers, _ | _⟩⟩⟩⟩ := hfits
  have hname := hname.required rfl (readsBack_string method.name)
  have hparams := hparams.orNil rfl fun type _ => readsBack_typeRef type
  have hreturns := hreturns.orNothing rfl
    (readsBack_option rfl fun type _ => readsBack_typeRef type)
  have hmarkers := hmarkers.orNil rfl fun marker _ => readsBack_markerUse marker
  simp only [decode, hslots, hname, hparams, hreturns, hmarkers]
  rfl

theorem readsBack_classInfo {info : ClassInfo}
    (hlocation : ∀ location ∈ info.location, Url.parse? location.text = some location) :
    ReadsBack info := by
  intro json hjson
  obtain ⟨found, hslots, hfits⟩ :=
    Shortens.exists_slots hjson ["name", "kind", "is_abstract", "location", "superclass", "interfaces",
      "markers", "fields", "methods"] rfl (by decide)
  obtain _ | ⟨hname, _ | ⟨hkind, _ | ⟨hisAbstract, _ | ⟨hplace, _ | ⟨hsuperclass, _ | ⟨hinterfaces,
    _ | ⟨hmarkers, _ | ⟨hfields, _ | ⟨hmethods, _ | _⟩⟩⟩⟩⟩⟩⟩⟩⟩ := hfits
  have hname := hname.required rfl (readsBack_className info.name)
  have hkind := hkind.orDefault (readsBack_kind .cls) rfl (readsBack_kind info.kind)
  have hisAbstract := hisAbstract.orDefault (readsBack_bool false) rfl (readsBack_bool info.isAbstract)
  have hplace := hplace.orNothing rfl
    (readsBack_option rfl fun url hurl => readsBack_url (hlocation url hurl))
  have hsuperclass := hsuperclass.orNothing rfl
    (readsBack_option rfl fun type _ => readsBack_typeRef type)
  have hinterfaces := hinterfaces.orNil rfl fun name _ => readsBack_className name
  have hmarkers := hmarkers.orNil rfl fun marker _ => readsBack_markerUse marker
  have hfields := hfields.orNil rfl fun field _ => readsBack_field field
  have hmethods := hmethods.orNil rfl fun method _ => readsBack_method method
  simp only [decode, hslots, hname, hkind, hisAbstract, hplace, hsuperclass, hinterfaces, hmarkers,
    hfields, hmethods]
  rfl

/-! ## Tests and configurations -/

theorem readsBack_testConfiguration (configuration : TestConfiguration) :
    ReadsBack configuration := by
  intro json hjson
  obtain ⟨found, hslots, hfits⟩ :=
    Shortens.exists_slots hjson ["test_class", "test_method", "additional_classes"] rfl (by decide)
  obtain _ | ⟨htestClass, _ | ⟨htestMethod, _ | ⟨hadditional, _ | _⟩⟩⟩ := hfits
  have htestClass := htestClass.required rfl (readsBack_className configuration.testClass)
  have htestMethod := htestMethod.orNothing rfl
    (readsBack_option rfl fun text _ => readsBack_string text)
  have hadditional := hadditional.orNil rfl fun name _ => readsBack_className name
  simp only [decode, hslots, htestClass, htestMethod, hadditional]
  rfl

theorem readsBack_config (config : DiscoveryConfig) : ReadsBack config := by
  intro json hjson
  obtain ⟨found, hslots, hfits⟩ :=
    Shortens.exists_slots hjson ["classpath", "scan_threads", "bean_archive_descriptors",
      "framework_package"] rfl (by decide)
  obtain _ | ⟨hclasspath, _ | ⟨hthreads, _ | ⟨hdescriptors, _ | ⟨hpackage, _ | _⟩⟩⟩⟩ := hfits
  have hstrings : ∀ texts : List String, ReadsBack texts := fun texts =>
    readsBack_list fun text _ => readsBack_string text
  have hnumber : ∀ number? : Option UInt64, ReadsBack number? := fun number? =>
    readsBack_option rfl fun number _ => readsBack_number number
  have hclasspath := hclasspath.orDefault (hstrings []) rfl (hstrings config.classpath)
  have hthreads := hthreads.orDefault (hnumber none) rfl (hnumber config.scanThreads)
  have hdescriptors := hdescriptors.orDefault (hstrings ["META-INF/beans.xml"]) rfl
    (hstrings config.descriptors)
  have hpackage := hpackage.orDefault (readsBack_string Vocabulary.frameworkPackage) rfl
    (readsBack_string config.frameworkPackage)
  simp only [decode, hslots, hclasspath, hthreads, hdescriptors, hpackage]
  rfl

/-- Everything that is stored of classes, tests and configurations is read back from its form, whichever
members with their defaults are left out, at any depth. -/
theorem readsBack_forms :
    (∀ info : ClassInfo,
      (∀ location ∈ info.location, Url.parse? location.text = some location) → ReadsBack info) ∧
    (∀ field : FieldInfo, ReadsBack field) ∧
    (∀ method : MethodInfo, ReadsBack method) ∧
    (∀ marker : MarkerUse, ReadsBack marker) ∧
    (∀ type : TypeRef, ReadsBack type) ∧
    (∀ configuration : TestConfiguration, ReadsBack configuration) ∧
    ∀ config : DiscoveryConfig, ReadsBack config :=
  ⟨fun _ => readsBack_classInfo, readsBack_field, readsBack_method, readsBack_markerUse,
    readsBack_typeRef, readsBack_testConfiguration, readsBack_config⟩

/-- A class with a marked method that returns an array of a parameterized type. -/
def storedClass : ClassInfo where
  name := ⟨"com.example.Box"⟩
  location := some ⟨"file:///cp/app/"⟩
  superclass := some (.cls ⟨"java.lang.Object"⟩)
  methods := [{
    name := "all"
    returns := some (.array (.parameterized ⟨"java.util.List"⟩ [.var "T"]))
    markers := [{ name := ⟨"jakarta.inject.Inject"⟩ }] }]

/-- The form of the class without any default. -/
def storedForm : Json :=
  .object [("name", .string "com.example.Box"), ("location", .string "file:///cp/app/"),
    ("superclass", .object [("Class", .string "java.lang.Object")]),
    ("methods", .array [.object [("name", .string "all"),
      ("returns", .object [("Array", .object [("Parameterized", .object
        [("raw", .string "java.util.List"), ("args", .array [.object [("Variable", .string "T")]])])])]),
      ("markers", .array [.object [("name", .string "jakarta.inject.Inject")]])]])]

theorem decode_storedForm : decode storedForm = some storedClass := by
  refine readsBack_forms.1 storedClass ?_ storedForm ?_
  · intro location hlocation
    obtain rfl := Option.some.inj hlocation
    decide +kernel
  · have hmarker : Shortens (encode (⟨⟨"jakarta.inject.Inject"⟩, [], []⟩ : MarkerUse))
        (.object [("name", .string "jakarta.inject.Inject")]) :=
      .object (.keep (.same _) (.leaveOut rfl (.leaveOut rfl .nil)))
    have hmethod : Shortens (encode storedClass.methods) _ :=
      .array (.cons (.object (.keep (.same _) (.leaveOut rfl (.keep (.same _)
        (.keep (.array (.cons hmarker .nil)) .nil))))) .nil)
    exact .object (.keep (.same _) (.leaveOut rfl (.leaveOut rfl (.keep (.same _) (.keep (.same _)
      (.leaveOut rfl (.leaveOut rfl (.leaveOut rfl (.keep hmethod .nil)))))))))

end BeanDiscovery
