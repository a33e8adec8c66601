import BeanDiscovery.Text

/-! # Class names

A class is known by its fully qualified binary name. The part before the last dot is its package
and the part after it its simple name, so a name with a package is the two joined by a dot. -/
namespace BeanDiscovery

/-- A fully qualified binary class name, such as `com.example.Outer$Inner`. -/
structure ClassName where
  text : String
  deriving DecidableEq, Inhabited

namespace ClassName

/-- The text before the last dot, empty for a name of the default package. -/
def package (name : ClassName) : String :=
  match Text.cutAtLastDot name.text.toList with
  | some (before, _) => String.ofList before
  | none => ""

/-- The text after the last dot. -/
def simpleName (name : ClassName) : String :=
  match Text.cutAtLastDot name.text.toList with
  | some (_, after) => String.ofList after
  | none => name.text

/-- The name of a class in a package, written with a dot between the two. -/
def inPackage (package simpleName : String) : ClassName :=
  ⟨package ++ "." ++ simpleName⟩

theorem package_inPackage {package simpleName : String} (h : '.' ∉ simpleName.toList) :
    (inPackage package simpleName).package = package := by
  have e : (package ++ "." ++ simpleName).toList = package.toList ++ '.' :: simpleName.toList := by
    simp [String.toList_append]
  simp [ClassName.package, inPackage, e, Text.cutAtLastDot_append _ h]

theorem simpleName_inPackage {package simpleName : String} (h : '.' ∉ simpleName.toList) :
    (inPackage package simpleName).simpleName = simpleName := by
  have e : (package ++ "." ++ simpleName).toList = package.toList ++ '.' :: simpleName.toList := by
    simp [String.toList_append]
  simp [ClassName.simpleName, inPackage, e, Text.cutAtLastDot_append _ h]

/-- Names are ordered by code point. -/
def le (a b : ClassName) : Bool := decide (a.text ≤ b.text)

theorem le_total (a b : ClassName) : (le a b || le b a) = true := by
  simp only [le, Bool.or_eq_true, decide_eq_true_eq]
  exact String.le_total a.text b.text

theorem le_trans {a b c : ClassName} (hab : le a b = true) (hbc : le b c = true) :
    le a c = true := by
  simp only [le, decide_eq_true_eq] at *
  exact String.le_trans hab hbc

theorem le_antisymm {a b : ClassName} (hab : le a b = true) (hba : le b a = true) : a = b := by
  simp only [le, decide_eq_true_eq] at *
  cases a; cases b
  exact congrArg _ (String.le_antisymm hab hba)

/-- The names in ascending order. -/
def sorted (names : List ClassName) : List ClassName := names.mergeSort le

theorem sorted_perm (names : List ClassName) : (sorted names).Perm names :=
  List.mergeSort_perm names le

theorem sorted_pairwise (names : List ClassName) :
    (sorted names).Pairwise (fun a b => le a b = true) := by
  unfold sorted
  exact @List.pairwise_mergeSort _ le (fun _ _ _ hab hbc => le_trans hab hbc) le_total names

/-- Without repetition the ascending order is strict. -/
theorem sorted_strict {names : List ClassName} (h : names.Nodup) :
    (sorted names).Pairwise fun a b => a.text < b.text := by
  have hdistinct : (sorted names).Pairwise (· ≠ ·) := (sorted_perm names).nodup_iff.2 h
  refine (List.Pairwise.and (sorted_pairwise names) hdistinct).imp ?_
  rintro a b ⟨hle, hne⟩
  refine Std.lt_of_le_of_ne (of_decide_eq_true hle) fun htext => hne ?_
  cases a; cases b
  exact congrArg _ htext

/-- The order of the names before does not matter. -/
theorem sorted_congr {names others : List ClassName} (h : names.Perm others) :
    sorted names = sorted others :=
  List.Perm.eq_of_pairwise (fun _ _ _ _ hab hba => le_antisymm hab hba) (sorted_pairwise names)
    (sorted_pairwise others) (((sorted_perm names).trans h).trans (sorted_perm others).symm)

theorem filter_sorted (p : ClassName → Bool) (names : List ClassName) :
    (sorted names).filter p = sorted (names.filter p) :=
  List.Perm.eq_of_pairwise (fun _ _ _ _ hab hba => le_antisymm hab hba)
    ((sorted_pairwise names).filter p) (sorted_pairwise (names.filter p))
    (((sorted_perm names).filter p).trans (sorted_perm (names.filter p)).symm)

@[simp] theorem mem_sorted {names : List ClassName} {name : ClassName} :
    name ∈ sorted names ↔ name ∈ names :=
  (sorted_perm names).mem_iff

end ClassName
end BeanDiscovery
