import BeanDiscovery.FileTree
import BeanDiscovery.Url.FilePath
import Mathlib.Data.List.Induction
import Mathlib.Data.List.Nodup

/-!
# Where paths lead

A path is followed through directories and links. Names that lead nowhere do not matter on the way to a
directory. Below a directory without links a path leads to what stands under its names. The main statement
says this of the paths that start with the path of such a directory.
-/
namespace BeanDiscovery

namespace FileTree

/-! ## Names that lead nowhere -/

/-- An empty name or a single dot. -/
def IsIdle (name : String) : Prop := name = "" ∨ name = "."

instance (name : String) : Decidable (IsIdle name) :=
  inferInstanceAs (Decidable (name = "" ∨ name = "."))

/-- The names that lead somewhere. -/
def namesAlong (names : List String) : List String := names.filter fun name => ¬ IsIdle name

theorem namesOf_eq (path : String) : Url.namesOf path = namesAlong (steps path) := by
  refine List.filter_congr fun name _ => ?_
  simp [IsIdle, not_or]

/-! ## On the way to a directory -/

/-- Names lead from one place to another, past so many links at most, and leave so many to be followed. -/
inductive Leads (tree : FileTree) : Nat → FilePlace → List String → Nat → FilePlace → Prop
  | here {links place} : Leads tree links place [] links place
  | stay {links place name names rest goal} (hname : IsIdle name)
      (h : Leads tree links place names rest goal) : Leads tree links place (name :: names) rest goal
  | up {links place names rest goal} (h : Leads tree links place.dropLast names rest goal) :
      Leads tree links place (".." :: names) rest goal
  | down {links place name names rest goal} (hname : ¬ IsIdle name) (hup : name ≠ "..")
      (hnode : tree.node? (place ++ [name]) = some .directory)
      (h : Leads tree links (place ++ [name]) names rest goal) :
      Leads tree links place (name :: names) rest goal
  | link {links place name names rest goal target} (hname : ¬ IsIdle name) (hup : name ≠ "..")
      (hnode : tree.node? (place ++ [name]) = some (.link target))
      (h : Leads tree links (if isAbsolute target then [] else place) (steps target ++ names) rest
        goal) :
      Leads tree (links + 1) place (name :: names) rest goal

variable {tree : FileTree} {links rest : Nat} {place goal : FilePlace} {name : String}
  {names others : List String}

theorem follow_nil (tree : FileTree) (isNew : Bool) (links : Nat) (place : FilePlace) :
    tree.follow isNew links place [] = some place := by
  rw [follow]

theorem follow_of_idle (h : IsIdle name) (names : List String) :
    tree.follow false links place (name :: names) = tree.follow false links place names := by
  rw [follow, if_pos (by simpa [IsIdle] using h)]

theorem follow_up (names : List String) :
    tree.follow false links place (".." :: names) = tree.follow false links place.dropLast names := by
  rw [follow, if_neg (by decide), if_pos rfl]

theorem follow_cons (hname : ¬ IsIdle name) (hup : name ≠ "..") (names : List String) :
    tree.follow false links place (name :: names) =
      match tree.node? (place ++ [name]) with
      | none => none
      | some .directory => tree.follow false links (place ++ [name]) names
      | some (.link target) =>
        match links with
        | 0 => none
        | links + 1 =>
          tree.follow false links (if isAbsolute target then [] else place) (steps target ++ names)
      | some _ => if names.isEmpty then some (place ++ [name]) else none := by
  rw [follow, if_neg (by simpa [IsIdle] using hname), if_neg hup]
  cases tree.node? (place ++ [name]) with
  | none => rfl
  | some node => cases node <;> rfl

/-- A path that is followed to a directory leads there. -/
theorem exists_leads (h : tree.follow false links place names = some goal)
    (hgoal : tree.node? goal = some .directory) : ∃ rest, Leads tree links place names rest goal := by
  induction links, place, names using follow.induct tree false with
  | case1 links place =>
    rw [follow_nil] at h
    obtain rfl := Option.some.inj h
    exact ⟨links, .here⟩
  | case2 links place name names hname ih =>
    have hidle : IsIdle name := by simpa [IsIdle] using hname
    rw [follow_of_idle hidle] at h
    obtain ⟨rest, hleads⟩ := ih h
    exact ⟨rest, .stay hidle hleads⟩
  | case3 links place names _ ih =>
    rw [follow_up] at h
    obtain ⟨rest, hleads⟩ := ih h
    exact ⟨rest, .up hleads⟩
  | case4 links place name names hname hup hnode hnew => simp at hnew
  | case5 links place name names hname hup hnode _ =>
    rw [follow_cons (by simpa [IsIdle] using hname) hup, hnode] at h
    cases h
  | case6 links place name names hname hup hnode ih =>
    have hidle : ¬ IsIdle name := by simpa [IsIdle] using hname
    rw [follow_cons hidle hup, hnode] at h
    obtain ⟨rest, hleads⟩ := ih h
    exact ⟨rest, .down hidle hup hnode hleads⟩
  | case7 place name names hname hup target hnode =>
    rw [follow_cons (by simpa [IsIdle] using hname) hup, hnode] at h
    cases h
  | case8 place name names hname hup target hnode links ih =>
    have hidle : ¬ IsIdle name := by simpa [IsIdle] using hname
    rw [follow_cons hidle hup, hnode] at h
    obtain ⟨rest, hleads⟩ := ih (by simpa using h)
    exact ⟨rest, .link hidle hup hnode (by simpa using hleads)⟩
  | case9 links place name names hname hup node hdirectory hlink hnode hempty =>
    -- A file or an archive at the end of the path is no directory.
    rw [follow_cons (by simpa [IsIdle] using hname) hup, hnode] at h
    have hplace : place ++ [name] = goal := by
      cases node <;> simp_all
    exact (hdirectory (Option.some.inj (hnode.symm.trans (hplace ▸ hgoal)))).elim
  | case10 links place name names hname hup node hdirectory hlink hnode hempty =>
    rw [follow_cons (by simpa [IsIdle] using hname) hup, hnode] at h
    cases node <;> simp_all

/-- What is behind the names of a directory is followed from there. -/
theorem Leads.follow_append (h : Leads tree links place names rest goal) (more : List String) :
    tree.follow false links place (names ++ more) = tree.follow false rest goal more := by
  induction h with
  | here => rfl
  | stay hname h ih => rw [List.cons_append, follow_of_idle hname, ih]
  | up h ih => rw [List.cons_append, follow_up, ih]
  | down hname hup hnode h ih =>
    rw [List.cons_append, follow_cons hname hup, hnode]
    exact ih
  | link hname hup hnode h ih =>
    rw [List.cons_append, follow_cons hname hup, hnode]
    rw [List.append_assoc] at ih
    exact ih

theorem leads_of_idle {idle : List String} (hidle : ∀ name ∈ idle, IsIdle name)
    (h : Leads tree links place names rest goal) :
    Leads tree links place (idle ++ names) rest goal := by
  induction idle with
  | nil => exact h
  | cons name idle ih =>
    obtain ⟨hname, hrest⟩ := List.forall_mem_cons.1 hidle
    exact .stay hname (ih hrest)

theorem namesAlong_cons_of_idle (h : IsIdle name) (names : List String) :
    namesAlong (name :: names) = namesAlong names :=
  List.filter_cons_of_neg (by simpa using h)

theorem namesAlong_cons (h : ¬ IsIdle name) (names : List String) :
    namesAlong (name :: names) = name :: namesAlong names :=
  List.filter_cons_of_pos (by simpa using h)

theorem namesAlong_append (first second : List String) :
    namesAlong (first ++ second) = namesAlong first ++ namesAlong second :=
  List.filter_append _ _

/-- Before and after a name that leads somewhere others may stand that lead nowhere. -/
theorem exists_of_namesAlong_eq_cons (h : namesAlong others = name :: names) :
    ∃ idle more, others = idle ++ name :: more ∧ (∀ other ∈ idle, IsIdle other) ∧
      namesAlong more = names := by
  obtain ⟨idle, more, rfl, hidle, -, hmore⟩ := List.filter_eq_cons_iff.1 h
  exact ⟨idle, more, rfl, fun other hother => by simpa using hidle other hother, hmore⟩

/-- On the way to a directory only the names count that lead somewhere. -/
theorem Leads.congr (h : Leads tree links place names rest goal)
    (hsame : namesAlong others = namesAlong names) : Leads tree links place others rest goal := by
  induction h generalizing others with
  | here =>
    have hidle : ∀ name ∈ others, IsIdle name := fun name hname => by
      simpa using List.filter_eq_nil_iff.1 hsame name hname
    exact List.append_nil others ▸ leads_of_idle hidle .here
  | stay hname _ ih =>
    rw [namesAlong_cons_of_idle hname] at hsame
    exact ih hsame
  | up _ ih =>
    rw [namesAlong_cons (by decide)] at hsame
    obtain ⟨idle, more, rfl, hidle, hmore⟩ := exists_of_namesAlong_eq_cons hsame
    exact leads_of_idle hidle (.up (ih hmore))
  | down hname hup hnode _ ih =>
    rw [namesAlong_cons hname] at hsame
    obtain ⟨idle, more, rfl, hidle, hmore⟩ := exists_of_namesAlong_eq_cons hsame
    exact leads_of_idle hidle (.down hname hup hnode (ih hmore))
  | link hname hup hnode _ ih =>
    rw [namesAlong_cons hname] at hsame
    obtain ⟨idle, more, rfl, hidle, hmore⟩ := exists_of_namesAlong_eq_cons hsame
    refine leads_of_idle hidle (.link hname hup hnode (ih ?_))
    rw [namesAlong_append, namesAlong_append, hmore]

theorem Leads.follow (h : Leads tree links place names rest goal) :
    tree.follow false links place names = some goal := by
  rw [← follow_nil tree false rest goal, ← h.follow_append [], List.append_nil]

/-! ## Paths that start with the path of a directory -/

/-- A path whose names continue those of a directory leads to the directories that these names lead to. -/
theorem resolve_of_namesOf {path inner : String} {above : List String}
    (h : tree.resolve path = some goal) (hgoal : tree.node? goal = some .directory)
    (hinner : Url.namesOf inner = Url.namesOf path ++ above) :
    ∃ rest, ∀ place, tree.node? place = some .directory →
      (tree.resolve inner = some place ↔ tree.follow false rest goal above = some place) := by
  obtain ⟨rest, hleads⟩ := exists_leads h hgoal
  have hsame : namesAlong (steps inner) = namesAlong (steps path ++ above) := by
    have habove : namesAlong above = above := by
      refine List.filter_eq_self.2 fun name hname => ?_
      have hinner : name ∈ Url.namesOf inner := hinner ▸ List.mem_append_right _ hname
      rw [namesOf_eq] at hinner
      exact (List.mem_filter.1 hinner).2
    rw [namesAlong_append, habove, ← namesOf_eq, ← namesOf_eq, hinner]
  refine ⟨rest, fun place hplace => ⟨fun hresolve => ?_, fun hfollow => ?_⟩⟩
  · obtain ⟨_, hinner⟩ := exists_leads hresolve hplace
    exact (hleads.follow_append above).symm.trans (hinner.congr hsame.symm).follow
  · rw [← hleads.follow_append] at hfollow
    obtain ⟨_, hinner⟩ := exists_leads hfollow hplace
    exact (hinner.congr hsame).follow

/-- A slash at the end of a path is followed by an empty name. -/
theorem exists_of_slash {path : String} (h : path.toList.getLast? = some '/') :
    ∃ base, path = base ++ "/" ∧ steps path = steps base ++ [""] := by
  obtain ⟨base, hbase⟩ := List.getLast?_eq_some_iff.1 h
  have hpath : path = String.ofList base ++ "/" := by
    rw [← String.toList_inj, hbase]
    simp [String.toList_append]
  have hends := Text.split_append '/' (String.ofList base) ""
  rw [String.append_empty] at hends
  exact ⟨String.ofList base, hpath, (congrArg steps hpath).trans hends⟩

/-- A path behind another one continues its names. -/
theorem steps_join (path : String) {inner : String} (hinner : isAbsolute inner = false) :
    ∃ front, steps (join path inner) = front ++ steps inner ∧
      namesAlong front = namesAlong (steps path) := by
  rw [join, if_neg (by simp [hinner])]
  split
  next hend =>
    rw [Bool.or_eq_true, decide_eq_true_eq, decide_eq_true_eq] at hend
    rcases hend with rfl | hend
    · exact ⟨[], by simp, by decide⟩
    · obtain ⟨base, hpath, hsteps⟩ := exists_of_slash hend
      refine ⟨steps base, ?_, ?_⟩
      · rw [hpath]
        exact Text.split_append '/' base inner
      · rw [hsteps, namesAlong_append]
        exact (List.append_nil _).symm
  next => exact ⟨steps path, Text.split_append '/' path inner, rfl⟩

theorem resolve_join {path inner : String} (h : tree.resolve path = some goal)
    (hgoal : tree.node? goal = some .directory) (hinner : isAbsolute inner = false) :
    ∃ rest, tree.resolve (join path inner) = tree.follow false rest goal (steps inner) := by
  obtain ⟨rest, hleads⟩ := exists_leads h hgoal
  obtain ⟨front, hsteps, hfront⟩ := steps_join path hinner
  rw [resolve, hsteps]
  exact ⟨rest, (hleads.congr hfront).follow_append _⟩

end FileTree

/-! ## Directories without links -/

namespace FileNode

/-- Whether a node is a file, an archive included. -/
def isFile : FileNode → Bool
  | .file | .archive _ => true
  | _ => false

def isLink : FileNode → Bool
  | .link _ => true
  | _ => false

end FileNode

namespace FileTree
variable {tree : FileTree} {place : FilePlace} {names : List String} {files : List (List String)}

/-- A name that leads to what is called by it. -/
structure IsPlain (name : String) : Prop where
  notIdle : ¬ IsIdle name
  notUp : name ≠ ".."
  noSlash : '/' ∉ name.toList

instance (name : String) : Decidable (IsPlain name) :=
  decidable_of_iff (¬ IsIdle name ∧ name ≠ ".." ∧ '/' ∉ name.toList)
    ⟨fun h => ⟨h.1, h.2.1, h.2.2⟩, fun h => ⟨h.1, h.2, h.3⟩⟩

/-- A place is a directory, and everything below it stands in a directory, under a plain name, and is no
link. -/
structure IsExploded (tree : FileTree) (place : FilePlace) : Prop where
  directory : tree.node? place = some .directory
  own : ∀ node, tree.nodes.get? place = some node → node = .directory
  below : ∀ names name node, tree.node? (place ++ names ++ [name]) = some node →
    tree.node? (place ++ names) = some .directory ∧ IsPlain name ∧ node.isLink = false

theorem node?_of_ne_nil (h : names ≠ []) : tree.node? names = tree.nodes.get? names := by
  rw [node?, if_neg (by simpa using h)]

theorem IsExploded.inner (h : tree.IsExploded place) {name : String}
    (hnode : tree.node? (place ++ [name]) = some .directory) :
    tree.IsExploded (place ++ [name]) where
  directory := hnode
  own := fun node hown => by
    rw [node?_of_ne_nil (by simp), hown] at hnode
    exact Option.some.inj hnode
  below := fun names inner node hinner => by
    have hbelow := h.below (name :: names) inner node (by simpa using hinner)
    simpa using hbelow

/-- Nothing stands below what is no directory. -/
theorem IsExploded.node?_eq_none (h : tree.IsExploded place) {name : String}
    (hnode : tree.node? (place ++ [name]) ≠ some .directory) (hne : names ≠ []) :
    tree.node? (place ++ name :: names) = none := by
  induction names using List.reverseRec with
  | nil => exact absurd rfl hne
  | append_singleton names last ih =>
    cases hlast : tree.node? (place ++ name :: (names ++ [last])) with
    | none => rfl
    | some node =>
      have hparent := (h.below (name :: names) last node (by simpa using hlast)).1
      by_cases hempty : names = []
      · rw [hempty] at hparent
        exact absurd hparent hnode
      · rw [ih hempty] at hparent
        cases hparent

/-- Below such a place names lead to what stands under them. -/
theorem IsExploded.follow_eq (h : tree.IsExploded place) (hnames : ∀ name ∈ names, IsPlain name)
    (links : Nat) :
    tree.follow false links place names = (tree.node? (place ++ names)).map fun _ => place ++ names := by
  induction names generalizing place with
  | nil => rw [follow_nil, List.append_nil, h.directory, Option.map_some]
  | cons name names ih =>
    obtain ⟨hname, hrest⟩ := List.forall_mem_cons.1 hnames
    rw [follow_cons hname.notIdle hname.notUp]
    by_cases hdirectory : tree.node? (place ++ [name]) = some .directory
    · rw [hdirectory]
      exact (ih (h.inner hdirectory) hrest).trans (by simp)
    · have hrest : tree.node? (place ++ name :: names) =
          if names.isEmpty then tree.node? (place ++ [name]) else none := by
        cases names with
        | nil => simp
        | cons next names => simpa using h.node?_eq_none hdirectory (List.cons_ne_nil next names)
      rw [hrest]
      cases hnode : tree.node? (place ++ [name]) with
      | none => simp
      | some node =>
        have hlink := (h.below [] name node (by simpa using hnode)).2.2
        cases node with
        | directory => exact absurd hnode hdirectory
        | link target => cases hlink
        | file => cases names <;> simp
        | archive entries => cases names <;> simp

/-- What has to be looked at is listed in the tree. -/
theorem isExploded_iff : tree.IsExploded place ↔
    tree.node? place = some .directory ∧
      ∀ entry ∈ tree.nodes.entries, place <+: entry.1 →
        (entry.1 = place → entry.2 = .directory) ∧
        (entry.1 ≠ place → tree.node? entry.1.dropLast = some .directory ∧
          (∀ name ∈ entry.1.getLast?, IsPlain name) ∧ entry.2.isLink = false) := by
  constructor
  · refine fun h => ⟨h.directory, fun entry hentry hbelow => ⟨fun hplace => ?_, fun hplace => ?_⟩⟩
    · exact h.own entry.2 (Table.get?_eq_some.2 (hplace ▸ hentry))
    · obtain ⟨names, hnames⟩ := hbelow
      cases names using List.reverseRec with
      | nil => exact absurd (hnames.symm.trans (List.append_nil place)) hplace
      | append_singleton names name =>
        rw [← List.append_assoc] at hnames
        have hnode : tree.node? (place ++ names ++ [name]) = some entry.2 := by
          rw [node?_of_ne_nil (by simp), Table.get?_eq_some, hnames]
          exact hentry
        obtain ⟨hparent, hname, hlink⟩ := h.below names name entry.2 hnode
        rw [← hnames, List.dropLast_concat, List.getLast?_concat]
        exact ⟨hparent, by simpa using hname, hlink⟩
  · rintro ⟨hdirectory, hentries⟩
    refine ⟨hdirectory, fun node hnode => ?_, fun names name node hnode => ?_⟩
    · exact (hentries _ (Table.get?_eq_some.1 hnode) (List.prefix_refl place)).1 rfl
    · rw [node?_of_ne_nil (by simp), Table.get?_eq_some] at hnode
      have hbelow : place <+: place ++ names ++ [name] := ⟨names ++ [name], by simp⟩
      obtain ⟨hparent, hname, hlink⟩ := (hentries _ hnode hbelow).2 (by simp)
      exact ⟨by simpa using hparent, hname name (by simp), hlink⟩

instance (tree : FileTree) (place : FilePlace) : Decidable (tree.IsExploded place) :=
  decidable_of_iff' _ isExploded_iff

/-! ## The files of a directory -/

/-- The files below a place are the entries that stand below it, without its names. -/
theorem filesBelow_eq (tree : FileTree) (place : FilePlace) :
    tree.filesBelow place =
      (tree.nodes.entries.filter fun entry => entry.2.isFile && place.isPrefixOf entry.1).map
        (·.1.drop place.length) := by
  rw [filesBelow, ← List.filterMap_eq_map, List.filterMap_filter]
  refine List.filterMap_congr fun entry _ => ?_
  cases entry.2 <;> simp [FileNode.isFile]

theorem mem_filesBelow : names ∈ tree.filesBelow place ↔
    ∃ node, tree.nodes.get? (place ++ names) = some node ∧ node.isFile = true := by
  simp only [filesBelow_eq, List.mem_map, List.mem_filter, Bool.and_eq_true,
    List.isPrefixOf_iff_prefix, Table.get?_eq_some]
  constructor
  · rintro ⟨⟨_, node⟩, ⟨hentry, hfile, names, rfl⟩, rfl⟩
    exact ⟨node, by simpa using hentry, hfile⟩
  · rintro ⟨node, hentry, hfile⟩
    exact ⟨_, ⟨hentry, hfile, List.prefix_append _ _⟩, List.drop_left⟩

theorem nodup_filesBelow (tree : FileTree) (place : FilePlace) : (tree.filesBelow place).Nodup := by
  refine List.Nodup.of_map (place ++ ·) ?_
  have hplaces : (tree.filesBelow place).map (place ++ ·) =
      (tree.nodes.entries.filter fun entry => entry.2.isFile && place.isPrefixOf entry.1).map
        Prod.fst := by
    rw [filesBelow_eq, List.map_map]
    refine List.map_congr_left fun entry hentry => ?_
    obtain ⟨-, hbelow⟩ := Bool.and_eq_true_iff.1 (List.mem_filter.1 hentry).2
    obtain ⟨names, hnames⟩ := List.isPrefixOf_iff_prefix.1 hbelow
    rw [Function.comp_apply, ← hnames, List.drop_left]
  rw [hplaces]
  exact tree.nodes.nodup.sublist (List.filter_sublist.map Prod.fst)

/-- The directory at a place holds some files: it is exploded, and these are the files below it. -/
structure Holds (tree : FileTree) (place : FilePlace) (files : List (List String)) : Prop where
  exploded : tree.IsExploded place
  nodup : files.Nodup
  mem_iff : ∀ names, names ∈ files ↔
    ∃ node, tree.nodes.get? (place ++ names) = some node ∧ node.isFile = true

theorem Holds.ne_nil (h : tree.Holds place files) (hnames : names ∈ files) : names ≠ [] := by
  rintro rfl
  obtain ⟨node, hnode, hfile⟩ := (h.mem_iff []).1 hnames
  rw [List.append_nil] at hnode
  rw [h.exploded.own node hnode] at hfile
  cases hfile

/-- All names along the way to a file are plain. -/
theorem IsExploded.isPlain (h : tree.IsExploded place)
    (hnode : (tree.node? (place ++ names)).isSome = true) : ∀ name ∈ names, IsPlain name := by
  induction names using List.reverseRec with
  | nil => exact fun _ => nofun
  | append_singleton names name ih =>
    obtain ⟨node, hnode⟩ := Option.isSome_iff_exists.1 hnode
    obtain ⟨hparent, hname, -⟩ := h.below names name node (by simpa using hnode)
    exact List.forall_mem_append.2 ⟨ih (by rw [hparent]; rfl), List.forall_mem_singleton.2 hname⟩

theorem Holds.isPlain (h : tree.Holds place files) (hnames : names ∈ files) :
    ∀ name ∈ names, IsPlain name := by
  obtain ⟨node, hnode, -⟩ := (h.mem_iff names).1 hnames
  have hne : place ++ names ≠ [] := fun hnil => h.ne_nil hnames (List.append_eq_nil_iff.1 hnil).2
  rw [← node?_of_ne_nil hne] at hnode
  exact h.exploded.isPlain (by rw [hnode]; rfl)

theorem isAbsolute_of_isPlain {path : String} (h : ∀ name ∈ steps path, IsPlain name) :
    isAbsolute path = false := by
  refine Bool.eq_false_iff.2 fun habsolute => ?_
  obtain ⟨chars, hchars⟩ := List.head?_eq_some_iff.1 (of_decide_eq_true habsolute)
  have hempty : "" ∈ steps path := by
    rw [steps, Text.split, hchars]
    simp [Text.pieces]
  exact (h "" hempty).notIdle (Or.inl rfl)

/-- A plain path from an exploded directory leads to what stands under its names. -/
theorem IsExploded.nodeAt_join (h : tree.IsExploded place) {path inner : String}
    (hpath : tree.resolve path = some place) (hinner : ∀ name ∈ steps inner, IsPlain name) :
    tree.nodeAt (join path inner) = tree.node? (place ++ steps inner) := by
  obtain ⟨rest, hresolve⟩ := resolve_join hpath h.directory (isAbsolute_of_isPlain hinner)
  rw [nodeAt, hresolve, h.follow_eq hinner]
  cases hnode : tree.node? (place ++ steps inner) with
  | none => rfl
  | some node => exact hnode

/-- Such a path leads to a file when it is one of the files that the directory holds. -/
theorem Holds.isFile_join (h : tree.Holds place files) {path inner : String}
    (hpath : tree.resolve path = some place) (hinner : ∀ name ∈ steps inner, IsPlain name) :
    tree.isFile (join path inner) = true ↔ steps inner ∈ files := by
  have hsteps : steps inner ≠ [] := by simp [steps, Text.split, Text.pieces_ne_nil]
  have hne : place ++ steps inner ≠ [] := fun hnil => hsteps (List.append_eq_nil_iff.1 hnil).2
  rw [isFile, h.exploded.nodeAt_join hpath hinner, node?_of_ne_nil hne, h.mem_iff]
  cases tree.nodes.get? (place ++ steps inner) with
  | none => simp
  | some node => cases node <;> simp [FileNode.isFile]

/-- A directory holds the files that are found below it, in any order. -/
theorem holds_iff_perm : tree.Holds place files ↔
    tree.IsExploded place ∧ (tree.filesBelow place).Perm files := by
  constructor
  · refine fun h => ⟨h.exploded, ?_⟩
    refine (List.perm_ext_iff_of_nodup (tree.nodup_filesBelow place) h.nodup).2 fun names => ?_
    exact mem_filesBelow.trans (h.mem_iff names).symm
  · rintro ⟨hexploded, hperm⟩
    refine ⟨hexploded, hperm.nodup_iff.1 (tree.nodup_filesBelow place), fun names => ?_⟩
    rw [← hperm.mem_iff, mem_filesBelow]

instance (tree : FileTree) (place : FilePlace) (files : List (List String)) :
    Decidable (tree.Holds place files) :=
  decidable_of_iff' _ holds_iff_perm

end FileTree
end BeanDiscovery
