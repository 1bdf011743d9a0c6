import Mathlib.Data.List.Infix
import Mathlib.Data.String.Basic
import Stencil.Files.Memory
import Stencil.Proofs.Fields
import Stencil.Proofs.Text.Splitting

/-!
Folders that the files imply.

A set of files in memory has no folders of its own. What a folder lists, whether a path is there and what a name is
resolved to are each found from the paths of the files. They agree because all three come down to the beginnings of
these paths. A folder lists a name if its path with the name behind it begins the path of a file
(`Path.childOf?_eq_some_iff`), and a path is there if it begins the path of a file (`MemoryFiles.has_iff`).

Which files there are is told by the additions and removals so far. Of the ones that concern a path the last one
counts, under whatever spelling it names the path (`MemoryFiles.mem_keys_after`).
-/

namespace Stencil

/-! ## 1. Names in order -/

namespace Files

variable {name other : String} {names : List String}

theorem mem_insertName : other ∈ insertName name names ↔ other = name ∨ other ∈ names := by
  induction names with
  | nil => exact List.mem_cons
  | cons first names ih =>
    rw [insertName]
    split
    · exact List.mem_cons
    · next heq =>
      rw [Std.LawfulEqOrd.eq_of_compare heq]
      simp
    · rw [List.mem_cons, List.mem_cons, ih, or_left_comm]

/-- A name is put where the list stays strictly ascending. -/
theorem pairwise_insertName (h : names.Pairwise (· < ·)) (name : String) : (insertName name names).Pairwise (· < ·) := by
  induction names with
  | nil => exact List.pairwise_singleton _ name
  | cons first names ih =>
    obtain ⟨hfirst, hnames⟩ := List.pairwise_cons.mp h
    rw [insertName]
    split
    · next hlt =>
      have hname : name < first := compare_lt_iff_lt.mp hlt
      refine List.pairwise_cons.mpr ⟨fun other hother => ?_, h⟩
      rcases List.mem_cons.mp hother with rfl | hother
      · exact hname
      · exact hname.trans (hfirst other hother)
    · exact h
    · next hgt =>
      have hname : first < name := compare_gt_iff_gt.mp hgt
      refine List.pairwise_cons.mpr ⟨fun other hother => ?_, ih hnames⟩
      rcases mem_insertName.mp hother with rfl | hother
      · exact hname
      · exact hfirst other hother

theorem mem_sortedNames : name ∈ sortedNames names ↔ name ∈ names := by
  rw [sortedNames]
  induction names with
  | nil => rfl
  | cons first names ih => rw [List.foldr_cons, mem_insertName, ih, List.mem_cons]

theorem pairwise_sortedNames (names : List String) : (sortedNames names).Pairwise (· < ·) := by
  rw [sortedNames]
  induction names with
  | nil => exact List.Pairwise.nil
  | cons first names ih => exact pairwise_insertName ih first

end Files

/-! ## 2. Beginnings of paths -/

namespace Path

theorem childOf?_eq_some_iff {folder path : Path} {name : String} :
    childOf? folder path = some name ↔ folder ++ [name] <+: path := by
  induction folder generalizing path with
  | nil =>
    cases path with
    | nil => simp [childOf?]
    | cons s path => simp [childOf?, List.cons_prefix_cons, eq_comm]
  | cons s folder ih =>
    cases path with
    | nil => simp [childOf?]
    | cons t path =>
      rw [childOf?, List.cons_append, List.cons_prefix_cons, ← ih]
      split
      · next hs => exact (and_iff_right hs).symm
      · next hs => simp [hs]

/-- A folder lists what stands next to it at the beginning of the path of a file. -/
theorem mem_namesIn {folder : Path} {paths : List Path} {name : String} :
    name ∈ Files.namesIn folder paths ↔ ∃ path ∈ paths, folder ++ [name] <+: path := by
  rw [Files.namesIn, Files.mem_sortedNames, List.mem_filterMap]
  simp only [childOf?_eq_some_iff]

/-- A name that is one segment, as it is written. -/
structure Single (name : String) : Prop where
  nonempty : name ≠ ""
  busy : name ≠ "."
  whole : '/' ∉ name.toList

/-- The text of a path with a name behind it. -/
def below (folder name : String) : String := if folder = "" then name else folder ++ "/" ++ name

/-- The segments among the pieces between slashes. In front, nothing stands for the root and a dot for itself. -/
def ofPieces : List String → Path
  | [""] => []
  | "" :: rest => "/" :: rest.filter fun s => s != "" && s != "."
  | "." :: rest => "." :: rest.filter fun s => s != "" && s != "."
  | pieces => pieces.filter fun s => s != "" && s != "."

theorem components_eq_ofPieces (text : String) :
    components text = ofPieces ((text.toList.splitOnP (· == '/')).map String.ofList) := by
  rw [components, Text.splitOn_eq_splitOnP]
  rfl

/-- A piece at the end is kept as a segment, unless what is in front of it is a single empty piece. -/
theorem ofPieces_concat {pieces : List String} {name : String} (h : Single name) (hstart : pieces ≠ [""]) :
    ofPieces (pieces ++ [name]) = ofPieces pieces ++ [name] := by
  have hkept : [name].filter (fun s => s != "" && s != ".") = [name] := by simp [h.nonempty, h.busy]
  cases pieces with
  | nil => simp [ofPieces, h.nonempty, h.busy]
  | cons first rest =>
    by_cases hempty : first = ""
    · subst hempty
      obtain ⟨second, rest, rfl⟩ := List.exists_cons_of_ne_nil fun hrest => hstart (congrArg ("" :: ·) hrest)
      have hrest := List.filter_append (p := fun s => s != "" && s != ".") (second :: rest) [name]
      rw [hkept] at hrest
      exact congrArg ("/" :: ·) hrest
    · by_cases hdot : first = "."
      · subst hdot
        simp [ofPieces, List.filter_append, hkept]
      · simp [ofPieces, List.filter_append, hkept, hempty, hdot]

/-- As it is written, a path with a name behind it has the segments of the path and the name as its last one. -/
theorem components_below {name : String} (h : Single name) (folder : String) :
    components (below folder name) = components folder ++ [name] := by
  have hname : (name.toList.splitOnP (· == '/')).map String.ofList = [name] := by
    rw [List.splitOnP_eq_singleton, List.map_singleton, String.ofList_toList]
    intro c hc
    rw [beq_eq_false_iff_ne]
    rintro rfl
    exact h.whole hc
  rw [below]
  by_cases hfolder : folder = ""
  · rw [if_pos hfolder, hfolder, components_eq_ofPieces, hname]
    have hnone : ([] : List String) ≠ [""] := (List.cons_ne_nil _ _).symm
    exact ofPieces_concat h hnone
  · have hchars : (folder ++ "/" ++ name).toList = folder.toList ++ '/' :: name.toList := by simp
    have hstart : (folder.toList.splitOnP (· == '/')).map String.ofList ≠ [""] := by
      intro hpieces
      obtain ⟨piece, hpiece, hnothing⟩ := List.map_eq_singleton_iff.mp hpieces
      have hjoined := Text.join_splitOn '/' folder.toList
      rw [Text.splitOn_eq_splitOnP, hpiece] at hjoined
      exact hfolder (by rw [← hnothing, ← String.ofList_toList (s := folder), ← hjoined]; rfl)
    rw [if_neg hfolder, components_eq_ofPieces, components_eq_ofPieces, hchars,
      List.splitOnP_append_cons _ _ (by rfl), List.map_append, hname, ofPieces_concat h hstart]

end Path

/-! ## 3. What is there -/

namespace MemoryFiles

variable {memory : MemoryFiles} {path folder : Path}

theorem mem_list {name : String} :
    name ∈ memory.list folder ↔ ∃ file ∈ Fields.keys memory.files, folder ++ [name] <+: file :=
  Path.mem_namesIn

/-- A path is there if it is the path of a file or a file is below it. -/
theorem has_iff : memory.has path = true ↔ ∃ file ∈ Fields.keys memory.files, path <+: file := by
  have htext : (memory.text? path).isSome = true ↔ path ∈ Fields.keys memory.files := by
    rw [text?, Option.isSome_map, Fields.isSome_get?_iff]
  have hlist : (!(memory.list path).isEmpty) = true ↔ ∃ name, name ∈ memory.list path := by
    rw [Bool.not_eq_true', List.isEmpty_eq_false_iff_exists_mem]
  rw [has, Bool.or_eq_true, htext, hlist]
  constructor
  · rintro (hfile | ⟨name, hname⟩)
    · exact ⟨path, hfile, List.prefix_rfl⟩
    · obtain ⟨file, hfile, hbelow⟩ := mem_list.mp hname
      exact ⟨file, hfile, (List.prefix_append path [name]).trans hbelow⟩
  · rintro ⟨file, hfile, rest, rfl⟩
    cases rest with
    | nil => exact .inl (by rwa [List.append_nil] at hfile)
    | cons name rest =>
      have hbelow : path ++ [name] <+: path ++ name :: rest := (List.prefix_append_right_inj path).mpr ⟨rest, rfl⟩
      exact .inr ⟨name, mem_list.mpr ⟨_, hfile, hbelow⟩⟩

theorem resolve_eq_ok_iff {name : String} :
    memory.resolve name = .ok path ↔ Path.normalize name = .ok path ∧ memory.has path = true := by
  rw [resolve]
  cases hname : Path.normalize name with
  | error e => simp [bind, Except.bind]
  | ok found =>
    simp only [bind, Except.bind]
    split
    · next hhas =>
      constructor
      · rintro ⟨⟩
        exact ⟨rfl, hhas⟩
      · rintro ⟨⟨⟩, -⟩
        rfl
    · next hhas =>
      constructor
      · rintro ⟨⟩
      · rintro ⟨⟨⟩, hpath⟩
        exact absurd hpath hhas

/-! ## 4. Additions and removals -/

/-- One change of the files. -/
inductive Change where
  | add (name text : String) (time : Nat)
  | remove (name : String)

namespace Change

/-- The files after a change. -/
def apply (memory : MemoryFiles) : Change → MemoryFiles
  | .add name text time => memory.addAt name text time
  | .remove name => memory.remove name

/-- The change adds a file under the path, however it spells it. -/
def Adds (path : Path) : Change → Prop
  | .add name _ _ => Path.normalize name = .ok path
  | .remove _ => False

/-- The change takes the file away that the path is of, however it spells it. -/
def Removes (path : Path) : Change → Prop
  | .add _ _ _ => False
  | .remove name => Path.normalize name = .ok path

end Change

/-- The files after changes, from none. -/
def after (now : Nat) (changes : List Change) : MemoryFiles := changes.foldl Change.apply (empty now)

/-- A file was added under the path and not removed after that. -/
def Remains (changes : List Change) (path : Path) : Prop :=
  ∃ earlier change later, changes = earlier ++ change :: later ∧ change.Adds path ∧ ∀ c ∈ later, ¬ c.Removes path

theorem remains_concat {changes : List Change} {change : Change} :
    Remains (changes ++ [change]) path ↔ change.Adds path ∨ Remains changes path ∧ ¬ change.Removes path := by
  constructor
  · rintro ⟨earlier, added, later, hchanges, hadds, hlater⟩
    -- the addition is the new change itself, or it was there before and the new change stands at the end of `later`
    rcases List.eq_nil_or_concat' later with rfl | ⟨later, last, rfl⟩
    · obtain ⟨-, hlast⟩ := List.append_inj' hchanges rfl
      cases hlast
      exact .inl hadds
    · rw [← List.cons_append, ← List.append_assoc] at hchanges
      obtain ⟨rfl, hlast⟩ := List.append_inj' hchanges rfl
      cases hlast
      rw [List.forall_mem_append] at hlater
      exact .inr ⟨⟨earlier, added, later, rfl, hadds, hlater.1⟩, hlater.2 _ (List.mem_singleton_self _)⟩
  · rintro (hadds | ⟨⟨earlier, added, later, rfl, hadds, hlater⟩, hkept⟩)
    · exact ⟨changes, change, [], rfl, hadds, fun c hc => by cases hc⟩
    · refine ⟨earlier, added, later ++ [change], by simp, hadds, ?_⟩
      exact List.forall_mem_append.mpr ⟨hlater, by simpa using hkept⟩

/-- What a change does to which files there are. -/
theorem mem_keys_apply (change : Change) :
    path ∈ Fields.keys (change.apply memory).files ↔
      change.Adds path ∨ path ∈ Fields.keys memory.files ∧ ¬ change.Removes path := by
  cases change with
  | add name text time =>
    simp only [Change.apply, addAt, Change.Adds, Change.Removes, not_false_eq_true, and_true]
    cases hname : Path.normalize name with
    | error e => simp
    | ok added => simp [Fields.mem_keys_insert]
  | remove name =>
    simp only [Change.apply, remove, Change.Adds, Change.Removes, false_or]
    cases hname : Path.normalize name with
    | error e => simp
    | ok removed => simp [Fields.mem_keys_erase, and_comm]

/-- After changes there are the files that were added and not removed after that. -/
theorem mem_keys_after (now : Nat) (changes : List Change) :
    path ∈ Fields.keys (after now changes).files ↔ Remains changes path := by
  induction changes using List.reverseRecOn with
  | nil =>
    constructor
    · intro h
      cases h
    · rintro ⟨earlier, added, later, hchanges, -⟩
      exact absurd hchanges.symm (by simp)
  | append_singleton changes change ih =>
    have hstep : after now (changes ++ [change]) = change.apply (after now changes) := List.foldl_append
    rw [hstep, mem_keys_apply, remains_concat, ih]

/-- **Listings are of what is there.** Whatever was added and removed, a folder lists a name exactly when the path of
the name in that folder is there, of segments and as it is written, and it lists names strictly ascending; and a name
is resolved exactly when it is accepted as a path, to this path, and a file with this path or one below it was added
and not removed after that. -/
theorem list_iff_has (now : Nat) (changes : List Change) :
    (∀ (folder : Path) name, name ∈ (after now changes).list folder ↔
      (after now changes).has (folder ++ [name]) = true) ∧
    (∀ folder name, Path.Single name →
      (name ∈ (after now changes).list (Path.components folder) ↔
        (after now changes).has (Path.components (Path.below folder name)) = true)) ∧
    (∀ folder, ((after now changes).list folder).Pairwise (· < ·)) ∧
    ∀ name path, (after now changes).resolve name = .ok path ↔
      Path.normalize name = .ok path ∧ ∃ file, Remains changes file ∧ path <+: file := by
  have hlist : ∀ (folder : Path) name, name ∈ (after now changes).list folder ↔
      (after now changes).has (folder ++ [name]) = true := fun folder name => mem_list.trans has_iff.symm
  refine ⟨hlist, fun folder name hname => ?_, fun folder => Files.pairwise_sortedNames _, fun name path => ?_⟩
  · rw [Path.components_below hname]
    exact hlist _ name
  · rw [resolve_eq_ok_iff, has_iff]
    simp only [mem_keys_after]

end MemoryFiles

end Stencil
