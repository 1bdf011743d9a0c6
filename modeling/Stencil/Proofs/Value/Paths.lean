import Mathlib.Data.List.Infix
import Stencil.Proofs.Fields
import Stencil.Proofs.Text.Splitting
import Stencil.Scope

/-!
Writing at a path.

Writing goes through maps only: whatever else stands on the way is replaced by a map. Reading takes a segment for a key
where it meets a map, and for an index where it meets a list. So what was written is read back, since there are maps
all the way to it; but a list that was in the way is gone with all that could be read from it.

That is the only way in which anything beside the path is lost. Where the written path and another one part, both of
them have gone through the same values; if none of these was a list the other path leads to what it led to before
(`getPath?_insertPath_of_apart`), and if one of them was it leads nowhere (`getPath?_insertPath_of_list`). For a reader
that goes through maps only (`entryAt?`) there is no difference at all.
-/

namespace Stencil

namespace Value

/-! ## 1. Paths through maps -/

/-- The part of a value at a path that leads through maps only. -/
def entryAt? (v : Value) : List String → Option Value
  | [] => some v
  | segment :: rest => (Fields.get? segment v.entries).bind (entryAt? · rest)

theorem getPath?_of_entryAt? {path : List String} : ∀ {v part : Value}, v.entryAt? path = some part →
    v.getPath? path = some part := by
  induction path with
  | nil => exact fun h => h
  | cons segment rest ih =>
    intro v part h
    rw [entryAt?, Option.bind_eq_some_iff] at h
    obtain ⟨child, hchild, hrest⟩ := h
    cases v with
    | map entries => rw [getPath?, child?, show Fields.get? segment entries = some child from hchild,
        Option.bind_some, ih hrest]
    | _ => cases hchild

theorem entryAt?_insertPath (new : Value) (path : List String) (v : Value) :
    (v.insertPath new path).entryAt? path = some new := by
  induction path generalizing v with
  | nil => rfl
  | cons segment rest ih =>
    rw [insertPath, entryAt?, entries, Fields.get?_insert, if_pos rfl, Option.bind_some, ih]

/-- Nothing changes at a path that neither leads through the one that is written to nor is led through by it. -/
theorem entryAt?_insertPath_of_apart (new : Value) {path other : List String} (v : Value)
    (hpath : ¬ path <+: other) (hother : ¬ other <+: path) :
    (v.insertPath new path).entryAt? other = v.entryAt? other := by
  induction path generalizing v other with
  | nil => exact absurd (List.nil_prefix) hpath
  | cons segment rest ih =>
    cases other with
    | nil => exact absurd (List.nil_prefix) hother
    | cons key others =>
      rw [insertPath, entryAt?, entryAt?, entries, Fields.get?_insert]
      by_cases hkey : segment = key
      · subst hkey
        have hrest : ¬ rest <+: others := fun h => hpath (List.cons_prefix_cons.mpr ⟨rfl, h⟩)
        have hothers : ¬ others <+: rest := fun h => hother (List.cons_prefix_cons.mpr ⟨rfl, h⟩)
        rw [if_pos rfl, Option.bind_some, ih _ hrest hothers]
        cases Fields.get? segment v.entries with
        | some child => rfl
        | none =>
          -- a map that has just been made has nothing in it
          cases others with
          | nil => exact absurd (List.nil_prefix) hothers
          | cons => rfl
      · rw [if_neg hkey]

/-! ## 2. Reading what was written -/

variable {v new : Value} {path other : List String}

theorem getPath?_insertPath (v new : Value) (path : List String) : (v.insertPath new path).getPath? path = some new :=
  getPath?_of_entryAt? (entryAt?_insertPath new path v)

/-- What was written at a path is replaced by what is written there later, and leaves no trace on the way. -/
theorem insertPath_insertPath (v old new : Value) (path : List String) :
    (v.insertPath old path).insertPath new path = v.insertPath new path := by
  induction path generalizing v with
  | nil => rfl
  | cons segment rest ih =>
    simp only [insertPath, entries, Fields.get?_insert, if_pos, Option.getD_some, ih, Fields.insert_insert]

/-! ## 3. Beside the path -/

theorem child?_eq_get?_entries (h : ∀ items, v ≠ .list items) (segment : String) :
    v.child? segment = Fields.get? segment v.entries := by
  cases v with
  | list items => exact absurd rfl (h items)
  | _ => rfl

/-- Where no list is in the way, nothing changes at a path that is apart from the one that is written to. -/
theorem getPath?_insertPath_of_apart (new : Value) (hpath : ¬ path <+: other) (hother : ¬ other <+: path)
    (h : ∀ shared, shared <+: path → shared <+: other → ∀ items, v.getPath? shared ≠ some (.list items)) :
    (v.insertPath new path).getPath? other = v.getPath? other := by
  induction path generalizing v other with
  | nil => exact absurd List.nil_prefix hpath
  | cons segment rest ih =>
    cases other with
    | nil => exact absurd List.nil_prefix hother
    | cons key others =>
      have hv : ∀ items, v ≠ .list items := by
        rintro items rfl
        exact h [] List.nil_prefix List.nil_prefix items rfl
      rw [insertPath, getPath?, getPath?, child?_eq_get?_entries hv, child?, Fields.get?_insert]
      by_cases hkey : segment = key
      · subst hkey
        have hrest : ¬ rest <+: others := fun hp => hpath (List.cons_prefix_cons.mpr ⟨rfl, hp⟩)
        have hothers : ¬ others <+: rest := fun hp => hother (List.cons_prefix_cons.mpr ⟨rfl, hp⟩)
        rw [if_pos rfl, Option.bind_some]
        cases hchild : Fields.get? segment v.entries with
        | some child =>
          rw [Option.getD_some, Option.bind_some]
          apply ih hrest hothers
          intro shared hpre hpre' items hlist
          apply h (segment :: shared) (List.cons_prefix_cons.mpr ⟨rfl, hpre⟩) (List.cons_prefix_cons.mpr ⟨rfl, hpre'⟩) items
          rw [getPath?, child?_eq_get?_entries hv, hchild, Option.bind_some, hlist]
        | none =>
          -- a map that has just been made leads nowhere but to what is written
          obtain ⟨next, others, rfl⟩ : ∃ next more, others = next :: more :=
            List.exists_cons_of_ne_nil fun hnil => hothers (hnil ▸ List.nil_prefix)
          rw [Option.getD_none, Option.bind_none, ih hrest hothers]
          · rfl
          · intro shared _ _ items hlist
            cases shared <;> cases hlist
      · rw [if_neg hkey]

/-- Writing at a path leaves nothing of a list, and there is nothing to be read beside the path. -/
theorem getPath?_insertPath_list (items : List Value) (new : Value) (hpath : ¬ path <+: other)
    (hother : ¬ other <+: path) : ((Value.list items).insertPath new path).getPath? other = none := by
  obtain ⟨segment, rest, rfl⟩ : ∃ segment rest, path = segment :: rest :=
    List.exists_cons_of_ne_nil fun hnil => hpath (hnil ▸ List.nil_prefix)
  obtain ⟨key, others, rfl⟩ : ∃ key others, other = key :: others :=
    List.exists_cons_of_ne_nil fun hnil => hother (hnil ▸ List.nil_prefix)
  -- a list is replaced by an empty map, which is none
  have hempty : (Value.list items).insertPath new (segment :: rest) = (Value.map []).insertPath new (segment :: rest) := rfl
  rw [hempty, getPath?_insertPath_of_apart new hpath hother]
  · rfl
  · intro shared _ _ items hlist
    cases shared <;> cases hlist

/-- Where a list is in the way, whatever could be read through it is gone. -/
theorem getPath?_insertPath_of_list {shared : List String} {items : List Value} (new : Value)
    (hpath : ¬ path <+: other) (hother : ¬ other <+: path) (hshared : shared <+: path) (hshared' : shared <+: other)
    (hlist : v.getPath? shared = some (.list items)) : (v.insertPath new path).getPath? other = none := by
  induction shared generalizing v path other with
  | nil =>
    cases hlist
    exact getPath?_insertPath_list items new hpath hother
  | cons segment shared ih =>
    obtain ⟨tail, rfl⟩ := hshared
    obtain ⟨tail', rfl⟩ := hshared'
    by_cases hv : ∃ items, v = .list items
    · obtain ⟨items, rfl⟩ := hv
      exact getPath?_insertPath_list items new hpath hother
    · rw [not_exists] at hv
      rw [getPath?, child?_eq_get?_entries hv, Option.bind_eq_some_iff] at hlist
      obtain ⟨child, hchild, hlist⟩ := hlist
      rw [List.cons_append, List.cons_append, List.cons_prefix_cons] at hpath hother
      rw [List.cons_append, List.cons_append, insertPath, getPath?, child?, Fields.get?_insert, if_pos rfl,
        Option.bind_some, hchild, Option.getD_some]
      apply ih _ _ (List.prefix_append _ _) (List.prefix_append _ _) hlist
      · exact fun hp => hpath ⟨rfl, hp⟩
      · exact fun hp => hother ⟨rfl, hp⟩

/-- What it means that `new` was written into a value at a path. -/
structure WrittenAt (before after new : Value) (path : List String) : Prop where
  read : after.getPath? path = some new
  overwritten : ∀ again, after.insertPath again path = before.insertPath again path
  /-- Where the two paths go through maps for as long as they go together, the other one leads to the same. -/
  kept : ∀ other, ¬ path <+: other → ¬ other <+: path →
    (∀ shared, shared <+: path → shared <+: other → ∃ entries, before.getPath? shared = some (.map entries)) →
      after.getPath? other = before.getPath? other
  /-- It leads to something else in one case only: it led through a list that is gone. -/
  lost : ∀ other, ¬ path <+: other → ¬ other <+: path →
    (after.getPath? other ≠ before.getPath? other ↔ before.getPath? other ≠ none ∧
      ∃ shared items, shared <+: path ∧ shared <+: other ∧ before.getPath? shared = some (.list items))

theorem writtenAt_insertPath (v new : Value) (path : List String) : v.WrittenAt (v.insertPath new path) new path where
  read := getPath?_insertPath v new path
  overwritten again := insertPath_insertPath v new again path
  kept other hpath hother hmaps := by
    refine getPath?_insertPath_of_apart new hpath hother fun shared hshared hshared' items hlist => ?_
    obtain ⟨entries, hentries⟩ := hmaps shared hshared hshared'
    rw [hentries] at hlist
    cases hlist
  lost other hpath hother := by
    by_cases hlist : ∃ shared items, shared <+: path ∧ shared <+: other ∧ v.getPath? shared = some (.list items)
    · have hgone : (v.insertPath new path).getPath? other = none := by
        obtain ⟨shared, items, hshared, hshared', hlist⟩ := hlist
        exact getPath?_insertPath_of_list new hpath hother hshared hshared' hlist
      rw [hgone]
      exact ⟨fun hne => ⟨hne.symm, hlist⟩, fun h => h.1.symm⟩
    · have hsame : (v.insertPath new path).getPath? other = v.getPath? other := by
        refine getPath?_insertPath_of_apart new hpath hother fun shared hshared hshared' items hitems => hlist ?_
        exact ⟨shared, items, hshared, hshared', hitems⟩
      rw [hsame]
      exact ⟨fun hne => absurd rfl hne, fun h => absurd h.2 hlist⟩

end Value

/-! ## 4. Names of the root -/

namespace Scope

/-- Where two dotted names are put together with a dot, their segments come one behind the other. -/
theorem segments_append (name dotted : String) :
    segments (name ++ "." ++ dotted) = segments name ++ segments dotted := by
  have hchars : (name ++ "." ++ dotted).toList = name.toList ++ '.' :: dotted.toList := by simp
  rw [segments, hchars, Text.splitOn_eq_splitOnP, List.splitOnP_append_cons _ _ (by rfl), List.map_append,
    ← Text.splitOn_eq_splitOnP, ← Text.splitOn_eq_splitOnP]
  rfl

theorem segments_eq_singleton {name : String} (h : '.' ∉ name.toList) : segments name = [name] := by
  rw [segments, Text.splitOn_eq_splitOnP, ← List.splitOn_eq_splitOnP, List.splitOn_eq_singleton h]
  simp

/-- The value that a namespace starts from: what stands under its name if that is a map, and an empty map otherwise. -/
theorem get?_setNamespaced (scope : Scope) (name dotted : String) (v : Value) :
    ∃ before : Value, Fields.get? name (scope.setNamespaced name dotted v).root =
      some (before.insertPath v (segments dotted)) := by
  rw [setNamespaced, insertRoot, Fields.get?_insert, if_pos rfl]
  exact ⟨_, rfl⟩

/-- What it means that a value was put at a dotted path below a name of the root. -/
structure PutBelow (before after : Scope) (name dotted : String) (v : Value) : Prop where
  read : (Fields.get? name after.root).bind (·.getPath? (segments dotted)) = some v
  /-- So the dotted name reads it in the root, if the first part of it is one segment. -/
  lookup : '.' ∉ name.toList → (ofFields after.root).lookup? (name ++ "." ++ dotted) = some v
  root : ∀ key, key ≠ name → Fields.get? key after.root = Fields.get? key before.root
  frames : after.frames = before.frames

theorem putBelow_setNamespaced (scope : Scope) (name dotted : String) (v : Value) :
    scope.PutBelow (scope.setNamespaced name dotted v) name dotted v := by
  obtain ⟨before, hname⟩ := get?_setNamespaced scope name dotted v
  have hread : (before.insertPath v (segments dotted)).getPath? (segments dotted) = some v :=
    Value.getPath?_insertPath before v (segments dotted)
  refine ⟨?_, fun hdot => ?_, fun key hkey => ?_, rfl⟩
  · rw [hname, Option.bind_some, hread]
  · have hget : (ofFields (scope.setNamespaced name dotted v).root).get? name =
        some (before.insertPath v (segments dotted)) := hname
    rw [lookup?, segments_append, segments_eq_singleton hdot, List.singleton_append, getPath?, hget,
      Option.bind_some, hread]
  · rw [setNamespaced, insertRoot, Fields.get?_insert, if_neg hkey.symm]

end Scope

/-! ## 5. The laws of writing -/

/-- **Writing at a path.** What is written is read back, and writing once more puts the new in its place. Beside the
path nothing changes but what was read through a list on the way. So a value that is put at a dotted path below a name
of the root is read there, whatever was there before, and no other name of the root and no frame is touched. -/
theorem insertPath_lawful :
    (∀ (v new : Value) (path : List String), v.WrittenAt (v.insertPath new path) new path) ∧
      ∀ (scope : Scope) (name dotted : String) (v : Value),
        scope.PutBelow (scope.setNamespaced name dotted v) name dotted v :=
  ⟨Value.writtenAt_insertPath, Scope.putBelow_setNamespaced⟩

/-- A value is written below a scalar and beside a list; what stands beside it is kept, and what was in a list on the
way to it is gone. -/
theorem insertPath_lawful_beside_list :
    let before : Value := .map [("a", .map [("0", .string "x"), ("", .string "y")]), ("b", .list [.string "z"])]
    let inMap := before.insertPath (.string "new") ["a", "0", "c"]
    let inList := before.insertPath (.string "new") ["b", "c"]
    inMap.getPath? ["a", "0", "c"] = some (.string "new") ∧ inMap.getPath? ["a", ""] = some (.string "y") ∧
      inMap.getPath? ["b", "0"] = some (.string "z") ∧ inList.getPath? ["b", "0"] ≠ before.getPath? ["b", "0"] := by
  intro before inMap inList
  obtain ⟨hwritten, -⟩ := insertPath_lawful
  refine ⟨(hwritten before (.string "new") ["a", "0", "c"]).read, ?_, ?_, ?_⟩
  · refine (hwritten before (.string "new") ["a", "0", "c"]).kept ["a", ""] (by decide) (by decide) ?_
    -- the two paths part at the map under `a`
    intro shared hshared hshared'
    have hmem : shared ∈ [[], ["a"], ["a", ""]] := (List.mem_inits _ _).mpr hshared'
    simp only [List.mem_cons, List.not_mem_nil, or_false] at hmem
    rcases hmem with rfl | rfl | rfl
    · exact ⟨_, rfl⟩
    · exact ⟨_, rfl⟩
    · exact absurd hshared (by decide)
  · rfl
  · refine ((hwritten before (.string "new") ["b", "c"]).lost ["b", "0"] (by decide) (by decide)).mpr ?_
    exact ⟨nofun, ["b"], _, by decide, by decide, rfl⟩

end Stencil
