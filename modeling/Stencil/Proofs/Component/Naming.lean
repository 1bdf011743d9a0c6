import Stencil.Component
import Stencil.Proofs.Fields
import Stencil.Proofs.Text.Ascii
import Stencil.Proofs.Text.Splitting

/-!
Names of components.

A component is found under its usage name and under every name that is converted to it. The registry is asked for the
name as it stands first, and for the converted one only if there is nothing. That this makes no difference rests on
usage names being normal forms: converting takes all hyphens out and puts none in, and a name without hyphens is not
changed (`usageNameOf_eq_self_iff`). So whatever stands in the registry under a name stands there under the converted
one, and a look-up is a look-up of the converted name (`find?_eq`).

Only one place can bring a hyphen back, and it is the capital letter behind a hyphen: it comes from a table, and may be
several characters. All that the table leads to are letters and marks from `A` onwards.
-/

namespace Stencil

/-! ## 1. Capital letters -/

namespace Text

set_option maxRecDepth 20000 in
/-- No code point is mapped to one below that of `A`. -/
theorem le_of_mem_targets : ∀ entry ∈ upperEntries, ∀ target ∈ entry.targets, 65 ≤ target := by
  -- the table is a literal, and can be read once it is a list of characters
  obtain ⟨table, htable, hread⟩ : ∃ table, Tables.upper = String.ofList table ∧
      ∀ entry ∈ (words table).map CaseEntry.read, ∀ target ∈ entry.targets, 65 ≤ target :=
    ⟨_, rfl, by decide +kernel⟩
  rw [upperEntries, htable, String.toList_ofList]
  exact hread

theorem eq_of_ofNat_eq_hyphen {n : Nat} (h : Char.ofNat n = '-') : n = 45 := by
  by_cases hn : n.isValidChar
  · have hcode : (Char.ofNatAux n hn).toNat = n := rfl
    rw [Char.ofNat, dif_pos hn] at h
    rw [← hcode, h]
    rfl
  · rw [Char.ofNat, dif_neg hn] at h
    exact absurd h (by decide)

/-- Only the hyphen has a hyphen in its capital letter. -/
theorem hyphen_mem_upperOf_iff {c : Char} : '-' ∈ upperOf c ↔ c = '-' := by
  rw [upperOf]
  by_cases hc : c.toNat < 128
  · rw [if_pos hc, List.mem_singleton]
    exact forall_ascii (p := fun c => '-' = c.toUpper ↔ c = '-') (by decide) c hc
  · rw [if_neg hc]
    constructor
    · intro hmem
      exfalso
      cases hfound : upperEntries.findSome? (·.target? c.toNat) with
      | none =>
        rw [hfound, Option.getD_none, List.mem_singleton] at hmem
        exact hc (hmem ▸ by decide)
      | some cs =>
        rw [hfound, Option.getD_some] at hmem
        obtain ⟨entry, hentry, htarget⟩ := List.exists_of_findSome?_eq_some hfound
        rw [CaseEntry.target?] at htarget
        split at htarget
        · cases htarget
          obtain ⟨i, hi, hchar⟩ := List.mem_mapIdx.mp hmem
          have hle : 65 ≤ entry.targets[i] := le_of_mem_targets entry hentry _ (List.getElem_mem hi)
          -- what is added along the range of an entry can only lead further up
          have hcode := eq_of_ofNat_eq_hyphen hchar
          split at hcode <;> omega
        · cases htarget
    · rintro rfl
      exact absurd (by decide) hc

end Text

namespace Component

/-! ## 2. Usage names -/

variable {name : String} {cs : List Char}

theorem hyphen_not_mem_camelSegment (begun raise : Bool) (cs : List Char) : '-' ∉ camelSegment begun raise cs := by
  induction cs generalizing begun raise with
  | nil => exact List.not_mem_nil
  | cons c cs ih =>
    rw [camelSegment]
    by_cases hc : c = '-'
    · rw [if_pos hc]
      exact ih _ _
    · rw [if_neg hc]
      split
      · rw [List.mem_append, not_or, Text.hyphen_mem_upperOf_iff]
        exact ⟨hc, ih _ _⟩
      · exact List.not_mem_cons_of_ne_of_not_mem (Ne.symm hc) (ih _ _)

theorem camelSegment_of_not_mem (begun : Bool) (h : '-' ∉ cs) : camelSegment begun false cs = cs := by
  induction cs generalizing begun with
  | nil => rfl
  | cons c cs ih =>
    obtain ⟨hc, hcs⟩ := List.ne_and_not_mem_of_not_mem_cons h
    rw [camelSegment, if_neg hc.symm, if_neg Bool.false_ne_true, ih _ hcs]

theorem hyphen_not_mem_usageNameOf (name : String) : '-' ∉ (usageNameOf name).toList := by
  rw [usageNameOf, String.toList_ofList]
  intro hmem
  rcases Text.mem_of_mem_join hmem with hdot | ⟨piece, hpiece, hmem⟩
  · exact absurd hdot (by decide)
  · obtain ⟨segment, -, rfl⟩ := List.mem_map.mp hpiece
    exact hyphen_not_mem_camelSegment _ _ _ hmem

/-- The normal forms are the names without hyphens. -/
theorem usageNameOf_eq_self_iff : usageNameOf name = name ↔ '-' ∉ name.toList := by
  constructor
  · intro h
    rw [← h]
    exact hyphen_not_mem_usageNameOf name
  · intro h
    have hpieces : (Text.splitOn (· == '.') name.toList).map (camelSegment false false) =
        Text.splitOn (· == '.') name.toList := by
      refine (List.map_congr_left fun piece hpiece => ?_).trans (List.map_id _)
      exact camelSegment_of_not_mem false fun hmem => h (Text.mem_of_mem_splitOn hpiece hmem)
    rw [usageNameOf, hpieces, Text.join_splitOn, String.ofList_toList]

theorem usageNameOf_usageNameOf (name : String) : usageNameOf (usageNameOf name) = usageNameOf name :=
  usageNameOf_eq_self_iff.mpr (hyphen_not_mem_usageNameOf name)

/-- Before the first character of a segment all hyphens are dropped, and nothing else is. -/
theorem eq_hyphen_of_camelSegment_eq_nil (h : camelSegment false false cs = []) : ∀ c ∈ cs, c = '-' := by
  induction cs with
  | nil => exact fun _ hc => absurd hc List.not_mem_nil
  | cons c cs ih =>
    rw [camelSegment] at h
    by_cases hc : c = '-'
    · rw [if_pos hc] at h
      exact List.forall_mem_cons.mpr ⟨hc, ih h⟩
    · rw [if_neg hc, if_neg Bool.false_ne_true] at h
      exact absurd h (List.cons_ne_nil _ _)

/-- A valid name begins with a letter, and that letter is kept. -/
theorem usageNameOf_ne_empty (h : isName name = true) : usageNameOf name ≠ "" := by
  intro hempty
  have hjoin : Text.join ['.'] ((Text.splitOn (· == '.') name.toList).map (camelSegment false false)) = [] := by
    rw [usageNameOf] at hempty
    exact String.toList_ofList.symm.trans (congrArg String.toList hempty)
  obtain ⟨first, hfirst, halpha⟩ : ∃ first ∈ name.toList, first.isAlpha = true := by
    unfold isName at h
    split at h
    · cases h
    · next first rest hname => exact ⟨first, hname ▸ List.mem_cons_self, (Bool.and_eq_true_iff.mp h).1⟩
  rw [← Text.join_splitOn '.' name.toList] at hfirst
  rcases Text.mem_of_mem_join hfirst with hdot | ⟨piece, hpiece, hmem⟩
  · rw [List.mem_singleton.mp hdot] at halpha
    cases halpha
  · have hnil : camelSegment false false piece = [] := by
      rw [List.eq_nil_iff_forall_not_mem]
      intro c hc
      have hmem : c ∈ Text.join ['.'] ((Text.splitOn (· == '.') name.toList).map (camelSegment false false)) :=
        Text.mem_join_of_mem _ (List.mem_map_of_mem hpiece) hc
      rw [hjoin] at hmem
      cases hmem
    rw [eq_hyphen_of_camelSegment_eq_nil hnil first hmem] at halpha
    cases halpha

theorem Declared.usageNameOf_usageName {c : Component} (h : c.Declared) : usageNameOf c.usageName = c.usageName := by
  rw [h.usage, usageNameOf_usageNameOf]

end Component

namespace Components

/-! ## 3. Registries -/

variable {components : Components} {c : Component}

/-- Under a name there is what was defined last under it. -/
theorem get?_foldl_define (definitions : List Component) (components : Components) (name : String) :
    Fields.get? name (definitions.foldl define components) =
      (definitions.findRev? (·.usageName == name)).or (Fields.get? name components) := by
  have hfold : definitions.foldl define components =
      Fields.insertAll components (definitions.map fun c => (c.usageName, c)) := by
    rw [Fields.insertAll, List.foldl_map]
    rfl
  rw [hfold, Fields.get?_insertAll_last, Fields.findRev?_map, Option.map_map]
  exact congrArg (Option.or · _) Option.map_id'

/-- A registry in which every component stands once, under its usage name, and as it was declared. -/
structure Normal (components : Components) : Prop where
  nodup : (Fields.keys components).Nodup
  declared : ∀ name c, Fields.get? name components = some c → c.Declared
  usageName : ∀ name c, Fields.get? name components = some c → c.usageName = name

theorem normal_nil : Normal [] where
  nodup := List.nodup_nil
  declared _ _ h := nomatch h
  usageName _ _ h := nomatch h

theorem Normal.define (h : components.Normal) (hc : c.Declared) : (components.define c).Normal where
  nodup := Fields.nodup_keys_insert h.nodup _ _
  declared name d hd := by
    rw [Components.define, Fields.get?_insert] at hd
    split at hd
    · cases hd
      exact hc
    · exact h.declared name d hd
  usageName name d hd := by
    rw [Components.define, Fields.get?_insert] at hd
    split at hd
    · next hname =>
      cases hd
      exact hname
    · exact h.usageName name d hd

/-- The components have come from others by definitions. -/
def Grown (start components : Components) : Prop :=
  ∃ definitions : List Component, (∀ c ∈ definitions, c.Declared) ∧ components = definitions.foldl define start

theorem Grown.refl (components : Components) : Grown components components := ⟨[], by simp, rfl⟩

theorem Grown.trans {start next : Components} (h : Grown start next) (hnext : Grown next components) :
    Grown start components := by
  obtain ⟨definitions, hdefinitions, rfl⟩ := h
  obtain ⟨more, hmore, rfl⟩ := hnext
  refine ⟨definitions ++ more, fun c hc => ?_, List.foldl_append.symm⟩
  rcases List.mem_append.mp hc with hc | hc
  · exact hdefinitions c hc
  · exact hmore c hc

theorem Grown.define {start : Components} (h : Grown start components) (hc : c.Declared) :
    Grown start (components.define c) := h.trans ⟨[c], by simpa using hc, rfl⟩

theorem Grown.normal {start : Components} (h : Grown start components) (hstart : start.Normal) :
    components.Normal := by
  obtain ⟨definitions, hdefinitions, rfl⟩ := h
  induction definitions generalizing start with
  | nil => exact hstart
  | cons c definitions ih =>
    obtain ⟨hc, hdefinitions⟩ := List.forall_mem_cons.mp hdefinitions
    exact ih (hstart.define hc) hdefinitions

/-- What has a component keeps one under the same name. -/
theorem Grown.has {start : Components} {name : String} (h : Grown start components)
    (hname : Fields.has name start = true) : Fields.has name components = true := by
  obtain ⟨definitions, -, rfl⟩ := h
  rw [Fields.has] at hname ⊢
  rw [get?_foldl_define, Option.isSome_or, hname, Bool.or_true]

theorem Normal.usageNameOf_key (h : components.Normal) {key : String} (hkey : key ∈ Fields.keys components) :
    Component.usageNameOf key = key := by
  obtain ⟨⟨name, c⟩, hmem, rfl⟩ := List.mem_map.mp hkey
  have hget := Fields.get?_of_mem h.nodup hmem
  rw [← h.usageName name c hget, (h.declared name c hget).usageNameOf_usageName]

/-- That the name as it stands is tried first makes no difference. -/
theorem Normal.find?_eq (h : components.Normal) (name : String) :
    components.find? name = Fields.get? (Component.usageNameOf name) components := by
  rw [find?]
  cases hget : Fields.get? name components with
  | none => rw [Option.none_or]
  | some c =>
    -- a name that is a key is the usage name of what it leads to, and so in normal form
    have hname : c.usageName = name := h.usageName name c hget
    have hnormal : Component.usageNameOf name = name := by
      rw [← hname, (h.declared name c hget).usageNameOf_usageName]
    rw [hnormal, hget, Option.some_or]

end Components
end Stencil
