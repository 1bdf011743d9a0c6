import Stencil.Proofs.Fields
import Stencil.Proofs.Filter.Position
import Stencil.Request

/-!
Values laid over each other.

What stands under a key of the result depends on the same key of both sides and on nothing else (`part?_merge`), so
whatever is said about a position goes down key by key. The overlay is asked first: what it says there holds, whatever
lies under it. The base is asked where the overlay says nothing, because it has no such key or a null (`SilentAt`).
There is nothing else in the result, and laying the overlay over it once more finds everything already said.

An overlay in which a key stands twice would contradict itself; it has none (`Distinct`).
-/

namespace Stencil

open Stencil.Filter (Step)

namespace Value

variable {base overlay v w f : Value} {entries more : Fields Value} {key : String} {p : List Step}

/-! ## 1. One key -/

theorem merge_null_left (v : Value) : merge .null v = v := by
  cases v <;> rfl

theorem merge_of_not_map (hnull : v ≠ .null) (hmap : v.isMap = false) (base : Value) : base.merge v = v := by
  cases v with
  | null => exact absurd rfl hnull
  | map entries => cases hmap
  | _ => rfl

/-- What stands under a key when there is something under it on both sides or on one. -/
def mergeAt (base : Option Value) : Option Value → Option Value
  | none => base
  | some v => some ((base.getD .null).merge v)

theorem mergeEntries_cons (base : Fields Value) (key : String) (v : Value) (more : Fields Value) :
    mergeEntries base ((key, v) :: more) =
      mergeEntries (Fields.insert key (((Fields.get? key base).getD .null).merge v) base) more := by
  rw [mergeEntries]
  cases Fields.get? key base with
  | none =>
    dsimp only [Option.getD_none]
    rw [merge_null_left]
  | some b => rfl

theorem get?_mergeEntries (hmore : (Fields.keys more).Nodup) (base : Fields Value) (key : String) :
    Fields.get? key (mergeEntries base more) = mergeAt (Fields.get? key base) (Fields.get? key more) := by
  induction more generalizing base with
  | nil =>
    rw [mergeEntries]
    rfl
  | cons entry more ih =>
    obtain ⟨name, v⟩ := entry
    obtain ⟨hname, hmore⟩ : name ∉ Fields.keys more ∧ (Fields.keys more).Nodup := List.nodup_cons.mp hmore
    rw [mergeEntries_cons, ih hmore, Fields.get?_insert, Fields.get?]
    by_cases hkey : name = key
    · -- no later entry of the overlay has this key
      subst hkey
      rw [if_pos rfl, if_pos rfl, Fields.get?_eq_none hname, mergeAt, mergeAt]
    · rw [if_neg hkey, if_neg hkey]

theorem part?_merge (hmore : (Fields.keys more).Nodup) (base : Value) (key : String) :
    (base.merge (.map more)).part? (.key key) = mergeAt (base.part? (.key key)) (Fields.get? key more) := by
  cases base with
  | map entries =>
    rw [merge, part?, part?]
    exact get?_mergeEntries hmore entries key
  | _ =>
    change Fields.get? key more = mergeAt none (Fields.get? key more)
    cases Fields.get? key more with
    | none => rfl
    | some v => rw [mergeAt, Option.getD_none, merge_null_left]

theorem at?_merge_key (hmore : (Fields.keys more).Nodup) (base : Value) (key : String) (p : List Step) :
    (base.merge (.map more)).at? (.key key :: p) =
      (mergeAt (base.part? (.key key)) (Fields.get? key more)).bind (at? p) := by
  rw [at?, part?_merge hmore]

/-! ## 2. Positions -/

/-- What the overlay holds, other than a null or a map, the result holds. -/
theorem at?_merge_of_overlay (hoverlay : overlay.Distinct) (hv : overlay.at? p = some v) (hnull : v ≠ .null)
    (hmap : v.isMap = false) (base : Value) : (base.merge overlay).at? p = some v := by
  induction p generalizing base overlay with
  | nil =>
    obtain rfl := Option.some.inj hv
    rw [merge_of_not_map hnull hmap]
    rfl
  | cons step p ih =>
    cases step with
    | key key =>
      obtain ⟨more, child, rfl, hchild, hv⟩ := eq_map_of_at?_key hv
      rw [at?_merge_key hoverlay.keys, hchild]
      exact ih (hoverlay.child hchild) hv _
    | index i =>
      obtain ⟨items, item, rfl, -, -⟩ := eq_list_of_at?_index hv
      exact hv

/-- An overlay says nothing about what stands at a path of keys: it goes along with the path from map to map, until it
comes to a map without the next key or to a null. -/
inductive SilentAt : Value → List String → Prop
  | null (path : List String) : SilentAt .null path
  | absent {more : Fields Value} {key : String} (path : List String) (missing : Fields.get? key more = none) :
      SilentAt (.map more) (key :: path)
  | deeper {more : Fields Value} {key : String} {path : List String} {child : Value}
      (present : Fields.get? key more = some child) (silent : SilentAt child path) : SilentAt (.map more) (key :: path)

/-- What the base holds where the overlay says nothing, the result holds. -/
theorem at?_merge_of_silent {path : List String} (hsilent : SilentAt overlay path) (hoverlay : overlay.Distinct)
    (hv : base.at? (path.map .key) = some v) : (base.merge overlay).at? (path.map .key) = some v := by
  induction hsilent generalizing base with
  | null path => exact hv
  | absent path missing =>
    rw [List.map_cons] at hv ⊢
    rw [at?_merge_key hoverlay.keys, missing]
    exact hv
  | deeper present silent ih =>
    rw [List.map_cons] at hv ⊢
    obtain ⟨entries, b, rfl, hb, hv⟩ := eq_map_of_at?_key hv
    have hpart : (Value.map entries).part? (.key _) = some b := hb
    rw [at?_merge_key hoverlay.keys, present, hpart]
    exact ih (hoverlay.child present) hv

/-- What shows in the result shows in the overlay or in the base. -/
theorem face?_of_merge (hoverlay : overlay.Distinct) (h : (base.merge overlay).face? p = some f) :
    overlay.face? p = some f ∨ base.face? p = some f := by
  induction p generalizing base overlay with
  | nil =>
    by_cases hnull : overlay = .null
    · subst hnull
      exact .inr h
    · -- the result is of the kind that the overlay is
      refine .inl ?_
      cases overlay with
      | null => exact absurd rfl hnull
      | map more => cases base <;> exact h
      | _ => exact h
  | cons step p ih =>
    cases overlay with
    | null => exact .inr h
    | map more =>
      cases step with
      | index i => cases base <;> cases h
      | key key =>
        rw [face?, at?_merge_key hoverlay.keys] at h
        rw [face?_key, face?, at?]
        cases hchild : Fields.get? key more with
        | none =>
          rw [hchild] at h
          exact .inr h
        | some child =>
          rw [hchild] at h
          have hbelow : child.face? p = some f ∨ ((base.part? (.key key)).getD .null).face? p = some f :=
            ih (hoverlay.child hchild) h
          cases hb : base.part? (.key key) with
          | none =>
            -- laid over nothing, the overlay is all there is
            rw [hb] at h
            rw [mergeAt, Option.getD_none, merge_null_left] at h
            exact .inl h
          | some b =>
            rw [hb] at hbelow
            exact hbelow
    | _ => exact .inl h

/-! ## 3. Once more -/

theorem keys_prefix_mergeEntries (entries more : Fields Value) :
    Fields.keys entries <+: Fields.keys (mergeEntries entries more) := by
  induction more generalizing entries with
  | nil =>
    rw [mergeEntries]
  | cons entry more ih =>
    obtain ⟨key, v⟩ := entry
    rw [mergeEntries_cons]
    exact (Fields.keys_prefix_insert entries key _).trans (ih _)

/-- An overlay whose entries change nothing one by one changes nothing. -/
theorem mergeEntries_eq_self (h : ∀ entry ∈ more, ∃ w, Fields.get? entry.1 entries = some w ∧ w.merge entry.2 = w) :
    mergeEntries entries more = entries := by
  induction more with
  | nil => rw [mergeEntries]
  | cons entry more ih =>
    obtain ⟨key, v⟩ := entry
    obtain ⟨⟨w, hw, hmerge⟩, hmore⟩ := List.forall_mem_cons.mp h
    rw [mergeEntries_cons, hw, Option.getD_some, hmerge, Fields.insert_eq_self hw]
    exact ih hmore

/-- Laying the same overlay over the result changes nothing. -/
theorem merge_merge (base overlay : Value) (hoverlay : overlay.Distinct) :
    (base.merge overlay).merge overlay = base.merge overlay := by
  cases overlay with
  | map more =>
    have hagain : ∀ entry ∈ more, ∀ b : Value, (b.merge entry.2).merge entry.2 = b.merge entry.2 := by
      intro entry hmem b
      have hsize := sizeOf_lt_of_mem_entries hmem
      exact merge_merge b entry.2 (hoverlay.of_mem_entries entry hmem)
    -- what stands in the result under a key of the overlay came of laying the overlay over something
    have hentries : ∀ entries : Fields Value, mergeEntries (mergeEntries entries more) more = mergeEntries entries more := by
      intro entries
      refine mergeEntries_eq_self fun entry hmem => ?_
      rw [get?_mergeEntries hoverlay.keys, Fields.get?_of_mem hoverlay.keys hmem]
      exact ⟨_, rfl, hagain entry hmem _⟩
    have hself : mergeEntries more more = more := by
      refine mergeEntries_eq_self fun entry hmem => ⟨entry.2, Fields.get?_of_mem hoverlay.keys hmem, ?_⟩
      have hnull := hagain entry hmem .null
      rwa [merge_null_left] at hnull
    cases base with
    | map entries => rw [merge, merge, hentries]
    | _ => exact congrArg Value.map hself
  | _ => rfl
termination_by sizeOf overlay

/-! ## 4. The data of a render -/

/-- A result is an overlay laid over a base, and nothing more. -/
structure LaidOver (base : Value) (overlay : Fields Value) (result : Value) : Prop where
  /-- What the overlay holds, other than a null or a map, has the last word. -/
  said : ∀ p v, (Value.map overlay).at? p = some v → v ≠ .null → v.isMap = false → result.at? p = some v
  /-- What the base holds stands where the overlay says nothing. -/
  unsaid : ∀ path v, base.at? (path.map .key) = some v → SilentAt (.map overlay) path →
    result.at? (path.map .key) = some v
  /-- There is nothing that is not in one of the two. -/
  nothingElse : ∀ p f, result.face? p = some f → (Value.map overlay).face? p = some f ∨ base.face? p = some f
  /-- The keys of the base are the first ones, in their order. -/
  keys : Fields.keys base.entries <+: Fields.keys result.entries
  /-- Once laid over, the overlay has nothing more to say. -/
  again : result.merge (.map overlay) = result

theorem laidOver_merge (hmore : (Value.map more).Distinct) (base : Value) :
    LaidOver base more (base.merge (.map more)) where
  said _ _ hv hnull hmap := at?_merge_of_overlay hmore hv hnull hmap base
  unsaid _ _ hv hsilent := at?_merge_of_silent hsilent hmore hv
  nothingElse _ _ h := face?_of_merge hmore h
  keys := by
    cases base with
    | map entries =>
      rw [merge]
      exact keys_prefix_mergeEntries entries more
    | _ => exact List.nil_prefix
  again := merge_merge base _ hmore

/-- **Laying values over each other adds what the overlay says, and nothing more.** So does laying the given data of a
render over what the filter leaves, for a caller who is known or not, of all that is built for the request: the data
are in no filter's reach, and where they say nothing there is what the filter has left. -/
theorem merge_lays_over (hmore : (Value.map more).Distinct) :
    (∀ base, LaidOver base more (base.merge (.map more))) ∧
    ∀ (request : Request) (snapshot : Snapshot) (locales : Locales),
      LaidOver (snapshot.filter.apply request.isAuthenticated (request.build snapshot locales)) more
        (request.renderData snapshot locales (.map more)) := by
  refine ⟨laidOver_merge hmore, fun request snapshot locales => ?_⟩
  rw [Request.renderData, Request.buildFiltered]
  exact laidOver_merge hmore _

/-- Data of a caller, with a null and an empty map in them. -/
def sampleData : Fields Value :=
  [("config", .map [("secret", .string "mine"), ("title", .null), ("theme", .map [])]), ("page", .number 1)]

/-- A configuration that has a title and a theme keeps both, at their places, and gets the secret. -/
theorem merge_lays_over_config :
    let base : Value := .map [("config", .map [("title", .string "T"), ("theme", .map [("dark", .bool true)])])]
    (Value.map sampleData).Distinct ∧
      (base.merge (.map sampleData)).at? [.key "config", .key "secret"] = some (.string "mine") ∧
      (base.merge (.map sampleData)).at? [.key "config", .key "title"] = some (.string "T") ∧
      (base.merge (.map sampleData)).at? [.key "config", .key "theme", .key "dark"] = some (.bool true) := by
  intro base
  have hdata : (Value.map sampleData).Distinct := by
    refine distinct_map (by decide) ?_
    simp only [sampleData, List.forall_mem_cons]
    refine ⟨distinct_map (by decide) ?_, distinct_scalar nofun nofun, nofun⟩
    simp only [List.forall_mem_cons]
    exact ⟨distinct_scalar nofun nofun, distinct_scalar nofun nofun, distinct_map (by decide) nofun, nofun⟩
  have hover := (merge_lays_over hdata).1 base
  have hbelow : ∀ {path}, SilentAt (.map [("secret", .string "mine"), ("title", .null), ("theme", .map [])]) path →
      SilentAt (.map sampleData) ("config" :: path) := fun hsilent => .deeper rfl hsilent
  refine ⟨hdata, hover.said _ _ rfl nofun rfl, ?_, ?_⟩
  · exact hover.unsaid ["config", "title"] _ rfl (hbelow (.deeper rfl (.null [])))
  · exact hover.unsaid ["config", "theme", "dark"] _ rfl (hbelow (.deeper rfl (.absent [] rfl)))

end Value

end Stencil
