import Stencil.Proofs.Filter.Meaning

/-!
Filtering twice.

A second run of the filter looks at less data than the first one: allowed positions may be missing, and maps were
made anew with their keys in another order. It could therefore allow less, and keep less. It does not, because
whatever a position was kept for is kept with it. A clear position is clear in any data. An allowed position that
can be passed to is kept itself, and so are the allowed positions above the lists on the way to it, as they are on
the way to it as well.

What comes out is compared up to the order of keys, and down to the last bit of every scalar (`Reordered`).
-/

namespace Stencil

open Stencil.Filter (Step)

namespace Value

/-! ## 1. The order of keys -/

/-- The same value with the keys of its maps in any order. -/
inductive Reordered : Value → Value → Prop
  | refl (v : Value) : Reordered v v
  | list {items others : List Value} (length : items.length = others.length)
      (parts : ∀ (i : Nat) a b, items[i]? = some a → others[i]? = some b → Reordered a b) :
      Reordered (.list items) (.list others)
  | map {entries others : Fields Value} (keys : (Fields.keys entries).Perm (Fields.keys others))
      (parts : ∀ key a b, Fields.get? key entries = some a → Fields.get? key others = some b → Reordered a b) :
      Reordered (.map entries) (.map others)

theorem face_of_scalar {v : Value} (hmap : ∀ entries, v ≠ .map entries) (hlist : ∀ items, v ≠ .list items) :
    v.face = v := by
  cases v with
  | list items => exact absurd rfl (hlist items)
  | map entries => exact absurd rfl (hmap entries)
  | _ => rfl

/-- What looks like a scalar is that scalar. -/
theorem eq_of_face {v w : Value} (hmap : ∀ entries, v ≠ .map entries) (hlist : ∀ items, v ≠ .list items)
    (h : v.face = w.face) : v = w := by
  rw [face_of_scalar hmap hlist] at h
  rw [h]
  refine face_of_scalar (fun entries hw => ?_) fun items hw => ?_
  · exact hmap [] (by rw [h, hw]; rfl)
  · exact hlist _ (by rw [h, hw]; rfl)

theorem mem_keys_of_face? {entries others : Fields Value}
    (h : ∀ p, (Value.map entries).face? p = (Value.map others).face? p) (hentries : (Fields.keys entries).Nodup)
    {key : String} (hkey : key ∈ Fields.keys entries) : key ∈ Fields.keys others := by
  obtain ⟨⟨name, a⟩, hmem, rfl⟩ := List.mem_map.mp hkey
  have hface := h [.key name]
  rw [face?_key, face?_key, Fields.get?_of_mem hentries hmem] at hface
  cases hother : Fields.get? name others with
  | none =>
    rw [hother] at hface
    cases hface
  | some b => exact List.mem_map.mpr ⟨(name, b), Fields.mem_of_get? hother, rfl⟩

/-- Values that show the same at every position are the same up to the order of keys, when no key stands twice. -/
theorem reordered_of_face? {v w : Value} (hv : v.Distinct) (hw : w.Distinct) (h : ∀ p, v.face? p = w.face? p) :
    Reordered v w := by
  have hface : v.face = w.face := Option.some.inj (h [])
  by_cases hlist : ∃ items, v = .list items
  · obtain ⟨items, rfl⟩ := hlist
    obtain ⟨others, rfl, hlength⟩ := eq_list_of_face hface.symm
    refine .list hlength.symm fun i a b ha hb => ?_
    have hsize := sizeOf_lt_of_getElem? ha
    refine reordered_of_face? (hv.item ha) (hw.item hb) fun p => ?_
    have hbelow := h (.index i :: p)
    rwa [face?_index, face?_index, ha, hb] at hbelow
  by_cases hmap : ∃ entries, v = .map entries
  · obtain ⟨entries, rfl⟩ := hmap
    obtain ⟨others, rfl⟩ := eq_map_of_face hface.symm
    refine .map ?_ fun key a b ha hb => ?_
    · refine (List.perm_ext_iff_of_nodup hv.keys hw.keys).mpr fun key => ⟨?_, ?_⟩
      · exact mem_keys_of_face? h hv.keys
      · exact mem_keys_of_face? (fun p => (h p).symm) hw.keys
    · have hsize := sizeOf_lt_of_get? ha
      refine reordered_of_face? (hv.child ha) (hw.child hb) fun p => ?_
      have hbelow := h (.key key :: p)
      rwa [face?_key, face?_key, ha, hb] at hbelow
  · rw [eq_of_face (fun entries hv => hmap ⟨entries, hv⟩) (fun items hv => hlist ⟨items, hv⟩) hface]
    exact .refl w
termination_by sizeOf v

end Value

namespace Filter

/-! ## 2. What is kept stays kept -/

variable {filter : Filter} {authenticated : Bool} {data seen : Value} {p : List Step}

theorem Restricts.isSome_at? {kept : List Step → Prop} (h : Restricts data kept seen) (hkept : kept p)
    (hp : (data.at? p).isSome) : (seen.at? p).isSome := by
  obtain ⟨v, hv⟩ := Option.isSome_iff_exists.mp hp
  have hface : seen.face? p = some v.face := (h p v.face).mpr ⟨hkept, Value.face?_of_at? hv⟩
  obtain ⟨w, hw, -⟩ := Option.map_eq_some_iff.mp hface
  rw [hw]
  rfl

/-- Whatever was a reason to keep a position is still there in the data as it is seen. -/
theorem kept_seen (hseen : Restricts data (Kept filter authenticated data) seen)
    (hp : Kept filter authenticated data p) : Kept filter authenticated seen p := by
  rcases hp with hclear | ⟨q, hallowed, hpassable, hcomparable⟩
  · exact .inl hclear
  · -- every allowed position on the way to `q` is kept for the sake of `q`
    have hway : ∀ above, above <+: q → Allowed filter data above → Allowed filter seen above := by
      intro above habove hallowed'
      refine ⟨hseen.isSome_at? ?_ hallowed'.1, hallowed'.2⟩
      exact .inr ⟨q, hallowed, hpassable, .inr habove⟩
    refine .inr ⟨q, hway q List.prefix_rfl hallowed, fun l hl => ?_, hcomparable⟩
    refine (hpassable l hl).imp_right ?_
    rintro ⟨above, habove, hbelow⟩
    obtain ⟨i, rest, rfl⟩ := hl
    exact ⟨above, hway above (hbelow.trans (List.prefix_append l _)) habove, hbelow⟩

/-- **Filtering twice is filtering once.** What a caller sees is filtered already: the same filter for the same
authentication state makes nothing else of it, but for the order in which maps have their keys. -/
theorem apply_idempotent (withAuth withoutAuth alwaysAllow : List String) (authenticated : Bool) (data : Value)
    (hdata : data.Distinct) :
    let filter := ofTexts withAuth withoutAuth alwaysAllow
    (filter.apply authenticated (filter.apply authenticated data)).Reordered (filter.apply authenticated data) := by
  intro filter
  have hfilter : filter.Proper := proper_ofTexts _ _ _
  have hdistinct : (filter.apply authenticated data).Distinct := distinct_apply hfilter hdata
  have hseen := apply_restricts_of_proper authenticated hfilter hdata
  have htwice := apply_restricts_of_proper authenticated hfilter hdistinct
  refine Value.reordered_of_face? (distinct_apply hfilter hdistinct) hdistinct fun p => Option.ext fun f => ?_
  rw [htwice p f]
  refine and_iff_right_of_imp fun hface => ?_
  exact kept_seen hseen ((hseen p f).mp hface).1

/-- A list in the data, a rule of any depth, and a kept value in a map that was taken out: the map is made anew,
and the second run takes it out and makes it anew once more. -/
theorem apply_idempotent_through_list :
    let data : Value := .map [("a", .map [("b", .bool true), ("c", .null)]),
      ("d", .list [.map [("e", .string "x"), ("f", .null)]])]
    let seen : Value := .map [("d", .list [.map [("f", .null)]]), ("a", .map [("b", .bool true)])]
    let filter := ofTexts [] ["a", "**.e"] ["a.b"]
    data.Distinct ∧ filter.apply false data = seen ∧ (filter.apply false seen).Reordered seen := by
  intro data seen filter
  have happly : filter.apply false data = seen := rfl
  have hnull : Value.null.Distinct := Value.distinct_scalar (by simp) (by simp)
  have hbool : (Value.bool true).Distinct := Value.distinct_scalar (by simp) (by simp)
  have hstring : (Value.string "x").Distinct := Value.distinct_scalar (by simp) (by simp)
  have hleft : (Value.map [("b", .bool true), ("c", .null)]).Distinct :=
    Value.distinct_map (by decide) (List.forall_mem_cons.mpr ⟨hbool, List.forall_mem_singleton.mpr hnull⟩)
  have hright : (Value.list [.map [("e", .string "x"), ("f", .null)]]).Distinct := by
    refine Value.distinct_list (List.forall_mem_singleton.mpr (Value.distinct_map (by decide) ?_))
    exact List.forall_mem_cons.mpr ⟨hstring, List.forall_mem_singleton.mpr hnull⟩
  have hdata : data.Distinct :=
    Value.distinct_map (by decide) (List.forall_mem_cons.mpr ⟨hleft, List.forall_mem_singleton.mpr hright⟩)
  exact ⟨hdata, happly, happly ▸ apply_idempotent [] ["a", "**.e"] ["a.b"] false data hdata⟩

end Filter

end Stencil
