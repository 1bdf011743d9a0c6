import Stencil.Proofs.Filter.Repetition

/-!
Rules that end in two stars.

Before the end of a pattern two stars stand for any number of levels, none included. At the end they stand for one
key. So a rule that ends in them does not reach the positions that the rest of it reaches, but only the keys below
these. They are gone, at every depth and behind every list. What is left of such a position is its outline: a scalar
as it was, a list with the outlines of its items, and an empty map. Nothing is left just when some rule reaches the
position or one on the way to it, as any other rule would.
-/

namespace Stencil

open Stencil.Filter (Step)

/-! ## 1. Outlines -/

namespace Value

mutual

/-- The value with nothing left in its maps. Lists keep their items. -/
def outline : Value → Value
  | .list items => .list (outlines items)
  | .map _ => .map []
  | v => v

/-- The outlines of the items of a list. -/
def outlines : List Value → List Value
  | [] => []
  | v :: items => v.outline :: outlines items

end

theorem outlines_eq_map (items : List Value) : outlines items = items.map outline := by
  induction items with
  | nil => rfl
  | cons v items ih => rw [outlines, ih, List.map_cons]

end Value

namespace Filter

variable {filter : Filter} {authenticated : Bool} {segments : List Segment} {keys : List String}
variable {data v w : Value} {p q more : List Step} {kept : List Step → Prop}

/-- The outline of a value has those of its positions to which no key leads. -/
theorem eq_outline_of_restricts {v w : Value} (h : Restricts v (fun p => keysOf p = []) w) : w = v.outline := by
  have hface : w.face = v.face := by
    have hroot := (h [] v.face).mpr ⟨rfl, Value.face?_nil v⟩
    rw [Value.face?_nil] at hroot
    exact Option.some.inj hroot
  by_cases hlist : ∃ items, v = .list items
  · obtain ⟨items, rfl⟩ := hlist
    obtain ⟨own, rfl, hlength⟩ := Value.eq_list_of_face hface
    rw [Value.outline, Value.outlines_eq_map]
    congr 1
    refine List.ext_getElem (by rw [hlength, List.length_map]) fun i hi hi' => ?_
    rw [List.length_map] at hi'
    have hitem : items[i]? = some items[i] := List.getElem?_eq_getElem hi'
    have hown : own[i]? = some own[i] := List.getElem?_eq_getElem hi
    have hsize := Value.sizeOf_lt_of_getElem? hitem
    rw [List.getElem_map]
    refine eq_outline_of_restricts fun p f => ?_
    have hbelow := h (.index i :: p) f
    rwa [Value.face?_index, Value.face?_index, hitem, hown] at hbelow
  by_cases hmap : ∃ entries, v = .map entries
  · obtain ⟨entries, rfl⟩ := hmap
    obtain ⟨own, rfl⟩ := Value.eq_map_of_face hface
    cases own with
    | nil => rfl
    | cons entry own =>
      -- to this entry a key would lead
      obtain ⟨key, child⟩ := entry
      have hentry : (Value.map ((key, child) :: own)).face? [.key key] = some child.face := by
        rw [Value.face?_key, Fields.get?, if_pos rfl]
        rfl
      exact absurd ((h _ _).mp hentry).1 (List.cons_ne_nil key [])
  · have hsame := Value.eq_of_face (fun entries hv => hmap ⟨entries, hv⟩) (fun items hv => hlist ⟨items, hv⟩) hface.symm
    rw [← hsame]
    cases v with
    | list items => exact absurd ⟨items, rfl⟩ hlist
    | map entries => exact absurd ⟨entries, rfl⟩ hmap
    | _ => rfl
termination_by sizeOf v

/-! ## 2. Keys below a position -/

theorem keysOf_append (p q : List Step) : keysOf (p ++ q) = keysOf p ++ keysOf q := List.filterMap_append

/-- Steps that lead through a key pass some indices first. -/
theorem exists_first_key (h : keysOf more ≠ []) :
    ∃ before key after, more = before ++ .key key :: after ∧ keysOf before = [] := by
  induction more with
  | nil => exact absurd rfl h
  | cons step more ih =>
    cases step with
    | key key => exact ⟨[], key, more, rfl, rfl⟩
    | index i =>
      obtain ⟨before, key, after, rfl, hbefore⟩ := ih h
      exact ⟨.index i :: before, key, after, rfl, hbefore⟩

/-- Two stars at the end of a pattern stand for one more key. -/
theorem Matches.append_stars (h : Matches segments keys) (key : String) :
    Matches (segments ++ [.anyDepth]) (keys ++ [key]) := by
  have hstars : Matches [.anyDepth] [key] := .last rfl
  induction h with
  | @last segment first accepts =>
    by_cases hdeep : segment = .anyDepth
    · subst hdeep
      exact .more (List.cons_ne_nil _ _) (.none hstars)
    · exact .one hdeep accepts hstars
  | one notDeep accepts _ ih => exact .one notDeep accepts ih
  | none _ ih => exact .none ih
  | more notLast _ ih => exact .more (List.append_ne_nil_of_left_ne_nil notLast _) ih

/-- A rule that ends in two stars denies everything behind a key below the positions that the rest of it reaches. -/
theorem Reaches.denies_stars (h : Reaches segments q) (hmore : keysOf more ≠ []) :
    Denies (segments ++ [.anyDepth]) (q ++ more) := by
  obtain ⟨before, key, after, rfl, hbefore⟩ := exists_first_key hmore
  refine ⟨q ++ (before ++ [.key key]), ⟨after, by simp⟩, ⟨q ++ before, key, by simp⟩, ?_⟩
  have hkeys : keysOf (q ++ (before ++ [.key key])) = keysOf q ++ [key] := by
    rw [keysOf_append, keysOf_append, hbefore, List.nil_append]
    rfl
  rw [hkeys]
  exact h.2.append_stars key

/-- A position that ends in a key and goes on from another one goes on through a key. -/
theorem keysOf_ne_nil_of_append (h : EndsInKey (q ++ more)) (hmore : more ≠ []) : keysOf more ≠ [] := by
  obtain ⟨before, key, hend⟩ := h
  obtain ⟨front, last, rfl⟩ := (List.eq_nil_or_concat more).resolve_left hmore
  rw [List.concat_eq_append, ← List.append_assoc] at hend
  obtain ⟨-, hlast⟩ := List.append_inj' hend rfl
  obtain rfl := List.singleton_inj.mp hlast
  rw [List.concat_eq_append]
  exact keysOf_ne_nil ⟨front, key, rfl⟩

/-- Through indices alone no rule reaches any further. -/
theorem clear_append_of_indices (hmore : keysOf more = []) :
    Clear filter authenticated (q ++ more) ↔ Clear filter authenticated q := by
  constructor
  · intro h p hp
    exact h p (hp.trans (List.prefix_append q more))
  · intro h p hp hreached
    obtain ⟨rule, hmem, hreaches⟩ := hreached
    rcases List.prefix_or_prefix_of_prefix hp (List.prefix_append q more) with hpq | ⟨rest, rfl⟩
    · exact h p hpq ⟨rule, hmem, hreaches⟩
    · by_cases hrest : rest = []
      · subst hrest
        rw [List.append_nil] at hreaches
        exact h q List.prefix_rfl ⟨rule, hmem, hreaches⟩
      · -- what the rule reaches ends in a key, and there is none
        obtain ⟨after, rfl⟩ := (List.prefix_append_right_inj q).mp hp
        rw [keysOf_append, List.append_eq_nil_iff] at hmore
        exact keysOf_ne_nil_of_append hreaches.1 hrest hmore.1

/-! ## 3. What is left -/

theorem Restricts.at? (h : Restricts data kept v) (hq : data.at? q = some w) {u : Value} (hu : v.at? q = some u) :
    Restricts w (fun p => kept (q ++ p)) u := by
  intro p f
  have hbelow := h (q ++ p) f
  rw [Value.face?, Value.face?, Value.at?_append, Value.at?_append, hq, hu] at hbelow
  exact hbelow

theorem kept_iff_clear (hallow : filter.alwaysAllow = []) (p : List Step) :
    Kept filter authenticated data p ↔ Clear filter authenticated p := by
  constructor
  · rintro (hclear | ⟨q, ⟨-, pattern, hmem, -⟩, -⟩)
    · exact hclear
    · rw [hallow] at hmem
      cases hmem
  · exact .inl

/-- **A rule that ends in two stars hides what is below the keys that it names, and not what it names.** Nothing is
left behind a key below a position that the rest of the rule reaches. Of the position its outline is left, unless some
rule in force reaches it, or a position on the way to it. -/
theorem stars_leave_outline (withAuth withoutAuth : List String) (hdata : data.Distinct) {rule : Pattern}
    (hrule : rule ∈ (ofTexts withAuth withoutAuth []).rules authenticated)
    (hstars : rule.segments = segments ++ [.anyDepth]) (hreaches : Reaches segments q) (hq : data.at? q = some v) :
    let filter := ofTexts withAuth withoutAuth []
    let seen := filter.apply authenticated data
    (∀ more, keysOf more ≠ [] → seen.at? (q ++ more) = none) ∧
      ∀ w, seen.at? q = some w ↔ Clear filter authenticated q ∧ w = v.outline := by
  intro filter seen
  have hseen : Restricts data (Clear filter authenticated) seen :=
    (apply_restricts_of_proper authenticated (proper_ofTexts _ _ _) hdata).congr fun p _ => kept_iff_clear rfl p
  have hbelow : ∀ more, keysOf more ≠ [] → ¬ Clear filter authenticated (q ++ more) := by
    intro more hmore hclear
    refine clear_iff.mp hclear rule hrule ?_
    rw [hstars]
    exact hreaches.denies_stars hmore
  have hleft : ∀ w, seen.at? q = some w → Clear filter authenticated q ∧ w = v.outline := by
    intro w hw
    have hclear : Clear filter authenticated q := ((hseen q w.face).mp (Value.face?_of_at? hw)).1
    refine ⟨hclear, eq_outline_of_restricts ((hseen.at? hq hw).congr fun more _ => ?_)⟩
    constructor
    · intro hmore
      exact Classical.byContradiction fun hkeys => hbelow more hkeys hmore
    · intro hmore
      exact (clear_append_of_indices hmore).mpr hclear
  refine ⟨fun more hmore => ?_, fun w => ⟨hleft w, ?_⟩⟩
  · cases hat : seen.at? (q ++ more) with
    | none => rfl
    | some u => exact absurd ((hseen _ _).mp (Value.face?_of_at? hat)).1 (hbelow more hmore)
  · rintro ⟨hclear, rfl⟩
    obtain ⟨w, hw⟩ := Option.isSome_iff_exists.mp (hseen.isSome_at? hclear (by rw [hq]; rfl))
    rw [hw, (hleft w hw).2]

/-- The rule for everything below a secret. -/
def belowSecret : Pattern := ⟨"secret.**", [.exact "secret", .anyDepth]⟩

theorem rules_belowSecret : (ofTexts ["secret.**"] [] []).rules true = [belowSecret] := by decide +kernel

theorem mem_rules_belowSecret : belowSecret ∈ (ofTexts ["secret.**"] [] []).rules true := by
  rw [rules_belowSecret]
  exact List.mem_singleton_self belowSecret

theorem reaches_secret : Reaches [.exact "secret"] [.key "secret"] :=
  ⟨endsInKey_single "secret", .last (beq_self_eq_true "secret")⟩

/-- Below a list nothing is left of a map, while a text stays what it was. -/
theorem stars_leave_outline_of_list :
    let data : Value := .map [("secret", .list [.string "s", .map [("key", .null)]]), ("open", .null)]
    let filter := ofTexts ["secret.**"] [] []
    data.Distinct ∧ belowSecret ∈ filter.rules true ∧ Reaches [.exact "secret"] [.key "secret"] ∧
      (filter.apply true data).at? [.key "secret", .index 1, .key "key"] = none ∧
      Clear filter true [.key "secret"] ∧
      (filter.apply true data).at? [.key "secret"] = some (.list [.string "s", .map []]) := by
  intro data filter
  have hnull : Value.null.Distinct := Value.distinct_scalar (by simp) (by simp)
  have htext : (Value.string "s").Distinct := Value.distinct_scalar (by simp) (by simp)
  have hmap : (Value.map [("key", .null)]).Distinct :=
    Value.distinct_map (by decide) (List.forall_mem_singleton.mpr hnull)
  have hlist : (Value.list [.string "s", .map [("key", .null)]]).Distinct :=
    Value.distinct_list (List.forall_mem_cons.mpr ⟨htext, List.forall_mem_singleton.mpr hmap⟩)
  have hdata : data.Distinct :=
    Value.distinct_map (by decide) (List.forall_mem_cons.mpr ⟨hlist, List.forall_mem_singleton.mpr hnull⟩)
  have hrule : belowSecret ∈ filter.rules true := mem_rules_belowSecret
  have hat : data.at? [.key "secret"] = some (.list [.string "s", .map [("key", .null)]]) := rfl
  obtain ⟨hgone, hleft⟩ := stars_leave_outline ["secret.**"] [] hdata hrule rfl reaches_secret hat
  have hseen : (filter.apply true data).at? [.key "secret"] = some (.list [.string "s", .map []]) := by
    rw [apply_of_rules (List.ne_nil_of_mem hrule), rules_belowSecret]
    rfl
  have hbelow := hgone [.index 1, .key "key"] (List.cons_ne_nil "key" [])
  exact ⟨hdata, hrule, reaches_secret, hbelow, ((hleft _).mp hseen).1, hseen⟩

/-- A text at the very position that the rule names is shown all the same. -/
theorem stars_leave_named_text :
    let data : Value := .map [("secret", .string "s"), ("open", .null)]
    let filter := ofTexts ["secret.**"] [] []
    belowSecret ∈ filter.rules true ∧ Reaches [.exact "secret"] [.key "secret"] ∧
      (filter.apply true data).at? [.key "secret"] = some (.string "s") := by
  intro data filter
  refine ⟨mem_rules_belowSecret, reaches_secret, ?_⟩
  rw [apply_of_rules (List.ne_nil_of_mem mem_rules_belowSecret), rules_belowSecret]
  rfl

end Filter

end Stencil
