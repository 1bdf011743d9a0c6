import Stencil.Proofs.Filter.Meaning

/-!
What is denied has no influence.

Two values that agree off a position differ in nothing but what stands there. If a rule denies the position, and
nothing above, at or below it is always allowed, then filtering makes the very same of both, down to the order of
keys. The rules before the one that denies the position may take out different things at the position, but leave
values that agree off it; that one takes out all that was left of the difference. And as nothing was captured from
there, what is put back is the same list of parts.

The restriction that filtering comes to (`apply_restricts`) would not do here: it leaves the order of keys open,
and a loop over a map shows it.
-/

namespace Stencil

open Stencil.Filter (Step)

namespace Value

/-! ## 1. Agreeing off a position -/

/-- The values differ in nothing but in what stands at a position. No key stands twice in that. -/
inductive AgreeOff : List Step → Value → Value → Prop
  | same (p : List Step) (v : Value) : AgreeOff p v v
  | here {v w : Value} (left : v.Distinct) (right : w.Distinct) : AgreeOff [] v w
  | key {before after : Fields Value} {key : String} {p : List Step} {v w : Value}
      (first : key ∉ Fields.keys before) (below : AgreeOff p v w) :
      AgreeOff (.key key :: p) (.map (before ++ (key, v) :: after)) (.map (before ++ (key, w) :: after))
  | index {before after : List Value} {p : List Step} {v w : Value} (below : AgreeOff p v w) :
      AgreeOff (.index before.length :: p) (.list (before ++ v :: after)) (.list (before ++ w :: after))

theorem AgreeOff.item {before after : List Value} {i : Nat} {p : List Step} {v w : Value} (hi : before.length = i)
    (below : AgreeOff p v w) :
    AgreeOff (.index i :: p) (.list (before ++ v :: after)) (.list (before ++ w :: after)) := by
  subst hi
  exact .index below

end Value

namespace Filter

open Value (AgreeOff)

variable {segment : Segment} {rest segments : List Segment} {p q : List Step} {v w : Value}

/-! ## 2. Taking out -/

theorem removeEntries_append {last : Bool} {next : Value → Value} (before after : Fields Value) :
    removeEntries segment last next (before ++ after) =
      removeEntries segment last next before ++ removeEntries segment last next after := by
  induction before with
  | nil => rfl
  | cons entry before ih =>
    obtain ⟨key, v⟩ := entry
    rw [List.cons_append, removeEntries, removeEntries, ih]
    split
    · rfl
    · split
      · rfl
      · split <;> rfl

theorem not_mem_keys_removeEntries {last : Bool} {next : Value → Value} {entries : Fields Value} {key : String}
    (h : key ∉ Fields.keys entries) : key ∉ Fields.keys (removeEntries segment last next entries) :=
  fun hmem => h ((keys_removeEntries entries).subset hmem)

/-- Entries that agree off one of their keys do so after one segment was taken out of them. -/
theorem removeEntries_agree {before : Fields Value} (after : Fields Value) {key : String}
    (hfirst : key ∉ Fields.keys before)
    (h : AgreeOff p v w) (hrest : AgreeOff p (remove rest v) (remove rest w))
    (hbelow : AgreeOff p (removeAt segment rest.isEmpty (remove rest) v)
      (removeAt segment rest.isEmpty (remove rest) w)) :
    AgreeOff (.key key :: p) (.map (removeEntries segment rest.isEmpty (remove rest) (before ++ (key, v) :: after)))
      (.map (removeEntries segment rest.isEmpty (remove rest) (before ++ (key, w) :: after))) := by
  have hkey : key ∉ Fields.keys (removeEntries segment rest.isEmpty (remove rest) before) :=
    not_mem_keys_removeEntries hfirst
  rw [removeEntries_append, removeEntries_append, removeEntries, removeEntries]
  split
  · exact .key hkey h
  · split
    -- the key is gone, and with it all that the values did not agree in
    · exact .same _ _
    · split
      · exact .key hkey hbelow
      · exact .key hkey hrest

theorem removeAt_agree (hrest : ∀ p v w, AgreeOff p v w → AgreeOff p (remove rest v) (remove rest w))
    (h : AgreeOff p v w) :
    AgreeOff p (removeAt segment rest.isEmpty (remove rest) v) (removeAt segment rest.isEmpty (remove rest) w) := by
  induction h with
  | same p v => exact .same _ _
  | here left right =>
    have hremove : ∀ u : Value, u.Distinct → (remove rest u).Distinct := fun u => distinct_remove rest u
    exact .here (distinct_removeAt hremove _ left) (distinct_removeAt hremove _ right)
  | @key before after key p v w hfirst h ih =>
    have hentries := removeEntries_agree after hfirst h (hrest p v w h) ih
    rw [removeAt, removeAt]
    split
    · exact hrest _ _ _ hentries
    · exact hentries
  | @index before after p v w h ih =>
    rw [removeAt, removeAt, removeItems_eq_map, removeItems_eq_map, List.map_append, List.map_append, List.map_cons,
      List.map_cons]
    exact .item (List.length_map _) ih

/-- Values that agree off a position do so after a pattern was taken out of them. -/
theorem remove_agree (segments : List Segment) (h : AgreeOff p v w) :
    AgreeOff p (remove segments v) (remove segments w) := by
  induction segments generalizing p v w with
  | nil => exact h
  | cons segment rest ih => exact removeAt_agree (fun _ _ _ => ih) h

theorem removeAt_eq (hrest : ∀ p v w, AgreeOff p v w → Denies rest p → remove rest v = remove rest w)
    (h : AgreeOff p v w) (hdenies : Denies (segment :: rest) p) :
    removeAt segment rest.isEmpty (remove rest) v = removeAt segment rest.isEmpty (remove rest) w := by
  induction h with
  | same p v => rfl
  | here => exact absurd hdenies not_denies_nil
  | @key before after key p v w hfirst h ih =>
    rw [removeAt, removeAt]
    cases hdeep : segment.isDeep rest.isEmpty with
    | true =>
      rw [if_pos rfl, if_pos rfl]
      rcases (denies_deep hdeep).mp hdenies with hhere | hbelow
      -- the rest of the pattern is taken out of this map last of all
      · refine hrest (.key key :: p) _ _ ?_ hhere
        refine removeEntries_agree after hfirst h (remove_agree rest h) ?_
        exact removeAt_agree (fun _ _ _ => remove_agree rest) h
      · rw [removeEntries_append, removeEntries_append, removeEntries, removeEntries, ih hbelow, if_pos hdeep,
          if_pos hdeep]
        obtain ⟨rfl, hne⟩ := isDeep_iff.mp hdeep
        simp [Segment.accepts, hne]
    | false =>
      rw [if_neg Bool.false_ne_true, if_neg Bool.false_ne_true, removeEntries_append, removeEntries_append,
        removeEntries, removeEntries]
      by_cases hne : rest = []
      · subst hne
        simp [denies_last.mp hdenies]
      · obtain ⟨haccepts, hbelow⟩ := (denies_one hne hdeep).mp hdenies
        have hlast : rest.isEmpty = false := List.isEmpty_eq_false_iff.mpr hne
        simp only [hlast] at hdeep ⊢
        simp [haccepts, hdeep, hrest p v w h hbelow]
  | @index before after p v w h ih =>
    rw [removeAt, removeAt, removeItems_eq_map, removeItems_eq_map, List.map_append, List.map_append, List.map_cons,
      List.map_cons, ih ((denies_index _).mp hdenies)]

/-- A pattern that denies a position makes the same of all values that agree off it. -/
theorem remove_eq (h : AgreeOff p v w) (hdenies : Denies segments p) : remove segments v = remove segments w := by
  induction segments generalizing p v w with
  | nil =>
    obtain ⟨q, -, hreaches⟩ := hdenies
    exact absurd rfl hreaches.2.segments_ne_nil
  | cons segment rest ih => exact removeAt_eq (fun _ _ _ => ih) h hdenies

theorem removeAll_eq {patterns : List Pattern} (h : AgreeOff p v w)
    (hdenies : ∃ pattern ∈ patterns, Denies pattern.segments p) :
    patterns.foldl (fun v pattern => remove pattern.segments v) v =
      patterns.foldl (fun v pattern => remove pattern.segments v) w := by
  induction patterns generalizing v w with
  | nil =>
    obtain ⟨pattern, hmem, -⟩ := hdenies
    cases hmem
  | cons pattern patterns ih =>
    rw [List.foldl_cons, List.foldl_cons]
    obtain ⟨denying, hmem, hdenying⟩ := hdenies
    rcases List.mem_cons.mp hmem with rfl | hmem
    · rw [remove_eq h hdenying]
    · exact ih (remove_agree pattern.segments h) ⟨denying, hmem, hdenying⟩

/-! ## 3. Capturing -/

/-- The pattern leads to nothing in the value that stands above, at or below the position. -/
def Avoids (segments : List Segment) (p : List Step) (v : Value) : Prop :=
  ∀ q, Comparable q p → (v.at? q).isSome → ¬ Leads segments q

theorem capture_eq_nil (hv : v.Distinct) (h : Avoids segments [] v) (path : List Step) :
    capture segments path v = [] := by
  refine List.eq_nil_iff_forall_not_mem.mpr fun c hc => ?_
  obtain ⟨q, -, hat, hleads⟩ := captured_of_mem segments path v hv c hc
  exact h q (comparable_nil_right q) (by rw [hat]; rfl) hleads

/-- What remains of the pattern after a step avoids what remains of the position. -/
theorem Avoids.below {u : Value} {step : Step} {remaining : List Segment} (h : Avoids segments (step :: p) u)
    (hpart : u.part? step = some v) (hleads : ∀ q, Leads remaining q → Leads segments (step :: q)) :
    Avoids remaining p v := by
  intro q hq hat hremaining
  refine h (step :: q) (comparable_cons.mpr ⟨rfl, hq⟩) ?_ (hleads q hremaining)
  rwa [Value.at?, hpart]

theorem get?_first {before after : Fields Value} {key : String} (hfirst : key ∉ Fields.keys before) (v : Value) :
    Fields.get? key (before ++ (key, v) :: after) = some v := by
  induction before with
  | nil => rw [List.nil_append, Fields.get?, if_pos rfl]
  | cons entry before ih =>
    obtain ⟨other, w⟩ := entry
    obtain ⟨hne, hfirst⟩ : key ≠ other ∧ key ∉ Fields.keys before := by simpa [Fields.keys] using hfirst
    rw [List.cons_append, Fields.get?, if_neg (Ne.symm hne)]
    exact ih hfirst

theorem captureEntries_append {last : Bool} {next : List Step → Value → List Capture} (path : List Step)
    (before after : Fields Value) :
    captureEntries segment last next path (before ++ after) =
      captureEntries segment last next path before ++ captureEntries segment last next path after := by
  induction before with
  | nil => rfl
  | cons entry before ih =>
    obtain ⟨key, v⟩ := entry
    rw [List.cons_append, captureEntries, captureEntries, ih, List.append_assoc]

theorem captureItems_append {last : Bool} {next : List Step → Value → List Capture} (path : List Step) (i : Nat)
    (before after : List Value) :
    captureItems segment last next path i (before ++ after) =
      captureItems segment last next path i before ++
        captureItems segment last next path (i + before.length) after := by
  induction before generalizing i with
  | nil => rfl
  | cons v before ih =>
    rw [List.cons_append, captureItems, captureItems, ih, List.append_assoc, List.length_cons, Nat.add_right_comm,
      Nat.add_assoc]

theorem captureAt_agree (hrest : ∀ p v w, AgreeOff p v w → Avoids rest p v → Avoids rest p w → ∀ path,
      capture rest path v = capture rest path w)
    (h : AgreeOff p v w) (hv : Avoids (segment :: rest) p v) (hw : Avoids (segment :: rest) p w) (path : List Step) :
    captureAt segment rest.isEmpty (capture rest) path v = captureAt segment rest.isEmpty (capture rest) path w := by
  have hleads : ∀ q, Leads (segment :: rest) q ↔ Reaches (segment :: rest) q :=
    fun q => leads_iff_reaches (List.cons_ne_nil _ _)
  induction h generalizing path with
  | same p v => rfl
  | here left right => exact (capture_eq_nil left hv path).trans (capture_eq_nil right hw path).symm
  | @key before after key p v w hfirst h ih =>
    have hleft : (Value.map (before ++ (key, v) :: after)).part? (.key key) = some v := get?_first hfirst v
    have hright : (Value.map (before ++ (key, w) :: after)).part? (.key key) = some w := get?_first hfirst w
    rw [captureAt, captureAt, captureEntries_append, captureEntries_append, captureEntries, captureEntries]
    cases hdeep : segment.isDeep rest.isEmpty with
    | true =>
      obtain ⟨-, hne⟩ := isDeep_iff.mp hdeep
      -- the rest of the pattern starts at this map, or the same stars go on below the key
      have hhere : ∀ u, Avoids (segment :: rest) (.key key :: p) u → Avoids rest (.key key :: p) u :=
        fun u hu q hq hat hq' => hu q hq hat ((hleads q).mpr (reaches_none hdeep ((leads_iff_reaches hne).mp hq')))
      have hbelow : ∀ q, Leads (segment :: rest) q → Leads (segment :: rest) (.key key :: q) :=
        fun q hq => (hleads _).mpr ((reaches_deep hdeep).mpr (.inr ((hleads q).mp hq)))
      rw [hrest _ _ _ (.key hfirst h) (hhere _ hv) (hhere _ hw) path,
        if_pos rfl, if_pos rfl, if_pos rfl, ih (hv.below hleft hbelow) (hw.below hright hbelow)]
    | false =>
      rw [if_neg Bool.false_ne_true, if_neg Bool.false_ne_true]
      split
      · next haccepts =>
        have hbelow : ∀ q, Leads rest q → Leads (segment :: rest) (.key key :: q) :=
          fun q hq => (hleads _).mpr ((reaches_step hdeep).mpr ⟨haccepts, hq⟩)
        rw [if_neg Bool.false_ne_true, if_neg Bool.false_ne_true,
          hrest p v w h (hv.below hleft hbelow) (hw.below hright hbelow)]
      · rfl
  | @index before after p v w h ih =>
    have hbelow : ∀ q, Leads (segment :: rest) q → Leads (segment :: rest) (.index before.length :: q) :=
      fun q hq => (hleads _).mpr ((reaches_index _).mpr ((hleads q).mp hq))
    have hpart : ∀ u : Value, (Value.list (before ++ u :: after)).part? (.index before.length) = some u :=
      fun u => by simp [Value.part?, Value.items?]
    rw [captureAt, captureAt, captureItems_append, captureItems_append, captureItems, captureItems,
      ih (hv.below (hpart v) hbelow) (hw.below (hpart w) hbelow)]

/-- Nothing is captured from a position that is avoided, so values that agree off it have the same captures. -/
theorem capture_agree (segments : List Segment) (h : AgreeOff p v w) (hv : Avoids segments p v)
    (hw : Avoids segments p w) (path : List Step) : capture segments path v = capture segments path w := by
  induction segments generalizing p v w path with
  | nil => exact absurd (leads_nil.mpr rfl) (hv [] (comparable_nil_left p) rfl)
  | cons segment rest ih => exact captureAt_agree (fun _ _ _ => ih) h hv hw path

/-! ## 4. The filter -/

variable {filter : Filter} {authenticated : Bool}

theorem avoids_of_not_allowed {data : Value} {pattern : Pattern} (hmem : pattern ∈ filter.alwaysAllow)
    (hpattern : pattern.segments ≠ []) (h : ∀ q, Comparable q p → ¬ Allowed filter data q) :
    Avoids pattern.segments p data := by
  intro q hq hat hleads
  exact h q hq ⟨hat, pattern, hmem, (leads_iff_reaches hpattern).mp hleads⟩

/-- What is denied at a position, with nothing allowed above, at or below it, has no influence on what is seen. -/
theorem apply_eq_of_denied (hfilter : filter.Proper) (h : AgreeOff p v w)
    (hdenied : ∃ pattern ∈ filter.rules authenticated, Denies pattern.segments p)
    (hv : ∀ q, Comparable q p → ¬ Allowed filter v q) (hw : ∀ q, Comparable q p → ¬ Allowed filter w q) :
    filter.apply authenticated v = filter.apply authenticated w := by
  have hrules : filter.rules authenticated ≠ [] := by
    obtain ⟨pattern, hmem, -⟩ := hdenied
    exact List.ne_nil_of_mem hmem
  have hcaptures : (filter.alwaysAllow.flatMap fun pattern => capture pattern.segments [] v) =
      filter.alwaysAllow.flatMap fun pattern => capture pattern.segments [] w := by
    rw [List.flatMap_def, List.flatMap_def]
    refine congrArg List.flatten (List.map_congr_left fun pattern hmem => ?_)
    have hpattern := hfilter.alwaysAllow pattern hmem
    exact capture_agree pattern.segments h (avoids_of_not_allowed hmem hpattern hv)
      (avoids_of_not_allowed hmem hpattern hw) []
  rw [apply_of_rules hrules, apply_of_rules hrules, hcaptures, removeAll_eq h hdenied]

end Filter

end Stencil
