import Stencil.Filter

/-!
What a pattern means.

A pattern is matched against the keys of a position; indices do not count. A walk through a value meets the steps
of the position one by one, so matching is also described by what remains to be matched after a step (`reaches_…`),
and so is whether a pattern denies a position because it reaches some position on the way to it (`denies_…`).
-/

namespace Stencil.Filter

/-! ## 1. Keys of positions -/

/-- The keys of a position. -/
def keysOf (p : List Step) : List String :=
  p.filterMap fun
    | .key key => some key
    | .index _ => none

/-- Whether a position ends in a key. -/
def EndsInKey (p : List Step) : Prop := ∃ before key, p = before ++ [.key key]

theorem keysOf_key (key : String) (p : List Step) : keysOf (.key key :: p) = key :: keysOf p := rfl

theorem not_endsInKey_nil : ¬ EndsInKey [] := by
  rintro ⟨before, key, h⟩
  exact absurd h.symm (List.append_ne_nil_of_right_ne_nil _ (List.cons_ne_nil _ _))

theorem endsInKey_single (key : String) : EndsInKey [.key key] := ⟨[], key, rfl⟩

theorem endsInKey_cons {step : Step} {p : List Step} (hp : p ≠ []) : EndsInKey (step :: p) ↔ EndsInKey p := by
  constructor
  · rintro ⟨before, key, h⟩
    cases before with
    | nil => exact absurd (List.cons.inj h).2 hp
    | cons first before => exact ⟨before, key, (List.cons.inj h).2⟩
  · rintro ⟨before, key, rfl⟩
    exact ⟨step :: before, key, rfl⟩

theorem keysOf_ne_nil {p : List Step} (h : EndsInKey p) : keysOf p ≠ [] := by
  obtain ⟨before, key, rfl⟩ := h
  rw [keysOf, List.filterMap_append]
  exact List.append_ne_nil_of_right_ne_nil _ (List.cons_ne_nil _ _)

/-! ## 2. Matching -/

/-- The segments of a pattern match a sequence of keys. At the end of a pattern every segment stands for one key.
Before it two stars stand for any number of keys, and any other segment for one. -/
inductive Matches : List Segment → List String → Prop
  | last {segment key} (accepts : segment.accepts key) : Matches [segment] [key]
  | one {segment rest key keys} (notDeep : segment ≠ .anyDepth) (accepts : segment.accepts key)
      (others : Matches rest keys) : Matches (segment :: rest) (key :: keys)
  | none {rest keys} (others : Matches rest keys) : Matches (.anyDepth :: rest) keys
  | more {rest key keys} (notLast : rest ≠ []) (others : Matches (.anyDepth :: rest) keys) :
      Matches (.anyDepth :: rest) (key :: keys)

/-- A pattern reaches a position: it matches the keys of it, and the position ends in the last of them. -/
def Reaches (segments : List Segment) (p : List Step) : Prop := EndsInKey p ∧ Matches segments (keysOf p)

/-- A pattern denies a position: it reaches the position, or some position on the way to it. -/
def Denies (segments : List Segment) (p : List Step) : Prop := ∃ q, q <+: p ∧ Reaches segments q

theorem Matches.segments_ne_nil {segments : List Segment} {keys : List String} (h : Matches segments keys) :
    segments ≠ [] := by
  cases h <;> exact List.cons_ne_nil _ _

theorem Matches.keys_ne_nil {segments : List Segment} {keys : List String} (h : Matches segments keys) :
    keys ≠ [] := by
  induction h with
  | last => exact List.cons_ne_nil _ _
  | one => exact List.cons_ne_nil _ _
  | none _ ih => exact ih
  | more => exact List.cons_ne_nil _ _

variable {segment : Segment} {rest segments : List Segment} {p : List Step} {key : String}

theorem isDeep_iff : segment.isDeep rest.isEmpty = true ↔ segment = .anyDepth ∧ rest ≠ [] := by
  cases rest <;> simp [Segment.isDeep]

theorem not_reaches_nil : ¬ Reaches segments [] := fun h => not_endsInKey_nil h.1

theorem reaches_index (i : Nat) : Reaches segments (.index i :: p) ↔ Reaches segments p := by
  cases p with
  | nil =>
    refine iff_of_false ?_ not_reaches_nil
    rintro ⟨⟨before, key, h⟩, -⟩
    -- the only step is an index, so the key would have to come after it
    cases before with
    | nil => cases h
    | cons first before => exact List.append_ne_nil_of_right_ne_nil _ (List.cons_ne_nil _ _) (List.cons.inj h).2.symm
  | cons step p => exact and_congr (endsInKey_cons (List.cons_ne_nil _ _)) Iff.rfl

theorem reaches_last : Reaches [segment] (.key key :: p) ↔ segment.accepts key ∧ p = [] := by
  constructor
  · rintro ⟨hend, hmatches⟩
    have hkeys : keysOf p = [] ∧ segment.accepts key := by
      rw [keysOf_key] at hmatches
      generalize keysOf p = keys at hmatches ⊢
      cases hmatches with
      | last haccepts => exact ⟨rfl, haccepts⟩
      | one _ _ hothers => exact absurd rfl hothers.segments_ne_nil
      | none hothers => exact absurd rfl hothers.segments_ne_nil
      | more hrest => exact absurd rfl hrest
    refine ⟨hkeys.2, ?_⟩
    -- no keys remain, and a position that ends in a key would have one
    by_cases hp : p = []
    · exact hp
    · exact absurd hkeys.1 (keysOf_ne_nil ((endsInKey_cons hp).mp hend))
  · rintro ⟨haccepts, rfl⟩
    exact ⟨endsInKey_single key, .last haccepts⟩

/-- The condition on the end of a position is kept by a step to what remains of it, when keys do remain. -/
theorem reaches_tail (h : Matches segments (keysOf p)) : EndsInKey (.key key :: p) ↔ EndsInKey p := by
  refine endsInKey_cons ?_
  rintro rfl
  exact h.keys_ne_nil rfl

theorem reaches_one (hrest : rest ≠ []) (hdeep : segment ≠ .anyDepth) :
    Reaches (segment :: rest) (.key key :: p) ↔ segment.accepts key ∧ Reaches rest p := by
  constructor
  · rintro ⟨hend, hmatches⟩
    rw [keysOf_key] at hmatches
    generalize hkeys : key :: keysOf p = keys at hmatches
    cases hmatches with
    | last => exact absurd rfl hrest
    | one _ haccepts hothers =>
      obtain ⟨rfl, rfl⟩ := List.cons.inj hkeys
      exact ⟨haccepts, (reaches_tail hothers).mp hend, hothers⟩
    | none => exact absurd rfl hdeep
    | more => exact absurd rfl hdeep
  · rintro ⟨haccepts, hend, hmatches⟩
    exact ⟨(reaches_tail hmatches).mpr hend, .one hdeep haccepts hmatches⟩

theorem reaches_none (hdeep : segment.isDeep rest.isEmpty = true) (h : Reaches rest p) :
    Reaches (segment :: rest) p := by
  obtain ⟨rfl, -⟩ := isDeep_iff.mp hdeep
  exact ⟨h.1, .none h.2⟩

theorem reaches_deep (hdeep : segment.isDeep rest.isEmpty = true) :
    Reaches (segment :: rest) (.key key :: p) ↔ Reaches rest (.key key :: p) ∨ Reaches (segment :: rest) p := by
  obtain ⟨rfl, hrest⟩ := isDeep_iff.mp hdeep
  constructor
  · rintro ⟨hend, hmatches⟩
    rw [keysOf_key] at hmatches
    generalize hkeys : key :: keysOf p = keys at hmatches
    cases hmatches with
    | last => exact absurd rfl hrest
    | one hdeep => exact absurd rfl hdeep
    -- the stars stand for no key, or for this one and maybe more
    | none hothers =>
      rw [← hkeys] at hothers
      exact .inl ⟨hend, hothers⟩
    | more _ hothers =>
      rw [← (List.cons.inj hkeys).2] at hothers
      exact .inr ⟨(reaches_tail hothers).mp hend, hothers⟩
  · rintro (h | ⟨hend, hmatches⟩)
    · exact reaches_none hdeep h
    · exact ⟨(reaches_tail hmatches).mpr hend, .more hrest hmatches⟩

/-- The rest of a pattern leads on to a position; when there is no rest, nothing may remain of the position. -/
def Leads (segments : List Segment) (p : List Step) : Prop := Reaches segments p ∨ segments = [] ∧ p = []

theorem leads_nil : Leads [] p ↔ p = [] := by
  constructor
  · rintro (h | ⟨-, hp⟩)
    · exact absurd rfl h.2.segments_ne_nil
    · exact hp
  · exact fun hp => .inr ⟨rfl, hp⟩

theorem leads_iff_reaches (h : segments ≠ []) : Leads segments p ↔ Reaches segments p :=
  or_iff_left fun hnil => h hnil.1

/-- A segment that stands for one key. -/
theorem reaches_step (hdeep : segment.isDeep rest.isEmpty = false) :
    Reaches (segment :: rest) (.key key :: p) ↔ segment.accepts key ∧ Leads rest p := by
  by_cases hrest : rest = []
  · rw [hrest, leads_nil]
    exact reaches_last
  · rw [leads_iff_reaches hrest]
    refine reaches_one hrest ?_
    rintro rfl
    simp [Segment.isDeep, hrest] at hdeep

/-! ## 3. Denying -/

theorem not_denies_nil : ¬ Denies segments [] := by
  rintro ⟨q, hq, hreaches⟩
  rw [List.prefix_nil.mp hq] at hreaches
  exact not_reaches_nil hreaches

theorem denies_cons (step : Step) : Denies segments (step :: p) ↔ ∃ q, q <+: p ∧ Reaches segments (step :: q) := by
  constructor
  · rintro ⟨q, hq, hreaches⟩
    rcases List.prefix_cons_iff.mp hq with rfl | ⟨q, rfl, hq⟩
    · exact absurd hreaches not_reaches_nil
    · exact ⟨q, (List.cons_prefix_cons.mp hq).2, hreaches⟩
  · rintro ⟨q, hq, hreaches⟩
    exact ⟨step :: q, (List.cons_prefix_cons.mpr ⟨rfl, hq⟩), hreaches⟩

theorem denies_index (i : Nat) : Denies segments (.index i :: p) ↔ Denies segments p := by
  rw [denies_cons]
  exact exists_congr fun q => and_congr_right fun _ => reaches_index i

theorem denies_last : Denies [segment] (.key key :: p) ↔ segment.accepts key := by
  rw [denies_cons]
  constructor
  · rintro ⟨q, -, hreaches⟩
    exact (reaches_last.mp hreaches).1
  · intro haccepts
    exact ⟨[], List.nil_prefix, reaches_last.mpr ⟨haccepts, rfl⟩⟩

theorem denies_one (hrest : rest ≠ []) (hdeep : segment.isDeep rest.isEmpty = false) :
    Denies (segment :: rest) (.key key :: p) ↔ segment.accepts key ∧ Denies rest p := by
  rw [denies_cons]
  constructor
  · rintro ⟨q, hq, hreaches⟩
    obtain ⟨haccepts, hleads⟩ := (reaches_step hdeep).mp hreaches
    exact ⟨haccepts, q, hq, (leads_iff_reaches hrest).mp hleads⟩
  · rintro ⟨haccepts, q, hq, hreaches⟩
    exact ⟨q, hq, (reaches_step hdeep).mpr ⟨haccepts, (leads_iff_reaches hrest).mpr hreaches⟩⟩

theorem denies_deep (hdeep : segment.isDeep rest.isEmpty = true) :
    Denies (segment :: rest) (.key key :: p) ↔ Denies rest (.key key :: p) ∨ Denies (segment :: rest) p := by
  rw [denies_cons, denies_cons]
  constructor
  · rintro ⟨q, hq, hreaches⟩
    rcases (reaches_deep hdeep).mp hreaches with hreaches | hreaches
    · exact .inl ⟨q, hq, hreaches⟩
    · exact .inr ⟨q, hq, hreaches⟩
  · rintro (⟨q, hq, hreaches⟩ | ⟨q, hq, hreaches⟩)
    · exact ⟨q, hq, (reaches_deep hdeep).mpr (.inl hreaches)⟩
    · exact ⟨q, hq, (reaches_deep hdeep).mpr (.inr hreaches)⟩

end Stencil.Filter
