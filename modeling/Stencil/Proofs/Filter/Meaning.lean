import Stencil.Proofs.Filter.Capture
import Stencil.Proofs.Filter.Restriction

/-!
What a caller sees.

The data as a caller sees it is a restriction of the data. Which positions are kept does not depend on the order in
which captures are put back, although a single one may come too early: when it lies in a list that was taken out,
nothing happens. But then that list is at or below another position that is always allowed, and whenever that one
is put back, all of it comes along. What settles the result are thus the captures that have nothing but clear lists
on the way (`exists_direct`); they are put back whenever their turn comes.
-/

namespace Stencil.Filter

/-! ## 1. Kept positions -/

/-- One of the patterns reaches the position. -/
def ReachedBy (patterns : List Pattern) (p : List Step) : Prop := ∃ pattern ∈ patterns, Reaches pattern.segments p

variable (filter : Filter) (authenticated : Bool) (data : Value)

/-- No rule in force reaches the position or a position on the way to it. -/
def Clear (p : List Step) : Prop := ∀ q, q <+: p → ¬ ReachedBy (filter.rules authenticated) q

/-- A position of the data that is always allowed. -/
def Allowed (q : List Step) : Prop := (data.at? q).isSome ∧ ReachedBy filter.alwaysAllow q

/-- Every list that is crossed on the way to the position is clear, or at or below a position that is always
allowed. -/
def Passable (q : List Step) : Prop :=
  ∀ l, Crossed l q → Clear filter authenticated l ∨ ∃ above, Allowed filter data above ∧ above <+: l

/-- The position is clear, or else at, below or on the way to an allowed position that can be passed to. Without a
rule in force all positions are clear. -/
def Kept (p : List Step) : Prop :=
  Clear filter authenticated p ∨
    ∃ q, Allowed filter data q ∧ Passable filter authenticated data q ∧ Comparable q p

variable {filter authenticated data} {v : Value} {p q l : List Step}

theorem clear_iff : Clear filter authenticated p ↔
    ∀ pattern ∈ filter.rules authenticated, ¬ Denies pattern.segments p := by
  constructor
  · rintro h pattern hmem ⟨q, hq, hreaches⟩
    exact h q hq ⟨pattern, hmem, hreaches⟩
  · rintro h q hq ⟨pattern, hmem, hreaches⟩
    exact h pattern hmem ⟨q, hq, hreaches⟩

theorem crossed_trans (hl : Crossed l q) (hq : q <+: p) : Crossed l p := by
  obtain ⟨i, rest, rfl⟩ := hl
  obtain ⟨more, rfl⟩ := hq
  exact ⟨i, rest ++ more, by rw [List.append_assoc, List.cons_append]⟩

/-- A position below a list crosses it. -/
theorem crossed_of_list {w : Value} (hl : Crossed l p) (hp : data.at? p = some w) (hlq : l <+: q)
    (hq : (data.at? q).isSome) (hne : q ≠ l) : Crossed l q := by
  obtain ⟨i, rest, rfl⟩ := hl
  obtain ⟨more, rfl⟩ := hlq
  rw [Value.at?_append] at hp hq
  obtain ⟨u, hu, hp⟩ := Option.bind_eq_some_iff.mp hp
  obtain ⟨items, item, rfl, -, -⟩ := Value.eq_list_of_at?_index hp
  rw [hu] at hq
  cases more with
  | nil => exact absurd (List.append_nil l) hne
  | cons step more =>
    -- what stands at `l` is a list, so the next step is an index
    cases step with
    | index j => exact ⟨j, more, rfl⟩
    | key key => cases hq

/-- A list on the way to a position of the data, when it is kept, can be passed. -/
theorem passes_of_kept {w : Value} (hl : Crossed l p) (hp : data.at? p = some w)
    (h : Kept filter authenticated data l) :
    Clear filter authenticated l ∨ ∃ above, Allowed filter data above ∧ above <+: l := by
  rcases h with hclear | ⟨q, hallowed, hpassable, hql | hlq⟩
  · exact .inl hclear
  · exact .inr ⟨q, hallowed, hql⟩
  · by_cases hne : q = l
    · exact .inr ⟨q, hallowed, hne ▸ List.prefix_rfl⟩
    · exact hpassable l (crossed_of_list hl hp hlq hallowed.1 hne)

/-- An allowed position that can be passed to lies at or below one that has nothing but clear lists on the way. -/
theorem exists_direct (hallowed : Allowed filter data q) (hpassable : Passable filter authenticated data q) :
    ∃ above, Allowed filter data above ∧ (∀ l, Crossed l above → Clear filter authenticated l) ∧ above <+: q := by
  -- every list in the way leads to a shorter position, so this ends
  induction hlength : q.length using Nat.strongRecOn generalizing q with | _ length ih
  by_cases hdirect : ∀ l, Crossed l q → Clear filter authenticated l
  · exact ⟨q, hallowed, hdirect, List.prefix_rfl⟩
  · simp only [Classical.not_forall] at hdirect
    obtain ⟨l, hl, hclear⟩ := hdirect
    obtain ⟨above, habove, hway⟩ := (hpassable l hl).resolve_left hclear
    -- this one is shorter, and whatever it crosses is crossed on the way to `q` as well
    have hshorter : above.length < length := by
      obtain ⟨i, rest, rfl⟩ := hl
      have habove := hway.length_le
      rw [List.length_append, List.length_cons] at hlength
      omega
    have hbelow : above <+: q := by
      obtain ⟨i, rest, rfl⟩ := hl
      exact hway.trans (List.prefix_append l _)
    obtain ⟨top, htop, hclear, hway⟩ :=
      ih above.length hshorter habove (fun l hl => hpassable l (crossed_trans hl hbelow)) rfl
    exact ⟨top, htop, hclear, hway.trans hbelow⟩

/-! ## 2. The whole filter -/

theorem removeAll_restricts (patterns : List Pattern) (hpatterns : ∀ pattern ∈ patterns, pattern.segments ≠ [])
    (v : Value) :
    Restricts v (fun p => ∀ pattern ∈ patterns, ¬ Denies pattern.segments p)
      (patterns.foldl (fun v pattern => remove pattern.segments v) v) := by
  induction patterns generalizing v with
  | nil => exact (restricts_self v).congr fun p _ => by simp
  | cons pattern patterns ih =>
    rw [List.forall_mem_cons] at hpatterns
    refine ((remove_restricts pattern.segments hpatterns.1 v).trans (ih hpatterns.2 _)).congr fun p _ => ?_
    rw [List.forall_mem_cons]

theorem distinct_removeAll (patterns : List Pattern) (hv : v.Distinct) :
    (patterns.foldl (fun v pattern => remove pattern.segments v) v).Distinct := by
  induction patterns generalizing v with
  | nil => exact hv
  | cons pattern patterns ih => exact ih (distinct_remove pattern.segments v hv)

/-- Putting captures back keeps what was kept, keeps nothing that is not to be kept, and puts back those that have
nothing but clear lists on the way. -/
theorem restoreAll_restricts {kept : List Step → Prop} (captures : List Capture)
    (hcaptures : ∀ c ∈ captures, data.at? c.path = some c.value ∧ Allowed filter data c.path)
    (hv : Restricts data kept v) (hclear : ∀ p, Clear filter authenticated p → kept p)
    (hkept : ∀ p, kept p → Kept filter authenticated data p) :
    ∃ after : List Step → Prop, Restricts data after (captures.foldl (fun v c => restore c.value c.path v) v) ∧
      (∀ p, kept p → after p) ∧ (∀ p, after p → Kept filter authenticated data p) ∧
      ∀ c ∈ captures, (∀ l, Crossed l c.path → Clear filter authenticated l) → ∀ p, Comparable c.path p → after p := by
  induction captures generalizing v kept with
  | nil => exact ⟨kept, hv, fun _ h => h, hkept, fun c hc => by cases hc⟩
  | cons c captures ih =>
    rw [List.forall_mem_cons] at hcaptures
    obtain ⟨⟨hat, hallowed⟩, hcaptures⟩ := hcaptures
    -- the invariant: never more than what is to be kept, and never less than what is clear
    have hextended : ∀ p, Extended kept c.path p → Kept filter authenticated data p := by
      rintro p (hp | ⟨hlists, hcomparable⟩)
      · exact hkept p hp
      · exact .inr ⟨c.path, hallowed, fun l hl => passes_of_kept hl hat (hkept l (hlists l hl)), hcomparable⟩
    obtain ⟨after, hafter, hmore, hwithin, hdirect⟩ :=
      ih hcaptures (restore_restricts hv hat) (fun p hp => .inl (hclear p hp)) hextended
    refine ⟨after, hafter, fun p hp => hmore p (.inl hp), hwithin, ?_⟩
    rw [List.forall_mem_cons]
    refine ⟨fun hlists p hcomparable => ?_, hdirect⟩
    exact hmore p (.inr ⟨fun l hl => hclear l (hlists l hl), hcomparable⟩)

theorem distinct_restoreAll (captures : List Capture) (hcaptures : ∀ c ∈ captures, c.value.Distinct)
    (hv : v.Distinct) : (captures.foldl (fun v c => restore c.value c.path v) v).Distinct := by
  induction captures generalizing v with
  | nil => exact hv
  | cons c captures ih =>
    rw [List.forall_mem_cons] at hcaptures
    exact ih hcaptures.2 (distinct_restore hcaptures.1 hv)

/-- All segments of the patterns of a filter are there. -/
structure Proper (filter : Filter) : Prop where
  rules : ∀ authenticated, ∀ pattern ∈ filter.rules authenticated, pattern.segments ≠ []
  alwaysAllow : ∀ pattern ∈ filter.alwaysAllow, pattern.segments ≠ []

theorem segments_ne_nil_of_read? {text : String} {pattern : Pattern} (h : Pattern.read? text = some pattern) :
    pattern.segments ≠ [] := by
  unfold Pattern.read? at h
  simp only at h
  split at h
  · cases h
  · next hpieces =>
    cases h
    simpa using hpieces

theorem proper_ofTexts (withAuth withoutAuth alwaysAllow : List String) :
    Proper (ofTexts withAuth withoutAuth alwaysAllow) := by
  have hread : ∀ texts : List String, ∀ pattern ∈ texts.filterMap Pattern.read?, pattern.segments ≠ [] := by
    intro texts pattern hmem
    obtain ⟨text, -, htext⟩ := List.mem_filterMap.mp hmem
    exact segments_ne_nil_of_read? htext
  refine ⟨fun authenticated => ?_, hread alwaysAllow⟩
  cases authenticated
  · exact hread withoutAuth
  · exact hread withAuth

theorem apply_of_rules {filter : Filter} (h : filter.rules authenticated ≠ []) (data : Value) :
    filter.apply authenticated data =
      (filter.alwaysAllow.flatMap fun pattern => capture pattern.segments [] data).foldl
        (fun v c => restore c.value c.path v)
        ((filter.rules authenticated).foldl (fun v pattern => remove pattern.segments v) data) := by
  rw [apply]
  simp only
  rw [if_neg (by simpa using h)]

theorem mem_captures_iff (hfilter : filter.Proper) (hdata : data.Distinct) {c : Capture} :
    c ∈ (filter.alwaysAllow.flatMap fun pattern => capture pattern.segments [] data) ↔
      data.at? c.path = some c.value ∧ Allowed filter data c.path := by
  constructor
  · intro hc
    obtain ⟨pattern, hmem, hc⟩ := List.mem_flatMap.mp hc
    obtain ⟨p, hp, hat, hleads⟩ := captured_of_mem pattern.segments [] data hdata c hc
    rw [List.reverse_nil, List.nil_append] at hp
    subst hp
    refine ⟨hat, by rw [hat]; rfl, pattern, hmem, ?_⟩
    exact (leads_iff_reaches (hfilter.alwaysAllow pattern hmem)).mp hleads
  · rintro ⟨hat, -, pattern, hmem, hreaches⟩
    exact List.mem_flatMap.mpr ⟨pattern, hmem, mem_capture pattern.segments [] data c.path c.value (.inl hreaches) hat⟩

theorem apply_restricts_of_proper (authenticated : Bool) (hfilter : filter.Proper) (hdata : data.Distinct) :
    Restricts data (Kept filter authenticated data) (filter.apply authenticated data) := by
  by_cases hrules : filter.rules authenticated = []
  · have hclear : ∀ p, Clear filter authenticated p := fun p => clear_iff.mpr (by rw [hrules]; simp)
    have happly : filter.apply authenticated data = data := by
      rw [apply]
      simp [hrules]
    rw [happly]
    exact (restricts_self data).congr fun p _ => iff_of_true trivial (.inl (hclear p))
  · have hremoved : Restricts data (Clear filter authenticated)
        ((filter.rules authenticated).foldl (fun v pattern => remove pattern.segments v) data) :=
      (removeAll_restricts _ (hfilter.rules authenticated) data).congr fun p _ => clear_iff.symm
    obtain ⟨after, hafter, hmore, hwithin, hdirect⟩ := restoreAll_restricts _
      (fun c hc => (mem_captures_iff hfilter hdata).mp hc) hremoved (fun p h => h) fun p h => .inl h
    rw [apply_of_rules hrules]
    refine hafter.congr fun p _ => ⟨hwithin p, ?_⟩
    rintro (hclear | ⟨q, hallowed, hpassable, hcomparable⟩)
    · exact hmore p hclear
    -- the capture of `q` may have come too early, but the one of `above` has not
    · obtain ⟨above, habove, hlists, hway⟩ := exists_direct hallowed hpassable
      obtain ⟨w, hw⟩ := Option.isSome_iff_exists.mp habove.1
      refine hdirect ⟨above, w⟩ ((mem_captures_iff hfilter hdata).mpr ⟨hw, habove⟩) hlists p ?_
      rcases hcomparable with hqp | hpq
      · exact .inl (hway.trans hqp)
      · exact List.prefix_or_prefix_of_prefix hway hpq

theorem distinct_apply (hfilter : filter.Proper) (hdata : data.Distinct) : (filter.apply authenticated data).Distinct := by
  by_cases hrules : filter.rules authenticated = []
  · rw [apply]
    simpa [hrules] using hdata
  · rw [apply_of_rules hrules]
    refine distinct_restoreAll _ (fun c hc => ?_) (distinct_removeAll _ hdata)
    exact hdata.at? ((mem_captures_iff hfilter hdata).mp hc).1

/-! ## 3. The order of things -/

/-- What is kept depends on which patterns there are and on which positions the data has, and on no order. -/
theorem kept_congr {filter' : Filter} {data' : Value}
    (hrules : ∀ pattern, pattern ∈ filter'.rules authenticated ↔ pattern ∈ filter.rules authenticated)
    (hallow : ∀ pattern, pattern ∈ filter'.alwaysAllow ↔ pattern ∈ filter.alwaysAllow)
    (hdata : ∀ p, (data'.at? p).isSome = (data.at? p).isSome) (p : List Step) :
    Kept filter' authenticated data' p ↔ Kept filter authenticated data p := by
  have hclear : ∀ p, Clear filter' authenticated p ↔ Clear filter authenticated p := by
    intro p
    simp only [Clear, ReachedBy, hrules]
  have hallowed : ∀ q, Allowed filter' data' q ↔ Allowed filter data q := by
    intro q
    simp only [Allowed, ReachedBy, hallow, hdata]
  simp only [Kept, Passable, hclear, hallowed]

theorem isSome_at?_of_face? {data' : Value} (h : ∀ p, data'.face? p = data.face? p) (p : List Step) :
    (data'.at? p).isSome = (data.at? p).isSome := by
  have hface := congrArg Option.isSome (h p)
  rwa [Value.face?, Value.face?, Option.isSome_map, Option.isSome_map] at hface

theorem mem_filterMap_of_perm {texts texts' : List String} (h : texts'.Perm texts) (pattern : Pattern) :
    pattern ∈ texts'.filterMap Pattern.read? ↔ pattern ∈ texts.filterMap Pattern.read? :=
  (h.filterMap Pattern.read?).mem_iff

/-- **What a caller sees** is the data restricted to the positions that are kept, with no key twice. Neither the
order of the patterns nor that of the keys has any influence on it. -/
theorem apply_restricts (withAuth withoutAuth alwaysAllow : List String) (authenticated : Bool) (data : Value)
    (hdata : data.Distinct) :
    let filter := ofTexts withAuth withoutAuth alwaysAllow
    (filter.apply authenticated data).Distinct ∧
    Restricts data (Kept filter authenticated data) (filter.apply authenticated data) ∧
    ∀ (withAuth' withoutAuth' alwaysAllow' : List String) (data' : Value), withAuth'.Perm withAuth →
      withoutAuth'.Perm withoutAuth → alwaysAllow'.Perm alwaysAllow → data'.Distinct →
      (∀ p, data'.face? p = data.face? p) → ∀ p,
        ((ofTexts withAuth' withoutAuth' alwaysAllow').apply authenticated data').face? p =
          (filter.apply authenticated data).face? p := by
  intro filter
  have hfilter : filter.Proper := proper_ofTexts _ _ _
  have hrestricts := apply_restricts_of_proper authenticated hfilter hdata
  refine ⟨distinct_apply hfilter hdata, hrestricts, ?_⟩
  intro withAuth' withoutAuth' alwaysAllow' data' hwith hwithout hallow hdata' hface p
  have hrules : ∀ pattern, pattern ∈ (ofTexts withAuth' withoutAuth' alwaysAllow').rules authenticated ↔
      pattern ∈ filter.rules authenticated := by
    cases authenticated
    · exact mem_filterMap_of_perm hwithout
    · exact mem_filterMap_of_perm hwith
  have hrestricts' := apply_restricts_of_proper authenticated (proper_ofTexts withAuth' withoutAuth' alwaysAllow') hdata'
  refine Option.ext fun f => ?_
  rw [hrestricts' p f, hrestricts p f, hface p,
    kept_congr hrules (mem_filterMap_of_perm hallow) (isSome_at?_of_face? hface) p]

/-- A rule takes out everything below a key, and what is always allowed is shown all the same, whichever of the
rules comes first. -/
theorem apply_restricts_below_key :
    let data : Value := .map [("a", .map [("b", .bool true), ("c", .null)]), ("d", .null)]
    let shown : Value := .map [("a", .map [("b", .bool true)])]
    let filter := ofTexts ["a.*", "d"] [] ["a.b"]
    data.Distinct ∧ filter.apply true data = shown ∧ Restricts data (Kept filter true data) shown ∧
    ∀ p, ((ofTexts ["d", "a.*"] [] ["a.b"]).apply true data).face? p = shown.face? p := by
  intro data shown filter
  have happly : filter.apply true data = shown := rfl
  have hbool : (Value.bool true).Distinct := Value.distinct_scalar (by simp) (by simp)
  have hnull : Value.null.Distinct := Value.distinct_scalar (by simp) (by simp)
  have hinner : (Value.map [("b", .bool true), ("c", .null)]).Distinct :=
    Value.distinct_map (by decide) (List.forall_mem_cons.mpr ⟨hbool, List.forall_mem_singleton.mpr hnull⟩)
  have hdata : data.Distinct :=
    Value.distinct_map (by decide) (List.forall_mem_cons.mpr ⟨hinner, List.forall_mem_singleton.mpr hnull⟩)
  obtain ⟨-, hrestricts, horder⟩ := apply_restricts ["a.*", "d"] [] ["a.b"] true data hdata
  have hswap : ["d", "a.*"].Perm ["a.*", "d"] := List.Perm.swap _ _ []
  refine ⟨hdata, happly, happly ▸ hrestricts, fun p => ?_⟩
  exact horder _ _ _ data hswap (.refl _) (.refl _) hdata (fun _ => rfl) p

end Stencil.Filter
