import Stencil.Proofs.Filter.Matching
import Stencil.Proofs.Filter.Position

/-!
What is captured.

A capture of a pattern is a position that the pattern reaches, with the part of the data that stands there, and all
such positions are captured. In the middle of a walk the statement is about what remains: of the pattern, and of
the position below the path that led here.
-/

namespace Stencil.Filter

/-- A capture stands below a path, in reverse, at a position with some property, and holds what stands there. -/
def Captured (property : List Step → Prop) (path : List Step) (v : Value) (c : Capture) : Prop :=
  ∃ p, c.path = path.reverse ++ p ∧ v.at? p = some c.value ∧ property p

theorem Captured.step {property : List Step → Prop} {path : List Step} {v w : Value} {c : Capture} {step : Step}
    (h : Captured (fun p => property (step :: p)) (step :: path) w c) (hw : v.part? step = some w) :
    Captured property path v c := by
  obtain ⟨p, hpath, hat, hproperty⟩ := h
  refine ⟨step :: p, ?_, ?_, hproperty⟩
  · rw [hpath, List.reverse_cons, List.append_assoc]
    rfl
  · rw [Value.at?, hw]
    exact hat

theorem Captured.imp {property other : List Step → Prop} {path : List Step} {v : Value} {c : Capture}
    (h : Captured property path v c) (himp : ∀ p, property p → other p) : Captured other path v c := by
  obtain ⟨p, hpath, hat, hproperty⟩ := h
  exact ⟨p, hpath, hat, himp p hproperty⟩

section Segment

variable {segment : Segment} {rest : List Segment}

/-! ## 1. One segment -/

/- What a segment reaches is looked for in all of the value, so this goes along the value. -/
mutual

theorem of_mem_captureAt
    (hrest : ∀ path v, v.Distinct → ∀ c ∈ capture rest path v, Captured (Leads rest) path v c) :
    ∀ (v : Value) (path : List Step), v.Distinct →
      ∀ c ∈ captureAt segment rest.isEmpty (capture rest) path v, Captured (Reaches (segment :: rest)) path v c
  | .list items, path, hv, c, hc => by
    obtain ⟨j, item, hitem, hcaptured⟩ := of_mem_captureItems hrest items path 0 hv.of_mem_items c hc
    rw [Nat.zero_add] at hcaptured
    exact Captured.step (hcaptured.imp fun p => (reaches_index j).mpr) hitem
  | .map entries, path, hv, c, hc => by
    rw [captureAt] at hc
    rcases List.mem_append.mp hc with hhere | hbelow
    · split at hhere
      · next hdeep =>
        exact (hrest path _ hv c hhere).imp fun p hp =>
          reaches_none hdeep ((leads_iff_reaches (isDeep_iff.mp hdeep).2).mp hp)
      · cases hhere
    · obtain ⟨key, child, hmem, hcaptured⟩ :=
        of_mem_captureEntries hrest entries path hv.of_mem_entries c hbelow
      -- this is where keys have to be distinct: an entry is what stands at its key
      exact hcaptured.step (Fields.get?_of_mem hv.keys hmem)
  | .null, _, _, c, hc | .bool _, _, _, c, hc | .number _, _, _, c, hc | .minusNan, _, _, c, hc
  | .string _, _, _, c, hc => by cases hc

theorem of_mem_captureItems
    (hrest : ∀ path v, v.Distinct → ∀ c ∈ capture rest path v, Captured (Leads rest) path v c) :
    ∀ (items : List Value) (path : List Step) (i : Nat), (∀ item ∈ items, item.Distinct) →
      ∀ c ∈ captureItems segment rest.isEmpty (capture rest) path i items,
        ∃ (j : Nat) (item : Value), items[j]? = some item ∧
          Captured (Reaches (segment :: rest)) (.index (i + j) :: path) item c
  | [], _, _, _, c, hc => by cases hc
  | v :: items, path, i, hitems, c, hc => by
    rw [captureItems] at hc
    rcases List.mem_append.mp hc with hfirst | hothers
    · exact ⟨0, v, rfl, of_mem_captureAt hrest v _ (hitems v List.mem_cons_self) c hfirst⟩
    · obtain ⟨j, item, hitem, hcaptured⟩ :=
        of_mem_captureItems hrest items path (i + 1) (fun v hv => hitems v (List.mem_cons_of_mem _ hv)) c hothers
      refine ⟨j + 1, item, hitem, ?_⟩
      rwa [← Nat.add_assoc, Nat.add_right_comm]

theorem of_mem_captureEntries
    (hrest : ∀ path v, v.Distinct → ∀ c ∈ capture rest path v, Captured (Leads rest) path v c) :
    ∀ (entries : List (String × Value)) (path : List Step), (∀ f ∈ entries, f.2.Distinct) →
      ∀ c ∈ captureEntries segment rest.isEmpty (capture rest) path entries,
        ∃ key child, (key, child) ∈ entries ∧
          Captured (fun p => Reaches (segment :: rest) (.key key :: p)) (.key key :: path) child c
  | [], _, _, c, hc => by cases hc
  | (key, v) :: entries, path, hentries, c, hc => by
    rw [captureEntries] at hc
    rcases List.mem_append.mp hc with hfirst | hothers
    · refine ⟨key, v, List.mem_cons_self, ?_⟩
      have hv := hentries (key, v) List.mem_cons_self
      split at hfirst
      · next haccepts =>
        split at hfirst
        · next hdeep =>
          exact (of_mem_captureAt hrest v _ hv c hfirst).imp fun p hp => (reaches_deep hdeep).mpr (.inr hp)
        · next hdeep =>
          exact (hrest _ v hv c hfirst).imp fun p hp =>
            (reaches_step (Bool.eq_false_iff.mpr hdeep)).mpr ⟨haccepts, hp⟩
      · cases hfirst
    · obtain ⟨other, child, hmem, hcaptured⟩ := of_mem_captureEntries hrest entries path
        (fun f hf => hentries f (List.mem_cons_of_mem _ hf)) c hothers
      exact ⟨other, child, List.mem_cons_of_mem _ hmem, hcaptured⟩

end

theorem mem_captureItems {next : List Step → Value → List Capture} {last : Bool} {c : Capture} {item : Value}
    (items : List Value) (path : List Step) (i j : Nat) (hitem : items[j]? = some item)
    (hc : c ∈ captureAt segment last next (.index (i + j) :: path) item) :
    c ∈ captureItems segment last next path i items := by
  induction items generalizing i j with
  | nil => cases hitem
  | cons v items ih =>
    rw [captureItems]
    cases j with
    | zero =>
      cases hitem
      exact List.mem_append_left _ hc
    | succ j =>
      rw [← Nat.add_assoc, Nat.add_right_comm] at hc
      exact List.mem_append_right _ (ih (i + 1) j hitem hc)

theorem mem_captureEntries {next : List Step → Value → List Capture} {last : Bool} {c : Capture} {child : Value}
    {key : String} (entries : Fields Value) (path : List Step) (hchild : (key, child) ∈ entries)
    (haccepts : segment.accepts key)
    (hc : c ∈ if segment.isDeep last then captureAt segment last next (.key key :: path) child
      else next (.key key :: path) child) :
    c ∈ captureEntries segment last next path entries := by
  induction entries with
  | nil => cases hchild
  | cons f entries ih =>
    obtain ⟨other, v⟩ := f
    rw [captureEntries]
    rcases List.mem_cons.mp hchild with hfirst | hothers
    · cases hfirst
      -- the key is accepted, so the walk takes the branch that `hc` is about
      rw [if_pos haccepts]
      exact List.mem_append_left _ hc
    · exact List.mem_append_right _ (ih hothers)

theorem mem_captureAt
    (hrest : ∀ path v p w, Leads rest p → v.at? p = some w → ⟨path.reverse ++ p, w⟩ ∈ capture rest path v)
    {p : List Step} {path : List Step} {v w : Value} (hp : Reaches (segment :: rest) p) (hw : v.at? p = some w) :
    ⟨path.reverse ++ p, w⟩ ∈ captureAt segment rest.isEmpty (capture rest) path v := by
  induction p generalizing path v with
  | nil => exact absurd hp not_reaches_nil
  | cons step p ih =>
    have hpath : path.reverse ++ step :: p = (step :: path).reverse ++ p := by
      rw [List.reverse_cons, List.append_assoc]
      rfl
    cases step with
    | index i =>
      obtain ⟨items, item, rfl, hitem, hw⟩ := Value.eq_list_of_at?_index hw
      refine mem_captureItems items path 0 i hitem ?_
      rw [Nat.zero_add, hpath]
      exact ih ((reaches_index i).mp hp) hw
    | key key =>
      obtain ⟨entries, child, rfl, hchild, hw'⟩ := Value.eq_map_of_at?_key hw
      have hmem := Fields.mem_of_get? hchild
      rw [captureAt]
      cases hdeep : segment.isDeep rest.isEmpty with
      | true =>
        obtain ⟨hstars, hne⟩ := isDeep_iff.mp hdeep
        rcases (reaches_deep hdeep).mp hp with hhere | hbelow
        · -- the two stars stand for nothing, and the rest of the pattern starts at this map
          exact List.mem_append_left _ (hrest path _ _ w ((leads_iff_reaches hne).mpr hhere) hw)
        · refine List.mem_append_right _ (mem_captureEntries entries path hmem (by rw [hstars]; rfl) ?_)
          rw [if_pos hdeep, hpath]
          exact ih hbelow hw'
      | false =>
        -- the key is used up, and the rest of the pattern goes on below it
        obtain ⟨haccepts, hleads⟩ := (reaches_step hdeep).mp hp
        refine List.mem_append_right _ (mem_captureEntries entries path hmem haccepts ?_)
        rw [hdeep, hpath]
        exact hrest _ child p w hleads hw'

end Segment

/-! ## 2. A pattern -/

/-- Capturing finds the positions that the pattern leads to. -/
theorem captured_of_mem (segments : List Segment) (path : List Step) (v : Value) (hv : v.Distinct) :
    ∀ c ∈ capture segments path v, Captured (Leads segments) path v c := by
  induction segments generalizing path v with
  | nil =>
    intro c hc
    rw [capture, List.mem_singleton] at hc
    rw [hc]
    exact ⟨[], (List.append_nil _).symm, rfl, leads_nil.mpr rfl⟩
  | cons segment rest ih =>
    intro c hc
    exact (of_mem_captureAt ih v path hv c hc).imp fun p hp => .inl hp

/-- Capturing finds all of them. -/
theorem mem_capture (segments : List Segment) (path : List Step) (v : Value) (p : List Step) (w : Value)
    (hp : Leads segments p) (hw : v.at? p = some w) : ⟨path.reverse ++ p, w⟩ ∈ capture segments path v := by
  induction segments generalizing path v p w with
  | nil =>
    rw [leads_nil.mp hp] at hw ⊢
    cases hw
    rw [List.append_nil]
    exact List.mem_singleton_self _
  | cons segment rest ih =>
    exact mem_captureAt ih ((leads_iff_reaches (List.cons_ne_nil _ _)).mp hp) hw

end Stencil.Filter
