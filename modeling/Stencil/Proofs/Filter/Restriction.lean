import Stencil.Proofs.Filter.Matching
import Stencil.Proofs.Filter.Position

/-!
Taking out and putting back.

Both lead from one restriction of the data to another: the value has exactly the positions of the data for which
some property holds, and shows the same there (`Restricts`). What is taken out are the positions that a pattern
denies. Putting back adds all that is on the way to a position or below it, as long as every list that is crossed
on the way is there; otherwise it does nothing.

How this goes on below a key or an index is the same statement about what remains of the position, so the proofs
are by induction on the position.
-/

namespace Stencil.Filter

/-- The value is the data with nothing but the positions that have the property. -/
def Restricts (data : Value) (kept : List Step → Prop) (v : Value) : Prop :=
  ∀ p f, v.face? p = some f ↔ kept p ∧ data.face? p = some f

theorem Restricts.trans {data v w : Value} {kept more : List Step → Prop} (h : Restricts data kept v)
    (hw : Restricts v more w) : Restricts data (fun p => kept p ∧ more p) w := by
  intro p f
  rw [hw p f, h p f, and_left_comm, and_assoc]

theorem restricts_self (data : Value) : Restricts data (fun _ => True) data := fun _ _ => (and_iff_right trivial).symm

/-! ## 1. Taking out -/

section Remove

variable {segment : Segment} {last : Bool} {next : Value → Value}

theorem removeItems_eq_map (items : List Value) :
    removeItems segment last next items = items.map (removeAt segment last next) := by
  induction items with
  | nil => rfl
  | cons v items ih => rw [removeItems, ih, List.map_cons]

/-- What becomes of the child under a key. -/
theorem get?_removeEntries (entries : Fields Value) (key : String) :
    Fields.get? key (removeEntries segment last next entries) =
      (Fields.get? key entries).bind fun v =>
        if !segment.accepts key then some v
        else if last then none
        else if segment.isDeep last then some (removeAt segment last next v)
        else some (next v) := by
  induction entries with
  | nil => rfl
  | cons f entries ih =>
    obtain ⟨other, v⟩ := f
    by_cases hkey : other = key
    · subst hkey
      rw [removeEntries, Fields.get?, if_pos rfl]
      split
      · rw [Fields.get?, if_pos rfl]
        simp_all
      · split
        · rw [ih]
          cases Fields.get? other entries <;> simp_all
        · split <;> simp_all [Fields.get?]
    · rw [Fields.get?, if_neg hkey, ← ih, removeEntries]
      split
      · rw [Fields.get?, if_neg hkey]
      · split
        · rfl
        · split <;> rw [Fields.get?, if_neg hkey]

theorem keys_removeEntries (entries : Fields Value) :
    (Fields.keys (removeEntries segment last next entries)).Sublist (Fields.keys entries) := by
  induction entries with
  | nil => exact List.Sublist.refl _
  | cons f entries ih =>
    obtain ⟨key, v⟩ := f
    rw [removeEntries]
    split
    · exact ih.cons_cons key
    · split
      · exact ih.cons key
      · split <;> exact ih.cons_cons key

variable {rest : List Segment}

theorem face_removeAt (hrest : rest ≠ [] → ∀ v, (remove rest v).face = v.face) (v : Value) :
    (removeAt segment rest.isEmpty (remove rest) v).face = v.face := by
  cases v with
  | list items =>
    rw [removeAt, removeItems_eq_map, Value.face, Value.face, List.map_map]
    rfl
  | map entries =>
    rw [removeAt]
    split
    · next hdeep => exact hrest (isDeep_iff.mp hdeep).2 _
    · rfl
  | _ => rfl

/-- Below a key, what one segment and the rest of its pattern take out is what remains of the pattern to deny. -/
theorem removeAt_key (hrest : rest ≠ [] → ∀ v, Restricts v (¬ Denies rest ·) (remove rest v)) {p : List Step}
    {f : Value} (ih : ∀ v : Value, (removeAt segment rest.isEmpty (remove rest) v).face? p = some f ↔
      ¬ Denies (segment :: rest) p ∧ v.face? p = some f) (key : String) (entries : Fields Value) :
    (removeAt segment rest.isEmpty (remove rest) (.map entries)).face? (.key key :: p) = some f ↔
      ¬ Denies (segment :: rest) (.key key :: p) ∧ (Value.map entries).face? (.key key :: p) = some f := by
  rw [removeAt]
  cases hdeep : segment.isDeep rest.isEmpty with
  | true =>
    obtain ⟨hstars, hne⟩ := isDeep_iff.mp hdeep
    have hlast : rest.isEmpty = false := List.isEmpty_eq_false_iff.mpr hne
    -- first below the key, and then from this map on once more without the stars
    rw [if_pos rfl, hrest hne, Value.face?_key, Value.face?_key, get?_removeEntries, denies_deep hdeep, not_or,
      and_assoc]
    refine and_congr_right fun _ => ?_
    cases Fields.get? key entries with
    | none => simp
    | some child =>
      rw [Option.bind_some, Option.bind_some, if_neg (by simp [hstars, Segment.accepts]), if_neg (by simp [hlast]),
        if_pos hdeep]
      exact ih child
  | false =>
    rw [if_neg Bool.false_ne_true, Value.face?_key, Value.face?_key, get?_removeEntries]
    cases Fields.get? key entries with
    | none => simp
    | some child =>
      rw [Option.bind_some, Option.bind_some]
      by_cases haccepts : segment.accepts key = true
      · rw [if_neg (by simp [haccepts])]
        by_cases hne : rest = []
        -- the pattern ends here, so the child goes with all that is below it
        · subst hne
          rw [if_pos List.isEmpty_nil]
          exact iff_of_false (by simp) fun h => h.1 (denies_last.mpr haccepts)
        · rw [if_neg (by simpa using hne), if_neg (by simp [hdeep]), denies_one hne hdeep]
          rw [and_iff_right haccepts]
          exact hrest hne child p f
      · rw [if_pos (by simp [haccepts])]
        refine (and_iff_right fun hdenies => haccepts ?_).symm
        by_cases hne : rest = []
        · subst hne
          exact denies_last.mp hdenies
        · exact ((denies_one hne hdeep).mp hdenies).1

theorem removeAt_restricts (hrest : rest ≠ [] → ∀ v, Restricts v (¬ Denies rest ·) (remove rest v)) (v : Value) :
    Restricts v (¬ Denies (segment :: rest) ·) (removeAt segment rest.isEmpty (remove rest) v) := by
  -- nothing is taken out at the root, which is the first case and decides what kind of part there is below
  have hface : ∀ v, (removeAt segment rest.isEmpty (remove rest) v).face = v.face := by
    refine face_removeAt fun hne w => ?_
    exact Option.some.inj (((hrest hne w [] w.face).mpr ⟨not_denies_nil, rfl⟩))
  intro p f
  induction p generalizing v with
  | nil =>
    rw [Value.face?_nil, Value.face?_nil, hface]
    exact (and_iff_right not_denies_nil).symm
  | cons step p ih =>
    cases step with
    | key key =>
      by_cases hmap : ∃ entries, v = .map entries
      · obtain ⟨entries, rfl⟩ := hmap
        exact removeAt_key hrest ih key entries
      · have hother : ∀ entries, v ≠ .map entries := fun entries h => hmap ⟨entries, h⟩
        rw [Value.face?_key_eq_none (hface v) hother, Value.face?_key_eq_none rfl hother]
        simp
    | index i =>
      by_cases hlist : ∃ items, v = .list items
      · obtain ⟨items, rfl⟩ := hlist
        rw [removeAt, removeItems_eq_map, Value.face?_index, Value.face?_index, List.getElem?_map]
        show _ ↔ ¬ Denies (segment :: rest) (.index i :: p) ∧ _
        rw [denies_index]
        cases items[i]? with
        | none => simp
        | some item => exact ih item
      · have hother : ∀ items, v ≠ .list items := fun items h => hlist ⟨items, h⟩
        rw [Value.face?_index_eq_none (hface v) hother, Value.face?_index_eq_none rfl hother]
        simp

/-- **What a pattern takes out** is what it denies. -/
theorem remove_restricts (segments : List Segment) (hsegments : segments ≠ []) (v : Value) :
    Restricts v (¬ Denies segments ·) (remove segments v) := by
  induction segments generalizing v with
  | nil => exact absurd rfl hsegments
  | cons segment rest ih => exact removeAt_restricts ih v

/- What is taken out is taken out of all of the value, so this goes along the value. -/
mutual

theorem distinct_removeAt (hnext : ∀ v, v.Distinct → (next v).Distinct) :
    ∀ v : Value, v.Distinct → (removeAt segment last next v).Distinct
  | .list items, hv => by
    rw [removeAt]
    exact Value.distinct_list (distinct_removeItems hnext items hv.of_mem_items)
  | .map entries, hv => by
    have hentries : (Value.map (removeEntries segment last next entries)).Distinct :=
      Value.distinct_map ((keys_removeEntries entries).nodup hv.keys)
        (distinct_removeEntries hnext entries hv.of_mem_entries)
    rw [removeAt]
    split
    · exact hnext _ hentries
    · exact hentries
  | .null, hv | .bool _, hv | .number _, hv | .minusNan, hv | .string _, hv => hv

theorem distinct_removeItems (hnext : ∀ v, v.Distinct → (next v).Distinct) :
    ∀ items : List Value, (∀ v ∈ items, v.Distinct) → ∀ w ∈ removeItems segment last next items, w.Distinct
  | [], _, w, hw => by cases hw
  | v :: items, hitems, w, hw => by
    rw [removeItems] at hw
    rcases List.mem_cons.mp hw with rfl | hw
    · exact distinct_removeAt hnext v (hitems v List.mem_cons_self)
    · exact distinct_removeItems hnext items (fun v hv => hitems v (List.mem_cons_of_mem _ hv)) w hw

theorem distinct_removeEntries (hnext : ∀ v, v.Distinct → (next v).Distinct) :
    ∀ entries : List (String × Value), (∀ entry ∈ entries, entry.2.Distinct) →
      ∀ entry ∈ removeEntries segment last next entries, entry.2.Distinct
  | [], _, entry, hentry => by cases hentry
  | (key, v) :: entries, hentries, entry, hentry => by
    have hv := hentries (key, v) List.mem_cons_self
    have hothers := distinct_removeEntries hnext entries fun entry h => hentries entry (List.mem_cons_of_mem _ h)
    rw [removeEntries] at hentry
    split at hentry
    · rcases List.mem_cons.mp hentry with rfl | hentry
      · exact hv
      · exact hothers entry hentry
    · split at hentry
      · exact hothers entry hentry
      · split at hentry
        · rcases List.mem_cons.mp hentry with rfl | hentry
          · exact distinct_removeAt hnext v hv
          · exact hothers entry hentry
        · rcases List.mem_cons.mp hentry with rfl | hentry
          · exact hnext v hv
          · exact hothers entry hentry

end

theorem distinct_remove (segments : List Segment) (v : Value) (hv : v.Distinct) : (remove segments v).Distinct := by
  induction segments generalizing v with
  | nil => exact hv
  | cons segment rest ih => exact distinct_removeAt ih v hv

end Remove

/-! ## 2. Putting back -/

/-- A list that is crossed on the way to a position. -/
def Crossed (l q : List Step) : Prop := ∃ i rest, q = l ++ .index i :: rest

/-- One of the positions is on the way to the other one. -/
def Comparable (q p : List Step) : Prop := q <+: p ∨ p <+: q

/-- What is kept once a position is put back: all as before, and, when every list that is crossed on the way is
kept, what is on the way to the position or below it. -/
def Extended (kept : List Step → Prop) (q p : List Step) : Prop :=
  kept p ∨ (∀ l, Crossed l q → kept l) ∧ Comparable q p

theorem not_crossed_nil (l : List Step) : ¬ Crossed l [] := by
  rintro ⟨i, rest, h⟩
  exact List.append_ne_nil_of_right_ne_nil l (List.cons_ne_nil _ _) h.symm

theorem crossed_cons {step : Step} {l q : List Step} (h : Crossed l q) : Crossed (step :: l) (step :: q) := by
  obtain ⟨i, rest, rfl⟩ := h
  exact ⟨i, rest, rfl⟩

theorem crossed_index (i : Nat) (q : List Step) : Crossed [] (.index i :: q) := ⟨i, q, rfl⟩

theorem crossed_key {key : String} {l q : List Step} (h : Crossed l (.key key :: q)) :
    ∃ rest, l = .key key :: rest ∧ Crossed rest q := by
  obtain ⟨i, rest, h⟩ := h
  cases l with
  | nil => cases h
  | cons step l =>
    obtain ⟨hkey, hq⟩ := List.cons.inj h
    exact ⟨l, by rw [hkey], i, rest, hq⟩

theorem throughList_iff (q : List Step) : throughList q = true ↔ ∃ l, Crossed l q := by
  constructor
  · intro h
    obtain ⟨step, hmem, hstep⟩ := List.any_eq_true.mp h
    obtain ⟨l, rest, rfl⟩ := List.append_of_mem hmem
    cases step with
    | index i => exact ⟨l, i, rest, rfl⟩
    | key key => cases hstep
  · rintro ⟨l, i, rest, rfl⟩
    exact List.any_eq_true.mpr ⟨.index i, List.mem_append_right _ List.mem_cons_self, rfl⟩

theorem comparable_nil_left (p : List Step) : Comparable [] p := .inl List.nil_prefix

theorem comparable_nil_right (q : List Step) : Comparable q [] := .inr List.nil_prefix

theorem comparable_cons {step other : Step} {q p : List Step} :
    Comparable (step :: q) (other :: p) ↔ step = other ∧ Comparable q p := by
  rw [Comparable, List.cons_prefix_cons, List.cons_prefix_cons, eq_comm (a := other), ← and_or_left]
  rfl

theorem extended_key {kept : List Step → Prop} {key : String} {q p : List Step} :
    Extended kept (.key key :: q) (.key key :: p) ↔ Extended (fun p => kept (.key key :: p)) q p := by
  refine or_congr Iff.rfl (and_congr ?_ (comparable_cons.trans (and_iff_right rfl)))
  constructor
  · exact fun h l hl => h _ (crossed_cons hl)
  · intro h l hl
    obtain ⟨rest, rfl, hrest⟩ := crossed_key hl
    exact h rest hrest

theorem extended_index {kept : List Step → Prop} {i : Nat} {q p : List Step} (hroot : kept []) :
    Extended kept (.index i :: q) (.index i :: p) ↔ Extended (fun p => kept (.index i :: p)) q p := by
  refine or_congr Iff.rfl (and_congr ?_ (comparable_cons.trans (and_iff_right rfl)))
  constructor
  · exact fun h l hl => h _ (crossed_cons hl)
  · rintro h l ⟨j, rest, hl⟩
    cases l with
    -- the list that the index is in is crossed now, and was not asked for before
    | nil => exact hroot
    | cons step l =>
      obtain ⟨hstep, hq⟩ := List.cons.inj hl
      rw [← hstep]
      exact h l ⟨j, rest, hq⟩

theorem extended_other {kept : List Step → Prop} {step other : Step} {q p : List Step} (hne : step ≠ other) :
    Extended kept (step :: q) (other :: p) ↔ kept (other :: p) :=
  or_iff_left fun h => hne (comparable_cons.mp h.2).1

section Restore

variable {data v w new : Value} {kept other : List Step → Prop} {q : List Step}

theorem Restricts.congr (h : Restricts data kept v) (hiff : ∀ p, (data.face? p).isSome → (kept p ↔ other p)) :
    Restricts data other v := by
  intro p f
  rw [h p f]
  refine and_congr_left fun hface => hiff p ?_
  rw [hface]
  rfl

/-- A restriction shows the same at its root, which is therefore kept. -/
theorem Restricts.root (h : Restricts data kept v) : kept [] ∧ v.face = data.face := by
  obtain ⟨hkept, hface⟩ := (h [] v.face).mp rfl
  exact ⟨hkept, (Option.some.inj hface).symm⟩

theorem Restricts.child {entries own : Fields Value} {key : String} {child ownChild : Value}
    (h : Restricts (.map entries) kept (.map own)) (hchild : Fields.get? key entries = some child)
    (hown : Fields.get? key own = some ownChild) : Restricts child (fun p => kept (.key key :: p)) ownChild := by
  intro p f
  have hbelow := h (.key key :: p) f
  rwa [Value.face?_key, Value.face?_key, hchild, hown] at hbelow

theorem Restricts.item {items own : List Value} {i : Nat} {item ownItem : Value}
    (h : Restricts (.list items) kept (.list own)) (hitem : items[i]? = some item)
    (hown : own[i]? = some ownItem) : Restricts item (fun p => kept (.index i :: p)) ownItem := by
  intro p f
  have hbelow := h (.index i :: p) f
  rwa [Value.face?_index, Value.face?_index, hitem, hown] at hbelow

/-- A child that was put back makes the map around it the restriction with the position put back. -/
theorem restricts_insert {entries own : Fields Value} {key : String} {child : Value}
    (h : Restricts (.map entries) kept (.map own)) (hchild : Fields.get? key entries = some child)
    (hnew : Restricts child (Extended (fun p => kept (.key key :: p)) q) new) :
    Restricts (.map entries) (Extended kept (.key key :: q)) (.map (Fields.insert key new own)) := by
  intro p f
  cases p with
  | nil => exact (and_iff_right (.inl h.root.1)).symm
  | cons step p =>
    cases step with
    | index i =>
      rw [Value.face?_index_eq_none rfl (by simp), Value.face?_index_eq_none rfl (by simp)]
      simp
    | key other =>
      rw [Value.face?_key, Fields.get?_insert]
      by_cases hkey : key = other
      · subst hkey
        rw [if_pos rfl, extended_key, Value.face?_key, hchild]
        exact hnew p f
      · rw [if_neg hkey, extended_other (fun hstep => hkey (Step.key.inj hstep)), ← Value.face?_key]
        exact h (.key other :: p) f

theorem restricts_set {items own : List Value} {i : Nat} {item ownItem : Value}
    (h : Restricts (.list items) kept (.list own)) (hitem : items[i]? = some item) (hown : own[i]? = some ownItem)
    (hnew : Restricts item (Extended (fun p => kept (.index i :: p)) q) new) :
    Restricts (.list items) (Extended kept (.index i :: q)) (.list (own.set i new)) := by
  intro p f
  cases p with
  | nil =>
    have hface : (Value.list (own.set i new)).face = (Value.list own).face := Value.face_list List.length_set
    rw [Value.face?_nil, Value.face?_nil, hface, h.root.2]
    exact (and_iff_right (.inl h.root.1)).symm
  | cons step p =>
    cases step with
    | key key =>
      rw [Value.face?_key_eq_none rfl (by simp), Value.face?_key_eq_none rfl (by simp)]
      simp
    | index j =>
      rw [Value.face?_index]
      by_cases hindex : i = j
      · subst hindex
        have hset : (own.set i new)[i]? = some new := by
          rw [List.getElem?_set_self (List.getElem?_eq_some_iff.mp hown).1]
        rw [hset, extended_index h.root.1, Value.face?_index, hitem]
        exact hnew p f
      · rw [List.getElem?_set_ne hindex, extended_other (fun hstep => hindex (Step.index.inj hstep)),
          ← Value.face?_index]
        exact h (.index j :: p) f

theorem distinct_empty : (Value.map []).Distinct := Value.distinct_map List.nodup_nil fun _ h => by cases h

theorem isSome_face?_of_crossed {l : List Step} (hl : Crossed l q) (hw : data.at? q = some w) :
    (data.face? l).isSome := by
  obtain ⟨i, rest, rfl⟩ := hl
  rw [Value.at?_append] at hw
  obtain ⟨u, hu, -⟩ := Option.bind_eq_some_iff.mp hw
  rw [Value.face?_of_at? hu]
  rfl

/-- Where there was nothing, and no list is crossed, what is on the way to the position or below it is made. -/
theorem restricts_new (ih : ∀ {data v : Value} {kept : List Step → Prop}, Restricts data kept v →
      data.at? q = some w → Restricts data (Extended kept q) (restore w q v))
    (hnone : ∀ l, ¬ Crossed l q) (hw : data.at? q = some w) :
    Restricts data (Comparable q) (restore w q (.map [])) := by
  cases q with
  | nil =>
    cases hw
    exact (restricts_self data).congr fun p _ => iff_of_true trivial (comparable_nil_left p)
  | cons step q =>
    cases step with
    | index i => exact absurd (crossed_index i q) (hnone [])
    | key key =>
      obtain ⟨entries, child, rfl, hchild, hbelow⟩ := Value.eq_map_of_at?_key hw
      -- an empty map is the data with nothing but its root
      have hempty : Restricts (.map entries) (· = []) (.map []) := by
        intro p f
        cases p with
        | nil => exact (and_iff_right rfl).symm
        | cons step p =>
          refine iff_of_false ?_ (fun h => by cases h.1)
          cases step <;> (intro h; cases h)
      refine (ih hempty hw).congr fun p _ => ⟨?_, fun h => .inr ⟨fun l hl => absurd hl (hnone l), h⟩⟩
      rintro (rfl | ⟨-, h⟩)
      · exact comparable_nil_right _
      · exact h

/-- **Putting back** a part of the data leads to the restriction with its position put back. -/
theorem restore_restricts (h : Restricts data kept v) (hw : data.at? q = some w) :
    Restricts data (Extended kept q) (restore w q v) := by
  induction q generalizing data v kept with
  | nil =>
    cases hw
    intro p f
    exact (and_iff_right (.inr ⟨fun l hl => absurd hl (not_crossed_nil l), comparable_nil_left p⟩)).symm
  | cons step q ih =>
    obtain ⟨hroot, hface⟩ := h.root
    cases step with
    | index i =>
      obtain ⟨items, item, rfl, hitem, hw⟩ := Value.eq_list_of_at?_index hw
      obtain ⟨own, rfl, hlength⟩ := Value.eq_list_of_face hface
      obtain ⟨hbound, -⟩ := List.getElem?_eq_some_iff.mp hitem
      have hown : own[i]? = some own[i] := List.getElem?_eq_getElem (hlength.symm ▸ hbound)
      rw [restore]
      simp only [hown]
      exact restricts_set h hitem hown (ih (h.item hitem hown) hw)
    | key key =>
      obtain ⟨entries, child, rfl, hchild, hw⟩ := Value.eq_map_of_at?_key hw
      obtain ⟨own, rfl⟩ := Value.eq_map_of_face hface
      cases hown : Fields.get? key own with
      | some ownChild =>
        -- at the end of the position the part itself takes the place of the child, and so does what becomes of it
        have hrestored : restore w (.key key :: q) (.map own) = .map (Fields.insert key (restore w q ownChild) own) := by
          rw [restore]
          cases q with
          | nil => rfl
          | cons step q => simp [Value.entries, hown]
        rw [hrestored]
        exact restricts_insert h hchild (ih (h.child hchild hown) hw)
      | none =>
        -- nothing below the key is kept so far
        have hmissing : ∀ p, (child.face? p).isSome → ¬ kept (.key key :: p) := by
          intro p hp hkept
          obtain ⟨f, hf⟩ := Option.isSome_iff_exists.mp hp
          have hbelow := (h (.key key :: p) f).mpr ⟨hkept, by rw [Value.face?_key, hchild]; exact hf⟩
          rw [Value.face?_key, hown] at hbelow
          cases hbelow
        cases hlist : throughList q with
        | true =>
          -- a list on the way is missing, so nothing happens, and nothing was to be put back either
          obtain ⟨l, hl⟩ := (throughList_iff q).mp hlist
          have hrestored : restore w (.key key :: q) (.map own) = .map own := by
            rw [restore]
            cases q with
            | nil => cases hlist
            | cons step q => simp [Value.entries, hown, hlist]
          rw [hrestored]
          refine h.congr fun p _ => ⟨.inl, ?_⟩
          rintro (hkept | ⟨hlists, -⟩)
          · exact hkept
          · exact absurd (hlists _ (crossed_cons hl)) (hmissing l (isSome_face?_of_crossed hl hw))
        | false =>
          -- only maps are on the way, and these are made
          have hnone : ∀ l, ¬ Crossed l q := fun l hl => Bool.false_ne_true (hlist ▸ (throughList_iff q).mpr ⟨l, hl⟩)
          have hrestored : restore w (.key key :: q) (.map own) =
              .map (Fields.insert key (restore w q (.map [])) own) := by
            rw [restore]
            cases q with
            | nil => rfl
            | cons step q => simp [Value.entries, hown, hlist]
          rw [hrestored]
          refine restricts_insert h hchild ((restricts_new ih hnone hw).congr fun p hp => ?_)
          constructor
          · exact fun hcomparable => .inr ⟨fun l hl => absurd hl (hnone l), hcomparable⟩
          · rintro (hkept | ⟨-, hcomparable⟩)
            · exact absurd hkept (hmissing p hp)
            · exact hcomparable

theorem distinct_restore (hnew : new.Distinct) (hv : v.Distinct) : (restore new q v).Distinct := by
  induction q generalizing v with
  | nil => exact hnew
  | cons step q ih =>
    cases step with
    | index i =>
      cases v with
      | list items =>
        rw [restore]
        split
        · next item hitem =>
          refine Value.distinct_list fun w hw => ?_
          rcases List.mem_or_eq_of_mem_set hw with hold | rfl
          · exact hv.of_mem_items w hold
          · exact ih (hv.item hitem)
        · exact hv
      | _ => exact hv
    | key key =>
      -- what is no map is replaced by one
      have hentries : (Value.map v.entries).Distinct := by
        cases v with
        | map entries => exact hv
        | _ => exact distinct_empty
      have hinsert : ∀ w : Value, w.Distinct → (Value.map (Fields.insert key w v.entries)).Distinct := by
        refine fun w hw => Value.distinct_map (Fields.nodup_keys_insert hentries.keys key w) fun entry hentry => ?_
        rcases Fields.mem_insert hentry with rfl | hold
        · exact hw
        · exact hentries.of_mem_entries entry hold
      rw [restore]
      split
      · exact hinsert new hnew
      · split
        · next child hchild => exact hinsert _ (ih (hentries.child hchild))
        · split
          · exact hentries
          · exact hinsert _ (ih distinct_empty)

end Restore

end Stencil.Filter
