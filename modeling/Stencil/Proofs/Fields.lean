import Mathlib.Data.List.Induction
import Mathlib.Data.List.Infix
import Stencil.Fields

/-!
Fields that are put together.

Inserting keeps every name where it is, so the names that there were come first. Where no name comes twice, inserting
fields one by one is putting them one behind the other; where names come twice, what was inserted last is what there
is, in the place of the first.
-/

namespace Stencil.Fields

variable {κ α : Type} [DecidableEq κ] {fields more : Fields α κ} {key : κ} {a : α}

/-! ## 1. Inserting -/

/-- Inserting moves no name, and takes none away. -/
theorem keys_prefix_insert (fields : Fields α κ) (key : κ) (a : α) : keys fields <+: keys (fields.insert key a) := by
  induction fields with
  | nil => exact List.nil_prefix
  | cons f fields ih =>
    obtain ⟨k, b⟩ := f
    rw [insert]
    by_cases hk : k = key
    · rw [if_pos hk, ← hk]
      exact List.prefix_refl _
    · rw [if_neg hk]
      exact (List.prefix_cons_inj k).mpr ih

/-- Inserting what is there already changes nothing. -/
theorem insert_eq_self (h : fields.get? key = some a) : fields.insert key a = fields := by
  induction fields with
  | nil => cases h
  | cons f fields ih =>
    obtain ⟨k, b⟩ := f
    rw [get?] at h
    rw [insert]
    by_cases hk : k = key
    · rw [if_pos hk] at h ⊢
      cases h
      rw [hk]
    · rw [if_neg hk] at h ⊢
      rw [ih h]

/-- Of two contents put under a name the second one counts. -/
theorem insert_insert (fields : Fields α κ) (key : κ) (a b : α) :
    (fields.insert key a).insert key b = fields.insert key b := by
  induction fields with
  | nil => simp [insert]
  | cons f fields ih =>
    obtain ⟨k, c⟩ := f
    by_cases hk : k = key
    · simp [insert, hk]
    · simp [insert, hk, ih]

/-- A new name is put at the end. -/
theorem insert_of_not_mem (h : key ∉ keys fields) (a : α) : fields.insert key a = fields ++ [(key, a)] := by
  induction fields with
  | nil => rfl
  | cons f fields ih =>
    obtain ⟨k, b⟩ := f
    obtain ⟨hk, hfields⟩ : key ≠ k ∧ key ∉ keys fields := List.ne_and_not_mem_of_not_mem_cons h
    rw [insert, if_neg hk.symm, ih hfields]
    rfl

/-- A name that is there stays where it is. -/
theorem keys_insert_of_mem (h : key ∈ keys fields) (a : α) : keys (fields.insert key a) = keys fields := by
  induction fields with
  | nil => cases h
  | cons f fields ih =>
    obtain ⟨k, b⟩ := f
    rw [insert]
    by_cases hk : k = key
    · rw [if_pos hk, ← hk]
      rfl
    · have hmem : key ∈ keys fields := (List.mem_cons.mp h).resolve_left (Ne.symm hk)
      rw [if_neg hk]
      exact congrArg (k :: ·) (ih hmem)

theorem get?_eq_none (h : key ∉ keys fields) : fields.get? key = none := by
  cases hget : fields.get? key with
  | none => rfl
  | some a => exact absurd (List.mem_map.mpr ⟨(key, a), mem_of_get? hget, rfl⟩) h

theorem isSome_get?_iff : (fields.get? key).isSome = true ↔ key ∈ keys fields := by
  constructor
  · intro h
    obtain ⟨a, hget⟩ := Option.isSome_iff_exists.mp h
    exact List.mem_map.mpr ⟨(key, a), mem_of_get? hget, rfl⟩
  · intro h
    by_contra hnone
    induction fields with
    | nil => cases h
    | cons f fields ih =>
      obtain ⟨k, b⟩ := f
      rw [get?] at hnone
      split at hnone
      · exact hnone rfl
      · next hk => exact ih ((List.mem_cons.mp h).resolve_left (Ne.symm hk)) hnone

/-- Inserting adds one name. -/
theorem mem_keys_insert {other : κ} : other ∈ keys (fields.insert key a) ↔ key = other ∨ other ∈ keys fields := by
  rw [← isSome_get?_iff, ← isSome_get?_iff, get?_insert]
  by_cases hkey : key = other <;> simp [hkey]

/-- Erasing takes one name away. -/
theorem mem_keys_erase {other : κ} : other ∈ keys (fields.erase key) ↔ key ≠ other ∧ other ∈ keys fields := by
  rw [← isSome_get?_iff, ← isSome_get?_iff, get?_erase]
  by_cases hkey : key = other <;> simp [hkey]

theorem get?_filter (p : κ → Bool) (fields : Fields α κ) (key : κ) :
    get? key (fields.filter fun (k, _) => p k) = if p key then get? key fields else none := by
  induction fields with
  | nil => simp [get?]
  | cons f fields ih =>
    obtain ⟨k, b⟩ := f
    by_cases hk : k = key
    · subst hk
      by_cases hp : p k = true
      · simp [get?, hp]
      · simp [ih, hp]
    · by_cases hp : p k = true
      · simp [get?, hp, hk, ih]
      · simp [get?, hp, hk, ih]

omit [DecidableEq κ] in
theorem nodup_keys_filter (h : fields.keys.Nodup) (p : κ × α → Bool) : (keys (fields.filter p)).Nodup :=
  h.sublist (List.filter_sublist.map _)

/-- Fields are their names, each with what stands under it. -/
theorem filterMap_keys (h : fields.keys.Nodup) :
    ((keys fields).filterMap fun key => (get? key fields).map fun a => (key, a)) = fields := by
  have hself : ∀ f ∈ fields, ((get? f.1 fields).map fun a => (f.1, a)) = some f := by
    intro f hf
    rw [get?_of_mem h hf, Option.map_some]
  rw [keys, List.filterMap_map]
  exact (List.filterMap_congr hself).trans List.filterMap_some

/-! ## 2. Inserting all -/

theorem insertAll_of_nodup (h : (keys (fields ++ more)).Nodup) : fields.insertAll more = fields ++ more := by
  induction more generalizing fields with
  | nil => exact (List.append_nil _).symm
  | cons f more ih =>
    obtain ⟨k, a⟩ := f
    have hkeys : keys (fields ++ (k, a) :: more) = keys fields ++ k :: keys more := List.map_append
    have hk : k ∉ keys fields := by
      rw [hkeys] at h
      exact fun hmem => (List.nodup_append.mp h).2.2 k hmem k List.mem_cons_self rfl
    have hstep : fields.insertAll ((k, a) :: more) = (fields.insert k a).insertAll more := rfl
    rw [hstep, insert_of_not_mem hk, ih (by rwa [List.append_assoc]), List.append_assoc]
    rfl

/-- Without repeated names all fields stay as they are. -/
theorem ofList_of_nodup {pairs : Fields α κ} (h : (keys pairs).Nodup) : ofList pairs = pairs :=
  insertAll_of_nodup (show (keys ([] ++ pairs)).Nodup from h)

theorem nodup_keys_insertAll (h : fields.keys.Nodup) (more : Fields α κ) : (fields.insertAll more).keys.Nodup := by
  induction more generalizing fields with
  | nil => exact h
  | cons f more ih => exact ih (nodup_keys_insert h f.1 f.2)

/-- Of the content under a repeated name the last one counts, so no name is repeated any more. -/
theorem nodup_keys_ofList (pairs : Fields α κ) : (keys (ofList pairs)).Nodup := by
  have hnil : (keys ([] : Fields α κ)).Nodup := List.nodup_nil
  exact nodup_keys_insertAll hnil pairs

theorem get?_ofList_append {pairs : Fields α κ} (h : (keys pairs).Nodup) (hmore : (keys more).Nodup) (key : κ) :
    get? key (ofList (pairs ++ more)) = (get? key more).or (get? key pairs) := by
  have hlist : ofList (pairs ++ more) = (ofList pairs).insertAll more := List.foldl_append
  rw [hlist, get?_insertAll _ _ _ hmore, ofList_of_nodup h]

/-! ## 3. Repeated names -/

theorem findRev?_map {β γ : Type} (f : β → γ) (p : γ → Bool) (items : List β) :
    (items.map f).findRev? p = (items.findRev? (p ∘ f)).map f := by
  rw [List.findRev?_eq_find?_reverse, List.findRev?_eq_find?_reverse, ← List.map_reverse, List.find?_map]

/-- Under a repeated name there is what came last. -/
theorem get?_insertAll_last (fields : Fields α κ) (more : List (κ × α)) (key : κ) :
    get? key (fields.insertAll more) = ((more.findRev? (·.1 = key)).map (·.2)).or (get? key fields) := by
  induction more generalizing fields with
  | nil => rfl
  | cons f more ih =>
    have hstep : fields.insertAll (f :: more) = (fields.insert f.1 f.2).insertAll more := rfl
    rw [hstep, ih, get?_insert, List.findRev?]
    cases more.findRev? (·.1 = key) with
    | some g => rfl
    | none =>
      by_cases hkey : f.1 = key
      · simp [hkey]
      · simp [hkey]

theorem get?_ofList (pairs : List (κ × α)) (key : κ) :
    get? key (ofList pairs) = (pairs.findRev? (·.1 = key)).map (·.2) := by
  rw [ofList, get?_insertAll_last, get?, Option.or_none]

/-- A repeated name stands where it came first. -/
theorem keys_ofList [BEq κ] [LawfulBEq κ] (pairs : List (κ × α)) :
    keys (ofList pairs) = (keys pairs).eraseDups := by
  induction pairs using List.reverseRecOn with
  | nil => rfl
  | append_singleton pairs f ih =>
    have hlist : ofList (pairs ++ [f]) = (ofList pairs).insert f.1 f.2 := List.foldl_append
    have hkeys : keys (pairs ++ [f]) = keys pairs ++ [f.1] := List.map_append
    rw [hlist, hkeys, List.eraseDups_append, ← ih]
    by_cases hmem : f.1 ∈ keys pairs
    · have hold : f.1 ∈ keys (ofList pairs) := by rwa [ih, List.mem_eraseDups]
      have hnone : [f.1].removeAll (keys pairs) = [] := by simp [List.removeAll, hmem]
      rw [keys_insert_of_mem hold, hnone, List.eraseDups_nil, List.append_nil]
    · have hnew : f.1 ∉ keys (ofList pairs) := by rwa [ih, List.mem_eraseDups]
      have hlast : [f.1].removeAll (keys pairs) = [f.1] := by simp [List.removeAll, hmem]
      rw [insert_of_not_mem hnew, hlast]
      exact List.map_append

end Stencil.Fields
