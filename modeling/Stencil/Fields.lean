/-!
Named fields in the order of their first insertion.

Objects of the data, frames of the scope, named arguments and registries are all lists of name and content in
which a name stands once. What they share is here: looking a name up, and inserting under the rule that a name
already present keeps its place and gets the new content. The order is part of the answer wherever fields are
printed or iterated, so it belongs to the type and is not left to a hash table.
-/

namespace Stencil

/-- Names with contents, in insertion order. Names are strings unless said otherwise. -/
abbrev Fields (α : Type) (κ : Type := String) := List (κ × α)

namespace Fields

variable {κ α : Type} [DecidableEq κ]

/-! ## 1. Operations -/

/-- The content under a name. -/
def get? (key : κ) : Fields α κ → Option α
  | [] => none
  | (k, a) :: fields => if k = key then some a else get? key fields

/-- Whether the name is present. -/
def has (key : κ) (fields : Fields α κ) : Bool := (fields.get? key).isSome

/-- Puts content under a name: in place when the name is present, at the end otherwise. -/
def insert (key : κ) (a : α) : Fields α κ → Fields α κ
  | [] => [(key, a)]
  | (k, b) :: fields => if k = key then (key, a) :: fields else (k, b) :: insert key a fields

/-- Takes a name away; the others keep their order. -/
def erase (key : κ) : Fields α κ → Fields α κ
  | [] => []
  | (k, a) :: fields => if k = key then erase key fields else (k, a) :: erase key fields

/-- The names in order. -/
def keys {κ α : Type} (fields : Fields α κ) : List κ := fields.map (·.1)

/-- All of the second fields inserted into the first, in order. -/
def insertAll (fields : Fields α κ) (more : Fields α κ) : Fields α κ :=
  more.foldl (fun acc (k, a) => acc.insert k a) fields

/-- The fields of a list of pairs: of a repeated name the first place and the last content count. -/
def ofList (pairs : List (κ × α)) : Fields α κ := insertAll [] pairs

/-! ## 2. Looking up after a change -/

theorem get?_insert (fields : Fields α κ) (key other : κ) (a : α) :
    (fields.insert key a).get? other = if key = other then some a else fields.get? other := by
  induction fields with
  | nil => simp [insert, get?]
  | cons f fields ih =>
    obtain ⟨k, b⟩ := f
    by_cases hk : k = key
    · subst hk
      by_cases ho : k = other <;> simp [insert, get?, ho]
    · by_cases ho : k = other
      · subst ho
        simp [insert, get?, hk, Ne.symm hk]
      · simp [insert, get?, hk, ho, ih]

theorem get?_erase (fields : Fields α κ) (key other : κ) :
    (fields.erase key).get? other = if key = other then none else fields.get? other := by
  induction fields with
  | nil => simp [erase, get?]
  | cons f fields ih =>
    obtain ⟨k, b⟩ := f
    by_cases hk : k = key
    · subst hk
      rw [erase, if_pos rfl, ih, get?]
      by_cases ho : k = other <;> simp [ho]
    · rw [erase, if_neg hk, get?, get?, ih]
      by_cases ho : k = other
      · subst ho
        simp [Ne.symm hk]
      · simp [ho]

theorem mem_of_get? {fields : Fields α κ} {key : κ} {a : α} (h : fields.get? key = some a) : (key, a) ∈ fields := by
  induction fields with
  | nil => cases h
  | cons f fields ih =>
    obtain ⟨k, b⟩ := f
    rw [get?] at h
    split at h
    · next hk =>
      cases h
      rw [hk]
      exact List.mem_cons_self
    · exact List.mem_cons_of_mem _ (ih h)

theorem get?_of_mem {fields : Fields α κ} {key : κ} {a : α} (hkeys : fields.keys.Nodup) (h : (key, a) ∈ fields) :
    fields.get? key = some a := by
  induction fields with
  | nil => cases h
  | cons f fields ih =>
    obtain ⟨k, b⟩ := f
    obtain ⟨hk, hkeys⟩ : k ∉ keys fields ∧ (keys fields).Nodup := List.nodup_cons.mp hkeys
    rw [get?]
    rcases List.mem_cons.mp h with hhead | htail
    · cases hhead
      rw [if_pos rfl]
    · have hne : k ≠ key := by
        rintro rfl
        exact hk (List.mem_map.mpr ⟨_, htail, rfl⟩)
      rw [if_neg hne]
      exact ih hkeys htail

theorem mem_insert {fields : Fields α κ} {key : κ} {a : α} {f : κ × α} (h : f ∈ fields.insert key a) :
    f = (key, a) ∨ f ∈ fields := by
  induction fields with
  | nil => exact .inl (List.mem_singleton.mp h)
  | cons g fields ih =>
    obtain ⟨k, b⟩ := g
    rw [insert] at h
    split at h
    · exact (List.mem_cons.mp h).imp_right (List.mem_cons_of_mem _)
    · rcases List.mem_cons.mp h with rfl | h
      · exact .inr List.mem_cons_self
      · exact (ih h).imp_right (List.mem_cons_of_mem _)

/-- Where a name is put depends on the name alone, and is the first place where it stands afterwards. -/
theorem exists_insert_eq (fields : Fields α κ) (key : κ) :
    ∃ before after, key ∉ keys before ∧ ∀ a, fields.insert key a = before ++ (key, a) :: after := by
  induction fields with
  | nil => exact ⟨[], [], List.not_mem_nil, fun a => rfl⟩
  | cons f fields ih =>
    obtain ⟨k, b⟩ := f
    by_cases hk : k = key
    · exact ⟨[], fields, List.not_mem_nil, fun a => by rw [insert, if_pos hk]; rfl⟩
    · obtain ⟨before, after, hfirst, hinsert⟩ := ih
      refine ⟨(k, b) :: before, after, ?_, fun a => ?_⟩
      · exact List.not_mem_cons_of_ne_of_not_mem (Ne.symm hk) hfirst
      · rw [insert, if_neg hk, hinsert]
        rfl

theorem nodup_keys_insert {fields : Fields α κ} (h : fields.keys.Nodup) (key : κ) (a : α) :
    (fields.insert key a).keys.Nodup := by
  induction fields with
  | nil => exact List.nodup_cons.mpr ⟨List.not_mem_nil, List.nodup_nil⟩
  | cons f fields ih =>
    obtain ⟨k, b⟩ := f
    obtain ⟨hk, hfields⟩ : k ∉ keys fields ∧ (keys fields).Nodup := List.nodup_cons.mp h
    rw [insert]
    split
    · next hkey => exact hkey ▸ h
    · next hkey =>
      refine List.nodup_cons.mpr ⟨fun hmem => ?_, ih hfields⟩
      obtain ⟨f, hf, hname⟩ := List.mem_map.mp hmem
      rcases mem_insert hf with rfl | hold
      · exact hkey hname.symm
      · exact hk (List.mem_map.mpr ⟨f, hold, hname⟩)

theorem get?_insertAll (fields more : Fields α κ) (key : κ)
    (h : more.keys.Nodup) :
    (fields.insertAll more).get? key = (more.get? key).or (fields.get? key) := by
  induction more generalizing fields with
  | nil => simp [insertAll, get?]
  | cons f more ih =>
    obtain ⟨k, a⟩ := f
    have hm : (keys more).Nodup := (List.nodup_cons.1 h).2
    have hk : k ∉ keys more := (List.nodup_cons.1 h).1
    have hstep : insertAll fields ((k, a) :: more) = insertAll (fields.insert k a) more := rfl
    rw [hstep, ih _ hm, get?_insert]
    by_cases hkey : k = key
    · subst hkey
      have hnone : get? k more = none := by
        clear ih h hm hstep
        induction more with
        | nil => rfl
        | cons g more ih =>
          obtain ⟨j, b⟩ := g
          simp only [keys, List.map_cons, List.mem_cons, not_or] at hk
          simp [get?, Ne.symm hk.1, ih hk.2]
      simp [get?, hnone]
    · simp [get?, hkey]

end Fields

end Stencil
