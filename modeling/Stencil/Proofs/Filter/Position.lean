import Stencil.Filter

/-!
Positions in a value.

A position is a sequence of keys and indices. What stands at a position is looked at without its parts (`face?`):
a scalar is seen as it is, a list shows its length, and of a map there is no more to see than that it is one. All
faces together are the value up to the order of keys, provided that no key stands twice (`Distinct`), as a second
entry of the same key is not at any position.
-/

namespace Stencil

open Stencil.Filter (Step)

namespace Value

/-! ## 1. Looking at a position -/

/-- The part of a value one step below it. -/
def part? : Step → Value → Option Value
  | .key key, v => Fields.get? key v.entries
  | .index i, v => v.items?.bind (·[i]?)

/-- The part of a value at a position. -/
def at? : List Step → Value → Option Value
  | [], v => some v
  | step :: p, v => (v.part? step).bind (at? p)

/-- A value without its parts. -/
def face : Value → Value
  | .list items => .list (items.map fun _ => .null)
  | .map _ => .map []
  | v => v

/-- What stands at a position, without its parts. -/
def face? (p : List Step) (v : Value) : Option Value := (v.at? p).map face

/-- No map in the value has a key twice. -/
def Distinct (v : Value) : Prop := ∀ p entries, v.at? p = some (.map entries) → (Fields.keys entries).Nodup

variable {v w : Value} {p q : List Step} {f : Value}

theorem at?_append (p q : List Step) (v : Value) : v.at? (p ++ q) = (v.at? p).bind (at? q) := by
  induction p generalizing v with
  | nil => rfl
  | cons step p ih =>
    rw [List.cons_append, at?, at?, Option.bind_assoc]
    exact congrArg _ (funext ih)

theorem at?_key (key : String) (p : List Step) (entries : Fields Value) :
    at? (.key key :: p) (.map entries) = (Fields.get? key entries).bind (at? p) := rfl

theorem at?_index (i : Nat) (p : List Step) (items : List Value) :
    at? (.index i :: p) (.list items) = items[i]?.bind (at? p) := rfl

theorem face?_nil (v : Value) : v.face? [] = some v.face := rfl

theorem face?_key (key : String) (p : List Step) (entries : Fields Value) :
    face? (.key key :: p) (.map entries) = (Fields.get? key entries).bind (face? p) := by
  rw [face?, at?_key, Option.map_bind]
  rfl

theorem face?_index (i : Nat) (p : List Step) (items : List Value) :
    face? (.index i :: p) (.list items) = items[i]?.bind (face? p) := by
  rw [face?, at?_index, Option.map_bind]
  rfl

theorem face?_of_at? (h : v.at? p = some w) : v.face? p = some w.face := by
  rw [face?, h]
  rfl

theorem face_list {items own : List Value} (h : own.length = items.length) :
    (Value.list own).face = (Value.list items).face := by
  rw [face, face, List.map_const', List.map_const', h]

/-! ## 2. What is below a step -/

theorem eq_map_of_at?_key {key : String} (h : v.at? (.key key :: p) = some w) :
    ∃ entries child, v = .map entries ∧ Fields.get? key entries = some child ∧ child.at? p = some w := by
  obtain ⟨child, hchild, hw⟩ := Option.bind_eq_some_iff.mp h
  cases v with
  | map entries => exact ⟨entries, child, rfl, hchild, hw⟩
  | _ => cases hchild

theorem eq_list_of_at?_index {i : Nat} (h : v.at? (.index i :: p) = some w) :
    ∃ items item, v = .list items ∧ items[i]? = some item ∧ item.at? p = some w := by
  obtain ⟨item, hitem, hw⟩ := Option.bind_eq_some_iff.mp h
  cases v with
  | list items => exact ⟨items, item, rfl, hitem, hw⟩
  | _ => cases hitem

theorem eq_map_of_face {entries : Fields Value} (h : v.face = face (.map entries)) : ∃ own, v = .map own := by
  cases v with
  | map own => exact ⟨own, rfl⟩
  | _ => cases h

theorem eq_list_of_face {items : List Value} (h : v.face = face (.list items)) :
    ∃ own, v = .list own ∧ own.length = items.length := by
  cases v with
  | list own =>
    have hlength := congrArg List.length (Value.list.inj h)
    rw [List.length_map, List.length_map] at hlength
    exact ⟨own, rfl, hlength⟩
  | _ => cases h

/-- Below a key there is nothing in what looks like anything but a map. -/
theorem face?_key_eq_none (hface : w.face = v.face) (hv : ∀ entries, v ≠ .map entries) (key : String)
    (p : List Step) : w.face? (.key key :: p) = none := by
  cases w with
  | map entries =>
    obtain ⟨own, hown⟩ := eq_map_of_face hface.symm
    exact absurd hown (hv own)
  | _ => rfl

/-- Below an index there is nothing in what looks like anything but a list. -/
theorem face?_index_eq_none (hface : w.face = v.face) (hv : ∀ items, v ≠ .list items) (i : Nat)
    (p : List Step) : w.face? (.index i :: p) = none := by
  cases w with
  | list items =>
    obtain ⟨own, hown, -⟩ := eq_list_of_face hface.symm
    exact absurd hown (hv own)
  | _ => rfl

theorem sizeOf_lt_of_mem_entries {entries : Fields Value} {key : String} {a : Value} (h : (key, a) ∈ entries) :
    sizeOf a < sizeOf (Value.map entries) := by
  have hentry := List.sizeOf_lt_of_mem h
  simp only [Prod.mk.sizeOf_spec, Value.map.sizeOf_spec] at hentry ⊢
  omega

theorem sizeOf_lt_of_get? {entries : Fields Value} {key : String} {a : Value} (h : Fields.get? key entries = some a) :
    sizeOf a < sizeOf (Value.map entries) := sizeOf_lt_of_mem_entries (Fields.mem_of_get? h)

theorem sizeOf_lt_of_getElem? {items : List Value} {i : Nat} {a : Value} (h : items[i]? = some a) :
    sizeOf a < sizeOf (Value.list items) := by
  have hitem := List.sizeOf_lt_of_mem (List.mem_of_getElem? h)
  simp only [Value.list.sizeOf_spec]
  omega

/-! ## 3. Distinct keys -/

theorem Distinct.at? (h : v.Distinct) (hw : v.at? p = some w) : w.Distinct := by
  intro q entries hq
  refine h (p ++ q) entries ?_
  rw [at?_append, hw]
  exact hq

theorem Distinct.keys {entries : Fields Value} (h : (Value.map entries).Distinct) : (Fields.keys entries).Nodup :=
  h [] entries rfl

theorem Distinct.child {entries : Fields Value} {key : String} (h : (Value.map entries).Distinct)
    (hchild : Fields.get? key entries = some v) : v.Distinct := by
  refine Distinct.at? (p := [.key key]) h ?_
  rw [at?_key, hchild]
  rfl

theorem Distinct.item {items : List Value} {i : Nat} (h : (Value.list items).Distinct)
    (hitem : items[i]? = some v) : v.Distinct := by
  refine Distinct.at? (p := [.index i]) h ?_
  rw [at?_index, hitem]
  rfl

theorem Distinct.of_mem_items {items : List Value} (h : (Value.list items).Distinct) :
    ∀ item ∈ items, item.Distinct := by
  intro item hmem
  obtain ⟨i, hi⟩ := List.mem_iff_getElem?.mp hmem
  exact h.item hi

theorem Distinct.of_mem_entries {entries : Fields Value} (h : (Value.map entries).Distinct) :
    ∀ entry ∈ entries, entry.2.Distinct := by
  rintro ⟨key, child⟩ hmem
  exact h.child (Fields.get?_of_mem h.keys hmem)

theorem distinct_map {entries : Fields Value} (hkeys : (Fields.keys entries).Nodup)
    (h : ∀ entry ∈ entries, entry.2.Distinct) : (Value.map entries).Distinct := by
  intro p inner hinner
  cases p with
  | nil =>
    cases hinner
    exact hkeys
  | cons step p =>
    cases step with
    | key key =>
      -- only the first entry of a key is at a position, but that one is an entry
      obtain ⟨_, child, hmap, hchild, hp⟩ := eq_map_of_at?_key hinner
      cases hmap
      exact h (key, child) (Fields.mem_of_get? hchild) p inner hp
    | index i => cases hinner

theorem distinct_list {items : List Value} (h : ∀ item ∈ items, item.Distinct) : (Value.list items).Distinct := by
  intro p inner hinner
  cases p with
  | nil => cases hinner
  | cons step p =>
    cases step with
    | key key => cases hinner
    | index i =>
      obtain ⟨_, item, hlist, hitem, hp⟩ := eq_list_of_at?_index hinner
      cases hlist
      exact h item (List.mem_of_getElem? hitem) p inner hp

/-- A value without parts has no keys. -/
theorem distinct_scalar (hmap : ∀ entries, v ≠ .map entries) (hlist : ∀ items, v ≠ .list items) : v.Distinct := by
  intro p inner hinner
  cases p with
  | nil => exact absurd (Option.some.inj hinner) (hmap inner)
  | cons step p =>
    -- the value looks like itself, and like nothing that has something below it
    have hface := face?_of_at? hinner
    cases step with
    | key key =>
      rw [face?_key_eq_none rfl hmap] at hface
      cases hface
    | index i =>
      rw [face?_index_eq_none rfl hlist] at hface
      cases hface

end Value

end Stencil
