import Stencil.Helper.Items
import Stencil.Proofs.Value.Order

/-!
Sorting lists.

A stable sort is right for every list if what it compares by is a total preorder. Lenient comparison is none: the string
`9` is before the number 9.5, which is before the string `10`, which is before the string `9`. What saves the sort is
that it looks at kinds first, at numbers in their total order, and that null is never a key. So every key gets a
standing, which is a kind, an integer and a text, and to compare two keys is to compare their standings
(`compareKeys_eq`). Items without a key stand behind all others before any direction is considered, and all that is said
of the sorted list follows from the library's account of its stable sort.
-/

namespace Stencil.Helper.Items

open Stencil.Calendar

/-! ## 1. The standing of a key -/

/-- The standing of a key: by kind, then by an integer, then by a text. -/
structure Standing where
  kind : Nat
  number : Int
  text : String

/-- The order of standings. -/
def Standing.compare : Standing → Standing → Ordering :=
  compareLex (compareOn kind) (compareLex (compareOn number) (compareOn text))

instance : Std.TransCmp Standing.compare :=
  inferInstanceAs (Std.TransCmp
    (compareLex (compareOn Standing.kind) (compareLex (compareOn Standing.number) (compareOn Standing.text))))

/-- The standing of a value. Only numbers and booleans stand by an integer, and only what is compared as a string by a
text. -/
def standing : Value → Standing
  | .number x => ⟨0, Number.rank x, ""⟩
  | .minusNan => ⟨0, -(2 ^ 63), ""⟩
  | .bool b => ⟨1, b.toInt, ""⟩
  | .string s => ⟨2, 0, s⟩
  | v => ⟨3, 0, v.plainText⟩

variable {a b : Value}

theorem standing_kind (v : Value) : (standing v).kind = kindRank v := by
  cases v <;> rfl

theorem Standing.compare_of_kind_ne {r s : Standing} (h : r.kind ≠ s.kind) :
    Standing.compare r s = Ord.compare r.kind s.kind := by
  rw [Standing.compare, compareLex, compareOn]
  cases hcmp : Ord.compare r.kind s.kind with
  | eq => exact absurd (Std.LawfulEqOrd.eq_of_compare hcmp) h
  | lt | gt => rfl

theorem Standing.compare_of_kind (k : Nat) (i j : Int) (s t : String) :
    Standing.compare ⟨k, i, s⟩ ⟨k, j, t⟩ = (Ord.compare i j).then (Ord.compare s t) := by
  rw [Standing.compare, compareLex, compareOn, Std.ReflOrd.compare_self]
  rfl

theorem Standing.compare_numbers (k : Nat) (i j : Int) : Standing.compare ⟨k, i, ""⟩ ⟨k, j, ""⟩ = Ord.compare i j := by
  rw [Standing.compare_of_kind, Std.ReflOrd.compare_self, Ordering.then_eq]

theorem Standing.compare_texts (k : Nat) (s t : String) : Standing.compare ⟨k, 0, s⟩ ⟨k, 0, t⟩ = Ord.compare s t := by
  rw [Standing.compare_of_kind, Std.ReflOrd.compare_self]
  rfl

/-! ## 2. Comparing keys -/

theorem compareKeys_of_numberRank {i j : Int} (ha : numberRank? a = some i) (hb : numberRank? b = some j) :
    compareKeys a b = compare i j := by
  rw [compareKeys, ha, hb]

theorem compareKeys_of_not_number (h : numberRank? a = none ∨ numberRank? b = none) :
    compareKeys a b = (compare (kindRank a) (kindRank b)).then ((a.looseCompare? b).getD .eq) := by
  rw [compareKeys]
  rcases h with hnone | hnone
  · rw [hnone]
  · rw [hnone]
    cases numberRank? a <;> rfl

/-- Between keys of different kinds the kinds decide. -/
theorem compareKeys_of_kindRank_ne (h : kindRank a ≠ kindRank b) :
    compareKeys a b = compare (kindRank a) (kindRank b) := by
  have hnumber : numberRank? a = none ∨ numberRank? b = none := by
    cases a <;> cases b <;> first | exact .inl rfl | exact .inr rfl | exact absurd rfl h
  rw [compareKeys_of_not_number hnumber]
  cases hcmp : compare (kindRank a) (kindRank b) with
  | eq => exact absurd (Std.LawfulEqOrd.eq_of_compare hcmp) h
  | lt | gt => rfl

/-- Keys of one kind that are compared as strings. -/
theorem compareKeys_of_strings {s t : String} (h : kindRank a = kindRank b) (ha : a.plain = .string s)
    (hb : b.plain = .string t) : compareKeys a b = compare s t := by
  have hnumber : numberRank? a = none := by
    cases a with
    | number | minusNan => cases ha
    | _ => rfl
  rw [compareKeys_of_not_number (.inl hnumber), h, Std.ReflOrd.compare_self, Value.looseCompare?_of_strings ha hb]
  rfl

/-- Two keys are compared by their standings. -/
theorem compareKeys_eq (ha : a ≠ .null) (hb : b ≠ .null) :
    compareKeys a b = Standing.compare (standing a) (standing b) := by
  by_cases hkind : kindRank a = kindRank b
  · -- both are numbers, both booleans, or both compared as strings; null, which is none of this, is no key
    cases a with
    | null => exact absurd rfl ha
    | number x =>
      cases b with
      | number | minusNan => exact Eq.trans (compareKeys_of_numberRank rfl rfl) (Standing.compare_numbers _ _ _).symm
      | _ => cases hkind
    | minusNan =>
      cases b with
      | number | minusNan => exact Eq.trans (compareKeys_of_numberRank rfl rfl) (Standing.compare_numbers _ _ _).symm
      | _ => cases hkind
    | bool x =>
      cases b with
      | bool y => cases x <;> cases y <;> decide
      | _ => cases hkind
    | string s =>
      cases b with
      | string t => exact Eq.trans (compareKeys_of_strings rfl rfl rfl) (Standing.compare_texts _ _ _).symm
      | _ => cases hkind
    | list _ | map _ =>
      cases b with
      | null => exact absurd rfl hb
      | list _ | map _ => exact Eq.trans (compareKeys_of_strings rfl rfl rfl) (Standing.compare_texts _ _ _).symm
      | _ => cases hkind
  · rw [compareKeys_of_kindRank_ne hkind, Standing.compare_of_kind_ne (by rwa [standing_kind, standing_kind]),
      standing_kind, standing_kind]

/-! ## 3. Comparing items -/

/-- Whether a value can be converted to a key under a collation. -/
def Collation.Converts : Collation → Value → Prop
  | .numbers, v => v.toNumber.isNaN = false
  | .dates, v => (Date.instant? Zone.utc v).isSome
  | _, _ => True

theorem Collation.key?_eq_none_iff (collation : Collation) (v : Value) :
    collation.key? v = none ↔ v = .null ∨ ¬ collation.Converts v := by
  by_cases hnull : v = .null
  · subst hnull
    simp [Collation.key?]
  · cases collation <;> simp [Collation.key?, Collation.Converts, hnull]

theorem Collation.key?_ne_null {collation : Collation} {v key : Value} (h : collation.key? v = some key) :
    key ≠ .null := by
  rintro rfl
  rw [Collation.key?.eq_def] at h
  split at h
  · cases h
  · next hnull => exact hnull (Option.some.inj h)
  · split at h <;> cases h
  · cases h
  · obtain ⟨t, -, ht⟩ := Option.map_eq_some_iff.mp h
    cases ht

variable (args : Args)

/-- The path that a sort follows from an item to its key. -/
def keyPath : List String :=
  match args.namedText? "sortBy" with
  | some dotted => (Text.splitOn (· == '.') dotted.toList).map String.ofList
  | none => []

/-- What the keys of a sort are compared as. -/
def collationOf : Collation := Collation.ofName? (args.namedText? "sortAs")

/-- The key of an item in a sort. -/
def keyOf (item : Value) : Option Value := (item.getPath? (keyPath args)).bind (collationOf args).key?

/-- How a sort compares two items: by their keys, in either direction, and with what has no key behind what has one. -/
def compareItems (a b : Value) : Ordering :=
  match keyOf args a, keyOf args b with
  | none, none => .eq
  | none, some _ => .gt
  | some _, none => .lt
  | some x, some y => if args.flag "reverse" then (compareKeys x y).swap else compareKeys x y

variable {args}

theorem keyOf_ne_null {item key : Value} (h : keyOf args item = some key) : key ≠ .null := by
  obtain ⟨v, -, hkey⟩ := Option.bind_eq_some_iff.mp h
  exact Collation.key?_ne_null hkey

theorem keyOf_eq_none_iff (item : Value) :
    keyOf args item = none ↔
      ∀ v, item.getPath? (keyPath args) = some v → v = .null ∨ ¬ (collationOf args).Converts v := by
  rw [keyOf, Option.bind_eq_none_iff]
  exact forall₂_congr fun v _ => Collation.key?_eq_none_iff _ v

/-- The order of standings in a direction. -/
def Standing.directed (descending : Bool) (r s : Standing) : Ordering :=
  if descending then Standing.compare s r else Standing.compare r s

instance (descending : Bool) : Std.TransCmp (Standing.directed descending) := by
  cases descending
  · exact inferInstanceAs (Std.TransCmp Standing.compare)
  · exact inferInstanceAs (Std.TransCmp fun r s => Standing.compare s r)

theorem Standing.directed_self (descending : Bool) (r : Standing) : Standing.directed descending r r = .eq :=
  Std.ReflCmp.compare_self

/-- The order of items by the standings of their keys. -/
def compareStandings (args : Args) (a b : Value) : Ordering :=
  Standing.directed (args.flag "reverse") (standing ((keyOf args a).getD .null)) (standing ((keyOf args b).getD .null))

instance (args : Args) : Std.TransCmp (compareStandings args) where
  eq_swap := by
    unfold compareStandings
    exact Std.OrientedCmp.eq_swap
  isLE_trans := by
    unfold compareStandings
    exact Std.TransCmp.isLE_trans

/-- Two items are compared by whether they have a key, and then by the standings of their keys. -/
theorem compareItems_eq (args : Args) :
    compareItems args = compareLex (compareOn fun item => (keyOf args item).isNone) (compareStandings args) := by
  funext a b
  rw [compareItems, compareLex, compareOn, compareStandings]
  cases ha : keyOf args a with
  | none =>
    cases keyOf args b with
    | none => exact (Standing.directed_self _ _).symm
    | some y => rfl
  | some x =>
    cases hb : keyOf args b with
    | none => rfl
    | some y =>
      have hx := keyOf_ne_null ha
      have hy := keyOf_ne_null hb
      change (if args.flag "reverse" then (compareKeys x y).swap else compareKeys x y) =
        Standing.directed (args.flag "reverse") (standing x) (standing y)
      rw [compareKeys_eq hx hy, ← Std.OrientedCmp.eq_swap]
      rfl

/-- The comparison of items is a total preorder. -/
theorem transCmp_compareItems (args : Args) : Std.TransCmp (compareItems args) := by
  rw [compareItems_eq]
  infer_instance

theorem mayPrecede_eq (args : Args) (a b : Value) :
    mayPrecede (args.flag "reverse") (keyOf args a) (keyOf args b) = (compareItems args a b).isLE := by
  rw [compareItems]
  cases ha : keyOf args a with
  | none => cases keyOf args b <;> rfl
  | some x =>
    cases hb : keyOf args b with
    | none => rfl
    | some y =>
      have hx := keyOf_ne_null ha
      have hy := keyOf_ne_null hb
      have hswap : compareKeys y x = (compareKeys x y).swap := by
        rw [compareKeys_eq hx hy, compareKeys_eq hy hx]
        exact Std.OrientedCmp.eq_swap
      simp only [mayPrecede, hswap]
      cases args.flag "reverse" <;> cases compareKeys x y <;> rfl

/-- Sorting is a stable sort by the comparison of items. -/
theorem sort_eq (items : List Value) (args : Args) :
    sort items args = items.mergeSort fun a b => (compareItems args a b).isLE := by
  have hkeyed := List.map_mergeSort (r := fun a b => (compareItems args a b).isLE)
    (s := fun a b => mayPrecede (args.flag "reverse") a.1 b.1) (f := fun item => (keyOf args item, item)) (l := items)
    fun a _ b _ => (mayPrecede_eq args a b).symm
  -- the items are sorted together with their keys, which are dropped again
  change (List.mergeSort (items.map fun item => (keyOf args item, item)) _).map (·.2) = _
  rw [← hkeyed, List.map_map]
  exact List.map_id _

/-! ## 4. Stable sorting -/

section Stable

variable {α : Type} {le : α → α → Bool}

/-- Items of a list that are all level with each other are left in their order. -/
theorem filter_mergeSort (htrans : ∀ a b c, le a b → le b c → le a c) (htotal : ∀ a b, le a b || le b a) (l : List α)
    {p : α → Bool} (hp : ∀ a b, p a → p b → le a b) : (l.mergeSort le).filter p = l.filter p := by
  have hpairs : (l.filter p).Pairwise fun a b => le a b = true :=
    List.pairwise_of_forall_mem_list fun a ha b hb => hp a b (List.mem_filter.mp ha).2 (List.mem_filter.mp hb).2
  have hsub := (List.sublist_mergeSort htrans htotal hpairs List.filter_sublist).filter p
  simp only [List.filter_filter, Bool.and_self] at hsub
  exact (hsub.eq_of_length ((List.mergeSort_perm l le).filter p).length_eq.symm).symm

/-- If everything behind an item with a property has it too, a list is its items without it and then those with it. -/
theorem eq_filter_append_filter {l : List α} {p : α → Bool} (h : l.Pairwise fun a b => p a = true → p b = true) :
    l = l.filter (! p ·) ++ l.filter p := by
  induction l with
  | nil => rfl
  | cons a l ih =>
    obtain ⟨hfirst, hrest⟩ := List.pairwise_cons.mp h
    cases ha : p a with
    | false =>
      rw [List.filter_cons, List.filter_cons, ha]
      exact congrArg (List.cons a) (ih hrest)
    | true =>
      have hall : ∀ b ∈ a :: l, p b = true := List.forall_mem_cons.mpr ⟨ha, fun b hb => hfirst b hb ha⟩
      have hnone : (a :: l).filter (! p ·) = [] :=
        List.filter_eq_nil_iff.mpr fun b hb hnot => by rw [hall b hb] at hnot; cases hnot
      rw [List.filter_eq_self.mpr hall, hnone]
      rfl

end Stable

/-! ## 5. The sorted list -/

/-- Whether an item has a key that is level with another one. -/
def hasKeyLevelWith (args : Args) (key item : Value) : Bool :=
  (keyOf args item).any fun other => compareKeys key other == .eq

/-- The keys of two items are in the direction of a sort. -/
def KeysInOrder (args : Args) (a b : Value) : Prop :=
  ∃ x y, keyOf args a = some x ∧ keyOf args b = some y ∧
    if args.flag "reverse" then (compareKeys x y).isGE = true else (compareKeys x y).isLE = true

/-- What sorting makes of a list. -/
structure Sorted (args : Args) (items sorted : List Value) : Prop where
  perm : sorted.Perm items
  keyless_last : sorted = (sorted.filter fun item => (keyOf args item).isSome) ++
    items.filter fun item => (keyOf args item).isNone
  in_order : (sorted.filter fun item => (keyOf args item).isSome).Pairwise (KeysInOrder args)
  stable : ∀ key, key ≠ .null → sorted.filter (hasKeyLevelWith args key) = items.filter (hasKeyLevelWith args key)

theorem isNone_of_isLE (h : (compareItems args a b).isLE = true) (ha : (keyOf args a).isNone = true) :
    (keyOf args b).isNone = true := by
  rw [compareItems, Option.isNone_iff_eq_none.mp ha] at h
  cases hb : keyOf args b with
  | none => rfl
  | some y =>
    rw [hb] at h
    cases h

theorem keysInOrder_of_isLE (h : (compareItems args a b).isLE = true) (ha : (keyOf args a).isSome = true)
    (hb : (keyOf args b).isSome = true) : KeysInOrder args a b := by
  obtain ⟨x, hx⟩ := Option.isSome_iff_exists.mp ha
  obtain ⟨y, hy⟩ := Option.isSome_iff_exists.mp hb
  refine ⟨x, y, hx, hy, ?_⟩
  simp only [compareItems, hx, hy] at h
  split
  · next hreverse =>
    rw [if_pos hreverse, Ordering.isLE_swap] at h
    exact h
  · next hreverse =>
    rw [if_neg hreverse] at h
    exact h

/-- Items with level keys are level. -/
theorem isLE_of_hasKeyLevelWith {key : Value} (hkey : key ≠ .null) (ha : hasKeyLevelWith args key a = true)
    (hb : hasKeyLevelWith args key b = true) : (compareItems args a b).isLE = true := by
  obtain ⟨x, hx, hax⟩ := (Option.any_eq_true _ _).mp ha
  obtain ⟨y, hy, hby⟩ := (Option.any_eq_true _ _).mp hb
  have hnull := keyOf_ne_null hx
  have hother := keyOf_ne_null hy
  rw [beq_iff_eq, compareKeys_eq hkey hnull] at hax
  rw [beq_iff_eq, compareKeys_eq hkey hother] at hby
  have heq : compareKeys x y = .eq := by
    rw [compareKeys_eq hnull hother]
    exact Std.TransCmp.eq_trans (Std.OrientedCmp.eq_symm hax) hby
  simp only [compareItems, hx, hy, heq]
  cases args.flag "reverse" <;> rfl

theorem sorted_sort (args : Args) (items : List Value) : Sorted args items (sort items args) := by
  have := transCmp_compareItems args
  have htrans : ∀ a b c, (compareItems args a b).isLE = true → (compareItems args b c).isLE = true →
      (compareItems args a c).isLE = true := fun _ _ _ => Std.TransCmp.isLE_trans
  have htotal : ∀ a b, ((compareItems args a b).isLE || (compareItems args b a).isLE) = true := by
    intro a b
    rw [Bool.or_eq_true]
    by_cases h : (compareItems args a b).isLE = true
    · exact .inl h
    · rw [Std.OrientedCmp.lt_of_not_isLE h]
      exact .inr rfl
  have hpairs := List.pairwise_mergeSort htrans htotal items
  rw [sort_eq]
  refine ⟨List.mergeSort_perm _ _, ?_, ?_, fun key hkey => ?_⟩
  · -- items without a key are all level, and nothing with a key stands behind them
    have hparts := eq_filter_append_filter (hpairs.imp fun h => isNone_of_isLE h)
    have hlevel : ∀ a b, (keyOf args a).isNone = true → (keyOf args b).isNone = true →
        (compareItems args a b).isLE = true := by
      intro a b ha hb
      rw [compareItems, Option.isNone_iff_eq_none.mp ha, Option.isNone_iff_eq_none.mp hb]
      rfl
    simp only [Option.not_isNone] at hparts
    rw [← filter_mergeSort htrans htotal items hlevel]
    exact hparts
  · refine List.pairwise_filter.mpr (hpairs.imp fun h ha hb => ?_)
    exact keysInOrder_of_isLE h ha hb
  · exact filter_mergeSort htrans htotal items fun a b => isLE_of_hasKeyLevelWith hkey

/-- **Sorting is right for every list.** What a list is sorted by is a total preorder on all values, whatever the keys
are compared as. An item has no key where its path leads nowhere, to null or to what cannot be converted. The sorted
list has the same items. Those without a key are last, in the order they were in, also when the direction is reversed.
The keys of the others are in the direction of the sort, and items with level keys are in the order they were in. -/
theorem sort_stable_keyless_last (args : Args) :
    Std.TransCmp (compareItems args) ∧
    (∀ item, keyOf args item = none ↔
      ∀ v, item.getPath? (keyPath args) = some v → v = .null ∨ ¬ (collationOf args).Converts v) ∧
    ∃ sorted, call? "sort" args = some (.ok (.list sorted)) ∧
      sorted = (itemsOf args.primary).mergeSort (fun a b => (compareItems args a b).isLE) ∧
      Sorted args (itemsOf args.primary) sorted :=
  ⟨transCmp_compareItems args, keyOf_eq_none_iff, sort (itemsOf args.primary) args, rfl, sort_eq _ args,
    sorted_sort args _⟩

end Stencil.Helper.Items
