import Mathlib.Data.List.Perm.Subperm
import Stencil.Value.Comparison
import Stencil.Proofs.Filter.Position
import Stencil.Proofs.Number.Order

/-!
Lenient equality.

Lenient equality turns operands into one another: a boolean into a number, a list or a map into a string, a string into
a number. Each conversion leads to another comparison, and a list or a map to one for every part. That this comes to an
end, and to the same end from either side, is not to be read off the function, which makes all conversions at once. So
it is carried out here one conversion at a time (`Settles`): every pair of values settles on exactly what the function
says. What is proved of the function then goes by induction on how a comparison is settled.

The maps need care when a comparison is turned around. Only the keys of the first map are looked up in the second. That
the second map has no others follows from their number, and only if no key stands twice.
-/

namespace Stencil.Value

open Stencil.Filter (Step)

/-! ## 1. One conversion at a time -/

/-- The number of a value that is one, or that is what is not a number. -/
def number? : Value → Option Float
  | .number x => some x
  | .minusNan => some Number.nan
  | _ => none

/-- Whether a value is a number or a string, so that it is not converted unless to a number in the end. -/
def Simple : Value → Prop
  | .number _ | .minusNan | .string _ => True
  | _ => False

/-- Whether a value is a list or a map, which is converted to a string. -/
def HasParts : Value → Prop
  | .list _ | .map _ => True
  | _ => False

/-- Whether both values are lists, or both are maps. -/
def Alike : Value → Value → Prop
  | .list _, .list _ | .map _, .map _ => True
  | _, _ => False

/-- How the lenient comparison of two values comes to its answer, one conversion or one step into the parts at a time.
Null counts before all else, a boolean is converted before a list or a map, and the left operand before the right. -/
inductive Settles : Value → Value → Bool → Prop
  | nulls : Settles .null .null true
  | nullLeft {b : Value} (right : b ≠ .null) : Settles .null b false
  | nullRight {a : Value} (left : a ≠ .null) : Settles a .null false
  | strings (s t : String) : Settles (.string s) (.string t) (s == t)
  | numbers {a b : Value} {x y : Float} (left : a.number? = some x) (right : b.number? = some y) :
      Settles a b (x == y)
  | bools (x y : Bool) : Settles (.bool x) (.bool y) (x == y)
  | numberString {a : Value} {x : Float} (left : a.number? = some x) (s : String) :
      Settles a (.string s) (x == Number.parse s)
  | stringNumber {b : Value} {y : Float} (s : String) (right : b.number? = some y) :
      Settles (.string s) b (Number.parse s == y)
  | boolLeft {x r : Bool} {b : Value} (notNull : b ≠ .null) (notBool : ∀ y, b ≠ .bool y)
      (converted : Settles (.number (toNumber (.bool x))) b r) : Settles (.bool x) b r
  | boolRight {y r : Bool} {a : Value} (notNull : a ≠ .null) (notBool : ∀ x, a ≠ .bool x)
      (converted : Settles a (.number (toNumber (.bool y))) r) : Settles a (.bool y) r
  | partsLeft {a b : Value} {r : Bool} (left : a.HasParts) (notNull : b ≠ .null) (notBool : ∀ y, b ≠ .bool y)
      (kinds : ¬ Alike a b) (converted : Settles (.string a.plainText) b r) : Settles a b r
  | partsRight {a b : Value} {r : Bool} (left : a.Simple) (right : b.HasParts)
      (converted : Settles a (.string b.plainText) r) : Settles a b r
  | lists {as bs : List Value} (length : as.length = bs.length)
      (items : ∀ (i : Nat) a b, as[i]? = some a → bs[i]? = some b → Settles a b true) :
      Settles (.list as) (.list bs) true
  | listLengths {as bs : List Value} (length : as.length ≠ bs.length) : Settles (.list as) (.list bs) false
  | listItem {as bs : List Value} {i : Nat} {a b : Value} (left : as[i]? = some a) (right : bs[i]? = some b)
      (item : Settles a b false) : Settles (.list as) (.list bs) false
  | maps {as bs : Fields Value} (length : as.length = bs.length)
      (present : ∀ f ∈ as, (Fields.get? f.1 bs).isSome)
      (contents : ∀ key a b, (key, a) ∈ as → Fields.get? key bs = some b → Settles a b true) :
      Settles (.map as) (.map bs) true
  | mapLengths {as bs : Fields Value} (length : as.length ≠ bs.length) : Settles (.map as) (.map bs) false
  | mapMissing {as bs : Fields Value} {key : String} {a : Value} (left : (key, a) ∈ as)
      (right : Fields.get? key bs = none) : Settles (.map as) (.map bs) false
  | mapContent {as bs : Fields Value} {key : String} {a b : Value} (left : (key, a) ∈ as)
      (right : Fields.get? key bs = some b) (content : Settles a b false) : Settles (.map as) (.map bs) false

variable {a b : Value} {r : Bool}

/-! ## 2. What a conversion does to the answer -/

theorem looseEq_null_right (h : a ≠ .null) : looseEq a .null = false := by
  cases a with
  | null => exact absurd rfl h
  | _ => rfl

theorem looseEq_null_left (h : b ≠ .null) : looseEq .null b = false := by
  cases b with
  | null => exact absurd rfl h
  | _ => rfl

theorem looseEq_bool_left (x : Bool) (b : Value) : looseEq (.bool x) b = looseEq (.number (toNumber (.bool x))) b := by
  cases b <;> rfl

theorem looseEq_bool_right (a : Value) (y : Bool) : looseEq a (.bool y) = looseEq a (.number (toNumber (.bool y))) := by
  cases a <;> rfl

theorem looseEq_parts_left (ha : a.HasParts) (h : ¬ Alike a b) : looseEq a b = looseEq (.string a.plainText) b := by
  cases a with
  | list as =>
    cases b with
    | list bs => exact absurd trivial h
    | _ => rfl
  | map as =>
    cases b with
    | map bs => exact absurd trivial h
    | _ => rfl
  | _ => cases ha

theorem looseEq_parts_right (hb : b.HasParts) (h : ¬ Alike a b) : looseEq a b = looseEq a (.string b.plainText) := by
  cases b with
  | list bs =>
    cases a with
    | list as => exact absurd trivial h
    | _ => rfl
  | map bs =>
    cases a with
    | map as => exact absurd trivial h
    | _ => rfl
  | _ => cases hb

theorem looseEq_of_numbers {x y : Float} (ha : a.number? = some x) (hb : b.number? = some y) :
    looseEq a b = (x == y) := by
  cases a <;> cases ha <;> cases b <;> cases hb <;> rfl

theorem looseEq_of_number_string {x : Float} (ha : a.number? = some x) (s : String) :
    looseEq a (.string s) = (x == Number.parse s) := by
  cases a <;> cases ha <;> rfl

theorem looseEq_of_string_number {y : Float} (s : String) (hb : b.number? = some y) :
    looseEq (.string s) b = (Number.parse s == y) := by
  cases b <;> cases hb <;> rfl

theorem looseEq_bools (x y : Bool) : looseEq (.bool x) (.bool y) = (x == y) := by
  cases x <;> cases y <;> decide

/-! ## 3. Parts -/

theorem looseEqItems_iff (as bs : List Value) :
    looseEqItems as bs = true ↔
      as.length = bs.length ∧ ∀ (i : Nat) a b, as[i]? = some a → bs[i]? = some b → looseEq a b = true := by
  induction as generalizing bs with
  | nil => cases bs <;> simp [looseEqItems]
  | cons a as ih =>
    cases bs with
    | nil => simp [looseEqItems]
    | cons b bs =>
      rw [looseEqItems, Bool.and_eq_true, ih, List.length_cons, List.length_cons, Nat.add_right_cancel_iff]
      constructor
      · rintro ⟨hhead, hlength, htail⟩
        refine ⟨hlength, fun i c d hc hd => ?_⟩
        cases i with
        | zero =>
          cases hc
          cases hd
          exact hhead
        | succ i => exact htail i c d hc hd
      · rintro ⟨hlength, hall⟩
        exact ⟨hall 0 a b rfl rfl, hlength, fun i c d hc hd => hall (i + 1) c d hc hd⟩

theorem looseEqEntries_iff (as bs : Fields Value) :
    looseEqEntries as bs = true ↔
      ∀ key a, (key, a) ∈ as → ∃ b, Fields.get? key bs = some b ∧ looseEq a b = true := by
  induction as with
  | nil => simp [looseEqEntries]
  | cons f as ih =>
    obtain ⟨name, content⟩ := f
    rw [looseEqEntries, Bool.and_eq_true, ih]
    constructor
    · rintro ⟨hfirst, hrest⟩ key a hmem
      rcases List.mem_cons.mp hmem with heq | hmem
      · obtain ⟨rfl, rfl⟩ := Prod.mk.inj heq
        cases hget : Fields.get? key bs with
        | none =>
          rw [hget] at hfirst
          cases hfirst
        | some b =>
          rw [hget] at hfirst
          exact ⟨b, rfl, hfirst⟩
      · exact hrest key a hmem
    · intro hall
      obtain ⟨b, hget, hcontent⟩ := hall name content List.mem_cons_self
      rw [hget]
      exact ⟨hcontent, fun key a hmem => hall key a (List.mem_cons_of_mem _ hmem)⟩

theorem looseEq_lists_iff (as bs : List Value) :
    looseEq (.list as) (.list bs) = true ↔
      as.length = bs.length ∧ ∀ (i : Nat) a b, as[i]? = some a → bs[i]? = some b → looseEq a b = true :=
  looseEqItems_iff as bs

theorem looseEq_maps_iff (as bs : Fields Value) :
    looseEq (.map as) (.map bs) = true ↔
      as.length = bs.length ∧ ∀ key a, (key, a) ∈ as → ∃ b, Fields.get? key bs = some b ∧ looseEq a b = true := by
  rw [← looseEqEntries_iff, looseEq, Bool.and_eq_true, beq_iff_eq]

/-! ## 4. Every comparison settles -/

theorem settles_flat (ha : a.Simple) (hb : b.Simple) : Settles a b (looseEq a b) := by
  cases a with
  | number | minusNan =>
    cases b with
    | number | minusNan => exact .numbers rfl rfl
    | string t => exact .numberString rfl t
    | _ => cases hb
  | string s =>
    cases b with
    | number | minusNan => exact .stringNumber s rfl
    | string t => exact .strings s t
    | _ => cases hb
  | _ => cases ha

theorem Simple.not_alike (ha : a.Simple) (b : Value) : ¬ Alike a b := by
  cases a with
  | number | minusNan | string => exact id
  | _ => cases ha

theorem settles_simple (a b : Value) (ha : a.Simple) : Settles a b (looseEq a b) := by
  have hnull : a ≠ .null := by rintro rfl; exact ha
  have hbool : ∀ x, a ≠ .bool x := by rintro x rfl; exact ha
  have hconverted : ∀ c : Value, c.HasParts → Settles a c (looseEq a c) := by
    intro c hc
    rw [looseEq_parts_right hc (ha.not_alike c)]
    exact .partsRight ha hc (settles_flat ha trivial)
  cases b with
  | null =>
    rw [looseEq_null_right hnull]
    exact .nullRight hnull
  | bool y =>
    rw [looseEq_bool_right]
    exact .boolRight hnull hbool (settles_flat ha trivial)
  | number | minusNan | string => exact settles_flat ha trivial
  | list | map => exact hconverted _ trivial

theorem settles_bool (x : Bool) (b : Value) : Settles (.bool x) b (looseEq (.bool x) b) := by
  cases b with
  | null => exact .nullRight Value.noConfusion
  | bool y =>
    rw [looseEq_bools]
    exact .bools x y
  | _ =>
    rw [looseEq_bool_left]
    exact .boolLeft Value.noConfusion (fun _ => Value.noConfusion) (settles_simple (.number _) _ trivial)

/-- A list or a map that is compared with a value of another kind. -/
theorem settles_parts (ha : a.HasParts) (hkinds : ¬ Alike a b) : Settles a b (looseEq a b) := by
  have hnull : a ≠ .null := by rintro rfl; exact ha
  have hbool : ∀ x, a ≠ .bool x := by rintro x rfl; exact ha
  have hconverted : ∀ c, ¬ Alike a c → c ≠ .null → (∀ y, c ≠ .bool y) → Settles a c (looseEq a c) := by
    intro c hc hnull hbool
    rw [looseEq_parts_left ha hc]
    exact .partsLeft ha hnull hbool hc (settles_simple (.string _) c trivial)
  cases b with
  | null =>
    rw [looseEq_null_right hnull]
    exact .nullRight hnull
  | bool y =>
    -- the boolean is converted first, and then the parts against its number
    rw [looseEq_bool_right]
    have hnumber : ¬ Alike a (.number (toNumber (.bool y))) := by cases a <;> exact id
    exact .boolRight hnull hbool (hconverted _ hnumber Value.noConfusion fun _ => Value.noConfusion)
  | _ => exact hconverted _ hkinds Value.noConfusion fun _ => Value.noConfusion

theorem settles_lists {as bs : List Value}
    (h : ∀ (i : Nat) a b, as[i]? = some a → bs[i]? = some b → Settles a b (looseEq a b)) :
    Settles (.list as) (.list bs) (looseEq (.list as) (.list bs)) := by
  cases heq : looseEq (.list as) (.list bs) with
  | true =>
    obtain ⟨hlength, hitems⟩ := (looseEq_lists_iff as bs).mp heq
    exact .lists hlength fun i a b ha hb => hitems i a b ha hb ▸ h i a b ha hb
  | false =>
    by_cases hlength : as.length = bs.length
    · have hsome : ¬ ∀ (i : Nat) a b, as[i]? = some a → bs[i]? = some b → looseEq a b = true := fun hitems =>
        Bool.false_ne_true (heq.symm.trans ((looseEq_lists_iff as bs).mpr ⟨hlength, hitems⟩))
      simp only [Classical.not_forall, Bool.not_eq_true] at hsome
      obtain ⟨i, a, b, ha, hb, hitem⟩ := hsome
      exact .listItem ha hb (hitem ▸ h i a b ha hb)
    · exact .listLengths hlength

theorem settles_maps {as bs : Fields Value}
    (h : ∀ key a b, (key, a) ∈ as → Fields.get? key bs = some b → Settles a b (looseEq a b)) :
    Settles (.map as) (.map bs) (looseEq (.map as) (.map bs)) := by
  cases heq : looseEq (.map as) (.map bs) with
  | true =>
    obtain ⟨hlength, hcontents⟩ := (looseEq_maps_iff as bs).mp heq
    refine .maps hlength (fun f hf => ?_) fun key a b ha hb => ?_
    · obtain ⟨b, hb, -⟩ := hcontents f.1 f.2 hf
      rw [hb]
      rfl
    · obtain ⟨c, hc, hcontent⟩ := hcontents key a ha
      cases hb.symm.trans hc
      exact hcontent ▸ h key a b ha hb
  | false =>
    by_cases hlength : as.length = bs.length
    · have hsome : ¬ ∀ key a, (key, a) ∈ as → ∃ b, Fields.get? key bs = some b ∧ looseEq a b = true := fun hcontents =>
        Bool.false_ne_true (heq.symm.trans ((looseEq_maps_iff as bs).mpr ⟨hlength, hcontents⟩))
      simp only [Classical.not_forall, not_exists, not_and, Bool.not_eq_true] at hsome
      obtain ⟨key, a, ha, hnone⟩ := hsome
      cases hget : Fields.get? key bs with
      | none => exact .mapMissing ha hget
      | some b => exact .mapContent ha hget (hnone b hget ▸ h key a b ha hget)
    · exact .mapLengths hlength

theorem Alike.cases (h : Alike a b) :
    (∃ as bs, a = .list as ∧ b = .list bs) ∨ ∃ as bs, a = .map as ∧ b = .map bs := by
  cases a <;> cases b <;> first | exact .inl ⟨_, _, rfl, rfl⟩ | exact .inr ⟨_, _, rfl, rfl⟩ | cases h

theorem Alike.symm (h : Alike a b) : Alike b a := by
  obtain ⟨as, bs, rfl, rfl⟩ | ⟨as, bs, rfl, rfl⟩ := h.cases
  · trivial
  · trivial

/-- Every comparison comes to an end, with the answer of the function. -/
theorem settles (a b : Value) : Settles a b (looseEq a b) := by
  -- only steps into the parts lead to a comparison like this one; a conversion leads to values without parts
  by_cases hkinds : Alike a b
  · obtain ⟨as, bs, rfl, rfl⟩ | ⟨as, bs, rfl, rfl⟩ := hkinds.cases
    · refine settles_lists fun i a b ha _ => ?_
      have hsize := sizeOf_lt_of_getElem? ha
      exact settles a b
    · refine settles_maps fun key a b ha _ => ?_
      have hsize := sizeOf_lt_of_mem_entries ha
      exact settles a b
  · cases a with
    | null =>
      cases b with
      | null => exact .nulls
      | _ => exact .nullLeft Value.noConfusion
    | bool x => exact settles_bool x b
    | number | minusNan | string => exact settles_simple _ b trivial
    | list | map => exact settles_parts trivial hkinds
termination_by sizeOf a

theorem Settles.looseEq_eq (h : Settles a b r) : looseEq a b = r := by
  induction h with
  | nulls | strings => rfl
  | nullLeft right => exact looseEq_null_left right
  | nullRight left => exact looseEq_null_right left
  | numbers left right => exact looseEq_of_numbers left right
  | bools x y => exact looseEq_bools x y
  | numberString left s => exact looseEq_of_number_string left s
  | stringNumber s right => exact looseEq_of_string_number s right
  | boolLeft _ _ _ ih => rw [looseEq_bool_left, ih]
  | boolRight _ _ _ ih => rw [looseEq_bool_right, ih]
  | partsLeft left _ _ kinds _ ih => rw [looseEq_parts_left left kinds, ih]
  | partsRight left right _ ih => rw [looseEq_parts_right right (left.not_alike _), ih]
  | lists length _ ih => exact (looseEq_lists_iff _ _).mpr ⟨length, ih⟩
  | listLengths length =>
    rw [← Bool.not_eq_true, looseEq_lists_iff]
    exact fun h => length h.1
  | listItem left right _ ih =>
    rw [← Bool.not_eq_true, looseEq_lists_iff]
    exact fun h => Bool.false_ne_true (ih.symm.trans (h.2 _ _ _ left right))
  | maps length present _ ih =>
    refine (looseEq_maps_iff _ _).mpr ⟨length, fun key a ha => ?_⟩
    obtain ⟨b, hb⟩ := Option.isSome_iff_exists.mp (present _ ha)
    exact ⟨b, hb, ih key a b ha hb⟩
  | mapLengths length =>
    rw [← Bool.not_eq_true, looseEq_maps_iff]
    exact fun h => length h.1
  | mapMissing left right =>
    rw [← Bool.not_eq_true, looseEq_maps_iff]
    rintro ⟨-, h⟩
    obtain ⟨b, hb, -⟩ := h _ _ left
    cases right.symm.trans hb
  | mapContent left right _ ih =>
    rw [← Bool.not_eq_true, looseEq_maps_iff]
    rintro ⟨-, h⟩
    obtain ⟨b, hb, hcontent⟩ := h _ _ left
    cases right.symm.trans hb
    exact Bool.false_ne_true (ih.symm.trans hcontent)

theorem settles_iff (a b : Value) (r : Bool) : Settles a b r ↔ looseEq a b = r :=
  ⟨Settles.looseEq_eq, fun h => h ▸ settles a b⟩

/-! ## 5. Turned around -/

/-- A map that has as many keys as another, and all of that one's keys, has no others. -/
theorem exists_mem_of_get? {as bs : Fields Value} (hlength : as.length = bs.length) (has : (Fields.keys as).Nodup)
    (hpresent : ∀ f ∈ as, (Fields.get? f.1 bs).isSome) {key : String} {b : Value} (hb : (key, b) ∈ bs) :
    ∃ a, (key, a) ∈ as := by
  have hsub : Fields.keys as ⊆ Fields.keys bs := by
    intro name hname
    obtain ⟨f, hf, rfl⟩ := List.mem_map.mp hname
    obtain ⟨c, hc⟩ := Option.isSome_iff_exists.mp (hpresent f hf)
    exact List.mem_map.mpr ⟨(f.1, c), Fields.mem_of_get? hc, rfl⟩
  have hmany : (Fields.keys bs).length = (Fields.keys as).length := by
    rw [Fields.keys, Fields.keys, List.length_map, List.length_map, hlength]
  have hperm := (List.subperm_of_subset has hsub).perm_of_length_le (Nat.le_of_eq hmany)
  obtain ⟨⟨name, a⟩, ha, rfl⟩ := List.mem_map.mp (hperm.mem_iff.mpr (List.mem_map.mpr ⟨(key, b), hb, rfl⟩))
  exact ⟨a, ha⟩

theorem Simple.distinct (ha : a.Simple) : a.Distinct :=
  distinct_scalar (fun entries h => by subst h; exact ha) fun items h => by subst h; exact ha

/-- An answer of yes stays yes when the comparison is turned around. The induction is on how it was settled, so what a
conversion leads to has been turned around already. -/
theorem Settles.looseEq_swap (h : Settles a b r) :
    r = true → a.Distinct → b.Distinct → looseEq b a = true := by
  induction h with
  | nulls => exact fun _ _ _ => rfl
  | nullLeft | nullRight | listLengths | listItem | mapLengths | mapMissing | mapContent => exact fun h => by cases h
  | strings s t =>
    intro h _ _
    rw [beq_iff_eq] at h
    rw [h]
    exact beq_self_eq_true t
  | numbers left right =>
    intro h _ _
    rw [looseEq_of_numbers right left, Number.beq_comm, h]
  | bools x y =>
    intro h _ _
    rw [looseEq_bools, beq_iff_eq.mp h]
    exact beq_self_eq_true y
  | numberString left s =>
    intro h _ _
    rw [looseEq_of_string_number s left, Number.beq_comm, h]
  | stringNumber s right =>
    intro h _ _
    rw [looseEq_of_number_string right s, Number.beq_comm, h]
  | boolLeft _ _ _ ih =>
    intro h _ hb
    rw [looseEq_bool_right]
    exact ih h (Simple.distinct trivial) hb
  | boolRight _ _ _ ih =>
    intro h ha _
    rw [looseEq_bool_left]
    exact ih h ha (Simple.distinct trivial)
  | partsLeft left _ _ kinds _ ih =>
    intro h _ hb
    rw [looseEq_parts_right left fun halike => kinds halike.symm]
    exact ih h (Simple.distinct trivial) hb
  | partsRight left right _ ih =>
    intro h ha _
    rw [looseEq_parts_left right fun halike => left.not_alike _ halike.symm]
    exact ih h ha (Simple.distinct trivial)
  | lists length _ ih =>
    intro _ ha hb
    refine (looseEq_lists_iff _ _).mpr ⟨length.symm, fun i b a hi hj => ?_⟩
    exact ih i a b hj hi rfl (ha.item hj) (hb.item hi)
  | @maps as bs length present _ ih =>
    -- every key of the second map is one of the first, or else it would have more of them
    intro _ ha hb
    refine (looseEq_maps_iff _ _).mpr ⟨length.symm, fun key b hmem => ?_⟩
    obtain ⟨a, hkey⟩ := exists_mem_of_get? length ha.keys present hmem
    have hget := Fields.get?_of_mem hb.keys hmem
    exact ⟨a, Fields.get?_of_mem ha.keys hkey,
      ih key a b hkey hget rfl (ha.of_mem_entries _ hkey) (hb.of_mem_entries _ hmem)⟩

theorem looseEq_comm (ha : a.Distinct) (hb : b.Distinct) : looseEq a b = looseEq b a := by
  rw [Bool.eq_iff_iff]
  exact ⟨fun h => (settles a b).looseEq_swap h ha hb, fun h => (settles b a).looseEq_swap h hb ha⟩

/-! ## 6. Sameness -/

mutual

/-- What is the same is leniently equal. -/
theorem looseEq_of_same : ∀ a b : Value, same a b = true → looseEq a b = true
  | .null, .null, _ => rfl
  | .bool x, .bool y, h => (looseEq_bools x y).trans h
  | .number _, .number _, h => h
  | .string _, .string _, h => h
  | .list as, .list bs, h => looseEqItems_of_same as bs h
  | .map as, .map bs, h => by
    rw [same, Bool.and_eq_true] at h
    rw [looseEq, Bool.and_eq_true]
    exact ⟨h.1, looseEqEntries_of_same as bs h.2⟩

theorem looseEqItems_of_same : ∀ as bs : List Value, sameItems as bs = true → looseEqItems as bs = true
  | [], [], _ => rfl
  | a :: as, b :: bs, h => by
    rw [sameItems, Bool.and_eq_true] at h
    rw [looseEqItems, Bool.and_eq_true]
    exact ⟨looseEq_of_same a b h.1, looseEqItems_of_same as bs h.2⟩

theorem looseEqEntries_of_same : ∀ as bs : List (String × Value), sameEntries as bs = true → looseEqEntries as bs = true
  | [], _, _ => rfl
  | (key, a) :: as, bs, h => by
    rw [sameEntries, Bool.and_eq_true] at h
    rw [looseEqEntries, Bool.and_eq_true]
    refine ⟨?_, looseEqEntries_of_same as bs h.2⟩
    cases hget : Fields.get? key bs with
    | none =>
      rw [hget] at h
      cases h.1
    | some b =>
      rw [hget] at h
      exact looseEq_of_same a b h.1

end

/-! ## 7. A value and itself -/

/-- Nowhere in the value is there what is not a number. -/
def NanFree (v : Value) : Prop := ∀ p w, v.at? p = some w → w.isNan = false

variable {v : Value}

theorem NanFree.at? {p : List Step} {w : Value} (h : v.NanFree) (hw : v.at? p = some w) : w.NanFree := by
  intro q u hu
  refine h (p ++ q) u ?_
  rw [at?_append, hw]
  exact hu

theorem looseEq_number_self (x : Float) : looseEq (.number x) (.number x) = !x.isNaN := Number.beq_self x

theorem nanFree_of_looseEq (hkeys : v.Distinct) (h : looseEq v v = true) : v.NanFree := by
  intro p w hw
  induction p generalizing v with
  | nil =>
    cases hw
    cases w with
    | number x =>
      rw [looseEq_number_self, Bool.not_eq_true'] at h
      exact h
    | minusNan => cases h.symm.trans (Number.beq_self Number.nan)
    | _ => rfl
  | cons step p ih =>
    cases step with
    | key key =>
      obtain ⟨entries, child, rfl, hchild, hp⟩ := eq_map_of_at?_key hw
      obtain ⟨b, hb, hcontent⟩ := ((looseEq_maps_iff _ _).mp h).2 key child (Fields.mem_of_get? hchild)
      cases hchild.symm.trans hb
      exact ih (hkeys.child hchild) hcontent hp
    | index i =>
      obtain ⟨items, item, rfl, hitem, hp⟩ := eq_list_of_at?_index hw
      exact ih (hkeys.item hitem) (((looseEq_lists_iff _ _).mp h).2 i item item hitem hitem) hp

theorem NanFree.looseEq_self (v : Value) (hkeys : v.Distinct) (h : v.NanFree) : looseEq v v = true := by
  cases v with
  | null => rfl
  | bool x => exact (looseEq_bools x x).trans (beq_self_eq_true x)
  | number x =>
    rw [looseEq_number_self, Bool.not_eq_true']
    exact h [] _ rfl
  | minusNan => cases h [] _ rfl
  | string s => exact beq_self_eq_true s
  | list items =>
    refine (looseEq_lists_iff _ _).mpr ⟨rfl, fun i a b ha hb => ?_⟩
    cases ha.symm.trans hb
    have hsize := sizeOf_lt_of_getElem? ha
    exact looseEq_self a (hkeys.item ha) (h.at? (p := [.index i]) (by rw [at?_index, ha]; rfl))
  | map entries =>
    refine (looseEq_maps_iff _ _).mpr ⟨rfl, fun key a ha => ?_⟩
    have hget := Fields.get?_of_mem hkeys.keys ha
    have hsize := sizeOf_lt_of_mem_entries ha
    exact ⟨a, hget, looseEq_self a (hkeys.child hget) (h.at? (p := [.key key]) (by rw [at?_key, hget]; rfl))⟩
termination_by sizeOf v

/-- **Lenient equality extends sameness.** Converted one at a time, two values always settle, and on the answer of the
function. That answer is the same from either side. It is yes for what is the same, and for a value and itself it is yes
if there is nothing in it that is not a number, and only then. -/
theorem looseEq_extends_same (a b : Value) :
    (∀ r, Settles a b r ↔ a.looseEq b = r) ∧
    (a.Distinct → b.Distinct → a.looseEq b = b.looseEq a) ∧
    (a.same b = true → a.looseEq b = true) ∧
    (a.Distinct → (a.looseEq a = true ↔ a.NanFree)) :=
  ⟨settles_iff a b, looseEq_comm, looseEq_of_same a b, fun h => ⟨nanFree_of_looseEq h, NanFree.looseEq_self a h⟩⟩

/-- Two maps of the same content in another order, with a list inside. -/
theorem looseEq_extends_same_reordered :
    let a : Value := .map [("n", .list [.number 1, .bool true]), ("s", .string "x")]
    let b : Value := .map [("s", .string "x"), ("n", .list [.number 1, .bool true])]
    a.Distinct ∧ b.Distinct ∧ a.same b = true ∧ Settles a b true ∧ b.looseEq a = true ∧ a.NanFree := by
  intro a b
  have hnumber : (Value.number 1).Distinct := Simple.distinct trivial
  have hbool : (Value.bool true).Distinct := distinct_scalar (by simp) (by simp)
  have hstring : (Value.string "x").Distinct := Simple.distinct trivial
  have hlist : (Value.list [.number 1, .bool true]).Distinct :=
    distinct_list (List.forall_mem_cons.mpr ⟨hnumber, List.forall_mem_singleton.mpr hbool⟩)
  have ha : a.Distinct :=
    distinct_map (by decide) (List.forall_mem_cons.mpr ⟨hlist, List.forall_mem_singleton.mpr hstring⟩)
  have hb : b.Distinct :=
    distinct_map (by decide) (List.forall_mem_cons.mpr ⟨hstring, List.forall_mem_singleton.mpr hlist⟩)
  have hsame : a.same b = true := by decide
  have hself : a.looseEq a = true := by decide
  obtain ⟨hsettles, hcomm, hextends, hnan⟩ := looseEq_extends_same a b
  have heq := hextends hsame
  exact ⟨ha, hb, hsame, (hsettles true).mpr heq, hcomm ha hb ▸ heq, (hnan ha).mp hself⟩

end Stencil.Value
