import Stencil.Helper.Json
import Stencil.Proofs.Filter.Position
import Stencil.Proofs.Json.Roundtrip
import Stencil.Proofs.Number.Order
import Stencil.Proofs.Number.Whole
import Stencil.Value.Text

/-!
Values that come back from JSON.

A value of templates becomes a document, the document a text, the text a document again and that a value. The text keeps
everything that a document says about whole numbers (`Stencil.Proofs.Json.Roundtrip`), so what is left are the two ends.
There a double that is a whole number becomes an integer and comes back as this double, and only a minus before zero is
lost: an integer has none.
-/

namespace Stencil

open Stencil.Number

namespace Value

/-! ## 1. Values -/

/-- A value with no more than so many lists and maps inside one another, in which every number is a whole number below
nine quadrillions. -/
inductive Portable : Nat → Value → Prop
  | null {depth : Nat} : Portable depth .null
  | bool {depth : Nat} (b : Bool) : Portable depth (.bool b)
  | number {depth : Nat} {x : Float} {i : Int} (hx : rational? x = some (i : ℚ)) (hi : i.natAbs < 9000000000000000) :
      Portable depth (.number x)
  | string {depth : Nat} (s : String) : Portable depth (.string s)
  | list {depth : Nat} {items : List Value} (hitems : ∀ item ∈ items, Portable depth item) :
      Portable (depth + 1) (.list items)
  | map {depth : Nat} {entries : Fields Value} (hentries : ∀ entry ∈ entries, Portable depth entry.2) :
      Portable (depth + 1) (.map entries)

mutual

/-- The value with every zero in it written without a sign. -/
def unsigned : Value → Value
  | .number x => .number (if x = -0 then 0 else x)
  | .list items => .list (unsignedItems items)
  | .map entries => .map (unsignedEntries entries)
  | v => v

/-- The items of a list with every zero in them written without a sign. -/
def unsignedItems : List Value → List Value
  | [] => []
  | v :: vs => unsigned v :: unsignedItems vs

/-- The entries of a map with every zero in them written without a sign. -/
def unsignedEntries : List (String × Value) → List (String × Value)
  | [] => []
  | (key, v) :: entries => (key, unsigned v) :: unsignedEntries entries

end

variable {v : Value} {items : List Value} {entries : Fields Value} {depth : Nat}

theorem keys_unsignedEntries (entries : Fields Value) :
    Fields.keys (unsignedEntries entries) = Fields.keys entries := by
  induction entries with
  | nil => rfl
  | cons entry entries ih =>
    obtain ⟨key, v⟩ := entry
    exact congrArg (key :: ·) ih

/-! ## 2. The value and its document -/

theorem jsonOfNumber_eq {x : Float} {i : Int} (hx : rational? x = some (i : ℚ)) (hi : i.natAbs < 9000000000000000) :
    jsonOfNumber x = .integer i := by
  obtain ⟨negative, m, e, hparts, -, -⟩ := exists_finite hx
  rw [jsonOfNumber, hparts, whole?_eq hx]
  exact if_pos hi

theorem mem_toJsonItems {json : Json} (h : json ∈ toJsonItems items) : ∃ item ∈ items, json = item.toJson := by
  induction items with
  | nil => cases h
  | cons item items ih =>
    rcases List.mem_cons.mp h with rfl | h
    · exact ⟨item, List.mem_cons_self, rfl⟩
    · obtain ⟨other, hother, heq⟩ := ih h
      exact ⟨other, List.mem_cons_of_mem _ hother, heq⟩

theorem mem_toJsonEntries {member : String × Json} (h : member ∈ toJsonEntries entries) :
    ∃ entry ∈ entries, member = (entry.1, entry.2.toJson) := by
  induction entries with
  | nil => cases h
  | cons entry entries ih =>
    obtain ⟨key, v⟩ := entry
    rcases List.mem_cons.mp h with rfl | h
    · exact ⟨(key, v), List.mem_cons_self, rfl⟩
    · obtain ⟨other, hother, heq⟩ := ih h
      exact ⟨other, List.mem_cons_of_mem _ hother, heq⟩

theorem keys_toJsonEntries (entries : Fields Value) : Fields.keys (toJsonEntries entries) = Fields.keys entries := by
  induction entries with
  | nil => rfl
  | cons entry entries ih =>
    obtain ⟨key, v⟩ := entry
    exact congrArg (key :: ·) ih

theorem Portable.carried_toJson (h : v.Portable depth) (hkeys : v.Distinct) : v.toJson.Carried depth := by
  induction h with
  | null => exact .null
  | bool b => exact .bool b
  | number hx hi =>
    rw [toJson, jsonOfNumber_eq hx hi]
    exact .integer (by omega)
  | string s => exact .string s
  | list hitems ih =>
    refine .list ?_
    intro json hjson
    obtain ⟨item, hitem, rfl⟩ := mem_toJsonItems hjson
    exact ih item hitem (hkeys.of_mem_items item hitem)
  | map hentries ih =>
    refine .map ?_ ?_
    · rw [keys_toJsonEntries]
      exact hkeys.keys
    · intro member hmember
      obtain ⟨entry, hentry, rfl⟩ := mem_toJsonEntries hmember
      exact ih entry hentry (hkeys.of_mem_entries entry hentry)

theorem ofJsonItems_toJsonItems (h : ∀ item ∈ items, ofJson item.toJson = item.unsigned) :
    ofJsonItems (toJsonItems items) = unsignedItems items := by
  induction items with
  | nil => rfl
  | cons item items ih =>
    obtain ⟨hitem, hitems⟩ := List.forall_mem_cons.mp h
    rw [toJsonItems, ofJsonItems, unsignedItems, hitem, ih hitems]

theorem ofJsonMembers_toJsonEntries (h : ∀ entry ∈ entries, ofJson entry.2.toJson = entry.2.unsigned) :
    ofJsonMembers (toJsonEntries entries) = unsignedEntries entries := by
  induction entries with
  | nil => rfl
  | cons entry entries ih =>
    obtain ⟨key, v⟩ := entry
    obtain ⟨hv, hentries⟩ := List.forall_mem_cons.mp h
    rw [toJsonEntries, ofJsonMembers, unsignedEntries, hv, ih hentries]

theorem Portable.ofJson_toJson (h : v.Portable depth) : ofJson v.toJson = v.unsigned := by
  induction h with
  | null => rfl
  | bool b => rfl
  | number hx hi => rw [toJson, jsonOfNumber_eq hx hi, ofJson, ofInt_eq hx (by omega), unsigned]
  | string s => rfl
  | list hitems ih => rw [toJson, ofJson, unsigned, ofJsonItems_toJsonItems ih]
  | map hentries ih => rw [toJson, ofJson, unsigned, ofJsonMembers_toJsonEntries ih]

/-! ## 3. The value and itself without signs before zeros -/

theorem sameItems_unsignedItems (h : ∀ item ∈ items, item.same item.unsigned = true) :
    sameItems items (unsignedItems items) = true := by
  induction items with
  | nil => rfl
  | cons item items ih =>
    obtain ⟨hitem, hitems⟩ := List.forall_mem_cons.mp h
    rw [unsignedItems, sameItems, hitem, ih hitems]
    rfl

theorem get?_unsignedEntries (entries : Fields Value) (key : String) :
    Fields.get? key (unsignedEntries entries) = (Fields.get? key entries).map unsigned := by
  induction entries with
  | nil => rfl
  | cons entry entries ih =>
    obtain ⟨name, v⟩ := entry
    rw [unsignedEntries, Fields.get?, Fields.get?, ih]
    split <;> rfl

theorem sameEntries_eq_true {others : Fields Value}
    (h : ∀ entry ∈ entries, ∃ other, Fields.get? entry.1 others = some other ∧ entry.2.same other = true) :
    sameEntries entries others = true := by
  induction entries with
  | nil => rfl
  | cons entry entries ih =>
    obtain ⟨key, v⟩ := entry
    obtain ⟨⟨other, hother, hsame⟩, hentries⟩ := List.forall_mem_cons.mp h
    rw [sameEntries, hother, ih hentries, Bool.and_true]
    exact hsame

theorem beq_unsigned {x : Float} {q : ℚ} (hx : rational? x = some q) : (x == if x = -0 then 0 else x) = true := by
  split
  · next hzero =>
    subst hzero
    rfl
  · rw [beq_self, Bool.not_eq_true']
    change x.toModel.unpack.isNaN = false
    cases hparts : x.toModel.unpack with
    | notANumber =>
      rw [rational?, hparts] at hx
      cases hx
    | _ => rfl

/-- By the equality of values nothing has changed. -/
theorem Portable.same_unsigned (h : v.Portable depth) (hkeys : v.Distinct) : v.same v.unsigned = true := by
  induction h with
  | null => rfl
  | bool b => exact beq_self_eq_true b
  | number hx hi => exact beq_unsigned hx
  | string s => exact beq_self_eq_true s
  | list hitems ih => exact sameItems_unsignedItems fun item hitem => ih item hitem (hkeys.of_mem_items item hitem)
  | @map depth entries hentries ih =>
    have hlength : entries.length = (unsignedEntries entries).length := by
      have := congrArg List.length (keys_unsignedEntries entries)
      rwa [Fields.keys, Fields.keys, List.length_map, List.length_map, eq_comm] at this
    rw [unsigned, same, Bool.and_eq_true, beq_iff_eq]
    -- as many keys on both sides, and each of them is found
    refine ⟨hlength, sameEntries_eq_true ?_⟩
    intro entry hentry
    refine ⟨entry.2.unsigned, ?_, ih entry hentry (hkeys.of_mem_entries entry hentry)⟩
    rw [get?_unsignedEntries, Fields.get?_of_mem hkeys.keys hentry]
    rfl

end Value

namespace Helper.Json

open Value

variable {v : Value}

theorem parse_of_ofText? {s : String} {json : Json} (h : Stencil.Json.ofText? s = some json) :
    parse (.string s) = .ofJson json := by
  rw [parse, h]
  rfl

/-- **Values go through JSON text.** A value of strings, booleans, nulls and whole numbers below nine quadrillions, with
no more than 127 lists and maps inside one another, is written as a text, with indentation or without, and from this
text it is parsed again, with all keys in their order. Only a minus before a zero is gone, and by the equality of values
that is no difference. The text that a list or map has in output is parsed to the same value. -/
theorem parse_stringify (hkeys : v.Distinct) (hv : v.Portable 127) :
    v.same v.unsigned = true ∧
    (∀ args : Args, args.primary = v → ∃ s, call? "stringify" args = some (.ok (.string s)) ∧
      ∀ again : Args, again.primary = .string s → call? "parse" again = some (.ok v.unsigned)) ∧
    (v.items?.isSome ∨ v.entries?.isSome →
      ∀ again : Args, again.primary = .string v.text → call? "parse" again = some (.ok v.unsigned)) := by
  have hcarried := hv.carried_toJson hkeys
  have hparse {s : String} (hs : Stencil.Json.ofText? s = some v.toJson) (again : Args)
      (hagain : again.primary = .string s) : call? "parse" again = some (.ok v.unsigned) := by
    rw [call?, hagain, parse_of_ofText? hs, hv.ofJson_toJson]
  refine ⟨hv.same_unsigned hkeys, ?_, ?_⟩
  · intro args hargs
    by_cases hpretty : args.flag "pretty" = true
    · refine ⟨v.toJson.indented, ?_, hparse hcarried.ofText?_indented⟩
      rw [call?, hargs, if_pos hpretty]
    · refine ⟨v.toJson.compact, ?_, hparse hcarried.ofText?_compact⟩
      rw [call?, hargs, if_neg hpretty]
  · intro hcontainer
    have htext : v.text = v.toJson.compact := by
      cases v with
      | list items => rfl
      | map entries => rfl
      | _ => exact hcontainer.elim nofun nofun
    rw [htext]
    exact hparse hcarried.ofText?_compact

/-- A map with a string that has to be escaped, a zero with a sign, and lists and maps without anything in them. -/
def sampleValue : Value :=
  .map [("b", .list [.number (-0), .string "\"\n", .null, .list []]), ("a", .map []), ("", .bool true)]

/-- What comes back from its indented text. -/
theorem parse_stringify_sample : ∃ s,
    call? "stringify" ⟨"json.stringify", [sampleValue], [("pretty", .bool true)]⟩ = some (.ok (.string s)) ∧
      call? "parse" ⟨"json.parse", [.string s], []⟩ = some (.ok (.map
        [("b", .list [.number 0, .string "\"\n", .null, .list []]), ("a", .map []), ("", .bool true)])) := by
  have hzero : (Value.number (-0)).Portable 125 := .number (i := 0) rfl (by decide)
  have hvalue : sampleValue.Portable 127 := by
    refine .map ?_
    simp only [List.forall_mem_cons]
    refine ⟨.list ?_, .map nofun, .bool true, nofun⟩
    simp only [List.forall_mem_cons]
    exact ⟨hzero, .string _, .null, .list nofun, nofun⟩
  have hkeys : sampleValue.Distinct := by
    refine distinct_map (by decide) ?_
    simp only [List.forall_mem_cons]
    refine ⟨distinct_list ?_, distinct_map (by decide) nofun, distinct_scalar nofun nofun, nofun⟩
    simp only [List.forall_mem_cons]
    exact ⟨distinct_scalar nofun nofun, distinct_scalar nofun nofun, distinct_scalar nofun nofun, distinct_list nofun,
      nofun⟩
  obtain ⟨s, hs, hparse⟩ := (parse_stringify hkeys hvalue).2.1
    ⟨"json.stringify", [sampleValue], [("pretty", .bool true)]⟩ rfl
  exact ⟨s, hs, hparse ⟨"json.parse", [.string s], []⟩ rfl⟩

end Helper.Json

end Stencil
