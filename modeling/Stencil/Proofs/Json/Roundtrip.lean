import Stencil.Proofs.Fields
import Stencil.Proofs.Json.Layout

/-!
Reading a document that was written.

Three things can keep a document from being read as it was written: it is nested too deeply, a name stands in it twice,
or it has a number that is not read exactly. A document of integers without any of these (`Carried`) comes back from
both forms in which documents are written.
-/

namespace Stencil

namespace Json

/-! ## 1. Documents that come back -/

/-- A document with no more than so many lists and objects inside one another, in which no name stands twice and every
number is an integer that fits a machine word. -/
inductive Carried : Nat → Json → Prop
  | null {depth : Nat} : Carried depth .null
  | bool {depth : Nat} (b : Bool) : Carried depth (.bool b)
  | integer {depth : Nat} {i : Int} (hi : i.natAbs < 2 ^ 63) : Carried depth (.integer i)
  | string {depth : Nat} (s : String) : Carried depth (.string s)
  | list {depth : Nat} {items : List Json} (hitems : ∀ item ∈ items, Carried depth item) :
      Carried (depth + 1) (.list items)
  | map {depth : Nat} {members : List (String × Json)} (hkeys : (Fields.keys members).Nodup)
      (hmembers : ∀ member ∈ members, Carried depth member.2) : Carried (depth + 1) (.map members)

variable {depth : Nat} {json : Json}

/-- What was written is found in the text of the document, and means the document. -/
structure Spells (depth : Nat) (json : Json) (w : Written) : Prop where
  prints : Prints json w
  value? : w.value? depth = some json

/-- The member of an object that was written. -/
structure SpellsMember (depth : Nat) (member : String × Json) (written : List Piece × Written) : Prop where
  key : written.1 = member.1.toList.map piece
  item : Spells depth member.2 written.2

theorem spells_list {items : List Json} {written : List Written} (h : List.Forall₂ (Spells depth) items written) :
    Spells (depth + 1) (.list items) (.list written) := by
  have hvalues : Written.values? depth written = some items := by
    induction h with
    | nil => rfl
    | cons hitem _ ih =>
      rw [Written.values?, hitem.value?, ih]
      rfl
  refine ⟨prints_list (h.imp fun _ _ hitem => hitem.prints), ?_⟩
  rw [Written.value?, hvalues]
  rfl

theorem spells_map {members : List (String × Json)} {written : List (List Piece × Written)}
    (hkeys : (Fields.keys members).Nodup) (h : List.Forall₂ (SpellsMember depth) members written) :
    Spells (depth + 1) (.map members) (.map written) := by
  have hvalues : Written.members? depth written = some members := by
    clear hkeys
    induction h with
    | nil => rfl
    | @cons member w members written hmember _ ih =>
      obtain ⟨pieces, item⟩ := w
      obtain rfl : pieces = member.1.toList.map piece := hmember.key
      rw [Written.members?, pieceText?_map_piece, hmember.item.value?, ih]
      rfl
  refine ⟨prints_map (h.imp fun _ _ hmember => ⟨hmember.key, hmember.item.prints⟩), ?_⟩
  rw [Written.value?, hvalues, Option.map_some, Fields.ofList_of_nodup hkeys]

/-- If there is something for each item of a list, then there is a list of these. -/
theorem exists_forall₂ {α β : Type} {R : α → β → Prop} {as : List α} (h : ∀ a ∈ as, ∃ b, R a b) :
    ∃ bs, List.Forall₂ R as bs := by
  induction as with
  | nil => exact ⟨[], .nil⟩
  | cons a as ih =>
    obtain ⟨b, hb⟩ := h a List.mem_cons_self
    obtain ⟨bs, hbs⟩ := ih fun a ha => h a (List.mem_cons_of_mem _ ha)
    exact ⟨b :: bs, .cons hb hbs⟩

theorem Carried.exists_spells (h : json.Carried depth) : ∃ w, Spells depth json w := by
  induction h with
  | null => exact ⟨.null, prints_null, rfl⟩
  | bool b => exact ⟨.bool b, prints_bool b, rfl⟩
  | @integer depth i hi => exact ⟨.number (writtenInt i), prints_integer i, value?_writtenInt hi⟩
  | string s =>
    refine ⟨.string (s.toList.map piece), prints_string s, ?_⟩
    rw [Written.value?, pieceText?_map_piece]
    rfl
  | list hitems ih =>
    obtain ⟨written, hwritten⟩ := exists_forall₂ ih
    exact ⟨.list written, spells_list hwritten⟩
  | @map depth members hkeys hmembers ih =>
    have hsome : ∀ member ∈ members, ∃ written, SpellsMember depth member written := by
      intro member hmember
      obtain ⟨w, hw⟩ := ih member hmember
      exact ⟨(member.1.toList.map piece, w), rfl, hw⟩
    obtain ⟨written, hwritten⟩ := exists_forall₂ hsome
    exact ⟨.map written, spells_map hkeys hwritten⟩

/-! ## 2. Reading -/

/-- In every layout the document is read as it is. -/
theorem Carried.ofText?_onto (h : json.Carried maxNesting) (layout : Layout) :
    ofText? (.ofList (layout.onto 0 json [])) = some json := by
  obtain ⟨w, hprints, hvalue⟩ := h.exists_spells
  rw [ofText?, String.toList_ofList, hprints.read?_eq, Option.bind_some, hvalue]

theorem Carried.ofText?_compact (h : json.Carried maxNesting) : ofText? json.compact = some json := by
  rw [compact, Layout.compactOnto_eq 0]
  exact h.ofText?_onto .compact

theorem Carried.ofText?_indented (h : json.Carried maxNesting) : ofText? json.indented = some json := by
  rw [indented, Layout.indentedOnto_eq]
  exact h.ofText?_onto .indented

end Json

end Stencil
