import Mathlib.Data.List.Forall2
import Stencil.Proofs.Json.Nesting
import Stencil.Proofs.Json.Tokens

/-!
Tokens of a document that is written.

The two forms in which documents are written differ in the blanks between the tokens and in nothing else. A `Layout`
says which blanks these are, with the proof that they are blanks, and writing goes by it; both forms are layouts, so
what is proved for every layout holds for both. Whatever the layout is, the tokens that are found are those of the
document.
-/

namespace Stencil.Json

open Stencil.Number

/-! ## 1. Layouts -/

/-- The blanks between the tokens of a document. -/
structure Layout where
  /-- The blanks before and behind a part at a level. -/
  lineBreak : Nat → List Char
  /-- The blanks behind a colon. -/
  space : List Char
  isGap_lineBreak : ∀ level, ∀ c ∈ lineBreak level, isGap c = true
  isGap_space : ∀ c ∈ space, isGap c = true

namespace Layout

/-- No blanks at all. -/
def compact : Layout where
  lineBreak _ := []
  space := []
  isGap_lineBreak := nofun
  isGap_space := nofun

/-- Every part on a line of its own. -/
def indented : Layout where
  lineBreak := Json.lineBreak
  space := [' ']
  isGap_lineBreak level c hc := by
    rcases List.mem_cons.mp hc with rfl | hc
    · decide
    · rw [List.eq_of_mem_replicate hc]
      decide
  isGap_space c hc := by
    rw [List.mem_singleton.mp hc]
    decide

mutual

/-- The document in a layout, in front of a text. -/
def onto (layout : Layout) (level : Nat) : Json → List Char → List Char
  | .list items, rest => '[' :: layout.itemsOnto level items (']' :: rest)
  | .map members, rest => '{' :: layout.membersOnto level members ('}' :: rest)
  | json, rest => scalar json ++ rest

/-- The items of a list in a layout, in front of a text. -/
def itemsOnto (layout : Layout) (level : Nat) : List Json → List Char → List Char
  | [], rest => rest
  | [item], rest => layout.lineBreak (level + 1) ++ layout.onto (level + 1) item (layout.lineBreak level ++ rest)
  | item :: items, rest =>
    layout.lineBreak (level + 1) ++ layout.onto (level + 1) item (',' :: layout.itemsOnto level items rest)

/-- The members of an object in a layout, in front of a text. -/
def membersOnto (layout : Layout) (level : Nat) : List (String × Json) → List Char → List Char
  | [], rest => rest
  | [(key, json)], rest =>
    layout.lineBreak (level + 1) ++ quoted key ++
      ':' :: (layout.space ++ layout.onto (level + 1) json (layout.lineBreak level ++ rest))
  | (key, json) :: members, rest =>
    layout.lineBreak (level + 1) ++ quoted key ++
      ':' :: (layout.space ++ layout.onto (level + 1) json (',' :: layout.membersOnto level members rest))

end

mutual

theorem compactOnto_eq (level : Nat) (json : Json) (rest : List Char) :
    json.compactOnto rest = compact.onto level json rest := by
  cases json with
  | list items => rw [compactOnto, onto, compactItemsOnto_eq level items]
  | map members => rw [compactOnto, onto, compactMembersOnto_eq level members]
  | _ => rfl

theorem compactItemsOnto_eq (level : Nat) (items : List Json) (rest : List Char) :
    compactItemsOnto items rest = compact.itemsOnto level items rest := by
  match items with
  | [] => rfl
  | [item] => exact compactOnto_eq (level + 1) item rest
  | item :: next :: items =>
    rw [compactItemsOnto, compactOnto_eq (level + 1) item, compactItemsOnto_eq level (next :: items)]
    · rfl
    · exact List.cons_ne_nil _ _

theorem compactMembersOnto_eq (level : Nat) (members : List (String × Json)) (rest : List Char) :
    compactMembersOnto members rest = compact.membersOnto level members rest := by
  match members with
  | [] => rfl
  | [(key, json)] => exact congrArg (fun text => quoted key ++ ':' :: text) (compactOnto_eq (level + 1) json rest)
  | (key, json) :: next :: members =>
    rw [compactMembersOnto, compactOnto_eq (level + 1) json, compactMembersOnto_eq level (next :: members)]
    · rfl
    · exact List.cons_ne_nil _ _

end

mutual

theorem indentedOnto_eq (level : Nat) (json : Json) (rest : List Char) :
    json.indentedOnto level rest = indented.onto level json rest := by
  cases json with
  | list items => rw [indentedOnto, onto, indentedItemsOnto_eq level items]
  | map members => rw [indentedOnto, onto, indentedMembersOnto_eq level members]
  | _ => rfl

theorem indentedItemsOnto_eq (level : Nat) (items : List Json) (rest : List Char) :
    indentedItemsOnto level items rest = indented.itemsOnto level items rest := by
  match items with
  | [] => rfl
  | [item] =>
    rw [indentedItemsOnto, indentedOnto_eq (level + 1) item]
    rfl
  | item :: next :: items =>
    rw [indentedItemsOnto, indentedOnto_eq (level + 1) item, indentedItemsOnto_eq level (next :: items)]
    · rfl
    · exact List.cons_ne_nil _ _

theorem indentedMembersOnto_eq (level : Nat) (members : List (String × Json)) (rest : List Char) :
    indentedMembersOnto level members rest = indented.membersOnto level members rest := by
  match members with
  | [] => rfl
  | [(key, json)] =>
    rw [indentedMembersOnto, indentedOnto_eq (level + 1) json]
    rfl
  | (key, json) :: next :: members =>
    rw [indentedMembersOnto, indentedOnto_eq (level + 1) json, indentedMembersOnto_eq level (next :: members)]
    · rfl
    · exact List.cons_ne_nil _ _

end

/-- Blanks before a text that no number goes on with. -/
theorem endsNumber_append {gap rest : List Char} (hgap : ∀ c ∈ gap, isGap c = true) (hrest : EndsNumber rest) :
    EndsNumber (gap ++ rest) := by
  cases gap with
  | nil => exact hrest
  | cons c gap =>
    have hc : isGap c = true := hgap c List.mem_cons_self
    simp only [isGap, Bool.or_eq_true, beq_iff_eq] at hc
    rcases hc with ((rfl | rfl) | rfl) | rfl
    · exact ⟨by decide, by decide⟩
    · exact ⟨by decide, by decide⟩
    · exact ⟨by decide, by decide⟩
    · exact ⟨by decide, by decide⟩

end Layout

/-! ## 2. Tokens -/

/-- The tokens of what was written are found in the text of the document, whatever its layout is. -/
def Prints (json : Json) (w : Written) : Prop :=
  ∀ (layout : Layout) (level : Nat) ⦃rest : List Char⦄ ⦃tokens : List Token⦄, EndsNumber rest → Scans rest tokens →
    Scans (layout.onto level json rest) (w.tokens ++ tokens)

variable {items : List Json} {members : List (String × Json)} {written : List Written}
  {writtenMembers : List (List Piece × Written)}

theorem prints_null : Prints .null .null := by
  intro layout level rest tokens _ h
  exact Scans.cons (by decide) rfl h

theorem prints_bool (b : Bool) : Prints (.bool b) (.bool b) := by
  intro layout level rest tokens _ h
  cases b with
  | false => exact Scans.cons (by decide) rfl h
  | true => exact Scans.cons (by decide) rfl h

theorem prints_integer (i : Int) : Prints (.integer i) (.number (writtenInt i)) := by
  intro layout level rest tokens hrest h
  exact Scans.intText i hrest h

theorem prints_string (s : String) : Prints (.string s) (.string (s.toList.map piece)) := by
  intro layout level rest tokens _ h
  exact Scans.quoted s h

/-- If each item is found, so are all items of a list, with the commas between them. -/
theorem scans_itemsOnto (h : List.Forall₂ Prints items written) (layout : Layout) (level : Nat) {rest : List Char}
    {tokens : List Token} (hrest : EndsNumber rest) (hscans : Scans rest tokens) :
    Scans (layout.itemsOnto level items rest) (Written.itemTokens written ++ tokens) := by
  induction h with
  | nil => exact hscans
  | @cons item w items written hitem hmore ih =>
    cases hmore with
    | nil =>
      have hbehind := hscans.gap (layout.isGap_lineBreak level)
      have hends := Layout.endsNumber_append (layout.isGap_lineBreak level) hrest
      exact (hitem layout (level + 1) hends hbehind).gap (layout.isGap_lineBreak (level + 1))
    | @cons next v items written hnext hmore =>
      have hcomma := Scans.cons (by decide) (rfl : Token.next? (',' :: _) = some (.comma, _)) ih
      have hends : EndsNumber (',' :: layout.itemsOnto level (next :: items) rest) := ⟨by decide, by decide⟩
      have hscans := (hitem layout (level + 1) hends hcomma).gap (layout.isGap_lineBreak (level + 1))
      rw [Layout.itemsOnto, Written.itemTokens, List.append_assoc]
      · exact hscans
      · exact List.cons_ne_nil _ _
      · exact List.cons_ne_nil _ _

theorem prints_list (h : List.Forall₂ Prints items written) : Prints (.list items) (.list written) := by
  intro layout level rest tokens _ hscans
  have hclose := Scans.cons (by decide) (rfl : Token.next? (']' :: rest) = some (.closeList, rest)) hscans
  have hends : EndsNumber (']' :: rest) := ⟨by decide, by decide⟩
  have hitems := scans_itemsOnto h layout level hends hclose
  rw [Layout.onto, Written.tokens, List.cons_append, List.append_assoc]
  exact Scans.cons (by decide) rfl hitems

/-- The member of an object that was written. -/
def PrintsMember (member : String × Json) (written : List Piece × Written) : Prop :=
  written.1 = member.1.toList.map piece ∧ Prints member.2 written.2

/-- A name and a colon in front of the document under the name. -/
theorem scans_member (layout : Layout) (level : Nat) (key : String) {text : List Char} {tokens : List Token}
    (h : Scans text tokens) :
    Scans (layout.lineBreak level ++ quoted key ++ ':' :: (layout.space ++ text))
      (.string (key.toList.map piece) :: .colon :: tokens) := by
  have hcolon := Scans.cons (by decide) (rfl : Token.next? (':' :: _) = some (.colon, _)) (h.gap layout.isGap_space)
  rw [List.append_assoc]
  exact (Scans.quoted key hcolon).gap (layout.isGap_lineBreak level)

/-- If each member is found, so are all members of an object, with the commas between them. -/
theorem scans_membersOnto (h : List.Forall₂ PrintsMember members writtenMembers) (layout : Layout) (level : Nat)
    {rest : List Char} {tokens : List Token} (hrest : EndsNumber rest) (hscans : Scans rest tokens) :
    Scans (layout.membersOnto level members rest) (Written.memberTokens writtenMembers ++ tokens) := by
  induction h with
  | nil => exact hscans
  | @cons member w members written hmember hmore ih =>
    obtain ⟨key, json⟩ := member
    obtain ⟨pieces, item⟩ := w
    obtain ⟨hkey, hprints⟩ := hmember
    obtain rfl : pieces = key.toList.map piece := hkey
    cases hmore with
    | nil =>
      have hbehind := hscans.gap (layout.isGap_lineBreak level)
      have hends := Layout.endsNumber_append (layout.isGap_lineBreak level) hrest
      exact scans_member layout (level + 1) key (hprints layout (level + 1) hends hbehind)
    | @cons next v members written hnext hmore =>
      have hcomma := Scans.cons (by decide) (rfl : Token.next? (',' :: _) = some (.comma, _)) ih
      have hends : EndsNumber (',' :: layout.membersOnto level (next :: members) rest) := ⟨by decide, by decide⟩
      have hscans := scans_member layout (level + 1) key (hprints layout (level + 1) hends hcomma)
      rw [Layout.membersOnto, Written.memberTokens, List.cons_append, List.cons_append, List.append_assoc item.tokens]
      · exact hscans
      · exact List.cons_ne_nil _ _
      · exact List.cons_ne_nil _ _

theorem prints_map (h : List.Forall₂ PrintsMember members writtenMembers) :
    Prints (.map members) (.map writtenMembers) := by
  intro layout level rest tokens _ hscans
  have hclose := Scans.cons (by decide) (rfl : Token.next? ('}' :: rest) = some (.closeMap, rest)) hscans
  have hends : EndsNumber ('}' :: rest) := ⟨by decide, by decide⟩
  have hmembers := scans_membersOnto h layout level hends hclose
  rw [Layout.onto, Written.tokens, List.cons_append, List.append_assoc]
  exact Scans.cons (by decide) rfl hmembers

/-- So a document that is found is read as it was written. -/
theorem Prints.read?_eq {json : Json} {w : Written} (h : Prints json w) (layout : Layout) :
    Written.read? (layout.onto 0 json []) = some w := by
  have hscans : Scans (layout.onto 0 json []) (w.tokens ++ []) := h layout 0 trivial (.blank rfl)
  rw [List.append_nil] at hscans
  rw [Written.read?, hscans.scan?_eq, Option.bind_some, Written.ofTokens?_tokens]

end Stencil.Json
