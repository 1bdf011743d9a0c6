import Stencil.Proofs.Template.Conservation
import Stencil.Proofs.Template.Serialisation

/-!
Well-nested tokens.

A tree without defects comes from its own tokens and from no other ones: the pass accepts exactly the sequences in
which every block is closed, and then the tree that it builds is the one that the sequence spells out. One half is
that the pass follows a well-nested sequence; the other is that what any tokens yield has a defect as soon as one of
them is out of place.

That tags pair up from the inside is how well-nested sequences are made. Between an opening tag and the tag that
divides or closes its block stand only whole blocks, so no block that was opened later is still open there.
-/

namespace Stencil.Template

variable {ts : List Token} {nodes : List Node}

/-! ## 1. Trees without defects -/

theorem Serialises.listDefects (h : Serialises ts nodes) : listDefects nodes = [] := by
  induction h with
  | nil => rfl
  | text _ ih => exact ih
  | expression _ _ ih => exact ih
  | block _ _ _ _ ihInside ihOthers =>
    rw [Template.listDefects, Node.defects, branchDefects, ihInside, ihOthers]
    rfl
  | branches _ _ _ _ _ ihInside ihOtherwise ihOthers =>
    rw [Template.listDefects, Node.defects, branchDefects, ihInside, ihOtherwise, ihOthers]
    rfl

/-- Tokens that yield no defects are well nested. -/
theorem Yields.serialises (h : Yields ts nodes) (hsound : listDefects nodes = []) : Serialises ts nodes := by
  induction h with
  | nil => exact .nil
  | text _ ih => exact .text (ih hsound)
  | expression hne _ ih => exact .expression hne (ih hsound)
  | faulty _ _ _ => cases hsound
  | abandoned _ _ _ _ _ => cases hsound
  | block hnamed _ _ ihInside ihOthers =>
    rw [listDefects, Node.defects, branchDefects, List.append_nil, List.append_eq_nil_iff] at hsound
    exact .block hnamed.1 hnamed.2 (ihInside hsound.1) (ihOthers hsound.2)
  | branches hnamed _ _ _ ihInside ihOtherwise ihOthers =>
    rw [listDefects, Node.defects, branchDefects, List.append_eq_nil_iff, List.append_eq_nil_iff] at hsound
    exact .branches hnamed.1 hnamed.2 (ihInside hsound.1.1) (ihOtherwise hsound.1.2) (ihOthers hsound.2)

/-! ## 2. Tags and their blocks -/

/-- The node stands among the nodes, or in a branch of a block among them, at any depth. -/
inductive Contains : List Node → Node → Prop
  | here {nodes node} (h : node ∈ nodes) : Contains nodes node
  | body {nodes call body inverse bodySpan span node} (h : .block call body inverse bodySpan span ∈ nodes)
      (inside : Contains body node) : Contains nodes node
  | inverse {nodes call body inverse bodySpan span node} (h : .block call body (some inverse) bodySpan span ∈ nodes)
      (inside : Contains inverse node) : Contains nodes node

theorem Contains.tail {node other : Node} (h : Contains nodes node) : Contains (other :: nodes) node := by
  cases h with
  | here h => exact .here (List.mem_cons_of_mem _ h)
  | body h inside => exact .body (List.mem_cons_of_mem _ h) inside
  | inverse h inside => exact .inverse (List.mem_cons_of_mem _ h) inside

/-- The tag belongs to a block of the tree, as the tag that divides it or the one that closes it. Before and behind the
tag stand whole branches of the block, so the block is the innermost one that is open there. -/
inductive Belongs (nodes : List Node) : (early : List Token) → Token → (late : List Token) → Prop
  | divides (outer : List Token) {inner name first middle last body bodyNodes inverse inverseNodes rest}
      (named : Names inner name) (inside : Serialises body bodyNodes) (otherwise : Serialises inverse inverseNodes)
      (found : Contains nodes (.block (Call.read inner) bodyNodes (some inverseNodes) ⟨first.stop, middle.start⟩
        ⟨first.start, last.stop⟩)) :
      Belongs nodes (outer ++ ⟨.opening inner, first⟩ :: body) ⟨.otherwise, middle⟩
        (inverse ++ ⟨.closing name, last⟩ :: rest)
  | closes (outer : List Token) {inner name first last body bodyNodes rest} (named : Names inner name)
      (inside : Serialises body bodyNodes)
      (found : Contains nodes (.block (Call.read inner) bodyNodes none ⟨first.stop, last.start⟩
        ⟨first.start, last.stop⟩)) :
      Belongs nodes (outer ++ ⟨.opening inner, first⟩ :: body) ⟨.closing name, last⟩ rest
  | closesDivided (outer : List Token) {inner name first middle last body bodyNodes inverse inverseNodes rest}
      (named : Names inner name) (inside : Serialises body bodyNodes) (otherwise : Serialises inverse inverseNodes)
      (found : Contains nodes (.block (Call.read inner) bodyNodes (some inverseNodes) ⟨first.stop, middle.start⟩
        ⟨first.start, last.stop⟩)) :
      Belongs nodes (outer ++ ⟨.opening inner, first⟩ :: (body ++ ⟨.otherwise, middle⟩ :: inverse))
        ⟨.closing name, last⟩ rest

/-- The token is the tag of a second branch or a closing tag. -/
def Token.endsBranch (t : Token) : Bool :=
  match t.kind with
  | .otherwise | .closing _ => true
  | _ => false

/-- A tag belongs to the same block in the whole tree as in a part of it. -/
theorem Belongs.within {inside : List Node} {early late : List Token} {t : Token} (h : Belongs inside early t late)
    (hpart : ∀ node, Contains inside node → Contains nodes node) (before after : List Token) :
    Belongs nodes (before ++ early) t (late ++ after) := by
  cases h with
  | divides outer named inside otherwise found =>
    rw [← List.append_assoc before, List.append_assoc _ _ after, List.cons_append]
    exact .divides (before ++ outer) named inside otherwise (hpart _ found)
  | closes outer named inside found =>
    rw [← List.append_assoc before]
    exact .closes (before ++ outer) named inside (hpart _ found)
  | closesDivided outer named inside otherwise found =>
    rw [← List.append_assoc before]
    exact .closesDivided (before ++ outer) named inside otherwise (hpart _ found)

/-- A tag in the rest of the tokens belongs to the same block with more tokens and one more node before them. -/
theorem Belongs.behind {early late : List Token} {t : Token} (h : Belongs nodes early t late) (before : List Token)
    (node : Node) : Belongs (node :: nodes) (before ++ early) t late := by
  have hwhole : Belongs (node :: nodes) (before ++ early) t (late ++ []) := h.within (fun _ => .tail) before []
  rwa [List.append_nil] at hwhole

/-- An element of two lists with another one between them is in the first list, the one between, or in the second. -/
theorem append_cons_eq_append_cons {α : Type} {left right before after : List α} {c t : α}
    (h : left ++ c :: right = before ++ t :: after) :
    (∃ rest, left = before ++ t :: rest ∧ after = rest ++ c :: right) ∨ (left = before ∧ c = t ∧ right = after) ∨
      ∃ rest, before = left ++ c :: rest ∧ right = rest ++ t :: after := by
  rcases List.append_eq_append_iff.mp h with ⟨rest, rfl, hrest⟩ | ⟨rest, rfl, hrest⟩
  · cases rest with
    | nil =>
      obtain ⟨rfl, rfl⟩ := List.cons.inj hrest
      exact .inr (.inl ⟨(List.append_nil _).symm, rfl, rfl⟩)
    | cons d rest =>
      obtain ⟨rfl, rfl⟩ := List.cons.inj hrest
      exact .inr (.inr ⟨rest, rfl, rfl⟩)
  · cases rest with
    | nil =>
      obtain ⟨rfl, rfl⟩ := List.cons.inj hrest
      exact .inr (.inl ⟨List.append_nil _, rfl, rfl⟩)
    | cons d rest =>
      obtain ⟨rfl, rfl⟩ := List.cons.inj hrest
      exact .inl ⟨rest, rfl, rfl⟩

/-- In well-nested tokens every tag that divides or closes belongs to a block. -/
theorem Serialises.belongs (h : Serialises ts nodes) {early late : List Token} {t : Token} (hends : t.endsBranch = true)
    (hts : ts = early ++ t :: late) : Belongs nodes early t late := by
  induction h generalizing early late with
  | nil => cases early <;> cases hts
  | text _ ih =>
    cases early with
    | nil =>
      cases hts
      cases hends
    | cons u early => exact (ih (List.cons.inj hts).2).behind [u] _
  | expression _ _ ih =>
    cases early with
    | nil =>
      cases hts
      cases hends
    | cons u early => exact (ih (List.cons.inj hts).2).behind [u] _
  | @block inner name first last body bodyNodes ts nodes hname hne hinside _ ihInside ihOthers =>
    cases early with
    | nil =>
      cases hts
      cases hends
    | cons u early =>
      obtain ⟨rfl, hrest⟩ := List.cons.inj hts
      -- the tag is in the body, closes the block, or comes after it
      rcases append_cons_eq_append_cons hrest with ⟨rest, hbody, rfl⟩ | ⟨rfl, rfl, rfl⟩ | ⟨rest, rfl, hothers⟩
      · exact (ihInside hbody).within (fun _ => .body List.mem_cons_self) [_] _
      · exact .closes [] ⟨hname, hne⟩ hinside (.here List.mem_cons_self)
      · rw [List.append_cons body, ← List.cons_append]
        exact (ihOthers hothers).behind _ _
  | @branches inner name first middle last body bodyNodes inverse inverseNodes ts nodes hname hne hinside hotherwise _
      ihInside ihOtherwise ihOthers =>
    cases early with
    | nil =>
      cases hts
      cases hends
    | cons u early =>
      obtain ⟨rfl, hrest⟩ := List.cons.inj hts
      -- the tag is in the body, divides the block, or comes after that
      rcases append_cons_eq_append_cons hrest with ⟨rest, hbody, rfl⟩ | ⟨rfl, rfl, rfl⟩ | ⟨rest, rfl, hlater⟩
      · exact (ihInside hbody).within (fun _ => .body List.mem_cons_self) [_] _
      · exact .divides [] ⟨hname, hne⟩ hinside hotherwise (.here List.mem_cons_self)
      · -- the tag is in the second branch, closes the block, or comes after it
        rcases append_cons_eq_append_cons hlater with ⟨rest, hinverse, rfl⟩ | ⟨rfl, rfl, rfl⟩ | ⟨rest, rfl, hothers⟩
        · rw [List.append_cons body, ← List.cons_append]
          exact (ihOtherwise hinverse).within (fun _ => .inverse List.mem_cons_self) _ _
        · exact .closesDivided [] ⟨hname, hne⟩ hinside hotherwise (.here List.mem_cons_self)
        · rw [List.append_cons inverse, ← List.cons_append, ← List.cons_append, ← List.append_assoc]
          exact (ihOthers hothers).behind _ _

/-! ## 3. Acceptance -/

/-- **The pass accepts exactly the well-nested tokens**, and builds the tree that they spell out; in it every tag that
divides or closes a block belongs to the innermost block that is open where it stands. -/
theorem nodesOfTokens_wellNested (ts : List Token) :
    (listDefects (nodesOfTokens ts) = [] ↔ ∃ nodes, Serialises ts nodes) ∧
      ∀ nodes, Serialises ts nodes → nodesOfTokens ts = nodes ∧
        ∀ early t late, ts = early ++ t :: late → t.endsBranch = true → Belongs (nodesOfTokens ts) early t late := by
  refine ⟨⟨fun hsound => ?_, ?_⟩, fun nodes h => ?_⟩
  · exact ⟨_, (yields_nodesOfTokens ts).serialises hsound⟩
  · rintro ⟨nodes, h⟩
    rw [h.nodesOfTokens, h.listDefects]
  · rw [h.nodesOfTokens]
    exact ⟨rfl, fun early t late hts hends => h.belongs hends hts⟩

/-- Two blocks of one name, one in the other, of which the inner one is divided. -/
def nestedTags : List Token :=
  [⟨.opening "if a", ⟨0, 9⟩⟩, ⟨.opening "if b", ⟨9, 18⟩⟩, ⟨.text "x", ⟨18, 19⟩⟩, ⟨.otherwise, ⟨19, 27⟩⟩,
    ⟨.closing "if", ⟨27, 34⟩⟩, ⟨.expression "y", ⟨34, 39⟩⟩, ⟨.closing "if", ⟨39, 46⟩⟩]

theorem nodesOfTokens_wellNested_nestedTags :
    Serialises nestedTags (nodesOfTokens nestedTags) ∧ listDefects (nodesOfTokens nestedTags) = [] ∧
      Belongs (nodesOfTokens nestedTags) (nestedTags.take 3) ⟨.otherwise, ⟨19, 27⟩⟩ (nestedTags.drop 4) := by
  have hname : ∀ inner ∈ ["if a", "if b"], (Call.read inner).name? = some "if" := by decide +kernel
  have hif : "if".isEmpty = false := by decide
  have hy : "y".isEmpty = false := by decide
  have h : Serialises nestedTags _ := .block (hname "if a" (by simp)) hif
    (.branches (hname "if b" (by simp)) hif (.text .nil) .nil (.expression hy .nil)) .nil
  obtain ⟨haccepted, htree⟩ := nodesOfTokens_wellNested nestedTags
  obtain ⟨hnodes, hbelongs⟩ := htree _ h
  exact ⟨hnodes.symm ▸ h, haccepted.mpr ⟨_, h⟩, hbelongs _ _ _ rfl rfl⟩

end Stencil.Template
