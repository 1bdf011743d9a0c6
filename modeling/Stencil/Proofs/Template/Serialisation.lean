import Stencil.Template.Nesting

/-!
Trees and their tokens.

A tree of nodes that has no defects comes from the sequence of its tags and texts in the order of the source: a
block is its opening tag, its body, perhaps the tag of a second branch with that branch, and the closing tag of
the same name (`Serialises`). The pass over such a sequence adds just the nodes of the tree where reading stands,
whatever blocks are open there, and leaves no block open that was not open before.
-/

namespace Stencil.Template

/-- The tokens are those of the nodes, in the order of the source, with the places that the nodes have. -/
inductive Serialises : List Token → List Node → Prop
  | nil : Serialises [] []
  | text {s span ts nodes} (others : Serialises ts nodes) : Serialises (⟨.text s, span⟩ :: ts) (.text s :: nodes)
  | expression {inner span ts nodes} (nonempty : inner.isEmpty = false) (others : Serialises ts nodes) :
      Serialises (⟨.expression inner, span⟩ :: ts) (.expression (Call.read inner) span :: nodes)
  | block {inner name first last body bodyNodes ts nodes} (named : (Call.read inner).name? = some name)
      (nonempty : name.isEmpty = false) (inside : Serialises body bodyNodes) (others : Serialises ts nodes) :
      Serialises (⟨.opening inner, first⟩ :: (body ++ ⟨.closing name, last⟩ :: ts))
        (.block (Call.read inner) bodyNodes none ⟨first.stop, last.start⟩ ⟨first.start, last.stop⟩ :: nodes)
  | branches {inner name first middle last body bodyNodes inverse inverseNodes ts nodes}
      (named : (Call.read inner).name? = some name) (nonempty : name.isEmpty = false)
      (inside : Serialises body bodyNodes) (otherwise : Serialises inverse inverseNodes)
      (others : Serialises ts nodes) :
      Serialises
        (⟨.opening inner, first⟩ :: (body ++ ⟨.otherwise, middle⟩ :: (inverse ++ ⟨.closing name, last⟩ :: ts)))
        (.block (Call.read inner) bodyNodes (some inverseNodes) ⟨first.stop, middle.start⟩
          ⟨first.start, last.stop⟩ :: nodes)

/-! ## 1. Open blocks -/

theorem OpenBlock.append_nil (block : OpenBlock) : block.append [] = block := by
  unfold OpenBlock.append
  split
  · next inverse hinverse => rw [List.append_nil, ← hinverse]
  · rw [List.append_nil]

theorem OpenBlock.append_append (block : OpenBlock) (nodes more : List Node) :
    (block.append nodes).append more = block.append (nodes ++ more) := by
  obtain ⟨name, call, span, body, inverse, bodyStop⟩ := block
  cases inverse <;> simp [OpenBlock.append]

namespace Outline

theorem append_nil (outline : Outline) : outline.append [] = outline := by
  obtain ⟨root, stack⟩ := outline
  cases stack with
  | nil => simp [append]
  | cons block stack => simp [append, block.append_nil]

theorem append_append (outline : Outline) (nodes more : List Node) :
    (outline.append nodes).append more = outline.append (nodes ++ more) := by
  obtain ⟨root, stack⟩ := outline
  cases stack with
  | nil => simp [append]
  | cons block stack => simp [append, block.append_append]

/-- A closing tag of the name of the innermost open block closes that block. -/
theorem closing_innermost (root : List Node) (block : OpenBlock) (stack : List OpenBlock) (span : Span) :
    closing ⟨root, block :: stack⟩ block.name span = append ⟨root, stack⟩ [block.closed span] := by
  rw [closing, if_pos (by simp), unwind, block.append_nil, if_pos rfl]

theorem opening_named (outline : Outline) {inner name : String} (span : Span)
    (hname : (Call.read inner).name? = some name) (hne : name.isEmpty = false) :
    outline.opening inner span =
      { outline with stack := ⟨name, Call.read inner, span, [], none, none⟩ :: outline.stack } := by
  rw [opening]
  simp only [hname, Option.filter, hne, Bool.not_false, if_true]

end Outline

/-! ## 2. The pass -/

/-- The pass over the tokens of nodes adds these nodes. -/
theorem Serialises.foldl {ts : List Token} {nodes : List Node} (h : Serialises ts nodes) (outline : Outline) :
    ts.foldl Outline.step outline = outline.append nodes := by
  induction h generalizing outline with
  | nil => exact outline.append_nil.symm
  | text _ ih =>
    rw [List.foldl_cons, ih]
    exact outline.append_append [_] _
  | expression hne _ ih =>
    rw [List.foldl_cons, ih, Outline.step]
    simp only [hne, Bool.false_eq_true, if_false]
    exact outline.append_append [_] _
  | @block inner name first last body bodyNodes ts nodes hname hne _ _ ihInside ihOthers =>
    have hopen : outline.step ⟨.opening inner, first⟩ =
        ⟨outline.root, ⟨name, Call.read inner, first, [], none, none⟩ :: outline.stack⟩ :=
      outline.opening_named first hname hne
    rw [List.foldl_cons, List.foldl_append, List.foldl_cons, hopen, ihInside, ihOthers]
    -- the body has been collected in the block, which is the innermost one
    have hclose := Outline.closing_innermost outline.root ⟨name, Call.read inner, first, bodyNodes, none, none⟩
      outline.stack last
    exact (congrArg (Outline.append · nodes) hclose).trans (outline.append_append [_] nodes)
  | @branches inner name first middle last body bodyNodes inverse inverseNodes ts nodes hname hne _ _ _ ihInside
      ihOtherwise ihOthers =>
    have hopen : outline.step ⟨.opening inner, first⟩ =
        ⟨outline.root, ⟨name, Call.read inner, first, [], none, none⟩ :: outline.stack⟩ :=
      outline.opening_named first hname hne
    rw [List.foldl_cons, List.foldl_append, List.foldl_cons, List.foldl_append, List.foldl_cons, hopen, ihInside,
      ihOtherwise, ihOthers]
    -- after the tag of the second branch it is the second branch that the block collects
    have hclose := Outline.closing_innermost outline.root
      ⟨name, Call.read inner, first, bodyNodes, some inverseNodes, some middle.start⟩ outline.stack last
    exact (congrArg (Outline.append · nodes) hclose).trans (outline.append_append [_] nodes)

/-- **The tree of the tokens of nodes** is these nodes. -/
theorem Serialises.nodesOfTokens {ts : List Token} {nodes : List Node} (h : Serialises ts nodes) :
    Template.nodesOfTokens ts = nodes := by
  rw [Template.nodesOfTokens, h.foldl]
  simp [Outline.empty, Outline.append, Outline.finish, Outline.settle]

end Stencil.Template
