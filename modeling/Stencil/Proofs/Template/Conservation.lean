import Stencil.Proofs.Template.Grammar

/-!
Nothing is lost in the tree.

A tree can be read in the order of its source: through the body of a block and then its second branch, with the tags
of the block where they stood (`listEntries`). What is read there are the tokens, each once and in their order, as
what has become of them: text and expressions as they are, an opening tag as the begin of a block or as a defect, a
closing tag as the end of a block or as a defect. This holds for tokens in any order, however many blocks are given
up on the way.
-/

namespace Stencil.Template

/-! ## 1. Reading a tree in order -/

mutual

/-- The texts and expressions of a node, in the order of the source. -/
def Node.leaves : Node → List Node
  | .text s => [.text s]
  | .expression call span => [.expression call span]
  | .block _ body inverse _ _ => listLeaves body ++ branchLeaves inverse
  | .invalid _ => []

/-- The texts and expressions of nodes. -/
def listLeaves : List Node → List Node
  | [] => []
  | node :: nodes => node.leaves ++ listLeaves nodes

/-- The texts and expressions of a second branch. -/
def branchLeaves : Option (List Node) → List Node
  | none => []
  | some nodes => listLeaves nodes

end

/-- What is met when a tree is read in the order of its source. -/
inductive Entry where
  | text (s : String)
  | expression (call : Call) (span : Span)
  | defect (defect : Defect)
  /-- A block begins, with an opening tag at the span. -/
  | opened (call : Call) (span : Span)
  /-- The second branch of a block begins, with a tag that starts at the byte. -/
  | divided (start : Nat)
  /-- A block ends, with a closing tag of the name that stops at the byte. -/
  | closed (name? : Option String) (stop : Nat)

mutual

/-- What is met in a node. -/
def Node.entries : Node → List Entry
  | .text s => [.text s]
  | .expression call span => [.expression call span]
  | .block call body inverse bodySpan span =>
    .opened call ⟨span.start, bodySpan.start⟩ ::
      (listEntries body ++ branchEntries bodySpan.stop inverse ++ [.closed call.name? span.stop])
  | .invalid defect => [.defect defect]

/-- What is met in nodes. -/
def listEntries : List Node → List Entry
  | [] => []
  | node :: nodes => node.entries ++ listEntries nodes

/-- What is met in a second branch. -/
def branchEntries (start : Nat) : Option (List Node) → List Entry
  | none => []
  | some nodes => .divided start :: listEntries nodes

end

theorem listLeaves_append (nodes more : List Node) : listLeaves (nodes ++ more) = listLeaves nodes ++ listLeaves more := by
  induction nodes with
  | nil => rfl
  | cons node nodes ih => rw [List.cons_append, listLeaves, listLeaves, ih, List.append_assoc]

theorem listEntries_append (nodes more : List Node) :
    listEntries (nodes ++ more) = listEntries nodes ++ listEntries more := by
  induction nodes with
  | nil => rfl
  | cons node nodes ih => rw [List.cons_append, listEntries, listEntries, ih, List.append_assoc]

theorem listDefects_append (nodes more : List Node) :
    listDefects (nodes ++ more) = listDefects nodes ++ listDefects more := by
  induction nodes with
  | nil => rfl
  | cons node nodes ih => rw [List.cons_append, listDefects, listDefects, ih, List.append_assoc]

/-! ## 2. Tokens and what becomes of them -/

/-- The text or expression that a token stands for. -/
def Token.leaf? : Token → Option Node
  | ⟨.text s, _⟩ => some (.text s)
  | ⟨.expression inner, span⟩ => if inner.isEmpty then none else some (.expression (Call.read inner) span)
  | _ => none

theorem leaf?_text (s : String) (span : Span) : Token.leaf? ⟨.text s, span⟩ = some (.text s) := rfl

theorem leaf?_expression {inner : String} (h : inner.isEmpty = false) (span : Span) :
    Token.leaf? ⟨.expression inner, span⟩ = some (.expression (Call.read inner) span) := by
  simp only [Token.leaf?, h, Bool.false_eq_true, if_false]

/-- What a token can become. -/
inductive Becomes : Token → Entry → Prop
  | text {s span} : Becomes ⟨.text s, span⟩ (.text s)
  | expression {inner span} (nonempty : inner.isEmpty = false) :
      Becomes ⟨.expression inner, span⟩ (.expression (Call.read inner) span)
  | defect {t message} (fault : Faulty t message) : Becomes t (.defect ⟨message, t.span⟩)
  | opened {inner span} : Becomes ⟨.opening inner, span⟩ (.opened (Call.read inner) span)
  | divided {span} : Becomes ⟨.otherwise, span⟩ (.divided span.start)
  | closed {name span} : Becomes ⟨.closing name, span⟩ (.closed (some name) span.stop)

/-- The entries are what the tokens have become, one for each token and in their order. Only the tag of a second branch
may have become nothing. -/
inductive Recorded : List Token → List Entry → Prop
  | nil : Recorded [] []
  | entry {t e ts es} (becomes : Becomes t e) (others : Recorded ts es) : Recorded (t :: ts) (e :: es)
  | vanished {span ts es} (others : Recorded ts es) : Recorded (⟨.otherwise, span⟩ :: ts) es

theorem Recorded.append {ts us : List Token} {es more : List Entry} (h : Recorded ts es) (hmore : Recorded us more) :
    Recorded (ts ++ us) (es ++ more) := by
  induction h with
  | nil => exact hmore
  | entry hbecomes _ ih => exact .entry hbecomes ih
  | vanished _ ih => exact .vanished ih

theorem Faulty.leaf? {t : Token} {message : String} (h : Faulty t message) : t.leaf? = none := by
  cases h with
  | empty hempty => simp only [Token.leaf?, hempty, if_true]
  | _ => rfl

namespace Yields

variable {ts : List Token} {nodes : List Node}

theorem leaves (h : Yields ts nodes) : listLeaves nodes = ts.filterMap Token.leaf? := by
  induction h with
  | nil => rfl
  | text _ ih =>
    rw [List.filterMap_cons_some (leaf?_text _ _), ← ih]
    rfl
  | expression hne _ ih =>
    rw [List.filterMap_cons_some (leaf?_expression hne _), ← ih]
    rfl
  | faulty hfault _ ih =>
    rw [List.filterMap_cons_none hfault.leaf?, ← ih]
    rfl
  | abandoned hnamed _ _ ihInside ih =>
    rw [List.filterMap_cons_none rfl, List.filterMap_append, List.filterMap_cons_none rfl, ← ihInside, ← ih]
    exact listLeaves_append _ _
  | block hnamed _ _ ihInside ih =>
    rw [List.filterMap_cons_none rfl, List.filterMap_append, List.filterMap_cons_none rfl, ← ihInside, ← ih,
      listLeaves, Node.leaves, branchLeaves, List.append_nil]
  | branches hnamed _ _ _ ihInside ihOtherwise ih =>
    rw [List.filterMap_cons_none rfl, List.filterMap_append, List.filterMap_cons_none rfl, List.filterMap_append,
      List.filterMap_cons_none rfl, ← ihInside, ← ihOtherwise, ← ih, listLeaves, Node.leaves, branchLeaves,
      List.append_assoc]

theorem recorded (h : Yields ts nodes) : Recorded ts (listEntries nodes) := by
  induction h with
  | nil => exact .nil
  | text _ ih => exact .entry .text ih
  | expression hne _ ih => exact .entry (.expression hne) ih
  | faulty hfault _ ih => exact .entry (.defect hfault) ih
  | abandoned hnamed _ _ ihInside ih =>
    rw [listEntries, listEntries_append]
    exact .entry (.defect (.unclosed hnamed)) (ihInside.append (.vanished ih))
  | block hnamed _ _ ihInside ih =>
    rw [listEntries, Node.entries, branchEntries, List.append_nil, hnamed.1, List.cons_append, List.append_assoc]
    exact .entry .opened (ihInside.append (.entry .closed ih))
  | branches hnamed _ _ _ ihInside ihOtherwise ih =>
    rw [listEntries, Node.entries, branchEntries, hnamed.1, List.cons_append, List.append_assoc, List.append_assoc,
      List.cons_append]
    exact .entry .opened (ihInside.append (.entry .divided (ihOtherwise.append (.entry .closed ih))))

theorem defects (h : Yields ts nodes) : ((listDefects nodes).map (·.span)).Sublist (tagSpans ts) := by
  induction h with
  | nil => exact .slnil
  | text _ ih => exact ih
  | expression hne _ ih =>
    rw [tagSpans_cons rfl]
    exact ih.cons _
  | faulty hfault _ ih =>
    rw [tagSpans_cons hfault.isTag]
    exact ih.cons_cons _
  | abandoned hnamed _ _ ihInside ih =>
    rw [tagSpans_cons rfl, tagSpans_append, tagSpans_cons rfl, listDefects, Node.defects, listDefects_append,
      List.map_append, List.map_append]
    exact (ihInside.append (ih.cons _)).cons_cons _
  | block hnamed _ _ ihInside ih =>
    rw [tagSpans_cons rfl, tagSpans_append, tagSpans_cons rfl, listDefects, Node.defects, branchDefects,
      List.append_nil, List.map_append]
    exact (ihInside.append (ih.cons _)).cons _
  | branches hnamed _ _ _ ihInside ihOtherwise ih =>
    rw [tagSpans_cons rfl, tagSpans_append, tagSpans_cons rfl, tagSpans_append, tagSpans_cons rfl, listDefects,
      Node.defects, branchDefects, List.append_assoc, List.map_append, List.map_append]
    exact (ihInside.append ((ihOtherwise.append (ih.cons _)).cons _)).cons _

end Yields

/-! ## 3. The tree of any tokens -/

/-- **Nothing is lost**, whatever the tags of the tokens are and in whatever order they come. The texts and expressions
of the tree are those of the tokens, in their order; every token has become one entry of the tree, but for the tags of
second branches in blocks that were given up; and the defects come in the order of the tags that they stand for. -/
theorem nodesOfTokens_conserves (ts : List Token) :
    listLeaves (nodesOfTokens ts) = ts.filterMap Token.leaf? ∧
      Recorded ts (listEntries (nodesOfTokens ts)) ∧
      ((listDefects (nodesOfTokens ts)).map (·.span)).Sublist (tagSpans ts) ∧
      ((tagSpans ts).Pairwise (·.start < ·.start) →
        (listDefects (nodesOfTokens ts)).Pairwise fun d e => d.span.start < e.span.start) := by
  have hyields := yields_nodesOfTokens ts
  refine ⟨hyields.leaves, hyields.recorded, hyields.defects, fun hordered => ?_⟩
  have hspans := List.Pairwise.sublist hyields.defects hordered
  rwa [List.pairwise_map] at hspans

/-- Two blocks of which the inner one is divided and never closed, a closing tag too many, and an empty expression. -/
def crossedTags : List Token :=
  [⟨.opening "a", ⟨0, 6⟩⟩, ⟨.text "x", ⟨6, 7⟩⟩, ⟨.opening "b", ⟨7, 13⟩⟩, ⟨.otherwise, ⟨13, 21⟩⟩, ⟨.text "y", ⟨21, 22⟩⟩,
    ⟨.closing "c", ⟨22, 28⟩⟩, ⟨.closing "a", ⟨28, 34⟩⟩, ⟨.expression "", ⟨34, 38⟩⟩]

theorem nodesOfTokens_conserves_crossedTags :
    (tagSpans crossedTags).Pairwise (·.start < ·.start) ∧
      listLeaves (nodesOfTokens crossedTags) = [.text "x", .text "y"] ∧
      Recorded crossedTags (listEntries (nodesOfTokens crossedTags)) ∧
      (listDefects (nodesOfTokens crossedTags)).map (·.span.start) = [7, 22, 34] ∧
      (listDefects (nodesOfTokens crossedTags)).Pairwise fun d e => d.span.start < e.span.start := by
  have hordered : (tagSpans crossedTags).Pairwise (·.start < ·.start) := by decide
  obtain ⟨hleaves, hrecorded, -, hdefects⟩ := nodesOfTokens_conserves crossedTags
  exact ⟨hordered, hleaves, hrecorded, by decide +kernel, hdefects hordered⟩

end Stencil.Template
