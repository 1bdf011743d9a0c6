import Stencil.Template.Nesting

/-!
Any tokens and their tree.

Whatever order the tags of a source come in, each of them leaves something in the tree, and leaves it where it stands.
`Yields` says what: a well-formed block becomes a block, a tag that makes no sense becomes a defect, and a block that
is never closed becomes a defect with the content of its branches behind it. Only the tag of a second branch can
vanish, and only together with the block that it divided.

The pass over the tokens has the tokens read so far in two places: what has become nodes, and the open blocks on the
stack. So the invariant is that each open block yields what it has collected (`OpenBlock.Holds`), and that the
tokens are, from the outside in, those of the open blocks with their opening tags between them (`Reached`). Every kind
of token keeps it, and in the end the stack is given up from the inside out.
-/

namespace Stencil.Template

/-! ## 1. What tokens yield -/

/-- The message of a block that is never closed. -/
def neverClosed (name : String) : String := "unbalanced block: \x7b\x7b#" ++ name ++ "\x7d\x7d is never closed"

/-- The tag opens a block of the name. -/
def Names (inner name : String) : Prop := (Call.read inner).name? = some name ∧ name.isEmpty = false

/-- A token that makes no sense where it stands, and the message that says why. -/
inductive Faulty : Token → String → Prop
  | empty {inner span} (h : inner.isEmpty = true) : Faulty ⟨.expression inner, span⟩ "empty expression"
  | unterminated {span} : Faulty ⟨.unterminated, span⟩ "unterminated tag: missing '\x7d\x7d'"
  | nameless {inner span} (h : ∀ name, ¬ Names inner name) :
      Faulty ⟨.opening inner, span⟩ "block tag without a helper name"
  | unclosed {inner span name} (h : Names inner name) : Faulty ⟨.opening inner, span⟩ (neverClosed name)
  | unopened {name span} :
      Faulty ⟨.closing name, span⟩ ("unbalanced block: \x7b\x7b/" ++ name ++ "\x7d\x7d has no matching open tag")
  | outside {span} : Faulty ⟨.otherwise, span⟩ "\x7b\x7belse\x7d\x7d outside of a block"
  | duplicate {name span} :
      Faulty ⟨.otherwise, span⟩ ("duplicate \x7b\x7belse\x7d\x7d in block '" ++ name ++ "'")

/-- The nodes are what is left of the tokens, in the order of the source. -/
inductive Yields : List Token → List Node → Prop
  | nil : Yields [] []
  | text {s span ts nodes} (others : Yields ts nodes) : Yields (⟨.text s, span⟩ :: ts) (.text s :: nodes)
  | expression {inner span ts nodes} (nonempty : inner.isEmpty = false) (others : Yields ts nodes) :
      Yields (⟨.expression inner, span⟩ :: ts) (.expression (Call.read inner) span :: nodes)
  | faulty {t message ts nodes} (fault : Faulty t message) (others : Yields ts nodes) :
      Yields (t :: ts) (.invalid ⟨message, t.span⟩ :: nodes)
  /-- A block with two branches that is never closed: the tag between them goes with it. -/
  | abandoned {inner name first middle body bodyNodes ts nodes} (named : Names inner name)
      (inside : Yields body bodyNodes) (others : Yields ts nodes) :
      Yields (⟨.opening inner, first⟩ :: (body ++ ⟨.otherwise, middle⟩ :: ts))
        (.invalid ⟨neverClosed name, first⟩ :: (bodyNodes ++ nodes))
  | block {inner name first last body bodyNodes ts nodes} (named : Names inner name)
      (inside : Yields body bodyNodes) (others : Yields ts nodes) :
      Yields (⟨.opening inner, first⟩ :: (body ++ ⟨.closing name, last⟩ :: ts))
        (.block (Call.read inner) bodyNodes none ⟨first.stop, last.start⟩ ⟨first.start, last.stop⟩ :: nodes)
  | branches {inner name first middle last body bodyNodes inverse inverseNodes ts nodes}
      (named : Names inner name) (inside : Yields body bodyNodes) (otherwise : Yields inverse inverseNodes)
      (others : Yields ts nodes) :
      Yields
        (⟨.opening inner, first⟩ :: (body ++ ⟨.otherwise, middle⟩ :: (inverse ++ ⟨.closing name, last⟩ :: ts)))
        (.block (Call.read inner) bodyNodes (some inverseNodes) ⟨first.stop, middle.start⟩
          ⟨first.start, last.stop⟩ :: nodes)

theorem Yields.append {ts us : List Token} {nodes more : List Node} (h : Yields ts nodes) (hmore : Yields us more) :
    Yields (ts ++ us) (nodes ++ more) := by
  induction h with
  | nil => exact hmore
  | text _ ih => exact .text ih
  | expression hne _ ih => exact .expression hne ih
  | faulty hfault _ ih => exact .faulty hfault ih
  | abandoned hnamed hinside _ _ ih =>
    simp only [List.cons_append, List.append_assoc]
    exact .abandoned hnamed hinside ih
  | block hnamed hinside _ _ ih =>
    simp only [List.cons_append, List.append_assoc]
    exact .block hnamed hinside ih
  | branches hnamed hinside hotherwise _ _ _ ih =>
    simp only [List.cons_append, List.append_assoc]
    exact .branches hnamed hinside hotherwise ih

/-! ## 2. Open blocks -/

namespace OpenBlock

/-- The block is as a tag opened it, but for what it has collected since. -/
structure OpenedBy (block : OpenBlock) (inner : String) : Prop where
  call : block.call = Call.read inner
  named : Names inner block.name

/-- The tokens since the opening tag of a block yield what the block has collected. -/
inductive Holds : OpenBlock → List Token → Prop
  | body {name call span body ts} (h : Yields ts body) : Holds ⟨name, call, span, body, none, none⟩ ts
  | branches {name call span body inverse middle ts us} (hbody : Yields ts body) (hinverse : Yields us inverse) :
      Holds ⟨name, call, span, body, some inverse, some middle.start⟩ (ts ++ ⟨.otherwise, middle⟩ :: us)

variable {block : OpenBlock} {inner : String} {ts us : List Token} {nodes : List Node}

@[simp] theorem append_name : (block.append nodes).name = block.name := by
  unfold append
  split <;> rfl

@[simp] theorem append_call : (block.append nodes).call = block.call := by
  unfold append
  split <;> rfl

@[simp] theorem append_span : (block.append nodes).span = block.span := by
  unfold append
  split <;> rfl

theorem OpenedBy.append (h : block.OpenedBy inner) (nodes : List Node) : (block.append nodes).OpenedBy inner where
  call := append_call.trans h.call
  named := append_name.symm ▸ h.named

theorem Holds.append (h : block.Holds ts) (hmore : Yields us nodes) : (block.append nodes).Holds (ts ++ us) := by
  cases h with
  | body hbody => exact .body (hbody.append hmore)
  | branches hbody hinverse =>
    rw [List.append_assoc, List.cons_append]
    exact .branches hbody (hinverse.append hmore)

/-- A block that is closed yields a block. -/
theorem Holds.closed (h : block.Holds ts) (hopened : block.OpenedBy inner) (last : Span) :
    Yields (⟨.opening inner, block.span⟩ :: (ts ++ [⟨.closing block.name, last⟩])) [block.closed last] := by
  obtain ⟨hcall, hnamed⟩ := hopened
  cases h with
  | body hbody =>
    cases hcall
    exact .block hnamed hbody .nil
  | branches hbody hinverse =>
    cases hcall
    rw [List.append_assoc, List.cons_append]
    exact .branches hnamed hbody hinverse .nil

/-- A block that is given up yields a defect and its content. -/
theorem Holds.abandoned (h : block.Holds ts) (hopened : block.OpenedBy inner) :
    Yields (⟨.opening inner, block.span⟩ :: ts) block.abandoned := by
  obtain ⟨-, hnamed⟩ := hopened
  cases h with
  | body hbody =>
    rw [OpenBlock.abandoned, Option.getD_none, List.append_nil]
    exact .faulty (.unclosed hnamed) hbody
  | branches hbody hinverse => exact .abandoned hnamed hbody hinverse

end OpenBlock

/-! ## 3. The pass -/

/-- The tokens are those read so far: those that yield the nodes outside any block, then for every open block, from
the outermost inwards, its opening tag and the tokens of what it has collected. -/
inductive Reached (root : List Node) : List OpenBlock → List Token → Prop
  | outside {ts} (h : Yields ts root) : Reached root [] ts
  | inside {block stack inner ts us} (opened : block.OpenedBy inner) (holds : block.Holds us)
      (others : Reached root stack ts) : Reached root (block :: stack) (ts ++ ⟨.opening inner, block.span⟩ :: us)

namespace Outline

/-- The outline after the tokens. -/
def After (outline : Outline) (ts : List Token) : Prop := Reached outline.root outline.stack ts

variable {outline : Outline} {root : List Node} {stack : List OpenBlock} {ts us : List Token} {nodes : List Node}

theorem After.append (h : outline.After ts) (hmore : Yields us nodes) : (outline.append nodes).After (ts ++ us) := by
  obtain ⟨root, stack⟩ := outline
  cases h with
  | outside h => exact .outside (h.append hmore)
  | inside hopened hholds hothers =>
    rw [List.append_assoc, List.cons_append]
    have hinside := Reached.inside (hopened.append nodes) (hholds.append hmore) hothers
    rwa [OpenBlock.append_span] at hinside

theorem After.defect {t : Token} {message : String} (h : outline.After ts) (hfault : Faulty t message) :
    (outline.defect message t.span).After (ts ++ [t]) := h.append (.faulty hfault .nil)

theorem After.opening (h : outline.After ts) (inner : String) (span : Span) :
    (outline.opening inner span).After (ts ++ [⟨.opening inner, span⟩]) := by
  rw [Outline.opening]
  split
  · next name hname =>
    obtain ⟨hread, hne⟩ := Option.filter_eq_some_iff.mp hname
    exact .inside ⟨rfl, hread, by simpa using hne⟩ (.body .nil) h
  · next hname =>
    have hnameless : ∀ name, ¬ Names inner name := by
      intro name hnamed
      rw [hnamed.1, Option.filter_some, hnamed.2] at hname
      cases hname
    exact h.defect (.nameless hnameless)

theorem After.otherwise (h : outline.After ts) (span : Span) :
    (outline.otherwise span).After (ts ++ [⟨.otherwise, span⟩]) := by
  obtain ⟨root, stack⟩ := outline
  cases h with
  | outside h => exact After.defect (.outside h) .outside
  | inside hopened hholds hothers =>
    cases hholds with
    | body hbody =>
      rw [List.append_assoc, List.cons_append]
      exact .inside ⟨hopened.call, hopened.named⟩ (.branches hbody .nil) hothers
    | branches hbody hinverse => exact After.defect (.inside hopened (.branches hbody hinverse) hothers) .duplicate

/-- Closing a block gives up the blocks inside it; what they leave is carried along. -/
theorem after_unwind {name : String} (span : Span) (h : Reached root stack ts) (hcarried : Yields us nodes)
    (hopen : ∃ block ∈ stack, block.name = name) :
    (unwind name span root nodes stack).After (ts ++ (us ++ [⟨.closing name, span⟩])) := by
  induction h generalizing us nodes with
  | outside h =>
    obtain ⟨block, hblock, -⟩ := hopen
    cases hblock
  | @inside block stack inner ts own hopened hholds hothers ih =>
    -- the block gets what the blocks inside it have left, and is itself closed or given up
    have hopened' := hopened.append nodes
    have hholds' := hholds.append hcarried
    rw [unwind]
    split
    · next hname =>
      have hclosed := hholds'.closed hopened' span
      have hafter : (⟨root, stack⟩ : Outline).After ts := hothers
      have h := hafter.append hclosed
      rw [hname, OpenBlock.append_span, List.append_assoc] at h
      rwa [List.append_assoc, List.cons_append]
    · next hname =>
      have habandoned := hholds'.abandoned hopened'
      rw [OpenBlock.append_name] at hname
      rw [OpenBlock.append_span] at habandoned
      have hopen' : ∃ block ∈ stack, block.name = name := by
        obtain ⟨other, hother, hothername⟩ := hopen
        rcases List.mem_cons.mp hother with rfl | hother
        · exact absurd hothername hname
        · exact ⟨other, hother, hothername⟩
      have h := ih habandoned hopen'
      rw [List.cons_append, List.append_assoc] at h
      rwa [List.append_assoc, List.cons_append]

theorem After.closing (h : outline.After ts) (name : String) (span : Span) :
    (outline.closing name span).After (ts ++ [⟨.closing name, span⟩]) := by
  rw [Outline.closing]
  split
  · next hany =>
    have hopen : ∃ block ∈ outline.stack, block.name = name := by simpa using hany
    exact after_unwind span h .nil hopen
  · exact h.defect .unopened

/-- **One token.** The outline after a token is the outline after the tokens up to it. -/
theorem After.step (h : outline.After ts) (t : Token) : (outline.step t).After (ts ++ [t]) := by
  obtain ⟨kind, span⟩ := t
  cases kind with
  | text s => exact h.append (.text .nil)
  | expression inner =>
    rw [Outline.step]
    simp only
    split
    · next hempty => exact h.defect (.empty hempty)
    · next hne => exact h.append (.expression (by simpa using hne) .nil)
  | unterminated => exact h.defect .unterminated
  | opening inner => exact h.opening inner span
  | otherwise => exact h.otherwise span
  | closing name => exact h.closing name span

theorem After.foldl (h : outline.After ts) (us : List Token) : (us.foldl Outline.step outline).After (ts ++ us) := by
  induction us generalizing outline ts with
  | nil => rwa [List.append_nil]
  | cons u us ih =>
    rw [List.foldl_cons, List.append_cons]
    exact ih (h.step u)

/-- The blocks that are left open in the end are given up. -/
theorem yields_settle (h : Reached root stack ts) (hcarried : Yields us nodes) :
    Yields (ts ++ us) (settle root nodes stack) := by
  induction h generalizing us nodes with
  | outside h => exact h.append hcarried
  | inside hopened hholds _ ih =>
    have habandoned := (hholds.append hcarried).abandoned (hopened.append nodes)
    rw [OpenBlock.append_span] at habandoned
    rw [settle, List.append_assoc, List.cons_append]
    exact ih habandoned

end Outline

/-- **The tree of any tokens** is what they yield. -/
theorem yields_nodesOfTokens (ts : List Token) : Yields ts (nodesOfTokens ts) := by
  have hstart : Outline.empty.After [] := .outside .nil
  have h := Outline.yields_settle (hstart.foldl ts) .nil
  rwa [List.nil_append, List.append_nil] at h

/-! ## 4. Tags -/

/-- Whether the token is a tag, also one that never ends. -/
def Token.isTag (t : Token) : Bool :=
  match t.kind with
  | .text _ => false
  | _ => true

/-- The places of the tags among the tokens. -/
def tagSpans (ts : List Token) : List Span := (ts.filter Token.isTag).map (·.span)

@[simp] theorem tagSpans_append (ts us : List Token) : tagSpans (ts ++ us) = tagSpans ts ++ tagSpans us := by
  rw [tagSpans, List.filter_append, List.map_append]
  rfl

@[simp] theorem tagSpans_text (s : String) (span : Span) (ts : List Token) :
    tagSpans (⟨.text s, span⟩ :: ts) = tagSpans ts := rfl

theorem tagSpans_cons {t : Token} (h : t.isTag = true) (ts : List Token) :
    tagSpans (t :: ts) = t.span :: tagSpans ts := by
  rw [tagSpans, List.filter_cons_of_pos h]
  rfl

theorem Faulty.isTag {t : Token} {message : String} (h : Faulty t message) : t.isTag = true := by
  cases h <;> rfl

end Stencil.Template
