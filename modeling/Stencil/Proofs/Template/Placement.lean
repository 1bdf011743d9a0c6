import Stencil.Proofs.Template.Conservation
import Stencil.Proofs.Template.Tiling
import Stencil.Template

/-!
Where the nodes of a template stand.

The spans of a tree are put together from those of its tags, so that they nest as the nodes do: an expression lies on
its tag, a block from its opening tag to its closing one, and what is in a branch lies between the two tags around the
branch. Nodes beside one another lie apart and in order, also those that come out of blocks that were given up.

All of it follows from the order of the tags alone. The tags of a source stand one behind the other (`Cut.laid`), what
tokens yield keeps that order at every level of the tree (`Yields.laid`), and so every node finds its place between its
neighbours (`Yields.placed`).
-/

namespace Stencil.Template

open Text

/-! ## 1. Spans in order -/

/-- The spans lie one behind the other between two bytes. None of them is empty, and there may be gaps. -/
def Laid : Nat → List Span → Nat → Prop
  | start, [], stop => start ≤ stop
  | start, span :: spans, stop => start ≤ span.start ∧ span.start < span.stop ∧ Laid span.stop spans stop

variable {start stop : Nat} {spans more : List Span}

theorem Laid.le (h : Laid start spans stop) : start ≤ stop := by
  induction spans generalizing start with
  | nil => exact h
  | cons span spans ih =>
    obtain ⟨hle, hlt, hrest⟩ := h
    have := ih hrest
    omega

theorem Laid.mono {start' stop' : Nat} (h : Laid start spans stop) (hstart : start' ≤ start) (hstop : stop ≤ stop') :
    Laid start' spans stop' := by
  induction spans generalizing start start' with
  | nil =>
    rw [Laid] at h ⊢
    omega
  | cons span spans ih =>
    obtain ⟨hle, hlt, hrest⟩ := h
    exact ⟨Nat.le_trans hstart hle, hlt, ih hrest (Nat.le_refl _)⟩

theorem laid_append : Laid start (spans ++ more) stop ↔ ∃ middle, Laid start spans middle ∧ Laid middle more stop := by
  induction spans generalizing start with
  | nil =>
    constructor
    · intro h
      exact ⟨start, Nat.le_refl start, h⟩
    · rintro ⟨middle, hle, h⟩
      exact h.mono hle (Nat.le_refl stop)
  | cons span spans ih =>
    rw [List.cons_append, Laid, ih]
    constructor
    · rintro ⟨hle, hlt, middle, hspans, hmore⟩
      exact ⟨middle, ⟨hle, hlt, hspans⟩, hmore⟩
    · rintro ⟨middle, ⟨hle, hlt, hspans⟩, hmore⟩
      exact ⟨hle, hlt, middle, hspans, hmore⟩

/-- Spans laid before, on and behind one span between them. -/
theorem laid_around {span : Span} (h : Laid start (spans ++ span :: more) stop) :
    Laid start spans span.start ∧ span.start < span.stop ∧ Laid span.stop more stop := by
  obtain ⟨middle, hspans, hle, hlt, hmore⟩ := laid_append.mp h
  exact ⟨hspans.mono (Nat.le_refl start) hle, hlt, hmore⟩

theorem Laid.bounds (h : Laid start spans stop) :
    ∀ span ∈ spans, start ≤ span.start ∧ span.start < span.stop ∧ span.stop ≤ stop := by
  induction spans generalizing start with
  | nil => simp
  | cons span spans ih =>
    obtain ⟨hle, hlt, hrest⟩ := h
    rw [List.forall_mem_cons]
    refine ⟨⟨hle, hlt, hrest.le⟩, fun other hother => ?_⟩
    have := ih hrest other hother
    omega

theorem Laid.apart (h : Laid start spans stop) : spans.Pairwise (·.stop ≤ ·.start) := by
  induction spans generalizing start with
  | nil => exact .nil
  | cons span spans ih =>
    obtain ⟨-, -, hrest⟩ := h
    exact .cons (fun other hother => (hrest.bounds other hother).1) (ih hrest)

/-! ## 2. Places of nodes -/

/-- The place of a node; text has none. -/
def Node.place? : Node → Option Span
  | .text _ => none
  | .expression _ span => some span
  | .block _ _ _ _ span => some span
  | .invalid defect => some defect.span

/-- Where the nodes of a list stand. -/
def places (nodes : List Node) : List Span := nodes.filterMap Node.place?

theorem places_append (nodes more : List Node) : places (nodes ++ more) = places nodes ++ places more :=
  List.filterMap_append

/-- The nodes stand in the region, apart from one another and in their order. -/
structure Arranged (region : Span) (nodes : List Node) : Prop where
  inside : ∀ span ∈ places nodes, region.start ≤ span.start ∧ span.stop ≤ region.stop
  proper : ∀ span ∈ places nodes, span.start < span.stop
  apart : (places nodes).Pairwise (·.stop ≤ ·.start)

theorem Laid.arranged {nodes : List Node} (h : Laid start (places nodes) stop) : Arranged ⟨start, stop⟩ nodes where
  inside span hspan := ⟨(h.bounds span hspan).1, (h.bounds span hspan).2.2⟩
  proper span hspan := (h.bounds span hspan).2.1
  apart := h.apart

/-- One of the tags of the source is of the kind and stands at the span. -/
structure Tagged (source : String) (kind : TokenKind) (span : Span) : Prop where
  token : ⟨kind, span⟩ ∈ tokens source
  lies : span.LiesIn source
  written : TagAt source kind span

/-- Two tags around a block. The block lies from the one through the other, and its branches in between. -/
structure Bracketed (source inner name : String) (first last : Span) : Prop where
  named : Names inner name
  opens : Tagged source (.opening inner) first
  closes : Tagged source (.closing name) last
  lies : Span.LiesIn ⟨first.start, last.stop⟩ source
  between : Span.LiesIn ⟨first.stop, last.start⟩ source
  slice : Span.slice ⟨first.start, last.stop⟩ source =
    first.slice source ++ Span.slice ⟨first.stop, last.start⟩ source ++ last.slice source

/-- The node and all nodes inside it stand where their tags stand in the source. -/
inductive Node.Placed (source : String) : Node → Prop
  | text {s} : Placed source (.text s)
  | expression {inner span} (tag : Tagged source (.expression inner) span) :
      Placed source (.expression (Call.read inner) span)
  | invalid {t message} (fault : Faulty t message) (token : t ∈ tokens source) (lies : t.span.LiesIn source) :
      Placed source (.invalid ⟨message, t.span⟩)
  | block {inner name first last body} (bracketed : Bracketed source inner name first last)
      (arranged : Arranged ⟨first.stop, last.start⟩ body) (inside : ∀ node ∈ body, Placed source node) :
      Placed source (.block (Call.read inner) body none ⟨first.stop, last.start⟩ ⟨first.start, last.stop⟩)
  | branches {inner name first middle last body inverse} (bracketed : Bracketed source inner name first last)
      (divides : Tagged source .otherwise middle) (lies : Span.LiesIn ⟨first.stop, middle.start⟩ source)
      (arranged : Arranged ⟨first.stop, middle.start⟩ body) (inside : ∀ node ∈ body, Placed source node)
      (arrangedInverse : Arranged ⟨middle.stop, last.start⟩ inverse)
      (insideInverse : ∀ node ∈ inverse, Placed source node) :
      Placed source
        (.block (Call.read inner) body (some inverse) ⟨first.stop, middle.start⟩ ⟨first.start, last.stop⟩)

/-! ## 3. Tags of a source -/

theorem liesIn_of_mem_tokens {source : String} {t : Token} (h : t ∈ tokens source) : t.span.LiesIn source :=
  (cut_tokens source).liesIn rfl t h

theorem tagged_of_mem_tokens {source : String} {kind : TokenKind} {span : Span} (h : ⟨kind, span⟩ ∈ tokens source)
    (hstray : kind ≠ .unterminated) (htext : ∀ s, kind ≠ .text s) : Tagged source kind span :=
  ⟨h, liesIn_of_mem_tokens h, (cut_tokens source).tags rfl h hstray htext⟩

theorem isTag_ofInner (inner : List Char) (span : Span) : Token.isTag ⟨.ofInner inner, span⟩ = true := by
  unfold TokenKind.ofInner
  split <;> rfl

/-- The tags of a source stand one behind the other. -/
theorem Cut.laid {before cs : List Char} {ts : List Token} (h : Cut before cs ts) :
    Laid (byteSize before) (tagSpans ts) (byteSize (before ++ cs)) := by
  induction h with
  | done =>
    rw [List.append_nil]
    exact Nat.le_refl _
  | text _ _ ih =>
    rw [List.append_assoc, byteSize_append] at ih
    exact ih.mono (Nat.le_add_right _ _) (Nat.le_refl _)
  | tag _ ih =>
    rw [tagSpans_cons (isTag_ofInner _ _)]
    rw [← Span.stop_following, List.append_assoc] at ih
    exact ⟨Nat.le_refl _, Span.following_proper (by simp [printTag]), ih⟩
  | stray hne _ ih =>
    rw [tagSpans_cons rfl, tagSpans_text]
    rw [← Span.stop_following, List.append_assoc] at ih
    exact ⟨Nat.le_refl _, Span.following_proper hne, ih⟩

/-- Two tags that stand in their order are the brackets of a block. -/
theorem bracketed_of_tagged {source inner name : String} {first last : Span} (hnamed : Names inner name)
    (hfirst : Tagged source (.opening inner) first) (hlast : Tagged source (.closing name) last)
    (hle : first.stop ≤ last.start) : Bracketed source inner name first last := by
  have hbetween : Span.LiesIn ⟨first.stop, last.start⟩ source := ⟨hfirst.lies.stop, hlast.lies.start, hle⟩
  have hopen : Span.LiesIn ⟨first.start, last.start⟩ source :=
    ⟨hfirst.lies.start, hlast.lies.start, Nat.le_trans hfirst.lies.ordered hle⟩
  have hlies : Span.LiesIn ⟨first.start, last.stop⟩ source :=
    ⟨hfirst.lies.start, hlast.lies.stop, Nat.le_trans hopen.ordered hlast.lies.ordered⟩
  refine ⟨hnamed, hfirst, hlast, hlies, hbetween, ?_⟩
  rw [Span.slice_append hopen hlast.lies, Span.slice_append hfirst.lies hbetween]

/-! ## 4. From tags to nodes -/

variable {ts : List Token} {nodes : List Node}

theorem laid_tag {t : Token} (ht : t.isTag = true) (h : Laid start (tagSpans (t :: ts)) stop) :
    start ≤ t.span.start ∧ t.span.start < t.span.stop ∧ Laid t.span.stop (tagSpans ts) stop := by
  rw [tagSpans_cons ht] at h
  exact h

/-- Tags before a tag lie before it, and tags behind it lie behind it. -/
theorem laid_around_tag {t : Token} (ht : t.isTag = true) {early late : List Token}
    (h : Laid start (tagSpans (early ++ t :: late)) stop) :
    Laid start (tagSpans early) t.span.start ∧ t.span.start < t.span.stop ∧ Laid t.span.stop (tagSpans late) stop := by
  rw [tagSpans_append, tagSpans_cons ht] at h
  exact laid_around h

/-- What tokens yield stands in the order of their tags. -/
theorem Yields.laid (h : Yields ts nodes) (hlaid : Laid start (tagSpans ts) stop) : Laid start (places nodes) stop := by
  induction h generalizing start stop with
  | nil => exact hlaid
  | text _ ih => exact ih hlaid
  | expression _ _ ih =>
    obtain ⟨hle, hlt, hrest⟩ := laid_tag rfl hlaid
    exact ⟨hle, hlt, ih hrest⟩
  | faulty hfault _ ih =>
    obtain ⟨hle, hlt, hrest⟩ := laid_tag hfault.isTag hlaid
    exact ⟨hle, hlt, ih hrest⟩
  | abandoned _ _ _ ihInside ih =>
    obtain ⟨hle, hlt, hrest⟩ := laid_tag rfl hlaid
    obtain ⟨hbody, hmiddle, hothers⟩ := laid_around_tag rfl hrest
    have hcontent := laid_append.mpr
      ⟨_, ihInside hbody, (ih hothers).mono (Nat.le_of_lt hmiddle) (Nat.le_refl _)⟩
    rw [← places_append] at hcontent
    exact ⟨hle, hlt, hcontent⟩
  | block _ _ _ _ ih =>
    obtain ⟨hle, hlt, hrest⟩ := laid_tag rfl hlaid
    obtain ⟨hbody, hlast, hothers⟩ := laid_around_tag rfl hrest
    exact ⟨hle, Nat.lt_trans (Nat.lt_of_lt_of_le hlt hbody.le) hlast, ih hothers⟩
  | branches _ _ _ _ _ _ ih =>
    obtain ⟨hle, hlt, hrest⟩ := laid_tag rfl hlaid
    obtain ⟨hbody, hmiddle, hrest⟩ := laid_around_tag rfl hrest
    obtain ⟨hinverse, hlast, hothers⟩ := laid_around_tag rfl hrest
    have hdivided := Nat.lt_trans (Nat.lt_of_lt_of_le hlt hbody.le) hmiddle
    exact ⟨hle, Nat.lt_trans (Nat.lt_of_lt_of_le hdivided hinverse.le) hlast, ih hothers⟩

/-- What tokens of a source yield stands where their tags stand. -/
theorem Yields.placed {source : String} (h : Yields ts nodes) (hlaid : Laid start (tagSpans ts) stop)
    (hmem : ∀ t ∈ ts, t ∈ tokens source) : ∀ node ∈ nodes, node.Placed source := by
  induction h generalizing start stop with
  | nil => simp
  | text _ ih =>
    rw [List.forall_mem_cons] at hmem ⊢
    exact ⟨.text, ih hlaid hmem.2⟩
  | expression _ _ ih =>
    obtain ⟨-, -, hothers⟩ := laid_tag rfl hlaid
    rw [List.forall_mem_cons] at hmem ⊢
    exact ⟨.expression (tagged_of_mem_tokens hmem.1 (by simp) (by simp)), ih hothers hmem.2⟩
  | faulty hfault _ ih =>
    obtain ⟨-, -, hothers⟩ := laid_tag hfault.isTag hlaid
    rw [List.forall_mem_cons] at hmem ⊢
    exact ⟨.invalid hfault hmem.1 (liesIn_of_mem_tokens hmem.1), ih hothers hmem.2⟩
  | abandoned hnamed _ _ ihInside ih =>
    obtain ⟨-, -, hrest⟩ := laid_tag rfl hlaid
    obtain ⟨hbody, -, hothers⟩ := laid_around_tag rfl hrest
    simp only [List.forall_mem_cons, List.forall_mem_append] at hmem ⊢
    obtain ⟨hfirst, hmemBody, -, hmemOthers⟩ := hmem
    exact ⟨.invalid (.unclosed hnamed) hfirst (liesIn_of_mem_tokens hfirst), ihInside hbody hmemBody,
      ih hothers hmemOthers⟩
  | block hnamed hinside _ ihInside ih =>
    obtain ⟨-, -, hrest⟩ := laid_tag rfl hlaid
    obtain ⟨hbody, -, hothers⟩ := laid_around_tag rfl hrest
    simp only [List.forall_mem_cons, List.forall_mem_append] at hmem ⊢
    obtain ⟨hfirst, hmemBody, hlast, hmemOthers⟩ := hmem
    have hopens := tagged_of_mem_tokens hfirst (by simp) (by simp)
    have hcloses := tagged_of_mem_tokens hlast (by simp) (by simp)
    have hbracketed := bracketed_of_tagged hnamed hopens hcloses hbody.le
    exact ⟨.block hbracketed (hinside.laid hbody).arranged (ihInside hbody hmemBody), ih hothers hmemOthers⟩
  | branches hnamed hinside hotherwise _ ihInside ihOtherwise ih =>
    obtain ⟨-, -, hrest⟩ := laid_tag rfl hlaid
    obtain ⟨hbody, hmiddle, hrest⟩ := laid_around_tag rfl hrest
    obtain ⟨hinverse, -, hothers⟩ := laid_around_tag rfl hrest
    simp only [List.forall_mem_cons, List.forall_mem_append] at hmem ⊢
    obtain ⟨hfirst, hmemBody, hdivides, hmemInverse, hlast, hmemOthers⟩ := hmem
    have hopens := tagged_of_mem_tokens hfirst (by simp) (by simp)
    have hdivides := tagged_of_mem_tokens hdivides (by simp) (by simp)
    have hcloses := tagged_of_mem_tokens hlast (by simp) (by simp)
    have hle := Nat.le_trans hbody.le (Nat.le_trans (Nat.le_of_lt hmiddle) hinverse.le)
    have hbracketed := bracketed_of_tagged hnamed hopens hcloses hle
    have hbefore : Span.LiesIn ⟨_, _⟩ source := ⟨hopens.lies.stop, hdivides.lies.start, hbody.le⟩
    exact ⟨.branches hbracketed hdivides hbefore (hinside.laid hbody).arranged (ihInside hbody hmemBody)
      (hotherwise.laid hinverse).arranged (ihOtherwise hinverse hmemInverse), ih hothers hmemOthers⟩

/-- **The nodes of a template** stand apart and in order within its source, each of them where its tags stand, and what
is in a branch of a block stands between the two tags around the branch. -/
theorem parse_placed (text : String) :
    Arranged ⟨0, (parse text).source.utf8ByteSize⟩ (parse text).nodes ∧
      ∀ node ∈ (parse text).nodes, node.Placed (parse text).source := by
  have hyields : Yields (tokens (parse text).source) (parse text).nodes := yields_nodesOfTokens _
  have hlaid := (cut_tokens (parse text).source).laid
  rw [utf8ByteSize_eq]
  exact ⟨(hyields.laid hlaid).arranged, hyields.placed hlaid fun _ ht => ht⟩

/-- The defects of a template come in the order of its source, at whatever depth they are. -/
theorem defects_apart (text : String) : (parse text).defects.Pairwise fun d e => d.span.stop ≤ e.span.start := by
  have hyields : Yields (tokens (parse text).source) (parse text).nodes := yields_nodesOfTokens _
  have hspans := List.Pairwise.sublist hyields.defects (cut_tokens (parse text).source).laid.apart
  rwa [List.pairwise_map] at hspans

end Stencil.Template
