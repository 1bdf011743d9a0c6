import Stencil.Template.Token

/-!
Tokens and what they come from.

A source is cut into tokens one tag at a time: a stretch of text, which may be empty, then a tag, then the rest.
Here are the equations of these steps, for the tokens with their places and for their kinds alone (`kinds`), which do
not depend on where the source starts. Then there is what the steps come to for text that was escaped and for
content that the search for the end of a tag passes over.
-/

namespace Stencil.Template

open Stencil.Text

/-! ## 1. One step -/

/-- The token of a stretch of text that starts at a byte. -/
def textToken (start : Nat) (s : Stretch) : List Token :=
  if s.shown.isEmpty then [] else [⟨.text (.ofList s.shown), ⟨start, start + byteSize s.written⟩⟩]

variable {start : Nat} {cs inner content rest : List Char} {a b : Char}

theorem tokensFrom_tag (hrest : (stretch cs).rest = a :: b :: inner) (htag : tagContent inner = .tag content rest) :
    let tagStart := start + byteSize (stretch cs).written
    tokensFrom start cs = textToken start (stretch cs) ++
      ⟨.ofInner (trim content), ⟨tagStart, tagStart + byteSize content + 4⟩⟩ ::
        tokensFrom (tagStart + byteSize content + 4) rest := by
  intro tagStart
  rw [tokensFrom]
  simp only
  split
  · next inner' h =>
    rw [hrest] at h
    cases h
    split
    · next h' =>
      rw [htag] at h'
      cases h'
      rfl
    · next h' =>
      rw [htag] at h'
      cases h'
  · next h => exact absurd hrest (h a b inner)

theorem tokensFrom_stray (hrest : (stretch cs).rest = a :: b :: inner)
    (htag : tagContent inner = .stray content rest) :
    let tagStart := start + byteSize (stretch cs).written
    let span : Span := ⟨tagStart, tagStart + byteSize content + 2⟩
    tokensFrom start cs = textToken start (stretch cs) ++
      ⟨.unterminated, span⟩ :: ⟨.text (.ofList ('{' :: '{' :: content)), span⟩ :: tokensFrom span.stop rest := by
  intro tagStart span
  rw [tokensFrom]
  simp only
  split
  · next inner' h =>
    rw [hrest] at h
    cases h
    split
    · next h' =>
      rw [htag] at h'
      cases h'
    · next h' =>
      rw [htag] at h'
      cases h'
      rfl
  · next h => exact absurd hrest (h a b inner)

theorem tokensFrom_end (hrest : (stretch cs).rest = []) :
    tokensFrom start cs = textToken start (stretch cs) := by
  rw [tokensFrom]
  simp only
  split
  · next h =>
    rw [hrest] at h
    cases h
  · rfl

/-- What follows a stretch of text is the end or a tag. -/
theorem rest_stretch (cs : List Char) :
    (stretch cs).rest = [] ∨ ∃ inner, (stretch cs).rest = '{' :: '{' :: inner := by
  fun_induction stretch cs with
  | case1 cs s ih => exact ih
  | case2 cs => exact .inr ⟨cs, rfl⟩
  | case3 c cs _ _ s ih => exact ih
  | case4 => exact .inl rfl

theorem stretch_tag (inner : List Char) : stretch ('{' :: '{' :: inner) = ⟨[], [], '{' :: '{' :: inner⟩ := rfl

/-! ## 2. Kinds -/

/-- The kinds of the tokens of a source. -/
def kinds (cs : List Char) : List TokenKind := (tokensFrom 0 cs).map (·.kind)

theorem map_kind_textToken (start : Nat) (s : Stretch) :
    (textToken start s).map (·.kind) = if s.shown.isEmpty then [] else [.text (.ofList s.shown)] := by
  unfold textToken
  split <;> rfl

theorem map_kind_tokensFrom (start : Nat) (cs : List Char) : (tokensFrom start cs).map (·.kind) = kinds cs := by
  suffices h : ∀ other, (tokensFrom start cs).map (·.kind) = (tokensFrom other cs).map (·.kind) from h 0
  -- both passes cut the source at the same places, and what is left gets shorter with every tag
  induction hlength : cs.length using Nat.strongRecOn generalizing start cs with | _ length ih
  intro other
  have hle := length_stretch_rest cs
  rcases rest_stretch cs with hrest | ⟨inner, hrest⟩
  · rw [tokensFrom_end hrest, tokensFrom_end hrest, map_kind_textToken, map_kind_textToken]
  · rw [hrest, List.length_cons, List.length_cons] at hle
    have hinner := restLength_tagContent inner
    cases htag : tagContent inner with
    | tag content rest =>
      rw [htag, TagContent.restLength] at hinner
      rw [tokensFrom_tag hrest htag, tokensFrom_tag hrest htag, List.map_append, List.map_append,
        map_kind_textToken, map_kind_textToken, List.map_cons, List.map_cons,
        ih rest.length (by omega) _ rest rfl]
    | stray content rest =>
      rw [htag, TagContent.restLength] at hinner
      rw [tokensFrom_stray hrest htag, tokensFrom_stray hrest htag, List.map_append, List.map_append,
        map_kind_textToken, map_kind_textToken, List.map_cons, List.map_cons, List.map_cons, List.map_cons,
        ih rest.length (by omega) _ rest rfl]

theorem kinds_nil : kinds [] = [] := by
  rw [kinds, tokensFrom_end rfl]
  rfl

/-- A tag is one token, whatever follows it. -/
theorem kinds_tag (htag : tagContent inner = .tag content rest) :
    kinds ('{' :: '{' :: inner) = .ofInner (trim content) :: kinds rest := by
  rw [kinds, tokensFrom_tag (congrArg Stretch.rest (stretch_tag inner)) htag, List.map_append, map_kind_textToken,
    List.map_cons, map_kind_tokensFrom]
  rfl

theorem kinds_stray (htag : tagContent inner = .stray content rest) :
    kinds ('{' :: '{' :: inner) = .unterminated :: .text (.ofList ('{' :: '{' :: content)) :: kinds rest := by
  rw [kinds, tokensFrom_stray (congrArg Stretch.rest (stretch_tag inner)) htag, List.map_append,
    map_kind_textToken, List.map_cons, List.map_cons, map_kind_tokensFrom]
  rfl

/-- A stretch of text is one token, unless it is empty. -/
theorem kinds_stretch (cs : List Char) :
    kinds cs = (if (stretch cs).shown.isEmpty then [] else [.text (.ofList (stretch cs).shown)]) ++
      kinds (stretch cs).rest := by
  rcases rest_stretch cs with hrest | ⟨inner, hrest⟩
  · rw [kinds, tokensFrom_end hrest, map_kind_textToken, hrest, kinds_nil, List.append_nil]
  · cases htag : tagContent inner with
    | tag content rest =>
      rw [hrest, kinds_tag htag, kinds, tokensFrom_tag hrest htag, List.map_append, map_kind_textToken,
        List.map_cons, map_kind_tokensFrom]
    | stray content rest =>
      rw [hrest, kinds_stray htag, kinds, tokensFrom_stray hrest htag, List.map_append, map_kind_textToken,
        List.map_cons, List.map_cons, map_kind_tokensFrom]

/-! ## 3. Escaped text -/

/-- Text with a backslash before every two opening braces. -/
def escapeText : List Char → List Char
  | '{' :: '{' :: cs => '\\' :: '{' :: '{' :: escapeText cs
  | c :: cs => c :: escapeText cs
  | [] => []

/-- Where text may end: nothing follows, or a tag. -/
def EndsText (rest : List Char) : Prop := rest = [] ∨ ∃ inner, rest = '{' :: '{' :: inner

/-- Text whose last character does not join with the braces of a tag behind it. -/
def ClosedText (cs : List Char) : Prop := ∀ c ∈ cs.getLast?, c ≠ '{' ∧ c ≠ '\\'

instance (cs : List Char) : Decidable (ClosedText cs) := Option.decidableForallMem _

theorem stretch_of_endsText (hrest : EndsText rest) : stretch rest = ⟨[], [], rest⟩ := by
  rcases hrest with rfl | ⟨inner, rfl⟩ <;> rfl

/-- The characters that escaped text goes on with are a backslash or those of the text. -/
theorem escapeText_eq_cons {cs out : List Char} {d : Char} (hd : d ≠ '\\') (h : escapeText cs = d :: out) :
    ∃ tail, cs = d :: tail ∧ out = escapeText tail := by
  unfold escapeText at h
  split at h
  · exact absurd (List.cons.inj h).1.symm hd
  · obtain ⟨rfl, rfl⟩ := List.cons.inj h
    exact ⟨_, rfl, rfl⟩
  · cases h

theorem escapeText_eq_nil {cs : List Char} (h : escapeText cs = []) : cs = [] := by
  unfold escapeText at h
  split at h
  · cases h
  · cases h
  · rfl

theorem ClosedText.tail {c : Char} {cs : List Char} (h : ClosedText (c :: cs)) : ClosedText cs := by
  intro d hd
  refine h d ?_
  rw [List.getLast?_cons, Option.mem_def.mp hd]
  rfl

/-- No two braces stand at the start of escaped text, whatever follows the text. -/
theorem escapeText_append_ne_pair {cs : List Char} (hclosed : ClosedText cs) (hne : cs ≠ [])
    (rest out : List Char) : escapeText cs ++ rest ≠ '{' :: '{' :: out := by
  intro h
  cases hfirst : escapeText cs with
  | nil => exact hne (escapeText_eq_nil hfirst)
  | cons c more =>
    rw [hfirst] at h
    obtain ⟨rfl, hmore⟩ := List.cons.inj h
    obtain ⟨tail, rfl, rfl⟩ := escapeText_eq_cons (by decide) hfirst
    cases hsecond : escapeText tail with
    -- the text was that one brace, and would not be closed
    | nil =>
      rw [escapeText_eq_nil hsecond] at hclosed
      exact (hclosed '{' rfl).1 rfl
    | cons c more =>
      rw [hsecond] at hmore
      obtain ⟨rfl, -⟩ := List.cons.inj hmore
      obtain ⟨tail, rfl, -⟩ := escapeText_eq_cons (by decide) hsecond
      -- two braces at the start of the text would have a backslash before them
      cases hfirst

/-- The stretch before a tag is read back from what it was escaped to. -/
theorem stretch_escapeText {cs : List Char} (hclosed : ClosedText cs) (hrest : EndsText rest) :
    stretch (escapeText cs ++ rest) = ⟨cs, escapeText cs, rest⟩ := by
  fun_induction escapeText cs with
  | case1 cs ih =>
    rw [List.cons_append, List.cons_append, List.cons_append, stretch, ih hclosed.tail.tail]
  | case2 c cs hpair ih =>
    rw [List.cons_append, stretch, ih hclosed.tail]
    -- a backslash of the text itself escapes nothing
    · intro out hc hout
      by_cases hcs : cs = []
      · subst hcs hc
        exact (hclosed '\\' rfl).2 rfl
      · exact escapeText_append_ne_pair hclosed.tail hcs rest out hout
    -- and a single brace of the text begins no tag
    · intro out hc hout
      by_cases hcs : cs = []
      · subst hcs hc
        exact (hclosed '{' rfl).1 rfl
      · cases hfirst : escapeText cs with
        | nil => exact hcs (escapeText_eq_nil hfirst)
        | cons d more =>
          rw [hfirst] at hout
          obtain ⟨rfl, -⟩ := List.cons.inj hout
          obtain ⟨tail, rfl, -⟩ := escapeText_eq_cons (by decide) hfirst
          exact hpair tail hc rfl
  | case3 => exact stretch_of_endsText hrest

/-- Escaped text is one token. -/
theorem kinds_escapeText {cs : List Char} (hne : cs ≠ []) (hclosed : ClosedText cs) (hrest : EndsText rest) :
    kinds (escapeText cs ++ rest) = .text (.ofList cs) :: kinds rest := by
  rw [kinds_stretch, stretch_escapeText hclosed hrest, if_neg (by simpa using hne), List.singleton_append]

/-! ## 4. The content of a tag -/

/-- The search for the end of a tag with more content in front. -/
def TagScan.prepend (content : List Char) (scan : TagScan) : TagScan := content.foldr TagScan.cons scan

/-- The search for the end of a tag passes over the text as content, and stands outside of quotations again. -/
def PassedOver (cs : List Char) : Prop := ∀ rest, scanTag none (cs ++ rest) = (scanTag none rest).prepend cs

theorem scanTag_quoted (quote : Char) {c : Char} (hc : c ≠ '\\') (cs : List Char) :
    scanTag (some quote) (c :: cs) = (scanTag (if c = quote then none else some quote) cs).cons c := by
  cases cs <;> simp only [scanTag, hc, if_false]

theorem scanTag_escaped (quote c : Char) (cs : List Char) :
    scanTag (some quote) ('\\' :: c :: cs) = ((scanTag (some quote) cs).cons c).cons '\\' := by
  rw [scanTag, if_pos rfl]

theorem passedOver_nil : PassedOver [] := fun _ => rfl

theorem PassedOver.append {cs ds : List Char} (hcs : PassedOver cs) (hds : PassedOver ds) : PassedOver (cs ++ ds) := by
  intro rest
  rw [List.append_assoc, hcs, hds, TagScan.prepend, TagScan.prepend, TagScan.prepend, List.foldr_append]

theorem PassedOver.cons {c : Char} {cs : List Char} (hc : PassedOver [c]) (hcs : PassedOver cs) :
    PassedOver (c :: cs) := hc.append hcs

/-- A character that is neither a quote nor a brace is passed over. -/
theorem passedOver_char {c : Char} (hquote : c ≠ '"' ∧ c ≠ '\'') (hbrace : c ≠ '{' ∧ c ≠ '}') : PassedOver [c] := by
  intro rest
  rw [List.singleton_append, scanTag]
  · simp only [hquote, or_self, if_false]
    rfl
  · exact fun _ h => absurd h hbrace.2
  · exact fun _ h => absurd h hbrace.1

theorem passedOver_of_forall {cs : List Char} (h : ∀ c ∈ cs, (c ≠ '"' ∧ c ≠ '\'') ∧ c ≠ '{' ∧ c ≠ '}') :
    PassedOver cs := by
  induction cs with
  | nil => exact passedOver_nil
  | cons c cs ih =>
    rw [List.forall_mem_cons] at h
    exact (passedOver_char h.1.1 h.1.2).cons (ih h.2)

/-- Content that is passed over is the content of its tag. -/
theorem PassedOver.tagContent (h : PassedOver content) (rest : List Char) :
    tagContent (content ++ '}' :: '}' :: rest) = .tag content rest := by
  have hscan : ∀ cs : List Char, (TagScan.closed [] rest).prepend cs = .closed cs rest := by
    intro cs
    induction cs with
    | nil => rfl
    | cons c cs ih =>
      show ((TagScan.closed [] rest).prepend cs).cons c = _
      rw [ih]
      rfl
  rw [Template.tagContent, h, scanTag, hscan]

end Stencil.Template
