import Stencil.Proofs.Template.Places
import Stencil.Proofs.Template.Printing

/-!
Tokens as a tiling of their source.

Nothing of a source is lost when it is cut into tokens. Taken in order, the tokens lie end to end from the first
byte to the last, and each of them shows the piece of the source that it lies on. There is one exception to "end to
end": the mark of a tag that never ends lies on the same piece as the text that follows it.

The cutting itself goes from tag to tag and falls back when a quotation is not closed. `Cut` forgets how the pieces
were found: it only says that the source is a row of pieces of three kinds (text, tags, stray braces), which is all
that the statements about spans depend on. One walk through the cutting (`cut_tokensFrom`) shows that the tokens of
every source are such a row, and the rest is induction on the row.
-/

namespace Stencil

namespace Template

open Text

/-! ## 1. Taking escapes back -/

/-- The text with the backslash before every two opening braces taken away, read from the left. -/
def unescape (cs : List Char) : List Char := replaceAll ['\\', '{', '{'] ['{', '{'] cs

theorem unescape_nil : unescape [] = [] := by rw [unescape, replaceAll]

/-- What a stretch of text stands for is what is left of its escapes. -/
theorem unescape_written (cs : List Char) : unescape (stretch cs).written = (stretch cs).shown := by
  fun_induction stretch cs with
  | case1 cs s ih => exact (replaceAll_of_stripPrefix? rfl).trans (congrArg ('{' :: '{' :: ·) ih)
  | case2 cs => exact unescape_nil
  | case3 c cs hescape _ s ih =>
    have hnone : stripPrefix? ['\\', '{', '{'] (c :: s.written) = none := by
      cases hrest : stripPrefix? ['\\', '{', '{'] (c :: s.written) with
      | none => rfl
      | some rest =>
        -- an escape in what is written would be one in the source
        obtain ⟨rfl, hwritten⟩ := List.cons.inj (eq_append_of_stripPrefix? hrest)
        have hcs := written_append_rest cs
        rw [show (stretch cs).written = '{' :: '{' :: rest from hwritten] at hcs
        exact absurd hcs.symm (hescape (rest ++ (stretch cs).rest) rfl)
    exact (replaceAll_of_stripPrefix?_eq_none hnone).trans (congrArg (c :: ·) ih)
  | case4 => exact unescape_nil

theorem written_eq_nil {cs : List Char} (h : (stretch cs).shown = []) : (stretch cs).written = [] := by
  fun_induction stretch cs with
  | case1 cs s ih => cases h
  | case2 cs => rfl
  | case3 c cs _ _ s ih => cases h
  | case4 => rfl

/-! ## 2. Tags -/

/-- What the search for the end of a tag has found, as a way to write the text that was searched. -/
def TagScan.Splits (cs : List Char) : TagScan → Prop
  | .closed content rest => cs = content ++ '}' :: '}' :: rest
  | .interrupted content rest => cs = content ++ rest
  | .exhausted _ => True

theorem TagScan.Splits.cons {cs : List Char} {scan : TagScan} (h : scan.Splits cs) (c : Char) :
    (scan.cons c).Splits (c :: cs) := by
  cases scan with
  | closed content rest => exact congrArg (c :: ·) h
  | interrupted content rest => exact congrArg (c :: ·) h
  | exhausted quoted => trivial

theorem scanTag_splits (quote : Option Char) (cs : List Char) : (scanTag quote cs).Splits cs := by
  fun_induction scanTag quote cs with
  | case1 => trivial
  | case2 => trivial
  | case3 _ d cs ih => exact (ih.cons d).cons '\\'
  | case4 c cs _ _ ih => exact ih.cons c
  | case5 rest => rfl
  | case6 rest => rfl
  | case7 c cs _ _ ih => exact ih.cons c

theorem beforeTag_append (cs : List Char) : (beforeTag cs).1 ++ (beforeTag cs).2 = cs := by
  fun_induction beforeTag cs with
  | case1 => rfl
  | case2 cs => rfl
  | case3 c cs _ before rest h ih =>
    rw [h] at ih
    exact congrArg (c :: ·) ih

/-- What follows two opening braces as a way to write it. -/
def TagContent.Splits (cs : List Char) : TagContent → Prop
  | .tag content rest => cs = content ++ '}' :: '}' :: rest
  | .stray content rest => cs = content ++ rest

theorem tagContent_splits (cs : List Char) : (tagContent cs).Splits cs := by
  have hscan := scanTag_splits none cs
  unfold tagContent
  split
  · next h =>
    rw [h] at hscan
    exact hscan
  · next h =>
    rw [h] at hscan
    exact hscan
  · next quoted _ =>
    split
    · next content rest h =>
      -- the quotation is given up, and the first closing braces end the tag
      cases quoted with
      | true => simpa [TagContent.Splits] using eq_append_of_cutAt? h
      | false => cases h
    · exact (beforeTag_append cs).symm

/-! ## 3. Rows of pieces -/

/-- The tokens lie on the pieces of a text, which follows other text in its source. -/
inductive Cut : (before cs : List Char) → List Token → Prop
  | done {before} : Cut before [] []
  | text {before cs after ts} (nonempty : cs ≠ []) (others : Cut (before ++ cs) after ts) :
      Cut before (cs ++ after) (⟨.text (.ofList (unescape cs)), .following before cs⟩ :: ts)
  | tag {before content after ts} (others : Cut (before ++ printTag content) after ts) :
      Cut before (printTag content ++ after)
        (⟨.ofInner (trim content), .following before (printTag content)⟩ :: ts)
  | stray {before cs after ts} (nonempty : cs ≠ []) (others : Cut (before ++ cs) after ts) :
      Cut before (cs ++ after)
        (⟨.unterminated, .following before cs⟩ :: ⟨.text (.ofList cs), .following before cs⟩ :: ts)

theorem cut_textToken {before cs after : List Char} {ts : List Token}
    (h : Cut (before ++ (stretch cs).written) after ts) :
    Cut before ((stretch cs).written ++ after) (textToken (byteSize before) (stretch cs) ++ ts) := by
  unfold textToken
  split
  · next hshown =>
    rw [written_eq_nil (List.isEmpty_iff.mp hshown)] at h ⊢
    rwa [List.append_nil] at h
  · next hshown =>
    rw [← unescape_written] at hshown ⊢
    refine .text (fun hwritten => hshown ?_) h
    rw [hwritten, unescape_nil]
    rfl

theorem byteSize_braces (content : List Char) : byteSize ('{' :: '{' :: content) = byteSize content + 2 := by
  rw [byteSize, byteSize, show ('{' : Char).utf8Size = 1 from rfl]
  omega

theorem byteSize_printTag (content : List Char) : byteSize (printTag content) = byteSize content + 4 := by
  rw [printTag, byteSize_append, byteSize_braces, show byteSize ['}', '}'] = 2 from rfl]

/-- **The tokens of a text** lie on its pieces. -/
theorem cut_tokensFrom (before cs : List Char) : Cut before cs (tokensFrom (byteSize before) cs) := by
  -- what is left after a tag is shorter than the text
  induction hlength : cs.length using Nat.strongRecOn generalizing before cs with | _ length ih
  have hle := length_stretch_rest cs
  have hwritten := written_append_rest cs
  rcases rest_stretch cs with hrest | ⟨inner, hrest⟩
  · have hcut : Cut before ((stretch cs).written ++ []) (textToken (byteSize before) (stretch cs) ++ []) :=
      cut_textToken .done
    rw [← hrest, hwritten, List.append_nil] at hcut
    rwa [tokensFrom_end hrest]
  · have hinner := tagContent_splits inner
    have hshorter := restLength_tagContent inner
    rw [hrest, List.length_cons, List.length_cons] at hle
    cases htag : tagContent inner with
    | tag content rest =>
      rw [htag, TagContent.restLength] at hshorter
      rw [htag] at hinner
      have hsource : printTag content ++ rest = (stretch cs).rest := by
        rw [hrest, hinner, printTag, List.append_assoc]
        rfl
      have hothers := ih rest.length (by omega) (before ++ (stretch cs).written ++ printTag content) rest rfl
      have hcut := cut_textToken (.tag hothers)
      rw [hsource, hwritten] at hcut
      simp only [Span.following, byteSize_append, byteSize_printTag, ← Nat.add_assoc] at hcut
      rwa [tokensFrom_tag hrest htag]
    | stray content rest =>
      rw [htag, TagContent.restLength] at hshorter
      rw [htag] at hinner
      have hsource : '{' :: '{' :: content ++ rest = (stretch cs).rest := by
        rw [hrest, hinner]
        rfl
      have hothers := ih rest.length (by omega) (before ++ (stretch cs).written ++ '{' :: '{' :: content) rest rfl
      have hcut := cut_textToken (.stray (List.cons_ne_nil _ _) hothers)
      rw [hsource, hwritten] at hcut
      simp only [Span.following, byteSize_append, byteSize_braces, ← Nat.add_assoc] at hcut
      rwa [tokensFrom_stray hrest htag]

theorem cut_tokens (source : String) : Cut [] source.toList (tokens source) := cut_tokensFrom [] source.toList

/-! ## 4. What the tokens keep of their source -/

/-- The spans lie end to end from one byte to another, and none of them is empty. -/
def Tiles : Nat → List Span → Nat → Prop
  | start, [], stop => start = stop
  | start, span :: spans, stop => span.start = start ∧ start < span.stop ∧ Tiles span.stop spans stop

/-- The span covers a tag of the kind: two opening braces, content, two closing braces. -/
def TagAt (source : String) (kind : TokenKind) (span : Span) : Prop :=
  ∃ content : String, span.slice source = "\x7b\x7b" ++ content ++ "\x7d\x7d" ∧ kind = .ofInner (trim content.toList)

/-- The last of the tokens is the mark of a tag that never ends. -/
def AfterStray (ts : List Token) : Prop := ts.getLast?.map (·.kind) = some .unterminated

instance (ts : List Token) : Decidable (AfterStray ts) := inferInstanceAs (Decidable (_ = _))

/-- What text shows that stands on the span, behind the given tokens: its place without the escapes, or its place as
it is when the tag before it never ends. -/
def shownText (source : String) (early : List Token) (span : Span) : String :=
  if AfterStray early then span.slice source else .ofList (unescape (span.slice source).toList)

/-- The tokens and their source: where the tokens lie, and what each of them shows of the place it lies on. -/
structure Lossless (source : String) (ts : List Token) : Prop where
  /-- But for the marks of tags that never end, the tokens lie end to end, from the start of the source to its end. -/
  tiled : Tiles 0 ((ts.filter (·.kind ≠ .unterminated)).map (·.span)) source.utf8ByteSize
  /-- No token lies across a character. -/
  placed : ∀ t ∈ ts, t.span.LiesIn source
  /-- The mark of a tag that never ends lies on the text behind it. -/
  strays : ∀ before t after, ts = before ++ t :: after → t.kind = .unterminated →
    ∃ s others, after = ⟨.text s, t.span⟩ :: others
  /-- Text shows its place. -/
  texts : ∀ before s span after, ts = before ++ ⟨.text s, span⟩ :: after → s = shownText source before span
  /-- Every other token is a tag, and its kind is read from what stands between the braces. -/
  tags : ∀ t ∈ ts, t.kind ≠ .unterminated → (∀ s, t.kind ≠ .text s) → TagAt source t.kind t.span

theorem ofInner_ne_unterminated (inner : List Char) : TokenKind.ofInner inner ≠ .unterminated := by
  unfold TokenKind.ofInner
  split <;> simp

theorem ofInner_ne_text (inner : List Char) (s : String) : TokenKind.ofInner inner ≠ .text s := by
  unfold TokenKind.ofInner
  split <;> simp

theorem tagAt_following {source : String} {before content after : List Char}
    (h : source.toList = before ++ (printTag content ++ after)) :
    TagAt source (.ofInner (trim content)) (.following before (printTag content)) := by
  refine ⟨.ofList content, ?_, by rw [String.toList_ofList]⟩
  rw [Span.slice_following h, printTag, String.ofList_append]
  congr 1
  exact @String.ofList_append ['{', '{'] content

theorem shownText_cons {t : Token} (h : t.kind ≠ .unterminated) (source : String) (early : List Token) (span : Span) :
    shownText source (t :: early) span = shownText source early span := by
  have hlast : AfterStray (t :: early) ↔ AfterStray early := by
    cases early with
    | nil => simp [AfterStray, h]
    | cons u early => rw [AfterStray, AfterStray, List.getLast?_cons_cons]
  simp only [shownText, hlast]

theorem shownText_cons_cons (source : String) (t u : Token) (early : List Token) (span : Span) :
    shownText source (t :: u :: early) span = shownText source (u :: early) span := by
  have hlast : AfterStray (t :: u :: early) ↔ AfterStray (u :: early) := by
    rw [AfterStray, AfterStray, List.getLast?_cons_cons]
  simp only [shownText, hlast]

namespace Cut

variable {source : String} {before cs : List Char} {ts : List Token}

theorem liesIn (h : Cut before cs ts) (hsource : source.toList = before ++ cs) :
    ∀ t ∈ ts, t.span.LiesIn source := by
  induction h with
  | done => simp
  | text _ _ ih | tag _ ih =>
    rw [List.forall_mem_cons]
    exact ⟨Span.following_liesIn hsource, ih (by rw [hsource, List.append_assoc])⟩
  | stray _ _ ih =>
    rw [List.forall_mem_cons, List.forall_mem_cons]
    have hspan := Span.following_liesIn hsource
    exact ⟨hspan, hspan, ih (by rw [hsource, List.append_assoc])⟩

theorem tiles (h : Cut before cs ts) :
    Tiles (byteSize before) ((ts.filter (·.kind ≠ .unterminated)).map (·.span)) (byteSize (before ++ cs)) := by
  -- a piece at the start of the text is the first span, and the others begin where it stops
  have step : ∀ {before piece after : List Char} {spans : List Span}, piece ≠ [] →
      Tiles (byteSize (before ++ piece)) spans (byteSize (before ++ piece ++ after)) →
      Tiles (byteSize before) (.following before piece :: spans) (byteSize (before ++ (piece ++ after))) := by
    intro before piece after spans hpiece hspans
    rw [← Span.stop_following, List.append_assoc] at hspans
    exact ⟨rfl, Span.following_proper hpiece, hspans⟩
  induction h with
  | done =>
    rw [List.append_nil]
    rfl
  | text hne _ ih =>
    rw [List.filter_cons_of_pos (by simp), List.map_cons]
    exact step hne ih
  | tag _ ih =>
    rw [List.filter_cons_of_pos (by simp [ofInner_ne_unterminated]), List.map_cons]
    exact step (by simp [printTag]) ih
  | stray hne _ ih =>
    rw [List.filter_cons_of_neg (by simp), List.filter_cons_of_pos (by simp), List.map_cons]
    exact step hne ih

theorem strays (h : Cut before cs ts) {early late : List Token} {t : Token} (hts : ts = early ++ t :: late)
    (hkind : t.kind = .unterminated) : ∃ s others, late = ⟨.text s, t.span⟩ :: others := by
  induction h generalizing early with
  | done => simp at hts
  | text _ _ ih =>
    cases early with
    | nil =>
      obtain ⟨rfl, -⟩ := List.cons.inj hts
      cases hkind
    | cons u early => exact ih (List.cons.inj hts).2
  | tag _ ih =>
    cases early with
    | nil =>
      obtain ⟨rfl, -⟩ := List.cons.inj hts
      exact absurd hkind (ofInner_ne_unterminated _)
    | cons u early => exact ih (List.cons.inj hts).2
  | stray _ _ ih =>
    match early, hts with
    | [], hts =>
      obtain ⟨rfl, rfl⟩ := List.cons.inj hts
      exact ⟨_, _, rfl⟩
    | [u], hts =>
      obtain ⟨rfl, -⟩ := List.cons.inj (List.cons.inj hts).2
      cases hkind
    | u :: v :: early, hts => exact ih (List.cons.inj (List.cons.inj hts).2).2

theorem texts (h : Cut before cs ts) (hsource : source.toList = before ++ cs) {early late : List Token} {s : String}
    {span : Span} (hts : ts = early ++ ⟨.text s, span⟩ :: late) : s = shownText source early span := by
  induction h generalizing early with
  | done => simp at hts
  | text _ _ ih =>
    cases early with
    | nil =>
      cases hts
      rw [shownText, if_neg (by simp [AfterStray]), Span.slice_following hsource, String.toList_ofList]
    | cons u early =>
      obtain ⟨hu, hrest⟩ := List.cons.inj hts
      rw [← hu, shownText_cons (by simp)]
      exact ih (by rw [hsource, List.append_assoc]) hrest
  | tag _ ih =>
    cases early with
    | nil => exact absurd (congrArg Token.kind (List.cons.inj hts).1) (ofInner_ne_text _ s)
    | cons u early =>
      obtain ⟨hu, hrest⟩ := List.cons.inj hts
      rw [← hu, shownText_cons (ofInner_ne_unterminated _)]
      exact ih (by rw [hsource, List.append_assoc]) hrest
  | stray _ _ ih =>
    match early, hts with
    | [], hts => cases hts
    | [u], hts =>
      obtain ⟨hu, hrest⟩ := List.cons.inj hts
      cases hrest
      rw [← hu, shownText, if_pos (by simp [AfterStray]), Span.slice_following hsource]
    | u :: v :: early, hts =>
      obtain ⟨-, hrest⟩ := List.cons.inj hts
      obtain ⟨hv, hrest⟩ := List.cons.inj hrest
      rw [shownText_cons_cons, ← hv, shownText_cons (by simp)]
      exact ih (by rw [hsource, List.append_assoc]) hrest

theorem tags (h : Cut before cs ts) (hsource : source.toList = before ++ cs) {t : Token} (ht : t ∈ ts)
    (hstray : t.kind ≠ .unterminated) (htext : ∀ s, t.kind ≠ .text s) : TagAt source t.kind t.span := by
  induction h with
  | done => cases ht
  | text _ _ ih =>
    rcases List.mem_cons.mp ht with rfl | ht
    · exact absurd rfl (htext _)
    · exact ih (by rw [hsource, List.append_assoc]) ht
  | tag _ ih =>
    rcases List.mem_cons.mp ht with rfl | ht
    · exact tagAt_following hsource
    · exact ih (by rw [hsource, List.append_assoc]) ht
  | stray _ _ ih =>
    rcases List.mem_cons.mp ht with rfl | ht
    · exact absurd rfl hstray
    · rcases List.mem_cons.mp ht with rfl | ht
      · exact absurd rfl (htext _)
      · exact ih (by rw [hsource, List.append_assoc]) ht

end Cut

/-- **The tokens of a source** are its pieces, all of them, in order and each of them once. -/
theorem tokens_lossless (source : String) : Lossless source (tokens source) := by
  have hcut := cut_tokens source
  refine ⟨?_, hcut.liesIn rfl, ?_, ?_, ?_⟩
  · rw [utf8ByteSize_eq]
    exact hcut.tiles
  · intro before t after hts hkind
    exact hcut.strays hts hkind
  · intro before s span after hts
    exact hcut.texts rfl hts
  · intro t ht hstray htext
    exact hcut.tags rfl ht hstray htext

end Template

end Stencil
