import Stencil.Proofs.Template.Tiling

/-!
Two readers of quotations.

Two functions have to know what is quoted in the content of a tag: the search for the end of the tag, which goes by
characters, and the reading of the call, which goes by lexemes. They do not agree. A quote opens a literal for the
reading of the call only where a lexeme may start, and inside a word it is a character like any other; the search
takes it for the start of a quotation wherever it stands. A word like `don't` is all that it takes: for the search
everything behind it is quoted, the end of the tag included, up to the next quote of that kind in the source, and
braces inside a literal may come to stand outside of what the search takes for one.

Both are readers of one kind here (`Reader`), which take one character after the other and differ in that one point.
Each has to be tied to the function that it stands for: a parenthesis put anywhere into a text is a lexeme of its own
just where the first one does not stand in a literal (`lexemes_append_closing_iff`), and the search comes to the end of
a content just when the second one sees it as that (`scanFrom_eq_closed_iff`).

For each of them there is what it sees outside of literals (`Reader.unquoted`) and the content that it sees as the
whole content of a tag (`Reader.Encloses`). The end of a tag is found whatever follows just when the search sees its
content so (`beginsWithTag_iff_encloses`), and the two see the same when no word has a quote in it
(`SeesNoQuote.agree`).
-/

namespace Stencil

namespace Template

open Text

/-! ## 1. Readers -/

/-- Who reads the content of a tag. -/
inductive Reader where
  /-- The reading of the call: a quote inside a word is a part of the word. -/
  | call
  /-- The search for the end of the tag: a quote opens a literal wherever it stands. -/
  | search
  deriving DecidableEq

/-- Where the reading stands after some of the content. -/
inductive Reading where
  /-- Where a lexeme may start. -/
  | between
  /-- Inside a word. -/
  | word
  /-- Inside the literal that the quote opened. -/
  | literal (quote : Char)
  /-- Inside that literal, right behind a backslash. -/
  | escape (quote : Char)
  deriving DecidableEq

namespace Reading

/-- The quote that opened the literal that is being read. -/
def quote? : Reading → Option Char
  | .literal quote | .escape quote => some quote
  | .between | .word => none

/-- Whether a literal is being read. -/
def isQuoted (here : Reading) : Bool := here.quote?.isSome

end Reading

namespace Reader

/-- Where the reading stands after one more character. -/
def next (reader : Reader) : Reading → Char → Reading
  | .literal quote, c => if c = '\\' then .escape quote else if c = quote then .between else .literal quote
  | .escape quote, _ => .literal quote
  | .between, c => if isQuote c then .literal c else if isWordChar c then .word else .between
  | .word, c => if reader = .search ∧ isQuote c then .literal c else if isWordChar c then .word else .between

/-- Where the reading stands after some text. -/
def after (reader : Reader) (here : Reading) (cs : List Char) : Reading := cs.foldl reader.next here

/-- The text with the literals blotted out, their quotes included. -/
def unquoted (reader : Reader) : Reading → List Char → List (Option Char)
  | _, [] => []
  | here, c :: cs =>
    (if here.isQuoted || (reader.next here c).isQuoted then none else some c) :: reader.unquoted (reader.next here c) cs

example :
    Reader.call.unquoted .between ['f', '\'', ' ', '"', '\\', '"', '"'] =
      [some 'f', some '\'', some ' ', none, none, none, none] := by decide

example :
    Reader.search.unquoted .between ['f', '\'', ' ', '"', '\\', '"', '"'] =
      [some 'f', none, none, none, none, none, none] := by decide

/-- The reader sees the text as the whole content of a tag. -/
structure Encloses (reader : Reader) (here : Reading) (content : List Char) : Prop where
  /-- Every literal is closed. -/
  closed : (reader.after here content).isQuoted = false
  /-- Outside of literals no other tag opens. -/
  noOpening : ¬ [some '{', some '{'] <:+: reader.unquoted here content
  /-- Outside of literals no tag closes. -/
  noClosing : ¬ [some '}', some '}'] <:+: reader.unquoted here content
  /-- The last character makes no closing braces together with those of the tag. -/
  noBraceLast : (reader.unquoted here content).getLast? ≠ some (some '}')

instance (reader : Reader) (here : Reading) (content : List Char) : Decidable (reader.Encloses here content) :=
  have (pair seen : List (Option Char)) : Decidable (pair <:+: seen) := List.instDecidableIsInfixOfDecidableEq pair seen
  decidable_of_iff
    ((reader.after here content).isQuoted = false ∧ (¬ [some '{', some '{'] <:+: reader.unquoted here content) ∧
      (¬ [some '}', some '}'] <:+: reader.unquoted here content) ∧
        (reader.unquoted here content).getLast? ≠ some (some '}'))
    ⟨fun h => ⟨h.1, h.2.1, h.2.2.1, h.2.2.2⟩, fun h => ⟨h.closed, h.noOpening, h.noClosing, h.noBraceLast⟩⟩

/-- No quote is seen outside of literals. -/
def SeesNoQuote (reader : Reader) (here : Reading) (cs : List Char) : Prop :=
  ∀ seen ∈ reader.unquoted here cs, ∀ c ∈ seen, isQuote c = false

instance (reader : Reader) (here : Reading) (cs : List Char) : Decidable (reader.SeesNoQuote here cs) :=
  have (seen : Option Char) : Decidable (∀ c ∈ seen, isQuote c = false) := Option.decidableForallMem _
  List.decidableBAll _ (reader.unquoted here cs)

variable {reader : Reader} {here : Reading} {c : Char} {cs ds : List Char}

/-- A quote goes on with a word that has begun. -/
theorem isWordChar_of_isQuote (hc : isQuote c = true) : isWordChar c = true := by
  simp only [isQuote, Bool.or_eq_true, beq_iff_eq] at hc
  rcases hc with rfl | rfl <;> rfl

theorem isQuote_eq_false (hc : isWordChar c = false) : isQuote c = false := by
  cases hquote : isQuote c with
  | false => rfl
  | true =>
    rw [isWordChar_of_isQuote hquote] at hc
    cases hc

/-- Without a quote no literal begins. -/
theorem isQuoted_next (hc : isQuote c = false) (hhere : here.isQuoted = false) :
    (reader.next here c).isQuoted = false := by
  cases here with
  | between | word =>
    simp only [next, hc, Bool.false_eq_true, and_false, if_false]
    split <;> rfl
  | literal quote | escape quote => cases hhere

theorem isQuote_of_next {quote : Char} (h : (reader.next here c).quote? = some quote) :
    isQuote quote = true ∨ here.quote? = some quote := by
  cases here with
  | between =>
    simp only [next] at h
    split at h
    · next hc =>
      cases h
      exact .inl hc
    · split at h <;> cases h
  | word =>
    simp only [next] at h
    split at h
    · next hc =>
      cases h
      exact .inl hc.2
    · split at h <;> cases h
  | literal old =>
    simp only [next] at h
    split at h
    · exact .inr h
    · split at h
      · cases h
      · exact .inr h
  | escape old => exact .inr h

/-- A literal is opened by a quote. -/
theorem isQuote_of_after {quote : Char} (h : (reader.after here cs).quote? = some quote) :
    isQuote quote = true ∨ here.quote? = some quote := by
  induction cs generalizing here with
  | nil => exact .inr h
  | cons c cs ih => exact (ih h).elim .inl isQuote_of_next

/-! ## 2. The reading of the call -/

theorem dropWhile_append_stop {p : Char → Bool} (hc : p c = false) (cs ds : List Char) :
    (cs ++ c :: ds).dropWhile p = cs.dropWhile p ++ c :: ds := by
  rw [List.dropWhile_append]
  split
  · next h => rw [List.isEmpty_iff.mp h, List.dropWhile_cons_of_neg (by simp [hc]), List.nil_append]
  · rfl

/-- Outside of literals a character that is none of a word leaves the reading where a lexeme may start. -/
theorem after_cons_sign (hhere : here = .between ∨ here = .word) (hc : isWordChar c = false) (cs : List Char) :
    Reader.call.after here (c :: cs) = Reader.call.after .between cs := by
  rcases hhere with rfl | rfl <;> simp [after, next, hc, isQuote_eq_false hc]

/-- Blanks end where a lexeme may start. -/
theorem after_blanks (cs : List Char) :
    Reader.call.after .between cs = Reader.call.after .between (cs.dropWhile isBlank) := by
  induction cs with
  | nil => rfl
  | cons c cs ih =>
    cases hc : isBlank c with
    | false => rw [List.dropWhile_cons_of_neg (by simp [hc])]
    | true => rw [List.dropWhile_cons_of_pos hc, after_cons_sign (.inl rfl) (isWordChar_eq_false (.inl hc)), ih]

/-- No literal begins inside a word. -/
theorem isQuoted_after_word (cs : List Char) :
    (Reader.call.after .word cs).isQuoted = (Reader.call.after .between (cs.dropWhile isWordChar)).isQuoted := by
  induction cs with
  | nil => rfl
  | cons c cs ih =>
    cases hc : isWordChar c with
    | false =>
      rw [List.dropWhile_cons_of_neg (by simp [hc]), after_cons_sign (.inr rfl) hc, after_cons_sign (.inl rfl) hc]
    | true =>
      have hnext : Reader.call.next .word c = .word := by simp [next, hc]
      rw [List.dropWhile_cons_of_pos hc, ← ih]
      exact congrArg (fun here => (Reader.call.after here cs).isQuoted) hnext

/-- The last two cases of reading a literal are about characters that are no backslash. -/
theorem ne_backslash (hlast : c = '\\' → cs = [] → False)
    (hescape : ∀ d ds, c = '\\' → cs = d :: ds → False) : c ≠ '\\' := by
  rintro rfl
  cases cs with
  | nil => exact hlast rfl rfl
  | cons d ds => exact hescape d ds rfl rfl

theorem readLiteral_plain (quote : Char) (hc : c ≠ '\\') (cs : List Char) :
    readLiteral quote (c :: cs) =
      if c = quote then ([], cs) else (c :: (readLiteral quote cs).1, (readLiteral quote cs).2) := by
  rw [readLiteral]
  · rintro rfl -
    exact hc rfl
  · rintro d ds rfl -
    exact hc rfl

theorem readLiteral_escaped (quote c : Char) (cs : List Char) :
    readLiteral quote ('\\' :: c :: cs) =
      if c = quote ∨ c = '\\' then (c :: (readLiteral quote cs).1, (readLiteral quote cs).2)
      else ('\\' :: c :: (readLiteral quote cs).1, (readLiteral quote cs).2) := by
  rw [readLiteral]

/-- Either the literal is closed, and the reading goes on behind it, whatever stands there; or it is still open at the
end, and what follows becomes a part of it. -/
theorem readLiteral_append_closing {quote : Char} (hquote : isQuote quote = true) (cs ds : List Char) :
    (readLiteral quote (cs ++ ')' :: ds) = ((readLiteral quote cs).1, (readLiteral quote cs).2 ++ ')' :: ds) ∧
        Reader.call.after (.literal quote) cs = Reader.call.after .between (readLiteral quote cs).2) ∨
      ((readLiteral quote cs).1.length < (readLiteral quote (cs ++ ')' :: ds)).1.length ∧
        (Reader.call.after (.literal quote) cs).isQuoted = true) := by
  have hparen : ')' ≠ quote := by
    rintro rfl
    cases hquote
  have hafter {c : Char} (hc : c ≠ '\\') (cs : List Char) :
      Reader.call.after (.literal quote) (c :: cs) =
        if c = quote then Reader.call.after .between cs else Reader.call.after (.literal quote) cs := by
    simp only [after, List.foldl_cons, next, if_neg hc]
    split <;> rfl
  fun_induction readLiteral quote cs with
  | case1 =>
    refine .inr ⟨?_, rfl⟩
    rw [List.nil_append, readLiteral_plain quote (by decide), if_neg hparen]
    exact Nat.succ_pos _
  | case2 =>
    refine .inr ⟨?_, rfl⟩
    rw [List.singleton_append, readLiteral_escaped, if_neg (by simp [hparen])]
    exact Nat.succ_lt_succ (Nat.succ_pos _)
  | case3 c cs literal rest h hc ih | case4 c cs literal rest h hc ih =>
    have hskip : Reader.call.after (.literal quote) ('\\' :: c :: cs) = Reader.call.after (.literal quote) cs := by
      simp [after, next]
    rw [h] at ih
    simp only [List.cons_append, readLiteral_escaped, hc, if_true, if_false, hskip]
    rcases ih with ⟨hread, hclosed⟩ | ⟨hlength, hquoted⟩
    · exact .inl ⟨by rw [hread], hclosed⟩
    · exact .inr ⟨by simpa using hlength, hquoted⟩
  | case5 cs hlast hescape =>
    have hc := ne_backslash hlast hescape
    rw [hafter hc, if_pos rfl, List.cons_append, readLiteral_plain quote hc, if_pos rfl]
    exact .inl ⟨rfl, rfl⟩
  | case6 c cs hlast hescape hne literal rest h ih =>
    have hc := ne_backslash hlast hescape
    rw [h] at ih
    rw [hafter hc, if_neg hne, List.cons_append, readLiteral_plain quote hc, if_neg hne]
    rcases ih with ⟨hread, hclosed⟩ | ⟨hlength, hquoted⟩
    · exact .inl ⟨by rw [hread], hclosed⟩
    · exact .inr ⟨by simpa using hlength, hquoted⟩

/-- A word with its end is the same when a parenthesis stands behind the text. -/
theorem lexemes_word_append_closing (hc : isWordChar c = true) (hquote : isQuote c = false) (cs ds : List Char) :
    lexemes (c :: cs ++ ')' :: ds) =
      wordLexemes (c :: cs.takeWhile isWordChar) (cs.dropWhile isWordChar ++ ')' :: ds) := by
  have hword : IsWord (c :: cs.takeWhile isWordChar) := by
    refine ⟨List.cons_ne_nil _ _, ?_, ?_⟩
    · rw [List.forall_mem_cons]
      exact ⟨hc, List.all_eq_true.mp List.all_takeWhile⟩
    · rintro d ⟨⟩
      exact hquote
  have hend : ∀ d ∈ (cs.dropWhile isWordChar ++ ')' :: ds).head?, isWordChar d = false := by
    intro d hd
    have hstop := List.head?_dropWhile_not isWordChar (cs ++ ')' :: ds)
    rwa [dropWhile_append_stop (by decide), hd] at hstop
  rw [← lexemes_word_start hword hend, ← List.append_assoc, List.cons_append, List.cons_append,
    List.takeWhile_append_dropWhile, List.cons_append]

theorem isQuoted_after_word_start (hc : isWordChar c = true) (hquote : isQuote c = false) (cs : List Char) :
    (Reader.call.after .between (c :: cs)).isQuoted =
      (Reader.call.after .between (cs.dropWhile isWordChar)).isQuoted := by
  have hnext : Reader.call.next .between c = .word := by simp [next, hc, hquote]
  rw [← isQuoted_after_word, ← hnext]
  rfl

/-- Where the reader of the call stands in a literal, a parenthesis becomes a part of it, and everywhere else it is read
as a parenthesis. -/
theorem lexemes_append_closing_iff (cs ds : List Char) :
    lexemes (cs ++ ')' :: ds) = lexemes cs ++ .closing :: lexemes ds ↔
      (Reader.call.after .between cs).isQuoted = false := by
  have hfirst {c : Char} (hblank : ¬ isBlank c = true) (hquote : ¬ (c = '"' ∨ c = '\'')) (hopening : c ≠ '(')
      (hclosing : c ≠ ')') (hequals : c ≠ '=') : isWordChar c = true ∧ isQuote c = false :=
    ⟨by simp [isWordChar, hblank, hopening, hclosing, hequals], by simpa [isQuote] using hquote⟩
  fun_induction lexemes cs
  case case1 => exact iff_of_true (lexemes_closing ds) rfl
  case case2 c cs hblank ih =>
    rw [List.cons_append, lexemes, if_pos hblank, dropWhile_append_stop (by decide), List.cons_append,
      List.cons.injEq, eq_self, true_and, after_blanks (c :: cs), List.dropWhile_cons_of_pos hblank]
    exact ih
  case case3 c cs hblank hquote ih =>
    have hkind : isQuote c = true := by simpa [isQuote] using hquote
    have hafter : Reader.call.after .between (c :: cs) = Reader.call.after (.literal c) cs := by
      simp [after, next, hkind]
    rw [List.cons_append, lexemes, if_neg hblank, if_pos hquote, List.cons_append, List.cons.injEq, hafter]
    rcases readLiteral_append_closing hkind cs ds with ⟨hread, hclosed⟩ | ⟨hlength, hquoted⟩
    · rw [hread, eq_self, true_and, hclosed]
      exact ih
    · refine iff_of_false (fun h => ?_) (by simp [hquoted])
      injection h.1 with hliteral
      rw [String.ofList_inj.mp hliteral] at hlength
      exact Nat.lt_irrefl _ hlength
  case case4 cs hblank hquote ih =>
    rw [List.cons_append, lexemes_opening, List.cons_append, List.cons.injEq, eq_self, true_and,
      after_cons_sign (.inl rfl) rfl]
    exact ih
  case case5 cs hblank hquote hopening ih =>
    rw [List.cons_append, lexemes_closing, List.cons_append, List.cons.injEq, eq_self, true_and,
      after_cons_sign (.inl rfl) rfl]
    exact ih
  case case6 cs hblank hquote hopening hclosing ih =>
    rw [List.cons_append, lexemes, if_neg hblank, if_neg hquote, if_neg hopening, if_neg hclosing, if_pos rfl,
      List.cons_append, List.cons.injEq, eq_self, true_and, after_cons_sign (.inl rfl) rfl]
    exact ih
  case case7 c cs hblank hquote hopening hclosing hequals word rest hrest ih =>
    obtain ⟨hc, hkind⟩ := hfirst hblank hquote hopening hclosing hequals
    rw [lexemes_word_append_closing hc hkind, isQuoted_after_word_start hc hkind, hrest, List.cons_append, wordLexemes,
      List.cons_append, List.cons.injEq, eq_self, true_and, after_cons_sign (.inl rfl) rfl]
    exact ih
  case case8 c cs hblank hquote hopening hclosing hequals word hrest ih =>
    obtain ⟨hc, hkind⟩ := hfirst hblank hquote hopening hclosing hequals
    rw [lexemes_word_append_closing hc hkind, isQuoted_after_word_start hc hkind, wordLexemes, List.cons_append,
      List.cons.injEq, eq_self, true_and]
    · exact ih
    · intro others hothers
      cases hdrop : cs.dropWhile isWordChar with
      | nil =>
        rw [hdrop] at hothers
        cases hothers
      | cons d ds =>
        rw [hdrop] at hothers
        cases hothers
        exact hrest _ hdrop

/-! ## 3. Braces -/

/-- Two braces of a kind stand here and open or close a tag: the first one is read now, and the other one follows. -/
def Stops (here : Reading) (c : Char) (follower : Option Char) : Prop :=
  here.isQuoted = false ∧ (c = '{' ∨ c = '}') ∧ follower = some c

theorem isQuote_brace (hc : c = '{' ∨ c = '}') : isQuote c = false := by
  rcases hc with rfl | rfl <;> rfl

/-- A brace is seen just when it stands outside of literals. -/
theorem seen_eq_brace_iff {brace : Char} (hbrace : brace = '{' ∨ brace = '}') :
    (if here.isQuoted || (reader.next here c).isQuoted then none else some c) = some brace ↔
      here.isQuoted = false ∧ c = brace := by
  constructor
  · intro h
    split at h
    · cases h
    · next hplain =>
      simp only [Bool.or_eq_true, not_or, Bool.not_eq_true] at hplain
      exact ⟨hplain.1, Option.some.inj h⟩
  · rintro ⟨hhere, rfl⟩
    rw [if_neg (by simp [hhere, isQuoted_next (isQuote_brace hbrace) hhere])]

theorem head?_unquoted (hc : c = '{' ∨ c = '}') :
    (reader.unquoted here cs).head? = some (some c) ↔ here.isQuoted = false ∧ cs.head? = some c := by
  cases cs with
  | nil => simp [unquoted]
  | cons d cs =>
    simp only [unquoted, List.head?_cons, Option.some.injEq]
    exact seen_eq_brace_iff hc

/-- Where two braces would stand together that are seen outside of literals. -/
theorem pair_infix_unquoted {brace : Char} (hbrace : brace = '{' ∨ brace = '}') :
    [some brace, some brace] <:+: reader.unquoted here (c :: cs) ↔
      (c = brace ∧ Stops here c cs.head?) ∨ [some brace, some brace] <:+: reader.unquoted (reader.next here c) cs := by
  rw [unquoted, List.infix_cons_iff, List.cons_prefix_cons, eq_comm, seen_eq_brace_iff hbrace]
  refine or_congr_left ⟨?_, ?_⟩
  · rintro ⟨⟨hhere, rfl⟩, rest, hrest⟩
    have hhead := (head?_unquoted hbrace).mp (congrArg List.head? hrest.symm)
    exact ⟨rfl, hhere, hbrace, hhead.2⟩
  · rintro ⟨rfl, hhere, -, hfollower⟩
    have hnext : (reader.next here c).isQuoted = false := isQuoted_next (isQuote_brace hbrace) hhere
    obtain ⟨rest, hrest⟩ := List.head?_eq_some_iff.mp ((head?_unquoted hbrace).mpr ⟨hnext, hfollower⟩)
    exact ⟨⟨hhere, rfl⟩, rest, hrest.symm⟩

/-- The last brace before the end of the tag. -/
theorem getLast?_unquoted :
    (reader.unquoted here (c :: cs)).getLast? = some (some '}') ↔
      (cs = [] ∧ Stops here c (some '}')) ∨
        (reader.unquoted (reader.next here c) cs).getLast? = some (some '}') := by
  cases cs with
  | nil =>
    simp only [unquoted, List.getLast?_singleton, Option.some.injEq, List.getLast?_nil, reduceCtorEq, or_false,
      true_and]
    rw [seen_eq_brace_iff (.inr rfl)]
    constructor
    · rintro ⟨hhere, rfl⟩
      exact ⟨hhere, .inr rfl, rfl⟩
    · rintro ⟨hhere, -, hfollower⟩
      exact ⟨hhere, (Option.some.inj hfollower).symm⟩
  | cons d cs => simp [unquoted, List.getLast?_cons_cons]

theorem encloses_nil : reader.Encloses here [] ↔ here.isQuoted = false :=
  ⟨fun h => h.closed, fun h => ⟨h, by simp [unquoted], by simp [unquoted], by simp [unquoted]⟩⟩

/-- Content is enclosed when no braces stop its first character and the others are enclosed; behind the last one stand
the closing braces of the tag. -/
theorem encloses_cons :
    reader.Encloses here (c :: cs) ↔
      ¬ Stops here c (cs.head?.or (some '}')) ∧ reader.Encloses (reader.next here c) cs := by
  have hstops : Stops here c (cs.head?.or (some '}')) ↔
      (c = '{' ∧ Stops here c cs.head?) ∨ (c = '}' ∧ Stops here c cs.head?) ∨ (cs = [] ∧ Stops here c (some '}')) := by
    cases cs with
    | nil => simp [Stops]
    | cons d cs =>
      simp only [List.head?_cons, Option.some_or, reduceCtorEq, false_and, or_false, ← or_and_right]
      exact ⟨fun h => ⟨h.2.1, h⟩, fun h => h.2⟩
  constructor
  · intro h
    have hopening := h.noOpening
    have hclosing := h.noClosing
    have hlast := h.noBraceLast
    rw [pair_infix_unquoted (.inl rfl), not_or] at hopening
    rw [pair_infix_unquoted (.inr rfl), not_or] at hclosing
    rw [ne_eq, getLast?_unquoted, not_or] at hlast
    refine ⟨?_, h.closed, hopening.2, hclosing.2, hlast.2⟩
    rw [hstops, not_or, not_or]
    exact ⟨hopening.1, hclosing.1, hlast.1⟩
  · rintro ⟨hstop, h⟩
    rw [hstops, not_or, not_or] at hstop
    refine ⟨h.closed, ?_, ?_, ?_⟩
    · rw [pair_infix_unquoted (.inl rfl), not_or]
      exact ⟨hstop.1, h.noOpening⟩
    · rw [pair_infix_unquoted (.inr rfl), not_or]
      exact ⟨hstop.2.1, h.noClosing⟩
    · rw [ne_eq, getLast?_unquoted, not_or]
      exact ⟨hstop.2.2, h.noBraceLast⟩

/-! ## 4. Where the readers agree -/

/-- When the reading of the call sees no quote outside of literals, the search sees the same. -/
theorem SeesNoQuote.agree (h : Reader.call.SeesNoQuote here cs) :
    Reader.search.unquoted here cs = Reader.call.unquoted here cs ∧
      Reader.search.after here cs = Reader.call.after here cs := by
  induction cs generalizing here with
  | nil => exact ⟨rfl, rfl⟩
  | cons c cs ih =>
    have hnext : Reader.search.next here c = Reader.call.next here c := by
      cases here with
      | word =>
        -- a quote in a word would be seen
        have hc : isQuote c = false := by
          cases hquote : isQuote c with
          | false => rfl
          | true =>
            have hword : Reader.call.next .word c = .word := by simp [next, isWordChar_of_isQuote hquote]
            rw [SeesNoQuote, unquoted, hword] at h
            exact hquote.symm.trans (h (some c) List.mem_cons_self c rfl)
        simp [next, hc]
      | between | literal quote | escape quote => rfl
    have hothers := ih fun seen hseen => h seen (List.mem_cons_of_mem _ hseen)
    rw [unquoted, unquoted, hnext, hothers.1]
    exact ⟨rfl, (congrArg (Reader.search.after · cs) hnext).trans hothers.2⟩

theorem Encloses.search (h : Reader.call.Encloses here cs) (hplain : Reader.call.SeesNoQuote here cs) :
    Reader.search.Encloses here cs := by
  obtain ⟨hunquoted, hafter⟩ := hplain.agree
  exact ⟨hafter ▸ h.closed, hunquoted ▸ h.noOpening, hunquoted ▸ h.noClosing, hunquoted ▸ h.noBraceLast⟩

end Reader

/-! ## 5. The search for the end of a tag -/

open Reader

variable {here : Reading} {c : Char} {cs ds content rest : List Char}

/-- The search from where the reading stands. -/
def scanFrom : Reading → List Char → TagScan
  | .between, cs | .word, cs => scanTag none cs
  | .literal quote, cs => scanTag (some quote) cs
  | .escape _, [] => .exhausted true
  | .escape quote, c :: cs => (scanTag (some quote) cs).cons c

theorem scanFrom_stops (h : Stops here c cs.head?) :
    scanFrom here (c :: cs) = .closed [] cs.tail ∨ scanFrom here (c :: cs) = .interrupted [] (c :: cs) := by
  obtain ⟨hhere, hc, hfollower⟩ := h
  obtain ⟨rest, rfl⟩ := List.head?_eq_some_iff.mp hfollower
  cases here with
  | between | word =>
    rcases hc with rfl | rfl
    · exact .inr rfl
    · exact .inl rfl
  | literal quote | escape quote => cases hhere

theorem scanFrom_cons (h : ¬ Stops here c cs.head?) :
    scanFrom here (c :: cs) = (scanFrom (Reader.search.next here c) cs).cons c := by
  -- outside of literals the search goes on, since no two braces stand here
  have hplain (hhere : here.isQuoted = false) :
      scanTag none (c :: cs) = (scanTag (if c = '"' ∨ c = '\'' then some c else none) cs).cons c := by
    rw [scanTag]
    · rintro rest rfl rfl
      exact h ⟨hhere, .inr rfl, rfl⟩
    · rintro rest rfl rfl
      exact h ⟨hhere, .inl rfl, rfl⟩
  cases here with
  | between | word =>
    rw [scanFrom, hplain rfl]
    by_cases hc : c = '"' ∨ c = '\''
    · rw [if_pos hc]
      simp [next, isQuote, hc, scanFrom]
    · rw [if_neg hc]
      simp only [next, isQuote, Bool.or_eq_true, beq_iff_eq, hc, and_false, if_false]
      split <;> rfl
  | literal quote =>
    by_cases hc : c = '\\'
    · subst hc
      cases cs <;> simp [scanFrom, scanTag, next, TagScan.cons]
    · rw [scanFrom, scanTag_quoted quote hc, next, if_neg hc]
      split <;> rfl
  | escape quote => rfl

/-- The search comes to the end of the content when it sees it enclosed, and only then. -/
theorem scanFrom_eq_closed_iff :
    scanFrom here (content ++ '}' :: '}' :: rest) = .closed content rest ↔ Reader.search.Encloses here content := by
  have hcons (c : Char) (scan : TagScan) (content rest : List Char) :
      scan.cons c = .closed (c :: content) rest ↔ scan = .closed content rest := by
    cases scan <;> simp [TagScan.cons]
  induction content generalizing here with
  | nil =>
    rw [encloses_nil, List.nil_append]
    constructor
    · intro h
      cases hhere : here.isQuoted with
      | false => rfl
      | true =>
        -- in a literal the brace is one more character of content
        rw [scanFrom_cons fun hstops => absurd (hstops.1.symm.trans hhere) (by decide)] at h
        cases hscan : scanFrom (Reader.search.next here '}') ('}' :: rest) <;> rw [hscan] at h <;> cases h
    · intro hhere
      cases here with
      | between | word => rfl
      | literal quote | escape quote => cases hhere
  | cons c content ih =>
    have hfollower : (content ++ '}' :: '}' :: rest).head? = content.head?.or (some '}') := by
      rw [List.head?_append, List.head?_cons]
    rw [encloses_cons, ← hfollower, List.cons_append]
    by_cases hstops : Stops here c (content ++ '}' :: '}' :: rest).head?
    · simp only [hstops, not_true, false_and, iff_false]
      rcases scanFrom_stops hstops with h | h <;> rw [h] <;> simp
    · rw [scanFrom_cons hstops, hcons, and_iff_right hstops]
      exact ih

/-- When the whole text is searched in vain, so is its end. -/
theorem scanFrom_append_exhausted {quoted : Bool} (h : scanFrom here (cs ++ ds) = .exhausted quoted) :
    scanFrom (Reader.search.after here cs) ds = .exhausted quoted := by
  induction cs generalizing here with
  | nil => exact h
  | cons c cs ih =>
    rw [List.cons_append] at h
    by_cases hstops : Stops here c (cs ++ ds).head?
    · rcases scanFrom_stops hstops with hscan | hscan <;> rw [hscan] at h <;> cases h
    · rw [scanFrom_cons hstops] at h
      refine ih ?_
      cases hscan : scanFrom (Reader.search.next here c) (cs ++ ds) <;> rw [hscan] at h <;> cases h
      rfl

/-- A tag that ends behind its content whatever follows has a content that the search sees enclosed. -/
theorem encloses_of_forall (h : ∀ rest, tagContent (content ++ '}' :: '}' :: rest) = .tag content rest) :
    Reader.search.Encloses .between content := by
  refine Decidable.byContradiction fun hopen => ?_
  -- the search does not find the end, so that the tag is one of those with a quotation that never ends
  have hvain (rest : List Char) :
      ∃ quoted, scanFrom .between (content ++ '}' :: '}' :: rest) = .exhausted quoted := by
    have htag := h rest
    rw [tagContent] at htag
    split at htag
    · next hscan =>
      cases htag
      have hfound : scanFrom .between (content ++ '}' :: '}' :: rest) = .closed content rest := hscan
      exact absurd (scanFrom_eq_closed_iff.mp hfound) hopen
    · cases htag
    · next quoted hscan => exact ⟨quoted, hscan⟩
  obtain ⟨_, hnothing⟩ := hvain []
  have hend := scanFrom_append_exhausted hnothing
  -- but what closes the quotation may follow
  have hclosing {quote : Char} (hquote : (Reader.search.after .between content).quote? = some quote) : False := by
    have hkind : quote = '"' ∨ quote = '\'' := by
      rcases isQuote_of_after hquote with hkind | hnone
      · simpa [isQuote] using hkind
      · cases hnone
    obtain ⟨_, hsome⟩ := hvain [quote, '}', '}']
    have hend := scanFrom_append_exhausted hsome
    cases hafter : Reader.search.after .between content with
    | between | word =>
      rw [hafter] at hquote
      cases hquote
    | literal old | escape old =>
      rw [hafter] at hquote hend
      cases hquote
      rcases hkind with rfl | rfl <;> cases hend
  cases hafter : Reader.search.after .between content with
  | between | word =>
    rw [hafter] at hend
    cases hend
  | literal quote | escape quote => exact hclosing (by rw [hafter]; rfl)

/-! ## 6. The tag at the start of a source -/

/-- The source begins with the tag of the content, and what follows the tag is read on its own. -/
def BeginsWithTag (content rest : String) : Prop :=
  tokens ("\x7b\x7b" ++ content ++ "\x7d\x7d" ++ rest) =
    ⟨.ofInner (trim content.toList), ⟨0, content.utf8ByteSize + 4⟩⟩ ::
      tokensFrom (content.utf8ByteSize + 4) rest.toList

/-- Two ways to cut a text at one byte are the same. -/
theorem append_inj_of_byteSize {as bs cs ds : List Char} (h : as ++ bs = cs ++ ds)
    (hsize : byteSize as = byteSize cs) : as = cs ∧ bs = ds := by
  rcases List.append_eq_append_iff.mp h with ⟨more, rfl, rfl⟩ | ⟨more, rfl, rfl⟩
  all_goals
    rw [byteSize_append] at hsize
    have hmore : more = [] := eq_nil_of_byteSize (by omega)
    simp [hmore]

theorem beginsWithTag_iff (content rest : String) :
    BeginsWithTag content rest ↔
      tagContent (content.toList ++ '}' :: '}' :: rest.toList) = .tag content.toList rest.toList := by
  have hsource : ("\x7b\x7b" ++ content ++ "\x7d\x7d" ++ rest).toList =
      '{' :: '{' :: (content.toList ++ '}' :: '}' :: rest.toList) := by
    simp [String.toList_append]
  have hstretch := congrArg Stretch.rest (stretch_tag (content.toList ++ '}' :: '}' :: rest.toList))
  rw [BeginsWithTag, tokens, hsource, utf8ByteSize_eq]
  cases htag : tagContent (content.toList ++ '}' :: '}' :: rest.toList) with
  | tag found others =>
    rw [tokensFrom_tag hstretch htag]
    constructor
    · intro h
      have hspan := congrArg (Option.map fun t => t.span.stop) (congrArg List.head? h)
      have hsplit := tagContent_splits (content.toList ++ '}' :: '}' :: rest.toList)
      rw [htag] at hsplit
      have hsize : byteSize content.toList = byteSize found := by
        simp only [stretch_tag, textToken, byteSize] at hspan
        simpa using hspan.symm
      obtain ⟨hfound, hothers⟩ := append_inj_of_byteSize hsplit hsize
      simp only [List.cons.injEq, true_and] at hothers
      rw [hfound, hothers]
    · rintro ⟨⟩
      simp [stretch_tag, textToken, byteSize]
  | stray found others =>
    rw [tokensFrom_stray hstretch htag]
    refine ⟨fun h => ?_, fun h => by cases h⟩
    -- a tag that never ends has a mark, and that is no tag
    have hkind := congrArg (Option.map Token.kind) (congrArg List.head? h)
    simp only [stretch_tag, textToken, List.isEmpty_nil, if_true, List.nil_append, List.head?_cons, Option.map_some,
      Option.some.injEq] at hkind
    exact absurd hkind.symm (ofInner_ne_unterminated _)

/-- The tag ends behind its content, whatever follows, just when the search sees the content enclosed. -/
theorem beginsWithTag_iff_encloses (content : String) :
    (∀ rest, BeginsWithTag content rest) ↔ Reader.search.Encloses .between content.toList := by
  constructor
  · intro h
    refine encloses_of_forall fun rest => ?_
    have htag := (beginsWithTag_iff content (.ofList rest)).mp (h (.ofList rest))
    rwa [String.toList_ofList] at htag
  · intro h rest
    have hscan : scanTag none (content.toList ++ '}' :: '}' :: rest.toList) = .closed content.toList rest.toList :=
      scanFrom_eq_closed_iff.mpr h
    rw [beginsWithTag_iff, tagContent, hscan]

/-- **The end of a tag and the quotes in it.** The content is one that the reading of the call sees as the content of a
tag. Where it sees no quote outside of literals, the tag ends behind the content, whatever follows. Otherwise there is
something that may follow and move the end, unless the search happens to see the content enclosed as well. -/
theorem tag_ends_behind_content {content : String} (h : Reader.call.Encloses .between content.toList) :
    (Reader.call.SeesNoQuote .between content.toList → ∀ rest, BeginsWithTag content rest) ∧
      ((∀ rest, BeginsWithTag content rest) ↔ Reader.search.Encloses .between content.toList) :=
  ⟨fun hplain => (beginsWithTag_iff_encloses content).mpr (h.search hplain), beginsWithTag_iff_encloses content⟩

/-- Literals of both kinds with braces and quotes in them, and single braces outside of them. -/
def sampleContent : String := "join \"\x7d\x7d \\\" \x7b\x7b\" 'it\\'s' \x7d \x7b"

theorem tag_ends_behind_sampleContent :
    Reader.call.Encloses .between sampleContent.toList ∧ Reader.call.SeesNoQuote .between sampleContent.toList ∧
      ∀ rest, BeginsWithTag sampleContent rest := by
  have hencloses : Reader.call.Encloses .between sampleContent.toList := by decide +kernel
  have hplain : Reader.call.SeesNoQuote .between sampleContent.toList := by decide +kernel
  exact ⟨hencloses, hplain, (tag_ends_behind_content hencloses).1 hplain⟩

/-- An apostrophe in a word. Braces inside a literal end the tag, though nothing follows it; and a second apostrophe
behind the tag takes its end away. -/
theorem tag_end_moved_by_apostrophe :
    (Reader.call.Encloses .between "say don't \"\x7d\x7d\"".toList ∧ ¬ BeginsWithTag "say don't \"\x7d\x7d\"" "") ∧
      Reader.call.Encloses .between "don't".toList ∧ ¬ BeginsWithTag "don't" " it's \x7b\x7bx\x7d\x7d" := by
  refine ⟨⟨by decide +kernel, fun h => ?_⟩, by decide +kernel, fun h => ?_⟩
  all_goals
    rw [beginsWithTag_iff] at h
    exact absurd (congrArg TagContent.restLength h) (by decide +kernel)

end Template

end Stencil
