import Stencil.Template.Call.Reader

/-!
Calls as they are written.

A call is written as its head, then its positional arguments, then its named ones, with single spaces between
them. Words are written as they are. A literal stands in quotes of either kind, with a backslash before that
quote and before every backslash, and a call inside another one stands in parentheses (`WrittenAs`). Reading what
was written so gives the call back.

This goes in two steps, as reading does. The lexemes of what was written are those of the call, and the pass over
these lexemes puts the call together again.
-/

namespace Stencil.Template

open Stencil.Text

/-! ## 1. Words and literals -/

/-- Whether a character is a quote. -/
def isQuote (c : Char) : Bool := c == '"' || c == '\''

/-- A word that reads as one: something without blanks, parentheses and equals signs, no quote first. -/
structure IsWord (cs : List Char) : Prop where
  nonempty : cs ≠ []
  plain : ∀ c ∈ cs, isWordChar c = true
  unquoted : ∀ c ∈ cs.head?, isQuote c = false

/-- What stands between the quotes of a literal. -/
def escapeLiteral (quote : Char) : List Char → List Char
  | [] => []
  | c :: cs => if c = quote ∨ c = '\\' then '\\' :: c :: escapeLiteral quote cs else c :: escapeLiteral quote cs

/-- A literal in quotes. -/
def quoteLiteral (quote : Char) (cs : List Char) : List Char := quote :: escapeLiteral quote cs ++ [quote]

instance (cs : List Char) : Decidable (IsWord cs) :=
  have : Decidable (∀ c ∈ cs, isWordChar c = true) := List.decidableBAll _ cs
  have : Decidable (∀ c ∈ cs.head?, isQuote c = false) := Option.decidableForallMem _
  decidable_of_iff (cs ≠ [] ∧ (∀ c ∈ cs, isWordChar c = true) ∧ ∀ c ∈ cs.head?, isQuote c = false)
    ⟨fun h => ⟨h.1, h.2.1, h.2.2⟩, fun h => ⟨h.nonempty, h.plain, h.unquoted⟩⟩

theorem isBlank_of_isWordChar {c : Char} (h : isWordChar c = true) : isBlank c = false := by
  simp only [isWordChar, Bool.not_eq_true', Bool.or_eq_false_iff] at h
  exact h.1.1.1

theorem IsWord.starts {cs : List Char} (h : IsWord cs) (rest : List Char) :
    ∀ c ∈ (cs ++ rest).head?, isBlank c = false := by
  cases cs with
  | nil => exact absurd rfl h.nonempty
  | cons c cs =>
    rintro d ⟨⟩
    exact isBlank_of_isWordChar (h.plain c List.mem_cons_self)

mutual

/-- How an argument may be written. -/
def Argument.WrittenAs : Argument → List Char → Prop
  | .bare word, cs => IsWord word.toList ∧ cs = word.toList
  | .quoted s, cs => ∃ quote, isQuote quote = true ∧ cs = quoteLiteral quote s.toList
  | .sub head positional named, cs => ∃ a b c, cs = '(' :: (a ++ b ++ c) ++ [')'] ∧
      head.WrittenAs a ∧ positionalWrittenAs positional b ∧ namedWrittenAs named c
  | .unbalanced, _ => False

/-- How positional arguments may be written after a head. -/
def positionalWrittenAs : List Argument → List Char → Prop
  | [], cs => cs = []
  | a :: as, cs => ∃ first others, cs = ' ' :: first ++ others ∧ a.WrittenAs first ∧ positionalWrittenAs as others

/-- How named arguments may be written after the others. -/
def namedWrittenAs : List (String × Argument) → List Char → Prop
  | [], cs => cs = []
  | (key, a) :: as, cs => ∃ first others, cs = ' ' :: key.toList ++ '=' :: first ++ others ∧
      IsWord key.toList ∧ a.WrittenAs first ∧ namedWrittenAs as others

end

/-- How a call may be written. -/
def Call.WrittenAs (call : Call) (cs : List Char) : Prop :=
  ∃ a b c, cs = a ++ b ++ c ∧ call.head.WrittenAs a ∧ positionalWrittenAs call.positional b ∧
    namedWrittenAs call.named c

/-! ## 2. Lexemes -/

mutual

/-- The lexemes of an argument. -/
def Argument.lexemes : Argument → List Lexeme
  | .bare word => [.word word]
  | .quoted s => [.quoted s]
  | .sub head positional named =>
    .opening :: (head.lexemes ++ positionalLexemes positional ++ namedLexemes named) ++ [.closing]
  | .unbalanced => []

/-- The lexemes of positional arguments after a head. -/
def positionalLexemes : List Argument → List Lexeme
  | [] => []
  | a :: as => .gap :: a.lexemes ++ positionalLexemes as

/-- The lexemes of named arguments after the others. -/
def namedLexemes : List (String × Argument) → List Lexeme
  | [] => []
  | (key, a) :: as => .gap :: .key key :: a.lexemes ++ namedLexemes as

end

/-- An argument may end where a blank, a closing parenthesis or nothing follows. -/
def EndsArgument (rest : List Char) : Prop := ∀ c ∈ rest.head?, isBlank c = true ∨ c = ')'

theorem isWordChar_eq_false {c : Char} (h : isBlank c = true ∨ c = ')') : isWordChar c = false := by
  rcases h with h | rfl
  · simp [isWordChar, h]
  · decide

theorem ne_equals_of_ends {c : Char} (h : isBlank c = true ∨ c = ')') : c ≠ '=' := by
  rintro rfl
  rcases h with h | h
  · exact absurd h (by decide)
  · exact absurd h (by decide)

theorem span_word {cs rest : List Char} (hcs : ∀ c ∈ cs, isWordChar c = true)
    (hrest : ∀ c ∈ rest.head?, isWordChar c = false) :
    (cs ++ rest).takeWhile isWordChar = cs ∧ (cs ++ rest).dropWhile isWordChar = rest := by
  rw [List.takeWhile_append_of_pos hcs, List.dropWhile_append_of_pos hcs]
  cases rest with
  | nil => simp
  | cons c rest => simp [hrest c rfl]

/-- The lexeme of a word, with the equals sign that may follow, and the lexemes after it. -/
def wordLexemes (cs : List Char) : List Char → List Lexeme
  | '=' :: rest => .key (.ofList cs) :: Template.lexemes rest
  | rest => .word (.ofList cs) :: Template.lexemes rest

theorem lexemes_word_start {cs rest : List Char} (hword : IsWord cs)
    (hrest : ∀ c ∈ rest.head?, isWordChar c = false) : Template.lexemes (cs ++ rest) = wordLexemes cs rest := by
  obtain ⟨hne, hplain, hquote⟩ := hword
  cases cs with
  | nil => exact absurd rfl hne
  | cons c cs =>
    -- the first character decides that this is a word, and the others are taken as long as they go on with it
    obtain ⟨htake, hdrop⟩ := span_word (fun d hd => hplain d (List.mem_cons_of_mem _ hd)) hrest
    have hc := hplain c List.mem_cons_self
    have hq := hquote c rfl
    simp only [isWordChar, Bool.not_eq_true', Bool.or_eq_false_iff, beq_eq_false_iff_ne] at hc
    simp only [isQuote, Bool.or_eq_false_iff, beq_eq_false_iff_ne] at hq
    rw [List.cons_append, Template.lexemes]
    simp only [hc, hq, Bool.false_eq_true, if_false, or_self, htake]
    split
    · next tail htail =>
      rw [hdrop] at htail
      subst htail
      rfl
    · next htail =>
      rw [hdrop] at htail ⊢
      unfold wordLexemes
      split
      · next tail => exact absurd rfl (htail tail)
      · rfl

theorem lexemes_word {word : String} (hword : IsWord word.toList) {rest : List Char} (hrest : EndsArgument rest) :
    Template.lexemes (word.toList ++ rest) = .word word :: Template.lexemes rest := by
  rw [lexemes_word_start hword fun c hc => isWordChar_eq_false (hrest c hc)]
  unfold wordLexemes
  split
  · exact absurd rfl (ne_equals_of_ends (hrest '=' rfl))
  · rw [String.ofList_toList]

theorem lexemes_key {key : String} (hkey : IsWord key.toList) (rest : List Char) :
    Template.lexemes (key.toList ++ '=' :: rest) = .key key :: Template.lexemes rest := by
  have hequals : ∀ c ∈ ('=' :: rest).head?, isWordChar c = false := by
    rintro c ⟨⟩
    decide
  rw [lexemes_word_start hkey hequals, wordLexemes, String.ofList_toList]

/-- Between the quotes of a literal the text is read back. -/
theorem readLiteral_escapeLiteral (quote : Char) (hquote : quote ≠ '\\') (cs rest : List Char) :
    readLiteral quote (escapeLiteral quote cs ++ quote :: rest) = (cs, rest) := by
  induction cs with
  | nil =>
    rw [escapeLiteral, List.nil_append, readLiteral, if_pos rfl]
    · exact fun h => absurd h hquote
    · exact fun _ _ h => absurd h hquote
  | cons c cs ih =>
    rw [escapeLiteral]
    split
    · next hc =>
      rw [List.cons_append, List.cons_append, readLiteral, ih]
      simp only [hc, if_true]
    · next hc =>
      rw [not_or] at hc
      rw [List.cons_append, readLiteral, if_neg hc.1, ih]
      · exact fun h => absurd h hc.2
      · exact fun _ _ h => absurd h hc.2

theorem lexemes_quoted {quote : Char} (hquote : isQuote quote = true) (s : String) (rest : List Char) :
    Template.lexemes (quoteLiteral quote s.toList ++ rest) = .quoted s :: Template.lexemes rest := by
  have hread := readLiteral_escapeLiteral quote (by rintro rfl; cases hquote) s.toList rest
  have hkind : isBlank quote = false ∧ (quote = '"' ∨ quote = '\'') := by
    simp only [isQuote, Bool.or_eq_true, beq_iff_eq] at hquote
    rcases hquote with rfl | rfl
    · exact ⟨by decide, .inl rfl⟩
    · exact ⟨by decide, .inr rfl⟩
  rw [quoteLiteral, List.append_assoc, List.cons_append, List.singleton_append, Template.lexemes,
    if_neg (by simp [hkind.1]), if_pos hkind.2, hread, String.ofList_toList]

theorem lexemes_opening (cs : List Char) : Template.lexemes ('(' :: cs) = .opening :: Template.lexemes cs := by
  rw [Template.lexemes, if_neg (by decide), if_neg (by decide), if_pos rfl]

theorem lexemes_closing (cs : List Char) : Template.lexemes (')' :: cs) = .closing :: Template.lexemes cs := by
  rw [Template.lexemes, if_neg (by decide), if_neg (by decide), if_neg (by decide), if_pos rfl]

/-- A single blank is a gap. -/
theorem lexemes_gap {cs : List Char} (hcs : ∀ c ∈ cs.head?, isBlank c = false) :
    Template.lexemes (' ' :: cs) = .gap :: Template.lexemes cs := by
  have hdrop : cs.dropWhile isBlank = cs := by
    cases cs with
    | nil => rfl
    | cons c cs => simp [hcs c rfl]
  rw [Template.lexemes, if_pos (by decide), hdrop]

/-- What an argument is written as starts with something that is no blank. -/
theorem Argument.WrittenAs.starts {a : Argument} {cs : List Char} (h : a.WrittenAs cs) (rest : List Char) :
    ∀ c ∈ (cs ++ rest).head?, isBlank c = false := by
  cases a with
  | quoted s =>
    obtain ⟨quote, hquote, rfl⟩ := h
    rintro c ⟨⟩
    simp only [isQuote, Bool.or_eq_true, beq_iff_eq] at hquote
    rcases hquote with rfl | rfl <;> decide
  | bare word =>
    obtain ⟨hword, rfl⟩ := h
    exact hword.starts rest
  | sub head positional named =>
    obtain ⟨a, b, c, rfl, -⟩ := h
    rintro c ⟨⟩
    decide
  | unbalanced => cases h

theorem positionalWrittenAs.ends {as : List Argument} {cs rest : List Char} (h : positionalWrittenAs as cs)
    (hrest : EndsArgument rest) : EndsArgument (cs ++ rest) := by
  cases as with
  | nil => rwa [h]
  | cons a as =>
    obtain ⟨first, others, rfl, -⟩ := h
    rintro c ⟨⟩
    exact .inl (by decide)

theorem namedWrittenAs.ends {as : List (String × Argument)} {cs rest : List Char} (h : namedWrittenAs as cs)
    (hrest : EndsArgument rest) : EndsArgument (cs ++ rest) := by
  cases as with
  | nil => rwa [h]
  | cons a as =>
    obtain ⟨first, others, rfl, -⟩ := h
    rintro c ⟨⟩
    exact .inl (by decide)

/- An argument may be a call with arguments of its own, so this goes along the nesting of the arguments. -/
mutual

theorem Argument.WrittenAs.lexemes : ∀ {a : Argument} {cs : List Char}, a.WrittenAs cs → ∀ {rest}, EndsArgument rest →
    Template.lexemes (cs ++ rest) = a.lexemes ++ Template.lexemes rest
  | .bare word, _, ⟨hword, rfl⟩, _, hrest => lexemes_word hword hrest
  | .quoted s, _, ⟨quote, hquote, rfl⟩, rest, _ => lexemes_quoted hquote s rest
  | .sub head positional named, _, ⟨a, b, c, rfl, ha, hb, hc⟩, rest, _ => by
    have hclose : EndsArgument (')' :: rest) := by
      rintro c ⟨⟩
      exact .inr rfl
    rw [List.append_assoc, List.cons_append, List.singleton_append, lexemes_opening, List.append_assoc,
      List.append_assoc, ha.lexemes (hb.ends (hc.ends hclose)), hb.lexemes (hc.ends hclose), hc.lexemes hclose,
      lexemes_closing, Argument.lexemes]
    simp only [List.append_assoc, List.cons_append, List.nil_append]

theorem positionalWrittenAs.lexemes : ∀ {as : List Argument} {cs : List Char}, positionalWrittenAs as cs →
    ∀ {rest}, EndsArgument rest → Template.lexemes (cs ++ rest) = positionalLexemes as ++ Template.lexemes rest
  | [], _, rfl, _, _ => rfl
  | a :: as, _, ⟨first, others, rfl, hfirst, hothers⟩, rest, hrest => by
    rw [List.append_assoc, List.cons_append, lexemes_gap (hfirst.starts _),
      hfirst.lexemes (hothers.ends hrest), hothers.lexemes hrest, positionalLexemes]
    simp only [List.append_assoc, List.cons_append]

theorem namedWrittenAs.lexemes : ∀ {as : List (String × Argument)} {cs : List Char}, namedWrittenAs as cs →
    ∀ {rest}, EndsArgument rest → Template.lexemes (cs ++ rest) = namedLexemes as ++ Template.lexemes rest
  | [], _, rfl, _, _ => rfl
  | (key, a) :: as, _, ⟨first, others, rfl, hkey, hfirst, hothers⟩, rest, hrest => by
    have hstart : ' ' :: key.toList ++ '=' :: first ++ others ++ rest =
        ' ' :: (key.toList ++ '=' :: (first ++ (others ++ rest))) := by
      simp only [List.append_assoc, List.cons_append]
    rw [hstart, lexemes_gap (hkey.starts _), lexemes_key hkey, hfirst.lexemes (hothers.ends hrest),
      hothers.lexemes hrest, namedLexemes]
    simp only [List.append_assoc, List.cons_append]

end

/-! ## 3. The pass over the lexemes -/

mutual

theorem Argument.WrittenAs.foldl : ∀ {a : Argument} {cs : List Char}, a.WrittenAs cs → ∀ stack : CallStack,
    a.lexemes.foldl CallStack.step stack = { stack with current := stack.current.put a }
  | .bare word, _, _, _ => rfl
  | .quoted s, _, _, _ => rfl
  | .sub head positional named, _, ⟨a, b, c, _, ha, hb, hc⟩, stack => by
    -- the parenthesis opens a call with no head yet, and the first argument becomes its head
    have hhead : head.lexemes.foldl CallStack.step (stack.step .opening) =
        ⟨⟨some head, [], [], none⟩, stack.current :: stack.outer⟩ := ha.foldl _
    rw [Argument.lexemes, List.cons_append, List.foldl_cons, List.foldl_append, List.foldl_append,
      List.foldl_append, hhead, hb.foldl, hc.foldl]
    simp [CallStack.step, OpenCall.close, OpenCall.settle, Call.toArgument]

theorem positionalWrittenAs.foldl : ∀ {as : List Argument} {cs : List Char}, positionalWrittenAs as cs →
    ∀ (head : Argument) (positional : List Argument) (named : List (String × Argument)) (outer : List OpenCall),
      (positionalLexemes as).foldl CallStack.step ⟨⟨some head, positional, named, none⟩, outer⟩ =
        ⟨⟨some head, as.reverse ++ positional, named, none⟩, outer⟩
  | [], _, _, _, _, _, _ => rfl
  | a :: as, _, ⟨first, others, _, hfirst, hothers⟩, head, positional, named, outer => by
    rw [positionalLexemes, List.foldl_append, List.foldl_cons, hfirst.foldl]
    show List.foldl CallStack.step ⟨⟨some head, a :: positional, named, none⟩, outer⟩ _ = _
    rw [hothers.foldl, List.reverse_cons, List.append_assoc]
    rfl

theorem namedWrittenAs.foldl : ∀ {as : List (String × Argument)} {cs : List Char}, namedWrittenAs as cs →
    ∀ (head : Argument) (positional : List Argument) (named : List (String × Argument)) (outer : List OpenCall),
      (namedLexemes as).foldl CallStack.step ⟨⟨some head, positional, named, none⟩, outer⟩ =
        ⟨⟨some head, positional, as.reverse ++ named, none⟩, outer⟩
  | [], _, _, _, _, _, _ => rfl
  | (key, a) :: as, _, ⟨first, others, _, _, hfirst, hothers⟩, head, positional, named, outer => by
    rw [namedLexemes, List.foldl_append, List.foldl_cons, List.foldl_cons, hfirst.foldl]
    show List.foldl CallStack.step ⟨⟨some head, positional, (key, a) :: named, none⟩, outer⟩ _ = _
    rw [hothers.foldl, List.reverse_cons, List.append_assoc]
    rfl

end

/-- **Reading undoes writing**: the call that was written is read back. -/
theorem Call.WrittenAs.read {call : Call} {cs : List Char} (h : call.WrittenAs cs) :
    Call.read (.ofList cs) = call := by
  obtain ⟨a, b, c, rfl, ha, hb, hc⟩ := h
  have hend : EndsArgument [] := fun _ h => by cases h
  -- each part has to know what comes after it, so the last one goes first
  have hlexemes : Template.lexemes (a ++ b ++ c) =
      call.head.lexemes ++ (positionalLexemes call.positional ++ namedLexemes call.named) := by
    have hc' := hc.lexemes hend
    rw [List.append_nil] at hc'
    have hends := hc.ends hend
    rw [List.append_nil] at hends
    rw [List.append_assoc, ha.lexemes (hb.ends hends), hb.lexemes hends, hc', Template.lexemes, List.append_nil]
  have hhead : call.head.lexemes.foldl CallStack.step .start = ⟨⟨some call.head, [], [], none⟩, []⟩ := ha.foldl _
  rw [Call.read, String.toList_ofList, hlexemes, List.foldl_append, List.foldl_append, hhead, hb.foldl, hc.foldl]
  simp [CallStack.finish, OpenCall.close, OpenCall.settle]

/-! ## 4. What can be written -/

mutual

/-- An argument that can be written: its words read as words, and there is no mark of a lone parenthesis in it. -/
def Argument.Writable : Argument → Prop
  | .bare word => IsWord word.toList
  | .quoted _ => True
  | .sub head positional named => head.Writable ∧ PositionalWritable positional ∧ NamedWritable named
  | .unbalanced => False

/-- Positional arguments that can be written. -/
def PositionalWritable : List Argument → Prop
  | [] => True
  | a :: as => a.Writable ∧ PositionalWritable as

/-- Named arguments that can be written. -/
def NamedWritable : List (String × Argument) → Prop
  | [] => True
  | (key, a) :: as => IsWord key.toList ∧ a.Writable ∧ NamedWritable as

end

/-- A call that can be written. -/
def Call.Writable (call : Call) : Prop :=
  call.head.Writable ∧ PositionalWritable call.positional ∧ NamedWritable call.named

mutual

theorem Argument.Writable.exists_writtenAs : ∀ {a : Argument}, a.Writable → ∃ cs, a.WrittenAs cs
  | .bare word, h => ⟨word.toList, h, rfl⟩
  | .quoted s, _ => ⟨quoteLiteral '"' s.toList, '"', rfl, rfl⟩
  | .sub _ _ _, ⟨hhead, hpositional, hnamed⟩ => by
    obtain ⟨a, ha⟩ := hhead.exists_writtenAs
    obtain ⟨b, hb⟩ := hpositional.exists_writtenAs
    obtain ⟨c, hc⟩ := hnamed.exists_writtenAs
    exact ⟨_, a, b, c, rfl, ha, hb, hc⟩

theorem PositionalWritable.exists_writtenAs : ∀ {as : List Argument}, PositionalWritable as →
    ∃ cs, positionalWrittenAs as cs
  | [], _ => ⟨[], rfl⟩
  | _ :: _, ⟨ha, has⟩ => by
    obtain ⟨first, hfirst⟩ := ha.exists_writtenAs
    obtain ⟨others, hothers⟩ := has.exists_writtenAs
    exact ⟨_, first, others, rfl, hfirst, hothers⟩

theorem NamedWritable.exists_writtenAs : ∀ {as : List (String × Argument)}, NamedWritable as →
    ∃ cs, namedWrittenAs as cs
  | [], _ => ⟨[], rfl⟩
  | (_, _) :: _, ⟨hkey, ha, has⟩ => by
    obtain ⟨first, hfirst⟩ := ha.exists_writtenAs
    obtain ⟨others, hothers⟩ := has.exists_writtenAs
    exact ⟨_, first, others, rfl, hkey, hfirst, hothers⟩

end

mutual

theorem Argument.Writable.balanced : ∀ {a : Argument}, a.Writable → a.hasUnbalanced = false
  | .bare _, _ | .quoted _, _ => rfl
  | .sub _ _ _, ⟨hhead, hpositional, hnamed⟩ => by
    rw [Argument.hasUnbalanced, hhead.balanced, hpositional.balanced, hnamed.balanced]
    rfl

theorem PositionalWritable.balanced : ∀ {as : List Argument}, PositionalWritable as → anyUnbalanced as = false
  | [], _ => rfl
  | _ :: _, ⟨ha, has⟩ => by rw [anyUnbalanced, ha.balanced, has.balanced]; rfl

theorem NamedWritable.balanced : ∀ {as : List (String × Argument)}, NamedWritable as → anyUnbalancedNamed as = false
  | [], _ => rfl
  | (_, _) :: _, ⟨_, ha, has⟩ => by rw [anyUnbalancedNamed, ha.balanced, has.balanced]; rfl

end

/-- **Every call of words, literals and calls can be written, and in whatever way it is written it is read back**, with
no mark of a lone parenthesis in it. -/
theorem Call.written_read_back {call : Call} (h : call.Writable) :
    (∃ cs, call.WrittenAs cs) ∧ ∀ cs, call.WrittenAs cs →
      Call.read (.ofList cs) = call ∧ (Call.read (.ofList cs)).hasUnbalanced = false := by
  constructor
  · obtain ⟨a, ha⟩ := h.1.exists_writtenAs
    obtain ⟨b, hb⟩ := h.2.1.exists_writtenAs
    obtain ⟨c, hc⟩ := h.2.2.exists_writtenAs
    exact ⟨_, a, b, c, rfl, ha, hb, hc⟩
  · intro cs hcs
    have hargument : call.toArgument.Writable := h
    refine ⟨hcs.read, ?_⟩
    rw [hcs.read, Call.hasUnbalanced, hargument.balanced]

/-- A word with a quote in it, a literal that is full of what means something outside, and a call whose head is a
literal, as the value of a name. -/
def sampleCall : Call :=
  ⟨.bare "it's", [.quoted "(k=\"\\"], [("by", .sub (.quoted "it's") [.quoted ""] [])]⟩

theorem Call.written_read_back_sampleCall :
    sampleCall.Writable ∧ sampleCall.WrittenAs "it's \"(k=\\\"\\\\\" by=('it\\'s' \"\")".toList ∧
      Call.read "it's \"(k=\\\"\\\\\" by=('it\\'s' \"\")" = sampleCall ∧
        (Call.read "it's \"(k=\\\"\\\\\" by=('it\\'s' \"\")").hasUnbalanced = false := by
  have hhead : IsWord "it's".toList := by decide +kernel
  have hkey : IsWord "by".toList := by decide +kernel
  have hwritable : sampleCall.Writable :=
    ⟨hhead, ⟨trivial, trivial⟩, hkey, ⟨trivial, ⟨trivial, trivial⟩, trivial⟩, trivial⟩
  have hwritten : sampleCall.WrittenAs "it's \"(k=\\\"\\\\\" by=('it\\'s' \"\")".toList := by
    refine ⟨"it's".toList, ' ' :: quoteLiteral '"' "(k=\"\\".toList ++ [],
      ' ' :: "by".toList ++ '=' :: ('(' :: (quoteLiteral '\'' "it's".toList ++
        (' ' :: quoteLiteral '"' [] ++ []) ++ []) ++ [')']) ++ [], by decide +kernel, ?_, ?_, ?_⟩
    · exact ⟨hhead, rfl⟩
    · exact ⟨_, [], rfl, ⟨'"', rfl, rfl⟩, rfl⟩
    · exact ⟨_, [], rfl, hkey,
        ⟨_, _, [], rfl, ⟨'\'', rfl, rfl⟩, ⟨_, [], rfl, ⟨'"', rfl, rfl⟩, rfl⟩, rfl⟩, rfl⟩
  have hread := (Call.written_read_back hwritable).2 _ hwritten
  rw [String.ofList_toList] at hread
  exact ⟨hwritable, hwritten, hread⟩

end Stencil.Template
