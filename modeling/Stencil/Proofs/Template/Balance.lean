import Stencil.Proofs.Template.Quotation

/-!
Parentheses without a partner.

A call is read in one pass that never fails. What is wrong with its parentheses leaves a mark in the call, in one of
four ways: a parenthesis closes where none is open, one closes where nothing was read since it was opened, or the end
comes while some are open, which gives up the outermost one with all that is in it. Here is what these come to for the
text of the call (`hasUnbalanced_read_iff`): there is a mark just when the parentheses outside of literals do not
belong together in pairs, or one of the pairs has nothing in it.

The text is judged by two numbers that go along with it: how many parentheses are open, and whether something was read
since the last one was opened (`Amiss`). The pass over the lexemes keeps to the same two (`Flagged`), whatever else
it puts together.
-/

namespace Stencil

namespace Template

open Text

/-! ## 1. Parentheses of a text -/

/-- The parentheses that are seen, together with some that are open already, belong together in pairs. -/
structure Balanced (depth : Nat) (seen : List (Option Char)) : Prop where
  /-- No beginning closes more of them than there are open. -/
  opened : ∀ early, early <+: seen → early.count (some ')') ≤ depth + early.count (some '(')
  /-- None of them stays open. -/
  closed : depth + seen.count (some '(') ≤ seen.count (some ')')

/-- A parenthesis closes with nothing but blanks before it. -/
def ClosesBare (seen : List (Option Char)) : Prop :=
  ∃ blanks : List Char, (∀ c ∈ blanks, isBlank c = true) ∧ blanks.map some ++ [some ')'] <+: seen

/-- Somewhere stands a pair of parentheses with nothing but blanks in it. -/
def HasEmptyPair (seen : List (Option Char)) : Prop :=
  ∃ blanks : List Char, (∀ c ∈ blanks, isBlank c = true) ∧ some '(' :: (blanks.map some ++ [some ')']) <:+: seen

/-- Something is wrong with the parentheses, when `depth` of them are open and nothing was read since the last one of
these was opened (`bare`), or something was. -/
def Amiss : (depth : Nat) → (bare : Bool) → List (Option Char) → Prop
  | depth, _, [] => 0 < depth
  | depth, bare, sign :: seen =>
    if sign = some '(' then Amiss (depth + 1) true seen
    else if sign = some ')' then depth = 0 ∨ bare = true ∨ Amiss (depth - 1) false seen
    else Amiss depth (bare && sign.any isBlank) seen

variable {depth : Nat} {bare : Bool} {sign : Option Char} {seen : List (Option Char)}

theorem amiss_opening : Amiss depth bare (some '(' :: seen) ↔ Amiss (depth + 1) true seen := by
  rw [Amiss, if_pos rfl]

theorem amiss_closing :
    Amiss depth bare (some ')' :: seen) ↔ depth = 0 ∨ bare = true ∨ Amiss (depth - 1) false seen := by
  rw [Amiss, if_neg (by decide), if_pos rfl]

theorem amiss_other (hopening : sign ≠ some '(') (hclosing : sign ≠ some ')') :
    Amiss depth bare (sign :: seen) ↔ Amiss depth (bare && sign.any isBlank) seen := by
  rw [Amiss, if_neg hopening, if_neg hclosing]

theorem forall_prefix_cons {P : List (Option Char) → Prop} :
    (∀ early, early <+: sign :: seen → P early) ↔ P [] ∧ ∀ early, early <+: seen → P (sign :: early) := by
  constructor
  · intro h
    exact ⟨h [] List.nil_prefix, fun early hearly => h _ ((List.prefix_cons_inj sign).mpr hearly)⟩
  · rintro ⟨hnil, hcons⟩ early hearly
    rcases List.prefix_cons_iff.mp hearly with rfl | ⟨others, rfl, hothers⟩
    · exact hnil
    · exact hcons others hothers

theorem balanced_nil : Balanced depth [] ↔ depth = 0 := by
  constructor
  · intro h
    have := h.closed
    simpa using this
  · rintro rfl
    refine ⟨fun early hearly => ?_, Nat.le_refl _⟩
    rw [List.prefix_nil.mp hearly]
    exact Nat.le_refl _

/-- One sign more, with as many open parentheses as there are behind it. -/
theorem balanced_cons {later : Nat}
    (h : depth + [sign].count (some '(') = later + [sign].count (some ')')) :
    Balanced depth (sign :: seen) ↔ Balanced later seen := by
  have hcount (early : List (Option Char)) (paren : Option Char) :
      (sign :: early).count paren = [sign].count paren + early.count paren := by
    rw [← List.singleton_append, List.count_append]
  constructor
  · rintro ⟨hopened, hclosed⟩
    rw [forall_prefix_cons] at hopened
    rw [hcount seen (some '('), hcount seen (some ')')] at hclosed
    refine ⟨fun early hearly => ?_, by omega⟩
    have hmore := hopened.2 early hearly
    rw [hcount early (some '('), hcount early (some ')')] at hmore
    omega
  · rintro ⟨hopened, hclosed⟩
    refine ⟨forall_prefix_cons.mpr ⟨Nat.zero_le _, fun early hearly => ?_⟩, ?_⟩
    · have hmore := hopened early hearly
      rw [hcount early (some '('), hcount early (some ')')]
      omega
    · rw [hcount seen (some '('), hcount seen (some ')')]
      omega

theorem balanced_opening : Balanced depth (some '(' :: seen) ↔ Balanced (depth + 1) seen := balanced_cons rfl

theorem balanced_closing : Balanced depth (some ')' :: seen) ↔ depth ≠ 0 ∧ Balanced (depth - 1) seen := by
  cases depth with
  | zero =>
    refine ⟨fun h => ?_, fun h => absurd rfl h.1⟩
    exact absurd (h.opened [some ')'] ((List.prefix_cons_inj _).mpr List.nil_prefix)) (by decide)
  | succ depth => exact (balanced_cons rfl).trans (by simp)

theorem balanced_other (hopening : sign ≠ some '(') (hclosing : sign ≠ some ')') :
    Balanced depth (sign :: seen) ↔ Balanced depth seen := by
  refine balanced_cons ?_
  rw [List.count_cons_of_ne hopening, List.count_cons_of_ne hclosing]
  rfl

theorem closesBare_nil : ¬ ClosesBare [] := by
  rintro ⟨blanks, -, hprefix⟩
  simpa using hprefix.length_le

theorem closesBare_cons :
    ClosesBare (sign :: seen) ↔ sign = some ')' ∨ (sign.any isBlank = true ∧ ClosesBare seen) := by
  constructor
  · rintro ⟨blanks, hblanks, hprefix⟩
    cases blanks with
    | nil => exact .inl (List.cons_prefix_cons.mp hprefix).1.symm
    | cons c blanks =>
      obtain ⟨rfl, hothers⟩ := List.cons_prefix_cons.mp hprefix
      rw [List.forall_mem_cons] at hblanks
      exact .inr ⟨hblanks.1, blanks, hblanks.2, hothers⟩
  · rintro (rfl | ⟨hblank, blanks, hblanks, hprefix⟩)
    · exact ⟨[], by simp, List.cons_prefix_cons.mpr ⟨rfl, List.nil_prefix⟩⟩
    · cases sign with
      | none => cases hblank
      | some c =>
        exact ⟨c :: blanks, List.forall_mem_cons.mpr ⟨hblank, hblanks⟩, List.cons_prefix_cons.mpr ⟨rfl, hprefix⟩⟩

theorem hasEmptyPair_nil : ¬ HasEmptyPair [] := by
  rintro ⟨blanks, -, hinfix⟩
  simpa using hinfix.length_le

theorem hasEmptyPair_cons :
    HasEmptyPair (sign :: seen) ↔ (sign = some '(' ∧ ClosesBare seen) ∨ HasEmptyPair seen := by
  constructor
  · rintro ⟨blanks, hblanks, hinfix⟩
    rcases List.infix_cons_iff.mp hinfix with hprefix | hinfix
    · obtain ⟨rfl, hothers⟩ := List.cons_prefix_cons.mp hprefix
      exact .inl ⟨rfl, blanks, hblanks, hothers⟩
    · exact .inr ⟨blanks, hblanks, hinfix⟩
  · rintro (⟨rfl, blanks, hblanks, hprefix⟩ | ⟨blanks, hblanks, hinfix⟩)
    · exact ⟨blanks, hblanks, List.infix_cons_iff.mpr (.inl (List.cons_prefix_cons.mpr ⟨rfl, hprefix⟩))⟩
    · exact ⟨blanks, hblanks, List.infix_cons_iff.mpr (.inr hinfix)⟩

/-- The two numbers are enough: what is wrong is a missing partner or an empty pair, one that was opened before the
text included. -/
theorem amiss_iff :
    Amiss depth bare seen ↔
      ¬ Balanced depth seen ∨ HasEmptyPair seen ∨ (0 < depth ∧ bare = true ∧ ClosesBare seen) := by
  induction seen generalizing depth bare with
  | nil =>
    rw [Amiss, balanced_nil]
    simp [hasEmptyPair_nil, closesBare_nil, Nat.pos_iff_ne_zero]
  | cons sign seen ih =>
    rw [hasEmptyPair_cons, closesBare_cons]
    by_cases hopening : sign = some '('
    · subst hopening
      rw [amiss_opening, ih, balanced_opening]
      have hblank : (some '(').any isBlank = false := by decide
      simp [hblank, or_comm]
    · by_cases hclosing : sign = some ')'
      · subst hclosing
        rw [amiss_closing, ih, balanced_closing, Nat.pos_iff_ne_zero]
        -- without an open one the parenthesis is alone, and right behind its partner it closes nothing
        by_cases hdepth : depth = 0
        · simp [hdepth]
        · cases bare with
          | false => simp [hdepth]
          | true => simp [Nat.pos_of_ne_zero hdepth]
      · rw [amiss_other hopening hclosing, ih, balanced_other hopening hclosing]
        simp [hopening, hclosing, and_assoc]

/-! ## 2. Literals, words and blanks -/

variable {c : Char} {cs : List Char}

/-- Inside a literal nothing counts: what is judged is what follows it. -/
theorem amiss_literal (quote : Char) (cs : List Char) :
    Amiss depth false (Reader.call.unquoted (.literal quote) cs) ↔
      Amiss depth false (Reader.call.unquoted .between (readLiteral quote cs).2) := by
  have hidden (here : Reading) (c : Char) (cs : List Char) (hhere : here.isQuoted = true) :
      Amiss depth false (Reader.call.unquoted here (c :: cs)) ↔
        Amiss depth false (Reader.call.unquoted (Reader.call.next here c) cs) := by
    rw [Reader.unquoted, hhere, Bool.true_or, if_pos rfl, amiss_other (by decide) (by decide)]
    rfl
  fun_induction readLiteral quote cs with
  | case1 => rfl
  | case2 => rfl
  | case3 c cs literal rest h _ ih | case4 c cs literal rest h _ ih =>
    rw [h] at ih
    rw [hidden _ _ _ rfl, Reader.next, if_pos rfl, hidden _ _ _ rfl]
    exact ih
  | case5 cs hlast hescape => rw [hidden _ _ _ rfl, Reader.next, if_neg (Reader.ne_backslash hlast hescape), if_pos rfl]
  | case6 c cs hlast hescape hc literal rest h ih =>
    rw [h] at ih
    rw [hidden _ _ _ rfl, Reader.next, if_neg (Reader.ne_backslash hlast hescape), if_neg hc]
    exact ih

/-- Outside of words and literals a character that is none of a word is seen. -/
theorem unquoted_sign (hc : isWordChar c = false) (cs : List Char) :
    Reader.call.unquoted .between (c :: cs) = some c :: Reader.call.unquoted .between cs := by
  simp [Reader.unquoted, Reader.next, hc, Reader.isQuote_eq_false hc, Reading.isQuoted, Reading.quote?]

/-- Behind a word such a character is seen in the same way. -/
theorem unquoted_word_end (hc : isWordChar c = false) (cs : List Char) :
    Reader.call.unquoted .word (c :: cs) = Reader.call.unquoted .between (c :: cs) := by
  simp [Reader.unquoted, Reader.next, hc, Reader.isQuote_eq_false hc, Reading.isQuoted, Reading.quote?]

theorem unquoted_word (hc : isWordChar c = true) (cs : List Char) :
    Reader.call.unquoted .word (c :: cs) = some c :: Reader.call.unquoted .word cs := by
  simp [Reader.unquoted, Reader.next, hc, Reading.isQuoted, Reading.quote?]

/-- Blanks read nothing. -/
theorem amiss_blanks (cs : List Char) :
    Amiss depth bare (Reader.call.unquoted .between cs) ↔
      Amiss depth bare (Reader.call.unquoted .between (cs.dropWhile isBlank)) := by
  induction cs with
  | nil => rfl
  | cons c cs ih =>
    cases hc : isBlank c with
    | false => rw [List.dropWhile_cons_of_neg (by simp [hc])]
    | true =>
      have hparen : some c ≠ some '(' ∧ some c ≠ some ')' := by
        constructor <;> rintro ⟨⟩ <;> cases hc
      rw [List.dropWhile_cons_of_pos hc, unquoted_sign (isWordChar_eq_false (.inl hc)),
        amiss_other hparen.1 hparen.2, Option.any_some, hc, Bool.and_true]
      exact ih

/-- A word is read to its end. -/
theorem amiss_word (cs : List Char) :
    Amiss depth false (Reader.call.unquoted .word cs) ↔
      Amiss depth false (Reader.call.unquoted .between (cs.dropWhile isWordChar)) := by
  induction cs with
  | nil => rfl
  | cons c cs ih =>
    cases hc : isWordChar c with
    | false => rw [List.dropWhile_cons_of_neg (by simp [hc]), unquoted_word_end hc]
    | true =>
      have hparen : some c ≠ some '(' ∧ some c ≠ some ')' := by
        constructor <;> rintro ⟨⟩ <;> cases hc
      rw [List.dropWhile_cons_of_pos hc, unquoted_word hc, amiss_other hparen.1 hparen.2, Bool.false_and]
      exact ih

/-! ## 3. Marks in a call under construction -/

/-- Whether a mark stands in what was read of a call so far. -/
def OpenCall.marked (call : OpenCall) : Bool :=
  call.head?.any (·.hasUnbalanced) || anyUnbalanced call.positional || anyUnbalancedNamed call.named

/-- Whether a mark stands in any of the calls under construction. -/
def CallStack.marked (stack : CallStack) : Bool := stack.current.marked || stack.outer.any (·.marked)

theorem anyUnbalanced_eq_any (as : List Argument) : anyUnbalanced as = as.any (·.hasUnbalanced) := by
  induction as with
  | nil => rfl
  | cons a as ih => rw [anyUnbalanced, ih, List.any_cons]

theorem anyUnbalancedNamed_eq_any (as : List (String × Argument)) :
    anyUnbalancedNamed as = as.any (·.2.hasUnbalanced) := by
  induction as with
  | nil => rfl
  | cons a as ih => rw [anyUnbalancedNamed, ih, List.any_cons]

namespace OpenCall

variable {call : OpenCall}

/-- A name is waiting for its value only behind the head. -/
def Sound (call : OpenCall) : Prop := call.head? = none → call.pending = none

/-- With a head nothing is left to ask. -/
theorem sound_of_head? (h : call.head?.isNone = false) : call.Sound := by
  intro hnone
  rw [hnone] at h
  cases h

theorem head?_put (call : OpenCall) (arg : Argument) : (call.put arg).head?.isNone = false := by
  unfold put
  split
  · rfl
  · next h _ => simp [h]
  · next h _ => simp [h]

theorem sound_put (call : OpenCall) (arg : Argument) : (call.put arg).Sound := sound_of_head? (head?_put call arg)

theorem marked_put (call : OpenCall) (arg : Argument) : (call.put arg).marked = (call.marked || arg.hasUnbalanced) := by
  unfold put
  split
  · next h => simp [marked, h, Bool.or_assoc, Bool.or_comm, Bool.or_left_comm]
  · next h _ => simp [marked, h, anyUnbalancedNamed, Bool.or_assoc, Bool.or_comm, Bool.or_left_comm]
  · next h _ => simp [marked, h, anyUnbalanced, Bool.or_assoc, Bool.or_comm, Bool.or_left_comm]

theorem marked_settle (call : OpenCall) : call.settle.marked = call.marked := by
  unfold settle
  split
  · simp [marked_put, Argument.hasUnbalanced]
  · rfl

theorem Sound.head?_settle (h : call.Sound) : call.settle.head?.isNone = call.head?.isNone := by
  unfold settle
  split
  · next hpending =>
    rw [head?_put]
    cases hhead : call.head? with
    | none =>
      rw [h hhead] at hpending
      cases hpending
    | some head => rfl
  · rfl

theorem sound_settle (h : call.Sound) : call.settle.Sound := by
  unfold settle
  split
  · exact sound_put call _
  · exact h

theorem head?_putKey (call : OpenCall) (key : String) : (call.putKey key).head?.isNone = false := by
  unfold putKey
  split
  · exact head?_put _ _
  · next h =>
    simp only [Bool.or_eq_true, not_or, Bool.not_eq_true] at h
    exact h.1

theorem sound_putKey (call : OpenCall) (key : String) : (call.putKey key).Sound :=
  sound_of_head? (head?_putKey call key)

theorem marked_putKey (call : OpenCall) (key : String) : (call.putKey key).marked = call.marked := by
  unfold putKey
  split
  · simp [marked_put, Argument.hasUnbalanced]
  · rfl

/-- A finished call has the marks of the call under construction, and one for a missing head where that is a mark. -/
theorem hasUnbalanced_close (call : OpenCall) (missing : Argument) :
    (call.close missing).hasUnbalanced = (call.marked || (call.settle.head?.isNone && missing.hasUnbalanced)) := by
  rw [← marked_settle]
  simp only [close, Call.hasUnbalanced, Call.toArgument, Argument.hasUnbalanced, marked, anyUnbalanced_eq_any,
    anyUnbalancedNamed_eq_any, List.any_reverse]
  cases call.settle.head? with
  | none => simp [Bool.or_comm, Bool.or_assoc]
  | some head => simp

end OpenCall

/-! ## 4. One lexeme -/

namespace CallStack

variable {stack : CallStack}

/-- Whether nothing was read of the innermost call. -/
def isBare (stack : CallStack) : Bool := stack.current.head?.isNone

/-- A mark is there already, or the parentheses that are still to be seen will leave one. -/
def Flagged (stack : CallStack) (seen : List (Option Char)) : Prop :=
  stack.marked = true ∨ Amiss stack.outer.length stack.isBare seen

theorem hasUnbalanced_finish (stack : CallStack) : stack.finish.hasUnbalanced = true ↔ stack.Flagged [] := by
  unfold finish
  split
  · next call hlast =>
    -- the outermost call is given up, and has a mark then
    have houter : 0 < stack.outer.length := by
      rw [List.length_pos_iff]
      rintro hnil
      rw [hnil] at hlast
      cases hlast
    simp [OpenCall.hasUnbalanced_close, OpenCall.marked_put, Argument.hasUnbalanced, Flagged, Amiss, houter]
  · next hlast =>
    have houter : stack.outer = [] := List.getLast?_eq_none_iff.mp hlast
    simp [OpenCall.hasUnbalanced_close, Argument.hasUnbalanced, Flagged, Amiss, marked, houter]

theorem flagged_gap (hsound : stack.current.Sound) : (stack.step .gap).Flagged seen ↔ stack.Flagged seen := by
  simp only [Flagged, step, marked, isBare, OpenCall.marked_settle, hsound.head?_settle]

/-- Where something was read, the innermost call is not bare any more. -/
theorem flagged_of_read {current : OpenCall} (hmarked : current.marked = stack.current.marked)
    (hhead : current.head?.isNone = false) :
    ({ stack with current } : CallStack).Flagged seen ↔ stack.marked = true ∨ Amiss stack.outer.length false seen := by
  simp only [Flagged, marked, isBare, hmarked, hhead]

theorem flagged_put {arg : Argument} (harg : arg.hasUnbalanced = false) :
    ({ stack with current := stack.current.put arg } : CallStack).Flagged seen ↔
      stack.marked = true ∨ Amiss stack.outer.length false seen :=
  flagged_of_read (by rw [OpenCall.marked_put, harg, Bool.or_false]) (OpenCall.head?_put _ _)

theorem flagged_opening : (stack.step .opening).Flagged seen ↔ stack.Flagged (some '(' :: seen) := by
  have hstart : OpenCall.start.marked = false := rfl
  simp only [Flagged, amiss_opening, step, marked, isBare, hstart, Bool.false_or, List.any_cons, List.length_cons]
  rfl

theorem flagged_closing (hsound : stack.current.Sound) :
    (stack.step .closing).Flagged seen ↔ stack.Flagged (some ')' :: seen) := by
  obtain ⟨current, outer⟩ := stack
  rw [Flagged, Flagged, amiss_closing]
  cases outer with
  | nil => simp [step, marked, OpenCall.marked_put, Argument.hasUnbalanced]
  | cons parent outer =>
    have hclosed : (current.close .unbalanced).toArgument.hasUnbalanced =
        (current.marked || current.head?.isNone) := by
      have h := OpenCall.hasUnbalanced_close current .unbalanced
      rwa [OpenCall.Sound.head?_settle hsound, Argument.hasUnbalanced, Bool.and_true] at h
    simp only [step, marked, isBare, OpenCall.marked_put, hclosed, OpenCall.head?_put, List.any_cons, List.length_cons]
    simp [or_assoc, or_comm, or_left_comm]

theorem sound_closing (stack : CallStack) : (stack.step .closing).current.Sound := by
  obtain ⟨current, outer⟩ := stack
  cases outer with
  | nil => exact OpenCall.sound_put _ _
  | cons parent outer => exact OpenCall.sound_put _ _

theorem flagged_other (hopening : sign ≠ some '(') (hclosing : sign ≠ some ')') (hblank : sign.any isBlank = false) :
    stack.Flagged (sign :: seen) ↔ stack.marked = true ∨ Amiss stack.outer.length false seen := by
  rw [Flagged, amiss_other hopening hclosing, hblank, Bool.and_false]

/-- A character that begins a word is read, and so is the rest of the word. -/
theorem flagged_word (hblank : ¬ isBlank c = true) (hquote : ¬ (c = '"' ∨ c = '\'')) (hopening : c ≠ '(')
    (hclosing : c ≠ ')') (hequals : c ≠ '=') :
    stack.Flagged (Reader.call.unquoted .between (c :: cs)) ↔
      stack.marked = true ∨
        Amiss stack.outer.length false (Reader.call.unquoted .between (cs.dropWhile isWordChar)) := by
  have hnext : Reader.call.next .between c = .word := by
    simp [Reader.next, isQuote, isWordChar, hblank, hopening, hclosing, hequals, not_or.mp hquote]
  rw [Reader.unquoted, hnext, if_neg (by decide), flagged_other (by simpa using hopening) (by simpa using hclosing)
    (by simpa using hblank), amiss_word]

end CallStack

/-! ## 5. The pass over the lexemes -/

/-- The pass leaves a mark just when one is there already or the parentheses of the text will leave one. -/
theorem flagged_lexemes (cs : List Char) (stack : CallStack) (hsound : stack.current.Sound) :
    ((lexemes cs).foldl CallStack.step stack).finish.hasUnbalanced = true ↔
      stack.Flagged (Reader.call.unquoted .between cs) := by
  fun_induction lexemes cs generalizing stack
  case case1 => exact stack.hasUnbalanced_finish
  case case2 c cs hblank ih =>
    rw [List.foldl_cons, ih _ (OpenCall.sound_settle hsound), CallStack.flagged_gap hsound, CallStack.Flagged,
      CallStack.Flagged, amiss_blanks (c :: cs), List.dropWhile_cons_of_pos hblank]
  case case3 c cs hblank hquote ih =>
    have hkind : isQuote c = true := by simpa [isQuote] using hquote
    have hunquoted : Reader.call.unquoted .between (c :: cs) = none :: Reader.call.unquoted (.literal c) cs := by
      simp [Reader.unquoted, Reader.next, hkind, Reading.isQuoted, Reading.quote?]
    rw [List.foldl_cons, ih _ (OpenCall.sound_put _ _), hunquoted,
      CallStack.flagged_other (by decide) (by decide) rfl, amiss_literal]
    exact CallStack.flagged_put rfl
  case case4 cs hblank hquote ih =>
    rw [List.foldl_cons, ih _ (fun _ => rfl), unquoted_sign rfl, CallStack.flagged_opening]
  case case5 cs hblank hquote hopening ih =>
    rw [List.foldl_cons, ih _ stack.sound_closing, unquoted_sign rfl, CallStack.flagged_closing hsound]
  case case6 cs hblank hquote hopening hclosing ih =>
    rw [List.foldl_cons, ih _ (OpenCall.sound_put _ _), unquoted_sign rfl,
      CallStack.flagged_other (by decide) (by decide) rfl]
    exact CallStack.flagged_put rfl
  case case7 c cs hblank hquote hopening hclosing hequals word rest hrest ih =>
    -- the equals sign behind the word is seen as well, but it is no parenthesis
    rw [List.foldl_cons, ih _ (OpenCall.sound_putKey _ _),
      CallStack.flagged_word hblank hquote hopening hclosing hequals, hrest, unquoted_sign rfl,
      amiss_other (by decide) (by decide)]
    exact CallStack.flagged_of_read (OpenCall.marked_putKey _ _) (OpenCall.head?_putKey _ _)
  case case8 c cs hblank hquote hopening hclosing hequals word hrest ih =>
    rw [List.foldl_cons, ih _ (OpenCall.sound_put _ _),
      CallStack.flagged_word hblank hquote hopening hclosing hequals]
    exact CallStack.flagged_put rfl

/-! ## 6. Calls -/

/-- There are no more lexemes than characters. -/
theorem length_lexemes_le (cs : List Char) : (lexemes cs).length ≤ cs.length := by
  fun_induction lexemes cs
  case case1 => exact Nat.le_refl _
  case case2 c cs _ ih =>
    have := length_dropWhile_le isBlank cs
    simp only [List.length_cons]
    omega
  case case3 c cs _ _ ih =>
    have := length_readLiteral c cs
    simp only [List.length_cons]
    omega
  case case4 cs _ _ ih | case5 cs _ _ _ ih | case6 cs _ _ _ _ ih =>
    simp only [List.length_cons]
    omega
  case case7 c cs _ _ _ _ _ _ rest hrest ih =>
    have := length_dropWhile_le isWordChar cs
    rw [hrest] at this
    simp only [List.length_cons] at this ⊢
    omega
  case case8 c cs _ _ _ _ _ _ _ ih =>
    have := length_dropWhile_le isWordChar cs
    simp only [List.length_cons]
    omega

/-- **A call has the mark of a lone parenthesis just when the parentheses of its text are wrong**: outside of literals
they do not belong together in pairs, or one pair has nothing in it. It is read in no more steps than the text has
characters. -/
theorem hasUnbalanced_read_iff (inner : String) :
    ((Call.read inner).hasUnbalanced = true ↔
        ¬ Balanced 0 (Reader.call.unquoted .between inner.toList) ∨
          HasEmptyPair (Reader.call.unquoted .between inner.toList)) ∧
      (lexemes inner.toList).length ≤ inner.length := by
  have hstart : CallStack.start.marked = false := rfl
  refine ⟨?_, length_lexemes_le _⟩
  rw [Call.read, flagged_lexemes inner.toList .start fun _ => rfl, CallStack.Flagged, hstart, amiss_iff]
  simp [CallStack.start]

end Template

end Stencil
