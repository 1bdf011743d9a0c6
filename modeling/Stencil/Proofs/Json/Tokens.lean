import Mathlib.Tactic.SplitIfs
import Stencil.Json.Printer
import Stencil.Json.Reader
import Stencil.Proofs.Number.Digits

/-!
Tokens in a text.

`Scans` says which tokens a text has, one by one, without the steps that the scan is given; that these are enough
follows from the fact that every token takes at least one character (`Scans.scan?_eq`). What is written for one token is
read as this token whatever text is behind it. Only a number needs more of that text: it must not go on with a digit, a
point or a power of ten (`EndsNumber`).
-/

namespace Stencil.Json

open Stencil.Text Stencil.Number

variable {cs rest : List Char}

/-! ## 1. Every token takes a character -/

theorem length_of_readPieces? {pieces : List Piece} (h : readPieces? cs = some (pieces, rest)) :
    rest.length < cs.length := by
  induction cs using readPieces?.induct generalizing pieces with
  | case1 => cases h
  | case2 after =>
    cases h
    exact Nat.lt_succ_self _
  | case3 a b c d after ih =>
    obtain ⟨_, -, h⟩ := Option.bind_eq_some_iff.mp h
    obtain ⟨⟨_, _⟩, hmore, h⟩ := Option.bind_eq_some_iff.mp h
    cases h
    have := ih hmore
    simp only [List.length_cons]
    omega
  | case4 c after hcode ih =>
    rw [readPieces?] at h
    · obtain ⟨_, -, h⟩ := Option.bind_eq_some_iff.mp h
      obtain ⟨⟨_, _⟩, hmore, h⟩ := Option.bind_eq_some_iff.mp h
      cases h
      have := ih hmore
      simp only [List.length_cons]
      omega
    · exact hcode
  | case5 c after hquote hcode hescape hcontrol ih =>
    rw [readPieces?, if_pos hcontrol] at h
    · cases h
    · assumption
    · assumption
    · assumption
  | case6 c after hquote hcode hescape hcontrol ih =>
    rw [readPieces?, if_neg hcontrol] at h
    · obtain ⟨⟨_, _⟩, hmore, h⟩ := Option.bind_eq_some_iff.mp h
      cases h
      have := ih hmore
      simp only [List.length_cons]
      omega
    · assumption
    · assumption
    · assumption

theorem length_of_spanDigits (cs : List Char) : (spanDigits cs).2.length ≤ cs.length :=
  (List.dropWhile_suffix _).length_le

theorem length_of_readFraction? {fraction : Option (List Char)} (h : readFraction? cs = some (fraction, rest)) :
    rest.length ≤ cs.length := by
  unfold readFraction? at h
  split at h
  · next after =>
    simp only [] at h
    split at h
    · cases h
    · cases h
      exact (length_of_spanDigits after).trans (Nat.le_succ _)
  · cases h
    exact Nat.le_refl _

theorem length_of_readPower? {power : Option Int} (h : readPower? cs = some (power, rest)) :
    rest.length ≤ cs.length := by
  unfold readPower? at h
  split at h
  · cases h
    exact Nat.le_refl _
  · next c after =>
    simp only [] at h
    split at h
    · obtain ⟨_, -, heq⟩ := Option.map_eq_some_iff.mp h
      cases heq
      have hsign : (signOf after).2.length ≤ after.length := by
        unfold signOf
        split
        · exact Nat.le_succ _
        · exact Nat.le_succ _
        · exact Nat.le_refl _
      exact (length_of_spanDigits _).trans (hsign.trans (Nat.le_succ _))
    · cases h
      exact Nat.le_refl _

theorem length_of_readNumber? {negative : Bool} {n : WrittenNumber} (h : readNumber? negative cs = some (n, rest)) :
    rest.length < cs.length := by
  unfold readNumber? at h
  simp only [] at h
  split at h
  · cases h
  · next hwhole =>
    obtain ⟨⟨_, afterFraction⟩, hfraction, h⟩ := Option.bind_eq_some_iff.mp h
    obtain ⟨⟨_, afterPower⟩, hpower, h⟩ := Option.bind_eq_some_iff.mp h
    cases h
    -- there is a digit in front
    have hsome : 0 < (spanDigits cs).1.length := by
      rw [List.length_pos_iff]
      intro hnil
      exact hwhole (by rw [hnil]; rfl)
    have htotal : (spanDigits cs).1.length + (spanDigits cs).2.length = cs.length := by
      rw [← List.length_append]
      exact congrArg List.length (List.takeWhile_append_dropWhile ..)
    have hafterFraction := length_of_readFraction? hfraction
    have hafterPower := length_of_readPower? hpower
    dsimp only at hafterPower ⊢
    omega

theorem Token.length_of_next? {token : Token} (h : Token.next? cs = some (token, rest)) : rest.length < cs.length := by
  unfold Token.next? at h
  split at h
  case h_7 after =>
    obtain ⟨⟨_, _⟩, hpieces, heq⟩ := Option.map_eq_some_iff.mp h
    cases heq
    exact (length_of_readPieces? hpieces).trans (Nat.lt_succ_self _)
  case h_8 after =>
    obtain ⟨⟨_, _⟩, hnumber, heq⟩ := Option.map_eq_some_iff.mp h
    cases heq
    exact (length_of_readNumber? hnumber).trans (Nat.lt_succ_self _)
  case h_12 =>
    obtain ⟨⟨_, _⟩, hnumber, heq⟩ := Option.map_eq_some_iff.mp h
    cases heq
    exact length_of_readNumber? hnumber
  -- marks and words
  all_goals
    cases h
    simp only [List.length_cons]
    omega

/-! ## 2. The tokens of a text -/

/-- A text has these tokens, with blanks before, between and behind them. -/
inductive Scans : List Char → List Token → Prop
  | blank {cs : List Char} (h : cs.dropWhile isGap = []) : Scans cs []
  | token {cs rest : List Char} {token : Token} {tokens : List Token}
      (h : Token.next? (cs.dropWhile isGap) = some (token, rest)) (hrest : Scans rest tokens) :
      Scans cs (token :: tokens)

variable {token : Token} {tokens : List Token}

theorem Scans.gap {gap : List Char} (hgap : ∀ c ∈ gap, isGap c = true) (h : Scans cs tokens) :
    Scans (gap ++ cs) tokens := by
  have hdrop : (gap ++ cs).dropWhile isGap = cs.dropWhile isGap := List.dropWhile_append_of_pos hgap
  cases h with
  | blank h => exact .blank (hdrop.trans h)
  | token h hrest => exact .token (by rwa [hdrop]) hrest

/-- One more token in front, which does not start with a blank. -/
theorem Scans.cons {c : Char} (hc : isGap c = false) (hnext : Token.next? (c :: cs) = some (token, rest))
    (h : Scans rest tokens) : Scans (c :: cs) (token :: tokens) := by
  refine .token ?_ h
  rwa [List.dropWhile_cons_of_neg (by rw [hc]; exact Bool.false_ne_true)]

theorem Scans.go_eq (h : Scans cs tokens) {n : Nat} (hn : cs.length ≤ n) : Token.scan?.go n cs = some tokens := by
  induction h generalizing n with
  | blank h =>
    unfold Token.scan?.go
    rw [h]
  | @token cs rest token tokens hnext hrest ih =>
    have hlength := Token.length_of_next? hnext
    have hdrop : (cs.dropWhile isGap).length ≤ cs.length := (List.dropWhile_suffix _).length_le
    unfold Token.scan?.go
    cases hcs : cs.dropWhile isGap with
    | nil =>
      rw [hcs] at hlength
      cases hlength
    | cons c after =>
      rw [hcs] at hnext hlength hdrop
      cases n with
      | zero => omega
      | succ n =>
        refine Option.bind_eq_some_iff.mpr ⟨(token, rest), hnext, ?_⟩
        refine Option.bind_eq_some_iff.mpr ⟨tokens, ih (by omega), rfl⟩

/-- As many steps as there are characters find all tokens. -/
theorem Scans.scan?_eq (h : Scans cs tokens) : Token.scan? cs = some tokens := h.go_eq (Nat.le_refl _)

/-! ## 3. Strings -/

/-- What a character inside a quoted string is read as. -/
def piece (c : Char) : Piece :=
  if c.toNat < 32 ∧ c ∉ ['\n', '\r', '\t', .ofNat 8, .ofNat 12] then .code c.toNat else .char c

theorem piece_of_plain {c : Char} (hc : 32 ≤ c.toNat) : piece c = .char c := by
  rw [piece, if_neg]
  omega

theorem hexCode?_hexLower : ∀ n < 32, hexCode? '0' '0' (hexLower (n / 16)) (hexLower (n % 16)) = some n := by
  decide

theorem readPieces?_letter {c d : Char} {pieces : List Piece} (hc : c ≠ 'u') (hletter : letterEscape? c = some d)
    (h : readPieces? cs = some (pieces, rest)) : readPieces? ('\\' :: c :: cs) = some (.char d :: pieces, rest) := by
  rw [readPieces?, hletter, h]
  · rfl
  · intro _ _ _ _ _ hu
    exact absurd hu hc

/-- A character that was escaped where it has to be is read with any string behind it. -/
theorem readPieces?_escaped {pieces : List Piece} (c : Char) (h : readPieces? cs = some (pieces, rest)) :
    readPieces? (escaped c ++ cs) = some (piece c :: pieces, rest) := by
  unfold escaped
  split_ifs with hquote hbackslash hbreak hreturn htab hback hfeed hcontrol
  · subst hquote
    exact readPieces?_letter (by decide) rfl h
  · subst hbackslash
    exact readPieces?_letter (by decide) rfl h
  · subst hbreak
    exact readPieces?_letter (by decide) rfl h
  · subst hreturn
    exact readPieces?_letter (by decide) rfl h
  · subst htab
    exact readPieces?_letter (by decide) rfl h
  · obtain rfl : c = .ofNat 8 := Char.toNat_inj.mp hback
    exact readPieces?_letter (by decide) rfl h
  · obtain rfl : c = .ofNat 12 := Char.toNat_inj.mp hfeed
    exact readPieces?_letter (by decide) rfl h
  · -- a control character without a letter of its own
    have hpiece : piece c = .code c.toNat := by
      rw [piece, if_pos]
      refine ⟨hcontrol, ?_⟩
      simp only [List.mem_cons, List.not_mem_nil, or_false, not_or]
      exact ⟨hbreak, hreturn, htab, fun h => hback (h ▸ rfl), fun h => hfeed (h ▸ rfl)⟩
    rw [hpiece, List.cons_append, List.cons_append, List.cons_append, List.cons_append, List.cons_append,
      List.cons_append, List.nil_append, readPieces?, hexCode?_hexLower _ hcontrol, h]
    rfl
  · rw [piece_of_plain (by omega), List.singleton_append, readPieces?, if_neg hcontrol, h]
    · rfl
    · exact hquote
    · intro _ _ _ _ _ hslash
      exact absurd hslash hbackslash
    · intro _ _ hslash
      exact absurd hslash hbackslash

theorem readPieces?_quoted (cs rest : List Char) :
    readPieces? (cs.flatMap escaped ++ '"' :: rest) = some (cs.map piece, rest) := by
  induction cs with
  | nil => rfl
  | cons c cs ih =>
    rw [List.flatMap_cons, List.append_assoc, List.map_cons]
    exact readPieces?_escaped c ih

theorem pieceChars?_code {n : Nat} (hn : n < 0xD800) (pieces : List Piece) :
    pieceChars? (.code n :: pieces) = (pieceChars? pieces).map (.ofNat n :: ·) := by
  have hpair : ¬ (0xD800 ≤ n ∧ n < 0xE000) := by omega
  conv_lhs => unfold pieceChars?
  split
  · next heq => cases heq
  · next heq => cases heq
  · next heq =>
    cases heq
    rw [if_neg (by omega), if_neg hpair]
  · next heq =>
    cases heq
    rw [if_neg hpair]

/-- The pieces of a text are put together to this text: none of them is half a pair. -/
theorem pieceChars?_map_piece (cs : List Char) : pieceChars? (cs.map piece) = some cs := by
  induction cs with
  | nil => rfl
  | cons c cs ih =>
    rw [List.map_cons, piece]
    split_ifs with hcontrol
    · rw [pieceChars?_code (by omega), ih, Char.ofNat_toNat]
      rfl
    · rw [pieceChars?, ih]
      rfl

theorem pieceText?_map_piece (s : String) : pieceText? (s.toList.map piece) = some s := by
  rw [pieceText?, pieceChars?_map_piece, Option.map_some, String.ofList_toList]

theorem Scans.quoted (s : String) (h : Scans rest tokens) :
    Scans (quoted s ++ rest) (.string (s.toList.map piece) :: tokens) := by
  have hquoted : Json.quoted s ++ rest = '"' :: (s.toList.flatMap escaped ++ '"' :: rest) := by
    rw [Json.quoted, List.cons_append, List.append_assoc, List.singleton_append]
  rw [hquoted]
  refine Scans.cons (by decide) ?_ h
  rw [Token.next?, readPieces?_quoted]
  rfl

/-! ## 4. Numbers -/

/-- A number that ends before this text does not go on with it. -/
def EndsNumber : List Char → Prop
  | [] => True
  | c :: _ => c.isDigit = false ∧ c ∉ ['.', 'e', 'E']

/-- An integer as it is written. -/
def writtenInt (i : Int) : WrittenNumber := ⟨decide (i < 0), digits i.natAbs, none, none⟩

theorem spanDigits_digits (n : Nat) (hrest : EndsNumber rest) : spanDigits (digits n ++ rest) = (digits n, rest) := by
  refine spanDigits_append (fun _ hc => isDigit_of_mem_digits hc) ?_
  intro c hc
  cases rest with
  | nil => cases hc
  | cons d rest =>
    obtain rfl := Option.mem_some.mp hc
    exact hrest.1

/-- A number other than zero does not start with a zero. -/
theorem eq_zero_of_head?_digits {n : Nat} (h : (digits n).head? = some '0') : n = 0 := by
  induction n using Nat.strongRecOn with
  | _ n ih =>
    unfold digits at h
    split at h
    · next hn =>
      have hzero : digitValue? (digitChar n) = digitValue? '0' := congrArg digitValue? (Option.some.inj h)
      rw [digitValue?_digitChar hn] at hzero
      exact Option.some.inj hzero
    · next hn =>
      obtain ⟨c, ds, hcons⟩ := List.exists_cons_of_ne_nil (digits_ne_nil (n / 10))
      rw [hcons] at h
      have := ih (n / 10) (by omega) (by rw [hcons]; exact h)
      omega

theorem readNumber?_digits (negative : Bool) (n : Nat) (hrest : EndsNumber rest) :
    readNumber? negative (digits n ++ rest) = some (⟨negative, digits n, none, none⟩, rest) := by
  -- what follows does not go on with a point or a power of ten
  have hfraction : readFraction? rest = some (none, rest) := by
    unfold readFraction?
    split
    · exact absurd (List.mem_cons_self) hrest.2
    · rfl
  have hpower : readPower? rest = some (none, rest) := by
    unfold readPower?
    split
    · rfl
    · next c after =>
      rw [if_neg]
      rintro (rfl | rfl)
      · exact hrest.2 (by decide)
      · exact hrest.2 (by decide)
  -- only zero itself has a zero in front
  have hzero : ¬ ((digits n).isEmpty || ((digits n).head? == some '0' && decide (1 < (digits n).length))) = true := by
    rw [Bool.or_eq_true, Bool.and_eq_true, decide_eq_true_eq, beq_iff_eq, List.isEmpty_iff]
    rintro (hnil | ⟨hhead, hlong⟩)
    · exact digits_ne_nil n hnil
    · rw [eq_zero_of_head?_digits hhead, digits, if_pos (by decide)] at hlong
      exact absurd hlong (by decide)
  rw [readNumber?, spanDigits_digits n hrest]
  simp only
  rw [if_neg hzero, hfraction]
  refine Option.bind_eq_some_iff.mpr ⟨(none, rest), rfl, ?_⟩
  exact Option.bind_eq_some_iff.mpr ⟨(none, rest), hpower, rfl⟩

theorem next?_of_digit {c : Char} (hc : c.isDigit = true) : Token.next? (c :: cs) =
    (readNumber? false (c :: cs)).map fun (n, rest) => (.number n, rest) := by
  unfold Token.next?
  split
  case h_12 => rfl
  all_goals
    rename_i heq
    obtain ⟨rfl, -⟩ := List.cons.inj heq
    exact absurd hc (by decide)

theorem not_isGap_of_digit {c : Char} (hc : c.isDigit = true) : isGap c = false := by
  have hne {d : Char} (hd : d.isDigit = false) : (c == d) = false := by
    rw [beq_eq_false_iff_ne]
    rintro rfl
    rw [hc] at hd
    cases hd
  rw [isGap, hne (by decide), hne (by decide), hne (by decide), hne (by decide)]
  rfl

theorem Scans.intText (i : Int) (hrest : EndsNumber rest) (h : Scans rest tokens) :
    Scans (intText i ++ rest) (.number (writtenInt i) :: tokens) := by
  unfold Number.intText writtenInt
  split
  · next hneg =>
    rw [decide_eq_true hneg]
    refine Scans.cons (by decide) ?_ h
    rw [List.append_eq, Token.next?, readNumber?_digits true i.natAbs hrest]
    rfl
  · next hneg =>
    rw [decide_eq_false hneg]
    cases hdigits : digits i.natAbs with
    | nil => exact absurd hdigits (digits_ne_nil _)
    | cons c ds =>
      have hc : c.isDigit = true := isDigit_of_mem_digits (n := i.natAbs) (hdigits ▸ List.mem_cons_self)
      refine Scans.cons (not_isGap_of_digit hc) ?_ h
      rw [next?_of_digit hc]
      have hread := readNumber?_digits false i.natAbs hrest
      rw [hdigits] at hread
      exact congrArg _ hread

theorem le_of_valueFrom? {start n : Nat} (h : valueFrom? start cs = some n) : start ≤ n := by
  induction cs generalizing start with
  | nil => exact (Option.some.inj h).le
  | cons c cs ih =>
    obtain ⟨d, -, h⟩ := Option.bind_eq_some_iff.mp h
    have := ih h
    omega

/-- As long as the number fits, all its digits count. -/
theorem accumulate_eq {start n : Nat} (hn : n < 2 ^ 64) (h : valueFrom? start cs = some n) :
    accumulate start cs = (n, []) := by
  induction cs generalizing start with
  | nil => exact congrArg (·, []) (Option.some.inj h)
  | cons c cs ih =>
    obtain ⟨d, hd, h⟩ := Option.bind_eq_some_iff.mp h
    have hle := le_of_valueFrom? h
    rw [accumulate, hd]
    simp only [Option.getD_some]
    rw [if_pos (by omega)]
    exact ih h

/-- An integer that fits a machine word means itself. -/
theorem value?_writtenInt {i : Int} (hi : i.natAbs < 2 ^ 63) : (writtenInt i).value? = some (.integer i) := by
  rw [WrittenNumber.value?, writtenInt]
  dsimp only
  rw [accumulate_eq (by omega) (valueFrom?_digits i.natAbs)]
  dsimp only
  generalize hn : i.natAbs = n at *
  by_cases hneg : i < 0
  · have hsign : -(n : Int) = i := by omega
    have hbound : 0 < n ∧ n ≤ 2 ^ 63 := by omega
    simp [hneg, hbound, hsign]
  · have hsign : (n : Int) = i := by omega
    simp [hneg, hsign]

end Stencil.Json
