import Stencil.Calendar.Pattern
import Stencil.Proofs.Text.Occurrence

/-!
Dates by a pattern.

A pattern is expanded by putting a value in the place of each placeholder, which is the name of a token between two
percent signs. The scan pairs a sign with the next one. Where that makes no placeholder, only the first sign is copied,
because the second one may open the next placeholder. No name has a percent sign in it, so whether a placeholder begins
at a sign can be told from the next sign alone, and none is passed over.

What expanding a pattern comes to is said without the scan: the first placeholder is replaced, what stands before it is
copied, and so on behind it. There is one way to do that, and no other text comes of it.

One token asks for what not every date has. Where the local time lies outside the calendar there is no exchange format
of it, and all other tokens have their values.
-/

namespace Stencil.Calendar

open Stencil.Text

/-! ## 1. Placeholders -/

namespace PatternToken

/-- The name of a token. -/
def name : PatternToken → List Char
  | .year => ['Y']
  | .month => ['M']
  | .day => ['D']
  | .hour => ['H']
  | .minute => ['M', 'I', 'N']
  | .second => ['S', 'E', 'C']
  | .millis => ['M', 'S']
  | .exchange => ['I', 'S', 'O']
  | .date => ['D', 'A', 'T', 'E']
  | .time => ['T', 'I', 'M', 'E']
  | .dateTime => ['D', 'A', 'T', 'E', 'T', 'I', 'M', 'E']

/-- A token as it stands in a pattern. -/
def placeholder (token : PatternToken) : List Char := '%' :: (token.name ++ ['%'])

variable {token : PatternToken} {cs : List Char}

theorem ofName?_name (token : PatternToken) : ofName? token.name = some token := by
  cases token <;> rfl

theorem eq_name_of_ofName? (h : ofName? cs = some token) : cs = token.name := by
  have hcs {s : String} (hs : String.ofList cs = s) : cs = s.toList := by rw [← hs, String.toList_ofList]
  unfold ofName? at h
  split at h
  all_goals
    cases h
  all_goals
    next hs => exact hcs hs

theorem sign_not_mem_name (token : PatternToken) : '%' ∉ token.name := by
  cases token <;> decide

/-- The sign that ends a placeholder is the next one behind the sign that begins it. -/
theorem cutAt?_placeholder (token : PatternToken) (rest : List Char) :
    cutAt? ['%'] (token.name ++ ['%'] ++ rest) = some (token.name, rest) := by
  refine cutAt?_append (List.cons_ne_nil _ _) ?_ rest
  rw [List.dropLast_singleton, List.append_nil]
  exact fun hsign => token.sign_not_mem_name (hsign.subset List.mem_cons_self)

end PatternToken

/-! ## 2. The scan -/

variable {c : Char} {cs rest front behind : List Char} {t : Instant} {offset : Int} {tokens : List PatternToken}
  {out : List Char}

theorem patternPieces_placeholder (token : PatternToken) (rest : List Char) :
    patternPieces (token.placeholder ++ rest) = .token token :: patternPieces rest := by
  rw [PatternToken.placeholder, List.cons_append, patternPieces, if_pos rfl]
  split
  · next hnone =>
    rw [token.cutAt?_placeholder] at hnone
    cases hnone
  · next hcut =>
    rw [token.cutAt?_placeholder] at hcut
    cases hcut
    rw [PatternToken.ofName?_name]

/-- A character with which no placeholder begins is copied, whether it is a percent sign or not. -/
theorem patternPieces_char (h : ∀ token : PatternToken, ¬ token.placeholder <+: c :: rest) :
    patternPieces (c :: rest) = .char c :: patternPieces rest := by
  rw [patternPieces]
  split
  · next hc =>
    split
    · rfl
    · next name after hcut =>
      split
      · next token htoken =>
        refine absurd ⟨after, ?_⟩ (h token)
        rw [PatternToken.placeholder, ← PatternToken.eq_name_of_ofName? htoken, hc, eq_append_of_cutAt? hcut,
          List.cons_append]
      · rfl
  · rfl

/-! ## 3. Expanding a pattern -/

/-- No placeholder begins in the first of two texts that stand one behind the other. -/
def Free (front behind : List Char) : Prop :=
  ∀ token : PatternToken, ∀ back, back ≠ [] → back <:+ front → ¬ token.placeholder <+: back ++ behind

/-- What a pattern is expanded to, and the tokens that are replaced on the way: the first placeholder gives way to its
value, what stands before it is copied, and so on behind it. Where there is no placeholder any more all is copied. -/
inductive Expands (t : Instant) (offset : Int) : List Char → List PatternToken → List Char → Prop
  | last {copied : List Char} (hfree : Free copied []) : Expands t offset copied [] copied
  | next {copied rest out : List Char} {tokens : List PatternToken} (token : PatternToken)
      (hfree : Free copied (token.placeholder ++ rest)) (hrest : Expands t offset rest tokens out) :
      Expands t offset (copied ++ (token.placeholder ++ rest)) (token :: tokens)
        (copied ++ (token.text t offset ++ out))

theorem free_nil (behind : List Char) : Free [] behind :=
  fun _ _ hsome hsuffix => absurd (List.suffix_nil.mp hsuffix) hsome

theorem free_cons_iff : Free (c :: front) behind ↔
    (∀ token : PatternToken, ¬ token.placeholder <+: c :: (front ++ behind)) ∧ Free front behind := by
  constructor
  · intro h
    refine ⟨fun token => h token (c :: front) (List.cons_ne_nil _ _) List.suffix_rfl, ?_⟩
    exact fun token back hsome hsuffix => h token back hsome (hsuffix.trans (List.suffix_cons c front))
  · rintro ⟨hstart, hfree⟩ token back hsome hsuffix
    rcases List.suffix_cons_iff.mp hsuffix with rfl | hsuffix
    · exact hstart token
    · exact hfree token back hsome hsuffix

/-- The scan copies a text in which no placeholder begins. -/
theorem patternPieces_append (h : Free front behind) :
    patternPieces (front ++ behind) = front.map .char ++ patternPieces behind := by
  induction front with
  | nil => rfl
  | cons c front ih =>
    obtain ⟨hstart, hfree⟩ := free_cons_iff.mp h
    rw [List.cons_append, patternPieces_char hstart, ih hfree, List.map_cons, List.cons_append]

/-- The token of a piece. -/
def PatternPiece.token? : PatternPiece → Option PatternToken
  | .char _ => none
  | .token asked => some asked

theorem filterMap_token?_map_char (cs : List Char) :
    (cs.map PatternPiece.char).filterMap PatternPiece.token? = [] := by
  rw [List.filterMap_map]
  exact List.filterMap_eq_nil_iff.mpr fun _ _ => rfl

theorem flatMap_text_map_char (cs : List Char) : (cs.map PatternPiece.char).flatMap (·.text t offset) = cs := by
  rw [List.flatMap_map]
  exact List.flatMap_singleton' cs

/-- There is no other way to expand a pattern than that of the scan. -/
theorem Expands.eq (h : Expands t offset cs tokens out) :
    tokens = (patternPieces cs).filterMap PatternPiece.token? ∧
      out = (patternPieces cs).flatMap (·.text t offset) := by
  induction h with
  | @last copied hfree =>
    have hpieces := patternPieces_append hfree
    rw [List.append_nil] at hpieces
    have hnil : patternPieces [] = [] := by rw [patternPieces]
    rw [hpieces, hnil, List.append_nil, filterMap_token?_map_char, flatMap_text_map_char]
    exact ⟨rfl, rfl⟩
  | next token hfree hrest ih =>
    rw [patternPieces_append hfree, patternPieces_placeholder, List.filterMap_append, List.flatMap_append,
      filterMap_token?_map_char, flatMap_text_map_char, List.flatMap_cons, ← ih.2, ih.1]
    exact ⟨rfl, rfl⟩

theorem Expands.cons (hstart : ∀ token : PatternToken, ¬ token.placeholder <+: c :: cs)
    (h : Expands t offset cs tokens out) : Expands t offset (c :: cs) tokens (c :: out) := by
  cases h with
  | last hfree => exact .last (free_cons_iff.mpr ⟨by rwa [List.append_nil], hfree⟩)
  | next token hfree hrest => exact .next token (free_cons_iff.mpr ⟨hstart, hfree⟩) hrest

/-- The scan is a way to expand a pattern. -/
theorem exists_expands (t : Instant) (offset : Int) (cs : List Char) : ∃ tokens out, Expands t offset cs tokens out := by
  match cs with
  | [] => exact ⟨[], [], .last (free_nil [])⟩
  | c :: rest =>
    by_cases hstart : ∃ token : PatternToken, token.placeholder <+: c :: rest
    · obtain ⟨token, after, hafter⟩ := hstart
      have hshorter : after.length < (c :: rest).length := by
        rw [← hafter, List.length_append, PatternToken.placeholder, List.length_cons]
        omega
      obtain ⟨tokens, out, hout⟩ := exists_expands t offset after
      rw [← hafter]
      exact ⟨_, _, .next token (free_nil _) hout⟩
    · obtain ⟨tokens, out, hout⟩ := exists_expands t offset rest
      exact ⟨_, _, hout.cons (not_exists.mp hstart)⟩
termination_by cs.length
decreasing_by
  · exact hshorter
  · exact Nat.lt_succ_self _

/-- What a pattern comes to is what it is expanded to. -/
theorem Expands.eq_formatInstant {pattern : String} (h : Expands t offset pattern.toList tokens out) :
    out = (formatInstant pattern t offset).toList := by
  rw [formatInstant, String.toList_ofList, ← h.eq.2]

theorem token_mem_iff {token : PatternToken} {pieces : List PatternPiece} :
    token ∈ pieces.filterMap PatternPiece.token? ↔ .token token ∈ pieces := by
  rw [List.mem_filterMap]
  constructor
  · rintro ⟨piece, hpiece, htoken⟩
    cases piece with
    | char c => cases htoken
    | token asked =>
      cases htoken
      exact hpiece
  · exact fun hpiece => ⟨_, hpiece, rfl⟩

/-- A pattern goes too far just when the exchange format is among what is asked for, and the local time lies outside
the calendar. -/
theorem Expands.overruns_iff {pattern : String} (h : Expands t offset pattern.toList tokens out) :
    overruns pattern t offset = true ↔ (t.shift offset).inRange = false ∧ .exchange ∈ tokens := by
  rw [overruns, Bool.and_eq_true, Bool.not_eq_true', List.contains_iff_mem, h.eq.1, token_mem_iff]

/-- **Patterns.** There is one way to replace the first placeholder of a pattern by its value, copy what stands before
it, and go on like that behind it, and it is what the pattern comes to. All that can go wrong is that the exchange
format is asked for of a local time that lies outside the calendar. -/
theorem format_expands (pattern : String) (t : Instant) (offset : Int) :
    ∃ tokens : List PatternToken,
      (∀ others out, Expands t offset pattern.toList others out ↔
        others = tokens ∧ out = (formatInstant pattern t offset).toList) ∧
      (overruns pattern t offset = true ↔ (t.shift offset).inRange = false ∧ .exchange ∈ tokens) := by
  obtain ⟨tokens, out, hout⟩ := exists_expands t offset pattern.toList
  refine ⟨tokens, fun others other => ⟨fun hother => ?_, ?_⟩, hout.overruns_iff⟩
  · exact ⟨hother.eq.1.trans hout.eq.1.symm, hother.eq_formatInstant⟩
  · rintro ⟨rfl, rfl⟩
    rwa [← hout.eq_formatInstant]

end Stencil.Calendar
