import Stencil.Proofs.Render.Logic
import Stencil.Proofs.Text.Occurrence
import Stencil.Proofs.Value.Paths

/-!
Bare words.

A word without quotes is looked up by two procedures, one for expressions of their own and one for arguments. The first
takes every word for a dotted path, and says when it leads nowhere. The second has text to fall back on, for names of
files and of components, and so it asks first what the word looks like: a slash makes it text, a dot makes it a path if
there is anything under its first segment, and without either it is one name.

Both come to the same wherever the first one finds something, except in words with a slash. The reason is that a path
without dots is one name, and that a path leads nowhere unless there is something under its first segment.
-/

namespace Stencil

/-! ## 1. Dotted words -/

/-- The first piece is what stands before the first place to split at. -/
theorem Text.exists_splitOn_eq_cons (p : Char → Bool) (cs : List Char) :
    ∃ pieces, splitOn p cs = cs.takeWhile (! p ·) :: pieces := by
  induction cs with
  | nil => exact ⟨[], rfl⟩
  | cons c cs ih =>
    obtain ⟨pieces, hpieces⟩ := ih
    rw [splitOn, hpieces, List.takeWhile_cons]
    cases p c with
    | true => exact ⟨_, rfl⟩
    | false => exact ⟨pieces, rfl⟩

namespace Scope

/-- The part of a word before its first dot; all of it if it has none. -/
def firstSegment (word : String) : String := .ofList (word.toList.takeWhile (· != '.'))

theorem exists_segments_eq_cons (word : String) : ∃ rest, segments word = firstSegment word :: rest := by
  obtain ⟨pieces, hpieces⟩ := Text.exists_splitOn_eq_cons (· == '.') word.toList
  exact ⟨pieces.map String.ofList, by rw [segments, hpieces]; rfl⟩

variable {scope : Scope} {word : String}

/-- Without dots a path is one name. -/
theorem lookup?_of_undotted (h : '.' ∉ word.toList) : scope.lookup? word = scope.get? word := by
  rw [lookup?, segments_eq_singleton h, getPath?]
  cases scope.get? word <;> rfl

/-- A path leads nowhere if there is nothing under its first segment. -/
theorem lookup?_of_hidden (h : scope.has (firstSegment word) = false) : scope.lookup? word = none := by
  obtain ⟨rest, hrest⟩ := exists_segments_eq_cons word
  have hnone : scope.get? (firstSegment word) = none := by simpa [has] using h
  rw [lookup?, hrest, getPath?, hnone, Option.bind_none]

/-! ## 2. The meaning of a word -/

/-- A word that means the same everywhere: a keyword or a plain decimal number. -/
def IsConstant (word : String) : Prop :=
  word ∈ ["true", "false", "null", "undefined"] ∨ Number.looksNumeric word.toList = true

/-- A word with a slash of either kind. -/
def HasSlash (word : String) : Prop := '/' ∈ word.toList ∨ '\\' ∈ word.toList

theorem keyword?_eq_none : keyword? word = none ↔ word ∉ ["true", "false", "null", "undefined"] := by
  simp only [keyword?, List.mem_cons, List.not_mem_nil, or_false, not_or]
  by_cases htrue : word = "true"
  · simp [htrue]
  by_cases hfalse : word = "false"
  · simp [hfalse]
  simp [htrue, hfalse]

theorem constant?_eq_none : constant? word = none ↔ ¬ IsConstant word := by
  rw [IsConstant, not_or, ← keyword?_eq_none, constant?]
  cases keyword? word with
  | some v => simp
  | none => simp

theorem any_slash : (word.toList.any fun c => c == '/' || c == '\\') = true ↔ HasSlash word := by
  simp only [List.any_eq_true, Bool.or_eq_true, beq_iff_eq, HasSlash]
  constructor
  · rintro ⟨c, hc, rfl | rfl⟩
    · exact .inl hc
    · exact .inr hc
  · rintro (h | h)
    · exact ⟨_, h, .inl rfl⟩
    · exact ⟨_, h, .inr rfl⟩

/-- What a word is as an argument if it leads nowhere: nothing if it leads on from something, and text otherwise. -/
def fallback (scope : Scope) (word : String) : Value :=
  if '.' ∈ word.toList ∧ scope.has (firstSegment word) = true then .null else .string word

theorem coerce_of_constant {v : Value} (h : constant? word = some v) : scope.coerce word = v := by
  rw [coerce, h]

theorem resolve?_of_constant {v : Value} (h : constant? word = some v) : scope.resolve? word = some v := by
  rw [resolve?, h]

/-- A word with a slash is text. -/
theorem coerce_of_slash (hconstant : ¬ IsConstant word) (hslash : HasSlash word) : scope.coerce word = .string word := by
  rw [coerce, constant?_eq_none.mpr hconstant]
  exact if_pos (any_slash.mpr hslash)

/-- Any other word is what it leads to. -/
theorem coerce_of_no_slash (hconstant : ¬ IsConstant word) (hslash : ¬ HasSlash word) :
    scope.coerce word = (scope.lookup? word).getD (scope.fallback word) := by
  have hbranch : scope.coerce word =
      if word.toList.any (· == '.') = true then
        if scope.has (firstSegment word) = true then (scope.lookup? word).getD .null else .string word
      else (scope.get? word).getD (.string word) := by
    obtain ⟨rest, hrest⟩ := exists_segments_eq_cons word
    rw [coerce, constant?_eq_none.mpr hconstant, hrest]
    exact if_neg (any_slash.not.mpr hslash)
  have hdot : word.toList.any (· == '.') = true ↔ '.' ∈ word.toList := by simp
  rw [hbranch, fallback]
  by_cases hdotted : '.' ∈ word.toList
  · rw [if_pos (hdot.mpr hdotted)]
    cases hhas : scope.has (firstSegment word) with
    | true => simp [hdotted]
    | false => simp [lookup?_of_hidden hhas]
  · rw [if_neg (hdot.not.mpr hdotted), if_neg fun h => hdotted h.1, lookup?_of_undotted hdotted]

/-- Both procedures find the same, except in words with a slash. -/
theorem coerce_eq_resolve? (h : IsConstant word ∨ ¬ HasSlash word) :
    scope.coerce word = (scope.resolve? word).getD (scope.fallback word) := by
  cases hconstant : constant? word with
  | some v => rw [coerce_of_constant hconstant, resolve?_of_constant hconstant, Option.getD_some]
  | none =>
    have hvariable : ¬ IsConstant word := constant?_eq_none.mp hconstant
    rw [coerce_of_no_slash hvariable (h.resolve_left hvariable), resolve?, hconstant]

end Scope

/-! ## 3. Words that nothing is called by -/

namespace Scope

variable {name : String}

theorem firstSegment_of_undotted (h : '.' ∉ name.toList) : firstSegment name = name := by
  have hall : name.toList.takeWhile (· != '.') = name.toList := by
    rw [← List.append_nil name.toList, List.takeWhile_append_of_pos, List.takeWhile_nil]
    intro c hc
    exact bne_iff_ne.mpr fun hdot => h (hdot ▸ hc)
  rw [firstSegment, hall, String.ofList_toList]

theorem firstSegment_of_dotted {front back : List Char} (hname : name.toList = front ++ '.' :: back)
    (hfront : '.' ∉ front) : firstSegment name = .ofList front := by
  have hall : ∀ c ∈ front, (c != '.') = true := fun c hc => bne_iff_ne.mpr fun hdot => hfront (hdot ▸ hc)
  rw [firstSegment, hname, List.takeWhile_append_of_pos hall, List.takeWhile_cons, if_neg (by decide),
    List.append_nil]

end Scope

namespace Expand

open Scope

/-- The first segments of all names that are not for the application: those of the forms, of components, and of the
built-in helpers. -/
def takenSegments : List String :=
  ["let", "component", "components", "math", "string", "array", "date", "json", "file"] ++ Helper.Logic.names

variable {m : Type → Type} [Monad m] {env : Environment} {inner : Option (Layer m)} {name : String} {args : Args}

theorem componentName?_eq_none (h : firstSegment name ∉ takenSegments) : componentName? name = none := by
  rw [componentName?]
  split
  · next c cs hstrip =>
    have hname : name.toList = "components".toList ++ '.' :: c :: cs :=
      (Text.eq_append_of_stripPrefix? hstrip).trans rfl
    have hfirst : firstSegment name = "components" := firstSegment_of_dotted hname (by decide)
    exact absurd (hfirst ▸ by decide) h
  · rfl

theorem named_eq_helper (h : firstSegment name ∉ takenSegments) (hasArguments : Bool) :
    (named env inner name hasArguments args : Expand m Outcome) = helper env name hasArguments args := by
  unfold named
  split
  · exact absurd (by decide) h
  · exact absurd (by decide) h
  · exact absurd (by decide) h
  · exact absurd (by decide) h
  · rw [componentName?_eq_none h]

end Expand

namespace Helper

open Scope Expand

variable {args : Args}

/-- The name space of a built-in helper is the first segment of its name. -/
theorem firstSegment_of_cutAt? {name : String} {space method : List Char}
    (h : Stencil.Text.cutAt? ['.'] name.toList = some (space, method)) : firstSegment name = .ofList space := by
  have hname : name.toList = space ++ ['.'] ++ method := Stencil.Text.eq_append_of_cutAt? h
  rw [List.append_assoc, List.singleton_append] at hname
  have hspace := Stencil.Text.not_infix_of_cutAt? (List.cons_ne_nil '.' []) h
  rw [List.singleton_infix_iff] at hspace
  exact firstSegment_of_dotted hname hspace

theorem call?_eq_none (h : firstSegment args.name ∉ takenSegments) (setting : Setting) : call? args setting = none := by
  rw [call?]
  split
  · next hcut =>
    have hundotted : '.' ∉ args.name.toList := by
      rw [← List.singleton_infix_iff]
      exact Stencil.Text.infix_of_cutAt?_eq_none hcut
    have hlogic : args.name ∉ Logic.names := by
      rw [firstSegment_of_undotted hundotted] at h
      exact fun hmem => h (List.mem_append_right _ hmem)
    rw [Logic.truth?_eq_none hlogic, Option.map_none]
  · next space method hcut =>
    rw [firstSegment_of_cutAt? hcut] at h
    split
    case h_7 => rfl
    all_goals
      next hspace => exact absurd (hspace ▸ by decide) h

theorem overruns_eq_false (h : firstSegment args.name ∉ takenSegments) (setting : Setting) :
    overruns args setting = false := by
  rw [overruns]
  split
  · next space method hcut =>
    rw [firstSegment_of_cutAt? hcut] at h
    have hdate : String.ofList space ≠ "date" := fun hspace => absurd (hspace ▸ by decide) h
    rw [decide_eq_false hdate, Bool.false_and]
  · rfl

end Helper

/-! ## 4. Words in templates -/

namespace Expand

open Scope

variable {env : Environment} {inner : Option (Layer Id)} {word : String}

theorem exec_argument_bare (word : String) (state : RenderState) :
    Render.exec (argument env inner (.bare word)).run state = (.ok (state.scope.coerce word), state) :=
  rfl

/-- A word by itself that nothing is called by is what it leads to. -/
theorem exec_call_bare (hword : firstSegment word ∉ takenSegments) (hregular : env.registry.regular? word = none)
    (state : RenderState) :
    Render.exec (call env inner ⟨.bare word, [], []⟩).run state =
      (.ok (.final ((state.scope.resolve? word).getD .null)), state) := by
  have hcall : (call env inner ⟨.bare word, [], []⟩ : Expand Id Outcome) =
      helper env word false ⟨word, [], []⟩ := by
    rw [← named_eq_helper hword]
    rfl
  have hhelper : (helper env word false ⟨word, [], []⟩ : Expand Id Outcome) = do
      let setting ← Render.setting (m := Id) env
      return .final ((setting.scope.resolve? word).getD .null) := by
    have hoverruns : ∀ setting, Helper.overruns ⟨word, [], []⟩ setting = false := Helper.overruns_eq_false hword
    have hnone : ∀ setting, Helper.call? ⟨word, [], []⟩ setting = none := Helper.call?_eq_none hword
    unfold helper
    simp only [hregular, hoverruns, hnone, lift_bind_const exec_abandonIf_false]
    rfl
  rw [hcall, hhelper]
  rfl

end Expand

namespace Render

open Scope Expand

/-- **A word denotes the same by itself and as an argument.** As an argument a word is what it leads to by itself, if
it has no slash or is a keyword or a number. If it leads nowhere it is nothing or text. Any other word with a slash is
text. So in a template a word without slashes that leads to a value, and that nothing is called by, comes to that value
in both places, and changes nothing. -/
theorem bare_words_agree (word : String) :
    (∀ scope : Scope, IsConstant word ∨ ¬ HasSlash word →
        (∀ v, scope.resolve? word = some v → scope.coerce word = v) ∧
        (scope.resolve? word = none → '.' ∈ word.toList → (scope.get? (firstSegment word)).isSome = true →
          scope.coerce word = .null) ∧
        (scope.resolve? word = none → ¬ ('.' ∈ word.toList ∧ (scope.get? (firstSegment word)).isSome = true) →
          scope.coerce word = .string word)) ∧
      (∀ scope : Scope, HasSlash word → ¬ IsConstant word → scope.coerce word = .string word) ∧
      ∀ env inner state v, firstSegment word ∉ takenSegments → env.registry.regular? word = none →
        ¬ HasSlash word → state.scope.resolve? word = some v →
        exec (call env inner ⟨.bare word, [], []⟩).run state = (.ok (.final v), state) ∧
          exec (argument env inner (.bare word)).run state = (.ok v, state) := by
  refine ⟨fun scope h => ?_, fun scope hslash hconstant => coerce_of_slash hconstant hslash, ?_⟩
  · rw [coerce_eq_resolve? h]
    refine ⟨fun v hv => by rw [hv, Option.getD_some], fun hnone hdotted hvisible => ?_, fun hnone hhidden => ?_⟩
    · rw [hnone, Option.getD_none, fallback]
      exact if_pos ⟨hdotted, hvisible⟩
    · rw [hnone, Option.getD_none, fallback]
      exact if_neg hhidden
  · intro env inner state v hword hregular hslash hv
    rw [exec_call_bare hword hregular, exec_argument_bare, coerce_eq_resolve? (.inr hslash), hv]
    exact ⟨rfl, rfl⟩

/-- A name of a user, and one that the user has not. -/
theorem bare_words_agree_user :
    let env : Environment := ⟨[], 1, true, .utc, ⟨0, 0⟩⟩
    let scope : Scope := .ofFields [("user", .map [("name", .string "Ada")])]
    let state : RenderState := ⟨scope, [], [], #[], .memory (.empty 0), [], false⟩
    exec (call env none ⟨.bare "user.name", [], []⟩).run state = (.ok (.final (.string "Ada")), state) ∧
      exec (argument env none (.bare "user.name")).run state = (.ok (.string "Ada"), state) ∧
      scope.coerce "user.age" = .null ∧ scope.coerce "icons.user" = .string "icons.user" := by
  intro env scope state
  have hslash : ¬ HasSlash "user.name" ∧ ¬ HasSlash "user.age" ∧ ¬ HasSlash "icons.user" := by
    simp only [HasSlash]
    decide +kernel
  obtain ⟨hname, hage, hicon⟩ := hslash
  obtain ⟨hcall, hargument⟩ := (bare_words_agree "user.name").2.2 env none state (.string "Ada") (by decide +kernel)
    rfl hname rfl
  refine ⟨hcall, hargument, ?_, ?_⟩
  · exact ((bare_words_agree "user.age").1 scope (.inr hage)).2.1 rfl (by decide +kernel) rfl
  · exact ((bare_words_agree "icons.user").1 scope (.inr hicon)).2.2 rfl fun h => Bool.false_ne_true h.2

end Render

end Stencil
