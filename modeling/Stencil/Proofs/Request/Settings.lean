import Mathlib.Data.List.Infix
import Stencil.Proofs.Text.Occurrence
import Stencil.Request

/-!
Settings that clients ask for.

A request may ask for a language, a theme and a time zone, in any words. What templates see of them is nevertheless of
a known kind: either it is the configured default, or it is made of a few characters of ASCII, or it is the name of a
time zone. Most of this can be read off the checks. The language alone needs an argument, because it is looked up in two
steps, and what is looked up in the second one, the part of a tag in front of its first hyphen, is never checked itself.
It is fit nevertheless, being a part of what was, and it is taken only with the messages that there are for it.
-/

namespace Stencil.Request

open Text

/-! ## 1. Fit texts -/

/-- A letter of ASCII or a digit. -/
def IsPlain (c : Char) : Prop := ('a' ≤ c ∧ c ≤ 'z') ∨ ('A' ≤ c ∧ c ≤ 'Z') ∨ ('0' ≤ c ∧ c ≤ '9')

/-- A text of one to `most` characters, all of them of some kind. -/
structure Fit (Allowed : Char → Prop) (most : Nat) (text : String) : Prop where
  some : text ≠ ""
  short : text.toList.length ≤ most
  allowed : ∀ c ∈ text.toList, Allowed c

/-- What a language tag is made of. -/
def InLanguage (c : Char) : Prop := IsPlain c ∨ c = '-'

/-- What the name of a theme is made of. -/
def InTheme (c : Char) : Prop := IsPlain c ∨ c = '_' ∨ c = '-'

theorem isAlphanum_iff (c : Char) : c.isAlphanum = true ↔ IsPlain c := by
  change ((decide ('A' ≤ c ∧ c ≤ 'Z') || (decide ('a' ≤ c) && decide (c ≤ 'z'))) ||
    (decide ('0' ≤ c) && decide (c ≤ '9'))) = true ↔ _
  simp only [IsPlain, Bool.or_eq_true, Bool.and_eq_true, decide_eq_true_eq]
  rw [← or_assoc, or_comm (a := 'A' ≤ c ∧ c ≤ 'Z')]

theorem isOf_iff {allowed : Char → Bool} {Allowed : Char → Prop} (h : ∀ c, allowed c = true ↔ Allowed c) (most : Nat)
    (text : String) : isOf allowed most text = true ↔ Fit Allowed most text := by
  have hsome : text.toList.isEmpty = false ↔ text ≠ "" := by
    rw [List.isEmpty_eq_false_iff, ne_eq, String.toList_eq_nil_iff]
  simp only [isOf, Bool.and_eq_true, Bool.not_eq_true', decide_eq_true_eq, List.all_eq_true, hsome, h]
  exact ⟨fun ⟨⟨h₁, h₂⟩, h₃⟩ => ⟨h₁, h₂, h₃⟩, fun ⟨h₁, h₂, h₃⟩ => ⟨⟨h₁, h₂⟩, h₃⟩⟩

theorem isLanguage_iff (text : String) : isLanguage text = true ↔ Fit InLanguage 16 text :=
  isOf_iff (fun c => by simp [InLanguage, isAlphanum_iff]) 16 text

theorem isTheme_iff (text : String) : isTheme text = true ↔ Fit InTheme 64 text :=
  isOf_iff (fun c => by simp [InTheme, isAlphanum_iff, or_assoc]) 64 text

/-! ## 2. Languages to look for -/

/-- The languages to look for, best first. -/
inductive Wanted (request : Request) (default : String) : List String → Prop
  /-- Nothing fit is asked for. -/
  | default (unfit : ∀ tag, request.language = some tag → ¬ Fit InLanguage 16 tag) : Wanted request default [default]
  /-- A tag without a hyphen. -/
  | whole {tag} (asked : request.language = some tag) (fit : Fit InLanguage 16 tag) (plain : '-' ∉ tag.toList) :
      Wanted request default [tag, default]
  /-- A tag with a hyphen, and the part of it before the first one. -/
  | primary {tag primary rest} (asked : request.language = some tag) (fit : Fit InLanguage 16 tag)
      (split : tag = primary ++ "-" ++ rest) (first : '-' ∉ primary.toList) :
      Wanted request default [tag, primary, default]

variable {request : Request} {default tag language : String} {languages : List String} {locales : Locales}
  {messages : Value}

theorem wanted_candidates (request : Request) (default : String) :
    Wanted request default (request.candidates default) := by
  rw [candidates]
  cases hasked : request.language.filter isLanguage with
  | none =>
    refine .default fun tag htag hfit => ?_
    rw [htag, Option.filter_some, (isLanguage_iff tag).mpr hfit] at hasked
    cases hasked
  | some tag =>
    obtain ⟨hasked, hfit⟩ := Option.filter_eq_some_iff.mp hasked
    have hfit := (isLanguage_iff tag).mp hfit
    dsimp only
    rw [primaryTag?]
    cases hcut : cutAt? ['-'] tag.toList with
    | none =>
      have hplain := infix_of_cutAt?_eq_none hcut
      rw [List.singleton_infix_iff] at hplain
      exact .whole hasked hfit hplain
    | some cut =>
      obtain ⟨before, after⟩ := cut
      have hsplit : tag = String.ofList before ++ "-" ++ String.ofList after := by
        rw [← String.toList_inj]
        simp only [String.toList_append, String.toList_ofList]
        exact eq_append_of_cutAt? hcut
      have hfirst := not_infix_of_cutAt? (List.cons_ne_nil _ _) hcut
      rw [List.singleton_infix_iff, ← String.toList_ofList (l := before)] at hfirst
      exact .primary hasked hfit hsplit hfirst

/-- All that is looked for is the default, or it is made of characters of a fit tag. -/
theorem Wanted.allowed (h : Wanted request default languages) (hmem : language ∈ languages) :
    language = default ∨ ∀ c ∈ language.toList, InLanguage c := by
  cases h with
  | default unfit => exact .inl (List.mem_singleton.mp hmem)
  | whole asked fit plain =>
    rcases List.mem_cons.mp hmem with rfl | hmem
    · exact .inr fit.allowed
    · exact .inl (List.mem_singleton.mp hmem)
  | primary asked fit split first =>
    rcases List.mem_cons.mp hmem with rfl | hmem
    · exact .inr fit.allowed
    · rcases List.mem_cons.mp hmem with rfl | hmem
      -- the part is not checked, but the tag was
      · refine .inr fun c hc => fit.allowed c ?_
        rw [split, String.toList_append, String.toList_append]
        exact List.mem_append_left _ (List.mem_append_left _ hc)
      · exact .inl (List.mem_singleton.mp hmem)

/-! ## 3. The language and its messages -/

/-- The first of several languages that there are messages for, with these; or else the default without any. -/
inductive Chosen (default : String) (locales : Locales) (languages : List String) : String → Value → Prop
  | found {before language after messages} (split : languages = before ++ language :: after)
      (there : Fields.get? language locales = some messages)
      (first : ∀ other ∈ before, Fields.get? other locales = none) : Chosen default locales languages language messages
  | default (absent : ∀ other ∈ languages, Fields.get? other locales = none) :
      Chosen default locales languages default (.map [])

theorem chosen_chooseLanguage (request : Request) (locales : Locales) (default : String) :
    Chosen default locales (request.candidates default) (request.chooseLanguage locales default).1
      (request.chooseLanguage locales default).2 := by
  rw [chooseLanguage]
  cases hfound : (request.candidates default).findSome? fun tag =>
    (Fields.get? tag locales).map fun messages => (tag, messages) with
  | none => exact .default fun other hother => by simpa using List.findSome?_eq_none_iff.mp hfound other hother
  | some found =>
    obtain ⟨before, language, after, hsplit, hthere, hfirst⟩ := List.findSome?_eq_some_iff.mp hfound
    obtain ⟨messages, hmessages, rfl⟩ := Option.map_eq_some_iff.mp hthere
    exact .found hsplit hmessages fun other hother => by simpa using hfirst other hother

theorem Chosen.mem (h : Chosen default locales languages language messages) :
    language = default ∨ language ∈ languages := by
  cases h with
  | found split there first =>
    rw [split]
    exact .inr (List.mem_append_right _ List.mem_cons_self)
  | default absent => exact .inl rfl

/-! ## 4. What templates see -/

/-- What is asked for holds if it is fit, and otherwise the default does. -/
inductive Settled (asked : Option String) (IsFit : String → Prop) (default : String) : String → Prop
  | asked {text} (there : asked = some text) (fit : IsFit text) : Settled asked IsFit default text
  | default (unfit : ∀ text, asked = some text → ¬ IsFit text) : Settled asked IsFit default default

theorem settled_filter {IsFit : String → Prop} {fit : String → Bool} (h : ∀ text, fit text = true ↔ IsFit text)
    (asked : Option String) (default : String) : Settled asked IsFit default ((asked.filter fit).getD default) := by
  cases hfound : asked.filter fit with
  | none =>
    refine .default fun text htext hfit => ?_
    rw [htext, Option.filter_some, (h text).mpr hfit] at hfound
    cases hfound
  | some text =>
    obtain ⟨hasked, hfit⟩ := Option.filter_eq_some_iff.mp hfound
    exact .asked hasked ((h text).mp hfit)

theorem Settled.fit_or_default {asked : Option String} {IsFit : String → Prop} {result : String}
    (h : Settled asked IsFit default result) : result = default ∨ IsFit result := by
  cases h with
  | asked there fit => exact .inr fit
  | default unfit => exact .inl rfl

/-- The zone of a name has this name, or it is universal time. -/
theorem name_named (name : String) :
    (Calendar.Zone.named name).name = if Calendar.Zone.isName name = true then name else "UTC" := by
  rw [Calendar.Zone.named, Calendar.Zone.find?, Calendar.Zone.isName]
  generalize Calendar.Zone.recordNamed? name.toList = record?
  cases record? with
  | none => rfl
  | some record => rfl

/-- What is right about the settings that templates see. -/
structure Sanitised (request : Request) (snapshot : Snapshot) (locales : Locales) (language : String)
    (messages : Value) (theme timezone : String) : Prop where
  safeLanguage : language = snapshot.config.template.defaultLanguage ∨ ∀ c ∈ language.toList, InLanguage c
  safeTheme : theme = snapshot.config.template.defaultTheme ∨ Fit InTheme 64 theme
  knownTimezone : timezone = snapshot.serverZone.name ∨ Calendar.Zone.isName timezone = true
  /-- The language is the first to look for that there are messages for. -/
  chosen : ∃ languages, Wanted request snapshot.config.template.defaultLanguage languages ∧
    Chosen snapshot.config.template.defaultLanguage locales languages language messages
  /-- A fit theme is not passed over. -/
  askedTheme : Settled request.theme (Fit InTheme 64) snapshot.config.template.defaultTheme theme
  /-- A zone that there is is not passed over. -/
  askedTimezone : Settled request.timezone (Calendar.Zone.isName · = true) snapshot.serverZone.name timezone

/-- **Settings of clients are harmless, and language and messages belong together.** Whatever a request asks for, and
whatever is configured, templates see the configured language or one of letters, digits and hyphens, the configured theme
or one of up to sixty-four letters, digits, low lines and hyphens, and the zone of the server, which is the configured one
or universal time, or another zone that there is. The language is the first to look for that there are messages for, and
these are the messages that templates see, or else it is the configured one without any. -/
theorem build_settings (request : Request) (config : Config) (locales : Locales) :
    let snapshot := Snapshot.ofConfig config
    let seen := (request.build snapshot locales).getPath?
    (∃ language messages theme timezone,
      seen ["language"] = some (.string language) ∧ seen ["i18n"] = some messages ∧
      seen ["theme"] = some (.string theme) ∧ seen ["timezone"] = some (.string timezone) ∧
      Sanitised request snapshot locales language messages theme timezone) ∧
    snapshot.serverZone.name =
      if Calendar.Zone.isName config.template.serverTimezone = true then config.template.serverTimezone else "UTC" := by
  intro snapshot seen
  have hwanted := wanted_candidates request config.template.defaultLanguage
  have hchosen := chosen_chooseLanguage request locales config.template.defaultLanguage
  have htheme := settled_filter isTheme_iff request.theme config.template.defaultTheme
  have hzone := settled_filter (fun text => Iff.rfl (a := Calendar.Zone.isName text = true)) request.timezone
    snapshot.serverZone.name
  refine ⟨⟨_, _, _, _, rfl, rfl, rfl, rfl, ?_⟩, name_named config.template.serverTimezone⟩
  refine ⟨?_, htheme.fit_or_default, hzone.fit_or_default, ⟨_, hwanted, hchosen⟩, htheme, hzone⟩
  rcases hchosen.mem with hdefault | hmem
  · exact .inl hdefault
  · exact hwanted.allowed hmem

end Stencil.Request
