import Stencil.Engine
import Stencil.Proofs.Template.Roundtrip
import Stencil.Proofs.Template.Seams

/-!
Text that is to be shown as it is.

A backslash before every two opening braces takes their meaning as a tag away, whatever stands around them. It does not
take their meaning as the mark of a comment away, because comments are taken out before backslashes are looked at. Of
an escaped comment the backslash is left, and with an odd number of braces one of them. So text is shown as it is just
when no comment would be taken out of it. No tag can come about in what is left, which is why nothing is ever
reported, and why what is shown is shorter than the text as soon as it is not the text.
-/

namespace Stencil

namespace Template

open Text Comment

variable {cs ds rest out before after single pat : List Char}

/-! ## 1. Escaped text with something behind it -/

/-- Behind a character that is no brace, escaping starts anew. -/
theorem escapeText_append_cons {c : Char} (hc : c ≠ '{') (cs ds : List Char) :
    escapeText (cs ++ c :: ds) = escapeText cs ++ c :: escapeText ds := by
  fun_induction escapeText cs with
  | case1 cs ih => rw [List.cons_append, List.cons_append, escapeText, ih]; rfl
  | case2 d cs hpair ih =>
    rw [List.cons_append, escapeText, ih, List.cons_append]
    intro tail hd htail
    cases cs with
    | nil => exact hc (List.cons.inj htail).1
    | cons e cs => exact hpair cs hd (congrArg (· :: cs) (List.cons.inj htail).1)
  | case3 =>
    rw [List.nil_append, escapeText]
    · rfl
    · exact fun _ h => absurd h hc

/-- What has no braces in it stays what it is, and what is around it is escaped for itself. -/
theorem escapeText_append_append (hpat : pat ≠ []) (hbrace : '{' ∉ pat) (cs ds : List Char) :
    escapeText (cs ++ pat ++ ds) = escapeText cs ++ pat ++ escapeText ds := by
  obtain ⟨p, ps, rfl⟩ := List.exists_cons_of_ne_nil hpat
  rw [List.mem_cons, not_or] at hbrace
  have hplain (ps : List Char) (hps : '{' ∉ ps) : escapeText (ps ++ ds) = ps ++ escapeText ds := by
    induction ps with
    | nil => rfl
    | cons q ps ih =>
      rw [List.mem_cons, not_or] at hps
      have hfirst := escapeText_append_cons (Ne.symm hps.1) [] (ps ++ ds)
      rwa [ih hps.2] at hfirst
  rw [List.append_assoc, List.cons_append, escapeText_append_cons (Ne.symm hbrace.1), hplain ps hbrace.2,
    List.append_assoc, List.cons_append]

theorem escapeText_append_plain (hds : '{' ∉ ds) (cs : List Char) : escapeText (cs ++ ds) = escapeText cs ++ ds := by
  by_cases hempty : ds = []
  · rw [hempty, List.append_nil, List.append_nil]
  · have happend := escapeText_append_append hempty hds cs []
    rwa [List.append_nil, escapeText, List.append_nil] at happend

theorem escapeText_append_eq_cons (hrest : ∀ c ∈ rest.head?, c ≠ '{') (h : escapeText cs ++ rest = '{' :: out) :
    ∃ tail, cs = '{' :: tail ∧ out = escapeText tail ++ rest := by
  cases hcs : escapeText cs with
  | nil =>
    rw [hcs, List.nil_append] at h
    rw [h] at hrest
    exact absurd rfl (hrest '{' rfl)
  | cons c more =>
    rw [hcs] at h
    obtain ⟨rfl, rfl⟩ := List.cons.inj h
    obtain ⟨tail, rfl, rfl⟩ := escapeText_eq_cons (by decide) hcs
    exact ⟨tail, rfl, rfl⟩

theorem escapeText_append_ne_braces (hrest : ∀ c ∈ rest.head?, c ≠ '{') (cs out : List Char) :
    escapeText cs ++ rest ≠ '{' :: '{' :: out := by
  intro h
  obtain ⟨tail, rfl, hout⟩ := escapeText_append_eq_cons hrest h
  obtain ⟨tail, rfl, -⟩ := escapeText_append_eq_cons hrest hout.symm
  -- two braces of the text have a backslash before them
  cases h

/-- Escaped text shows the text when no brace follows it, whatever its last characters are. -/
theorem stretch_escapeText_append (hrest : ∀ c ∈ rest.head?, c ≠ '{') (cs : List Char) :
    stretch (escapeText cs ++ rest) =
      ⟨cs ++ (stretch rest).shown, escapeText cs ++ (stretch rest).written, (stretch rest).rest⟩ := by
  fun_induction escapeText cs with
  | case1 cs ih =>
    rw [List.cons_append, List.cons_append, List.cons_append, stretch, ih]
    rfl
  | case2 c cs hpair ih =>
    rw [List.cons_append, stretch, ih]
    · rfl
    · intro out hc hout
      exact escapeText_append_ne_braces hrest cs out hout
    · intro out hc hout
      obtain ⟨tail, rfl, -⟩ := escapeText_append_eq_cons hrest hout
      exact hpair tail hc rfl
  | case3 => rfl

/-! ## 2. Comments in escaped text -/

/-- The escaping of two braces puts a backslash before them, or before the brace that they follow. -/
theorem exists_escapeText_braces (cs : List Char) :
    ∃ front single, cs = front ++ single ∧ (single = [] ∨ single = ['{']) ∧
      escapeText (cs ++ ['{', '{']) = escapeText front ++ '\\' :: single ++ ['{', '{'] := by
  fun_induction escapeText cs with
  | case1 cs ih =>
    obtain ⟨front, single, rfl, hsingle, hescaped⟩ := ih
    refine ⟨'{' :: '{' :: front, single, rfl, hsingle, ?_⟩
    rw [List.cons_append, List.cons_append, escapeText, hescaped]
    rfl
  | case2 c cs hpair ih =>
    by_cases hlast : c = '{' ∧ cs = []
    · obtain ⟨rfl, rfl⟩ := hlast
      exact ⟨[], ['{'], rfl, .inr rfl, rfl⟩
    · obtain ⟨front, single, rfl, hsingle, hescaped⟩ := ih
      refine ⟨c :: front, single, rfl, hsingle, ?_⟩
      have hfront : escapeText (c :: front) = c :: escapeText front := by
        rw [escapeText]
        rintro tail hc rfl
        exact hpair (tail ++ single) hc rfl
      rw [List.cons_append, escapeText, hescaped, hfront]
      · rfl
      · intro tail hc htail
        cases hparts : front ++ single with
        | nil => exact hlast ⟨hc, hparts⟩
        | cons d rest =>
          rw [hparts] at htail
          exact hpair rest hc (by rw [hparts, (List.cons.inj htail).1])
  | case3 => exact ⟨[], [], rfl, .inl rfl, rfl⟩

/-- What has neither braces nor backslashes in it occurs in escaped text where it does in the text. -/
theorem cutAt?_escapeText (hpat : pat ≠ []) (hbrace : '{' ∉ pat) (hbackslash : '\\' ∉ pat) (cs : List Char) :
    cutAt? pat (escapeText cs) = (cutAt? pat cs).map fun (before, after) => (escapeText before, escapeText after) := by
  cases hcut : cutAt? pat cs with
  | none =>
    have hinfix : ¬ pat <:+: escapeText cs :=
      mt ((spread_escapeText cs).occurs hbackslash) (infix_of_cutAt?_eq_none hcut)
    exact cutAt?_eq_none hpat hinfix
  | some parts =>
    obtain ⟨before, after⟩ := parts
    have hdropLast : '{' ∉ pat.dropLast := fun hmem => hbrace (List.dropLast_subset pat hmem)
    have hfirst : ¬ pat <:+: escapeText before ++ pat.dropLast := by
      rw [← escapeText_append_plain hdropLast]
      exact mt ((spread_escapeText _).occurs hbackslash) (not_infix_append_of_cutAt? hpat hcut)
    rw [eq_append_of_cutAt? hcut, escapeText_append_append hpat hbrace, cutAt?_append hpat hfirst]
    rfl

/-- A comment ends in escaped text where it does in the text. -/
theorem afterEnd?_escapeText (cs : List Char) : afterEnd? (escapeText cs) = (afterEnd? cs).map escapeText := by
  have hplain : cutAt? ['}', '}'] (escapeText cs) =
      (cutAt? ['}', '}'] cs).map fun (before, after) => (escapeText before, escapeText after) :=
    cutAt?_escapeText (by decide) (by decide) (by decide) cs
  unfold afterEnd?
  split
  · next rest hescaped =>
    -- the hyphens are those of the text
    obtain ⟨tail, rfl, htail⟩ := escapeText_eq_cons (by decide) hescaped
    obtain ⟨tail, rfl, rfl⟩ := escapeText_eq_cons (by decide) htail.symm
    show Option.map _ (cutAt? _ (escapeText tail)) = Option.map escapeText (Option.map _ (cutAt? _ tail))
    rw [cutAt?_escapeText (by decide) (by decide) (by decide) tail, Option.map_map, Option.map_map]
    rfl
  · next hhyphens =>
    split
    · next rest => exact absurd rfl (hhyphens (escapeText rest))
    · rw [hplain, Option.map_map, Option.map_map]
      rfl

/-- The first mark of a text is the first mark of the escaped text, with a backslash before it or before the brace that
it follows. -/
theorem cutAt?_mark_escapeText (hcut : cutAt? mark cs = some (before, after)) :
    ∃ front single, before = front ++ single ∧ (single = [] ∨ single = ['{']) ∧
      cutAt? mark (escapeText cs) = some (escapeText front ++ '\\' :: single, escapeText after) := by
  obtain ⟨front, single, rfl, hsingle, hescaped⟩ := exists_escapeText_braces before
  refine ⟨front, single, rfl, hsingle, ?_⟩
  have hfirst : ¬ mark <:+: escapeText front ++ '\\' :: single ++ mark.dropLast := by
    show ¬ mark <:+: escapeText front ++ '\\' :: single ++ ['{', '{']
    rw [← hescaped]
    exact mt ((spread_escapeText _).occurs (by decide)) (not_infix_append_of_cutAt? (by decide) hcut)
  have hcs : cs = front ++ single ++ ['{', '{'] ++ '!' :: after := by
    rw [eq_append_of_cutAt? hcut, mark]
    simp
  have hmark : escapeText cs = escapeText front ++ '\\' :: single ++ mark ++ escapeText after := by
    rw [hcs, escapeText_append_cons (by decide), hescaped, mark]
    simp
  rw [hmark]
  exact cutAt?_append (by decide) hfirst (escapeText after)

theorem first?_escapeText_eq_none (h : first? cs = none) : first? (escapeText cs) = none := by
  cases hcut : cutAt? mark cs with
  | none =>
    have hmarkless : ¬ mark <:+: escapeText cs :=
      mt ((spread_escapeText cs).occurs (by decide)) (infix_of_cutAt?_eq_none hcut)
    rw [first?, cutAt?_eq_none (by decide) hmarkless]
    rfl
  | some parts =>
    obtain ⟨before, after⟩ := parts
    obtain ⟨front, single, -, -, hescaped⟩ := cutAt?_mark_escapeText hcut
    rw [first?, hcut, Option.bind_some, Option.map_eq_none_iff] at h
    rw [first?, hescaped, Option.bind_some]
    show Option.map _ (afterEnd? (escapeText after)) = none
    rw [afterEnd?_escapeText, h]
    rfl

theorem first?_escapeText (h : first? cs = some (before, rest)) :
    ∃ front single, before = front ++ single ∧ (single = [] ∨ single = ['{']) ∧
      first? (escapeText cs) = some (escapeText front ++ '\\' :: single, escapeText rest) := by
  obtain ⟨after, hcut, hend⟩ := first?_eq_some_iff.mp h
  obtain ⟨front, single, hbefore, hsingle, hescaped⟩ := cutAt?_mark_escapeText hcut
  refine ⟨front, single, hbefore, hsingle, first?_eq_some_iff.mpr ⟨escapeText after, hescaped, ?_⟩⟩
  rw [afterEnd?_escapeText, hend]
  rfl

/-! ## 3. What escaped text shows -/

theorem stretch_cons (c : Char) (cs : List Char) (hescape : c = '\\' → ∀ tail, cs ≠ '{' :: '{' :: tail)
    (hopen : c = '{' → ∀ tail, cs ≠ '{' :: tail) :
    stretch (c :: cs) = ⟨c :: (stretch cs).shown, c :: (stretch cs).written, (stretch cs).rest⟩ := by
  rw [stretch]
  · exact fun tail hc htail => hescape hc tail htail
  · exact fun tail hc htail => hopen hc tail htail

/-- A backslash, with or without a brace behind it, makes no tag with text that has none. -/
theorem stretch_backslash (hsingle : single = [] ∨ single = ['{']) (hrest : (stretch cs).rest = []) :
    (stretch ('\\' :: (single ++ cs))).rest = [] ∧
      (stretch ('\\' :: (single ++ cs))).shown.length ≤ single.length + 1 + (stretch cs).shown.length := by
  have hopen (tail : List Char) : cs ≠ '{' :: '{' :: tail := by
    rintro rfl
    cases hrest
  rcases hsingle with rfl | rfl
  · rw [List.nil_append, stretch_cons '\\' cs (fun _ => hopen) (fun h => absurd h (by decide))]
    refine ⟨hrest, ?_⟩
    simp only [List.length_cons, List.length_nil]
    omega
  · rw [List.singleton_append]
    by_cases hbrace : ∃ tail, cs = '{' :: tail
    · -- the two braces that meet are escaped
      obtain ⟨tail, rfl⟩ := hbrace
      have htail := stretch_cons '{' tail (fun h => absurd h (by decide)) fun _ more hmore =>
        hopen more (by rw [hmore])
      rw [htail] at hrest ⊢
      rw [stretch]
      refine ⟨hrest, ?_⟩
      simp only [List.length_cons, List.length_nil]
      omega
    · have hcs (tail : List Char) : cs ≠ '{' :: tail := fun h => hbrace ⟨tail, h⟩
      have hone := stretch_cons '{' cs (fun h => absurd h (by decide)) fun _ => hcs
      have hbackslash := stretch_cons '\\' ('{' :: cs)
        (fun _ tail h => hcs tail (List.cons.inj h).2) (fun h => absurd h (by decide))
      rw [hbackslash, hone]
      refine ⟨hrest, ?_⟩
      simp only [List.length_cons, List.length_nil]
      omega

/-- What is left of escaped text without its comments has no tag in it. It shows the text when the text has no comment,
and less than the text when it has one. -/
theorem stretch_strip_escapeText (cs : List Char) :
    (stretch (strip (escapeText cs))).rest = [] ∧
      (first? cs = none → (stretch (strip (escapeText cs))).shown = cs) ∧
        (first? cs ≠ none → (stretch (strip (escapeText cs))).shown.length < cs.length) := by
  induction hlength : cs.length using Nat.strongRecOn generalizing cs with | _ length ih
  cases hfirst : first? cs with
  | none =>
    have hend : ∀ c ∈ ([] : List Char).head?, c ≠ '{' := fun c hc => nomatch hc
    have hstretch := stretch_escapeText_append hend cs
    rw [List.append_nil] at hstretch
    rw [strip_of_first?_eq_none (first?_escapeText_eq_none hfirst), hstretch]
    exact ⟨rfl, fun _ => List.append_nil cs, fun h => absurd rfl h⟩
  | some parts =>
    obtain ⟨before, rest⟩ := parts
    obtain ⟨after, hcut, hend⟩ := first?_eq_some_iff.mp hfirst
    have hcs := length_of_cutAt? hcut
    have hafter := length_of_afterEnd? hend
    rw [show mark.length = 3 from rfl] at hcs
    obtain ⟨front, single, rfl, hsingle, hescaped⟩ := first?_escapeText hfirst
    obtain ⟨htagless, hnone, hsome⟩ := ih rest.length (by omega) rest rfl
    have hshown : (stretch (strip (escapeText rest))).shown.length ≤ rest.length := by
      by_cases hrest : first? rest = none
      · exact Nat.le_of_eq (by rw [hnone hrest])
      · exact Nat.le_of_lt (hsome hrest)
    obtain ⟨hbackslash, hmore⟩ := stretch_backslash hsingle htagless
    have hslash : ∀ c ∈ ('\\' :: (single ++ strip (escapeText rest))).head?, c ≠ '{' := by
      rintro c ⟨⟩
      decide
    rw [strip_of_first? hescaped, List.append_assoc, List.cons_append, stretch_escapeText_append hslash]
    refine ⟨hbackslash, fun h => (nomatch h), fun _ => ?_⟩
    -- the mark of the comment is longer than the backslash
    rw [List.length_append] at hcs ⊢
    omega

/-- The tree of text without tags. -/
theorem nodes_parse_of_stretch {source : String} (h : (stretch (strip source.toList)).rest = []) :
    (parse source).nodes =
      if (stretch (strip source.toList)).shown = [] then [] else [.text (.ofList (stretch (strip source.toList)).shown)] := by
  show nodesOfTokens (tokens _) = _
  rw [tokens, String.toList_ofList, tokensFrom_end h, textToken]
  by_cases hshown : (stretch (strip source.toList)).shown = []
  · rw [if_pos hshown, if_pos (List.isEmpty_iff.mpr hshown)]
    exact Serialises.nil.nodesOfTokens
  · rw [if_neg hshown, if_neg (mt List.isEmpty_iff.mp hshown)]
    exact (Serialises.text .nil).nodesOfTokens

end Template

/-! ## 4. The engine -/

namespace Engine

open Template

/-- A source without tags shows the text that it has without its comments, and nothing is reported. -/
theorem render_of_stretch (engine : Engine) (now : Calendar.Instant) {source : String}
    (h : (stretch (Comment.strip source.toList)).rest = []) (request : Request) (data : Value) (depth : Nat) :
    engine.render now source request data depth =
      (some ⟨.ofList (stretch (Comment.strip source.toList)).shown, #[]⟩, engine) := by
  have htext : (Render.template (m := Id) (engine.environment now) depth (.parse source)).exec (engine.start request data) =
      (.ofList (stretch (Comment.strip source.toList)).shown, engine.start request data) := by
    rw [Render.template, nodes_parse_of_stretch h, Render.nodes_eq_layer]
    by_cases hshown : (stretch (Comment.strip source.toList)).shown = []
    · rw [if_pos hshown, hshown]
      rfl
    · rw [if_neg hshown]
      show (String.join [_], _) = _
      rw [String.join_cons, String.join_nil, String.append_empty]
  rw [render]
  simp only [htext]
  rfl

/-- **Escaped text is shown as it is, unless there is a comment in it.** A text with a backslash before every two
opening braces renders to some text, and nothing is ever reported, whatever the engine, the request and the data. It is
the text itself just when no comment would be taken out of the text. -/
theorem render_escapeText (engine : Engine) (now : Calendar.Instant) (text : String) (request : Request) (data : Value)
    (depth : Nat) :
    ∃ shown, engine.render now (.ofList (escapeText text.toList)) request data depth = (some ⟨shown, #[]⟩, engine) ∧
      (shown = text ↔ Comment.strip text.toList = text.toList) := by
  obtain ⟨htagless, hnone, hsome⟩ := stretch_strip_escapeText text.toList
  refine ⟨.ofList (stretch (Comment.strip (escapeText text.toList))).shown, ?_, ?_⟩
  · have hsource : (stretch (Comment.strip (String.ofList (escapeText text.toList)).toList)).rest = [] := by
      rwa [String.toList_ofList]
    rw [engine.render_of_stretch now hsource, String.toList_ofList]
  · rw [Comment.strip_eq_self_iff]
    constructor
    · intro hshown
      have hlength := congrArg (·.toList.length) hshown
      simp only [String.toList_ofList] at hlength
      exact Classical.byContradiction fun hfirst => Nat.ne_of_lt (hsome hfirst) hlength
    · intro hfirst
      rw [hnone hfirst, String.ofList_toList]

/-- Of an escaped comment the backslash is shown, and not the comment. -/
theorem render_escaped_comment : ¬ ∀ (engine : Engine) (now : Calendar.Instant) (text : String) (data : Value),
    (engine.render now (.ofList (escapeText text.toList)) {} data 0).1 = some ⟨text, #[]⟩ := by
  intro h
  have hfirst : Comment.first? "\x7b\x7b! a \x7d\x7d".toList = some ([], []) := by decide +kernel
  obtain ⟨htagless, -, hsome⟩ := stretch_strip_escapeText "\x7b\x7b! a \x7d\x7d".toList
  let engine : Engine := .new [] {} [] (.memory (.empty 0))
  have hcomment := h engine ⟨0, 0⟩ "\x7b\x7b! a \x7d\x7d" .null
  rw [engine.render_of_stretch ⟨0, 0⟩ (by rwa [String.toList_ofList])] at hcomment
  have htext := congrArg (·.toList.length) (congrArg Output.text (Option.some.inj hcomment))
  simp only [String.toList_ofList] at htext
  exact Nat.ne_of_lt (hsome (by rw [hfirst]; exact nofun)) htext

end Engine

end Stencil
