import Mathlib.Data.List.Chain
import Stencil.Proofs.Text.Ends
import Stencil.Proofs.Text.Splitting
import Stencil.Text.Markup

/-!
Tidied text.

Tidying goes over a text four times: runs of spaces and tabs become one space, blanks go from the ends of lines, of
line breaks in a row at most two stay, and blanks go from both ends of the text. No word is lost, cut or joined with
another on the way, and what comes out is laid out as it should be (`Tidy`). A text that is laid out like that before is
left as it is, so nothing else about the blanks is changed either.

Words are split at blanks, and all that is said about words here follows from one equation (`words_append_cons`). The
layout is mostly a matter of neighbours: which character may stand right before which. The four passes are therefore
taken one by one, each as to the words and as to the neighbours.
-/

namespace Stencil.Text

variable {c : Char} {cs ds : List Char}

/-! ## 1. Words -/

/-- Words are split at blanks. -/
theorem words_append_cons (hc : isBlank c = true) (cs ds : List Char) : words (cs ++ c :: ds) = words cs ++ words ds := by
  rw [words, words, words, splitOn_eq_splitOnP, splitOn_eq_splitOnP, splitOn_eq_splitOnP,
    List.splitOnP_append_cons cs ds hc, List.filter_append]

theorem words_cons (hc : isBlank c = true) (cs : List Char) : words (c :: cs) = words cs :=
  words_append_cons hc [] cs

theorem words_blanks (h : ∀ c ∈ cs, isBlank c = true) : words cs = [] := by
  induction cs with
  | nil => rfl
  | cons c cs ih =>
    obtain ⟨hc, hcs⟩ := List.forall_mem_cons.mp h
    rw [words_cons hc, ih hcs]

theorem words_append_blanks (h : ∀ c ∈ ds, isBlank c = true) (cs : List Char) : words (cs ++ ds) = words cs := by
  cases ds with
  | nil => rw [List.append_nil]
  | cons d ds =>
    obtain ⟨hd, hds⟩ := List.forall_mem_cons.mp h
    rw [words_append_cons hd, words_blanks hds, List.append_nil]

theorem words_blanks_append (h : ∀ c ∈ cs, isBlank c = true) (ds : List Char) : words (cs ++ ds) = words ds := by
  induction cs with
  | nil => rfl
  | cons c cs ih =>
    obtain ⟨hc, hcs⟩ := List.forall_mem_cons.mp h
    rw [List.cons_append, words_cons hc, ih hcs]

theorem words_trimEnd (cs : List Char) : words (trimEnd cs) = words cs := by
  obtain ⟨blanks, hcs, hblanks⟩ := exists_eq_trimEnd_append cs
  conv_rhs => rw [hcs, words_append_blanks hblanks]

theorem words_trim (cs : List Char) : words (trim cs) = words cs := by
  obtain ⟨blanks, hcs, hblanks⟩ := exists_eq_append_trimStart cs
  conv_rhs => rw [hcs, words_blanks_append hblanks]
  rw [trim, words_trimEnd]

/-- The words of a text are those of its lines. -/
theorem words_join (hc : isBlank c = true) (pieces : List (List Char)) :
    words (join [c] pieces) = pieces.flatMap words := by
  induction pieces with
  | nil => rfl
  | cons piece pieces ih =>
    cases pieces with
    | nil => rw [join, List.flatMap_singleton]
    | cons next pieces =>
      rw [join, List.append_assoc, List.singleton_append, words_append_cons hc, ih, ← List.flatMap_cons]
      exact List.cons_ne_nil _ _

namespace Markup

theorem words_squeezeSpaces (cs : List Char) :
    (∀ before, words (before ++ squeezeSpaces false cs) = words (before ++ cs)) ∧
      words (squeezeSpaces true cs) = words cs := by
  induction cs with
  | nil => exact ⟨fun before => rfl, rfl⟩
  | cons c cs ih =>
    obtain ⟨hafter, hrun⟩ := ih
    by_cases hc : c = ' ' ∨ c = '\t'
    · have hblank : isBlank c = true := by rcases hc with rfl | rfl <;> rfl
      refine ⟨fun before => ?_, ?_⟩
      · rw [squeezeSpaces, if_pos hc, if_neg Bool.false_ne_true, words_append_cons rfl, hrun, words_append_cons hblank]
      · rw [squeezeSpaces, if_pos hc, if_pos rfl, hrun, words_cons hblank]
    · -- behind a character that stays the text goes on as it did before it
      refine ⟨fun before => ?_, ?_⟩
      · rw [squeezeSpaces, if_neg hc, List.append_cons, hafter, ← List.append_cons]
      · rw [squeezeSpaces, if_neg hc]
        exact hafter [c]

theorem words_squeezeBreaks (cs : List Char) :
    (∀ before, words (before ++ squeezeBreaks 0 cs) = words (before ++ cs)) ∧
      ∀ run, words (squeezeBreaks run cs) = words cs := by
  induction cs with
  | nil => exact ⟨fun before => rfl, fun run => rfl⟩
  | cons c cs ih =>
    obtain ⟨hafter, hrun⟩ := ih
    by_cases hc : c = '\n'
    · have hblank : isBlank c = true := by rw [hc]; rfl
      refine ⟨fun before => ?_, fun run => ?_⟩
      · rw [squeezeBreaks, if_pos hc, if_pos (by decide), words_append_cons hblank, hrun, words_append_cons hblank]
      · rw [squeezeBreaks, if_pos hc]
        split
        · rw [words_cons hblank, hrun, words_cons hblank]
        · rw [hrun, words_cons hblank]
    · refine ⟨fun before => ?_, fun run => ?_⟩
      · rw [squeezeBreaks, if_neg hc, List.append_cons, hafter, ← List.append_cons]
      · rw [squeezeBreaks, if_neg hc]
        exact hafter [c]

/-- Tidying keeps the words. -/
theorem words_tidy (cs : List Char) : words (tidy cs) = words cs := by
  have hlines : ∀ lines : List (List Char), (lines.map trimEnd).flatMap words = lines.flatMap words := by
    intro lines
    rw [List.flatMap_map]
    exact congrArg (lines.flatMap ·) (funext words_trimEnd)
  calc words (tidy cs)
      = words (join ['\n'] ((splitOn (· == '\n') (squeezeSpaces false cs)).map trimEnd)) := by
        rw [tidy, words_trim, (words_squeezeBreaks _).2]
    _ = (splitOn (· == '\n') (squeezeSpaces false cs)).flatMap words := by rw [words_join rfl, hlines]
    _ = words (squeezeSpaces false cs) := by rw [← words_join (c := '\n') rfl, join_splitOn]
    _ = words cs := (words_squeezeSpaces cs).1 []

/-! ## 2. Layout -/

/-- Whether one character may stand right before another in tidied text: a space not before a space, and before a line
break no blank but a line break. -/
def Neighbours (c d : Char) : Prop := (c = ' ' → d ≠ ' ') ∧ (d = '\n' → c = '\n' ∨ isBlank c = false)

/-- Text that is laid out as tidying does it. -/
structure Tidy (cs : List Char) : Prop where
  untabbed : '\t' ∉ cs
  chained : cs.IsChain Neighbours
  /-- There are no two empty lines in a row. -/
  broken : ¬ ['\n', '\n', '\n'] <:+: cs
  head : ∀ c ∈ cs.head?, isBlank c = false
  last : ∀ c ∈ cs.getLast?, isBlank c = false

/-! ## 3. Layout, pass by pass -/

theorem neighbours_break (d : Char) : Neighbours '\n' d := ⟨fun h => absurd h (by decide), fun _ => .inl rfl⟩

/-- The first pass leaves no tab and no two spaces in a row; in a run of them there is no further space. -/
theorem spaced_squeezeSpaces (cs : List Char) (inRun : Bool) :
    '\t' ∉ squeezeSpaces inRun cs ∧ (squeezeSpaces inRun cs).IsChain (fun c d => c = ' ' → d ≠ ' ') ∧
      (inRun = true → ' ' ∉ (squeezeSpaces inRun cs).head?) := by
  induction cs generalizing inRun with
  | nil => exact ⟨List.not_mem_nil, .nil, fun _ => nofun⟩
  | cons c cs ih =>
    by_cases hc : c = ' ' ∨ c = '\t'
    · obtain ⟨htab, hchain, hrun⟩ := ih true
      rw [squeezeSpaces, if_pos hc]
      cases inRun with
      | true => exact ⟨htab, hchain, hrun⟩
      | false =>
        refine ⟨List.not_mem_cons_of_ne_of_not_mem (by decide) htab, ?_, nofun⟩
        refine hchain.cons fun d hd _ => ?_
        rintro rfl
        exact hrun rfl hd
    · obtain ⟨htab, hchain, -⟩ := ih false
      obtain ⟨hspace, hnotTab⟩ := not_or.mp hc
      rw [squeezeSpaces, if_neg hc]
      refine ⟨List.not_mem_cons_of_ne_of_not_mem (Ne.symm hnotTab) htab, ?_, fun _ hmem => ?_⟩
      · exact hchain.cons fun d _ h => absurd h hspace
      · exact hspace (Option.some.inj hmem)

/-- The third pass looks at the first character as it is. -/
theorem head?_squeezeBreaks (cs : List Char) : (squeezeBreaks 0 cs).head? = cs.head? := by
  cases cs with
  | nil => rfl
  | cons c cs =>
    rw [squeezeBreaks]
    split
    · rfl
    · rfl

theorem squeezeBreaks_sublist (cs : List Char) (run : Nat) : (squeezeBreaks run cs).Sublist cs := by
  induction cs generalizing run with
  | nil => exact .slnil
  | cons c cs ih =>
    rw [squeezeBreaks]
    split
    · split
      · exact (ih _).cons_cons c
      · exact (ih _).cons c
    · exact (ih _).cons_cons c

/-- A break is taken away only behind a break, so neighbours are neighbours before that or follow a break. -/
theorem chained_squeezeBreaks (h : cs.IsChain Neighbours) (run : Nat) :
    (squeezeBreaks run cs).IsChain Neighbours := by
  induction cs generalizing run with
  | nil => exact .nil
  | cons c cs ih =>
    obtain ⟨hhead, htail⟩ := List.isChain_cons.mp h
    rw [squeezeBreaks]
    split
    · next hc =>
      split
      · exact (ih htail _).cons fun d _ => hc ▸ neighbours_break d
      · exact ih htail _
    · refine (ih htail _).cons fun d hd => hhead d ?_
      rwa [head?_squeezeBreaks] at hd

/-- Three breaks in a row are not left, and behind `run` of them no more than are missing to two. -/
theorem broken_squeezeBreaks (cs : List Char) (run : Nat) (hrun : run ≤ 2) :
    ¬ List.replicate (3 - run) '\n' <+: squeezeBreaks run cs ∧ ¬ ['\n', '\n', '\n'] <:+: squeezeBreaks run cs := by
  induction cs generalizing run with
  | nil =>
    obtain ⟨n, hn⟩ : ∃ n, 3 - run = n + 1 := ⟨2 - run, by omega⟩
    rw [hn, squeezeBreaks]
    exact ⟨by simp [List.replicate_succ], by simp⟩
  | cons c cs ih =>
    obtain ⟨n, hn⟩ : ∃ n, 3 - run = n + 1 := ⟨2 - run, by omega⟩
    by_cases hc : c = '\n'
    · rw [squeezeBreaks, if_pos hc]
      by_cases hroom : run < 2
      · obtain ⟨hstarts, hwithin⟩ := ih (run + 1) (by omega)
        have hfront : ¬ List.replicate (3 - run) '\n' <+: '\n' :: squeezeBreaks (run + 1) cs := by
          have hrest : 3 - (run + 1) = n := by omega
          rw [hrest] at hstarts
          rw [hn, List.replicate_succ, List.prefix_cons_inj]
          exact hstarts
        have hthree : List.replicate (3 - run) '\n' <+: ['\n', '\n', '\n'] :=
          ⟨List.replicate run '\n', by rw [← List.replicate_add, Nat.sub_add_cancel (by omega)]; rfl⟩
        rw [if_pos hroom, hc]
        refine ⟨hfront, fun hmem => ?_⟩
        rcases List.infix_cons_iff.mp hmem with hstart | hmem
        · exact hfront (hthree.trans hstart)
        · exact hwithin hmem
      · rw [if_neg hroom]
        exact ih run hrun
    · obtain ⟨-, hwithin⟩ := ih 0 (by omega)
      rw [squeezeBreaks, if_neg hc]
      refine ⟨?_, fun hmem => ?_⟩
      · rw [hn, List.replicate_succ, List.cons_prefix_cons]
        exact fun h => hc h.1.symm
      · rcases List.infix_cons_iff.mp hmem with hstart | hmem
        · exact hc (List.cons_prefix_cons.mp hstart).1.symm
        · exact hwithin hmem

/-- A piece stands in what is put together. -/
theorem infix_join (sep : List Char) {piece : List Char} {pieces : List (List Char)} (h : piece ∈ pieces) :
    piece <:+: join sep pieces := by
  induction pieces with
  | nil => cases h
  | cons first pieces ih =>
    cases pieces with
    | nil => rw [List.mem_singleton.mp h]; exact List.infix_refl _
    | cons next pieces =>
      rw [join]
      · rcases List.mem_cons.mp h with rfl | h
        · rw [List.append_assoc]
          exact (List.prefix_append _ _).isInfix
        · exact (ih h).trans (List.suffix_append _ _).isInfix
      · exact List.cons_ne_nil _ _

/-- Lines that are laid out make a text that is, as none of them ends with a blank. -/
theorem chained_join {lines : List (List Char)} (hlines : ∀ line ∈ lines, line.IsChain Neighbours)
    (hends : ∀ line ∈ lines, ∀ c ∈ line.getLast?, isBlank c = false) : (join ['\n'] lines).IsChain Neighbours := by
  induction lines with
  | nil => exact .nil
  | cons line lines ih =>
    obtain ⟨hline, hlines⟩ := List.forall_mem_cons.mp hlines
    obtain ⟨hend, hends⟩ := List.forall_mem_cons.mp hends
    cases lines with
    | nil => exact hline
    | cons next lines =>
      rw [join, List.append_assoc, List.singleton_append]
      · refine hline.append ((ih hlines hends).cons fun d _ => neighbours_break d) ?_
        intro c hc d hd
        obtain rfl : '\n' = d := Option.some.inj hd
        refine ⟨fun hspace => ?_, fun _ => .inr (hend c hc)⟩
        exact absurd (hend c hc) (by rw [hspace]; decide)
      · exact List.cons_ne_nil _ _

theorem infix_of_mem_lines {line : List Char} (h : line ∈ splitOn (· == '\n') cs) : line <:+: cs := by
  have hwithin := infix_join ['\n'] h
  rwa [join_splitOn] at hwithin

theorem break_not_mem_line {line : List Char} (h : line ∈ splitOn (· == '\n') cs) : '\n' ∉ line := by
  intro hbreak
  rw [splitOn_eq_splitOnP] at h
  exact absurd (eq_false_of_mem_splitOnP h hbreak) (by decide)

/-- The second pass leaves no blank before a break, and no tab where there was none. -/
theorem chained_trimmed (htab : '\t' ∉ cs) (hspaced : cs.IsChain fun c d => c = ' ' → d ≠ ' ') :
    '\t' ∉ join ['\n'] ((splitOn (· == '\n') cs).map trimEnd) ∧
      (join ['\n'] ((splitOn (· == '\n') cs).map trimEnd)).IsChain Neighbours := by
  refine ⟨fun hmem => ?_, chained_join ?_ ?_⟩
  · rcases mem_of_mem_join hmem with hmem | ⟨trimmed, htrimmed, hmem⟩
    · exact absurd hmem (by decide)
    · obtain ⟨line, hline, rfl⟩ := List.mem_map.mp htrimmed
      exact htab ((infix_of_mem_lines hline).subset ((trimEnd_begins line).subset hmem))
  · intro trimmed htrimmed
    obtain ⟨line, hline, rfl⟩ := List.mem_map.mp htrimmed
    have hchain : line.IsChain fun c d => c = ' ' → d ≠ ' ' := hspaced.infix (infix_of_mem_lines hline)
    refine List.IsChain.prefix ?_ (trimEnd_begins line)
    -- within a line there is nothing that stands before a break
    refine List.IsChain.imp_of_mem_imp (fun c d _ hd h => ⟨h, ?_⟩) hchain
    rintro rfl
    exact absurd hd (break_not_mem_line hline)
  · intro trimmed htrimmed
    obtain ⟨line, -, rfl⟩ := List.mem_map.mp htrimmed
    exact getLast?_trimEnd line

/-- What tidying comes to is tidy. -/
theorem tidied (cs : List Char) : Tidy (tidy cs) := by
  obtain ⟨htab, hspaced, -⟩ := spaced_squeezeSpaces cs false
  obtain ⟨htabs, hchained⟩ := chained_trimmed htab hspaced
  exact {
    untabbed := fun hmem => htabs ((squeezeBreaks_sublist _ 0).subset ((trim_within _).subset hmem))
    chained := List.IsChain.infix (chained_squeezeBreaks hchained 0) (trim_within _)
    broken := fun hmem => (broken_squeezeBreaks _ 0 (by decide)).2 (hmem.trans (trim_within _))
    head := head?_trim _
    last := getLast?_trimEnd _ }

/-! ## 4. Tidy text -/

theorem squeezeSpaces_eq_self (htab : '\t' ∉ cs) (hspaced : cs.IsChain fun c d => c = ' ' → d ≠ ' ')
    (inRun : Bool) (hrun : inRun = true → ' ' ∉ cs.head?) : squeezeSpaces inRun cs = cs := by
  induction cs generalizing inRun with
  | nil => rfl
  | cons c cs ih =>
    obtain ⟨hhead, htail⟩ := List.isChain_cons.mp hspaced
    obtain ⟨hc, hcs⟩ := List.ne_and_not_mem_of_not_mem_cons htab
    by_cases hspace : c = ' '
    · have hout : inRun = false := by
        rw [← Bool.not_eq_true]
        exact fun h => hrun h (by rw [hspace]; rfl)
      have hnext : ' ' ∉ cs.head? := fun h => hhead ' ' h hspace rfl
      rw [squeezeSpaces, if_pos (.inl hspace), if_neg (by simp [hout]), ih hcs htail true fun _ => hnext, hspace]
    · rw [squeezeSpaces, if_neg (not_or.mpr ⟨hspace, Ne.symm hc⟩), ih hcs htail false nofun]

theorem squeezeBreaks_eq_self (hbroken : ¬ ['\n', '\n', '\n'] <:+: cs) (run : Nat) (hrun : run ≤ 2)
    (hfront : ¬ List.replicate (3 - run) '\n' <+: cs) : squeezeBreaks run cs = cs := by
  induction cs generalizing run with
  | nil => rfl
  | cons c cs ih =>
    obtain ⟨n, hn⟩ : ∃ n, 3 - run = n + 1 := ⟨2 - run, by omega⟩
    have hbroken' : ¬ ['\n', '\n', '\n'] <:+: cs := fun h => hbroken (h.trans (List.suffix_cons c cs).isInfix)
    rw [squeezeBreaks]
    split
    · next hc =>
      rw [hc, hn, List.replicate_succ, List.prefix_cons_inj] at hfront
      have hroom : run < 2 := by
        by_contra hfull
        have hzero : n = 0 := by omega
        exact hfront (by rw [hzero]; exact List.nil_prefix)
      have hrest : 3 - (run + 1) = n := by omega
      rw [if_pos hroom, ih hbroken' (run + 1) (by omega) (by rwa [hrest])]
    · have hstart : ¬ List.replicate (3 - 0) '\n' <+: cs := fun h => hbroken' h.isInfix
      rw [ih hbroken' 0 (by omega) hstart]

/-- Lines of a tidy text end with no blank. -/
theorem line_ends {lines : List (List Char)} (hbreaks : ∀ line ∈ lines, '\n' ∉ line)
    (hchained : (join ['\n'] lines).IsChain Neighbours)
    (hlast : ∀ c ∈ (join ['\n'] lines).getLast?, isBlank c = false) :
    ∀ line ∈ lines, ∀ c ∈ line.getLast?, isBlank c = false := by
  induction lines with
  | nil => nofun
  | cons line lines ih =>
    obtain ⟨hbreak, hbreaks⟩ := List.forall_mem_cons.mp hbreaks
    cases lines with
    | nil => exact List.forall_mem_singleton.mpr hlast
    | cons next lines =>
      rw [join, List.append_assoc, List.singleton_append] at hchained hlast
      · obtain ⟨-, hrest, hlink⟩ := List.isChain_append.mp hchained
        refine List.forall_mem_cons.mpr ⟨fun c hc => ?_, ih hbreaks hrest.tail fun c hc => hlast c ?_⟩
        · rcases (hlink c hc '\n' rfl).2 rfl with rfl | hblank
          · exact absurd (List.mem_of_getLast? hc) hbreak
          · exact hblank
        · rw [List.getLast?_append, List.getLast?_cons]
          simp [Option.mem_def.mp hc]
      · exact List.cons_ne_nil _ _
      · exact List.cons_ne_nil _ _

/-- A tidy text is left as it is. -/
theorem tidy_eq_self (h : Tidy cs) : tidy cs = cs := by
  have hspaced : cs.IsChain fun c d => c = ' ' → d ≠ ' ' := h.chained.imp fun _ _ hcd => hcd.1
  have hspaces : squeezeSpaces false cs = cs := squeezeSpaces_eq_self h.untabbed hspaced false nofun
  have hends : ∀ line ∈ splitOn (· == '\n') cs, trimEnd line = line := by
    have hjoin := join_splitOn '\n' cs
    intro line hline
    refine trimEnd_eq_self (line_ends (fun _ => break_not_mem_line) ?_ ?_ line hline)
    · exact hjoin.symm ▸ h.chained
    · exact hjoin.symm ▸ h.last
  have hlines : (splitOn (· == '\n') cs).map trimEnd = splitOn (· == '\n') cs := by
    conv_rhs => rw [← List.map_id (splitOn (· == '\n') cs)]
    exact List.map_congr_left hends
  have hbreaks : squeezeBreaks 0 cs = cs :=
    squeezeBreaks_eq_self h.broken 0 (by decide) fun hstart => h.broken hstart.isInfix
  show trim (squeezeBreaks 0 (join ['\n'] ((splitOn (· == '\n') (squeezeSpaces false cs)).map trimEnd))) = cs
  rw [hspaces, hlines, join_splitOn, hbreaks, trim_of_solid_ends h.head h.last]

/-- The tidy texts are those that tidying leaves as they are. -/
theorem tidy_iff : Tidy cs ↔ tidy cs = cs := ⟨tidy_eq_self, fun h => h ▸ tidied cs⟩

end Markup

end Stencil.Text
