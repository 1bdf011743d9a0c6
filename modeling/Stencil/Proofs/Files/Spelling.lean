import Stencil.Proofs.Files.Confinement

/-!
Accepted paths, written out.

An accepted path is kept as its segments. Where it is written out, with slashes between them, it may come back as a
name, and it should be accepted then as the path that it is. Its segments come back: none of them has a slash in it, and
none of them leads nowhere or up (`written_text`).

The start is another matter. A name is judged by how it starts before the segments that lead nowhere are left out, so
what stood behind them starts the path. It is no slash, as segments have none, but it can be the letter of a drive:
`./C:/x` starts with a dot, and its path is written `C:/x`, which is refused. A dot in front is the only way to get
there (`dot_of_namesDrive`).
-/

namespace Stencil

/-! ## 1. Paths, written out -/

namespace Path

variable {name first : String} {rest path : Path}

theorem written_text (hsome : path ≠ []) (hsingle : ∀ segment ∈ path, ∀ c ∈ segment.toList, c ≠ '/' ∧ c ≠ '\\') :
    written path.text = path := by
  have hwhole : ∀ piece ∈ path.map String.toList, ∀ c ∈ piece, isSlash c = false := by
    intro piece hpiece c hc
    obtain ⟨segment, hsegment, rfl⟩ := List.mem_map.mp hpiece
    simpa [isSlash] using hsingle segment hsegment c hc
  have hpieces : path.text.toList = [('/' : Char)].intercalate (path.map String.toList) := String.toList_intercalate
  rw [written, hpieces, Text.splitOnP_intercalate rfl (mt List.map_eq_nil_iff.mp hsome) hwhole, List.map_map]
  exact List.map_id'' (fun segment => String.ofList_toList) path

/-! ## 2. Starts -/

/-- The segment starts with the letter of a drive. -/
def NamesDrive (segment : String) : Prop :=
  ∃ c rest, (('a' ≤ c ∧ c ≤ 'z') ∨ ('A' ≤ c ∧ c ≤ 'Z')) ∧ segment.toList = c :: ':' :: rest

/-- A name starts with its first segment, and a slash or nothing follows. -/
theorem exists_eq_append_of_written (h : written name = first :: rest) :
    ∃ tail, name.toList = first.toList ++ tail ∧ ∀ c ∈ tail.head?, isSlash c = true := by
  obtain ⟨piece, pieces, hpieces, rfl, -⟩ := List.map_eq_cons_iff.mp h
  rw [String.toList_ofList]
  exact Text.exists_eq_append_of_splitOnP hpieces

theorem Rooted.empty_or_namesDrive (hrooted : Rooted name) (h : written name = first :: rest) :
    (first = "" ∧ name ≠ "") ∨ NamesDrive first := by
  have hsingle := single_of_mem_written (h ▸ List.mem_cons_self : first ∈ written name)
  obtain ⟨tail, hname, htail⟩ := exists_eq_append_of_written h
  cases hfirst : first.toList with
  | nil =>
    refine .inl ⟨String.toList_eq_nil_iff.mp hfirst, ?_⟩
    rintro rfl
    cases hrooted with
    | slash start | backslash start | drive _ start => cases start
  | cons c cs =>
    right
    rw [hfirst] at hname hsingle
    cases hrooted with
    | slash start =>
      obtain ⟨rfl, -⟩ := List.cons.inj (hname.symm.trans start)
      exact absurd rfl (hsingle '/' List.mem_cons_self).1
    | backslash start =>
      obtain ⟨rfl, -⟩ := List.cons.inj (hname.symm.trans start)
      exact absurd rfl (hsingle '\\' List.mem_cons_self).2
    | drive letter start =>
      obtain ⟨rfl, hcolon⟩ := List.cons.inj (hname.symm.trans start)
      cases cs with
      | nil =>
        -- what follows a segment is a slash and no colon
        have hhead : tail.head? = some ':' := congrArg List.head? hcolon
        cases htail ':' hhead
      | cons d cs =>
        obtain ⟨rfl, -⟩ := List.cons.inj hcolon
        exact ⟨c, cs, letter, hfirst⟩

/-- How a name starts can be told from its first segment, which is empty in front of a slash. -/
theorem rooted_iff (h : written name = first :: rest) :
    Rooted name ↔ (first = "" ∧ name ≠ "") ∨ NamesDrive first := by
  refine ⟨fun hrooted => hrooted.empty_or_namesDrive h, ?_⟩
  obtain ⟨tail, hname, htail⟩ := exists_eq_append_of_written h
  rintro (⟨rfl, hsome⟩ | ⟨c, cs, letter, hfirst⟩)
  · cases tail with
    | nil => exact absurd (String.toList_eq_nil_iff.mp hname) hsome
    | cons c cs =>
      rcases (isSlash_iff c).mp (htail c rfl) with rfl | rfl
      · exact .slash hname
      · exact .backslash hname
  · rw [hfirst] at hname
    exact .drive letter hname

/-! ## 3. Accepted once more -/

/-- A path with the letter of a drive in front is only there behind a dot. -/
theorem dot_of_namesDrive (h : Judged name (.ok path)) (hdrive : ∃ first ∈ path.head?, NamesDrive first) :
    (written name).head? = some "." := by
  cases h with
  | accepted start _ busy =>
    obtain ⟨first, hfirst, hdrive⟩ := hdrive
    obtain ⟨segment, hsegment, hbusy⟩ := busy
    cases hwritten : written name with
    | nil =>
      rw [hwritten] at hsegment
      cases hsegment
    | cons segment' rest =>
      rw [rooted_iff hwritten, not_or] at start
      by_cases hidle : Idle segment'
      · rcases hidle with rfl | rfl
        · -- an empty segment in front of no slash is all that there is
          have hempty : name = "" := Classical.byContradiction fun hsome => start.1 ⟨rfl, hsome⟩
          rw [hempty] at hsegment
          cases List.mem_singleton.mp hsegment
          exact absurd (.inl rfl) hbusy
        · rfl
      · rw [hwritten, List.filter_cons_of_pos (by simpa using hidle)] at hfirst
        cases hfirst
        exact absurd hdrive start.2

/-- Written out, a path starts outside of the roots only with the letter of a drive, and if its first segment does. -/
theorem rooted_text_iff (hdown : ∀ segment ∈ first :: rest, LeadsDown segment) :
    Rooted (text (first :: rest)) ↔ NamesDrive first := by
  have hbusy : first ≠ "" := fun hempty => (hdown first List.mem_cons_self).busy (.inl hempty)
  rw [rooted_iff (written_text (List.cons_ne_nil _ _) fun segment hmem => (hdown segment hmem).single)]
  exact or_iff_right fun hempty => hbusy hempty.1

theorem isSlash_head_text (hdown : ∀ segment ∈ first :: rest, LeadsDown segment) :
    ∀ c ∈ (text (first :: rest)).toList.head?, isSlash c = false := by
  intro c hc
  obtain ⟨hfirst, -⟩ := List.forall_mem_cons.mp hdown
  have hwritten := written_text (List.cons_ne_nil _ _) fun segment hmem => (hdown segment hmem).single
  obtain ⟨tail, htext, -⟩ := exists_eq_append_of_written hwritten
  cases hchars : first.toList with
  | nil => exact absurd (.inl (String.toList_eq_nil_iff.mp hchars)) hfirst.busy
  | cons d cs =>
    rw [htext, hchars] at hc
    cases hc
    have hsingle := hfirst.single c (hchars ▸ List.mem_cons_self)
    simpa [isSlash] using hsingle

/-- The text of segments that lead down is judged to be the path of these segments, if it does not start outside of the
roots. -/
theorem judged_text (hsome : path ≠ []) (hdown : ∀ segment ∈ path, LeadsDown segment) (hstart : ¬ Rooted path.text) :
    Judged path.text (.ok path) := by
  have hwritten : written path.text = path := written_text hsome fun segment hmem => (hdown segment hmem).single
  have hall : path.filter (fun segment => ¬ Idle segment) = path :=
    List.filter_eq_self.mpr fun segment hmem => decide_eq_true (hdown segment hmem).busy
  obtain ⟨segment, hsegment⟩ := List.exists_mem_of_ne_nil path hsome
  have haccepted : Judged path.text (.ok ((written path.text).filter fun segment => ¬ Idle segment)) := by
    refine .accepted hstart (fun hup => ?_) ⟨segment, ?_, (hdown segment hsegment).busy⟩
    · rw [hwritten] at hup
      exact (hdown ".." hup).down rfl
    · rw [hwritten]
      exact hsegment
  rwa [hwritten, hall] at haccepted

/-- **An accepted path is accepted again, unless the letter of a drive stands in front of it.** Written out it is never
empty, and never starts with a slash or goes up. As a name it is the same path, or else it is refused for starting with
the letter of a drive, and then that letter stood behind a dot in the name it comes from. -/
theorem normalize_text (h : normalize name = .ok path) :
    (path.text ≠ "" ∧ (∀ c ∈ path.text.toList.head?, isSlash c = false) ∧ ".." ∉ written path.text) ∧
    ((¬ ∃ first ∈ path.head?, NamesDrive first) → normalize path.text = .ok path) ∧
    ((∃ first ∈ path.head?, NamesDrive first) →
      normalize path.text = .error (.absolute path.text) ∧ (written name).head? = some ".") := by
  have hjudged := (normalize_eq_iff name _).mp h
  obtain ⟨hsome, hdown⟩ := hjudged.leadsDown
  have hwritten : written path.text = path := written_text hsome fun segment hmem => (hdown segment hmem).single
  obtain ⟨first, rest, rfl⟩ := List.exists_cons_of_ne_nil hsome
  refine ⟨⟨?_, isSlash_head_text hdown, ?_⟩, fun hplain => ?_, fun hdrive => ⟨?_, dot_of_namesDrive hjudged hdrive⟩⟩
  · intro hempty
    rw [hempty] at hwritten
    exact (hdown first List.mem_cons_self).busy (.inl (List.cons.inj hwritten).1.symm)
  · rw [hwritten]
    exact fun hup => (hdown ".." hup).down rfl
  · have hstart : ¬ Rooted (text (first :: rest)) := fun hrooted =>
      hplain ⟨first, rfl, (rooted_text_iff hdown).mp hrooted⟩
    exact (normalize_eq_iff _ _).mpr (judged_text hsome hdown hstart)
  · obtain ⟨segment, hsegment, hnames⟩ := hdrive
    cases hsegment
    exact (normalize_eq_iff _ _).mpr (.absolute ((rooted_text_iff hdown).mpr hnames))

/-- Backslashes, an empty segment and dots are not in the text of the path. -/
theorem normalize_text_of_parts :
    normalize ".\\a//b/." = .ok ["a", "b"] ∧ text ["a", "b"] = "a/b" ∧ normalize "a/b" = .ok ["a", "b"] := by
  have h : normalize ".\\a//b/." = .ok ["a", "b"] := rfl
  have hplain : ¬ ∃ first ∈ (["a", "b"] : Path).head?, NamesDrive first := by
    rintro ⟨first, hfirst, c, rest, -, hdrive⟩
    cases hfirst
    cases hdrive
  exact ⟨h, rfl, (normalize_text h).2.1 hplain⟩

/-- A drive behind a dot is accepted, and written out it is refused. -/
theorem normalize_drive_behind_dot :
    normalize "./C:/x" = .ok ["C:", "x"] ∧ text ["C:", "x"] = "C:/x" ∧
      normalize "C:/x" = .error (.absolute "C:/x") :=
  ⟨rfl, rfl, rfl⟩

end Path

end Stencil
