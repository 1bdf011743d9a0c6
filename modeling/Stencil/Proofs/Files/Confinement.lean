import Stencil.Proofs.Render.Coherence
import Stencil.Proofs.Text.Splitting

/-!
Names that stay below the roots.

A name in a template is taken apart at its slashes, and then it is either refused or it is a list of segments that
lead down from a root. Nothing but this keeps templates away from files that are not theirs, so it is said here
without the steps in which it is found out: by how a name starts and by which segments are written in it (`Judged`).
The causes come in an order. A start that leads away from the roots counts before a step up, and a step up counts
before there being nothing to name.

What is accepted has no step up and no slash in it, and so a location that a name is resolved to lies in the root that
was chosen for it, which is the first one that has the path.
-/

namespace Stencil

/-! ## 1. Segments -/

namespace Path

/-- The segments that are written in a name, which are what stands between its slashes. -/
def written (name : String) : List String := (name.toList.splitOnP isSlash).map String.ofList

/-- A segment that leads nowhere. -/
def Idle (segment : String) : Prop := segment = "" ∨ segment = "."

instance : DecidablePred Idle := fun segment => inferInstanceAs (Decidable (segment = "" ∨ segment = "."))

/-- A segment that leads one folder down. -/
structure LeadsDown (segment : String) : Prop where
  busy : ¬ Idle segment
  down : segment ≠ ".."
  single : ∀ c ∈ segment.toList, c ≠ '/' ∧ c ≠ '\\'

theorem segments_eq_filter (name : String) :
    segments name.toList = (written name).filter fun segment => ¬ Idle segment := by
  rw [segments, Text.splitOn_eq_splitOnP, written]
  refine List.filter_congr fun segment _ => ?_
  simp [Idle, bne, Bool.beq_eq_decide_eq]

theorem single_of_mem_written {name segment : String} (h : segment ∈ written name) :
    ∀ c ∈ segment.toList, c ≠ '/' ∧ c ≠ '\\' := by
  intro c hc
  obtain ⟨piece, hpiece, rfl⟩ := List.mem_map.mp h
  rw [String.toList_ofList] at hc
  have hslash := Text.eq_false_of_mem_splitOnP hpiece hc
  simpa [isSlash] using hslash

/-! ## 2. Names -/

/-- A name starts outside of the roots: with a slash of either kind, or with the letter of a drive. -/
inductive Rooted (name : String) : Prop
  | slash {rest} (start : name.toList = '/' :: rest)
  | backslash {rest} (start : name.toList = '\\' :: rest)
  | drive {c rest} (letter : ('a' ≤ c ∧ c ≤ 'z') ∨ ('A' ≤ c ∧ c ≤ 'Z')) (start : name.toList = c :: ':' :: rest)

/-- What a name has to be judged to be. -/
inductive Judged (name : String) : Except PathError Path → Prop
  | absolute (start : Rooted name) : Judged name (.error (.absolute name))
  | traversal (start : ¬ Rooted name) (up : ".." ∈ written name) : Judged name (.error (.traversal name))
  | nothing (start : ¬ Rooted name) (up : ".." ∉ written name) (idle : ∀ segment ∈ written name, Idle segment) :
      Judged name (.error (.notFound name))
  | accepted (start : ¬ Rooted name) (up : ".." ∉ written name) (busy : ∃ segment ∈ written name, ¬ Idle segment) :
      Judged name (.ok ((written name).filter fun segment => ¬ Idle segment))

theorem isAlpha_iff (c : Char) : c.isAlpha = true ↔ ('a' ≤ c ∧ c ≤ 'z') ∨ ('A' ≤ c ∧ c ≤ 'Z') := by
  change (decide ('A' ≤ c ∧ c ≤ 'Z') || (decide ('a' ≤ c) && decide (c ≤ 'z'))) = true ↔ _
  simp only [Bool.or_eq_true, Bool.and_eq_true, decide_eq_true_eq]
  exact or_comm

theorem isSlash_iff (c : Char) : isSlash c = true ↔ c = '/' ∨ c = '\\' := by
  simp [isSlash]

theorem isAbsolute_of_isSlash {c : Char} (rest : List Char) (h : isSlash c = true) :
    isAbsolute (c :: rest) = true := by
  unfold isAbsolute
  split
  · next hname =>
    cases hname
    rw [h, Bool.or_true]
  · next hname =>
    cases hname
    exact h
  · next hname => cases hname

theorem isAbsolute_iff (name : String) : isAbsolute name.toList = true ↔ Rooted name := by
  constructor
  · intro h
    unfold isAbsolute at h
    split at h
    · next c rest hname =>
      rw [Bool.or_eq_true, isAlpha_iff, isSlash_iff] at h
      rcases h with hletter | rfl | rfl
      · exact .drive hletter hname
      · exact .slash hname
      · exact .backslash hname
    · next c rest _ hname =>
      rw [isSlash_iff] at h
      rcases h with rfl | rfl
      · exact .slash hname
      · exact .backslash hname
    · cases h
  · intro h
    cases h with
    | slash start =>
      rw [start]
      exact isAbsolute_of_isSlash _ rfl
    | backslash start =>
      rw [start]
      exact isAbsolute_of_isSlash _ rfl
    | drive letter start => rw [start, isAbsolute, (isAlpha_iff _).mpr letter, Bool.true_or]

theorem up_mem_segments (name : String) : (segments name.toList).contains ".." = true ↔ ".." ∈ written name := by
  rw [segments_eq_filter, List.contains_iff_mem, List.mem_filter]
  exact and_iff_left (by decide)

theorem isEmpty_segments (name : String) :
    (segments name.toList).isEmpty = true ↔ ∀ segment ∈ written name, Idle segment := by
  rw [segments_eq_filter, List.isEmpty_iff, List.filter_eq_nil_iff]
  simp

/-- A name is taken for what it has to be judged to be, and for nothing else. -/
theorem normalize_eq_iff (name : String) (result : Except PathError Path) :
    normalize name = result ↔ Judged name result := by
  constructor
  · rintro rfl
    rw [normalize]
    simp only
    split
    · next hstart => exact .absolute ((isAbsolute_iff name).mp hstart)
    · next hstart =>
      rw [isAbsolute_iff] at hstart
      split
      · next hup => exact .traversal hstart ((up_mem_segments name).mp hup)
      · next hup =>
        rw [up_mem_segments] at hup
        split
        · next hempty => exact .nothing hstart hup ((isEmpty_segments name).mp hempty)
        · next hempty =>
          rw [isEmpty_segments] at hempty
          rw [segments_eq_filter]
          exact .accepted hstart hup (by simpa using hempty)
  · intro h
    rw [normalize]
    cases h with
    | absolute start => rw [if_pos ((isAbsolute_iff name).mpr start)]
    | traversal start up =>
      rw [if_neg (mt (isAbsolute_iff name).mp start), if_pos ((up_mem_segments name).mpr up)]
    | nothing start up idle =>
      rw [if_neg (mt (isAbsolute_iff name).mp start), if_neg (mt (up_mem_segments name).mp up),
        if_pos ((isEmpty_segments name).mpr idle)]
    | accepted start up busy =>
      have hbusy : ¬ ∀ segment ∈ written name, Idle segment := by simpa using busy
      rw [if_neg (mt (isAbsolute_iff name).mp start), if_neg (mt (up_mem_segments name).mp up),
        if_neg (mt (isEmpty_segments name).mp hbusy), segments_eq_filter]

/-- What a name is accepted as leads down, and leads somewhere. -/
theorem Judged.leadsDown {name : String} {path : Path} (h : Judged name (.ok path)) :
    path ≠ [] ∧ ∀ segment ∈ path, LeadsDown segment := by
  cases h with
  | accepted start up busy =>
    obtain ⟨segment, hsegment, hbusy⟩ := busy
    refine ⟨List.ne_nil_of_mem (List.mem_filter.mpr ⟨hsegment, by simpa using hbusy⟩), fun segment hmem => ?_⟩
    obtain ⟨hwritten, hbusy⟩ := List.mem_filter.mp hmem
    refine ⟨by simpa using hbusy, ?_, single_of_mem_written hwritten⟩
    rintro rfl
    exact up hwritten

end Path

/-! ## 3. Locations -/

namespace Disk

/-- **Names stay below the roots.** A name is refused when it starts outside of the roots, or else when it has a step
up, or else when it names nothing, and any other name is the list of its segments that lead anywhere. So what a name
is resolved to, whatever the roots hold, is either one of these refusals, or that no root has its path, or a
location in the first root that has it, under segments that lead down; and a file that is found there is that
root's. -/
theorem resolve_confined :
    (∀ name result, Path.normalize name = result ↔ Path.Judged name result) ∧
    ∀ (disk : Disk) (name : String),
      (∃ e, disk.resolve name = .error e ∧ Path.Judged name (.error e)) ∨
      ∃ path, Path.Judged name (.ok path) ∧ path ≠ [] ∧ (∀ segment ∈ path, Path.LeadsDown segment) ∧
        ((disk.resolve name = .error (.notFound name) ∧ ∀ root ∈ disk.roots, root.has path = false) ∨
          ∃ i, disk.resolve name = .ok ⟨some i, path⟩ ∧ disk.PicksRoot path i ∧
            ∀ file, disk.file? ⟨some i, path⟩ = some file →
              ∃ root, disk.roots[i]? = some root ∧ Fields.get? path root.files = some file) := by
  refine ⟨Path.normalize_eq_iff, fun disk name => ?_⟩
  cases hname : Path.normalize name with
  | error e =>
    refine .inl ⟨e, ?_, (Path.normalize_eq_iff name _).mp hname⟩
    rw [resolve, hname]
    rfl
  | ok path =>
    have hjudged := (Path.normalize_eq_iff name _).mp hname
    obtain ⟨hsome, hdown⟩ := hjudged.leadsDown
    refine .inr ⟨path, hjudged, hsome, hdown, ?_⟩
    rcases resolve_eq hname with ⟨i, hpicks, hresolve⟩ | ⟨hnone, hresolve⟩
    · refine .inr ⟨i, hresolve, hpicks, fun file hfile => ?_⟩
      exact file?_eq (fun hup => (hdown ".." hup).down rfl) hfile
    · exact .inl ⟨hresolve, hnone⟩

end Disk

end Stencil
