import Stencil.Template.Span

/-!
Places in a source.

A span counts bytes, and text is worked on as a list of characters, so every statement about a span has to say
where its two ends fall. An end is sound when a character of the source starts there or the source is over
(`Boundary`, which is the standard library's notion of a valid position); that is so exactly when the source can be
cut there into two texts. Between two sound ends a slice is the text that was cut out, and the slices of adjacent
spans join.
-/

namespace Stencil

namespace Text

/-! ## 1. Sizes -/

theorem byteSize_append (cs ds : List Char) : byteSize (cs ++ ds) = byteSize cs + byteSize ds := by
  induction cs with
  | nil => simp only [List.nil_append, byteSize, Nat.zero_add]
  | cons c cs ih => rw [List.cons_append, byteSize, byteSize, ih, Nat.add_assoc]

/-- Every character takes a byte at least. -/
theorem eq_nil_of_byteSize {cs : List Char} (h : byteSize cs = 0) : cs = [] := by
  cases cs with
  | nil => rfl
  | cons c cs =>
    have := c.utf8Size_pos
    rw [byteSize] at h
    omega

theorem byteSize_pos {cs : List Char} (h : cs ≠ []) : 0 < byteSize cs :=
  Nat.pos_of_ne_zero fun hzero => h (eq_nil_of_byteSize hzero)

/-- A text that is not empty takes a byte at least; without its first character it takes what the others take. -/
theorem byteSize_cons_eq_succ (c : Char) (cs : List Char) :
    ∃ n, byteSize (c :: cs) = n + 1 ∧ c.utf8Size ≤ n + 1 ∧ n + 1 - c.utf8Size = byteSize cs := by
  obtain ⟨n, hn⟩ := Nat.exists_eq_add_one.mpr (byteSize_pos (List.cons_ne_nil c cs))
  have hsize : c.utf8Size + byteSize cs = n + 1 := hn
  exact ⟨n, hn, by omega, by omega⟩

theorem utf8ByteSize_ofList (cs : List Char) : (String.ofList cs).utf8ByteSize = byteSize cs := by
  induction cs with
  | nil => rfl
  | cons c cs ih =>
    have hsplit : String.ofList (c :: cs) = String.singleton c ++ String.ofList cs := by
      rw [String.singleton_eq_ofList, ← String.ofList_append, List.singleton_append]
    rw [hsplit, String.utf8ByteSize_append, String.utf8ByteSize_singleton, ih, byteSize]

theorem utf8ByteSize_eq (s : String) : s.utf8ByteSize = byteSize s.toList := by
  rw [← utf8ByteSize_ofList, String.ofList_toList]

/-! ## 2. Slices -/

theorem dropBytes?_append (cs rest : List Char) :
    byteSlice.dropBytes? (byteSize cs) (cs ++ rest) = some rest := by
  induction cs with
  | nil => rw [byteSize, List.nil_append, byteSlice.dropBytes?]
  | cons c cs ih =>
    obtain ⟨n, hn, hle, hrest⟩ := byteSize_cons_eq_succ c cs
    rw [hn, List.cons_append, byteSlice.dropBytes?, if_pos hle, hrest, ih]

theorem takeBytes?_append (cs rest : List Char) :
    byteSlice.takeBytes? (byteSize cs) (cs ++ rest) = some cs := by
  induction cs with
  | nil => rw [byteSize, byteSlice.takeBytes?]
  | cons c cs ih =>
    obtain ⟨n, hn, hle, hrest⟩ := byteSize_cons_eq_succ c cs
    rw [hn, List.cons_append, byteSlice.takeBytes?, if_pos hle, hrest, ih, Option.map_some]

/-- A text that was put between two others is cut out again. -/
theorem byteSlice_append (before cs after : List Char) :
    byteSlice (byteSize before) (byteSize before + byteSize cs) (before ++ (cs ++ after)) = cs := by
  rw [byteSlice, dropBytes?_append]
  simp only
  rw [if_neg (by omega), Nat.add_sub_cancel_left, takeBytes?_append, Option.getD_some]

end Text

open Text

/-! ## 3. Boundaries -/

/-- A byte of the source at which a character starts, or its end. -/
def Boundary (source : String) (n : Nat) : Prop := String.Pos.Raw.IsValid source ⟨n⟩

/-- The boundaries are the places where a source can be cut in two. -/
theorem boundary_iff {source : String} {n : Nat} :
    Boundary source n ↔ ∃ before after, source.toList = before ++ after ∧ byteSize before = n := by
  rw [Boundary, String.Pos.Raw.isValid_iff_exists_append]
  constructor
  · rintro ⟨s, t, rfl, hn⟩
    refine ⟨s.toList, t.toList, String.toList_append, ?_⟩
    rw [← utf8ByteSize_eq]
    exact (congrArg String.Pos.Raw.byteIdx hn).symm
  · rintro ⟨before, after, hsource, rfl⟩
    refine ⟨.ofList before, .ofList after, ?_, ?_⟩
    · rw [← String.ofList_append, ← hsource, String.ofList_toList]
    · rw [← utf8ByteSize_ofList]
      rfl

/-- A source that is cut in two is cut again at a later boundary. -/
theorem exists_eq_append {source : String} {before rest : List Char} {n : Nat} (hsource : source.toList = before ++ rest)
    (hn : Boundary source n) (hle : byteSize before ≤ n) :
    ∃ cs after, rest = cs ++ after ∧ byteSize before + byteSize cs = n := by
  obtain ⟨longer, after, hsource', rfl⟩ := boundary_iff.mp hn
  rw [hsource] at hsource'
  -- of two texts that a source starts with, one starts with the other
  rcases List.append_eq_append_iff.mp hsource' with ⟨cs, rfl, rfl⟩ | ⟨cs, rfl, rfl⟩
  · exact ⟨cs, after, rfl, (byteSize_append before cs).symm⟩
  · rw [byteSize_append] at hle
    obtain rfl : cs = [] := eq_nil_of_byteSize (by omega)
    exact ⟨[], rest, rfl, by rw [List.append_nil, byteSize, Nat.add_zero]⟩

/-! ## 4. Spans -/

namespace Span

/-- The span lies in the source and cuts no character. -/
structure LiesIn (span : Span) (source : String) : Prop where
  start : Boundary source span.start
  stop : Boundary source span.stop
  ordered : span.start ≤ span.stop

/-- The place of a text that comes after another one. -/
def following (before cs : List Char) : Span := ⟨byteSize before, byteSize before + byteSize cs⟩

variable {source : String} {before cs after : List Char}

theorem stop_following (before cs : List Char) : (following before cs).stop = byteSize (before ++ cs) :=
  (byteSize_append before cs).symm

theorem following_proper (h : cs ≠ []) : (following before cs).start < (following before cs).stop :=
  Nat.lt_add_of_pos_right (byteSize_pos h)

theorem following_liesIn (h : source.toList = before ++ (cs ++ after)) : (following before cs).LiesIn source where
  start := boundary_iff.mpr ⟨before, cs ++ after, h, rfl⟩
  stop := boundary_iff.mpr ⟨before ++ cs, after, by rw [h, List.append_assoc], byteSize_append before cs⟩
  ordered := Nat.le_add_right _ _

theorem slice_following (h : source.toList = before ++ (cs ++ after)) :
    (following before cs).slice source = .ofList cs := by
  rw [slice, following, h, byteSlice_append]

/-- The slices of two adjacent spans join. -/
theorem slice_append {start middle stop : Nat} (hfirst : LiesIn ⟨start, middle⟩ source)
    (hsecond : LiesIn ⟨middle, stop⟩ source) :
    slice ⟨start, stop⟩ source = slice ⟨start, middle⟩ source ++ slice ⟨middle, stop⟩ source := by
  obtain ⟨before, rest, hsource, rfl⟩ := boundary_iff.mp hfirst.start
  obtain ⟨cs, rest, rfl, rfl⟩ := exists_eq_append hsource hfirst.stop hfirst.ordered
  rw [← List.append_assoc] at hsource
  rw [← byteSize_append] at hsecond ⊢
  obtain ⟨ds, after, rfl, rfl⟩ := exists_eq_append hsource hsecond.stop hsecond.ordered
  rw [List.append_assoc] at hsource
  have hwhole : slice (following before (cs ++ ds)) source = .ofList (cs ++ ds) :=
    slice_following (by rw [hsource, List.append_assoc])
  have hleft : slice (following before cs) source = .ofList cs := slice_following hsource
  have hright : slice (following (before ++ cs) ds) source = .ofList ds :=
    slice_following (by rw [hsource, List.append_assoc])
  rw [following, byteSize_append, ← Nat.add_assoc, ← byteSize_append] at hwhole
  rw [following, ← byteSize_append] at hleft
  rw [following] at hright
  rw [hwhole, hleft, hright, String.ofList_append]

end Span

end Stencil
