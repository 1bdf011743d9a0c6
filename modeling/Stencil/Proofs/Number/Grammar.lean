import Stencil.Proofs.Number.Digits
import Stencil.Proofs.Number.Whole
import Stencil.Proofs.Text.Ascii
import Stencil.Proofs.Text.Ends

/-!
Which texts are numbers.

Every bare word of a template is taken for a number or for a name, by a test that looks at the sign, at the first
character, at the set of all characters, and at last asks the reader of floating point text, which takes signs and names
of its own. Together these come to a grammar: a sign, digits with a fraction, and a power of ten. The grammar is
written down first, part by part. The reader takes a text apart from the left, so each of its steps is tied to one part
and to what may follow it.

A word of the grammar is then read as what it says. The reader does not fail on it, and what it comes to is a double
other than NaN, however long the digits or large the power: rounding ends in zero, in a finite double or in an infinity.
-/

namespace Stencil.Number

open Stencil.Text

/-! ## 1. The grammar -/

/-- One digit or more. -/
def IsDigits (cs : List Char) : Prop := cs ≠ [] ∧ ∀ c ∈ cs, c.isDigit = true

instance (cs : List Char) : Decidable (IsDigits cs) :=
  decidable_of_iff (cs ≠ [] ∧ cs.all Char.isDigit = true) (and_congr_right fun _ => List.all_eq_true)

/-- A sign, or nothing. -/
inductive IsSign : List Char → Prop
  | none : IsSign []
  | minus : IsSign ['-']
  | plus : IsSign ['+']

/-- Digits with an optional fraction. There is a digit before the point or behind it. -/
inductive IsMantissa : List Char → Prop
  | whole {ds : List Char} (hds : IsDigits ds) : IsMantissa ds
  | point {ds fs : List Char} (hds : IsDigits ds) (hfs : ∀ c ∈ fs, c.isDigit = true) : IsMantissa (ds ++ '.' :: fs)
  | fraction {fs : List Char} (hfs : IsDigits fs) : IsMantissa ('.' :: fs)

/-- A power of ten, or nothing. -/
inductive IsPower : List Char → Prop
  | none : IsPower []
  | power {mark : Char} {sign ds : List Char} (hmark : mark = 'e' ∨ mark = 'E') (hsign : IsSign sign)
      (hds : IsDigits ds) : IsPower (mark :: (sign ++ ds))

/-- A plain decimal number. -/
inductive IsDecimal : List Char → Prop
  | decimal {sign mantissa power : List Char} (hsign : IsSign sign) (hmantissa : IsMantissa mantissa)
      (hpower : IsPower power) : IsDecimal (sign ++ (mantissa ++ power))

/-- The characters that decimal numbers are made of. -/
def IsDecimalChar (c : Char) : Prop := c.isDigit = true ∨ c ∈ ['.', 'e', 'E', '-', '+']

instance (c : Char) : Decidable (IsDecimalChar c) := inferInstanceAs (Decidable (_ ∨ _))

variable {c : Char} {cs rest sign mantissa power : List Char}

/-! ## 2. Characters of a number -/

theorem IsSign.chars (h : IsSign sign) : ∀ c ∈ sign, IsDecimalChar c := by
  cases h with
  | none => exact List.forall_mem_nil _
  | minus => exact List.forall_mem_singleton.mpr (.inr (by decide))
  | plus => exact List.forall_mem_singleton.mpr (.inr (by decide))

theorem IsMantissa.chars (h : IsMantissa mantissa) : ∀ c ∈ mantissa, IsDecimalChar c := by
  have hpoint : IsDecimalChar '.' := .inr (by decide)
  cases h with
  | whole hds => exact fun c hc => .inl (hds.2 c hc)
  | point hds hfs =>
    refine List.forall_mem_append.mpr ⟨fun c hc => .inl (hds.2 c hc), ?_⟩
    exact List.forall_mem_cons.mpr ⟨hpoint, fun c hc => .inl (hfs c hc)⟩
  | fraction hfs => exact List.forall_mem_cons.mpr ⟨hpoint, fun c hc => .inl (hfs.2 c hc)⟩

theorem IsPower.chars (h : IsPower power) : ∀ c ∈ power, IsDecimalChar c := by
  cases h with
  | none => exact List.forall_mem_nil _
  | power hmark hsign hds =>
    refine List.forall_mem_cons.mpr ⟨?_, List.forall_mem_append.mpr ⟨hsign.chars, fun c hc => .inl (hds.2 c hc)⟩⟩
    rcases hmark with rfl | rfl
    · exact .inr (by decide)
    · exact .inr (by decide)

theorem IsDecimal.chars (h : IsDecimal cs) : ∀ c ∈ cs, IsDecimalChar c := by
  obtain ⟨hsign, hmantissa, hpower⟩ := h
  exact List.forall_mem_append.mpr ⟨hsign.chars, List.forall_mem_append.mpr ⟨hmantissa.chars, hpower.chars⟩⟩

/-- A mantissa starts with a digit or with the point. -/
theorem IsMantissa.exists_cons (h : IsMantissa mantissa) :
    ∃ c tail, mantissa = c :: tail ∧ (c.isDigit = true ∨ c = '.') := by
  cases h with
  | whole hds =>
    obtain ⟨c, tail, rfl⟩ := List.exists_cons_of_ne_nil hds.1
    exact ⟨c, tail, rfl, .inl (hds.2 c List.mem_cons_self)⟩
  | @point ds fs hds hfs =>
    obtain ⟨c, tail, rfl⟩ := List.exists_cons_of_ne_nil hds.1
    exact ⟨c, tail ++ '.' :: fs, rfl, .inl (hds.2 c List.mem_cons_self)⟩
  | @fraction fs hfs => exact ⟨'.', fs, rfl, .inr rfl⟩

/-- A power does not go on with the digits or the point before it. -/
theorem IsPower.head?_power (h : IsPower power) : ∀ c ∈ power.head?, c.isDigit = false ∧ c ≠ '.' := by
  cases h with
  | none => exact nofun
  | power hmark hsign hds =>
    intro c hc
    cases Option.mem_some.mp hc
    rcases hmark with rfl | rfl
    · exact ⟨by decide, by decide⟩
    · exact ⟨by decide, by decide⟩

/-! ## 3. The reader, part by part -/

theorem cappedFrom?_isSome_iff {limit start : Nat} :
    (cappedFrom? limit start cs).isSome ↔ ∀ c ∈ cs, c.isDigit = true := by
  induction cs generalizing start with
  | nil => simp [cappedFrom?]
  | cons c cs ih =>
    rw [cappedFrom?, digitValue?, List.forall_mem_cons]
    by_cases hc : c.isDigit = true
    · rw [if_pos hc, Option.bind_some, ih]
      exact (and_iff_right hc).symm
    · rw [if_neg hc, Option.bind_none]
      exact iff_of_false Bool.false_ne_true fun h => hc h.1

theorem capped?_isSome_iff {limit : Nat} : (capped? limit cs).isSome ↔ IsDigits cs := by
  cases cs with
  | nil => exact iff_of_false Bool.false_ne_true fun h => h.1 rfl
  | cons c cs =>
    rw [capped?, cappedFrom?_isSome_iff]
    exact (and_iff_right (List.cons_ne_nil c cs)).symm

/-- What is taken off in front is a sign. -/
theorem exists_sign (cs : List Char) : ∃ sign, IsSign sign ∧ cs = sign ++ (signOf cs).2 := by
  unfold signOf
  split
  · exact ⟨['-'], .minus, rfl⟩
  · exact ⟨['+'], .plus, rfl⟩
  · exact ⟨[], .none, rfl⟩

theorem signOf_eq_self (h : ∀ c ∈ cs.head?, c ≠ '-' ∧ c ≠ '+') : signOf cs = (false, cs) := by
  unfold signOf
  split
  · exact absurd rfl (h '-' rfl).1
  · exact absurd rfl (h '+' rfl).2
  · rfl

theorem signOf_append (hsign : IsSign sign) (h : ∀ c ∈ cs.head?, c ≠ '-' ∧ c ≠ '+') : (signOf (sign ++ cs)).2 = cs := by
  cases hsign with
  | none => rw [List.nil_append, signOf_eq_self h]
  | minus => rfl
  | plus => rfl

/-- Neither a digit nor the point is a sign. -/
theorem ne_sign (h : c.isDigit = true ∨ c = '.') : c ≠ '-' ∧ c ≠ '+' := by
  refine ⟨?_, ?_⟩
  · rintro rfl
    exact absurd h (by decide)
  · rintro rfl
    exact absurd h (by decide)

theorem readExponent?_isSome_iff : (readExponent? power).isSome ↔ IsPower power := by
  cases power with
  | nil => exact iff_of_true rfl .none
  | cons c cs =>
    by_cases hmark : c = 'e' ∨ c = 'E'
    · have hdigits : (readExponent? (c :: cs)).isSome = (capped? powerLimit (signOf cs).2).isSome := by
        rw [readExponent?, if_pos hmark]
        dsimp only
        cases capped? powerLimit (signOf cs).2 <;> rfl
      rw [hdigits, capped?_isSome_iff]
      constructor
      · intro hds
        obtain ⟨sign, hsign, hcs⟩ := exists_sign cs
        rw [hcs]
        exact .power hmark hsign hds
      · rintro (_ | ⟨-, hsign, hds⟩)
        rwa [signOf_append hsign]
        intro d hd
        exact ne_sign (.inl (hds.2 d (List.mem_of_mem_head? hd)))
    · rw [readExponent?, if_neg hmark]
      refine iff_of_false Bool.false_ne_true ?_
      rintro (_ | ⟨h, -, -⟩)
      exact hmark h

/-- What is taken off in front is digits. -/
theorem exists_digits {ds : List Char} (hspan : spanDigits cs = (ds, rest)) :
    cs = ds ++ rest ∧ ∀ c ∈ ds, c.isDigit = true := by
  obtain ⟨rfl, rfl⟩ := Prod.mk.inj hspan
  exact ⟨List.takeWhile_append_dropWhile.symm, fun _ hc => List.mem_takeWhile_imp hc⟩

/-- Digits without a point behind them are a numeral together with a power. -/
theorem read?_isSome_iff_of_whole {ds : List Char} (hspan : spanDigits cs = (ds, rest)) (hpoint : '.' ∉ rest.head?) :
    (Numeral.read? cs).isSome ↔ ds ≠ [] ∧ IsPower rest := by
  rw [Numeral.read?, hspan, ← readExponent?_isSome_iff]
  dsimp only
  split
  · exact absurd rfl hpoint
  · cases ds with
    | nil => simp
    | cons d ds => simp

/-- With a point behind them there may be digits on either side of it. -/
theorem read?_isSome_iff_of_point {ds fs after : List Char} (hspan : spanDigits cs = (ds, '.' :: after))
    (hfraction : spanDigits after = (fs, rest)) :
    (Numeral.read? cs).isSome ↔ (ds ≠ [] ∨ fs ≠ []) ∧ IsPower rest := by
  rw [Numeral.read?, hspan, ← readExponent?_isSome_iff]
  simp only [hfraction]
  cases ds with
  | nil =>
    cases fs with
    | nil => simp
    | cons f fs => simp
  | cons d ds => simp

/-- What is read as a numeral is a mantissa and a power. -/
theorem read?_isSome_iff :
    (Numeral.read? cs).isSome ↔ ∃ mantissa power, IsMantissa mantissa ∧ IsPower power ∧ cs = mantissa ++ power := by
  constructor
  · intro h
    obtain ⟨ds, rest, hspan⟩ : ∃ ds rest, spanDigits cs = (ds, rest) := ⟨_, _, rfl⟩
    obtain ⟨rfl, hds⟩ := exists_digits hspan
    by_cases hpoint : '.' ∈ rest.head?
    · obtain ⟨after, rfl⟩ : ∃ after, rest = '.' :: after := List.head?_eq_some_iff.mp hpoint
      obtain ⟨fs, rest, hfraction⟩ : ∃ fs rest, spanDigits after = (fs, rest) := ⟨_, _, rfl⟩
      obtain ⟨rfl, hfs⟩ := exists_digits hfraction
      obtain ⟨hsome, hpower⟩ := (read?_isSome_iff_of_point hspan hfraction).mp h
      by_cases hwhole : ds = []
      · have hfs : IsDigits fs := ⟨hsome.resolve_left (not_not_intro hwhole), hfs⟩
        exact ⟨'.' :: fs, rest, .fraction hfs, hpower, by rw [hwhole, List.nil_append, List.cons_append]⟩
      · exact ⟨ds ++ '.' :: fs, rest, .point ⟨hwhole, hds⟩ hfs, hpower, by rw [List.append_assoc, List.cons_append]⟩
    · obtain ⟨hwhole, hpower⟩ := (read?_isSome_iff_of_whole hspan hpoint).mp h
      exact ⟨ds, rest, .whole ⟨hwhole, hds⟩, hpower, rfl⟩
  · rintro ⟨mantissa, power, hmantissa, hpower, rfl⟩
    have hstop : ∀ c ∈ power.head?, c.isDigit = false := fun c hc => (hpower.head?_power c hc).1
    have hpoint (after : List Char) : ∀ c ∈ ('.' :: after).head?, c.isDigit = false := by
      intro c hc
      cases Option.mem_some.mp hc
      rfl
    cases hmantissa with
    | whole hds =>
      exact (read?_isSome_iff_of_whole (spanDigits_append hds.2 hstop) fun hc => (hpower.head?_power '.' hc).2 rfl).mpr
        ⟨hds.1, hpower⟩
    | point hds hfs =>
      rw [List.append_assoc, List.cons_append]
      exact (read?_isSome_iff_of_point (spanDigits_append hds.2 (hpoint _)) (spanDigits_append hfs hstop)).mpr
        ⟨.inl hds.1, hpower⟩
    | @fraction fs hfs =>
      have hspan : spanDigits ([] ++ '.' :: (fs ++ power)) = ([], '.' :: (fs ++ power)) :=
        spanDigits_append (List.forall_mem_nil _) (hpoint _)
      exact (read?_isSome_iff_of_point hspan (spanDigits_append hfs.2 hstop)).mpr ⟨.inr hfs.1, hpower⟩

/-! ## 4. The test -/

theorem lt_of_start (h : c.isDigit = true ∨ c = '.') : c.toNat < 128 := by
  rcases h with h | rfl
  · have hrange : c.toNat ≤ 57 := (Char.isDigit_iff_toNat.mp h).2
    omega
  · decide

/-- The reader of floating point text knows names, but none starts with a digit or a point. -/
theorem named?_eq_none (hc : c.isDigit = true ∨ c = '.') (cs : List Char) : FloatText.named? (c :: cs) = none := by
  have hlower : c.toLower ≠ 'i' ∧ c.toLower ≠ 'n' :=
    forall_ascii (p := fun c => c.isDigit = true ∨ c = '.' → c.toLower ≠ 'i' ∧ c.toLower ≠ 'n') (by decide) c
      (lt_of_start hc) hc
  have hname {name : String} {first : Char} (hhead : name.toList.head? = some first) (hfirst : c.toLower ≠ first) :
      String.ofList ((c :: cs).map Char.toLower) ≠ name := by
    rintro rfl
    rw [String.toList_ofList, List.map_cons] at hhead
    exact hfirst (Option.some.inj hhead)
  rw [FloatText.named?, if_neg, if_neg]
  · exact hname rfl hlower.2
  · exact not_or.mpr ⟨hname rfl hlower.1, hname rfl hlower.1⟩

/-- Floating point text that starts like a number without a sign is a numeral. -/
theorem read?_of_start (hc : c.isDigit = true ∨ c = '.') (cs : List Char) :
    FloatText.read? (c :: cs) = (Numeral.read? (c :: cs)).map .numeral := by
  rw [FloatText.read?, named?_eq_none hc]
  cases Numeral.read? (c :: cs) with
  | none => rfl
  | some n => rfl

theorem readFloat?_of_start (hc : c.isDigit = true ∨ c = '.') (cs : List Char) :
    readFloat? (c :: cs) = (Numeral.read? (c :: cs)).map Numeral.toFloat := by
  have hsign : signOf (c :: cs) = (false, c :: cs) :=
    signOf_eq_self fun d hd => Option.some.inj hd ▸ ne_sign hc
  rw [readFloat?, hsign]
  dsimp only
  rw [read?_of_start hc, Option.map_map]
  rfl

/-- Behind its sign a decimal number is a numeral. -/
theorem IsDecimal.exists_numeral (h : IsDecimal cs) :
    ∃ c tail n, (signOf cs).2 = c :: tail ∧ (c.isDigit = true ∨ c = '.') ∧ Numeral.read? (c :: tail) = some n := by
  obtain @⟨sign, mantissa, power, hsign, hmantissa, hpower⟩ := h
  have hread := read?_isSome_iff.mpr ⟨mantissa, power, hmantissa, hpower, rfl⟩
  obtain ⟨c, tail, rfl, hc⟩ := hmantissa.exists_cons
  obtain ⟨n, hn⟩ := Option.isSome_iff_exists.mp hread
  refine ⟨c, tail ++ power, n, signOf_append hsign fun d hd => ?_, hc, hn⟩
  exact Option.some.inj hd ▸ ne_sign hc

/-- The test comes to the grammar. -/
theorem looksNumeric_iff : looksNumeric cs = true ↔ IsDecimal cs := by
  obtain ⟨sign, hsign, hcs⟩ := exists_sign cs
  constructor
  · intro h
    simp only [looksNumeric, Bool.and_eq_true] at h
    obtain ⟨⟨hstart, -⟩, hread⟩ := h
    cases hbody : (signOf cs).2 with
    | nil =>
      rw [hbody] at hstart
      cases hstart
    | cons c tail =>
      simp only [hbody, Bool.or_eq_true, beq_iff_eq] at hstart
      rw [hbody, readFloat?_of_start hstart, Option.isSome_map] at hread
      obtain ⟨mantissa, power, hmantissa, hpower, heq⟩ := read?_isSome_iff.mp hread
      rw [hcs, hbody, heq]
      exact .decimal hsign hmantissa hpower
  · intro h
    obtain ⟨c, tail, n, hbody, hc, hn⟩ := h.exists_numeral
    have hchars : ∀ d ∈ c :: tail, IsDecimalChar d := by
      intro d hd
      refine h.chars d ?_
      rw [hcs, hbody]
      exact List.mem_append_right sign hd
    have hmarks : ∀ d ∈ ['.', 'e', 'E', '-', '+'],
        (d.isDigit || d == '.' || d == 'e' || d == 'E' || d == '-' || d == '+') = true := by simp
    simp only [looksNumeric, hbody, readFloat?_of_start hc, hn, Option.map_some, Option.isSome_some, Bool.and_true]
    rw [Bool.and_eq_true]
    refine ⟨by simpa using hc, List.all_eq_true.mpr fun d hd => ?_⟩
    rcases hchars d hd with hdigit | hmark
    · simp only [hdigit, Bool.true_or]
    · exact hmarks d hmark

/-! ## 5. Doubles other than NaN -/

section Rounding

open Float.Model Float.Model.UnpackedFloat

variable {u v : UnpackedFloat} {x : Float}

theorem isNaN_dite {p : Prop} [Decidable p] {f : p → UnpackedFloat} {g : ¬ p → UnpackedFloat}
    (hf : ∀ h, (f h).isNaN = false) (hg : ∀ h, (g h).isNaN = false) : (dite p f g).isNaN = false := by
  by_cases h : p
  · rw [dif_pos h, hf]
  · rw [dif_neg h, hg]

theorem isNaN_ite {p : Prop} [Decidable p] (hu : u.isNaN = false) (hv : v.isNaN = false) :
    (if p then u else v).isNaN = false := by
  rw [← dite_eq_ite]
  exact isNaN_dite (fun _ => hu) fun _ => hv

/-- The bits of NaN are those with the highest exponent and a mantissa that is not zero. -/
theorem isNaN_unpack_packComponents (sign : Sign) {exponent : BitVec 11} {mantissa : BitVec 52}
    (h : exponent ≠ -1#11 ∨ mantissa = 0#52) :
    (UnpackedFloat.unpack .binary64 (packComponents .binary64 sign exponent mantissa)).isNaN = false := by
  obtain ⟨b, hb⟩ : ∃ b, b = packComponents .binary64 sign exponent mantissa := ⟨_, rfl⟩
  have hexponent : unpackExponent b = exponent := by rw [hb, unpackExponent_packComponents]
  have hmantissa : unpackMantissa b = mantissa := by rw [hb, unpackMantissa_packComponents]
  rw [← hb]
  clear hb
  subst hexponent hmantissa
  delta UnpackedFloat.unpack
  dsimp only
  by_cases htop : unpackExponent b = -1#11
  · rw [if_pos htop, if_pos (h.resolve_left (not_not_intro htop))]
    rfl
  · rw [if_neg htop]
    exact isNaN_ite (isNaN_dite (fun _ => rfl) fun _ => rfl) rfl

/-- Nothing but NaN is packed as NaN. -/
theorem isNaN_unpack_pack (h : u.isNaN = false) : (Float.Model.pack u).unpack.isNaN = false := by
  change (UnpackedFloat.unpack .binary64 (UnpackedFloat.pack .binary64 u)).isNaN = false
  cases u with
  | notANumber => cases h
  | infinity sign => exact isNaN_unpack_packComponents sign (.inr rfl)
  | zero sign => exact isNaN_unpack_packComponents sign (.inl (by decide))
  | finite sign m e hm =>
    delta UnpackedFloat.pack
    dsimp only
    split
    · exact isNaN_unpack_packComponents sign (.inr rfl)
    · next hfits =>
      split
      · refine isNaN_unpack_packComponents sign (.inl fun heq => hfits ?_)
        have hexponent := congrArg BitVec.toNat heq
        rw [BitVec.toNat_ofNat] at hexponent
        change (e + 1023 + 52).toNat % 2 ^ 11 = 2 ^ 11 - 1 at hexponent
        change 2 ^ 11 ≤ (e + 1023 + 52).toNat + 1
        omega
      · exact isNaN_unpack_packComponents sign (.inl (by decide))

theorem isNaN_roundWithAccuracy (sign : Sign) (m : Nat) (e : Int) (accuracy : Accuracy) :
    (roundWithAccuracy .binary64 sign m e accuracy).isNaN = false := by
  rw [roundWithAccuracy]
  exact isNaN_dite (fun _ => rfl) fun _ => rfl

/-- A finite number other than zero. -/
def isProper : UnpackedFloat → Bool
  | .finite .. => true
  | _ => false

theorem isNaN_mul (hu : u.isNaN = false) (hv : isProper v = true) :
    (UnpackedFloat.mul .binary64 u v).isNaN = false := by
  cases v with
  | notANumber | infinity _ | zero _ => cases hv
  | finite _ _ _ _ =>
    cases u with
    | notANumber => cases hu
    | infinity _ | zero _ => rfl
    | finite _ _ _ _ => exact isNaN_roundWithAccuracy _ _ _ _

theorem isNaN_div (hu : u.isNaN = false) (hv : isProper v = true) :
    (UnpackedFloat.div .binary64 u v).isNaN = false := by
  cases v with
  | notANumber | infinity _ | zero _ => cases hv
  | finite _ _ _ _ =>
    cases u with
    | notANumber => cases hu
    | infinity _ | zero _ => rfl
    | finite _ _ _ _ => exact isNaN_roundWithAccuracy _ _ _ _

theorem isNaN_neg (hx : x.isNaN = false) : (-x).isNaN = false := by
  refine isNaN_unpack_pack (u := x.toModel.unpack.neg) ?_
  change x.toModel.unpack.isNaN = false at hx
  cases hparts : x.toModel.unpack with
  | notANumber =>
    rw [hparts] at hx
    cases hx
  | infinity _ => rfl
  | zero _ => rfl
  | finite _ _ _ _ => rfl

/-- A machine word is a number. -/
theorem isNaN_toFloat (n : UInt64) : n.toFloat.toModel.unpack.isNaN = false := by
  refine isNaN_unpack_pack (u := UnpackedFloat.ofUInt64 .binary64 n) ?_
  rw [UnpackedFloat.ofUInt64, UnpackedFloat.ofNat, UnpackedFloat.ofInt, UnpackedFloat.normalize]
  split
  · exact isNaN_roundWithAccuracy _ _ _ _
  · rfl
  · exact isNaN_roundWithAccuracy _ _ _ _

theorem isProper_powerOfTen : ∀ x ∈ Float.exactlyRepresentablePowersOfTen.toList, isProper x.toModel.unpack = true := by
  decide

theorem isNaN_unpacked_ofScientific (m : Nat) (e : Int) :
    (UnpackedFloat.ofScientific .binary64 m e).isNaN = false := by
  rw [UnpackedFloat.ofScientific]
  refine isNaN_dite (fun _ => rfl) fun _ => isNaN_ite rfl (isNaN_ite rfl (isNaN_ite ?_ ?_))
  · exact isNaN_mul rfl rfl
  · exact isNaN_div rfl rfl

/-- A number times a power of ten is read as a double that is zero, finite or infinite. -/
theorem isNaN_ofScientific (m : Nat) (negative : Bool) (e : Nat) : (Float.ofScientific m negative e).isNaN = false := by
  rw [Float.ofScientific]
  split
  · -- both are doubles, and the power is not zero
    have hpower (h) : isProper (getElem Float.exactlyRepresentablePowersOfTen e h).toModel.unpack = true :=
      isProper_powerOfTen _ (Array.getElem_mem_toList h)
    dsimp only
    split
    · exact isNaN_unpack_pack (isNaN_div (isNaN_toFloat _) (hpower _))
    · exact isNaN_unpack_pack (isNaN_mul (isNaN_toFloat _) (hpower _))
  · exact isNaN_unpack_pack (isNaN_unpacked_ofScientific m _)

end Rounding

theorem isNaN_floatOfScientific (m : Nat) (power : Int) : (floatOfScientific m power).isNaN = false := by
  rw [floatOfScientific]
  dsimp only
  split_ifs
  · rfl
  · rfl
  · rfl
  · exact isNaN_ofScientific _ _ _

theorem Numeral.isNaN_toFloat (n : Numeral) : n.toFloat.isNaN = false := isNaN_floatOfScientific _ _

/-! ## 6. Reading a number -/

/-- A decimal number is read, and not as NaN. -/
theorem IsDecimal.exists_readFloat? (h : IsDecimal cs) : ∃ x, readFloat? cs = some x ∧ x.isNaN = false := by
  obtain ⟨c, tail, n, hbody, hc, hn⟩ := h.exists_numeral
  have hread : readFloat? cs = some (if (signOf cs).1 then -n.toFloat else n.toFloat) := by
    rw [readFloat?]
    dsimp only
    rw [hbody, read?_of_start hc, hn]
    rfl
  refine ⟨_, hread, ?_⟩
  split
  · exact isNaN_neg n.isNaN_toFloat
  · exact n.isNaN_toFloat

theorem isBlank_of_isDecimalChar (h : IsDecimalChar c) : isBlank c = false := by
  have hmarks : ∀ c ∈ ['.', 'e', 'E', '-', '+'], isBlank c = false := by simp [isBlank]
  rcases h with h | h
  · exact isBlank_of_isDigit h
  · exact hmarks c h

theorem parse_of_looksNumeric {s : String} {x : Float} (h : looksNumeric s.toList = true)
    (hx : readFloat? s.toList = some x) : parse s = x := by
  have hdecimal := looksNumeric_iff.mp h
  have htrim : trim s.toList = s.toList :=
    trim_of_not_blank fun c hc => isBlank_of_isDecimalChar (hdecimal.chars c hc)
  have hsome : ¬ s.toList.isEmpty = true := by
    intro hempty
    rw [List.isEmpty_iff.mp hempty] at h
    cases h
  rw [parse, htrim]
  dsimp only
  rw [if_neg hsome, if_pos h, hx]
  rfl

/-- **Which words are numbers.** The test accepts the words of the grammar and no others. What it accepts, the reader
of numbers reads with the reader of floating point text, which does not fail on it, and never as NaN. -/
theorem decimals_recognised (s : String) :
    (looksNumeric s.toList = true ↔ IsDecimal s.toList) ∧
      (looksNumeric s.toList = true →
        ∃ x, readFloat? s.toList = some x ∧ parse s = x ∧ x.isNaN = false) := by
  refine ⟨looksNumeric_iff, fun h => ?_⟩
  obtain ⟨x, hx, hnumber⟩ := (looksNumeric_iff.mp h).exists_readFloat?
  exact ⟨x, hx, parse_of_looksNumeric h hx, hnumber⟩

/-- A number with all its parts, and a power far above the doubles. -/
theorem decimals_recognised_all_parts :
    looksNumeric "-12.50E+400".toList = true ∧
      ∃ x, readFloat? "-12.50E+400".toList = some x ∧ parse "-12.50E+400" = x ∧ x.isNaN = false := by
  have hwhole : IsDigits ['1', '2'] := by decide
  have hfraction : IsDigits ['5', '0'] := by decide
  have hpower : IsDigits ['4', '0', '0'] := by decide
  have hdecimal : IsDecimal "-12.50E+400".toList :=
    .decimal .minus (.point hwhole hfraction.2) (.power (.inr rfl) .plus hpower)
  have hnumeric := (decimals_recognised "-12.50E+400").1.mpr hdecimal
  exact ⟨hnumeric, (decimals_recognised "-12.50E+400").2 hnumeric⟩

end Stencil.Number
