/-!
Decimal digits of natural numbers.

`digits` writes a number and `value?` reads one; each of the two is a structural or well-founded recursion
that a proof can follow, and `value?_digits` says that reading undoes writing. Numbers with a fixed width,
as in dates, are `padded`.
-/

namespace Stencil.Number

/-! Powers of whole numbers are the core ones, whatever else is in scope. -/

attribute [instance (high), default_instance 20000] instPowNat

/-! ## 1. One digit -/

/-- The digit for a number below ten. -/
def digitChar (d : Nat) : Char := .ofNat (48 + d % 10)

/-- The number that a digit stands for. -/
def digitValue? (c : Char) : Option Nat := if c.isDigit then some (c.toNat - 48) else none

theorem isDigit_digitChar (d : Nat) : (digitChar d).isDigit = true := by
  have h : d % 10 < 10 := Nat.mod_lt _ (by omega)
  unfold digitChar
  generalize d % 10 = k at h
  match k, h with
  | 0, _ | 1, _ | 2, _ | 3, _ | 4, _ | 5, _ | 6, _ | 7, _ | 8, _ | 9, _ => decide

theorem digitValue?_digitChar {d : Nat} (h : d < 10) : digitValue? (digitChar d) = some d := by
  match d, h with
  | 0, _ | 1, _ | 2, _ | 3, _ | 4, _ | 5, _ | 6, _ | 7, _ | 8, _ | 9, _ => decide

/-! ## 2. Whole numbers -/

/-- The digits of a number, without leading zeros. -/
def digits (n : Nat) : List Char :=
  if n < 10 then [digitChar n] else digits (n / 10) ++ [digitChar n]

/-- The digits of a number with zeros in front up to the given width. -/
def padded (width n : Nat) : List Char :=
  let ds := digits n
  List.replicate (width - ds.length) '0' ++ ds

/-- The number that `cs` continues `start` to, or `none` when a character is no digit. -/
def valueFrom? (start : Nat) : List Char → Option Nat
  | [] => some start
  | c :: cs => (digitValue? c).bind fun d => valueFrom? (10 * start + d) cs

/-- The number that a nonempty run of digits stands for. -/
def value? : List Char → Option Nat
  | [] => none
  | c :: cs => valueFrom? 0 (c :: cs)

/-- The number that `cs` continues `start` to, as long as it stays below a limit: digits behind the one with which it
reaches the limit are read but do not count. -/
def cappedFrom? (limit start : Nat) : List Char → Option Nat
  | [] => some start
  | c :: cs => (digitValue? c).bind fun d => cappedFrom? limit (if start < limit then 10 * start + d else start) cs

/-- The number that a nonempty run of digits stands for, exact as long as it is below a limit. -/
def capped? (limit : Nat) : List Char → Option Nat
  | [] => none
  | c :: cs => cappedFrom? limit 0 (c :: cs)

theorem valueFrom?_append (start : Nat) (as bs : List Char) :
    valueFrom? start (as ++ bs) = (valueFrom? start as).bind fun n => valueFrom? n bs := by
  induction as generalizing start with
  | nil => rfl
  | cons a as ih =>
    simp only [List.cons_append, valueFrom?]
    cases digitValue? a with
    | none => rfl
    | some d => exact ih _

theorem digits_ne_nil (n : Nat) : digits n ≠ [] := by
  unfold digits
  split <;> simp

theorem digitChar_mod (n : Nat) : digitChar n = digitChar (n % 10) := by
  simp [digitChar]

theorem valueFrom?_digits (n : Nat) : valueFrom? 0 (digits n) = some n := by
  induction n using Nat.strongRecOn with
  | _ n ih =>
    unfold digits
    split
    · next h => simp [valueFrom?, digitValue?_digitChar h]
    · next h =>
      rw [valueFrom?_append, ih (n / 10) (by omega), digitChar_mod]
      simp only [Option.bind_some, valueFrom?, digitValue?_digitChar (Nat.mod_lt n (by omega : 0 < 10)),
        Option.some.injEq]
      omega

/-- Reading undoes writing. -/
theorem value?_digits (n : Nat) : value? (digits n) = some n := by
  have h := valueFrom?_digits n
  cases hd : digits n with
  | nil => exact absurd hd (digits_ne_nil n)
  | cons c cs => rw [hd] at h; exact h

/-- Every character that is written is a digit. -/
theorem isDigit_of_mem_digits {n : Nat} {c : Char} (h : c ∈ digits n) : c.isDigit = true := by
  induction n using Nat.strongRecOn with
  | _ n ih =>
    unfold digits at h
    split at h
    · simp only [List.mem_singleton] at h; subst h; exact isDigit_digitChar n
    · simp only [List.mem_append, List.mem_singleton] at h
      rcases h with h | h
      · exact ih (n / 10) (by omega) h
      · subst h; exact isDigit_digitChar n

/-! ## 3. Signed numbers -/

/-- The text of an integer. -/
def intText (i : Int) : List Char := if i < 0 then '-' :: digits i.natAbs else digits i.natAbs

end Stencil.Number
