import Stencil.Text.Casing

/-!
Texts in ASCII.

There are 128 characters of ASCII, so what is to be known about one of them by itself can be looked up. In a text of
them letter case knows no rule but that of the letters A to Z: no letter becomes several, and there is no sigma.
-/

namespace Stencil.Text

/-- What holds of the first 128 characters holds of every character of ASCII. -/
theorem forall_ascii {p : Char → Prop} (h : ∀ n < 128, p (.ofNat n)) (c : Char) (hc : c.toNat < 128) : p c := by
  have hp := h c.toNat hc
  rwa [Char.ofNat_toNat] at hp

theorem lowerAfter_of_ascii {cs : List Char} (h : ∀ c ∈ cs, c.toNat < 128) (before : List Char) :
    lowerAfter before cs = cs.map Char.toLower := by
  induction cs generalizing before with
  | nil => rfl
  | cons c cs ih =>
    obtain ⟨hc, hcs⟩ := List.forall_mem_cons.mp h
    rw [lowerAfter, if_neg (by omega), lowerOf, if_pos hc, ih hcs, List.map_cons, List.singleton_append]

theorem lower_of_ascii {cs : List Char} (h : ∀ c ∈ cs, c.toNat < 128) : lower cs = cs.map Char.toLower :=
  lowerAfter_of_ascii h []

end Stencil.Text
