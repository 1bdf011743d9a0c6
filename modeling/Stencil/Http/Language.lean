import Stencil.Number.Numeral

/-!
Preferred languages.

A header lists languages with weights, a language without a weight having the full one. The preferred language
is the one with the greatest weight, the first of several; weights of zero and the star stand for no language.
-/

namespace Stencil.Http

open Stencil.Text Stencil.Number

/-- A language and its weight. -/
structure Preference where
  tag : String
  weight : Float32

namespace Preference

/-- The weight among the parameters of an entry: that of the first that is one, if it can be read, and else one. -/
def weightOf (parameters : List (List Char)) : Float32 :=
  match parameters.findSome? (stripPrefix? "q=".toList) with
  | some text => (readFloat32? (trim text)).getD 1
  | none => 1

/-- The preference that an entry of the header states. -/
def read? (entry : List Char) : Option Preference :=
  match (splitOn (· == ';') entry).map trim with
  | [] => none
  | tag :: parameters =>
    let weight := weightOf parameters
    if tag.isEmpty || tag == ['*'] || weight ≤ 0 then none else some ⟨.ofList tag, weight⟩

/-- The better of two preferences, the earlier one unless the later one has a greater weight. -/
def better (best : Option Preference) (p : Preference) : Option Preference :=
  match best with
  | some b => if b.weight < p.weight then some p else some b
  | none => some p

end Preference

/-- The language that a header prefers. -/
def preferredLanguage? (accept : String) : Option String :=
  let preferences := (splitOn (· == ',') accept.toList).filterMap Preference.read?
  (preferences.foldl Preference.better none).map (·.tag)

end Stencil.Http
