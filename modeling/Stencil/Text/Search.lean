import Stencil.Text.Property

/-!
Search patterns.

A pattern says what a stretch of text has to look like. Patterns match by trying: of two alternatives the first
that leads to a match of the whole is taken, a greedy repetition takes as much as it can, a sparing one as
little as it must. Searching takes the leftmost match, and replacing goes on behind it.

Only single characters are repeated. What a repetition comes to at a place, together with all that has to match
behind it, is therefore decided by what the rest of the pattern comes to there and by what the repetition itself
comes to one character further on. So the text is surveyed once from its end to its start, and every place is
given what the repetitions come to at it; all other parts of a pattern are then matched by looking no further
than their own length. However a text is made up, the work grows with its length and no faster.
-/

namespace Stencil.Text

/-! ## 1. Patterns -/

/-- What a stretch of text looks like. -/
inductive Search where
  /-- One character of a class. -/
  | one (accepts : Char → Bool)
  /-- The place between a word character and none, or the other way round. -/
  | wordEdge
  /-- One pattern after the other. -/
  | both (first second : Search)
  /-- Either pattern; the first is tried first. -/
  | either (first second : Search)
  /-- Any number of characters of a class, as many or as few as the rest allows. -/
  | many (greedy : Bool) (accepts : Char → Bool)
  /-- Nothing. -/
  | nothing
  /-- A part whose text is kept under a number. -/
  | keep (number : Nat) (part : Search)

namespace Search

/-- A character in either case. The long s and the Kelvin sign count as their letters. -/
def letter (c : Char) : Search :=
  .one fun d => d.toLower == c || (c == 's' && d.toNat == 0x17F) || (c == 'k' && d.toNat == 0x212A)

/-- A character as it is. -/
def exactly (c : Char) : Search := .one (· == c)

/-- Patterns in a row. -/
def row : List Search → Search
  | [] => .nothing
  | [p] => p
  | p :: ps => .both p (row ps)

/-- One of several patterns. -/
def oneOf : List Search → Search
  | [] => .one fun _ => false
  | [p] => p
  | p :: ps => .either p (oneOf ps)

/-- A word in letters of either case. -/
def word (s : String) : Search := row (s.toList.map letter)

/-- A pattern or nothing. -/
def optional (p : Search) : Search := .either p .nothing

/-! ## 2. Places -/

/-- What a match comes to: how many characters are left behind it, and by the numbers of the parts it keeps how
many were left where a part starts and where it stops. -/
structure Outcome where
  left : Nat
  starts : List (Nat × Nat)
  stops : List (Nat × Nat)

/-- The outcome when a kept part stops with so many characters left. -/
def Outcome.stopPart (number left : Nat) (outcome : Outcome) : Outcome :=
  { outcome with stops := (number, left) :: outcome.stops }

/-- The outcome when a kept part starts with so many characters left. -/
def Outcome.startPart (number left : Nat) (outcome : Outcome) : Outcome :=
  { outcome with starts := (number, left) :: outcome.starts }

/-- A place in a text: the character before it, how many characters are left, what the repetitions of a pattern
come to at it, and what follows. -/
inductive Place where
  | atEnd (before : Option Char) (known : List (Option Outcome))
  | ahead (before : Option Char) (left : Nat) (known : List (Option Outcome)) (next : Char) (rest : Place)

namespace Place

/-- How many characters are left. -/
def left : Place → Nat
  | .atEnd .. => 0
  | .ahead _ left .. => left

/-- What the repetitions come to, as far as that is known. -/
def known : Place → List (Option Outcome)
  | .atEnd _ known => known
  | .ahead _ _ known .. => known

/-- The place with what one more repetition comes to. -/
def learn (outcome : Option Outcome) : Place → Place
  | .atEnd before known => .atEnd before (known ++ [outcome])
  | .ahead before left known next rest => .ahead before left (known ++ [outcome]) next rest

/-- What is known about the repetition with an index. -/
def outcome? (place : Place) (index : Nat) : Option Outcome := (place.known[index]?).join

/-- What a test of the place behind the next character gives, when the class accepts that character. -/
def step? (accepts : Char → Bool) (test : Place → Option Outcome) : Place → Option Outcome
  | .atEnd .. => none
  | .ahead _ _ _ next rest => if accepts next then test rest else none

/-- Whether a character is there and belongs to words. -/
def isWordAt : Option Char → Bool
  | some c => isWordPart c
  | none => false

/-- Whether a word starts or stops at the place. -/
def isWordEdge : Place → Bool
  | .atEnd before _ => isWordAt before
  | .ahead before _ _ next _ => isWordAt before != isWordPart next

end Place

/-! ## 3. Matching -/

/-- A repetition with all that has to match behind it. -/
structure Repetition where
  greedy : Bool
  accepts : Char → Bool
  onward : Place → Option Outcome

/-- A pattern made ready: its repetitions, of which each looks only at those before it, and what the pattern comes
to at a place where they are known. -/
structure Plan where
  repetitions : List Repetition
  test : Place → Option Outcome

/-- The plan with nothing more to match. -/
def Plan.finish : Plan := ⟨[], fun place => some ⟨place.left, [], []⟩⟩

/-- A plan with its test changed. -/
def Plan.mapTest (plan : Plan) (change : (Place → Option Outcome) → Place → Option Outcome) : Plan :=
  ⟨plan.repetitions, change plan.test⟩

/-- The plan of a pattern in front of another plan. -/
def before : Search → Plan → Plan
  | .one accepts, plan => plan.mapTest (Place.step? accepts)
  | .wordEdge, plan => plan.mapTest fun test place => (test place).filter fun _ => place.isWordEdge
  | .both first second, plan => first.before (second.before plan)
  | .either first second, plan =>
    let otherwise := second.before plan
    (first.before ⟨otherwise.repetitions, plan.test⟩).mapTest fun test place =>
      match test place with
      | some outcome => some outcome
      | none => otherwise.test place
  | .many greedy accepts, plan =>
    ⟨plan.repetitions ++ [⟨greedy, accepts, plan.test⟩], fun place => place.outcome? plan.repetitions.length⟩
  | .nothing, plan => plan
  | .keep number part, plan =>
    (part.before <| plan.mapTest fun test place => (test place).map (·.stopPart number place.left)).mapTest
      fun test place => (test place).map (·.startPart number place.left)

/-- The plan of a whole pattern. -/
def plan (p : Search) : Plan := p.before .finish

/-- What a repetition comes to at a place, where all repetitions before it are known. The greedy one first tries
to take the next character, the sparing one first tries to stop. -/
def Repetition.outcome? (r : Repetition) (place : Place) : Option Outcome :=
  let more := place.step? r.accepts (·.outcome? place.known.length)
  if r.greedy then
    match more with
    | some outcome => some outcome
    | none => r.onward place
  else
    match r.onward place with
    | some outcome => some outcome
    | none => more

/-- The place with what all repetitions come to at it. -/
def Plan.know (plan : Plan) (place : Place) : Place :=
  plan.repetitions.foldl (fun place r => place.learn (r.outcome? place)) place

/-- The first place of a text, surveyed from the end. -/
def Plan.survey (plan : Plan) (cs : List Char) : Place :=
  (cs.zip (none :: cs.map some)).foldr
    (fun (c, before) rest => plan.know (.ahead before (rest.left + 1) [] c rest))
    (plan.know (.atEnd cs.getLast? []))

/-! ## 4. Replacing -/

/-- A match: the text from where it starts, how many characters that is, and what it came to. -/
structure Match where
  text : List Char
  left : Nat
  outcome : Outcome

/-- The text that a match kept under a number; empty when that part was not used. -/
def Match.part (found : Match) (number : Nat) : List Char :=
  match found.outcome.starts.lookup number, found.outcome.stops.lookup number with
  | some start, some stop => (found.text.drop (found.left - start)).take (start - stop)
  | _, _ => []

/-- The text written so far, in reverse, and behind it the text from a place on, the first `skip` characters left
out, with its matches exchanged for what `new` makes of them. An empty match is none. -/
def replaceFrom (test : Place → Option Outcome) (new : Match → List Char) (skip : Nat) (written : List Char) :
    List Char → Place → List Char
  | c :: cs, .ahead before left known next rest =>
    match skip with
    | skip + 1 => replaceFrom test new skip written cs rest
    | 0 =>
      match test (.ahead before left known next rest) with
      | some outcome =>
        if outcome.left < left then
          replaceFrom test new (left - outcome.left - 1) ((new ⟨c :: cs, left, outcome⟩).reverseAux written) cs rest
        else replaceFrom test new 0 (c :: written) cs rest
      | none => replaceFrom test new 0 (c :: written) cs rest
  | _, _ => written.reverse

/-- The text with every match of a pattern exchanged. -/
def replace (p : Search) (new : Match → List Char) (cs : List Char) : List Char :=
  let plan := p.plan
  replaceFrom plan.test new 0 [] cs (plan.survey cs)

end Search

end Stencil.Text
