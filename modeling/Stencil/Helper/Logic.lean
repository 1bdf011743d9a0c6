import Stencil.Helper.Args

/-!
Logic and comparison.

These helpers have no name space of their own, and they work as blocks too. Both forms ask the one function
here for the truth of the arguments, so they cannot differ. Comparisons are lenient and need two arguments; a
pair without an order compares as no.
-/

namespace Stencil.Helper.Logic

/-- The names of these helpers, in the order of the catalogue. -/
def names : List String := ["and", "or", "not", "eq", "ne", "gt", "gte", "lt", "lte"]

/-- A test of the first two arguments. -/
def binary (args : Args) (test : Value → Value → Bool) : HelperResult Bool :=
  match args.require 2 with
  | .ok _ => .ok (test (args.get 0) (args.get 1))
  | .error e => .error e

/-- A test of the order of the first two arguments. -/
def ordered (args : Args) (test : Ordering → Bool) : HelperResult Bool :=
  binary args fun a b => ((a.looseCompare? b).map test).getD false

/-- The truth of a call; `none` when the name is not one of these. -/
def truth? (name : String) (args : Args) : Option (HelperResult Bool) :=
  match name with
  | "and" => some (.ok (!args.positional.isEmpty && args.positional.all Value.isTruthy))
  | "or" => some (.ok (args.positional.any Value.isTruthy))
  | "not" => some (.ok (!args.primary.isTruthy))
  | "eq" => some (binary args Value.looseEq)
  | "ne" => some (binary args fun a b => !a.looseEq b)
  | "gt" => some (ordered args (· == .gt))
  | "gte" => some (ordered args (· != .lt))
  | "lt" => some (ordered args (· == .lt))
  | "lte" => some (ordered args (· != .gt))
  | _ => none

end Stencil.Helper.Logic
