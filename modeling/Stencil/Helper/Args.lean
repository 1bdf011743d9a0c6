import Stencil.TemplateError
import Stencil.Value.Comparison

/-!
Arguments of helpers.

A helper gets the name it was called by, its positional arguments and its named ones, all evaluated. An argument
that was not given counts as null, so a helper that can do without never has to ask.
-/

namespace Stencil

/-- The evaluated arguments of one call. -/
structure Args where
  name : String
  positional : List Value
  named : Fields Value
  deriving Inhabited

/-- What a helper comes to. -/
abbrev HelperResult (α : Type) := Except HelperError α

namespace Args

/-- A positional argument; null when it was not given. -/
def get (args : Args) (i : Nat) : Value := args.positional.getD i .null

/-- The first positional argument, which most helpers are about. -/
def primary (args : Args) : Value := args.get 0

/-- The number of positional arguments. -/
def size (args : Args) : Nat := args.positional.length

/-- A positional argument as text. -/
def textAt (args : Args) (i : Nat) : String := (args.get i).text

/-- A positional argument as a number. -/
def numberAt (args : Args) (i : Nat) : Float := (args.get i).toNumber

/-- All positional arguments as one text. -/
def concat (args : Args) : String := String.join (args.positional.map Value.text)

/-- A named argument. -/
def named? (args : Args) (key : String) : Option Value := Fields.get? key args.named

/-- A named argument as text; null counts as not given. -/
def namedText? (args : Args) (key : String) : Option String :=
  ((args.named? key).filter (! ·.isNull)).map Value.text

/-- A named argument as a switch. Of strings only the word for yes turns it on. -/
def flag (args : Args) (key : String) : Bool :=
  match args.named? key with
  | some (.string s) => s == "true"
  | some v => v.isTruthy
  | none => false

/-- Refuses fewer positional arguments than needed. -/
def require (args : Args) (least : Nat) : HelperResult Unit :=
  if args.size < least then
    .error (.invalidArguments (args.name ++ " expects at least " ++ toString least ++ " argument" ++
      (if least = 1 then "" else "s") ++ ", got " ++ toString args.size))
  else .ok ()

end Args

end Stencil
