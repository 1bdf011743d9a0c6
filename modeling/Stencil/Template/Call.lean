/-!
Calls.

What stands inside a tag is a call: a head and its arguments, positional ones first come first and named ones
with their names. An argument is a quoted literal, a bare word, another call in parentheses, or the mark of a
parenthesis without a partner. Neither kind of argument has a meaning here; that is found when the call is
evaluated.
-/

namespace Stencil.Template

/-- An argument of a call, or its head. -/
inductive Argument where
  /-- A quoted literal, always a string. -/
  | quoted (s : String)
  /-- A word: a keyword, a number, a path, or text that stands for itself. -/
  | bare (word : String)
  /-- A call in parentheses. -/
  | sub (head : Argument) (positional : List Argument) (named : List (String × Argument))
  /-- A parenthesis without a partner, or a pair of them around nothing. -/
  | unbalanced
  deriving Inhabited

/-- A head with its arguments. -/
structure Call where
  head : Argument
  positional : List Argument
  named : List (String × Argument)
  deriving Inhabited

namespace Call

/-- The call as an argument of another one. -/
def toArgument (call : Call) : Argument := .sub call.head call.positional call.named

/-- The name that a call goes by, when its head is a word. -/
def name? (call : Call) : Option String :=
  match call.head with
  | .bare word => some word
  | _ => none

/-- Whether the call has any argument. -/
def hasArguments (call : Call) : Bool := !call.positional.isEmpty || !call.named.isEmpty

end Call

/-! ## Balance -/

mutual

/-- Whether the mark of a lone parenthesis stands anywhere in an argument. -/
def Argument.hasUnbalanced : Argument → Bool
  | .unbalanced => true
  | .sub head positional named => head.hasUnbalanced || anyUnbalanced positional || anyUnbalancedNamed named
  | _ => false

/-- Whether the mark stands in one of the arguments. -/
def anyUnbalanced : List Argument → Bool
  | [] => false
  | a :: as => a.hasUnbalanced || anyUnbalanced as

/-- Whether the mark stands in one of the named arguments. -/
def anyUnbalancedNamed : List (String × Argument) → Bool
  | [] => false
  | (_, a) :: as => a.hasUnbalanced || anyUnbalancedNamed as

end

/-- Whether the mark of a lone parenthesis stands anywhere in a call. -/
def Call.hasUnbalanced (call : Call) : Bool := call.toArgument.hasUnbalanced

end Stencil.Template
