import Stencil.Helper.Args
import Stencil.Scope
import Stencil.Text.Blank

/-!
Registered helpers.

The application around a render may bring helpers of its own. A regular helper comes to a value, a block helper
to text, for which it may have the branches of its block rendered as often as it likes. What a helper is, is
fixed by the number of its parameters, and that number is declared with it and checked.

Helpers are registered in the order of rising precedence: those of the framework, those of plugins, the last
plugin first, and those of the site. A later helper takes the place of an earlier one of the same name and
kind.
-/

namespace Stencil

/-! ## 1. Handlers -/

/-- Whether a helper comes to a value or to rendered text. -/
inductive HelperKind where
  | regular
  | block
  deriving DecidableEq, Repr

/-- The name of a kind. -/
def HelperKind.text : HelperKind → String
  | .regular => "regular"
  | .block => "block"

/-- The number of parameters of a helper of a kind: the arguments, the bindings, and for blocks the branches. -/
def HelperKind.arity : HelperKind → Nat
  | .regular => 2
  | .block => 3

/-- The kind of helpers with so many parameters. -/
def HelperKind.ofArity? (n : Nat) : Option HelperKind :=
  if n = 2 then some .regular else if n = 3 then some .block else none

/-- What a block helper does with its branches. It may have one rendered, with bindings of its choice, go on
with the text, and so on, until it comes to a result. -/
inductive BlockRun where
  | done (result : HelperResult String)
  | body (bindings : Fields Value) (next : String → BlockRun)
  | inverse (bindings : Fields Value) (next : String → BlockRun)

/-- What a helper does, with the arguments and the bindings in force; a block helper also learns whether there
is a second branch. -/
inductive Handler where
  | regular (run : Args → Scope → HelperResult Value)
  | block (run : Args → Scope → Bool → BlockRun)

/-- The kind of a handler. -/
def Handler.kind : Handler → HelperKind
  | .regular _ => .regular
  | .block _ => .block

/-! ## 2. Registration -/

/-- Who brought a helper. -/
inductive HelperSource where
  | framework
  | site
  | plugin (id : String)
  deriving DecidableEq, Repr

/-- The name of a source. -/
def HelperSource.text : HelperSource → String
  | .framework => "framework"
  | .site => "site"
  | .plugin id => "plugin:" ++ id

/-- A registered helper. -/
structure RegisteredHelper where
  source : HelperSource
  description : String
  sample : String
  handler : Handler

/-- The registered helpers by kind and name, in the order of first registration. -/
abbrev Registry := Fields RegisteredHelper (HelperKind × String)

/-- Why a helper was refused. -/
inductive RegistryError where
  /-- The name is blank. -/
  | emptyName
  /-- No kind of helper has so many parameters. -/
  | invalidArity (name : String) (arity : Nat)
  /-- The handler has another number of parameters. -/
  | arityMismatch (name : String) (declared actual : Nat)
  deriving DecidableEq, Repr

/-- The text of the error. -/
def RegistryError.message : RegistryError → String
  | .emptyName => "helper name must not be empty"
  | .invalidArity name arity =>
    "helper '" ++ name ++ "' has arity " ++ toString arity ++ "; expected 2 (regular) or 3 (block)"
  | .arityMismatch name declared actual =>
    "helper '" ++ name ++ "' declared with arity " ++ toString declared ++ " but its handler takes " ++
      toString actual

/-- A helper that asks to be registered, with the number of parameters declared for it. -/
structure Registration where
  name : String
  arity : Nat
  handler : Handler
  description : String
  sample : String

/-- Somebody who brings helpers. -/
structure Provider where
  id : String
  registrations : List Registration

namespace Registry

/-- The kind of an acceptable registration. -/
def check (r : Registration) : Except RegistryError HelperKind :=
  if (Text.trim r.name.toList).isEmpty then .error .emptyName
  else
    match HelperKind.ofArity? r.arity with
    | none => .error (.invalidArity r.name r.arity)
    | some kind =>
      if kind = r.handler.kind then .ok kind
      else .error (.arityMismatch r.name r.arity r.handler.kind.arity)

/-- Changes a registry, and may end in a refusal. What was registered before that stays registered. -/
abbrev Registering := EStateM RegistryError Registry

/-- Registers a helper. -/
def register (source : HelperSource) (r : Registration) : Registering Unit := do
  let kind ← MonadExcept.ofExcept (check r)
  modify (Fields.insert (kind, r.name) ⟨source, r.description, r.sample, r.handler⟩)

/-- Registers all helpers of a provider, up to the first that is refused. -/
def registerAll (source : HelperSource) (provider : Provider) : Registering Unit :=
  provider.registrations.forM (register source)

/-- Registers the helpers of all providers, in the order of rising precedence. -/
def registerFrom (framework plugins site : List Provider) : Registering Unit := do
  framework.forM (registerAll .framework)
  plugins.reverse.forM fun plugin => registerAll (.plugin plugin.id) plugin
  site.forM (registerAll .site)

/-- The registry of all helpers. -/
def load (framework plugins site : List Provider) : Except RegistryError Registry :=
  match registerFrom framework plugins site [] with
  | .ok _ registry => .ok registry
  | .error e _ => .error e

/-- The regular helper of a name. -/
def regular? (registry : Registry) (name : String) : Option (Args → Scope → HelperResult Value) :=
  match Fields.get? (HelperKind.regular, name) registry with
  | some ⟨_, _, _, .regular run⟩ => some run
  | _ => none

/-- The block helper of a name. -/
def block? (registry : Registry) (name : String) : Option (Args → Scope → Bool → BlockRun) :=
  match Fields.get? (HelperKind.block, name) registry with
  | some ⟨_, _, _, .block run⟩ => some run
  | _ => none

end Registry

end Stencil
