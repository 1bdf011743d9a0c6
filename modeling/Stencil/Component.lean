import Stencil.Template
import Stencil.TemplateError
import Stencil.Text.Casing
import Stencil.Value.Basic

/-!
Components.

A component is a piece of a template that was given a name and default parameters. It is declared under any
name of letters, digits, hyphens, low lines and dots, and used under the name in which every hyphen has become a
capital letter, dotted segment by dotted segment. Components live for one render.
-/

namespace Stencil

open Text

/-! ## 1. Names -/

namespace Component

/-- A segment of a name with its hyphens gone and the characters after them as capitals. A hyphen before the
first character has no effect. `begun` says whether a character was written, `raise` whether a hyphen waits. -/
def camelSegment (begun raise : Bool) : List Char → List Char
  | [] => []
  | c :: cs =>
    if c = '-' then camelSegment begun begun cs
    else if raise then upperOf c ++ camelSegment true false cs
    else c :: camelSegment true false cs

/-- The name under which a component is used. -/
def usageNameOf (declared : String) : String :=
  .ofList (join ['.'] ((splitOn (· == '.') declared.toList).map (camelSegment false false)))

/-- Whether a name is one: letters, digits, hyphens, low lines and dots, a letter first and a letter or digit
last. -/
def isName (declared : String) : Bool :=
  match declared.toList with
  | [] => false
  | first :: rest =>
    first.isAlpha &&
      match rest.reverse with
      | [] => true
      | last :: middle => last.isAlphanum && middle.all fun c => isWordPart c || c == '-' || c == '.'

end Component

/-! ## 2. Definitions -/

/-- A component. -/
structure Component where
  usageName : String
  declaredName : String
  template : Template
  defaults : Fields Value

namespace Component

/-- The component declared under a name, when it is one. -/
def declare (declared : String) (template : Template) (defaults : Fields Value) :
    Except TemplateError Component :=
  if isName declared then .ok ⟨usageNameOf declared, declared, template, defaults⟩
  else .error (.invalidComponentName declared)

theorem template_of_declare {declared : String} {template : Template} {defaults : Fields Value}
    {component : Component} (h : declare declared template defaults = .ok component) :
    component.template = template := by
  unfold declare at h
  split at h
  · cases h; rfl
  · cases h

/-- A component as a declaration makes it. No parameter has two defaults. -/
structure Declared (component : Component) : Prop where
  valid : isName component.declaredName = true
  usage : component.usageName = usageNameOf component.declaredName
  distinct : (Fields.keys component.defaults).Nodup

theorem declared_of_declare {declared : String} {template : Template} {defaults : Fields Value}
    {component : Component} (hdistinct : (Fields.keys defaults).Nodup)
    (h : declare declared template defaults = .ok component) : component.Declared := by
  unfold declare at h
  split at h
  · next hname =>
    cases h
    exact ⟨hname, rfl, hdistinct⟩
  · cases h

/-- What templates can see of a component. -/
def summary (component : Component) : Value :=
  .map [("name", .string component.declaredName), ("defaults", .map component.defaults)]

end Component

/-- The components of a render by usage name. -/
abbrev Components := Fields Component

namespace Components

/-- The components with one more, or with one in the place of its namesake. -/
def define (components : Components) (component : Component) : Components :=
  components.insert component.usageName component

/-- The component of a name, usage name or declared. -/
def find? (components : Components) (name : String) : Option Component :=
  (Fields.get? name components).or (Fields.get? (Component.usageNameOf name) components)

theorem mem_of_find? {components : Components} {name : String} {c : Component}
    (h : components.find? name = some c) : ∃ usageName, (usageName, c) ∈ components := by
  unfold find? at h
  cases hname : Fields.get? name components with
  | some found =>
    rw [hname, Option.some_or, Option.some.injEq] at h
    exact ⟨name, h ▸ Fields.mem_of_get? hname⟩
  | none =>
    rw [hname, Option.none_or] at h
    exact ⟨_, Fields.mem_of_get? h⟩

end Components

/-! ## 3. Expansion in progress -/

/-- The usage names of the components that are being expanded, outermost first. -/
abbrev CallChain := List String

/-- The chain with one more component, unless it is in it already. -/
def CallChain.enter (chain : CallChain) (name : String) : Except TemplateError CallChain :=
  if chain.contains name then .error (.circularComponent (chain ++ [name])) else .ok (chain ++ [name])

/-- The chain without the component that was entered last. -/
def CallChain.leave (chain : CallChain) : CallChain := chain.dropLast

theorem CallChain.enter_of_mem {chain : CallChain} {name : String} (h : name ∈ chain) :
    chain.enter name = .error (.circularComponent (chain ++ [name])) := by
  rw [enter, if_pos (List.contains_iff_mem.mpr h)]

theorem CallChain.enter_of_not_mem {chain : CallChain} {name : String} (h : name ∉ chain) :
    chain.enter name = .ok (chain ++ [name]) := by
  rw [enter, if_neg (fun hmem => h (List.contains_iff_mem.mp hmem))]

@[simp]
theorem CallChain.leave_concat (chain : CallChain) (name : String) : CallChain.leave (chain ++ [name]) = chain :=
  List.dropLast_concat

/-! ## 4. Parameters -/

namespace Component

/-- The parameter that collapses the blanks of an expanded component. -/
def inlineParameter : String := "_inline"

/-- Whether a call asks for collapsed blanks, by itself or by default. -/
def isInline (defaults arguments : Fields Value) : Bool :=
  match (Fields.get? inlineParameter arguments).or (Fields.get? inlineParameter defaults) with
  | some (.string "false") => false
  | some v => v.isTruthy
  | none => false

/-- Whether a parameter is for the library and not for the component. -/
def isReserved (name : String) : Bool := name.toList.head? == some '_'

/-- The parameters that the body of a component sees: the defaults with the arguments on them. -/
def parameters (defaults arguments : Fields Value) : Fields Value :=
  Fields.ofList ((defaults ++ arguments).filter fun (name, _) => !isReserved name)

/-- The text with every run of blanks as one space and none at the ends. -/
def collapseBlanks (s : String) : String := .ofList (join [' '] (words s.toList))

end Component

end Stencil
