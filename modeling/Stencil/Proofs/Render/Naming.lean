import Stencil.Proofs.Component.Naming
import Stencil.Proofs.Render.Guard
import Stencil.Proofs.Render.Logic
import Stencil.Proofs.Render.Moments
import Stencil.Proofs.Text.Occurrence

/-!
Spellings of a component.

A component can be used by the word for it with its name as an argument, or by its name in the name space of components,
and either name will do: the one that it was declared under and its usage name. All of these evaluate the same named
arguments and then expand whatever is found under the name.

The arguments come in between. They may be calls that include files, and what these define may be put in the place of
the very component that is used. So it is not one component that the two names have to lead to, but always the same
one, and that is what registries made by definitions give: names with one usage name are never told apart.
-/

namespace Stencil

open Template

/-! ## 1. Names that lead to components -/

namespace Expand

theorem componentName?_append {name : String} (h : name ≠ "") : componentName? ("components." ++ name) = some name := by
  obtain ⟨c, cs, hname⟩ : ∃ c cs, name.toList = c :: cs := by
    refine List.exists_cons_of_ne_nil fun hnil => h ?_
    rw [← String.ofList_toList (s := name), hnil]
  rw [componentName?, String.toList_append, Text.stripPrefix?_append, hname]
  show some (String.ofList (c :: cs)) = some name
  rw [← hname, String.ofList_toList]

variable {m : Type → Type} [Monad m] {env : Environment} {inner : Option (Layer m)} {name usage other : String}

theorem ne_of_componentName? {form : String} (hform : componentName? form = none)
    (h : componentName? name = some usage) : name ≠ form := by
  rintro rfl
  rw [hform] at h
  cases h

/-- A name in the name space of components is none of the forms. -/
theorem named_of_componentName? (h : componentName? name = some usage) (hasArguments : Bool) (args : Args) :
    named env inner name hasArguments args = do
      return .final (.string (← component env inner usage args.named none)) := by
  unfold named
  split
  · exact absurd rfl (ne_of_componentName? (by decide) h)
  · exact absurd rfl (ne_of_componentName? (by decide) h)
  · exact absurd rfl (ne_of_componentName? (by decide) h)
  · exact absurd rfl (ne_of_componentName? (by decide) h)
  · rw [h]

/-- A component in the place of a call that uses it, with the named arguments of the call. -/
def use (env : Environment) (inner : Option (Layer m)) (name : String) (fields : List (String × Argument)) :
    Expand m String := do
  if anyUnbalancedNamed fields then
    Render.warn (m := m) "unbalanced subexpression"
    return unbalancedMarker
  component env inner name (← argumentFields env inner [] fields) none

/-- The calls that use a component under a name. -/
def uses (name : String) (fields : List (String × Argument)) : List Call :=
  [⟨.bare "component", [.quoted name], fields⟩, ⟨.bare ("components." ++ name), [], fields⟩]

variable [LawfulMonad m]

/-- By the word for components and by their name space, the same is done under a name. -/
theorem expression_eq_use {call : Call} {fields : List (String × Argument)} (hname : name ≠ "")
    (hcall : call ∈ uses name fields) : expression env inner call = use env inner name fields := by
  have hword : Call.hasUnbalanced ⟨.bare "component", [.quoted name], fields⟩ = anyUnbalancedNamed fields := rfl
  have hspace : Call.hasUnbalanced ⟨.bare ("components." ++ name), [], fields⟩ = anyUnbalancedNamed fields := rfl
  rw [uses, List.mem_pair] at hcall
  rcases hcall with rfl | rfl
  · simp only [expression, Expand.call, dispatch, use, hword, Call.name?, arguments, argumentList, argument]
    split
    · simp [Outcome.final, Value.text]
    · simp [named, Args.require, Args.size, ofHelper, Outcome.final, Args.textAt, Args.get, Value.text]
  · simp only [expression, Expand.call, dispatch, use, hspace, Call.name?, arguments, argumentList,
      named_of_componentName? (componentName?_append hname)]
    split
    · simp [Outcome.final, Value.text]
    · simp [Outcome.final, Value.text]

/-- Of the name under which a component is found nothing is left in its expansion. -/
theorem run_component_congr {c : Component} {state : RenderState} (hname : state.components.find? name = some c)
    (hother : state.components.find? other = some c) (arguments : Fields Value) (content : Option String) :
    (component env inner name arguments content).run.run state =
      (component env inner other arguments content).run.run state := by
  rw [component, component, run_component?, run_component?, hname, hother]

end Expand

namespace Render

/-! ## 2. Definitions along the way -/

variable {env : Environment} {state : RenderState} {start : Components}

/-- Nothing is done to the components of a render but to define more of them. -/
theorem kept_grown (start : Components) : Kept (fun state => start.Grown state.components) fun _ _ => True where
  diagnostics h _ := h
  abandoned h _ := h
  scope h _ _ := h
  define h _ hdeclared _ := h.define hdeclared
  load {state} h useCache place := by
    obtain ⟨files, includes, hload⟩ := state.load_eq useCache place
    rw [hload]
    exact ⟨h, fun _ _ => trivial⟩
  parse _ := trivial
  body _ _ := trivial
  inverse _ _ := trivial
  fragment _ := trivial

theorem invariant_grown (env : Environment) (start : Components) :
    Invariant env fun _ state => start.Grown state.components :=
  .ofKept (kept_grown start) (fun h _ => h) fun _ _ h _ => h

/-- So at every moment of a render the components have come from those at its beginning by definitions; and an engine
begins without any. -/
theorem components_grown (env : Environment) (levels : Nat) (t : Template) (list : List Node) (start : RenderState) :
    (moments env levels t list start).1 = (nodes env levels t list).exec start ∧
    (∀ moment ∈ (moments env levels t list start).2, start.components.Grown moment.state.components) ∧
    start.components.Grown ((nodes env levels t list).exec start).2.components :=
  holds_at_moments (invariant_grown env start.components) levels t list start (.refl _)

/-- On every level this can be followed through all that is rendered. -/
theorem followed_grown (env : Environment) (levels : Nat) (start : Components) :
    Followed env (below env levels) (below env levels)
      (Accounts (n := Id) (fun state => start.Grown state.components) fun _ : Unit => True) fun _ _ => True :=
  have h : Respected _ _ := (kept_grown start).respected (fun h _ => h) (fun h _ => h) fun _ _ _ _ => trivial
  h.followed (h.levels env levels)

theorem grown_argumentFields (env : Environment) (levels : Nat) (fields : List (String × Argument))
    (state : RenderState) : state.components.Grown
      (exec (Expand.argumentFields env (below env levels) [] fields).run state).2.components :=
  ((followed_grown env levels state.components).argumentFields [] fields state [] (.refl _)).1

/-! ## 3. One component under two names -/

/-- Where there is a component under a name, every name that is converted to it is as good as any other. -/
theorem exec_use_eq {name other usage : String} (hnormal : state.components.Normal)
    (hname : Component.usageNameOf name = usage) (hother : Component.usageNameOf other = usage)
    (hhas : Fields.has usage state.components = true) (levels : Nat) (fields : List (String × Argument)) :
    exec (Expand.use env (below env levels) name fields).run state =
      exec (Expand.use env (below env levels) other fields).run state := by
  unfold Expand.use
  split
  · rfl
  · rw [exec_expand_bind, exec_expand_bind]
    have hgrown := grown_argumentFields env levels fields state
    generalize exec (Expand.argumentFields env (below env levels) [] fields).run state = outcome at hgrown ⊢
    obtain ⟨e | arguments, after⟩ := outcome
    · rfl
    · -- the arguments may have put another component there, but then under both names
      obtain ⟨c, hc⟩ := Option.isSome_iff_exists.mp (hgrown.has hhas)
      have hfound : ∀ spelling, Component.usageNameOf spelling = usage → after.components.find? spelling = some c := by
        intro spelling hspelling
        rw [(hgrown.normal hnormal).find?_eq, hspelling]
        exact hc
      exact congrArg Id.run (Expand.run_component_congr (hfound name hname) (hfound other hother) arguments none)

/-- The calls that use a component, under the name that it was declared under and under its usage name. -/
def spellings (c : Component) (fields : List (String × Argument)) : List Call :=
  Expand.uses c.declaredName fields ++ Expand.uses c.usageName fields

/-- **All spellings of a component mean the same.** In a registry that definitions have made, the keys are in normal
form and none stands twice, and under a name there is the latest definition whose usage name is that of the name. So,
below the limit of nesting, the calls of a component that is in the registry come to the same text and the same state,
which is to say to the same diagnostics, scope and components, whatever the named arguments are and do. -/
theorem spellings_agree :
    (∀ definitions : List Component, (∀ c ∈ definitions, c.Declared) →
      let registry := definitions.foldl Components.define []
      (∀ name, registry.find? name = definitions.findRev? (·.usageName == Component.usageNameOf name)) ∧
      (Fields.keys registry).Nodup ∧ ∀ key ∈ Fields.keys registry, Component.usageNameOf key = key) ∧
    ∀ (env : Environment) (state : RenderState), Components.Grown [] state.components →
      ∀ depth < env.maxDepth, ∀ (key : String) (c : Component), (key, c) ∈ state.components →
      ∀ fields : List (String × Argument), ∀ call ∈ spellings c fields, ∀ call' ∈ spellings c fields,
      ∀ (t t' : Template) (span span' : Span),
        exec (node env (below env (env.maxDepth - depth)) t (.expression call span)) state =
          exec (node env (below env (env.maxDepth - depth)) t' (.expression call' span')) state := by
  constructor
  · intro definitions hdefinitions registry
    have hnormal : registry.Normal := Components.Grown.normal ⟨definitions, hdefinitions, rfl⟩ Components.normal_nil
    refine ⟨fun name => ?_, hnormal.nodup, fun key hkey => hnormal.usageNameOf_key hkey⟩
    rw [hnormal.find?_eq, Components.get?_foldl_define]
    exact Option.or_none
  · intro env state hgrown depth hdepth key c hmem fields call hcall call' hcall' t t' span span'
    have hnormal := hgrown.normal Components.normal_nil
    have hget := Fields.get?_of_mem hnormal.nodup hmem
    have hdeclared : c.Declared := hnormal.declared key c hget
    have hhas : Fields.has c.usageName state.components = true := by
      rw [Fields.has, hnormal.usageName key c hget, hget, Option.isSome_some]
    -- every spelling is as good as the use under the usage name
    have huse : ∀ call ∈ spellings c fields,
        exec (Expand.expression env (below env (env.maxDepth - depth)) call).run state =
          exec (Expand.use env (below env (env.maxDepth - depth)) c.usageName fields).run state := by
      intro call hcall
      rcases List.mem_append.mp hcall with hcall | hcall
      · have hnonempty : c.declaredName ≠ "" := by
          intro hempty
          have hvalid := hdeclared.valid
          rw [hempty] at hvalid
          exact absurd hvalid (by decide)
        rw [Expand.expression_eq_use hnonempty hcall]
        exact exec_use_eq hnormal hdeclared.usage.symm hdeclared.usageNameOf_usageName hhas _ fields
      · have hnonempty : c.usageName ≠ "" := hdeclared.usage ▸ Component.usageNameOf_ne_empty hdeclared.valid
        rw [Expand.expression_eq_use hnonempty hcall]
    exact exec_node_congr hdepth ((huse call hcall).trans (huse call' hcall').symm)

/-- A component that was defined again under another spelling, with an argument. -/
theorem spellings_agree_defined_twice :
    let env : Environment := ⟨[], 1, true, .utc, ⟨0, 0⟩⟩
    let old : Component := ⟨"userCard", "user-card", ⟨"", [.text "old"]⟩, []⟩
    let new : Component := ⟨"userCard", "user--card", ⟨"", [.expression ⟨.bare "title", [], []⟩ ⟨0, 0⟩]⟩, []⟩
    let registry := [old, new].foldl Components.define []
    let state : RenderState := ⟨.ofFields [], registry, [], #[], .memory (.empty 0), [], false⟩
    let fields : List (String × Argument) := [("title", .quoted "Ada")]
    let shown (call : Call) := exec (node env (below env 1) ⟨"", []⟩ (.expression call ⟨0, 0⟩)) state
    (∀ c ∈ [old, new], c.Declared) ∧ registry.find? "user-card" = some new ∧
    ("userCard", new) ∈ registry ∧
    (∀ call ∈ spellings new fields, (shown call).1 = "Ada") ∧
    ∀ call ∈ spellings new fields, ∀ call' ∈ spellings new fields, shown call = shown call' := by
  intro env old new registry state fields shown
  obtain ⟨hlookup, hagree⟩ := spellings_agree
  have hdeclared : ∀ c ∈ [old, new], c.Declared := by
    intro c hc
    rcases List.mem_pair.mp hc with rfl | rfl <;> exact ⟨by decide, by decide, by decide⟩
  have hgrown : Components.Grown [] state.components := ⟨[old, new], hdeclared, rfl⟩
  have hmem : ("userCard", new) ∈ state.components := List.mem_singleton.mpr rfl
  have hsame : ∀ call ∈ spellings new fields, ∀ call' ∈ spellings new fields, shown call = shown call' := by
    intro call hcall call' hcall'
    exact hagree env state hgrown 0 (by decide) "userCard" new hmem fields call hcall call' hcall' _ _ _ _
  have hfirst : (shown ⟨.bare "component", [.quoted "user--card"], fields⟩).1 = "Ada" := by decide
  refine ⟨hdeclared, ((hlookup [old, new] hdeclared).1 "user-card").trans rfl, hmem, fun call hcall => ?_, hsame⟩
  rw [hsame call hcall _ List.mem_cons_self]
  exact hfirst

end Render
end Stencil
