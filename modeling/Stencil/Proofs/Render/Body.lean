import Stencil.Proofs.Render.Chain
import Stencil.Proofs.Render.Naming
import Stencil.Proofs.Render.Scope

/-!
The body of a component.

What a name means where the nodes of a component begin is settled in three places: the defaults and the arguments of the
call are merged without the names that are for the library, the text between the tags of a block comes on top of that,
and all of it is put in a frame on the scope of the call. A lookup goes through these from the last to the first. As the
frame hides nothing that it does not bind, and reserved names are never in it, they mean what they meant at the call.

The text between the tags is older than all of that. It is rendered like a branch, in the scope of the call, when the
component is not on the chain yet.
-/

namespace Stencil

open Template

/-! ## 1. Names -/

theorem Scope.get?_push (scope : Scope) (bindings : Fields Value) (key : String) :
    (scope.push bindings).get? key = (Fields.get? key bindings).or (scope.get? key) := by
  show getFrom scope.root key (⟨bindings, false⟩ :: scope.frames) = _
  rw [getFrom]
  cases Fields.get? key bindings <;> rfl

namespace Component

variable {defaults arguments : Fields Value}

/-- Arguments come before defaults, and reserved names are neither. -/
theorem get?_parameters (hdefaults : (Fields.keys defaults).Nodup) (harguments : (Fields.keys arguments).Nodup)
    (key : String) : Fields.get? key (parameters defaults arguments) =
      if isReserved key then none else (Fields.get? key arguments).or (Fields.get? key defaults) := by
  have hnodup := Fields.nodup_keys_filter hdefaults
  have hnodup' := Fields.nodup_keys_filter harguments
  rw [parameters, List.filter_append, Fields.get?_ofList_append (hnodup _) (hnodup' _),
    Fields.get?_filter (!isReserved ·), Fields.get?_filter (!isReserved ·)]
  cases isReserved key <;> rfl

/-- What a name means where the nodes of a component begin, with the text between its tags if it was used as a block. -/
def meaning? (c : Component) (arguments : Fields Value) (content : Option String) (site : Scope) (key : String) :
    Option Value :=
  if key = "content" ∧ content.isSome then content.map Value.string
  else if isReserved key then site.get? key
  else ((Fields.get? key arguments).or (Fields.get? key c.defaults)).or (site.get? key)

theorem get?_push_parameters (c : Component) (hdefaults : (Fields.keys c.defaults).Nodup)
    (harguments : (Fields.keys arguments).Nodup) (content : Option String) (site : Scope) (key : String) :
    (site.push (Expand.withContent (parameters c.defaults arguments) content)).get? key =
      c.meaning? arguments content site key := by
  have hparameters : (Fields.get? key (parameters c.defaults arguments)).or (site.get? key) =
      if isReserved key then site.get? key
      else ((Fields.get? key arguments).or (Fields.get? key c.defaults)).or (site.get? key) := by
    rw [get?_parameters hdefaults harguments]
    cases isReserved key <;> rfl
  rw [Scope.get?_push, meaning?]
  cases content with
  | none =>
    rw [if_neg (by simp)]
    exact hparameters
  | some text =>
    -- the text is put on last, over a parameter of that name
    rw [Expand.withContent, Fields.get?_insert]
    by_cases hkey : key = "content"
    · rw [if_pos hkey.symm, if_pos ⟨hkey, rfl⟩]
      rfl
    · rw [if_neg (Ne.symm hkey), if_neg fun h => hkey h.1]
      exact hparameters

/-- The switch for collapsed blanks, of the call or by default, is on. -/
def Collapses (c : Component) (arguments : Fields Value) : Prop :=
  ∃ v, (Fields.get? inlineParameter arguments).or (Fields.get? inlineParameter c.defaults) = some v ∧
    v.isTruthy = true ∧ v ≠ .string "false"

theorem isInline_iff (c : Component) (arguments : Fields Value) :
    isInline c.defaults arguments = true ↔ c.Collapses arguments := by
  unfold isInline Collapses
  split
  · next h => simp [h]
  · next v hfalse h =>
    rw [h]
    constructor
    · intro htruthy
      exact ⟨v, rfl, htruthy, hfalse⟩
    · rintro ⟨w, hw, htruthy, -⟩
      cases hw
      exact htruthy
  · next h => simp [h]

end Component

/-! ## 2. Components as blocks -/

namespace Expand

variable {env : Environment} {name usage : String}

theorem builtinBlock_of_componentName? {m : Type → Type} [Monad m] {layer : Layer m}
    (h : componentName? name = some usage) (branches : Branches) (args : Args) :
    builtinBlock env layer branches name args = (do
      let content ← layer branches.template branches.body
      component env (some layer) usage args.named (some content)) := by
  -- the helpers of logic are asked before the name space of components
  have hlogic : name ∉ Helper.Logic.names := by
    have hnone : ∀ form ∈ Helper.Logic.names, componentName? form = none := by decide
    exact fun hmem => ne_of_componentName? (hnone name hmem) h rfl
  unfold builtinBlock
  split
  · exact absurd rfl (ne_of_componentName? (by decide) h)
  · exact absurd rfl (ne_of_componentName? (by decide) h)
  · exact absurd rfl (ne_of_componentName? (by decide) h)
  · exact absurd rfl (ne_of_componentName? (by decide) h)
  · exact absurd rfl (ne_of_componentName? (by decide) h)
  · exact absurd rfl (ne_of_componentName? (by decide) h)
  · rw [Helper.Logic.truth?_eq_none hlogic, h]

/-- A block of a component renders its body between its arguments and the component, by itself. -/
theorem block_of_componentName? {layer : Layer Id} {positional : List Argument} {fields : List (String × Argument)}
    (h : componentName? name = some usage) (hregistry : env.registry.block? name = none)
    (hbalanced : Call.hasUnbalanced ⟨.bare name, positional, fields⟩ = false) (branches : Branches) :
    block env (some layer) branches ⟨.bare name, positional, fields⟩ = (do
      let args ← arguments env (some layer) ⟨.bare name, positional, fields⟩
      let content ← layer branches.template branches.body
      component env (some layer) usage args.named (some content)) := by
  simp only [block, Call.name?, hbalanced, Bool.false_eq_true, if_false, descend, pure_bind, hregistry,
    builtinBlock_of_componentName? h]

variable {inner : Option (Layer Id)} {call : Call} {state after : RenderState} {args : Args}

/-- No name stands twice in the named arguments that a call comes to. -/
theorem nodup_of_arguments (h : Render.exec (arguments env inner call).run state = (.ok args, after)) :
    (Fields.keys args.named).Nodup := by
  rw [arguments] at h
  obtain ⟨values, ready, -, h⟩ := Render.exec_bind_ok h
  obtain ⟨fields, ready, hfields, h⟩ := Render.exec_bind_ok h
  cases h
  rw [argumentFields_eq] at hfields
  obtain ⟨more, ready, -, hmore⟩ := Render.exec_bind_ok hfields
  cases hmore
  exact Fields.nodup_keys_ofList _

/-- The same for the values of named arguments by themselves. -/
theorem nodup_of_argumentFields {named : List (String × Argument)} {fields : Fields Value}
    (h : Render.exec (argumentFields env inner [] named).run state = (.ok fields, after)) :
    (Fields.keys fields).Nodup := by
  rw [argumentFields_eq] at h
  obtain ⟨values, ready, -, h⟩ := Render.exec_bind_ok h
  cases h
  exact Fields.nodup_keys_ofList _

end Expand

namespace Render

/-- The state in which a component is expanded, with these arguments, for a call that was made in another one: the
chain and the scope are those of the call, but for variables and components that were set or defined on the way. -/
structure Site (call site : RenderState) (arguments : Fields Value) : Prop where
  arguments : (Fields.keys arguments).Nodup
  components : call.components.Grown site.components
  chain : site.chain = call.chain
  scope : call.scope.LeftAsFound site.scope

/-- Nodes that are rendered before the component leave a state in which it can be expanded. -/
theorem Site.nodes {call site : RenderState} {arguments : Fields Value} (h : Site call site arguments)
    (env : Environment) (levels : Nat) (t : Template) (list : List Node) :
    Site call ((nodes env levels t list).exec site).2 arguments where
  arguments := h.arguments
  components := h.components.trans (components_grown env levels t list site).2.2
  chain := ((chainLeft env levels site).nodes t list).trans h.chain
  scope := h.scope.trans ((scope_left_as_found env levels t site).1 list)

section Arguments

variable {env : Environment} {levels : Nat} {state ready : RenderState}

theorem followed_leavesScope (env : Environment) (levels : Nat) :
    Followed env (below env levels) (below env levels) LeavesScope fun _ _ => True :=
  respected_leavesScope.followed (respected_leavesScope.levels env levels)

theorem followed_leavesChain (env : Environment) (levels : Nat) :
    Followed env (below env levels) (below env levels) LeavesChain fun _ _ => True :=
  respected_leavesChain.followed (respected_leavesChain.levels env levels)

theorem site_of_arguments {call : Call} {args : Args}
    (h : exec (Expand.arguments env (below env levels) call).run state = (.ok args, ready)) :
    Site state ready args.named := by
  have hgrown := ((followed_grown env levels state.components).arguments call state [] (.refl _)).1
  have hchain := (followed_leavesChain env levels).arguments call state
  have hscope := (followed_leavesScope env levels).arguments call state
  rw [h] at hgrown hchain hscope
  exact ⟨Expand.nodup_of_arguments h, hgrown, hchain, hscope⟩

theorem site_of_argumentFields {named : List (String × Argument)} {fields : Fields Value}
    (h : exec (Expand.argumentFields env (below env levels) [] named).run state = (.ok fields, ready)) :
    Site state ready fields := by
  have hgrown := grown_argumentFields env levels named state
  have hchain := (followed_leavesChain env levels).argumentFields [] named state
  have hscope := (followed_leavesScope env levels).argumentFields [] named state
  rw [h] at hgrown hchain hscope
  exact ⟨Expand.nodup_of_argumentFields h, hgrown, hchain, hscope⟩

end Arguments

/-! ## 3. The body -/

/-- **What the body of a component sees.** Where its nodes begin, `content` means the text between the tags if there are
tags; any other name that is not reserved means the argument, or else the default; and all else means what it means at
the call, reserved names always. The blanks of what the nodes come to are collapsed just when the call asks for that, or
else its defaults do. A call evaluates its arguments before the component is expanded, and a block then renders its body,
all of it in the scope of the call and with the chain of the call. -/
theorem body_sees_call :
    (∀ (env : Environment) (layer : Layer Id) (site : RenderState), Components.Grown [] site.components →
      ∀ (name : String) (c : Component), site.components.find? name = some c → c.usageName ∉ site.chain →
      ∀ arguments : Fields Value, (Fields.keys arguments).Nodup → ∀ content : Option String,
        let inside := site.entered c (Expand.withContent (Component.parameters c.defaults arguments) content)
        let body := exec (layer c.template c.template.nodes) inside
        let outcome := exec (Expand.component env (some layer) name arguments content).run site
        (∀ key, inside.scope.get? key = c.meaning? arguments content site.scope key) ∧
        (c.Collapses arguments → outcome = (.ok (Component.collapseBlanks body.1), body.2.left)) ∧
        (¬ c.Collapses arguments → outcome = (.ok body.1, body.2.left))) ∧
    ∀ (env : Environment) (levels : Nat) (name : String), name ≠ "" → ∀ fields : List (String × Argument),
      anyUnbalancedNamed fields = false →
        let inner : Option (Layer Id) := below env (levels + 1)
        (∀ call ∈ Expand.uses name fields, Expand.expression env inner call = (do
          let arguments ← Expand.argumentFields env inner [] fields
          Expand.component env inner name arguments none)) ∧
        (∀ state arguments site,
          exec (Expand.argumentFields env inner [] fields).run state = (.ok arguments, site) →
            Site state site arguments) ∧
        ∀ positional : List Argument, anyUnbalanced positional = false →
          env.registry.block? ("components." ++ name) = none → ∀ branches : Branches,
          let call : Call := ⟨.bare ("components." ++ name), positional, fields⟩
          Expand.block env inner branches call = (do
            let args ← Expand.arguments env inner call
            let content ← (nodes env levels branches.template branches.body : Render Id String)
            Expand.component env inner name args.named (some content)) ∧
          ∀ state args ready, exec (Expand.arguments env inner call).run state = (.ok args, ready) →
            Site state ready args.named ∧
            Site state (exec (nodes env levels branches.template branches.body) ready).2 args.named := by
  constructor
  · intro env layer site hgrown name c hfind hmem arguments harguments content inside body outcome
    -- a component that was declared has no two defaults for a parameter, so there is one to be looked up
    have hdeclared : c.Declared := by
      have hnormal := hgrown.normal Components.normal_nil
      rw [hnormal.find?_eq] at hfind
      exact hnormal.declared _ c hfind
    have hrun : outcome =
        (.ok (if Component.isInline c.defaults arguments then Component.collapseBlanks body.1 else body.1),
          body.2.left) := by
      show exec (Expand.component env (some layer) name arguments content).run site = _
      rw [exec, Expand.run_component_entered env name arguments content hfind layer hmem]
      rfl
    refine ⟨fun key => ?_, fun hcollapses => ?_, fun hcollapses => ?_⟩
    · exact c.get?_push_parameters hdeclared.distinct harguments content site.scope key
    · rw [hrun, if_pos ((c.isInline_iff arguments).mpr hcollapses)]
    · rw [hrun, if_neg fun h => hcollapses ((c.isInline_iff arguments).mp h)]
  · intro env levels name hname fields hfields inner
    refine ⟨?_, ?_, ?_⟩
    · intro call hcall
      rw [Expand.expression_eq_use hname hcall, Expand.use, hfields]
      rfl
    · intro state arguments site h
      exact site_of_argumentFields h
    · intro positional hpositional hregistry branches call
      constructor
      · have hbalanced : call.hasUnbalanced = false := by
          simp [call, Call.hasUnbalanced, Call.toArgument, Argument.hasUnbalanced, hpositional, hfields]
        exact Expand.block_of_componentName? (Expand.componentName?_append hname) hregistry hbalanced branches
      · intro state args ready h
        have hsite := site_of_arguments h
        exact ⟨hsite, hsite.nodes env levels branches.template branches.body⟩

/-- A card used as a block, collapsed by default. What the call says under a reserved name is not seen by its nodes. -/
theorem body_sees_call_of_card :
    let env : Environment := ⟨[], 1, true, .utc, ⟨0, 0⟩⟩
    let shown (name : String) : Node := .expression ⟨.bare name, [], []⟩ ⟨0, 0⟩
    let card : Component :=
      ⟨"card", "card", ⟨"", [shown "title", .text "  ", shown "_mark", .text "  ", shown "content"]⟩,
        [("title", .string "Untitled"), ("_inline", .bool true)]⟩
    let site : RenderState :=
      ⟨.ofFields [("_mark", .string "site")], [("card", card)], [], #[], .memory (.empty 0), [], false⟩
    let arguments : Fields Value := [("_mark", .string "call")]
    let fields : List (String × Argument) := [("_mark", .quoted "call")]
    let branches : Branches := ⟨⟨"", []⟩, [.text "body"], none⟩
    let inside := site.entered card (Expand.withContent (Component.parameters card.defaults arguments) (some "body"))
    let block := exec (Expand.block env (below env 1) branches ⟨.bare "components.card", [], fields⟩).run site
    Components.Grown [] site.components ∧ site.components.find? "card" = some card ∧ "card" ∉ site.chain ∧
    (Fields.keys arguments).Nodup ∧ card.Collapses arguments ∧
    inside.scope.get? "content" = some (.string "body") ∧ inside.scope.get? "title" = some (.string "Untitled") ∧
    inside.scope.get? "_mark" = some (.string "site") ∧
    (exec (Expand.component env (below env 1) "card" arguments (some "body")).run site).1.toOption =
      some "Untitled site body" ∧
    Site site site arguments ∧ block.1.toOption = some "Untitled site body" := by
  intro env shown card site arguments fields branches inside block
  obtain ⟨hbody, hcalls⟩ := body_sees_call
  have hdeclared : card.Declared := ⟨by decide, by decide, by decide⟩
  have hgrown : Components.Grown [] site.components := ⟨[card], by simpa using hdeclared, rfl⟩
  have hfind : site.components.find? "card" = some card := rfl
  have hmem : "card" ∉ site.chain := List.not_mem_nil
  have harguments : (Fields.keys arguments).Nodup := by decide
  have hcollapses : card.Collapses arguments := ⟨.bool true, rfl, rfl, by simp⟩
  obtain ⟨hnames, hcollapsed, -⟩ := hbody env (nodes env 0) site hgrown "card" card hfind hmem arguments harguments
    (some "body")
  obtain ⟨-, -, hblock⟩ := hcalls env 0 "card" (by decide) fields rfl
  obtain ⟨-, hsites⟩ := hblock [] rfl rfl branches
  have hready : exec (Expand.arguments env (below env 1) ⟨.bare "components.card", [], fields⟩).run site =
      (.ok ⟨"components.card", [], arguments⟩, site) := rfl
  refine ⟨hgrown, hfind, hmem, harguments, hcollapses, (hnames "content").trans rfl, (hnames "title").trans rfl,
    (hnames "_mark").trans rfl, ?_, (hsites site _ site hready).1, by decide⟩
  have htext : Component.collapseBlanks (exec (nodes env 0 card.template card.template.nodes) inside).1 =
      "Untitled site body" := by decide
  have houtcome := hcollapsed hcollapses
  rw [htext] at houtcome
  exact congrArg (·.1.toOption) houtcome

end Render
end Stencil
