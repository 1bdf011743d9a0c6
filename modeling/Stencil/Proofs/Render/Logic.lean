import Stencil.Proofs.Render.Guard

/-!
Logic in text and in blocks.

A helper of logic can stand in an expression, which shows its truth, or open a block, which chooses a branch by it.
The two take different ways through the renderer: an expression is looked up among forms, helpers and names, a block
asks for the level below first and looks for its construct afterwards. They come to the same all the same, for the
arguments are evaluated once, in the same order and in the same state, and all that is done besides is reading.

Failures come out the same as well, because the one failure that is reported by the markup that failed, that of the
guard, does not arise in the arguments as long as there is a level below.
-/

namespace Stencil

open Template

/-! ## 1. The names of logic -/

namespace Helper

variable {name : String} {args : Args}

theorem Logic.eq_of_mem_names (hname : name ∈ Logic.names) :
    name = "and" ∨ name = "or" ∨ name = "not" ∨ name = "eq" ∨ name = "ne" ∨ name = "gt" ∨ name = "gte" ∨
      name = "lt" ∨ name = "lte" := by
  simpa only [Logic.names, List.mem_cons, List.not_mem_nil, or_false] using hname

theorem Logic.exists_truth (hname : name ∈ Logic.names) (args : Args) :
    ∃ result, Logic.truth? name args = some result := by
  rcases Logic.eq_of_mem_names hname with rfl | rfl | rfl | rfl | rfl | rfl | rfl | rfl | rfl <;> exact ⟨_, rfl⟩

theorem Logic.truth?_eq_none (hname : name ∉ Logic.names) (args : Args) : Logic.truth? name args = none := by
  unfold Logic.truth?
  split
  case h_10 => rfl
  all_goals exact absurd (by decide) hname

/-- Their names have no name space. -/
theorem Logic.cutAt?_name (hname : name ∈ Logic.names) : Stencil.Text.cutAt? ['.'] name.toList = none := by
  revert name
  decide

theorem call?_logic (hname : name ∈ Logic.names) (hargs : args.name = name) (setting : Setting) :
    call? args setting = (Logic.truth? name args).map fun result => result.map Value.bool := by
  rw [call?, hargs, Logic.cutAt?_name hname]

theorem overruns_logic (hname : name ∈ Logic.names) (hargs : args.name = name) (setting : Setting) :
    overruns args setting = false := by
  rw [overruns, hargs, Logic.cutAt?_name hname]

end Helper

namespace Expand

variable {env : Environment} {inner : Option (Layer Id)} {level : Layer Id} {name : String} {args : Args}

theorem named_logic (hname : name ∈ Helper.Logic.names) (hasArguments : Bool) :
    (named env inner name hasArguments args : Expand Id Outcome) = helper env name hasArguments args := by
  rcases Helper.Logic.eq_of_mem_names hname with rfl | rfl | rfl | rfl | rfl | rfl | rfl | rfl | rfl <;> rfl

theorem builtinBlock_logic (hname : name ∈ Helper.Logic.names) (branches : Branches) {result : HelperResult Bool}
    (hresult : Helper.Logic.truth? name args = some result) :
    builtinBlock env level branches name args = (do branches.choose level (← ofHelper name result)) := by
  rcases Helper.Logic.eq_of_mem_names hname with rfl | rfl | rfl | rfl | rfl | rfl | rfl | rfl | rfl <;>
    simp [builtinBlock, hresult]

/-- A step that is only looked at for its result, and leaves the state alone, may be left out when the result does
not matter. -/
theorem lift_bind_const {α β : Type} {part : Render Id α} (hpart : ∀ state, (part.exec state).2 = state)
    (x : Expand Id β) : ((liftM part : Expand Id α) >>= fun _ => x) = x := by
  refine ExceptT.ext (StateT.ext fun state => ?_)
  show Render.exec ((liftM part : Expand Id α) >>= fun _ => x).run state = Render.exec x.run state
  rw [Render.exec_expand_bind, Render.exec_lift]
  dsimp only
  rw [hpart]

theorem exec_abandonIf_false (state : RenderState) : ((Render.abandonIf (m := Id) false).exec state).2 = state := by
  show { state with abandoned := state.abandoned || false } = state
  rw [Bool.or_false]

/-- A helper of logic comes to a truth value, whatever may be read besides its arguments. -/
theorem helper_logic (hname : name ∈ Helper.Logic.names) (hregular : env.registry.regular? name = none)
    (hargs : args.name = name) (hasArguments : Bool) {result : HelperResult Bool}
    (hresult : Helper.Logic.truth? name args = some result) :
    (helper env name hasArguments args : Expand Id Outcome) = do
      return .final (.bool (← ofHelper name result)) := by
  have hcall : ∀ setting, Helper.call? args setting = some (result.map Value.bool) := by
    intro setting
    rw [Helper.call?_logic hname hargs, hresult, Option.map_some]
  unfold helper
  simp only [hregular, Helper.overruns_logic hname hargs, hcall]
  rw [lift_bind_const fun _ => rfl, lift_bind_const exec_abandonIf_false]
  cases result <;> rfl

/-- The arguments carry the name of their call. -/
theorem arguments_bind_congr {β : Type} (call : Call) {f g : Args → Expand Id β}
    (h : ∀ args, args.name = call.name?.getD "" → f args = g args) :
    (arguments env inner call >>= f) = (arguments env inner call >>= g) := by
  simp only [arguments, bind_assoc, pure_bind]
  refine bind_congr fun values => bind_congr fun fields => ?_
  exact h _ rfl

/-! ## 3. Both forms -/

/-- The branches of a block that shows the truth of its condition. -/
def truthBranches (t : Template) : Branches := ⟨t, [.text "true"], some [.text "false"]⟩

theorem choose_truth (levels : Nat) (t : Template) (truth : Bool) :
    (truthBranches t).choose (Render.nodes (m := Id) env levels) truth = pure (Value.bool truth).text := by
  have htext : ∀ s, Render.nodes (m := Id) env levels t [.text s] = pure s := by
    intro s
    rw [Render.nodes_eq_layer]
    simp [Render.layer, Render.node, String.join]
  cases truth with
  | false => exact htext "false"
  | true => exact htext "true"

/-- The two forms are one and the same expansion, as long as there is a level below. -/
theorem expression_eq_block (hname : name ∈ Helper.Logic.names) (hregular : env.registry.regular? name = none)
    (hblock : env.registry.block? name = none) (levels : Nat) (t : Template) (positional : List Argument)
    (fields : List (String × Argument)) :
    expression env (some (Render.nodes (m := Id) env levels)) ⟨.bare name, positional, fields⟩ =
      block env (some (Render.nodes env levels)) (truthBranches t) ⟨.bare name, positional, fields⟩ := by
  cases hbalanced : Call.hasUnbalanced ⟨.bare name, positional, fields⟩ with
  | true =>
    rw [Render.expression_of_unbalanced hbalanced]
    simp [block, Call.name?, hbalanced]
  | false =>
    simp only [expression, call, dispatch, block, Call.name?, hbalanced, Bool.false_eq_true, if_false, descend,
      pure_bind, bind_assoc, hblock]
    refine arguments_bind_congr _ fun args hargs => ?_
    obtain ⟨result, hresult⟩ := Helper.Logic.exists_truth hname args
    rw [named_logic hname, helper_logic hname hregular hargs _ hresult, builtinBlock_logic hname _ hresult]
    cases result with
    | error e => rfl
    | ok truth =>
      simp only [ofHelper, pure_bind, Outcome.final]
      rw [choose_truth]
      rfl

end Expand

namespace Render

variable {env : Environment} {name : String}

/-- **A helper of logic shows by itself what a block of it would show.** As an expression, and as the condition of
a block with `true` and `false` for its branches, it comes to the same text and the same state, which is to say to
the same diagnostics, scope and components, in whatever templates the two stand, whatever the arguments are and
do, and also when they fail. -/
theorem logic_forms_agree (hname : name ∈ Helper.Logic.names) (hregular : env.registry.regular? name = none)
    (hblock : env.registry.block? name = none) (positional : List Argument) (named : List (String × Argument))
    (t t' : Template) (span bodySpan span' : Span) (depth : Nat) (hdepth : depth < env.maxDepth)
    (state : RenderState) :
    exec (node env (below env (env.maxDepth - depth)) t (.expression ⟨.bare name, positional, named⟩ span)) state =
      exec (node env (below env (env.maxDepth - depth)) t'
        (.block ⟨.bare name, positional, named⟩ [.text "true"] (some [.text "false"]) bodySpan span')) state := by
  obtain ⟨levels, hlevels⟩ : ∃ levels, env.maxDepth - depth = levels + 1 := ⟨env.maxDepth - depth - 1, by omega⟩
  refine exec_node_congr hdepth ?_
  rw [hlevels, below, expansion, expansion, Expand.expression_eq_block hname hregular hblock levels t']
  rfl

/-- A disjunction whose first argument sets a variable on the way. -/
theorem logic_forms_agree_after_let :
    let env : Environment := ⟨[], 1, true, .utc, ⟨0, 0⟩⟩
    let state : RenderState := ⟨.ofFields [], [], [], #[], .memory (.empty 0), [], false⟩
    let assignment : Argument := .sub (.bare "let") [.quoted "x", .quoted "a"] []
    let call : Call := ⟨.bare "or", [assignment, .quoted "b"], []⟩
    let expression : Node := .expression call ⟨0, 24⟩
    let block : Node := .block call [.text "true"] (some [.text "false"]) ⟨25, 41⟩ ⟨0, 48⟩
    let left := exec (node env (below env 1) ⟨"", [expression]⟩ expression) state
    let right := exec (node env (below env 1) ⟨"", [block]⟩ block) state
    left.1 = "true" ∧ Fields.keys left.2.scope.vars = ["x"] ∧ left = right := by
  intro env state assignment call expression block left right
  have hregular : env.registry.regular? "or" = none := rfl
  have hblock : env.registry.block? "or" = none := rfl
  have hsame : left = right := logic_forms_agree (by decide) hregular hblock call.positional call.named
    ⟨"", [expression]⟩ ⟨"", [block]⟩ ⟨0, 24⟩ ⟨25, 41⟩ ⟨0, 48⟩ 0 (by decide) state
  exact ⟨by decide, by decide, hsame⟩

end Render

end Stencil
