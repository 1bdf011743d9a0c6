import Stencil.Engine
import Stencil.Proofs.Render.Guard
import Stencil.Proofs.Render.Plain

/-!
Evaluation and rendering.

A source has a text and a value. The two come about on different ways: a render goes through all nodes and reports
what fails at its place, an evaluation looks for the one expression that matters and asks for its value. Still they
are about the same thing. The text of a source with a single expression is the text of its value between the blanks
around it, and the value of any other source is its text.

There is one exception, and it is the reason why both ways exist. What a registered helper comes to may be markup,
which a render expands once more; a value is what the helper came to. So the first part is about expressions that
do not go to a registered helper. Nothing else ever comes to markup (`Settled`).
-/

namespace Stencil

open Template

/-! ## 1. Calls that come to no markup -/

namespace Render

variable {env : Environment} {inner : Option (Layer Id)}

/-- The text of an expression is the text of what its call comes to. -/
theorem exec_expression_of_settled {call : Call} (h : Settled (Expand.call env inner call)) (state : RenderState) :
    exec (Expand.expression env inner call).run state =
      match exec (Expand.call env inner call).run state with
      | (.ok outcome, after) => (.ok outcome.value.text, after)
      | (.error e, after) => (.error e, after) := by
  rw [expression_of_settled h, Expand.plainExpression, exec_expand_bind]
  rcases exec (Expand.call env inner call).run state with ⟨e | outcome, after⟩ <;> rfl

/-! ## 2. Blanks around an expression -/

/-- The text of a node that is text. -/
def ownText : Node → String
  | .text s => s
  | _ => ""

/-- The text of nodes that are nothing but text. -/
def ownTexts (list : List Node) : String := String.join (list.map ownText)

/-- The nodes are an expression and, before and behind it, nothing but text of blanks. -/
structure Surrounded (list before : List Node) (call : Call) (span : Span) (after : List Node) : Prop where
  nodes : list = before ++ .expression call span :: after
  before : ∀ n ∈ before, isBlankText n = true
  after : ∀ n ∈ after, isBlankText n = true

theorem nodes_of_blanks (levels : Nat) (t : Template) {list : List Node} (h : ∀ n ∈ list, isBlankText n = true) :
    (nodes env levels t list : Render Id String) = pure (ownTexts list) := by
  have htexts : list.mapM (node (m := Id) env (below env levels) t) = pure (list.map ownText) := by
    induction list with
    | nil => rfl
    | cons n list ih =>
      have hblank := h n List.mem_cons_self
      rw [List.mapM_cons, ih fun n hn => h n (List.mem_cons_of_mem _ hn)]
      cases n with
      | text s => rfl
      | _ => cases hblank
  rw [nodes_eq_layer, layer, htexts, pure_bind]
  rfl

theorem filter_of_surrounded {list before after : List Node} {call : Call} {span : Span}
    (h : Surrounded list before call span after) :
    list.filter (! isBlankText ·) = [.expression call span] := by
  have hblanks : ∀ l : List Node, (∀ n ∈ l, isBlankText n = true) → l.filter (! isBlankText ·) = [] := by
    intro l hl
    refine List.filter_eq_nil_iff.mpr fun n hn => ?_
    rw [hl n hn]
    exact Bool.false_ne_true
  rw [h.nodes, List.filter_append, List.filter_cons_of_pos rfl, hblanks before h.before, hblanks after h.after]
  rfl

/-! ## 3. Values and texts -/

/-- What the value of a template comes to when there is one expression in it. -/
theorem exec_value_of_surrounded {t : Template} {before after : List Node} {call : Call} {span : Span}
    (h : Surrounded t.nodes before call span after) (state : RenderState) :
    exec (value env t) state =
      match exec (Expand.call env (below env env.maxDepth) call).run state with
      | (.ok outcome, after) => (outcome.value, after)
      | (.error e, after) => ((.string (exec (report t span e) after).1), (exec (report t span e) after).2) := by
  rw [value, filter_of_surrounded h]
  simp only [exec, StateT.run_bind, Id.run_bind]
  rcases ((Expand.call (m := Id) env (below env env.maxDepth) call).run.run state).run with ⟨e | outcome, after⟩ <;> rfl

/-- A template with one expression shows the value of it, between the blanks around the expression. -/
theorem exec_template_of_surrounded (env : Environment) {t : Template} {before after : List Node} {call : Call} {span : Span}
    (h : Surrounded t.nodes before call span after)
    (hname : ∀ name, call.name? = some name → env.registry.regular? name = none) (state : RenderState) :
    exec (template env 0 t) state =
      (ownTexts before ++ (exec (value env t) state).1.text ++ ownTexts after, (exec (value env t) state).2) := by
  have hnode : exec (node env (below env env.maxDepth) t (.expression call span)) state =
      ((exec (value env t) state).1.text, (exec (value env t) state).2) := by
    rw [exec_node, expansion, exec_expression_of_settled (settled_call hname), exec_value_of_surrounded h]
    rcases exec (Expand.call env (below env env.maxDepth) call).run state with ⟨e | outcome, after⟩ <;> rfl
  rw [template, Nat.sub_zero, h.nodes, nodes_siblings, nodes_of_blanks _ _ h.before, nodes_of_blanks _ _ h.after,
    pure_bind]
  show (_ ++ ((exec (node env (below env env.maxDepth) t (.expression call span)) state).1 ++ _),
    (exec (node env (below env env.maxDepth) t (.expression call span)) state).2) = _
  rw [hnode, String.append_assoc]

/-- The nodes that are more than blanks are one expression just when the template is one with blanks around it. -/
theorem exists_surrounded {list : List Node} {call : Call} {span : Span}
    (h : list.filter (! isBlankText ·) = [.expression call span]) :
    ∃ before after, Surrounded list before call span after := by
  obtain ⟨before, rest, rfl, hbefore, -, hrest⟩ := List.filter_eq_cons_iff.mp h
  refine ⟨before, rest, rfl, fun n hn => ?_, fun n hn => ?_⟩
  · simpa using hbefore n hn
  · simpa using List.filter_eq_nil_iff.mp hrest n hn

/-- Every other template has its text for a value. -/
theorem exec_value_of_not_surrounded (env : Environment) {t : Template}
    (h : ∀ before call span after, ¬ Surrounded t.nodes before call span after) (state : RenderState) :
    exec (value env t) state =
      (.string (exec (template env 0 t) state).1, (exec (template env 0 t) state).2) := by
  unfold value
  split
  · next call span hsingle =>
    obtain ⟨before, after, hsurrounded⟩ := exists_surrounded hsingle
    exact absurd hsurrounded (h before call span after)
  · rfl

end Render

/-! ## 4. The engine -/

namespace Engine

/-- **Evaluation and rendering agree.** A source that is one expression with blanks around it renders to these blanks
with the text of its value between them, also when the expression fails, as long as it does not go to a registered
helper. The value of every other source is what it renders to. Both leave the same engine behind, and either
comes to nothing just when the other one does. -/
theorem evaluate_agrees_with_render (engine : Engine) (now : Calendar.Instant) (source : String) (data : Value) :
    (∀ before call span after, Render.Surrounded (Template.parse source).nodes before call span after →
      (∀ name, call.name? = some name → engine.registry.regular? name = none) →
      (engine.render now source {} data 0).1.map (·.text) =
        (engine.evaluate now source data).1.map
          (fun v => Render.ownTexts before ++ v.text ++ Render.ownTexts after) ∧
      (engine.render now source {} data 0).2 = (engine.evaluate now source data).2) ∧
    ((∀ before call span after, ¬ Render.Surrounded (Template.parse source).nodes before call span after) →
      (engine.evaluate now source data).1 =
        (engine.render now source {} data 0).1.map (fun output => .string output.text) ∧
      (engine.evaluate now source data).2 = (engine.render now source {} data 0).2) := by
  refine ⟨fun before call span after hsurrounded hname => ?_, fun hnone => ?_⟩
  · have hrun := Render.exec_template_of_surrounded (engine.environment now) hsurrounded hname
      (engine.start {} data)
    rw [render, evaluate, hrun]
    generalize Render.exec (Render.value _ _) _ = result
    obtain ⟨v, state⟩ := result
    refine ⟨?_, rfl⟩
    simp only [outcome?]
    split <;> rfl
  · have hrun := Render.exec_value_of_not_surrounded (engine.environment now) hnone (engine.start {} data)
    rw [render, evaluate, hrun]
    generalize Render.exec (Render.template _ _ _) _ = result
    obtain ⟨text, state⟩ := result
    refine ⟨?_, rfl⟩
    simp only [outcome?]
    split <;> rfl

/-- A call that fails between blanks, and a source without an expression. -/
theorem evaluate_agrees_with_render_around_failure :
    let engine : Engine := .new [] {} [] (.memory (.empty 0))
    let call : Call := ⟨.bare "f", [.bare "1"], []⟩
    let failing := "\n\x7b\x7bf 1\x7d\x7d "
    Render.Surrounded (Template.parse failing).nodes [.text "\n"] call ⟨1, 8⟩ [.text " "] ∧
    engine.registry.regular? "f" = none ∧
    (engine.render ⟨0, 0⟩ failing {} .null 0).1.map (·.text) =
      (engine.evaluate ⟨0, 0⟩ failing .null).1.map (fun v => "\n" ++ v.text ++ " ") ∧
    (engine.evaluate ⟨0, 0⟩ "a" .null).1 =
      (engine.render ⟨0, 0⟩ "a" {} .null 0).1.map (fun output => .string output.text) := by
  intro engine call failing
  have hnodes : (Template.parse "\n\x7b\x7bf 1\x7d\x7d ").nodes =
      [.text "\n", .expression ⟨.bare "f", [.bare "1"], []⟩ ⟨1, 8⟩, .text " "] := by with_unfolding_all rfl
  have hsurrounded : Render.Surrounded (Template.parse failing).nodes [.text "\n"] call ⟨1, 8⟩ [.text " "] :=
    ⟨hnodes, by decide, by decide⟩
  have hregular : engine.registry.regular? "f" = none := rfl
  have htext : (Template.parse "a").nodes = [.text "a"] := by with_unfolding_all rfl
  have hnone : ∀ before call span after, ¬ Render.Surrounded (Template.parse "a").nodes before call span after := by
    intro before call span after h
    have hmem : Node.expression call span ∈ [Node.text "a"] := by
      rw [← htext, h.nodes]
      exact List.mem_append_right _ List.mem_cons_self
    cases List.mem_singleton.mp hmem
  have hfailing := (evaluate_agrees_with_render engine ⟨0, 0⟩ failing .null).1 _ _ _ _ hsurrounded (by
    rintro name ⟨⟩
    exact hregular)
  exact ⟨hsurrounded, hregular, hfailing.1, ((evaluate_agrees_with_render engine ⟨0, 0⟩ "a" .null).2 hnone).1⟩

end Engine

end Stencil
