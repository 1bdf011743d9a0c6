import Stencil.Render

/-!
The guard of nesting.

An expansion asks for the level below when it needs it, and fails when there is none. Compared with the same
expansion on top of a level it therefore either fails in this way, or comes to the same because it never asked
(`Guarded`). Nothing has been reported up to that point, as only nested renders and unbalanced parentheses report
anything in the middle of an expansion. The latter are looked for before all else, and throughout the call.

So a node that is stopped is one error in the diagnostics and its markup in the output, and a node that is not
stopped on the lowest level would have been rendered the same on any other.
-/

namespace Stencil

open Template

namespace Render

/-! ## 1. Expansions that are never stopped -/

/-- The guard does not stop the expansion, whatever the limit. -/
def Passes {α : Type} (x : Expand Id α) : Prop :=
  ∀ state limit, (exec x.run state).1 ≠ .error (.depthExceeded limit)

/-- The first expansion, which has no level below, is the second one as long as the guard does not stop it, and
reports nothing. The second one, which has a level below, is never stopped. -/
structure Guarded (env : Environment) {α : Type} (x y : Expand Id α) : Prop where
  quiet : ∀ state, (exec x.run state).2.diagnostics = state.diagnostics
  same : ∀ state, (exec x.run state).1 = .error (.depthExceeded env.maxDepth) ∨ exec x.run state = exec y.run state
  passes : Passes y

variable {env : Environment} {α β : Type}

theorem exec_expand_bind (x : Expand Id α) (f : α → Expand Id β) (state : RenderState) :
    exec (x >>= f).run state =
      match exec x.run state with
      | (.ok a, after) => exec (f a).run after
      | (.error e, after) => (.error e, after) := by
  simp only [exec, ExceptT.run_bind, StateT.run_bind, Id.run_bind]
  rcases (x.run.run state).run with ⟨_ | _, after⟩ <;> rfl

theorem exec_lift (x : Render Id α) (state : RenderState) :
    exec (liftM x : Expand Id α).run state = (.ok (exec x state).1, (exec x state).2) := rfl

/-- What comes to a result has come to one in its first part. -/
theorem exec_bind_ok {x : Expand Id α} {f : α → Expand Id β} {state after : RenderState} {b : β}
    (h : exec (x >>= f).run state = (.ok b, after)) :
    ∃ a between, exec x.run state = (.ok a, between) ∧ exec (f a).run between = (.ok b, after) := by
  rw [exec_expand_bind] at h
  generalize exec x.run state = outcome at h ⊢
  obtain ⟨e | a, between⟩ := outcome
  · cases h
  · exact ⟨a, between, rfl, h⟩

theorem passes_bind {x : Expand Id α} {f : α → Expand Id β} (hx : Passes x) (hf : ∀ a, Passes (f a)) :
    Passes (x >>= f) := by
  intro state
  have hstop := hx state
  rw [exec_expand_bind]
  generalize exec x.run state = outcome at hstop ⊢
  obtain ⟨e | a, after⟩ := outcome
  · exact fun limit h => hstop limit (congrArg Except.error (Except.error.inj h))
  · exact hf a after

theorem passes_lift (r : Render Id α) : Passes (liftM r) := by
  intro state limit h
  cases h

theorem passes_pure (a : α) : Passes (pure a) := by
  intro state limit h
  cases h

theorem passes_throw {e : TemplateError} (he : ∀ limit, e ≠ .depthExceeded limit) :
    Passes (throw e : Expand Id α) := fun _ limit h => he limit (Except.error.inj h)

theorem passes_ofHelper (name : String) (result : HelperResult α) : Passes (Expand.ofHelper name result) := by
  cases result with
  | ok a => exact passes_pure a
  | error e => exact passes_throw (by simp)

/-! ## 2. Guarded steps -/

theorem Guarded.bind {x y : Expand Id α} {f g : α → Expand Id β} (hx : Guarded env x y)
    (hf : ∀ a, Guarded env (f a) (g a)) : Guarded env (x >>= f) (y >>= g) where
  quiet state := by
    have hquiet := hx.quiet state
    rw [exec_expand_bind]
    generalize exec x.run state = outcome at hquiet ⊢
    obtain ⟨e | a, after⟩ := outcome
    · exact hquiet
    · exact ((hf a).quiet after).trans hquiet
  same state := by
    rw [exec_expand_bind, exec_expand_bind]
    rcases hx.same state with hstop | hsame
    -- a first step that is stopped stops the whole, so the second step is not looked at
    · left
      rcases hrun : exec x.run state with ⟨result, after⟩
      rw [hrun] at hstop
      cases hstop
      rfl
    · rw [← hsame]
      rcases exec x.run state with ⟨e | a, after⟩
      · exact .inr rfl
      · exact (hf a).same after
  passes := passes_bind hx.passes fun a => (hf a).passes

/-- An expansion that asks for nothing and reports nothing. -/
theorem Guarded.same_expansion {x : Expand Id α} (hpasses : Passes x)
    (hquiet : ∀ state, (exec x.run state).2.diagnostics = state.diagnostics) : Guarded env x x :=
  ⟨hquiet, fun _ => .inr rfl, hpasses⟩

theorem guarded_pure (a : α) : Guarded env (pure a) (pure a) := .same_expansion (passes_pure a) fun _ => rfl

theorem guarded_throw {e : TemplateError} (he : ∀ limit, e ≠ .depthExceeded limit) :
    Guarded env (throw e : Expand Id α) (throw e) := .same_expansion (passes_throw he) fun _ => rfl

theorem guarded_ofHelper (name : String) (result : HelperResult α) :
    Guarded env (Expand.ofHelper name result) (Expand.ofHelper name result) := by
  refine .same_expansion (passes_ofHelper name result) fun state => ?_
  cases result <;> rfl

theorem guarded_lift {r : Render Id α} (hquiet : ∀ state, (r.exec state).2.diagnostics = state.diagnostics) :
    Guarded env (liftM r) (liftM r) := .same_expansion (passes_lift r) hquiet

/-- This is where the guard stops an expansion. -/
theorem guarded_descend {f g : Layer Id → Expand Id α} {level : Layer Id} (hpasses : Passes (g level)) :
    Guarded env (Expand.descend env none >>= f) (Expand.descend env (some level) >>= g) where
  quiet _ := rfl
  same _ := .inl rfl
  passes := hpasses

theorem guarded_expanding (name : String) {x y : Expand Id String} (h : Guarded env x y) :
    Guarded env (Expand.expanding name x) (Expand.expanding name y) where
  quiet state := by
    rw [exec, Expand.run_expanding]
    cases state.chain.enter name with
    | error e => rfl
    | ok chain => exact h.quiet { state with chain }
  same state := by
    -- a call that is already on the chain fails before the guard, with or without a level below
    rw [exec, exec, Expand.run_expanding, Expand.run_expanding]
    cases state.chain.enter name with
    | error e => exact .inr rfl
    | ok chain =>
      refine (h.same { state with chain }).imp id fun hsame => ?_
      show ((exec x.run { state with chain }).1, { (exec x.run { state with chain }).2 with
        chain := (exec x.run { state with chain }).2.chain.leave }) = _
      rw [hsame]
      rfl
  passes state := by
    rw [exec, Expand.run_expanding]
    cases hchain : state.chain.enter name with
    | error e =>
      rw [CallChain.enter] at hchain
      split at hchain
      · cases hchain
        exact fun limit h => by cases h
      · cases hchain
    | ok chain => exact h.passes { state with chain }

/-! ## 3. Expressions -/

variable {level : Layer Id}

theorem guarded_includeFile (args : Args) :
    Guarded env (Expand.includeFile env none args) (Expand.includeFile env (some level) args) := by
  refine (guarded_ofHelper _ _).bind fun _ => guarded_descend ?_
  -- from here on there is a level below, and what is rendered on it cannot fail
  refine passes_bind (passes_lift _) fun place => ?_
  cases place with
  | error e => cases e <;> exact passes_throw (by simp)
  | ok place =>
    refine passes_bind (passes_lift _) fun t => ?_
    cases t with
    | none => exact passes_throw (by simp)
    | some t => exact passes_lift _

theorem guarded_component (name : String) (arguments : Fields Value) (content : Option String) :
    Guarded env (Expand.component env none name arguments content)
      (Expand.component env (some level) name arguments content) := by
  refine (guarded_lift fun _ => rfl).bind fun c => ?_
  cases c with
  | none => exact guarded_throw (by simp)
  | some c =>
    refine (guarded_expanding _ (guarded_descend ?_)).bind fun _ => guarded_pure _
    exact passes_lift _

theorem guarded_helper (name : String) (hasArguments : Bool) (args : Args) :
    Guarded env (Expand.helper env name hasArguments args) (Expand.helper env name hasArguments args) := by
  unfold Expand.helper
  split
  · refine (guarded_lift fun _ => rfl).bind fun scope => ?_
    exact (guarded_ofHelper _ _).bind fun v => guarded_pure _
  · refine (guarded_lift fun _ => rfl).bind fun setting => ?_
    refine (guarded_lift fun _ => rfl).bind fun _ => ?_
    split
    · exact (guarded_ofHelper _ _).bind fun v => guarded_pure _
    · split
      · exact guarded_throw (by simp)
      · exact guarded_pure _

theorem guarded_named (name : String) (hasArguments : Bool) (args : Args) :
    Guarded env (Expand.named env none name hasArguments args)
      (Expand.named env (some level) name hasArguments args) := by
  unfold Expand.named
  split
  · exact (guarded_lift fun _ => rfl).bind fun _ => guarded_pure _
  · exact (guarded_includeFile args).bind fun text => guarded_pure _
  · refine Guarded.bind ?_ fun _ => guarded_pure _
    exact (guarded_includeFile args).bind fun text => guarded_pure _
  · refine (guarded_ofHelper _ _).bind fun _ => ?_
    exact (guarded_component _ _ _).bind fun text => guarded_pure _
  · split
    · exact (guarded_component _ _ _).bind fun text => guarded_pure _
    · exact guarded_helper name hasArguments args

theorem guarded_dispatch {call : Call} (hbalanced : call.hasUnbalanced = false) {head head' : Expand Id Value}
    {arguments arguments' : Expand Id Args} (hhead : Guarded env head head')
    (harguments : Guarded env arguments arguments') :
    Guarded env (Expand.dispatch env none call head arguments)
      (Expand.dispatch env (some level) call head' arguments') := by
  unfold Expand.dispatch
  simp only [hbalanced, Bool.false_eq_true, if_false]
  split
  · exact hhead.bind fun v => guarded_pure _
  · exact harguments.bind fun args => guarded_named _ _ args

/- A call inside a balanced one is balanced, so this goes along the nesting of the arguments. -/
mutual

theorem guarded_argument :
    ∀ a : Argument, a.hasUnbalanced = false →
      Guarded env (Expand.argument env none a) (Expand.argument env (some level) a)
  | .quoted s, _ => guarded_pure (Value.string s)
  | .bare word, _ => (guarded_lift fun _ => rfl).bind fun scope => guarded_pure (scope.coerce word)
  | .unbalanced, _ => guarded_pure (Value.string unbalancedMarker)
  | .sub head positional named, h => by
    have hcall : Call.hasUnbalanced ⟨head, positional, named⟩ = false := h
    simp only [Argument.hasUnbalanced, Bool.or_eq_false_iff] at h
    simp only [Expand.argument]
    refine (guarded_dispatch hcall (guarded_argument head h.1.1) ?_).bind fun outcome => guarded_pure _
    refine (guarded_argumentList positional h.1.2).bind fun values => ?_
    exact (guarded_argumentFields [] named h.2).bind fun fields => guarded_pure _

theorem guarded_argumentList :
    ∀ as : List Argument, anyUnbalanced as = false →
      Guarded env (Expand.argumentList env none as) (Expand.argumentList env (some level) as)
  | [], _ => guarded_pure []
  | a :: as, h => by
    simp only [anyUnbalanced, Bool.or_eq_false_iff] at h
    simp only [Expand.argumentList]
    refine (guarded_argument a h.1).bind fun v => ?_
    exact (guarded_argumentList as h.2).bind fun vs => guarded_pure (v :: vs)

theorem guarded_argumentFields (fields : Fields Value) :
    ∀ as : List (String × Argument), anyUnbalancedNamed as = false →
      Guarded env (Expand.argumentFields env none fields as) (Expand.argumentFields env (some level) fields as)
  | [], _ => guarded_pure fields
  | (key, a) :: as, h => by
    simp only [anyUnbalancedNamed, Bool.or_eq_false_iff] at h
    simp only [Expand.argumentFields]
    refine (guarded_argument a h.1).bind fun v => ?_
    exact guarded_argumentFields (fields.insert key v) as h.2

end

theorem guarded_arguments {call : Call} (hbalanced : call.hasUnbalanced = false) :
    Guarded env (Expand.arguments env none call) (Expand.arguments env (some level) call) := by
  simp only [Call.hasUnbalanced, Call.toArgument, Argument.hasUnbalanced, Bool.or_eq_false_iff] at hbalanced
  refine (guarded_argumentList call.positional hbalanced.1.2).bind fun values => ?_
  exact (guarded_argumentFields [] call.named hbalanced.2).bind fun fields => guarded_pure _

theorem guarded_call {call : Call} (hbalanced : call.hasUnbalanced = false) :
    Guarded env (Expand.call env none call) (Expand.call env (some level) call) := by
  have hhead := hbalanced
  simp only [Call.hasUnbalanced, Call.toArgument, Argument.hasUnbalanced, Bool.or_eq_false_iff] at hhead
  exact guarded_dispatch hbalanced (guarded_argument call.head hhead.1.1) (guarded_arguments hbalanced)

theorem guarded_expression {call : Call} (hbalanced : call.hasUnbalanced = false) :
    Guarded env (Expand.expression env none call) (Expand.expression env (some level) call) := by
  refine (guarded_call hbalanced).bind fun outcome => ?_
  split
  · split
    · exact guarded_descend (passes_lift _)
    · exact guarded_pure _
  · exact guarded_pure _

/-! ## 4. Blocks -/

theorem passes_define (branches : Branches) (args : Args) : Passes (Expand.define (m := Id) branches args) := by
  unfold Expand.define
  refine passes_bind (passes_ofHelper _ _) fun _ => ?_
  refine passes_bind ?_ fun component => passes_bind (passes_lift _) fun _ => passes_pure ""
  unfold Component.declare
  split
  · exact passes_pure _
  · exact passes_throw (by simp)

theorem passes_builtinBlock (branches : Branches) (name : String) (args : Args) :
    Passes (Expand.builtinBlock env level branches name args) := by
  unfold Expand.builtinBlock
  split
  · exact passes_lift _
  · exact passes_lift _
  · exact passes_lift _
  · simp only
    split <;> exact passes_lift _
  · exact passes_lift _
  · exact passes_define branches args
  · split
    · exact passes_bind (passes_ofHelper _ _) fun result => passes_lift _
    · split
      · exact passes_bind (passes_lift _) fun content => (guarded_component _ _ _).passes
      · exact passes_throw (by simp)

/-- An expansion without a level below and with one. When the guard stops the first one, nothing has been reported;
when it does not, the level makes no difference. -/
structure Stoppable (env : Environment) {α : Type} (x y : Expand Id α) : Prop where
  quiet : ∀ state, (exec x.run state).1 = .error (.depthExceeded env.maxDepth) →
    (exec x.run state).2.diagnostics = state.diagnostics
  same : ∀ state, (exec x.run state).1 = .error (.depthExceeded env.maxDepth) ∨ exec x.run state = exec y.run state
  passes : Passes y

theorem Guarded.stoppable {x y : Expand Id α} (h : Guarded env x y) : Stoppable env x y :=
  ⟨fun state _ => h.quiet state, h.same, h.passes⟩

theorem stoppable_marker : Stoppable env (α := String)
    (do Render.warn (m := Id) "unbalanced subexpression"; return unbalancedMarker)
    (do Render.warn (m := Id) "unbalanced subexpression"; return unbalancedMarker) where
  quiet _ hstop := by cases hstop
  same _ := .inr rfl
  passes := passes_bind (passes_lift _) fun _ => passes_pure _

/-- The arguments of a call with a lone parenthesis are not evaluated. -/
theorem expression_of_unbalanced {call : Call} (h : call.hasUnbalanced = true) (inner : Option (Layer Id)) :
    Expand.expression env inner call = (do
      Render.warn (m := Id) "unbalanced subexpression"
      return unbalancedMarker) := by
  unfold Expand.expression Expand.call Expand.dispatch
  simp [h, Expand.Outcome.final, Value.text]

theorem stoppable_unbalanced {call : Call} (h : call.hasUnbalanced = true) :
    Stoppable env (Expand.expression env none call) (Expand.expression env (some level) call) := by
  rw [expression_of_unbalanced h, expression_of_unbalanced h]
  exact stoppable_marker

theorem stoppable_expression (call : Call) :
    Stoppable env (Expand.expression env none call) (Expand.expression env (some level) call) := by
  cases h : call.hasUnbalanced with
  | true => exact stoppable_unbalanced h
  | false => exact (guarded_expression h).stoppable

theorem stoppable_block (branches : Branches) (call : Call) :
    Stoppable env (Expand.block env none branches call) (Expand.block env (some level) branches call) := by
  unfold Expand.block
  split
  · exact (guarded_throw (by simp)).stoppable
  · split
    -- the warning is out before the guard is asked, but then the guard is not asked at all
    · exact stoppable_marker
    · next hbalanced =>
      refine (guarded_descend ?_).stoppable
      refine passes_bind (guarded_arguments (by simpa using hbalanced)).passes fun args => ?_
      split
      · refine passes_bind (passes_lift _) fun scope => ?_
        exact passes_bind (passes_lift _) fun result => passes_ofHelper _ result
      · exact passes_builtinBlock _ _ _

end Render

/-! ## 5. Nodes -/

/-- The place of a tag, or of a block from its opening tag to its closing one. -/
def Template.Node.span? : Node → Option Span
  | .expression _ span => some span
  | .block _ _ _ _ span => some span
  | _ => none

namespace Render

/-- What a node comes to while its failure has not been reported yet. Text and defects do not fail. -/
def expansion {m : Type → Type} [Monad m] (env : Environment) (inner : Option (Layer m)) (t : Template) :
    Node → Expand m String
  | .expression call _ => Expand.expression env inner call
  | .block call body inverse _ _ => Expand.block env inner ⟨t, body, inverse⟩ call
  | other => liftM (node env inner t other)

/-- The guard stops a node at a depth: its expansion asks for a level that is not there. -/
def Stopped (env : Environment) (depth : Nat) (t : Template) (n : Node) (state : RenderState) : Prop :=
  (exec (expansion env (below env (env.maxDepth - depth)) t n).run state).1 = .error (.depthExceeded env.maxDepth)

variable {env : Environment} {t : Template} {n : Node} {state : RenderState} {depth : Nat}

theorem stoppable_expansion (level : Layer Id) (t : Template) (n : Node) :
    Stoppable env (expansion env none t n) (expansion env (some level) t n) := by
  cases n with
  | text s => exact (guarded_lift fun _ => rfl).stoppable
  | expression call span => exact stoppable_expression call
  | block call body inverse bodySpan span => exact stoppable_block _ call
  | invalid defect => exact ⟨fun state hstop => (nomatch hstop), fun _ => .inr rfl, passes_lift _⟩

/-- A node is its expansion with the failure reported. -/
theorem exec_node (env : Environment) (inner : Option (Layer Id)) (t : Template) (n : Node) (state : RenderState) :
    exec (node env inner t n) state =
      match exec (expansion env inner t n).run state with
      | (.ok text, after) => (text, after)
      | (.error e, after) => exec (report t (n.span?.getD default) e) after := by
  have hrecover : ∀ (span : Span) (x : Expand Id String), exec (recover t span x) state =
      match exec x.run state with
      | (.ok text, after) => (text, after)
      | (.error e, after) => exec (report t span e) after := by
    intro span x
    simp only [recover, exec, StateT.run_bind, Id.run_bind]
    rcases (x.run.run state).run with ⟨_ | _, after⟩ <;> rfl
  cases n with
  | text s => rfl
  | expression call span => exact hrecover span _
  | block call body inverse bodySpan span => exact hrecover span _
  | invalid defect => rfl

/-- Below the limit nothing is stopped. -/
theorem not_stopped_of_lt (h : depth < env.maxDepth) : ¬ Stopped env depth t n state := by
  obtain ⟨levels, hlevels⟩ : ∃ levels, env.maxDepth - depth = levels + 1 := ⟨env.maxDepth - depth - 1, by omega⟩
  rw [Stopped, hlevels]
  exact (stoppable_expansion (nodes env levels) t n).passes state env.maxDepth

/-- Of all failures only that of the guard shows the construct that failed. -/
theorem report_eq {e : TemplateError} (he : ∀ limit, e ≠ .depthExceeded limit) (t t' : Template)
    (span span' : Span) : (report t span e : Render Id String) = report t' span' e := by
  cases e with
  | depthExceeded limit => exact absurd rfl (he limit)
  | _ => rfl

/-- Below the limit nodes are shown the same when their expansions come to the same, wherever they stand. -/
theorem exec_node_congr (hdepth : depth < env.maxDepth) {t' : Template} {n' : Node}
    (h : exec (expansion env (below env (env.maxDepth - depth)) t n).run state =
      exec (expansion env (below env (env.maxDepth - depth)) t' n').run state) :
    exec (node env (below env (env.maxDepth - depth)) t n) state =
      exec (node env (below env (env.maxDepth - depth)) t' n') state := by
  obtain ⟨levels, hlevels⟩ : ∃ levels, env.maxDepth - depth = levels + 1 := ⟨env.maxDepth - depth - 1, by omega⟩
  rw [hlevels, below] at h ⊢
  have hpasses : Passes (expansion env (some (nodes env levels)) t n) := (stoppable_expansion _ t n).passes
  have hfails := hpasses state
  rw [exec_node, exec_node, ← h]
  generalize exec (expansion env (some (nodes env levels)) t n).run state = outcome at hfails ⊢
  obtain ⟨e | text, after⟩ := outcome
  · have he : ∀ limit, e ≠ .depthExceeded limit := fun limit h => hfails limit (congrArg Except.error h)
    exact congrArg (exec · after) (report_eq he t t' _ _)
  · rfl

/-- A node that is stopped is its own markup, and one error. -/
theorem node_of_stopped (h : Stopped env depth t n state) :
    ∃ span, n.span? = some span ∧
      (exec (node env (below env (env.maxDepth - depth)) t n) state).1 = span.slice t.source ∧
      (exec (node env (below env (env.maxDepth - depth)) t n) state).2.diagnostics =
        state.diagnostics.error (TemplateError.depthExceeded env.maxDepth).message := by
  -- a node that is stopped is not below the limit, so there is no level below it
  have hlimit : env.maxDepth - depth = 0 := by
    have hdepth : ¬ depth < env.maxDepth := fun hlt => not_stopped_of_lt hlt h
    omega
  rw [Stopped, hlimit, below] at h
  have hquiet := (stoppable_expansion (nodes env 0) t n).quiet state h
  obtain ⟨span, hspan⟩ : ∃ span, n.span? = some span := by
    cases n with
    | text s => cases h
    | expression call span => exact ⟨span, rfl⟩
    | block call body inverse bodySpan span => exact ⟨span, rfl⟩
    | invalid defect => cases h
  refine ⟨span, hspan, ?_⟩
  rw [hlimit, below, exec_node, hspan]
  generalize exec (expansion env none t n).run state = outcome at h hquiet ⊢
  obtain ⟨result, after⟩ := outcome
  cases h
  refine ⟨rfl, ?_⟩
  -- the one error is put on top of the diagnostics that the node started with
  rw [← hquiet]
  rfl

/-- A node that is not stopped at the limit is what it would be on any level. -/
theorem node_of_not_stopped (hlimit : env.maxDepth ≤ depth) (h : ¬ Stopped env depth t n state) (level : Layer Id) :
    exec (node env (below env (env.maxDepth - depth)) t n) state = exec (node env (some level) t n) state := by
  have hlevels : env.maxDepth - depth = 0 := by omega
  rw [Stopped, hlevels, below] at h
  rw [hlevels, below, exec_node, exec_node, ((stoppable_expansion level t n).same state).resolve_left h]

/-- The nodes on the left and on the right of a node are rendered as if it were not there, after each other. -/
theorem nodes_siblings (env : Environment) (levels : Nat) (t : Template) (before after : List Node) (n : Node) :
    (nodes env levels t (before ++ n :: after) : Render Id String) = do
      let left ← nodes env levels t before
      let text ← node env (below env levels) t n
      let right ← nodes env levels t after
      return left ++ (text ++ right) := by
  rw [nodes_eq_layer]
  simp [layer, List.mapM_append]

end Render

end Stencil
