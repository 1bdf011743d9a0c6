import Stencil.Proofs.Fields
import Stencil.Proofs.Render.Plain

/-!
Relations between renders.

Rendering is one large recursion, and many a property of it is a relation between the parts of two renders, or a
property of the parts of one: that they come to the same, that they leave something alone. Such a relation need not
be followed through the recursion more than once. What is proved here is that a relation which holds of every step,
and which is kept when steps are put after each other and around each other, holds of everything on one level of
nesting as soon as it holds of the level below.

There are two ways to use this. A relation that is `Respected` has to do with single steps only, and then it holds of
whole renders. A relation may also be about what expansions do with the level below: then it is `Followed` on that
level, and the expansion of components and the work of registered block helpers are shown to keep it as they are,
with the level at hand.

The two renders may have different monads below the state, so that one of them can be an account of the other. What
is rendered may be restricted to templates and nodes of which `ok` holds, as long as everything that is reached
from there is `ok` again. What a single render does to its state is a relation of this kind too, and the last section
says what has to be known of two states for it to go from step to step.
-/

set_option linter.unusedSectionVars false

namespace Stencil

open Template

/-- The values of named arguments are those of a list of arguments, put under the names one after the other. -/
theorem Expand.argumentFields_eq {m : Type → Type} [Monad m] [LawfulMonad m] (env : Environment)
    (inner : Option (Layer m)) (fields : Fields Value) (named : List (String × Argument)) :
    argumentFields env inner fields named = do
      return fields.insertAll ((named.map (·.1)).zip (← argumentList env inner (named.map (·.2)))) := by
  induction named generalizing fields with
  | nil => simp [argumentFields, argumentList, Fields.insertAll]
  | cons a named ih =>
    obtain ⟨key, a⟩ := a
    simp [argumentFields, argumentList, ih, Fields.insertAll]

namespace Render

variable {m n : Type → Type} [Monad m] [Monad n]

/-! ## 1. Steps that are respected -/

/-- A relation between parts of two renders that come to the same kind of thing. -/
abbrev Relation (m n : Type → Type) := ∀ α : Type, Render m α → Render n α → Prop

/-- Expansions are related when what they come to, failure included, is. -/
abbrev Relation.expand (rel : Relation m n) {α : Type} (x : Expand m α) (y : Expand n α) : Prop :=
  rel (Except TemplateError α) x.run y.run

/-- The relation holds of every step of a render and is kept by the plain ways of putting steps together. -/
structure Steps (rel : Relation m n) (ok : Template → List Node → Prop) : Prop where
  protected pure : ∀ {α : Type} (a : α), rel α (pure a) (pure a)
  protected bind : ∀ {α β : Type} {x : Render m α} {y : Render n α} {f : α → Render m β} {g : α → Render n β},
    rel α x y → (∀ a, rel β (f a) (g a)) → rel β (x >>= f) (y >>= g)
  protected warn : ∀ message, rel Unit (warn message) (warn message)
  protected error : ∀ message, rel Unit (error message) (error message)
  protected abandonIf : ∀ condition, rel Unit (abandonIf condition) (abandonIf condition)
  protected scope : rel Scope scope scope
  protected setVariables : ∀ args, rel Unit (setVariables args) (setVariables args)
  protected withFrame : ∀ {bindings x y}, rel String x y → rel String (withFrame bindings x) (withFrame bindings y)
  protected withIsolatedFrame : ∀ {bindings x y},
    rel String x y → rel String (withIsolatedFrame bindings x) (withIsolatedFrame bindings y)
  protected define : ∀ component : Component, component.Declared → ok component.template component.template.nodes →
    rel Unit (define component) (define component)
  protected setting : ∀ env, rel Helper.Setting (setting env) (setting env)
  protected resolve : ∀ requested, rel _ (resolve requested) (resolve requested)
  /-- A file that is read is `ok`. -/
  protected loadInclude : ∀ {α : Type} {useCache place} {f : Option Template → Render m α} {g : Option Template → Render n α},
    rel α (f none) (g none) → (∀ t : Template, ok t t.nodes → rel α (f (some t)) (g (some t))) →
    rel α (loadInclude useCache place >>= f) (loadInclude useCache place >>= g)
  /-- The branches of a block are `ok`, and so is a component made of its body. -/
  body : ∀ {t nodes call body inverse bodySpan span},
    ok t nodes → .block call body inverse bodySpan span ∈ nodes → ok t body
  inverse : ∀ {t nodes call body inverse bodySpan span},
    ok t nodes → .block call body (some inverse) bodySpan span ∈ nodes → ok t inverse
  fragment : ∀ {t nodes}, ok t nodes → ok (t.fragment nodes) nodes

/-- The relation is kept by every way of putting steps together. -/
structure Composed (rel : Relation m n) (ok : Template → List Node → Prop) : Prop extends Steps rel ok where
  protected inScope : ∀ {own x y}, rel String x y → rel (String × Scope) (inScope own x) (inScope own y)
  protected expanding : ∀ {name} {x : Expand m String} {y : Expand n String}, rel _ x.run y.run →
    rel _ (Expand.expanding name x).run (Expand.expanding name y).run
  /-- A component that is found is `ok`. -/
  protected component? : ∀ {α : Type} {name} {f : Option Component → Render m α} {g : Option Component → Render n α},
    rel α (f none) (g none) → (∀ c : Component, ok c.template c.template.nodes → rel α (f (some c)) (g (some c))) →
    rel α (component? name >>= f) (component? name >>= g)

/-- And everything that can be read is `ok`, so that it does not matter what a helper comes to. -/
structure Respected (rel : Relation m n) (ok : Template → List Node → Prop) : Prop extends Composed rel ok where
  parse : ∀ text, ok (Template.parse text) (Template.parse text).nodes

/-- The levels below two renders are related, or both are missing. -/
inductive LevelsRelated (rel : Relation m n) (ok : Template → List Node → Prop) :
    Option (Layer m) → Option (Layer n) → Prop
  | missing : LevelsRelated rel ok none none
  | present {layer : Layer m} {layer' : Layer n}
      (related : ∀ t nodes, ok t nodes → rel String (layer t nodes) (layer' t nodes)) :
      LevelsRelated rel ok (some layer) (some layer')

/-- The branches of a block that stands among `ok` nodes are `ok`. -/
structure BranchesOk (ok : Template → List Node → Prop) (branches : Branches) : Prop where
  body : ok branches.template branches.body
  inverse : ∀ nodes, branches.inverse = some nodes → ok branches.template nodes

/-- What a registered block helper does with the branches of its block, in a copy of the scope as it is. -/
def helperRun (layer : Layer m) (branches : Branches) (run : Scope → BlockRun) : Render m (HelperResult String) := do
  let scope ← scope
  branches.carryOut layer scope (run scope)

/-- The relation holds of the steps on one level of nesting, of all that is rendered on the level below, and of the two
expansions that handle more of the state than single steps do. -/
structure Followed (env : Environment) (inner : Option (Layer m)) (inner' : Option (Layer n)) (rel : Relation m n)
    (ok : Template → List Node → Prop) : Prop extends Steps rel ok where
  levels : LevelsRelated rel ok inner inner'
  /-- Markup that a registered helper came to is `ok`. -/
  parse : ∀ {name run}, env.registry.regular? name = some run →
    ∀ text, ok (Template.parse text) (Template.parse text).nodes
  component : ∀ name arguments content,
    rel.expand (Expand.component env inner name arguments content)
      (Expand.component env inner' name arguments content)
  /-- There may be no registered block helpers, and then there is nothing to show. -/
  helperRun : ∀ {name run}, env.registry.block? name = some run → ∀ {below below'}, inner = some below →
    inner' = some below' → ∀ {branches}, BranchesOk ok branches → ∀ args,
      rel _ (helperRun below branches fun scope => run args scope branches.inverse.isSome)
        (helperRun below' branches fun scope => run args scope branches.inverse.isSome)

namespace Steps

variable {rel : Relation m n} {ok : Template → List Node → Prop} (h : Steps rel ok)
include h

theorem mapM {α β : Type} {f : α → Render m β} {g : α → Render n β} (l : List α)
    (hf : ∀ a ∈ l, rel β (f a) (g a)) : rel (List β) (l.mapM f) (l.mapM g) := by
  -- the loop keeps what is done so far in reverse
  suffices hloop : ∀ done, rel (List β) (List.mapM.loop f l done) (List.mapM.loop g l done) from hloop []
  induction l with
  | nil => exact fun done => h.pure _
  | cons a l ih =>
    intro done
    refine h.bind (hf a List.mem_cons_self) fun b => ?_
    exact ih (fun c hc => hf c (List.mem_cons_of_mem a hc)) (b :: done)

/-! ## 2. Expansions -/

theorem expand_pure {α : Type} (a : α) : rel.expand (pure a) (pure a) := h.pure (Except.ok a)

theorem expand_throw {α : Type} (e : TemplateError) : rel.expand (α := α) (throw e) (throw e) :=
  h.pure (Except.error e)

theorem expand_bind {α β : Type} {x : Expand m α} {y : Expand n α} {f : α → Expand m β} {g : α → Expand n β}
    (hx : rel.expand x y) (hf : ∀ a, rel.expand (f a) (g a)) : rel.expand (x >>= f) (y >>= g) := by
  refine h.bind hx fun result => ?_
  cases result with
  | ok a => exact hf a
  | error e => exact h.pure (Except.error e)

theorem expand_ofHelper {α : Type} (name : String) (result : HelperResult α) :
    rel.expand (Expand.ofHelper name result) (Expand.ofHelper name result) := by
  cases result with
  | ok a => exact h.expand_pure a
  | error e => exact h.expand_throw _

variable [LawfulMonad m] [LawfulMonad n]

theorem expand_lift {α : Type} {x : Render m α} {y : Render n α} (hx : rel α x y) :
    rel.expand (liftM x) (liftM y) := by
  show rel _ (Except.ok <$> x) (Except.ok <$> y)
  rw [map_eq_pure_bind, map_eq_pure_bind]
  exact h.bind hx fun a => h.pure _

theorem expand_lift_bind {α β : Type} {x : Render m α} {y : Render n α} {f : α → Expand m β}
    {g : α → Expand n β} (hx : rel α x y) (hf : ∀ a, rel.expand (f a) (g a)) :
    rel.expand (liftM x >>= f) (liftM y >>= g) := h.expand_bind (h.expand_lift hx) hf

theorem expand_loadInclude {α : Type} {useCache : Bool} {place : Location} {f : Option Template → Expand m α}
    {g : Option Template → Expand n α} (hnone : rel.expand (f none) (g none))
    (hsome : ∀ t : Template, ok t t.nodes → rel.expand (f (some t)) (g (some t))) :
    rel.expand (liftM (loadInclude (m := m) useCache place) >>= f)
      (liftM (loadInclude (m := n) useCache place) >>= g) := by
  show rel _ (ExceptT.run (ExceptT.lift _ >>= f)) (ExceptT.run (ExceptT.lift _ >>= g))
  rw [ExceptT.run_bind_lift, ExceptT.run_bind_lift]
  exact h.loadInclude hnone hsome

theorem expand_ofExcept_bind {α β : Type} {result : Except TemplateError α} {f : α → Expand m β}
    {g : α → Expand n β} (hf : ∀ a, result = .ok a → rel.expand (f a) (g a)) :
    rel.expand (liftM result >>= f) (liftM result >>= g) := by
  show rel _ (pure result >>= ExceptT.bindCont f) (pure result >>= ExceptT.bindCont g)
  rw [pure_bind, pure_bind]
  cases result with
  | ok a => exact hf a rfl
  | error e => exact h.pure (Except.error e)

theorem report (t : Template) (span : Span) (e : TemplateError) :
    rel String (Render.report t span e) (Render.report t span e) := by
  unfold Render.report
  split
  · exact h.bind (h.error _) fun _ => h.pure _
  · split
    · exact h.bind (h.warn _) fun _ => h.pure _
    · exact h.bind (h.error _) fun _ => h.pure _

theorem recover {t : Template} {span : Span} {x : Expand m String} {y : Expand n String} (hx : rel.expand x y) :
    rel String (Render.recover t span x) (Render.recover t span y) := by
  refine h.bind hx fun result => ?_
  cases result with
  | ok text => exact h.pure text
  | error e => exact h.report t span e

/-! ## 3. The level below -/

variable {env : Environment} {inner : Option (Layer m)} {inner' : Option (Layer n)}

theorem expand_descend {α : Type} (levels : LevelsRelated rel ok inner inner') {f : Layer m → Expand m α}
    {g : Layer n → Expand n α}
    (hf : ∀ layer layer', inner = some layer → inner' = some layer' →
      (∀ t nodes, ok t nodes → rel String (layer t nodes) (layer' t nodes)) → rel.expand (f layer) (g layer')) :
    rel.expand (Expand.descend env inner >>= f) (Expand.descend env inner' >>= g) := by
  cases levels with
  -- without a level below both fail, and `f` and `g` are not looked at
  | missing =>
    show rel _ (pure (Except.error _) >>= ExceptT.bindCont f) (pure (Except.error _) >>= ExceptT.bindCont g)
    rw [pure_bind, pure_bind]
    exact h.pure _
  | @present layer layer' related =>
    show rel _ (pure (Except.ok layer) >>= ExceptT.bindCont f) (pure (Except.ok layer') >>= ExceptT.bindCont g)
    rw [pure_bind, pure_bind]
    exact hf layer layer' rfl rfl related

theorem includeFile (levels : LevelsRelated rel ok inner inner') (args : Args) :
    rel.expand (Expand.includeFile env inner args) (Expand.includeFile env inner' args) := by
  refine h.expand_bind (h.expand_ofHelper _ _) fun _ => ?_
  refine h.expand_descend levels fun layer layer' _ _ related => ?_
  refine h.expand_lift_bind (h.resolve _) fun place => ?_
  cases place with
  | error e => cases e <;> exact h.expand_throw _
  | ok place =>
    refine h.expand_loadInclude (h.expand_throw _) fun t ht => ?_
    exact h.expand_lift (h.withFrame (related t t.nodes ht))

theorem helper (name : String) (hasArguments : Bool) (args : Args) :
    rel.expand (Expand.helper env name hasArguments args) (Expand.helper env name hasArguments args) := by
  unfold Expand.helper
  split
  · refine h.expand_lift_bind h.scope fun scope => ?_
    exact h.expand_bind (h.expand_ofHelper _ _) fun v => h.expand_pure _
  · refine h.expand_lift_bind (h.setting env) fun setting => ?_
    refine h.expand_lift_bind (h.abandonIf _) fun _ => ?_
    split
    · exact h.expand_bind (h.expand_ofHelper _ _) fun v => h.expand_pure _
    · split
      · exact h.expand_throw _
      · exact h.expand_pure _

variable {below : Layer m} {below' : Layer n} {branches : Branches}

theorem choose (related : ∀ t nodes, ok t nodes → rel String (below t nodes) (below' t nodes))
    (hok : BranchesOk ok branches) (condition : Bool) :
    rel String (branches.choose below condition) (branches.choose below' condition) := by
  unfold Branches.choose
  split
  · exact related _ _ hok.body
  · split
    · next nodes hnodes => exact related _ _ (hok.inverse nodes hnodes)
    · exact h.pure ""

theorem each (related : ∀ t nodes, ok t nodes → rel String (below t nodes) (below' t nodes))
    (hok : BranchesOk ok branches) (target : Value) :
    rel String (branches.each below target) (branches.each below' target) := by
  unfold Branches.each
  simp only
  split
  · exact h.choose related hok false
  · exact h.bind (h.mapM _ fun _ _ => h.withFrame (related _ _ hok.body)) fun texts => h.pure _

/-- What a registered block helper does with its branches, in a scope of its own. -/
theorem helperRun
    (inScope : ∀ {own x y}, rel String x y → rel (String × Scope) (Render.inScope own x) (Render.inScope own y))
    (related : ∀ t nodes, ok t nodes → rel String (below t nodes) (below' t nodes)) (hok : BranchesOk ok branches)
    (run : Scope → BlockRun) : rel _ (Render.helperRun below branches run) (Render.helperRun below' branches run) := by
  have hcarry : ∀ (run : BlockRun) (own : Scope),
      rel _ (branches.carryOut below own run) (branches.carryOut below' own run) := by
    intro run
    induction run with
    | done result => exact fun own => h.pure result
    | body bindings next ih =>
      intro own
      refine h.bind (inScope (h.withFrame (related _ _ hok.body))) fun (text, own) => ?_
      exact ih text own
    | inverse bindings next ih =>
      intro own
      simp only [Branches.carryOut]
      split
      · exact ih "" own
      · next nodes hnodes =>
        refine h.bind (inScope (h.withFrame (related _ _ (hok.inverse nodes hnodes)))) fun (text, own) => ?_
        exact ih text own
  exact h.bind h.scope fun scope => hcarry (run scope) scope

theorem define_block (hok : BranchesOk ok branches) {args : Args} (hnamed : (Fields.keys args.named).Nodup) :
    rel.expand (Expand.define branches args) (Expand.define branches args) := by
  refine h.expand_bind (h.expand_ofHelper _ _) fun _ => ?_
  refine h.expand_ofExcept_bind fun component hcomponent => ?_
  -- the component is the body of the block, over the source that the block stands in
  have hfragment : ok component.template component.template.nodes := by
    rw [Component.template_of_declare hcomponent]
    exact h.fragment hok.body
  have hdeclared := Component.declared_of_declare hnamed hcomponent
  exact h.expand_lift_bind (h.define component hdeclared hfragment) fun _ => h.expand_pure ""

end Steps

/-! ## 4. One level -/

namespace Followed

variable {env : Environment} {inner : Option (Layer m)} {inner' : Option (Layer n)} {rel : Relation m n}
  {ok : Template → List Node → Prop} [LawfulMonad m] [LawfulMonad n] (h : Followed env inner inner' rel ok)
include h

theorem named (name : String) (hasArguments : Bool) (args : Args) :
    rel.expand (Expand.named env inner name hasArguments args)
      (Expand.named env inner' name hasArguments args) := by
  unfold Expand.named
  split
  · exact h.expand_lift_bind (h.setVariables args) fun _ => h.expand_pure _
  · exact h.expand_bind (h.includeFile h.levels args) fun text => h.expand_pure _
  · refine h.expand_bind ?_ fun _ => h.expand_pure _
    exact h.expand_bind (h.includeFile h.levels args) fun text => h.expand_pure _
  · refine h.expand_bind (h.expand_ofHelper _ _) fun _ => ?_
    exact h.expand_bind (h.component _ _ _) fun text => h.expand_pure _
  · split
    · exact h.expand_bind (h.component _ _ _) fun text => h.expand_pure _
    · exact h.helper name hasArguments args

theorem dispatch (call : Call) {head : Expand m Value} {head' : Expand n Value} {arguments : Expand m Args}
    {arguments' : Expand n Args} (hhead : rel.expand head head') (harguments : rel.expand arguments arguments') :
    rel.expand (Expand.dispatch env inner call head arguments)
      (Expand.dispatch env inner' call head' arguments') := by
  unfold Expand.dispatch
  split
  · exact h.expand_lift_bind (h.warn _) fun _ => h.expand_pure _
  · split
    · exact h.expand_bind hhead fun v => h.expand_pure _
    · exact h.expand_bind harguments fun args => h.named _ _ args

/- The arguments of a call may be calls, so this goes along the nesting of the arguments. -/
mutual

theorem argument :
    ∀ a : Argument, rel.expand (Expand.argument env inner a) (Expand.argument env inner' a)
  | .quoted s => h.expand_pure (Value.string s)
  | .bare word => h.expand_lift_bind h.scope fun scope => h.expand_pure (scope.coerce word)
  | .unbalanced => h.expand_pure (Value.string unbalancedMarker)
  | .sub head positional named => by
    simp only [Expand.argument]
    refine h.expand_bind (h.dispatch _ (argument head) ?_) fun outcome => h.expand_pure _
    refine h.expand_bind (argumentList positional) fun values => ?_
    exact h.expand_bind (argumentFields [] named) fun fields => h.expand_pure _

theorem argumentList :
    ∀ as : List Argument, rel.expand (Expand.argumentList env inner as) (Expand.argumentList env inner' as)
  | [] => h.expand_pure []
  | a :: as => by
    simp only [Expand.argumentList]
    refine h.expand_bind (argument a) fun v => ?_
    exact h.expand_bind (argumentList as) fun vs => h.expand_pure (v :: vs)

theorem argumentFields (fields : Fields Value) :
    ∀ as : List (String × Argument),
      rel.expand (Expand.argumentFields env inner fields as) (Expand.argumentFields env inner' fields as)
  | [] => h.expand_pure fields
  | (key, a) :: as => by
    simp only [Expand.argumentFields]
    refine h.expand_bind (argument a) fun v => ?_
    exact argumentFields (fields.insert key v) as

end

theorem arguments (call : Call) :
    rel.expand (Expand.arguments env inner call) (Expand.arguments env inner' call) := by
  refine h.expand_bind (h.argumentList call.positional) fun values => ?_
  exact h.expand_bind (h.argumentFields [] call.named) fun fields => h.expand_pure _

/-- What comes behind the arguments of a call need only be related for arguments whose names are distinct. -/
theorem arguments_bind {α : Type} (call : Call) {f : Args → Expand m α} {g : Args → Expand n α}
    (hf : ∀ args : Args, (Fields.keys args.named).Nodup → rel.expand (f args) (g args)) :
    rel.expand (Expand.arguments env inner call >>= f) (Expand.arguments env inner' call >>= g) := by
  simp only [Expand.arguments, Expand.argumentFields_eq, bind_assoc, pure_bind]
  refine h.expand_bind (h.argumentList _) fun values => ?_
  exact h.expand_bind (h.argumentList _) fun more => hf _ (Fields.nodup_keys_ofList _)

theorem call (call : Call) : rel.expand (Expand.call env inner call) (Expand.call env inner' call) :=
  h.dispatch call (h.argument call.head) (h.arguments call)

theorem expression (call : Call) :
    rel.expand (Expand.expression env inner call) (Expand.expression env inner' call) := by
  by_cases hregistry : ∃ name run, env.registry.regular? name = some run
  · obtain ⟨name, run, hrun⟩ := hregistry
    refine h.expand_bind (h.call call) fun outcome => ?_
    split
    · split
      · refine h.expand_descend h.levels fun layer layer' _ _ related => ?_
        exact h.expand_lift (related _ _ (h.parse hrun _))
      · exact h.expand_pure _
    · exact h.expand_pure _
  · -- without registered helpers there is no markup to be looked at
    have hname (name : String) : env.registry.regular? name = none :=
      Option.eq_none_iff_forall_ne_some.mpr fun run hrun => hregistry ⟨name, run, hrun⟩
    rw [expression_of_settled (settled_call fun name _ => hname name),
      expression_of_settled (settled_call fun name _ => hname name)]
    exact h.expand_bind (h.call call) fun outcome => h.expand_pure _

variable {branches : Branches}

theorem builtinBlock {below : Layer m} {below' : Layer n} (hbelow : inner = some below)
    (hbelow' : inner' = some below')
    (related : ∀ t nodes, ok t nodes → rel String (below t nodes) (below' t nodes)) (hok : BranchesOk ok branches)
    (name : String) {args : Args} (hnamed : (Fields.keys args.named).Nodup) :
    rel.expand (Expand.builtinBlock env below branches name args)
      (Expand.builtinBlock env below' branches name args) := by
  unfold Expand.builtinBlock
  split
  · exact h.expand_lift (h.choose related hok _)
  · exact h.expand_lift (h.choose related hok _)
  · exact h.expand_lift (h.each related hok _)
  · simp only
    split
    · exact h.expand_lift (h.withIsolatedFrame (related _ _ hok.body))
    · exact h.expand_lift (h.choose related hok _)
  · exact h.expand_lift (h.withFrame (h.bind (h.setVariables args) fun _ => related _ _ hok.body))
  · exact h.define_block hok hnamed
  · split
    · exact h.expand_bind (h.expand_ofHelper _ _) fun result => h.expand_lift (h.choose related hok _)
    · split
      · refine h.expand_lift_bind (related _ _ hok.body) fun content => ?_
        rw [← hbelow, ← hbelow']
        exact h.component _ _ _
      · exact h.expand_throw _

theorem block (hok : BranchesOk ok branches) (call : Call) :
    rel.expand (Expand.block env inner branches call) (Expand.block env inner' branches call) := by
  unfold Expand.block
  split
  · exact h.expand_throw _
  · split
    · exact h.expand_lift_bind (h.warn _) fun _ => h.expand_pure _
    · refine h.expand_descend h.levels fun layer layer' hlayer hlayer' related => ?_
      refine h.arguments_bind call fun args hnamed => ?_
      split
      · next run hrun =>
        have hhelper := h.expand_lift (h.helperRun hrun hlayer hlayer' hok args)
        simp only [Render.helperRun, liftM_bind] at hhelper
        simp only [← bind_assoc]
        exact h.expand_bind hhelper fun result => h.expand_ofHelper _ result
      · exact h.builtinBlock hlayer hlayer' related hok _ hnamed

theorem node {t : Template} {nodes : List Node} (hok : ok t nodes) {node : Node} (hnode : node ∈ nodes) :
    rel String (Render.node env inner t node) (Render.node env inner' t node) := by
  cases node with
  | text s => exact h.pure s
  | expression call span => exact h.recover (h.expression call)
  | block call body inverse bodySpan span =>
    refine h.recover (h.block ⟨h.body hok hnode, ?_⟩ call)
    rintro nodes rfl
    exact h.inverse hok hnode
  | invalid defect => exact h.bind (h.warn _) fun _ => h.pure _

/-- Everything on a level of nesting is related. -/
theorem layer {t : Template} {nodes : List Node} (hok : ok t nodes) :
    rel String (Render.layer env inner t nodes) (Render.layer env inner' t nodes) :=
  h.bind (h.mapM nodes fun _ hnode => h.node hok hnode) fun texts => h.pure (String.join texts)

end Followed

/-! ## 5. Whole renders -/

namespace Composed

variable {rel : Relation m n} {ok : Template → List Node → Prop} [LawfulMonad m] [LawfulMonad n]
  (h : Composed rel ok)
include h

theorem expand_component? {α : Type} {name : String} {f : Option Component → Expand m α}
    {g : Option Component → Expand n α} (hnone : rel.expand (f none) (g none))
    (hsome : ∀ c : Component, ok c.template c.template.nodes → rel.expand (f (some c)) (g (some c))) :
    rel.expand (liftM (component? (m := m) name) >>= f) (liftM (component? (m := n) name) >>= g) := by
  show rel _ (ExceptT.run (ExceptT.lift _ >>= f)) (ExceptT.run (ExceptT.lift _ >>= g))
  rw [ExceptT.run_bind_lift, ExceptT.run_bind_lift]
  exact h.component? hnone hsome

variable {env : Environment} {inner : Option (Layer m)} {inner' : Option (Layer n)}

/-- A relation of single steps can be followed through a level as soon as it holds of the level below. -/
theorem followed (levels : LevelsRelated rel ok inner inner')
    (parse : ∀ {name run}, env.registry.regular? name = some run →
      ∀ text, ok (Template.parse text) (Template.parse text).nodes) : Followed env inner inner' rel ok where
  toSteps := h.toSteps
  levels := levels
  parse := parse
  component name arguments content := by
    refine h.expand_component? (h.expand_throw _) fun c hc => ?_
    refine h.expand_bind (h.expanding ?_) fun text => h.expand_pure _
    refine h.expand_descend levels fun layer layer' _ _ related => ?_
    exact h.expand_lift (h.withFrame (related _ _ hc))
  helperRun := by
    rintro name run - below below' rfl rfl branches hok args
    cases levels with
    | present related => exact h.toSteps.helperRun h.inScope related hok _

end Composed

namespace Respected

variable {rel : Relation m n} {ok : Template → List Node → Prop} [LawfulMonad m] [LawfulMonad n]
  (h : Respected rel ok) {env : Environment} {inner : Option (Layer m)} {inner' : Option (Layer n)}
include h

theorem followed (levels : LevelsRelated rel ok inner inner') : Followed env inner inner' rel ok :=
  h.toComposed.followed levels fun _ => h.parse

theorem expression (levels : LevelsRelated rel ok inner inner') (call : Call) :
    rel.expand (Expand.expression env inner call) (Expand.expression env inner' call) :=
  (h.followed levels).expression call

theorem block (levels : LevelsRelated rel ok inner inner') {branches : Branches} (hok : BranchesOk ok branches)
    (call : Call) : rel.expand (Expand.block env inner branches call) (Expand.block env inner' branches call) :=
  (h.followed levels).block hok call

/-- Everything on one level of nesting is related as soon as the level below is. -/
theorem layer (levels : LevelsRelated rel ok inner inner') {t : Template} {nodes : List Node}
    (hok : ok t nodes) : rel String (Render.layer env inner t nodes) (Render.layer env inner' t nodes) :=
  (h.followed levels).layer hok

theorem levels (env : Environment) (levels : Nat) :
    LevelsRelated rel ok (Render.below (m := m) env levels) (Render.below (m := n) env levels) := by
  induction levels with
  | zero => exact .missing
  | succ levels ih =>
    refine .present fun t nodes hok => ?_
    rw [nodes_eq_layer, nodes_eq_layer]
    exact h.layer ih hok

/-- Renders with as many levels left are related. -/
theorem nodes (env : Environment) (levels : Nat) {t : Template} {nodes : List Node} (hok : ok t nodes) :
    rel String (Render.nodes env levels t nodes) (Render.nodes env levels t nodes) := by
  rw [nodes_eq_layer, nodes_eq_layer]
  exact h.layer (h.levels env levels) hok

/-- So are the values of a template. -/
theorem value (env : Environment) {t : Template} (hok : ok t t.nodes) :
    rel Value (Render.value env t) (Render.value env t) := by
  unfold Render.value
  split
  · refine h.bind ((h.followed (h.levels env env.maxDepth)).call _) fun result => ?_
    cases result with
    | ok outcome => exact h.pure outcome.value
    | error e => exact h.bind (h.report t _ e) fun text => h.pure (Value.string text)
  · exact h.bind (h.nodes env _ hok) fun text => h.pure (Value.string text)

end Respected

/-! ## 6. Before and after -/

/-- Whatever state the part begins in, it ends in one that is related to it. -/
def Leads (before : RenderState → RenderState → Prop) : Relation Id Id := fun _ part _ =>
  ∀ state, before state (part.exec state).2

/-- The relation goes from step to step, also where a step begins by changing the scope or the chain and ends by taking
that back. Of a state it looks at these two only. -/
structure Carried (before : RenderState → RenderState → Prop) : Prop where
  same : ∀ {state after : RenderState}, after.scope = state.scope → after.chain = state.chain → before state after
  trans : ∀ {a b c}, before a b → before b c → before a c
  setVariables : ∀ args state, before state { state with scope := applyLet args state.scope }
  define : ∀ component state, before state (exec (define component) state).2
  frame : ∀ {state after : RenderState} {frame},
    before { state with scope := ⟨frame :: state.scope.frames, state.scope.root⟩ } after →
      before state { after with scope := after.scope.pop }
  inScope : ∀ {state after : RenderState} {own},
    before { state with scope := own } after → before state { after with scope := state.scope }
  expanding : ∀ {state after : RenderState} {name}, before { state with chain := state.chain ++ [name] } after →
    before state { after with chain := after.chain.leave }

theorem Carried.respected {before : RenderState → RenderState → Prop} (h : Carried before) :
    Respected (Leads before) fun _ _ => True where
  pure _ _ := h.same rfl rfl
  bind hx hf state := h.trans (hx state) (hf _ _)
  warn _ _ := h.same rfl rfl
  error _ _ := h.same rfl rfl
  abandonIf _ _ := h.same rfl rfl
  scope _ := h.same rfl rfl
  setVariables args state := h.setVariables args state
  withFrame hx _ := h.frame (hx _)
  withIsolatedFrame hx _ := h.frame (hx _)
  inScope hx _ := h.inScope (hx _)
  expanding {name x y} hx := by
    intro state
    rw [exec, Expand.run_expanding]
    by_cases hmem : name ∈ state.chain
    · rw [CallChain.enter_of_mem hmem]
      exact h.same rfl rfl
    · rw [CallChain.enter_of_not_mem hmem]
      exact h.expanding (hx { state with chain := state.chain ++ [name] })
  component? {α name f g} hnone hsome := by
    intro state
    show before state ((f (state.components.find? name)).exec state).2
    cases state.components.find? name with
    | none => exact hnone state
    | some c => exact hsome c trivial state
  define component _ _ state := h.define component state
  setting _ _ := h.same rfl rfl
  resolve _ _ := h.same rfl rfl
  loadInclude {α useCache place f g} hnone hsome := by
    intro state
    obtain ⟨files, includes, hload⟩ := state.load_eq useCache place
    show before state ((f (state.load useCache place).1).exec (state.load useCache place).2).2
    rw [hload]
    have hsame : before state { state with files, includes } := h.same rfl rfl
    cases (state.load useCache place).1 with
    | none => exact h.trans hsame (hnone _)
    | some t => exact h.trans hsame (hsome t trivial _)
  parse _ := trivial
  body _ _ := trivial
  inverse _ _ := trivial
  fragment _ := trivial

end Render

end Stencil
