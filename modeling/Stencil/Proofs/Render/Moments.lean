import Stencil.Proofs.Render.Account

/-!
Moments of a render.

What a render comes to says little about the states in between. Here a render is watched: before and behind every
node, on every level of nesting, it puts down the state it is in and what is being rendered inside what. That makes
no difference to what it comes to.

A condition that holds when a render begins holds at all of these moments as soon as no step breaks it. Two things
are more than steps. A component is expanded with its name on the chain, on the level below; so the condition has to
be carried over to where its nodes are opened and back. And a registered block helper works on a scope of its own,
which is dropped later; a condition on what can be seen of the components holds where there are no such helpers.
-/

namespace Stencil

open Template

/-! ## 1. Expanding a component -/

namespace RenderState

/-- The state in which the nodes of a component are rendered, with its bindings in a frame of their own. -/
def entered (state : RenderState) (c : Component) (bindings : Fields Value) : RenderState :=
  { state with chain := state.chain ++ [c.usageName], scope := state.scope.push bindings }

/-- The state behind a component, from the one at the end of its nodes. -/
def left (after : RenderState) : RenderState :=
  { after with chain := after.chain.leave, scope := after.scope.pop }

end RenderState

namespace Expand

variable {m : Type → Type} [Monad m] [LawfulMonad m] (env : Environment) (inner : Option (Layer m)) (name : String)
  (arguments : Fields Value) (content : Option String) {state : RenderState}

theorem run_component? {α : Type} (f : Option Component → Expand m α) :
    (liftM (Render.component? (m := m) name) >>= f).run.run state =
      (f (state.components.find? name)).run.run state := by
  show StateT.run (ExceptT.run (ExceptT.lift (Render.component? (m := m) name) >>= f)) state = _
  rw [ExceptT.run_bind_lift, StateT.run_bind]
  simp [Render.component?]

theorem run_component_unknown (hfind : state.components.find? name = none) :
    (component env inner name arguments content).run.run state = pure (.error (.componentNotFound name), state) := by
  rw [component, run_component?, hfind]
  rfl

variable {c : Component} (hfind : state.components.find? name = some c)
include hfind

/-- A component that is being expanded already is not expanded again, whatever there is on the level below. -/
theorem run_component_circular (hmem : c.usageName ∈ state.chain) :
    (component env inner name arguments content).run.run state =
      pure (.error (.circularComponent (state.chain ++ [c.usageName])), state) := by
  rw [component, run_component?, hfind]
  simp [run_expanding, CallChain.enter_of_mem hmem, Except.map]

theorem run_component_bottom (hmem : c.usageName ∉ state.chain) :
    (component (m := m) env none name arguments content).run.run state =
      pure (.error (.depthExceeded env.maxDepth), state) := by
  rw [component, run_component?, hfind]
  simp [run_expanding, CallChain.enter_of_not_mem hmem, descend, Except.map]

/-- Any other component is rendered on the level below, with its name on the chain. -/
theorem run_component_entered (layer : Layer m) (hmem : c.usageName ∉ state.chain) :
    (component env (some layer) name arguments content).run.run state = do
      let bindings := withContent (Component.parameters c.defaults arguments) content
      let (text, after) ← (layer c.template c.template.nodes).run (state.entered c bindings)
      return (.ok (if Component.isInline c.defaults arguments then Component.collapseBlanks text else text),
        after.left) := by
  rw [component, run_component?, hfind]
  simp [run_expanding, CallChain.enter_of_not_mem hmem, descend, Render.run_withFrame, RenderState.entered,
    RenderState.left, Except.map]

end Expand

namespace Render

/-! ## 2. Watching -/

/-- Nodes that are rendered one level below others, and the state in which that begins. -/
structure Opening where
  template : Template
  nodes : List Node
  state : RenderState

/-- A point in the course of a render: what is being rendered inside the page, outermost first, and the state. -/
structure Moment where
  openings : List Opening
  state : RenderState

/-- What lies below the state of a render that is watched: the moments so far, first ones first. -/
abbrev Watch := StateM (List Moment)

/-- Puts the present moment down. -/
def look (openings : List Opening) : Render Watch Unit := do
  let state ← get
  StateT.lift (modify (· ++ [⟨openings, state⟩]))

/-- Renders nodes, and looks before and behind each of them. -/
def watchedLayer (env : Environment) (inner : Option (Layer Watch)) (openings : List Opening) : Layer Watch :=
  fun t nodes => do
    look openings
    let texts ← nodes.mapM fun n => do
      let text ← node env inner t n
      look openings
      return text
    return String.join texts

/-- A level below, which knows what it was opened in. -/
def opened (next : List Opening → Layer Watch) (openings : List Opening) : Layer Watch := fun t nodes => do
  let state ← get
  next (openings ++ [⟨t, nodes, state⟩]) t nodes

/-- The render, watched. -/
def watched (env : Environment) : Nat → List Opening → Layer Watch
  | 0, openings => watchedLayer env none openings
  | levels + 1, openings => watchedLayer env (some (opened (watched env levels) openings)) openings

/-- What nodes come to, the state after them, and all moments in between. -/
def moments (env : Environment) (levels : Nat) (t : Template) (list : List Node) (start : RenderState) :
    (String × RenderState) × List Moment :=
  ((watched env levels [] t list).run start).run []

/-! ## 3. What holds at all moments -/

/-- A condition on moments that no step of a render breaks. -/
structure Invariant (env : Environment) (inv : List Opening → RenderState → Prop) : Prop where
  kept : ∀ openings, Kept (inv openings) fun _ _ => True
  /-- Nodes are opened where the ones around them have got to. -/
  opened : ∀ {openings state}, inv openings state → ∀ t nodes, inv (openings ++ [⟨t, nodes, state⟩]) state
  closed : ∀ {openings state}, inv openings state → ∀ {t nodes after},
    inv (openings ++ [⟨t, nodes, state⟩]) after → inv openings after
  /-- The nodes of a component are opened with its name on the chain. -/
  entered : ∀ {openings state}, inv openings state → ∀ {name c}, state.components.find? name = some c →
    c.usageName ∉ state.chain → ∀ bindings,
      inv (openings ++ [⟨c.template, c.template.nodes, state.entered c bindings⟩]) (state.entered c bindings)
  left : ∀ {openings state}, inv openings state → ∀ {c bindings after},
    inv (openings ++ [⟨c.template, c.template.nodes, state.entered c bindings⟩]) after →
      inv openings after.left
  /-- Registered block helpers render in a copy of the scope. -/
  copy : ∀ {name run}, env.registry.block? name = some run → ∀ {openings state}, inv openings state →
    ∀ scope, inv openings { state with scope }

/-- A condition on the state alone that does not look at the chain. -/
theorem Invariant.ofKept {env : Environment} {inv : RenderState → Prop} (h : Kept inv fun _ _ => True)
    (hchain : ∀ {state}, inv state → ∀ chain, inv { state with chain })
    (hcopy : ∀ {name run}, env.registry.block? name = some run → ∀ {state}, inv state →
      ∀ scope, inv { state with scope }) :
    Invariant env fun _ => inv where
  kept _ := h
  opened hinv _ _ := hinv
  closed _ _ _ _ hafter := hafter
  entered {_ state} hinv {_ _} _ _ bindings := hchain (h.scope hinv (state.scope.push bindings) rfl) _
  left _ _ _ after hafter := hchain (h.scope hafter after.scope.pop rfl) _
  copy hrun _ _ hinv := hcopy hrun hinv

section Invariant

variable {env : Environment} {inv : List Opening → RenderState → Prop} (h : Invariant env inv)
  {openings : List Opening}

/-- What is put down is a moment at which the condition holds. -/
abbrev Holds (inv : List Opening → RenderState → Prop) (openings : List Opening) : Relation Watch Id :=
  Accounts (n := Id) (inv openings) fun moment : Moment => inv moment.openings moment.state

theorem holds_look : Holds inv openings Unit (look openings) (pure ()) := by
  intro state course hinv
  refine ⟨hinv, [⟨openings, state⟩], ?_, rfl⟩
  rintro moment hmoment
  cases List.mem_singleton.mp hmoment
  exact hinv

include h

/-- What is opened is watched inside of what is being rendered already. -/
theorem holds_opened {next : List Opening → Layer Watch} {layer : Layer Id}
    (hnext : ∀ openings t nodes, Holds inv openings String (next openings t nodes) (layer t nodes))
    (t : Template) (nodes : List Node) : Holds inv openings String (opened next openings t nodes) (layer t nodes) := by
  intro state course hinv
  obtain ⟨hafter, new, hnew, hrun⟩ := hnext (openings ++ [⟨t, nodes, state⟩]) t nodes state course (h.opened hinv t nodes)
  exact ⟨h.closed hinv hafter, new, hnew, hrun⟩

/-- The levels below a watched render and below the render itself: both missing, or the one an account of the other
inside of whatever it is opened in. -/
inductive Below (inv : List Opening → RenderState → Prop) (openings : List Opening) :
    Option (Layer Watch) → Option (Layer Id) → Prop
  | missing : Below inv openings none none
  | present {next : List Opening → Layer Watch} {layer : Layer Id}
      (accounts : ∀ openings t nodes, Holds inv openings String (next openings t nodes) (layer t nodes)) :
      Below inv openings (some (opened next openings)) (some layer)

variable {inner : Option (Layer Watch)} {inner' : Option (Layer Id)} (hbelow : Below inv openings inner inner')
include hbelow

theorem Below.levels : LevelsRelated (Holds inv openings) (fun _ _ => True) inner inner' := by
  cases hbelow with
  | missing => exact .missing
  | present hnext => exact .present fun t nodes _ => holds_opened h hnext t nodes

theorem holds_component (name : String) (arguments : Fields Value) (content : Option String) :
    Relation.expand (Holds inv openings) (Expand.component env inner name arguments content)
      (Expand.component env inner' name arguments content) := by
  intro state course hinv
  cases hfind : state.components.find? name with
  | none =>
    rw [exec, Expand.run_component_unknown _ _ _ _ _ hfind, Expand.run_component_unknown _ _ _ _ _ hfind]
    exact ⟨hinv, [], by simp, by rw [List.append_nil]; rfl⟩
  | some c =>
    by_cases hmem : c.usageName ∈ state.chain
    · rw [exec, Expand.run_component_circular _ _ _ _ _ hfind hmem, Expand.run_component_circular _ _ _ _ _ hfind hmem]
      exact ⟨hinv, [], by simp, by rw [List.append_nil]; rfl⟩
    · cases hbelow with
      | missing =>
        rw [exec, Expand.run_component_bottom _ _ _ _ hfind hmem, Expand.run_component_bottom _ _ _ _ hfind hmem]
        exact ⟨hinv, [], by simp, by rw [List.append_nil]; rfl⟩
      | @present next layer hnext =>
        let bindings := Expand.withContent (Component.parameters c.defaults arguments) content
        let inside := state.entered c bindings
        -- the nodes of the component, in the state in which they are opened
        obtain ⟨hafter, new, hnew, hrun⟩ := hnext (openings ++ [⟨c.template, c.template.nodes, inside⟩]) c.template
          c.template.nodes inside course (h.entered hinv hfind hmem bindings)
        have hopened : ((opened next openings c.template c.template.nodes).run inside).run course =
            pure ((layer c.template c.template.nodes).exec inside, course ++ new) := hrun
        rw [exec, Expand.run_component_entered _ _ _ _ hfind _ hmem,
          Expand.run_component_entered _ _ _ _ hfind _ hmem]
        refine ⟨h.left hinv hafter, new, hnew, ?_⟩
        rw [StateT.run_bind, hopened, pure_bind]
        rfl

/-- On a level of a watched render the condition holds as soon as it holds on the level below. -/
theorem followed_holds : Followed env inner inner' (Holds inv openings) fun _ _ => True where
  toSteps := (h.kept openings).steps
  levels := hbelow.levels h
  parse _ _ := trivial
  component := holds_component h hbelow
  helperRun := by
    rintro name run hrun below below' rfl rfl branches hok args
    refine (h.kept openings).steps.helperRun ?_ ?_ hok _
    · intro own x y hpart
      exact accounts_around hpart (fun state => { state with scope := own })
        (fun state r => ((r.1, r.2.scope), { r.2 with scope := state.scope })) (run_inScope own x) (run_inScope own y)
        (fun _ hinv => h.copy hrun hinv _) fun _ _ _ hinv => h.copy hrun hinv _
    · cases hbelow.levels h with
      | present hlevel => exact hlevel

theorem holds_watchedLayer (t : Template) (nodes : List Node) :
    Holds inv openings String (watchedLayer env inner openings t nodes) (layer env inner' t nodes) := by
  have hfollowed := followed_holds h hbelow
  -- the render itself does nothing where the watched one looks
  have hlayer : (layer env inner' t nodes : Render Id String) = pure () >>= fun _ => do
      let texts ← nodes.mapM fun n => node env inner' t n >>= fun text => pure () >>= fun _ => pure text
      return String.join texts := by
    simp [layer]
  rw [hlayer]
  refine accounts_bind holds_look fun _ => ?_
  refine accounts_bind (hfollowed.mapM nodes fun n hn => ?_) fun texts => hfollowed.pure _
  refine accounts_bind (hfollowed.node trivial hn) fun text => ?_
  exact accounts_bind holds_look fun _ => hfollowed.pure text

omit hbelow in
theorem holds_watched (levels : Nat) (openings : List Opening) (t : Template) (list : List Node) :
    Holds inv openings String (watched env levels openings t list) (nodes env levels t list) := by
  induction levels generalizing openings t list with
  | zero => exact holds_watchedLayer h .missing t list
  | succ levels ih => exact holds_watchedLayer h (.present ih) t list

omit hbelow in
/-- A condition that holds when a render begins, and that no step breaks, holds at all of its moments and at the end;
and watching the render makes no difference to what it comes to. -/
theorem holds_at_moments (levels : Nat) (t : Template) (list : List Node) (start : RenderState) (hstart : inv [] start) :
    (moments env levels t list start).1 = (nodes env levels t list).exec start ∧
    (∀ moment ∈ (moments env levels t list start).2, inv moment.openings moment.state) ∧
    inv [] ((nodes env levels t list).exec start).2 := by
  obtain ⟨hafter, new, hnew, hrun⟩ := holds_watched h levels [] t list start [] hstart
  have hmoments : moments env levels t list start = ((nodes env levels t list).exec start, new) := hrun
  rw [hmoments]
  exact ⟨rfl, hnew, hafter⟩

end Invariant

end Render

end Stencil
