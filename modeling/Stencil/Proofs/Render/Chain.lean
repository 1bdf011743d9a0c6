import Stencil.Engine
import Stencil.Proofs.Render.Moments

/-!
The chain of components.

A component is entered before its nodes are rendered and left behind them, and in between there may be anything:
includes, blocks, other components, failures, a definition that puts another component in its place. The chain is
what tells that a component comes round to itself. For that it has to name, at every moment, just the components that
are being expanded; and whatever is rendered, however it comes out, has to take off again what it has put on.
-/

namespace Stencil

open Template

namespace Render

/-! ## 1. Components being expanded -/

/-- The chain at a point where `openings` are being rendered inside each other: the one at the beginning, and for each
component that was opened since its usage name. -/
inductive Expanding (start : CallChain) : List Opening → CallChain → Prop
  | start : Expanding start [] start
  /-- A branch, an include or the markup of a helper. -/
  | other {openings chain opening} (outer : Expanding start openings chain) (same : opening.state.chain = chain) :
      Expanding start (openings ++ [opening]) chain
  /-- The nodes of a component that the state has, and that is not being expanded yet. -/
  | component {openings chain opening name c} (outer : Expanding start openings chain)
      (found : opening.state.components.find? name = some c) (template : opening.template = c.template)
      (nodes : opening.nodes = c.template.nodes) (new : c.usageName ∉ chain)
      (entered : opening.state.chain = chain ++ [c.usageName]) :
      Expanding start (openings ++ [opening]) (chain ++ [c.usageName])

variable {start chain : CallChain} {openings : List Opening} {opening : Opening}

/-- What is opened goes on with the chain of the state in which it was opened. -/
theorem Expanding.chain_eq (h : Expanding start (openings ++ [opening]) chain) : chain = opening.state.chain := by
  generalize hall : openings ++ [opening] = all at h
  cases h with
  | start => exact absurd hall (by simp)
  | other outer same =>
    obtain ⟨-, hopening⟩ := List.append_inj' hall rfl
    cases hopening
    exact same.symm
  | component outer found template nodes new entered =>
    obtain ⟨-, hopening⟩ := List.append_inj' hall rfl
    cases hopening
    exact entered.symm

/-- The chain names no component twice. -/
theorem Expanding.nodup (h : Expanding start openings chain) (hstart : start.Nodup) : chain.Nodup := by
  induction h with
  | start => exact hstart
  | other outer same ih => exact ih
  | component outer found template nodes new entered ih =>
    rw [List.nodup_append]
    refine ⟨ih, by simp, fun name hname other hother => ?_⟩
    rw [List.mem_singleton.mp hother]
    rintro rfl
    exact new hname

/-! ## 2. At every moment -/

/-- That the chain names what is being expanded is not broken by any step. -/
theorem invariant_expanding (env : Environment) (start : CallChain) :
    Invariant env fun openings state => Expanding start openings state.chain where
  kept openings := {
    diagnostics := fun h _ => h
    abandoned := fun h _ => h
    scope := fun h _ _ => h
    define := fun h _ _ _ => h
    load := by
      intro state h useCache place
      obtain ⟨files, includes, hload⟩ := state.load_eq useCache place
      rw [hload]
      exact ⟨h, fun _ _ => trivial⟩
    parse := fun _ => trivial
    body := fun _ _ => trivial
    inverse := fun _ _ => trivial
    fragment := fun _ => trivial }
  opened h t nodes := .other h rfl
  closed {openings state} h {t nodes after} hafter := by
    rw [hafter.chain_eq]
    exact h
  entered h _ _ hfind hmem bindings := .component h hfind rfl rfl hmem rfl
  left {openings state} h {c bindings after} hafter := by
    -- the name that was entered is still the last one, and it is taken off
    have hlast : after.chain = state.chain ++ [c.usageName] := hafter.chain_eq
    show Expanding start openings after.chain.leave
    rw [hlast, CallChain.leave_concat]
    exact h
  copy _ _ _ h _ := h

/-! ## 3. From beginning to end -/

/-- The part leaves the chain as it found it, from whatever state it starts. -/
abbrev LeavesChain : Relation Id Id := Leads fun state after => after.chain = state.chain

theorem respected_leavesChain : Respected LeavesChain fun _ _ => True := by
  refine Carried.respected ⟨fun _ hchain => hchain, fun hab hbc => hbc.trans hab, fun _ _ => rfl, fun _ _ => rfl,
    fun hafter => hafter, fun hafter => hafter, fun {state after name} hafter => ?_⟩
  -- what was done in between has left the name where it was, at the end
  show after.chain.leave = state.chain
  rw [hafter, CallChain.leave_concat]

/-- Whatever there is to render leaves the chain as it found it. -/
structure ChainLeft (env : Environment) (levels : Nat) (state : RenderState) : Prop where
  nodes : ∀ t list, ((nodes env levels t list).exec state).2.chain = state.chain
  value : ∀ t, ((value env t).exec state).2.chain = state.chain
  expression : ∀ call, (exec (Expand.expression env (below env levels) call).run state).2.chain = state.chain
  block : ∀ branches call,
    (exec (Expand.block env (below env levels) branches call).run state).2.chain = state.chain
  includeFile : ∀ args, (exec (Expand.includeFile env (below env levels) args).run state).2.chain = state.chain
  component : ∀ name arguments content,
    (exec (Expand.component env (below env levels) name arguments content).run state).2.chain = state.chain

theorem chainLeft (env : Environment) (levels : Nat) (state : RenderState) : ChainLeft env levels state := by
  have h := respected_leavesChain
  have hlevels := h.levels env levels
  have hfollowed : Followed env _ _ LeavesChain _ := h.followed hlevels
  refine ⟨fun t list => ?_, fun t => ?_, fun call => ?_, fun branches call => ?_, fun args => ?_,
    fun name arguments content => ?_⟩
  · exact h.nodes env levels trivial state
  · exact h.value env trivial state
  · exact hfollowed.expression call state
  · exact hfollowed.block ⟨trivial, fun _ _ => trivial⟩ call state
  · exact h.includeFile hlevels args state
  · exact hfollowed.component name arguments content state

/-! ## 4. The guard -/

/-- **The chain of components.** It is empty when an engine begins to render, and from then on names, at every moment,
the components that are being expanded, outermost first and none of them twice; whatever chain a render begins with,
it is the chain of that beginning that the names come behind. Whatever is rendered leaves the chain as it found it,
however it comes out. A component is expanded with its name on the chain; one that is on the chain already is not
expanded, and the failure is the chain followed by its name. -/
theorem chain_guarded :
    (∀ (engine : Engine) (request : Request) (data : Value), (engine.start request data).chain = []) ∧
    (∀ (env : Environment) (levels : Nat) (t : Template) (list : List Node) (start : RenderState),
      (moments env levels t list start).1 = (nodes env levels t list).exec start ∧
      ∀ moment ∈ (moments env levels t list start).2, Expanding start.chain moment.openings moment.state.chain ∧
        (start.chain.Nodup → moment.state.chain.Nodup)) ∧
    (∀ (env : Environment) (levels : Nat) (state : RenderState), ChainLeft env levels state) ∧
    ∀ (env : Environment) (state : RenderState) (name : String) (c : Component) (arguments : Fields Value)
      (content : Option String), state.components.find? name = some c →
        (c.usageName ∉ state.chain → ∀ layer : Layer Id,
          exec (Expand.component env (some layer) name arguments content).run state =
            let bindings := Expand.withContent (Component.parameters c.defaults arguments) content
            let (text, after) := exec (layer c.template c.template.nodes) (state.entered c bindings)
            (.ok (if Component.isInline c.defaults arguments then Component.collapseBlanks text else text),
              after.left)) ∧
        (c.usageName ∈ state.chain → ∀ inner : Option (Layer Id),
          exec (Expand.component env inner name arguments content).run state =
            (.error (.circularComponent (state.chain ++ [c.usageName])), state)) := by
  refine ⟨fun _ _ _ => rfl, fun env levels t list start => ?_, chainLeft,
    fun env state name c arguments content hfind => ⟨fun hmem layer => ?_, fun hmem inner => ?_⟩⟩
  · obtain ⟨hsame, hmoments, -⟩ :=
      holds_at_moments (invariant_expanding env start.chain) levels t list start .start
    exact ⟨hsame, fun moment hmoment => ⟨hmoments moment hmoment, (hmoments moment hmoment).nodup⟩⟩
  · rw [exec, Expand.run_component_entered env name arguments content hfind layer hmem]
    rfl
  · rw [exec, Expand.run_component_circular env inner name arguments content hfind hmem]
    rfl

/-- A component that uses itself under the name that it was declared under: it is entered once, and stopped the next
time. -/
theorem chain_guarded_around_card :
    let env : Environment := ⟨[], 5, true, .utc, ⟨0, 0⟩⟩
    let use : Node := .expression ⟨.bare "component", [.quoted "the-card"], []⟩ ⟨0, 26⟩
    let card : Component := ⟨"theCard", "the-card", ⟨"\x7b\x7bcomponent 'the-card'\x7d\x7d", [use]⟩, []⟩
    let start : RenderState := ⟨.ofFields [], [("theCard", card)], [], #[], .memory (.empty 0), [], false⟩
    let inside : RenderState := start.entered card []
    start.components.find? "the-card" = some card ∧ "theCard" ∉ start.chain ∧ "theCard" ∈ inside.chain ∧
    (∀ moment ∈ (moments env 5 card.template [use] start).2, moment.state.chain.Nodup) ∧
    (∀ layer : Layer Id, exec (Expand.component env (some layer) "the-card" [] none).run start =
      let (text, after) := exec (layer card.template [use]) inside
      (.ok text, after.left)) ∧
    ∀ inner : Option (Layer Id), exec (Expand.component env inner "the-card" [] none).run inside =
      (.error (.circularComponent ["theCard", "theCard"]), inside) := by
  intro env use card start inside
  obtain ⟨-, hmoments, -, hguard⟩ := chain_guarded
  have hfind : start.components.find? "the-card" = some card := rfl
  have hnew : "theCard" ∉ start.chain := by decide
  have hmem : "theCard" ∈ inside.chain := by decide
  refine ⟨hfind, hnew, hmem, fun moment hmoment => ?_, fun layer => ?_, fun inner => ?_⟩
  · exact ((hmoments env 5 card.template [use] start).2 moment hmoment).2 List.nodup_nil
  · exact (hguard env start "the-card" card [] none hfind).1 hnew layer
  · exact (hguard env inside "the-card" card [] none hfind).2 hmem inner

end Render

end Stencil
