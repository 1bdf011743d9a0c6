import Stencil.Proofs.Render.Relation

/-!
Accounts of renders.

An account of a render does what the render does, and puts down on the way what it came by. That it is one is a
relation between parts of renders, and so it need not be followed through the recursion of rendering. What remains to
be shown is that the states that come up stay within a condition that no step breaks.
-/

namespace Stencil

open Template

/-! ## 1. Conditions that no step breaks -/

/-- What templates can see of the components. -/
def RenderState.visible? (state : RenderState) : Option Value :=
  Fields.get? Render.componentsName state.scope.root

namespace Scope

theorem get?_root_insert (scope : Scope) {key other : String} (v : Value) (h : key ≠ other) :
    Fields.get? other (scope.insert key v).root = Fields.get? other scope.root := by
  unfold insert
  split
  · rfl
  · rw [Fields.get?_insert, if_neg h]

theorem components_setVar (scope : Scope) (name : String) (v : Value) :
    Fields.get? Render.componentsName (scope.setVar name v).root = Fields.get? Render.componentsName scope.root :=
  get?_root_insert scope _ (by decide)

/-- Local variables are apart from the components. -/
theorem components_applyLet (args : Args) (scope : Scope) :
    Fields.get? Render.componentsName (Render.applyLet args scope).root =
      Fields.get? Render.componentsName scope.root := by
  let kept (after : Scope) : Prop :=
    Fields.get? Render.componentsName after.root = Fields.get? Render.componentsName scope.root
  have hset : ∀ {after : Scope} name v, kept after → kept (after.setVar name v) :=
    fun name v h => (components_setVar _ name v).trans h
  have hsame : kept scope := rfl
  exact Render.applyLet_preserves hset args hsame

end Scope

namespace Render

/-- No step of a render breaks the condition, as long as what is rendered is `ok`, and all that the steps hand out to
be rendered is. -/
structure Keeping (inv : RenderState → Prop) (ok : Template → List Node → Prop) : Prop where
  diagnostics : ∀ {state}, inv state → ∀ diagnostics, inv { state with diagnostics }
  abandoned : ∀ {state}, inv state → ∀ abandoned, inv { state with abandoned }
  /-- In a render that goes on in the scope it began in, only the definition of a component changes what can be seen
  of the components. -/
  scope : ∀ {state}, inv state → ∀ scope : Scope,
    Fields.get? componentsName scope.root = state.visible? → inv { state with scope }
  define : ∀ {state}, inv state → ∀ component : Component, component.Declared →
    ok component.template component.template.nodes → inv (exec (define component) state).2
  load : ∀ {state}, inv state → ∀ useCache place, inv (state.load useCache place).2 ∧
    ∀ t, (state.load useCache place).1 = some t → ok t t.nodes
  body : ∀ {t nodes call body inverse bodySpan span},
    ok t nodes → .block call body inverse bodySpan span ∈ nodes → ok t body
  inverse : ∀ {t nodes call body inverse bodySpan span},
    ok t nodes → .block call body (some inverse) bodySpan span ∈ nodes → ok t inverse
  fragment : ∀ {t nodes}, ok t nodes → ok (t.fragment nodes) nodes

/-- And whatever a registered helper comes to may be rendered too. -/
structure Kept (inv : RenderState → Prop) (ok : Template → List Node → Prop) : Prop extends Keeping inv ok where
  parse : ∀ text, ok (Template.parse text) (Template.parse text).nodes

/-! ## 2. Accounts -/

variable {n : Type → Type} [Monad n] {ε : Type}

/-- The first part is an account of the second one. From any state that meets the condition it comes to the same, the
condition is met again, and what it has put down in between is `proper`. -/
def Accounts (inv : RenderState → Prop) (proper : ε → Prop) (α : Type) (account : Render (StateT (List ε) n) α)
    (part : Render Id α) : Prop :=
  ∀ state course, inv state → inv (part.exec state).2 ∧
    ∃ new : List ε, (∀ e ∈ new, proper e) ∧ (account.run state).run course = pure (part.exec state, course ++ new)

variable [LawfulMonad n] {inv : RenderState → Prop} {proper : ε → Prop}

omit [LawfulMonad n] in
/-- A step that puts nothing down. -/
theorem accounts_step {α : Type} {account : Render (StateT (List ε) n) α} {part : Render Id α}
    (hrun : ∀ state, account.run state = pure (part.exec state))
    (hinv : ∀ state, inv state → inv (part.exec state).2) : Accounts inv proper α account part := by
  intro state course h
  refine ⟨hinv state h, [], by simp, ?_⟩
  rw [hrun, List.append_nil]
  rfl

theorem accounts_bind {α β : Type} {account : Render (StateT (List ε) n) α} {part : Render Id α}
    {next : α → Render (StateT (List ε) n) β} {next' : α → Render Id β}
    (hpart : Accounts inv proper α account part) (hnext : ∀ a, Accounts inv proper β (next a) (next' a)) :
    Accounts inv proper β (account >>= next) (part >>= next') := by
  intro state course h
  -- the second part starts from the state and from the account that the first one left
  obtain ⟨h, new, hnew, hrun⟩ := hpart state course h
  obtain ⟨h, more, hmore, hrun'⟩ := hnext (part.exec state).1 (part.exec state).2 (course ++ new) h
  refine ⟨h, new ++ more, ?_, ?_⟩
  · intro e he
    exact (List.mem_append.mp he).elim (hnew e) (hmore e)
  · rw [StateT.run_bind, StateT.run_bind, hrun, pure_bind, ← List.append_assoc]
    exact hrun'

/-- A part that is run in another state than it was started in, and whose result is worked on afterwards. -/
theorem accounts_around {α β : Type} {account : Render (StateT (List ε) n) α} {part : Render Id α}
    {around : Render (StateT (List ε) n) β} {around' : Render Id β} {inner : RenderState → Prop}
    (hpart : Accounts inner proper α account part) (enter : RenderState → RenderState)
    (leave : RenderState → α × RenderState → β × RenderState)
    (hrun : ∀ state, around.run state = (do return leave state (← account.run (enter state))))
    (hrun' : ∀ state, around'.run state = (do return leave state (← part.run (enter state))))
    (henter : ∀ state, inv state → inner (enter state))
    (hleave : ∀ state r, inv state → inner r.2 → inv (leave state r).2) : Accounts inv proper β around around' := by
  intro state course h
  obtain ⟨hinner, new, hnew, hpart⟩ := hpart (enter state) course (henter state h)
  have hexec : around'.exec state = leave state (part.exec (enter state)) := by
    rw [exec, hrun']
    rfl
  rw [hexec]
  refine ⟨hleave state _ h hinner, new, hnew, ?_⟩
  rw [hrun, StateT.run_bind, hpart, pure_bind]
  rfl

/-- Whatever is run on a scope with one more frame leaves what can be seen of the components in the root. -/
theorem accounts_frame {ok : Template → List Node → Prop} (h : Keeping inv ok) {α : Type}
    {account around : Render (StateT (List ε) n) α} {part around' : Render Id α}
    (hpart : Accounts inv proper α account part) (frame : Frame)
    (hrun : ∀ state, around.run state = do
      let (a, after) ← account.run { state with scope := ⟨frame :: state.scope.frames, state.scope.root⟩ }
      return (a, { after with scope := after.scope.pop }))
    (hrun' : ∀ state, around'.run state = do
      let (a, after) ← part.run { state with scope := ⟨frame :: state.scope.frames, state.scope.root⟩ }
      return (a, { after with scope := after.scope.pop })) : Accounts inv proper α around around' :=
  accounts_around hpart (fun state => { state with scope := ⟨frame :: state.scope.frames, state.scope.root⟩ })
    (fun _ r => (r.1, { r.2 with scope := r.2.scope.pop })) hrun hrun' (fun _ hinv => h.scope hinv _ rfl)
    fun _ _ _ hinner => h.scope hinner _ rfl

/-- Steps that keep to a condition are accounts of themselves. -/
theorem Keeping.steps {ok : Template → List Node → Prop} (h : Keeping inv ok) :
    Steps (Accounts (n := n) inv proper) ok where
  pure a := accounts_step (fun _ => rfl) fun _ => id
  bind := accounts_bind
  warn _ := accounts_step (fun _ => rfl) fun _ hinv => h.diagnostics hinv _
  error _ := accounts_step (fun _ => rfl) fun _ hinv => h.diagnostics hinv _
  abandonIf _ := accounts_step (fun _ => rfl) fun _ hinv => h.abandoned hinv _
  scope := accounts_step (fun _ => by simp [Render.scope, exec]) fun _ => id
  setVariables args := accounts_step (fun _ => rfl) fun _ hinv => h.scope hinv _ (Scope.components_applyLet args _)
  withFrame {bindings _ _} hpart := accounts_frame h hpart ⟨bindings, false⟩ (run_withFrame _ _) (run_withFrame _ _)
  withIsolatedFrame {bindings _ _} hpart :=
    accounts_frame h hpart ⟨bindings, true⟩ (run_withIsolatedFrame _ _) (run_withIsolatedFrame _ _)
  define component hdeclared hok := accounts_step (fun _ => rfl) fun _ hinv => h.define hinv component hdeclared hok
  setting env := accounts_step (fun _ => by simp [Render.setting, exec]) fun _ => id
  resolve requested := accounts_step (fun _ => by simp [Render.resolve, exec]) fun _ => id
  loadInclude {_ useCache place _ _} hnone hsome := by
    intro state course hinv
    obtain ⟨hafter, hfound⟩ := h.load hinv useCache place
    cases hload : (state.load useCache place).1 with
    | none => simpa [exec, loadInclude, hload] using hnone (state.load useCache place).2 course hafter
    | some t => simpa [exec, loadInclude, hload] using hsome t (hfound t hload) (state.load useCache place).2 course hafter
  body := h.body
  inverse := h.inverse
  fragment := h.fragment

/-- So is everything else, when neither the chain nor the scope matters to the condition. -/
theorem Keeping.composed {ok : Template → List Node → Prop} (h : Keeping inv ok)
    (hchain : ∀ {state}, inv state → ∀ chain, inv { state with chain })
    (hscope : ∀ {state}, inv state → ∀ scope, inv { state with scope })
    (hfound : ∀ {state}, inv state → ∀ {name c}, state.components.find? name = some c →
      ok c.template c.template.nodes) :
    Composed (Accounts (n := n) inv proper) ok where
  toSteps := h.steps
  inScope {own x y} hpart := accounts_around hpart (fun state => { state with scope := own })
    (fun state r => ((r.1, r.2.scope), { r.2 with scope := state.scope })) (run_inScope own x) (run_inScope own y)
    (fun _ hinv => hscope hinv _) fun _ _ _ hinv => hscope hinv _
  expanding {name x y} hpart := by
    intro state course hinv
    have hrun (m : Type → Type) [Monad m] [LawfulMonad m] (action : Expand m String) :=
      Expand.run_expanding name action state
    cases hchain' : state.chain.enter name with
    | error e =>
      simp only [hchain'] at hrun
      rw [exec, hrun, hrun]
      exact ⟨hinv, [], by simp, by rw [List.append_nil]; rfl⟩
    | ok chain =>
      simp only [hchain'] at hrun
      obtain ⟨hafter, new, hnew, hpart⟩ := hpart { state with chain } course (hchain hinv chain)
      rw [exec, hrun, hrun]
      refine ⟨hchain hafter _, new, hnew, ?_⟩
      rw [StateT.run_bind, hpart, pure_bind]
      rfl
  component? {_ name _ _} hnone hsome := by
    intro state course hinv
    cases hfind : state.components.find? name with
    | none => simpa [exec, component?, hfind] using hnone state course hinv
    | some c => simpa [exec, component?, hfind] using hsome c (hfound hinv hfind) state course hinv

theorem Kept.respected {ok : Template → List Node → Prop} (h : Kept inv ok)
    (hchain : ∀ {state}, inv state → ∀ chain, inv { state with chain })
    (hscope : ∀ {state}, inv state → ∀ scope, inv { state with scope })
    (hfound : ∀ {state}, inv state → ∀ {name c}, state.components.find? name = some c →
      ok c.template c.template.nodes) :
    Respected (Accounts (n := n) inv proper) ok where
  toComposed := h.toKeeping.composed hchain hscope hfound
  parse := h.parse

end Render

end Stencil
