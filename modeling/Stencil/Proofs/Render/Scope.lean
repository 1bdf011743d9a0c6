import Stencil.Proofs.Render.Relation

/-!
The discipline of scopes.

Blocks, includes, components and loop passes put frames on the scope while they render, and whatever is rendered
there may set local variables, define components or fail. However that comes out, rendering leaves the scope with
the frames that it had, and with the bindings that these had, but for two: the local variables of the innermost
frame and the components of the root.

A frame that is put on and taken away again hides the first exception: what was innermost in between is gone. That
is `leftAsFound_pop`, and it is the reason why one exception is enough at any nesting.
-/

namespace Stencil

open Template

/-! ## 1. Bindings by frame -/

namespace Scope

/-- The bindings of all frames, innermost first and those of the root last. -/
def layers (scope : Scope) : List (Fields Value) := scope.frames.map Frame.bindings ++ [scope.root]

/-- What a name is bound to in one of the frames, counted from the innermost. -/
def binding? (scope : Scope) (i : Nat) (key : String) : Option Value :=
  scope.layers[i]?.bind (Fields.get? key)

/-- The same frames, hiding what they hid, with the same bindings; only the local variables of the innermost frame
and the components of the root may be others. -/
structure LeftAsFound (before after : Scope) : Prop where
  isolated : after.frames.map Frame.isolated = before.frames.map Frame.isolated
  bindings : ∀ i key, (i = 0 → key ≠ varsName) → (i + 1 = before.depth → key ≠ Render.componentsName) →
    after.binding? i key = before.binding? i key

theorem LeftAsFound.depth {before after : Scope} (h : LeftAsFound before after) : after.depth = before.depth := by
  have hlength := congrArg List.length h.isolated
  rw [List.length_map, List.length_map] at hlength
  rw [Scope.depth, Scope.depth, hlength]

theorem LeftAsFound.refl (scope : Scope) : LeftAsFound scope scope := ⟨rfl, fun _ _ _ _ => rfl⟩

theorem LeftAsFound.trans {a b c : Scope} (hab : LeftAsFound a b) (hbc : LeftAsFound b c) : LeftAsFound a c := by
  refine ⟨hbc.isolated.trans hab.isolated, fun i key hvars hcomponents => ?_⟩
  rw [hbc.bindings i key hvars (by rwa [hab.depth]), hab.bindings i key hvars hcomponents]

/-! ## 2. What changes a scope -/

theorem leftAsFound_insert_vars (scope : Scope) (v : Value) : LeftAsFound scope (scope.insert varsName v) := by
  obtain ⟨frames, root⟩ := scope
  cases frames with
  | nil =>
    refine ⟨rfl, fun i key hvars _ => ?_⟩
    cases i with
    | zero => simp only [insert, binding?, layers, List.map_nil, List.nil_append, List.getElem?_cons_zero,
        Option.bind_some, Fields.get?_insert, if_neg (Ne.symm (hvars rfl))]
    | succ i => rfl
  | cons frame frames =>
    refine ⟨rfl, fun i key hvars _ => ?_⟩
    cases i with
    | zero => simp only [insert, binding?, layers, List.map_cons, List.cons_append, List.getElem?_cons_zero,
        Option.bind_some, Fields.get?_insert, if_neg (Ne.symm (hvars rfl))]
    | succ i => rfl

theorem leftAsFound_setVar (scope : Scope) (name : String) (v : Value) : LeftAsFound scope (scope.setVar name v) :=
  leftAsFound_insert_vars scope _

theorem leftAsFound_applyLet (args : Args) (scope : Scope) : LeftAsFound scope (Render.applyLet args scope) :=
  Render.applyLet_preserves (fun _ _ h => h.trans (leftAsFound_setVar _ _ _)) args (.refl scope)

theorem leftAsFound_insertRoot_components (scope : Scope) (v : Value) :
    LeftAsFound scope (scope.insertRoot Render.componentsName v) := by
  refine ⟨rfl, fun i key _ hcomponents => ?_⟩
  simp only [binding?, layers, insertRoot]
  rcases Nat.lt_trichotomy i scope.frames.length with hi | hi | hi
  · rw [List.getElem?_append_left (by simpa using hi), List.getElem?_append_left (by simpa using hi)]
  -- the root comes after all frames, and is the only one that was written to
  · have hkey : Render.componentsName ≠ key := Ne.symm (hcomponents (by rw [hi, depth]))
    rw [List.getElem?_append_right (by simp [hi]), List.getElem?_append_right (by simp [hi])]
    simp [hi, Fields.get?_insert, hkey]
  · rw [List.getElem?_eq_none (by simp; omega), List.getElem?_eq_none (by simp; omega)]

/-- Whatever happens in a frame of its own, only the components of the root can show it once the frame is gone. -/
theorem leftAsFound_pop {scope after : Scope} {frame : Frame}
    (h : LeftAsFound ⟨frame :: scope.frames, scope.root⟩ after) : LeftAsFound scope after.pop := by
  obtain ⟨frames, root⟩ := after
  cases frames with
  | nil => exact absurd h.isolated (by simp)
  | cons top frames =>
    -- a variable that was set went into the frame that is gone now
    refine ⟨(List.cons.inj h.isolated).2, fun i key _ hcomponents => ?_⟩
    refine h.bindings (i + 1) key (fun hi => absurd hi (Nat.succ_ne_zero i)) fun hi => ?_
    exact hcomponents (Nat.succ.inj hi)

end Scope

/-! ## 3. Rendering -/

namespace Render

/-- The part leaves the scope as it found it, from whatever state it starts. -/
abbrev LeavesScope : Relation Id Id := Leads fun state after => state.scope.LeftAsFound after.scope

theorem respected_leavesScope : Respected LeavesScope fun _ _ => True := by
  refine Carried.respected ⟨fun hscope _ => ?_, fun hab hbc => hab.trans hbc, fun args state => ?_,
    fun component state => ?_, fun hafter => ?_, fun _ => .refl _, fun hafter => hafter⟩
  · rw [hscope]
    exact .refl _
  · exact Scope.leftAsFound_applyLet args state.scope
  · exact Scope.leftAsFound_insertRoot_components state.scope _
  · exact Scope.leftAsFound_pop hafter

/-- **Rendering leaves the scope as it found it**, whatever it renders, with whatever it may reach from there, and
however it comes out. The same holds of every expansion of an expression or of a block by itself, be it a success
or a failure. -/
theorem scope_left_as_found (env : Environment) (levels : Nat) (t : Template) (state : RenderState) :
    (∀ list, state.scope.LeftAsFound ((nodes env levels t list).exec state).2.scope) ∧
    (∀ call, state.scope.LeftAsFound (exec (Expand.expression env (below env levels) call).run state).2.scope) ∧
    (∀ call body inverse, state.scope.LeftAsFound
      (exec (Expand.block env (below env levels) ⟨t, body, inverse⟩ call).run state).2.scope) := by
  have h := respected_leavesScope
  refine ⟨fun list => ?_, fun call => ?_, fun call body inverse => ?_⟩
  · exact h.nodes env levels trivial state
  · exact h.expression (h.levels env levels) call state
  · exact h.block (h.levels env levels) ⟨trivial, fun _ _ => trivial⟩ call state

end Render

end Stencil
