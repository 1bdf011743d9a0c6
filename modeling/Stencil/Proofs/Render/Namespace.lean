import Stencil.Proofs.Component.Naming
import Stencil.Proofs.Render.Moments
import Stencil.Proofs.Value.Paths

/-!
The name space of components.

A component that is defined goes to two places. The registry has it under its usage name, and what templates can see
of it goes into the root of the scope, at the path that its dotted name spells. The registry is flat; in the root the
names nest, so that a summary may stand inside of another one, or take its place.

What the two have in common is the order in which things were defined. From that follows how far the one mirrors the
other: a component can be seen at its path until one is defined whose path leads through it or is led through by it.
Registered block helpers are left out, since what their bodies define is put into a copy of the scope, and is gone
with it while the registry still has it.
-/

namespace Stencil

open Template

/-! ## 1. Definitions in order -/

namespace Component

/-- Neither of the dotted names is the other one, or an extension of it. -/
def Apart (name other : String) : Prop :=
  ¬ Scope.segments name <+: Scope.segments other ∧ ¬ Scope.segments other <+: Scope.segments name

instance (name other : String) : Decidable (Apart name other) := inferInstanceAs (Decidable (_ ∧ _))

theorem Apart.ne {name other : String} (h : Apart name other) : name ≠ other := by
  rintro rfl
  exact h.1 (List.prefix_refl _)

/-- What templates can see of the components after one more definition. -/
def mirror (visible? : Option Value) (c : Component) : Option Value :=
  some (((visible?.filter Value.isMap).getD (.map [])).insertPath c.summary (Scope.segments c.usageName))

theorem entryAt?_mirror (visible? : Option Value) (c : Component) :
    (mirror visible? c).bind (·.entryAt? (Scope.segments c.usageName)) = some c.summary :=
  Value.entryAt?_insertPath _ _ _

theorem entryAt?_mirror_of_apart (visible? : Option Value) {c : Component} {name : String}
    (h : Apart c.usageName name) :
    (mirror visible? c).bind (·.entryAt? (Scope.segments name)) =
      visible?.bind (·.entryAt? (Scope.segments name)) := by
  have hkept := Value.entryAt?_insertPath_of_apart c.summary ((visible?.filter Value.isMap).getD (.map [])) h.1 h.2
  refine hkept.trans ?_
  have hne : Scope.segments name ≠ [] := by
    intro hnil
    exact h.2 (hnil ▸ List.nil_prefix)
  -- what is no map is replaced by an empty one, and neither has anything at a path
  obtain ⟨segment, rest, hsegments⟩ := List.exists_cons_of_ne_nil hne
  rw [hsegments]
  cases visible? with
  | none => rfl
  | some v => cases v <;> rfl

variable {definitions : List Component} {components : Components} {c : Component} {name : String}

theorem findRev?_eq_none_iff :
    definitions.findRev? (·.usageName == name) = none ↔ ∀ d ∈ definitions, d.usageName ≠ name := by
  simp [List.findRev?_eq_find?_reverse]

/-- Definitions under other names leave a name in the registry alone. -/
theorem get?_foldl_define (h : ∀ d ∈ definitions, d.usageName ≠ name) :
    Fields.get? name (definitions.foldl Components.define components) = Fields.get? name components := by
  rw [Components.get?_foldl_define, findRev?_eq_none_iff.mpr h, Option.none_or]

/-- Definitions under names that are apart from a name leave alone what can be seen at its path. -/
theorem entryAt?_foldl_mirror {visible? : Option Value} (h : ∀ d ∈ definitions, Apart d.usageName name) :
    (definitions.foldl mirror visible?).bind (·.entryAt? (Scope.segments name)) =
      visible?.bind (·.entryAt? (Scope.segments name)) := by
  induction definitions generalizing visible? with
  | nil => rfl
  | cons d definitions ih =>
    have hd : Apart d.usageName name := h d List.mem_cons_self
    rw [List.foldl_cons, ih fun e he => h e (List.mem_cons_of_mem d he), entryAt?_mirror_of_apart _ hd]

/-- What the registry has in the end was there from the start, or was defined at some point; and nothing was defined
under the same name since. -/
theorem last_definition (h : Fields.get? name (definitions.foldl Components.define components) = some c) :
    (Fields.get? name components = some c ∧ ∀ d ∈ definitions, d.usageName ≠ name) ∨
      ∃ before after, definitions = before ++ c :: after ∧ c.usageName = name ∧ ∀ d ∈ after, d.usageName ≠ name := by
  rw [Components.get?_foldl_define] at h
  cases hfound : definitions.findRev? (·.usageName == name) with
  | none =>
    rw [hfound, Option.none_or] at h
    exact .inl ⟨h, findRev?_eq_none_iff.mp hfound⟩
  | some d =>
    rw [hfound] at h
    cases h
    -- the first from behind is the last one, and what stands before it there was defined since
    rw [List.findRev?_eq_find?_reverse, List.find?_eq_some_iff_append] at hfound
    obtain ⟨hname, after, before, hsplit, hafter⟩ := hfound
    refine .inr ⟨before.reverse, after.reverse, ?_, by simpa using hname, fun d hd => ?_⟩
    · rw [← List.reverse_reverse definitions, hsplit]
      simp
    · simpa using hafter d (List.mem_reverse.mp hd)

/-- Under a name that was defined at some point there is something. -/
theorem has_foldl_define (h : Fields.has name components ∨ ∃ d ∈ definitions, d.usageName = name) :
    Fields.has name (definitions.foldl Components.define components) := by
  rw [Fields.has, Components.get?_foldl_define, Option.isSome_or, Bool.or_eq_true]
  rcases h with hhas | ⟨d, hd, hname⟩
  · exact .inr hhas
  · left
    rw [List.findRev?_eq_find?_reverse, List.find?_isSome]
    exact ⟨d, List.mem_reverse.mpr hd, by simpa using hname⟩

end Component

/-! ## 2. Every moment of a render -/

namespace Render

/-- The components that were defined since the start, in this order, are what has become of the registry and of what
templates can see of it. -/
structure DefinedSince (start : RenderState) (definitions : List Component) (state : RenderState) : Prop where
  components : state.components = definitions.foldl Components.define start.components
  visible : state.visible? = definitions.foldl Component.mirror start.visible?

theorem DefinedSince.define {start state : RenderState} {definitions : List Component}
    (h : DefinedSince start definitions state) (c : Component) :
    DefinedSince start (definitions ++ [c]) (exec (define c) state).2 := by
  constructor
  · rw [List.foldl_append, ← h.components]
    rfl
  · rw [List.foldl_append, ← h.visible]
    show Fields.get? componentsName (state.scope.setNamespaced componentsName c.usageName c.summary).root = _
    rw [Scope.setNamespaced, Scope.insertRoot, Fields.get?_insert, if_pos rfl]
    rfl

/-- Without registered block helpers, all that is ever done to the components is to define more of them. -/
theorem invariant_definedSince {env : Environment} (hblocks : ∀ name, env.registry.block? name = none)
    (start : RenderState) : Invariant env fun _ state => ∃ definitions, DefinedSince start definitions state := by
  refine .ofKept ?_ ?_ ?_
  · exact {
      diagnostics := fun ⟨definitions, h⟩ _ => ⟨definitions, h.components, h.visible⟩
      abandoned := fun ⟨definitions, h⟩ _ => ⟨definitions, h.components, h.visible⟩
      scope := fun ⟨definitions, h⟩ scope hsame => ⟨definitions, h.components, hsame.trans h.visible⟩
      define := fun ⟨definitions, h⟩ c _ _ => ⟨definitions ++ [c], h.define c⟩
      load := by
        rintro state ⟨definitions, h⟩ useCache place
        obtain ⟨files, includes, hload⟩ := state.load_eq useCache place
        rw [hload]
        exact ⟨⟨definitions, h.components, h.visible⟩, fun _ _ => trivial⟩
      parse := fun _ => trivial
      body := fun _ _ => trivial
      inverse := fun _ _ => trivial
      fragment := fun _ => trivial }
  · rintro state ⟨definitions, h⟩ chain
    exact ⟨definitions, h.components, h.visible⟩
  · intro name run hrun
    rw [hblocks name] at hrun
    cases hrun

/-- What templates can see of a component, at the path in the root that its name spells. -/
def visibleAt? (state : RenderState) (name : String) : Option Value :=
  state.visible?.bind (·.getPath? (Scope.segments name))

/-- How far the root shows what the registry has. In the order in which they were defined, every component can be
seen at its path until one is defined whose name is not apart from its own. -/
structure Mirrors (state : RenderState) : Prop where
  sinceLast : ∃ definitions : List Component, state.components = definitions.foldl Components.define [] ∧
    ∀ before c after, definitions = before ++ c :: after → (∀ d ∈ after, Component.Apart d.usageName c.usageName) →
      Fields.get? c.usageName state.components = some c ∧ visibleAt? state c.usageName = some c.summary
  /-- So it can be seen if all other names in the registry are apart from its own. -/
  registered : ∀ name c, Fields.get? name state.components = some c →
    (∀ other, Fields.has other state.components → other ≠ name → Component.Apart other name) →
      visibleAt? state name = some c.summary

theorem DefinedSince.mirrors {start state : RenderState} {definitions : List Component}
    (h : DefinedSince start definitions state) (hstart : start.components = []) : Mirrors state := by
  have hcomponents : state.components = definitions.foldl Components.define [] := hstart ▸ h.components
  have hlast : ∀ before c after, definitions = before ++ c :: after →
      (∀ d ∈ after, Component.Apart d.usageName c.usageName) →
        Fields.get? c.usageName state.components = some c ∧ visibleAt? state c.usageName = some c.summary := by
    intro before c after hsplit hafter
    constructor
    · have hname : ∀ d ∈ after, d.usageName ≠ c.usageName := fun d hd => (hafter d hd).ne
      rw [hcomponents, hsplit, List.foldl_append, List.foldl_cons, Component.get?_foldl_define hname,
        Components.define, Fields.get?_insert, if_pos rfl]
    · have hentry : state.visible?.bind (·.entryAt? (Scope.segments c.usageName)) = some c.summary := by
        rw [h.visible, hsplit, List.foldl_append, List.foldl_cons, Component.entryAt?_foldl_mirror hafter,
          Component.entryAt?_mirror]
      obtain ⟨v, hv, hpath⟩ := Option.bind_eq_some_iff.mp hentry
      rw [visibleAt?, hv, Option.bind_some]
      exact Value.getPath?_of_entryAt? hpath
  refine ⟨⟨definitions, hcomponents, hlast⟩, fun name c hname hothers => ?_⟩
  rw [hcomponents] at hname hothers
  rcases Component.last_definition hname with ⟨hnone, -⟩ | ⟨before, after, hsplit, rfl, hafter⟩
  · cases hnone
  · refine (hlast before c after hsplit fun d hd => ?_).2
    -- what was defined later is in the registry under its own name
    have hmem : d ∈ definitions := by
      rw [hsplit]
      exact List.mem_append_right _ (List.mem_cons_of_mem c hd)
    exact hothers d.usageName (Component.has_foldl_define (.inr ⟨d, hmem, rfl⟩)) (hafter d hd)

/-- **What templates can see of the components is what the registry has**, at every moment of a render and at its end,
as far as names that extend each other do not get in each other's way and there are no registered block helpers. -/
theorem components_mirrored (env : Environment) (hblocks : ∀ name, env.registry.block? name = none) (levels : Nat)
    (t : Template) (list : List Node) (start : RenderState) (hstart : start.components = []) :
    (moments env levels t list start).1 = (nodes env levels t list).exec start ∧
    (∀ moment ∈ (moments env levels t list start).2, Mirrors moment.state) ∧
    Mirrors ((nodes env levels t list).exec start).2 := by
  obtain ⟨hsame, hmoments, definitions, hafter⟩ :=
    holds_at_moments (invariant_definedSince hblocks start) levels t list start ⟨[], rfl, rfl⟩
  refine ⟨hsame, fun moment hmoment => ?_, hafter.mirrors hstart⟩
  obtain ⟨definitions, hdefined⟩ := hmoments moment hmoment
  exact hdefined.mirrors hstart

/-- A component that is defined in a branch, with one beside it whose name extends another one. -/
theorem components_mirrored_in_branch :
    let env : Environment := ⟨[], 3, true, .utc, ⟨0, 0⟩⟩
    let definition (name : String) : Node :=
      .block ⟨.bare "component", [.quoted name], []⟩ [.text "x"] none ⟨0, 0⟩ ⟨0, 0⟩
    let list : List Node :=
      [.block ⟨.bare "if", [.bare "true"], []⟩ [definition "info-card"] none ⟨0, 0⟩ ⟨0, 0⟩, definition "icons.svg"]
    let t : Template := ⟨"", list⟩
    let start : RenderState := ⟨.ofFields [], [], [], #[], .memory (.empty 0), [], false⟩
    let after := ((nodes env 3 t list).exec start).2
    (∀ name, env.registry.block? name = none) ∧ start.components = [] ∧
    Fields.keys after.components = ["infoCard", "icons.svg"] ∧
    visibleAt? after "infoCard" = some (.map [("name", .string "info-card"), ("defaults", .map [])]) := by
  intro env definition list t start after
  have hblocks : ∀ name, env.registry.block? name = none := fun _ => rfl
  have hstart : start.components = [] := rfl
  obtain ⟨-, -, hmirrors⟩ := components_mirrored env hblocks 3 t list start hstart
  have hkeys : Fields.keys after.components = ["infoCard", "icons.svg"] := by decide
  refine ⟨hblocks, hstart, hkeys, hmirrors.registered "infoCard" ⟨"infoCard", "info-card", ⟨"", [.text "x"]⟩, []⟩ rfl ?_⟩
  intro other hother hne
  obtain ⟨c, hc⟩ := Option.isSome_iff_exists.mp hother
  have hmem : other ∈ Fields.keys after.components := List.mem_map_of_mem (Fields.mem_of_get? hc)
  rw [hkeys] at hmem
  obtain rfl : other = "icons.svg" := by simpa [hne] using hmem
  decide

/-- What is defined in the body of a registered block helper is in the registry, but not to be seen; neither is a
component any more when one is defined whose name its own name extends. -/
theorem components_not_mirrored :
    let wrap : RegisteredHelper := ⟨.site, "", "", .block fun _ _ _ => .body [] fun text => .done (.ok text)⟩
    let env : Environment := ⟨[((.block, "wrap"), wrap)], 3, true, .utc, ⟨0, 0⟩⟩
    let definition (name : String) : Node :=
      .block ⟨.bare "component", [.quoted name], []⟩ [.text "x"] none ⟨0, 0⟩ ⟨0, 0⟩
    let start : RenderState := ⟨.ofFields [], [], [], #[], .memory (.empty 0), [], false⟩
    let wrapped : Template := ⟨"", [.block ⟨.bare "wrap", [], []⟩ [definition "card"] none ⟨0, 0⟩ ⟨0, 0⟩]⟩
    let extended : Template := ⟨"", [definition "icons.svg", definition "icons"]⟩
    let afterWrapped := (exec (nodes env 3 wrapped wrapped.nodes) start).2
    let afterExtended := (exec (nodes env 3 extended extended.nodes) start).2
    Fields.keys afterWrapped.components = ["card"] ∧ visibleAt? afterWrapped "card" = none ∧
      Fields.keys afterExtended.components = ["icons.svg", "icons"] ∧ visibleAt? afterExtended "icons.svg" = none := by
  intro wrap env definition start wrapped extended afterWrapped afterExtended
  exact ⟨by decide, rfl, by decide, Option.isNone_iff_eq_none.mp (by decide)⟩

end Render

end Stencil
