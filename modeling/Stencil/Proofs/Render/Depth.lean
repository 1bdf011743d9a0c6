import Stencil.Proofs.Render.Account
import Stencil.Proofs.Render.Guard

/-!
The limit of nesting.

Rendering counts the levels that are left. What that amounts to is said here by depth, counted from the top: a node
at some depth may have nodes rendered one level deeper as long as its own depth is below the limit. `byDepth` is
the render written that way, with nothing but this guard to end it, so it has to be given a number of calls that it
may nest; and it keeps an account of every nested expansion. It turns out that it never needs more nested calls
than there are levels left, comes to what the render comes to, and expands nothing beyond the limit.

The account also has what was expanded. Markup that lies too deep is given back as it was written, a slice of the
source of its template, so what matters is that nodes are always rendered along with the source that they were read
from (`Piece`), wherever a component or an include has taken them since.
-/

namespace Stencil

open Template

namespace Render

/-! ## 1. The render by depth -/

/-- A nested expansion: the depth of the node that it belongs to, its own depth, and what it renders. -/
structure Expansion where
  nodeDepth : Nat
  depth : Nat
  template : Template
  nodes : List Node

/-- What lies below the state of a render that keeps an account: the expansions so far, first ones first, or
nothing when the nested calls did not suffice. -/
abbrev Account := StateT (List Expansion) Option

/-- Puts an expansion on the account. -/
def note (e : Expansion) : Render Account Unit := StateT.lift (modify (· ++ [e]))

/-- The render by depth, with at most so many nested calls. -/
def byDepth (env : Environment) : Nat → Nat → Layer Account
  | 0, _ => fun _ _ => StateT.lift (StateT.lift none)
  | calls + 1, depth =>
    let deeper : Layer Account := fun t nodes => do
      note ⟨depth, depth + 1, t, nodes⟩
      byDepth env calls (depth + 1) t nodes
    layer env (if depth < env.maxDepth then some deeper else none)

/-- The level below a node is there as long as its depth is below the limit. -/
theorem below_eq (m : Type → Type) [Monad m] (env : Environment) (depth : Nat) :
    (below env (env.maxDepth - depth) : Option (Layer m)) =
      if depth < env.maxDepth then some (nodes env (env.maxDepth - (depth + 1))) else none := by
  by_cases h : depth < env.maxDepth
  · have hlevels : env.maxDepth - depth = env.maxDepth - (depth + 1) + 1 := by omega
    rw [if_pos h, hlevels, below]
  · have hlevels : env.maxDepth - depth = 0 := by omega
    rw [if_neg h, hlevels, below]

/-! ## 2. Pieces of templates -/

/-- A list of nodes stands in another one: it is that list, or the branch of a block that stands in it. -/
inductive Within (root : List Node) : List Node → Prop
  | self : Within root root
  | body {nodes call body inverse bodySpan span} (outer : Within root nodes)
      (mem : .block call body inverse bodySpan span ∈ nodes) : Within root body
  | inverse {nodes call body inverse bodySpan span} (outer : Within root nodes)
      (mem : .block call body (some inverse) bodySpan span ∈ nodes) : Within root inverse

/-- Nodes that stand in a whole template, along with its source. -/
structure Piece (whole t : Template) (nodes : List Node) : Prop where
  source : t.source = whole.source
  within : Within whole.nodes nodes

/-- Nodes that are a piece of a template of some origin. -/
def PieceOf (origin : Template → Prop) (t : Template) (nodes : List Node) : Prop :=
  ∃ whole, origin whole ∧ Piece whole t nodes

namespace PieceOf

variable {origin : Template → Prop} {t : Template} {nodes branch : List Node} {call : Call} {bodySpan span : Span}

theorem whole {whole : Template} (h : origin whole) : PieceOf origin whole whole.nodes := ⟨whole, h, rfl, .self⟩

theorem body {inverse : Option (List Node)} (h : PieceOf origin t nodes)
    (hmem : .block call branch inverse bodySpan span ∈ nodes) : PieceOf origin t branch := by
  obtain ⟨whole, horigin, hpiece⟩ := h
  exact ⟨whole, horigin, hpiece.source, hpiece.within.body hmem⟩

theorem inverse {body : List Node} (h : PieceOf origin t nodes)
    (hmem : .block call body (some branch) bodySpan span ∈ nodes) : PieceOf origin t branch := by
  obtain ⟨whole, horigin, hpiece⟩ := h
  exact ⟨whole, horigin, hpiece.source, hpiece.within.inverse hmem⟩

theorem fragment (h : PieceOf origin t nodes) : PieceOf origin (t.fragment nodes) nodes := by
  obtain ⟨whole, horigin, hpiece⟩ := h
  exact ⟨whole, horigin, hpiece.source, hpiece.within⟩

end PieceOf

/-- The templates that a render can take nodes from: its page, the components and the includes that are known when
it starts, and whatever is parsed on the way, be it a file or what a helper came to. -/
inductive Origin (page : Template) (start : RenderState) : Template → Prop
  | page : Origin page start page
  | component {name c} (mem : (name, c) ∈ start.components) : Origin page start c.template
  | include {place entry} (mem : (place, entry) ∈ start.includes) : Origin page start entry.template
  | parsed (text : String) : Origin page start (Template.parse text)

/-- Nodes that are a piece of such a template. -/
def Sourced (page : Template) (start : RenderState) (t : Template) (nodes : List Node) : Prop :=
  ∃ whole, Origin page start whole ∧ Piece whole t nodes

/-- All that a state can hand out to be rendered is sourced. -/
structure Stocked (page : Template) (start state : RenderState) : Prop where
  components : ∀ name c, (name, c) ∈ state.components → Sourced page start c.template c.template.nodes
  includes : ∀ place entry, (place, entry) ∈ state.includes →
    Sourced page start entry.template entry.template.nodes

theorem sourced_whole {page : Template} {start : RenderState} {whole : Template}
    (h : Origin page start whole) : Sourced page start whole whole.nodes := PieceOf.whole h

theorem stocked_start (page : Template) (start : RenderState) : Stocked page start start :=
  ⟨fun _ _ hmem => sourced_whole (.component hmem), fun _ _ hmem => sourced_whole (.include hmem)⟩

theorem Stocked.congr {page : Template} {start state after : RenderState} (h : Stocked page start state)
    (hcomponents : after.components = state.components) (hincludes : after.includes = state.includes) :
    Stocked page start after :=
  ⟨by rw [hcomponents]; exact h.components, by rw [hincludes]; exact h.includes⟩

/-- What a template can be loaded as. An abandoned render loads nothing; one that is kept comes from the state; and
otherwise it is what the text at its place is read as, and nothing else is kept that was not kept before. -/
inductive Loads (state : RenderState) (place : Location) : Option Template × RenderState → Prop
  | abandoned : Loads state place (none, state)
  | kept {entry} (mem : (place, entry) ∈ state.includes) : Loads state place (some entry.template, state)
  | missing : Loads state place (none, { state with files := (state.files.read place).2 })
  | read {text includes} (found : (state.files.read place).1 = some text)
      (new : ∀ other entry, (other, entry) ∈ includes →
        (other, entry) ∈ state.includes ∨ entry.template = Template.parse text) :
      Loads state place (some (Template.parse text), { state with files := (state.files.read place).2, includes })

theorem loads_load (state : RenderState) (useCache : Bool) (place : Location) :
    Loads state place (state.load useCache place) := by
  unfold RenderState.load
  split
  · exact .abandoned
  simp only
  split
  · next entry hentry =>
    -- the include has been read before and is still fresh
    have hcached := (Option.filter_eq_some_iff.mp hentry).1
    split at hcached
    · exact .kept (Fields.mem_of_get? hcached)
    · cases hcached
  · split
    · next files hread =>
      obtain rfl : files = (state.files.read place).2 := by rw [hread]
      exact .missing
    · next text files hread =>
      obtain rfl : files = (state.files.read place).2 := by rw [hread]
      refine .read (by rw [hread]) fun other entry hmem => ?_
      split at hmem
      · rcases Fields.mem_insert hmem with hentry | hmem
        · cases hentry
          exact .inr rfl
        · exact .inl hmem
      · exact .inl hmem

theorem Stocked.load {page : Template} {start state : RenderState} (h : Stocked page start state)
    (useCache : Bool) (place : Location) :
    Stocked page start (state.load useCache place).2 ∧
      ∀ t, (state.load useCache place).1 = some t → Sourced page start t t.nodes := by
  have hloads := loads_load state useCache place
  generalize state.load useCache place = result at hloads
  cases hloads with
  | abandoned => exact ⟨h, fun t ht => by cases ht⟩
  | kept mem =>
    refine ⟨h, fun t ht => ?_⟩
    cases ht
    exact h.includes _ _ mem
  | missing => exact ⟨h.congr rfl rfl, fun t ht => by cases ht⟩
  | @read text includes found new =>
    have hparsed : Sourced page start (Template.parse text) (Template.parse text).nodes := sourced_whole (.parsed text)
    refine ⟨⟨h.components, fun other entry hmem => ?_⟩, fun t ht => ?_⟩
    · rcases new other entry hmem with hmem | htemplate
      · exact h.includes other entry hmem
      · rw [htemplate]
        exact hparsed
    · cases ht
      exact hparsed

/-! ## 3. The account is one of the render -/

/-- An expansion within the limit, of nodes that are sourced. -/
structure Expansion.Proper (env : Environment) (page : Template) (start : RenderState) (e : Expansion) : Prop where
  deeper : e.nodeDepth < e.depth
  bounded : e.depth ≤ env.maxDepth
  permitted : e.nodeDepth < env.maxDepth
  sourced : Sourced page start e.template e.nodes

section Accounts

variable {env : Environment} {page : Template} {start : RenderState}

/-- What a state can hand out stays sourced. -/
theorem kept_stocked : Kept (Stocked page start) (Sourced page start) where
  diagnostics h _ := h.congr rfl rfl
  abandoned h _ := h.congr rfl rfl
  scope h _ _ := h.congr rfl rfl
  define h component _ hok := by
    refine ⟨fun name c hmem => ?_, h.includes⟩
    rcases Fields.mem_insert hmem with hdefined | hmem
    · cases hdefined
      exact hok
    · exact h.components name c hmem
  load h useCache place := h.load useCache place
  parse text := sourced_whole (.parsed text)
  body := PieceOf.body
  inverse := PieceOf.inverse
  fragment := PieceOf.fragment

theorem respected_accounts :
    Respected (Accounts (n := Option) (Stocked page start) (Expansion.Proper env page start)) (Sourced page start) := by
  refine kept_stocked.respected (fun h _ => h.congr rfl rfl) (fun h _ => h.congr rfl rfl) ?_
  intro state h name c hfind
  -- a component that is found has been known from the start or was defined on the way
  obtain ⟨usageName, hmem⟩ := Components.mem_of_find? hfind
  exact h.components usageName c hmem

end Accounts

/-! ## 4. The limit -/

/-- Nested calls suffice when there are more of them than levels left. The account has to do with what is rendered, for
whatever condition on the states keeps that `ok`. -/
theorem byDepth_composed {env : Environment} {inv : RenderState → Prop} {ok : Template → List Node → Prop}
    {proper : Expansion → Prop} (h : Composed (Accounts (n := Option) inv proper) ok)
    (parse : ∀ {name run}, env.registry.regular? name = some run →
      ∀ text, ok (Template.parse text) (Template.parse text).nodes)
    (hproper : ∀ depth t list, depth < env.maxDepth → ok t list → proper ⟨depth, depth + 1, t, list⟩)
    (calls depth : Nat) (hcalls : env.maxDepth - depth < calls) (t : Template) (list : List Node) (hok : ok t list) :
    Accounts inv proper String (byDepth env calls depth t list) (nodes env (env.maxDepth - depth) t list) := by
  -- the number of calls that may nest goes down as the depth goes up
  induction calls generalizing depth t list with
  | zero => exact absurd hcalls (Nat.not_lt_zero _)
  | succ calls ih =>
    rw [byDepth, nodes_eq_layer, below_eq]
    refine (h.followed ?_ parse).layer hok
    by_cases hdepth : depth < env.maxDepth
    · rw [if_pos hdepth, if_pos hdepth]
      refine .present fun t list hok state course hinv => ?_
      -- the expansion goes on the account first, and then whatever it expands itself
      obtain ⟨hafter, new, hnew, hrun⟩ := ih (depth + 1) (by omega) t list hok state
        (course ++ [⟨depth, depth + 1, t, list⟩]) hinv
      refine ⟨hafter, ⟨depth, depth + 1, t, list⟩ :: new, ?_, ?_⟩
      · intro e he
        rcases List.mem_cons.mp he with rfl | he
        · exact hproper depth t list hdepth hok
        · exact hnew e he
      · rw [List.append_cons]
        exact hrun
    · rw [if_neg hdepth, if_neg hdepth]
      exact .missing

theorem byDepth_accounts (env : Environment) (page : Template) (start : RenderState) (calls depth : Nat)
    (hcalls : env.maxDepth - depth < calls) (t : Template) (list : List Node) (hok : Sourced page start t list) :
    Accounts (Stocked page start) (Expansion.Proper env page start) String (byDepth env calls depth t list)
      (nodes env (env.maxDepth - depth) t list) :=
  byDepth_composed respected_accounts.toComposed (fun _ => kept_stocked.parse)
    (fun depth _ _ hdepth hok => ⟨Nat.lt_succ_self depth, hdepth, hdepth, hok⟩) calls depth hcalls t list hok

/-- **Nesting ends at the limit.** A render is what it is by depth, with as many nested calls as there are levels
left or with any number beyond that: it comes to an end, and all that it expands is one level deeper than the node
that it belongs to, within the limit, and read from the source that it is rendered with. No node below the limit is
stopped. One that is stopped is its own markup in the output and a single error in the diagnostics; one that is not
stopped at the limit is what it would be on any level, and either way the nodes around it are rendered as ever. -/
theorem depth_guarded (env : Environment) (page : Template) (depth : Nat) (start : RenderState) :
    (∀ more, ∃ course, (∀ e ∈ course, e.Proper env page start) ∧
      ((byDepth env (env.maxDepth - depth + 1 + more) depth page page.nodes).run start).run [] =
        some ((template env depth page).exec start, course)) ∧
    (∀ t n depth state, depth < env.maxDepth → ¬ Stopped env depth t n state) ∧
    (∀ t n depth state, Stopped env depth t n state → ∃ span, n.span? = some span ∧
      (exec (node env (below env (env.maxDepth - depth)) t n) state).1 = span.slice t.source ∧
      (exec (node env (below env (env.maxDepth - depth)) t n) state).2.diagnostics =
        state.diagnostics.error (TemplateError.depthExceeded env.maxDepth).message) ∧
    (∀ t n depth state, env.maxDepth ≤ depth → ¬ Stopped env depth t n state → ∀ level : Layer Id,
      exec (node env (below env (env.maxDepth - depth)) t n) state = exec (node env (some level) t n) state) ∧
    ∀ t before n after levels, (nodes env levels t (before ++ n :: after) : Render Id String) = do
      let left ← nodes env levels t before
      let text ← node env (below env levels) t n
      let right ← nodes env levels t after
      return left ++ (text ++ right) := by
  refine ⟨fun more => ?_, fun _ _ _ _ => not_stopped_of_lt, fun _ _ _ _ => node_of_stopped,
    fun _ _ _ _ hlimit h => node_of_not_stopped hlimit h, fun t before n after levels => ?_⟩
  · obtain ⟨-, course, hproper, hrun⟩ := byDepth_accounts env page start (env.maxDepth - depth + 1 + more) depth
      (by omega) page page.nodes (sourced_whole .page) start [] (stocked_start page start)
    refine ⟨course, hproper, ?_⟩
    rw [hrun, List.nil_append]
    rfl
  · exact nodes_siblings env levels t before after n

/-- With one level to go, a block is rendered at the top and stopped on the level below, where it is its own markup
and one error. A name by itself is not stopped there, and means what it means on any level. -/
theorem depth_guarded_on_two_levels :
    let env : Environment := ⟨[], 1, true, .utc, ⟨0, 0⟩⟩
    let state : RenderState := ⟨.ofFields [], [], [], #[], .memory (.empty 0), [], false⟩
    let block : Node := .block ⟨.bare "if", [.bare "true"], []⟩ [.text "a"] none ⟨12, 13⟩ ⟨0, 20⟩
    let name : Node := .expression ⟨.bare "x", [], []⟩ ⟨20, 25⟩
    let t : Template := ⟨"\x7b\x7b#if true\x7d\x7da\x7b\x7b/if\x7d\x7d\x7b\x7bx\x7d\x7d", [block, name]⟩
    ¬ Stopped env 0 t block state ∧
    Stopped env 1 t block state ∧
    (exec (node env none t block) state).1 = "\x7b\x7b#if true\x7d\x7da\x7b\x7b/if\x7d\x7d" ∧
    (exec (node env none t block) state).2.diagnostics = #[⟨.error, "maximum render depth (1) exceeded"⟩] ∧
    ¬ Stopped env 1 t name state ∧
    ∀ level : Layer Id, exec (node env none t name) state = exec (node env (some level) t name) state := by
  intro env state block name t
  obtain ⟨-, hbelow, hstopped, hsame, -⟩ := depth_guarded env t 1 state
  have hblock : Stopped env 1 t block state := rfl
  have hname : ¬ Stopped env 1 t name state := by
    intro h
    cases h
  obtain ⟨span, hspan, htext, hdiagnostics⟩ := hstopped t block 1 state hblock
  cases hspan
  exact ⟨hbelow t block 0 state (by decide), hblock, htext.trans (by decide), hdiagnostics.trans (by decide), hname,
    hsame t name 1 state (by decide) hname⟩

end Render

end Stencil
