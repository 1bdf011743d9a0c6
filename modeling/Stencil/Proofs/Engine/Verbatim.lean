import Stencil.Proofs.Engine.Evaluation
import Stencil.Proofs.Render.Coherence
import Stencil.Proofs.Render.Depth

/-!
Data stays text.

Without registered helpers for expressions a render is the plain one, which makes nothing of the text of an expression
but to show it. That alone does not say what is rendered instead. So the account of a render is kept as well, and all
that is on it are pieces of the page, of files, and of includes that the engine has parsed before: what the data hold,
or what a helper makes of them, is never among it.

What files hold is what they are read as when the render starts. Reading goes through a cache, so it has to be shown
that it leaves all texts as they are.
-/

namespace Stencil

open Template

/-! ## 1. Reading twice -/

namespace Disk

/-- What a text is read as depends on what is kept of its own place only. -/
theorem read_congr (disk : Disk) {cache cache' : TextCache} {place : Location}
    (h : Fields.get? place cache = Fields.get? place cache') : (disk.read cache place).1 = (disk.read cache' place).1 := by
  unfold read
  rw [h]
  split
  · rfl
  · split <;> rfl

/-- Reading a text leaves all other places as they were. -/
theorem get?_read (disk : Disk) (cache : TextCache) {place other : Location} (h : place ≠ other) :
    Fields.get? other (disk.read cache place).2 = Fields.get? other cache := by
  unfold read
  split
  · rfl
  · split
    · rw [Fields.get?_insert, if_neg h]
    · rw [Fields.get?_erase, if_neg h]

/-- What is kept of a place, as long as the place shows the time of it. -/
def kept? (disk : Disk) (cache : TextCache) (place : Location) : Option CachedText :=
  (Fields.get? place cache).filter (some ·.modified == disk.modified? place)

theorem read_of_kept {disk : Disk} {cache : TextCache} {place : Location} {entry : CachedText}
    (h : disk.kept? cache place = some entry) : disk.read cache place = (some entry.text, cache) := by
  rw [kept?] at h
  rw [read, h]

theorem read_of_file {disk : Disk} {cache : TextCache} {place : Location} {text : String} {modified : Int}
    (h : disk.kept? cache place = none) (hfile : disk.file? place = some ⟨some text, modified⟩) :
    disk.read cache place = (some text, cache.insert place ⟨text, modified⟩) := by
  rw [kept?] at h
  rw [read, h, hfile]

theorem read_of_unreadable {disk : Disk} {cache : TextCache} {place : Location}
    (h : disk.kept? cache place = none) (hfile : ∀ text modified, disk.file? place ≠ some ⟨some text, modified⟩) :
    disk.read cache place = (none, cache.erase place) := by
  rw [kept?] at h
  rw [read, h]
  split
  · next hsome => cases hsome
  · split
    · next hreadable => exact absurd hreadable (hfile _ _)
    · rfl

/-- Reading a text once more gives the same. -/
theorem read_again (disk : Disk) (cache : TextCache) (place : Location) :
    (disk.read (disk.read cache place).2 place).1 = (disk.read cache place).1 := by
  cases hkept : disk.kept? cache place with
  | some entry => rw [read_of_kept hkept, read_of_kept hkept]
  | none =>
    by_cases hreadable : ∃ text modified, disk.file? place = some ⟨some text, modified⟩
    · obtain ⟨text, modified, hfile⟩ := hreadable
      have hafter : disk.kept? (cache.insert place ⟨text, modified⟩) place = some ⟨text, modified⟩ := by
        rw [kept?, Fields.get?_insert, if_pos rfl, modified?_of_file? hfile]
        simp
      rw [read_of_file hkept hfile, read_of_kept hafter]
    · have hunreadable : ∀ text modified, disk.file? place ≠ some ⟨some text, modified⟩ :=
        fun text modified hfile => hreadable ⟨text, modified, hfile⟩
      have hafter : disk.kept? (cache.erase place) place = none := by
        rw [kept?, Fields.get?_erase, if_pos rfl]
        rfl
      rw [read_of_unreadable hkept hunreadable, read_of_unreadable hafter hunreadable]

/-- Reading a text makes no difference to what is read afterwards. -/
theorem read_read (disk : Disk) (cache : TextCache) (place other : Location) :
    (disk.read (disk.read cache place).2 other).1 = (disk.read cache other).1 := by
  by_cases h : place = other
  · subst h
    exact disk.read_again cache place
  · exact disk.read_congr (disk.get?_read cache h)

end Disk

theorem Files.read_read (files : Files) (place other : Location) :
    ((files.read place).2.read other).1 = (files.read other).1 := by
  cases files with
  | memory files => rfl
  | disk disk cache => exact disk.read_read cache place other

namespace Engine

/-! ## 2. What a render reads -/

/-- The templates that are read from somewhere else than from data: the page, the files of the engine, and the includes
that it has parsed before. -/
inductive Source (engine : Engine) (page : Template) : Template → Prop
  | page : Source engine page page
  | file {place text} (read : (engine.files.read place).1 = some text) : Source engine page (Template.parse text)
  | cached {place entry} (mem : (place, entry) ∈ engine.includes) : Source engine page entry.template

/-- Nodes that are a piece of such a template. -/
def Sourced (engine : Engine) (page : Template) : Template → List Node → Prop := Render.PieceOf (engine.Source page)

/-- A state in which files read as they do for the engine, and in which all that can be rendered is such a piece. -/
structure Supplied (engine : Engine) (page : Template) (state : RenderState) : Prop where
  files : ∀ place, (state.files.read place).1 = (engine.files.read place).1
  components : ∀ name c, (name, c) ∈ state.components → engine.Sourced page c.template c.template.nodes
  includes : ∀ place entry, (place, entry) ∈ state.includes →
    engine.Sourced page entry.template entry.template.nodes

variable {engine : Engine} {page : Template}

theorem Source.whole {whole : Template} (h : engine.Source page whole) : engine.Sourced page whole whole.nodes :=
  Render.PieceOf.whole h

theorem supplied_start (request : Request) (data : Value) : engine.Supplied page (engine.start request data) :=
  ⟨fun _ => rfl, fun _ _ hmem => (nomatch hmem), fun _ _ hmem => (Source.cached hmem).whole⟩

theorem Supplied.congr {state after : RenderState} (h : engine.Supplied page state) (hfiles : after.files = state.files)
    (hcomponents : after.components = state.components) (hincludes : after.includes = state.includes) :
    engine.Supplied page after :=
  ⟨by rw [hfiles]; exact h.files, by rw [hcomponents]; exact h.components, by rw [hincludes]; exact h.includes⟩

theorem Supplied.load {state : RenderState} (h : engine.Supplied page state) (useCache : Bool) (place : Location) :
    engine.Supplied page (state.load useCache place).2 ∧
      ∀ t, (state.load useCache place).1 = some t → engine.Sourced page t t.nodes := by
  have hfiles (other : Location) : ((state.files.read place).2.read other).1 = (engine.files.read other).1 :=
    (state.files.read_read place other).trans (h.files other)
  have hloads := Render.loads_load state useCache place
  generalize state.load useCache place = result at hloads
  cases hloads with
  | abandoned => exact ⟨h, fun t ht => by cases ht⟩
  | kept mem =>
    refine ⟨h, fun t ht => ?_⟩
    cases ht
    exact h.includes _ _ mem
  | missing => exact ⟨⟨hfiles, h.components, h.includes⟩, fun t ht => by cases ht⟩
  | @read text includes found new =>
    have hsource : engine.Source page (Template.parse text) := .file ((h.files place).symm.trans found)
    refine ⟨⟨hfiles, h.components, fun other entry hmem => ?_⟩, fun t ht => ?_⟩
    · rcases new other entry hmem with hmem | htemplate
      · exact h.includes other entry hmem
      · rw [htemplate]
        exact hsource.whole
    · cases ht
      exact hsource.whole

/-- What a state can hand out to be rendered stays within the sources. -/
theorem keeping_supplied : Render.Keeping (engine.Supplied page) (engine.Sourced page) where
  diagnostics h _ := h.congr rfl rfl rfl
  abandoned h _ := h.congr rfl rfl rfl
  scope h _ _ := h.congr rfl rfl rfl
  define h component _ hok := by
    refine ⟨h.files, fun name c hmem => ?_, h.includes⟩
    rcases Fields.mem_insert hmem with hdefined | hmem
    · cases hdefined
      exact hok
    · exact h.components name c hmem
  load h useCache place := h.load useCache place
  body := Render.PieceOf.body
  inverse := Render.PieceOf.inverse
  fragment := Render.PieceOf.fragment

theorem composed_accounts : Render.Composed (Render.Accounts (n := Option) (engine.Supplied page)
    fun e : Render.Expansion => engine.Sourced page e.template e.nodes) (engine.Sourced page) := by
  refine keeping_supplied.composed (fun h _ => h.congr rfl rfl rfl) (fun h _ => h.congr rfl rfl rfl) ?_
  intro state h name c hfind
  obtain ⟨usageName, hmem⟩ := Components.mem_of_find? hfind
  exact h.components usageName c hmem

/-! ## 3. Texts in the output -/

/-- Renders a source plainly: nothing is read from the text of an expression. -/
def plainRender (engine : Engine) (now : Calendar.Instant) (source : String) (request : Request) (data : Value)
    (depth : Nat) : Option Output × Engine :=
  let rendering := Render.plainTemplate (engine.environment now) depth (.parse source)
  let (text, state) := rendering.exec (engine.start request data)
  (outcome? ⟨text, state.diagnostics⟩ state, engine.after state)

open Render in
/-- A string that a call comes to stands in the output as it is, between what is rendered before and behind it. -/
theorem exec_nodes_of_string {env : Environment} (hregistry : ∀ name, env.registry.regular? name = none) (levels : Nat)
    (t : Template) (before after : List Node) (call : Call) (span : Span) (state found : RenderState) (s : String)
    (isMarkup : Bool)
    (hcall : exec (Expand.call env (below env levels) call).run (exec (nodes env levels t before) state).2 =
      (.ok ⟨.string s, isMarkup⟩, found)) :
    exec (nodes env levels t (before ++ .expression call span :: after)) state =
      ((exec (nodes env levels t before) state).1 ++ (s ++ (exec (nodes env levels t after) found).1),
        (exec (nodes env levels t after) found).2) := by
  have hnode : exec (node env (below env levels) t (.expression call span)) (exec (nodes env levels t before) state).2 =
      (s, found) := by
    rw [exec_node, expansion, exec_expression_of_settled (settled_call fun name _ => hregistry name), hcall]
    rfl
  obtain ⟨behind, hbehind⟩ : ∃ behind, behind = exec (node env (below env levels) t (.expression call span))
    (exec (nodes env levels t before) state).2 := ⟨_, rfl⟩
  rw [nodes_siblings]
  calc _ = ((exec (nodes env levels t before) state).1 ++ (behind.1 ++ (exec (nodes env levels t after) behind.2).1),
        (exec (nodes env levels t after) behind.2).2) := by
        rw [hbehind]
        rfl
    _ = _ := by rw [hbehind, hnode]

/-- **Data stays text.** Without registered helpers for expressions, a render is the plain one, in its text, its
diagnostics, its components and all else that it leaves. A string that a call comes to, be it from the data, a helper,
an include or a component, stands in the output as it is, whatever it holds. And all that is rendered on the way was
read from the page, from a file, or from an include that the engine knew. -/
theorem render_shows_data (engine : Engine) (hregistry : ∀ name, engine.registry.regular? name = none)
    (now : Calendar.Instant) (source : String) (request : Request) (data : Value) (depth : Nat) :
    let env := engine.environment now
    let page := Template.parse source
    let start := engine.start request data
    engine.render now source request data depth = engine.plainRender now source request data depth ∧
    (Render.template env depth page).exec start = (Render.plainTemplate env depth page).exec start ∧
    (∀ levels t before after call span state s isMarkup found,
      Render.exec (Expand.call env (Render.below env levels) call).run
          (Render.exec (Render.nodes env levels t before) state).2 = (.ok ⟨.string s, isMarkup⟩, found) →
        Render.exec (Render.nodes env levels t (before ++ .expression call span :: after)) state =
          ((Render.exec (Render.nodes env levels t before) state).1 ++
              (s ++ (Render.exec (Render.nodes env levels t after) found).1),
            (Render.exec (Render.nodes env levels t after) found).2)) ∧
    ∃ course, (∀ e ∈ course, engine.Sourced page e.template e.nodes) ∧
      ((Render.byDepth env (env.maxDepth - depth + 1) depth page page.nodes).run start).run [] =
        some ((Render.template env depth page).exec start, course) := by
  intro env page start
  have hplain : (Render.template env depth page : Render Id String) = Render.plainTemplate env depth page :=
    Render.template_eq_plain hregistry depth page
  refine ⟨?_, by rw [hplain], fun levels t before after call span state s isMarkup found hcall =>
    exec_nodes_of_string hregistry levels t before after call span state found s isMarkup hcall, ?_⟩
  · rw [render, plainRender, ← hplain]
  · have hparse : ∀ {name run}, env.registry.regular? name = some run →
        ∀ text, engine.Sourced page (Template.parse text) (Template.parse text).nodes :=
      fun hrun => by cases (hregistry _).symm.trans hrun
    obtain ⟨-, course, hsourced, hrun⟩ := Render.byDepth_composed composed_accounts hparse
      (fun _ _ _ _ hok => hok) (env.maxDepth - depth + 1) depth (Nat.lt_succ_self _) page page.nodes
      Source.page.whole start [] (supplied_start request data)
    refine ⟨course, hsourced, ?_⟩
    rw [hrun, List.nil_append]
    rfl

/-- An engine with a helper for blocks, and data that look like markup. -/
theorem render_shows_data_like_markup :
    let wrap : RegisteredHelper := ⟨.site, "", "", .block fun _ _ _ => .body [] fun text => .done (.ok text)⟩
    let engine : Engine := .new [((.block, "wrap"), wrap)] {} [] (.memory (.empty 0))
    let data : Value := .map [("x", .string "\x7b\x7by\x7d\x7d"), ("y", .string "z")]
    let source := "\x7b\x7b#wrap\x7d\x7d\x7b\x7bx\x7d\x7d\x7b\x7b/wrap\x7d\x7d"
    (∀ name, engine.registry.regular? name = none) ∧
    engine.render ⟨0, 0⟩ source {} data 0 = engine.plainRender ⟨0, 0⟩ source {} data 0 ∧
    (engine.render ⟨0, 0⟩ source {} data 0).1.map (·.text) = some "\x7b\x7by\x7d\x7d" := by
  intro wrap engine data source
  have hregistry : ∀ name, engine.registry.regular? name = none := fun _ => rfl
  have hrender := (render_shows_data engine hregistry ⟨0, 0⟩ source {} data 0).1
  refine ⟨hregistry, hrender, ?_⟩
  decide +kernel

end Engine

end Stencil
