import Stencil.Engine
import Stencil.Proofs.Render.Includes

/-!
Sessions.

An engine renders, files come and go, the configuration is renewed, and parsed includes are kept or forgotten. None
of this leaves a trace in what the engine renders later. It answers every step of a session as an engine would that
was made for this step alone, of the same helpers and messages, of the configuration in use and of the files as they
stand.

What it takes is that no file is given a time that it had before. The engine cannot tell a file from another version
of it with the same time.
-/

namespace Stencil

namespace Engine

/-! ## 1. Steps -/

/-- What can happen to an engine with files in memory. -/
inductive Step where
  | render (now : Calendar.Instant) (source : String) (request : Request) (data : Value) (depth : Nat)
  | evaluate (now : Calendar.Instant) (source : String) (data : Value)
  | add (path text : String) (time : Nat)
  | remove (path : String)
  | forgetInclude (place : Location)
  | forgetIncludes
  | reload (config : Config)

/-- What comes out of a step. -/
inductive Answer where
  | rendered (output : Option Output)
  | evaluated (v : Option Value)
  | done

namespace Step

/-- The configuration in use after a step. -/
def config : Step → Config → Config
  | .reload config, _ => config
  | _, config => config

/-- The files after a step. -/
def memory : Step → MemoryFiles → MemoryFiles
  | .add path text time, memory => memory.addAt path text time
  | .remove path, memory => memory.remove path
  | _, memory => memory

/-- The file that is added in a step, as its path and its time. Nothing is added under a path that is refused. -/
def stamp? : Step → Option (Path × Nat)
  | .add path _ time => (Path.normalize path).toOption.map (·, time)
  | _ => none

end Step

/-- The engine with its files in memory changed by a step. -/
def changeFiles (engine : Engine) (step : Step) : Engine :=
  match engine.files with
  | .memory memory => { engine with files := .memory (step.memory memory) }
  | .disk .. => engine

/-- What comes out of a step, and the engine after it. -/
def perform (engine : Engine) (step : Step) : Answer × Engine :=
  match step with
  | .render now source request data depth =>
    let (output, engine) := engine.render now source request data depth
    (.rendered output, engine)
  | .evaluate now source data =>
    let (v, engine) := engine.evaluate now source data
    (.evaluated v, engine)
  | .add .. | .remove _ => (.done, engine.changeFiles step)
  | .forgetInclude place => (.done, engine.forgetInclude place)
  | .forgetIncludes => (.done, engine.forgetIncludes)
  | .reload config => (.done, engine.reload config)

/-- What comes out of one step after another. -/
def session (engine : Engine) : List Step → List Answer
  | [] => []
  | step :: steps => (engine.perform step).1 :: session (engine.perform step).2 steps

/-- What comes out of the steps when each of them has a new engine, made of the configuration and of the files that
the steps before it have led to. -/
def sessionAfresh (registry : Registry) (locales : Locales) (config : Config) (memory : MemoryFiles) :
    List Step → List Answer
  | [] => []
  | step :: steps =>
    ((Engine.new registry config locales (.memory memory)).perform step).1 ::
      sessionAfresh registry locales (step.config config) (step.memory memory) steps

/-- No file is given a time that it had before, be it at the beginning or by an earlier step. -/
structure Fresh (memory : MemoryFiles) (steps : List Step) : Prop where
  distinct : (steps.filterMap Step.stamp?).Nodup
  new : ∀ stamp ∈ steps.filterMap Step.stamp?, memory.time? stamp.1 ≠ some stamp.2

/-! ## 2. The history of the files -/

/-- The versions of files that there were up to the end of a step. What is taken away stays part of the history, for
includes that were parsed from it may still be there. -/
def Step.extend (step : Step) (history : History) : History :=
  match step with
  | .add given text time => fun path file => history path file ∨ Path.normalize given = .ok path ∧ file = ⟨text, time⟩
  | _ => history

variable {history : History} {memory : MemoryFiles} {step : Step}

theorem stamp?_add {given text : String} {time : Nat} {path : Path} (h : Path.normalize given = .ok path) :
    Step.stamp? (.add given text time) = some (path, time) := by
  rw [Step.stamp?, h]
  rfl

/-- What a step adds to the history has the time of that step. -/
theorem extend_cases {path : Path} {file : MemoryFile} (h : step.extend history path file) :
    history path file ∨ step.stamp? = some (path, file.time) := by
  cases step with
  | add given text time =>
    rcases h with h | ⟨hgiven, rfl⟩
    · exact .inl h
    · exact .inr (stamp?_add hgiven)
  | _ => exact .inl h

/-- A step that gives no file a time that it had keeps the history of use. -/
theorem dates_step (hdates : history.Dates memory)
    (hnew : ∀ stamp, step.stamp? = some stamp → ∀ file, history stamp.1 file → file.time ≠ stamp.2) :
    (step.extend history).Dates (step.memory memory) where
  present path file h := by
    cases step with
    | add given text time => exact (MemoryFiles.get?_addAt h).imp_left (hdates.present path file)
    | remove given => exact hdates.present path file (MemoryFiles.get?_remove h)
    | _ => exact hdates.present path file h
  unique path file other hfile hother htime := by
    cases step with
    | add given text time =>
      rcases hfile with hfile | ⟨hgiven, rfl⟩ <;> rcases hother with hother | ⟨hgiven', rfl⟩
      · exact hdates.unique path file other hfile hother htime
      · exact absurd htime (hnew _ (stamp?_add hgiven') file hfile)
      · exact absurd htime.symm (hnew _ (stamp?_add hgiven) other hother)
      · rfl
    | _ => exact hdates.unique path file other hfile hother htime

/-! ## 3. One step -/

variable {engine : Engine}

/-- A part of a render comes to what it would come to if nothing had been parsed before, and the history goes on
explaining what has been parsed. -/
theorem outcome_forgetIncludes {α β : Type} {part : Render Id α} (hpart : Render.Agrees history memory α part part)
    (hfiles : engine.files = .memory memory) (hexplains : history.Explains engine.includes) (request : Request)
    (data : Value) (result : α → Diagnostics → β) :
    let (a, state) := part.exec (engine.start request data)
    let (b, other) := part.exec (engine.forgetIncludes.start request data)
    outcome? (result a state.diagnostics) state = outcome? (result b other.diagnostics) other ∧
      ∃ includes, history.Explains includes ∧ engine.after state = { engine with includes } := by
  have hrun := hpart (engine.start request data) (engine.forgetIncludes.start request data)
    ⟨hfiles, hexplains, [], History.explains_nil history, rfl⟩
  generalize part.exec (engine.start request data) = run, part.exec (engine.forgetIncludes.start request data) = run'
    at hrun ⊢
  obtain ⟨a, state⟩ := run
  obtain ⟨b, other⟩ := run'
  obtain ⟨rfl, hafter, hparsed, includes, -, rfl⟩ := hrun
  refine ⟨rfl, state.includes, hparsed, ?_⟩
  rw [after, hafter, ← hfiles]

theorem render_forgetIncludes (hdates : history.Dates memory) (hfiles : engine.files = .memory memory)
    (hexplains : history.Explains engine.includes) (now : Calendar.Instant) (source : String) (request : Request)
    (data : Value) (depth : Nat) :
    (engine.render now source request data depth).1 =
        (engine.forgetIncludes.render now source request data depth).1 ∧
      ∃ includes, history.Explains includes ∧
        (engine.render now source request data depth).2 = { engine with includes } := by
  have hpart : Render.Agrees history memory String
      (Render.template (engine.environment now) depth (.parse source)) _ :=
    (Render.respected_agrees hdates).nodes _ _ trivial
  exact outcome_forgetIncludes hpart hfiles hexplains request data Output.mk

theorem evaluate_forgetIncludes (hdates : history.Dates memory) (hfiles : engine.files = .memory memory)
    (hexplains : history.Explains engine.includes) (now : Calendar.Instant) (source : String) (data : Value) :
    (engine.evaluate now source data).1 = (engine.forgetIncludes.evaluate now source data).1 ∧
      ∃ includes, history.Explains includes ∧ (engine.evaluate now source data).2 = { engine with includes } := by
  have hpart : Render.Agrees history memory Value (Render.value (engine.environment now) (.parse source)) _ :=
    (Render.respected_agrees hdates).value _ trivial
  exact outcome_forgetIncludes hpart hfiles hexplains {} data fun v _ => v

/-! ## 4. Sessions -/

section Session

variable (registry : Registry) (locales : Locales) (config : Config) {includes : IncludeCache}

/-- A step comes to the same on an engine that was made for it. Afterwards nothing has changed but what the step is
about, and the history explains what is parsed by then. -/
theorem perform_of_explained (hdates : history.Dates memory) (hexplains : history.Explains includes) (step : Step) :
    let engine := Engine.new registry config locales (.memory memory)
    (perform { engine with includes } step).1 = (engine.perform step).1 ∧
      ∃ after, (step.extend history).Explains after ∧ (perform { engine with includes } step).2 =
        { Engine.new registry (step.config config) locales (.memory (step.memory memory)) with includes := after } := by
  intro engine
  have hfiles : { engine with includes }.files = .memory memory := rfl
  cases step with
  | render now source request data depth =>
    obtain ⟨hsame, after, hafter, hengine⟩ :=
      render_forgetIncludes hdates hfiles hexplains now source request data depth
    exact ⟨congrArg Answer.rendered hsame, after, hafter, hengine⟩
  | evaluate now source data =>
    obtain ⟨hsame, after, hafter, hengine⟩ := evaluate_forgetIncludes hdates hfiles hexplains now source data
    exact ⟨congrArg Answer.evaluated hsame, after, hafter, hengine⟩
  | add path text time => exact ⟨rfl, includes, hexplains.imp fun _ _ => .inl, rfl⟩
  | remove path => exact ⟨rfl, includes, hexplains, rfl⟩
  | forgetInclude place => exact ⟨rfl, includes.erase place, hexplains.erase place, rfl⟩
  | forgetIncludes => exact ⟨rfl, [], History.explains_nil history, rfl⟩
  | reload config => exact ⟨rfl, includes, hexplains, rfl⟩

/-- No step from here on gives a file a time that it had before. -/
structure FreshFrom (history : History) (steps : List Step) : Prop where
  distinct : (steps.filterMap Step.stamp?).Nodup
  new : ∀ stamp ∈ steps.filterMap Step.stamp?, ∀ file, history stamp.1 file → file.time ≠ stamp.2

theorem FreshFrom.head {steps : List Step} (h : FreshFrom history (step :: steps)) {stamp : Path × Nat}
    (hstamp : step.stamp? = some stamp) {file : MemoryFile} (hfile : history stamp.1 file) : file.time ≠ stamp.2 :=
  h.new stamp (List.mem_filterMap.mpr ⟨step, List.mem_cons_self, hstamp⟩) file hfile

theorem FreshFrom.tail {steps : List Step} (h : FreshFrom history (step :: steps)) :
    FreshFrom (step.extend history) steps := by
  obtain ⟨hdistinct, hnew⟩ := h
  cases hstamp : step.stamp? with
  | none =>
    rw [List.filterMap_cons_none hstamp] at hdistinct hnew
    refine ⟨hdistinct, fun stamp hmem file hfile => ?_⟩
    rcases extend_cases hfile with hfile | hfile
    · exact hnew stamp hmem file hfile
    · rw [hstamp] at hfile
      cases hfile
  | some given =>
    rw [List.filterMap_cons_some hstamp] at hdistinct hnew
    obtain ⟨hgiven, hdistinct⟩ := List.nodup_cons.mp hdistinct
    refine ⟨hdistinct, fun stamp hmem file hfile => ?_⟩
    rcases extend_cases hfile with hfile | hfile
    · exact hnew stamp (List.mem_cons_of_mem _ hmem) file hfile
    -- the time was given just now, so it is not given again
    · rintro htime
      rw [hstamp, htime] at hfile
      cases hfile
      exact hgiven hmem

theorem session_of_explained {steps : List Step} (hdates : history.Dates memory)
    (hexplains : history.Explains includes) (hfresh : FreshFrom history steps) :
    session { Engine.new registry config locales (.memory memory) with includes } steps =
      sessionAfresh registry locales config memory steps := by
  induction steps generalizing history memory includes config with
  | nil => rfl
  | cons step steps ih =>
    obtain ⟨hanswer, after, hafter, hengine⟩ := perform_of_explained registry locales config hdates hexplains step
    rw [session, sessionAfresh, hanswer, hengine]
    have hdates' := dates_step hdates fun stamp hstamp file hfile => hfresh.head hstamp hfile
    rw [ih (step.config config) hdates' hafter hfresh.tail]

theorem dates_present (memory : MemoryFiles) :
    History.Dates (fun path file => Fields.get? path memory.files = some file) memory where
  present _ _ h := h
  unique _ _ _ hfile hother _ := Option.some.inj (hfile.symm.trans hother)

theorem Fresh.fromPresent {steps : List Step} (h : Fresh memory steps) :
    FreshFrom (fun path file => Fields.get? path memory.files = some file) steps where
  distinct := h.distinct
  new stamp hmem file hfile htime := by
    refine h.new stamp hmem ?_
    rw [MemoryFiles.time?, hfile, Option.map_some, htime]

/-- **A session leaves no trace.** Whatever has been rendered, parsed, kept and forgotten on the way, each step of a
session on one engine comes to what it comes to on an engine that was made for this step, of the same helpers and
messages, the configuration in use and the files as they stand. -/
theorem session_leaves_no_trace (memory : MemoryFiles) (steps : List Step) (hfresh : Fresh memory steps) :
    session (.new registry config locales (.memory memory)) steps =
      sessionAfresh registry locales config memory steps :=
  session_of_explained registry locales config (dates_present memory) (History.explains_nil _) hfresh.fromPresent

end Session

/-- A file that is replaced, taken away and put back with its first text, while includes are kept, not kept, and
kept again. -/
theorem session_leaves_no_trace_of_file :
    let memory : MemoryFiles := ⟨[(["a"], ⟨"one", 1⟩)], 1⟩
    let page : Step := .render ⟨0, 0⟩ "\x7b\x7bfile.include 'a'\x7d\x7d" {} .null 0
    let uncached : Config := { template := { cacheIncludes := false } }
    let steps : List Step := [page, .add "./a" "two" 2, page, .reload uncached, .remove "a", .add "a" "one" 3, page,
      .reload {}, page, .forgetInclude ⟨none, ["a"]⟩, page, .forgetIncludes, page]
    Fresh memory steps ∧
      session (.new [] {} [] (.memory memory)) steps = sessionAfresh [] [] {} memory steps := by
  intro memory page uncached steps
  have hfresh : Fresh memory steps := ⟨by decide, by decide⟩
  exact ⟨hfresh, session_leaves_no_trace [] [] {} memory steps hfresh⟩

end Engine

end Stencil
