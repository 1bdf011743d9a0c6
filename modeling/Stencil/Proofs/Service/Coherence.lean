import Stencil.Proofs.Render.Coherence
import Stencil.Service

/-!
A service over files that change.

Files are written and deleted under a running service, with any modification times. It renders, its configuration is
renewed, and what it keeps of files is forgotten, file by file, cache by cache, or all that there is about one file.
Through all of this, whatever it has kept of a file was on disk under the time on record, at some point since the file
was last invalidated. Nothing more is needed for includes to be what is on disk: a file that shows a time that it had
before, since then, has to have the text that it had before, and a folder that has taken the place of a file must not
show a time that the file had. The caches look at times and at nothing else; they do not tell a folder from a file.
-/

namespace Stencil

open Template

/-! ## 1. Changes to what is kept -/

section Explained

variable {disk : Disk} {known : Versions} {files : Files} {includes : IncludeCache}

theorem Explained.write (h : Explained disk known files includes) (address : FileAddress) (file : DiskFile) :
    Explained (if address.folder then disk else disk.update (·.write address.place.path file) address.place.root) known
      (files.write address file) includes := by
  obtain ⟨cache, rfl, htexts⟩ := h.texts
  exact ⟨⟨cache, (apply_ite (Files.disk · cache) ..).symm, htexts⟩, h.includes⟩

theorem Explained.delete (h : Explained disk known files includes) (address : FileAddress) :
    Explained (if address.folder then disk else disk.update (·.delete address.place.path) address.place.root) known
      (files.delete address) includes := by
  obtain ⟨cache, rfl, htexts⟩ := h.texts
  exact ⟨⟨cache, (apply_ite (Files.disk · cache) ..).symm, htexts⟩, h.includes⟩

theorem Explained.forget (h : Explained disk known files includes) (place : Location) :
    Explained disk known (files.forget place) includes := by
  obtain ⟨cache, rfl, htexts⟩ := h.texts
  refine ⟨⟨cache.erase place, rfl, fun other entry hentry => ?_⟩, h.includes⟩
  rw [Fields.get?_erase] at hentry
  split at hentry
  · cases hentry
  · exact htexts other entry hentry

theorem Explained.forgetAll (h : Explained disk known files includes) :
    Explained disk known files.forgetAll includes := by
  obtain ⟨cache, rfl, -⟩ := h.texts
  exact ⟨⟨[], rfl, fun _ _ hentry => nomatch hentry⟩, h.includes⟩

theorem Explained.erase (h : Explained disk known files includes) (place : Location) :
    Explained disk known files (includes.erase place) := by
  refine ⟨h.texts, fun other entry hentry => ?_⟩
  rw [Fields.get?_erase] at hentry
  split at hentry
  · cases hentry
  · exact h.includes other entry hentry

theorem Explained.nil (h : Explained disk known files includes) : Explained disk known files [] :=
  ⟨h.texts, fun _ _ hentry => nomatch hentry⟩

/-- What is forgotten by either cache need not be known any more. -/
theorem Explained.invalidate (h : Explained disk known files includes) (place : Location) :
    Explained disk (fun other modified text => known other modified text ∧ other ≠ place) (files.forget place)
      (includes.erase place) := by
  obtain ⟨cache, rfl, htexts⟩ := h.texts
  refine ⟨⟨cache.erase place, rfl, fun other entry hentry => ?_⟩, fun other entry hentry => ?_⟩
  · rw [Fields.get?_erase] at hentry
    split at hentry
    · cases hentry
    · next hne => exact ⟨htexts other entry hentry, Ne.symm hne⟩
  · rw [Fields.get?_erase] at hentry
    split at hentry
    · cases hentry
    · next hne =>
      obtain ⟨modified, text, hparsed, hknown⟩ := h.includes other entry hentry
      exact ⟨modified, text, hparsed, hknown, Ne.symm hne⟩

variable {engine : Engine} (hdisk : known.Include disk) (h : Explained disk known engine.files engine.includes)
include hdisk h

theorem Explained.render (now : Calendar.Instant) (source : String) (request : Request) (data : Value) (depth : Nat) :
    Explained disk known (engine.render now source request data depth).2.files
      (engine.render now source request data depth).2.includes :=
  ((Render.respected_explained hdisk).nodes (engine.environment now) _ trivial (engine.start request data) [] h).1

theorem Explained.evaluate (now : Calendar.Instant) (source : String) (data : Value) :
    Explained disk known (engine.evaluate now source data).2.files (engine.evaluate now source data).2.includes :=
  ((Render.respected_explained hdisk).value (engine.environment now) trivial (engine.start {} data) [] h).1

end Explained

namespace Service

/-! ## 2. Events -/

/-- What can happen to a service and to the files under it. -/
inductive Event where
  | write (address : FileAddress) (file : DiskFile)
  | delete (address : FileAddress)
  | render (now : Calendar.Instant) (source : String) (request : Request) (data : Value) (depth : Nat)
  | evaluate (now : Calendar.Instant) (source : String) (data : Value)
  | respond (now : Calendar.Instant) (method : String) (uri : Http.Uri) (headers : Http.Headers) (body : String)
  | reload (config : Config)
  | refresh (content : Option String)
  | forgetInclude (place : Location)
  | forgetIncludes
  | forgetFile (place : Location)
  | forgetFiles
  | invalidate (place : Location)

/-- The service after an event. -/
def perform (service : Service) : Event → Service
  | .write address file =>
    { service with engine := { service.engine with files := service.engine.files.write address file } }
  | .delete address =>
    { service with engine := { service.engine with files := service.engine.files.delete address } }
  | .render now source request data depth =>
    { service with engine := (service.engine.render now source request data depth).2 }
  | .evaluate now source data => { service with engine := (service.engine.evaluate now source data).2 }
  | .respond now method uri headers body => (service.respond now method uri headers body).2
  | .reload config => { service with engine := service.engine.reload config }
  | .refresh content => (service.refresh content).2
  | .forgetInclude place => { service with engine := service.engine.forgetInclude place }
  | .forgetIncludes => { service with engine := service.engine.forgetIncludes }
  | .forgetFile place => { service with engine := service.engine.forgetFile place }
  | .forgetFiles => { service with engine := service.engine.forgetFiles }
  | .invalidate place => service.invalidate place

/-- The service after one event after another. -/
def after (service : Service) (events : List Event) : Service := events.foldl perform service

/-- The disk under a service. -/
def disk (service : Service) : Disk :=
  match service.engine.files with
  | .disk d _ => d
  | .memory _ => default

/-- A disk after an event. Files are written and deleted; nothing else that happens to a service changes the disk. -/
def alter (disk : Disk) : Event → Disk
  | .write address file =>
    if address.folder then disk else disk.update (·.write address.place.path file) address.place.root
  | .delete address =>
    if address.folder then disk else disk.update (·.delete address.place.path) address.place.root
  | _ => disk

theorem after_append (service : Service) (before events : List Event) :
    service.after (before ++ events) = (service.after before).after events := List.foldl_append

theorem after_concat (service : Service) (events : List Event) (event : Event) :
    service.after (events ++ [event]) = (service.after events).perform event := by
  rw [after_append]
  rfl

/-! ## 3. What was there since the last invalidation -/

/-- The versions of files that were on disk at some point of the course of events, or at its end, and have not been
invalidated since. -/
def shown (service : Service) (events : List Event) : Versions := fun place modified text =>
  ∃ before later, events = before ++ later ∧ .invalidate place ∉ later ∧
    (service.after before).disk.modified? place = some modified ∧
    (service.after before).disk.text? place = some text

/-- Since it was last invalidated, no file has had another text under the time that it has in the end. Locations with
steps up are not looked at. -/
def FilesFaithful (service : Service) (events : List Event) : Prop :=
  ∀ (place : Location) (before later : List Event) (old new : DiskFile), ".." ∉ place.path → events = before ++ later →
    .invalidate place ∉ later → (service.after before).disk.file? place = some old →
    (service.after events).disk.file? place = some new → old.modified = new.modified → old.text? = new.text?

/-- What is at a place in the end, file or folder, does not pass for another file that was there since the place was
last invalidated. -/
structure Faithful (service : Service) (events : List Event) : Prop where
  /-- A file is told from its other texts by its time. -/
  files : service.FilesFaithful events
  /-- A folder that has taken the place of a file does not show a time that the file had. -/
  folders : ∀ (place : Location) (before later : List Event) (old : DiskFile), ".." ∉ place.path →
    events = before ++ later → .invalidate place ∉ later → (service.after before).disk.file? place = some old →
    (service.after events).disk.file? place = none → (service.after events).disk.modified? place ≠ some old.modified

variable {service : Service} {events : List Event}

/-- What is on disk in the end is among the versions. -/
theorem include_shown : (service.shown events).Include (service.after events).disk := by
  intro place modified text hmodified htext
  exact ⟨events, [], by simp, by simp, hmodified, htext⟩

/-- The versions stay the same over any event but their invalidation, and more may come. -/
theorem shown_concat {event : Event} {place : Location} {modified : Int} {text : String}
    (h : service.shown events place modified text) (hevent : event ≠ .invalidate place) :
    service.shown (events ++ [event]) place modified text := by
  obtain ⟨before, later, rfl, hlater, hshown⟩ := h
  refine ⟨before, later ++ [event], by simp, fun hmem => ?_, hshown⟩
  rcases List.mem_append.mp hmem with hmem | hmem
  · exact hlater hmem
  · exact hevent (List.mem_singleton.mp hmem).symm

/-- Where nothing has happened, nothing passes for anything else. -/
theorem filesFaithful_nil (service : Service) : service.FilesFaithful [] := by
  intro place before later old new _ hsplit _ hold hnew _
  obtain ⟨rfl, -⟩ := List.append_eq_nil_iff.mp hsplit.symm
  rw [hold] at hnew
  cases hnew
  rfl

theorem Faithful.current (h : service.Faithful events) {place : Location} {modified : Int} {text : String}
    (hshown : service.shown events place modified text) : (service.after events).disk.Current place modified text := by
  obtain ⟨before, later, hsplit, hlater, hmodified, htext⟩ := hshown
  intro hplace hnow
  obtain ⟨old, hold, htext⟩ := Option.bind_eq_some_iff.mp htext
  have htime : some old.modified = some modified := by
    rw [← Disk.modified?_of_file? hold, hmodified]
  rw [← htime] at hnow
  cases hnew : (service.after events).disk.file? place with
  | some new =>
    rw [Disk.modified?_of_file? hnew] at hnow
    have hsame := h.files place before later old new hplace hsplit hlater hold hnew (Option.some.inj hnow).symm
    rw [Disk.text?, hnew, Option.bind_some, ← hsame, htext]
  | none => exact absurd hnow (h.folders place before later old hplace hsplit hlater hold hnew)

/-! ## 4. What a service keeps -/

/-- An answer leaves the service as it was, or as it is after a render. -/
theorem respond_cases (service : Service) (now : Calendar.Instant) (method : String) (uri : Http.Uri)
    (headers : Http.Headers) (body : String) :
    (service.respond now method uri headers body).2 = service ∨
      ∃ source request data, (service.respond now method uri headers body).2 =
        { service with engine := (service.engine.render now source request data 0).2 } := by
  have hrender : (service.render now uri headers body).2 = service ∨
      ∃ source request data, (service.render now uri headers body).2 =
        { service with engine := (service.engine.render now source request data 0).2 } := by
    unfold render
    dsimp only
    split
    · exact .inl rfl
    · exact .inr ⟨_, _, _, rfl⟩
    · exact .inr ⟨_, _, _, rfl⟩
    · exact .inl rfl
  show (service.answer now method uri headers body).2 = service ∨ ∃ source request data,
    (service.answer now method uri headers body).2 =
      { service with engine := (service.engine.render now source request data 0).2 }
  unfold answer
  dsimp only
  split
  · exact .inl rfl
  · exact .inl rfl
  · split
    · exact hrender
    · exact .inl rfl
  · exact .inl rfl

theorem refresh_cases (service : Service) (content : Option String) :
    (service.refresh content).2 = service ∨
      ∃ config, (service.refresh content).2 = { service with engine := service.engine.reload config } := by
  unfold refresh
  split
  · exact .inl rfl
  · split
    · exact .inr ⟨_, rfl⟩
    · exact .inl rfl

/-- All that a service has kept of files is known. -/
def Keeps (service : Service) (known : Versions) : Prop :=
  Explained service.disk known service.engine.files service.engine.includes

variable {known : Versions}

theorem disk_eq_of_explained {disk : Disk}
    (h : Explained disk known service.engine.files service.engine.includes) : service.disk = disk := by
  obtain ⟨cache, hfiles, -⟩ := h.texts
  rw [Service.disk, hfiles]

theorem keeps_of_explained {disk : Disk}
    (h : Explained disk known service.engine.files service.engine.includes) : service.Keeps known := by
  rw [Keeps, disk_eq_of_explained h]
  exact h

theorem explained_unless_invalidated {disk : Disk} {files : Files} {includes : IncludeCache} {event : Event}
    (h : Explained disk known files includes) (hevent : ∀ place, event ≠ .invalidate place) :
    Explained disk (fun place modified text => known place modified text ∧ event ≠ .invalidate place) files includes :=
  h.imp fun place _ _ hknown => ⟨hknown, hevent place⟩

/-- What is kept after an event is known, if all that is on disk is, and has not been invalidated by the event. -/
theorem explained_perform {disk : Disk} (h : Explained disk known service.engine.files service.engine.includes)
    (hdisk : known.Include disk) (event : Event) :
    Explained (alter disk event) (fun place modified text => known place modified text ∧ event ≠ .invalidate place)
      (service.perform event).engine.files (service.perform event).engine.includes := by
  have hrender := Explained.render hdisk h
  cases event with
  | write address file => exact explained_unless_invalidated (h.write address file) nofun
  | delete address => exact explained_unless_invalidated (h.delete address) nofun
  | render now source request data depth =>
    exact explained_unless_invalidated (hrender now source request data depth) nofun
  | evaluate now source data => exact explained_unless_invalidated (Explained.evaluate hdisk h now source data) nofun
  | respond now method uri headers body =>
    refine explained_unless_invalidated ?_ nofun
    show Explained disk known (service.respond now method uri headers body).2.engine.files
      (service.respond now method uri headers body).2.engine.includes
    rcases service.respond_cases now method uri headers body with hsame | ⟨source, request, data, hrendered⟩
    · rw [hsame]
      exact h
    · rw [hrendered]
      exact hrender now source request data 0
  | reload config => exact explained_unless_invalidated h nofun
  | refresh content =>
    refine explained_unless_invalidated ?_ nofun
    show Explained disk known (service.refresh content).2.engine.files (service.refresh content).2.engine.includes
    rcases service.refresh_cases content with hsame | ⟨config, hreloaded⟩
    · rw [hsame]
      exact h
    · rw [hreloaded]
      exact h
  | forgetInclude place => exact explained_unless_invalidated (h.erase place) nofun
  | forgetIncludes => exact explained_unless_invalidated h.nil nofun
  | forgetFile place => exact explained_unless_invalidated (h.forget place) nofun
  | forgetFiles => exact explained_unless_invalidated h.forgetAll nofun
  | invalidate place =>
    refine (h.invalidate place).imp fun other _ _ hother => ⟨hother.1, ?_⟩
    rintro ⟨⟩
    exact hother.2 rfl

section FromStart

variable {disk : Disk} (hfiles : service.engine.files = .disk disk []) (hincludes : service.engine.includes = [])
include hfiles hincludes

/-- Whatever happens, all that is kept was on disk at some point and has not been invalidated since. -/
theorem explained_after (events : List Event) :
    Explained (events.foldl alter disk) (service.shown events) (service.after events).engine.files
      (service.after events).engine.includes := by
  induction events using List.reverseRecOn with
  | nil =>
    show Explained disk (service.shown []) service.engine.files service.engine.includes
    rw [hfiles, hincludes]
    exact ⟨⟨[], rfl, fun _ _ hentry => nomatch hentry⟩, fun _ _ hentry => nomatch hentry⟩
  | append_singleton events event ih =>
    have hdisk : (service.shown events).Include (events.foldl alter disk) :=
      disk_eq_of_explained ih ▸ include_shown
    rw [after_concat, List.foldl_concat]
    exact (explained_perform ih hdisk event).imp fun _ _ _ hshown => shown_concat hshown.1 hshown.2

/-- The disk in the end is what has been written to it. -/
theorem disk_after (events : List Event) : (service.after events).disk = events.foldl alter disk :=
  disk_eq_of_explained (explained_after hfiles hincludes events)

theorem keeps_shown (events : List Event) : (service.after events).Keeps (service.shown events) :=
  keeps_of_explained (explained_after hfiles hincludes events)

end FromStart

/-! ## 5. Coherence -/

/-- In a state that begins with what a service has kept, what is kept is right. -/
theorem Keeps.coherent (h : service.Keeps service.disk.Current) (request : Request) (data : Value) :
    Render.Coherent service.disk (service.engine.start request data) := h

/-- **Includes are what is on disk.** A service starts with nothing kept of its files. Whatever happens to it and to
the files, as long as no file shows a time under which it has had another text since it was last invalidated, and no
folder in the place of a file shows a time that the file had, every include in a render, down to the limit of depth,
expands the text that is now in the first root that has its path, and it is not found exactly when there is no such root
or no text to read. This holds at all moments of the render, and it holds in a value as well: what is kept is right when
it begins, and stays right over whatever is rendered. (Only a render that was given up reads nothing any more, and comes
to nothing.) -/
theorem includes_coherent {disk : Disk} (hfiles : service.engine.files = .disk disk [])
    (hincludes : service.engine.includes = []) (events : List Event) (hfaithful : service.Faithful events) :
    let later := service.after events
    (∀ (now : Calendar.Instant) (source : String) (request : Request) (data : Value) (depth : Nat),
      let env := later.engine.environment now
      let page := Template.parse source
      let start := later.engine.start request data
      let course := Render.moments env (env.maxDepth - depth) page page.nodes start
      course.1 = (Render.template env depth page).exec start ∧
      ∀ moment ∈ course.2, moment.state.abandoned = false → ∀ (layer : Layer Id) (args : Args),
        args.require 1 = .ok () → Render.IncludeCurrent later.disk env layer args moment.state) ∧
    (∀ request data, Render.Coherent later.disk (later.engine.start request data)) ∧
    ∀ state, Render.Coherent later.disk state → Render.StaysCoherent later.disk state ∧
      (state.abandoned = false → ∀ env (layer : Layer Id) (args : Args), args.require 1 = .ok () →
        Render.IncludeCurrent later.disk env layer args state) := by
  intro later
  have hkeeps : later.Keeps later.disk.Current :=
    Explained.imp (keeps_shown hfiles hincludes events) fun _ _ _ hshown => hfaithful.current hshown
  refine ⟨fun now source request data depth => ?_, hkeeps.coherent, fun state h => ⟨h.staysCoherent, ?_⟩⟩
  · intro env page start course
    obtain ⟨hsame, hmoments, -⟩ := Render.holds_at_moments (Render.invariant_explained later.disk.current_include env)
      (env.maxDepth - depth) page page.nodes start (hkeeps.coherent request data)
    refine ⟨hsame, fun moment hmoment hlive layer args hargs => ?_⟩
    exact Render.Coherent.includeCurrent (hmoments moment hmoment) hlive env layer hargs
  · intro hlive env layer args hargs
    exact h.includeCurrent hlive env layer hargs

/-! ## 6. A file that is overwritten -/

/-- A disk with one file, of the time 5. -/
def sampleDisk (text : String) : Disk := { roots := [⟨[[]], [(["a"], ⟨some text, 5⟩)]⟩] }

/-- The place of that file. -/
def sampleFile : Location := ⟨some 0, ["a"]⟩

/-- A service on that disk. -/
def sampleService : Service := ⟨.new [] {} [] (.disk (sampleDisk "one") []), none, ["templates"]⟩

/-- A render that includes the file. -/
def sampleRender : Event := .render ⟨0, 0⟩ "\x7b\x7bfile.include 'a'\x7d\x7d" {} .null 0

/-- The file is overwritten, and keeps its time. -/
def sampleWrite : Event := .write ⟨sampleFile, false⟩ ⟨some "two", 5⟩

/-- There is no other file on that disk. -/
theorem file?_sampleDisk {text : String} {place : Location} {file : DiskFile} (hplace : ".." ∉ place.path)
    (h : (sampleDisk text).file? place = some file) : place = sampleFile := by
  obtain ⟨hroot, hlisted⟩ := Disk.file?_of_oneRoot rfl rfl hplace h
  have hpath : place.path = ["a"] := congrArg Prod.fst (List.mem_singleton.mp (Fields.mem_of_get? hlisted))
  obtain ⟨root, path⟩ := place
  cases hroot
  cases hpath
  rfl

/-- Up to the overwriting there is the first text, but then the invalidation is still to come. -/
theorem disk_sampleService {before later : List Event}
    (hsplit : [sampleRender, sampleWrite, .invalidate sampleFile] = before ++ later) :
    (sampleService.after before).disk = sampleDisk "one" ∧ .invalidate sampleFile ∈ later ∨
      (sampleService.after before).disk = sampleDisk "two" := by
  rw [disk_after rfl rfl]
  simp only [List.cons_eq_append_iff, List.nil_eq_append_iff] at hsplit
  rcases hsplit with ⟨rfl, rfl⟩ | ⟨_, rfl, ⟨rfl, rfl⟩ | ⟨_, rfl, ⟨rfl, rfl⟩ | ⟨_, rfl, rfl, rfl⟩⟩⟩
  · exact .inl ⟨rfl, by simp⟩
  · exact .inl ⟨rfl, by simp⟩
  · exact .inr rfl
  · exact .inr rfl

theorem faithful_sampleService : sampleService.Faithful [sampleRender, sampleWrite, .invalidate sampleFile] := by
  have hend : (sampleService.after [sampleRender, sampleWrite, .invalidate sampleFile]).disk = sampleDisk "two" := by
    rw [disk_after rfl rfl]
    rfl
  refine ⟨fun place before later old new hplace hsplit hlater hold hnew _ => ?_,
    fun place before later old hplace hsplit _ hold hnone => ?_⟩
  · rw [hend] at hnew
    rcases disk_sampleService hsplit with ⟨-, hinvalidated⟩ | htwo
    · rw [file?_sampleDisk hplace hnew] at hlater
      exact absurd hinvalidated hlater
    · rw [htwo, hnew] at hold
      cases hold
      rfl
  · -- the file is never gone
    have hfile : place = sampleFile := by
      rcases disk_sampleService hsplit with ⟨hone, -⟩ | htwo
      · exact file?_sampleDisk hplace (hone ▸ hold)
      · exact file?_sampleDisk hplace (htwo ▸ hold)
    rw [hend, hfile] at hnone
    cases hnone

/-- Although the include had been parsed before, and the file has the time that it had, its second text is expanded. -/
theorem includes_coherent_sampleService :
    let events : List Event := [sampleRender, sampleWrite, .invalidate sampleFile]
    let args : Args := ⟨"file.include", [.string "a"], []⟩
    let start := (sampleService.after events).engine.start {} .null
    sampleService.Faithful events ∧
    Fields.keys (sampleService.after [sampleRender]).engine.includes = [sampleFile] ∧
    ∀ env (layer : Layer Id), ∃ files includes,
      (Render.exec (Expand.includeFile env (some layer) args).run start).1 =
        .ok (Render.exec (Render.withFrame [] (layer (.parse "two") (Template.parse "two").nodes))
          { start with files, includes }).1 := by
  intro events args start
  refine ⟨faithful_sampleService, by decide +kernel, fun env layer => ?_⟩
  obtain ⟨-, hstart, hstate⟩ := includes_coherent rfl rfl events faithful_sampleService
  have hlive : start.abandoned = false := rfl
  have hinclude := (hstate start (hstart {} .null)).2 hlive env layer args rfl
  rw [disk_after rfl rfl] at hinclude
  have hpicks : (sampleDisk "two").PicksRoot ["a"] 0 :=
    ⟨⟨_, rfl, rfl⟩, fun j root hj => absurd hj (Nat.not_lt_zero j)⟩
  have hname : Path.normalize "a" = .ok ["a"] := by with_unfolding_all rfl
  obtain ⟨files, includes, -, hrun⟩ := hinclude.found hname hpicks rfl
  exact ⟨files, includes, by rw [hrun]⟩

/-! ## 7. What else may pass for a file -/

/-- What the render of the example shows. -/
def sampleText? (service : Service) : Option String :=
  (service.engine.render ⟨0, 0⟩ "\x7b\x7bfile.include 'a'\x7d\x7d" {} .null 0).1.map (·.text)

/-- The service of the example, where folders show the time of its file. -/
def folderService : Service :=
  ⟨.new [] {} [] (.disk { sampleDisk "one" with folderTime := 5 } []), none, ["templates"]⟩

/-- The file is deleted, and a folder takes its place. -/
def folderEvents : List Event :=
  [sampleRender, .delete ⟨sampleFile, false⟩, .write ⟨⟨some 0, ["a", "b"]⟩, false⟩ ⟨some "below", 7⟩]

/-- A service that includes files, but not what they include in turn. -/
def shallowService : Service :=
  let root : Root :=
    ⟨[[]], [(["a"], ⟨some "[\x7b\x7bfile.include 'b'\x7d\x7d]", 5⟩), (["b"], ⟨some "B", 5⟩)]⟩
  ⟨.new [] { template.maxIncludeDepth := 1 } [] (.disk { roots := [root] } []), none, ["templates"]⟩

/-- All the files of these events. -/
def folderFiles : Fields DiskFile Path := [(["a"], ⟨some "one", 5⟩), (["a", "b"], ⟨some "below", 7⟩)]

/-- At any time, what there is at a path is the one file that it ever has. -/
theorem file?_folderService {past : List Event} {place : Location} {file : DiskFile} (hpast : past <+: folderEvents)
    (hplace : ".." ∉ place.path) (h : (folderService.after past).disk.file? place = some file) :
    Fields.get? place.path folderFiles = some file := by
  suffices hroot : ∃ root, (folderService.after past).disk.roots = [root] ∧
      (folderService.after past).disk.outside = .missing ∧ root.files ⊆ folderFiles by
    obtain ⟨root, hroots, houtside, hfiles⟩ := hroot
    obtain ⟨-, hlisted⟩ := Disk.file?_of_oneRoot hroots houtside hplace h
    exact Fields.get?_of_mem (by decide) (hfiles (Fields.mem_of_get? hlisted))
  clear h
  obtain ⟨later, hsplit⟩ := hpast
  replace hsplit := hsplit.symm
  rw [disk_after rfl rfl]
  simp only [folderEvents, List.cons_eq_append_iff, List.nil_eq_append_iff] at hsplit
  rcases hsplit with ⟨rfl, -⟩ | ⟨_, rfl, ⟨rfl, -⟩ | ⟨_, rfl, ⟨rfl, -⟩ | ⟨_, rfl, rfl, -⟩⟩⟩
  · exact ⟨⟨[[]], [(["a"], ⟨some "one", 5⟩)]⟩, rfl, rfl, by simp [folderFiles]⟩
  · exact ⟨⟨[[]], [(["a"], ⟨some "one", 5⟩)]⟩, rfl, rfl, by simp [folderFiles]⟩
  · exact ⟨⟨[[]], []⟩, rfl, rfl, List.nil_subset _⟩
  · exact ⟨⟨[[], ["a"]], [(["a", "b"], ⟨some "below", 7⟩)]⟩, rfl, rfl, by simp [folderFiles]⟩

/-- **Neither folders nor the limit can be left out.** A file is included and deleted, and the folder that takes its
place shows its time: no file ever has two texts under one time, and there is nothing to read at the place, but the text
that was read is expanded once more. And where there is one level and no more, an include in an included file stays as
it is written, although its file is there and can be read. -/
theorem not_every_include_current :
    let later := folderService.after folderEvents
    ((∀ past, past <+: folderEvents → folderService.FilesFaithful past) ∧
      later.disk.resolve "a" = .ok sampleFile ∧ later.disk.text? sampleFile = none ∧
      sampleText? later = some "one") ∧
    shallowService.FilesFaithful [] ∧
      shallowService.disk.resolve "b" = .ok ⟨some 0, ["b"]⟩ ∧ shallowService.disk.text? ⟨some 0, ["b"]⟩ = some "B" ∧
      sampleText? shallowService = some "[\x7b\x7bfile.include 'b'\x7d\x7d]" := by
  intro later
  have hend : later.disk = folderEvents.foldl alter folderService.disk := disk_after rfl rfl _
  refine ⟨⟨fun past hpast => ?_, ?_, ?_, by decide +kernel⟩, filesFaithful_nil _, ?_, rfl, by decide +kernel⟩
  · intro place before later old new hplace hsplit _ hold hnew _
    have hbefore : before <+: folderEvents := (List.prefix_append before later).trans (hsplit ▸ hpast)
    have hone := (file?_folderService hbefore hplace hold).symm.trans (file?_folderService hpast hplace hnew)
    rw [Option.some.inj hone]
  · rw [hend]
    with_unfolding_all rfl
  · rw [hend]
    rfl
  · with_unfolding_all rfl

end Service

end Stencil
