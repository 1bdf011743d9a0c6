import Stencil.Proofs.Render.Relation

/-!
Parsed includes.

A parsed include serves again as long as the modification time of its file is the one it was read at. That this is
the file as it stands does not follow from the two times being the same: it takes that no two versions of a file,
of all that there ever were, have one time. So the includes are compared with the history of the files and not with
the files. An include that came from the history is right about every version of its time, whether the file has been
replaced since, taken away or put back.

With such includes, asking for a template comes to what reading and parsing the file would, and so the whole of a
render comes to the same whatever has been parsed before.
-/

namespace Stencil

open Template

/-! ## 1. Versions of files -/

/-- The versions of files that there ever were, by path. -/
abbrev History := Path → MemoryFile → Prop

/-- The include that a version of a file is parsed to. -/
def CachedInclude.ofFile (file : MemoryFile) : CachedInclude := ⟨.parse file.text, some (.ofNat file.time)⟩

namespace History

variable {history : History} {memory : MemoryFiles} {includes : IncludeCache}

/-- The files are part of the history, and it has no two versions of a file from the same time. -/
structure Dates (history : History) (memory : MemoryFiles) : Prop where
  present : ∀ path file, Fields.get? path memory.files = some file → history path file
  unique : ∀ path file other, history path file → history path other → file.time = other.time → file = other

/-- Every include was parsed from some version of its file. -/
def Explains (history : History) (includes : IncludeCache) : Prop :=
  ∀ place entry, Fields.get? place includes = some entry → ∃ file, history place.path file ∧ entry = .ofFile file

theorem explains_nil (history : History) : history.Explains [] := fun _ _ hentry => nomatch hentry

theorem Explains.insert (h : history.Explains includes) {place : Location} {file : MemoryFile}
    (hfile : history place.path file) : history.Explains (includes.insert place (.ofFile file)) := by
  intro other entry hentry
  rw [Fields.get?_insert] at hentry
  split at hentry
  · next hplace =>
    cases hentry
    exact ⟨file, hplace ▸ hfile, rfl⟩
  · exact h other entry hentry

theorem Explains.erase (h : history.Explains includes) (place : Location) :
    history.Explains (includes.erase place) := by
  intro other entry hentry
  rw [Fields.get?_erase] at hentry
  split at hentry
  · cases hentry
  · exact h other entry hentry

theorem Explains.imp (h : history.Explains includes) {longer : History}
    (himp : ∀ path file, history path file → longer path file) : longer.Explains includes := by
  intro place entry hentry
  obtain ⟨file, hfile, hparsed⟩ := h place entry hentry
  exact ⟨file, himp _ _ hfile, hparsed⟩

/-- An include with the time of its file is what that file is parsed to. -/
theorem Dates.parsed (hdates : history.Dates memory) (hexplains : history.Explains includes) {place : Location}
    {entry : CachedInclude} (hentry : Fields.get? place includes = some entry)
    (htime : entry.modified = (memory.time? place.path).map Int.ofNat) :
    (memory.text? place.path).map Template.parse = some entry.template := by
  obtain ⟨version, hversion, rfl⟩ := hexplains place entry hentry
  rw [MemoryFiles.time?] at htime
  rw [MemoryFiles.text?]
  cases hfile : Fields.get? place.path memory.files with
  | none =>
    rw [hfile] at htime
    cases htime
  | some file =>
    rw [hfile] at htime
    have hsame : version.time = file.time := Int.ofNat.inj (Option.some.inj htime)
    rw [hdates.unique place.path version file hversion (hdates.present _ _ hfile) hsame]
    rfl

end History

/-- What is asked of files in memory is what they have now, and all that it changes are the includes. -/
theorem RenderState.load_memory {history : History} {memory : MemoryFiles} {state : RenderState}
    (hdates : history.Dates memory) (hfiles : state.files = .memory memory)
    (hexplains : history.Explains state.includes) (useCache : Bool) (place : Location) :
    (state.load useCache place).1 =
        (if state.abandoned then none else (memory.text? place.path).map Template.parse) ∧
      ∃ includes, history.Explains includes ∧ (state.load useCache place).2 = { state with includes } := by
  obtain ⟨scope, components, chain, diagnostics, files, includes, abandoned⟩ := state
  cases hfiles
  cases abandoned with
  | true => exact ⟨rfl, includes, hexplains, rfl⟩
  | false =>
    unfold load
    simp only [Bool.false_eq_true, if_false]
    split
    · next entry hentry =>
      obtain ⟨hcached, htime⟩ := Option.filter_eq_some_iff.mp hentry
      split at hcached
      · exact ⟨(hdates.parsed hexplains hcached (eq_of_beq htime)).symm, includes, hexplains, rfl⟩
      · cases hcached
    · simp only [Files.read, Files.modified?, MemoryFiles.text?, MemoryFiles.time?]
      cases hfile : Fields.get? place.path memory.files with
      | none => exact ⟨rfl, includes, hexplains, rfl⟩
      | some file =>
        refine ⟨rfl, _, ?_, rfl⟩
        split
        · exact hexplains.insert (hdates.present _ _ hfile)
        · exact hexplains

/-! ## 2. Rendering -/

namespace Render

variable {history : History} {memory : MemoryFiles}

/-- The states differ in nothing but in the includes, and the history explains those of both. -/
def Alike (history : History) (memory : MemoryFiles) (state other : RenderState) : Prop :=
  state.files = .memory memory ∧ history.Explains state.includes ∧
    ∃ includes, history.Explains includes ∧ other = { state with includes }

/-- From states that are alike the parts come to the same, and to states that are alike. -/
def Agrees (history : History) (memory : MemoryFiles) : Relation Id Id := fun _ x y =>
  ∀ state other, Alike history memory state other →
    (x.exec state).1 = (y.exec other).1 ∧ Alike history memory (x.exec state).2 (y.exec other).2

/-- A change has no use for the includes and leaves the files alone. -/
structure Blind (change : RenderState → RenderState) : Prop where
  files : ∀ state, (change state).files = state.files
  includes : ∀ state includes, change { state with includes } = { change state with includes }

theorem Alike.change {state other : RenderState} (h : Alike history memory state other)
    (change : RenderState → RenderState) (hblind : Blind change) :
    Alike history memory (change state) (change other) := by
  obtain ⟨hfiles, hexplains, includes, hother, rfl⟩ := h
  have hincludes : (change state).includes = state.includes := by
    show (change { state with includes := state.includes }).includes = state.includes
    rw [hblind.includes]
  exact ⟨(hblind.files state).trans hfiles, hincludes ▸ hexplains, includes, hother, hblind.includes state includes⟩

/-- A step that makes no use of the includes. -/
theorem agrees_step {α : Type} {part : Render Id α} (hblind : Blind fun state => (part.exec state).2)
    (hsame : ∀ state includes, (part.exec { state with includes }).1 = (part.exec state).1) :
    Agrees history memory α part part := by
  intro state other h
  have hafter := h.change _ hblind
  obtain ⟨-, -, includes, -, rfl⟩ := h
  exact ⟨(hsame state includes).symm, hafter⟩

theorem agrees_pure {α : Type} (a : α) : Agrees history memory α (pure a) (pure a) :=
  agrees_step ⟨fun _ => rfl, fun _ _ => rfl⟩ fun _ _ => rfl

theorem agrees_bind {α β : Type} {x y : Render Id α} {f g : α → Render Id β} (hx : Agrees history memory α x y)
    (hf : ∀ a, Agrees history memory β (f a) (g a)) : Agrees history memory β (x >>= f) (y >>= g) := by
  intro state other h
  obtain ⟨hsame, hafter⟩ := hx state other h
  show (exec (f (x.exec state).1) (x.exec state).2).1 = (exec (g (y.exec other).1) (y.exec other).2).1 ∧
    Alike history memory (exec (f (x.exec state).1) (x.exec state).2).2
      (exec (g (y.exec other).1) (y.exec other).2).2
  rw [hsame]
  exact hf _ _ _ hafter

/-- A look at something that is not the includes. -/
theorem agrees_look {α β : Type} {look : RenderState → α} {f g : α → Render Id β}
    (hlook : ∀ state includes, look { state with includes } = look state)
    (hf : ∀ a, Agrees history memory β (f a) (g a)) :
    Agrees history memory β (get >>= fun state => f (look state)) (get >>= fun state => g (look state)) := by
  have hread : Agrees history memory α (look <$> get) (look <$> get) :=
    agrees_step ⟨fun _ => rfl, fun _ _ => rfl⟩ hlook
  show Agrees history memory β ((look <$> get) >>= f) ((look <$> get) >>= g)
  exact agrees_bind hread hf

theorem agrees_modify {change : RenderState → RenderState} (hblind : Blind change) :
    Agrees history memory Unit (modify change) (modify change) := agrees_step hblind fun _ _ => rfl

theorem agrees_scope : Agrees history memory Scope scope scope := agrees_look (fun _ _ => rfl) agrees_pure

theorem agrees_modifyScope (change : Scope → Scope) :
    Agrees history memory Unit (modifyScope change) (modifyScope change) :=
  agrees_modify ⟨fun _ => rfl, fun _ _ => rfl⟩

/-- What two caches hold does not matter: asking for a template comes to what its file has now. -/
theorem agrees_loadInclude (hdates : history.Dates memory) (useCache : Bool) (place : Location) :
    Agrees history memory (Option Template) (loadInclude useCache place) (loadInclude useCache place) := by
  rintro state _ ⟨hfiles, hexplains, includes, hother, rfl⟩
  obtain ⟨hresult, left, hleft, hafter⟩ := RenderState.load_memory hdates hfiles hexplains useCache place
  have hload := @RenderState.load_memory _ _ { state with includes } hdates hfiles hother useCache place
  obtain ⟨hresult', right, hright, hafter'⟩ := hload
  refine ⟨hresult.trans hresult'.symm, ?_⟩
  show Alike history memory (state.load useCache place).2
    (RenderState.load { state with includes } useCache place).2
  rw [hafter, hafter']
  exact ⟨hfiles, hleft, right, hright, rfl⟩

theorem respected_agrees (hdates : history.Dates memory) : Respected (Agrees history memory) fun _ _ => True where
  pure a := agrees_pure a
  bind hx hf := agrees_bind hx hf
  warn message := agrees_modify ⟨fun _ => rfl, fun _ _ => rfl⟩
  error message := agrees_modify ⟨fun _ => rfl, fun _ _ => rfl⟩
  abandonIf condition := agrees_modify ⟨fun _ => rfl, fun _ _ => rfl⟩
  scope := agrees_scope
  setVariables args := agrees_modifyScope _
  withFrame hx := by
    refine agrees_bind (agrees_modifyScope _) fun _ => agrees_bind hx fun text => ?_
    exact agrees_bind (agrees_modifyScope _) fun _ => agrees_pure text
  withIsolatedFrame hx := by
    refine agrees_bind (agrees_modifyScope _) fun _ => agrees_bind hx fun text => ?_
    exact agrees_bind (agrees_modifyScope _) fun _ => agrees_pure text
  inScope hx := by
    refine agrees_bind agrees_scope fun outer => agrees_bind (agrees_modifyScope _) fun _ => ?_
    refine agrees_bind hx fun text => agrees_bind agrees_scope fun own => ?_
    exact agrees_bind (agrees_modifyScope _) fun _ => agrees_pure (text, own)
  expanding {name x y} hx := by
    rintro state _ ⟨hfiles, hexplains, includes, hother, rfl⟩
    rw [exec, exec, Expand.run_expanding, Expand.run_expanding]
    cases hchain : state.chain.enter name with
    | error e => exact ⟨rfl, hfiles, hexplains, includes, hother, rfl⟩
    | ok chain =>
      obtain ⟨hsame, hafter⟩ := hx { state with chain } { state with chain, includes }
        ⟨hfiles, hexplains, includes, hother, rfl⟩
      refine ⟨hsame, ?_⟩
      exact hafter.change (fun after => { after with chain := after.chain.leave }) ⟨fun _ => rfl, fun _ _ => rfl⟩
  component? hnone hsome := by
    refine agrees_bind (agrees_look (fun _ _ => rfl) agrees_pure) fun c => ?_
    cases c with
    | none => exact hnone
    | some c => exact hsome c trivial
  define component _ _ := agrees_modify ⟨fun _ => rfl, fun _ _ => rfl⟩
  setting env := agrees_look (fun _ _ => rfl) agrees_pure
  resolve requested := agrees_look (fun _ _ => rfl) agrees_pure
  loadInclude {α useCache place f g} hnone hsome := by
    refine agrees_bind (agrees_loadInclude hdates useCache place) fun t => ?_
    cases t with
    | none => exact hnone
    | some t => exact hsome t trivial
  parse _ := trivial
  body _ _ := trivial
  inverse _ _ := trivial
  fragment _ := trivial

end Render

end Stencil
