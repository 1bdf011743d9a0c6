import Stencil.Proofs.Service.Coherence
import Stencil.Service.Shared

/-!
Renewals of the configuration.

The configuration file is edited while the service runs: it is given other texts, good and bad ones, it is deleted, or
nobody may read it. Now and then the configuration is renewed, and meanwhile there are renders and whatever else happens
to a service. What is in use is spelled by the document that was read when a load went well for the last time, and a
renewal that fails leaves nothing behind, not even the mark that it was under way.

All of this is one invariant (`Scene.Live`), which every turn keeps with the document that was read last.
-/

namespace Stencil

/-! ## 1. Documents -/

/-- What there is of a configuration file. -/
inductive Document where
  | missing
  | unreadable
  | text (content : String)

namespace Document

/-- The text, if it can be read. -/
def content? : Document → Option String
  | .text content => some content
  | _ => none

/-- Under the name of a file, the document spells a configuration in the format that the ending of the name means. -/
inductive Spells (file : Path) : Document → Config → Prop
  | toml {content : String} {config : Config} (ending : Config.ending? file = some "toml")
      (read : Config.ofTomlText? content = some config) : Spells file (.text content) config
  | json {content : String} {config : Config} (ending : Config.ending? file = some "json")
      (read : Config.ofJsonText? content = some config) : Spells file (.text content) config

variable {file : Path} {document : Document} {config : Config}

/-- A file is read as the configuration that it spells. -/
theorem ofFile_eq_ok_iff : Config.ofFile file document.content? = .ok config ↔ document.Spells file config := by
  constructor
  · intro h
    rw [Config.ofFile] at h
    simp only at h
    cases document with
    | missing => split at h <;> cases h
    | unreadable => split at h <;> cases h
    | text content =>
      simp only [content?] at h
      split at h
      · next ending =>
        split at h
        · next read =>
          cases h
          exact .toml ending read
        · cases h
      · next ending =>
        split at h
        · next read =>
          cases h
          exact .json ending read
        · cases h
      · cases h
  · intro h
    cases h with
    | toml ending read => simp [Config.ofFile, content?, ending, read]
    | json ending read => simp [Config.ofFile, content?, ending, read]

/-- What spells nothing is missing, cannot be read, or has a text that is no configuration. -/
theorem forall_not_spells_iff :
    (∀ config, ¬ document.Spells file config) ↔
      document = .missing ∨ document = .unreadable ∨
        ∃ content, document = .text content ∧ ∀ config, ¬ (Document.text content).Spells file config := by
  cases document with
  | missing => simpa using fun config h => by cases h
  | unreadable => simpa using fun config h => by cases h
  | text content => simp

end Document

/-! ## 2. Turns -/

namespace Service

/-- The event puts another configuration to use. -/
def Event.Renews : Event → Prop
  | .reload _ | .refresh _ => True
  | _ => False

/-- What happens to a service otherwise leaves its configuration in use, and where it comes from. -/
theorem perform_configured (service : Service) {event : Event} (h : ¬ event.Renews) :
    (service.perform event).engine.snapshot = service.engine.snapshot ∧
      (service.perform event).configFile = service.configFile := by
  cases event with
  | reload config => exact absurd trivial h
  | refresh content => exact absurd trivial h
  | respond now method uri headers body =>
    rcases service.respond_cases now method uri headers body with hsame | ⟨source, request, data, hrendered⟩
    · rw [perform, hsame]
      exact ⟨rfl, rfl⟩
    · rw [perform, hrendered]
      exact ⟨rfl, rfl⟩
  | _ => exact ⟨rfl, rfl⟩

/-- A service that starts has the configuration in its file. -/
theorem start_eq_ok {source : ConfigSource} {names : List String} {disk : Disk} {locales : Option Root}
    {service : Service} (h : start (some source) names disk locales = .ok service) :
    ∃ config messages, Config.ofFile source.file source.content = .ok config ∧
      service = ⟨.new [] config messages (.disk disk []), some source.file, names⟩ := by
  cases hread : Config.ofFile source.file source.content with
  | error e =>
    simp only [start, hread] at h
    cases h
  | ok config =>
    simp only [start, hread, pure_bind] at h
    split at h
    · cases h
    · split at h
      · cases h
        exact ⟨config, [], rfl, rfl⟩
      · next folder =>
        cases hmessages : loadLocales folder with
        | error e =>
          rw [hmessages] at h
          cases h
        | ok messages =>
          rw [hmessages] at h
          cases h
          exact ⟨config, messages, rfl, rfl⟩

end Service

/-- A shared service and its configuration file as it is. -/
structure Scene where
  shared : SharedService
  document : Document

/-- What can happen: the configuration file is edited, the configuration is renewed, or something else happens to the
service and the files under it. -/
inductive Turn where
  | edit (document : Document)
  | refresh
  | other (event : Service.Event) (keeps : ¬ event.Renews)

namespace Scene

/-- What a renewal comes to, if there is one now. -/
def renewal (scene : Scene) : SharedService.Attempt := (scene.shared.refresh scene.document.content?).1

/-- The scene after a turn. -/
def step (scene : Scene) : Turn → Scene
  | .edit document => { scene with document }
  | .refresh => { scene with shared := (scene.shared.refresh scene.document.content?).2 }
  | .other event _ => { scene with shared.service := scene.shared.service.perform event }

/-- The scene after one turn after another. -/
def after (scene : Scene) (turns : List Turn) : Scene := turns.foldl step scene

/-- The document that was loaded last, after a turn. -/
def loaded (scene : Scene) (last : Document) : Turn → Document
  | .refresh => if scene.renewal = .done .reloaded then scene.document else last
  | _ => last

/-- The document that was loaded last, after one turn after another. -/
def lastLoaded (scene : Scene) (last : Document) : List Turn → Document
  | [] => last
  | turn :: turns => (scene.step turn).lastLoaded (scene.loaded last turn) turns

/-! ## 3. What is in use -/

/-- Where there is a configuration file and no renewal under way, a shared service is renewed as the service is. -/
theorem refresh_of_idle (engine : Engine) (file : Path) (names : List String) (content : Option String) :
    SharedService.refresh ⟨⟨engine, some file, names⟩, false⟩ content =
      (.done (Service.refresh ⟨engine, some file, names⟩ content).1,
        ⟨(Service.refresh ⟨engine, some file, names⟩ content).2, false⟩) := rfl

/-- No renewal is under way, and the configuration in use is spelled by the document that was loaded last. -/
structure Live (file : Path) (scene : Scene) (last : Document) : Prop where
  named : scene.shared.service.configFile = some file
  idle : scene.shared.renewing = false
  spelled : ∃ config, last.Spells file config ∧ scene.shared.service.engine.snapshot = .ofConfig config

variable {file : Path} {scene : Scene} {last : Document}

/-- A renewal goes well with a document that spells a configuration, which is put to use. With any other document it
fails, and leaves everything as it is. -/
theorem Live.refresh_cases (h : scene.Live file last) :
    (∃ config, scene.document.Spells file config ∧ scene.renewal = .done .reloaded ∧
      scene.step .refresh = { scene with shared.service.engine := scene.shared.service.engine.reload config }) ∨
    ((∀ config, ¬ scene.document.Spells file config) ∧ scene.renewal = .done .failed ∧
      scene.step .refresh = scene) := by
  obtain ⟨⟨⟨engine, configFile, names⟩, renewing⟩, document⟩ := scene
  obtain rfl : renewing = false := h.idle
  obtain rfl : configFile = some file := h.named
  cases hread : Config.ofFile file document.content? with
  | ok config =>
    have hservice : Service.refresh ⟨engine, some file, names⟩ document.content? =
        (.reloaded, ⟨engine.reload config, some file, names⟩) := by simp only [Service.refresh, hread]
    left
    refine ⟨config, Document.ofFile_eq_ok_iff.mp hread, ?_⟩
    rw [renewal, Scene.step, refresh_of_idle, hservice]
    exact ⟨rfl, rfl⟩
  | error e =>
    have hservice : Service.refresh ⟨engine, some file, names⟩ document.content? =
        (.failed, ⟨engine, some file, names⟩) := by simp only [Service.refresh, hread]
    right
    refine ⟨fun config hspells => ?_, ?_⟩
    · rw [Document.ofFile_eq_ok_iff.mpr hspells] at hread
      cases hread
    · rw [renewal, Scene.step, refresh_of_idle, hservice]
      exact ⟨rfl, rfl⟩

/-- Every turn keeps what is in use with the document that was loaded last. -/
theorem Live.step (h : scene.Live file last) (turn : Turn) : (scene.step turn).Live file (scene.loaded last turn) := by
  cases turn with
  | edit document => exact ⟨h.named, h.idle, h.spelled⟩
  | refresh =>
    rw [loaded]
    rcases h.refresh_cases with ⟨config, hspells, hreloaded, hafter⟩ | ⟨-, hfailed, hafter⟩
    · rw [hafter, if_pos hreloaded]
      exact ⟨h.named, h.idle, config, hspells, rfl⟩
    · rw [hafter, if_neg (by rw [hfailed]; decide)]
      exact h
  | other event keeps =>
    obtain ⟨hsnapshot, hfile⟩ := scene.shared.service.perform_configured keeps
    obtain ⟨config, hspells, hlive⟩ := h.spelled
    exact ⟨hfile.trans h.named, h.idle, config, hspells, hsnapshot.trans hlive⟩

theorem Live.after (h : scene.Live file last) (turns : List Turn) :
    (scene.after turns).Live file (scene.lastLoaded last turns) := by
  -- from the front, as `lastLoaded` goes through the turns with the document that was loaded so far
  induction turns generalizing scene last with
  | nil => exact h
  | cons turn turns ih => exact ih (h.step turn)

/-- A service starts with the configuration that its file spells. -/
theorem live_of_start {document : Document} {names : List String} {disk : Disk} {locales : Option Root}
    {shared : SharedService}
    (h : SharedService.start (some ⟨file, document.content?⟩) names disk locales = .ok shared) :
    Live file ⟨shared, document⟩ document := by
  rw [SharedService.start] at h
  cases hservice : Service.start (some ⟨file, document.content?⟩) names disk locales with
  | error e =>
    rw [hservice] at h
    cases h
  | ok service =>
    rw [hservice] at h
    cases h
    obtain ⟨config, messages, hread, rfl⟩ := Service.start_eq_ok hservice
    exact ⟨rfl, rfl, config, Document.ofFile_eq_ok_iff.mp hread, rfl⟩

/-- **A bad configuration is never put to use.** Whatever happens after the start, the configuration in use is the one
that the document spells which was loaded last, at the start or by a renewal that went well. A renewal fails exactly
when its file is missing, cannot be read, or has a text that spells no configuration, and then everything is as it was
before: the configuration, the includes that were parsed, and what was read of files. It goes well otherwise, and is
never turned away. -/
theorem snapshot_of_lastLoaded {document : Document} {names : List String} {disk : Disk} {locales : Option Root}
    {shared : SharedService}
    (hstart : SharedService.start (some ⟨file, document.content?⟩) names disk locales = .ok shared)
    (turns : List Turn) :
    let start : Scene := ⟨shared, document⟩
    let now := start.after turns
    (∃ config, (start.lastLoaded document turns).Spells file config ∧
      now.shared.service.engine.snapshot = .ofConfig config) ∧
    (now.renewal = .done .failed ↔ now.document = .missing ∨ now.document = .unreadable ∨
      ∃ content, now.document = .text content ∧ ∀ config, ¬ (Document.text content).Spells file config) ∧
    (now.renewal = .done .failed → now.step .refresh = now) ∧
    (now.renewal = .done .reloaded ∨ now.renewal = .done .failed) := by
  intro start now
  have hlive := (live_of_start hstart).after turns
  refine ⟨hlive.spelled, ?_⟩
  rw [← Document.forall_not_spells_iff]
  rcases hlive.refresh_cases with ⟨config, hspells, hreloaded, -⟩ | ⟨hnothing, hfailed, hafter⟩
  · have hdone : now.renewal ≠ .done .failed := by
      rw [hreloaded]
      decide
    exact ⟨iff_of_false hdone fun hnothing => hnothing config hspells, fun hfailed => absurd hfailed hdone,
      .inl hreloaded⟩
  · exact ⟨iff_of_true hfailed hnothing, fun _ => hafter, .inr hfailed⟩

/-- A file that is broken and then renewed from leaves the configuration in use that it spelled at the start. -/
theorem snapshot_of_lastLoaded_broken :
    ∃ shared, SharedService.start (some ⟨["trellis.json"], some "\x7b\x7d"⟩) [] { roots := [] } none = .ok shared ∧
      let broken : Scene := ⟨shared, .text "\x7b"⟩
      broken.renewal = .done .failed ∧
      ∃ config, Document.Spells ["trellis.json"] (.text "\x7b\x7d") config ∧
        (broken.step .refresh).shared.service.engine.snapshot = .ofConfig config := by
  obtain ⟨given, hgiven⟩ : ∃ config, Config.ofJsonText? "\x7b\x7d" = some config :=
    Option.isSome_iff_exists.mp (by decide +kernel)
  have hbroken : Config.ofJsonText? "\x7b" = none := Option.isNone_iff_eq_none.mp (by decide +kernel)
  have hread : Config.ofFile ["trellis.json"] (some "\x7b\x7d") = .ok given :=
    Document.ofFile_eq_ok_iff.mpr (.json rfl hgiven)
  have hstart : SharedService.start (some ⟨["trellis.json"], some "\x7b\x7d"⟩) [] { roots := [] } none =
      .ok ⟨⟨.new [] given [] (.disk { roots := [] } []), some ["trellis.json"], []⟩, false⟩ := by
    simp only [SharedService.start, Service.start, hread]
    rfl
  refine ⟨_, hstart, ?_⟩
  intro broken
  have hnothing : ∀ config, ¬ Document.Spells ["trellis.json"] (.text "\x7b") config := by
    intro config hspells
    cases hspells with
    | toml ending read => exact absurd ending (by decide +kernel)
    | json ending read =>
      rw [hbroken] at read
      cases read
  have hlast := @snapshot_of_lastLoaded ["trellis.json"] (.text "\x7b\x7d") [] { roots := [] } none _ hstart
  have hfailed : broken.renewal = .done .failed :=
    (hlast [.edit (.text "\x7b")]).2.1.mpr (.inr (.inr ⟨_, rfl, hnothing⟩))
  have hkept : broken.loaded (.text "\x7b\x7d") .refresh = .text "\x7b\x7d" := by
    rw [loaded, if_neg (by rw [hfailed]; decide)]
  obtain ⟨config, hspells, hsnapshot⟩ := (hlast [.edit (.text "\x7b"), .refresh]).1
  exact ⟨hfailed, config, hkept ▸ hspells, hsnapshot⟩

end Scene

end Stencil
