import Stencil.Engine
import Stencil.Proofs.Filter.Influence

/-!
Hidden configuration.

A render gets at the site document in one way: as a part of the data that is filtered for the caller before
anything else happens to it. What is denied to the caller there can therefore not be told from a render, whatever
the template tries: two engines whose site documents differ in a denied place alone start their renders in the
same state and with the same environment.

The place may be given by keys and by indices into lists, as rules reach through lists.
-/

namespace Stencil

open Stencil.Filter (Step)

/-! ## 1. Documents that differ in one place -/

namespace Json

/-- The members of an object; every other document has none. -/
def members : Json → Fields Json
  | .map members => members
  | _ => []

/-- The document with another one put at a position. Objects on the way are made where there are none; list items
are not. -/
def put (new : Json) : List Step → Json → Json
  | [], _ => new
  | .key key :: rest, doc =>
    .map (Fields.insert key (put new rest ((Fields.get? key doc.members).getD (.map []))) doc.members)
  | .index i :: rest, .list items => .list (items.modify i (put new rest))
  | .index _ :: _, doc => doc

end Json

namespace Value

theorem ofJsonItems_eq_map (items : List Json) : ofJsonItems items = items.map ofJson := by
  induction items with
  | nil => rfl
  | cons json items ih => rw [ofJsonItems, ih, List.map_cons]

theorem ofJsonMembers_append (before after : Fields Json) :
    ofJsonMembers (before ++ after) = ofJsonMembers before ++ ofJsonMembers after := by
  induction before with
  | nil => rfl
  | cons member before ih =>
    obtain ⟨key, json⟩ := member
    rw [List.cons_append, ofJsonMembers, ofJsonMembers, ih, List.cons_append]

theorem keys_ofJsonMembers (members : Fields Json) : Fields.keys (ofJsonMembers members) = Fields.keys members := by
  induction members with
  | nil => rfl
  | cons member members ih =>
    obtain ⟨key, json⟩ := member
    exact congrArg (key :: ·) ih

/-- Documents that were made by putting something at a position differ in nothing else. -/
theorem agreeOff_put {v w : Json} (hv : (ofJson v).Distinct) (hw : (ofJson w).Distinct) (p : List Step) (doc : Json) :
    AgreeOff p (ofJson (Json.put v p doc)) (ofJson (Json.put w p doc)) := by
  induction p generalizing doc with
  | nil => exact .here hv hw
  | cons step p ih =>
    cases step with
    | key key =>
      obtain ⟨before, after, hfirst, hinsert⟩ := Fields.exists_insert_eq doc.members key
      rw [Json.put, Json.put, hinsert, hinsert, ofJson, ofJson, ofJsonMembers_append, ofJsonMembers_append,
        ofJsonMembers, ofJsonMembers]
      exact .key (by rwa [keys_ofJsonMembers]) (ih _)
    | index i =>
      by_cases hitem : ∃ items, doc = .list items ∧ i < items.length
      · obtain ⟨items, rfl, hi⟩ := hitem
        rw [Json.put, Json.put, List.modify_eq_take_cons_drop hi, List.modify_eq_take_cons_drop hi, ofJson, ofJson,
          ofJsonItems_eq_map, ofJsonItems_eq_map, List.map_append, List.map_append, List.map_cons, List.map_cons]
        have hlength : ((items.take i).map ofJson).length = i := by
          rw [List.length_map, List.length_take_of_le (Nat.le_of_lt hi)]
        exact .item hlength (ih items[i])
      -- there is no such item, and nothing is put anywhere
      · have hput : ∀ new : Json, Json.put new (.index i :: p) doc = doc := by
          intro new
          cases doc with
          | list items =>
            have hi : ¬ i < items.length := fun hi => hitem ⟨items, rfl, hi⟩
            rw [Json.put, List.modify_eq_self (Nat.le_of_not_lt hi)]
          | _ => rfl
        rw [hput, hput]
        exact .same _ _

end Value

/-! ## 2. Renders -/

/-- The configuration with something put at a position of its site document. -/
def Config.putSite (config : Config) (p : List Step) (new : Json) : Config :=
  { config with site := Json.put new p config.site }

/-- The position of a part of the site document in the data of a render. -/
def Request.sitePosition (p : List Step) : List Step := .key "config" :: p

namespace Request

variable {request : Request} {config : Config} {locales : Locales} {p : List Step} {v w : Json}

/-- What is built of two configurations differs where their site documents do. -/
theorem agreeOff_build (hv : (Value.ofJson v).Distinct) (hw : (Value.ofJson w).Distinct) :
    Value.AgreeOff (sitePosition p) (request.build (.ofConfig (config.putSite p v)) locales)
      (request.build (.ofConfig (config.putSite p w)) locales) :=
  .key (show "config" ∉ Fields.keys [("app", _)] by simp [Fields.keys]) (Value.agreeOff_put hv hw p config.site)

theorem buildFiltered_eq_of_denied (hv : (Value.ofJson v).Distinct) (hw : (Value.ofJson w).Distinct)
    (hdenied : ∃ pattern ∈ (Snapshot.ofConfig config).filter.rules request.isAuthenticated,
      Filter.Denies pattern.segments (sitePosition p))
    (hallow : ∀ new ∈ [v, w], ∀ q, Filter.Comparable q (sitePosition p) →
      ¬ Filter.Allowed (Snapshot.ofConfig config).filter
        (request.build (.ofConfig (config.putSite p new)) locales) q) :
    request.buildFiltered (.ofConfig (config.putSite p v)) locales =
      request.buildFiltered (.ofConfig (config.putSite p w)) locales := by
  obtain ⟨hallowv, hallow⟩ := List.forall_mem_cons.mp hallow
  have halloww := List.forall_mem_singleton.mp hallow
  exact Filter.apply_eq_of_denied (Filter.proper_ofTexts _ _ _) (agreeOff_build hv hw) hdenied hallowv halloww

end Request

/-- **Denied configuration has no influence on a render.** When a rule for the state of the caller denies a place of
the site document, and nothing above, at or below it is always allowed, whatever is put there, then no template can
tell what is there: text and diagnostics are the same, or the render is abandoned in both cases. -/
theorem Engine.render_eq_of_denied (engine : Engine) (config : Config) (p : List Step) (v w : Json)
    (request : Request) (hv : (Value.ofJson v).Distinct) (hw : (Value.ofJson w).Distinct)
    (hdenied : ∃ pattern ∈ (Snapshot.ofConfig config).filter.rules request.isAuthenticated,
      Filter.Denies pattern.segments (Request.sitePosition p))
    (hallow : ∀ new ∈ [v, w], ∀ q, Filter.Comparable q (Request.sitePosition p) →
      ¬ Filter.Allowed (Snapshot.ofConfig config).filter
        (request.build (.ofConfig (config.putSite p new)) engine.locales) q)
    (now : Calendar.Instant) (source : String) (data : Value) (depth : Nat) :
    ((engine.reload (config.putSite p v)).render now source request data depth).1 =
      ((engine.reload (config.putSite p w)).render now source request data depth).1 := by
  have hdata : request.renderData (.ofConfig (config.putSite p v)) engine.locales data =
      request.renderData (.ofConfig (config.putSite p w)) engine.locales data :=
    congrArg (·.merge data) (Request.buildFiltered_eq_of_denied hv hw hdenied hallow)
  have hstart : (engine.reload (config.putSite p v)).start request data =
      (engine.reload (config.putSite p w)).start request data :=
    congrArg (fun data => RenderState.mk (.ofValue data) [] [] #[] engine.files engine.includes false) hdata
  -- nothing else of the site document is in the environment
  have henvironment : (engine.reload (config.putSite p v)).environment now =
      (engine.reload (config.putSite p w)).environment now := rfl
  unfold render
  rw [hstart, henvironment]

/-- A password below a denied key, beside a title that is always allowed: a loop over the whole configuration does
not tell a text in the place of the password from a list there. -/
theorem Engine.render_eq_of_denied_password :
    let filter : FilterSettings := ⟨[], ["config.mail"], ["config.title"]⟩
    let site : Json := .map [("mail", .map [("password", .null)]), ("title", .string "T")]
    let config : Config := { template := { contextFilter := filter }, site }
    let p : List Step := [.key "mail", .key "password"]
    let engine := Engine.new [] {} [] (.memory (.empty 0))
    let source := "\x7b\x7b#each config\x7d\x7d\x7b\x7b@key\x7d\x7d\x7b\x7bthis\x7d\x7d\x7b\x7b/each\x7d\x7d"
    (Snapshot.ofConfig config).filter.rules false = [⟨"config.mail", [.exact "config", .exact "mail"]⟩] ∧
    Filter.Denies [.exact "config", .exact "mail"] (Request.sitePosition p) ∧
    ((engine.reload (config.putSite p (.string "secret"))).render ⟨0, 0⟩ source {} .null 0).1 =
      ((engine.reload (config.putSite p (.list [.null]))).render ⟨0, 0⟩ source {} .null 0).1 := by
  intro filter site config p engine source
  have hrules : (Snapshot.ofConfig config).filter.rules false =
      [⟨"config.mail", [.exact "config", .exact "mail"]⟩] := rfl
  have hdenies : Filter.Denies [.exact "config", .exact "mail"] (Request.sitePosition p) := by
    refine ⟨[.key "config", .key "mail"], ⟨[.key "password"], rfl⟩, ⟨[.key "config"], "mail", rfl⟩, ?_⟩
    exact .one (by decide) (by decide) (.last (by decide))
  refine ⟨hrules, hdenies, ?_⟩
  refine engine.render_eq_of_denied config p _ _ {} ?_ ?_ ⟨_, hrules ▸ List.mem_singleton_self _, hdenies⟩ ?_ _ _ _ _
  · exact Value.distinct_scalar (by simp [Value.ofJson]) (by simp [Value.ofJson])
  · refine Value.distinct_list (List.forall_mem_singleton.mpr ?_)
    exact Value.distinct_scalar (by simp [Value.ofJson]) (by simp [Value.ofJson])
  · rintro new - q hq ⟨-, pattern, hmem, hreaches⟩
    have hallow : (Snapshot.ofConfig config).filter.alwaysAllow =
        [⟨"config.title", [.exact "config", .exact "title"]⟩] := rfl
    rw [hallow, List.mem_singleton] at hmem
    subst hmem
    -- the two patterns part ways at the second key
    cases q with
    | nil => exact Filter.not_reaches_nil hreaches
    | cons step q =>
      obtain ⟨rfl, hbelow⟩ := Filter.comparable_cons.mp hq
      obtain ⟨-, hreaches⟩ := (Filter.reaches_one (by simp) (by simp)).mp hreaches
      cases q with
      | nil => exact Filter.not_reaches_nil hreaches
      | cons step q =>
        obtain ⟨rfl, -⟩ := Filter.comparable_cons.mp hbelow
        exact absurd (Filter.reaches_last.mp hreaches).1 (by decide)

end Stencil
