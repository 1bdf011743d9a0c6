import Stencil.Helper.Registry
import Stencil.Proofs.Fields
import Stencil.Proofs.Text.Ends

/-!
Loading the registry.

Three loops go over providers, one of them backwards, and each of them over the registrations of a provider. What they
do is to make one list of calls, in the order of rising precedence (`allCalls`, `registerFrom_eq`). So what one call
does is said first, for one that is in order (`Acceptable`) and for one that is not (`Fault`), and what a list of calls
does follows by induction: it stops at the first fault, with everything before registered. The registry that is loaded
is then read off the list of calls: a name and kind stands where it came first, with what came last.
-/

namespace Stencil

/-! ## 1. One registration -/

theorem HelperKind.ofArity?_eq_some {n : Nat} {kind : HelperKind} : ofArity? n = some kind ↔ kind.arity = n := by
  rw [ofArity?]
  cases kind with
  | regular =>
    show _ ↔ 2 = n
    split
    · next h => simp [h]
    · next h => split <;> simp [Ne.symm h]
  | block =>
    show _ ↔ 3 = n
    split
    · next h => simp [h]
    · split <;> simp [*, eq_comm]

namespace Registration

/-- The kind and the name that a registration is about. -/
def key? (r : Registration) : Option (HelperKind × String) := (HelperKind.ofArity? r.arity).map (·, r.name)

/-- A registration that is in order: it has a name, and as many parameters as it says, two or three. -/
structure Acceptable (r : Registration) : Prop where
  named : ∃ c ∈ r.name.toList, Text.isBlank c = false
  declared : r.arity = 2 ∨ r.arity = 3
  handled : r.handler.kind.arity = r.arity

/-- What is wrong with a registration; of several things the first. -/
inductive Fault (r : Registration) : RegistryError → Prop
  | blank (hname : ∀ c ∈ r.name.toList, Text.isBlank c = true) : Fault r .emptyName
  | arity (hname : ∃ c ∈ r.name.toList, Text.isBlank c = false) (htwo : r.arity ≠ 2) (hthree : r.arity ≠ 3) :
    Fault r (.invalidArity r.name r.arity)
  | handler (hname : ∃ c ∈ r.name.toList, Text.isBlank c = false) (hdeclared : r.arity = 2 ∨ r.arity = 3)
      (hhandler : r.handler.kind.arity ≠ r.arity) :
    Fault r (.arityMismatch r.name r.arity r.handler.kind.arity)

variable {r : Registration} {e : RegistryError}

theorem Acceptable.key?_eq (h : r.Acceptable) : r.key? = some (r.handler.kind, r.name) := by
  rw [key?, HelperKind.ofArity?_eq_some.mpr h.handled, Option.map_some]

theorem acceptable_or_fault (r : Registration) : r.Acceptable ∨ ∃ e, r.Fault e := by
  by_cases hname : ∃ c ∈ r.name.toList, Text.isBlank c = false
  · by_cases hdeclared : r.arity = 2 ∨ r.arity = 3
    · by_cases hhandler : r.handler.kind.arity = r.arity
      · exact .inl ⟨hname, hdeclared, hhandler⟩
      · exact .inr ⟨_, .handler hname hdeclared hhandler⟩
    · obtain ⟨htwo, hthree⟩ := not_or.mp hdeclared
      exact .inr ⟨_, .arity hname htwo hthree⟩
  · refine .inr ⟨_, .blank fun c hc => ?_⟩
    rw [← Bool.not_eq_false]
    exact fun h => hname ⟨c, hc, h⟩

theorem Fault.not_acceptable (h : r.Fault e) : ¬ r.Acceptable := by
  intro hr
  cases h with
  | blank hname =>
    obtain ⟨c, hc, hnot⟩ := hr.named
    exact absurd (hname c hc) (by rw [hnot]; decide)
  | arity hname htwo hthree => exact hr.declared.elim htwo hthree
  | handler hname hdeclared hhandler => exact hhandler hr.handled

end Registration

namespace Registry

variable {source : HelperSource} {r : Registration} {e : RegistryError}

theorem trim_isEmpty_of_named (h : ∃ c ∈ r.name.toList, Text.isBlank c = false) :
    (Text.trim r.name.toList).isEmpty = false := by
  obtain ⟨c, hc, hnot⟩ := h
  rw [List.isEmpty_eq_false_iff]
  exact fun hnil => absurd (Text.trim_eq_nil.mp hnil c hc) (by rw [hnot]; decide)

theorem check_of_acceptable (h : r.Acceptable) : check r = .ok r.handler.kind := by
  rw [check, trim_isEmpty_of_named h.named, HelperKind.ofArity?_eq_some.mpr h.handled]
  exact if_pos rfl

theorem check_of_fault (h : r.Fault e) : check r = .error e := by
  cases h with
  | blank hname => rw [check, Text.trim_eq_nil.mpr hname]; rfl
  | arity hname htwo hthree =>
    rw [check, trim_isEmpty_of_named hname, HelperKind.ofArity?, if_neg htwo, if_neg hthree]
    rfl
  | handler hname hdeclared hhandler =>
    obtain ⟨kind, hkind⟩ : ∃ kind, HelperKind.ofArity? r.arity = some kind := by
      rcases hdeclared with h | h
      · exact ⟨.regular, HelperKind.ofArity?_eq_some.mpr h.symm⟩
      · exact ⟨.block, HelperKind.ofArity?_eq_some.mpr h.symm⟩
    have hother : kind ≠ r.handler.kind := by
      rintro rfl
      exact hhandler (HelperKind.ofArity?_eq_some.mp hkind)
    rw [check, trim_isEmpty_of_named hname, hkind]
    exact if_neg hother

/-! ## 2. One call -/

/-- A helper that is to be registered, and who brings it. -/
abbrev Call := HelperSource × Registration

/-- What is known of a registered helper. -/
def registered (call : Call) : RegisteredHelper :=
  ⟨call.1, call.2.description, call.2.sample, call.2.handler⟩

/-- What is registered for a call that is in order. -/
def entry (call : Call) : (HelperKind × String) × RegisteredHelper :=
  ((call.2.handler.kind, call.2.name), registered call)

theorem register_of_acceptable (h : r.Acceptable) (source : HelperSource) (registry : Registry) :
    register source r registry = .ok () (Fields.insert (entry (source, r)).1 (entry (source, r)).2 registry) := by
  show EStateM.bind (MonadExcept.ofExcept (check r)) _ registry = _
  rw [check_of_acceptable h]
  rfl

/-- A registration that is refused changes nothing. -/
theorem register_of_fault (h : r.Fault e) (source : HelperSource) (registry : Registry) :
    register source r registry = .error e registry := by
  show EStateM.bind (MonadExcept.ofExcept (check r)) _ registry = _
  rw [check_of_fault h]
  rfl

/-! ## 3. A list of calls -/

variable {calls before after : List Call} {call : Call} {registry : Registry}

/-- Makes one call after the other. -/
def registerCalls (calls : List Call) : Registering Unit := calls.forM fun (source, r) => register source r

theorem registerCalls_append (before after : List Call) :
    registerCalls (before ++ after) = (do registerCalls before; registerCalls after) :=
  List.forM_append

/-- Calls that are all in order are all made. -/
theorem registerCalls_of_acceptable (h : ∀ call ∈ calls, call.2.Acceptable) (registry : Registry) :
    registerCalls calls registry = .ok () (Fields.insertAll registry (calls.map entry)) := by
  induction calls generalizing registry with
  | nil => rfl
  | cons call calls ih =>
    obtain ⟨hcall, hcalls⟩ := List.forall_mem_cons.mp h
    show EStateM.bind (register call.1 call.2) (fun _ => registerCalls calls) registry = _
    rw [EStateM.bind, register_of_acceptable hcall]
    exact ih hcalls _

/-- The first call that is not in order is the last one. -/
theorem registerCalls_of_fault (hbefore : ∀ earlier ∈ before, earlier.2.Acceptable) (h : call.2.Fault e)
    (after : List Call) (registry : Registry) :
    registerCalls (before ++ call :: after) registry = .error e (Fields.insertAll registry (before.map entry)) := by
  rw [registerCalls_append]
  show EStateM.bind (registerCalls before) (fun _ => registerCalls (call :: after)) registry = _
  rw [EStateM.bind, registerCalls_of_acceptable hbefore]
  show EStateM.bind (register call.1 call.2) (fun _ => registerCalls after) _ = _
  rw [EStateM.bind, register_of_fault h]

theorem acceptable_or_first_fault (calls : List Call) :
    (∀ call ∈ calls, call.2.Acceptable) ∨
      ∃ before call after e, calls = before ++ call :: after ∧ (∀ earlier ∈ before, earlier.2.Acceptable) ∧
        call.2.Fault e := by
  induction calls with
  | nil => exact .inl nofun
  | cons call calls ih =>
    rcases call.2.acceptable_or_fault with hcall | ⟨e, hfault⟩
    · rcases ih with hcalls | ⟨before, other, after, e, rfl, hbefore, hfault⟩
      · exact .inl (List.forall_mem_cons.mpr ⟨hcall, hcalls⟩)
      · exact .inr ⟨call :: before, other, after, e, rfl, List.forall_mem_cons.mpr ⟨hcall, hbefore⟩, hfault⟩
    · exact .inr ⟨[], call, calls, e, rfl, nofun, hfault⟩

/-! ## 4. All providers -/

/-- The calls of a provider. -/
def callsOf (source : HelperSource) (provider : Provider) : List Call := provider.registrations.map (source, ·)

/-- All calls in the order of rising precedence: the framework, the plugins from the last to the first, the site. -/
def allCalls (framework plugins site : List Provider) : List Call :=
  framework.flatMap (callsOf .framework) ++
    plugins.reverse.flatMap (fun plugin => callsOf (.plugin plugin.id) plugin) ++ site.flatMap (callsOf .site)

theorem registerCalls_callsOf (source : HelperSource) (provider : Provider) :
    registerCalls (callsOf source provider) = registerAll source provider :=
  List.forM_map

theorem registerCalls_flatMap (callsOf : Provider → List Call) (providers : List Provider) :
    registerCalls (providers.flatMap callsOf) = providers.forM fun provider => registerCalls (callsOf provider) := by
  induction providers with
  | nil => rfl
  | cons provider providers ih =>
    rw [List.flatMap_cons, registerCalls_append, ih]
    rfl

theorem registerFrom_eq (framework plugins site : List Provider) :
    registerFrom framework plugins site = registerCalls (allCalls framework plugins site) := by
  rw [allCalls, registerCalls_append, registerCalls_append, registerCalls_flatMap, registerCalls_flatMap,
    registerCalls_flatMap]
  simp only [registerCalls_callsOf, bind_assoc]
  rfl

/-! ## 5. What is loaded -/

variable (framework plugins site : List Provider)

/-- Either all calls are in order, and made, or loading fails with the fault of the first that is not. -/
theorem load_cases :
    ((∀ call ∈ allCalls framework plugins site, call.2.Acceptable) ∧
        load framework plugins site = .ok (Fields.ofList ((allCalls framework plugins site).map entry))) ∨
      ∃ before call after e, allCalls framework plugins site = before ++ call :: after ∧
        (∀ earlier ∈ before, earlier.2.Acceptable) ∧ call.2.Fault e ∧ load framework plugins site = .error e := by
  rcases acceptable_or_first_fault (allCalls framework plugins site) with
    h | ⟨before, call, after, e, hcalls, hbefore, hfault⟩
  · refine .inl ⟨h, ?_⟩
    rw [load, registerFrom_eq, registerCalls_of_acceptable h]
    rfl
  · refine .inr ⟨before, call, after, e, hcalls, hbefore, hfault, ?_⟩
    rw [load, registerFrom_eq, hcalls, registerCalls_of_fault hbefore hfault]

/-- The last of some calls that is about a kind and name. -/
def last? (calls : List Call) (key : HelperKind × String) : Option Call :=
  calls.findRev? fun call => call.2.key? = some key

/-- The registry that holds what some calls registered. -/
structure Holds (registry : Registry) (calls : List Call) : Prop where
  /-- Each kind and name stands once, where it came first. -/
  keys : Fields.keys registry = (calls.filterMap (·.2.key?)).eraseDups
  nodup : (Fields.keys registry).Nodup
  /-- It stands for what came last. -/
  lookup : ∀ key, Fields.get? key registry = (last? calls key).map registered
  /-- So this is what a list of all helpers has. -/
  listed : registry = (calls.filterMap (·.2.key?)).eraseDups.filterMap fun key =>
    (last? calls key).map fun call => (key, registered call)
  kinds : ∀ f ∈ registry, f.2.handler.kind = f.1.1
  /-- The lookups by kind find the handlers, and do not miss one. -/
  regular : ∀ name,
    (regular? registry name).map Handler.regular = (Fields.get? (.regular, name) registry).map (·.handler)
  block : ∀ name,
    (block? registry name).map Handler.block = (Fields.get? (.block, name) registry).map (·.handler)

theorem last?_acceptable (h : ∀ call ∈ calls, call.2.Acceptable) (key : HelperKind × String) :
    last? calls key = calls.findRev? fun call => (entry call).1 = key := by
  rw [last?, List.findRev?_eq_find?_reverse, List.findRev?_eq_find?_reverse, ← List.head?_filter, ← List.head?_filter]
  refine congrArg List.head? (List.filter_congr fun call hcall => ?_)
  rw [(h call (List.mem_reverse.mp hcall)).key?_eq]
  exact decide_eq_decide.mpr (Option.some_inj)

theorem lookup_ofList (h : ∀ call ∈ calls, call.2.Acceptable) (key : HelperKind × String) :
    Fields.get? key (Fields.ofList (calls.map entry)) = (last? calls key).map registered := by
  rw [last?_acceptable h, Fields.get?_ofList, Fields.findRev?_map, Option.map_map]
  rfl

theorem kinds_of_lookup (h : ∀ call ∈ calls, call.2.Acceptable) (hnodup : (Fields.keys registry).Nodup)
    (hlookup : ∀ key, Fields.get? key registry = (last? calls key).map registered) :
    ∀ f ∈ registry, f.2.handler.kind = f.1.1 := by
  intro f hf
  have hget : Fields.get? f.1 registry = some f.2 := Fields.get?_of_mem hnodup hf
  rw [hlookup] at hget
  obtain ⟨call, hlast, hcall⟩ := Option.map_eq_some_iff.mp hget
  rw [last?, List.findRev?_eq_find?_reverse] at hlast
  have hfound := List.find?_some hlast
  have hkey : call.2.key? = some f.1 := of_decide_eq_true hfound
  have hmem : call ∈ calls := List.mem_reverse.mp (List.mem_of_find?_eq_some hlast)
  rw [(h call hmem).key?_eq] at hkey
  rw [← Option.some.inj hkey, ← hcall]
  rfl

theorem regular?_eq (h : ∀ f ∈ registry, f.2.handler.kind = f.1.1) (name : String) :
    (regular? registry name).map Handler.regular = (Fields.get? (.regular, name) registry).map (·.handler) := by
  rw [regular?]
  cases hget : Fields.get? (.regular, name) registry with
  | none => rfl
  | some helper =>
    have hkind : helper.handler.kind = .regular := h _ (Fields.mem_of_get? hget)
    obtain ⟨_, _, _, handler⟩ := helper
    cases handler with
    | regular run => rfl
    | block run => cases hkind

theorem block?_eq (h : ∀ f ∈ registry, f.2.handler.kind = f.1.1) (name : String) :
    (block? registry name).map Handler.block = (Fields.get? (.block, name) registry).map (·.handler) := by
  rw [block?]
  cases hget : Fields.get? (.block, name) registry with
  | none => rfl
  | some helper =>
    have hkind : helper.handler.kind = .block := h _ (Fields.mem_of_get? hget)
    obtain ⟨_, _, _, handler⟩ := helper
    cases handler with
    | regular run => cases hkind
    | block run => rfl

theorem holds_ofList (h : ∀ call ∈ calls, call.2.Acceptable) : Holds (Fields.ofList (calls.map entry)) calls := by
  have hnodup : (Fields.keys (Fields.ofList (calls.map entry))).Nodup := Fields.nodup_keys_ofList _
  have hkinds := kinds_of_lookup h hnodup (lookup_ofList h)
  have hkeys : calls.filterMap (·.2.key?) = Fields.keys (calls.map entry) := by
    rw [List.filterMap_congr fun call hcall => (h call hcall).key?_eq, Fields.keys, List.map_map]
    exact congrFun List.filterMap_eq_map calls
  have hlisted := (Fields.filterMap_keys hnodup).symm
  simp only [lookup_ofList h, Option.map_map] at hlisted
  rw [Fields.keys_ofList, ← hkeys] at hlisted
  exact {
    keys := by rw [Fields.keys_ofList, hkeys]
    nodup := hnodup
    lookup := lookup_ofList h
    listed := hlisted
    kinds := hkinds
    regular := regular?_eq hkinds
    block := block?_eq hkinds }

theorem exists_load_iff : (∃ registry, load framework plugins site = .ok registry) ↔
    ∀ call ∈ allCalls framework plugins site, call.2.Acceptable := by
  rcases load_cases framework plugins site with ⟨h, hload⟩ | ⟨_, call, _, e, hcalls, -, hfault, hload⟩
  · exact ⟨fun _ => h, fun _ => ⟨_, hload⟩⟩
  · have hcall : call ∈ allCalls framework plugins site := by simp [hcalls]
    refine ⟨fun ⟨_, hok⟩ => ?_, fun h => absurd (h call hcall) hfault.not_acceptable⟩
    cases hload.symm.trans hok

theorem load_eq_error_iff (e : RegistryError) : load framework plugins site = .error e ↔
    ∃ before call after, allCalls framework plugins site = before ++ call :: after ∧
      (∀ earlier ∈ before, earlier.2.Acceptable) ∧ call.2.Fault e := by
  constructor
  · intro he
    rcases load_cases framework plugins site with
      ⟨-, hload⟩ | ⟨before, call, after, e', hcalls, hbefore, hfault, hload⟩
    · cases hload.symm.trans he
    · cases hload.symm.trans he
      exact ⟨before, call, after, hcalls, hbefore, hfault⟩
  · rintro ⟨before, call, after, hcalls, hbefore, hfault⟩
    rw [load, registerFrom_eq, hcalls, registerCalls_of_fault hbefore hfault]

theorem holds_of_load {registry : Registry} (h : load framework plugins site = .ok registry) :
    Holds registry (allCalls framework plugins site) := by
  rcases load_cases framework plugins site with ⟨hcalls, hload⟩ | ⟨_, _, _, _, -, -, -, hload⟩
  · cases hload.symm.trans h
    exact holds_ofList hcalls
  · cases hload.symm.trans h

/-- Loading succeeds exactly if all registrations are in order, and the registry then holds them. Otherwise it fails
with the fault of the first that is not. A registration by itself is made or refused by the same rule, and one that is
refused leaves the registry as it was. -/
theorem load_registers :
    ((∃ registry, load framework plugins site = .ok registry) ↔
        ∀ call ∈ allCalls framework plugins site, call.2.Acceptable) ∧
      (∀ e, load framework plugins site = .error e ↔
        ∃ before call after, allCalls framework plugins site = before ++ call :: after ∧
          (∀ earlier ∈ before, earlier.2.Acceptable) ∧ call.2.Fault e) ∧
      (∀ registry, load framework plugins site = .ok registry → Holds registry (allCalls framework plugins site)) ∧
      ∀ source r registry,
        (r.Acceptable ∧ register source r registry =
            .ok () (Fields.insert (r.handler.kind, r.name) (registered (source, r)) registry)) ∨
          ∃ e, r.Fault e ∧ register source r registry = .error e registry := by
  refine ⟨exists_load_iff framework plugins site, load_eq_error_iff framework plugins site,
    fun registry => holds_of_load framework plugins site, fun source r registry => ?_⟩
  rcases r.acceptable_or_fault with h | ⟨e, hfault⟩
  · exact .inl ⟨h, register_of_acceptable h source registry⟩
  · exact .inr ⟨e, hfault, register_of_fault hfault source registry⟩

/-- A helper that does nothing. -/
def idle (name : String) : HelperKind → Registration
  | .regular => ⟨name, 2, .regular fun _ _ => .ok .null, "", ""⟩
  | .block => ⟨name, 3, .block fun _ _ _ => .done (.ok ""), "", ""⟩

/-- The last plugin comes first, so the first one has the last word on what they have in common. -/
theorem load_registers_two_plugins :
    ∃ registry, load [] [⟨"base", [idle "card" .regular, idle "card" .block]⟩,
        ⟨"theme", [idle "menu" .regular, idle "card" .regular]⟩] [] = .ok registry ∧
      Fields.keys registry = [(.regular, "menu"), (.regular, "card"), (.block, "card")] ∧
      (Fields.get? (.regular, "card") registry).map (·.source) = some (.plugin "base") := by
  obtain ⟨hload, -, hholds, -⟩ := load_registers [] [⟨"base", [idle "card" .regular, idle "card" .block]⟩,
    ⟨"theme", [idle "menu" .regular, idle "card" .regular]⟩] []
  have hidle : ∀ name ∈ ["card", "menu"], ∀ kind, (idle name kind).Acceptable := by
    intro name hname kind
    have hnamed : ∃ c ∈ name.toList, Text.isBlank c = false := by
      rcases List.mem_pair.mp hname with rfl | rfl
      · exact ⟨'c', by decide +kernel, rfl⟩
      · exact ⟨'m', by decide +kernel, rfl⟩
    cases kind with
    | regular => exact ⟨hnamed, .inl rfl, rfl⟩
    | block => exact ⟨hnamed, .inr rfl, rfl⟩
  have hcard := hidle "card" List.mem_cons_self
  have hmenu := hidle "menu" (List.mem_cons_of_mem _ List.mem_cons_self)
  obtain ⟨registry, hregistry⟩ := hload.mpr <| List.forall_mem_cons.mpr ⟨hmenu .regular, List.forall_mem_cons.mpr
    ⟨hcard .regular, List.forall_mem_cons.mpr ⟨hcard .regular, List.forall_mem_singleton.mpr (hcard .block)⟩⟩⟩
  have hall := hholds registry hregistry
  refine ⟨registry, hregistry, hall.keys.trans (by decide), ?_⟩
  rw [hall.lookup]
  rfl

end Registry

end Stencil
