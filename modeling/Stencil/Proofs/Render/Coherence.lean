import Stencil.Proofs.Render.Guard
import Stencil.Proofs.Render.Moments

/-!
Includes of files on disk.

Between an include and its file stand two caches: of texts that were read, and of templates that were parsed. Either
goes by the modification time that it has on record. That a time is the same does not make the text the same, so what
is in the caches is compared with versions of files that are known, be they there now or not. In a render nothing is
written to the disk; if every version that is known and has the time that its place shows now is the one that is there
now, then includes expand what is there now, through whichever cache they go.
-/

namespace Stencil

open Template

/-! ## 1. What is on disk -/

namespace Disk

/-- The text at a location. There is none where there is no file, and none in a file that cannot be read. -/
def text? (disk : Disk) (place : Location) : Option String := (disk.file? place).bind (·.text?)

/-- A root has the path, and no root before it does. -/
structure PicksRoot (disk : Disk) (path : Path) (i : Nat) : Prop where
  has : ∃ root, disk.roots[i]? = some root ∧ root.has path = true
  first : ∀ j root, j < i → disk.roots[j]? = some root → root.has path = false

/-- There is nothing to read under a name: it names nothing, no root has its path, or what the first one has is not a
file that can be read. -/
def Missing (disk : Disk) (name : String) : Prop :=
  (∃ given, Path.normalize name = .error (.notFound given)) ∨
    ∃ path, Path.normalize name = .ok path ∧
      ((∀ root ∈ disk.roots, root.has path = false) ∨ ∃ i, disk.PicksRoot path i ∧ disk.text? ⟨some i, path⟩ = none)

theorem modified?_of_file? {disk : Disk} {place : Location} {file : DiskFile} (h : disk.file? place = some file) :
    disk.modified? place = some file.modified := by
  rw [modified?, h]

theorem findFrom_eq (path : Path) (roots : List Root) (i : Nat) :
    (∃ j root, roots[j]? = some root ∧ root.has path = true ∧
      (∀ k other, k < j → roots[k]? = some other → other.has path = false) ∧
      findFrom path i roots = some ⟨some (i + j), path⟩) ∨
    ((∀ root ∈ roots, root.has path = false) ∧ findFrom path i roots = none) := by
  induction roots generalizing i with
  | nil => exact .inr ⟨by simp, rfl⟩
  | cons first roots ih =>
    rw [findFrom]
    by_cases hfirst : first.has path = true
    · rw [if_pos hfirst]
      exact .inl ⟨0, first, rfl, hfirst, by simp, rfl⟩
    · rw [if_neg hfirst]
      have hnone : first.has path = false := by simpa using hfirst
      rcases ih (i + 1) with ⟨j, root, hroot, hhas, hbefore, hfind⟩ | ⟨hroots, hfind⟩
      · refine .inl ⟨j + 1, root, hroot, hhas, fun k other hk hother => ?_, ?_⟩
        · cases k with
          | zero =>
            cases hother
            exact hnone
          | succ k => exact hbefore k other (by omega) hother
        · rw [hfind, Nat.add_assoc, Nat.add_comm 1 j]
      · exact .inr ⟨List.forall_mem_cons.mpr ⟨hnone, hroots⟩, hfind⟩

theorem PicksRoot.unique {disk : Disk} {path : Path} {i j : Nat} (hi : disk.PicksRoot path i)
    (hj : disk.PicksRoot path j) : i = j := by
  obtain ⟨root, hroot, hhas⟩ := hi.has
  obtain ⟨other, hother, hhas'⟩ := hj.has
  rcases Nat.lt_trichotomy i j with hlt | heq | hlt
  · rw [hj.first i root hlt hroot] at hhas
    cases hhas
  · exact heq
  · rw [hi.first j other hlt hother] at hhas'
    cases hhas'

theorem PicksRoot.not_forall {disk : Disk} {path : Path} {i : Nat} (h : disk.PicksRoot path i) :
    ¬ ∀ root ∈ disk.roots, root.has path = false := by
  intro hnone
  obtain ⟨root, hroot, hhas⟩ := h.has
  rw [hnone root (List.mem_of_getElem? hroot)] at hhas
  cases hhas

/-- A name is resolved to the first root that has its path. -/
theorem resolve_eq {disk : Disk} {name : String} {path : Path} (hname : Path.normalize name = .ok path) :
    (∃ i, disk.PicksRoot path i ∧ disk.resolve name = .ok ⟨some i, path⟩) ∨
    ((∀ root ∈ disk.roots, root.has path = false) ∧ disk.resolve name = .error (.notFound name)) := by
  have hresolve (found : Option Location) (hfound : findFrom path 0 disk.roots = found) :
      disk.resolve name = found.elim (.error (.notFound name)) .ok := by
    rw [resolve, hname]
    dsimp only [bind, Except.bind]
    rw [hfound]
    cases found <;> rfl
  rcases findFrom_eq path disk.roots 0 with ⟨j, root, hroot, hhas, hbefore, hfind⟩ | ⟨hroots, hfind⟩
  · rw [Nat.zero_add] at hfind
    exact .inl ⟨j, ⟨⟨root, hroot, hhas⟩, hbefore⟩, hresolve _ hfind⟩
  · exact .inr ⟨hroots, hresolve _ hfind⟩

end Disk

/-- A path without steps up is straight as it is. -/
theorem Root.straighten?_eq {root : Root} {path reached : Path} (hpath : ".." ∉ path)
    (h : root.straighten? path = some reached) : reached = path := by
  rw [straighten?] at h
  -- the fold has gone some way already
  suffices hfold : ∀ start : Path, path.foldlM (m := Option) (fun reached segment =>
      if !root.hasFolder reached then none
      else if segment != ".." then some (reached ++ [segment])
      else if reached.isEmpty then none
      else some reached.dropLast) start = some reached → reached = start ++ path from hfold [] h
  clear h
  induction path with
  | nil =>
    intro start h
    cases h
    rw [List.append_nil]
  | cons segment path ih =>
    intro start h
    have hsegment : (segment != "..") = true := by
      simp only [bne_iff_ne]
      rintro rfl
      exact hpath List.mem_cons_self
    rw [List.foldlM_cons, hsegment] at h
    split at h
    · cases h
    · rw [ih (fun hmem => hpath (List.mem_cons_of_mem _ hmem)) (start ++ [segment]) h]
      simp

/-- A file at a location without steps up is listed under its path, in a root or outside of them. -/
theorem Disk.file?_eq {disk : Disk} {place : Location} {file : DiskFile} (hplace : ".." ∉ place.path)
    (h : disk.file? place = some file) :
    ∃ root, (place.root.elim (some disk.outside) fun i => disk.roots[i]?) = some root ∧
      Fields.get? place.path root.files = some file := by
  have hfind : disk.find? place = (place.root.elim (some disk.outside) fun i => disk.roots[i]?).bind fun root =>
      (root.straighten? place.path).map fun path => (root, path) := by
    rw [find?]
    simp only [Option.map_eq_bind, Option.bind_eq_bind]
    cases place.root <;> rfl
  rw [file?, hfind] at h
  obtain ⟨⟨root, path⟩, hfound, hfile⟩ := Option.bind_eq_some_iff.mp h
  obtain ⟨found, hroot, hpath⟩ := Option.bind_eq_some_iff.mp hfound
  obtain ⟨reached, hreached, hpair⟩ := Option.map_eq_some_iff.mp hpath
  cases hpair
  dsimp only at hfile
  rw [Root.straighten?_eq hplace hreached] at hfile
  exact ⟨root, hroot, hfile⟩

/-- Where there is one root and nothing outside of it, every file is listed there. -/
theorem Disk.file?_of_oneRoot {disk : Disk} {root : Root} {place : Location} {file : DiskFile}
    (hroots : disk.roots = [root]) (houtside : disk.outside = .missing) (hplace : ".." ∉ place.path)
    (h : disk.file? place = some file) : place.root = some 0 ∧ Fields.get? place.path root.files = some file := by
  obtain ⟨found, hfound, hlisted⟩ := Disk.file?_eq hplace h
  cases hroot : place.root with
  | none =>
    rw [hroot, Option.elim_none, houtside] at hfound
    cases hfound
    cases hlisted
  | some i =>
    rw [hroot, Option.elim_some, hroots] at hfound
    cases i with
    | zero =>
      cases hfound
      exact ⟨rfl, hlisted⟩
    | succ i => cases hfound

theorem Path.not_mem_of_normalize {name : String} {path : Path} (h : Path.normalize name = .ok path) :
    ".." ∉ path := by
  rw [Path.normalize] at h
  simp only at h
  split at h
  · cases h
  · split at h
    · cases h
    · next hup =>
      split at h
      · cases h
      · cases h
        exact fun hmem => hup (List.contains_iff_mem.mpr hmem)

/-! ## 2. Known versions -/

/-- Versions of files: where they are, their modification times and their texts. -/
abbrev Versions := Location → Int → String → Prop

/-- Every text that was read and every include that was parsed is a version that is known. -/
structure Explained (disk : Disk) (known : Versions) (files : Files) (includes : IncludeCache) : Prop where
  texts : ∃ cache, files = .disk disk cache ∧
    ∀ place entry, Fields.get? place cache = some entry → known place entry.modified entry.text
  includes : ∀ place entry, Fields.get? place includes = some entry →
    ∃ modified text, entry = ⟨.parse text, some modified⟩ ∧ known place modified text

section Versions

variable {disk : Disk} {known : Versions} {files : Files} {includes : IncludeCache}

/-- What is on disk is known. -/
def Versions.Include (known : Versions) (disk : Disk) : Prop :=
  ∀ place modified text, disk.modified? place = some modified → disk.text? place = some text →
    known place modified text

theorem Explained.imp (h : Explained disk known files includes) {more : Versions}
    (himp : ∀ place modified text, known place modified text → more place modified text) :
    Explained disk more files includes := by
  obtain ⟨cache, hfiles, htexts⟩ := h.texts
  refine ⟨⟨cache, hfiles, fun place entry hentry => himp _ _ _ (htexts place entry hentry)⟩, fun place entry hentry => ?_⟩
  obtain ⟨modified, text, hparsed, hknown⟩ := h.includes place entry hentry
  exact ⟨modified, text, hparsed, himp _ _ _ hknown⟩

/-- What reading a text comes to is known, with the time that its place shows, and all that is kept stays known. -/
theorem Disk.read_known (hdisk : known.Include disk) {cache : TextCache}
    (hcache : ∀ place entry, Fields.get? place cache = some entry → known place entry.modified entry.text)
    (place : Location) :
    (∀ other entry, Fields.get? other (disk.read cache place).2 = some entry →
      known other entry.modified entry.text) ∧
    (∀ text, (disk.read cache place).1 = some text →
      ∃ modified, disk.modified? place = some modified ∧ known place modified text) ∧
    ((disk.read cache place).1 = none → disk.text? place = none) := by
  have herase : ∀ other entry, Fields.get? other (cache.erase place) = some entry →
      known other entry.modified entry.text := by
    intro other entry hentry
    rw [Fields.get?_erase] at hentry
    split at hentry
    · cases hentry
    · exact hcache other entry hentry
  unfold read
  split
  · next entry hentry =>
    obtain ⟨hentry, htime⟩ := Option.filter_eq_some_iff.mp hentry
    refine ⟨hcache, fun text htext => ?_, fun hnone => by cases hnone⟩
    cases htext
    exact ⟨entry.modified, (eq_of_beq htime).symm, hcache place entry hentry⟩
  · split
    · next text modified hfile =>
      have hmodified : disk.modified? place = some modified := modified?_of_file? hfile
      have htext : disk.text? place = some text := by
        rw [text?, hfile]
        rfl
      have hknown : known place modified text := hdisk place modified text hmodified htext
      refine ⟨fun other entry hentry => ?_, fun read hread => ?_, fun hnone => by cases hnone⟩
      · rw [Fields.get?_insert] at hentry
        split at hentry
        · next hplace =>
          cases hentry
          exact hplace ▸ hknown
        · exact hcache other entry hentry
      · cases hread
        exact ⟨modified, hmodified, hknown⟩
    · next hfile =>
      refine ⟨herase, fun read hread => (by cases hread), fun _ => ?_⟩
      rw [text?]
      cases hplace : disk.file? place with
      | none => rfl
      | some file =>
        obtain ⟨_ | text, modified⟩ := file
        · rfl
        · exact absurd hplace (hfile text modified)

/-- So it is when a template is asked for. -/
theorem RenderState.load_known (hdisk : known.Include disk) {state : RenderState}
    (h : Explained disk known state.files state.includes) (useCache : Bool) (place : Location) :
    Explained disk known (state.load useCache place).2.files (state.load useCache place).2.includes ∧
    (∀ t, (state.load useCache place).1 = some t →
      ∃ modified text, disk.modified? place = some modified ∧ known place modified text ∧ t = .parse text) ∧
    ((state.load useCache place).1 = none → state.abandoned = true ∨ disk.text? place = none) := by
  obtain ⟨cache, hfiles, htexts⟩ := h.texts
  have htime : state.files.modified? place = disk.modified? place := by
    rw [hfiles]
    rfl
  unfold load
  split
  · next habandoned => exact ⟨h, fun t ht => (by cases ht), fun _ => .inl habandoned⟩
  simp only [htime]
  split
  · next entry hentry =>
    obtain ⟨hcached, hmodified⟩ := Option.filter_eq_some_iff.mp hentry
    refine ⟨h, fun t ht => ?_, fun hnone => by cases hnone⟩
    cases ht
    split at hcached
    · obtain ⟨modified, text, rfl, hknown⟩ := h.includes place entry hcached
      exact ⟨modified, text, (eq_of_beq hmodified).symm, hknown, rfl⟩
    · cases hcached
  · obtain ⟨hkept, hread, hmissing⟩ := Disk.read_known hdisk htexts place
    have hresult : state.files.read place = ((disk.read cache place).1, .disk disk (disk.read cache place).2) := by
      rw [hfiles]
      rfl
    rw [hresult]
    have hafter : Explained disk known (.disk disk (disk.read cache place).2) state.includes :=
      ⟨⟨_, rfl, hkept⟩, h.includes⟩
    cases htext : (disk.read cache place).1 with
    | none => exact ⟨hafter, fun t ht => (by cases ht), fun _ => .inr (hmissing htext)⟩
    | some text =>
      obtain ⟨modified, hmodified, hknown⟩ := hread text htext
      refine ⟨⟨hafter.texts, fun other entry hentry => ?_⟩, fun t ht => ?_, fun hnone => by cases hnone⟩
      · -- the template that was parsed may have been put among the includes
        dsimp only at hentry
        split at hentry
        · rw [Fields.get?_insert] at hentry
          split at hentry
          · next hplace =>
            cases hentry
            exact ⟨modified, text, by rw [hmodified], hplace ▸ hknown⟩
          · exact h.includes other entry hentry
        · exact h.includes other entry hentry
      · cases ht
        exact ⟨modified, text, hmodified, hknown, rfl⟩

end Versions

/-- The versions that may be taken for what is there now. A location with steps up is none that a name resolves to,
and is of no interest. -/
def Disk.Current (disk : Disk) : Versions := fun place modified text =>
  ".." ∉ place.path → disk.modified? place = some modified → disk.text? place = some text

theorem Disk.current_include (disk : Disk) : disk.Current.Include disk := fun _ _ _ _ htext _ _ => htext

/-! ## 3. Rendering from a disk -/

namespace Render

section Keeping

variable {disk : Disk} {known : Versions} (hdisk : known.Include disk)
include hdisk

/-- No step of a render makes anything be kept that is not known. -/
theorem kept_explained : Kept (fun state => Explained disk known state.files state.includes) fun _ _ => True where
  diagnostics h _ := h
  abandoned h _ := h
  scope h _ _ := h
  define h _ _ _ := h
  load h useCache place := ⟨(RenderState.load_known hdisk h useCache place).1, fun _ _ => trivial⟩
  parse _ := trivial
  body _ _ := trivial
  inverse _ _ := trivial
  fragment _ := trivial

theorem invariant_explained (env : Environment) :
    Invariant env fun _ state => Explained disk known state.files state.includes :=
  .ofKept (kept_explained hdisk) (fun h _ => h) fun _ _ h _ => h

theorem respected_explained :
    Respected (Accounts (n := Id) (ε := Moment) (fun state => Explained disk known state.files state.includes) fun _ => True)
      fun _ _ => True :=
  (kept_explained hdisk).respected (fun h _ => h) (fun h _ => h) fun _ _ _ _ => trivial

end Keeping

/-! ## 4. Coherence -/

/-- What is kept of a file is right as soon as the time on record is the one that the file shows. -/
def Coherent (disk : Disk) (state : RenderState) : Prop := Explained disk disk.Current state.files state.includes

variable {disk : Disk} {state : RenderState}

theorem Coherent.load_eq (h : Coherent disk state) (hlive : state.abandoned = false) (useCache : Bool)
    {place : Location} (hplace : ".." ∉ place.path) :
    (state.load useCache place).1 = (disk.text? place).map Template.parse := by
  obtain ⟨-, hsome, hnone⟩ := RenderState.load_known disk.current_include h useCache place
  cases hload : (state.load useCache place).1 with
  | some t =>
    obtain ⟨modified, text, hmodified, hcurrent, rfl⟩ := hsome t hload
    rw [hcurrent hplace hmodified, Option.map_some]
  | none =>
    rcases hnone hload with habandoned | htext
    · rw [hlive] at habandoned
      cases habandoned
    · rw [htext, Option.map_none]

/-- An include, with what its name is resolved to and what is at that place. -/
theorem exec_includeFile (env : Environment) (layer : Layer Id) {args : Args} (hargs : args.require 1 = .ok ())
    (state : RenderState) :
    exec (Expand.includeFile env (some layer) args).run state =
      match state.files.resolve (args.textAt 0) with
      | .error (.notFound _) => (.error (.includeNotFound (args.textAt 0)), state)
      | .error e => (.error (.refusedPath e), state)
      | .ok place =>
        match state.load env.cacheIncludes place with
        | (none, after) => (.error (.includeNotFound (args.textAt 0)), after)
        | (some t, after) =>
          let (output, after) := exec (withFrame args.named (layer t t.nodes)) after
          (.ok output, after) := by
  have hfirst : exec (Expand.ofHelper (m := Id) args.name (args.require 1)).run state = (.ok (), state) := by
    rw [hargs]
    rfl
  have hlayer : exec (Expand.descend env (some layer)).run state = (.ok layer, state) := rfl
  have hresolve : exec (resolve (args.textAt 0)) state = (state.files.resolve (args.textAt 0), state) := rfl
  rw [Expand.includeFile, exec_expand_bind, hfirst]
  dsimp only
  rw [exec_expand_bind, hlayer]
  dsimp only
  rw [exec_expand_bind, exec_lift, hresolve]
  dsimp only
  cases state.files.resolve (args.textAt 0) with
  | error e => cases e <;> rfl
  | ok place =>
    have hload : exec (loadInclude env.cacheIncludes place) state = state.load env.cacheIncludes place := rfl
    dsimp only
    rw [exec_expand_bind, exec_lift, hload]
    rcases state.load env.cacheIncludes place with ⟨_ | t, after⟩
    · rfl
    · rfl

/-- An include expands the text that its file has now, in a state that differs from this one in nothing but in what is
kept of files; and it is not found just when there is nothing to read. -/
structure IncludeCurrent (disk : Disk) (env : Environment) (layer : Layer Id) (args : Args) (state : RenderState) :
    Prop where
  found : ∀ {path i text}, Path.normalize (args.textAt 0) = .ok path → disk.PicksRoot path i →
    disk.text? ⟨some i, path⟩ = some text → ∃ files includes, Coherent disk { state with files, includes } ∧
      exec (Expand.includeFile env (some layer) args).run state =
        let t := Template.parse text
        let (output, after) := exec (withFrame args.named (layer t t.nodes)) { state with files, includes }
        (.ok output, after)
  notFound : (exec (Expand.includeFile env (some layer) args).run state).1 =
    .error (.includeNotFound (args.textAt 0)) ↔ disk.Missing (args.textAt 0)

theorem Coherent.resolve_eq (h : Coherent disk state) (name : String) :
    state.files.resolve name = disk.resolve name := by
  obtain ⟨cache, hfiles, -⟩ := h.texts
  rw [hfiles]
  rfl

/-- What an include comes to when its name is resolved to a root. -/
theorem Coherent.exec_includeFile_of_picks (h : Coherent disk state) (hlive : state.abandoned = false)
    (env : Environment) (layer : Layer Id) {args : Args} (hargs : args.require 1 = .ok ()) {path : Path} {i : Nat}
    (hname : Path.normalize (args.textAt 0) = .ok path) (hpicks : disk.PicksRoot path i) :
    ∃ files includes, Coherent disk { state with files, includes } ∧
      exec (Expand.includeFile env (some layer) args).run state =
        match disk.text? ⟨some i, path⟩ with
        | none => (.error (.includeNotFound (args.textAt 0)), { state with files, includes })
        | some text =>
          let t := Template.parse text
          let (output, after) := exec (withFrame args.named (layer t t.nodes)) { state with files, includes }
          (.ok output, after) := by
  have hresolve : state.files.resolve (args.textAt 0) = .ok ⟨some i, path⟩ := by
    rw [h.resolve_eq]
    rcases Disk.resolve_eq hname with ⟨j, hj, hresolve⟩ | ⟨hnone, -⟩
    · rw [hpicks.unique hj, hresolve]
    · exact absurd hnone hpicks.not_forall
  obtain ⟨files, includes, hafter⟩ := state.load_eq env.cacheIncludes ⟨some i, path⟩
  have hload : state.load env.cacheIncludes ⟨some i, path⟩ =
      ((disk.text? ⟨some i, path⟩).map Template.parse, { state with files, includes }) := by
    rw [← hafter, ← h.load_eq hlive env.cacheIncludes (Path.not_mem_of_normalize hname)]
  have hcoherent : Coherent disk { state with files, includes } := by
    rw [← hafter]
    exact (RenderState.load_known disk.current_include h _ _).1
  refine ⟨files, includes, hcoherent, ?_⟩
  rw [exec_includeFile env layer hargs, hresolve]
  dsimp only
  rw [hload]
  cases disk.text? ⟨some i, path⟩ with
  | none => rfl
  | some text => rfl

theorem Coherent.includeCurrent (h : Coherent disk state) (hlive : state.abandoned = false) (env : Environment)
    (layer : Layer Id) {args : Args} (hargs : args.require 1 = .ok ()) : IncludeCurrent disk env layer args state where
  found := by
    intro path i text hname hpicks htext
    obtain ⟨files, includes, hcoherent, hrun⟩ := h.exec_includeFile_of_picks hlive env layer hargs hname hpicks
    rw [htext] at hrun
    exact ⟨files, includes, hcoherent, hrun⟩
  notFound := by
    have hdisk := h.resolve_eq (args.textAt 0)
    cases hname : Path.normalize (args.textAt 0) with
    | error e =>
      have hresolve : state.files.resolve (args.textAt 0) = .error e := by
        rw [hdisk, Disk.resolve, hname]
        rfl
      rw [exec_includeFile env layer hargs, hresolve, Disk.Missing, hname]
      cases e with
      | notFound given => simp
      | _ => simp
    | ok path =>
      rcases Disk.resolve_eq hname with ⟨i, hpicks, -⟩ | ⟨hnone, hresolve⟩
      · obtain ⟨files, includes, -, hrun⟩ := h.exec_includeFile_of_picks hlive env layer hargs hname hpicks
        rw [hrun]
        cases htext : disk.text? ⟨some i, path⟩ with
        | none => exact iff_of_true rfl (.inr ⟨path, hname, .inr ⟨i, hpicks, htext⟩⟩)
        | some text =>
          refine iff_of_false (fun hfailed => by cases hfailed) ?_
          rintro (⟨given, hgiven⟩ | ⟨other, hother, hnone | ⟨j, hj, htext'⟩⟩)
          · rw [hname] at hgiven
            cases hgiven
          · rw [hname] at hother
            cases hother
            exact hpicks.not_forall hnone
          · rw [hname] at hother
            cases hother
            rw [← hpicks.unique hj, htext] at htext'
            cases htext'
      · rw [exec_includeFile env layer hargs, hdisk, hresolve]
        exact iff_of_true rfl (.inr ⟨path, hname, .inl hnone⟩)

/-- Whatever is rendered in a coherent state, the states in between are coherent, and so is the one at the end. -/
structure StaysCoherent (disk : Disk) (state : RenderState) : Prop where
  moments : ∀ env levels t list, ∀ moment ∈ (moments env levels t list state).2, Coherent disk moment.state
  nodes : ∀ env levels t list, Coherent disk ((nodes env levels t list).exec state).2
  value : ∀ env t, Coherent disk ((value env t).exec state).2
  call : ∀ env levels c, Coherent disk (exec (Expand.call env (below env levels) c).run state).2
  block : ∀ env levels branches c, Coherent disk (exec (Expand.block env (below env levels) branches c).run state).2

theorem Coherent.staysCoherent (h : Coherent disk state) : StaysCoherent disk state := by
  have hrespected := respected_explained disk.current_include
  refine ⟨fun env levels t list => ?_, fun env levels t list => ?_, fun env t => ?_, fun env levels c => ?_,
    fun env levels branches c => ?_⟩
  · exact (holds_at_moments (invariant_explained disk.current_include env) levels t list state h).2.1
  · exact (hrespected.nodes env levels trivial state [] h).1
  · exact (hrespected.value env trivial state [] h).1
  · exact ((hrespected.followed (hrespected.levels env levels)).call c state [] h).1
  · exact (hrespected.block (hrespected.levels env levels) ⟨trivial, fun _ _ => trivial⟩ c state [] h).1

end Render

end Stencil
