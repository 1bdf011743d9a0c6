import Stencil.Proofs.Fields
import Stencil.Scope

/-!
Scopes as one map.

A name is looked up from the innermost frame outwards, up to the first frame that hides what is around it. To hand a
scope over as a whole it is flattened: the bindings that can be seen are laid on top of each other, from the outermost
to the innermost. The two go through the frames in opposite directions and stop for different reasons, so that they
agree is not in how they are written.

What they have in common are the bindings in sight, innermost first. A lookup is the first hit in them, and flattening
merges them from the end. The last one that is merged wins, and it is the first one that is looked at; for this no
frame may bind a name twice, which every way to change a scope preserves.
-/

namespace Stencil.Scope

/-! ## 1. Bindings in sight -/

/-- The bindings that can be seen, innermost first: those of the frames up to the first one that is isolated, and if
there is none those of all frames and of the root. -/
def inSight (scope : Scope) : List (Fields Value) :=
  match scope.frames.findIdx? Frame.isolated with
  | some i => (scope.frames.take (i + 1)).map Frame.bindings
  | none => scope.frames.map Frame.bindings ++ [scope.root]

variable {root : Fields Value} {frame : Frame} {frames : List Frame}

theorem inSight_isolated (h : frame.isolated = true) : inSight ⟨frame :: frames, root⟩ = [frame.bindings] := by
  simp [inSight, List.findIdx?_cons, h]

theorem inSight_open (h : frame.isolated = false) :
    inSight ⟨frame :: frames, root⟩ = frame.bindings :: inSight ⟨frames, root⟩ := by
  simp only [inSight, List.findIdx?_cons, h, Bool.false_eq_true, if_false]
  cases frames.findIdx? Frame.isolated <;> simp

/-- A lookup is the first hit among the bindings in sight. -/
theorem get?_eq_findSome? (scope : Scope) (key : String) :
    scope.get? key = scope.inSight.findSome? (Fields.get? key) := by
  obtain ⟨frames, root⟩ := scope
  rw [get?]
  induction frames with
  | nil => simp [getFrom, inSight]
  | cons frame frames ih =>
    rw [getFrom]
    by_cases h : frame.isolated = true
    · rw [inSight_isolated h, h]
      cases hkey : Fields.get? key frame.bindings <;> simp [hkey]
    · rw [Bool.not_eq_true] at h
      rw [inSight_open h, List.findSome?_cons, ← ih, h]
      cases Fields.get? key frame.bindings <;> simp

/-! ## 2. Merging -/

/-- No frame binds a name twice. -/
structure Distinct (scope : Scope) : Prop where
  frames : ∀ frame ∈ scope.frames, frame.bindings.keys.Nodup
  root : scope.root.keys.Nodup

theorem Distinct.inSight {scope : Scope} (h : scope.Distinct) :
    ∀ bindings ∈ scope.inSight, bindings.keys.Nodup := by
  intro bindings hmem
  rw [Scope.inSight] at hmem
  split at hmem
  · obtain ⟨frame, hframe, rfl⟩ := List.mem_map.mp hmem
    exact h.frames frame (List.mem_of_mem_take hframe)
  · rcases List.mem_append.mp hmem with hmem | hmem
    · obtain ⟨frame, hframe, rfl⟩ := List.mem_map.mp hmem
      exact h.frames frame hframe
    · rw [List.mem_singleton.mp hmem]
      exact h.root

/-- Flattening merges the bindings in sight into an empty map, the outermost first. -/
theorem flatten_eq_foldl {scope : Scope} (h : scope.Distinct) :
    scope.flatten = scope.inSight.reverse.foldl Fields.insertAll [] := by
  obtain ⟨frames, root⟩ := scope
  rw [flatten]
  induction frames with
  | nil =>
    have hroot : Fields.insertAll [] root = root := Fields.insertAll_of_nodup h.root
    simp [flattenFrom, Scope.inSight, hroot]
  | cons frame frames ih =>
    have hframe : Fields.insertAll [] frame.bindings = frame.bindings :=
      Fields.insertAll_of_nodup (h.frames frame List.mem_cons_self)
    rw [flattenFrom]
    by_cases hisolated : frame.isolated = true
    · rw [inSight_isolated hisolated, if_pos hisolated]
      exact hframe.symm
    · have hrest : Distinct ⟨frames, root⟩ := ⟨fun f hf => h.frames f (List.mem_cons_of_mem frame hf), h.root⟩
      rw [inSight_open (Bool.not_eq_true _ ▸ hisolated), if_neg hisolated, List.reverse_cons, List.foldl_append,
        ← ih hrest]
      rfl

/-- What was merged last is found first. -/
theorem get?_foldl_insertAll (key : String) {layers : List (Fields Value)}
    (h : ∀ bindings ∈ layers, bindings.keys.Nodup) :
    Fields.get? key (layers.reverse.foldl Fields.insertAll []) = layers.findSome? (Fields.get? key) := by
  induction layers with
  | nil => rfl
  | cons bindings layers ih =>
    obtain ⟨hbindings, hlayers⟩ := List.forall_mem_cons.mp h
    rw [List.reverse_cons, List.foldl_append, List.foldl_cons, List.foldl_nil,
      Fields.get?_insertAll _ _ _ hbindings, ih hlayers, List.findSome?_cons]
    cases Fields.get? key bindings <;> simp

theorem get?_flatten {scope : Scope} (h : scope.Distinct) (key : String) :
    Fields.get? key scope.flatten = scope.get? key := by
  rw [flatten_eq_foldl h, get?_foldl_insertAll key h.inSight, get?_eq_findSome?]

theorem getPath?_flatten {scope : Scope} (h : scope.Distinct) (path : List String) :
    (ofFields scope.flatten).getPath? path = scope.getPath? path := by
  cases path with
  | nil => rfl
  | cons key rest =>
    have hkey : (ofFields scope.flatten).get? key = scope.get? key := get?_flatten h key
    rw [getPath?, getPath?, hkey]

/-! ## 3. Ways to change a scope -/

/-- One change of a scope. Frames come as maps, in which a name stands once. -/
inductive Change where
  | insert (key : String) (v : Value)
  | insertRoot (key : String) (v : Value)
  | setVar (name : String) (v : Value)
  | setNamespaced (name dotted : String) (v : Value)
  | push (bindings : Fields Value) (distinct : bindings.keys.Nodup)
  | pushIsolated (bindings : Fields Value) (distinct : bindings.keys.Nodup)
  | pop

namespace Change

/-- The scope after a change. -/
def apply (scope : Scope) : Change → Scope
  | .insert key v => scope.insert key v
  | .insertRoot key v => scope.insertRoot key v
  | .setVar name v => scope.setVar name v
  | .setNamespaced name dotted v => scope.setNamespaced name dotted v
  | .push bindings _ => scope.push bindings
  | .pushIsolated bindings _ => scope.pushIsolated bindings
  | .pop => scope.pop

/-- The number of scopes after a change. The root is not taken away. -/
def depth (before : Nat) : Change → Nat
  | .push _ _ => before + 1
  | .pushIsolated _ _ => before + 1
  | .pop => max 1 (before - 1)
  | _ => before

end Change

theorem Distinct.insert {scope : Scope} (h : scope.Distinct) (key : String) (v : Value) :
    (scope.insert key v).Distinct := by
  obtain ⟨frames, root⟩ := scope
  cases frames with
  | nil => exact ⟨h.frames, Fields.nodup_keys_insert h.root key v⟩
  | cons frame frames =>
    obtain ⟨hframe, hframes⟩ := List.forall_mem_cons.mp h.frames
    exact ⟨List.forall_mem_cons.mpr ⟨Fields.nodup_keys_insert hframe key v, hframes⟩, h.root⟩

theorem Distinct.apply {scope : Scope} (h : scope.Distinct) (change : Change) : (change.apply scope).Distinct := by
  cases change with
  | insert key v => exact h.insert key v
  | insertRoot key v => exact ⟨h.frames, Fields.nodup_keys_insert h.root key v⟩
  | setVar name v => exact h.insert varsName _
  | setNamespaced name dotted v => exact ⟨h.frames, Fields.nodup_keys_insert h.root name _⟩
  | push bindings distinct => exact ⟨List.forall_mem_cons.mpr ⟨distinct, h.frames⟩, h.root⟩
  | pushIsolated bindings distinct => exact ⟨List.forall_mem_cons.mpr ⟨distinct, h.frames⟩, h.root⟩
  | pop => exact ⟨fun frame hframe => h.frames frame (List.mem_of_mem_tail hframe), h.root⟩

theorem Distinct.foldl_apply {scope : Scope} (h : scope.Distinct) (changes : List Change) :
    (changes.foldl Change.apply scope).Distinct := by
  induction changes generalizing scope with
  | nil => exact h
  | cons change changes ih => exact ih (h.apply change)

theorem depth_insert (scope : Scope) (key : String) (v : Value) : (scope.insert key v).depth = scope.depth := by
  obtain ⟨frames, root⟩ := scope
  cases frames <;> rfl

theorem depth_apply (scope : Scope) (change : Change) :
    (change.apply scope).depth = change.depth scope.depth := by
  cases change with
  | insert key v => exact depth_insert scope key v
  | setVar name v => exact depth_insert scope varsName _
  | pop =>
    simp only [Change.apply, Change.depth, pop, Scope.depth, List.length_tail]
    omega
  | insertRoot => rfl
  | setNamespaced => rfl
  | push => rfl
  | pushIsolated => rfl

theorem depth_foldl_apply (scope : Scope) (changes : List Change) :
    (changes.foldl Change.apply scope).depth = changes.foldl Change.depth scope.depth := by
  induction changes generalizing scope with
  | nil => rfl
  | cons change changes ih => rw [List.foldl_cons, List.foldl_cons, ih, depth_apply]

/-! ## 4. Both ways to read a scope -/

/-- A scope and its flattened map show the same, to every way of looking at them. -/
structure ShownBy (scope : Scope) (flat : Fields Value) : Prop where
  get : ∀ key, scope.get? key = Fields.get? key flat
  has : ∀ key, scope.has key = Fields.has key flat
  lookup : ∀ dotted, scope.lookup? dotted = (ofFields flat).lookup? dotted

theorem Distinct.shownBy_flatten {scope : Scope} (h : scope.Distinct) : scope.ShownBy scope.flatten := by
  refine ⟨fun key => (get?_flatten h key).symm, fun key => ?_, fun dotted => ?_⟩
  · rw [Scope.has, Fields.has, get?_flatten h key]
  · exact (getPath?_flatten h (segments dotted)).symm

/-- **Looking up and flattening agree**, in whatever scope there is after any changes to the data of a render. The
flattened map is what comes of merging the bindings in sight from the outermost to the innermost. The number of scopes
is the one that the changes add up to, and does not drop below one. -/
theorem flatten_agrees_after_changes {root : Fields Value} (hroot : root.keys.Nodup) (changes : List Change) :
    let scope := changes.foldl Change.apply (ofFields root)
    scope.ShownBy scope.flatten ∧ scope.flatten = scope.inSight.reverse.foldl Fields.insertAll [] ∧
      scope.depth = changes.foldl Change.depth 1 ∧ 1 ≤ scope.depth := by
  intro scope
  have hstart : Distinct (ofFields root) := ⟨fun _ hframe => (nomatch hframe), hroot⟩
  have hdistinct : scope.Distinct := hstart.foldl_apply changes
  exact ⟨hdistinct.shownBy_flatten, flatten_eq_foldl hdistinct, depth_foldl_apply _ changes, Nat.le_add_left _ _⟩

/-- A frame that is gone again, one that hides the root and one above it, with a name bound in the root meanwhile. -/
theorem flatten_agrees_after_changes_isolated :
    let root : Fields Value := [("a", .string "root"), ("b", .string "root")]
    let changes : List Change := [.setVar "x" (.string "outer"), .push [("a", .string "gone")] (by decide),
      .setVar "y" (.string "gone"), .pop, .pushIsolated [("b", .string "frame")] (by decide),
      .push [("a", .string "top"), ("b", .string "top")] (by decide), .insertRoot "c" (.string "late")]
    let scope := changes.foldl Change.apply (ofFields root)
    root.keys.Nodup ∧ scope.flatten = [("b", .string "top"), ("a", .string "top")] ∧ scope.ShownBy scope.flatten ∧
      scope.get? "c" = none ∧ scope.lookup? "vars.x" = none ∧ scope.depth = 3 := by
  intro root changes scope
  have hroot : root.keys.Nodup := by decide
  obtain ⟨hshown, hflatten, hdepth, -⟩ := flatten_agrees_after_changes hroot changes
  refine ⟨hroot, hflatten, hshown, ?_, ?_, hdepth⟩
  · exact hshown.get "c"
  · exact hshown.lookup "vars.x"

end Stencil.Scope
