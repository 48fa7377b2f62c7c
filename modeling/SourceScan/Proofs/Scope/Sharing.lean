import SourceScan.Proofs.Scope.History
import SourceScan.Scope.Shared

/-! # Frames with lists of their own

Calls on a tracker may make frames share a list. As long as every write of imports brings a list of
its own, no two frames hold the same one, and then the lists might as well be the imports
themselves: `ScopeTracker` does the same.
-/

namespace SourceScan

section Imports

variable {ι κ : Type}

def FrameEdit.mapImports (hold : ι → κ) (change : FrameEdit ι) : FrameEdit κ :=
  { change with imports := change.imports.map (Option.map hold) }

/-- The call with the imports that it writes held in something else. -/
def ScopeCall.mapImports (hold : ι → κ) : ScopeCall ι → ScopeCall κ
  | .openLevel closingSymbol lineno package => .openLevel closingSymbol lineno package
  | .closeLevel lineno => .closeLevel lineno
  | .setPackage package lineno => .setPackage package lineno
  | .addImport name => .addImport name
  | .edit change => .edit (change.mapImports hold)
  | .clear => .clear

end Imports

/-- A call that writes a list from before into the innermost frame. -/
def ScopeCall.Writes (call : ScopeCall ImportSource) (ref : ListRef) : Prop :=
  match call with
  | .edit change => change.imports = some (some (.held ref))
  | .openLevel .. | .closeLevel _ | .setPackage .. | .addImport _ | .clear => False

namespace SharedFrames

/-- Between two moments only the innermost frame and the list that it held have changed. If it holds
another list now, then that is a new one, or one that was written into it. -/
structure TopChange (shared next : SharedFrames) (written : ListRef → Prop) : Prop where
  below : next.frames.below = shared.frames.below
  length_le : shared.lists.length ≤ next.lists.length
  lists : ∀ ref < shared.lists.length, ref ∉ shared.frames.top.imports →
    next.lists[ref]? = shared.lists[ref]?
  imports : ∀ ref ∈ next.frames.top.imports, ref ∈ shared.frames.top.imports ∨
    ref = shared.lists.length ∧ ref < next.lists.length ∨
    ref < shared.lists.length ∧ written ref

/-! ## What changes at the top -/

variable {shared next : SharedFrames} {written : ListRef → Prop}

theorem topChange_refl (shared : SharedFrames) (written : ListRef → Prop) :
    shared.TopChange shared written where
  below := rfl
  length_le := le_rfl
  lists _ _ _ := rfl
  imports _ href := .inl href

theorem topChange_modifyTop {change : Frame ListRef → Frame ListRef}
    (hchange : (change shared.frames.top).imports = shared.frames.top.imports)
    (written : ListRef → Prop) : shared.TopChange (shared.modifyTop change) written where
  below := rfl
  length_le := le_rfl
  lists _ _ _ := rfl
  imports _ href := .inl (hchange ▸ href)

theorem topChange_provide (shared : SharedFrames) (imports : Option (List String))
    (written : ListRef → Prop) : shared.TopChange (shared.provide imports) written := by
  cases imports with
  | none => exact ⟨rfl, le_rfl, fun _ _ _ => rfl, fun _ href => by cases href⟩
  | some names =>
      have hlength : (shared.provide (some names)).lists.length = shared.lists.length + 1 :=
        List.length_append
      have hnew : shared.lists.length < (shared.provide (some names)).lists.length :=
        hlength.symm ▸ Nat.lt_succ_self _
      refine ⟨rfl, hnew.le, fun ref href _ => List.getElem?_append_left href, ?_⟩
      intro ref href
      obtain rfl := Option.some.inj href
      exact .inr (.inl ⟨rfl, hnew⟩)

theorem topChange_addImport (shared : SharedFrames) (name : String) (written : ListRef → Prop) :
    shared.TopChange (shared.addImport name) written := by
  unfold addImport
  split
  next => exact topChange_provide shared _ written
  next ref href =>
    split
    next => exact topChange_refl shared written
    next =>
      refine ⟨rfl, List.length_set.ge, ?_, fun _ hother => .inl hother⟩
      intro other _ hother
      have hne : ref ≠ other := by
        rintro rfl
        exact hother href
      exact List.getElem?_set_ne hne

theorem topChange_write (shared : SharedFrames) (source : Option ImportSource) :
    shared.TopChange (shared.write source) fun ref => source = some (.held ref) := by
  unfold write
  split
  next => exact topChange_provide shared none _
  next names => exact topChange_provide shared (some names) _
  next ref =>
    split
    next href =>
      refine ⟨rfl, le_rfl, fun _ _ _ => rfl, ?_⟩
      intro other hother
      obtain rfl := Option.some.inj hother
      exact .inr (.inr ⟨href, rfl⟩)
    next => exact topChange_refl shared _

theorem topChange_edit (shared : SharedFrames) (change : FrameEdit ImportSource) :
    shared.TopChange (shared.edit change) fun ref =>
      change.imports = some (some (.held ref)) := by
  unfold edit
  split
  next => exact topChange_modifyTop rfl _
  next source hsource =>
    obtain ⟨hbelow, hlength, hlists, himports⟩ := topChange_write (shared.modifyTop
      (·.edit { closingSymbol := change.closingSymbol, package := change.package })) source
    refine ⟨hbelow, hlength, hlists, fun ref href => ?_⟩
    rw [hsource, Option.some.injEq]
    exact himports ref href

/-! ## Lists that frames hold -/

/-- All lists that frames hold are in the store. -/
def Stored (shared : SharedFrames) : Prop :=
  ∀ frame ∈ shared.frames.toList, ∀ ref ∈ frame.imports, ref < shared.lists.length

/-- No two frames hold the same list. -/
def Distinct (shared : SharedFrames) : Prop :=
  shared.frames.toList.Pairwise fun frame other => ∀ ref ∈ frame.imports, ref ∉ other.imports

theorem stored_iff : shared.Stored ↔
    (∀ ref ∈ shared.frames.top.imports, ref < shared.lists.length) ∧
      ∀ frame ∈ shared.frames.below, ∀ ref ∈ frame.imports, ref < shared.lists.length :=
  List.forall_mem_cons

theorem distinct_iff : shared.Distinct ↔
    (∀ other ∈ shared.frames.below, ∀ ref ∈ shared.frames.top.imports, ref ∉ other.imports) ∧
      shared.frames.below.Pairwise fun frame other =>
        ∀ ref ∈ frame.imports, ref ∉ other.imports :=
  List.pairwise_cons

theorem Stored.topChange (hstored : shared.Stored) (hchange : shared.TopChange next written) :
    next.Stored := by
  obtain ⟨htop, hbelow⟩ := stored_iff.mp hstored
  rw [stored_iff, hchange.below]
  refine ⟨fun ref href => ?_, fun frame hframe ref href => ?_⟩
  · rcases hchange.imports ref href with hsame | ⟨_, hnew⟩ | ⟨hheld, _⟩
    · exact (htop ref hsame).trans_le hchange.length_le
    · exact hnew
    · exact hheld.trans_le hchange.length_le
  · exact (hbelow frame hframe ref href).trans_le hchange.length_le

theorem Distinct.topChange (hdistinct : shared.Distinct) (hstored : shared.Stored)
    (hchange : shared.TopChange next written) (hwritten : ∀ ref, ¬ written ref) :
    next.Distinct := by
  obtain ⟨htop, hbelow⟩ := distinct_iff.mp hdistinct
  rw [distinct_iff, hchange.below]
  refine ⟨fun other hother ref href => ?_, hbelow⟩
  rcases hchange.imports ref href with hsame | ⟨rfl, -⟩ | ⟨-, hheld⟩
  · exact htop other hother ref hsame
  · intro hmem
    exact lt_irrefl _ ((stored_iff.mp hstored).2 other hother _ hmem)
  · exact absurd hheld (hwritten ref)

theorem Stored.raise (hstored : shared.Stored) (closingSymbol package : Option String) :
    (shared.raise closingSymbol package).Stored :=
  stored_iff.mpr ⟨fun ref href => absurd href (Option.not_mem_none ref), hstored⟩

theorem Distinct.raise (hdistinct : shared.Distinct) (closingSymbol package : Option String) :
    (shared.raise closingSymbol package).Distinct :=
  distinct_iff.mpr ⟨fun _ _ ref href => absurd href (Option.not_mem_none ref), hdistinct⟩

theorem Stored.pop (hstored : shared.Stored) : shared.pop.2.Stored := by
  obtain ⟨⟨top, below⟩, lists⟩ := shared
  cases below with
  | nil => exact hstored
  | cons next rest => exact (stored_iff.mp hstored).2

theorem Distinct.pop (hdistinct : shared.Distinct) : shared.pop.2.Distinct := by
  obtain ⟨⟨top, below⟩, lists⟩ := shared
  cases below with
  | nil => exact hdistinct
  | cons next rest => exact (distinct_iff.mp hdistinct).2

/-! ## Lists as values -/

theorem names_congr {ref : ListRef} (hlists : next.lists[ref]? = shared.lists[ref]?) :
    next.names ref = shared.names ref := by
  rw [names, names, List.getD_eq_getElem?_getD, hlists, ← List.getD_eq_getElem?_getD]

/-- What frames import depends on their own lists alone. -/
theorem map_mapImports_congr {frames : List (Frame ListRef)}
    (hsame : ∀ frame ∈ frames, ∀ ref ∈ frame.imports, next.names ref = shared.names ref) :
    frames.map (Frame.mapImports next.names) = frames.map (Frame.mapImports shared.names) := by
  apply List.map_congr_left
  intro frame hframe
  unfold Frame.mapImports
  rw [Option.map_congr (hsame frame hframe)]

theorem reading_provide (shared : SharedFrames) (hbelow : ∀ frame ∈ shared.frames.below,
      ∀ ref ∈ frame.imports, ref < shared.lists.length) (imports : Option (List String)) :
    (shared.provide imports).reading = shared.reading.modifyTop ({ · with imports }) := by
  cases imports with
  | none => rfl
  | some names =>
      have hnew : (shared.provide (some names)).names shared.lists.length = names := by
        simp [SharedFrames.names, provide]
      apply congrArg₂ Frames.mk
      · exact congrArg (fun names => Frame.mk _ _ (some names)) hnew
      · apply map_mapImports_congr
        intro frame hframe ref href
        exact names_congr (List.getElem?_append_left (hbelow frame hframe ref href))

theorem reading_push (hstored : shared.Stored) (closingSymbol package : Option String) :
    (shared.push closingSymbol package).reading = shared.reading.push closingSymbol package :=
  reading_provide (shared.raise closingSymbol package) hstored shared.reading.top.imports

/-- A list that is set anew shows in the innermost frame alone, if no other frame holds it. -/
theorem reading_set {ref : ListRef} (hheld : shared.frames.top.imports = some ref)
    (hlength : ref < shared.lists.length)
    (hapart : ∀ frame ∈ shared.frames.below, ref ∉ frame.imports) (names : List String) :
    { shared with lists := shared.lists.set ref names }.reading =
      shared.reading.modifyTop ({ · with imports := some names }) := by
  have hnew : { shared with lists := shared.lists.set ref names }.names ref = names := by
    simp [SharedFrames.names, List.getD_eq_getElem?_getD, hlength]
  apply congrArg₂ Frames.mk
  · unfold Frame.mapImports
    rw [hheld, Option.map_some, hnew]
    rfl
  · apply map_mapImports_congr
    intro frame hframe other hother
    have hne : ref ≠ other := by
      rintro rfl
      exact hapart frame hframe hother
    exact names_congr (List.getElem?_set_ne hne)

/-- An import comes to the innermost frame alone, if no other frame holds the list of that one. -/
theorem reading_addImport (hstored : shared.Stored) (hdistinct : shared.Distinct)
    (name : String) :
    (shared.addImport name).reading = shared.reading.modifyTop (·.addImport name) := by
  obtain ⟨htop, hbelow⟩ := stored_iff.mp hstored
  have hreads : shared.reading.top.imports = shared.frames.top.imports.map shared.names := rfl
  unfold addImport Frames.modifyTop Frame.addImport
  beta_reduce
  cases hheld : shared.frames.top.imports with
  | none =>
      rw [hheld, Option.map_none] at hreads
      rw [hreads]
      exact reading_provide shared hbelow (some [name])
  | some ref =>
      rw [hheld, Option.map_some] at hreads
      rw [hreads]
      dsimp only
      by_cases hname : name ∈ shared.names ref
      · rw [if_pos hname, if_pos hname]
      · rw [if_neg hname, if_neg hname]
        exact reading_set hheld (htop ref hheld)
          (fun frame hframe => (distinct_iff.mp hdistinct).1 frame hframe ref hheld) _

theorem reading_edit_made (hstored : shared.Stored) (change : FrameEdit) :
    (shared.edit (change.mapImports .made)).reading = shared.reading.modifyTop (·.edit change) := by
  obtain ⟨closingSymbol, package, imports⟩ := change
  rcases imports with - | - | names
  · rfl
  · rfl
  · exact reading_provide (shared.modifyTop (·.edit { closingSymbol, package }))
      (stored_iff.mp hstored).2 (some names)

end SharedFrames

namespace SharedTracker

variable {tracker : SharedTracker}

/-- The tracker after a call. -/
def perform (tracker : SharedTracker) (naming : Naming) : ScopeCall ImportSource → SharedTracker
  | .openLevel closingSymbol lineno package =>
      tracker.openLevel naming closingSymbol lineno package
  | .closeLevel lineno => (tracker.closeLevel naming lineno).2
  | .setPackage package lineno => tracker.setPackage naming package lineno
  | .addImport name => tracker.addImport name
  | .edit change => tracker.edit change
  | .clear => tracker.clear

/-- The tracker after calls one behind another. -/
def performAll (tracker : SharedTracker) (naming : Naming)
    (calls : List (ScopeCall ImportSource)) : SharedTracker :=
  calls.foldl (fun tracker call => tracker.perform naming call) tracker

theorem performAll_append (tracker : SharedTracker) (naming : Naming)
    (calls others : List (ScopeCall ImportSource)) :
    tracker.performAll naming (calls ++ others) =
      (tracker.performAll naming calls).performAll naming others :=
  List.foldl_append

/-- A call opens a level, closes one, clears the tracker, or stays on the innermost frame. -/
theorem nesting_perform_cases (tracker : SharedTracker) (naming : Naming)
    (call : ScopeCall ImportSource) :
    (∃ closingSymbol package, (tracker.nesting.raise closingSymbol package).TopChange
      (tracker.perform naming call).nesting call.Writes) ∨
    (∃ lineno, call = .closeLevel lineno ∧
      (tracker.perform naming call).nesting = tracker.nesting.pop.2) ∨
    (call = .clear ∧ tracker.perform naming call = tracker.clear) ∨
    tracker.nesting.TopChange (tracker.perform naming call).nesting call.Writes := by
  cases call with
  | openLevel closingSymbol lineno package =>
      exact .inl ⟨closingSymbol, package, SharedFrames.topChange_provide _ _ _⟩
  | closeLevel lineno => exact .inr (.inl ⟨lineno, rfl, rfl⟩)
  | setPackage package lineno =>
      exact .inr (.inr (.inr (SharedFrames.topChange_modifyTop rfl _)))
  | addImport name => exact .inr (.inr (.inr (SharedFrames.topChange_addImport _ name _)))
  | edit change => exact .inr (.inr (.inr (SharedFrames.topChange_edit _ change)))
  | clear => exact .inr (.inr (.inl ⟨rfl, rfl⟩))

theorem stored_clear (tracker : SharedTracker) : tracker.clear.nesting.Stored := by
  intro frame hframe ref href
  obtain rfl := List.mem_singleton.mp hframe
  exact absurd href (Option.not_mem_none ref)

theorem stored_perform (hstored : tracker.nesting.Stored) (naming : Naming)
    (call : ScopeCall ImportSource) : (tracker.perform naming call).nesting.Stored := by
  rcases tracker.nesting_perform_cases naming call with
    ⟨closingSymbol, package, hchange⟩ | ⟨lineno, -, hclosed⟩ | ⟨-, hcleared⟩ | hchange
  · exact (hstored.raise closingSymbol package).topChange hchange
  · rw [hclosed]
    exact hstored.pop
  · rw [hcleared]
    exact stored_clear tracker
  · exact hstored.topChange hchange

/-- Whatever is called, frames hold lists of the store. -/
theorem stored_performAll (naming : Naming) (calls : List (ScopeCall ImportSource)) :
    (fresh.performAll naming calls).nesting.Stored := by
  induction calls using List.reverseRecOn with
  | nil => exact stored_clear fresh
  | append_singleton calls call ih =>
      rw [performAll_append]
      exact stored_perform ih naming call

theorem distinct_perform (hdistinct : tracker.nesting.Distinct) (hstored : tracker.nesting.Stored)
    (naming : Naming) {call : ScopeCall ImportSource} (hcall : ∀ ref, ¬ call.Writes ref) :
    (tracker.perform naming call).nesting.Distinct := by
  rcases tracker.nesting_perform_cases naming call with
    ⟨closingSymbol, package, hchange⟩ | ⟨lineno, -, hclosed⟩ | ⟨-, hcleared⟩ | hchange
  · exact (hdistinct.raise closingSymbol package).topChange
      (hstored.raise closingSymbol package) hchange hcall
  · rw [hclosed]
    exact hdistinct.pop
  · rw [hcleared]
    exact List.pairwise_singleton _ _
  · exact hdistinct.topChange hstored hchange hcall

/-- The tracker with the imports themselves in its frames. -/
def unshared (tracker : SharedTracker) : ScopeTracker := ⟨tracker.nesting.reading, tracker.record⟩

theorem not_writes_mapImports_made (call : ScopeCall) (ref : ListRef) :
    ¬ (call.mapImports ImportSource.made).Writes ref := by
  cases call with
  | openLevel | closeLevel | setPackage | addImport | clear => exact not_false
  | edit change =>
      obtain ⟨closingSymbol, package, imports⟩ := change
      rcases imports with - | - | names <;> nofun

theorem unshared_perform (hstored : tracker.nesting.Stored) (hdistinct : tracker.nesting.Distinct)
    (naming : Naming) (call : ScopeCall) :
    (tracker.perform naming (call.mapImports .made)).unshared =
      tracker.unshared.perform naming call := by
  have henter : ∀ {lineno : Int} {nesting : SharedFrames} {frames : Frames},
      nesting.reading = frames → (tracker.enter naming lineno nesting).unshared =
        tracker.unshared.enter naming lineno frames := by
    rintro lineno nesting _ rfl
    rfl
  cases call with
  | openLevel closingSymbol lineno package =>
      exact henter (SharedFrames.reading_push hstored closingSymbol package)
  | closeLevel lineno =>
      obtain ⟨⟨⟨top, below⟩, lists⟩, record⟩ := tracker
      cases below with
      | nil => rfl
      | cons next rest => rfl
  | setPackage package lineno => rfl
  | addImport name =>
      exact congrArg (ScopeTracker.mk · tracker.record)
        (SharedFrames.reading_addImport hstored hdistinct name)
  | edit change =>
      exact congrArg (ScopeTracker.mk · tracker.record)
        (SharedFrames.reading_edit_made hstored change)
  | clear => rfl

/-- If every write of imports brings a list of its own, frames with lists come to the same as frames
with the imports in them. -/
theorem unshared_performAll (naming : Naming) (calls : List ScopeCall) :
    (fresh.performAll naming (calls.map (ScopeCall.mapImports .made))).unshared =
      ScopeTracker.fresh.performAll naming calls := by
  have hrun : ∀ tracker : SharedTracker, tracker.nesting.Stored → tracker.nesting.Distinct →
      (tracker.performAll naming (calls.map (ScopeCall.mapImports .made))).unshared =
        tracker.unshared.performAll naming calls := by
    induction calls with
    | nil => exact fun _ _ _ => rfl
    | cons call rest ih =>
        intro tracker hstored hdistinct
        have hcall := unshared_perform hstored hdistinct naming call
        have hrest := ih _ (stored_perform hstored naming (call.mapImports .made))
          (distinct_perform hdistinct hstored naming (not_writes_mapImports_made call))
        rw [hcall] at hrest
        exact hrest
  exact hrun fresh (stored_clear fresh) (List.pairwise_singleton _ _)

end SharedTracker

end SourceScan
