import Mathlib.Data.List.Induction
import Mathlib.Data.List.Chain
import Mathlib.Data.List.Nodup
import SourceScan.Proofs.Scope.History

/-! # Imports of levels

A level begins with the imports of the level below and gets more while it is the innermost one.
Unless frames are edited, it lists each of these names once, in the order in which they first came.
So the list of a level begins with that of the level below.
-/

namespace SourceScan

section EraseDups

variable {α : Type} [DecidableEq α]

theorem eraseDups_concat (items : List α) (item : α) :
    (items ++ [item]).eraseDups =
      if item ∈ items then items.eraseDups else items.eraseDups ++ [item] := by
  rw [List.eraseDups_append]
  by_cases hitem : item ∈ items
  · simp [List.removeAll, hitem]
  · simp [List.removeAll, hitem, List.eraseDups_cons]

theorem nodup_eraseDups (items : List α) : items.eraseDups.Nodup := by
  induction items using List.reverseRecOn with
  | nil => simp
  | append_singleton items item ih =>
      rw [eraseDups_concat]
      split
      next => exact ih
      next hitem =>
        rw [← List.mem_eraseDups] at hitem
        exact List.nodup_append_comm.mp (List.nodup_cons.mpr ⟨hitem, ih⟩)

theorem eraseDups_of_nodup {items : List α} (hitems : items.Nodup) : items.eraseDups = items := by
  induction items using List.reverseRecOn with
  | nil => simp
  | append_singleton items item ih =>
      have hcons : (item :: items).Nodup := List.nodup_append_comm.mp hitems
      obtain ⟨hitem, hrest⟩ := List.nodup_cons.mp hcons
      rw [eraseDups_concat, if_neg hitem, ih hrest]

end EraseDups

/-- The names imported on a level, as they came. -/
structure ImportLevel where
  /-- The names that the level below had when this one was opened. -/
  inherited : List String := []
  /-- The names that came while the level was the innermost one. -/
  added : List String := []
deriving DecidableEq

namespace ImportLevel

variable (level : ImportLevel)

/-- Each name once, in the order in which the names first came. -/
def names : List String := (level.inherited ++ level.added).eraseDups

/-- The names of a level, if there are any. -/
def imports? : Option (List String) :=
  if level.inherited ++ level.added = [] then none else some level.names

def add (name : String) : ImportLevel := { level with added := level.added ++ [name] }

/-- A level that is opened on another one. -/
def above : ImportLevel := { inherited := level.names }

theorem names_eq_nil_iff : level.names = [] ↔ level.inherited ++ level.added = [] := by
  simp only [names, List.eq_nil_iff_forall_not_mem, List.mem_eraseDups]

theorem getD_imports? : level.imports?.getD [] = level.names := by
  unfold imports?
  split
  next hnone => exact ((names_eq_nil_iff level).mpr hnone).symm
  next => rfl

theorem of_mem_imports? {names : List String} (hnames : names ∈ level.imports?) :
    names ≠ [] ∧ names.Nodup := by
  unfold imports? at hnames
  split at hnames
  next => cases hnames
  next hsome =>
    obtain rfl := Option.some.inj hnames
    exact ⟨(names_eq_nil_iff level).not.mpr hsome, nodup_eraseDups _⟩

theorem imports?_above : level.above.imports? = level.imports? := by
  have hnames : level.above.names = level.names := by
    rw [names, above, List.append_nil]
    exact eraseDups_of_nodup (nodup_eraseDups _)
  simp only [imports?, ← names_eq_nil_iff, hnames]

theorem imports_addImport {frame : Frame} (hframe : frame.imports = level.imports?)
    (name : String) : (frame.addImport name).imports = (level.add name).imports? := by
  have hadd : (level.add name).imports? = some
      (if name ∈ level.names then level.names else level.names ++ [name]) := by
    have hcame : (level.add name).inherited ++ (level.add name).added =
        level.inherited ++ level.added ++ [name] := (List.append_assoc ..).symm
    rw [imports?, names, hcame, if_neg (List.concat_ne_nil name _), eraseDups_concat, names]
    simp only [List.mem_eraseDups]
  rw [hadd]
  unfold Frame.addImport
  cases himports : frame.imports with
  | none =>
      have hnone : level.names = [] := by
        rw [← getD_imports?, ← hframe, himports]
        rfl
      simp [hnone]
  | some names =>
      have hnames : names = level.names := by
        rw [← getD_imports?, ← hframe, himports]
        rfl
      subst hnames
      dsimp only
      split
      next => exact himports
      next => rfl

/-- A level lists first what the level below listed when it was opened. -/
theorem names_isPrefix {inner outer : ImportLevel} (hinherited : inner.inherited = outer.names) :
    outer.names <+: inner.names := by
  have hnodup : outer.names.Nodup := nodup_eraseDups _
  have hinner : inner.names = outer.names ++ (inner.added.removeAll outer.names).eraseDups := by
    rw [names, List.eraseDups_append, hinherited, eraseDups_of_nodup hnodup]
  rw [hinner]
  exact List.prefix_append _ _

end ImportLevel

/-- The open levels by their imports: the innermost one, and those below it from the inside out. -/
structure ImportLevels where
  top : ImportLevel := {}
  below : List ImportLevel := []
deriving DecidableEq

namespace ImportLevels

def toList (levels : ImportLevels) : List ImportLevel := levels.top :: levels.below

/-- The levels after a call, if it is no edit. -/
def perform (levels : ImportLevels) : ScopeCall → ImportLevels
  | .openLevel _ _ _ => ⟨levels.top.above, levels.top :: levels.below⟩
  | .closeLevel _ =>
      match levels.below with
      | [] => levels
      | next :: rest => ⟨next, rest⟩
  | .addImport name => ⟨levels.top.add name, levels.below⟩
  | .setPackage _ _ | .edit _ => levels
  | .clear => {}

/-- The levels after calls one behind another. -/
def performAll (levels : ImportLevels) (calls : List ScopeCall) : ImportLevels :=
  calls.foldl perform levels

/-- Each level inherits what the level below has. -/
def Inherits (levels : ImportLevels) : Prop :=
  levels.toList.IsChain fun inner outer => inner.inherited = outer.names

theorem inherits_perform {levels : ImportLevels} (hlevels : levels.Inherits) (call : ScopeCall) :
    (levels.perform call).Inherits := by
  obtain ⟨top, below⟩ := levels
  cases call with
  | openLevel => exact List.isChain_cons_cons.mpr ⟨rfl, hlevels⟩
  | closeLevel =>
      cases below with
      | nil => exact hlevels
      | cons next rest => exact (List.isChain_cons_cons.mp hlevels).2
  | addImport name =>
      cases below with
      | nil => exact List.isChain_singleton _
      | cons next rest =>
          obtain ⟨htop, hrest⟩ := List.isChain_cons_cons.mp hlevels
          exact List.isChain_cons_cons.mpr ⟨htop, hrest⟩
  | setPackage | edit => exact hlevels
  | clear => exact List.isChain_singleton _

theorem inherits_performAll {levels : ImportLevels} (hlevels : levels.Inherits)
    (calls : List ScopeCall) : (levels.performAll calls).Inherits := by
  induction calls generalizing levels with
  | nil => exact hlevels
  | cons call rest ih => exact ih (inherits_perform hlevels call)

end ImportLevels

namespace ScopeTracker

variable {tracker : ScopeTracker} {naming : Naming} {levels : ImportLevels}

theorem map_imports_perform
    (hframes : tracker.frames.toList.map Frame.imports =
      levels.toList.map ImportLevel.imports?)
    {call : ScopeCall} (hcall : ∀ change, call ≠ .edit change) :
    (tracker.perform naming call).frames.toList.map Frame.imports =
      (levels.perform call).toList.map ImportLevel.imports? := by
  obtain ⟨⟨top, below⟩, record⟩ := tracker
  obtain ⟨level, outer⟩ := levels
  obtain ⟨htop, hbelow⟩ := List.cons.inj hframes
  cases call with
  | openLevel => exact congrArg₂ List.cons (htop.trans level.imports?_above.symm) hframes
  | closeLevel =>
      cases below with
      | nil =>
          obtain rfl := List.map_eq_nil_iff.mp hbelow.symm
          exact hframes
      | cons next rest =>
          cases outer with
          | nil => cases hbelow
          | cons => exact hbelow
  | addImport name => exact congrArg₂ List.cons (level.imports_addImport htop name) hbelow
  | setPackage => exact hframes
  | edit change => exact absurd rfl (hcall change)
  | clear => rfl

theorem map_imports_performAll
    (hframes : tracker.frames.toList.map Frame.imports =
      levels.toList.map ImportLevel.imports?)
    {calls : List ScopeCall} (hcalls : ∀ change, ScopeCall.edit change ∉ calls) :
    (tracker.performAll naming calls).frames.toList.map Frame.imports =
      (levels.performAll calls).toList.map ImportLevel.imports? := by
  induction calls generalizing tracker levels with
  | nil => exact hframes
  | cons call rest ih =>
      refine ih (map_imports_perform hframes fun change heq => ?_) fun change hmem => ?_
      · exact hcalls change (heq ▸ List.mem_cons_self)
      · exact hcalls change (List.mem_cons_of_mem _ hmem)

/-- After calls that edit no frame, no frame has an empty list of imports or one that names the same
twice, and each list begins with that of the frame below. The innermost frame lists what it began
with and then what was added to it, each name where it first came, and has no list if nothing came. -/
theorem imports_of_calls (naming : Naming) (calls : List ScopeCall)
    (hcalls : ∀ change, ScopeCall.edit change ∉ calls) :
    let frames := (fresh.performAll naming calls).frames
    let levels := ({} : ImportLevels).performAll calls
    (∀ frame ∈ frames.toList, ∀ names ∈ frame.imports, names ≠ [] ∧ names.Nodup) ∧
      (frames.toList.IsChain fun inner outer =>
        outer.imports.getD [] <+: inner.imports.getD []) ∧
      frames.toList.map Frame.imports = levels.toList.map ImportLevel.imports? ∧
      frames.top.imports = levels.top.imports? := by
  intro frames levels
  have hframes : frames.toList.map Frame.imports = levels.toList.map ImportLevel.imports? :=
    map_imports_performAll rfl hcalls
  have hstart : ({} : ImportLevels).Inherits := List.isChain_singleton _
  have hinherits : levels.Inherits := ImportLevels.inherits_performAll hstart calls
  refine ⟨?_, ?_, hframes, (List.cons.inj hframes).1⟩
  · intro frame hframe names hnames
    have hmem : frame.imports ∈ levels.toList.map ImportLevel.imports? :=
      hframes ▸ List.mem_map_of_mem hframe
    obtain ⟨level, -, hlevel⟩ := List.mem_map.mp hmem
    exact level.of_mem_imports? (hlevel ▸ hnames)
  · have hchain : (levels.toList.map ImportLevel.imports?).IsChain fun inner outer =>
        outer.getD [] <+: inner.getD [] := by
      rw [List.isChain_map]
      apply hinherits.imp
      intro inner outer hlevel
      rw [inner.getD_imports?, outer.getD_imports?]
      exact ImportLevel.names_isPrefix hlevel
    rw [← hframes, List.isChain_map] at hchain
    exact hchain

/-- Names that come again on the level that inherits them, around a level that is closed. -/
theorem imports_of_calls_reopened :
    let calls : List ScopeCall := [.addImport "z", .clear, .addImport "a",
      .openLevel (some "end") 2 none, .addImport "b", .addImport "a",
      .openLevel none 3 (some "P"), .addImport "d", .closeLevel 4, .addImport "c", .addImport "b"]
    let frames := (fresh.performAll .nearest calls).frames
    let levels := ({} : ImportLevels).performAll calls
    (∀ change, ScopeCall.edit change ∉ calls) ∧
      levels.toList = [⟨["a"], ["b", "a", "c", "b"]⟩, ⟨[], ["a"]⟩] ∧
      frames.top.imports = some ["a", "b", "c"] ∧
      frames.toList.map Frame.imports = [some ["a", "b", "c"], some ["a"]] := by
  intro calls frames levels
  have hcalls : ∀ change, ScopeCall.edit change ∉ calls := by
    intro change
    simp [calls]
  obtain ⟨-, -, hframes, htop⟩ := imports_of_calls .nearest calls hcalls
  exact ⟨hcalls, by decide, htop.trans (by decide), hframes.trans (by decide)⟩

end ScopeTracker

end SourceScan
