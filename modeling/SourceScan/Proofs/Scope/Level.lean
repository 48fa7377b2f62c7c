import Mathlib.Data.List.Infix
import SourceScan.Proofs.Scope.Sharing

/-! # Levels from opening to closing

What is done inside a level stays inside it: its closing brings back the frames from before its
opening, with the lists of imports that they held. Nor do these lists get longer, unless one of them
is written into a frame inside. If everything happened on one line, the record forgets the level
too.
-/

namespace SourceScan

namespace Frames

variable {ι : Type} {frames : Frames ι}

theorem toList_pop (hbelow : frames.below ≠ []) : frames.pop.2.toList = frames.below := by
  obtain ⟨top, below⟩ := frames
  cases below with
  | nil => exact absurd rfl hbelow
  | cons next rest => rfl

theorem toList_injective : Function.Injective (toList : Frames ι → List (Frame ι)) := by
  rintro ⟨top, below⟩ ⟨otherTop, otherBelow⟩ hsame
  obtain ⟨rfl, rfl⟩ := List.cons.inj hsame
  rfl

variable {κ : Type} (hold : ι → κ) (frames : Frames ι)

theorem toList_mapImports :
    (frames.mapImports hold).toList = frames.toList.map (Frame.mapImports hold) :=
  rfl

theorem package?_mapImports : (frames.mapImports hold).package? = frames.package? := by
  rw [package?, toList_mapImports, List.findSome?_map]
  rfl

end Frames

namespace SharedFrames

variable {before shared next : SharedFrames} {old : ListRef → Prop} {frame : Frame ListRef}
variable {above rest : List (Frame ListRef)} {written : ListRef → Prop}

/-- A list is that of one of the frames. -/
def Holds (shared : SharedFrames) (ref : ListRef) : Prop :=
  ∃ frame ∈ shared.frames.toList, ref ∈ frame.imports

/-- Frames stand on the frames from before, which are as they were. Among the lists from before, the
old ones are as they were too, and no frame above holds one of them. -/
structure StandsOn (before shared : SharedFrames) (old : ListRef → Prop)
    (above : List (Frame ListRef)) : Prop where
  frames : shared.frames.toList = above ++ before.frames.toList
  apart : ∀ frame ∈ above, ∀ ref ∈ frame.imports, ¬ old ref
  lists : ∀ ref, old ref → ref < before.lists.length ∧ shared.lists[ref]? = before.lists[ref]?

theorem standsOn_self (hold : ∀ ref, old ref → ref < before.lists.length) :
    before.StandsOn before old [] where
  frames := rfl
  apart _ hframe := absurd hframe List.not_mem_nil
  lists ref href := ⟨hold ref href, rfl⟩

theorem StandsOn.lt_length (hstands : before.StandsOn shared old above) {ref : ListRef}
    (href : old ref) : ref < shared.lists.length := by
  obtain ⟨hlength, hlists⟩ := hstands.lists ref href
  rw [List.getElem?_eq_getElem hlength] at hlists
  exact (List.getElem?_eq_some_iff.mp hlists).1

theorem StandsOn.raise (hstands : before.StandsOn shared old above)
    (closingSymbol package : Option String) :
    before.StandsOn (shared.raise closingSymbol package) old
      ({ closingSymbol, package } :: above) where
  frames := congrArg (List.cons _) hstands.frames
  apart := List.forall_mem_cons.mpr
    ⟨fun ref href => absurd href (Option.not_mem_none ref), hstands.apart⟩
  lists := hstands.lists

theorem StandsOn.topChange (hstands : before.StandsOn shared old (frame :: rest))
    (hchange : shared.TopChange next written) (hwritten : ∀ ref, written ref → ¬ old ref) :
    before.StandsOn next old (next.frames.top :: rest) := by
  obtain ⟨htop, hbelow⟩ := List.cons.inj hstands.frames
  obtain ⟨hframe, hrest⟩ := List.forall_mem_cons.mp hstands.apart
  rw [← htop] at hframe
  refine ⟨?_, List.forall_mem_cons.mpr ⟨fun ref href => ?_, hrest⟩, fun ref hold => ?_⟩
  · exact congrArg (List.cons _) (hchange.below.trans hbelow)
  · rcases hchange.imports ref href with hsame | ⟨rfl, -⟩ | ⟨-, hheld⟩
    · exact hframe ref hsame
    · intro hold
      exact lt_irrefl _ (hstands.lt_length hold)
    · exact hwritten ref hheld
  · obtain ⟨hlength, hlists⟩ := hstands.lists ref hold
    have htop : ref ∉ shared.frames.top.imports := fun href => hframe ref href hold
    exact ⟨hlength, (hchange.lists ref (hstands.lt_length hold) htop).trans hlists⟩

theorem StandsOn.pop (hstands : before.StandsOn shared old (frame :: rest)) :
    before.StandsOn shared.pop.2 old rest := by
  have hbelow : shared.frames.below = rest ++ before.frames.toList :=
    (List.cons.inj hstands.frames).2
  have hsome : shared.frames.below ≠ [] := by
    rw [hbelow]
    exact List.append_ne_nil_of_right_ne_nil _ (List.cons_ne_nil _ _)
  exact ⟨(Frames.toList_pop hsome).trans hbelow, (List.forall_mem_cons.mp hstands.apart).2,
    hstands.lists⟩

theorem StandsOn.depth_eq (hstands : before.StandsOn shared old above) :
    shared.frames.depth = above.length + before.frames.depth := by
  have hlength := congrArg List.length hstands.frames
  rw [List.length_append] at hlength
  exact Nat.succ_injective hlength

theorem StandsOn.exists_cons (hstands : before.StandsOn shared old above)
    (hdepth : before.frames.depth < shared.frames.depth) :
    ∃ frame rest, above = frame :: rest := by
  apply List.exists_cons_of_length_pos
  have hlength := hstands.depth_eq
  omega

end SharedFrames

namespace SharedTracker

variable {tracker : SharedTracker} {naming : Naming} {before : SharedFrames}
variable {old : ListRef → Prop} {above : List (Frame ListRef)}
variable {call : ScopeCall ImportSource} {calls inner : List (ScopeCall ImportSource)}

/-- Calls on a tracker that keep the level they begin on open, and end on it. -/
structure StaysInside (tracker : SharedTracker) (naming : Naming)
    (calls : List (ScopeCall ImportSource)) : Prop where
  inside : ∀ first, first <+: calls →
    tracker.nesting.frames.depth ≤ (tracker.performAll naming first).nesting.frames.depth
  back : (tracker.performAll naming calls).nesting.frames.depth = tracker.nesting.frames.depth

instance (tracker : SharedTracker) (naming : Naming) (calls : List (ScopeCall ImportSource)) :
    Decidable (tracker.StaysInside naming calls) :=
  decidable_of_iff
    ((∀ first ∈ calls.inits,
        tracker.nesting.frames.depth ≤ (tracker.performAll naming first).nesting.frames.depth) ∧
      (tracker.performAll naming calls).nesting.frames.depth = tracker.nesting.frames.depth)
    ⟨fun ⟨hinside, hback⟩ =>
        ⟨fun first hfirst => hinside first ((List.mem_inits first calls).mpr hfirst), hback⟩,
      fun ⟨hinside, hback⟩ =>
        ⟨fun first hfirst => hinside first ((List.mem_inits first calls).mp hfirst), hback⟩⟩

theorem not_mem_clear_of_inside (hinside : ∀ first, first <+: calls →
    0 < (tracker.performAll naming first).nesting.frames.depth) : ScopeCall.clear ∉ calls := by
  intro hclear
  obtain ⟨first, rest, rfl⟩ := List.append_of_mem hclear
  have hdepth := hinside (first ++ [.clear]) ⟨rest, by simp⟩
  rw [performAll_append] at hdepth
  exact absurd hdepth (Nat.not_lt_zero _)

theorem depth_openLevel (tracker : SharedTracker) (naming : Naming)
    (closingSymbol : Option String) (lineno : Int) (package : Option String) :
    (tracker.openLevel naming closingSymbol lineno package).nesting.frames.depth =
      tracker.nesting.frames.depth + 1 :=
  congrArg List.length (SharedFrames.topChange_provide
    (tracker.nesting.raise closingSymbol package) tracker.nesting.reading.top.imports
    fun _ => False).below

theorem StaysInside.lt_depth {closingSymbol package : Option String} {opened : Int}
    (hinside : (tracker.openLevel naming closingSymbol opened package).StaysInside naming inner)
    (first : List (ScopeCall ImportSource)) (hfirst : first <+: inner) :
    tracker.nesting.frames.depth <
      ((tracker.openLevel naming closingSymbol opened package).performAll naming
        first).nesting.frames.depth := by
  have hlevel := hinside.inside first hfirst
  rw [depth_openLevel] at hlevel
  exact hlevel

/-- A call inside a level leaves alone what the level stands on. -/
theorem standsOn_perform (naming : Naming) (hstands : before.StandsOn tracker.nesting old above)
    (hdepth : before.frames.depth < tracker.nesting.frames.depth) (hclear : call ≠ .clear)
    (hspares : ∀ ref, call.Writes ref → ¬ old ref) :
    ∃ above, before.StandsOn (tracker.perform naming call).nesting old above := by
  obtain ⟨frame, rest, rfl⟩ := hstands.exists_cons hdepth
  rcases tracker.nesting_perform_cases naming call with
    ⟨closingSymbol, package, hchange⟩ | ⟨lineno, -, hclosed⟩ | ⟨hcleared, -⟩ | hchange
  · exact ⟨_, (hstands.raise closingSymbol package).topChange hchange hspares⟩
  · exact ⟨rest, hclosed ▸ hstands.pop⟩
  · exact absurd hcleared hclear
  · exact ⟨_, hstands.topChange hchange hspares⟩

/-- As long as calls leave a level open, they leave alone what it stands on. -/
theorem standsOn_performAll (hstands : before.StandsOn tracker.nesting old above)
    (hinside : ∀ first, first <+: calls →
      before.frames.depth < (tracker.performAll naming first).nesting.frames.depth)
    (hclear : .clear ∉ calls) (hspares : ∀ call ∈ calls, ∀ ref, call.Writes ref → ¬ old ref) :
    ∃ above, before.StandsOn (tracker.performAll naming calls).nesting old above := by
  induction calls generalizing tracker above with
  | nil => exact ⟨above, hstands⟩
  | cons call rest ih =>
      obtain ⟨hcall, hrest⟩ := not_or.mp (List.mem_cons.not.mp hclear)
      obtain ⟨hfirst, hlater⟩ := List.forall_mem_cons.mp hspares
      obtain ⟨next, hnext⟩ := standsOn_perform naming hstands (hinside [] List.nil_prefix)
        (Ne.symm hcall) hfirst
      apply ih hnext _ hrest hlater
      intro first hprefix
      exact hinside (call :: first) (List.cons_prefix_cons.mpr ⟨rfl, hprefix⟩)

/-- Right after its closing, a level leaves the frames that it was opened on, and the old lists that
nothing inside wrote into a frame. -/
theorem standsOn_level (old : ListRef → Prop)
    (hold : ∀ ref, old ref → ref < tracker.nesting.lists.length)
    {closingSymbol package : Option String} {opened : Int} (closed : Int)
    (hinside : (tracker.openLevel naming closingSymbol opened package).StaysInside naming inner)
    (hspares : ∀ call ∈ inner, ∀ ref, call.Writes ref → ¬ old ref) :
    tracker.nesting.StandsOn
      (tracker.performAll naming
        (.openLevel closingSymbol opened package :: inner ++ [.closeLevel closed])).nesting
      old [] := by
  let level := tracker.openLevel naming closingSymbol opened package
  have hopened : tracker.nesting.StandsOn level.nesting old [level.nesting.frames.top] :=
    ((SharedFrames.standsOn_self hold).raise closingSymbol package).topChange
      (SharedFrames.topChange_provide _ tracker.nesting.reading.top.imports fun _ => False)
      fun _ hfalse => hfalse.elim
  have hclear := not_mem_clear_of_inside fun first hfirst =>
    Nat.zero_lt_of_lt (hinside.lt_depth first hfirst)
  obtain ⟨above, hstands⟩ := standsOn_performAll hopened hinside.lt_depth hclear hspares
  -- Back on the level, only its own frame stands on the old ones, and the closing takes it away.
  have hsingle : above.length = 1 := by
    have hlength := hstands.depth_eq
    rw [hinside.back, depth_openLevel] at hlength
    omega
  obtain ⟨frame, rfl⟩ := List.length_eq_one_iff.mp hsingle
  have hclosed := performAll_append level naming inner [.closeLevel closed]
  exact (congrArg nesting hclosed).symm ▸ hstands.pop

theorem frames_level {closingSymbol package : Option String} {opened : Int} (closed : Int)
    (hinside : (tracker.openLevel naming closingSymbol opened package).StaysInside naming inner) :
    (tracker.performAll naming
      (.openLevel closingSymbol opened package :: inner ++ [.closeLevel closed])).nesting.frames =
      tracker.nesting.frames := by
  have hstands := standsOn_level (fun _ => False) (fun _ hfalse => hfalse.elim) closed hinside
    fun _ _ _ _ => not_false
  exact Frames.toList_injective hstands.frames

/-- If nothing inside a level wrote a list of the frames below into a frame, these say the same
after its closing as before its opening. -/
theorem reading_level (hstored : tracker.nesting.Stored)
    {closingSymbol package : Option String} {opened : Int} (closed : Int)
    (hinside : (tracker.openLevel naming closingSymbol opened package).StaysInside naming inner)
    (hspares : ∀ call ∈ inner, ∀ ref, call.Writes ref → ¬ tracker.nesting.Holds ref) :
    (tracker.performAll naming
      (.openLevel closingSymbol opened package :: inner ++ [.closeLevel closed])).nesting.reading =
      tracker.nesting.reading := by
  have hold : ∀ ref, tracker.nesting.Holds ref → ref < tracker.nesting.lists.length := by
    rintro ref ⟨frame, hframe, href⟩
    exact hstored frame hframe ref href
  have hstands := standsOn_level tracker.nesting.Holds hold closed hinside hspares
  apply Frames.toList_injective
  unfold SharedFrames.reading
  rw [Frames.toList_mapImports, Frames.toList_mapImports, frames_level closed hinside]
  apply SharedFrames.map_mapImports_congr
  intro frame hframe ref href
  exact SharedFrames.names_congr (hstands.lists ref ⟨frame, hframe, href⟩).2

/-! ## The record of a level -/

theorem record_perform (tracker : SharedTracker) (naming : Naming) (hclear : call ≠ .clear) :
    (tracker.perform naming call).record = tracker.record.addAll
      (call.line?.map (⟨naming (tracker.perform naming call).nesting.reading, ·⟩)).toList := by
  cases call with
  | openLevel | closeLevel | setPackage | addImport | edit => rfl
  | clear => exact absurd rfl hclear

theorem canonical_record_performAll (naming : Naming)
    (calls : List (ScopeCall ImportSource)) :
    Canonical (fresh.performAll naming calls).record.toList := by
  induction calls using List.reverseRecOn with
  | nil => exact Record.canonical_start
  | append_singleton calls call ih =>
      rw [performAll_append]
      by_cases hclear : call = .clear
      · subst hclear
        exact Record.canonical_start
      · have hcall := record_perform (fresh.performAll naming calls) naming hclear
        exact (congrArg (Canonical ·.toList) hcall).mpr (Record.canonical_addAll ih _)

/-- Calls make a record by changes that have the lines of the recorded calls. -/
theorem exists_record_performAll (tracker : SharedTracker) (naming : Naming)
    (hclear : ScopeCall.clear ∉ calls) :
    ∃ changes, (tracker.performAll naming calls).record = tracker.record.addAll changes ∧
      changes.map ScopeEntry.lineno = calls.filterMap ScopeCall.line? := by
  induction calls generalizing tracker with
  | nil => exact ⟨[], rfl, rfl⟩
  | cons call rest ih =>
      obtain ⟨hcall, hrest⟩ := not_or.mp (List.mem_cons.not.mp hclear)
      obtain ⟨changes, hrecord, hlines⟩ := ih (tracker.perform naming call) hrest
      have hstep := record_perform tracker naming (Ne.symm hcall)
      refine ⟨(call.line?.map
        (⟨naming (tracker.perform naming call).nesting.reading, ·⟩)).toList ++ changes, ?_, ?_⟩
      · rw [Record.addAll_append, ← hstep]
        exact hrecord
      · rw [List.map_append, hlines]
        cases hline : call.line? with
        | some lineno => rw [List.filterMap_cons_some hline]; rfl
        | none => rw [List.filterMap_cons_none hline]; rfl

/-- Calls on one line that end with a closing come to nothing in the record, if the frames have the
name then that was recorded last. -/
theorem record_performAll_closeLevel (naming : Naming)
    (hcanonical : Canonical tracker.record.toList) (hclear : ScopeCall.clear ∉ calls)
    (closed : Int) {lineno : Int}
    (hscope : naming (tracker.performAll naming (calls ++ [.closeLevel closed])).nesting.reading =
      tracker.record.latest.scope)
    (hlatest : tracker.record.latest.lineno ≤ lineno)
    (hlines : ∀ line ∈ (calls ++ [ScopeCall.closeLevel closed]).filterMap ScopeCall.line?,
      line = lineno) :
    (tracker.performAll naming (calls ++ [.closeLevel closed])).record = tracker.record := by
  obtain ⟨changes, hrecord, hchanges⟩ := exists_record_performAll tracker naming hclear
  rw [List.filterMap_append, ← hchanges] at hlines
  rw [performAll_append] at hscope ⊢
  let last : ScopeEntry := ⟨naming ((tracker.performAll naming calls).closeLevel naming
    closed).2.nesting.reading, closed⟩
  have hafter : ((tracker.performAll naming calls).closeLevel naming closed).2.record =
      tracker.record.addAll (changes ++ [last]) := by
    rw [Record.addAll_append, ← hrecord]
    rfl
  refine Eq.trans hafter (Record.addAll_eq_self hcanonical hlatest ?_ ?_)
  · intro change hchange
    apply hlines
    rcases List.mem_append.mp hchange with hbefore | hlast
    · exact List.mem_append_left _ (List.mem_map_of_mem hbefore)
    · obtain rfl := List.mem_singleton.mp hlast
      exact List.mem_append_right _ List.mem_cons_self
  · intro change hchange
    rw [List.getLast?_concat] at hchange
    obtain rfl := Option.some.inj hchange
    exact hscope

/-- The closing of a level brings back the frames from before its opening, with the same lists of
imports, whatever was called inside. If nothing inside wrote one of these lists into a frame, they
say the same as before. If all calls name one line, not above that of the latest entry, and the
record was up to date, then the record is back as well. -/
theorem performAll_level (naming : Naming) (earlier : List (ScopeCall ImportSource))
    (closingSymbol package : Option String) (opened closed : Int)
    (hinside : ((fresh.performAll naming earlier).openLevel naming closingSymbol opened
      package).StaysInside naming inner) :
    let before := fresh.performAll naming earlier
    let calls := .openLevel closingSymbol opened package :: inner ++ [.closeLevel closed]
    let after := before.performAll naming calls
    after.nesting.frames = before.nesting.frames ∧
      after.nesting.reading.package? = before.nesting.reading.package? ∧
      ((∀ call ∈ inner, ∀ ref, call.Writes ref → ¬ before.nesting.Holds ref) →
        after.nesting.reading = before.nesting.reading) ∧
      ∀ lineno, naming after.nesting.reading = naming before.nesting.reading →
        before.record.latest.scope = naming before.nesting.reading →
        before.record.latest.lineno ≤ lineno →
        (∀ line ∈ calls.filterMap ScopeCall.line?, line = lineno) →
        after.record = before.record := by
  intro before calls after
  have hframes : after.nesting.frames = before.nesting.frames := frames_level closed hinside
  have hclear : ScopeCall.clear ∉ inner := not_mem_clear_of_inside fun first hfirst =>
    Nat.zero_lt_of_lt (hinside.lt_depth first hfirst)
  refine ⟨hframes, ?_, ?_, fun lineno hnaming hscope hlatest hlines => ?_⟩
  · unfold SharedFrames.reading
    rw [Frames.package?_mapImports, Frames.package?_mapImports, hframes]
  · exact reading_level (stored_performAll naming earlier) closed hinside
  · have hcanonical := canonical_record_performAll naming earlier
    exact record_performAll_closeLevel naming hcanonical (by simpa using hclear) closed
      (hnaming.trans hscope.symm) hlatest hlines

/-- Two frames share a list, and on a level above them so do two others. All is on the line of the
latest entry. -/
theorem performAll_level_nested :
    let earlier : List (ScopeCall ImportSource) := [.addImport "x", .openLevel (some ")") 4 none,
      .edit { imports := some (some (.held 0)) }, .setPackage (some "A") 4]
    let inner : List (ScopeCall ImportSource) := [.addImport "y", .openLevel (some "]") 4 none,
      .edit { package := some (some "C"), imports := some (some (.held 2)) }, .addImport "z",
      .setPackage (some "A") 4, .closeLevel 4, .edit { closingSymbol := some none },
      .setPackage (some "") 4]
    let before := fresh.performAll .nearest earlier
    let level := before.openLevel .nearest (some "end") 4 (some "B")
    let after := before.performAll .nearest
      (.openLevel (some "end") 4 (some "B") :: inner ++ [.closeLevel 4])
    level.StaysInside .nearest inner ∧
      (∀ call ∈ inner, ∀ ref, call.Writes ref → ¬ before.nesting.Holds ref) ∧
      before.record.latest = ⟨some "A", 4⟩ ∧
      (level.performAll .nearest inner).nesting.reading.top.imports = some ["x", "y", "z"] ∧
      after.nesting.reading =
        ⟨⟨some ")", some "A", some ["x"]⟩, [{ imports := some ["x"] }]⟩ ∧
      after.record.toList = [⟨none, 1⟩, ⟨some "A", 4⟩] := by
  intro earlier inner before level after
  have hinside : level.StaysInside .nearest inner := by decide
  have hspares : ∀ call ∈ inner, ∀ ref, call.Writes ref → ¬ before.nesting.Holds ref := by
    have hheld : ∀ frame ∈ before.nesting.frames.toList, frame.imports = some 0 := by decide
    rintro call hcall ref hwrites ⟨frame, hframe, href⟩
    rw [hheld frame hframe] at href
    obtain rfl := Option.some.inj href
    revert call
    simp [inner, ScopeCall.Writes]
  obtain ⟨-, -, hreading, hrecord⟩ :=
    performAll_level .nearest earlier (some "end") (some "B") 4 4 hinside
  refine ⟨hinside, hspares, by decide, by decide, (hreading hspares).trans (by decide), ?_⟩
  rw [hrecord 4 (by rw [hreading hspares]) (by decide) (by decide) (by decide)]
  decide

/-- A level into whose frame the list of the frame below is written, and then an import is added. -/
theorem performAll_level_shared :
    let before := fresh.performAll .nearest [.addImport "x"]
    let inner : List (ScopeCall ImportSource) :=
      [.edit { imports := some (some (.held 0)) }, .addImport "y"]
    let after := before.performAll .nearest
      (.openLevel (some ")") 2 none :: inner ++ [.closeLevel 3])
    (before.openLevel .nearest (some ")") 2 none).StaysInside .nearest inner ∧
      before.nesting.reading.top.imports = some ["x"] ∧
      after.nesting.reading.top.imports = some ["x", "y"] := by
  decide

end SharedTracker

end SourceScan
