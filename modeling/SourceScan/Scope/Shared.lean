import SourceScan.Scope.Tracker

/-! # Shared lists of imports

Whoever edits frames may give a frame a list that another frame holds already. An import is added to
a list in place, so it comes to all frames that hold the list. Here frames refer to lists in a
store, and what they import is what their lists say at the moment.
-/

namespace SourceScan

/-- The place of a list of imports among all the lists made so far. -/
abbrev ListRef := Nat

/-- A list of imports that a caller writes into a frame. -/
inductive ImportSource where
  /-- A list made for this frame. -/
  | made (names : List String)
  /-- A list from before, which other frames may hold. -/
  | held (ref : ListRef)

/-- Frames that hold their imports as lists of a store. No list ever leaves the store. -/
structure SharedFrames where
  frames : Frames ListRef := {}
  lists : List (List String) := []
deriving DecidableEq, Repr

namespace SharedFrames

/-- What a list says at the moment. -/
def names (shared : SharedFrames) (ref : ListRef) : List String := shared.lists.getD ref []

/-- The frames with what their lists say at the moment. -/
def reading (shared : SharedFrames) : Frames := shared.frames.mapImports shared.names

def modifyTop (shared : SharedFrames) (change : Frame ListRef → Frame ListRef) : SharedFrames :=
  { shared with frames := shared.frames.modifyTop change }

/-- Lets the innermost frame hold a list of its own with these names, or none. -/
def provide (shared : SharedFrames) : Option (List String) → SharedFrames
  | none => shared.modifyTop ({ · with imports := none })
  | some names => {
      frames := shared.frames.modifyTop ({ · with imports := some shared.lists.length })
      lists := shared.lists ++ [names] }

/-- The frames with a new level, which holds no list yet. -/
def raise (shared : SharedFrames) (closingSymbol package : Option String) : SharedFrames :=
  { shared with frames := ⟨{ closingSymbol, package }, shared.frames.toList⟩ }

/-- The frames with a new level, which gets a copy of the list of the level below it. -/
def push (shared : SharedFrames) (closingSymbol package : Option String) : SharedFrames :=
  (shared.raise closingSymbol package).provide shared.reading.top.imports

/-- The innermost frame and the frames without it; the bottom frame stays. -/
def pop (shared : SharedFrames) : Option (Frame ListRef) × SharedFrames :=
  (shared.frames.pop.1, { shared with frames := shared.frames.pop.2 })

/-- Adds a name to the list of the innermost frame, unless it is there already. A frame without a
list gets a new one. -/
def addImport (shared : SharedFrames) (name : String) : SharedFrames :=
  match shared.frames.top.imports with
  | none => shared.provide (some [name])
  | some ref =>
      if name ∈ shared.names ref then shared
      else { shared with lists := shared.lists.set ref (shared.names ref ++ [name]) }

/-- Writes a list into the innermost frame, or takes away the one that it holds. A list that was
never made cannot be written. -/
def write (shared : SharedFrames) : Option ImportSource → SharedFrames
  | none => shared.provide none
  | some (.made names) => shared.provide (some names)
  | some (.held ref) =>
      if ref < shared.lists.length then shared.modifyTop ({ · with imports := some ref })
      else shared

/-- Replaces fields of the innermost frame. -/
def edit (shared : SharedFrames) (change : FrameEdit ImportSource) : SharedFrames :=
  let edited := shared.modifyTop
    (·.edit { closingSymbol := change.closingSymbol, package := change.package })
  match change.imports with
  | none => edited
  | some source => edited.write source

end SharedFrames

/-- The nesting at one point of a source and how the scope came to be, where frames may share their
lists of imports. -/
structure SharedTracker where
  nesting : SharedFrames := {}
  record : Record := .start
deriving DecidableEq, Repr

namespace SharedTracker

/-- The tracker of a new source, before any list is made. -/
def fresh : SharedTracker := {}

/-- The tracker with another nesting, whose name is recorded for a line. -/
def enter (tracker : SharedTracker) (naming : Naming) (lineno : Int) (nesting : SharedFrames) :
    SharedTracker :=
  ⟨nesting, tracker.record.add (naming nesting.reading) lineno⟩

def openLevel (tracker : SharedTracker) (naming : Naming) (closingSymbol : Option String)
    (lineno : Int) (package : Option String) : SharedTracker :=
  tracker.enter naming lineno (tracker.nesting.push closingSymbol package)

/-- Closes the innermost level and gives its frame, as `ScopeTracker.closeLevel` does. -/
def closeLevel (tracker : SharedTracker) (naming : Naming) (lineno : Int) :
    Option (Frame ListRef) × SharedTracker :=
  let (frame, nesting) := tracker.nesting.pop
  (frame, tracker.enter naming lineno nesting)

def setPackage (tracker : SharedTracker) (naming : Naming) (package : Option String)
    (lineno : Int) : SharedTracker :=
  tracker.enter naming lineno (tracker.nesting.modifyTop ({ · with package }))

def addImport (tracker : SharedTracker) (name : String) : SharedTracker :=
  { tracker with nesting := tracker.nesting.addImport name }

/-- Replaces fields of the innermost frame without a record. -/
def edit (tracker : SharedTracker) (change : FrameEdit ImportSource) : SharedTracker :=
  { tracker with nesting := tracker.nesting.edit change }

/-- The tracker of a new source. The lists of the old one stay, since callers may hold them. -/
def clear (tracker : SharedTracker) : SharedTracker :=
  { fresh with nesting := { lists := tracker.nesting.lists } }

end SharedTracker

end SourceScan
