import SourceScan.Scope.Frame
import SourceScan.Scope.Record

/-! # Scope trackers

A tracker joins the frames of a source with the record of its scopes. Opening and closing a level
and setting a package are recorded under the name that the frames then have; imports and direct
edits are not. Each frame has its imports to itself; `SharedTracker` is for frames that share them.
-/

namespace SourceScan

/-- The nesting at one point of a source and how the scope came to be. -/
structure ScopeTracker where
  frames : Frames := {}
  record : Record := .start
deriving DecidableEq, Repr

namespace ScopeTracker

/-- The tracker of a new source: the bottom frame and a fresh record. -/
def fresh : ScopeTracker := {}

/-- The tracker with other frames, whose name is recorded for a line. -/
def enter (tracker : ScopeTracker) (naming : Naming) (lineno : Int) (frames : Frames) :
    ScopeTracker :=
  ⟨frames, tracker.record.add (naming frames) lineno⟩

def openLevel (tracker : ScopeTracker) (naming : Naming) (closingSymbol : Option String)
    (lineno : Int) (package : Option String) : ScopeTracker :=
  tracker.enter naming lineno (tracker.frames.push closingSymbol package)

/-- Closes the innermost level, whatever its closing symbol, and gives its frame. At the top level
there is none to close. -/
def closeLevel (tracker : ScopeTracker) (naming : Naming) (lineno : Int) :
    Option Frame × ScopeTracker :=
  let (frame, frames) := tracker.frames.pop
  (frame, tracker.enter naming lineno frames)

def setPackage (tracker : ScopeTracker) (naming : Naming) (package : Option String)
    (lineno : Int) : ScopeTracker :=
  tracker.enter naming lineno (tracker.frames.modifyTop ({ · with package }))

def addImport (tracker : ScopeTracker) (name : String) : ScopeTracker :=
  { tracker with frames := tracker.frames.modifyTop (·.addImport name) }

/-- Replaces fields of the innermost frame without a record. -/
def edit (tracker : ScopeTracker) (change : FrameEdit) : ScopeTracker :=
  { tracker with frames := tracker.frames.modifyTop (·.edit change) }

end ScopeTracker

end SourceScan
