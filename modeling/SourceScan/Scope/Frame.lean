/-! # Scope frames

A frame stands for one level of nesting in a source. The bottom frame is always there; each opened
level puts a frame on top. A naming says what the scope made by the frames is called.

Frames are made over what they hold their imports in: the list of names itself, or a reference to a
list that other frames may hold as well.
-/

namespace SourceScan

/-- One level of nesting. -/
structure Frame (ι : Type := List String) where
  /-- The symbol that ends the level; the bottom level has none. -/
  closingSymbol : Option String := none
  /-- The package that the level sets; without one, that of the level below holds. -/
  package : Option String := none
  /-- The imported names in the order of their first import, if any were imported. -/
  imports : Option ι := none
deriving DecidableEq, Repr

/-- What a caller writes into the fields of a frame. Imports that are written as names are a list of
the frame's own: no other frame holds it. -/
structure FrameEdit (ι : Type := List String) where
  closingSymbol : Option (Option String) := none
  package : Option (Option String) := none
  imports : Option (Option ι) := none

namespace Frame

variable {ι κ : Type}

/-- The frame with one more imported name, unless it is there already. -/
def addImport (frame : Frame) (name : String) : Frame :=
  match frame.imports with
  | none => { frame with imports := some [name] }
  | some names =>
      if name ∈ names then frame else { frame with imports := some (names ++ [name]) }

/-- The frame with the edited fields replaced. -/
def edit (frame : Frame ι) (change : FrameEdit ι) : Frame ι where
  closingSymbol := change.closingSymbol.getD frame.closingSymbol
  package := change.package.getD frame.package
  imports := change.imports.getD frame.imports

/-- The frame with its imports held in something else. -/
def mapImports (hold : ι → κ) (frame : Frame ι) : Frame κ :=
  { frame with imports := frame.imports.map hold }

end Frame

/-- A stack of frames that is never empty: the innermost one, and those below it from the inside
out. -/
structure Frames (ι : Type := List String) where
  top : Frame ι := {}
  below : List (Frame ι) := []
deriving DecidableEq, Repr

namespace Frames

variable {ι κ : Type}

def toList (frames : Frames ι) : List (Frame ι) := frames.top :: frames.below

def depth (frames : Frames ι) : Nat := frames.below.length

/-- The stack with a new level, which starts with the imports of the level below it. -/
def push (frames : Frames ι) (closingSymbol package : Option String) : Frames ι where
  top := { closingSymbol, package, imports := frames.top.imports }
  below := frames.top :: frames.below

/-- The innermost frame and the stack without it; the bottom frame stays. -/
def pop (frames : Frames ι) : Option (Frame ι) × Frames ι :=
  match frames.below with
  | [] => (none, frames)
  | next :: rest => (some frames.top, ⟨next, rest⟩)

def modifyTop (frames : Frames ι) (change : Frame ι → Frame ι) : Frames ι :=
  { frames with top := change frames.top }

def mapImports (hold : ι → κ) (frames : Frames ι) : Frames κ where
  top := frames.top.mapImports hold
  below := frames.below.map (Frame.mapImports hold)

/-- The package set nearest to the inside. -/
def package? (frames : Frames ι) : Option String := frames.toList.findSome? Frame.package

end Frames

/-- What the scope made by frames is called, if it has a name. -/
abbrev Naming := Frames → Option String

namespace Naming

/-- The nearest package names the scope: packages replace one another. -/
def nearest : Naming := Frames.package?

/-- All packages that are not empty, joined by points from the outside in. -/
def joined : Naming := fun frames =>
  match frames.toList.reverse.filterMap fun frame => frame.package.filter (· != "") with
  | [] => none
  | packages => some (".".intercalate packages)

/-- The nearest package in angle brackets, unless it is empty. -/
def bracketed : Naming := fun frames =>
  (frames.package?.filter (· != "")).map fun package => "<" ++ package ++ ">"

end Naming

end SourceScan
