import SourceScan.CommentStyle.Registry
import SourceScan.Preprocessor

/-! # Settings

Settings supply what a caller leaves open: a comment style, a preprocessor, and how to decode files.
They are not checked when they are made. One collection of settings is active at a time; entering a
context saves it, and leaving the context, by whatever way, brings it back.
-/

namespace SourceScan

variable {ρ : Type}

/-- A comment style in settings, or a value that was put in its place. -/
inductive StyleSetting where
  | usable (style : Option CommentStyle)
  | unusable (value : Value)
deriving BEq

structure Settings (ρ : Type) where
  style : StyleSetting := .usable none
  preprocessor : Option ρ := none
  encoding : Value := .text "utf-8".toList
  errors : Value := .text "strict".toList
deriving BEq

/-- The settings that are asked for; the others take their defaults. -/
structure SettingsRequest (ρ : Type) where
  style : Option Value := none
  preprocessor : Option ρ := none
  encoding : Option Value := none
  errors : Option Value := none

namespace SettingsRequest

/-- The setting for a requested style: a text is a name in the registry and an object is a
description. -/
def styleSetting (registry : Registry) : Option Value → Except StyleFault StyleSetting
  | none | some .null => .ok (.usable none)
  | some (.text name) => (StyleRequest.resolve registry (.named name)).map .usable
  | some (.object fields) => (StyleRequest.resolve registry (.described fields)).map .usable
  | some value => .ok (.unusable value)

def resolve (registry : Registry) (request : SettingsRequest ρ) :
    Except StyleFault (Settings ρ) :=
  (styleSetting registry request.style).map fun style =>
    { style
      preprocessor := request.preprocessor
      encoding := request.encoding.getD ({} : Settings ρ).encoding
      errors := request.errors.getD ({} : Settings ρ).errors }

end SettingsRequest

/-- The active settings and those saved by the contexts entered, the innermost first. -/
structure SettingsStack (ρ : Type) where
  active : Settings ρ := {}
  saved : List (Settings ρ) := []

namespace SettingsStack

def set (stack : SettingsStack ρ) (settings : Settings ρ) : SettingsStack ρ :=
  { stack with active := settings }

def reset (stack : SettingsStack ρ) : SettingsStack ρ := stack.set {}

/-- Enters a context with settings of its own. -/
def enter (stack : SettingsStack ρ) (settings : Settings ρ) : SettingsStack ρ where
  active := settings
  saved := stack.active :: stack.saved

/-- Leaves the innermost context, if one was entered. -/
def leave? (stack : SettingsStack ρ) : Option (SettingsStack ρ) :=
  match stack.saved with
  | [] => none
  | previous :: outer => some ⟨previous, outer⟩

end SettingsStack

end SourceScan
