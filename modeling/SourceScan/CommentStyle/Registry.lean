import SourceScan.CommentStyle.Description
import SourceScan.CommentStyle.Presets
import SourceScan.Text.Lowercase

/-! # Named comment styles

A registry finds comment styles by name, whatever the case of its letters. One style can go by
several names; a serial number tells whether two names mean the very same one.
-/

namespace SourceScan

/-- A style with the serial number of its making. -/
structure Registered where
  serial : Nat
  style : CommentStyle
deriving DecidableEq

/-- Names and what they stand for, which may be no style at all. -/
structure Registry where
  entries : List (Text × Option Registered)
  nextSerial : Nat

/-- A name that stands for nothing, among the names that stand for something. -/
structure UnknownStyle where
  name : Text
  available : List Text

def UnknownStyle.message (unknown : UnknownStyle) : String :=
  "Unknown comment syntax: " ++ unknown.name.literal ++ ". Available: "
    ++ ", ".intercalate (unknown.available.map String.ofList)

namespace Registry

/-- The names, sorted by code points. -/
def names (registry : Registry) : List Text :=
  (registry.entries.map Prod.fst).mergeSort fun left right => !decide (right < left)

/-- What a name stands for. -/
def find (registry : Registry) (name : Text) : Except UnknownStyle (Option Registered) :=
  match registry.entries.lookup (lowercase name) with
  | some entry => .ok entry
  | none => .error ⟨name, registry.names⟩

/-- The registry in which a name stands for a given entry, and for nothing it stood for before. -/
def register (registry : Registry) (name : Text) (entry : Option Registered) : Registry :=
  let key := lowercase name
  { registry with entries := (key, entry) :: registry.entries.filter fun old => old.1 != key }

/-- A style with a serial number of its own, and the registry that will not give it again. -/
def enroll (registry : Registry) (style : CommentStyle) : Registered × Registry :=
  (⟨registry.nextSerial, style⟩, { registry with nextSerial := registry.nextSerial + 1 })

/-- The languages known from the start. Four of them share one style. -/
def presets : Registry where
  entries := [
    ("c".toList, some ⟨0, .c⟩),
    ("c++".toList, some ⟨1, .cFamily⟩),
    ("c#".toList, some ⟨1, .cFamily⟩),
    ("java".toList, some ⟨1, .cFamily⟩),
    ("javascript".toList, some ⟨1, .cFamily⟩),
    ("perl".toList, some ⟨2, .hashes⟩),
    ("python".toList, some ⟨3, .hashes⟩),
    ("shell".toList, some ⟨4, .shell⟩),
    ("pascal".toList, some ⟨5, .pascal⟩),
    ("sql".toList, some ⟨6, .sql⟩)]
  nextSerial := 7

end Registry

/-- How a style is asked for: not at all, by name, or by a description. -/
inductive StyleRequest where
  | absent
  | named (name : Text)
  | described (fields : List (Text × Value))

inductive StyleFault where
  | unknown (unknown : UnknownStyle)
  | refused (error : DescriptionError)

namespace StyleRequest

/-- The entry that a request asks for. A described style is a new one. -/
def entry (registry : Registry) :
    StyleRequest → Except StyleFault (Option Registered × Registry)
  | .absent => .ok (none, registry)
  | .named name =>
      match registry.find name with
      | .ok entry => .ok (entry, registry)
      | .error unknown => .error (.unknown unknown)
  | .described fields =>
      match CommentStyle.describe fields with
      | .ok style =>
          let (registered, registry) := registry.enroll style
          .ok (some registered, registry)
      | .error error => .error (.refused error)

def resolve (registry : Registry) (request : StyleRequest) :
    Except StyleFault (Option CommentStyle) :=
  (request.entry registry).map fun (entry, _) => entry.map Registered.style

end StyleRequest

end SourceScan
