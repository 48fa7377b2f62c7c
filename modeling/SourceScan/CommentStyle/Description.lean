import SourceScan.CommentStyle.Basic
import SourceScan.Value

/-! # Descriptions of comment styles

A comment style can be described by an object with up to four fields. Line fields hold one marker
or several; block fields hold pairs. The fields are checked in one order, and the first fault found
is the one reported.
-/

namespace SourceScan

/-- The four fields of a description. -/
inductive MarkerGroup where
  | line
  | docLine
  | block
  | docBlock
deriving DecidableEq, Repr

def MarkerGroup.key : MarkerGroup → String
  | .line => "line_markers"
  | .docLine => "doc_line_markers"
  | .block => "block_markers"
  | .docBlock => "doc_block_markers"

/-- Why a description is refused. -/
inductive DescriptionError where
  /-- A field that has no members, or a block entry that has no length. -/
  | wrongShape (group : MarkerGroup)
  /-- A marker that is empty or no text. -/
  | badMarker (group : MarkerGroup) (found : Value)
  /-- A block entry that has not two members. -/
  | notAPair (group : MarkerGroup) (found : Value)

def describeField (key complaint : String) : String :=
  "Comment syntax " ++ String.ofList [Text.singleQuote] ++ key ++ String.ofList [Text.singleQuote]
    ++ ": " ++ complaint

namespace DescriptionError

def group : DescriptionError → MarkerGroup
  | .wrongShape group | .badMarker group _ | .notAPair group _ => group

def message : DescriptionError → String
  | .wrongShape group => describeField group.key "the value has the wrong shape"
  | .badMarker group found =>
      describeField group.key ("markers must be non-empty strings, got " ++ found.literal)
  | .notAPair group found =>
      describeField group.key ("expected (open, close) pair, got " ++ found.literal)

end DescriptionError

/-- The members of a value: the characters of a text, the items of a list, the keys of an object. -/
def Value.members? : Value → Option (List Value)
  | .text value => some (value.map fun c => .text [c])
  | .list items => some items
  | .object fields => some (fields.map fun field => .text field.1)
  | _ => none

/-- The marker that a value is. -/
def Value.marker? : Value → Option Marker
  | .text value => Marker.ofText? value
  | _ => none

namespace MarkerGroup

def marker (group : MarkerGroup) (value : Value) : Except DescriptionError Marker :=
  match value.marker? with
  | some marker => .ok marker
  | none => .error (.badMarker group value)

/-- The markers of a line field; a text is one marker. -/
def markers (group : MarkerGroup) (value : Value) : Except DescriptionError (List Marker) :=
  match value with
  | .text text => [Value.text text].mapM group.marker
  | _ =>
      match value.members? with
      | some members => members.mapM group.marker
      | none => .error (.wrongShape group)

/-- One pair of a block field. A text is no pair, whatever its length. -/
def pair (group : MarkerGroup) (entry : Value) : Except DescriptionError BlockPair :=
  match entry with
  | .text _ => .error (.notAPair group entry)
  | _ =>
      match entry.members? with
      | some [opener, closer] =>
          match opener.marker?, closer.marker? with
          | some opener, some closer => .ok ⟨opener, closer⟩
          | _, _ => .error (.badMarker group entry)
      | some _ => .error (.notAPair group entry)
      | none => .error (.wrongShape group)

/-- The pairs of a block field. -/
def pairs (group : MarkerGroup) (value : Value) : Except DescriptionError (List BlockPair) :=
  match value.members? with
  | some members => members.mapM group.pair
  | none => .error (.wrongShape group)

/-- What a description has under the key of the group. -/
def field? (group : MarkerGroup) (fields : List (Text × Value)) : Option Value :=
  fields.lookup group.key.toList

end MarkerGroup

/-- What a check makes of a field that is present; an absent field has no markers. -/
def checkField {α : Type} (check : Value → Except DescriptionError (List α)) :
    Option Value → Except DescriptionError (List α)
  | some value => check value
  | none => .ok []

/-- The comment style that a description gives. Other keys have no effect. -/
def CommentStyle.describe (fields : List (Text × Value)) :
    Except DescriptionError CommentStyle := do
  let lineMarkers ← checkField (MarkerGroup.markers .line) (MarkerGroup.field? .line fields)
  let docLineMarkers ←
    checkField (MarkerGroup.markers .docLine) (MarkerGroup.field? .docLine fields)
  let blockPairs ← checkField (MarkerGroup.pairs .block) (MarkerGroup.field? .block fields)
  let docBlockPairs ←
    checkField (MarkerGroup.pairs .docBlock) (MarkerGroup.field? .docBlock fields)
  return { lineMarkers, blockPairs, docLineMarkers, docBlockPairs }

end SourceScan
