import SourceScan.CommentStyle.Basic

/-! # Openings

The first thing on a line, behind its indentation, decides whether the line opens a comment.
Documentation markers are tried before plain ones and lines before blocks, the longest marker of a
group wins, and of equally long ones the first declared. A documentation marker does not count when
its own last character follows it, nor, for a block, when it runs into its closer.
-/

namespace SourceScan

/-- What a line opens. The body is the line without its marker; the indentation stays. -/
inductive Opening where
  | code
  | lineComment (body : Text) (isDoc : Bool)
  | blockComment (body : Text) (closer : Marker) (isDoc : Bool)
deriving DecidableEq

/-- The first of the largest items. -/
def firstLargest? {α : Type} (size : α → Nat) : List α → Option α
  | [] => none
  | item :: rest =>
      match firstLargest? size rest with
      | none => some item
      | some best => if size item < size best then some best else some item

/-- Whether a documentation marker counts before a text: its last character does not follow. -/
def Marker.standsBefore (marker : Marker) (after : Text) : Bool :=
  after.head? != some marker.last

/-- Whether a documentation pair counts before a text: its opener does, and no closer starts
at the last character of the opener. -/
def BlockPair.standsBefore (pair : BlockPair) (after : Text) : Bool :=
  pair.opener.standsBefore after
    && (Text.after? pair.closer.text (pair.opener.last :: after)).isNone

namespace Opening

/-- The items whose marker opens a line and counts there, each with the text behind its marker. -/
def candidates {α : Type} (marker : α → Marker) (counts : α → Text → Bool) (items : List α)
    (line : Text) : List (α × Text) :=
  items.filterMap fun item =>
    ((Text.after? (marker item).text (Text.content line)).filter (counts item)).map (item, ·)

/-- The item with the longest marker that opens a line, and the line without that marker. -/
def longest? {α : Type} (marker : α → Marker) (counts : α → Text → Bool) (items : List α)
    (line : Text) : Option (α × Text) :=
  (firstLargest? (fun found => (marker found.1).text.length)
    (candidates marker counts items line)).map
      fun (item, after) => (item, Text.indent line ++ after)

/-- A line without the plain line marker that opens it. -/
def lineBody? (style : CommentStyle) (line : Text) : Option Text :=
  (longest? id (fun _ _ => true) style.lineMarkers line).map Prod.snd

/-- A line without the documentation line marker that opens it. -/
def docLineBody? (style : CommentStyle) (line : Text) : Option Text :=
  (longest? id Marker.standsBefore style.docLineMarkers line).map Prod.snd

/-- The plain pair whose opener opens a line, and the line without the opener. -/
def block? (style : CommentStyle) (line : Text) : Option (BlockPair × Text) :=
  longest? BlockPair.opener (fun _ _ => true) style.blockPairs line

/-- The documentation pair whose opener opens a line, and the line without the opener. -/
def docBlock? (style : CommentStyle) (line : Text) : Option (BlockPair × Text) :=
  longest? BlockPair.opener BlockPair.standsBefore style.docBlockPairs line

def ofLine (style : CommentStyle) (line : Text) : Opening :=
  match docLineBody? style line with
  | some body => .lineComment body true
  | none =>
      match lineBody? style line with
      | some body => .lineComment body false
      | none =>
          match docBlock? style line with
          | some (pair, body) => .blockComment body pair.closer true
          | none =>
              match block? style line with
              | some (pair, body) => .blockComment body pair.closer false
              | none => .code

end Opening

end SourceScan
