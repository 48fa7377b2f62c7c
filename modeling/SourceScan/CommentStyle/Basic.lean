import SourceScan.Text.Basic

/-! # Comment styles

A comment style says which markers open line comments and which pairs of markers enclose block
comments. Each of the two has a plain group and a group that marks documentation. A marker is never
empty.
-/

namespace SourceScan

/-- A text that opens or closes a comment. -/
structure Marker where
  text : Text
  nonempty : text ≠ []
deriving DecidableEq

namespace Marker

/-- The marker of a given text, if the text is not empty. -/
def ofText? (text : Text) : Option Marker :=
  if h : text = [] then none else some ⟨text, h⟩

def ofChars (first : Char) (rest : Text) : Marker := ⟨first :: rest, List.cons_ne_nil first rest⟩

def last (marker : Marker) : Char := marker.text.getLast marker.nonempty

theorem ofText?_eq_some_iff {text : Text} {marker : Marker} :
    ofText? text = some marker ↔ marker.text = text := by
  unfold ofText?
  split
  · next h =>
      simp only [reduceCtorEq, false_iff]
      exact fun heq => marker.nonempty (heq.trans h)
  · cases marker
    simp [eq_comm]

end Marker

/-- The two markers that enclose a block comment. -/
structure BlockPair where
  opener : Marker
  closer : Marker
deriving DecidableEq

/-- The markers of one language, in the order of their declaration. -/
structure CommentStyle where
  lineMarkers : List Marker := []
  blockPairs : List BlockPair := []
  docLineMarkers : List Marker := []
  docBlockPairs : List BlockPair := []
deriving DecidableEq

namespace CommentStyle

/-- The style of a language without comments. -/
def bare : CommentStyle := {}

/-- Whether no comment can be opened. -/
def isEmpty (style : CommentStyle) : Bool :=
  style.lineMarkers.isEmpty && style.blockPairs.isEmpty
    && style.docLineMarkers.isEmpty && style.docBlockPairs.isEmpty

end CommentStyle

end SourceScan
