import SourceScan.Settings
import SourceScan.Cursor
import SourceScan.Scope.Tracker

/-! # Records as text

How messages show the records of the library: the name of the record, and its fields by name.
-/

namespace SourceScan

/-- A record by its name and its fields. -/
def displayRecord (name : String) (fields : List (String × String)) : String :=
  name ++ "(" ++ Value.commaSeparated (fields.map fun (key, value) => key ++ "=" ++ value) ++ ")"

def displayBool (value : Bool) : String := (Value.bool value).literal

def Cursor.display (cursor : Cursor) : String :=
  displayRecord "Cursor" [("index", toString cursor.index), ("lineno", toString cursor.lineno)]

def StringSpan.display (span : StringSpan) : String :=
  displayRecord "StringSpan" [("start", toString span.start), ("end", toString span.stop),
    ("terminated", displayBool span.terminated)]

def Frame.display (frame : Frame) : String :=
  let imports := match frame.imports with
    | none => Value.null
    | some names => .list (names.map fun (name : String) => .text name.toList)
  displayRecord "Scope" [("closing_symbol", Value.optionalLiteral frame.closingSymbol),
    ("package", Value.optionalLiteral frame.package), ("using", imports.literal)]

def ScopeEntry.display (entry : ScopeEntry) : String :=
  displayRecord "ScopeChange" [("scope", Value.optionalLiteral entry.scope),
    ("lineno", toString entry.lineno)]

def CommentRun.display (run : CommentRun) : String :=
  displayRecord "CommentRun" [("lines", Value.tupleLiteral (run.lines.map Text.literal)),
    ("lineno", toString run.lineno), ("is_doc", displayBool run.isDoc)]

def BlockPair.display (pair : BlockPair) : String :=
  Value.tupleLiteral [pair.opener.text.literal, pair.closer.text.literal]

def CommentStyle.display (style : CommentStyle) : String :=
  let markers (markers : List Marker) : String :=
    Value.tupleLiteral (markers.map fun marker => marker.text.literal)
  let pairs (pairs : List BlockPair) : String := Value.tupleLiteral (pairs.map BlockPair.display)
  displayRecord "CommentSyntax" [("line_markers", markers style.lineMarkers),
    ("block_markers", pairs style.blockPairs),
    ("doc_line_markers", markers style.docLineMarkers),
    ("doc_block_markers", pairs style.docBlockPairs)]

def StyleSetting.display : StyleSetting → String
  | .usable none => Value.literal .null
  | .usable (some style) => style.display
  | .unusable value => value.literal

def LineEdit.display (edit : LineEdit) : String :=
  (Value.list (edit.toTexts.map .text)).literal

def Settings.display (settings : Settings LineEdit) : String :=
  displayRecord "LexConfig" [("syntax", settings.style.display),
    ("preprocessor", (settings.preprocessor.map LineEdit.display).getD (Value.literal .null)),
    ("encoding", settings.encoding.literal), ("errors", settings.errors.literal)]

end SourceScan
