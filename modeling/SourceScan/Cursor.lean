import SourceScan.TokenStream

/-! # Cursors

A cursor is a position in a token stream together with the line it is on. Moving it forward counts
the line breaks it passes. The values of tokens decide what is a line break, a backslash or a
delimiter; only the tests for the first and the last token of a line look at kinds.
-/

namespace SourceScan

/-- A position in a token stream and its line. -/
structure Cursor where
  index : Int := 0
  lineno : Int := 1
deriving DecidableEq, Repr

/-- The positions of the content of a string, without its delimiters. -/
structure StringSpan where
  start : Int
  stop : Int
  /-- Whether a closing delimiter was found. -/
  terminated : Bool := true
deriving DecidableEq, Repr

namespace Token

def endsLine (token : Token) : Bool := token.value = ['\n']

def isBackslash (token : Token) : Bool := token.value = [Text.backslash]

end Token

/-- How far a search went: the tokens it passed, the line breaks among them, and whether it came to
what it looked for. -/
structure Search where
  passed : Nat
  breaks : Nat
  found : Bool
deriving DecidableEq, Repr

namespace Search

def here : Search := ⟨0, 0, true⟩

def nowhere : Search := ⟨0, 0, false⟩

/-- The search that passes a token first. -/
def behind (search : Search) (token : Token) : Search :=
  { search with
    passed := search.passed + 1
    breaks := search.breaks + if token.endsLine then 1 else 0 }

/-- Looks for the end of a string. A backslash protects the token behind it. -/
def forClosing (closing : Text) : List Token → Search
  | [] => nowhere
  | token :: rest =>
      if token.isBackslash then
        match rest with
        | [] => nowhere.behind token
        | escaped :: rest => ((forClosing closing rest).behind escaped).behind token
      else if token.endsLine then (forClosing closing rest).behind token
      else if token.value = closing then here
      else (forClosing closing rest).behind token

def forLineBreak : List Token → Search
  | [] => nowhere
  | token :: rest => if token.endsLine then here else (forLineBreak rest).behind token

def startsWith (sequence : List Text) (tokens : List Token) : Bool :=
  sequence.isPrefixOf (tokens.map Token.value)

def forSequence (sequence : List Text) : List Token → Search
  | [] => nowhere
  | token :: rest =>
      if startsWith sequence (token :: rest) then here
      else (forSequence sequence rest).behind token

end Search

namespace TokenStream

/-- Moves over a string if the cursor is on its opening delimiter: behind the closing delimiter, or
to the end of the stream if there is none. -/
def skipString? (stream : TokenStream) (cursor : Cursor) (opening closing : Text) :
    Option (StringSpan × Cursor) :=
  if stream.value? cursor.index = some opening then
    let start := cursor.index + 1
    let search := Search.forClosing closing (stream.tokens.drop start.toNat)
    let lineno := cursor.lineno + search.breaks
    if search.found then
      let stop := start + search.passed
      some (⟨start, stop, true⟩, ⟨stop + 1, lineno⟩)
    else some (⟨start, stream.length, false⟩, ⟨stream.length, lineno⟩)
  else none

/-- The tokens from an index on. A negative index counts from the end, and behind the last token
the tokens follow from the first. -/
def from? (stream : TokenStream) (index : Int) : Option (List Token) :=
  if 0 ≤ index then some (stream.tokens.drop index.toNat)
  else (position? stream.length index).map fun start =>
    stream.tokens.drop start ++ stream.tokens

/-- Moves behind the next line break, or to the end of the stream if there is none. The cursor must
not lie further before the stream than the stream is long. -/
def skipLine? (stream : TokenStream) (cursor : Cursor) : Option Cursor :=
  (stream.from? cursor.index).map fun tokens =>
    let search := Search.forLineBreak tokens
    if search.found then ⟨cursor.index + search.passed + 1, cursor.lineno + 1⟩
    else { cursor with index := stream.length }

/-- Moves behind the next occurrence of a sequence of values, or to the end of the stream if there
is none; also whether there was one. The empty sequence is found where the cursor is, and no other
begins before the first token. The cursor must not lie further before the stream than the stream is
long. -/
def skipUntil? (stream : TokenStream) (cursor : Cursor) (sequence : List Text) :
    Option (Bool × Cursor) :=
  if sequence = [] then some (true, cursor)
  else (stream.from? cursor.index).map fun tokens =>
    let before := tokens.take (-cursor.index).toNat
    let search := Search.forSequence sequence (tokens.drop before.length)
    let lineno := cursor.lineno + before.countP Token.endsLine + search.breaks
    if search.found then
      let index := max cursor.index 0 + search.passed
      (true, ⟨index + sequence.length, lineno + sequence.count ['\n']⟩)
    else (false, ⟨stream.length, lineno⟩)

/-- Tokens without a whitespace token at their start. -/
def dropWhitespace : List Token → List Token
  | [] => []
  | token :: rest => if token.isWhitespace then rest else token :: rest

/-- Whether tokens end at once or with a line break, one whitespace token aside. -/
def endsLineSoon (tokens : List Token) : Bool :=
  match dropWhitespace tokens with
  | [] => true
  | token :: _ => token.isLineBreak

def reaches (stream : TokenStream) (index : Int) : Bool := 0 ≤ index && index ≤ stream.length

/-- Whether a position is the first of its line, indentation aside. -/
def isFirstOfLine (stream : TokenStream) (index : Int) : Bool :=
  stream.reaches index && endsLineSoon (stream.tokens.take index.toNat).reverse

/-- Whether a position is the last of its line, trailing blanks aside. -/
def isLastOfLine (stream : TokenStream) (index : Int) : Bool :=
  stream.reaches index && endsLineSoon (stream.tokens.drop (index.toNat + 1))

/-- Whether the values from a position on are those of a sequence. -/
def hasSequenceAt (stream : TokenStream) (index : Int) (sequence : List Text) : Bool :=
  stream.reaches index && Search.startsWith sequence (stream.tokens.drop index.toNat)

def isEscaped (stream : TokenStream) (index : Int) : Bool :=
  0 < index && stream.value? (index - 1) == some [Text.backslash]

def stringBetween (stream : TokenStream) (start stop : Int) : Text := stream.text start (some stop)

end TokenStream

end SourceScan
