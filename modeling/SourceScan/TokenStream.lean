import SourceScan.Slice
import SourceScan.Token

/-! # Token streams

A stream holds the tokens of one source in order. It grows at its end only and is read by position.
-/

namespace SourceScan

/-- The tokens of one source. -/
structure TokenStream where
  tokens : List Token := []
deriving DecidableEq, Repr

namespace TokenStream

def empty : TokenStream := ⟨[]⟩

def length (stream : TokenStream) : Nat := stream.tokens.length

def append (stream : TokenStream) (tokens : List Token) : TokenStream :=
  ⟨stream.tokens ++ tokens⟩

/-- The stream with the tokens of a line of code and a line break at its end. -/
def addLine (stream : TokenStream) (line : Text) : TokenStream :=
  stream.append (lineTokens line)

/-- The stream with a line break at its end, the place of a line that holds no code. -/
def addBreak (stream : TokenStream) : TokenStream := stream.append [Token.lineBreak]

/-- The text of the token at an index; there is none outside the stream. -/
def value? (stream : TokenStream) (index : Int) : Option Text :=
  if index < 0 then none else stream.tokens[index.toNat]?.map Token.value

/-- The token at an index that may count from the end. -/
def get? (stream : TokenStream) (index : Int) : Option Token :=
  (position? stream.length index).bind (stream.tokens[·]?)

def values (stream : TokenStream) : List Text := stream.tokens.map Token.value

/-- The joined text of the tokens between two bounds; without an upper one, up to the end. An upper
bound beyond the end is the end, and a negative bound counts from it. -/
def text (stream : TokenStream) (start : Int) (stop : Option Int) : Text :=
  let upper := match stop with
    | some bound => min bound stream.length
    | none => stream.length
  spell (between stream.tokens start upper)

def lineCount (stream : TokenStream) : Nat := stream.tokens.countP Token.isLineBreak

def display (stream : TokenStream) : String :=
  "TokenStream(" ++ toString stream.length ++ " tokens)"

end TokenStream

end SourceScan
