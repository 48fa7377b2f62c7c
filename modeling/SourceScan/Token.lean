import SourceScan.Text.Basic
import SourceScan.Text.Literal
import SourceScan.Text.WordChar

/-! # Tokens

Code is cut into tokens of four kinds: maximal runs of word characters, maximal runs of blanks,
single line feeds, and single characters of any other kind. Nothing of the text is lost.
-/

namespace SourceScan

/-- What a token is made of. -/
inductive TokenKind where
  /-- Letters, numbers and underscores. -/
  | word
  /-- Spaces and tabs. -/
  | whitespace
  /-- One line feed. -/
  | lineBreak
  /-- One character of any other kind. -/
  | symbol
deriving DecidableEq, Repr

namespace TokenKind

/-- The kind of the token that a character stands in. -/
def ofChar (c : Char) : TokenKind :=
  if c = '\n' then .lineBreak
  else if isBlank c then .whitespace
  else if isWordChar c then .word
  else .symbol

/-- Whether neighbouring characters of this kind share a token. -/
def isRun : TokenKind → Bool
  | .word | .whitespace => true
  | .lineBreak | .symbol => false

def name : TokenKind → String
  | .word => "WORD"
  | .whitespace => "WHITESPACE"
  | .lineBreak => "LINE_BREAK"
  | .symbol => "SYMBOL"

/-- The kind of a fragment by its first character; the empty fragment has none. -/
def classify? (fragment : Text) : Option TokenKind := fragment.head?.map ofChar

end TokenKind

/-- A fragment of text with its kind. Tokens made elsewhere may pair any kind with any value. -/
structure Token where
  kind : TokenKind
  value : Text
deriving DecidableEq, Repr

namespace Token

def lineBreak : Token := ⟨.lineBreak, ['\n']⟩

/-- Whether a token is a line break by its kind. -/
def isLineBreak (token : Token) : Bool := token.kind = .lineBreak

/-- Whether a token is whitespace by its kind. -/
def isWhitespace (token : Token) : Bool := token.kind = .whitespace

def display (token : Token) : String :=
  "Token(" ++ token.kind.name ++ ", " ++ token.value.literal ++ ")"

/-- Puts a character in front of tokens. It joins the first token if both are of one kind and that
kind makes runs, and is a token of its own otherwise. -/
def attach (c : Char) : List Token → List Token
  | [] => [⟨.ofChar c, [c]⟩]
  | token :: rest =>
      if .ofChar c = token.kind ∧ token.kind.isRun then ⟨token.kind, c :: token.value⟩ :: rest
      else ⟨.ofChar c, [c]⟩ :: token :: rest

end Token

/-- The tokens of a text. -/
def tokenize (text : Text) : List Token := text.foldr Token.attach []

/-- The tokens of a line of code and the line break that ends it. -/
def lineTokens (line : Text) : List Token := tokenize line ++ [Token.lineBreak]

@[simp] theorem tokenize_nil : tokenize [] = [] := rfl

@[simp] theorem tokenize_cons (c : Char) (text : Text) :
    tokenize (c :: text) = Token.attach c (tokenize text) := rfl

def spell (tokens : List Token) : Text := tokens.flatMap Token.value

@[simp] theorem spell_nil : spell [] = [] := rfl

@[simp] theorem spell_cons (token : Token) (tokens : List Token) :
    spell (token :: tokens) = token.value ++ spell tokens := rfl

theorem spell_attach (c : Char) (tokens : List Token) :
    spell (Token.attach c tokens) = c :: spell tokens := by
  cases tokens with
  | nil => rfl
  | cons token rest =>
      simp only [Token.attach]
      split <;> rfl

/-- Tokens spell the text that they were cut from. -/
theorem spell_tokenize (text : Text) : spell (tokenize text) = text := by
  induction text with
  | nil => rfl
  | cons c text ih => rw [tokenize_cons, spell_attach, ih]

end SourceScan
