import SourceScan.Proofs.Token.Cut

/-! # Divisions of a text

A text can be divided in one way only: into runs of word characters, runs of blanks, single line
feeds and single other characters, with no two runs of one kind side by side. No character is of two
kinds, so that the first character of a token tells the kind of the whole token.
-/

namespace SourceScan

theorem isWordChar_of_isBlank {c : Char} (hblank : isBlank c = true) : isWordChar c = false := by
  rcases (Bool.or_eq_true _ _).mp hblank with hspace | htab
  · rw [beq_iff_eq.mp hspace]
    decide
  · rw [beq_iff_eq.mp htab]
    decide

namespace TokenKind

/-- A value is as its kind says: words and whitespace are runs of word characters and of blanks, a
line break is one line feed, and a symbol is one character of none of these kinds. -/
def Fits : TokenKind → Text → Prop
  | .word, value => value ≠ [] ∧ ∀ c ∈ value, isWordChar c = true
  | .whitespace, value => value ≠ [] ∧ ∀ c ∈ value, isBlank c = true
  | .lineBreak, value => value = ['\n']
  | .symbol, value =>
      ∃ c, value = [c] ∧ isWordChar c = false ∧ isBlank c = false ∧ c ≠ '\n'

/-! ## The kind of one character -/

variable {c : Char}

theorem ofChar_eq_whitespace_iff : ofChar c = .whitespace ↔ isBlank c = true := by
  unfold ofChar
  split
  next hfeed =>
    subst hfeed
    decide
  next =>
    split
    next hblank => simp [hblank]
    next hblank => split <;> simp [hblank]

/-- The tests that come before the one for word characters let none of them through. -/
theorem ofChar_eq_word_iff : ofChar c = .word ↔ isWordChar c = true := by
  unfold ofChar
  split
  next hfeed =>
    subst hfeed
    decide
  next =>
    split
    next hblank => simp [isWordChar_of_isBlank hblank]
    next => split <;> simp [*]

theorem ofChar_eq_symbol_iff :
    ofChar c = .symbol ↔ isWordChar c = false ∧ isBlank c = false ∧ c ≠ '\n' := by
  rw [← Bool.not_eq_true, ← Bool.not_eq_true, ← ofChar_eq_word_iff, ← ofChar_eq_whitespace_iff, Ne,
    ← ofChar_eq_lineBreak_iff]
  cases ofChar c <;> simp

end TokenKind

namespace Token

variable {token next : Token}

theorem shaped_iff :
    token.Shaped ↔ token.value ≠ [] ∧ ∀ c ∈ token.value, TokenKind.ofChar c = token.kind :=
  ⟨fun hshaped => ⟨hshaped.value_ne_nil, hshaped.kind_eq⟩, fun h => ⟨h.1, h.2⟩⟩

/-- A token of a kind that makes no runs is one character of this kind. -/
theorem shaped_and_short_iff (hrun : token.kind.isRun = false) :
    token.Shaped ∧ (1 < token.value.length → token.kind.isRun = true) ↔
      ∃ c, token.value = [c] ∧ TokenKind.ofChar c = token.kind := by
  rw [hrun, shaped_iff]
  constructor
  · rintro ⟨⟨hvalue, hkind⟩, hshort⟩
    have hlength : token.value.length = 1 := by
      have hpos := List.length_pos_iff.mpr hvalue
      have hle : ¬ 1 < token.value.length := fun hlong => Bool.false_ne_true (hshort hlong)
      omega
    obtain ⟨c, hc⟩ := List.length_eq_one_iff.mp hlength
    exact ⟨c, hc, hkind c (hc ▸ List.mem_singleton_self c)⟩
  · rintro ⟨c, hvalue, hkind⟩
    simp [hvalue, hkind]

/-- Cut tokens are those whose values are as their kinds say. -/
theorem fits_iff :
    token.kind.Fits token.value ↔
      token.Shaped ∧ (1 < token.value.length → token.kind.isRun = true) := by
  cases hkind : token.kind with
  | word =>
      simp only [TokenKind.Fits, TokenKind.isRun, implies_true, and_true, shaped_iff, hkind,
        TokenKind.ofChar_eq_word_iff]
  | whitespace =>
      simp only [TokenKind.Fits, TokenKind.isRun, implies_true, and_true, shaped_iff, hkind,
        TokenKind.ofChar_eq_whitespace_iff]
  | lineBreak =>
      have hrun : token.kind.isRun = false := by rw [hkind]; rfl
      rw [← hkind, shaped_and_short_iff hrun]
      simp [TokenKind.Fits, hkind, TokenKind.ofChar_eq_lineBreak_iff]
  | symbol =>
      have hrun : token.kind.isRun = false := by rw [hkind]; rfl
      rw [← hkind, shaped_and_short_iff hrun]
      simp only [TokenKind.Fits, hkind, TokenKind.ofChar_eq_symbol_iff]

/-- Tokens that are not both words and not both whitespace. -/
def Unmerged (token next : Token) : Prop :=
  ¬ (token.kind = .word ∧ next.kind = .word) ∧
    ¬ (token.kind = .whitespace ∧ next.kind = .whitespace)

theorem unmerged_iff_apart : token.Unmerged next ↔ token.Apart next := by
  unfold Unmerged Apart
  cases token.kind <;> cases next.kind <;> simp [TokenKind.isRun]

/-- The first character of a token that was cut tells the kind of the token. -/
theorem Shaped.classify?_value (hshaped : token.Shaped) :
    TokenKind.classify? token.value = some token.kind := by
  obtain ⟨c, rest, hvalue⟩ := List.exists_cons_of_ne_nil hshaped.value_ne_nil
  rw [TokenKind.classify?, hvalue, List.head?_cons, Option.map_some,
    hshaped.kind_eq c (hvalue ▸ List.mem_cons_self)]

end Token

/-- A text is divided into tokens: they spell it, each value is as its kind says, and no two words
and no two whitespaces stand side by side. -/
structure Division (text : Text) (tokens : List Token) : Prop where
  spelled : spell tokens = text
  fits : ∀ token ∈ tokens, token.kind.Fits token.value
  unmerged : tokens.IsChain Token.Unmerged

theorem cut_iff {tokens : List Token} :
    Cut tokens ↔
      (∀ token ∈ tokens, token.kind.Fits token.value) ∧ tokens.IsChain Token.Unmerged := by
  have hchain : tokens.IsChain Token.Unmerged ↔ tokens.IsChain Token.Apart := by
    simp only [List.isChain_iff_getElem, Token.unmerged_iff_apart]
  simp only [Token.fits_iff, hchain]
  constructor
  · rintro ⟨hshaped, hruns, hapart⟩
    exact ⟨fun token htoken => ⟨hshaped token htoken, hruns token htoken⟩, hapart⟩
  · rintro ⟨hfits, hapart⟩
    exact ⟨fun token htoken => (hfits token htoken).1, fun token htoken => (hfits token htoken).2,
      hapart⟩

/-- A text has one division, its tokens, and the first character of each of them tells its kind. -/
theorem division_iff_eq_tokenize (text : Text) :
    (∀ tokens, Division text tokens ↔ tokens = tokenize text) ∧
      ∀ token ∈ tokenize text, TokenKind.classify? token.value = some token.kind := by
  refine ⟨fun tokens => ⟨?_, ?_⟩, fun token htoken => ?_⟩
  · rintro ⟨rfl, hfits, hunmerged⟩
    have hcut : Cut tokens := cut_iff.mpr ⟨hfits, hunmerged⟩
    exact (tokenize_spell hcut).symm
  · rintro rfl
    obtain ⟨hfits, hunmerged⟩ := cut_iff.mp (cut_tokenize text)
    exact ⟨spell_tokenize text, hfits, hunmerged⟩
  · exact (shaped_tokenize text token htoken).classify?_value

example : tokenize "a_1::\u00e9 \t\n\n".toList =
    [⟨.word, "a_1".toList⟩, ⟨.symbol, ":".toList⟩, ⟨.symbol, ":".toList⟩, ⟨.word, "é".toList⟩,
      ⟨.whitespace, " \t".toList⟩, .lineBreak, .lineBreak] := by decide

end SourceScan
