import SourceScan.Token

/-! # Shapes of tokens

Every token that is cut from a text holds characters of one kind only, which is the kind of the
token, and at least one of them. So a line break among the tokens is a line feed of the text.
-/

namespace SourceScan

namespace Token

/-- A token holds at least one character, and only characters of its kind. -/
structure Shaped (token : Token) : Prop where
  value_ne_nil : token.value ≠ []
  kind_eq : ∀ c ∈ token.value, TokenKind.ofChar c = token.kind

theorem shaped_ofChar (c : Char) : Shaped ⟨.ofChar c, [c]⟩ :=
  ⟨List.cons_ne_nil c [], by simp⟩

theorem shaped_attach {c : Char} {tokens : List Token} (htokens : ∀ token ∈ tokens, token.Shaped) :
    ∀ token ∈ attach c tokens, token.Shaped := by
  cases tokens with
  | nil => simpa [attach] using shaped_ofChar c
  | cons first rest =>
      obtain ⟨hfirst, hrest⟩ := List.forall_mem_cons.mp htokens
      simp only [attach]
      split
      next hjoin =>
        refine List.forall_mem_cons.mpr ⟨⟨List.cons_ne_nil c _, ?_⟩, hrest⟩
        exact List.forall_mem_cons.mpr ⟨hjoin.1, hfirst.kind_eq⟩
      next => exact List.forall_mem_cons.mpr ⟨shaped_ofChar c, htokens⟩

end Token

theorem shaped_tokenize (text : Text) : ∀ token ∈ tokenize text, token.Shaped := by
  induction text with
  | nil => simp
  | cons c text ih => exact Token.shaped_attach ih

theorem mem_text_of_mem_tokenize {text : Text} {token : Token} {c : Char}
    (htoken : token ∈ tokenize text) (hc : c ∈ token.value) : c ∈ text := by
  rw [← spell_tokenize text]
  exact List.mem_flatMap.mpr ⟨token, htoken, hc⟩

theorem TokenKind.ofChar_eq_lineBreak_iff {c : Char} : ofChar c = .lineBreak ↔ c = '\n' := by
  unfold ofChar
  split
  next h => simp [h]
  next h =>
    split
    · simp [h]
    · split <;> simp [h]

/-- A text without line feeds has no line breaks among its tokens. -/
theorem not_isLineBreak_of_mem_tokenize {text : Text} (hfeed : '\n' ∉ text) {token : Token}
    (htoken : token ∈ tokenize text) : token.isLineBreak = false := by
  have hshaped := shaped_tokenize text token htoken
  obtain ⟨c, hc⟩ := List.exists_mem_of_ne_nil _ hshaped.value_ne_nil
  refine decide_eq_false fun hkind => hfeed ?_
  have hfeed : c = '\n' := TokenKind.ofChar_eq_lineBreak_iff.mp ((hshaped.kind_eq c hc).trans hkind)
  exact hfeed ▸ mem_text_of_mem_tokenize htoken hc

end SourceScan
