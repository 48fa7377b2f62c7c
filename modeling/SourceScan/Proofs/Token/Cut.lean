import Mathlib.Data.List.Chain
import SourceScan.Proofs.Token.Shape

/-! # Where texts are cut

The tokens of a text are the one way to cut it: tokens that hold characters of their kind, one
character unless the kind makes runs, and no two runs of one kind side by side, are the tokens of
the text that they spell. Pieces of such tokens are cut in this way too, and a line break can stand
between any others.
-/

namespace SourceScan

namespace Token

/-- Tokens that may stand side by side: they are not two runs of one kind. -/
def Apart (token next : Token) : Prop := token.kind = next.kind → token.kind.isRun = false

theorem apart_lineBreak (token : Token) : token.Apart lineBreak := by
  intro hkind
  rw [hkind]
  rfl

theorem lineBreak_apart (token : Token) : lineBreak.Apart token := fun _ => rfl

/-- A character that continues the run in front of which it is put joins it. -/
theorem attach_of_joins {c : Char} {token : Token} (rest : List Token)
    (hkind : .ofChar c = token.kind) (hrun : token.kind.isRun = true) :
    attach c (token :: rest) = ⟨token.kind, c :: token.value⟩ :: rest :=
  if_pos ⟨hkind, hrun⟩

/-- Any other character is a token of its own. -/
theorem attach_of_apart {c : Char} {tokens : List Token}
    (hapart : ∀ next ∈ tokens.head?, Apart ⟨.ofChar c, [c]⟩ next) :
    attach c tokens = ⟨.ofChar c, [c]⟩ :: tokens := by
  cases tokens with
  | nil => rfl
  | cons token rest =>
      refine if_neg ?_
      rintro ⟨hkind, hrun⟩
      have halone : (TokenKind.ofChar c).isRun = false := hapart token rfl hkind
      rw [hkind, hrun] at halone
      cases halone

end Token

/-- Tokens as a text is cut into them. -/
structure Cut (tokens : List Token) : Prop where
  shaped : ∀ token ∈ tokens, token.Shaped
  /-- Only kinds that make runs have tokens of more than one character. -/
  isRun : ∀ token ∈ tokens, 1 < token.value.length → token.kind.isRun = true
  apart : tokens.IsChain Token.Apart

theorem cut_nil : Cut [] := ⟨by simp, by simp, List.isChain_nil⟩

theorem cut_singleton_lineBreak : Cut [Token.lineBreak] := by
  refine ⟨?_, ?_, List.isChain_singleton _⟩
  · intro token htoken
    rw [List.mem_singleton.mp htoken]
    exact Token.shaped_ofChar '\n'
  · intro token htoken hlong
    rw [List.mem_singleton.mp htoken] at hlong
    exact absurd hlong (lt_irrefl 1)

theorem cut_append_iff {left right : List Token} :
    Cut (left ++ right) ↔ Cut left ∧ Cut right ∧
      ∀ last ∈ left.getLast?, ∀ first ∈ right.head?, last.Apart first := by
  constructor
  · rintro ⟨hshaped, hruns, hapart⟩
    obtain ⟨hleft, hright, hmiddle⟩ := List.isChain_append.mp hapart
    obtain ⟨hshapedLeft, hshapedRight⟩ := List.forall_mem_append.mp hshaped
    obtain ⟨hrunsLeft, hrunsRight⟩ := List.forall_mem_append.mp hruns
    exact ⟨⟨hshapedLeft, hrunsLeft, hleft⟩, ⟨hshapedRight, hrunsRight, hright⟩, hmiddle⟩
  · rintro ⟨hleft, hright, hmiddle⟩
    exact ⟨List.forall_mem_append.mpr ⟨hleft.shaped, hright.shaped⟩,
      List.forall_mem_append.mpr ⟨hleft.isRun, hright.isRun⟩,
      List.isChain_append.mpr ⟨hleft.apart, hright.apart, hmiddle⟩⟩

/-- A piece of cut tokens is cut. -/
theorem Cut.of_infix {piece tokens : List Token} (hcut : Cut tokens) (hpiece : piece <:+: tokens) :
    Cut piece := by
  obtain ⟨before, after, rfl⟩ := hpiece
  exact (cut_append_iff.mp (cut_append_iff.mp hcut).1).2.1

/-- A line break keeps apart what stands on its two sides. -/
theorem Cut.append_lineBreak_append {left right : List Token} (hleft : Cut left)
    (hright : Cut right) : Cut (left ++ Token.lineBreak :: right) := by
  have hbroken : Cut (Token.lineBreak :: right) := by
    rw [← List.singleton_append, cut_append_iff]
    refine ⟨cut_singleton_lineBreak, hright, ?_⟩
    intro last hlast first _
    obtain rfl := Option.some.inj hlast
    exact Token.lineBreak_apart first
  refine cut_append_iff.mpr ⟨hleft, hbroken, ?_⟩
  intro last _ first hfirst
  obtain rfl := Option.some.inj hfirst
  exact Token.apart_lineBreak last

theorem cut_attach {c : Char} {tokens : List Token} (hcut : Cut tokens) :
    Cut (Token.attach c tokens) := by
  have hshaped := Token.shaped_attach (c := c) hcut.shaped
  -- The character is a token of its own, or it joins a run and leaves what is behind it alone.
  by_cases hapart : ∀ next ∈ tokens.head?, Token.Apart ⟨.ofChar c, [c]⟩ next
  · rw [Token.attach_of_apart hapart] at hshaped ⊢
    refine ⟨hshaped, List.forall_mem_cons.mpr ⟨?_, hcut.isRun⟩,
      List.isChain_cons.mpr ⟨hapart, hcut.apart⟩⟩
    exact fun hlong => absurd hlong (lt_irrefl 1)
  · simp only [Token.Apart, not_forall] at hapart
    obtain ⟨first, hfirst, hkind, hrun⟩ := hapart
    cases tokens with
    | nil => cases hfirst
    | cons token rest =>
        obtain rfl := Option.some.inj hfirst
        have hrun : token.kind.isRun = true := hkind ▸ Bool.of_not_eq_false hrun
        obtain ⟨hbehind, hchain⟩ := List.isChain_cons.mp hcut.apart
        rw [Token.attach_of_joins rest hkind hrun] at hshaped ⊢
        exact ⟨hshaped,
          List.forall_mem_cons.mpr ⟨fun _ => hrun, (List.forall_mem_cons.mp hcut.isRun).2⟩,
          List.isChain_cons.mpr ⟨hbehind, hchain⟩⟩

theorem cut_tokenize (text : Text) : Cut (tokenize text) := by
  induction text with
  | nil => exact cut_nil
  | cons c text ih => exact cut_attach ih

/-- Characters of one kind before a text are its first token, unless they join what follows. -/
theorem tokenize_append_of_kind {kind : TokenKind} {value text : Text} (hvalue : value ≠ [])
    (hkind : ∀ c ∈ value, TokenKind.ofChar c = kind)
    (hrun : 1 < value.length → kind.isRun = true)
    (hapart : ∀ next ∈ (tokenize text).head?, kind = next.kind → kind.isRun = false) :
    tokenize (value ++ text) = ⟨kind, value⟩ :: tokenize text := by
  induction value with
  | nil => exact absurd rfl hvalue
  | cons c value ih =>
      obtain ⟨rfl, hothers⟩ := List.forall_mem_cons.mp hkind
      rw [List.cons_append, tokenize_cons]
      by_cases hlast : value = []
      · subst hlast
        exact Token.attach_of_apart hapart
      · -- More than one character stands in a token only if its kind makes runs.
        have hlong : 1 < (c :: value).length :=
          Nat.succ_lt_succ (List.length_pos_iff.mpr hlast)
        rw [ih hlast hothers fun _ => hrun hlong]
        exact Token.attach_of_joins _ rfl (hrun hlong)

/-- Cut tokens are the tokens of the text that they spell. -/
theorem tokenize_spell {tokens : List Token} (hcut : Cut tokens) :
    tokenize (spell tokens) = tokens := by
  induction tokens with
  | nil => rfl
  | cons token rest ih =>
      obtain ⟨hshaped, hothers⟩ := List.forall_mem_cons.mp hcut.shaped
      obtain ⟨hrun, hruns⟩ := List.forall_mem_cons.mp hcut.isRun
      obtain ⟨hbehind, hchain⟩ := List.isChain_cons.mp hcut.apart
      have hrest : tokenize (spell rest) = rest := ih ⟨hothers, hruns, hchain⟩
      rw [spell_cons, tokenize_append_of_kind hshaped.value_ne_nil hshaped.kind_eq hrun
        (hrest.symm ▸ hbehind), hrest]

end SourceScan
