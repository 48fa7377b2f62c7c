import Mathlib.Data.List.Infix
import SourceScan.Text.Basic

/-! # Occurrences of a pattern

A pattern occurs in a text when it stands anywhere inside. Cutting a text at a pattern succeeds
exactly when the pattern occurs, and it cuts at the first occurrence.
-/

namespace SourceScan.Text

/-- A place where a pattern occurs in a text, with no occurrence further to the left. -/
structure FirstAt (pattern text before tail : Text) : Prop where
  eq_append : text = before ++ pattern ++ tail
  least : ∀ {before' tail' : Text}, text = before' ++ pattern ++ tail' →
    before.length ≤ before'.length

theorem after?_eq_none_iff {pattern text : Text} :
    after? pattern text = none ↔ ∀ rest, text ≠ pattern ++ rest := by
  rw [Option.eq_none_iff_forall_ne_some]
  exact forall_congr' fun rest => not_congr after?_eq_some_iff

/-- A pattern that does not start a text occurs in it only behind the first character. -/
theorem exists_cons_of_after?_eq_none {pattern before tail rest : Text} {c : Char}
    (hnone : after? pattern (c :: rest) = none) (heq : c :: rest = before ++ pattern ++ tail) :
    ∃ inner, before = c :: inner ∧ rest = inner ++ pattern ++ tail := by
  cases before with
  | nil => exact absurd heq (after?_eq_none_iff.mp hnone tail)
  | cons d inner =>
      obtain ⟨rfl, hrest⟩ := List.cons.inj heq
      exact ⟨inner, rfl, hrest⟩

/-- A text is not cut exactly if the pattern does not occur in it. -/
theorem splitAt?_eq_none_iff {pattern text : Text} :
    splitAt? pattern text = none ↔ ¬ pattern <:+: text := by
  induction text with
  | nil =>
      rw [splitAt?, Option.map_eq_none_iff, after?_eq_none_iff, List.infix_nil]
      constructor
      · rintro hnone rfl
        exact hnone [] rfl
      · intro hne rest heq
        exact hne (List.append_eq_nil_iff.mp heq.symm).1
  | cons c rest ih =>
      cases hafter : after? pattern (c :: rest) with
      | some tail =>
          have hocc : pattern <:+: c :: rest :=
            ⟨[], tail, (after?_eq_some_iff.mp hafter).symm⟩
          simp [splitAt?, hafter, hocc]
      | none =>
          simp only [splitAt?, hafter, Option.map_eq_none_iff, ih]
          refine not_congr ⟨fun hocc => hocc.trans (List.suffix_cons c rest).isInfix, ?_⟩
          rintro ⟨before, tail, heq⟩
          obtain ⟨inner, -, hinner⟩ := exists_cons_of_after?_eq_none hafter heq.symm
          exact ⟨inner, tail, hinner.symm⟩

theorem firstAt_of_splitAt?_eq_some {pattern text before tail : Text}
    (hsplit : splitAt? pattern text = some (before, tail)) : FirstAt pattern text before tail := by
  refine ⟨eq_of_splitAt?_eq_some hsplit, ?_⟩
  induction text generalizing before with
  | nil =>
      obtain ⟨rest, -, heq⟩ := Option.map_eq_some_iff.mp hsplit
      obtain ⟨rfl, rfl⟩ := Prod.mk.inj heq
      intro before' tail' _
      exact Nat.zero_le _
  | cons c rest ih =>
      intro before' tail' heq
      cases hafter : after? pattern (c :: rest) with
      | some tail =>
          simp only [splitAt?, hafter, Option.some.injEq, Prod.mk.injEq] at hsplit
          rw [← hsplit.1]
          exact Nat.zero_le _
      | none =>
          simp only [splitAt?, hafter, Option.map_eq_some_iff, Prod.mk.injEq] at hsplit
          obtain ⟨⟨inner, _⟩, hinner, rfl, rfl⟩ := hsplit
          obtain ⟨inner', rfl, hrest⟩ := exists_cons_of_after?_eq_none hafter heq
          exact Nat.succ_le_succ (ih hinner hrest)

theorem FirstAt.unique {pattern text before tail before' tail' : Text}
    (h : FirstAt pattern text before tail) (h' : FirstAt pattern text before' tail') :
    before = before' ∧ tail = tail' := by
  have hlength := Nat.le_antisymm (h.least h'.eq_append) (h'.least h.eq_append)
  have heq := h.eq_append.symm.trans h'.eq_append
  simp only [List.append_assoc] at heq
  obtain ⟨hbefore, hrest⟩ := List.append_inj heq hlength
  exact ⟨hbefore, List.append_cancel_left hrest⟩

/-- A text is cut exactly at the first occurrence of the pattern. -/
theorem splitAt?_eq_some_iff {pattern text before tail : Text} :
    splitAt? pattern text = some (before, tail) ↔ FirstAt pattern text before tail := by
  refine ⟨firstAt_of_splitAt?_eq_some, fun hfirst => ?_⟩
  cases hsplit : splitAt? pattern text with
  | none =>
      exact absurd ⟨before, tail, hfirst.eq_append.symm⟩ (splitAt?_eq_none_iff.mp hsplit)
  | some found =>
      obtain ⟨rfl, rfl⟩ := hfirst.unique (firstAt_of_splitAt?_eq_some hsplit)
      rfl

/-! ## Passing over characters -/

/-- A character at which the pattern does not start is passed over. -/
theorem splitAt?_cons_of_after?_eq_none {pattern rest : Text} {c : Char}
    (hnone : after? pattern (c :: rest) = none) :
    splitAt? pattern (c :: rest) =
      (splitAt? pattern rest).map fun (before, tail) => (c :: before, tail) := by
  simp only [splitAt?, hnone]

/-- A pattern that does not begin with a blank is looked for behind the indentation. -/
theorem splitAt?_append_of_blank {pattern before : Text} (hpattern : pattern ≠ [])
    (hhead : ∀ c ∈ pattern.head?, isBlank c = false) (hblank : ∀ c ∈ before, isBlank c = true)
    (text : Text) :
    splitAt? pattern (before ++ text) =
      (splitAt? pattern text).map fun (inner, tail) => (before ++ inner, tail) := by
  induction before with
  | nil => simp
  | cons c before ih =>
      obtain ⟨hc, hothers⟩ := List.forall_mem_cons.mp hblank
      have hnone : after? pattern (c :: (before ++ text)) = none := by
        obtain ⟨p, rest, rfl⟩ := List.exists_cons_of_ne_nil hpattern
        refine if_neg ?_
        rintro rfl
        rw [hhead p rfl] at hc
        cases hc
      rw [List.cons_append, splitAt?_cons_of_after?_eq_none hnone, ih hothers, Option.map_map]
      rfl

end SourceScan.Text
