import Mathlib.Order.Bounds.Defs
import SourceScan.Cursor

/-! # How far searches go

A search passes tokens one behind another and counts the line breaks among them. It stops where it
comes to its goal, and it passes all tokens if it comes to none.
-/

namespace SourceScan.Search

/-- What a search through tokens says: the line breaks are those among the tokens it passed, and it
passed all of them unless it came to its goal. -/
structure Through (goal : List Token → Prop) (tokens : List Token) (search : Search) : Prop where
  passed_le : search.passed ≤ tokens.length
  breaks : search.breaks = (tokens.take search.passed).countP Token.endsLine
  found : search.found = true → goal (tokens.drop search.passed)
  missed : search.found = false → search.passed = tokens.length

section Steps

variable {goal : List Token → Prop} {tokens : List Token} {search : Search}

theorem through_nowhere : Through goal [] nowhere :=
  ⟨Nat.le_refl 0, rfl, by simp [nowhere], fun _ => rfl⟩

theorem through_here (hgoal : goal tokens) : Through goal tokens here :=
  ⟨Nat.zero_le _, rfl, fun _ => hgoal, by simp [here]⟩

theorem Through.behind (hsearch : Through goal tokens search) (token : Token) :
    Through goal (token :: tokens) (search.behind token) where
  passed_le := Nat.succ_le_succ hsearch.passed_le
  breaks := by simp only [Search.behind, List.take_succ_cons, List.countP_cons, hsearch.breaks]
  found := hsearch.found
  missed hmissed := congrArg Nat.succ (hsearch.missed hmissed)

/-- The tokens that a search passed, and those that it stopped before. -/
theorem Through.exists_append (hsearch : Through goal tokens search)
    (hfound : search.found = true) :
    ∃ front back, tokens = front ++ back ∧ search.passed = front.length ∧
      search.breaks = front.countP Token.endsLine ∧ goal back :=
  ⟨tokens.take search.passed, tokens.drop search.passed, (List.take_append_drop _ _).symm,
    (List.length_take_of_le hsearch.passed_le).symm, hsearch.breaks, hsearch.found hfound⟩

theorem Through.breaks_of_missed (hsearch : Through goal tokens search)
    (hmissed : search.found = false) : search.breaks = tokens.countP Token.endsLine := by
  rw [hsearch.breaks, hsearch.missed hmissed, List.take_length]

end Steps

/-! ## First positions -/

/-- A search stops at the first position of those it looks for, and misses only if there is none. -/
structure Finds (goal : Nat → Prop) (search : Search) : Prop where
  found : search.found = true → IsLeast {position | goal position} search.passed
  missed : search.found = false → ∀ position, ¬ goal position

section Steps

variable {goal next : Nat → Prop} {search : Search}

theorem finds_nowhere (hgoal : ∀ position, ¬ goal position) : Finds goal nowhere :=
  ⟨fun hfound => absurd hfound Bool.false_ne_true, fun _ => hgoal⟩

theorem finds_here (hgoal : goal 0) : Finds goal here :=
  ⟨fun _ => ⟨hgoal, fun _ _ => Nat.zero_le _⟩, fun hmissed => absurd hmissed (by decide)⟩

/-- A search may pass a token that it does not look for. -/
theorem Finds.behind (hsearch : Finds next search) (token : Token) (hzero : ¬ goal 0)
    (hsucc : ∀ position, goal (position + 1) ↔ next position) :
    Finds goal (search.behind token) where
  found hfound := by
    obtain ⟨hgoal, hleast⟩ := hsearch.found hfound
    refine ⟨(hsucc _).mpr hgoal, ?_⟩
    intro position hposition
    cases position with
    | zero => exact absurd hposition hzero
    | succ position => exact Nat.succ_le_succ (hleast ((hsucc position).mp hposition))
  missed hmissed position hposition := by
    cases position with
    | zero => exact hzero hposition
    | succ position => exact hsearch.missed hmissed position ((hsucc position).mp hposition)

end Steps

theorem startsWith_iff {sequence : List Text} {tokens : List Token} :
    startsWith sequence tokens = true ↔
      ∃ front back, tokens = front ++ back ∧ front.map Token.value = sequence := by
  rw [startsWith, List.isPrefixOf_iff_prefix]
  constructor
  · rintro ⟨values, hvalues⟩
    obtain ⟨front, back, htokens, hfront, -⟩ := List.map_eq_append_iff.mp hvalues.symm
    exact ⟨front, back, htokens, hfront⟩
  · rintro ⟨front, back, rfl, rfl⟩
    rw [List.map_append]
    exact List.prefix_append _ _

/-- Tokens with the values of a sequence have as many line breaks as the sequence. -/
theorem count_map_value (tokens : List Token) :
    (tokens.map Token.value).count ['\n'] = tokens.countP Token.endsLine := by
  rw [List.count, List.countP_map]
  exact List.countP_congr fun token _ => by simp [Token.endsLine]

/-- A string ends before its closing delimiter, which is no line break. -/
theorem through_forClosing (closing : Text) (tokens : List Token) :
    Through (fun rest => ∃ token more, rest = token :: more ∧ token.value = closing ∧
      token.endsLine = false) tokens (forClosing closing tokens) := by
  fun_induction forClosing closing tokens with
  | case1 => exact through_nowhere
  | case2 token _ => exact through_nowhere.behind token
  | case3 token _ escaped rest ih => exact (ih.behind escaped).behind token
  | case4 token rest _ _ ih => exact ih.behind token
  | case5 token rest _ hbreak hclosing =>
      exact through_here ⟨token, rest, rfl, hclosing, Bool.eq_false_iff.mpr hbreak⟩
  | case6 token rest _ _ _ ih => exact ih.behind token

/-- A line ends before its line break, and no other line break is passed. -/
theorem through_forLineBreak (tokens : List Token) :
    Through (fun rest => ∃ token more, rest = token :: more ∧ token.endsLine = true) tokens
      (forLineBreak tokens) ∧ (forLineBreak tokens).breaks = 0 := by
  fun_induction forLineBreak tokens with
  | case1 => exact ⟨through_nowhere, rfl⟩
  | case2 token rest hbreak => exact ⟨through_here ⟨token, rest, rfl, hbreak⟩, rfl⟩
  | case3 token rest hbreak ih =>
      obtain ⟨hthrough, hbreaks⟩ := ih
      refine ⟨hthrough.behind token, ?_⟩
      rw [behind, hbreaks, if_neg hbreak]

/-- The search for a sequence stops where the values of the sequence follow. -/
theorem through_forSequence (sequence : List Text) (tokens : List Token) :
    Through (fun rest => startsWith sequence rest = true) tokens
      (forSequence sequence tokens) := by
  fun_induction forSequence sequence tokens with
  | case1 => exact through_nowhere
  | case2 token rest hstarts => exact through_here hstarts
  | case3 token rest _ ih => exact ih.behind token

end SourceScan.Search
