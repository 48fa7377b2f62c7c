import Mathlib.Algebra.Group.Nat.Even
import Mathlib.Data.List.DropRight
import SourceScan.Proofs.Cursor.Moves

/-! # Where strings close

A string closes at the first closing delimiter that no backslash protects: right before it stands an
even number of backslashes. A delimiter that is a backslash or a line break itself closes nothing,
and then the string goes on to the end of the stream.
-/

namespace SourceScan

namespace Search

/-! ## Backslashes -/

/-- The number of backslashes at the end of some tokens. -/
def backslashRun (tokens : List Token) : Nat := (tokens.rtakeWhile Token.isBackslash).length

theorem backslashRun_concat (tokens : List Token) (token : Token) :
    backslashRun (tokens ++ [token]) =
      if token.isBackslash then backslashRun tokens + 1 else 0 := by
  unfold backslashRun
  rw [List.rtakeWhile_concat]
  split <;> simp

/-- A token that is no backslash adds to no run behind it. -/
theorem backslashRun_cons {token : Token} (htoken : token.isBackslash = false)
    (tokens : List Token) : backslashRun (token :: tokens) = backslashRun tokens := by
  induction tokens using List.reverseRecOn with
  | nil => simp [backslashRun, List.rtakeWhile, htoken]
  | append_singleton tokens last ih =>
      rw [← List.cons_append, backslashRun_concat, backslashRun_concat, ih]

/-- A backslash and the token behind it make no difference to what is protected further on. -/
theorem even_backslashRun_cons_cons {token : Token} (htoken : token.isBackslash = true)
    (escaped : Token) (tokens : List Token) :
    Even (backslashRun (token :: escaped :: tokens)) ↔ Even (backslashRun tokens) := by
  induction tokens using List.reverseRecOn with
  | nil =>
      cases hescaped : escaped.isBackslash with
      | true =>
          have htwo : backslashRun [token, escaped] = 2 := by
            simp [backslashRun, List.rtakeWhile, htoken, hescaped]
          rw [htwo]
          decide
      | false => simp [backslashRun, List.rtakeWhile, hescaped]
  | append_singleton tokens last ih =>
      rw [← List.cons_append, ← List.cons_append, backslashRun_concat, backslashRun_concat]
      split
      · rw [Nat.even_add_one, Nat.even_add_one, ih]
      · rfl

/-- The closing delimiter of a string stands at a position, and behind an even number of
backslashes. -/
def Closes (closing : Text) (tokens : List Token) (position : Nat) : Prop :=
  tokens[position]?.map Token.value = some closing ∧
    Even (backslashRun (tokens.take position))

variable {closing : Text}

theorem not_closes_nil (position : Nat) : ¬ Closes closing [] position := by
  simp [Closes]

theorem closes_zero_iff {token : Token} {tokens : List Token} :
    Closes closing (token :: tokens) 0 ↔ token.value = closing := by
  simp [Closes, backslashRun]

theorem closes_succ_iff {token : Token} (htoken : token.isBackslash = false)
    (tokens : List Token) (position : Nat) :
    Closes closing (token :: tokens) (position + 1) ↔ Closes closing tokens position := by
  rw [Closes, List.take_succ_cons, backslashRun_cons htoken, List.getElem?_cons_succ, Closes]

theorem closes_succ_succ_iff {token : Token} (htoken : token.isBackslash = true)
    (escaped : Token) (tokens : List Token) (position : Nat) :
    Closes closing (token :: escaped :: tokens) (position + 1 + 1) ↔
      Closes closing tokens position := by
  rw [Closes, List.take_succ_cons, List.take_succ_cons, even_backslashRun_cons_cons htoken,
    List.getElem?_cons_succ, List.getElem?_cons_succ, Closes]

/-- The token behind the first backslash is protected. -/
theorem not_closes_one {token : Token} (htoken : token.isBackslash = true) (tokens : List Token) :
    ¬ Closes closing (token :: tokens) 1 := by
  rintro ⟨-, heven⟩
  simp [backslashRun, List.rtakeWhile, htoken] at heven

/-- The search for the end of a string takes two tokens at a backslash and one elsewhere, and so it
comes to the tokens that no backslash protects. -/
theorem finds_forClosing (hbackslash : closing ≠ [Text.backslash]) (hbreak : closing ≠ ['\n'])
    (tokens : List Token) : Finds (Closes closing tokens) (forClosing closing tokens) := by
  have hnot : ∀ {token : Token} {rest : List Token}, token.isBackslash = true →
      ¬ Closes closing (token :: rest) 0 := by
    intro token rest htoken hcloses
    exact hbackslash ((closes_zero_iff.mp hcloses).symm.trans (of_decide_eq_true htoken))
  fun_induction forClosing closing tokens with
  | case1 => exact finds_nowhere not_closes_nil
  | case2 token htoken =>
      have hnowhere : Finds (Closes closing []) nowhere := finds_nowhere not_closes_nil
      refine hnowhere.behind token (hnot htoken) fun position => ?_
      simp [Closes]
  | case3 token htoken escaped rest ih =>
      -- Neither the backslash nor the token it protects can be where the string closes.
      have hafter : Finds (fun position => Closes closing (token :: escaped :: rest) (position + 1))
          ((forClosing closing rest).behind escaped) :=
        ih.behind escaped (not_closes_one htoken _) (closes_succ_succ_iff htoken escaped rest)
      exact hafter.behind token (hnot htoken) fun _ => Iff.rfl
  | case4 token rest htoken hends ih =>
      refine ih.behind token ?_ (closes_succ_iff (Bool.eq_false_iff.mpr htoken) rest)
      intro hcloses
      exact hbreak ((closes_zero_iff.mp hcloses).symm.trans (of_decide_eq_true hends))
  | case5 token rest _ _ hclosing => exact finds_here (closes_zero_iff.mpr hclosing)
  | case6 token rest htoken _ hclosing ih =>
      exact ih.behind token (closes_zero_iff.not.mpr hclosing)
        (closes_succ_iff (Bool.eq_false_iff.mpr htoken) rest)

/-- Backslashes and line breaks are passed before they are compared with the delimiter. -/
theorem found_forClosing_eq_false (hclosing : closing = [Text.backslash] ∨ closing = ['\n'])
    (tokens : List Token) : (forClosing closing tokens).found = false := by
  fun_induction forClosing closing tokens with
  | case1 => rfl
  | case2 token _ => rfl
  | case3 token _ escaped rest ih => exact ih
  | case4 token rest _ _ ih => exact ih
  | case5 token rest htoken hends hvalue =>
      rcases hclosing with hbackslash | hbreak
      · exact absurd (decide_eq_true (hvalue.trans hbackslash)) htoken
      · exact absurd (decide_eq_true (hvalue.trans hbreak)) hends
  | case6 token rest _ _ _ ih => exact ih

end Search

namespace TokenStream

/-- The closing delimiter of a string stands at a position, and between the start of the content and
that position it comes behind an even number of backslashes. -/
def ClosesAt (stream : TokenStream) (start : Int) (closing : Text) (stop : Int) : Prop :=
  start ≤ stop ∧ stream.value? stop = some closing ∧
    Even (Search.backslashRun (stream.within start stop))

instance (stream : TokenStream) (start : Int) (closing : Text) (stop : Int) :
    Decidable (stream.ClosesAt start closing stop) :=
  inferInstanceAs (Decidable (_ ∧ _ ∧ _))

variable {stream : TokenStream} {cursor : Cursor} {opening closing : Text}

theorem value?_natCast (stream : TokenStream) (index : Nat) :
    stream.value? index = stream.tokens[index]?.map Token.value :=
  if_neg (Int.not_lt.mpr (Int.natCast_nonneg index))

theorem within_add (stream : TokenStream) (start count : Nat) :
    stream.within start (start + count : Nat) = (stream.tokens.drop start).take count := by
  rw [within, Int.toNat_natCast, Int.toNat_natCast, List.drop_take, Nat.add_sub_cancel_left]

theorem closesAt_iff {start : Nat} {stop : Int} :
    stream.ClosesAt start closing stop ↔
      ∃ position : Nat, stop = (start + position : Nat) ∧
        Search.Closes closing (stream.tokens.drop start) position := by
  constructor
  · rintro ⟨hstart, hvalue, heven⟩
    obtain ⟨position, rfl⟩ := Int.le.dest hstart
    rw [← Int.natCast_add] at hvalue heven ⊢
    rw [value?_natCast] at hvalue
    rw [within_add] at heven
    exact ⟨position, rfl, by rwa [List.getElem?_drop], heven⟩
  · rintro ⟨position, rfl, hvalue, heven⟩
    rw [List.getElem?_drop] at hvalue
    refine ⟨by omega, ?_, ?_⟩
    · rw [value?_natCast, hvalue]
    · rw [within_add]
      exact heven

/-! ## Strings -/

theorem skipString?_eq_none_iff :
    stream.skipString? cursor opening closing = none ↔
      stream.value? cursor.index ≠ some opening := by
  unfold skipString?
  split
  next hopening =>
    simp only [hopening, ne_eq, not_true_eq_false, iff_false]
    split <;> simp
  next hopening => simp [hopening]

/-- A string that begins under the cursor ends where the search for its closing delimiter stops. -/
theorem skipString?_of_found {index stop : Nat} {lineno : Int}
    (hopening : stream.value? index = some opening)
    (hfound : (Search.forClosing closing (stream.tokens.drop (index + 1))).found = true)
    (hstop : index + 1 + (Search.forClosing closing (stream.tokens.drop (index + 1))).passed =
      stop) :
    stream.skipString? ⟨index, lineno⟩ opening closing =
      some (⟨(index + 1 : Nat), stop, true⟩,
        ⟨stop + 1, lineno + stream.breaksBetween (index + 1 : Nat) stop⟩) := by
  have hthrough := Search.through_forClosing closing (stream.tokens.drop (index + 1))
  rw [← hstop, breaksBetween, within_add, ← hthrough.breaks]
  simp [skipString?, hopening, hfound]

theorem skipString?_of_missed {index : Nat} {lineno : Int}
    (hopening : stream.value? index = some opening)
    (hmissed : (Search.forClosing closing (stream.tokens.drop (index + 1))).found = false) :
    stream.skipString? ⟨index, lineno⟩ opening closing =
      some (⟨(index + 1 : Nat), stream.length, false⟩,
        ⟨stream.length, lineno + stream.breaksBetween (index + 1 : Nat) stream.length⟩) := by
  have hthrough := Search.through_forClosing closing (stream.tokens.drop (index + 1))
  have hbetween : stream.within (index + 1 : Nat) stream.length =
      stream.tokens.drop (index + 1) := by
    rw [within, Int.toNat_natCast, Int.toNat_natCast, TokenStream.length, List.take_length]
  rw [breaksBetween, hbetween, ← hthrough.breaks_of_missed hmissed]
  simp [skipString?, hopening, hmissed]

/-- A cursor that is on no opening delimiter stays where it is. From an opening delimiter it goes
behind the first closing delimiter that no backslash protects, with the line breaks of the content;
if there is none, or if the delimiter is a backslash or a line break, it goes to the end of the
stream. -/
theorem skipString_to_first_closing (hcursor : stream.Holds cursor) (opening : Text)
    (closing? : Option Text) :
    let closing := closing?.getD opening
    let start := cursor.index + 1
    let ends := {stop | stream.ClosesAt start closing stop}
    let skipped := stream.skipString? cursor opening closing
    (skipped = none ↔
      ∀ token ∈ stream.tokens[cursor.index.toNat]?, token.value ≠ opening) ∧
    (skipped = none → stream.move? cursor (.overString opening closing?) = some cursor) ∧
    (skipped ≠ none →
      (closing ≠ [Text.backslash] → closing ≠ ['\n'] → ends.Nonempty →
        ∃ stop, IsLeast ends stop ∧
          skipped = some (⟨start, stop, true⟩,
            ⟨stop + 1, cursor.lineno + stream.breaksBetween start stop⟩)) ∧
      (closing = [Text.backslash] ∨ closing = ['\n'] ∨ ends = ∅ →
        skipped = some (⟨start, stream.length, false⟩,
          ⟨stream.length, cursor.lineno + stream.breaksBetween start stream.length⟩))) := by
  intro closing start ends skipped
  obtain ⟨index, lineno⟩ := cursor
  obtain ⟨index, rfl⟩ := Int.eq_ofNat_of_zero_le hcursor.1
  have hnone : skipped = none ↔ ∀ token ∈ stream.tokens[index]?, token.value ≠ opening := by
    rw [skipString?_eq_none_iff, value?_natCast, Ne, Option.map_eq_some_iff]
    simp
  refine ⟨hnone, fun hskip => ?_, fun hskip => ?_⟩
  · have hmove : stream.skipString? ⟨index, lineno⟩ opening (closing?.getD opening) = none := hskip
    rw [move?, hmove]
    rfl
  have hopening : stream.value? index = some opening := by
    by_contra hother
    exact hskip (skipString?_eq_none_iff.mpr hother)
  have hends : ∀ stop, stop ∈ ends ↔ ∃ position : Nat, stop = (index + 1 + position : Nat) ∧
      Search.Closes closing (stream.tokens.drop (index + 1)) position :=
    fun stop => closesAt_iff
  constructor
  · intro hbackslash hbreak hnonempty
    have hsearch := Search.finds_forClosing hbackslash hbreak (stream.tokens.drop (index + 1))
    cases hfound : (Search.forClosing closing (stream.tokens.drop (index + 1))).found with
    | true =>
        obtain ⟨hcloses, hleast⟩ := hsearch.found hfound
        refine ⟨_, ⟨(hends _).mpr ⟨_, rfl, hcloses⟩, ?_⟩,
          skipString?_of_found hopening hfound rfl⟩
        rintro stop hstop
        obtain ⟨position, rfl, hposition⟩ := (hends stop).mp hstop
        have hle := hleast hposition
        omega
    | false =>
        obtain ⟨stop, hstop⟩ := hnonempty
        obtain ⟨position, -, hposition⟩ := (hends stop).mp hstop
        exact absurd hposition (hsearch.missed hfound position)
  · intro hunclosed
    apply skipString?_of_missed hopening
    by_cases hplain : closing = [Text.backslash] ∨ closing = ['\n']
    · exact Search.found_forClosing_eq_false hplain _
    · obtain ⟨hbackslash, hbreak⟩ := not_or.mp hplain
      have hempty : ends = ∅ := (or_assoc.mpr hunclosed).resolve_left hplain
      refine Bool.eq_false_iff.mpr fun hfound => ?_
      have hsearch := Search.finds_forClosing hbackslash hbreak (stream.tokens.drop (index + 1))
      have hmem := (hends _).mpr ⟨_, rfl, (hsearch.found hfound).1⟩
      rw [hempty] at hmem
      exact hmem

/-- A protected delimiter, a line break, and a delimiter behind two backslashes. -/
theorem skipString_to_first_closing_escaped :
    let quote : Text := ['"']
    let values : List Text := [quote, ['\\'], quote, ['\n'], ['\\'], ['\\'], quote, quote]
    let stream : TokenStream := ⟨values.map (⟨.symbol, ·⟩)⟩
    stream.Holds ⟨0, 1⟩ ∧ IsLeast {stop | stream.ClosesAt 1 quote stop} 6 ∧
      stream.skipString? ⟨0, 1⟩ quote quote = some (⟨1, 6, true⟩, ⟨7, 2⟩) := by
  intro quote values stream
  have hholds : stream.Holds ⟨0, 1⟩ := by decide
  have hskip : stream.skipString? ⟨0, 1⟩ quote quote = some (⟨1, 6, true⟩, ⟨7, 2⟩) := by
    decide +kernel
  have hopen : stream.skipString? ⟨0, 1⟩ quote quote ≠ none := by
    rw [hskip]
    exact Option.some_ne_none _
  have hcloses : stream.ClosesAt 1 quote 6 := by decide +kernel
  obtain ⟨-, -, hopened⟩ := skipString_to_first_closing hholds quote none
  obtain ⟨stop, hleast, hstop⟩ := (hopened hopen).1 (by decide) (by decide) ⟨6, hcloses⟩
  have hspan := congrArg (fun found : StringSpan × Cursor => found.1.stop)
    (Option.some.inj (hstop.symm.trans hskip))
  have hsix : stop = 6 := hspan
  exact ⟨hholds, hsix ▸ hleast, hskip⟩

end TokenStream

end SourceScan
