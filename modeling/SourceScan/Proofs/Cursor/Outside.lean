import SourceScan.Proofs.Cursor.Moves
import SourceScan.Proofs.Lexer.Spelling

/-! # Positions outside a stream

No string begins at a position outside the stream, and every test of such a position fails. The
searches for a line break or a sequence, and the text between two bounds, count a negative position
from the end of the stream instead. A search does nothing else than one from the first token exactly
if it reads no line break on its way from there.
-/

namespace SourceScan

/-- The cursor on the first token in place of one before it. -/
def Cursor.raised (cursor : Cursor) : Cursor := { cursor with index := max cursor.index 0 }

theorem Cursor.zero_le_index_raised (cursor : Cursor) : 0 ≤ cursor.raised.index :=
  Int.le_max_right _ _

/-- A search passes tokens without line breaks before any others. -/
theorem Search.forLineBreak_append {before : List Token}
    (hbefore : ∀ token ∈ before, token.endsLine = false) (after : List Token) :
    (forLineBreak (before ++ after)).passed = before.length + (forLineBreak after).passed ∧
      (forLineBreak (before ++ after)).found = (forLineBreak after).found := by
  induction before with
  | nil => simp
  | cons token rest ih =>
      obtain ⟨htoken, hrest⟩ := List.forall_mem_cons.mp hbefore
      obtain ⟨hpassed, hfound⟩ := ih hrest
      simp only [List.cons_append, forLineBreak, htoken, Bool.false_eq_true, if_false, behind,
        hpassed, hfound, List.length_cons, and_true]
      omega

/-- A search for a line break goes no further than to one that is there. -/
theorem Search.forLineBreak_of_mem {before : List Token} {token : Token} (hmem : token ∈ before)
    (htoken : token.endsLine = true) (after : List Token) :
    (forLineBreak (before ++ after)).found = true ∧
      (forLineBreak (before ++ after)).passed < before.length := by
  induction before with
  | nil => cases hmem
  | cons first rest ih =>
      rw [List.cons_append, forLineBreak]
      split
      next => exact ⟨rfl, Nat.succ_pos _⟩
      next hfirst =>
        rcases List.mem_cons.mp hmem with rfl | hmem
        · exact absurd htoken hfirst
        · obtain ⟨hfound, hpassed⟩ := ih hmem
          exact ⟨hfound, Nat.succ_lt_succ hpassed⟩

namespace TokenStream

/-- The position of a bound that is counted from the end when it is negative. -/
def fromEnd (stream : TokenStream) (bound : Int) : Int :=
  if bound < 0 then bound + stream.length else bound

/-- The tokens that a search from a negative position reads before the first token. -/
def readFirst (stream : TokenStream) (index : Int) : List Token :=
  stream.tokens.drop (index + stream.length).toNat

/-- A search reads no line break before the first token. -/
def ReadsOnward (stream : TokenStream) (cursor : Cursor) : Prop :=
  0 ≤ cursor.index ∨ -stream.length ≤ cursor.index ∧
    ∀ token ∈ stream.readFirst cursor.index, token.endsLine = false

variable {stream : TokenStream} {cursor next : Cursor}

/-! ## Where searches start -/

theorem from?_of_nonneg {index : Int} (hindex : 0 ≤ index) :
    stream.from? index = some (stream.tokens.drop index.toNat) :=
  if_pos hindex

theorem from?_of_negative {index : Int} (hnegative : index < 0) (hindex : -stream.length ≤ index) :
    stream.from? index = some (stream.readFirst index ++ stream.tokens) := by
  rw [from?, if_neg (Int.not_le.mpr hnegative), position?, if_neg (Int.not_le.mpr hnegative),
    if_pos hindex, Int.add_comm]
  rfl

theorem from?_eq_none_iff {index : Int} :
    stream.from? index = none ↔ index < -stream.length := by
  rw [from?]
  split
  next hindex =>
    simp only [reduceCtorEq, false_iff]
    omega
  next hindex =>
    rw [Option.map_eq_none_iff, position?, if_neg hindex]
    simp

theorem from?_of_length_le {index : Int} (hindex : stream.length ≤ index) :
    stream.from? index = some [] := by
  rw [from?_of_nonneg (Int.le_trans (Int.natCast_nonneg _) hindex), List.drop_of_length_le]
  exact (Int.le_toNat (Int.le_trans (Int.natCast_nonneg _) hindex)).mpr hindex

theorem readsOnward_iff_of_negative (hnegative : cursor.index < 0) :
    stream.ReadsOnward cursor ↔ -stream.length ≤ cursor.index ∧
      ∀ token ∈ stream.readFirst cursor.index, token.endsLine = false :=
  or_iff_right (Int.not_le.mpr hnegative)

theorem length_readFirst {index : Int} (hnegative : index < 0)
    (hindex : -stream.length ≤ index) : ((stream.readFirst index).length : Int) = -index := by
  have hlength : stream.tokens.length = stream.length := rfl
  rw [readFirst, List.length_drop, hlength]
  omega

theorem raised_of_nonneg (hindex : 0 ≤ cursor.index) : cursor.raised = cursor := by
  rw [Cursor.raised, Int.max_eq_left hindex]

theorem raised_of_negative (hnegative : cursor.index < 0) :
    cursor.raised = ⟨0, cursor.lineno⟩ := by
  rw [Cursor.raised, Int.max_eq_right (Int.le_of_lt hnegative)]

/-! ## Searches -/

theorem skipLine?_eq_none_iff :
    stream.skipLine? cursor = none ↔ cursor.index < -stream.length := by
  rw [skipLine?, Option.map_eq_none_iff, from?_eq_none_iff]

theorem skipUntil?_eq_none_iff {sequence : List Text} :
    stream.skipUntil? cursor sequence = none ↔
      sequence ≠ [] ∧ cursor.index < -stream.length := by
  unfold skipUntil?
  split
  next hsequence => simp [hsequence]
  next hsequence => rw [Option.map_eq_none_iff, from?_eq_none_iff, and_iff_right hsequence]

theorem exists_skipLine_of_nonneg (stream : TokenStream) (hindex : 0 ≤ cursor.index) :
    ∃ next, stream.skipLine? cursor = some next ∧ stream.Holds next := by
  by_cases hupper : cursor.index ≤ stream.length
  · obtain ⟨next, hskip, hnext⟩ := advances_skipLine ⟨hindex, hupper⟩
    exact ⟨next, hskip, hnext.holds ⟨hindex, hupper⟩⟩
  · refine ⟨{ cursor with index := stream.length }, ?_, ⟨Int.natCast_nonneg _, Int.le_refl _⟩⟩
    rw [skipLine?, from?_of_length_le (Int.le_of_lt (Int.not_le.mp hupper))]
    rfl

theorem exists_skipUntil_of_nonneg (stream : TokenStream) (hindex : 0 ≤ cursor.index)
    (first : Text) (more : List Text) :
    ∃ found next, stream.skipUntil? cursor (first :: more) = some (found, next) ∧
      stream.Holds next := by
  by_cases hupper : cursor.index ≤ stream.length
  · obtain ⟨found, next, hskip, hnext⟩ := advances_skipUntil ⟨hindex, hupper⟩ (first :: more)
    exact ⟨found, next, hskip, hnext.holds ⟨hindex, hupper⟩⟩
  · refine ⟨false, { cursor with index := stream.length }, ?_,
      ⟨Int.natCast_nonneg _, Int.le_refl _⟩⟩
    rw [skipUntil?, if_neg (List.cons_ne_nil _ _),
      from?_of_length_le (Int.le_of_lt (Int.not_le.mp hupper))]
    simp [Search.forSequence, Search.nowhere]

/-- A search for a line break that starts before the first token comes to the same one as from
there exactly if it has read none by then. -/
theorem skipLine?_eq_raised_iff :
    stream.skipLine? cursor = stream.skipLine? cursor.raised ↔ stream.ReadsOnward cursor := by
  rcases Int.lt_or_le cursor.index 0 with hnegative | hindex
  case inr => simp [raised_of_nonneg hindex, ReadsOnward, hindex]
  rw [readsOnward_iff_of_negative hnegative, raised_of_negative hnegative]
  by_cases hlower : -stream.length ≤ cursor.index
  case neg =>
    have hstart : stream.skipLine? ⟨0, cursor.lineno⟩ ≠ none := by
      rw [Ne, skipLine?_eq_none_iff]
      dsimp only
      omega
    rw [skipLine?_eq_none_iff.mpr (Int.not_le.mp hlower)]
    simp [hlower, hstart.symm]
  have hlength := length_readFirst hnegative hlower
  simp only [skipLine?, from?_of_negative hnegative hlower, from?_of_nonneg (Int.le_refl 0),
    Int.toNat_zero, List.drop_zero, Option.map_some, Option.some.injEq, hlower, true_and]
  constructor
  · intro hsame token htoken
    refine Bool.eq_false_iff.mpr fun hbreak => ?_
    obtain ⟨hfound, hpassed⟩ := Search.forLineBreak_of_mem htoken hbreak stream.tokens
    -- A line break before the first token leaves the cursor no further than on that token.
    have hindex := congrArg Cursor.index hsame
    rw [if_pos hfound] at hindex
    split at hindex <;> simp only at hindex <;> omega
  · intro hnone
    obtain ⟨hpassed, hfound⟩ := Search.forLineBreak_append hnone stream.tokens
    rw [hfound, hpassed]
    split
    · have hsum : cursor.index + ((stream.readFirst cursor.index).length +
          (Search.forLineBreak stream.tokens).passed : Nat) + 1 =
          0 + (Search.forLineBreak stream.tokens).passed + 1 := by omega
      rw [hsum]
    · rfl

/-- A search for a sequence counts the line breaks that it reads before the first token, but it
finds no sequence there. -/
theorem skipUntil?_eq_raised_iff (first : Text) (more : List Text) :
    stream.skipUntil? cursor (first :: more) = stream.skipUntil? cursor.raised (first :: more) ↔
      stream.ReadsOnward cursor := by
  rcases Int.lt_or_le cursor.index 0 with hnegative | hindex
  case inr => simp [raised_of_nonneg hindex, ReadsOnward, hindex]
  rw [readsOnward_iff_of_negative hnegative, raised_of_negative hnegative]
  by_cases hlower : -stream.length ≤ cursor.index
  case neg =>
    have hstart : stream.skipUntil? ⟨0, cursor.lineno⟩ (first :: more) ≠ none := by
      rw [Ne, skipUntil?_eq_none_iff]
      dsimp only
      omega
    rw [skipUntil?_eq_none_iff.mpr ⟨List.cons_ne_nil first more, Int.not_le.mp hlower⟩]
    simp [hlower, hstart.symm]
  have hlength : (-cursor.index).toNat = (stream.readFirst cursor.index).length := by
    have hlength := length_readFirst hnegative hlower
    omega
  have hmax : max cursor.index 0 = 0 := Int.max_eq_right (Int.le_of_lt hnegative)
  simp only [skipUntil?, reduceCtorEq, if_false, from?_of_negative hnegative hlower,
    from?_of_nonneg (Int.le_refl 0), hlength, hmax, List.take_left, List.drop_left,
    Int.toNat_zero, Int.neg_zero, List.take_zero, List.length_nil, List.drop_zero,
    List.countP_nil, Option.map_some, Option.some.injEq, hlower, true_and]
  have hcount : (∀ token ∈ stream.readFirst cursor.index, token.endsLine = false) ↔
      (stream.readFirst cursor.index).countP Token.endsLine = 0 := by
    simp [List.countP_eq_zero]
  rw [hcount]
  split
  all_goals
    simp only [Prod.mk.injEq, Cursor.mk.injEq, true_and]
    omega

/-! ## Strings, tests and texts -/

theorem holds_of_skipString?_eq_some {opening closing : Text} {span : StringSpan}
    (hskip : stream.skipString? cursor opening closing = some (span, next)) :
    stream.Holds cursor ∧ stream.Holds next := by
  obtain ⟨above, token, passed, below, htokens, hindex, -, hnext, -⟩ :=
    exists_passed_of_skipString?_eq_some hskip
  have hlength : stream.length = above.length + (token :: passed).length + below.length := by
    rw [TokenStream.length, htokens, List.length_append, List.length_append]
  unfold Holds
  omega

theorem of_hasSequenceAt {index : Int} {sequence : List Text}
    (hsequence : stream.hasSequenceAt index sequence = true) :
    0 ≤ index ∧ index + sequence.length ≤ stream.length := by
  simp only [hasSequenceAt, reaches, Bool.and_eq_true, decide_eq_true_eq] at hsequence
  obtain ⟨⟨hlower, hupper⟩, hstarts⟩ := hsequence
  obtain ⟨front, back, hcut, rfl⟩ := Search.startsWith_iff.mp hstarts
  have hlength := congrArg List.length hcut
  rw [List.length_drop, List.length_append] at hlength
  rw [List.length_map]
  rw [TokenStream.length] at hupper ⊢
  omega

theorem of_isEscaped {index : Int} (hescaped : stream.isEscaped index = true) :
    0 < index ∧ index ≤ stream.length := by
  simp only [isEscaped, Bool.and_eq_true, decide_eq_true_eq, beq_iff_eq] at hescaped
  obtain ⟨hlower, hvalue⟩ := hescaped
  obtain ⟨above, token, rest, htokens, hindex, -⟩ := exists_append_of_value?_eq_some hvalue
  rw [TokenStream.length, htokens, List.length_append, List.length_cons]
  omega

theorem clampBound_eq (stream : TokenStream) (bound : Int) :
    clampBound stream.length bound = min (stream.fromEnd bound).toNat stream.length := by
  unfold clampBound fromEnd
  split
  all_goals omega

/-- The text between two bounds is that of the tokens there, with negative bounds counted from the
end. -/
theorem stringBetween_eq (stream : TokenStream) (start stop : Int) :
    stream.stringBetween start stop =
      spell (stream.within (stream.fromEnd start) (stream.fromEnd stop)) := by
  have hstop : clampBound stream.length (min stop stream.length) =
      min (stream.fromEnd stop).toNat stream.length := by
    rw [clampBound_eq]
    unfold fromEnd
    omega
  have htake : stream.tokens.take (min (stream.fromEnd stop).toNat stream.length) =
      stream.tokens.take (stream.fromEnd stop).toNat := by
    rw [← List.take_take, TokenStream.length, List.take_length]
  have hdrop : (stream.tokens.take (stream.fromEnd stop).toNat).drop
        (min (stream.fromEnd start).toNat stream.length) =
      (stream.tokens.take (stream.fromEnd stop).toNat).drop (stream.fromEnd start).toNat := by
    rcases Nat.le_total (stream.fromEnd start).toNat stream.length with hle | hle
    · rw [Nat.min_eq_left hle]
    · rw [Nat.min_eq_right hle, List.drop_of_length_le, List.drop_of_length_le]
      · exact (List.length_take_le' _ _).trans hle
      · exact List.length_take_le' _ _
  simp only [stringBetween, text, between]
  rw [← TokenStream.length, clampBound_eq, hstop, htake, hdrop]
  rfl

/-- Strings begin in the stream only, and the tests fail outside it. A search fails exactly if it
starts further before the stream than the stream is long, and it does what it does from the first
token exactly if it reads no line break before that token. A text has the tokens between its bounds,
the negative ones counted from the end. -/
theorem navigation_outside (stream : TokenStream) (cursor : Cursor)
    (opening closing first : Text) (more sequence : List Text) (index start stop : Int) :
    (∀ span next, stream.skipString? cursor opening closing = some (span, next) →
      stream.Holds cursor ∧ stream.Holds next) ∧
    (stream.skipLine? cursor = none ↔ cursor.index < -stream.length) ∧
    ((∃ next, stream.skipLine? cursor = some next ∧
        stream.skipLine? cursor.raised = some next ∧ stream.Holds next) ↔
      stream.ReadsOnward cursor) ∧
    stream.skipUntil? cursor [] = some (true, cursor) ∧
    (stream.skipUntil? cursor (first :: more) = none ↔ cursor.index < -stream.length) ∧
    ((∃ found next, stream.skipUntil? cursor (first :: more) = some (found, next) ∧
        stream.skipUntil? cursor.raised (first :: more) = some (found, next) ∧
        stream.Holds next) ↔
      stream.ReadsOnward cursor) ∧
    (stream.isFirstOfLine index = true → 0 ≤ index ∧ index ≤ stream.length) ∧
    (stream.isLastOfLine index = true → 0 ≤ index ∧ index ≤ stream.length) ∧
    (stream.hasSequenceAt index sequence = true →
      0 ≤ index ∧ index + sequence.length ≤ stream.length) ∧
    (stream.isEscaped index = true → 0 < index ∧ index ≤ stream.length) ∧
    stream.stringBetween start stop =
      spell (stream.within (stream.fromEnd start) (stream.fromEnd stop)) := by
  refine ⟨fun _ _ => holds_of_skipString?_eq_some, skipLine?_eq_none_iff, ?line, if_pos rfl,
    ?none, ?sequence, ?first, ?last, of_hasSequenceAt, of_isEscaped, stream.stringBetween_eq _ _⟩
  case line =>
    rw [← skipLine?_eq_raised_iff]
    constructor
    · rintro ⟨next, hskip, hraised, -⟩
      rw [hskip, hraised]
    · intro hsame
      obtain ⟨next, hnext, hholds⟩ :=
        stream.exists_skipLine_of_nonneg cursor.zero_le_index_raised
      exact ⟨next, hsame.trans hnext, hnext, hholds⟩
  case none => simp [skipUntil?_eq_none_iff]
  case sequence =>
    rw [← skipUntil?_eq_raised_iff first more]
    constructor
    · rintro ⟨found, next, hskip, hraised, -⟩
      rw [hskip, hraised]
    · intro hsame
      obtain ⟨found, next, hnext, hholds⟩ :=
        stream.exists_skipUntil_of_nonneg cursor.zero_le_index_raised first more
      exact ⟨found, next, hsame.trans hnext, hnext, hholds⟩
  case first =>
    intro hfirst
    simp only [isFirstOfLine, reaches, Bool.and_eq_true, decide_eq_true_eq] at hfirst
    exact hfirst.1
  case last =>
    intro hlast
    simp only [isLastOfLine, reaches, Bool.and_eq_true, decide_eq_true_eq] at hlast
    exact hlast.1

/-- A negative bound leaves out the first token. A cursor before the stream moves to a line break at
the end of the stream and is still before the stream, or it cannot be moved at all. -/
theorem navigation_outside_from_end :
    let words : TokenStream := ⟨[⟨.word, "a".toList⟩, ⟨.word, "b".toList⟩]⟩
    let broken : TokenStream := ⟨[.lineBreak, ⟨.word, "a".toList⟩]⟩
    words.stringBetween (-1) 1 = [] ∧ spell (words.within (-1) 1) = "a".toList ∧
      broken.skipLine? ⟨-2, 1⟩ = some ⟨-1, 2⟩ ∧ ¬ broken.Holds ⟨-1, 2⟩ ∧
      empty.skipLine? ⟨-1, 1⟩ = none ∧ empty.skipUntil? ⟨-1, 1⟩ ["a".toList] = none := by
  decide +kernel

end TokenStream

end SourceScan
