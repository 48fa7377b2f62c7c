import Mathlib.Data.List.Chain
import SourceScan.Proofs.Cursor.Search

/-! # Moves of a cursor

A cursor moves over a string, behind the next line break, or behind a sequence of values. Each move
goes forward, stays in the stream, and adds the line breaks it passes to the line number. So a
cursor that starts on the first line keeps count of the line breaks before it.
-/

namespace SourceScan

/-- A call that moves a cursor. A string without a closing delimiter of its own is closed by the
opening one. -/
inductive CursorMove where
  | overString (opening : Text) (closing? : Option Text)
  | overLine
  | behind (sequence : List Text)

/-- A move that does not take a line break for the start of a string. -/
def CursorMove.KeepsLines : CursorMove → Prop
  | .overString opening _ => opening ≠ ['\n']
  | .overLine | .behind _ => True

namespace TokenStream

/-- The cursor after a move, unless the move fails. A cursor on no string stays where it is. -/
def move? (stream : TokenStream) (cursor : Cursor) : CursorMove → Option Cursor
  | .overString opening closing? =>
      some ((stream.skipString? cursor opening (closing?.getD opening)).elim cursor Prod.snd)
  | .overLine => stream.skipLine? cursor
  | .behind sequence => (stream.skipUntil? cursor sequence).map Prod.snd

/-- The cursor after each of some moves, unless one of them fails. -/
def visit? (stream : TokenStream) (cursor : Cursor) : List CursorMove → Option (List Cursor)
  | [] => some []
  | move :: rest => do
      let next ← stream.move? cursor move
      let others ← stream.visit? next rest
      return next :: others

/-- The tokens from one position of a stream up to another. No token is at a negative position. -/
def within (stream : TokenStream) (start stop : Int) : List Token :=
  (stream.tokens.take stop.toNat).drop start.toNat

/-- The number of line breaks from one position of a stream up to another. -/
def breaksBetween (stream : TokenStream) (start stop : Int) : Nat :=
  (stream.within start stop).countP Token.endsLine

/-- A cursor on one of the tokens of a stream, or at its end. -/
def Holds (stream : TokenStream) (cursor : Cursor) : Prop :=
  0 ≤ cursor.index ∧ cursor.index ≤ stream.length

instance (stream : TokenStream) (cursor : Cursor) : Decidable (stream.Holds cursor) :=
  inferInstanceAs (Decidable (_ ∧ _))

/-- A cursor went forward in a stream and counted the line breaks it passed. -/
structure Advances (stream : TokenStream) (cursor next : Cursor) : Prop where
  forward : cursor.index ≤ next.index
  inside : next.index ≤ stream.length
  lineno : next.lineno = cursor.lineno + stream.breaksBetween cursor.index next.index

variable {stream : TokenStream} {cursor next : Cursor}

/-! ## One move -/

/-- A cursor that passes some tokens goes as far as there are, and down by the line breaks. -/
theorem advances_of_passed (above passed below : List Token)
    (htokens : stream.tokens = above ++ passed ++ below) (hindex : cursor.index = above.length)
    (hnext : next.index = (above.length + passed.length : Nat))
    (hlineno : next.lineno = cursor.lineno + passed.countP Token.endsLine) :
    stream.Advances cursor next where
  forward := by omega
  inside := by
    rw [hnext, TokenStream.length, htokens, List.length_append, List.length_append]
    omega
  lineno := by
    have hbetween : stream.breaksBetween cursor.index next.index =
        passed.countP Token.endsLine := by
      rw [breaksBetween, within, hindex, hnext, Int.toNat_natCast, Int.toNat_natCast, htokens,
        ← List.length_append, List.take_left, List.drop_left]
    rw [hbetween, hlineno]

theorem advances_refl (hcursor : stream.Holds cursor) : stream.Advances cursor cursor where
  forward := Int.le_refl _
  inside := hcursor.2
  lineno := by
    have hnone : stream.breaksBetween cursor.index cursor.index = 0 := by
      simp [breaksBetween, within]
    rw [hnone, Int.natCast_zero, Int.add_zero]

theorem Advances.holds (hnext : stream.Advances cursor next) (hcursor : stream.Holds cursor) :
    stream.Holds next :=
  ⟨Int.le_trans hcursor.1 hnext.forward, hnext.inside⟩

/-- What stands before and behind a cursor in the stream. -/
theorem Holds.exists_append (hcursor : stream.Holds cursor) :
    ∃ above rest, stream.tokens = above ++ rest ∧ cursor.index = above.length ∧
      stream.from? cursor.index = some rest := by
  obtain ⟨hlower, hupper⟩ := hcursor
  have hlength : cursor.index.toNat ≤ stream.tokens.length := Int.toNat_le.mpr hupper
  refine ⟨stream.tokens.take cursor.index.toNat, stream.tokens.drop cursor.index.toNat,
    (List.take_append_drop _ _).symm, ?_, if_pos hlower⟩
  rw [List.length_take_of_le hlength, Int.toNat_of_nonneg hlower]

/-- The token at an index with what stands before and behind it. -/
theorem exists_append_of_value?_eq_some {index : Int} {value : Text}
    (hvalue : stream.value? index = some value) :
    ∃ above token rest, stream.tokens = above ++ token :: rest ∧ index = above.length ∧
      token.value = value := by
  unfold value? at hvalue
  split at hvalue
  · cases hvalue
  next hindex =>
    obtain ⟨token, htoken, hvalue⟩ := Option.map_eq_some_iff.mp hvalue
    obtain ⟨hlength, rfl⟩ := List.getElem?_eq_some_iff.mp htoken
    refine ⟨stream.tokens.take index.toNat, _, stream.tokens.drop (index.toNat + 1), ?_, ?_,
      hvalue⟩
    · rw [← List.drop_eq_getElem_cons hlength, List.take_append_drop]
    · rw [List.length_take_of_le hlength.le, Int.toNat_of_nonneg (Int.not_lt.mp hindex)]

/-- A cursor passes over a string from its opening delimiter, which it is on, whatever the value of
that token is. -/
theorem exists_passed_of_skipString?_eq_some {opening closing : Text} {span : StringSpan}
    (hskip : stream.skipString? cursor opening closing = some (span, next)) :
    ∃ above token passed below, stream.tokens = above ++ token :: passed ++ below ∧
      cursor.index = above.length ∧ token.value = opening ∧
      next.index = (above.length + (token :: passed).length : Nat) ∧
      next.lineno = cursor.lineno + passed.countP Token.endsLine := by
  unfold skipString? at hskip
  split at hskip
  case isFalse => cases hskip
  case isTrue hvalue =>
    obtain ⟨above, token, rest, htokens, hindex, htoken⟩ :=
      exists_append_of_value?_eq_some hvalue
    have hrest : stream.tokens.drop (cursor.index + 1).toNat = rest := by
      have hstart : (cursor.index + 1).toNat = above.length + 1 := by omega
      rw [hstart, htokens, List.drop_length_add_append]
      rfl
    have hsearch := Search.through_forClosing closing rest
    simp only [hrest] at hskip
    generalize Search.forClosing closing rest = search at hsearch hskip
    cases hfound : search.found with
    | true =>
        obtain ⟨front, back, rfl, hpassed, hbreaks, last, more, rfl, -, hlast⟩ :=
          hsearch.exists_append hfound
        simp only [hfound, if_true, Option.some.injEq, Prod.mk.injEq] at hskip
        obtain ⟨-, rfl⟩ := hskip
        refine ⟨above, token, front ++ [last], more, by simp [htokens], hindex, htoken, ?_, ?_⟩
        · simp [hindex, hpassed]
          omega
        · simp [hbreaks, hlast]
    | false =>
        have hbreaks := hsearch.breaks_of_missed hfound
        simp only [hfound, Bool.false_eq_true, if_false, Option.some.injEq, Prod.mk.injEq] at hskip
        obtain ⟨-, rfl⟩ := hskip
        refine ⟨above, token, rest, [], by simp [htokens], hindex, htoken, ?_, ?_⟩
        · simp [TokenStream.length, htokens]
        · simp [hbreaks]

/-- The opening delimiter of a string is no line break that a cursor would leave out. -/
theorem advances_skipString {opening closing : Text} {span : StringSpan}
    (hopening : opening ≠ ['\n'])
    (hskip : stream.skipString? cursor opening closing = some (span, next)) :
    stream.Advances cursor next := by
  obtain ⟨above, token, passed, below, htokens, hindex, rfl, hnext, hlineno⟩ :=
    exists_passed_of_skipString?_eq_some hskip
  have hkeeps : token.endsLine = false := decide_eq_false hopening
  apply advances_of_passed above (token :: passed) below htokens hindex hnext
  simp [hlineno, hkeeps]

/-- A cursor moves behind the line break that it comes to first. -/
theorem advances_skipLine (hcursor : stream.Holds cursor) :
    ∃ next, stream.skipLine? cursor = some next ∧ stream.Advances cursor next := by
  obtain ⟨above, rest, htokens, hindex, hfrom⟩ := hcursor.exists_append
  obtain ⟨hsearch, hnone⟩ := Search.through_forLineBreak rest
  simp only [skipLine?, hfrom, Option.map_some, Option.some.injEq, exists_eq_left']
  generalize Search.forLineBreak rest = search at hsearch hnone
  cases hfound : search.found with
  | true =>
      obtain ⟨front, back, rfl, hpassed, hbreaks, last, more, rfl, hlast⟩ :=
        hsearch.exists_append hfound
      apply advances_of_passed above (front ++ [last]) more (by simp [htokens]) hindex
      · simp [hindex, hpassed]
        omega
      · simp [← hbreaks, hnone, hlast]
  | false =>
      have hbreaks := hsearch.breaks_of_missed hfound
      apply advances_of_passed above rest [] (by simp [htokens]) hindex
      · simp [TokenStream.length, htokens]
      · simp [← hbreaks, hnone]

/-- A cursor moves behind the sequence that it comes to first, with the line breaks in it. -/
theorem advances_skipUntil (hcursor : stream.Holds cursor) (sequence : List Text) :
    ∃ found next, stream.skipUntil? cursor sequence = some (found, next) ∧
      stream.Advances cursor next := by
  by_cases hsequence : sequence = []
  · exact ⟨true, cursor, if_pos hsequence, advances_refl hcursor⟩
  obtain ⟨above, rest, htokens, hindex, hfrom⟩ := hcursor.exists_append
  have hbefore : (-cursor.index).toNat = 0 := by omega
  have hsearch := Search.through_forSequence sequence rest
  simp only [skipUntil?, if_neg hsequence, hfrom, Option.map_some, hbefore, List.take_zero,
    List.length_nil, List.drop_zero, List.countP_nil]
  generalize Search.forSequence sequence rest = search at hsearch
  cases hfound : search.found with
  | true =>
      obtain ⟨front, back, rfl, hpassed, hbreaks, hstarts⟩ := hsearch.exists_append hfound
      obtain ⟨matched, more, rfl, rfl⟩ := Search.startsWith_iff.mp hstarts
      refine ⟨_, _, rfl, ?_⟩
      apply advances_of_passed above (front ++ matched) more (by simp [htokens]) hindex
      · simp [hindex, hpassed]
        omega
      · simp [hbreaks, Search.count_map_value]
        omega
  | false =>
      have hbreaks := hsearch.breaks_of_missed hfound
      refine ⟨_, _, rfl, ?_⟩
      apply advances_of_passed above rest [] (by simp [htokens]) hindex
      · simp [TokenStream.length, htokens]
      · simp [hbreaks]

/-! ## Moves one behind another -/

theorem advances_move (hcursor : stream.Holds cursor) {move : CursorMove}
    (hmove : move.KeepsLines) :
    ∃ next, stream.move? cursor move = some next ∧ stream.Advances cursor next := by
  cases move with
  | overString opening closing? =>
      refine ⟨_, rfl, ?_⟩
      cases hskip : stream.skipString? cursor opening (closing?.getD opening) with
      | none => exact advances_refl hcursor
      | some found => exact advances_skipString hmove hskip
  | overLine => exact advances_skipLine hcursor
  | behind sequence =>
      obtain ⟨found, next, hskip, hnext⟩ := advances_skipUntil hcursor sequence
      refine ⟨next, ?_, hnext⟩
      rw [move?, hskip]
      rfl

theorem countP_take_add_breaksBetween (stream : TokenStream) {start stop : Int}
    (hstart : start ≤ stop) :
    (stream.tokens.take start.toNat).countP Token.endsLine + stream.breaksBetween start stop =
      (stream.tokens.take stop.toNat).countP Token.endsLine := by
  have hprefix : stream.tokens.take start.toNat =
      (stream.tokens.take stop.toNat).take start.toNat := by
    rw [List.take_take, Nat.min_eq_left (Int.toNat_le_toNat hstart)]
  rw [breaksBetween, within, hprefix, ← List.countP_append, List.take_append_drop]

theorem Advances.trans {last : Cursor} (hnext : stream.Advances cursor next)
    (hlast : stream.Advances next last) : stream.Advances cursor last where
  forward := Int.le_trans hnext.forward hlast.forward
  inside := hlast.inside
  lineno := by
    have hupper := countP_take_add_breaksBetween stream hnext.forward
    have hlower := countP_take_add_breaksBetween stream hlast.forward
    have hwhole := countP_take_add_breaksBetween stream
      (Int.le_trans hnext.forward hlast.forward)
    have hfirst := hnext.lineno
    have hsecond := hlast.lineno
    omega

theorem exists_visit (hcursor : stream.Holds cursor) {moves : List CursorMove}
    (hmoves : ∀ move ∈ moves, move.KeepsLines) :
    ∃ visited, stream.visit? cursor moves = some visited ∧ visited.length = moves.length ∧
      (cursor :: visited).IsChain stream.Advances := by
  induction moves generalizing cursor with
  | nil => exact ⟨[], rfl, rfl, List.isChain_singleton cursor⟩
  | cons move rest ih =>
      obtain ⟨hfirst, hothers⟩ := List.forall_mem_cons.mp hmoves
      obtain ⟨next, hmove, hnext⟩ := advances_move hcursor hfirst
      obtain ⟨visited, hvisit, hlength, hchain⟩ := ih (hnext.holds hcursor) hothers
      refine ⟨next :: visited, ?_, congrArg Nat.succ hlength,
        List.isChain_cons_cons.mpr ⟨hnext, hchain⟩⟩
      simp [visit?, hmove, hvisit]

theorem advances_of_isChain {visited : List Cursor}
    (hchain : (cursor :: visited).IsChain stream.Advances) :
    ∀ next ∈ visited, stream.Advances cursor next := by
  induction visited generalizing cursor with
  | nil => simp
  | cons first rest ih =>
      obtain ⟨hfirst, hrest⟩ := List.isChain_cons_cons.mp hchain
      intro next hnext
      rcases List.mem_cons.mp hnext with rfl | hnext
      · exact hfirst
      · exact hfirst.trans (ih hrest next hnext)

/-- No move of a cursor that a stream holds fails. Each of them goes forward in the stream and adds
the line breaks it passes to the line number, so that from the start of the stream on the line
number is one more than the line breaks before the cursor. -/
theorem visit_counts_breaks (hcursor : stream.Holds cursor) {moves : List CursorMove}
    (hmoves : ∀ move ∈ moves, move.KeepsLines) :
    ∃ visited, stream.visit? cursor moves = some visited ∧ visited.length = moves.length ∧
      (cursor :: visited).IsChain stream.Advances ∧
      (cursor = ⟨0, 1⟩ → ∀ next ∈ visited,
        next.lineno = 1 + (stream.tokens.take next.index.toNat).countP Token.endsLine) := by
  obtain ⟨visited, hvisit, hlength, hchain⟩ := exists_visit hcursor hmoves
  refine ⟨visited, hvisit, hlength, hchain, ?_⟩
  rintro rfl next hnext
  have hadvances := advances_of_isChain hchain next hnext
  have hcount := countP_take_add_breaksBetween stream hadvances.forward
  rw [hadvances.lineno, ← hcount]
  simp

/-- An escaped line break in a string, a sequence with a line break in it, and the end of the
stream. -/
theorem visit_counts_breaks_escaped :
    let stream : TokenStream := ⟨[⟨.symbol, "\"".toList⟩, ⟨.symbol, "\\".toList⟩, .lineBreak,
      ⟨.symbol, "\"".toList⟩, ⟨.word, "a".toList⟩, .lineBreak, ⟨.word, "b".toList⟩, .lineBreak]⟩
    let moves : List CursorMove := [.overString "\"".toList none, .behind ["a".toList, ['\n']],
      .overLine, .overLine]
    stream.Holds ⟨0, 1⟩ ∧ (∀ move ∈ moves, move.KeepsLines) ∧
      stream.visit? ⟨0, 1⟩ moves = some [⟨4, 2⟩, ⟨6, 3⟩, ⟨8, 4⟩, ⟨8, 4⟩] ∧
      stream.Advances ⟨0, 1⟩ ⟨4, 2⟩ := by
  intro stream moves
  have hholds : stream.Holds ⟨0, 1⟩ := by decide
  have hmoves : ∀ move ∈ moves, move.KeepsLines := by
    simp [moves, CursorMove.KeepsLines]
  obtain ⟨visited, hvisit, -, hchain, -⟩ := visit_counts_breaks hholds hmoves
  have hvisited : stream.visit? ⟨0, 1⟩ moves = some [⟨4, 2⟩, ⟨6, 3⟩, ⟨8, 4⟩, ⟨8, 4⟩] := by
    decide +kernel
  obtain rfl := Option.some.inj (hvisited.symm.trans hvisit)
  exact ⟨hholds, hmoves, hvisited, (List.isChain_cons_cons.mp hchain).1⟩

end TokenStream

end SourceScan
