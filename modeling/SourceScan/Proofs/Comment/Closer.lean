import SourceScan.Proofs.Comment.Indentation

/-! # Where a block closes on its first line

What is searched for the closer on the first line of a block is the indentation with the text behind
the opener. So a closer that begins with a blank can be found where part of it is indentation, and
then it need not stand on the line at all. Apart from that the first closer behind the opener closes
the block.
-/

namespace SourceScan

/-- Where a pattern begins in the second of two texts only, it is looked for there. -/
theorem Text.splitAt?_append_of_le {pattern left right : Text}
    (hbegins : ∀ before tail, left ++ right = before ++ pattern ++ tail →
      left.length ≤ before.length) :
    splitAt? pattern (left ++ right) =
      (splitAt? pattern right).map fun (inner, tail) => (left ++ inner, tail) := by
  -- An occurrence in both texts together is one in the second text.
  have hinner : ∀ before tail, left ++ right = before ++ pattern ++ tail →
      ∃ inner, before = left ++ inner ∧ right = inner ++ pattern ++ tail := by
    intro before tail heq
    have hle := hbegins before tail heq
    rw [List.append_assoc] at heq
    obtain ⟨inner, rfl, hright⟩ | ⟨inner, rfl, hright⟩ := List.append_eq_append_iff.mp heq
    · exact ⟨inner, rfl, by rw [hright, List.append_assoc]⟩
    · have hnil : inner = [] := by
        rw [List.length_append] at hle
        exact List.eq_nil_of_length_eq_zero (by omega)
      subst hnil
      exact ⟨[], by simp, by simpa using hright.symm⟩
  cases hsplit : splitAt? pattern right with
  | none =>
      rw [Option.map_none, splitAt?_eq_none_iff]
      rintro ⟨before, tail, heq⟩
      obtain ⟨inner, -, hright⟩ := hinner before tail heq.symm
      exact splitAt?_eq_none_iff.mp hsplit ⟨inner, tail, hright.symm⟩
  | some found =>
      obtain ⟨inner, tail⟩ := found
      have hfirst := splitAt?_eq_some_iff.mp hsplit
      rw [Option.map_some, splitAt?_eq_some_iff]
      refine ⟨by simp [hfirst.eq_append], ?_⟩
      intro before' tail' heq
      obtain ⟨inner', rfl, hright⟩ := hinner before' tail' heq
      have hle := hfirst.least hright
      simp only [List.length_append]
      omega

namespace Marker

/-- A closer is found in a body exactly if it occurs in the text behind the opener, and what is left
of the body is what stands behind its first occurrence there. -/
structure ClosesBehind (closer : Marker) (body behind : Text) : Prop where
  found_iff : (Text.splitAt? closer.text body).isSome = true ↔ closer.text <:+: behind
  first : ∀ before tail, Text.splitAt? closer.text body = some (before, tail) →
    ∃ inner, Text.FirstAt closer.text behind inner tail

/-- A closer occurs in a body from a place in the indentation of the line on. -/
def BeginsInIndent (closer : Marker) (line body : Text) : Prop :=
  ∃ before tail, body = before ++ closer.text ++ tail ∧ before.length < (Text.indent line).length

variable {closer : Marker} {line after : Text}

theorem closesBehind_iff :
    closer.ClosesBehind (Text.indent line ++ after) after ↔
      ¬ closer.BeginsInIndent line (Text.indent line ++ after) := by
  constructor
  · rintro hcloses ⟨before, tail, heq, hlt⟩
    have hoccurs : closer.text <:+: Text.indent line ++ after := ⟨before, tail, heq.symm⟩
    cases hsplit : Text.splitAt? closer.text (Text.indent line ++ after) with
    | none => exact Text.splitAt?_eq_none_iff.mp hsplit hoccurs
    | some found =>
        obtain ⟨first, rest⟩ := found
        have hfirst := Text.splitAt?_eq_some_iff.mp hsplit
        have hle := hfirst.least heq
        -- The same rest behind a closer in both texts puts the closer behind the indentation.
        obtain ⟨inner, hinner⟩ := hcloses.first first rest hsplit
        have hwhole := congrArg List.length hfirst.eq_append
        have hafter := congrArg List.length hinner.eq_append
        simp only [List.length_append] at hwhole hafter
        omega
  · intro hnone
    have hsplit : Text.splitAt? closer.text (Text.indent line ++ after) =
        (Text.splitAt? closer.text after).map fun (inner, tail) =>
          (Text.indent line ++ inner, tail) := by
      apply Text.splitAt?_append_of_le
      intro before tail heq
      by_contra hlt
      exact hnone ⟨before, tail, heq, Nat.not_le.mp hlt⟩
    constructor
    · rw [hsplit, Option.isSome_map, Option.isSome_iff_ne_none, Ne, Text.splitAt?_eq_none_iff,
        not_not]
    · intro before tail hfound
      rw [hsplit, Option.map_eq_some_iff] at hfound
      obtain ⟨⟨inner, _⟩, hinner, heq⟩ := hfound
      obtain ⟨-, rfl⟩ := Prod.mk.inj heq
      exact ⟨inner, Text.splitAt?_eq_some_iff.mp hinner⟩

/-- Only a closer that begins with a blank can begin in the indentation. -/
theorem BeginsInIndent.isBlank_first
    (hbegins : closer.BeginsInIndent line (Text.indent line ++ after)) :
    isBlank closer.first = true := by
  obtain ⟨before, tail, heq, hlt⟩ := hbegins
  rw [closer.text_eq_cons, List.append_assoc] at heq
  have hmem : closer.first ∈ Text.indent line := by
    obtain ⟨inner, hbefore, -⟩ | ⟨inner, hindent, hcloser⟩ := List.append_eq_append_iff.mp heq
    · rw [hbefore, List.length_append] at hlt
      omega
    · cases inner with
      | nil =>
          rw [hindent, List.append_nil] at hlt
          exact absurd hlt (Nat.lt_irrefl _)
      | cons d rest =>
          obtain ⟨hfirst, -⟩ := List.cons.inj hcloser
          rw [hindent, hfirst]
          exact List.mem_append_right _ List.mem_cons_self
  exact Text.isBlank_of_mem_indent hmem

/-- A closer that begins in the indentation closes the block there. -/
theorem BeginsInIndent.exists_splitAt?_eq {body : Text}
    (hbegins : closer.BeginsInIndent line body) :
    ∃ before tail, Text.splitAt? closer.text body = some (before, tail) ∧
      before.length < (Text.indent line).length := by
  obtain ⟨before, tail, heq, hlt⟩ := hbegins
  cases hsplit : Text.splitAt? closer.text body with
  | none => exact absurd ⟨before, tail, heq.symm⟩ (Text.splitAt?_eq_none_iff.mp hsplit)
  | some found =>
      have hle := (Text.splitAt?_eq_some_iff.mp hsplit).least heq
      exact ⟨found.1, found.2, rfl, Nat.lt_of_le_of_lt hle hlt⟩

theorem Opens.drop_eq {marker : Marker} (hopens : marker.Opens line after) :
    line.drop ((Text.indent line).length + marker.text.length) = after := by
  rw [← List.length_append]
  nth_rewrite 2 [hopens]
  exact List.drop_left

end Marker

namespace Opening

variable {style : CommentStyle} {line body : Text} {closer : Marker} {isDoc : Bool}

/-- The first line of a block is searched for the closer as the line is behind the opener, exactly
unless the closer occurs from a place in the indentation on. Then the block closes there, and such a
closer begins with a blank. -/
theorem closesBehind_opener_iff (hopen : ofLine style line = .blockComment body closer isDoc) :
    ∃ pair ∈ style.blockGroup isDoc, pair.closer = closer ∧ pair.opener.RemovedFrom line body ∧
      (closer.ClosesBehind body
          (line.drop ((Text.indent line).length + pair.opener.text.length)) ↔
        ¬ closer.BeginsInIndent line body) ∧
      (closer.BeginsInIndent line body → isBlank closer.first = true ∧
        ∃ before tail, Text.splitAt? closer.text body = some (before, tail) ∧
          before.length < (Text.indent line).length) := by
  obtain ⟨pair, hpair, hcloser, hremoved⟩ := removedFrom_of_ofLine_eq_blockComment hopen
  refine ⟨pair, hpair, hcloser, hremoved, ?_⟩
  obtain ⟨after, hopens, rfl⟩ := hremoved
  rw [hopens.drop_eq]
  exact ⟨Marker.closesBehind_iff,
    fun hbegins => ⟨hbegins.isBlank_first, hbegins.exists_splitAt?_eq⟩⟩

/-- A closer that begins with a blank, on an indented line where it stands behind the opener. -/
theorem closesBehind_opener_iff_spaced :
    let pair : BlockPair := ⟨.ofChars '(' ['*'], .ofChars ' ' ['*', ')']⟩
    let style : CommentStyle := { blockPairs := [pair] }
    ofLine style "\t(* a *) b".toList = .blockComment "\t a *) b".toList pair.closer false ∧
      pair.closer.ClosesBehind "\t a *) b".toList " a *) b".toList := by
  intro pair style
  have hopen : ofLine style "\t(* a *) b".toList =
      .blockComment "\t a *) b".toList pair.closer false := by decide
  obtain ⟨found, hfound, -, -, hcloses, -⟩ := closesBehind_opener_iff hopen
  obtain rfl : found = pair := List.mem_singleton.mp hfound
  refine ⟨hopen, hcloses.mpr ?_⟩
  rintro ⟨before, tail, heq, hlt⟩
  have hindent : (Text.indent "\t(* a *) b".toList).length = 1 := by decide
  obtain rfl : before = [] := List.eq_nil_of_length_eq_zero (by omega)
  -- The closer would have to begin with the tab.
  have hfirst := congrArg List.head? heq
  revert hfirst
  simp [pair, Marker.ofChars]

/-- The indentation and the text behind the opener together make a closer, which stands nowhere on
the line. -/
theorem closesBehind_opener_straddling :
    let pair : BlockPair := ⟨.ofChars '(' ['*'], .ofChars ' ' ['*', ')']⟩
    let style : CommentStyle := { blockPairs := [pair] }
    let line : Text := " (**)".toList
    ofLine style line = .blockComment " *)".toList pair.closer false ∧
      Text.splitAt? pair.closer.text " *)".toList = some ([], []) ∧
      ¬ pair.closer.text <:+: line ∧
      ¬ pair.closer.ClosesBehind " *)".toList
        (line.drop ((Text.indent line).length + pair.opener.text.length)) := by
  intro pair style line
  have hline : ¬ pair.closer.text <:+: line := by decide
  refine ⟨by decide, by decide, hline, fun hcloses => ?_⟩
  have hoccurs := hcloses.found_iff.mp (by decide)
  exact hline (hoccurs.trans (List.drop_suffix _ _).isInfix)

end Opening

end SourceScan
