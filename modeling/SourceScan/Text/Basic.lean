/-! # Text

A text is a list of characters, and every length and position counts characters. Spaces and tabs
are the blanks that may stand before the content of a line.
-/

namespace SourceScan

/-- A run of characters: a line, a marker, the value of a token. Lone surrogates, which the text of
a source may hold as well, are no characters here and are left out. -/
abbrev Text := List Char

/-- Spaces and tabs. -/
def isBlank (c : Char) : Bool := c == ' ' || c == '\t'

namespace Text

/-- The blanks before the content of a line. -/
def indent (line : Text) : Text := line.takeWhile isBlank

/-- A line from its first character on that is no blank. -/
def content (line : Text) : Text := line.dropWhile isBlank

theorem indent_append_content (line : Text) : indent line ++ content line = line :=
  List.takeWhile_append_dropWhile

theorem isBlank_of_mem_indent {line : Text} {c : Char} (hc : c ∈ indent line) :
    isBlank c = true := by
  induction line with
  | nil => simp [indent] at hc
  | cons d rest ih =>
      simp only [indent, List.takeWhile_cons] at hc
      split at hc
      · rcases List.mem_cons.mp hc with rfl | hrest
        · assumption
        · exact ih hrest
      · simp at hc

/-- A text without the leading part that equals a pattern, if it starts with the pattern. -/
def after? : (pattern text : Text) → Option Text
  | [], text => some text
  | _ :: _, [] => none
  | p :: pattern, c :: text => if p = c then after? pattern text else none

theorem after?_eq_some_iff {pattern text rest : Text} :
    after? pattern text = some rest ↔ text = pattern ++ rest := by
  induction pattern generalizing text with
  | nil => simp [after?]
  | cons p pattern ih =>
      cases text with
      | nil => simp [after?]
      | cons c text =>
          by_cases h : p = c
          · simp [after?, h, ih]
          · simp [after?, h, Ne.symm h]

/-- The text before and the text after the first occurrence of a pattern. The empty pattern occurs
at the start. -/
def splitAt? (pattern : Text) : Text → Option (Text × Text)
  | [] => (after? pattern []).map ([], ·)
  | c :: rest =>
      match after? pattern (c :: rest) with
      | some tail => some ([], tail)
      | none => (splitAt? pattern rest).map fun (before, tail) => (c :: before, tail)

theorem eq_of_splitAt?_eq_some {pattern text before tail : Text}
    (h : splitAt? pattern text = some (before, tail)) : text = before ++ pattern ++ tail := by
  induction text generalizing before with
  | nil =>
      simp only [splitAt?, Option.map_eq_some_iff, Prod.mk.injEq] at h
      obtain ⟨_, hafter, rfl, rfl⟩ := h
      exact after?_eq_some_iff.mp hafter
  | cons c rest ih =>
      simp only [splitAt?] at h
      split at h
      · next hafter =>
          obtain ⟨rfl, rfl⟩ := Prod.mk.inj (Option.some.inj h)
          exact after?_eq_some_iff.mp hafter
      · obtain ⟨⟨inner, _⟩, hinner, heq⟩ := Option.map_eq_some_iff.mp h
        obtain ⟨rfl, rfl⟩ := Prod.mk.inj heq
        rw [ih hinner]
        rfl

/-- Replaces the occurrences of a pattern from left to right, none overlapping another; the first
argument counts the characters left of the occurrence being passed over. -/
def replaceFrom (pattern new : Text) : Nat → Text → Text
  | _, [] => []
  | skip + 1, _ :: rest => replaceFrom pattern new skip rest
  | 0, c :: rest =>
      if pattern.isPrefixOf (c :: rest) then
        new ++ replaceFrom pattern new (pattern.length - 1) rest
      else c :: replaceFrom pattern new 0 rest

/-- Replaces every occurrence of a pattern. The empty pattern occurs before each character and at
the end. -/
def replace (pattern new text : Text) : Text :=
  if pattern.isEmpty then new ++ text.flatMap fun c => c :: new
  else replaceFrom pattern new 0 text

end Text

end SourceScan
