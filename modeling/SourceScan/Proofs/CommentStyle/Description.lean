import Mathlib.Data.List.Forall2
import Mathlib.Tactic.MkIffOfInductiveProp
import SourceScan.CommentStyle.Description
import SourceScan.Proofs.Comment.LooseMarkers

/-! # Which descriptions are accepted

A description is accepted exactly if each of the four fields that it has is well formed, and the
style holds the markers that the fields name, in their order. Otherwise the first fault decides: the
fields are checked in one order, and in a field the entries from the first to the last. What a style
holds describes the style again.
-/

namespace SourceScan

/-! ## Outcomes of checks -/

/-- What a check comes to: it accepts with the items of which one condition holds, and refuses with
the errors of which another one holds. -/
structure Settles {α ε : Type} (outcome : Except ε α) (Accepts : α → Prop) (Refuses : ε → Prop) :
    Prop where
  ok_iff : ∀ item, outcome = .ok item ↔ Accepts item
  error_iff : ∀ error, outcome = .error error ↔ Refuses error

/-- A value of a list is refused, and each value before it is accepted. -/
def FirstRefused {α β ε : Type} (Accepts : α → β → Prop) (Refuses : α → ε → Prop)
    (values : List α) (error : ε) : Prop :=
  ∃ before bad after, values = before ++ bad :: after ∧
    (∀ value ∈ before, ∃ item, Accepts value item) ∧ Refuses bad error

section Outcomes

variable {α β ε : Type}

theorem settles_ok {Accepts : α → Prop} {Refuses : ε → Prop} {item : α}
    (haccepts : ∀ other, Accepts other ↔ other = item) (hrefuses : ∀ error, ¬ Refuses error) :
    Settles (.ok item) Accepts Refuses where
  ok_iff other := by rw [haccepts, Except.ok.injEq, eq_comm]
  error_iff error := iff_of_false (fun heq => by cases heq) (hrefuses error)

theorem settles_error {Accepts : α → Prop} {Refuses : ε → Prop} {error : ε}
    (haccepts : ∀ item, ¬ Accepts item) (hrefuses : ∀ other, Refuses other ↔ other = error) :
    Settles (.error error) Accepts Refuses where
  ok_iff item := iff_of_false (fun heq => by cases heq) (haccepts item)
  error_iff other := by rw [hrefuses, Except.error.injEq, eq_comm]

theorem Settles.congr {outcome : Except ε α} {Accepts Accepts' : α → Prop}
    {Refuses Refuses' : ε → Prop} (hsettles : Settles outcome Accepts Refuses)
    (haccepts : ∀ item, Accepts item ↔ Accepts' item)
    (hrefuses : ∀ error, Refuses error ↔ Refuses' error) : Settles outcome Accepts' Refuses' where
  ok_iff item := (hsettles.ok_iff item).trans (haccepts item)
  error_iff error := (hsettles.error_iff error).trans (hrefuses error)

/-- Nothing is checked. -/
theorem settles_pure (item : α) :
    Settles (pure item : Except ε α) (fun other => other = item) (fun _ => False) :=
  settles_ok (fun _ => Iff.rfl) fun _ => not_false

/-- A check that goes on with what a first check accepts. -/
theorem Settles.bind {first : Except ε α} {next : α → Except ε β} {Accepts : α → Prop}
    {Refuses : ε → Prop} {AcceptsNext : α → β → Prop} {RefusesNext : α → ε → Prop}
    (hfirst : Settles first Accepts Refuses)
    (hnext : ∀ item, Settles (next item) (AcceptsNext item) (RefusesNext item)) :
    Settles (first >>= next) (fun result => ∃ item, Accepts item ∧ AcceptsNext item result)
      (fun error => Refuses error ∨ ∃ item, Accepts item ∧ RefusesNext item error) := by
  cases first with
  | error error =>
      have hnone : ∀ item, ¬ Accepts item := fun item hitem => by
        cases (hfirst.ok_iff item).mpr hitem
      apply settles_error
      · rintro result ⟨item, hitem, -⟩
        exact hnone item hitem
      · intro other
        simp only [hnone, false_and, exists_false, or_false, ← hfirst.error_iff,
          Except.error.injEq, eq_comm]
  | ok item =>
      have hnone : ∀ error, ¬ Refuses error := fun error herror => by
        cases (hfirst.error_iff error).mpr herror
      simp only [ok_bind, ← hfirst.ok_iff, Except.ok.injEq, exists_eq_left', hnone, false_or]
      exact hnext item

/-- A list is accepted value by value, and the first value that is refused refuses the list. -/
theorem Settles.mapM {check : α → Except ε β} {Accepts : α → β → Prop} {Refuses : α → ε → Prop}
    (hcheck : ∀ value, Settles (check value) (Accepts value) (Refuses value))
    (values : List α) :
    Settles (values.mapM check) (List.Forall₂ Accepts values)
      (FirstRefused Accepts Refuses values) := by
  induction values with
  | nil =>
      apply settles_ok
      · simp
      · rintro error ⟨before, bad, after, heq, -⟩
        simp at heq
  | cons value rest ih =>
      rw [List.mapM_cons]
      have hrest : ∀ item, Settles
          (rest.mapM check >>= fun items => pure (item :: items))
          (fun result => ∃ items, List.Forall₂ Accepts rest items ∧ result = item :: items)
          (fun error => FirstRefused Accepts Refuses rest error ∨ ∃ items,
            List.Forall₂ Accepts rest items ∧ False) := fun item =>
        ih.bind fun items => settles_pure (item :: items)
      refine ((hcheck value).bind hrest).congr ?accepts ?refuses
      case accepts =>
        intro result
        rw [List.forall₂_cons_left_iff]
        constructor
        · rintro ⟨item, hitem, items, hitems, rfl⟩
          exact ⟨item, items, hitem, hitems, rfl⟩
        · rintro ⟨item, items, hitem, hitems, rfl⟩
          exact ⟨item, hitem, items, hitems, rfl⟩
      case refuses =>
        intro error
        constructor
        · rintro (hvalue | ⟨item, hitem, hlater | ⟨_, _, hfalse⟩⟩)
          · exact ⟨[], value, rest, rfl, by simp, hvalue⟩
          · obtain ⟨before, bad, after, rfl, hbefore, hbad⟩ := hlater
            exact ⟨value :: before, bad, after, rfl,
              List.forall_mem_cons.mpr ⟨⟨item, hitem⟩, hbefore⟩, hbad⟩
          · exact hfalse.elim
        · rintro ⟨before, bad, after, heq, hbefore, hbad⟩
          cases before with
          | nil =>
              obtain ⟨rfl, -⟩ := List.cons.inj heq
              exact .inl hbad
          | cons first more =>
              obtain ⟨rfl, rfl⟩ := List.cons.inj heq
              obtain ⟨⟨item, hitem⟩, hmore⟩ := List.forall_mem_cons.mp hbefore
              exact .inr ⟨item, hitem, .inl ⟨more, bad, after, rfl, hmore, hbad⟩⟩

end Outcomes

/-! ## Well-formed values -/

namespace Value

/-- A value that has neither members nor a length. -/
def IsScalar : Value → Prop
  | .null | .bool _ | .int _ | .decimal _ _ => True
  | .text _ | .list _ | .object _ => False

/-- A value is the text of a marker, and so it is not empty. -/
def Spells (value : Value) (marker : Marker) : Prop := value = .text marker.text

/-- A field names markers: it is one of them, or a list of them, or an object with them as keys. -/
@[mk_iff]
inductive NamesMarkers : Value → List Marker → Prop
  | text (marker : Marker) : NamesMarkers (.text marker.text) [marker]
  | items {items : List Value} {markers : List Marker}
      (hitems : List.Forall₂ Spells items markers) : NamesMarkers (.list items) markers
  | keys {fields : List (Text × Value)} {markers : List Marker}
      (hkeys : List.Forall₂ (fun field marker => field.1 = marker.text) fields markers) :
      NamesMarkers (.object fields) markers

/-- An entry names a pair: it is a list of its two markers, or an object with them as its two
keys. -/
@[mk_iff]
inductive NamesPair : Value → BlockPair → Prop
  | items {first second : Value} {pair : BlockPair} (hopener : first.Spells pair.opener)
      (hcloser : second.Spells pair.closer) : NamesPair (.list [first, second]) pair
  | keys {first second : Text × Value} {pair : BlockPair} (hopener : first.1 = pair.opener.text)
      (hcloser : second.1 = pair.closer.text) : NamesPair (.object [first, second]) pair

/-- A field names pairs: it is a list of entries that name one each, or it is empty. -/
@[mk_iff]
inductive NamesPairs : Value → List BlockPair → Prop
  | text : NamesPairs (.text []) []
  | keys : NamesPairs (.object []) []
  | items {items : List Value} {pairs : List BlockPair}
      (hitems : List.Forall₂ NamesPair items pairs) : NamesPairs (.list items) pairs

end Value

/-! ## Faults -/

namespace MarkerGroup

variable (group : MarkerGroup)

/-- An entry of a line field is at fault unless it is the text of a marker. -/
def RefusesMarker (value : Value) (error : DescriptionError) : Prop :=
  (∀ marker, ¬ value.Spells marker) ∧ error = .badMarker group value

/-- The faults of a line field. -/
@[mk_iff]
inductive RefusesMarkers : Value → DescriptionError → Prop
  | scalar {value : Value} (hscalar : value.IsScalar) : RefusesMarkers value (.wrongShape group)
  | text : RefusesMarkers (.text []) (.badMarker group (.text []))
  | items {items : List Value} {error : DescriptionError}
      (hitems : FirstRefused Value.Spells group.RefusesMarker items error) :
      RefusesMarkers (.list items) error
  | keys {fields : List (Text × Value)} {error : DescriptionError}
      (hkeys : FirstRefused (fun field (marker : Marker) => field.1 = marker.text)
        (fun field error => field.1 = [] ∧ error = .badMarker group (.text [])) fields error) :
      RefusesMarkers (.object fields) error

/-- The faults of an entry of a block field. Its length is looked at before its members are. -/
@[mk_iff]
inductive RefusesPair : Value → DescriptionError → Prop
  | scalar {entry : Value} (hscalar : entry.IsScalar) : RefusesPair entry (.wrongShape group)
  | text (text : Text) : RefusesPair (.text text) (.notAPair group (.text text))
  | itemCount {items : List Value} (hcount : items.length ≠ 2) :
      RefusesPair (.list items) (.notAPair group (.list items))
  | keyCount {fields : List (Text × Value)} (hcount : fields.length ≠ 2) :
      RefusesPair (.object fields) (.notAPair group (.object fields))
  | items {first second : Value}
      (hitems : ∀ opener closer, ¬ (first.Spells opener ∧ second.Spells closer)) :
      RefusesPair (.list [first, second]) (.badMarker group (.list [first, second]))
  | keys {first second : Text × Value} (hkeys : first.1 = [] ∨ second.1 = []) :
      RefusesPair (.object [first, second]) (.badMarker group (.object [first, second]))

/-- The faults of a block field. The characters of a text and the keys of an object are no pairs. -/
@[mk_iff]
inductive RefusesPairs : Value → DescriptionError → Prop
  | scalar {value : Value} (hscalar : value.IsScalar) : RefusesPairs value (.wrongShape group)
  | text (c : Char) (rest : Text) :
      RefusesPairs (.text (c :: rest)) (.notAPair group (.text [c]))
  | keys (field : Text × Value) (rest : List (Text × Value)) :
      RefusesPairs (.object (field :: rest)) (.notAPair group (.text field.1))
  | items {items : List Value} {error : DescriptionError}
      (hitems : FirstRefused Value.NamesPair group.RefusesPair items error) :
      RefusesPairs (.list items) error

variable {group} {value : Value} {error : DescriptionError}

theorem RefusesMarkers.group_eq (hrefused : group.RefusesMarkers value error) :
    error.group = group := by
  cases hrefused with
  | scalar _ | text => rfl
  | items hitems =>
      obtain ⟨_, _, _, _, _, _, rfl⟩ := hitems
      rfl
  | keys hkeys =>
      obtain ⟨_, _, _, _, _, _, rfl⟩ := hkeys
      rfl

theorem RefusesPair.group_eq (hrefused : group.RefusesPair value error) :
    error.group = group := by
  cases hrefused <;> rfl

theorem RefusesPairs.group_eq (hrefused : group.RefusesPairs value error) :
    error.group = group := by
  cases hrefused with
  | scalar _ | text _ _ | keys _ _ => rfl
  | items hitems =>
      obtain ⟨_, _, _, _, _, hentry⟩ := hitems
      exact hentry.group_eq

end MarkerGroup

/-! ## Line fields -/

theorem Value.marker?_eq_some_iff {value : Value} {marker : Marker} :
    value.marker? = some marker ↔ value.Spells marker := by
  cases value with
  | text text =>
      rw [Value.marker?, Marker.ofText?_eq_some_iff, Value.Spells, Value.text.injEq, eq_comm]
  | _ => simp [Value.marker?, Value.Spells]

theorem Value.marker?_eq_none_iff {value : Value} :
    value.marker? = none ↔ ∀ marker, ¬ value.Spells marker := by
  simp only [Option.eq_none_iff_forall_ne_some, Ne, marker?_eq_some_iff]

theorem Value.spells_iff_of_spells {value : Value} {marker other : Marker}
    (hspells : value.Spells marker) : value.Spells other ↔ other = marker := by
  rw [← marker?_eq_some_iff] at hspells ⊢
  rw [hspells, Option.some.injEq, eq_comm]

theorem Marker.text_inj {marker other : Marker} : marker.text = other.text ↔ marker = other := by
  cases marker
  cases other
  rw [Marker.mk.injEq]

/-- Only the empty text is the text of no marker. -/
theorem Marker.forall_text_ne_iff (text : Text) :
    (∀ marker : Marker, text ≠ marker.text) ↔ text = [] := by
  constructor
  · intro hnone
    by_contra hne
    exact hnone ⟨text, hne⟩ rfl
  · rintro rfl marker
    exact marker.nonempty.symm

theorem Marker.forall_texts_ne_iff (first second : Text) :
    (∀ opener closer : Marker, ¬ (first = opener.text ∧ second = closer.text)) ↔
      first = [] ∨ second = [] := by
  rw [← forall_text_ne_iff first, ← forall_text_ne_iff second]
  constructor
  · intro hnone
    by_contra hsome
    simp only [not_or, not_forall, not_not] at hsome
    obtain ⟨⟨opener, hopener⟩, closer, hcloser⟩ := hsome
    exact hnone opener closer ⟨hopener, hcloser⟩
  · rintro (hfirst | hsecond) opener closer ⟨hopener, hcloser⟩
    · exact hfirst opener hopener
    · exact hsecond closer hcloser

namespace MarkerGroup

variable (group : MarkerGroup)

theorem settles_marker (value : Value) :
    Settles (group.marker value) value.Spells (group.RefusesMarker value) := by
  unfold MarkerGroup.marker
  split
  next marker hmarker =>
    rw [Value.marker?_eq_some_iff] at hmarker
    apply settles_ok
    · exact fun other => Value.spells_iff_of_spells hmarker
    · rintro error ⟨hnone, -⟩
      exact hnone marker hmarker
  next hnone =>
    rw [Value.marker?_eq_none_iff] at hnone
    apply settles_error hnone
    intro error
    rw [RefusesMarker, and_iff_right hnone]

/-- A key is the text of a marker unless it is empty. -/
theorem settles_key (field : Text × Value) :
    Settles (group.marker (.text field.1)) (fun marker => field.1 = marker.text)
      (fun error => field.1 = [] ∧ error = .badMarker group (.text [])) := by
  refine (group.settles_marker (.text field.1)).congr ?_ ?_
  · intro marker
    rw [Value.Spells, Value.text.injEq]
  · intro error
    simp only [RefusesMarker, Value.Spells, Value.text.injEq]
    have hempty : (∀ marker : Marker, ¬ field.1 = marker.text) ↔ field.1 = [] :=
      Marker.forall_text_ne_iff field.1
    rw [hempty]
    refine and_congr_right fun hnil => ?_
    rw [hnil]

theorem settles_markers (value : Value) :
    Settles (group.markers value) value.NamesMarkers (group.RefusesMarkers value) := by
  cases value with
  | text text =>
      by_cases hnil : text = []
      · subst hnil
        apply settles_error
        · intro markers
          simp [Value.namesMarkers_iff, (Marker.nonempty _).symm]
        · intro error
          simp [refusesMarkers_iff, Value.IsScalar]
      · obtain ⟨marker, rfl⟩ : ∃ marker : Marker, marker.text = text := ⟨⟨text, hnil⟩, rfl⟩
        have hmarker : group.markers (.text marker.text) = .ok [marker] := by
          rw [markers, List.mapM_cons, ((group.settles_marker _).ok_iff marker).mpr rfl]
          rfl
        rw [hmarker]
        apply settles_ok
        · intro markers
          simp [Value.namesMarkers_iff, Marker.text_inj]
        · intro error
          simp [refusesMarkers_iff, Value.IsScalar, marker.nonempty]
  | list items =>
      refine (Settles.mapM group.settles_marker items).congr ?_ ?_
      · simp [Value.namesMarkers_iff]
      · simp [refusesMarkers_iff, Value.IsScalar]
  | object fields =>
      have hkeys : group.markers (.object fields) =
          fields.mapM fun field => group.marker (.text field.1) := List.mapM_map ..
      rw [hkeys]
      refine (Settles.mapM group.settles_key fields).congr ?_ ?_
      · simp [Value.namesMarkers_iff]
      · simp [refusesMarkers_iff, Value.IsScalar]
  | _ =>
      apply settles_error
      · simp [Value.namesMarkers_iff]
      · simp [refusesMarkers_iff, Value.IsScalar]

/-! ## Block fields -/

/-- The check of an entry with members, whether it is a list or an object. -/
theorem settles_pair_of_members {entry : Value} {members : List Value}
    (hmembers : entry.members? = some members) (htext : ∀ text, entry ≠ .text text) :
    Settles (group.pair entry)
      (fun pair => ∃ first second, members = [first, second] ∧ first.Spells pair.opener ∧
        second.Spells pair.closer)
      (fun error => (members.length ≠ 2 ∧ error = .notAPair group entry) ∨
        ∃ first second, members = [first, second] ∧
          (∀ opener closer, ¬ (first.Spells opener ∧ second.Spells closer)) ∧
          error = .badMarker group entry) := by
  unfold MarkerGroup.pair
  split
  next text => exact absurd rfl (htext text)
  next =>
    rw [hmembers]
    split
    next first second heq =>
      obtain rfl := Option.some.inj heq
      split
      next opener closer hopener hcloser =>
        rw [Value.marker?_eq_some_iff] at hopener hcloser
        apply settles_ok
        · intro pair
          cases pair
          simp [Value.spells_iff_of_spells hopener, Value.spells_iff_of_spells hcloser]
        · rintro error (⟨hcount, -⟩ | ⟨_, _, heq, hnone, -⟩)
          · exact hcount rfl
          · obtain ⟨rfl, rfl⟩ : first = _ ∧ second = _ := by simpa using heq
            exact hnone opener closer ⟨hopener, hcloser⟩
      next hnone =>
        have hnot : ∀ opener closer, ¬ (first.Spells opener ∧ second.Spells closer) := by
          rintro opener closer ⟨hopener, hcloser⟩
          rw [← Value.marker?_eq_some_iff] at hopener hcloser
          exact hnone opener closer hopener hcloser
        apply settles_error
        · rintro pair ⟨_, _, heq, hmarkers⟩
          obtain ⟨rfl, rfl⟩ : first = _ ∧ second = _ := by simpa using heq
          exact hnot _ _ hmarkers
        · intro error
          constructor
          · rintro (⟨hcount, -⟩ | ⟨_, _, -, -, herror⟩)
            · exact absurd rfl hcount
            · exact herror
          · exact fun herror => .inr ⟨first, second, rfl, hnot, herror⟩
    next members' hother heq =>
      obtain rfl := Option.some.inj heq
      have hcount : members.length ≠ 2 := by
        intro htwo
        obtain ⟨first, second, rfl⟩ := List.length_eq_two.mp htwo
        exact hother first second rfl
      have hnot : ∀ first second, members ≠ [first, second] :=
        hother
      apply settles_error
      · simp [hnot]
      · simp [hnot, hcount]
    next hnone => cases hnone

/-- An object with two members has two keys, which they are the texts of. -/
theorem exists_of_members?_object {fields : List (Text × Value)} {first second : Value}
    (hmembers : fields.map (fun field => Value.text field.1) = [first, second]) :
    ∃ opener closer, fields = [opener, closer] ∧ first = .text opener.1 ∧
      second = .text closer.1 := by
  have hlength := congrArg List.length hmembers
  rw [List.length_map] at hlength
  obtain ⟨opener, closer, rfl⟩ := List.length_eq_two.mp hlength
  obtain ⟨rfl, hrest⟩ := List.cons.inj hmembers
  obtain ⟨rfl, -⟩ := List.cons.inj hrest
  exact ⟨opener, closer, rfl, rfl, rfl⟩

theorem settles_pair (entry : Value) :
    Settles (group.pair entry) entry.NamesPair (group.RefusesPair entry) := by
  cases entry with
  | text text =>
      apply settles_error
      · simp [Value.namesPair_iff]
      · simp [refusesPair_iff, Value.IsScalar]
  | list items =>
      refine (group.settles_pair_of_members rfl (by simp)).congr ?_ ?_
      · intro pair
        constructor
        · rintro ⟨first, second, rfl, hopener, hcloser⟩
          exact .items hopener hcloser
        · intro hpair
          cases hpair with
          | items hopener hcloser => exact ⟨_, _, rfl, hopener, hcloser⟩
      · intro error
        constructor
        · rintro (⟨hcount, rfl⟩ | ⟨first, second, rfl, hnot, rfl⟩)
          · exact .itemCount hcount
          · exact .items hnot
        · intro hrefused
          cases hrefused with
          | scalar hscalar => exact hscalar.elim
          | itemCount hcount => exact .inl ⟨hcount, rfl⟩
          | items hnot => exact .inr ⟨_, _, rfl, hnot, rfl⟩
  | object fields =>
      refine (group.settles_pair_of_members rfl (by simp)).congr ?_ ?_
      · intro pair
        constructor
        · rintro ⟨_, _, hmembers, hopener, hcloser⟩
          obtain ⟨first, second, rfl, rfl, rfl⟩ := exists_of_members?_object hmembers
          exact .keys (Value.text.inj hopener) (Value.text.inj hcloser)
        · intro hpair
          cases hpair with
          | keys hopener hcloser =>
              exact ⟨_, _, rfl, congrArg Value.text hopener, congrArg Value.text hcloser⟩
      · intro error
        rw [List.length_map]
        constructor
        · rintro (⟨hcount, rfl⟩ | ⟨_, _, hmembers, hnot, rfl⟩)
          · exact .keyCount hcount
          · obtain ⟨first, second, rfl, rfl, rfl⟩ := exists_of_members?_object hmembers
            simp only [Value.Spells, Value.text.injEq] at hnot
            exact .keys ((Marker.forall_texts_ne_iff _ _).mp hnot)
        · intro hrefused
          cases hrefused with
          | scalar hscalar => exact hscalar.elim
          | keyCount hcount => exact .inl ⟨hcount, rfl⟩
          | keys hkeys =>
              refine .inr ⟨_, _, rfl, ?_, rfl⟩
              simp only [Value.Spells, Value.text.injEq]
              exact (Marker.forall_texts_ne_iff _ _).mpr hkeys
  | _ =>
      apply settles_error
      · simp [Value.namesPair_iff]
      · simp [refusesPair_iff, Value.IsScalar]

theorem settles_pairs (value : Value) :
    Settles (group.pairs value) value.NamesPairs (group.RefusesPairs value) := by
  cases value with
  | text text =>
      cases text with
      | nil =>
          apply settles_ok
          · simp [Value.namesPairs_iff]
          · simp [refusesPairs_iff, Value.IsScalar]
      | cons c rest =>
          apply settles_error
          · simp [Value.namesPairs_iff]
          · simp [refusesPairs_iff, Value.IsScalar]
  | list items =>
      refine (Settles.mapM group.settles_pair items).congr ?_ ?_
      · simp [Value.namesPairs_iff]
      · simp [refusesPairs_iff, Value.IsScalar]
  | object fields =>
      cases fields with
      | nil =>
          apply settles_ok
          · simp [Value.namesPairs_iff]
          · simp [refusesPairs_iff, Value.IsScalar]
      | cons field rest =>
          apply settles_error
          · simp [Value.namesPairs_iff]
          · simp [refusesPairs_iff, Value.IsScalar]
  | _ =>
      apply settles_error
      · simp [Value.namesPairs_iff]
      · simp [refusesPairs_iff, Value.IsScalar]

end MarkerGroup

/-! ## Whole descriptions -/

/-- A field that is absent names nothing. -/
inductive FieldNames {α : Type} (Names : Value → List α → Prop) : Option Value → List α → Prop
  | absent : FieldNames Names none []
  | present {value : Value} {items : List α} (hnames : Names value items) :
      FieldNames Names (some value) items

theorem settles_checkField {α : Type} {check : Value → Except DescriptionError (List α)}
    {Names : Value → List α → Prop} {Refuses : Value → DescriptionError → Prop}
    (hcheck : ∀ value, Settles (check value) (Names value) (Refuses value))
    (field? : Option Value) :
    Settles (checkField check field?) (FieldNames Names field?)
      (fun error => ∃ value, field? = some value ∧ Refuses value error) := by
  cases field? with
  | none =>
      apply settles_ok
      · intro items
        constructor
        · intro hnames
          cases hnames
          rfl
        · rintro rfl
          exact .absent
      · rintro error ⟨value, hfield, -⟩
        cases hfield
  | some value =>
      refine (hcheck value).congr ?_ ?_
      · intro items
        refine ⟨.present, fun hnames => ?_⟩
        cases hnames with
        | present hnames => exact hnames
      · simp

theorem exists_fieldNames_iff {α : Type} {Names : Value → List α → Prop}
    {field? : Option Value} :
    (∃ items, FieldNames Names field? items) ↔
      ∀ value, field? = some value → ∃ items, Names value items := by
  constructor
  · rintro ⟨items, hnames⟩ value rfl
    cases hnames with
    | present hnames => exact ⟨items, hnames⟩
  · intro hpresent
    cases field? with
    | none => exact ⟨[], .absent⟩
    | some value =>
        obtain ⟨items, hnames⟩ := hpresent value rfl
        exact ⟨items, .present hnames⟩

/-- The markers of a style are those that the four fields of a description name. -/
structure CommentStyle.DescribedBy (style : CommentStyle) (fields : List (Text × Value)) :
    Prop where
  lineMarkers :
    FieldNames Value.NamesMarkers (MarkerGroup.field? .line fields) style.lineMarkers
  docLineMarkers :
    FieldNames Value.NamesMarkers (MarkerGroup.field? .docLine fields) style.docLineMarkers
  blockPairs : FieldNames Value.NamesPairs (MarkerGroup.field? .block fields) style.blockPairs
  docBlockPairs :
    FieldNames Value.NamesPairs (MarkerGroup.field? .docBlock fields) style.docBlockPairs

namespace MarkerGroup

/-- The groups in the order in which their fields are checked. -/
def checked : List MarkerGroup := [.line, .docLine, .block, .docBlock]

/-- The groups whose fields are checked before that of a group. -/
def earlier (group : MarkerGroup) : List MarkerGroup := checked.takeWhile (· ≠ group)

/-- The value of a field is well formed. -/
def WellFormed : MarkerGroup → Value → Prop
  | .line, value | .docLine, value => ∃ markers, value.NamesMarkers markers
  | .block, value | .docBlock, value => ∃ pairs, value.NamesPairs pairs

/-- The field of a group is absent or well formed. -/
def Passes (group : MarkerGroup) (fields : List (Text × Value)) : Prop :=
  ∀ value, group.field? fields = some value → group.WellFormed value

/-- The value of a field is at fault. -/
def Refuses (group : MarkerGroup) : Value → DescriptionError → Prop :=
  match group with
  | .line | .docLine => group.RefusesMarkers
  | .block | .docBlock => group.RefusesPairs

/-- The field of a group is present, and it is at fault. -/
def Fails (group : MarkerGroup) (fields : List (Text × Value)) (error : DescriptionError) : Prop :=
  ∃ value, group.field? fields = some value ∧ group.Refuses value error

/-- The error of a field carries the group of the field. -/
theorem Refuses.group_eq {group : MarkerGroup} {value : Value} {error : DescriptionError}
    (hrefused : group.Refuses value error) : error.group = group := by
  cases group with
  | line | docLine => exact RefusesMarkers.group_eq hrefused
  | block | docBlock => exact RefusesPairs.group_eq hrefused

end MarkerGroup

/-- The error is the first fault of a description: the field of the group that it carries is at
fault, and the fields that are checked before that one are absent or well formed. -/
def FirstFault (fields : List (Text × Value)) (error : DescriptionError) : Prop :=
  error.group.Fails fields error ∧ ∀ other ∈ error.group.earlier, other.Passes fields

section FirstFault

variable {fields : List (Text × Value)} {error : DescriptionError}

theorem MarkerGroup.Fails.firstFault {group : MarkerGroup} (hfails : group.Fails fields error)
    (hearlier : ∀ other ∈ group.earlier, other.Passes fields) : FirstFault fields error := by
  obtain ⟨value, hfield, hrefused⟩ := hfails
  obtain rfl := hrefused.group_eq
  exact ⟨⟨value, hfield, hrefused⟩, hearlier⟩

/-- One field after the other is looked at, and the fields behind one that is at fault are not. -/
theorem firstFault_iff :
    FirstFault fields error ↔ MarkerGroup.line.Fails fields error ∨
      MarkerGroup.line.Passes fields ∧ (MarkerGroup.docLine.Fails fields error ∨
        MarkerGroup.docLine.Passes fields ∧ (MarkerGroup.block.Fails fields error ∨
          MarkerGroup.block.Passes fields ∧ MarkerGroup.docBlock.Fails fields error)) := by
  constructor
  · rintro ⟨hfails, hearlier⟩
    generalize error.group = group at hfails hearlier
    cases group with
    | line => exact .inl hfails
    | docLine => exact .inr ⟨hearlier .line (by decide), .inl hfails⟩
    | block =>
        exact .inr ⟨hearlier .line (by decide), .inr ⟨hearlier .docLine (by decide), .inl hfails⟩⟩
    | docBlock =>
        exact .inr ⟨hearlier .line (by decide), .inr ⟨hearlier .docLine (by decide),
          .inr ⟨hearlier .block (by decide), hfails⟩⟩⟩
  · rintro (hfails | ⟨hline, hfails | ⟨hdocLine, hfails | ⟨hblock, hfails⟩⟩⟩)
    · exact hfails.firstFault (List.forall_mem_nil _)
    · exact hfails.firstFault (List.forall_mem_singleton.mpr hline)
    · apply hfails.firstFault
      exact List.forall_mem_cons.mpr ⟨hline, List.forall_mem_singleton.mpr hdocLine⟩
    · apply hfails.firstFault
      exact List.forall_mem_cons.mpr ⟨hline, List.forall_mem_cons.mpr
        ⟨hdocLine, List.forall_mem_singleton.mpr hblock⟩⟩

end FirstFault

namespace CommentStyle

theorem settles_describe (fields : List (Text × Value)) :
    Settles (describe fields) (fun style => style.DescribedBy fields) (FirstFault fields) := by
  have hsteps := (settles_checkField (MarkerGroup.settles_markers .line)
      (MarkerGroup.field? .line fields)).bind fun lineMarkers =>
    (settles_checkField (MarkerGroup.settles_markers .docLine)
      (MarkerGroup.field? .docLine fields)).bind fun docLineMarkers =>
    (settles_checkField (MarkerGroup.settles_pairs .block)
      (MarkerGroup.field? .block fields)).bind fun blockPairs =>
    (settles_checkField (MarkerGroup.settles_pairs .docBlock)
      (MarkerGroup.field? .docBlock fields)).bind fun docBlockPairs =>
    settles_pure ({ lineMarkers, blockPairs, docLineMarkers, docBlockPairs } : CommentStyle)
  refine Settles.congr hsteps ?accepts ?refuses
  case accepts =>
    intro style
    constructor
    · rintro ⟨lineMarkers, hline, docLineMarkers, hdocLine, blockPairs, hblock, docBlockPairs,
        hdocBlock, rfl⟩
      exact ⟨hline, hdocLine, hblock, hdocBlock⟩
    · rintro ⟨hline, hdocLine, hblock, hdocBlock⟩
      exact ⟨_, hline, _, hdocLine, _, hblock, _, hdocBlock, rfl⟩
  case refuses =>
    intro error
    simp only [exists_and_right, exists_fieldNames_iff, and_false, exists_false, or_false,
      firstFault_iff]
    rfl

theorem exists_describedBy_iff {fields : List (Text × Value)} :
    (∃ style : CommentStyle, style.DescribedBy fields) ↔
      ∀ group : MarkerGroup, group.Passes fields := by
  constructor
  · rintro ⟨style, hline, hdocLine, hblock, hdocBlock⟩ group
    cases group with
    | line => exact exists_fieldNames_iff.mp ⟨_, hline⟩
    | docLine => exact exists_fieldNames_iff.mp ⟨_, hdocLine⟩
    | block => exact exists_fieldNames_iff.mp ⟨_, hblock⟩
    | docBlock => exact exists_fieldNames_iff.mp ⟨_, hdocBlock⟩
  · intro hpasses
    obtain ⟨lineMarkers, hline⟩ := exists_fieldNames_iff.mpr (hpasses .line)
    obtain ⟨docLineMarkers, hdocLine⟩ := exists_fieldNames_iff.mpr (hpasses .docLine)
    obtain ⟨blockPairs, hblock⟩ := exists_fieldNames_iff.mpr (hpasses .block)
    obtain ⟨docBlockPairs, hdocBlock⟩ := exists_fieldNames_iff.mpr (hpasses .docBlock)
    exact ⟨⟨lineMarkers, blockPairs, docLineMarkers, docBlockPairs⟩, hline, hdocLine, hblock,
      hdocBlock⟩

/-! ## Other fields, and styles described again -/

/-- The fields whose keys are those of the four groups. -/
def knownFields (fields : List (Text × Value)) : List (Text × Value) :=
  fields.filter fun field => MarkerGroup.checked.any fun group => group.key.toList == field.1

theorem field?_knownFields (group : MarkerGroup) (fields : List (Text × Value)) :
    group.field? (knownFields fields) = group.field? fields := by
  have hknown : MarkerGroup.checked.any
      (fun other => other.key.toList == group.key.toList) = true := by
    rw [List.any_eq_true]
    refine ⟨group, ?_, beq_self_eq_true _⟩
    cases group <;> decide
  unfold MarkerGroup.field? knownFields
  induction fields with
  | nil => rfl
  | cons field rest ih =>
      obtain ⟨key, value⟩ := field
      rw [List.filter_cons]
      split
      next => rw [List.lookup_cons, List.lookup_cons, ih]
      next hother =>
        have hne : (group.key.toList == key) = false := by
          refine Bool.eq_false_iff.mpr fun heq => hother ?_
          rw [← eq_of_beq heq]
          exact hknown
        rw [List.lookup_cons, hne, ih]

/-- The description of a style by all four of its groups. -/
def description (style : CommentStyle) : List (Text × Value) :=
  let markers (group : List Marker) : Value := .list (group.map fun marker => .text marker.text)
  let pairs (group : List BlockPair) : Value :=
    .list (group.map fun pair => .list [.text pair.opener.text, .text pair.closer.text])
  [(MarkerGroup.line.key.toList, markers style.lineMarkers),
    (MarkerGroup.block.key.toList, pairs style.blockPairs),
    (MarkerGroup.docLine.key.toList, markers style.docLineMarkers),
    (MarkerGroup.docBlock.key.toList, pairs style.docBlockPairs)]

theorem describedBy_description (style : CommentStyle) :
    style.DescribedBy style.description := by
  have hmarkers : ∀ markers : List Marker,
      Value.NamesMarkers (.list (markers.map fun marker => .text marker.text)) markers := by
    intro markers
    apply Value.NamesMarkers.items
    rw [List.forall₂_map_left_iff, List.forall₂_same]
    exact fun _ _ => rfl
  have hpairs : ∀ pairs : List BlockPair, Value.NamesPairs
      (.list (pairs.map fun pair => .list [.text pair.opener.text, .text pair.closer.text]))
      pairs := by
    intro pairs
    apply Value.NamesPairs.items
    rw [List.forall₂_map_left_iff, List.forall₂_same]
    exact fun _ _ => .items rfl rfl
  exact ⟨.present (hmarkers _), .present (hmarkers _), .present (hpairs _), .present (hpairs _)⟩

/-- A description is accepted with exactly the markers that its fields name if all of them are well
formed, and refused with its first fault otherwise. Fields with other keys make no difference, and a
style is described by what it holds. -/
theorem describe_eq_iff (fields : List (Text × Value)) :
    (∀ style, describe fields = .ok style ↔ style.DescribedBy fields) ∧
      ((∃ style, describe fields = .ok style) ↔ ∀ group : MarkerGroup, group.Passes fields) ∧
      (∀ error, describe fields = .error error ↔ FirstFault fields error) ∧
      describe (knownFields fields) = describe fields ∧
      ∀ style : CommentStyle, describe style.description = .ok style := by
  refine ⟨(settles_describe fields).ok_iff, ?_, (settles_describe fields).error_iff, ?_, ?_⟩
  · simp only [(settles_describe fields).ok_iff, exists_describedBy_iff]
  · simp only [describe, field?_knownFields]
  · intro style
    rw [(settles_describe _).ok_iff]
    exact style.describedBy_description

end CommentStyle

end SourceScan
