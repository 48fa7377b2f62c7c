import Mathlib.Data.List.Infix
import SourceScan.Preprocessor
import SourceScan.Settings

/-! # Contexts of settings

Settings may be set and reset, and contexts entered and left, in any nesting. Each leaving has one
matching entry, and whatever happened between the two, it brings back what was there just before
that entry.
-/

namespace SourceScan

variable {ρ : Type}

/-- A call on a stack of settings. -/
inductive SettingsCall (ρ : Type) where
  | set (settings : Settings ρ)
  | reset
  | enter (settings : Settings ρ)
  /-- The innermost context is left, since its work is done or since an error passes through. -/
  | leave (failure : Option CallbackError)

namespace SettingsCall

variable {calls inner inner' before before' : List (SettingsCall ρ)}
variable {settings settings' : Settings ρ}

/-- How many contexts are open behind calls, if so many are open before them. No call may leave a
context unless one is open. -/
def openAfter? : Nat → List (SettingsCall ρ) → Option Nat
  | count, [] => some count
  | count, .set _ :: rest | count, .reset :: rest => openAfter? count rest
  | count, .enter _ :: rest => openAfter? (count + 1) rest
  | 0, .leave _ :: _ => none
  | count + 1, .leave _ :: rest => openAfter? count rest

/-- Calls that leave no context but those which they have entered. -/
def WellNested (calls : List (SettingsCall ρ)) : Prop := (openAfter? 0 calls).isSome = true

/-- Well-nested calls that have left every context which they have entered. -/
def Closed (calls : List (SettingsCall ρ)) : Prop := openAfter? 0 calls = some 0

theorem openAfter?_append (count : Nat) (calls others : List (SettingsCall ρ)) :
    openAfter? count (calls ++ others) =
      (openAfter? count calls).bind (openAfter? · others) := by
  induction calls generalizing count with
  | nil => rfl
  | cons call rest ih =>
      cases call with
      | set | reset | enter => exact ih _
      | leave =>
          cases count with
          | zero => rfl
          | succ count => exact ih count

/-- Contexts that were open all along are not touched. -/
theorem openAfter?_add {count left : Nat} (hcalls : openAfter? count calls = some left)
    (more : Nat) : openAfter? (count + more) calls = some (left + more) := by
  induction calls generalizing count with
  | nil => exact congrArg (fun open' => some (open' + more)) (Option.some.inj hcalls)
  | cons call rest ih =>
      cases call with
      | set | reset => exact ih hcalls
      | enter =>
          have hrest := ih hcalls
          rwa [Nat.add_right_comm] at hrest
      | leave =>
          cases count with
          | zero => cases hcalls
          | succ count =>
              rw [Nat.add_right_comm]
              exact ih hcalls

theorem Closed.openAfter? (hclosed : Closed calls) (count : Nat) :
    openAfter? count calls = some count := by
  have hcalls := openAfter?_add hclosed count
  rwa [Nat.zero_add] at hcalls

theorem Closed.append (hcalls : Closed calls) (hinner : Closed inner) : Closed (calls ++ inner) := by
  rw [Closed, openAfter?_append, hcalls]
  exact hinner

theorem Closed.context (hinner : Closed inner) (settings : Settings ρ)
    (failure : Option CallbackError) : Closed (.enter settings :: inner ++ [.leave failure]) := by
  rw [Closed, List.cons_append, SettingsCall.openAfter?, openAfter?_append, hinner.openAfter?]
  rfl

/-- If a context is open behind calls, then one of them has entered it, and all contexts that were
entered since are left again. -/
theorem exists_enter_of_openAfter? {left : Nat} (hcalls : openAfter? 0 calls = some (left + 1)) :
    ∃ before settings inner, calls = before ++ .enter settings :: inner ∧
      openAfter? 0 before = some left ∧ Closed inner := by
  induction hlength : calls.length using Nat.strong_induction_on generalizing calls left with
  | _ length ih =>
    rcases List.eq_nil_or_concat' calls with rfl | ⟨rest, call, rfl⟩
    · cases hcalls
    · rw [openAfter?_append] at hcalls
      obtain ⟨count, hrest, hcall⟩ := Option.bind_eq_some_iff.mp hcalls
      have hshorter : rest.length < length := by
        rw [← hlength, List.length_append]
        exact Nat.lt_succ_self _
      cases call with
      | set | reset =>
          obtain rfl := Option.some.inj hcall
          obtain ⟨before, settings, inner, rfl, hbefore, hinner⟩ := ih _ hshorter hrest rfl
          exact ⟨before, settings, _, List.append_assoc before (.enter settings :: inner) _, hbefore,
            hinner.append rfl⟩
      | enter settings =>
          obtain rfl := Nat.succ.inj (Option.some.inj hcall)
          exact ⟨rest, settings, [], rfl, hrest, rfl⟩
      | leave failure =>
          cases count with
          | zero => cases hcall
          | succ count =>
              obtain rfl := Option.some.inj hcall
              -- The context that this call leaves was the last of two that were open.
              obtain ⟨outer, last, inside, rfl, houter, hinside⟩ := ih _ hshorter hrest rfl
              have houterShorter : outer.length < length := by
                rw [List.length_append] at hshorter
                omega
              obtain ⟨before, settings, inner, rfl, hbefore, hinner⟩ :=
                ih _ houterShorter houter rfl
              refine ⟨before, settings, inner ++ (.enter last :: inside ++ [.leave failure]), ?_,
                hbefore, hinner.append (hinside.context last failure)⟩
              simp

/-- Only one entry is followed by calls that leave every context entered since. -/
theorem enter_unique (hinner : Closed inner) (hinner' : Closed inner')
    (heq : before ++ .enter settings :: inner = before' ++ .enter settings' :: inner') :
    before = before' := by
  -- Were one of the entries behind the other, its context would be open at the end.
  have hleft : ∀ {first last : List (SettingsCall ρ)} {settings : Settings ρ},
      Closed last → ¬ Closed (first ++ .enter settings :: last) := by
    intro first last settings hlast hall
    rw [Closed, openAfter?_append] at hall
    obtain ⟨count, -, hcount⟩ := Option.bind_eq_some_iff.mp hall
    have hlater : SettingsCall.openAfter? count (.enter settings :: last) = some (count + 1) :=
      hlast.openAfter? (count + 1)
    rw [hlater] at hcount
    cases hcount
  rcases List.append_eq_append_iff.mp heq with ⟨mid, hbefore, hmid⟩ | ⟨mid, hbefore, hmid⟩
  · cases mid with
    | nil => rw [hbefore, List.append_nil]
    | cons call mid =>
        obtain ⟨-, rfl⟩ := List.cons.inj hmid
        exact absurd hinner (hleft hinner')
  · cases mid with
    | nil => rw [hbefore, List.append_nil]
    | cons call mid =>
        obtain ⟨-, rfl⟩ := List.cons.inj hmid
        exact absurd hinner' (hleft hinner)

end SettingsCall

namespace SettingsStack

open SettingsCall

variable {calls inner : List (SettingsCall ρ)}

/-- The stack after a call, unless the call leaves a context and there is none. -/
def perform? (stack : SettingsStack ρ) : SettingsCall ρ → Option (SettingsStack ρ)
  | .set settings => some (stack.set settings)
  | .reset => some stack.reset
  | .enter settings => some (stack.enter settings)
  | .leave _ => stack.leave?

/-- The stack after calls one behind another. -/
def performAll? (stack : SettingsStack ρ) (calls : List (SettingsCall ρ)) :
    Option (SettingsStack ρ) :=
  calls.foldlM perform? stack

theorem performAll?_append (stack : SettingsStack ρ) (calls others : List (SettingsCall ρ)) :
    stack.performAll? (calls ++ others) =
      (stack.performAll? calls).bind (·.performAll? others) :=
  List.foldlM_append

/-- Calls put settings on top of what was saved before them and take them off again, one for each
context that they have entered. -/
theorem exists_performAll?_of_openAfter? (stack : SettingsStack ρ) (base : List (Settings ρ))
    {count left : Nat} {entered : List (Settings ρ)} (hcalls : openAfter? count calls = some left)
    (hsaved : stack.saved = entered ++ base) (hentered : entered.length = count) :
    ∃ after entered', stack.performAll? calls = some after ∧ after.saved = entered' ++ base ∧
      entered'.length = left := by
  induction calls generalizing count stack entered with
  | nil =>
      obtain rfl := Option.some.inj hcalls
      exact ⟨stack, entered, rfl, hsaved, hentered⟩
  | cons call rest ih =>
      cases call with
      | set settings => exact ih (stack.set settings) hcalls hsaved hentered
      | reset => exact ih stack.reset hcalls hsaved hentered
      | enter settings =>
          have hsaved' : (stack.enter settings).saved = stack.active :: entered ++ base :=
            congrArg (List.cons _) hsaved
          exact ih (stack.enter settings) hcalls hsaved' (congrArg Nat.succ hentered)
      | leave failure =>
          cases entered with
          | nil =>
              subst hentered
              cases hcalls
          | cons previous entered =>
              subst hentered
              obtain ⟨active, saved⟩ := stack
              subst hsaved
              exact ih ⟨previous, entered ++ base⟩ hcalls rfl rfl

/-- Closed calls may change the active settings, but nothing that was saved. -/
theorem exists_performAll?_of_closed (stack : SettingsStack ρ) (hclosed : Closed inner) :
    ∃ active, stack.performAll? inner = some ⟨active, stack.saved⟩ := by
  obtain ⟨⟨active, saved⟩, entered, hinner, hsaved, hlength⟩ :=
    exists_performAll?_of_openAfter? _ stack.saved hclosed (List.nil_append _).symm rfl
  obtain rfl := List.length_eq_zero_iff.mp hlength
  subst hsaved
  exact ⟨active, hinner⟩

/-- A context leaves no trace. -/
theorem performAll?_context (stack : SettingsStack ρ) (hinner : Closed inner)
    (settings : Settings ρ) (failure : Option CallbackError) :
    stack.performAll? (.enter settings :: inner ++ [.leave failure]) = some stack := by
  obtain ⟨active, hactive⟩ := exists_performAll?_of_closed (stack.enter settings) hinner
  have hall : stack.performAll? (.enter settings :: inner ++ [.leave failure]) =
      ((stack.enter settings).performAll? inner).bind (·.performAll? [.leave failure]) :=
    performAll?_append (stack.enter settings) inner [.leave failure]
  rw [hall, hactive]
  rfl

/-- After well-nested calls, whatever the settings were before them, every leaving has one matching
entry, and the stack is what it was just before that entry: the settings that were active then are
active again. Neither the calls in between nor a failure matter, and one more reset among them makes
no difference. -/
theorem restored_of_wellNested (stack : SettingsStack ρ) (hnested : WellNested calls) :
    (stack.performAll? calls).isSome = true ∧
      ∀ front failure behind, calls = front ++ .leave failure :: behind →
        ∃ before settings inner, front = before ++ .enter settings :: inner ∧ Closed inner ∧
          (∀ before' settings' inner', front = before' ++ .enter settings' :: inner' →
            Closed inner' → before' = before) ∧
          ∃ earlier, stack.performAll? before = some earlier ∧
            stack.performAll? (front ++ [.leave failure]) = some earlier ∧
            ∀ first last, inner = first ++ last →
              stack.performAll? (before ++ .enter settings :: (first ++ .reset :: last) ++
                [.leave failure]) = some earlier := by
  have hdefined : ∀ {calls : List (SettingsCall ρ)} {left : Nat},
      openAfter? 0 calls = some left → ∃ after, stack.performAll? calls = some after := by
    intro calls left hcalls
    obtain ⟨after, -, hafter, -, -⟩ :=
      exists_performAll?_of_openAfter? stack stack.saved hcalls (List.nil_append _).symm rfl
    exact ⟨after, hafter⟩
  obtain ⟨left, hleft⟩ := Option.isSome_iff_exists.mp hnested
  refine ⟨Option.isSome_iff_exists.mpr (hdefined hleft), ?_⟩
  rintro front failure behind rfl
  rw [openAfter?_append] at hleft
  obtain ⟨count, hfront, hcount⟩ := Option.bind_eq_some_iff.mp hleft
  cases count with
  | zero => cases hcount
  | succ count =>
      obtain ⟨before, settings, inner, rfl, hbefore, hinner⟩ := exists_enter_of_openAfter? hfront
      obtain ⟨earlier, hearlier⟩ := hdefined hbefore
      -- What stands between the entry and the leaving may be any closed calls.
      have hrestored : ∀ {inner : List (SettingsCall ρ)}, Closed inner →
          stack.performAll? (before ++ .enter settings :: inner ++ [.leave failure]) =
            some earlier := by
        intro inner hinner
        rw [List.append_assoc, performAll?_append, hearlier]
        exact performAll?_context earlier hinner settings failure
      refine ⟨before, settings, inner, rfl, hinner, ?_, earlier, hearlier, hrestored hinner, ?_⟩
      · intro before' settings' inner' heq hinner'
        exact (enter_unique hinner hinner' heq).symm
      · rintro first last rfl
        apply hrestored
        rw [Closed, openAfter?_append] at hinner ⊢
        exact hinner

/-- A context that fails inside another one, with a reset and a new setting around it. -/
theorem restored_of_wellNested_failed :
    let named (name : String) : Settings LineEdit := { encoding := .text name.toList }
    let stack : SettingsStack LineEdit := ⟨named "outer", [named "saved"]⟩
    let inner : List (SettingsCall LineEdit) :=
      [.reset, .enter (named "second"), .set (named "third"), .leave (some .context),
        .set (named "fourth")]
    let front : List (SettingsCall LineEdit) := .set (named "new") :: .enter (named "first") :: inner
    WellNested (front ++ [.leave none, .reset]) ∧
      (stack.performAll? front).map SettingsStack.active = some (named "fourth") ∧
      stack.performAll? (front ++ [.leave none]) = some ⟨named "new", [named "saved"]⟩ := by
  intro named stack inner front
  have hnested : WellNested (front ++ [.leave none, .reset]) := rfl
  obtain ⟨-, hleave⟩ := restored_of_wellNested stack hnested
  obtain ⟨before, settings, inside, hfront, hclosed, hunique, earlier, hearlier, hback, -⟩ :=
    hleave front none [.reset] rfl
  obtain rfl : [.set (named "new")] = before := hunique _ (named "first") inner rfl rfl
  exact ⟨hnested, rfl, hback.trans (hearlier.symm.trans rfl)⟩

end SettingsStack

end SourceScan
