import Tunables.Settings.Dotenv

/-!
# Variables without references

A value in a file of variables that refers to no other variable is taken as it is.  What
such a variable says depends on its own lines only, and not on the environment.
-/

namespace Tunables

/-- Setting a key shows among the entries with certain keys only if it is one of them. -/
theorem Entries.filter_set {α : Type} (p : Text → Bool) (key : Text) (value : α)
    (entries : List (Text × α)) :
    (Entries.set key value entries).filter (fun entry => p entry.1) =
      if p key then Entries.set key value (entries.filter fun entry => p entry.1)
      else entries.filter fun entry => p entry.1 := by
  induction entries with
  | nil => cases wanted : p key <;> simp [Entries.set, wanted]
  | cons entry rest ih =>
      by_cases same : entry.1 = key
      · cases wanted : p key <;> simp [Entries.set, same, wanted]
      · cases wanted : p key <;> cases kept : p entry.1 <;>
          simp [Entries.set, same, kept, ih, wanted]

namespace Dotenv

/-- The lines of a file of variables. -/
def bindings (text : String) : List Binding :=
  let characters := Text.unifyLineEnds text.toList
  takeBindings (characters.length + 1) characters

theorem entries_eq_resolveAll (environment : List (Text × Text)) (text : String) :
    entries environment text = resolveAll environment [] (bindings text) := rfl

/-- Whether a line is about a variable of certain names. -/
def Binding.isAbout (p : Text → Bool) : Binding → Bool
  | .assigned name _ => p name
  | .bare name => p name
  | .skipped => false

/-- No reference to a variable starts in a value. -/
def IsPlain (value : String) : Prop :=
  ¬ ['$', '\x7b'] <:+: value.toList

theorem resolve_of_no_reference (value? : String → Option Text) (fuel : Nat) {text : List Char}
    (plain : ¬ ['$', '\x7b'] <:+: text) : resolve value? fuel text = text.map .char := by
  fun_induction resolve value? fuel text with
  | case1 => rfl
  | case2 => rfl
  | case3 => exact absurd (List.prefix_append ['$', '\x7b'] _).isInfix plain
  | case4 => exact absurd (List.prefix_append ['$', '\x7b'] _).isInfix plain
  | case5 fuel c rest _ ih =>
      rw [ih fun later => plain (later.trans (List.suffix_cons c rest).isInfix), List.map_cons]

/-- What variables without references say depends on their own lines only. -/
theorem filter_resolveAll (p : Text → Bool) (environment : List (Text × Text))
    (above : List (Text × Option Text)) {lines : List Binding}
    (plain : ∀ name value : String, .assigned name value ∈ lines → p name = true →
      IsPlain value) :
    (resolveAll environment above lines).filter (fun entry => p entry.1) =
      resolveAll [] (above.filter fun entry => p entry.1) (lines.filter (·.isAbout p)) := by
  induction lines generalizing above with
  | nil => rfl
  | cons line rest ih =>
      have plainRest : ∀ name value : String, .assigned name value ∈ rest → p name = true →
          IsPlain value :=
        fun name value member => plain name value (List.mem_cons_of_mem _ member)
      cases line with
      | skipped =>
          rw [resolveAll, ih above plainRest]
          rfl
      | bare name =>
          rw [resolveAll, ih _ plainRest, Entries.filter_set]
          cases wanted : p name <;> simp [Binding.isAbout, wanted, resolveAll]
      | assigned name value =>
          rw [resolveAll, ih _ plainRest, Entries.filter_set]
          cases wanted : p name with
          | false => simp [Binding.isAbout, wanted]
          | true =>
              have noReference := plain name value List.mem_cons_self wanted
              simp [Binding.isAbout, wanted, resolveAll, resolve_of_no_reference _ _ noReference]

end Dotenv
end Tunables
