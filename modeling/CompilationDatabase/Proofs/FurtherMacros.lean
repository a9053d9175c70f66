import CompilationDatabase.Condition
import CompilationDatabase.Proofs.Computations
import CompilationDatabase.Proofs.Termination

/-!
# Further macros — what more entries of a table leave as it is

Names are put together while a text is expanded, so the text does not show which macros it needs. What
is looked up shows in the outcome, though: a name without a value is a fault of its own. So a table that
holds more macros, and those of another table with the values that they have there, expands a text in
the same way, unless the text needs one of the macros that came in.

* `NameTable.PartOf` relates the two tables, and `PartOf.mirrors` their expanders: what is found in the
  smaller table is found in the larger one, under the same pending names.
* `PartOf.expand_eq` says this of whole outcomes, faults included, and `PartOf.holds?_eq` of conditions.
-/

namespace CompilationDatabase

namespace NameTable

variable {m n : Matching} {macros : NameTable m} {larger : NameTable n} {location : Option Text}

/-- Every name of a table has its value in a larger table as well. -/
def PartOf (macros : NameTable m) (larger : NameTable n) : Prop :=
  ∀ name value, macros.get? name = some value → larger.get? name = some value

/-- Where names match in the same way, the entries of the smaller table are all there is to look at. -/
theorem partOf_of_entries {macros larger : NameTable m}
    (h : ∀ e ∈ macros.entries, larger.get? e.name = some e.value) : macros.PartOf larger := by
  intro name value hget
  obtain ⟨e, he, hkey, rfl⟩ := Entry.exists_of_find? hget
  rw [← h e he, get?, get?, hkey]

/-- A macro fails only as one that has no value. -/
theorem macroValue_eq_error {name : Text} {f : Fault} :
    macros.macroValue location name = .error f ↔
      macros.get? name = none ∧ f = .failed (.undefinedMacro name) location := by
  rw [macroValue]
  cases macros.get? name <;> simp [eq_comm]

/-- A larger table does what the smaller one does, but for the names that came in. -/
theorem PartOf.mirrors (h : macros.PartOf larger) :
    (macros.expander location).Mirrors (larger.expander location) Eq
      fun f => ∀ name, f = .failed (.undefinedMacro name) location → larger.get? name = none where
  marker := rfl
  location _ := rfl
  push _ hpq := hpq ▸ rfl
  accepted hpq hf := hpq ▸ hf
  refused hpq hf _ := hpq ▸ hf
  found hl := macroValue_eq_ok.mpr (h _ _ (macroValue_eq_ok.mp hl))
  missing hl hkept := by
    obtain ⟨-, rfl⟩ := macroValue_eq_error.mp hl
    exact macroValue_eq_error.mpr ⟨hkept _ rfl, rfl⟩

/-- A text has the same outcome with both tables, if it does not fail for a macro that came in. -/
theorem PartOf.expand_eq (h : macros.PartOf larger) {text : Text}
    (hmissing : ∀ name, macros.expand location text = .error (.failed (.undefinedMacro name) location) →
      larger.get? name = none) : larger.expand location text = macros.expand location text := by
  have hsmaller : (macros.expander location).Gives [] (.text text) (macros.expand location text) :=
    macros.gives_expand location (Nat.le_refl _) text
  have hlarger : (larger.expander location).Gives [] (.text text) (larger.expand location text) :=
    larger.gives_expand location (Nat.le_refl _) text
  refine hlarger.unique (hsmaller.mirrored h.mirrors ?_ rfl)
  rintro f hf name rfl
  exact hmissing name hf

/-- A text that has a value keeps it. -/
theorem PartOf.expand_of_ok (h : macros.PartOf larger) {text value : Text}
    (hvalue : macros.expand location text = .ok value) : larger.expand location text = .ok value := by
  rw [h.expand_eq, hvalue]
  intro name hfault
  rw [hvalue] at hfault
  exact nomatch hfault

/-! ## Conditions -/

theorem PartOf.side_eq (h : macros.PartOf larger) {text side : Text}
    (hside : Condition.side location macros text = .ok side) : Condition.side location larger text = .ok side := by
  obtain ⟨expanded, hexpand, hfold⟩ := ok_of_bind hside
  rw [Condition.side, h.expand_of_ok hexpand]
  exact hfold

/-- A condition that can be told keeps its truth value. -/
theorem PartOf.holds?_eq (h : macros.PartOf larger) {condition : Option Text} {holds : Bool}
    (hholds : Condition.holds? location macros condition = .ok holds) :
    Condition.holds? location larger condition = .ok holds := by
  cases condition with
  | none => exact hholds
  | some condition =>
      rw [Condition.holds?, Condition.holds] at hholds ⊢
      cases hbreak : Text.breakAt? Condition.equals condition with
      | none =>
          rw [hbreak] at hholds
          exact nomatch hholds
      | some sides =>
          -- the comparison is cut out of the raw text, so the sides are the same texts
          obtain ⟨left, right⟩ := sides
          simp only [hbreak] at hholds ⊢
          obtain ⟨l, hl, hholds⟩ := ok_of_bind hholds
          obtain ⟨r, hr, hholds⟩ := ok_of_bind hholds
          rw [h.side_eq hl, h.side_eq hr]
          exact hholds

/-- **Further macros change nothing that works.** If a table is part of a larger one, every text that
    can be expanded with it has the same value with the larger one, and every text that cannot fails
    with the same fault, unless it failed for want of a macro that the larger table has. So every
    condition that can be told has the same truth value. -/
theorem outcomes_kept (h : macros.PartOf larger) (location : Option Text) :
    (∀ text, (∀ name, macros.expand location text = .error (.failed (.undefinedMacro name) location) →
      larger.get? name = none) → larger.expand location text = macros.expand location text) ∧
    ∀ condition holds, Condition.holds? location macros condition = .ok holds →
      Condition.holds? location larger condition = .ok holds :=
  ⟨fun _ hmissing => h.expand_eq hmissing, fun _ _ hholds => h.holds?_eq hholds⟩

/-- Macros of which one is named by the values of the others, and one leads back to itself. -/
def fewMacros : NameTable .ignoringCase :=
  .ofList [⟨"Kind".toList, "Lib".toList⟩, ⟨"OutLib".toList, "x$(Out$(Loop))".toList⟩,
    ⟨"Loop".toList, "$(kind)".toList⟩]

/-- The same macros in another order, and further ones among them. -/
def moreMacros : NameTable .ignoringCase :=
  .ofList [⟨"OutLib".toList, "x$(Out$(Loop))".toList⟩, ⟨"Out".toList, "y".toList⟩,
    ⟨"KIND".toList, "Lib".toList⟩, ⟨"Loop".toList, "$(kind)".toList⟩]

/-- A reference back to a name that was put together stays one, and so does the truth of a condition;
    a macro that came in is no longer missing. -/
theorem outcomes_kept_fewMacros :
    fewMacros.PartOf moreMacros ∧
    fewMacros.expand none "$(Out$(Kind))".toList
      = .error (.failed (.circularReference ["outlib".toList, "outlib".toList]) none) ∧
    moreMacros.expand none "$(Out$(Kind))".toList = fewMacros.expand none "$(Out$(Kind))".toList ∧
    Condition.holds? none moreMacros (some "'$(Loop)'=='LIB'".toList) = .ok true ∧
    fewMacros.expand none "$(Out)".toList = .error (.failed (.undefinedMacro "Out".toList) none) ∧
    moreMacros.expand none "$(Out)".toList = .ok "y".toList := by
  have hpart : fewMacros.PartOf moreMacros := partOf_of_entries (by decide +kernel)
  have hcircular : fewMacros.expand none "$(Out$(Kind))".toList
      = .error (.failed (.circularReference ["outlib".toList, "outlib".toList]) none) := rfl
  refine ⟨hpart, hcircular, ?_, ?_, rfl, rfl⟩
  · refine (outcomes_kept hpart none).1 _ fun name hfault => ?_
    rw [hcircular] at hfault
    exact nomatch hfault
  · exact (outcomes_kept hpart none).2 _ _ rfl

end NameTable

end CompilationDatabase
