import CompilationDatabase.Project.Basic
import CompilationDatabase.Proofs.Balanced
import CompilationDatabase.Proofs.Computations
import CompilationDatabase.Proofs.Cycle

/-!
# Resolution — macros expanded once, or at every use

`NameTable.resolved` expands every value of a table once, with no name pending. A text may then be
expanded with either table. Expansion with the first enters the values again at every use, under the
names that are pending there; expansion with the second finds them finished.

`get?_resolved` relates the two tables name by name. Both expansions replace a name by its finished
value (`gives_finished`, `gives_of_resolved`), and a result is found in one way only. The tables agree
at every location, since a value that is found at one is found at all of them
(`expand_ok_of_location`).
-/

namespace CompilationDatabase

/-- A text without the marker is its own result. -/
theorem Expander.gives_plain {e : Expander} {p : List Text} {t : Text}
    (h : ¬ e.marker.text <:+: t) : e.Gives p (.text t) (.ok t) := by
  obtain ⟨htemplate, hunclosed⟩ := Reading.ofText_plain h
  have hchars : ∀ l : Text, e.Gives p (.template (Template.ofText l)) (.ok l) := by
    intro l
    induction l with
    | nil => exact .done
    | cons c cs ih => exact .char ih
  have ht : e.Gives p (.template (e.reading t).template) (.ok t) := htemplate ▸ hchars t
  exact ht.text_of_closed hunclosed

namespace NameTable

variable {macros resolved : NameTable .ignoringCase} {location : Option Text}

/-- One entry of a table with its value expanded. -/
def Finished (macros : NameTable .ignoringCase) (location : Option Text) (e e' : Entry) : Prop :=
  e'.name = e.name ∧ macros.expand location e.value = .ok e'.value

/-- A resolved table is made of the entries of the table, finished one by one. -/
theorem forall₂_of_resolved (h : macros.resolved location = .ok resolved) :
    ∃ entries, List.Forall₂ (macros.Finished location) macros.entries entries ∧
      resolved = .ofList entries := by
  cases hmap : macros.entries.mapM (fun e => do return { e with value := ← macros.expand location e.value }) with
  | error f =>
      rw [NameTable.resolved, hmap] at h
      exact nomatch h
  | ok entries =>
      rw [NameTable.resolved, hmap] at h
      refine ⟨entries, (forall₂_of_mapM_eq_ok hmap).imp ?_, (Except.ok.inj h).symm⟩
      intro e e' he
      cases hv : macros.expand location e.value with
      | error f => rw [hv] at he; exact nomatch he
      | ok v =>
          rw [hv] at he
          obtain rfl := Except.ok.inj he
          exact ⟨rfl, hv⟩

/-- Finished entries are found under the same keys. -/
theorem rel_find?_of_finished {es es' : List Entry} (h : List.Forall₂ (macros.Finished location) es es')
    (key : Text) :
    Option.Rel (fun v r => macros.expand location v = .ok r)
      (Entry.find? .ignoringCase key es) (Entry.find? .ignoringCase key es') := by
  induction h with
  | nil => exact .none
  | @cons e e' es es' he _ ih =>
      rw [Entry.find?, Entry.find?, he.1]
      by_cases hkey : Matching.ignoringCase.key e.name = key
      · rw [if_pos hkey, if_pos hkey]
        exact .some he.2
      · rw [if_neg hkey, if_neg hkey]
        exact ih

/-- Finished entries have the same keys. -/
theorem keys_of_finished {es es' : List Entry} (h : List.Forall₂ (macros.Finished location) es es') :
    es.map (Matching.ignoringCase.key ·.name) = es'.map (Matching.ignoringCase.key ·.name) := by
  induction h with
  | nil => rfl
  | cons he _ ih => rw [List.map_cons, List.map_cons, he.1, ih]

/-- A resolved table holds the same names, each with its value expanded. -/
theorem get?_resolved (h : macros.resolved location = .ok resolved) (name : Text) :
    Option.Rel (fun v r => macros.expand location v = .ok r) (macros.get? name) (resolved.get? name) := by
  obtain ⟨entries, hfinished, rfl⟩ := forall₂_of_resolved h
  have hnodup : (entries.map (Matching.ignoringCase.key ·.name)).Nodup :=
    keys_of_finished hfinished ▸ macros.keys_nodup
  rw [ofList, get?_insertAll hnodup, get?_empty, Option.or_none]
  exact rel_find?_of_finished hfinished _

/-- A value that a text has at one location it has at every other one. -/
theorem expand_ok_of_location {m : Matching} {macros : NameTable m} {other : Option Text}
    {text value : Text} (h : macros.expand location text = .ok value) :
    macros.expand other text = .ok value := by
  have hgives : (macros.expander location).Gives [] (.text text) (.ok value) :=
    h ▸ macros.gives_expand location (Nat.le_refl _) text
  have hother : (macros.expander other).Gives [] (.text text) (.ok value) :=
    hgives.relocated fun hl => macroValue_eq_ok.mpr (macroValue_eq_ok.mp hl)
  exact (macros.gives_expand other (Nat.le_refl _) text).unique hother

/-- A name that is met first in a text is replaced by its value, if there is no marker in it. -/
theorem gives_finished (hplain : ∀ e ∈ resolved.entries, ¬ Marker.macros.text <:+: e.value)
    (name : Text) :
    (resolved.expander location).Gives [] (.request name) (resolved.macroValue location name) := by
  have hrefuse : circularFault location [] name = none :=
    circularFault_eq_none.mpr List.not_mem_nil
  cases hl : resolved.macroValue location name with
  | error f => exact .missing hrefuse hl
  | ok v =>
      obtain ⟨e, he, -, rfl⟩ := Entry.exists_of_find? (macroValue_eq_ok.mp hl)
      exact .value hrefuse hl (Expander.gives_plain (hplain e he))

/-- Without the check a name is replaced by its finished value, wherever that was finished. -/
theorem gives_of_resolved (h : macros.resolved location = .ok resolved) (other : Option Text)
    (name : Text) :
    (macros.expander other).unchecked.Gives [] (.request name)
      (resolved.macroValue other name) := by
  have hrel := get?_resolved h name
  cases hv : macros.get? name with
  | none =>
      rw [hv] at hrel
      cases hr : resolved.get? name with
      | some r => rw [hr] at hrel; cases hrel
      | none =>
          rw [macroValue, hr]
          refine .missing rfl ?_
          show macros.macroValue other name = _
          rw [macroValue, hv]
  | some v =>
      rw [hv] at hrel
      cases hr : resolved.get? name with
      | none => rw [hr] at hrel; cases hrel
      | some r =>
          rw [hr] at hrel
          cases hrel with
          | some hexpand =>
              -- the value was expanded with nothing pending; without the check that is all the same
              have hgives : (macros.expander other).Gives [] (.text v) (macros.expand other v) :=
                macros.gives_expand other (Nat.le_refl _) v
              rw [expand_ok_of_location hexpand] at hgives
              rw [macroValue, hr]
              exact .value rfl (macroValue_eq_ok.mpr hv) (hgives.unchecked_of_ok _)

/-- A text has one result with a table and with the table resolved. -/
theorem expand_eq_of_resolved (h : macros.resolved location = .ok resolved)
    (hplain : ∀ e ∈ resolved.entries, ¬ Marker.macros.text <:+: e.value) (other : Option Text)
    (text : Text) : macros.expand other text = resolved.expand other text := by
  have hlazy : macros.expand other text
      = (Reading.ofText .macros text).fill .macros other (resolved.macroValue other) :=
    expand_of_gives (Expander.gives_reading_fill (gives_of_resolved h other) text)
  have heager : resolved.expand other text
      = (Reading.ofText .macros text).fill .macros other (resolved.macroValue other) :=
    (resolved.gives_expand other (Nat.le_refl _) text).unique
      (Expander.gives_reading_fill (gives_finished hplain) text)
  rw [hlazy, heager]

end NameTable

namespace Project

/-- **Resolving the macros of a project changes no expansion.** If all macros of a project can be
    expanded and no marker is left in their values, every text at every location has the same value,
    or fails with the same fault, with the macros as they were written and with the macros
    expanded. -/
theorem expand_resolvedMacros {p : Project} {resolved : NameTable .ignoringCase}
    (h : p.resolvedMacros = .ok resolved)
    (hplain : ∀ e ∈ resolved.entries, ¬ Marker.macros.text <:+: e.value) (location : Option Text)
    (text : Text) : p.macros.expand location text = resolved.expand location text :=
  NameTable.expand_eq_of_resolved h hplain location text

/-- A project with three macros: the value of `A` uses `B`, and so does that of `C`, in a name. -/
def nested : Project where
  name := []
  path := ⟨['/'], []⟩
  macros := .ofList [⟨['A'], ['$', '(', 'b', ')', 'x']⟩, ⟨['B'], ['a']⟩,
    ⟨['C'], ['$', '(', '$', '(', 'B', ')', ')']⟩]
  items := []
  store := {}

/-- The macros of the project, resolved. -/
def nestedResolved : NameTable .ignoringCase :=
  .ofList [⟨['A'], ['a', 'x']⟩, ⟨['B'], ['a']⟩, ⟨['C'], ['a', 'x']⟩]

/-- Both tables expand `$(c)$($(b))$(D` alike, up to the token that is never closed. -/
theorem expand_nested :
    nested.resolvedMacros = .ok nestedResolved ∧
    (∀ e ∈ nestedResolved.entries, ¬ Marker.macros.text <:+: e.value) ∧
    nested.macros.expand none
        ['$', '(', 'c', ')', '$', '(', '$', '(', 'b', ')', ')', '$', '(', 'D']
      = nestedResolved.expand none
          ['$', '(', 'c', ')', '$', '(', '$', '(', 'b', ')', ')', '$', '(', 'D'] := by
  have h : nested.resolvedMacros = .ok nestedResolved := rfl
  have hplain : ∀ e ∈ nestedResolved.entries, ¬ Marker.macros.text <:+: e.value := by decide
  exact ⟨h, hplain, expand_resolvedMacros h hplain _ _⟩

end Project

end CompilationDatabase
