import CompilationDatabase.Proofs.Splices

/-!
# Whole markers — texts that are expanded completely

An expansion may leave a marker in a value: one literal may end with the first character of it, and the
next one start with the rest. If every such character in a text starts a marker of that text, no
literal of it holds the character at all (`WholeIn.head_not_mem`), so nothing is left to be put
together. `expand_complete` is this for macros: what comes out of whole markers holds no `$`, and is
expanded to itself from then on.
-/

namespace CompilationDatabase

/-- Every first character of a marker in a text starts a marker. -/
def Marker.WholeIn (m : Marker) (t : Text) : Prop :=
  ∀ rest, m.head :: rest <:+ t → m.tail <+: rest

/-- The places to look at are the tails of the text. -/
theorem Marker.wholeIn_iff {m : Marker} {t : Text} :
    m.WholeIn t ↔ ∀ s ∈ t.tails, s.head? = some m.head → m.tail <+: s.tail := by
  constructor
  · intro h s hs hhead
    obtain ⟨rest, rfl⟩ := List.head?_eq_some_iff.mp hhead
    exact h rest ((List.mem_tails _ _).mp hs)
  · intro h rest hrest
    exact h _ ((List.mem_tails _ _).mpr hrest) rfl

instance (m : Marker) (t : Text) : Decidable (m.WholeIn t) :=
  decidable_of_iff _ Marker.wholeIn_iff.symm

namespace Marker.WholeIn

variable {m : Marker} {l s t : Text}

/-- What stands at the end of a text with whole markers has whole markers. -/
theorem of_suffix (h : m.WholeIn t) (hs : s <:+ t) : m.WholeIn s := by
  intro rest hrest
  exact h rest (hrest.trans hs)

/-- In front of a marker, or of the end of the text, there is no first character of a marker, if all of
    them start one and the marker does not occur there. -/
theorem head_not_mem_literal (hm : m.Apart) (hl : ¬ m.text <:+: l) {u : Option Text}
    (h : m.WholeIn (l ++ m.after u)) : m.head ∉ l := by
  intro hmem
  obtain ⟨before, rest, rfl⟩ := List.append_of_mem hmem
  have hrest : ¬ m.text <+: m.head :: rest := by
    intro hp
    exact hl (hp.isInfix.trans (List.suffix_append before _).isInfix)
  -- the marker that starts here would end in what follows
  have hstarts : m.text <+: m.head :: (rest ++ m.after u) := by
    refine List.cons_prefix_cons.mpr ⟨rfl, h _ ?_⟩
    rw [List.append_assoc]
    exact List.suffix_append before _
  cases u with
  | none => exact hrest (by simpa [after] using hstarts)
  | some u => exact not_prefix_append hm.head hrest hstarts

/-- The literals of a text with whole markers do not hold the first character of one. -/
theorem head_not_mem (hm : m.Apart) (h : m.WholeIn t) (hl : l ∈ m.literals t) : m.head ∉ l := by
  obtain ⟨⟨ps, last, tail⟩, rfl⟩ := exists_decomposition (m := m) t
  rw [Decomposition.literals_text hm] at hl
  change m.WholeIn (Decomposition.textOf m ps last tail) at h
  induction ps with
  | nil =>
      obtain rfl := List.mem_singleton.mp hl
      exact h.head_not_mem_literal hm last.2
  | cons p ps ih =>
      rcases List.mem_cons.mp hl with rfl | hl
      · exact h.head_not_mem_literal hm p.literal.2
      · exact ih hl (h.of_suffix (Decomposition.textOf_suffix_cons p ps last tail))

end Marker.WholeIn

/-- If markers are whole in a text and in all values that are looked up, the value of the text does not
    hold the first character of one. -/
theorem Expander.head_not_mem_of_wholeIn {e : Expander} (hm : e.marker.Apart) {t v : Text}
    (ht : e.marker.WholeIn t) (hvalues : ∀ n s, e.lookup n = .ok s → e.marker.WholeIn s)
    (h : e.Gives [] (.text t) (.ok v)) : e.marker.head ∉ v := by
  have hreached : ∀ p s, e.Reaches t p s → e.marker.WholeIn s := by
    intro p s hs
    cases hs with
    | root => exact ht
    | value _ _ _ hl => exact hvalues _ _ hl
  obtain ⟨ls, rfl, hliterals⟩ := exists_literals h
  intro hmem
  obtain ⟨l, hl, hhead⟩ := List.mem_flatten.mp hmem
  obtain ⟨p, s, hs, hl⟩ := hliterals l hl
  exact (hreached p s hs).head_not_mem hm hl hhead

namespace NameTable

/-- A text without a `$` is expanded to itself. -/
theorem expand_of_not_mem {m : Matching} (macros : NameTable m) (location : Option Text) {v : Text}
    (h : '$' ∉ v) : macros.expand location v = .ok v := by
  refine expandWithin_plain location (macros.macroValue location) macros.size [] ?_
  intro hin
  exact h (hin.subset (List.mem_cons_self : Marker.macros.head ∈ Marker.macros.text))

/-- **Whole markers are expanded completely.** If in a text and in all values of a table each `$`
    starts a marker, the value of the text holds no `$`, and any table whatsoever expands it to
    itself. -/
theorem expand_complete {m : Matching} {macros : NameTable m} {location : Option Text}
    {text value : Text} (htext : Marker.macros.WholeIn text)
    (hvalues : ∀ e ∈ macros.entries, Marker.macros.WholeIn e.value)
    (h : macros.expand location text = .ok value) :
    '$' ∉ value ∧ ∀ {m' : Matching} (other : NameTable m') (place : Option Text),
      other.expand place value = .ok value := by
  have hgives : (macros.expander location).Gives [] (.text text) (macros.expand location text) :=
    macros.gives_expand location (Nat.le_refl _) text
  rw [h] at hgives
  have hlookups : ∀ n s, macros.macroValue location n = .ok s → Marker.macros.WholeIn s := by
    intro n s hs
    obtain ⟨e, he, -, rfl⟩ := Entry.exists_of_find? (macroValue_eq_ok.mp hs)
    exact hvalues e he
  have hvalue : '$' ∉ value :=
    Expander.head_not_mem_of_wholeIn Marker.macros_apart htext hlookups hgives
  exact ⟨hvalue, fun other place => other.expand_of_not_mem place hvalue⟩

/-- Macros of which one is found under a name that another one is put into, and values that end with a
    token. -/
def wholeMacros : NameTable .ignoringCase :=
  .ofList [⟨"Kind".toList, "(b)".toList⟩, ⟨"Out(b)".toList, "x)$(Last$(Name))".toList⟩,
    ⟨"Name".toList, "s".toList⟩, ⟨"Lasts".toList, "($(Name)".toList⟩]

/-- The closings and openings in the values make no new token of what stands around them. -/
theorem expand_complete_wholeMacros :
    Marker.macros.WholeIn "($(Out$(kind)))".toList ∧
    (∀ e ∈ wholeMacros.entries, Marker.macros.WholeIn e.value) ∧
    wholeMacros.expand none "($(Out$(kind)))".toList = .ok "(x)(s)".toList ∧
    '$' ∉ "(x)(s)".toList ∧ wholeMacros.expand none "(x)(s)".toList = .ok "(x)(s)".toList := by
  have htext : Marker.macros.WholeIn "($(Out$(kind)))".toList := by decide
  have hvalues : ∀ e ∈ wholeMacros.entries, Marker.macros.WholeIn e.value := by decide
  have h : wholeMacros.expand none "($(Out$(kind)))".toList = .ok "(x)(s)".toList := rfl
  obtain ⟨hvalue, hothers⟩ := expand_complete htext hvalues h
  exact ⟨htext, hvalues, h, hvalue, hothers wholeMacros none⟩

end NameTable

end CompilationDatabase
