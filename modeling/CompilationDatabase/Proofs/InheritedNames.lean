import CompilationDatabase.Proofs.CaseLetters
import CompilationDatabase.Proofs.Inheritance
import CompilationDatabase.Xml.Name

/-!
# Inherited names — which references stand for the value before

A value of a property `P` inherits through a reference `%(N)` if `N` is another spelling of `P`. For the
tables of properties, and where metadata is expanded, two names are the same if they are equal in lower
case. References are searched for letter by letter, so there the two have to agree (`Text.agrees`).

`Item.inherit_reference` follows one reference through the search: none can begin before it and end
inside it, for a name has neither a percent sign nor a closing bracket in it (`keepsWhole_of_elementName`).
What it takes for two names to agree is said by their letters, see `Text.agrees_iff_letters`.
-/

namespace CompilationDatabase

open CompilationDatabase.Text

/-! ## Names of elements -/

/-- Whether a text is read as the name of an element, without one of a namespace in front. -/
def Xml.IsElementName (t : Text) : Prop := ∃ signs, Xml.label? signs t = some (t, [])

theorem Xml.IsElementName.continuesLabel {t : Text} (h : IsElementName t) :
    ∃ signs, ∀ c ∈ t, Xml.continuesLabel signs c = true := by
  obtain ⟨signs, h⟩ := h
  refine ⟨signs, ?_⟩
  cases t with
  | nil => exact nomatch h
  | cons c t =>
      rw [label?] at h
      split at h
      · next hstart =>
        have hlabel : t.takeWhile (Xml.continuesLabel signs) = t :=
          (List.cons.inj (Prod.mk.inj (Option.some.inj h)).1).2
        refine List.forall_mem_cons.mpr ⟨?_, List.takeWhile_eq_self_iff.mp hlabel⟩
        rw [Xml.continuesLabel, hstart]
        rfl
      · exact nomatch h

/-- The ASCII letters that are the case partner of another character. -/
def Text.partnerStrays : Text := ['i', 'k', 's']

theorem Text.apply_partnerRows {c : Char} (h : 128 ≤ c.toNat) :
    128 ≤ (CaseRange.apply partnerRows c).toNat ∨ CaseRange.apply partnerRows c ∈ partnerStrays :=
  CaseRange.apply_far_or_mem (by decide +kernel) h

/-- The signs around a name do not agree with characters of names. -/
theorem Text.partner_ne_of_continuesLabel {signs : Bool} {c sign : Char}
    (hsign : sign = '%' ∨ sign = ')') (h : Xml.continuesLabel signs c = true) :
    partner c ≠ partner sign := by
  have hsame : partner sign = sign := by
    rcases hsign with rfl | rfl <;> decide
  rw [hsame]
  by_cases hc : c.toNat < 128
  · rw [partner, if_pos hc]
    intro hlower
    rcases hsign with rfl | rfl
    · obtain rfl := eq_of_toLower_eq hlower rfl
      exact absurd h (by revert signs; decide)
    · obtain rfl := eq_of_toLower_eq hlower rfl
      exact absurd h (by revert signs; decide)
  · rw [partner, if_neg hc]
    rintro hpartner
    rcases apply_partnerRows (Nat.le_of_not_lt hc) with hfar | hstray
    · rw [hpartner] at hfar
      rcases hsign with rfl | rfl <;> exact absurd hfar (by decide)
    · rw [hpartner] at hstray
      rcases hsign with rfl | rfl <;> exact absurd hstray (by decide)

theorem keepsWhole_of_elementName {name : Text} (h : Xml.IsElementName name) {sign : Char}
    (hsign : sign = '%' ∨ sign = ')') : KeepsWhole sign name := by
  obtain ⟨signs, hlabel⟩ := h.continuesLabel
  exact fun c hc => partner_ne_of_continuesLabel hsign (hlabel c hc)

/-! ## One reference -/

namespace Text

/-- A word up to a closing bracket stands at the start of a text up to one if the two agree. -/
theorem afterWord?_closed {word name : Text} (hword : KeepsWhole ')' word)
    (hname : KeepsWhole ')' name) (after : Text) :
    afterWord? (word ++ [')']) (name ++ ')' :: after)
      = if name.agrees word then some after else none := by
  induction word generalizing name with
  | nil =>
      cases name with
      | nil => rfl
      | cons n name => exact if_neg (hname n List.mem_cons_self).symm
  | cons w word ih =>
      obtain ⟨hw, hword⟩ := List.forall_mem_cons.mp hword
      cases name with
      | nil => exact if_neg hw
      | cons n name =>
          obtain ⟨-, hname⟩ := List.forall_mem_cons.mp hname
          have hagrees : agrees (n :: name) (w :: word)
              = (partner n == partner w && agrees name word) := rfl
          rw [List.cons_append, List.cons_append, afterWord?, ih hword hname, hagrees]
          by_cases hn : partner w = partner n
          · rw [if_pos hn, hn, beq_self_eq_true, Bool.true_and]
          · rw [if_neg hn, beq_false_of_ne (Ne.symm hn)]
            rfl

/-- Where no character agrees with the first one of a word, none is replaced. -/
theorem replaceWord_skip {head : Char} {a : Text} (h : KeepsWhole head a) (tail new b : Text) :
    replaceWord head tail new (a ++ b) = a ++ replaceWord head tail new b := by
  induction a with
  | nil => rfl
  | cons c a ih =>
      obtain ⟨hc, ha⟩ := List.forall_mem_cons.mp h
      have hnone : afterWord? (head :: tail) (c :: (a ++ b)) = none := if_neg hc.symm
      have hrest : replaceWordAfter head tail new 0 (a ++ b) = a ++ replaceWord head tail new b :=
        ih ha
      rw [List.cons_append, replaceWord, replaceWordAfter, hnone]
      dsimp only
      rw [hrest, List.cons_append]

end Text

namespace Item

/-- A name in brackets, as it is referred to. -/
def bracketed (name : Text) : Text := '(' :: name ++ [')']

/-- A reference to a property or to metadata, by its name. -/
def reference (name : Text) : Text := '%' :: bracketed name

theorem keepsWhole_bracketed {name : Text} (h : Xml.IsElementName name) :
    KeepsWhole '%' (bracketed name) := by
  intro c hc
  simp only [bracketed, List.cons_append, List.mem_cons, List.mem_append, List.not_mem_nil,
    or_false] at hc
  rcases hc with rfl | hc | rfl
  · decide
  · exact keepsWhole_of_elementName h (Or.inl rfl) c hc
  · decide

/-- A reference in a value is replaced by the value before if its name agrees with that of the
    property, and stays else. -/
theorem inherit_reference {property name : Text} (hproperty : Xml.IsElementName property)
    (hname : Xml.IsElementName name) (inherited before after : Text) :
    inherit property inherited (before ++ (reference name ++ after))
      = inherit property inherited before ++
        ((if name.agrees property then inherited else reference name)
          ++ inherit property inherited after) := by
  have hfound : afterWord? ('%' :: bracketed property) (reference name ++ after)
      = if name.agrees property then some after else none := by
    rw [← afterWord?_closed (keepsWhole_of_elementName hproperty (Or.inr rfl))
      (keepsWhole_of_elementName hname (Or.inr rfl)) after]
    simp [reference, bracketed, afterWord?]
  have hreference : replaceWord '%' (bracketed property) inherited (reference name ++ after)
      = (if name.agrees property then inherited else reference name)
        ++ inherit property inherited after := by
    have hrest : reference name ++ after = '%' :: (bracketed name ++ after) := rfl
    rw [hrest] at hfound ⊢
    rw [replaceWord, replaceWordAfter, hfound]
    by_cases hagrees : name.agrees property = true
    · have hlength : (bracketed property).length = (bracketed name).length := by
        have hmap := congrArg List.length (agrees_iff.mp hagrees)
        simpa [bracketed] using hmap.symm
      rw [if_pos hagrees, if_pos hagrees]
      dsimp only
      rw [hlength, replaceWordAfter_length]
      rfl
    · rw [if_neg hagrees, if_neg hagrees]
      exact congrArg (List.cons '%') (replaceWord_skip (keepsWhole_bracketed hname) _ inherited after)
  rw [← hreference]
  exact replaceWordAfter_append (keepsWhole_bracketed hproperty) inherited _ (Nat.zero_le _)

/-- **A reference inherits if its letters are those of the property.** In a value of a property, whatever
    stands around it, a reference to a name is replaced by the value before exactly if the name agrees
    with that of the property, that is if the two have the same letters: the same lower case up to the
    form of letters, with the dotted capital i for an `i`. A table of properties takes the two for the
    same name, and a reference that is expanded as metadata stands for the property itself, exactly if
    they are equal in lower case. This is the same for names without a dotted capital i whose lower case
    has all letters in the usual form; and without a dotted capital i, a reference to the same name of a
    table always inherits. -/
theorem inherits_agreeing_names {property name : Text} (hproperty : Xml.IsElementName property)
    (hname : Xml.IsElementName name) :
    (∀ inherited before after, inherit property inherited (before ++ (reference name ++ after))
      = inherit property inherited before ++
        ((if name.agrees property then inherited else reference name)
          ++ inherit property inherited after)) ∧
    (name.agrees property = true ↔ name.map letter = property.map letter) ∧
    (∀ value, ((NameTable.empty : NameTable .ignoringCase).insert property value).contains name = true
      ↔ name.lower = property.lower) ∧
    (∀ (times : FileTimes (Except Fault)) (o : Origin) (location : Option Text),
      o.valueWithin times location property name
        = if name.lower = property.lower then .ok [] else o.valueOf times location name) ∧
    (name.IsUsual → property.IsUsual →
      (name.agrees property = true ↔ name.lower = property.lower)) ∧
    (dottedI ∉ name → dottedI ∉ property → name.lower = property.lower →
      name.agrees property = true) := by
  have hnonempty : property ≠ [] := by
    rintro rfl
    obtain ⟨signs, hlabel⟩ := hproperty
    exact nomatch hlabel
  refine ⟨inherit_reference hproperty hname, agrees_iff_letters, fun value => ?_,
    fun times o location => ?_, agrees_iff_lower_eq, agrees_of_lower_eq⟩
  · have hkey (t : Text) : Matching.ignoringCase.key t = t.lower := rfl
    rw [NameTable.contains, NameTable.get?_insert, hkey, hkey]
    by_cases hlower : property.lower = name.lower
    · rw [if_pos hlower]
      exact ⟨fun _ => hlower.symm, fun _ => rfl⟩
    · have hnone : (NameTable.empty : NameTable .ignoringCase).get? name = none := rfl
      rw [if_neg hlower, hnone]
      exact ⟨nofun, fun h => absurd h.symm hlower⟩
  · rw [Origin.valueWithin]
    simp only [hnonempty, ne_eq, not_false_eq_true, true_and]
    rfl

/-- A property is inherited through its name in capital letters, in front of another reference. -/
theorem inherits_agreeing_names_capitals :
    inherit "Includes".toList ['a'] "b;%(INCLUDES)%(Include)".toList
        = "b;a%(Include)".toList ∧
      ((NameTable.empty : NameTable .ignoringCase).insert "Includes".toList ['a']).contains
        "INCLUDES".toList = true := by
  have hproperty : Xml.IsElementName "Includes".toList := ⟨false, by decide⟩
  have hname : Xml.IsElementName "INCLUDES".toList := ⟨false, by decide⟩
  obtain ⟨hinherit, -, htable, -, husual, -⟩ := inherits_agreeing_names hproperty hname
  have hlower : Text.lower "INCLUDES".toList = Text.lower "Includes".toList := by decide
  have hagrees := (husual ⟨by decide, by decide +kernel⟩ ⟨by decide, by decide +kernel⟩).mpr hlower
  have hvalue := hinherit ['a'] "b;".toList "%(Include)".toList
  rw [if_pos hagrees] at hvalue
  exact ⟨hvalue.trans (by decide +kernel), (htable ['a']).mpr hlower⟩

/-- The dotless i agrees with an `i` and is another name in a table; the dotted capital i is the same
    name in a table as an `i` with a dot above and does not agree with it. -/
theorem inherit_otherForms :
    (inherit ['ı'] ['a'] "b;%(i)".toList = "b;a".toList ∧
      ((NameTable.empty : NameTable .ignoringCase).insert ['ı'] ['a']).contains ['i'] = false) ∧
    inherit ['i', Char.ofNat 0x307] ['a'] (reference [dottedI]) = reference [dottedI] ∧
      ((NameTable.empty : NameTable .ignoringCase).insert ['i', Char.ofNat 0x307] ['a']).contains
        [dottedI] = true := by
  decide +kernel

end Item

end CompilationDatabase
