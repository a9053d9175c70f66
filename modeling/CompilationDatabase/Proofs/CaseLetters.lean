import CompilationDatabase.Proofs.ExternalOptions
import CompilationDatabase.Proofs.LowerCase

/-!
# Case letters — lower case against case partners

Two texts can be the same but for letter case in two ways: they are equal in lower case, or they agree
letter by letter (`Text.agrees`). `letter` stands between the two. It is the lower case of a character, in
the usual form of that letter: some letters of lower case have a second form, such as the final sigma or
the dotless i, which only agreement takes for the same. The dotted capital i, which becomes two characters
in lower case, counts as an `i`.

* Texts agree exactly if their letters are the same (`agrees_iff_letters`).
* The letters of a text without a dotted capital i are its lower case, in usual forms
  (`map_usualForm_lower`).

The first is a fact of two tables, and is checked by going through the runs of each (`keepsForm`,
`tablesAgree`). A run is searched for in the few runs around it, which takes tables that are sorted
(`find?_near`).
-/

namespace CompilationDatabase.Text

namespace CaseRange

/-! ## Runs -/

/-- The codes of the characters of a run. -/
def codes (r : CaseRange) : List Nat :=
  (List.range ((r.last - r.first) / r.step + 1)).map (r.first + r.step * ·)

theorem mem_codes {r : CaseRange} {code : Nat} (h : r.holds code = true) : code ∈ r.codes := by
  simp only [holds, Bool.and_eq_true, decide_eq_true_eq, beq_iff_eq] at h
  obtain ⟨⟨hfirst, hlast⟩, hstep⟩ := h
  refine List.mem_map.mpr ⟨(code - r.first) / r.step, List.mem_range.mpr ?_, ?_⟩
  · exact Nat.lt_succ_of_le (Nat.div_le_div_right (Nat.sub_le_sub_right hlast r.first))
  · rw [Nat.mul_div_cancel' (Nat.dvd_of_mod_eq_zero hstep), Nat.add_sub_cancel' hfirst]

/-- The code of the image of a character by the first run that holds it. -/
def move (rows : List CaseRange) (code : Nat) : Nat :=
  match rows.find? (·.holds code) with
  | some r => r.target + (code - r.first)
  | none => code

theorem toNat_apply {rows : List CaseRange} (hrows : rows.all isValid) (c : Char) :
    (apply rows c).toNat = move rows c.toNat := by
  rw [apply, move]
  cases hfind : rows.find? (·.holds c.toNat) with
  | none => rfl
  | some r =>
      have hholds := List.find?_some hfind
      exact toNat_image (List.all_eq_true.mp hrows r (List.mem_of_find?_eq_some hfind))
        (Nat.sub_le_sub_right (bounds_of_holds hholds).2 r.first)

/-- Whether runs come in the order of their first characters. -/
def AreSorted (rows : List CaseRange) : Prop := (rows.map (·.first)).IsChain (· ≤ ·)

/-- The part of sorted runs that may hold codes between two bounds. -/
def near (rows : List CaseRange) (first last : Nat) : List CaseRange :=
  (rows.dropWhile fun r => r.last.blt first).takeWhile fun r => r.first.ble last

theorem find?_near {rows : List CaseRange} (hrows : AreSorted rows) {first last code : Nat}
    (hfirst : first ≤ code) (hlast : code ≤ last) :
    (near rows first last).find? (·.holds code) = rows.find? (·.holds code) := by
  let isBefore : CaseRange → Bool := fun r => r.last.blt first
  let isWithin : CaseRange → Bool := fun r => r.first.ble last
  have hbefore : (rows.takeWhile isBefore).find? (·.holds code) = none := by
    refine List.find?_eq_none.mpr fun r hr hholds => ?_
    have hbefore : isBefore r = true := List.mem_takeWhile_imp hr
    have hend : r.last < first := Nat.blt_eq.mp hbefore
    have hin : code ≤ r.last := (bounds_of_holds hholds).2
    omega
  have hafter : ((rows.dropWhile isBefore).dropWhile isWithin).find? (·.holds code) = none := by
    have hsorted : ((rows.dropWhile isBefore).dropWhile isWithin).Pairwise
        fun r s => r.first ≤ s.first :=
      (List.pairwise_map.mp hrows.pairwise).sublist
        ((List.dropWhile_sublist _).trans (List.dropWhile_sublist _))
    have hhead := List.head?_dropWhile_not isWithin (rows.dropWhile isBefore)
    generalize (rows.dropWhile isBefore).dropWhile isWithin = rest at hsorted hhead
    cases rest with
    | nil => rfl
    | cons next rest =>
        have hnext : last < next.first := by
          rw [← Nat.not_le, ← Nat.ble_eq]
          exact Bool.eq_false_iff.mp hhead
        refine List.find?_eq_none.mpr fun r hr hholds => ?_
        have hle : next.first ≤ r.first := by
          rcases List.mem_cons.mp hr with rfl | hr
          · exact Nat.le_refl _
          · exact (List.pairwise_cons.mp hsorted).1 r hr
        have hin : r.first ≤ code := (bounds_of_holds hholds).1
        omega
  have hrest : (rows.dropWhile isBefore).find? (·.holds code)
      = (near rows first last).find? (·.holds code) := by
    conv_lhs => rw [← List.takeWhile_append_dropWhile (p := isWithin) (l := rows.dropWhile isBefore)]
    rw [List.find?_append, hafter, Option.or_none]
    rfl
  conv_rhs => rw [← List.takeWhile_append_dropWhile (p := isBefore) (l := rows)]
  rw [List.find?_append, hbefore, Option.none_or, hrest]

end CaseRange

open CaseRange

/-! ## Codes of letters -/

/-- The code of a character in a letter case that writes ASCII in lower case. -/
def caseCode (rows : List CaseRange) (code : Nat) : Nat :=
  if code < 128 then (Char.ofNat code).toLower.toNat else move rows code

theorem caseCode_near {rows : List CaseRange} (hrows : AreSorted rows) {first last code : Nat}
    (hfirst : first ≤ code) (hlast : code ≤ last) :
    caseCode (near rows first last) code = caseCode rows code := by
  rw [caseCode, caseCode, move, move, find?_near hrows hfirst hlast]

/-- Whether a letter case, up to the form of letters, does not tell the characters of a run from their
    images. -/
def keepsForm (form : Nat → Nat) (rows : List CaseRange) (r : CaseRange) : Bool :=
  let here := near rows r.first r.last
  let there := near rows r.target (r.target + (r.last - r.first))
  r.codes.all fun code =>
    let image := caseCode there (r.target + (code - r.first))
    image.beq (caseCode here code) || (form image).beq (form (caseCode here code))

theorem form_caseCode {form : Nat → Nat} {moved rows : List CaseRange} (hrows : AreSorted rows)
    (h : moved.all (keepsForm form rows)) (code : Nat) :
    form (caseCode rows (caseCode moved code)) = form (caseCode rows code) := by
  by_cases hcode : code < 128
  · have hascii : ∀ n < 128, (Char.ofNat n).toLower.toNat < 128 ∧
        (Char.ofNat (Char.ofNat n).toLower.toNat).toLower.toNat = (Char.ofNat n).toLower.toNat := by
      decide
    obtain ⟨hlower, hagain⟩ := hascii code hcode
    rw [caseCode, caseCode, if_pos hcode, if_pos hlower, hagain, caseCode, if_pos hcode]
  · have hmoved : caseCode moved code = move moved code := if_neg hcode
    rw [hmoved, move]
    cases hfind : moved.find? (·.holds code) with
    | none => rfl
    | some r =>
        have hholds := List.find?_some hfind
        have hrun := List.all_eq_true.mp
          (List.all_eq_true.mp h r (List.mem_of_find?_eq_some hfind)) code (mem_codes hholds)
        obtain ⟨hfirst, hlast⟩ := bounds_of_holds hholds
        rw [caseCode_near hrows hfirst hlast, caseCode_near hrows (Nat.le_add_right _ _)
          (Nat.add_le_add_left (Nat.sub_le_sub_right hlast r.first) r.target),
          Bool.or_eq_true, Nat.beq_eq, Nat.beq_eq] at hrun
        exact hrun.elim (congrArg form) id

/-- The forms of letters in lower case that agree with another form, which is the usual one; and the
    dotted capital i. -/
def usualForms : List (Nat × Nat) :=
  [(0xB5, 0x3BC), (0x130, 0x69), (0x131, 0x69), (0x17F, 0x73), (0x345, 0x3B9), (0x3C2, 0x3C3),
   (0x3D0, 0x3B2), (0x3D1, 0x3B8), (0x3D5, 0x3C6), (0x3D6, 0x3C0), (0x3F0, 0x3BA), (0x3F1, 0x3C1),
   (0x3F5, 0x3B5), (0x1C80, 0x432), (0x1C81, 0x434), (0x1C82, 0x43E), (0x1C83, 0x441),
   (0x1C84, 0x442), (0x1C85, 0x442), (0x1C86, 0x44A), (0x1C87, 0x463), (0x1C88, 0xA64B),
   (0x1E9B, 0x1E61), (0x1FBE, 0x3B9), (0x1FD3, 0x390), (0x1FE3, 0x3B0), (0xFB06, 0xFB05)]

/-- The code of the usual form of a letter. -/
def usualCode (code : Nat) : Nat := (usualForms.lookup code).getD code

/-- What going through the runs of the two tables has to show. -/
structure TablesAgree : Prop where
  partnerValid  : partnerRows.all isValid
  lowerValid    : lowerRows.all isValid
  partnerSorted : AreSorted partnerRows
  lowerSorted   : AreSorted lowerRows
  /-- Lower case does not change the partner of a character. -/
  partnerKept   : lowerRows.all (keepsForm id partnerRows)
  /-- A partner has the same lower case, in the usual form. -/
  lowerKept     : partnerRows.all (keepsForm usualCode lowerRows)
  usualKept     : ∀ p ∈ usualForms, caseCode partnerRows p.2 = caseCode partnerRows p.1

theorem tablesAgree : TablesAgree where
  partnerValid := by decide +kernel
  lowerValid := by decide +kernel
  partnerSorted := by
    unfold AreSorted
    decide +kernel
  lowerSorted := by
    unfold AreSorted
    decide +kernel
  partnerKept := by decide +kernel
  lowerKept := by decide +kernel
  usualKept := by decide +kernel

/-- A character and its lower case have the same partner. -/
theorem partner_lower (code : Nat) :
    caseCode partnerRows (caseCode lowerRows code) = caseCode partnerRows code :=
  form_caseCode tablesAgree.partnerSorted tablesAgree.partnerKept code

/-- A character and its partner have the same lower case, in the usual form. -/
theorem usual_lower_partner (code : Nat) :
    usualCode (caseCode lowerRows (caseCode partnerRows code))
      = usualCode (caseCode lowerRows code) :=
  form_caseCode tablesAgree.lowerSorted tablesAgree.lowerKept code

/-- A letter and its usual form have the same partner. -/
theorem partner_usual (code : Nat) :
    caseCode partnerRows (usualCode code) = caseCode partnerRows code := by
  rw [usualCode]
  cases hlookup : usualForms.lookup code with
  | none => rfl
  | some usual => exact tablesAgree.usualKept (code, usual) (mem_of_lookup hlookup)

/-! ## Letters -/

/-- The lower case of a character that becomes one character, wherever it stands. -/
def lowerLetter (c : Char) : Char := if c.toNat < 128 then c.toLower else CaseRange.apply lowerRows c

/-- The usual form of a letter. -/
def usualForm (c : Char) : Char :=
  match usualForms.lookup c.toNat with
  | some code => Char.ofNat code
  | none => c

/-- The letter of a character, in lower case and in its usual form. -/
def letter (c : Char) : Char := usualForm (lowerLetter c)

theorem toNat_lowerLetter (c : Char) : (lowerLetter c).toNat = caseCode lowerRows c.toNat := by
  rw [lowerLetter, caseCode]
  split
  · rw [Char.ofNat_toNat]
  · exact toNat_apply tablesAgree.lowerValid c

theorem toNat_partner (c : Char) : (partner c).toNat = caseCode partnerRows c.toNat := by
  rw [partner, caseCode]
  split
  · rw [Char.ofNat_toNat]
  · exact toNat_apply tablesAgree.partnerValid c

theorem toNat_usualForm (c : Char) : (usualForm c).toNat = usualCode c.toNat := by
  have hforms : ∀ p ∈ usualForms, (Char.ofNat p.2).toNat = p.2 := by decide
  rw [usualForm, usualCode]
  cases hlookup : usualForms.lookup c.toNat with
  | none => rfl
  | some usual => exact hforms (c.toNat, usual) (mem_of_lookup hlookup)

theorem toNat_letter (c : Char) : (letter c).toNat = usualCode (caseCode lowerRows c.toNat) := by
  rw [letter, toNat_usualForm, toNat_lowerLetter]

/-- Case partners have the same letter. -/
theorem letter_partner (c : Char) : letter (partner c) = letter c := by
  rw [← Char.toNat_inj, toNat_letter, toNat_letter, toNat_partner]
  exact usual_lower_partner c.toNat

/-- A character is a case partner of its letter. -/
theorem partner_letter (c : Char) : partner (letter c) = partner c := by
  rw [← Char.toNat_inj, toNat_partner, toNat_partner, toNat_letter, partner_usual, partner_lower]

/-- **Texts agree exactly if their letters are the same.** -/
theorem agrees_iff_letters {s t : Text} : s.agrees t = true ↔ s.map letter = t.map letter := by
  have hletters (t : Text) : t.map letter = (t.map partner).map letter := by
    rw [List.map_map]
    exact List.map_congr_left fun c _ => (letter_partner c).symm
  have hpartners (t : Text) : t.map partner = (t.map letter).map partner := by
    rw [List.map_map]
    exact List.map_congr_left fun c _ => (partner_letter c).symm
  rw [agrees_iff]
  constructor
  · intro h
    rw [hletters s, hletters t, h]
  · intro h
    rw [hpartners s, hpartners t, h]

/-- The capital i with a dot, the only character that becomes more than one in lower case. -/
def dottedI : Char := Char.ofNat 0x130

theorem map_usualForm_lowerAfter {t : Text} (h : dottedI ∉ t) (after : Bool) :
    (lowerAfter after t).map usualForm = t.map letter := by
  induction t generalizing after with
  | nil => rfl
  | cons c t ih =>
      rw [List.mem_cons, not_or] at h
      by_cases hc : c.toNat < 128
      · obtain ⟨next, hlower⟩ := exists_lowerAfter_of_ascii hc after t
        have hletter : letter c = usualForm c.toLower := by rw [letter, lowerLetter, if_pos hc]
        rw [hlower, List.map_cons, List.map_cons, ih h.2, hletter]
      · rw [lowerAfter, if_neg hc, List.map_cons]
        by_cases hsigma : c = 'Σ'
        · -- both forms of a small sigma have the usual one
          rw [if_pos hsigma, List.map_cons, ih h.2, hsigma]
          have hform (b : Bool) : usualForm (if b then 'ς' else 'σ') = letter 'Σ' := by
            revert b
            decide +kernel
          rw [hform]
        · have himage : lowerMap.image c = [lowerLetter c] := by
            rw [lowerLetter, if_neg hc]
            rcases image_lowerMap_cases (Nat.le_of_not_lt hc) with himage | ⟨hdotted, -⟩
            · exact himage
            · have hcode : dottedI.toNat = 0x130 := by decide
              exact absurd (Char.toNat_inj.mp (hcode.trans hdotted.symm)) h.1
          rw [if_neg hsigma, himage, List.singleton_append, List.map_cons, ih h.2, letter]

/-- The letters of a text are its lower case, in usual forms. -/
theorem map_usualForm_lower {t : Text} (h : dottedI ∉ t) : t.lower.map usualForm = t.map letter :=
  map_usualForm_lowerAfter h false

/-- Texts that are equal in lower case agree, if no dotted capital i is in them. -/
theorem agrees_of_lower_eq {s t : Text} (hs : dottedI ∉ s) (ht : dottedI ∉ t)
    (h : s.lower = t.lower) : s.agrees t = true := by
  rw [agrees_iff_letters, ← map_usualForm_lower hs, ← map_usualForm_lower ht, h]

/-- Whether the lower case of a text has all its letters in the usual form, and no dotted capital i is
    in the text. -/
structure IsUsual (t : Text) : Prop where
  undotted : dottedI ∉ t
  usual    : t.lower.map usualForm = t.lower

/-- For usual texts, being equal in lower case and agreeing is the same. -/
theorem agrees_iff_lower_eq {s t : Text} (hs : s.IsUsual) (ht : t.IsUsual) :
    s.agrees t = true ↔ s.lower = t.lower := by
  rw [agrees_iff_letters, ← map_usualForm_lower hs.undotted, ← map_usualForm_lower ht.undotted,
    hs.usual, ht.usual]

end CompilationDatabase.Text
