import CompilationDatabase.Solution.Line
import Mathlib.Data.List.Infix

/-!
# Letter case — types of a solution in any letter case

The type of what a solution lists is compared in upper case, and upper case is that of Unicode: there
are characters outside ASCII whose image is made of ASCII letters. None of these images occurs in the
two types that are known (`free_of_types`), so only ASCII letters can stand for their letters
(`kind_eq`).
-/

namespace CompilationDatabase

namespace Text

/-- Whether a word of ASCII holds no image of another character. -/
def FreeOfImages (word : Text) : Prop :=
  (∀ c ∈ word, c.toNat < 128) ∧ ∀ c : Char, 128 ≤ c.toNat → ¬ upperMap.image c <:+: word

theorem image_of_ascii {c : Char} (h : c.toNat < 128) : upperMap.image c = [c.toUpper] := by
  rw [CaseMap.image, if_pos h]
  rfl

theorem toUpper_of_not_ascii {c : Char} (h : 128 ≤ c.toNat) : c.toUpper = c := by
  have hlower : ¬ (97 ≤ c.toNat ∧ c.toNat ≤ 122) := by omega
  exact dif_neg hlower

theorem FreeOfImages.of_suffix {word rest : Text} (h : FreeOfImages word) (hrest : rest <:+ word) :
    FreeOfImages rest :=
  ⟨fun c hc => h.1 c (hrest.subset hc), fun c hc himage => h.2 c hc (himage.trans hrest.isInfix)⟩

/-- A text that is such a word in upper case is that word but for ASCII letter case. -/
theorem upper_eq_iff {word : Text} (h : FreeOfImages word) (t : Text) :
    t.upper = word ↔ t.map Char.toUpper = word := by
  induction t generalizing word with
  | nil => exact Iff.rfl
  | cons c t ih =>
      have hupper : upper (c :: t) = upperMap.image c ++ upper t := List.flatMap_cons
      rw [hupper, List.map_cons]
      by_cases hc : c.toNat < 128
      · rw [image_of_ascii hc, List.singleton_append]
        cases word with
        | nil => exact ⟨nofun, nofun⟩
        | cons d word =>
            rw [List.cons.injEq, List.cons.injEq, ih (h.of_suffix (List.suffix_cons d word))]
      · have hc' : 128 ≤ c.toNat := Nat.le_of_not_lt hc
        constructor
        · intro heq
          exact absurd ⟨[], upper t, by simpa using heq⟩ (h.2 c hc')
        · intro heq
          have hmem : c ∈ word := by
            rw [← heq, toUpper_of_not_ascii hc']
            exact List.mem_cons_self
          exact absurd (h.1 c hmem) hc

/-! ### Images of characters outside ASCII -/

/-- Whether a run moves its characters to characters. -/
def CaseRange.isValid (r : CaseRange) : Bool :=
  r.target + (r.last - r.first) < 0xD800 ||
    (0xDFFF < r.target && r.target + (r.last - r.first) < 0x110000)

/-- Whether a run moves its characters to characters outside ASCII. -/
def CaseRange.isFar (r : CaseRange) : Bool := 128 ≤ r.target && r.isValid

/-- Whether a run moves a single character, and to one of some letters. -/
def CaseRange.isStray (letters : Text) (r : CaseRange) : Bool :=
  r.first == r.last && letters.contains (Char.ofNat r.target)

theorem CaseRange.toNat_image {r : CaseRange} (h : r.isValid = true) {offset : Nat}
    (hoffset : offset ≤ r.last - r.first) :
    (Char.ofNat (r.target + offset)).toNat = r.target + offset := by
  simp only [isValid, Bool.and_eq_true, Bool.or_eq_true, decide_eq_true_eq] at h
  rw [Char.ofNat, dif_pos]
  · rfl
  · show _ < 0xD800 ∨ 0xDFFF < _ ∧ _ < 0x110000
    omega

/-- A character outside ASCII is moved to another one, or to one of some letters, if all runs do so. -/
theorem CaseRange.apply_far_or_mem {rows : List CaseRange} {letters : Text}
    (hrows : rows.all fun r => r.isFar || r.isStray letters) {c : Char} (h : 128 ≤ c.toNat) :
    128 ≤ (apply rows c).toNat ∨ apply rows c ∈ letters := by
  rw [apply]
  cases hfind : rows.find? (·.holds c.toNat) with
  | none => exact Or.inl h
  | some r =>
      have hholds := List.find?_some hfind
      obtain ⟨hfirst, hlast⟩ := bounds_of_holds hholds
      have hrow := List.all_eq_true.mp hrows r (List.mem_of_find?_eq_some hfind)
      rw [Bool.or_eq_true] at hrow
      rcases hrow with hfar | hstray
      · left
        obtain ⟨htarget, hvalid⟩ := Bool.and_eq_true_iff.mp hfar
        show 128 ≤ (Char.ofNat (r.target + (c.toNat - r.first))).toNat
        rw [toNat_image hvalid (Nat.sub_le_sub_right hlast r.first)]
        exact Nat.le_add_right_of_le (of_decide_eq_true htarget)
      · right
        obtain ⟨hone, hmem⟩ := Bool.and_eq_true_iff.mp hstray
        have hzero : c.toNat - r.first = 0 := by
          have := eq_of_beq hone
          omega
        simpa only [hzero, Nat.add_zero] using List.contains_iff_mem.mp hmem

/-- The ASCII letters that are the image of a single other character. -/
def strayLetters : Text := ['I', 'S']

theorem apply_upperRows {c : Char} (h : 128 ≤ c.toNat) :
    128 ≤ (CaseRange.apply upperRows c).toNat ∨ CaseRange.apply upperRows c ∈ strayLetters :=
  CaseRange.apply_far_or_mem (by decide +kernel) h

theorem freeOfImages {word : Text} (hword : word.all fun c => c.toNat < 128)
    (hletters : strayLetters.all fun c => c ∉ word)
    (hwide : ∀ p ∈ upperMap.wide, ¬ p.2.map Char.ofNat <:+: word) : FreeOfImages word := by
  have hascii : ∀ c ∈ word, c.toNat < 128 := by simpa using hword
  refine ⟨hascii, fun c hc himage => ?_⟩
  rw [CaseMap.image, if_neg (Nat.not_lt.mpr hc)] at himage
  cases hlookup : upperMap.wide.lookup c.toNat with
  | some codes =>
      rw [hlookup] at himage
      exact hwide _ (mem_of_lookup hlookup) himage
  | none =>
      rw [hlookup] at himage
      have hmem : CaseRange.apply upperRows c ∈ word := himage.subset List.mem_cons_self
      rcases apply_upperRows hc with hfar | hstray
      · exact absurd (hascii _ hmem) (Nat.not_lt.mpr hfar)
      · exact of_decide_eq_true (List.all_eq_true.mp hletters _ hstray) hmem

end Text

namespace SolutionLine

theorem free_of_types : folderGuid.FreeOfImages ∧ projectGuid.FreeOfImages := by
  constructor
  · exact Text.freeOfImages (by decide) (by decide) (by decide +kernel)
  · exact Text.freeOfImages (by decide) (by decide) (by decide +kernel)

/-- What a line lists is told by its type, in any letter case of ASCII. -/
theorem kind_eq (l : SolutionLine) :
    l.kind = if l.guid.map Char.toUpper = folderGuid then .folder
      else if l.guid.map Char.toUpper = projectGuid then .project else .unsupported := by
  rw [kind]
  simp only [Text.upper_eq_iff free_of_types.1, Text.upper_eq_iff free_of_types.2]

end SolutionLine

end CompilationDatabase
