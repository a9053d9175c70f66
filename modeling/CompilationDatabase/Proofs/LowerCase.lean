import CompilationDatabase.Proofs.LetterCase
import CompilationDatabase.Text.Case.Lower

/-!
# Lower case — words that only ASCII letters can be read as

Names and suffixes are compared in lower case, and lower case is that of Unicode: a character may be
written by its place, and some characters outside ASCII become ASCII letters. Both only happens to
characters outside ASCII, and what these become starts with `i`, with `k` or with a character outside
ASCII (`exists_lowerAfter_eq_cons`). So a text is a word of other letters in lower case exactly if it is
that word but for ASCII letter case (`lower_eq_iff`), and starts with one in lower case exactly if it
starts with that word but for ASCII letter case (`prefix_lower_iff`): up to there, the characters of the
two stand side by side.
-/

namespace CompilationDatabase.Text

theorem toLower_of_not_ascii {c : Char} (h : 128 ≤ c.toNat) : c.toLower = c := by
  have hupper : ¬ (65 ≤ c.toNat ∧ c.toNat ≤ 90) := by omega
  exact dif_neg hupper

/-- A character that is no small letter is the lower case of itself only. -/
theorem eq_of_toLower_eq {c d : Char} (h : c.toLower = d) (hd : d.isLower = false) : c = d := by
  by_cases hc : c.toNat < 128
  · have hascii : ∀ n < 128, (Char.ofNat n).toLower.isLower = false →
        Char.ofNat n = (Char.ofNat n).toLower := by decide
    have hsame := hascii c.toNat hc
    rw [Char.ofNat_toNat, h] at hsame
    exact hsame hd
  · rwa [toLower_of_not_ascii (Nat.le_of_not_lt hc)] at h

/-- The ASCII letters that characters outside ASCII start with in lower case. -/
def lowerStrays : Text := ['i', 'k']

theorem apply_lowerRows {c : Char} (h : 128 ≤ c.toNat) :
    128 ≤ (CaseRange.apply lowerRows c).toNat ∨ CaseRange.apply lowerRows c ∈ lowerStrays :=
  CaseRange.apply_far_or_mem (by decide +kernel) h

theorem image_lowerMap_cases {c : Char} (h : 128 ≤ c.toNat) :
    lowerMap.image c = [CaseRange.apply lowerRows c] ∨
      c.toNat = 0x130 ∧ lowerMap.image c = ['i', Char.ofNat 0x307] := by
  rw [CaseMap.image, if_neg (Nat.not_lt.mpr h)]
  by_cases hdotted : c.toNat = 0x130
  · exact Or.inr ⟨hdotted, by rw [hdotted]; rfl⟩
  · have hlookup : lowerMap.wide.lookup c.toNat = none := by
      rw [lowerMap, List.lookup_cons, beq_false_of_ne hdotted]
      rfl
    rw [hlookup]
    exact Or.inl rfl

/-- A character of ASCII becomes one of ASCII, wherever it stands. -/
theorem exists_lowerAfter_of_ascii {c : Char} (h : c.toNat < 128) (after : Bool) (t : Text) :
    ∃ next, lowerAfter after (c :: t) = c.toLower :: lowerAfter next t :=
  ⟨_, by rw [lowerAfter, if_pos h]⟩

/-- What a character outside ASCII becomes starts with another one, or with one of two letters. -/
theorem exists_lowerAfter_eq_cons {c : Char} (h : 128 ≤ c.toNat) (after : Bool) (t : Text) :
    ∃ d rest, lowerAfter after (c :: t) = d :: rest ∧ (128 ≤ d.toNat ∨ d ∈ lowerStrays) := by
  rw [lowerAfter, if_neg (Nat.not_lt.mpr h)]
  by_cases hsigma : c = 'Σ'
  · rw [if_pos hsigma]
    refine ⟨_, _, rfl, Or.inl ?_⟩
    split <;> decide
  · rw [if_neg hsigma]
    rcases image_lowerMap_cases h with himage | ⟨-, himage⟩
    · exact ⟨_, _, by rw [himage, List.singleton_append], apply_lowerRows h⟩
    · exact ⟨'i', _, by rw [himage]; rfl, Or.inr (by decide)⟩

theorem lowerAfter_eq_nil {after : Bool} {t : Text} : lowerAfter after t = [] ↔ t = [] := by
  constructor
  · intro h
    cases t with
    | nil => rfl
    | cons c t =>
        by_cases hc : c.toNat < 128
        · obtain ⟨next, hlower⟩ := exists_lowerAfter_of_ascii hc after t
          exact nomatch hlower.symm.trans h
        · obtain ⟨d, rest, hlower, -⟩ := exists_lowerAfter_eq_cons (Nat.le_of_not_lt hc) after t
          exact nomatch hlower.symm.trans h
  · rintro rfl
    rfl

/-! ## Words at the start of a text -/

/-- A start of ASCII is written in lower case letter by letter, whatever follows it. -/
theorem exists_lowerAfter_append {start : Text} (h : ∀ c ∈ start, c.toNat < 128) (after : Bool)
    (t : Text) :
    ∃ next, lowerAfter after (start ++ t) = start.map Char.toLower ++ lowerAfter next t := by
  induction start generalizing after with
  | nil => exact ⟨after, rfl⟩
  | cons c start ih =>
      obtain ⟨hc, hstart⟩ := List.forall_mem_cons.mp h
      obtain ⟨next, hlower⟩ := exists_lowerAfter_of_ascii hc after (start ++ t)
      obtain ⟨last, hrest⟩ := ih hstart next
      exact ⟨last, by rw [List.cons_append, hlower, hrest]; rfl⟩

/-- Where a text in lower case starts with a word, as many characters of the text itself spell it. -/
theorem exists_of_lowerAfter_eq_append {word rest : Text}
    (hword : ∀ c ∈ word, c.toNat < 128 ∧ c ∉ lowerStrays) {after : Bool} {t : Text}
    (h : lowerAfter after t = word ++ rest) :
    ∃ start ending next, t = start ++ ending ∧ start.map Char.toLower = word ∧
      lowerAfter next ending = rest := by
  induction word generalizing after t with
  | nil => exact ⟨[], t, after, rfl, rfl, h⟩
  | cons d word ih =>
      obtain ⟨⟨hascii, hstray⟩, hothers⟩ := List.forall_mem_cons.mp hword
      cases t with
      | nil => exact nomatch h
      | cons c t =>
          by_cases hc : c.toNat < 128
          · obtain ⟨next, hlower⟩ := exists_lowerAfter_of_ascii hc after t
            rw [hlower] at h
            obtain ⟨rfl, htail⟩ := List.cons.inj h
            obtain ⟨start, ending, last, rfl, rfl, hrest⟩ := ih hothers htail
            exact ⟨c :: start, ending, last, rfl, rfl, hrest⟩
          · -- the word cannot start with what such a character becomes
            obtain ⟨e, more, hlower, he⟩ := exists_lowerAfter_eq_cons (Nat.le_of_not_lt hc) after t
            rw [hlower] at h
            obtain ⟨rfl, -⟩ := List.cons.inj h
            exact he.elim (fun hfar => absurd hascii (Nat.not_lt.mpr hfar)) (absurd · hstray)

theorem ascii_of_map_toLower {t : Text} (h : ∀ c ∈ t.map Char.toLower, c.toNat < 128) :
    ∀ c ∈ t, c.toNat < 128 := by
  intro c hc
  by_contra hfar
  have hlower := h c.toLower (List.mem_map_of_mem hc)
  rw [toLower_of_not_ascii (Nat.le_of_not_lt hfar)] at hlower
  exact hfar hlower

/-- A text in lower case starts with such a word exactly if the text starts with that word but for
    ASCII letter case. -/
theorem prefix_lower_iff {word : Text} (hword : word.all fun c => c.toNat < 128 ∧ c ∉ lowerStrays)
    {t : Text} :
    word <+: t.lower ↔ ∃ start ending, t = start ++ ending ∧ start.map Char.toLower = word := by
  simp only [List.all_eq_true, decide_eq_true_eq] at hword
  constructor
  · rintro ⟨rest, h⟩
    obtain ⟨start, ending, -, hcut, hstart, -⟩ := exists_of_lowerAfter_eq_append hword h.symm
    exact ⟨start, ending, hcut, hstart⟩
  · rintro ⟨start, ending, rfl, rfl⟩
    have hascii := ascii_of_map_toLower fun c hc => (hword c hc).1
    obtain ⟨next, hlower⟩ := exists_lowerAfter_append hascii false ending
    exact ⟨_, hlower.symm⟩

/-! ## Whole texts -/

theorem lowerAfter_eq_iff {word : Text}
    (hword : ∀ c ∈ word, c.toNat < 128 ∧ c ∉ lowerStrays) (after : Bool) (t : Text) :
    lowerAfter after t = word ↔ t.map Char.toLower = word := by
  constructor
  · intro h
    obtain ⟨start, ending, next, rfl, hstart, hending⟩ :=
      exists_of_lowerAfter_eq_append hword (h.trans (List.append_nil word).symm)
    rw [lowerAfter_eq_nil.mp hending, List.append_nil, hstart]
  · rintro rfl
    have hascii := ascii_of_map_toLower fun c hc => (hword c hc).1
    obtain ⟨next, hlower⟩ := exists_lowerAfter_append hascii after []
    rwa [lowerAfter_eq_nil.mpr rfl, List.append_nil, List.append_nil] at hlower

/-- A text that is such a word in lower case is that word but for ASCII letter case. -/
theorem lower_eq_iff {word : Text} (hword : word.all fun c => c.toNat < 128 ∧ c ∉ lowerStrays)
    (t : Text) : t.lower = word ↔ t.map Char.toLower = word :=
  lowerAfter_eq_iff (by simpa only [List.all_eq_true, decide_eq_true_eq] using hword) false t

end CompilationDatabase.Text
