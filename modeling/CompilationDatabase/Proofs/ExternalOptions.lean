import CompilationDatabase.Item.ExternalIncludes
import CompilationDatabase.Proofs.Pieces

/-!
# External options — what is taken out of an option line, and what is left

`ExternalIncludes.takeOut` cuts each option out of the whole text and goes on searching where it stood.
`scan` looks at the text once and never goes back: it goes on in what follows the word of an option.
The two agree, since what is searched next is just what has not been read (`takeFrom_append`).

Neither looks at what comes together where something was cut out. A word without quotes ends at a blank,
and no option has one in it, so there a new option cannot come about. After a word in quotes the text
may go on at once (`Abuts`), and only then can an option be left (`not_occurs_scan`).
-/

namespace CompilationDatabase

/-! ## Words in a text -/

namespace Text

/-- Whether a word stands somewhere in a text, in any cases. -/
def Occurs (word t : Text) : Prop := ∃ w : Text, w.agrees word = true ∧ w <:+: t

variable {word t before after : Text}

theorem agrees_iff {s : Text} : s.agrees t = true ↔ s.map partner = t.map partner := beq_iff_eq

theorem Occurs.of_infix {s : Text} (h : Occurs word s) (hst : s <:+: t) : Occurs word t := by
  obtain ⟨w, hw, hin⟩ := h
  exact ⟨w, hw, hin.trans hst⟩

theorem occurs_nil : Occurs word [] ↔ word = [] := by
  constructor
  · rintro ⟨w, hw, hin⟩
    rw [List.infix_nil.mp hin, agrees_iff] at hw
    exact List.map_eq_nil_iff.mp hw.symm
  · rintro rfl
    exact ⟨[], rfl, List.infix_rfl⟩

theorem occurs_cons {c : Char} :
    Occurs word (c :: t) ↔ (∃ w : Text, w.agrees word = true ∧ w <+: c :: t) ∨ Occurs word t := by
  constructor
  · rintro ⟨w, hw, hin⟩
    rcases List.infix_cons_iff.mp hin with hprefix | hrest
    · exact Or.inl ⟨w, hw, hprefix⟩
    · exact Or.inr ⟨w, hw, hrest⟩
  · rintro (⟨w, hw, hprefix⟩ | ⟨w, hw, hrest⟩)
    · exact ⟨w, hw, hprefix.isInfix⟩
    · exact ⟨w, hw, hrest.trans (List.suffix_cons c t).isInfix⟩

theorem afterWord?_eq_some :
    afterWord? word t = some after ↔ ∃ w : Text, w.agrees word = true ∧ t = w ++ after := by
  simp only [agrees_iff]
  induction word generalizing t with
  | nil =>
      constructor
      · intro h
        exact ⟨[], rfl, Option.some.inj h⟩
      · rintro ⟨w, hw, rfl⟩
        rw [List.map_eq_nil_iff.mp hw]
        rfl
  | cons v word ih =>
      cases t with
      | nil =>
          constructor
          · intro h
            cases h
          · rintro ⟨w, hw, ht⟩
            rw [(List.append_eq_nil_iff.mp ht.symm).1] at hw
            cases hw
      | cons c t =>
          rw [afterWord?]
          constructor
          · intro h
            by_cases hc : partner v = partner c
            · rw [if_pos hc, ih] at h
              obtain ⟨w, hw, rfl⟩ := h
              exact ⟨c :: w, by simp [hc, hw], rfl⟩
            · rw [if_neg hc] at h
              cases h
          · rintro ⟨w, hw, ht⟩
            cases w with
            | nil => cases hw
            | cons d w =>
                obtain ⟨hd, hrest⟩ := List.cons.inj hw
                obtain ⟨rfl, rfl⟩ := List.cons.inj ht
                rw [if_pos hd.symm, ih]
                exact ⟨w, hrest, rfl⟩

theorem afterWord?_eq_none :
    afterWord? word t = none ↔ ¬ ∃ w : Text, w.agrees word = true ∧ w <+: t := by
  rw [Option.eq_none_iff_forall_ne_some]
  constructor
  · rintro h ⟨w, hw, after, ht⟩
    exact h after (afterWord?_eq_some.mpr ⟨w, hw, ht.symm⟩)
  · intro h after hafter
    obtain ⟨w, hw, ht⟩ := afterWord?_eq_some.mp hafter
    exact h ⟨w, hw, after, ht.symm⟩

/-- A search finds nothing exactly if the word does not occur. -/
theorem breakAtWord?_eq_none : breakAtWord? word t = none ↔ ¬ Occurs word t := by
  induction t with
  | nil =>
      rw [breakAtWord?, occurs_nil]
      cases word <;> simp
  | cons c t ih =>
      rw [breakAtWord?, occurs_cons, not_or, ← ih, ← afterWord?_eq_none]
      cases afterWord? word (c :: t) <;> simp

/-- What is found is an occurrence, and the text before it has none: it is the first one. -/
theorem exists_of_breakAtWord? (h : breakAtWord? word t = some (before, after)) :
    (∃ w : Text, w.agrees word = true ∧ t = before ++ (w ++ after)) ∧
      (word ≠ [] → ¬ Occurs word before) := by
  induction t generalizing before with
  | nil =>
      rw [breakAtWord?] at h
      cases word with
      | nil =>
          obtain ⟨rfl, rfl⟩ := Prod.mk.inj (Option.some.inj h)
          exact ⟨⟨[], rfl, rfl⟩, absurd rfl⟩
      | cons v word => cases h
  | cons c t ih =>
      rw [breakAtWord?] at h
      cases hafter : afterWord? word (c :: t) with
      | some rest =>
          rw [hafter] at h
          obtain ⟨rfl, rfl⟩ := Prod.mk.inj (Option.some.inj h)
          exact ⟨afterWord?_eq_some.mp hafter, fun hword => mt occurs_nil.mp hword⟩
      | none =>
          rw [hafter] at h
          obtain ⟨⟨before, after⟩, hbreak, hpair⟩ := Option.map_eq_some_iff.mp h
          obtain ⟨rfl, rfl⟩ := Prod.mk.inj hpair
          obtain ⟨⟨w, hw, rfl⟩, hnone⟩ := ih hbreak
          refine ⟨⟨w, hw, rfl⟩, fun hword hoccurs => ?_⟩
          rcases occurs_cons.mp hoccurs with ⟨v, hv, hprefix⟩ | hrest
          · -- an occurrence at the start would have been found there
            have hstart : v <+: c :: (before ++ (w ++ after)) :=
              hprefix.trans (List.prefix_append (c :: before) _)
            exact afterWord?_eq_none.mp hafter ⟨v, hv, hstart⟩
          · exact hnone hword hrest

/-! ## What follows a word -/

/-- Whether nothing follows directly: a text is at its end, or starts with a blank. -/
def IsApart (t : Text) : Prop := ∀ c, t.head? = some c → isBlank c = true

/-- A text goes on directly after a word only if the word is in quotes. -/
theorem isApart_nextWord (t : Text) :
    (nextWord t).2.IsApart ∨ ∃ quoted c rest,
      t.dropWhile isBlank = '"' :: (quoted ++ '"' :: c :: rest) ∧ '"' ∉ quoted ∧
        isBlank c = false := by
  rw [nextWord]
  generalize t.dropWhile isBlank = s
  rw [wordAtStart.eq_def]
  split
  · next cs =>
    cases hbreak : breakAt? ['"'] cs with
    | none => exact Or.inl nofun
    | some p =>
        obtain ⟨quoted, rest⟩ := p
        cases rest with
        | nil => exact Or.inl nofun
        | cons c rest =>
            by_cases hc : isBlank c = true
            · refine Or.inl ?_
              intro d hd
              exact Option.some.inj hd ▸ hc
            · refine Or.inr ⟨quoted, c, rest, ?_, (breakAt?_eq_some.mp hbreak).2, by simpa using hc⟩
              rw [(breakAt?_eq_some.mp hbreak).1]
  · refine Or.inl ?_
    intro c hc
    have hhead := List.head?_dropWhile_not (!isBlank ·) s
    rw [show (s.dropWhile (!isBlank ·)).head? = some c from hc] at hhead
    simpa using hhead

/-- A word in quotes, and what comes after the closing one. -/
theorem nextWord_quoted {quoted rest : Text} (ht : t.dropWhile isBlank = '"' :: (quoted ++ '"' :: rest))
    (hquoted : '"' ∉ quoted) : nextWord t = (quoted, rest) := by
  rw [nextWord, ht, wordAtStart, breakAt?_eq_some.mpr ⟨rfl, hquoted⟩, Option.getD_some]

end Text

namespace ExternalIncludes

open Text (Occurs IsApart isBlank breakAtWord? nextWord partner)

/-! ## One pass -/

/-- The directories that the options name, in order, and the options without them. -/
def scan (options : Text) : List Text × Text :=
  match _h : Text.breakAtWord? option options with
  | none => ([], options)
  | some (before, after) =>
    let found := Text.nextWord after
    let (directories, rest) := scan found.2
    (found.1 :: directories, before ++ rest)
termination_by options.length
decreasing_by
  have := length_of_breakAtWord? _h
  have := Text.length_nextWord_le after
  have : option.length = 11 := by decide
  omega

variable {options before after : Text}

theorem scan_of_none (h : breakAtWord? option options = none) : scan options = ([], options) := by
  rw [scan]
  split
  · rfl
  · next hs => cases h.symm.trans hs

/-- The first option gives its word, and the pass goes on after that. -/
theorem scan_of_eq_some (h : breakAtWord? option options = some (before, after)) :
    scan options
      = ((nextWord after).1 :: (scan (nextWord after).2).1, before ++ (scan (nextWord after).2).2) := by
  rw [scan]
  split
  · next hs => cases h.symm.trans hs
  · next hs =>
    cases h.symm.trans hs
    rfl

theorem scan_of_some (h : breakAtWord? option options ≠ none) :
    ∃ first more rest, scan options = (first :: more, rest) := by
  obtain ⟨⟨before, after⟩, hsome⟩ := Option.ne_none_iff_exists'.mp h
  exact ⟨_, _, _, scan_of_eq_some hsome⟩

/-- What stands before the position of the search stays, and what comes after it is scanned. -/
theorem takeFrom_append (before after : Text) (directories : List Text) :
    takeFrom before.length directories (before ++ after)
      = (directories ++ (scan after).1, before ++ (scan after).2) := by
  induction hn : after.length using Nat.strongRecOn generalizing before after directories with
  | ind n ih =>
      subst hn
      rw [takeFrom]
      split
      · next hnone =>
        rw [List.drop_left] at hnone
        simp [scan_of_none hnone]
      · next skipped rest hsome =>
        rw [List.drop_left] at hsome
        have hlength := length_of_breakAtWord? hsome
        have hshorter := Text.length_nextWord_le rest
        have hoption : option.length = 11 := by decide
        -- the text up to the cut is read, and what follows the word is not
        obtain ⟨⟨w, -, rfl⟩, -⟩ := Text.exists_of_breakAtWord? hsome
        have hcut : (before ++ (skipped ++ (w ++ rest))).take (before.length + skipped.length)
            = before ++ skipped := by
          rw [← List.length_append, ← List.append_assoc]
          exact List.take_left
        have hnext := ih (nextWord rest).2.length (by omega) (before ++ skipped) (nextWord rest).2
          (directories ++ [(nextWord rest).1]) rfl
        rw [List.length_append] at hnext
        simp only [hcut]
        rw [hnext, scan_of_eq_some hsome]
        simp

/-- Cutting the options out of the text one after the other is one pass over it. -/
theorem takeOut_eq_scan (options : Text) : takeOut options = scan options := by
  have h := takeFrom_append [] options []
  simpa [takeOut] using h

/-! ## What is left -/

/-- Options that are taken out leave a shorter text. -/
theorem length_scan_le (options : Text) : (scan options).2.length ≤ options.length := by
  induction hn : options.length using Nat.strongRecOn generalizing options with
  | ind n ih =>
      subst hn
      cases h : breakAtWord? option options with
      | none => rw [scan_of_none h]
      | some found =>
          obtain ⟨before, after⟩ := found
          have hlength := length_of_breakAtWord? h
          have hshorter := Text.length_nextWord_le after
          have hoption : option.length = 11 := by decide
          have hrest := ih (nextWord after).2.length (by omega) _ rfl
          rw [scan_of_eq_some h]
          simp only [List.length_append]
          omega

theorem length_scan_lt (h : Occurs option options) : (scan options).2.length < options.length := by
  cases hfound : breakAtWord? option options with
  | none => exact absurd h (Text.breakAtWord?_eq_none.mp hfound)
  | some found =>
      obtain ⟨before, after⟩ := found
      have hlength := length_of_breakAtWord? hfound
      have hshorter := Text.length_nextWord_le after
      have hoption : option.length = 11 := by decide
      have hrest := length_scan_le (nextWord after).2
      rw [scan_of_eq_some hfound]
      simp only [List.length_append]
      omega

/-- Whether the text goes on directly after a directory in quotes, at one of the options in it. -/
inductive Abuts : Text → Prop
  /-- It does at the first option. -/
  | first {options before after quoted rest : Text} {c : Char} :
      breakAtWord? option options = some (before, after) →
      after.dropWhile isBlank = '"' :: (quoted ++ '"' :: c :: rest) → '"' ∉ quoted →
      isBlank c = false → Abuts options
  /-- It does at an option that follows the word of the first one. -/
  | later {options before after : Text} :
      breakAtWord? option options = some (before, after) → Abuts (nextWord after).2 →
      Abuts options

/-- It is seen from what follows the word of the first option. -/
theorem abuts_iff (h : breakAtWord? option options = some (before, after)) :
    Abuts options ↔ ¬ (nextWord after).2.IsApart ∨ Abuts (nextWord after).2 := by
  constructor
  · rintro (⟨hfound, hafter, hquoted, hc⟩ | ⟨hfound, hlater⟩)
    · obtain ⟨rfl, rfl⟩ := Prod.mk.inj (Option.some.inj (h.symm.trans hfound))
      refine Or.inl fun hapart => ?_
      rw [Text.nextWord_quoted hafter hquoted] at hapart
      exact nomatch hc.symm.trans (hapart _ rfl)
    · obtain ⟨rfl, rfl⟩ := Prod.mk.inj (Option.some.inj (h.symm.trans hfound))
      exact Or.inr hlater
  · rintro (hnot | hlater)
    · rcases Text.isApart_nextWord after with hapart | ⟨quoted, c, rest, hafter, hquoted, hc⟩
      · exact absurd hapart hnot
      · exact .first h hafter hquoted hc
    · exact .later h hlater

theorem not_abuts_of_none (h : breakAtWord? option options = none) : ¬ Abuts options := by
  rintro (⟨hfound, -, -, -⟩ | ⟨hfound, -⟩)
  · exact nomatch h.symm.trans hfound
  · exact nomatch h.symm.trans hfound

/-- The codes of the characters that are blanks. -/
def blankCodes : List Nat :=
  [9, 10, 11, 12, 13, 28, 29, 30, 31, 32, 0x85, 0xA0, 0x1680, 0x2000, 0x2001, 0x2002, 0x2003, 0x2004,
    0x2005, 0x2006, 0x2007, 0x2008, 0x2009, 0x200A, 0x2028, 0x2029, 0x202F, 0x205F, 0x3000]

theorem toNat_mem_blankCodes {c : Char} (h : isBlank c = true) : c.toNat ∈ blankCodes := by
  simp only [isBlank, Bool.or_eq_true, Bool.and_eq_true, decide_eq_true_eq, beq_iff_eq] at h
  simp only [blankCodes, List.mem_cons, List.not_mem_nil, or_false]
  omega

/-- No blank agrees with a character of the option. -/
theorem partner_not_mem_option {c : Char} (h : isBlank c = true) :
    partner c ∉ option.map partner := by
  have hcodes : ∀ code ∈ blankCodes, partner (Char.ofNat code) ∉ option.map partner := by decide
  have hc := hcodes c.toNat (toNat_mem_blankCodes h)
  rwa [Char.ofNat_toNat] at hc

theorem not_isBlank_of_agrees {w : Text} (hw : w.agrees option = true) {c : Char} (hc : c ∈ w) :
    isBlank c = false := by
  refine Bool.eq_false_iff.mpr fun hblank => ?_
  refine partner_not_mem_option hblank ?_
  rw [← Text.agrees_iff.mp hw]
  exact List.mem_map_of_mem hc

/-- A blank at the start of a text is no part of an option, so it stays there. -/
theorem isApart_scan (h : options.IsApart) : (scan options).2.IsApart := by
  cases hfound : breakAtWord? option options with
  | none =>
      rw [scan_of_none hfound]
      exact h
  | some found =>
      obtain ⟨before, after⟩ := found
      obtain ⟨⟨w, hw, rfl⟩, -⟩ := Text.exists_of_breakAtWord? hfound
      rw [scan_of_eq_some hfound]
      cases before with
      | cons c before => exact h
      | nil =>
          cases w with
          | nil => exact nomatch Text.agrees_iff.mp hw
          | cons c w =>
              have hblank := h c rfl
              rw [not_isBlank_of_agrees hw List.mem_cons_self] at hblank
              exact nomatch hblank

/-- Two texts without the option have none where they meet if the second one starts with a blank. -/
theorem not_occurs_append (hbefore : ¬ Occurs option before) (hafter : ¬ Occurs option after)
    (hapart : after.IsApart) : ¬ Occurs option (before ++ after) := by
  rintro ⟨w, hw, hin⟩
  rcases List.infix_append_iff.mp hin with hleft | hright | ⟨x, y, rfl, hx, hy⟩
  · exact hbefore ⟨w, hw, hleft⟩
  · exact hafter ⟨w, hw, hright⟩
  · cases y with
    | nil => exact hbefore ⟨_, hw, (List.append_nil x).symm ▸ hx.isInfix⟩
    | cons c y =>
        -- the option would go on with the blank
        obtain ⟨rest, rfl⟩ := hy
        have hblank := hapart c rfl
        rw [not_isBlank_of_agrees hw (List.mem_append_right x List.mem_cons_self)] at hblank
        exact nomatch hblank

/-- No option is left if the text never goes on directly after a directory in quotes. -/
theorem not_occurs_scan (h : ¬ Abuts options) : ¬ Occurs option (scan options).2 := by
  induction hn : options.length using Nat.strongRecOn generalizing options with
  | ind n ih =>
      subst hn
      cases hfound : breakAtWord? option options with
      | none =>
          rw [scan_of_none hfound]
          exact Text.breakAtWord?_eq_none.mp hfound
      | some found =>
          obtain ⟨before, after⟩ := found
          have hlength := length_of_breakAtWord? hfound
          have hshorter := Text.length_nextWord_le after
          have hoption : option.length = 11 := by decide
          have hbefore : ¬ Occurs option before :=
            (Text.exists_of_breakAtWord? hfound).2 (List.cons_ne_nil _ _)
          rw [abuts_iff hfound, not_or, not_not] at h
          obtain ⟨hapart, hlater⟩ := h
          have hrest : ¬ Occurs option (scan (nextWord after).2).2 := ih _ (by omega) hlater rfl
          rw [scan_of_eq_some hfound]
          exact not_occurs_append hbefore hrest (isApart_scan hapart)

end ExternalIncludes

end CompilationDatabase
