import CompilationDatabase.Proofs.CopyOnWrite

/-!
# Conversion — external includes moved from one property to another

An item is converted by taking the external include options out of one property and putting their
directories in front of another one. `converted_scans` says what it shows then, in terms of one pass
over the options (`Scanned`). Without such an option nothing happens, to the item or to the tables.

A second conversion does nothing exactly if the first one left no option (`convert_eq_self_iff`). Most
options are gone after one conversion, but not all: a directory in quotes may have text directly
after it, and this comes next to what stood before the option (`converted_leavesOption`). Where no text
does, nothing is left (`converted_again`).
-/

namespace CompilationDatabase

open ExternalIncludes (option scan prepend Abuts)
open Item (optionsName includesName)
open Text (Occurs)

/-! ## Properties with the options taken out -/

namespace PropertyTable

variable {p : PropertyTable} {options : Text}

theorem hasExternal_iff :
    p.HasExternal ↔ ∃ options, p.get? optionsName = some options ∧ Occurs option options := by
  simp only [HasExternal, ne_eq, Text.breakAtWord?_eq_none, not_not]

theorem get?_insert (h : p.matching = .ignoringCase) (name value other : Text) :
    (p.insert name value).get? other
      = if name.lower = other.lower then some value else p.get? other := by
  obtain ⟨m, table⟩ := p
  obtain rfl : m = .ignoringCase := h
  exact table.get?_insert name value other

theorem get?_erase (h : p.matching = .ignoringCase) (name other : Text) :
    (p.erase name).get? other = if other.lower = name.lower then none else p.get? other := by
  obtain ⟨m, table⟩ := p
  obtain rfl : m = .ignoringCase := h
  exact table.get?_erase name other

theorem matching_converted (p : PropertyTable) : p.converted.matching = p.matching := by
  rw [converted]
  split <;> rfl

/-- What some properties have become when one pass has gone over their options: the options are what
    is left, without blanks at the ends, the directories are in front of the ones before, and all else
    is as it was. -/
structure Scanned (options : Text) (p q : PropertyTable) : Prop where
  left   : q.get? optionsName
    = if (scan options).2.strip = [] then none else some (scan options).2.strip
  moved  : q.get? includesName
    = some ((scan options).1.foldl prepend ((p.get? includesName).getD []))
  others : q.others [includesName, optionsName] = p.others [includesName, optionsName]

theorem scanned_converted (h : p.matching = .ignoringCase)
    (hoptions : p.get? optionsName = some options) : Scanned options p p.converted := by
  have hnames : optionsName.lower ≠ includesName.lower := by decide
  have hothers := Write.others_result p .convert
  let moved := p.insert includesName
    ((scan options).1.foldl prepend ((p.get? includesName).getD []))
  have hmoved : moved.matching = .ignoringCase := h
  by_cases hrest : (scan options).2.strip = []
  · have hconverted : p.converted = moved.erase optionsName := by
      rw [converted, hoptions]
      exact if_pos hrest
    refine ⟨?_, ?_, hothers⟩
    · rw [hconverted, get?_erase hmoved, if_pos rfl, if_pos hrest]
    · rw [hconverted, get?_erase hmoved, if_neg hnames.symm, get?_insert h, if_pos rfl]
  · have hconverted : p.converted = moved.insert optionsName (scan options).2.strip := by
      rw [converted, hoptions]
      exact if_neg hrest
    refine ⟨?_, ?_, hothers⟩
    · rw [hconverted, get?_insert hmoved, if_pos rfl, if_neg hrest]
    · rw [hconverted, get?_insert hmoved, if_neg hnames, get?_insert h, if_pos rfl]

theorem Scanned.eq_strip {q : PropertyTable} (h : Scanned options p q) {left : Text}
    (hleft : q.get? optionsName = some left) : left = (scan options).2.strip := by
  rw [h.left] at hleft
  split at hleft
  · exact nomatch hleft
  · exact (Option.some.inj hleft).symm

/-- Options are left only if there were some that the text goes on after. -/
theorem not_hasExternal_converted (h : p.matching = .ignoringCase)
    (hoptions : p.get? optionsName = some options) (habuts : ¬ Abuts options) :
    ¬ p.converted.HasExternal := by
  intro hexternal
  obtain ⟨left, hleft, hoccurs⟩ := hasExternal_iff.mp hexternal
  obtain rfl := (scanned_converted h hoptions).eq_strip hleft
  exact ExternalIncludes.not_occurs_scan habuts (hoccurs.of_infix (Text.strip_infix _))

/-- Properties with external includes are not the same when they are converted: the options are
    shorter. -/
theorem converted_ne (h : p.matching = .ignoringCase) (hexternal : p.HasExternal) :
    p.converted ≠ p := by
  obtain ⟨options, hoptions, hoccurs⟩ := hasExternal_iff.mp hexternal
  intro hsame
  have hstripped : options = (scan options).2.strip :=
    (scanned_converted h hoptions).eq_strip (hsame.symm ▸ hoptions)
  have hshorter := ExternalIncludes.length_scan_lt hoccurs
  have hstrip := (Text.strip_infix (scan options).2).length_le
  rw [← hstripped] at hstrip
  omega

end PropertyTable

/-! ## Items -/

namespace Item

variable {i : Item} {s : PropertyStore}

theorem Placed.convert (h : i.Placed s) :
    (i.convertExternalIncludes.run s).1.Placed (i.convertExternalIncludes.run s).2 := by
  by_cases hexternal : (i.properties s).HasExternal
  · have hshows := shows_convert h hexternal
    refine ⟨hshows.placed, ?_⟩
    rw [hshows.shown, PropertyTable.matching_converted]
    exact h.anyCase
  · rw [convert_of_none hexternal]
    exact h

/-- Converting an item does nothing exactly if it has no external include. -/
theorem convert_eq_self_iff (h : i.Placed s) :
    i.convertExternalIncludes.run s = (i, s) ↔ ¬ (i.properties s).HasExternal := by
  constructor
  · intro hrun hexternal
    have hshown := (shows_convert h hexternal).shown
    rw [hrun] at hshown
    exact PropertyTable.converted_ne h.anyCase hexternal hshown.symm
  · exact convert_of_none

/-- An item that borrows a table with some options and the include directory `inc`, and its store. -/
def withOptions (options : Text) : Item × PropertyStore :=
  ({ type := "ClCompile".toList, identity := "a.cpp".toList, table := 0, owns := false },
    ⟨#[⟨.ignoringCase,
      (NameTable.empty.insert includesName "inc".toList).insert optionsName options⟩]⟩)

theorem placed_withOptions (options : Text) :
    (withOptions options).1.Placed (withOptions options).2 :=
  ⟨Nat.zero_lt_one, rfl⟩

theorem get?_withOptions (options : Text) :
    ((withOptions options).1.properties (withOptions options).2).get? optionsName = some options :=
  (NameTable.get?_insert _ optionsName options optionsName).trans (if_pos rfl)

/-- **The conversion is one pass from left to right.** The loop that cuts the options out always ends.
    If there are external includes in the options of an item, it has properties of its own afterwards,
    and they are what one pass makes of those it showed; if there are none, nothing happens. -/
theorem converted_scans (h : i.Placed s) :
    (∀ options, (i.properties s).get? optionsName = some options → Occurs option options →
      (∃ place, (i.convertExternalIncludes.run s).1 = { i with table := place, owns := true }) ∧
      (i.properties s).Scanned options ((i.convertExternalIncludes.run s).1.properties
        (i.convertExternalIncludes.run s).2)) ∧
    ((∀ options, (i.properties s).get? optionsName = some options → ¬ Occurs option options) →
      i.convertExternalIncludes.run s = (i, s)) := by
  constructor
  · intro options hoptions hoccurs
    have hexternal := PropertyTable.hasExternal_iff.mpr ⟨options, hoptions, hoccurs⟩
    have hshows := shows_convert h hexternal
    refine ⟨?_, ?_⟩
    · rcases hshows.item with hsame | ⟨-, place, -, -, hnew⟩
      · have howns := hshows.owns
        rw [hsame] at howns ⊢
        exact ⟨i.table, by rw [← howns]⟩
      · exact ⟨place, hnew⟩
    · rw [hshows.shown]
      exact PropertyTable.scanned_converted h.anyCase hoptions
  · intro hnone
    refine convert_of_none fun hexternal => ?_
    obtain ⟨options, hoptions, hoccurs⟩ := PropertyTable.hasExternal_iff.mp hexternal
    exact hnone options hoptions hoccurs

/-- A directory in quotes, one without them in other letter cases, and one that is missing. -/
def threeOptions : Text := "/W4 /external:I \"c:\\sdk inc\" /EXTERNAL:Isdk /Zi /external:I".toList

/-- The directories are in front of the old one, the last one first; that of the last option is empty. -/
theorem converted_scans_threeOptions :
    let once := (withOptions threeOptions).1.convertExternalIncludes.run (withOptions threeOptions).2
    once.1.owns = true ∧
      (once.1.properties once.2).get? optionsName = some "/W4   /Zi".toList ∧
      (once.1.properties once.2).get? includesName = some ";sdk;c:\\sdk inc;inc".toList := by
  have hoccurs : Occurs option threeOptions :=
    ⟨option, rfl, "/W4 ".toList, " \"c:\\sdk inc\" /EXTERNAL:Isdk /Zi /external:I".toList, rfl⟩
  have hscan : scan threeOptions
      = (["c:\\sdk inc".toList, "sdk".toList, []], "/W4   /Zi ".toList) := by decide +kernel
  obtain ⟨⟨place, hplace⟩, hscanned⟩ :=
    (converted_scans (placed_withOptions threeOptions)).1 threeOptions (get?_withOptions _) hoccurs
  refine ⟨by rw [hplace], ?_, ?_⟩
  · rw [hscanned.left, hscan]
    decide
  · rw [hscanned.moved, hscan]
    decide

/-- **A second conversion** does nothing exactly if the first one has left no option, and the first one
    leaves none unless the text goes on directly after a directory in quotes. -/
theorem converted_again (h : i.Placed s) :
    let once := i.convertExternalIncludes.run s
    (once.1.convertExternalIncludes.run once.2 = once ↔
      ∀ left, (once.1.properties once.2).get? optionsName = some left → ¬ Occurs option left) ∧
    ((∀ options, (i.properties s).get? optionsName = some options → ¬ Abuts options) →
      ∀ left, (once.1.properties once.2).get? optionsName = some left → ¬ Occurs option left) := by
  intro once
  have hagain : once.1.convertExternalIncludes.run once.2 = once ↔
      ¬ (once.1.properties once.2).HasExternal := convert_eq_self_iff h.convert
  simp only [PropertyTable.hasExternal_iff, not_exists, not_and] at hagain
  refine ⟨hagain, fun habuts => hagain.mp ?_⟩
  by_cases hexternal : (i.properties s).HasExternal
  · obtain ⟨options, hoptions, -⟩ := PropertyTable.hasExternal_iff.mp hexternal
    refine convert_of_none ?_
    rw [(shows_convert h hexternal).shown]
    exact PropertyTable.not_hasExternal_converted h.anyCase hoptions (habuts options hoptions)
  · have hsame : once = (i, s) := convert_of_none hexternal
    rw [hsame]
    exact convert_of_none hexternal

/-- A directory in quotes with a blank after it, and a last one. -/
def spacedOptions : Text := "/external:I \"d\" /external:I e".toList

theorem converted_again_spacedOptions :
    let once := (withOptions spacedOptions).1.convertExternalIncludes.run (withOptions spacedOptions).2
    once.1.convertExternalIncludes.run once.2 = once ∧
      ∀ left, (once.1.properties once.2).get? optionsName = some left → ¬ Occurs option left := by
  have hfirst : Text.breakAtWord? option spacedOptions
      = some ([], " \"d\" /external:I e".toList) := by decide
  have hsecond : Text.breakAtWord? option " /external:I e".toList
      = some ([' '], " e".toList) := by decide
  have habuts : ¬ Abuts spacedOptions := by
    rw [ExternalIncludes.abuts_iff hfirst, not_or, not_not]
    constructor
    · rintro _ ⟨⟩
      decide
    · rw [show (Text.nextWord " \"d\" /external:I e".toList).2 = " /external:I e".toList by decide,
        ExternalIncludes.abuts_iff hsecond, not_or, not_not]
      exact ⟨nofun, ExternalIncludes.not_abuts_of_none rfl⟩
  obtain ⟨hagain, hleft⟩ := converted_again (placed_withOptions spacedOptions)
  have hnone := hleft fun options hoptions => by
    obtain rfl := Option.some.inj ((get?_withOptions _).symm.trans hoptions)
    exact habuts
  exact ⟨hagain.mpr hnone, hnone⟩

/-- An option in two parts, and between them one whose directory in quotes has text directly after it. -/
def brokenOptions : Text := "/ext/external:I \"d\"ernal:I \"e\"".toList

/-- The two parts come together when the option between them is cut out: it is left, and a second
    conversion changes the item again. -/
theorem converted_leavesOption :
    let once := (withOptions brokenOptions).1.convertExternalIncludes.run (withOptions brokenOptions).2
    let twice := once.1.convertExternalIncludes.run once.2
    (once.1.properties once.2).get? optionsName = some "/external:I \"e\"".toList ∧
      Occurs option "/external:I \"e\"".toList ∧
      (twice.1.properties twice.2).get? optionsName = none ∧ twice ≠ once := by
  intro once twice
  have hleft : (once.1.properties once.2).get? optionsName
      = some "/external:I \"e\"".toList := by decide +kernel
  have hnone : (twice.1.properties twice.2).get? optionsName = none := by decide +kernel
  refine ⟨hleft, ⟨option, rfl, [], " \"e\"".toList, rfl⟩, hnone, fun hsame => ?_⟩
  rw [hsame, hleft] at hnone
  exact nomatch hnone

end Item

end CompilationDatabase
