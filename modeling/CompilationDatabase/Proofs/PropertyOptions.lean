import CompilationDatabase.CommandLine.Arguments
import CompilationDatabase.Proofs.LowerCase

/-!
# Property options — arguments taken apart at the end of their prefix

A property option of another build tool is a prefix in any letter case and a value that is to be kept as
it is. The prefix is sought in the argument in lower case and cut off the argument itself, by its length.
`Rewrites` says what comes of a list of arguments, without lower case and without lengths.

* The cut is right, for as many characters of the argument spell the prefix that was found
  (`Text.prefix_lower_iff`): no character outside ASCII becomes a letter of a prefix.
* The prefix that is found does not hang on the order in which they are tried (`find?_of_begins`), for
  none of them starts another one.
-/

namespace CompilationDatabase.CommandLine

/-- Whether a text is one of the prefixes, its ASCII letters in any case. -/
def SpellsPrefix (start : Text) : Prop := start.map Char.toLower ∈ propertyPrefixes

/-- What arguments are rewritten to, one after the other. -/
inductive Rewrites : List Text → List Text → Prop
  | nil : Rewrites [] []
  /-- A prefix with a value is the property option and that value. -/
  | property {start value : Text} {arguments result : List Text} :
      SpellsPrefix start → Rewrites arguments result →
      Rewrites ((start ++ value) :: arguments) ("--property".toList :: value :: result)
  /-- An argument that does not start with a prefix stands for itself. -/
  | other {argument : Text} {arguments result : List Text} :
      (∀ start value, SpellsPrefix start → argument ≠ start ++ value) → Rewrites arguments result →
      Rewrites (argument :: arguments) (argument :: result)

/-! ## Prefixes -/

theorem propertyPrefixes_free :
    ∀ a ∈ propertyPrefixes, ∀ b ∈ propertyPrefixes, a <+: b → a = b := by
  decide

/-- A text starts with at most one of the prefixes. -/
theorem propertyPrefixes_unique {a b t : Text} (ha : a ∈ propertyPrefixes)
    (hb : b ∈ propertyPrefixes) (hat : a <+: t) (hbt : b <+: t) : a = b := by
  rcases List.prefix_or_prefix_of_prefix hat hbt with hab | hba
  · exact propertyPrefixes_free a ha b hb hab
  · exact (propertyPrefixes_free b hb a ha hba).symm

/-- The prefix that a text starts with is found, in whichever order prefixes are tried. -/
theorem find?_of_begins {starts : List Text} (hstarts : starts ⊆ propertyPrefixes) {found t : Text}
    (h : found ∈ starts) (ht : found <+: t) : starts.find? (·.isPrefixOf t) = some found := by
  cases hfind : starts.find? (·.isPrefixOf t) with
  | none => exact absurd (List.isPrefixOf_iff_prefix.mpr ht) (List.find?_eq_none.mp hfind found h)
  | some first =>
      -- one that is tried before starts the same text
      have hholds : first.isPrefixOf t = true := by simpa only using List.find?_some hfind
      have hfirst := hstarts (List.mem_of_find?_eq_some hfind)
      rw [propertyPrefixes_unique hfirst (hstarts h) (List.isPrefixOf_iff_prefix.mp hholds) ht]

theorem propertyPrefix_prefix_lower_iff {found argument : Text} (h : found ∈ propertyPrefixes) :
    found <+: argument.lower ↔
      ∃ start value, argument = start ++ value ∧ start.map Char.toLower = found := by
  have hwords : ∀ word ∈ propertyPrefixes,
      word.all fun c => c.toNat < 128 ∧ c ∉ Text.lowerStrays := by decide
  exact Text.prefix_lower_iff (hwords found h)

/-! ## One argument -/

theorem normalizeArgument_of_begins {found argument : Text} (h : found ∈ propertyPrefixes)
    (hlower : found <+: argument.lower) :
    normalizeArgument argument = ["--property".toList, argument.drop found.length] := by
  rw [normalizeArgument, find?_of_begins (List.Subset.refl _) h hlower]

/-- A prefix in any letter case is cut off at its end. -/
theorem normalizeArgument_append {start : Text} (h : SpellsPrefix start) (value : Text) :
    normalizeArgument (start ++ value) = ["--property".toList, value] := by
  have hlower := (propertyPrefix_prefix_lower_iff h).mpr ⟨start, value, rfl, rfl⟩
  rw [normalizeArgument_of_begins h hlower, List.length_map, List.drop_left]

theorem normalizeArgument_of_other {argument : Text}
    (h : ∀ start value, SpellsPrefix start → argument ≠ start ++ value) :
    normalizeArgument argument = [argument] := by
  have hfind : propertyPrefixes.find? (·.isPrefixOf argument.lower) = none := by
    refine List.find?_eq_none.mpr fun found hfound hlower => ?_
    obtain ⟨start, value, hcut, hstart⟩ :=
      (propertyPrefix_prefix_lower_iff hfound).mp (List.isPrefixOf_iff_prefix.mp hlower)
    have hspells : SpellsPrefix start := by rwa [SpellsPrefix, hstart]
    exact h start value hspells hcut
  rw [normalizeArgument, hfind]

/-! ## All arguments -/

theorem normalize_cons (argument : Text) (arguments : List Text) :
    normalize (argument :: arguments) = normalizeArgument argument ++ normalize arguments :=
  List.flatMap_cons

theorem Rewrites.normalize_eq {arguments result : List Text} (h : Rewrites arguments result) :
    normalize arguments = result := by
  induction h with
  | nil => rfl
  | property hstart _ ih =>
      rw [normalize_cons, normalizeArgument_append hstart, ih]
      rfl
  | other hother _ ih =>
      rw [normalize_cons, normalizeArgument_of_other hother, ih]
      rfl

/-- All arguments are rewritten to some. -/
theorem exists_rewrites (arguments : List Text) : ∃ result, Rewrites arguments result := by
  induction arguments with
  | nil => exact ⟨[], .nil⟩
  | cons argument arguments ih =>
      obtain ⟨result, hresult⟩ := ih
      by_cases hargument : ∃ start value, SpellsPrefix start ∧ argument = start ++ value
      · obtain ⟨start, value, hstart, rfl⟩ := hargument
        exact ⟨_, .property hstart hresult⟩
      · refine ⟨_, .other (fun start value hstart hcut => ?_) hresult⟩
        exact hargument ⟨start, value, hstart, hcut⟩

/-- **Property options keep their values.** In every list of arguments, each argument that is a prefix
    in any letter case and a value becomes the property option and exactly that value, and every other
    one stays as it is, in order. Whichever prefix an argument in lower case starts with, as many
    characters of the argument itself spell that prefix, and what follows these is the value. -/
theorem normalize_keeps_values :
    (∀ arguments result, normalize arguments = result ↔ Rewrites arguments result) ∧
    ∀ argument, ∀ found ∈ propertyPrefixes, found <+: argument.lower →
      (argument.take found.length).map Char.toLower = found ∧
        normalizeArgument argument = ["--property".toList, argument.drop found.length] := by
  refine ⟨fun arguments result => ⟨?_, Rewrites.normalize_eq⟩, fun argument found hfound hlower => ?_⟩
  · rintro rfl
    obtain ⟨result, hresult⟩ := exists_rewrites arguments
    rwa [hresult.normalize_eq]
  · refine ⟨?_, normalizeArgument_of_begins hfound hlower⟩
    obtain ⟨start, value, rfl, rfl⟩ := (propertyPrefix_prefix_lower_iff hfound).mp hlower
    rw [List.length_map, List.take_left]

/-- The value of a property option is kept where lower case would make it longer and write its last
    letter by its place, and an option without a colon in front of it stays as it is. -/
theorem normalize_keeps_values_longerInLowerCase :
    let argument : Text := "-Property:İ=ΟΔΟΣ".toList
    let found : Text := "-property:".toList
    found ∈ propertyPrefixes ∧ found <+: argument.lower ∧ argument.length < argument.lower.length ∧
      (argument.take found.length).map Char.toLower = found ∧
      normalizeArgument argument = ["--property".toList, "İ=ΟΔΟΣ".toList] ∧
      normalize ["-p".toList, argument] = ["-p".toList, "--property".toList, "İ=ΟΔΟΣ".toList] := by
  intro argument found
  have hfound : found ∈ propertyPrefixes := by decide
  have hlower : found <+: argument.lower := by decide +kernel
  have hlonger : argument.length < argument.lower.length := by decide +kernel
  have hvalue : argument.drop found.length = "İ=ΟΔΟΣ".toList := by decide
  have hother : ∀ start value, SpellsPrefix start → "-p".toList ≠ start ++ value := by
    intro start value hstart hcut
    have hlong : ∀ word ∈ propertyPrefixes, "-p".toList.length < word.length := by decide
    have hlength := hlong _ hstart
    rw [hcut, List.length_append, List.length_map] at hlength
    omega
  obtain ⟨hrewrites, hcuts⟩ := normalize_keeps_values
  obtain ⟨hspells, hcut⟩ := hcuts argument found hfound hlower
  rw [hvalue] at hcut
  have hstart : SpellsPrefix "-Property:".toList := by
    rw [SpellsPrefix]
    decide
  have hrewritten : Rewrites ["-p".toList, "-Property:".toList ++ "İ=ΟΔΟΣ".toList]
      ["-p".toList, "--property".toList, "İ=ΟΔΟΣ".toList] :=
    .other hother (.property hstart .nil)
  exact ⟨hfound, hlower, hlonger, hspells, hcut, (hrewrites _ _).mpr hrewritten⟩

end CompilationDatabase.CommandLine
