import CompilationDatabase.PropertyString
import CompilationDatabase.Proofs.Computations
import CompilationDatabase.Proofs.TableEntries
import Mathlib.Data.List.Induction

/-!
# Precedence — which of several values for a name counts

Macros come from the defaults, from the environment and from the property strings of the command line.
A name may be set in all of them, more than once in the same string, and in several spellings.

Between strings the later one counts. Within a string it is not the last entry for the name that
counts: a property string is read into a table that tells spellings apart, and in such a table a
spelling that is set again keeps its place. So the spelling counts that came in last, with the value
that it was given last (`settled?`). That is the last entry for the name unless a spelling comes back
after another one has come in.

The argument goes through the tables. `get?_insertAll_reverse` says what a table holds when entries are
set one after the other, `names_ofList` in which order a table holds the spellings of a string;
together they say what one string does to the macros (`get?_update_ofList`).
-/

namespace CompilationDatabase

/-! ## Entries one after the other -/

namespace Entry

/-- The entries of a name, in any letter case. -/
def isFor (name : Text) (e : Entry) : Bool := e.name.lower = name.lower

/-- The last of some entries for a name. -/
def last? (name : Text) (es : List Entry) : Option Entry := es.reverse.find? (·.isFor name)

/-- The spelling of a name that came in last: the one whose first entry is the latest. -/
def newest? (name : Text) (es : List Entry) : Option Text :=
  (es.map (·.name)).eraseDups.reverse.find? (·.lower = name.lower)

/-- The value that a property string with these entries settles for a name. -/
def settled? (name : Text) (es : List Entry) : Option Text := do
  let spelling ← newest? name es
  let e ← es.reverse.find? (·.name = spelling)
  return e.value

theorem last?_append (name : Text) (es es' : List Entry) :
    last? name (es ++ es') = (last? name es').or (last? name es) := by
  simp [last?]

/-- If the last entry for a name is in the newest spelling, then it is the one that counts. -/
theorem settled?_eq_last? {name : Text} {es : List Entry}
    (h : newest? name es = (last? name es).map (·.name)) :
    settled? name es = (last? name es).map (·.value) := by
  rw [settled?, h]
  cases hlast : last? name es with
  | none => rfl
  | some e =>
      obtain ⟨hfor, after, before, hsplit, hafter⟩ := List.find?_eq_some_iff_append.mp hlast
      have hname : e.name.lower = name.lower := by simpa [isFor] using hfor
      -- no entry after this one is for the name, so none is in its spelling
      have hfind : es.reverse.find? (·.name = e.name) = some e := by
        refine List.find?_eq_some_iff_append.mpr ⟨by simp, after, before, hsplit, ?_⟩
        intro e' he'
        have hother : e'.name.lower ≠ name.lower := by simpa [isFor] using hafter e' he'
        simp only [Bool.not_eq_true', decide_eq_false_iff_not]
        intro heq
        exact hother (heq ▸ hname)
      simp [hfind]

/-- If this is so in each of several strings, the last entry of all counts. -/
theorem findSome?_settled? {name : Text} {strings : List (List Entry)}
    (h : ∀ es ∈ strings, newest? name es = (last? name es).map (·.name)) :
    strings.reverse.findSome? (settled? name)
      = (last? name strings.flatten).map (·.value) := by
  induction strings with
  | nil => rfl
  | cons es strings ih =>
      obtain ⟨hes, hstrings⟩ := List.forall_mem_cons.mp h
      rw [List.reverse_cons, List.findSome?_append, ih hstrings, List.flatten_cons, last?_append,
        Option.map_or]
      simp [settled?_eq_last? hes]

end Entry

namespace NameTable

/-! ## The table of a property string -/

/-- A table that tells spellings apart holds each one where it came in. -/
theorem names_ofList (es : List Entry) :
    (ofList es : NameTable .exact).names = (es.map (·.name)).eraseDups := by
  induction es using List.reverseRecOn with
  | nil => rfl
  | append_singleton es e ih =>
      have hset : (ofList (es ++ [e]) : NameTable .exact) = (ofList es).insert e.name e.value := by
        rw [ofList, ofList, insertAll, insertAll, List.foldl_append]
        rfl
      have hkeys : ((ofList es).insert e.name e.value : NameTable .exact).names
          = if e.name ∈ (ofList es : NameTable .exact).names then (ofList es).names
            else (ofList es).names ++ [e.name] :=
        keys_insert (ofList es : NameTable .exact) e.name e.value
      rw [hset, hkeys, List.map_append, List.eraseDups_append, List.removeAll]
      simp only [ih, List.mem_eraseDups]
      by_cases he : e.name ∈ es.map (·.name)
      · rw [if_pos he, List.map_singleton, List.filter_cons_of_neg (by simpa using he)]
        exact (List.append_nil _).symm
      · rw [if_neg he, List.map_singleton, List.filter_cons_of_pos (by simpa using he)]
        rfl

/-- A table that tells spellings apart holds the last value of each. -/
theorem get?_ofList (es : List Entry) (name : Text) :
    (ofList es : NameTable .exact).get? name
      = (es.reverse.find? (·.name = name)).map (·.value) := by
  rw [ofList, get?_insertAll_reverse, Entry.find?_eq_map, get?_empty, Option.or_none]
  rfl

/-- **What a property string does to the macros.** Its table is set over them, entry by entry, and
    what is found under a name is the value that the string settles for it, if it has one. -/
theorem get?_update_ofList (t : NameTable .ignoringCase) (es : List Entry) (name : Text) :
    (t.update (ofList es : NameTable .exact)).get? name
      = (Entry.settled? name es).or (t.get? name) := by
  let table : NameTable .exact := ofList es
  have hnewest : Entry.newest? name es
      = (table.entries.reverse.find? (·.isFor name)).map (·.name) := by
    rw [Entry.newest?, ← names_ofList, names, ← List.map_reverse, List.find?_map]
    rfl
  rw [update, get?_insertAll_reverse]
  congr 1
  rw [Entry.find?_eq_map, Entry.settled?, hnewest]
  show (table.entries.reverse.find? (·.isFor name)).map _ = _
  cases hfound : table.entries.reverse.find? (·.isFor name) with
  | none => rfl
  | some e =>
      have hvalue : table.get? e.name = some e.value :=
        get?_eq_some_iff.mpr
          ⟨e, List.mem_reverse.mp (List.mem_of_find?_eq_some hfound), rfl, rfl⟩
      rw [get?_ofList] at hvalue
      obtain ⟨e', he', hvalue⟩ := Option.map_eq_some_iff.mp hvalue
      simp [he', hvalue]

end NameTable

/-! ## Strings one after the other -/

namespace PropertyString

/-- The entries of a property string, in the order in which they are written. -/
def written? (text : Text) : Option (List Entry) := entries? (text.pieces ';')

theorem parse_of_written {text : Text} {es : List Entry} (h : written? text = some es) :
    parse text = .ok (.ofList es) := by
  rw [written?] at h
  rw [parse, h]

end PropertyString

namespace Macros

open PropertyString (written?)

theorem ofEnvironment_of_written {text : Text} {es : List Entry} (h : written? text = some es) :
    ofEnvironment (some text) = .ok (.ofList es) := by
  cases text with
  | nil =>
      obtain rfl : [] = es := Option.some.inj h
      rfl
  | cons c cs => exact PropertyString.parse_of_written h

theorem seed_of_environment {environment : Option Text} {fromEnvironment : NameTable .exact}
    (h : ofEnvironment environment = .ok fromEnvironment) (properties : List (NameTable .exact)) :
    seed environment properties
      = .ok (properties.foldl (·.update ·) (defaults.update fromEnvironment)) := by
  rw [seed, h]
  rfl

/-- Tables of property strings, set one after the other. -/
theorem get?_updates (t : NameTable .ignoringCase) (strings : List (List Entry)) (name : Text) :
    ((strings.map fun es => (.ofList es : NameTable .exact)).foldl (·.update ·) t).get? name
      = (strings.reverse.findSome? (Entry.settled? name)).or (t.get? name) := by
  induction strings generalizing t with
  | nil => rfl
  | cons es strings ih =>
      rw [List.map_cons, List.foldl_cons, ih, NameTable.get?_update_ofList, List.reverse_cons,
        List.findSome?_append, Option.or_assoc]
      simp

theorem mapM_parse_of_written {properties : List Text} {strings : List (List Entry)}
    (h : properties.mapM written? = some strings) :
    properties.mapM PropertyString.parse = .ok (strings.map (.ofList ·)) := by
  induction properties generalizing strings with
  | nil =>
      rw [List.mapM_nil] at h
      cases h
      rfl
  | cons text properties ih =>
      rw [List.mapM_cons] at h
      obtain ⟨es, hes, h⟩ := Option.bind_eq_some_iff.mp h
      obtain ⟨rest, hrest, h⟩ := Option.bind_eq_some_iff.mp h
      cases h
      rw [List.mapM_cons, PropertyString.parse_of_written hes, ih hrest]
      rfl

/-- **Which value counts.** If all property strings can be read, so can the macros: a name has the
    value that the last string with an entry for it settles, the environment being the first
    string, or else its default. Where in each string the last entry for the name is in the newest
    spelling, that is the value of the last entry of all. -/
theorem seed_settles {environment : Option Text} {properties : List Text}
    {strings : List (List Entry)}
    (h : (environment.toList ++ properties).mapM written? = some strings) :
    ∃ tables macros, properties.mapM PropertyString.parse = .ok tables ∧
      seed environment tables = .ok macros ∧ ∀ name,
        macros.get? name
          = (strings.reverse.findSome? (Entry.settled? name)).or (defaults.get? name) ∧
        ((∀ es ∈ strings, Entry.newest? name es = (Entry.last? name es).map (·.name)) →
          macros.get? name
            = ((Entry.last? name strings.flatten).map (·.value)).or (defaults.get? name)) := by
  obtain ⟨fromEnvironment, rest, hrest, henvironment, hstrings⟩ :
      ∃ fromEnvironment rest, properties.mapM written? = some rest ∧
        ofEnvironment environment = .ok fromEnvironment ∧
        ∀ (t : NameTable .ignoringCase) (name : Text),
          ((rest.map fun es => (.ofList es : NameTable .exact)).foldl (·.update ·)
            (t.update fromEnvironment)).get? name
          = (strings.reverse.findSome? (Entry.settled? name)).or (t.get? name) := by
    cases environment with
    | none => exact ⟨.empty, strings, h, rfl, fun t => get?_updates t strings⟩
    | some text =>
        obtain ⟨es, hes, h⟩ := Option.bind_eq_some_iff.mp (List.mapM_cons.symm.trans h)
        obtain ⟨rest, hrest, h⟩ := Option.bind_eq_some_iff.mp h
        cases h
        exact ⟨.ofList es, rest, hrest, ofEnvironment_of_written hes,
          fun t => get?_updates t (es :: rest)⟩
  refine ⟨_, _, mapM_parse_of_written hrest, seed_of_environment henvironment _,
    fun name => ⟨hstrings defaults name, fun hnewest => ?_⟩⟩
  rw [hstrings, Entry.findSome?_settled? hnewest]

/-- The environment sets a macro of the defaults and one that is new, and the command line sets both
    once more, in other spellings and between empty entries. -/
theorem seed_settles_overridden :
    ∃ tables macros,
      [";PLATFORM=ARM64;".toList, "sdk=8;Extra=1".toList].mapM PropertyString.parse = .ok tables ∧
      seed (some "Platform=Win32;SDK=7".toList) tables = .ok macros ∧
      macros.get? "platform".toList = some "ARM64".toList ∧
      macros.get? "Sdk".toList = some "8".toList ∧
      macros.get? "extra".toList = some "1".toList ∧
      macros.get? "CONFIGURATION".toList = some "Debug".toList ∧
      macros.get? "ProjectName".toList = none := by
  let strings : List (List Entry) := [
    [⟨"Platform".toList, "Win32".toList⟩, ⟨"SDK".toList, "7".toList⟩],
    [⟨"PLATFORM".toList, "ARM64".toList⟩],
    [⟨"sdk".toList, "8".toList⟩, ⟨"Extra".toList, "1".toList⟩]]
  have hwritten : ((some "Platform=Win32;SDK=7".toList).toList
      ++ [";PLATFORM=ARM64;".toList, "sdk=8;Extra=1".toList]).mapM written? = some strings := by
    decide +kernel
  obtain ⟨tables, macros, htables, hseed, hget⟩ := seed_settles hwritten
  refine ⟨tables, macros, htables, hseed, ?_, ?_, ?_, ?_, ?_⟩
  · rw [(hget _).2 (by decide +kernel)]
    decide +kernel
  · rw [(hget _).2 (by decide +kernel)]
    decide +kernel
  · rw [(hget _).2 (by decide +kernel)]
    decide +kernel
  · rw [(hget _).1]
    decide +kernel
  · rw [(hget _).1]
    decide +kernel

/-- A spelling that comes back does not count: the last entry of the environment gives 3, and the
    macro is 2. -/
theorem seed_returningSpelling :
    ∃ strings macros, (some "A=1;a=2;A=3".toList).toList.mapM written? = some strings ∧
      seed (some "A=1;a=2;A=3".toList) [] = .ok macros ∧
      macros.get? ['A'] ≠ ((Entry.last? ['A'] strings.flatten).map (·.value)).or
        (defaults.get? ['A']) := by
  let string : List Entry := [⟨['A'], ['1']⟩, ⟨['a'], ['2']⟩, ⟨['A'], ['3']⟩]
  have hwritten : written? "A=1;a=2;A=3".toList = some string := by decide +kernel
  have hread := ofEnvironment_of_written hwritten
  have hvalue : (defaults.update (.ofList string : NameTable .exact)).get? ['A']
      ≠ ((Entry.last? ['A'] [string].flatten).map (·.value)).or (defaults.get? ['A']) := by
    decide +kernel
  generalize "A=1;a=2;A=3".toList = text at hwritten hread ⊢
  exact ⟨[string], _, by simp [hwritten],
    by rw [seed_of_environment hread, List.foldl_nil], hvalue⟩

end Macros

end CompilationDatabase
