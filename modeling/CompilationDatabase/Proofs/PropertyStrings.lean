import CompilationDatabase.Proofs.Borrowing
import CompilationDatabase.Proofs.Pieces
import CompilationDatabase.Proofs.Precedence

/-!
# Property strings — which can be read, and what they say

A property string is cut at semicolons. Empty pieces are passed over, and every other piece has to be an
assignment: one equals sign, with something on both sides of it. `PropertyString.parse_exactly` says that
these are all the conditions, what the table of such a string holds and in which order, and that a table
that was written in this form is read again.

Each reader is an equivalence with the form that it reads: `entry?_eq_some_iff` for a piece,
`entries?_eq_some_iff` for the pieces of a string. So a string that is refused has no such form, and
what is written in it is read as it was meant.
-/

namespace CompilationDatabase

namespace Entry

/-- An entry as it stands in a property string. -/
def assignment (e : Entry) : Text := e.name ++ '=' :: e.value

/-- Whether an entry can be told from its assignment: both sides have something, and no equals sign. -/
structure IsPlain (e : Entry) : Prop where
  name  : e.name ≠ [] ∧ '=' ∉ e.name
  value : e.value ≠ [] ∧ '=' ∉ e.value

/-- Whether an entry can be told from a property string with its assignment: there is no semicolon in it
    either. -/
structure IsWritable (e : Entry) : Prop extends e.IsPlain where
  whole : ';' ∉ e.name ∧ ';' ∉ e.value

end Entry

namespace PropertyString

/-- Whether a piece has one equals sign, with something on both sides of it. -/
def IsAssignment (piece : Text) : Prop :=
  piece.count '=' = 1 ∧ piece.head? ≠ some '=' ∧ piece.getLast? ≠ some '='

instance (piece : Text) : Decidable (IsAssignment piece) :=
  inferInstanceAs (Decidable (_ ∧ _ ∧ _))

/-- A piece is an assignment if it is that of an entry. -/
theorem isAssignment_iff {piece : Text} :
    IsAssignment piece ↔ ∃ e : Entry, piece = e.assignment ∧ e.IsPlain := by
  constructor
  · rintro ⟨hcount, hstart, hend⟩
    obtain ⟨name, value, rfl⟩ := List.append_of_mem
      (List.count_pos_iff.mp (by omega : 0 < piece.count '='))
    rw [List.count_append, List.count_cons_self] at hcount
    have hname : name.count '=' = 0 := by omega
    have hvalue : value.count '=' = 0 := by omega
    refine ⟨⟨name, value⟩, rfl, ⟨?_, List.count_eq_zero.mp hname⟩, ?_, List.count_eq_zero.mp hvalue⟩
    · rintro rfl
      exact hstart rfl
    · rintro rfl
      exact hend List.getLast?_concat
  · rintro ⟨⟨name, value⟩, rfl, ⟨hname, hfree⟩, ⟨hvalue, hfree'⟩⟩
    refine ⟨?_, ?_, ?_⟩
    · rw [Entry.assignment, List.count_append, List.count_cons_self, List.count_eq_zero.mpr hfree,
        List.count_eq_zero.mpr hfree']
    · obtain ⟨c, name, rfl⟩ := List.exists_cons_of_ne_nil hname
      intro hhead
      exact hfree (Option.some.inj hhead ▸ List.mem_cons_self)
    · obtain ⟨value, c, rfl⟩ := (List.eq_nil_or_concat' value).resolve_left hvalue
      intro hlast
      rw [Entry.assignment, ← List.cons_append, ← List.append_assoc, List.getLast?_concat] at hlast
      exact hfree' (Option.some.inj hlast ▸ List.mem_append_right value List.mem_cons_self)

theorem entry?_eq_some_iff {piece : Text} {e : Entry} :
    entry? piece = some e ↔ piece = e.assignment ∧ e.IsPlain := by
  constructor
  · intro h
    rw [ entry?] at h
    split at h
    · next name value hbreak =>
      split at h
      · exact nomatch h
      · next hplain =>
        obtain rfl := Option.some.inj h
        obtain ⟨hpiece, hfree⟩ := Text.breakAt?_eq_some.mp hbreak
        rw [not_or, not_or] at hplain
        exact ⟨hpiece, ⟨hplain.1, hfree⟩, hplain.2⟩
    · exact nomatch h
  · rintro ⟨hpiece, hname, hvalue⟩
    rw [ entry?, Text.breakAt?_eq_some.mpr ⟨hpiece, hname.2⟩]
    simp [hname.1, hvalue.1, hvalue.2]

/-- Pieces are read if those that are not empty are the assignments of entries, and then as these. -/
theorem entries?_eq_some_iff {pieces : List Text} {es : List Entry} :
    entries? pieces = some es
      ↔ pieces.filter (· ≠ []) = es.map Entry.assignment ∧ ∀ e ∈ es, e.IsPlain := by
  induction pieces generalizing es with
  | nil =>
      constructor
      · rintro ⟨⟩
        exact ⟨rfl, nofun⟩
      · rintro ⟨hes, -⟩
        rw [List.map_eq_nil_iff.mp hes.symm]
        rfl
  | cons piece pieces ih =>
      by_cases hpiece : piece = []
      · subst hpiece
        rw [entries?, ih]
        rfl
      · have hrest : entries? (piece :: pieces) = do
            let e ← entry? piece
            let es ← entries? pieces
            return e :: es := entries?.eq_3 piece pieces hpiece
        rw [hrest, List.filter_cons_of_pos (by simpa using hpiece)]
        constructor
        · intro h
          obtain ⟨e, he, h⟩ := Option.bind_eq_some_iff.mp h
          obtain ⟨es', hes, h⟩ := Option.bind_eq_some_iff.mp h
          obtain rfl := Option.some.inj h
          obtain ⟨rfl, hplain⟩ := entry?_eq_some_iff.mp he
          obtain ⟨hpieces, heach⟩ := ih.mp hes
          exact ⟨by rw [hpieces, List.map_cons], List.forall_mem_cons.mpr ⟨hplain, heach⟩⟩
        · rintro ⟨hpieces, heach⟩
          cases es with
          | nil => exact nomatch hpieces
          | cons e es =>
              obtain ⟨hfirst, hpieces⟩ := List.cons.inj hpieces
              obtain ⟨hplain, heach⟩ := List.forall_mem_cons.mp heach
              rw [entry?_eq_some_iff.mpr ⟨hfirst, hplain⟩, ih.mpr ⟨hpieces, heach⟩]
              rfl

/-- The assignments of a string are found if all its pieces that are not empty are assignments. -/
theorem exists_written?_iff {text : Text} :
    (∃ es, written? text = some es) ↔ ∀ piece ∈ text.pieces ';', piece ≠ [] → IsAssignment piece := by
  have heach : (∀ piece ∈ text.pieces ';', piece ≠ [] → IsAssignment piece)
      ↔ ∀ piece ∈ (text.pieces ';').filter (· ≠ []), ∃ e : Entry, piece = e.assignment ∧ e.IsPlain := by
    simp only [List.mem_filter, decide_eq_true_eq, and_imp, isAssignment_iff]
  rw [heach]
  simp only [written?, entries?_eq_some_iff]
  generalize (text.pieces ';').filter (· ≠ []) = pieces
  constructor
  · rintro ⟨es, rfl, hplain⟩ piece hpiece
    obtain ⟨e, he, rfl⟩ := List.mem_map.mp hpiece
    exact ⟨e, rfl, hplain e he⟩
  · intro h
    induction pieces with
    | nil => exact ⟨[], rfl, List.forall_mem_nil _⟩
    | cons piece pieces ih =>
        obtain ⟨⟨e, rfl, hplain⟩, hpieces⟩ := List.forall_mem_cons.mp h
        obtain ⟨es, rfl, hes⟩ := ih hpieces
        exact ⟨e :: es, rfl, List.forall_mem_cons.mpr ⟨hplain, hes⟩⟩

theorem parse_eq_ok_iff {text : Text} {table : NameTable .exact} :
    parse text = .ok table ↔ ∃ es, written? text = some es ∧ .ofList es = table := by
  rw [parse, written?]
  cases entries? (text.pieces ';') with
  | none =>
      constructor
      · rintro ⟨⟩
      · rintro ⟨_, ⟨⟩, _⟩
  | some es =>
      constructor
      · rintro ⟨⟩
        exact ⟨es, rfl, rfl⟩
      · rintro ⟨es', hes, rfl⟩
        rw [Option.some.inj hes]

/-- Pieces without semicolons that are put together are found again, but for empty ones. -/
theorem filter_pieces_join {pieces : List Text} (h : ∀ piece ∈ pieces, ';' ∉ piece) :
    ((Text.join ';' pieces).pieces ';').filter (· ≠ []) = pieces.filter (· ≠ []) := by
  by_cases hpieces : pieces = []
  · rw [hpieces]
    rfl
  · rw [Text.pieces_join_of_not_mem hpieces h]

/-- The assignments of entries that can be written have no semicolons. -/
theorem written?_join {es : List Entry} (h : ∀ e ∈ es, e.IsWritable) {pieces : List Text}
    (hpieces : pieces.filter (· ≠ []) = es.map Entry.assignment) :
    written? (Text.join ';' pieces) = some es := by
  have hwhole : ∀ piece ∈ pieces, ';' ∉ piece := by
    intro piece hpiece
    by_cases hnil : piece = []
    · rw [hnil]
      exact List.not_mem_nil
    · obtain ⟨e, he, rfl⟩ := List.mem_map.mp
        (hpieces ▸ List.mem_filter.mpr ⟨hpiece, by simpa using hnil⟩)
      simpa [Entry.assignment] using (h e he).whole
  refine entries?_eq_some_iff.mpr ⟨?_, fun e he => (h e he).toIsPlain⟩
  rw [filter_pieces_join hwhole, hpieces]

/-- **Property strings are read exactly as they are written.** A string is read if every piece that is not
    empty is an assignment. Then its table holds the names of the assignments in the order in which they
    first stand there, each exactly as it is spelled, with the value of its last assignment. Any
    other string is reported. And a table of entries that can be written is read from their
    assignments, with any empty pieces between them. -/
theorem parse_exactly (text : Text) :
    ((∃ table, parse text = .ok table)
        ↔ ∀ piece ∈ text.pieces ';', piece ≠ [] → IsAssignment piece) ∧
      (∀ table, parse text = .ok table → ∃ es : List Entry,
        (text.pieces ';').filter (· ≠ []) = es.map Entry.assignment ∧ (∀ e ∈ es, e.IsPlain) ∧
        table.names = (es.map (·.name)).eraseDups ∧
        ∀ name, table.get? name = (es.reverse.find? (·.name = name)).map (·.value)) ∧
      ((¬ ∃ table, parse text = .ok table) →
        parse text = .error (.of (.invalidProperties text)) ∧
        (Cause.invalidProperties text).category = .usage) ∧
      ∀ (table : NameTable .exact) (pieces : List Text), (∀ e ∈ table.entries, e.IsWritable) →
        pieces.filter (· ≠ []) = table.entries.map Entry.assignment →
        parse (Text.join ';' pieces) = .ok table := by
  have hread : (∃ table, parse text = .ok table) ↔ ∃ es, written? text = some es := by
    simp only [parse_eq_ok_iff]
    exact ⟨fun ⟨_, es, hes, _⟩ => ⟨es, hes⟩, fun ⟨es, hes⟩ => ⟨_, es, hes, rfl⟩⟩
  refine ⟨hread.trans exists_written?_iff, ?_, ?_, ?_⟩
  · intro table htable
    obtain ⟨es, hes, rfl⟩ := parse_eq_ok_iff.mp htable
    obtain ⟨hpieces, hplain⟩ := entries?_eq_some_iff.mp hes
    exact ⟨es, hpieces, hplain, NameTable.names_ofList es, NameTable.get?_ofList es⟩
  · intro hnone
    refine ⟨?_, rfl⟩
    rw [parse]
    cases hes : entries? (text.pieces ';') with
    | none => rfl
    | some es => exact absurd (hread.mpr ⟨es, hes⟩) hnone
  · intro table pieces hwritable hpieces
    rw [parse_of_written (written?_join hwritable hpieces)]
    exact congrArg Except.ok table.ofTable_self

/-- A string with empty pieces, a name that is set again and another spelling of it, a string with an
    equals sign too many, and a table whose values hold blanks and a macro. -/
theorem parse_exactly_spellings :
    let text := ";b=2;A=1;;b=3;a= 4;".toList
    let refused := "A=1;b=2=3".toList
    let table : NameTable .exact := .ofList [⟨['x'], "$(y)".toList⟩, ⟨['X'], [' ']⟩]
    (∃ table, parse text = .ok table ∧ table.names = [['b'], ['A'], ['a']] ∧
        table.get? ['b'] = some ['3'] ∧ table.get? ['a'] = some " 4".toList) ∧
      parse refused = .error (.of (.invalidProperties refused)) ∧
      parse ";x=$(y);;;X= ".toList = .ok table := by
  intro text refused table
  obtain ⟨haccept, hread, -, -⟩ := parse_exactly text
  obtain ⟨haccept', -, hrefuse, hwritten⟩ := parse_exactly refused
  refine ⟨?_, ?_, ?_⟩
  · obtain ⟨read, htable⟩ := haccept.mpr (by decide)
    obtain ⟨es, hpieces, hplain, hnames, hget⟩ := hread read htable
    have hes : written? text
        = some [⟨['b'], ['2']⟩, ⟨['A'], ['1']⟩, ⟨['b'], ['3']⟩, ⟨['a'], " 4".toList⟩] := by
      decide +kernel
    obtain rfl := Option.some.inj ((entries?_eq_some_iff.mpr ⟨hpieces, hplain⟩).symm.trans hes)
    exact ⟨read, htable, hnames, hget ['b'], hget ['a']⟩
  · exact (hrefuse fun h => absurd (haccept'.mp h) (by decide)).1
  · refine hwritten table [[], "x=$(y)".toList, [], [], "X= ".toList] ?_ (by decide)
    exact List.forall_mem_cons.mpr ⟨⟨⟨by decide, by decide⟩, by decide⟩,
      List.forall_mem_singleton.mpr ⟨⟨by decide, by decide⟩, by decide⟩⟩

end PropertyString

end CompilationDatabase
