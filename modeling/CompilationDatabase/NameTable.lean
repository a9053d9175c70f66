import CompilationDatabase.Text.Case.Lower
import CompilationDatabase.Text.Literal

/-!
# Name tables — values by name, in order of insertion

A `NameTable` holds one value for each name. Its `Matching` says when two spellings are the same
name: only if they are equal, or whenever they are equal in lower case. A table keeps the order in
which its names came in; a name that is set again keeps its place and takes the new spelling.

* `NameTable.keys_nodup` is part of the type: no two entries have the same name.
* `get?_insert` says what a look-up finds after a name is set, `get?_erase` after one is removed.
* A step that needs a name and finds none is refused with `Absent`.
-/

namespace CompilationDatabase

/-- When two spellings are the same name. -/
inductive Matching
  /-- Names are the same only as they are written. -/
  | exact
  /-- Names are the same in all letter cases. -/
  | ignoringCase
deriving DecidableEq, Repr

/-- The form that all spellings of a name share. -/
def Matching.key : Matching → Text → Text
  | .exact, name => name
  | .ignoringCase, name => name.lower

/-- A name as it was last spelled, and its value. -/
structure Entry where
  name : Text
  value : Text
deriving DecidableEq, Repr

/-- Values by name, in order of insertion. -/
structure NameTable (m : Matching) where
  /-- The entries, oldest first. -/
  entries : List Entry
  /-- No two entries have the same name. -/
  keys_nodup : (entries.map (m.key ·.name)).Nodup := by simp

/-- Why a step that needs an entry found none. -/
inductive Absent
  /-- The table has no entry under this key. -/
  | key (missing : Text)
  /-- The table is empty. -/
  | empty
deriving DecidableEq, Repr

/-- The missing key as a literal; an empty table has nothing to show. -/
def Absent.message : Absent → Text
  | .key missing => missing.literal
  | .empty => []

variable {m n : Matching}

namespace Entry

/-- Entries after a name is set: in its place if it is there, at the end if it is new. -/
def insert (m : Matching) (new : Entry) : List Entry → List Entry
  | [] => [new]
  | e :: es => if m.key e.name = m.key new.name then new :: es else e :: insert m new es

/-- Entries after a name is removed. -/
def erase (m : Matching) (key : Text) : List Entry → List Entry
  | [] => []
  | e :: es => if m.key e.name = key then es else e :: erase m key es

/-- The value of the entry with this key. -/
def find? (m : Matching) (key : Text) : List Entry → Option Text
  | [] => none
  | e :: es => if m.key e.name = key then some e.value else find? m key es

theorem mem_keys_insert {new : Entry} {es : List Entry} {k : Text} :
    k ∈ (insert m new es).map (m.key ·.name) ↔ k ∈ es.map (m.key ·.name) ∨ k = m.key new.name := by
  induction es with
  | nil => simp [insert]
  | cons e es ih =>
    rw [insert]
    split
    · next h => grind
    · grind

theorem nodup_keys_insert {new : Entry} {es : List Entry}
    (h : (es.map (m.key ·.name)).Nodup) : ((insert m new es).map (m.key ·.name)).Nodup := by
  induction es with
  | nil => simp [insert]
  | cons e es ih =>
    rw [List.map_cons, List.nodup_cons] at h
    rw [insert]
    split
    · next he => rw [List.map_cons, List.nodup_cons, ← he]; exact h
    · next he =>
      rw [List.map_cons, List.nodup_cons]
      refine ⟨fun hm => ?_, ih h.2⟩
      rcases mem_keys_insert.1 hm with hm | hm
      · exact h.1 hm
      · exact he hm

theorem mem_of_mem_erase {k key : Text} {es : List Entry}
    (h : k ∈ (erase m key es).map (m.key ·.name)) : k ∈ es.map (m.key ·.name) := by
  induction es with
  | nil => simp [erase] at h
  | cons e es ih =>
    rw [erase] at h
    split at h
    · exact List.mem_cons_of_mem _ h
    · rw [List.map_cons, List.mem_cons] at h ⊢
      exact h.imp_right ih

theorem nodup_keys_erase {key : Text} {es : List Entry}
    (h : (es.map (m.key ·.name)).Nodup) : ((erase m key es).map (m.key ·.name)).Nodup := by
  induction es with
  | nil => simp [erase]
  | cons e es ih =>
    rw [List.map_cons, List.nodup_cons] at h
    rw [erase]
    split
    · exact h.2
    · rw [List.map_cons, List.nodup_cons]
      exact ⟨fun hm => h.1 (mem_of_mem_erase hm), ih h.2⟩

theorem find?_insert {new : Entry} {es : List Entry} {key : Text} :
    find? m key (insert m new es)
      = if m.key new.name = key then some new.value else find? m key es := by
  induction es with
  | nil => simp [insert, find?]
  | cons e es ih =>
    rw [insert]
    grind [find?]

theorem find?_eq_none {es : List Entry} {key : Text} :
    find? m key es = none ↔ key ∉ es.map (m.key ·.name) := by
  induction es with
  | nil => simp [find?]
  | cons e es ih =>
    rw [find?]
    grind

/-- An entry that is found has the key and the value. -/
theorem exists_of_find? {es : List Entry} {key value : Text} (h : find? m key es = some value) :
    ∃ e ∈ es, m.key e.name = key ∧ e.value = value := by
  induction es with
  | nil => exact nomatch h
  | cons e es ih =>
    rw [find?] at h
    split at h
    · next he => exact ⟨e, List.mem_cons_self, he, Option.some.inj h⟩
    · obtain ⟨e', he', hkey, hvalue⟩ := ih h
      exact ⟨e', List.mem_cons_of_mem _ he', hkey, hvalue⟩

theorem find?_erase {es : List Entry} {key k : Text} (h : (es.map (m.key ·.name)).Nodup) :
    find? m k (erase m key es) = if k = key then none else find? m k es := by
  induction es with
  | nil => simp [erase, find?]
  | cons e es ih =>
    rw [List.map_cons, List.nodup_cons] at h
    rw [erase]
    split
    · next he =>
      subst he
      split
      · next hk => subst hk; exact find?_eq_none.2 h.1
      · next hk => rw [find?, if_neg (Ne.symm hk)]
    · next he => grind [find?]

end Entry

namespace NameTable

/-- The table without entries. -/
def empty : NameTable m := ⟨[], by simp⟩

instance : Inhabited (NameTable m) := ⟨empty⟩

/-- How many names the table holds. -/
def size (t : NameTable m) : Nat := t.entries.length

/-- The names as they were last spelled, in order. -/
def names (t : NameTable m) : List Text := t.entries.map (·.name)

/-- The keys of the names, in order. -/
def keys (t : NameTable m) : List Text := t.entries.map (m.key ·.name)

/-- The value of a name, in any spelling that matches. -/
def get? (t : NameTable m) (name : Text) : Option Text := Entry.find? m (m.key name) t.entries

/-- Whether the table holds a name. -/
def contains (t : NameTable m) (name : Text) : Bool := (t.get? name).isSome

/-- The value of a name, or the given one if the table does not hold it. -/
def getD (t : NameTable m) (name fallback : Text) : Text := (t.get? name).getD fallback

/-- The table with a name set to a value. -/
def insert (t : NameTable m) (name value : Text) : NameTable m :=
  ⟨Entry.insert m ⟨name, value⟩ t.entries, Entry.nodup_keys_insert t.keys_nodup⟩

/-- The table without a name. -/
def erase (t : NameTable m) (name : Text) : NameTable m :=
  ⟨Entry.erase m (m.key name) t.entries, Entry.nodup_keys_erase t.keys_nodup⟩

/-- The table with further names set, one after the other. -/
def insertAll (t : NameTable m) (new : List Entry) : NameTable m :=
  new.foldl (fun t e => t.insert e.name e.value) t

/-- The table of some entries, set one after the other. -/
def ofList (new : List Entry) : NameTable m := empty.insertAll new

/-- The table with the entries of another one set, in its order. -/
def update (t : NameTable m) (new : NameTable n) : NameTable m := t.insertAll new.entries

/-- The entries of a table under another matching. -/
def ofTable (t : NameTable n) : NameTable m := empty.update t

/-- The value of a name, which must be there. -/
def get (t : NameTable m) (name : Text) : Except Absent Text :=
  match t.get? name with
  | some value => .ok value
  | none => .error (.key (m.key name))

/-- The table without a name, which must be there, and the value that it had. -/
def pop (t : NameTable m) (name : Text) : Except Absent (Text × NameTable m) := do
  let value ← t.get name
  return (value, t.erase name)

/-- The table without its oldest entry, and that entry. -/
def popOldest (t : NameTable m) : Except Absent (Entry × NameTable m) :=
  match t.entries with
  | [] => .error .empty
  | e :: _ => .ok (e, t.erase e.name)

/-- The value of a name, which is set first if it is not there. -/
def findOrInsert (t : NameTable m) (name value : Text) : Text × NameTable m :=
  match t.get? name with
  | some old => (old, t)
  | none => (value, t.insert name value)

/-- Whether two tables hold the same spelled names with the same values, in whatever order. -/
def sameEntries (t : NameTable m) (u : NameTable n) : Bool :=
  t.size == u.size && t.entries.all u.entries.contains

/-- The table as one line: its entries as literals, in order. -/
def shown (t : NameTable m) : Text :=
  "Namespace(\x7b".toList
    ++ List.intercalate ", ".toList
        (t.entries.map fun e => e.name.literal ++ ':' :: ' ' :: e.value.literal)
    ++ "\x7d)".toList

/-- A look-up after a name is set finds the new value under every spelling of that name. -/
theorem get?_insert (t : NameTable m) (name value other : Text) :
    (t.insert name value).get? other
      = if m.key name = m.key other then some value else t.get? other :=
  Entry.find?_insert

/-- A look-up after a name is removed finds nothing under any spelling of that name. -/
theorem get?_erase (t : NameTable m) (name other : Text) :
    (t.erase name).get? other = if m.key other = m.key name then none else t.get? other :=
  Entry.find?_erase t.keys_nodup

/-- A look-up after names are set that differ finds the new value of a name, or else the old one. -/
theorem get?_insertAll {new : List Entry} (h : (new.map (m.key ·.name)).Nodup) (t : NameTable m)
    (name : Text) :
    (t.insertAll new).get? name = (Entry.find? m (m.key name) new).or (t.get? name) := by
  induction new generalizing t with
  | nil => rfl
  | cons e es ih =>
    rw [List.map_cons, List.nodup_cons] at h
    show ((t.insert e.name e.value).insertAll es).get? name = _
    rw [ih h.2, get?_insert, Entry.find?]
    split
    · next he =>
      rw [Entry.find?_eq_none.2 (he ▸ h.1)]
      rfl
    · rfl

@[simp] theorem get?_empty (name : Text) : (empty : NameTable m).get? name = none := rfl

end NameTable

end CompilationDatabase
