import CompilationDatabase.NameTable

/-!
# Table entries — what a table holds after a change

A table holds at most one entry for each key. So an entry that is set takes the place of the one entry
with its key (`insert_of_mem`) or comes in at the end, and a name is removed by leaving out what has
its key (`erase_eq_filter`). An entry of a table is the one that is found under its name
(`get?_eq_some_iff`).
-/

namespace CompilationDatabase

variable {m : Matching}

namespace Entry

theorem find?_eq_map (key : Text) (es : List Entry) :
    find? m key es = (es.find? fun e => m.key e.name = key).map (·.value) := by
  induction es with
  | nil => rfl
  | cons e es ih =>
      rw [find?, List.find?_cons]
      by_cases he : m.key e.name = key <;> simp [he, ih]

theorem keys_insert (new : Entry) (es : List Entry) :
    (insert m new es).map (m.key ·.name)
      = if m.key new.name ∈ es.map (m.key ·.name) then es.map (m.key ·.name)
        else es.map (m.key ·.name) ++ [m.key new.name] := by
  induction es with
  | nil => rfl
  | cons e es ih =>
      rw [insert]
      by_cases he : m.key e.name = m.key new.name
      · simp [he]
      · simp only [he, if_false, List.map_cons, ih, List.mem_cons, Ne.symm he, false_or]
        split <;> rfl

/-- An entry whose key is there takes the place of the one with that key. -/
theorem insert_of_mem {new : Entry} {es : List Entry} (h : (es.map (m.key ·.name)).Nodup)
    (hmem : m.key new.name ∈ es.map (m.key ·.name)) :
    insert m new es = es.map fun d => if m.key d.name = m.key new.name then new else d := by
  induction es with
  | nil => exact nomatch hmem
  | cons e es ih =>
      rw [List.map_cons, List.nodup_cons] at h
      rw [insert, List.map_cons]
      by_cases he : m.key e.name = m.key new.name
      · -- no other entry has the key of the one in front
        rw [if_pos he, if_pos he]
        congr 1
        refine (List.map_id es).symm.trans (List.map_congr_left fun d hd => ?_)
        have hne : m.key d.name ≠ m.key new.name :=
          fun heq => h.1 (he.trans heq.symm ▸ List.mem_map_of_mem hd)
        rw [if_neg hne]
        rfl
      · rw [if_neg he, if_neg he]
        rw [List.map_cons, List.mem_cons, or_iff_right (Ne.symm he)] at hmem
        rw [ih h.2 hmem]

theorem erase_eq_filter {key : Text} {es : List Entry} (h : (es.map (m.key ·.name)).Nodup) :
    erase m key es = es.filter (m.key ·.name ≠ key) := by
  induction es with
  | nil => rfl
  | cons e es ih =>
      rw [List.map_cons, List.nodup_cons] at h
      rw [erase]
      by_cases he : m.key e.name = key
      · rw [if_pos he, List.filter_cons_of_neg (by simpa using he)]
        refine (List.filter_eq_self.mpr fun d hd => ?_).symm
        have hne : m.key d.name ≠ key :=
          fun heq => h.1 (he.trans heq.symm ▸ List.mem_map_of_mem hd)
        simpa using hne
      · rw [if_neg he, List.filter_cons_of_pos (by simpa using he), ih h.2]

end Entry

namespace NameTable

theorem keys_insert (t : NameTable m) (name value : Text) :
    (t.insert name value).keys
      = if m.key name ∈ t.keys then t.keys else t.keys ++ [m.key name] :=
  Entry.keys_insert ⟨name, value⟩ t.entries

/-- What is found under a name is the value of the entry with its key. -/
theorem get?_eq_some_iff {t : NameTable m} {name value : Text} :
    t.get? name = some value
      ↔ ∃ e ∈ t.entries, m.key e.name = m.key name ∧ e.value = value := by
  constructor
  · exact Entry.exists_of_find?
  · rintro ⟨e, he, hkey, rfl⟩
    rw [get?, Entry.find?_eq_map]
    have hnodup := t.keys_nodup
    generalize t.entries = es at he hnodup
    induction es with
    | nil => exact nomatch he
    | cons d es ih =>
        rw [List.map_cons, List.nodup_cons] at hnodup
        rcases List.mem_cons.mp he with rfl | he
        · simp [hkey]
        · have hne : m.key d.name ≠ m.key name :=
            fun heq => hnodup.1 (heq.trans hkey.symm ▸ List.mem_map_of_mem he)
          simpa [hne] using ih he hnodup.2

/-- When entries are set one after the other, the last one for a name is found. -/
theorem get?_insertAll_reverse (t : NameTable m) (new : List Entry) (name : Text) :
    (t.insertAll new).get? name = (Entry.find? m (m.key name) new.reverse).or (t.get? name) := by
  induction new generalizing t with
  | nil => rfl
  | cons e es ih =>
      show ((t.insert e.name e.value).insertAll es).get? name = _
      rw [ih, get?_insert, List.reverse_cons, Entry.find?_eq_map, Entry.find?_eq_map,
        List.find?_append]
      cases (es.reverse.find? fun e => m.key e.name = m.key name) with
      | some e' => rfl
      | none => by_cases he : m.key e.name = m.key name <;> simp [he]

end NameTable

end CompilationDatabase
