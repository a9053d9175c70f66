import CompilationDatabase.Proofs.Borrowing
import Mathlib.Data.List.Induction

/-!
# Copy on write — what items show over whole runs

A run starts from some tables of defaults and goes through operations in any order: items are made,
which borrow one of the tables or none, and written, and read. `copiesOnWrite_run` says what holds
after every run: defaults never change, a write to one item is seen by that item alone, and two items
share a table exactly as long as both still borrow the same one.

* A `Write` is one of the three changes to an item. `Write.Effective` says when it changes anything,
  and `Write.result` what the item shows then.
* `Tracked` is the invariant: it ties the tables of the items to the operations that were done.
  `Tracked.step` is one operation, and `tracked_run` the whole run.
-/

namespace CompilationDatabase

/-- A change to the properties of an item. -/
inductive Write
  /-- A property is set. -/
  | set (name value : Text)
  /-- A property is removed. -/
  | remove (name : Text)
  /-- External include options are moved to the include directories. -/
  | convert

namespace Write

/-- The change as a step on the tables. -/
def run (i : Item) : Write → StateM PropertyStore Item
  | set name value => i.setProperty name value
  | remove name => i.removeProperty name
  | convert => i.convertExternalIncludes

/-- Whether an item with some properties is changed: setting always does, removing if the property is
    there, converting if there is an external include option. -/
def Effective (p : PropertyTable) : Write → Prop
  | set _ _ => True
  | remove name => p.get? name ≠ none
  | convert => p.HasExternal

/-- The names of the properties that are written. -/
def names : Write → List Text
  | set name _ => [name]
  | remove name => [name]
  | convert => [Item.includesName, Item.optionsName]

/-- The properties after the change. -/
def result (p : PropertyTable) : Write → PropertyTable
  | set name value => p.insert name value
  | remove name => p.erase name
  | convert => p.converted

variable {i : Item} {s : PropertyStore}

/-- After a change an item has a table of its own, and shows the properties changed. -/
theorem shows (hi : i.Placed s) {w : Write} (hw : w.Effective (i.properties s)) :
    i.Shows s (w.result (i.properties s)) ((w.run i).run s).1 ((w.run i).run s).2 := by
  cases w with
  | set name value => exact Item.shows_setProperty hi name value
  | remove name => exact Item.shows_removeProperty hi name (Option.isSome_iff_ne_none.mpr hw)
  | convert => exact Item.shows_convert hi hw

/-- A change without effect does nothing. -/
theorem run_of_not_effective {w : Write} (hw : ¬ w.Effective (i.properties s)) :
    (w.run i).run s = (i, s) := by
  cases w with
  | set name value => exact absurd trivial hw
  | remove name => exact Item.removeProperty_of_absent (Decidable.not_not.mp hw)
  | convert => exact Item.convert_of_none hw

end Write

/-! ## What a change does not write -/

section Others

variable {m : Matching}

/-- Setting a name leaves the entries with other keys, and their order. -/
theorem Entry.filter_insert {new : Entry} {es : List Entry} {keys : List Text}
    (h : m.key new.name ∈ keys) :
    (Entry.insert m new es).filter (m.key ·.name ∉ keys) = es.filter (m.key ·.name ∉ keys) := by
  induction es with
  | nil => simp [Entry.insert, h]
  | cons e es ih =>
      rw [Entry.insert]
      by_cases he : m.key e.name = m.key new.name
      · have he' : m.key e.name ∈ keys := he ▸ h
        rw [if_pos he, List.filter_cons_of_neg (by simpa using h),
          List.filter_cons_of_neg (by simpa using he')]
      · rw [if_neg he, List.filter_cons, List.filter_cons, ih]

theorem Entry.filter_erase {key : Text} {es : List Entry} {keys : List Text} (h : key ∈ keys) :
    (Entry.erase m key es).filter (m.key ·.name ∉ keys) = es.filter (m.key ·.name ∉ keys) := by
  induction es with
  | nil => rfl
  | cons e es ih =>
      rw [Entry.erase]
      by_cases he : m.key e.name = key
      · have he' : m.key e.name ∈ keys := he ▸ h
        rw [if_pos he, List.filter_cons_of_neg (by simpa using he')]
      · rw [if_neg he, List.filter_cons, List.filter_cons, ih]

end Others

namespace PropertyTable

/-- The entries with names other than the given ones, in their order. -/
def others (p : PropertyTable) (names : List Text) : List Entry :=
  p.entries.filter (p.matching.key ·.name ∉ names.map p.matching.key)

theorem others_insert {p : PropertyTable} {name : Text} {names : List Text} (h : name ∈ names)
    (value : Text) : (p.insert name value).others names = p.others names :=
  Entry.filter_insert (List.mem_map_of_mem h)

theorem others_erase {p : PropertyTable} {name : Text} {names : List Text} (h : name ∈ names) :
    (p.erase name).others names = p.others names :=
  Entry.filter_erase (List.mem_map_of_mem h)

end PropertyTable

/-- A change leaves all properties that it does not write, and their order. -/
theorem Write.others_result (p : PropertyTable) (w : Write) :
    (w.result p).others w.names = p.others w.names := by
  cases w with
  | set name value => exact PropertyTable.others_insert List.mem_cons_self value
  | remove name => exact PropertyTable.others_erase List.mem_cons_self
  | convert =>
      have hincludes : Item.includesName ∈ Write.convert.names := List.mem_cons_self
      have hoptions : Item.optionsName ∈ Write.convert.names :=
        List.mem_cons_of_mem _ List.mem_cons_self
      show p.converted.others Write.convert.names = _
      rw [PropertyTable.converted]
      split
      · rw [PropertyTable.others_erase hoptions, PropertyTable.others_insert hincludes]
      · rw [PropertyTable.others_insert hoptions, PropertyTable.others_insert hincludes]

/-! ## Runs -/

/-- Items in the order of their creation, and the tables they refer to. -/
structure Collection where
  items : List Item
  store : PropertyStore

/-- What can be done with items, if there are so many tables of defaults. An item is known by its
    place in the order of creation. -/
inductive Operation (n : Nat)
  /-- An item is made; it borrows a table of defaults, or none. -/
  | create (type identity : Text) (defaults : Option (Fin n))
  /-- An item is changed. -/
  | write (item : Nat) (w : Write)
  /-- An item is looked at. -/
  | read (item : Nat)

namespace Operation

variable {n : Nat}

/-- The items and tables after an operation. What refers to no item does nothing. -/
def apply (c : Collection) : Operation n → Collection
  | create type identity defaults =>
      let made := (Item.create type identity (defaults.map (·.val))).run c.store
      ⟨c.items ++ [made.1], made.2⟩
  | write a w =>
      match c.items[a]? with
      | none => c
      | some i =>
          let written := (w.run i).run c.store
          ⟨c.items.set a written.1, written.2⟩
  | read _ => c

/-- The defaults with which an operation makes an item, if it makes one. -/
def lender? : Operation n → Option (Option (Fin n))
  | create _ _ defaults => some defaults
  | _ => none

end Operation

/-- The defaults with which the items are made, in the order of their creation. -/
def lenders {n : Nat} (ops : List (Operation n)) : List (Option (Fin n)) :=
  ops.filterMap Operation.lender?

namespace Collection

variable (defaults : List (NameTable .ignoringCase))

/-- No items yet, and the tables of defaults. -/
def start : Collection := ⟨[], ⟨(defaults.map (PropertyTable.mk .ignoringCase)).toArray⟩⟩

/-- The items and tables after some operations. -/
def run (ops : List (Operation defaults.length)) : Collection :=
  ops.foldl (fun c o => o.apply c) (start defaults)

/-- Some operation of a run was a write with an effect on the item at a place. -/
def Written (ops : List (Operation defaults.length)) (a : Nat) : Prop :=
  ∃ before w after i, ops = before ++ .write a w :: after ∧
    (run defaults before).items[a]? = some i ∧
    w.Effective (i.properties (run defaults before).store)

variable {defaults}

theorem run_concat (ops : List (Operation defaults.length)) (o : Operation defaults.length) :
    run defaults (ops ++ [o]) = o.apply (run defaults ops) := by
  rw [run, List.foldl_append]
  rfl

/-- A write that has an effect on an item changes that item, and shows it changed. -/
theorem apply_write_effective {c : Collection} {n a : Nat} {i : Item} {w : Write}
    (hi : c.items[a]? = some i) (hplaced : i.Placed c.store)
    (hw : w.Effective (i.properties c.store)) :
    ∃ j t, (Operation.write a w : Operation n).apply c = ⟨c.items.set a j, t⟩ ∧
      i.Shows c.store (w.result (i.properties c.store)) j t := by
  refine ⟨_, _, ?_, Write.shows hplaced hw⟩
  rw [Operation.apply, hi]

/-- A write without effect changes nothing. -/
theorem apply_write_idle {c : Collection} {n a : Nat} {i : Item} {w : Write}
    (hi : c.items[a]? = some i) (hw : ¬ w.Effective (i.properties c.store)) :
    (Operation.write a w : Operation n).apply c = c := by
  have hset : c.items.set a i = c.items := by
    obtain ⟨hlt, hget⟩ := List.getElem?_eq_some_iff.mp hi
    rw [← hget, List.set_getElem_self]
  rw [Operation.apply, hi]
  show (⟨c.items.set a ((w.run i).run c.store).1, ((w.run i).run c.store).2⟩ : Collection) = c
  rw [Write.run_of_not_effective hw, hset]

/-- An operation other than a write to it leaves an item as it is, and what it shows. -/
theorem apply_other {lent : Nat → Prop} {c : Collection} {n a : Nat} {i : Item}
    (h : Isolated lent c.items c.store) (hi : c.items[a]? = some i) {o : Operation n}
    (ho : ∀ w, o ≠ .write a w) :
    (o.apply c).items[a]? = some i ∧ i.properties (o.apply c).store = i.properties c.store := by
  cases o with
  | create type identity defaults =>
      refine ⟨?_, ?_⟩
      · show (c.items ++ [_])[a]? = some i
        rw [List.getElem?_append_left (List.getElem?_eq_some_iff.mp hi).1, hi]
      · cases defaults with
        | none => exact PropertyStore.table_push_of_lt (h.item_placed hi).lt _
        | some d => rfl
  | write b w =>
      have hab : b ≠ a := fun heq => ho w (by rw [heq])
      cases hb : c.items[b]? with
      | none =>
          rw [Operation.apply, hb]
          exact ⟨hi, rfl⟩
      | some k =>
          by_cases hw : w.Effective (k.properties c.store)
          · obtain ⟨j, t, happly, hshows⟩ := apply_write_effective (n := n) hb (h.item_placed hb) hw
            rw [happly]
            refine ⟨?_, h.properties_of_ne hb hshows.toTouches hi hab⟩
            show (c.items.set b j)[a]? = some i
            rw [List.getElem?_set_ne hab, hi]
          · rw [apply_write_idle hb hw]
            exact ⟨hi, rfl⟩
  | read b => exact ⟨hi, rfl⟩

/-! ## The invariant of a run -/

theorem lenders_concat {n : Nat} (ops : List (Operation n)) (o : Operation n) :
    lenders (ops ++ [o]) = lenders ops ++ o.lender?.toList := by
  rw [lenders, List.filterMap_append]
  cases h : o.lender? with
  | none => rw [List.filterMap_cons_none h]; rfl
  | some d => rw [List.filterMap_cons_some h]; rfl

theorem length_items (ops : List (Operation defaults.length)) :
    (run defaults ops).items.length = (lenders ops).length := by
  induction ops using List.reverseRecOn with
  | nil => rfl
  | append_singleton ops o ih =>
      rw [run_concat, lenders_concat, List.length_append, ← ih]
      cases o with
      | create type identity d => exact List.length_append
      | read a => rfl
      | write a w =>
          cases hi : (run defaults ops).items[a]? with
          | none => rw [Operation.apply, hi]; rfl
          | some i => rw [Operation.apply, hi]; exact List.length_set

theorem written_concat {ops : List (Operation defaults.length)}
    {o : Operation defaults.length} {a : Nat} :
    Written defaults (ops ++ [o]) a ↔ Written defaults ops a ∨
      ∃ w i, o = .write a w ∧ (run defaults ops).items[a]? = some i ∧
        w.Effective (i.properties (run defaults ops).store) := by
  constructor
  · rintro ⟨before, w, after, i, hops, hi, hw⟩
    rcases List.eq_nil_or_concat after with rfl | ⟨rest, last, rfl⟩
    · obtain ⟨rfl, ho⟩ := List.append_inj' hops rfl
      exact Or.inr ⟨w, i, List.singleton_inj.mp ho, hi, hw⟩
    · rw [List.concat_eq_append, ← List.cons_append, ← List.append_assoc] at hops
      obtain ⟨rfl, -⟩ := List.append_inj' hops rfl
      exact Or.inl ⟨before, w, rest, i, rfl, hi, hw⟩
  · rintro (⟨before, w, after, i, rfl, hi, hw⟩ | ⟨w, i, rfl, hi, hw⟩)
    · exact ⟨before, w, after ++ [o], i, by rw [List.append_assoc, List.cons_append], hi, hw⟩
    · exact ⟨ops, w, [], i, rfl, hi, hw⟩

/-- What is written has been made. -/
theorem Written.lt_length {ops : List (Operation defaults.length)} {a : Nat}
    (h : Written defaults ops a) : a < (run defaults ops).items.length := by
  obtain ⟨before, w, after, i, rfl, hi, -⟩ := h
  have hlt := (List.getElem?_eq_some_iff.mp hi).1
  rw [length_items] at hlt ⊢
  rw [lenders, List.filterMap_append, List.length_append]
  exact Nat.lt_of_lt_of_le hlt (Nat.le_add_right _ _)

/-- What ties the tables of the items to the operations that were done: none is shared by accident,
    defaults are as they were, an item without a table of its own borrows the one that it was made
    with, and has none of its own until it is written. -/
structure Tracked (defaults : List (NameTable .ignoringCase))
    (ops : List (Operation defaults.length)) (c : Collection) : Prop where
  isolated : Isolated (· < defaults.length) c.items c.store
  kept     : ∀ d : Fin defaults.length, c.store.table d = ⟨.ignoringCase, defaults[d]⟩
  borrowed : ∀ {a : Nat} {i : Item}, c.items[a]? = some i → i.owns = false →
    ∃ d : Fin defaults.length, (lenders ops)[a]? = some (some d) ∧ i.table = d
  written  : ∀ {a : Nat} {i : Item} {d : Fin defaults.length}, c.items[a]? = some i →
    (lenders ops)[a]? = some (some d) → (i.owns = true ↔ Written defaults ops a)

/-- Before any operation the tables are those of the defaults. -/
theorem table_start (d : Fin defaults.length) :
    (start defaults).store.table d = ⟨.ignoringCase, defaults[d]⟩ := by
  show (defaults.map (PropertyTable.mk .ignoringCase)).toArray[(d : Nat)]?.getD .empty = _
  rw [List.getElem?_toArray, List.getElem?_map, List.getElem?_eq_getElem d.2]
  rfl

theorem tracked_start : Tracked defaults [] (start defaults) where
  isolated := by
    have hsize : (start defaults).store.size = defaults.length := by
      show ((defaults.map (PropertyTable.mk .ignoringCase)).toArray).size = _
      rw [List.size_toArray, List.length_map]
    refine ⟨?_, nofun, ?_, nofun, nofun⟩
    · intro place hplace
      rw [table_start ⟨place, hsize ▸ hplace⟩]
    · intro place hplace
      exact hsize.symm ▸ hplace
  kept := table_start
  borrowed := nofun
  written := nofun

/-- An item that is made borrows its defaults, and has not been written. -/
theorem Tracked.create {ops : List (Operation defaults.length)}
    (h : Tracked defaults ops (run defaults ops)) (type identity : Text)
    (lender : Option (Fin defaults.length)) :
    Tracked defaults (ops ++ [.create type identity lender])
      ((Operation.create type identity lender).apply (run defaults ops)) := by
  have hlength := length_items ops
  have hlenders : lenders (ops ++ [.create type identity lender]) = lenders ops ++ [lender] :=
    lenders_concat ops _
  have hwritten : ∀ {a : Nat},
      Written defaults (ops ++ [.create type identity lender]) a ↔ Written defaults ops a := by
    intro a
    rw [written_concat]
    exact or_iff_left nofun
  refine ⟨?_, ?_, ?_, ?_⟩
  · refine h.isolated.create type identity ?_
    intro place hplace
    obtain ⟨d, -, rfl⟩ := Option.map_eq_some_iff.mp hplace
    exact d.2
  · intro d
    rw [← h.kept d]
    cases lender with
    | none => exact PropertyStore.table_push_of_lt (h.isolated.there d d.2) _
    | some _ => rfl
  · intro a i hi howns
    rw [hlenders]
    rcases getElem?_concat_eq_some hi with ⟨hold, hlt⟩ | ⟨rfl, rfl⟩
    · rw [List.getElem?_append_left (hlength ▸ hlt)]
      exact h.borrowed hold howns
    · rw [hlength, List.getElem?_concat_length]
      cases lender with
      | none => exact nomatch howns
      | some d => exact ⟨d, rfl, rfl⟩
  · intro a i d hi hd
    rw [hlenders] at hd
    rw [hwritten]
    rcases getElem?_concat_eq_some hi with ⟨hold, hlt⟩ | ⟨rfl, rfl⟩
    · rw [List.getElem?_append_left (hlength ▸ hlt)] at hd
      exact h.written hold hd
    · rw [hlength, List.getElem?_concat_length] at hd
      obtain rfl := Option.some.inj hd
      exact ⟨nofun, fun hw => absurd hw.lt_length (Nat.lt_irrefl _)⟩

/-- A write with an effect gives the item a table of its own, and leaves the others. -/
theorem Tracked.write {ops : List (Operation defaults.length)}
    (h : Tracked defaults ops (run defaults ops)) (a : Nat) (w : Write) :
    Tracked defaults (ops ++ [.write a w])
      ((.write a w : Operation defaults.length).apply (run defaults ops)) := by
  have hlenders : lenders (ops ++ [.write a w]) = lenders ops :=
    (lenders_concat ops _).trans (List.append_nil _)
  -- where nothing happens nothing has been written either
  have hidle : (∀ i, (run defaults ops).items[a]? = some i →
      ¬ w.Effective (i.properties (run defaults ops).store)) →
      Tracked defaults (ops ++ [.write a w]) (run defaults ops) := by
    intro hnone
    refine ⟨h.isolated, h.kept, hlenders ▸ h.borrowed, ?_⟩
    intro b i d hi hd
    rw [hlenders] at hd
    rw [h.written hi hd, written_concat]
    refine (or_iff_left ?_).symm
    rintro ⟨w', i', ho, hi', hw'⟩
    obtain ⟨rfl, rfl⟩ := Operation.write.inj ho
    exact hnone i' hi' hw'
  cases hi : (run defaults ops).items[a]? with
  | none =>
      rw [Operation.apply, hi]
      exact hidle fun i hi' => nomatch hi.symm.trans hi'
  | some i =>
      by_cases hw : w.Effective (i.properties (run defaults ops).store)
      · obtain ⟨j, t, happly, hshows⟩ :=
          apply_write_effective (n := defaults.length) hi (h.isolated.item_placed hi) hw
        rw [happly]
        have hself := getElem?_set_of_eq_some hi j
        refine ⟨h.isolated.set hi hshows.toTouches, ?_, ?_, ?_⟩
        · intro d
          rw [← h.kept d]
          exact h.isolated.table_of_lent hi hshows.toTouches d.2
        · intro b k hk howns
          rw [hlenders]
          by_cases hab : a = b
          · subst hab
            obtain rfl := Option.some.inj (hself.symm.trans hk)
            exact nomatch hshows.owns.symm.trans howns
          · exact h.borrowed (List.getElem?_set_ne hab ▸ hk) howns
        · intro b k d hk hd
          rw [hlenders] at hd
          rw [written_concat]
          by_cases hab : a = b
          · subst hab
            obtain rfl := Option.some.inj (hself.symm.trans hk)
            exact iff_of_true hshows.owns (Or.inr ⟨w, i, rfl, hi, hw⟩)
          · rw [h.written (List.getElem?_set_ne hab ▸ hk) hd]
            refine (or_iff_left ?_).symm
            rintro ⟨w', i', ho, -⟩
            exact hab (Operation.write.inj ho).1
      · rw [apply_write_idle hi hw]
        refine hidle fun i' hi' => ?_
        obtain rfl := Option.some.inj (hi.symm.trans hi')
        exact hw

theorem Tracked.step {ops : List (Operation defaults.length)}
    (h : Tracked defaults ops (run defaults ops)) (o : Operation defaults.length) :
    Tracked defaults (ops ++ [o]) (o.apply (run defaults ops)) := by
  cases o with
  | create type identity lender => exact h.create type identity lender
  | write a w => exact h.write a w
  | read a =>
      have hlenders : lenders (ops ++ [.read a]) = lenders ops :=
        (lenders_concat ops _).trans (List.append_nil _)
      refine ⟨h.isolated, h.kept, hlenders ▸ h.borrowed, ?_⟩
      intro b i d hi hd
      rw [hlenders] at hd
      rw [h.written hi hd, written_concat]
      exact (or_iff_left nofun).symm

theorem tracked_run (ops : List (Operation defaults.length)) :
    Tracked defaults ops (run defaults ops) := by
  induction ops using List.reverseRecOn with
  | nil => exact tracked_start
  | append_singleton ops o ih =>
      rw [run_concat]
      exact ih.step o

/-! ## What holds after every run -/

/-- What holds of the items after some operations, whatever they are. -/
structure CopiesOnWrite (defaults : List (NameTable .ignoringCase))
    (ops : List (Operation defaults.length)) : Prop where
  /-- The defaults are as they were. -/
  defaults_kept : ∀ d : Fin defaults.length,
    (run defaults ops).store.table d = ⟨.ignoringCase, defaults[d]⟩
  /-- An item that was made with defaults has tables of its own from its first write on, and shows the
      defaults until then. -/
  borrower : ∀ (a : Nat) (d : Fin defaults.length), (lenders ops)[a]? = some (some d) →
    ∃ i, (run defaults ops).items[a]? = some i ∧ (i.owns = true ↔ Written defaults ops a) ∧
      (¬ Written defaults ops a →
        i.properties (run defaults ops).store = ⟨.ignoringCase, defaults[d]⟩)
  /-- A further operation, unless it writes to an item, does not change what the item shows. -/
  unwritten : ∀ (o : Operation defaults.length) (a : Nat) (i : Item),
    (run defaults ops).items[a]? = some i → (∀ w, o ≠ .write a w) →
    (run defaults (ops ++ [o])).items[a]? = some i ∧
      i.properties (run defaults (ops ++ [o])).store = i.properties (run defaults ops).store
  /-- A further write shows the item with the names changed that it writes, and no others. -/
  effective : ∀ (a : Nat) (w : Write) (i : Item), (run defaults ops).items[a]? = some i →
    w.Effective (i.properties (run defaults ops).store) →
    ∃ j, (run defaults (ops ++ [.write a w])).items[a]? = some j ∧ j.owns = true ∧
      j.properties (run defaults (ops ++ [.write a w])).store
        = w.result (i.properties (run defaults ops).store) ∧
      (j.properties (run defaults (ops ++ [.write a w])).store).others w.names
        = (i.properties (run defaults ops).store).others w.names
  /-- A further write without effect changes nothing. -/
  idle : ∀ (a : Nat) (w : Write) (i : Item), (run defaults ops).items[a]? = some i →
    ¬ w.Effective (i.properties (run defaults ops).store) →
    run defaults (ops ++ [.write a w]) = run defaults ops
  /-- Two items share a table as long as they borrow the same defaults. -/
  shared : ∀ (a b : Nat) (i j : Item), (run defaults ops).items[a]? = some i →
    (run defaults ops).items[b]? = some j → a ≠ b →
    (i.table = j.table ↔ ∃ d : Fin defaults.length,
      ((lenders ops)[a]? = some (some d) ∧ ¬ Written defaults ops a) ∧
      ((lenders ops)[b]? = some (some d) ∧ ¬ Written defaults ops b))

/-- An item without a table of its own is one that was made with defaults and not written. -/
theorem Tracked.owns_eq_false {ops : List (Operation defaults.length)} {c : Collection}
    (h : Tracked defaults ops c) {a : Nat} {i : Item} (hi : c.items[a]? = some i)
    (d : Fin defaults.length) :
    i.owns = false ∧ i.table = d ↔
      (lenders ops)[a]? = some (some d) ∧ ¬ Written defaults ops a := by
  constructor
  · rintro ⟨howns, htable⟩
    obtain ⟨d', hd', htable'⟩ := h.borrowed hi howns
    obtain rfl : d = d' := Fin.ext (htable.symm.trans htable')
    refine ⟨hd', fun hw => ?_⟩
    exact nomatch howns.symm.trans ((h.written hi hd').mpr hw)
  · rintro ⟨hd, hw⟩
    have howns : i.owns = false := Bool.eq_false_iff.mpr fun howns => hw ((h.written hi hd).mp howns)
    obtain ⟨d', hd', htable'⟩ := h.borrowed hi howns
    obtain rfl := Option.some.inj (Option.some.inj (hd.symm.trans hd'))
    exact ⟨howns, htable'⟩

/-- Two items share a table if and only if both borrow it. -/
theorem Tracked.table_eq_iff {ops : List (Operation defaults.length)} {c : Collection}
    (h : Tracked defaults ops c) {a b : Nat} {i j : Item} (hi : c.items[a]? = some i)
    (hj : c.items[b]? = some j) (hab : a ≠ b) :
    i.table = j.table ↔ ∃ d : Fin defaults.length,
      ((lenders ops)[a]? = some (some d) ∧ ¬ Written defaults ops a) ∧
      ((lenders ops)[b]? = some (some d) ∧ ¬ Written defaults ops b) := by
  constructor
  · intro htable
    have hi' : i.owns = false :=
      Bool.eq_false_iff.mpr fun howns => h.isolated.apart hi hj hab howns htable
    have hj' : j.owns = false :=
      Bool.eq_false_iff.mpr fun howns => h.isolated.apart hj hi hab.symm howns htable.symm
    obtain ⟨d, -, hd⟩ := h.borrowed hi hi'
    exact ⟨d, (h.owns_eq_false hi d).mp ⟨hi', hd⟩,
      (h.owns_eq_false hj d).mp ⟨hj', htable.symm.trans hd⟩⟩
  · rintro ⟨d, hdi, hdj⟩
    exact ((h.owns_eq_false hi d).mpr hdi).2.trans ((h.owns_eq_false hj d).mpr hdj).2.symm

/-- Whatever is done with items, defaults never change, a write is seen by the item that is written
    and by no other, and a table is shared by those that still borrow it. -/
theorem copiesOnWrite_run (defaults : List (NameTable .ignoringCase))
    (ops : List (Operation defaults.length)) : CopiesOnWrite defaults ops where
  defaults_kept := (tracked_run ops).kept
  borrower a d hd := by
    have h := tracked_run ops
    have hlt : a < (run defaults ops).items.length :=
      length_items ops ▸ (List.getElem?_eq_some_iff.mp hd).1
    have hi := List.getElem?_eq_getElem hlt
    refine ⟨_, hi, h.written hi hd, fun hw => ?_⟩
    obtain ⟨-, htable⟩ := (h.owns_eq_false hi d).mpr ⟨hd, hw⟩
    rw [Item.properties, htable]
    exact h.kept d
  unwritten o a i hi ho := by
    rw [run_concat]
    exact apply_other (tracked_run ops).isolated hi ho
  effective a w i hi hw := by
    have hplaced := (tracked_run ops).isolated.item_placed hi
    obtain ⟨j, t, happly, hshows⟩ :=
      apply_write_effective (n := defaults.length) hi hplaced hw
    rw [run_concat, happly]
    refine ⟨j, getElem?_set_of_eq_some hi j, hshows.owns, hshows.shown, ?_⟩
    rw [show j.properties t = _ from hshows.shown, Write.others_result]
  idle a w i hi hw := by
    rw [run_concat]
    exact apply_write_idle hi hw
  shared a b i j hi hj hab := (tracked_run ops).table_eq_iff hi hj hab

/-- Defaults with an external include option. -/
def externalDefaults : NameTable .ignoringCase :=
  (NameTable.empty.insert "Optimization".toList "Disabled".toList).insert
    Item.optionsName "/external:I lib".toList

/-- Two items are made with these defaults; from one a property is removed that it does not have, and
    the other one is converted. -/
def oneConverted : List (Operation [externalDefaults].length) :=
  [.create "ClCompile".toList "a.cpp".toList (some 0),
   .create "ClCompile".toList "b.cpp".toList (some 0),
   .write 1 (.remove "WarningLevel".toList), .write 0 .convert]

/-- The converted item no longer shows the option, and the other one still shows the defaults. -/
theorem copiesOnWrite_oneConverted :
    ∃ i j, (run _ oneConverted).items[0]? = some i ∧ (run _ oneConverted).items[1]? = some j ∧
      i.owns = true ∧ j.owns = false ∧ i.table ≠ j.table ∧
      (i.properties (run _ oneConverted).store).get? Item.optionsName = none ∧
      j.properties (run _ oneConverted).store = ⟨.ignoringCase, externalDefaults⟩ := by
  have h := copiesOnWrite_run _ oneConverted
  obtain ⟨i, hi, hiw, -⟩ := h.borrower 0 0 rfl
  obtain ⟨j, hj, hjw, hjs⟩ := h.borrower 1 0 rfl
  have hwritten : Written _ oneConverted 0 := by
    refine ⟨oneConverted.take 3, .convert, [], _, rfl, rfl, "/external:I lib".toList, rfl, ?_⟩
    decide
  have howns : j.owns = false := by
    obtain rfl : { type := _, identity := _, table := 0, owns := false } = j :=
      Option.some.inj hj
    rfl
  have hunwritten : ¬ Written _ oneConverted 1 := by
    rw [← hjw, howns]
    nofun
  refine ⟨i, j, hi, hj, hiw.mpr hwritten, howns, ?_, ?_, hjs hunwritten⟩
  · rw [ne_eq, h.shared 0 1 i j hi hj Nat.zero_ne_one]
    rintro ⟨d, ⟨-, hnot⟩, -⟩
    exact hnot hwritten
  · obtain rfl := Option.some.inj hi
    decide +kernel

end Collection

end CompilationDatabase
