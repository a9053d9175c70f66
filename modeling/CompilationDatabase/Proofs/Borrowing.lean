import CompilationDatabase.Item.Basic
import CompilationDatabase.Proofs.ExternalOptions

/-!
# Borrowing — which tables a change to an item touches

An item borrows a table until it is changed for the first time; then it has a table of its own. The
operations of an item are steps on a store of tables, and this file says of each what it leaves alone
and what the item shows after it.

* `Item.Touches` is what every operation does to the store: tables that are there stay as they are,
  the item's own one excepted, and a table that the item did not have before is a new one.
* `Item.Shows` adds what the item shows then. `shows_setProperty`, `shows_removeProperty` and
  `shows_convert` are the three changes, `shows_own` the copy that comes before each of them.
* `Isolated` holds of items of which none owns a table that another one shows; `Isolated.set` and
  `Isolated.create` keep it.
-/

namespace CompilationDatabase

/-! ## Copies of tables -/

section Copies

variable {m : Matching}

/-- A name that is new comes in at the end. -/
theorem Entry.insert_of_new {new : Entry} {es : List Entry}
    (h : m.key new.name ∉ es.map (m.key ·.name)) : Entry.insert m new es = es ++ [new] := by
  induction es with
  | nil => rfl
  | cons e es ih =>
      rw [List.map_cons, List.mem_cons, not_or] at h
      rw [Entry.insert, if_neg (Ne.symm h.1), ih h.2]
      rfl

/-- Names that are all new come in at the end, in their order. -/
theorem NameTable.entries_insertAll {new : List Entry} (t : NameTable m)
    (h : ((t.entries ++ new).map (m.key ·.name)).Nodup) :
    (t.insertAll new).entries = t.entries ++ new := by
  induction new generalizing t with
  | nil => exact (List.append_nil _).symm
  | cons e es ih =>
      have hnew : m.key e.name ∉ t.entries.map (m.key ·.name) := by
        intro hmem
        rw [List.map_append, List.nodup_append] at h
        exact h.2.2 _ hmem _ (List.mem_map_of_mem List.mem_cons_self) rfl
      have hentries : (t.insert e.name e.value).entries = t.entries ++ [e] :=
        Entry.insert_of_new hnew
      show ((t.insert e.name e.value).insertAll es).entries = _
      rw [ih, hentries, List.append_assoc]
      · rfl
      · rw [hentries, List.append_assoc]
        exact h

/-- A copy with the same matching has the same entries. -/
theorem NameTable.ofTable_self (t : NameTable m) : (NameTable.ofTable t : NameTable m) = t := by
  have h : (NameTable.ofTable t : NameTable m).entries = t.entries :=
    (NameTable.empty : NameTable m).entries_insertAll t.keys_nodup
  cases t
  cases hc : (NameTable.ofTable _ : NameTable m)
  rw [hc] at h
  cases h
  rfl

/-- A table whose names match in all letter cases is copied as it is. -/
theorem PropertyTable.copy_self {p : PropertyTable} (h : p.matching = .ignoringCase) :
    p.copy = p := by
  obtain ⟨m, table⟩ := p
  obtain rfl : m = .ignoringCase := h
  exact congrArg (PropertyTable.mk .ignoringCase) table.ofTable_self

end Copies

/-! ## Tables of a store -/

namespace PropertyStore

/-- How many tables there are. -/
def size (s : PropertyStore) : Nat := s.tables.size

/-- The store with a table added. -/
def push (s : PropertyStore) (p : PropertyTable) : PropertyStore := ⟨s.tables.push p⟩

/-- The store with a table changed. -/
def modify (s : PropertyStore) (place : Nat) (f : PropertyTable → PropertyTable) : PropertyStore :=
  ⟨s.tables.modify place f⟩

/-- Whether the names of all tables match in all letter cases. -/
def AnyCase (s : PropertyStore) : Prop :=
  ∀ place < s.size, (s.table place).matching = .ignoringCase

@[simp] theorem size_push (s : PropertyStore) (p : PropertyTable) : (s.push p).size = s.size + 1 :=
  Array.size_push p

@[simp] theorem size_modify (s : PropertyStore) (place : Nat) (f : PropertyTable → PropertyTable) :
    (s.modify place f).size = s.size :=
  Array.size_modify

theorem table_push_size (s : PropertyStore) (p : PropertyTable) : (s.push p).table s.size = p := by
  show (s.tables.push p)[s.tables.size]?.getD .empty = p
  rw [Array.getElem?_push_size]
  rfl

theorem table_push_of_lt {s : PropertyStore} {place : Nat} (h : place < s.size)
    (p : PropertyTable) : (s.push p).table place = s.table place := by
  show (s.tables.push p)[place]?.getD .empty = _
  rw [Array.getElem?_push_lt h, table, Array.getElem?_eq_getElem h]

theorem table_modify_self {s : PropertyStore} {place : Nat} (h : place < s.size)
    (f : PropertyTable → PropertyTable) : (s.modify place f).table place = f (s.table place) := by
  show (s.tables.modify place f)[place]?.getD .empty = f (s.tables[place]?.getD .empty)
  rw [Array.getElem?_modify, if_pos rfl, Array.getElem?_eq_getElem h]
  rfl

theorem table_modify_of_ne {s : PropertyStore} {place other : Nat} (h : other ≠ place)
    (f : PropertyTable → PropertyTable) : (s.modify place f).table other = s.table other := by
  show (s.tables.modify place f)[other]?.getD .empty = s.tables[other]?.getD .empty
  rw [Array.getElem?_modify, if_neg (Ne.symm h)]

theorem AnyCase.push {s : PropertyStore} (h : s.AnyCase) {p : PropertyTable}
    (hp : p.matching = .ignoringCase) : (s.push p).AnyCase := by
  intro place hplace
  rw [size_push] at hplace
  rcases Nat.lt_succ_iff_lt_or_eq.mp hplace with hlt | rfl
  · rw [table_push_of_lt hlt]
    exact h place hlt
  · rw [table_push_size]
    exact hp

theorem AnyCase.modify {s : PropertyStore} (h : s.AnyCase) (place : Nat)
    {f : PropertyTable → PropertyTable} (hf : ∀ p, (f p).matching = p.matching) :
    (s.modify place f).AnyCase := by
  intro other hother
  rw [size_modify] at hother
  by_cases hne : other = place
  · subst hne
    rw [table_modify_self hother, hf]
    exact h other hother
  · rw [table_modify_of_ne hne]
    exact h other hother

end PropertyStore

/-! ## Changes to one item -/

namespace Item

/-- What a change to an item does to the store: tables stay, the item's own one excepted, and a table
    that the item has taken is a new one. -/
structure Touches (i : Item) (s : PropertyStore) (j : Item) (t : PropertyStore) : Prop where
  size    : s.size ≤ t.size
  frame   : ∀ place < s.size, (i.owns = true → place ≠ i.table) → t.table place = s.table place
  item    : j = i ∨ i.owns = false ∧
    ∃ place, s.size ≤ place ∧ place < t.size ∧ j = { i with table := place, owns := true }
  anyCase : s.AnyCase → t.AnyCase

/-- A change to an item after which it has a table of its own, and what it shows then. -/
structure Shows (i : Item) (s : PropertyStore) (p : PropertyTable) (j : Item)
    (t : PropertyStore) : Prop extends Touches i s j t where
  owns   : j.owns = true
  placed : j.table < t.size
  shown  : j.properties t = p

variable {i j k : Item} {s t u : PropertyStore} {p q : PropertyTable}

theorem Touches.refl (i : Item) (s : PropertyStore) : i.Touches s i s where
  size := Nat.le_refl _
  frame _ _ _ := rfl
  item := Or.inl rfl
  anyCase h := h

theorem Touches.trans (h : i.Touches s j t) (h' : j.Touches t k u) : i.Touches s k u := by
  refine ⟨Nat.le_trans h.size h'.size, ?_, ?_, fun hs => h'.anyCase (h.anyCase hs)⟩
  · intro place hplace hother
    rw [h'.frame place (Nat.lt_of_lt_of_le hplace h.size), h.frame place hplace hother]
    intro hj
    rcases h.item with rfl | ⟨-, new, hnew, -, rfl⟩
    · exact hother hj
    · exact Nat.ne_of_lt (Nat.lt_of_lt_of_le hplace hnew)
  · rcases h.item with rfl | ⟨hi, new, hnew, hlt, rfl⟩
    · rcases h'.item with rfl | ⟨hj, new, hnew, hlt, rfl⟩
      · exact Or.inl rfl
      · exact Or.inr ⟨hj, new, Nat.le_trans h.size hnew, hlt, rfl⟩
    · rcases h'.item with rfl | ⟨hj, -⟩
      · exact Or.inr ⟨hi, new, hnew, Nat.lt_of_lt_of_le hlt h'.size, rfl⟩
      · exact nomatch hj

/-- What an item shows after two changes is what it shows after the second. -/
theorem Shows.trans (h : i.Shows s p j t) (h' : j.Shows t q k u) : i.Shows s q k u :=
  { h.toTouches.trans h'.toTouches with owns := h'.owns, placed := h'.placed, shown := h'.shown }

/-- An item with a table of its own may change it in place. -/
theorem Shows.modify (h : i.Shows s p j t) (f : PropertyTable → PropertyTable)
    (hf : ∀ p, (f p).matching = p.matching) : i.Shows s (f p) j (t.modify j.table f) := by
  have hsize : (t.modify j.table f).size = t.size := PropertyStore.size_modify ..
  refine { size := hsize ▸ h.size, frame := ?_, item := ?_,
           anyCase := fun hs => (h.anyCase hs).modify _ hf, owns := h.owns,
           placed := hsize ▸ h.placed, shown := ?_ }
  · intro place hplace hother
    rw [PropertyStore.table_modify_of_ne, h.frame place hplace hother]
    rcases h.item with rfl | ⟨-, new, hnew, -, rfl⟩
    · exact hother h.owns
    · exact Nat.ne_of_lt (Nat.lt_of_lt_of_le hplace hnew)
  · rw [hsize]
    exact h.item
  · show (t.modify j.table f).table j.table = f p
    rw [PropertyStore.table_modify_self h.placed]
    exact congrArg f h.shown

/-- An item whose properties are in the store, and match in all letter cases. -/
structure Placed (i : Item) (s : PropertyStore) : Prop where
  lt      : i.table < s.size
  anyCase : (i.properties s).matching = .ignoringCase

/-- Taking a table of its own does not change what an item shows. -/
theorem shows_own (h : i.Placed s) :
    i.Shows s (i.properties s) (i.own.run s).1 (i.own.run s).2 := by
  cases howns : i.owns with
  | true =>
      have hrun : i.own.run s = (i, s) := by
        show ((if i.owns then pure i else _ : StateM PropertyStore Item) s) = _
        rw [howns]
        rfl
      rw [hrun]
      exact { Touches.refl i s with owns := howns, placed := h.lt, shown := rfl }
  | false =>
      have hrun : i.own.run s
          = ({ i with table := s.size, owns := true }, s.push (i.properties s).copy) := by
        show ((if i.owns then pure i else _ : StateM PropertyStore Item) s) = _
        rw [howns]
        rfl
      rw [hrun, PropertyTable.copy_self h.anyCase]
      refine { size := ?_, frame := ?_, item := ?_, anyCase := fun hs => hs.push h.anyCase,
               owns := rfl, placed := ?_, shown := ?_ }
      · exact (s.size_push _).symm ▸ Nat.le_succ _
      · intro place hplace _
        exact PropertyStore.table_push_of_lt hplace _
      · exact Or.inr ⟨howns, s.size, Nat.le_refl _, (s.size_push _).symm ▸ Nat.lt_succ_self _, rfl⟩
      · exact (s.size_push _).symm ▸ Nat.lt_succ_self _
      · exact PropertyStore.table_push_size s _

/-- An item shows what it showed before, and the property that was set. -/
theorem shows_setProperty (h : i.Placed s) (name value : Text) :
    i.Shows s ((i.properties s).insert name value)
      ((i.setProperty name value).run s).1 ((i.setProperty name value).run s).2 :=
  (shows_own h).modify (·.insert name value) fun _ => rfl

theorem Placed.setProperty (h : i.Placed s) (name value : Text) :
    ((i.setProperty name value).run s).1.Placed ((i.setProperty name value).run s).2 :=
  have hset := shows_setProperty h name value
  ⟨hset.placed, by rw [hset.shown]; exact h.anyCase⟩

/-- An item shows what it showed before, less the property that was removed. -/
theorem shows_removeProperty (h : i.Placed s) (name : Text)
    (hname : ((i.properties s).get? name).isSome = true) :
    i.Shows s ((i.properties s).erase name)
      ((i.removeProperty name).run s).1 ((i.removeProperty name).run s).2 := by
  have hrun : (i.removeProperty name).run s
      = ((i.own.run s).1, (i.own.run s).2.modify (i.own.run s).1.table (·.erase name)) := by
    show ((if ((i.properties s).get? name).isSome then _ else _ : StateM PropertyStore Item) s) = _
    rw [hname]
    rfl
  rw [hrun]
  exact (shows_own h).modify (·.erase name) fun _ => rfl

/-- Removing a property that is not there does nothing. -/
theorem removeProperty_of_absent {name : Text} (hname : (i.properties s).get? name = none) :
    (i.removeProperty name).run s = (i, s) := by
  show ((if ((i.properties s).get? name).isSome then _ else _ : StateM PropertyStore Item) s) = _
  rw [hname]
  rfl

end Item

/-! ## External include options -/

namespace PropertyTable

open Item (optionsName includesName)

/-- Whether the options among some properties name an external include directory. -/
def HasExternal (p : PropertyTable) : Prop :=
  ∃ options, p.get? optionsName = some options ∧
    Text.breakAtWord? ExternalIncludes.option options ≠ none

/-- Properties with the external include options moved to the include directories. -/
def converted (p : PropertyTable) : PropertyTable :=
  let found := ExternalIncludes.scan ((p.get? optionsName).getD [])
  let moved := p.insert includesName
    (found.1.foldl ExternalIncludes.prepend ((p.get? includesName).getD []))
  if found.2.strip = [] then moved.erase optionsName else moved.insert optionsName found.2.strip

/-- Setting the include directories leaves the options. -/
theorem get?_options_insert {p : PropertyTable} (h : p.matching = .ignoringCase) (value : Text) :
    (p.insert includesName value).get? optionsName = p.get? optionsName := by
  obtain ⟨m, table⟩ := p
  obtain rfl : m = .ignoringCase := h
  show (table.insert includesName value).get? optionsName = table.get? optionsName
  rw [NameTable.get?_insert, if_neg]
  show ¬ includesName.lower = optionsName.lower
  decide

end PropertyTable

namespace Item

variable {i : Item} {s : PropertyStore}

/-- Options without an external include are not touched by the conversion. -/
theorem convert_of_none (h : ¬ (i.properties s).HasExternal) :
    i.convertExternalIncludes.run s = (i, s) := by
  have hnone : Text.breakAtWord? ExternalIncludes.option
      (((i.properties s).get? optionsName).getD []) = none := by
    cases hoptions : (i.properties s).get? optionsName with
    | none => rfl
    | some options =>
        cases hfound : Text.breakAtWord? ExternalIncludes.option options with
        | none => exact hfound
        | some found => exact absurd ⟨options, hoptions, hfound ▸ nofun⟩ h
  simp only [convertExternalIncludes, StateT.run_bind, StateT.run_get, pure_bind,
    ExternalIncludes.takeOut_eq_scan, ExternalIncludes.scan_of_none hnone]
  rfl

/-- An item with an external include shows its properties converted. -/
theorem shows_convert (hi : i.Placed s) (h : (i.properties s).HasExternal) :
    i.Shows s (i.properties s).converted
      (i.convertExternalIncludes.run s).1 (i.convertExternalIncludes.run s).2 := by
  obtain ⟨options, hoptions, hsome⟩ := h
  obtain ⟨first, more, rest, hscan⟩ := ExternalIncludes.scan_of_some hsome
  have hscan' : ExternalIncludes.scan (((i.properties s).get? optionsName).getD [])
      = (first :: more, rest) := by rw [hoptions]; exact hscan
  -- first the include directories are set, and then the options are set or removed
  let includes := (first :: more).foldl ExternalIncludes.prepend
    (((i.properties s).get? includesName).getD [])
  have hfirst := shows_setProperty hi includesName includes
  have hplaced := hi.setProperty includesName includes
  have hrun : i.convertExternalIncludes.run s = ((do
      let i ← i.setProperty includesName includes
      if rest.strip = [] then i.removeProperty optionsName
      else i.setProperty optionsName rest.strip : StateM PropertyStore Item)).run s := by
    simp only [convertExternalIncludes, StateT.run_bind, StateT.run_get, pure_bind,
      ExternalIncludes.takeOut_eq_scan, hscan']
    rfl
  rw [hrun, PropertyTable.converted, hscan']
  by_cases hrest : rest.strip = []
  · have hpresent : ((((i.setProperty includesName includes).run s).1.properties
        ((i.setProperty includesName includes).run s).2).get? optionsName).isSome = true := by
      rw [hfirst.shown, PropertyTable.get?_options_insert hi.anyCase, hoptions]
      rfl
    have hremove := shows_removeProperty hplaced optionsName hpresent
    rw [hfirst.shown] at hremove
    simp only [if_pos hrest]
    exact hfirst.trans hremove
  · have hset := shows_setProperty hplaced optionsName rest.strip
    rw [hfirst.shown] at hset
    simp only [if_neg hrest]
    exact hfirst.trans hset

end Item

/-! ## Items that share a store -/

theorem getElem?_concat_eq_some {α : Type} {l : List α} {x y : α} {a : Nat}
    (h : (l ++ [x])[a]? = some y) : l[a]? = some y ∧ a < l.length ∨ a = l.length ∧ y = x := by
  rw [List.getElem?_append] at h
  split at h
  · next hlt => exact Or.inl ⟨h, hlt⟩
  · next hge =>
    have hlt := (List.getElem?_eq_some_iff.mp h).1
    rw [List.length_singleton] at hlt
    exact Or.inr ⟨by omega, List.mem_singleton.mp (List.mem_of_getElem? h)⟩

/-- What is put in a place that is there is found there. -/
theorem getElem?_set_of_eq_some {α : Type} {l : List α} {x : α} {a : Nat} (h : l[a]? = some x)
    (y : α) : (l.set a y)[a]? = some y :=
  List.getElem?_set_self (List.getElem?_eq_some_iff.mp h).1

/-- Items of which none owns a table that another one shows, nor one of those that are lent; the names
    of all tables match in all letter cases. -/
structure Isolated (lent : Nat → Prop) (items : List Item) (s : PropertyStore) : Prop where
  anyCase : s.AnyCase
  placed  : ∀ i ∈ items, i.table < s.size
  there   : ∀ place, lent place → place < s.size
  kept    : ∀ i ∈ items, i.owns = true → ¬ lent i.table
  apart   : ∀ {a b : Nat} {i j : Item}, items[a]? = some i → items[b]? = some j → a ≠ b →
    i.owns = true → i.table ≠ j.table

namespace Isolated

variable {lent : Nat → Prop} {items : List Item} {s t : PropertyStore} {a : Nat} {i j : Item}

theorem item_placed (h : Isolated lent items s) (hi : items[a]? = some i) : i.Placed s :=
  have hlt := h.placed i (List.mem_of_getElem? hi)
  ⟨hlt, h.anyCase _ hlt⟩

/-- A change to one item leaves what another one shows. -/
theorem properties_of_ne (h : Isolated lent items s) (hi : items[a]? = some i)
    (ht : i.Touches s j t) {b : Nat} {k : Item} (hk : items[b]? = some k) (hab : a ≠ b) :
    k.properties t = k.properties s := by
  refine ht.frame _ (h.item_placed hk).lt fun howns => ?_
  exact Ne.symm (h.apart hi hk hab howns)

/-- A change to an item leaves the tables that are lent. -/
theorem table_of_lent (h : Isolated lent items s) (hi : items[a]? = some i)
    (ht : i.Touches s j t) {place : Nat} (hplace : lent place) :
    t.table place = s.table place := by
  refine ht.frame _ (h.there place hplace) fun howns heq => ?_
  exact h.kept i (List.mem_of_getElem? hi) howns (heq ▸ hplace)

/-- A change to an item leaves the items isolated. -/
theorem set (h : Isolated lent items s) (hi : items[a]? = some i) (ht : i.Touches s j t) :
    Isolated lent (items.set a j) t := by
  have hplaced : j.table < t.size := by
    rcases ht.item with rfl | ⟨-, place, -, hlt, rfl⟩
    · exact Nat.lt_of_lt_of_le (h.item_placed hi).lt ht.size
    · exact hlt
  -- the table that the changed item owns is the one it owned before, or a new one
  have hfresh : ∀ place < s.size, (i.owns = true → i.table ≠ place) → j.owns = true →
      j.table ≠ place := by
    intro place hplace hold hj
    rcases ht.item with rfl | ⟨-, new, hnew, -, rfl⟩
    · exact hold hj
    · exact Ne.symm (Nat.ne_of_lt (Nat.lt_of_lt_of_le hplace hnew))
  have hself := getElem?_set_of_eq_some hi j
  refine ⟨ht.anyCase h.anyCase, ?_, ?_, ?_, ?_⟩
  · intro k hk
    rcases List.mem_or_eq_of_mem_set hk with hmem | rfl
    · exact Nat.lt_of_lt_of_le (h.placed k hmem) ht.size
    · exact hplaced
  · intro place hplace
    exact Nat.lt_of_lt_of_le (h.there place hplace) ht.size
  · intro k hk howns hlent
    rcases List.mem_or_eq_of_mem_set hk with hmem | rfl
    · exact h.kept k hmem howns hlent
    · refine hfresh _ (h.there _ hlent) (fun hi' heq => ?_) howns rfl
      exact h.kept i (List.mem_of_getElem? hi) hi' (heq ▸ hlent)
  · intro b c k l hk hl hbc howns
    by_cases hb : b = a
    · subst hb
      obtain rfl := Option.some.inj (hself.symm.trans hk)
      rw [List.getElem?_set_ne hbc] at hl
      exact hfresh _ (h.item_placed hl).lt (fun hi' => h.apart hi hl hbc hi') howns
    · rw [List.getElem?_set_ne (Ne.symm hb)] at hk
      by_cases hc : c = a
      · subst hc
        obtain rfl := Option.some.inj (hself.symm.trans hl)
        rcases ht.item with rfl | ⟨-, new, hnew, -, rfl⟩
        · exact h.apart hk hi hbc howns
        · exact Nat.ne_of_lt (Nat.lt_of_lt_of_le (h.item_placed hk).lt hnew)
      · rw [List.getElem?_set_ne (Ne.symm hc)] at hl
        exact h.apart hk hl hbc howns

/-- Items may change in all but their tables. -/
theorem relabel (h : Isolated lent items s) (hi : items[a]? = some i) (htable : j.table = i.table)
    (howns : j.owns = i.owns) : Isolated lent (items.set a j) s := by
  have hsame : ∀ {b : Nat} {k : Item}, (items.set a j)[b]? = some k →
      ∃ k', items[b]? = some k' ∧ k.table = k'.table ∧ k.owns = k'.owns := by
    intro b k hk
    by_cases hab : a = b
    · subst hab
      obtain rfl := Option.some.inj ((getElem?_set_of_eq_some hi j).symm.trans hk)
      exact ⟨i, hi, htable, howns⟩
    · rw [List.getElem?_set_ne hab] at hk
      exact ⟨k, hk, rfl, rfl⟩
  refine ⟨h.anyCase, ?_, h.there, ?_, ?_⟩
  · intro k hk
    obtain ⟨b, hb⟩ := List.mem_iff_getElem?.mp hk
    obtain ⟨k', hk', ht, -⟩ := hsame hb
    exact ht ▸ h.placed k' (List.mem_of_getElem? hk')
  · intro k hk hkowns
    obtain ⟨b, hb⟩ := List.mem_iff_getElem?.mp hk
    obtain ⟨k', hk', ht, ho⟩ := hsame hb
    exact ht ▸ h.kept k' (List.mem_of_getElem? hk') (ho ▸ hkowns)
  · intro b c k l hk hl hbc hkowns
    obtain ⟨k', hk', ht, ho⟩ := hsame hk
    obtain ⟨l', hl', ht', -⟩ := hsame hl
    rw [ht, ht']
    exact h.apart hk' hl' hbc (ho ▸ hkowns)

/-- A table that is added belongs to no item. -/
theorem push (h : Isolated lent items s) {p : PropertyTable} (hp : p.matching = .ignoringCase) :
    Isolated lent items (s.push p) where
  anyCase := h.anyCase.push hp
  placed i hi := Nat.lt_of_lt_of_le (h.placed i hi) (s.size_push p ▸ Nat.le_succ _)
  there place hplace := Nat.lt_of_lt_of_le (h.there place hplace) (s.size_push p ▸ Nat.le_succ _)
  kept := h.kept
  apart := h.apart

/-- A table that is in the store and that no item owns may be lent. -/
theorem lend (h : Isolated lent items s) {new : Nat} (hnew : new < s.size)
    (hother : ∀ i ∈ items, i.owns = true → i.table ≠ new) :
    Isolated (fun place => place = new ∨ lent place) items s where
  anyCase := h.anyCase
  placed := h.placed
  there place hplace := hplace.elim (fun heq => heq ▸ hnew) (h.there place)
  kept i hi howns hlent := hlent.elim (hother i hi howns) (h.kept i hi howns)
  apart := h.apart

theorem mono {lent' : Nat → Prop} (h : Isolated lent items s)
    (hlent : ∀ place, lent' place → lent place) : Isolated lent' items s where
  anyCase := h.anyCase
  placed := h.placed
  there place hplace := h.there place (hlent place hplace)
  kept i hi howns hplace := h.kept i hi howns (hlent _ hplace)
  apart := h.apart

/-- A further item joins the others if neither shows a table that the other one owns. -/
theorem append (h : Isolated lent items s) (hi : i.table < s.size)
    (hkept : i.owns = true → ¬ lent i.table)
    (hapart : ∀ j ∈ items, i.owns = true ∨ j.owns = true → j.table ≠ i.table) :
    Isolated lent (items ++ [i]) s := by
  refine ⟨h.anyCase, ?_, h.there, ?_, ?_⟩
  · intro j hj
    rcases List.mem_append.mp hj with hmem | hmem
    · exact h.placed j hmem
    · rw [List.mem_singleton] at hmem
      exact hmem ▸ hi
  · intro j hj
    rcases List.mem_append.mp hj with hmem | hmem
    · exact h.kept j hmem
    · rw [List.mem_singleton] at hmem
      exact hmem ▸ hkept
  · intro a b j k hj hk hab howns
    rcases getElem?_concat_eq_some hj with ⟨hj, -⟩ | ⟨ha, hji⟩
    · rcases getElem?_concat_eq_some hk with ⟨hk, -⟩ | ⟨-, hki⟩
      · exact h.apart hj hk hab howns
      · rw [hki]
        exact hapart j (List.mem_of_getElem? hj) (Or.inr howns)
    · rw [hji] at howns ⊢
      rcases getElem?_concat_eq_some hk with ⟨hk, -⟩ | ⟨hb, -⟩
      · exact Ne.symm (hapart k (List.mem_of_getElem? hk) (Or.inl howns))
      · exact absurd (ha.trans hb.symm) hab

/-- A new item joins the others, whether it borrows a table that is lent or none. -/
theorem create (h : Isolated lent items s) (type identity : Text) {defaults : Option Nat}
    (hlent : ∀ place, defaults = some place → lent place) :
    Isolated lent (items ++ [((Item.create type identity defaults).run s).1])
      ((Item.create type identity defaults).run s).2 := by
  cases defaults with
  | some place =>
      have hplace := hlent place rfl
      show Isolated lent (items ++ [{ type, identity, table := place, owns := false }]) s
      refine h.append (h.there place hplace) nofun ?_
      intro j hj howns heq
      have hj' : j.owns = true := howns.resolve_left nofun
      exact h.kept j hj hj' (heq ▸ hplace)
  | none =>
      show Isolated lent (items ++ [{ type, identity, table := s.size, owns := true }])
        (s.push .empty)
      refine (h.push rfl).append (s.size_push _ ▸ Nat.lt_succ_self _) ?_ ?_
      · intro _ hplace
        exact Nat.lt_irrefl _ (h.there _ hplace)
      · intro j hj _
        exact Nat.ne_of_lt (h.placed j hj)

end Isolated

end CompilationDatabase
