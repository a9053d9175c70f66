import CompilationDatabase.Proofs.Contents
import CompilationDatabase.Proofs.Inheritance
import CompilationDatabase.Proofs.ResolvedItems
import CompilationDatabase.Proofs.TableEntries
import CompilationDatabase.Proofs.Termination

/-!
# Overrides — items that extend what their type has by default

An item starts with the defaults for its type, and its element may set a property once more, with a
text around a reference to the default (`Extension`). Here two projects are compared, one with that
override and one without it. All other properties of the item are the same in both, in the same
places: this is `DifferIn`, a relation that setting another property keeps (`DifferIn.setProperty`).
So both walks end with the same items but for that one (`Scope.walk_replace`), and what is left is
to resolve it (`Scope.resolved_eq`).

`override_extends` puts this together with what resolving makes of an extended value.
-/

namespace CompilationDatabase

open Origin (listSeparator)

variable {m : Matching}

/-! ## Entries between others -/

namespace Entry

/-- A name is set before or after entries with other names, whatever these are. -/
theorem exists_insert_between (new : Entry) (before after : List Entry) :
    ∃ before' after', ∀ between : List Entry, m.key new.name ∉ between.map (m.key ·.name) →
      insert m new (before ++ (between ++ after)) = before' ++ (between ++ after') := by
  induction before with
  | nil =>
      refine ⟨[], insert m new after, fun between hbetween => ?_⟩
      induction between with
      | nil => rfl
      | cons e between ih =>
          rw [List.map_cons, List.mem_cons, not_or] at hbetween
          show insert m new (e :: (between ++ after)) = e :: (between ++ insert m new after)
          rw [insert, if_neg (Ne.symm hbetween.1)]
          exact congrArg (e :: ·) (ih hbetween.2)
  | cons d before ih =>
      by_cases hd : m.key d.name = m.key new.name
      · exact ⟨new :: before, after, fun between _ => if_pos hd⟩
      · obtain ⟨before', after', hinsert⟩ := ih
        refine ⟨d :: before', after', fun between hbetween => ?_⟩
        rw [List.cons_append, insert, if_neg hd, hinsert between hbetween]
        rfl

/-- Other names are found whatever stands between their entries. -/
theorem find?_between {key : Text} {e : Entry} (h : m.key e.name ≠ key)
    (before after : List Entry) :
    find? m key (before ++ e :: after) = find? m key (before ++ after) := by
  induction before with
  | nil => exact if_neg h
  | cons d before ih => rw [List.cons_append, List.cons_append, find?, find?, ih]

end Entry

/-! ## Items that differ in one property -/

namespace ItemValue

/-- The properties of two items are the same but for one, which has its place among the others. -/
structure DifferIn (before : List Entry) (e₀ e : Entry) (after : List Entry) (i₀ i : ItemValue) :
    Prop where
  matching : i.properties.matching = i₀.properties.matching
  first    : i₀.properties.entries = before ++ e₀ :: after
  second   : i.properties.entries = before ++ e :: after

variable {before after : List Entry} {e₀ e : Entry} {i₀ i : ItemValue}

theorem DifferIn.get?_eq (h : DifferIn before e₀ e after i₀ i) {name : Text}
    (hname₀ : name.lower ≠ e₀.name.lower) (hname : name.lower ≠ e.name.lower) :
    i.properties.get? name = i₀.properties.get? name := by
  show Entry.find? _ (i.properties.matching.key name) i.properties.entries
    = Entry.find? _ (i₀.properties.matching.key name) i₀.properties.entries
  rw [h.first, h.second, h.matching,
    Entry.find?_between (mt Matching.lower_eq_of_key_eq (Ne.symm hname)),
    Entry.find?_between (mt Matching.lower_eq_of_key_eq (Ne.symm hname₀))]

/-- Items that differ in one property differ in no more after another one is set. -/
theorem DifferIn.setProperty (h : DifferIn before e₀ e after i₀ i) {name : Text}
    (hname₀ : name.lower ≠ e₀.name.lower) (hname : name.lower ≠ e.name.lower) (value : Text) :
    ∃ before' after', DifferIn before' e₀ e after' (i₀.setProperty name value)
      (i.setProperty name value) := by
  obtain ⟨before', after', hinsert⟩ :=
    Entry.exists_insert_between (m := i₀.properties.matching) ⟨name, value⟩ before after
  have hother {d : Entry} (hd : name.lower ≠ d.name.lower) :
      i₀.properties.matching.key name ∉ [d].map (i₀.properties.matching.key ·.name) := by
    rw [List.map_singleton, List.mem_singleton]
    exact mt Matching.lower_eq_of_key_eq hd
  refine ⟨before', after', h.matching, ?_, ?_⟩
  · show Entry.insert _ ⟨name, value⟩ i₀.properties.entries = _
    rw [h.first]
    exact hinsert [e₀] (hother hname₀)
  · show Entry.insert i.properties.matching ⟨name, value⟩ i.properties.entries = _
    rw [h.second, h.matching]
    exact hinsert [e] (hother hname)

theorem DifferIn.extend (h : DifferIn before e₀ e after i₀ i) (hname : e₀.name.lower = e.name.lower)
    {others : List Entry} (hothers : ∀ o ∈ others, o.name.lower ≠ e.name.lower) :
    ∃ before' after', DifferIn before' e₀ e after' (i₀.extend others) (i.extend others) := by
  induction others generalizing before after i₀ i with
  | nil => exact ⟨before, after, h⟩
  | cons o others ih =>
      have ho := hothers o List.mem_cons_self
      have hget := h.get?_eq (hname ▸ ho) ho
      obtain ⟨before', after', hset⟩ := h.setProperty (hname ▸ ho) ho
        (Item.inherit o.name ((i₀.properties.get? o.name).getD []) o.value)
      -- both items set the property to the same value, since they had the same one before
      have hstep : DifferIn before' e₀ e after' (i₀.extend [o]) (i.extend [o]) := by
        show DifferIn before' e₀ e after' (i₀.setProperty o.name _)
          (i.setProperty o.name (Item.inherit o.name ((i.properties.get? o.name).getD []) o.value))
        rw [hget]
        exact hset
      exact ih hstep fun o' ho' => hothers o' (List.mem_cons_of_mem _ ho')

theorem get?_extend_of_ne (i : ItemValue) {others : List Entry} {name : Text}
    (h : ∀ o ∈ others, o.name.lower ≠ name.lower) :
    (i.extend others).properties.get? name = i.properties.get? name := by
  induction others generalizing i with
  | nil => rfl
  | cons o others ih =>
      have hstep : (i.extend [o]).properties.get? name = i.properties.get? name := by
        refine (i.properties.table.get?_insert o.name _ name).trans ?_
        rw [if_neg (mt Matching.lower_eq_of_key_eq (h o List.mem_cons_self))]
        rfl
      exact (ih _ fun o' ho' => h o' (List.mem_cons_of_mem _ ho')).trans hstep

/-- One more property is set among others: it takes the place that its default has. -/
theorem differIn_extend {first last : List Entry} {d : Text}
    (hothers : ∀ o ∈ first ++ last, o.name.lower ≠ e.name.lower)
    (hdefault : i.properties.get? e.name = some d) :
    ∃ spelling before after, spelling.lower = e.name.lower ∧
      DifferIn before ⟨spelling, d⟩ ⟨e.name, Item.inherit e.name d e.value⟩ after
        (i.extend (first ++ last)) (i.extend (first ++ e :: last)) := by
  have hget : (i.extend first).properties.get? e.name = some d :=
    (get?_extend_of_ne i fun o ho => hothers o (List.mem_append_left _ ho)).trans hdefault
  obtain ⟨⟨spelling, value⟩, hmem, hkey, hvalue⟩ := NameTable.get?_eq_some_iff.mp hget
  obtain rfl : d = value := hvalue.symm
  obtain ⟨before, after, hsplit⟩ := List.append_of_mem hmem
  have hstart : DifferIn before ⟨spelling, d⟩ ⟨e.name, Item.inherit e.name d e.value⟩ after
      (i.extend first) ((i.extend first).setProperty e.name (Item.inherit e.name d e.value)) :=
    ⟨rfl, hsplit, entries_setProperty hkey hsplit _⟩
  have hlower := Matching.lower_eq_of_key_eq hkey
  obtain ⟨before', after', hend⟩ := hstart.extend hlower fun o ho =>
    hothers o (List.mem_append_right _ ho)
  refine ⟨spelling, before', after', hlower, ?_⟩
  have hwithout : i.extend (first ++ last) = (i.extend first).extend last := List.foldl_append
  have hwith : i.extend (first ++ e :: last)
      = ((i.extend first).setProperty e.name (Item.inherit e.name d e.value)).extend last := by
    rw [extend, List.foldl_append, List.foldl_cons]
    show ItemValue.extend (ItemValue.setProperty (i.extend first) e.name (Item.inherit e.name
      (((i.extend first).properties.get? e.name).getD []) e.value)) last = _
    rw [hget]
    rfl
  rw [hwithout, hwith]
  exact hend

end ItemValue

/-! ## Elements that extend a property -/

/-- An item element that extends a property, among others that it sets. -/
structure ExtendingElement where
  type : Text
  identity : Text
  condition : Option Text
  first : List PropertyElement
  extension : Extension
  /-- The condition under which the property is extended. -/
  when : Option Text
  last : List PropertyElement

namespace ExtendingElement

/-- The element as it is written. -/
def element (e : ExtendingElement) : ItemElement :=
  ⟨e.type, e.identity, e.condition,
    e.first ++ ⟨e.extension.property, e.when, e.extension.text⟩ :: e.last⟩

/-- The element without the override. -/
def plain (e : ExtendingElement) : ItemElement :=
  ⟨e.type, e.identity, e.condition, e.first ++ e.last⟩

end ExtendingElement

namespace Scope

variable {s s' : Scope}

/-- A table after one more element. -/
def collectOne (s : Scope) (table : NameTable .ignoringCase) (e : PropertyElement) :
    Except Fault (NameTable .ignoringCase) := do
  if ← s.holds e.condition then return table.insert e.name e.value
  else return table

theorem collect_eq (s : Scope) (elements : List PropertyElement) :
    s.collect elements = elements.foldlM s.collectOne .empty := rfl

theorem collectOne_of_holds {t : NameTable .ignoringCase} {e : PropertyElement} {active : Bool}
    (h : s.holds e.condition = .ok active) :
    s.collectOne t e = .ok (if active then t.insert e.name e.value else t) := by
  rw [collectOne, h]
  cases active <;> rfl

theorem exists_of_collectOne {t t' : NameTable .ignoringCase} {e : PropertyElement}
    (h : s.collectOne t e = .ok t') :
    ∃ active, s.holds e.condition = .ok active ∧
      t' = if active then t.insert e.name e.value else t := by
  obtain ⟨active, hactive, -⟩ := ok_of_bind h
  exact ⟨active, hactive, Except.ok.inj (h.symm.trans (collectOne_of_holds hactive))⟩

/-- No element that is active sets a property, in any letter case. -/
def LeavesOut (s : Scope) (property : Text) (elements : List PropertyElement) : Prop :=
  ∀ e ∈ elements, s.holds e.condition ≠ .ok false → e.name.lower ≠ property.lower

/-- A property that is left out does not come in. -/
theorem not_mem_keys_of_collectOne {t t' : NameTable .ignoringCase} {property : Text}
    {e : PropertyElement} (hout : s.LeavesOut property [e]) (ht : property.lower ∉ t.keys)
    (h : s.collectOne t e = .ok t') : property.lower ∉ t'.keys := by
  obtain ⟨active, hactive, rfl⟩ := exists_of_collectOne h
  cases active with
  | false => exact ht
  | true =>
      intro hmem
      have hname := hout e List.mem_cons_self (hactive ▸ nofun)
      rcases Entry.mem_keys_insert.mp hmem with hmem | heq
      · exact ht hmem
      · exact hname heq.symm

theorem not_mem_keys_of_foldlM {t t' : NameTable .ignoringCase} {property : Text}
    {elements : List PropertyElement} (hout : s.LeavesOut property elements)
    (ht : property.lower ∉ t.keys) (h : elements.foldlM s.collectOne t = .ok t') :
    property.lower ∉ t'.keys := by
  induction elements generalizing t with
  | nil => cases h; exact ht
  | cons e elements ih =>
      obtain ⟨hfirst, hothers⟩ := List.forall_mem_cons.mp hout
      rw [List.foldlM_cons] at h
      obtain ⟨t₁, hstep, hrest⟩ := ok_of_bind h
      exact ih hothers (not_mem_keys_of_collectOne (List.forall_mem_singleton.mpr hfirst) ht hstep)
        hrest

/-- What another element sets, it sets as well if a property is there already, and leaves that in
    its place. -/
theorem collectOne_between {t₀ t₀' t : NameTable .ignoringCase} {before after : List Entry}
    {x : Entry} {e : PropertyElement} (hout : s.LeavesOut x.name [e])
    (ht₀ : t₀.entries = before ++ after) (ht : t.entries = before ++ x :: after)
    (h : s.collectOne t₀ e = .ok t₀') :
    ∃ before' after' t', s.collectOne t e = .ok t' ∧
      t₀'.entries = before' ++ after' ∧ t'.entries = before' ++ x :: after' := by
  obtain ⟨active, hactive, rfl⟩ := exists_of_collectOne h
  cases active with
  | false => exact ⟨before, after, t, collectOne_of_holds hactive, ht₀, ht⟩
  | true =>
      have hname := hout e List.mem_cons_self (hactive ▸ nofun)
      obtain ⟨before', after', hinsert⟩ :=
        Entry.exists_insert_between (m := .ignoringCase) ⟨e.name, e.value⟩ before after
      refine ⟨before', after', t.insert e.name e.value, collectOne_of_holds hactive, ?_, ?_⟩
      · show Entry.insert _ _ t₀.entries = _
        rw [ht₀]
        exact hinsert [] List.not_mem_nil
      · show Entry.insert _ _ t.entries = _
        rw [ht]
        exact hinsert [x] (mt List.mem_singleton.mp hname)

theorem foldlM_collectOne_between {t₀ t₀' t : NameTable .ignoringCase} {before after : List Entry}
    {x : Entry} {elements : List PropertyElement} (hout : s.LeavesOut x.name elements)
    (ht₀ : t₀.entries = before ++ after) (ht : t.entries = before ++ x :: after)
    (h : elements.foldlM s.collectOne t₀ = .ok t₀') :
    ∃ before' after' t', elements.foldlM s.collectOne t = .ok t' ∧
      t₀'.entries = before' ++ after' ∧ t'.entries = before' ++ x :: after' := by
  induction elements generalizing before after t₀ t with
  | nil =>
      cases h
      exact ⟨before, after, t, rfl, ht₀, ht⟩
  | cons e elements ih =>
      obtain ⟨hfirst, hothers⟩ := List.forall_mem_cons.mp hout
      rw [List.foldlM_cons] at h
      obtain ⟨t₁, hstep, hrest⟩ := ok_of_bind h
      obtain ⟨before₁, after₁, t₁', hstep', ht₁, ht₁'⟩ :=
        collectOne_between (List.forall_mem_singleton.mpr hfirst) ht₀ ht hstep
      obtain ⟨before', after', t', hrest', hentries⟩ := ih hothers ht₁ ht₁' hrest
      refine ⟨before', after', t', ?_, hentries⟩
      rw [List.foldlM_cons, hstep']
      exact hrest'

/-- An element more sets one property more, among the others. -/
theorem collect_between {first last : List PropertyElement} {x : PropertyElement}
    {t₀ : NameTable .ignoringCase} (hactive : s.holds x.condition = .ok true)
    (hout : s.LeavesOut x.name (first ++ last)) (h : s.collect (first ++ last) = .ok t₀) :
    ∃ before after t, s.collect (first ++ x :: last) = .ok t ∧ t₀.entries = before ++ after ∧
      t.entries = before ++ ⟨x.name, x.value⟩ :: after ∧ x.name.lower ∉ t₀.keys := by
  have hnone : x.name.lower ∉ t₀.keys := not_mem_keys_of_foldlM hout List.not_mem_nil h
  rw [collect_eq, List.foldlM_append] at h
  obtain ⟨t₁, hfirst, hlast⟩ := ok_of_bind h
  have hnone₁ : x.name.lower ∉ t₁.keys := not_mem_keys_of_foldlM
    (fun e he => hout e (List.mem_append_left _ he)) List.not_mem_nil hfirst
  have hentries : (t₁.insert x.name x.value).entries = t₁.entries ++ [⟨x.name, x.value⟩] :=
    Entry.insert_of_new hnone₁
  obtain ⟨before, after, t, hrest, ht₀, ht⟩ := foldlM_collectOne_between
    (x := ⟨x.name, x.value⟩) (fun e he => hout e (List.mem_append_right _ he))
    (List.append_nil _).symm hentries hlast
  refine ⟨before, after, t, ?_, ht₀, ht, hnone⟩
  rw [collect_eq, List.foldlM_append, hfirst]
  show (x :: last).foldlM s.collectOne t₁ = _
  rw [List.foldlM_cons, collectOne, hactive]
  exact hrest

/-! ## The item that an element includes -/

/-- An element includes an item in a scope, and of the properties that have a default for its type
    it overrides one, once. -/
structure Extends (s : Scope) (e : ExtendingElement) (default : Text) : Prop where
  included  : s.holds e.condition = .ok true
  overrides : s.holds e.when = .ok true
  once      : s.LeavesOut e.extension.property (e.first ++ e.last)
  inherits  : (s.definitions (Builder.definedType e.type)).bind (·.get? e.extension.property)
    = some default

/-- An element that extends a property includes the same item as without, but for that property. -/
theorem item?_extends {e : ExtendingElement} {d : Text} (he : s.Extends e d)
    {made : Option ItemValue} (h : s.item? e.plain = .ok made) :
    ∃ i₀ i, made = some i₀ ∧ s.item? e.element = .ok (some i) ∧ i₀.identity = e.identity ∧
      i.identity = e.identity ∧
      ∃ spelling before after, spelling.lower = e.extension.property.lower ∧
        ItemValue.DifferIn before ⟨spelling, d⟩ ⟨e.extension.property,
          Item.inherit e.extension.property d e.extension.text⟩ after i₀ i := by
  obtain ⟨t₀, hcollect₀, rfl⟩ := (item?_eq_ok he.included).mp h
  obtain ⟨before, after, t, hcollect, ht₀, ht, hnone⟩ :=
    collect_between (x := ⟨e.extension.property, e.when, e.extension.text⟩) he.overrides he.once
      hcollect₀
  have hothers : ∀ o ∈ before ++ after, o.name.lower ≠ e.extension.property.lower := by
    intro o ho heq
    exact hnone (heq ▸ List.mem_map_of_mem (ht₀ ▸ ho))
  let i := ItemValue.create e.type e.identity (s.definitions (Builder.definedType e.type))
  have hdefault : i.properties.get? e.extension.property = some d := by
    obtain ⟨defaults, hdefaults, hget⟩ := Option.bind_eq_some_iff.mp he.inherits
    show ((s.definitions (Builder.definedType e.type)).getD .empty).get? _ = some d
    rw [hdefaults]
    exact hget
  have helement : s.item? e.element = .ok (some (i.extend t.entries)) :=
    (item?_eq_ok he.included).mpr ⟨t, hcollect, rfl⟩
  refine ⟨i.extend t₀.entries, i.extend t.entries, rfl, helement, i.identity_extend _,
    i.identity_extend _, ?_⟩
  rw [ht₀, ht]
  exact i.differIn_extend (e := ⟨e.extension.property, e.extension.text⟩) hothers hdefault

/-! ## The items of a project -/

theorem items_append (s : Scope) (before after : List ItemElement) :
    s.items (before ++ after) = (do
      let made ← s.items before
      let more ← s.items after
      return made ++ more) := by
  induction before with
  | nil => exact (bind_pure _).symm
  | cons e before ih =>
      simp only [items, List.cons_append, ih, bind_assoc, pure_bind, List.append_assoc]

theorem items_append_eq_ok {members others : List ItemElement} {e : ItemElement}
    {all : List ItemValue} :
    s.items (members ++ e :: others) = .ok all
      ↔ ∃ before made after, s.items members = .ok before ∧ s.item? e = .ok made ∧
        s.items others = .ok after ∧ before ++ (made.toList ++ after) = all := by
  rw [items_append]
  simp [items, pure, Except.pure]

/-- One element that is replaced by another one changes the items of its group at one place. -/
theorem items_replace {members others : List ItemElement} {e₀ : ItemElement} {all : List ItemValue}
    (h : s.items (members ++ e₀ :: others) = .ok all) :
    ∃ before made after, s.item? e₀ = .ok made ∧ all = before ++ (made.toList ++ after) ∧
      ∀ e made', s.item? e = .ok made' →
        s.items (members ++ e :: others) = .ok (before ++ (made'.toList ++ after)) := by
  obtain ⟨before, made, after, hbefore, hmade, hafter, rfl⟩ := items_append_eq_ok.mp h
  refine ⟨before, made, after, hmade, rfl, fun e made' hmade' => ?_⟩
  exact items_append_eq_ok.mpr ⟨before, made', after, hbefore, hmade', hafter, rfl⟩

/-- A group of items that is replaced by another one changes the items of the walk at one place. -/
theorem walk_replace {start : Scope} {before after : ProjectDocument} {condition : Option Text}
    {members : List ItemElement} {earlier all : List ItemValue}
    (hbefore : start.walk before = .ok (s, earlier)) (hgroup : s.holds condition = .ok true)
    (h : start.walk (before ++ .items none condition members :: after) = .ok (s', all)) :
    ∃ made later, s.items members = .ok made ∧ all = earlier ++ (made ++ later) ∧
      ∀ members' made', s.items members' = .ok made' →
        start.walk (before ++ .items none condition members' :: after)
          = .ok (s', earlier ++ (made' ++ later)) := by
  obtain ⟨s₁, made, later, hstep, hafter, rfl⟩ := (walk_append_eq_ok hbefore).mp h
  obtain ⟨hmade, rfl⟩ := (step_items_eq_ok hgroup).mp hstep
  refine ⟨made, later, hmade, rfl, fun members' made' hmade' => ?_⟩
  have hstep' := (step_items_eq_ok hgroup).mpr ⟨hmade', rfl⟩
  exact (walk_append_eq_ok hbefore).mpr ⟨s, made', later, hstep', hafter, rfl⟩

/-! ## Resolved items -/

variable {times : FileTimes (Except Fault)}

/-- What is resolved of an item: what it is derived from, and its properties in their order. -/
def resolved (s : Scope) (times : FileTimes (Except Fault)) (i : ItemValue) :
    Except Fault (Origin × List Entry) :=
  (s.resolve times i).map fun j => (j.origin, j.properties.entries)

/-- The properties of an item, resolved one after the other, where one of them has its value from
    elsewhere. -/
def resolvedAround (s : Scope) (times : FileTimes (Except Fault)) (identity : Text)
    (before : List Entry) (name : Text) (value : Origin → Except Fault Text) (after : List Entry) :
    Except Fault (Origin × List Entry) := do
  let identity ← s.macros.expand (some s.location) identity
  let o : Origin := ⟨identity, Path.dirName s.location⟩
  let first ← before.mapM (s.expandEntry times o)
  let value ← value o
  let last ← after.mapM (s.expandEntry times o)
  return (o, first ++ ⟨name, value⟩ :: last)

/-- An item is resolved property by property. -/
theorem resolved_eq (i : ItemValue) :
    s.resolved times i = (do
      let identity ← s.macros.expand (some s.location) i.identity
      let o : Origin := ⟨identity, Path.dirName s.location⟩
      let es ← i.properties.entries.mapM (s.expandEntry times o)
      return (o, es)) := by
  have hsnd (r : Except Fault ItemValue) : r.map (fun j => (j.origin, j.properties.entries))
      = (r.map fun j => (j.type, j.origin, j.properties.entries)).map Prod.snd := by
    cases r <;> rfl
  rw [resolved, resolve, hsnd]
  cases s.macros.expand (some s.location) i.identity with
  | error fault => rfl
  | ok identity =>
      let j : ItemValue := { i with identity, projectDir := Path.dirName s.location }
      have heach : (j.properties.entries.foldlM (s.resolveProperty times) j).map _ = _ :=
        resolveProperties_eq (List.nil_append _).symm
      refine (congrArg (Except.map Prod.snd) heach).trans ?_
      show (j.properties.entries.mapM (s.expandEntry times j.origin) >>= _).map _
        = j.properties.entries.mapM (s.expandEntry times j.origin) >>= fun es => pure (j.origin, es)
      cases j.properties.entries.mapM (s.expandEntry times j.origin) <;> rfl

/-- One of the properties is resolved after those before it. -/
theorem resolved_eq_around {i : ItemValue} {before after : List Entry} {e : Entry}
    (h : i.properties.entries = before ++ e :: after) :
    s.resolved times i = s.resolvedAround times i.identity before e.name
      (fun o => s.expandValue times o e.name e.value) after := by
  simp only [resolved_eq, resolvedAround, h, List.mapM_append, List.mapM_cons, expandEntry,
    bind_assoc, pure_bind]

/-- What comes of an extended value: the parts are expanded for themselves, and put together. -/
theorem expandValue_text (x : Extension) (inherited : Text) (o : Origin) :
    s.expandValue times o x.property (Item.inherit x.property inherited x.text) = (do
      let start ← s.expandValue times o x.property (Item.inherit x.property inherited x.before)
      let middle ← s.expandValue times o x.property inherited
      let rest ← s.expandValue times o x.property (Item.inherit x.property inherited x.after)
      return (start.plus listSeparator middle).plus listSeparator rest) := by
  simp only [expandValue, Origin.expandProperty_text]

end Scope

namespace Builder

variable {files₀ files : FileTree} {path : Path} {macros : NameTable m}
  {before after : ProjectDocument} {condition : Option Text} {members others : List ItemElement}
  {e : ExtendingElement} {d : Text} {s s' : Scope} {earlier all : List ItemValue}

/-- **An override extends the default in place.** Two project files differ in one item element,
    which in one of them extends a property of its type once, in any letter case. If the walk through the
    other one ends, both builds are left with the same items to resolve, but for the one of the
    element. Around the property this one has the same properties in both. Without the override, the
    property is resolved to what comes of its default; with it, to what comes of the start, of the
    default and of the end, put together. If one of the three fails, the item fails with the first
    fault. -/
theorem override_extends (halike : files₀.Alike files)
    (hdoc₀ : files₀.Holds (files₀.absolute path)
      (before ++ .items none condition (members ++ e.plain :: others) :: after))
    (hdoc : files.Holds (files.absolute path)
      (before ++ .items none condition (members ++ e.element :: others) :: after))
    (hbefore : (Scope.start (files.absolute path) macros).walk before = .ok (s, earlier))
    (hgroup : s.holds condition = .ok true) (he : s.Extends e d)
    (hwalk : (Scope.start (files.absolute path) macros).walk
      (before ++ .items none condition (members ++ e.plain :: others) :: after) = .ok (s', all)) :
    ∃ items₁ i₀ i items₂, s.item? e.plain = .ok (some i₀) ∧ s.item? e.element = .ok (some i) ∧
      outcome ((build files₀).run (start files₀ path macros)) = (do
        let items ← (items₁ ++ i₀ :: items₂).mapM (s'.resolve files.times)
        return s'.project items) ∧
      outcome ((build files).run (start files path macros)) = (do
        let items ← (items₁ ++ i :: items₂).mapM (s'.resolve files.times)
        return s'.project items) ∧
      ∃ spelling first last, spelling.lower = e.extension.property.lower ∧
        s'.resolved files.times i₀ = s'.resolvedAround files.times e.identity first spelling
          (fun o => s'.expandValue files.times o e.extension.property d) last ∧
        s'.resolved files.times i = s'.resolvedAround files.times e.identity first
          e.extension.property (fun o => do
            let start ← s'.expandValue files.times o e.extension.property
              (Item.inherit e.extension.property d e.extension.before)
            let middle ← s'.expandValue files.times o e.extension.property d
            let rest ← s'.expandValue files.times o e.extension.property
              (Item.inherit e.extension.property d e.extension.after)
            return (start.plus listSeparator middle).plus listSeparator rest) last := by
  obtain ⟨made, later, hitems, -, hrest⟩ := Scope.walk_replace hbefore hgroup hwalk
  obtain ⟨first, included, last, hincluded, rfl, hmembers⟩ := Scope.items_replace hitems
  obtain ⟨i₀, i, rfl, hi, hidentity₀, hidentity, spelling, es₁, es₂, hlower, hdiffer⟩ :=
    Scope.item?_extends he hincluded
  have hsplit (j : ItemValue) : earlier ++ ((first ++ ((some j).toList ++ last)) ++ later)
      = (earlier ++ first) ++ j :: (last ++ later) := by simp
  refine ⟨earlier ++ first, i₀, i, last ++ later, hincluded, hi, ?_, ?_, spelling, es₁, es₂, hlower,
    ?_, ?_⟩
  · rw [outcome_build hdoc₀, Scope.build, ← halike.absolute_eq, ← halike.times,
      hrest _ _ (hmembers _ _ hincluded), hsplit]
    rfl
  · rw [outcome_build hdoc, Scope.build, hrest _ _ (hmembers _ _ hi), hsplit]
    rfl
  · have hspelling : spelling ≠ [] := by
      rintro rfl
      exact Text.lower_ne_nil e.extension.named e.extension.ascii hlower.symm
    rw [Scope.resolved_eq_around hdiffer.first, hidentity₀]
    simp only [Scope.expandValue, Origin.expandProperty_spelling hlower e.extension.named hspelling]
  · rw [Scope.resolved_eq_around hdiffer.second, hidentity]
    simp only [Scope.expandValue_text]

/-- An item that extends its default, which refers to the value before it as well. -/
def extendingElement : ExtendingElement where
  type := ['C']
  identity := ['a']
  condition := none
  first := []
  extension := ⟨['D'], ['d'], ['y'], ['z'], List.forall_mem_singleton.mpr (by decide),
    List.cons_ne_nil _ _, by decide, rfl⟩
  when := none
  last := []

/-- A project with this item, and the default. -/
def extendingFiles : FileTree := .ofFiles [("p",
  "<P>
    <ItemDefinitionGroup><C><d>x;%(D)</d></C></ItemDefinitionGroup>
    <ItemGroup><C Include='a'><D>y;%(d);z</D></C></ItemGroup>
  </P>")]

/-- The same project without the override. -/
def plainFiles : FileTree := .ofFiles [("p",
  "<P>
    <ItemDefinitionGroup><C><d>x;%(D)</d></C></ItemDefinitionGroup>
    <ItemGroup><C Include='a'></C></ItemGroup>
  </P>")]

/-- What is in effect where the item is included: the default. -/
def defaultScope : Scope where
  path := ⟨['/'], [['p']]⟩
  macros := .empty
  definitions := fun type =>
    if type = ['C'] then some ⟨.ignoringCase, .ofList [⟨['d'], "x;%(D)".toList⟩]⟩ else none

/-- The item has its default alone in one of the projects, and extends it in the other one. -/
theorem override_extends_extendingElement :
    ∃ i₀ i spelling first last,
      defaultScope.item? extendingElement.plain = .ok (some i₀) ∧
      defaultScope.item? extendingElement.element = .ok (some i) ∧
      defaultScope.resolved extendingFiles.times i₀
        = defaultScope.resolvedAround extendingFiles.times ['a'] first spelling (fun o =>
          defaultScope.expandValue extendingFiles.times o ['D'] "x;%(D)".toList) last ∧
      defaultScope.resolved extendingFiles.times i
        = defaultScope.resolvedAround extendingFiles.times ['a'] first ['D'] (fun o => do
          let start ← defaultScope.expandValue extendingFiles.times o ['D'] ['y']
          let middle ← defaultScope.expandValue extendingFiles.times o ['D'] "x;%(D)".toList
          let rest ← defaultScope.expandValue extendingFiles.times o ['D'] ['z']
          return (start.plus listSeparator middle).plus listSeparator rest) last ∧
      defaultScope.resolved extendingFiles.times i
        = .ok (⟨['a'], ['/']⟩, [⟨['D'], "y;x;z".toList⟩]) := by
  have halike : plainFiles.Alike extendingFiles := FileTree.alike_ofFiles rfl
  let defaults : Group := .definitions none [⟨['C'], none, [⟨['d'], none, "x;%(D)".toList⟩]⟩]
  have hdoc₀ : plainFiles.Holds (plainFiles.absolute ⟨['/'], [['p']]⟩)
      ([defaults] ++ .items none none ([] ++ extendingElement.plain :: []) :: []) :=
    FileTree.holds_of_load (by decide +kernel)
  have hdoc : extendingFiles.Holds (extendingFiles.absolute ⟨['/'], [['p']]⟩)
      ([defaults] ++ .items none none ([] ++ extendingElement.element :: []) :: []) :=
    FileTree.holds_of_load (by decide +kernel)
  let start := Scope.start (extendingFiles.absolute ⟨['/'], [['p']]⟩) (.empty : NameTable .exact)
  have hbefore : start.walk [defaults] = .ok (defaultScope, []) := rfl
  have hgroup : defaultScope.holds none = .ok true := rfl
  have hextends : defaultScope.Extends extendingElement "x;%(D)".toList := ⟨rfl, rfl, nofun, rfl⟩
  have hwalk : start.walk
      ([defaults] ++ .items none none ([] ++ extendingElement.plain :: []) :: [])
        = .ok (defaultScope, [_]) := rfl
  obtain ⟨items₁, i₀, i, items₂, hplain, hextended, -, -, spelling, first, last, -, hi₀, hi⟩ :=
    override_extends halike hdoc₀ hdoc hbefore hgroup hextends hwalk
  refine ⟨i₀, i, spelling, first, last, hplain, hextended, hi₀, hi, ?_⟩
  have hmade : defaultScope.item? extendingElement.element = .ok (some _) := rfl
  cases hextended.symm.trans hmade
  rfl

end Builder

end CompilationDatabase
