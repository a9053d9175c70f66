import CompilationDatabase.Proofs.Derivation
import Mathlib.Data.List.Nodup
import Mathlib.Data.List.Perm.Subperm

/-!
# Termination — every expansion under the check is finite

Texts grow while they are expanded and names are put together from other values, so neither is a
measure. What shrinks is the room that is left for pending names: they differ in lower case, and each
of them stands for something.

* `Room` is that invariant, with the depth that is still allowed; `Room.push` makes a name pending.
* `gives_expandWithin` turns a run of `expandWithin` into a derivation, by induction on the depth.
* `Reaches.pending` bounds the names that are pending at any moment.
-/

namespace CompilationDatabase

/-- The pending names differ, are among the keys, and `depth` more would use up all keys. -/
structure Room (keys : List Text) (depth : Nat) (pending : List Text) : Prop where
  nodup  : pending.Nodup
  known  : pending ⊆ keys
  enough : keys.length ≤ pending.length + depth

namespace Room

variable {keys pending : List Text} {depth : Nat}

/-- There is room for all keys before any name is met. -/
theorem start (h : keys.length ≤ depth) : Room keys depth [] where
  nodup := List.nodup_nil
  known := List.nil_subset _
  enough := by simpa using h

/-- A key that is not pending leaves room to make it so. -/
theorem push {key : Text} (h : Room keys depth pending) (hk : key ∈ keys) (hp : key ∉ pending) :
    ∃ d, depth = d + 1 ∧ Room keys d (pending ++ [key]) := by
  have hnodup : (pending ++ [key]).Nodup := by
    rw [List.nodup_append]
    refine ⟨h.nodup, List.nodup_singleton key, ?_⟩
    intro a ha b hb hab
    rw [List.mem_singleton] at hb
    exact hp (hb ▸ hab ▸ ha)
  have hknown : pending ++ [key] ⊆ keys :=
    List.append_subset.mpr ⟨h.known, List.cons_subset.mpr ⟨hk, List.nil_subset _⟩⟩
  -- texts that differ are no more than the keys they are among
  have hle := (List.subperm_of_subset hnodup hknown).length_le
  have henough := h.enough
  rw [List.length_append, List.length_singleton] at hle
  refine ⟨depth - 1, by omega, hnodup, hknown, ?_⟩
  rw [List.length_append, List.length_singleton]
  omega

end Room

namespace Expander

variable {marker : Marker} {location : Option Text} {lookup : Text → Except Fault Text}
  {keys p : List Text}

/-- One request, when what it leaves to do inside the name is a derivation. -/
theorem gives_request {inner : List Text → Text → Except Fault Text} {n : Text}
    (hinner : n.lower ∉ p → ∀ v, lookup n = .ok v →
      (checked marker location lookup).Gives (p ++ [n.lower]) (.text v) (inner (p ++ [n.lower]) v)) :
    (checked marker location lookup).Gives p (.request n) (request location lookup inner p n) := by
  rw [request]
  by_cases hn : n.lower ∈ p
  · rw [if_pos hn]
    exact .refused (circularFault_eq_some.mpr ⟨hn, rfl⟩)
  · have hnone : circularFault location p n = none := circularFault_eq_none.mpr hn
    rw [if_neg hn]
    show (checked marker location lookup).Gives p _ ((lookup n).bind fun v => inner (p ++ [n.lower]) v)
    cases hl : lookup n with
    | error f => exact .missing hnone hl
    | ok v => exact .value hnone hl (hinner hn v hl)

/-- An expansion with room for all keys is a derivation: the depth never runs out. -/
theorem gives_expandWithin (hkeys : ∀ n v, lookup n = .ok v → n.lower ∈ keys) {depth : Nat}
    (h : Room keys depth p) (t : Text) :
    (checked marker location lookup).Gives p (.text t)
      (expandWithin marker location lookup depth p t) := by
  induction depth generalizing p t with
  | zero =>
      -- no value is entered: with no depth left, all keys are pending
      refine gives_reading_fill (fun n => gives_request ?_) t
      intro hn v hl
      obtain ⟨d, hd, -⟩ := h.push (hkeys n v hl) hn
      exact nomatch hd
  | succ depth ih =>
      refine gives_reading_fill (fun n => gives_request ?_) t
      intro hn v hl
      obtain ⟨d, hd, hroom⟩ := h.push (hkeys n v hl) hn
      obtain rfl := Nat.succ.inj hd
      exact ih hroom v

/-- The names that are pending differ in lower case, and each of them stands for something. -/
theorem Reaches.pending (hkeys : ∀ n v, lookup n = .ok v → n.lower ∈ keys) {root t : Text}
    (h : (checked marker location lookup).Reaches root p t) :
    p.Nodup ∧ p.length ≤ keys.length := by
  have hroom : ∃ d, Room keys d p := by
    induction h with
    | root => exact ⟨keys.length, Room.start (Nat.le_refl _)⟩
    | @value p t n v _ _ hn hl ih =>
        obtain ⟨d, hroom⟩ := ih
        obtain ⟨d', -, hroom'⟩ := hroom.push (hkeys n v hl) (circularFault_eq_none.mp hn)
        exact ⟨d', hroom'⟩
  obtain ⟨d, hroom⟩ := hroom
  exact ⟨hroom.nodup, (List.subperm_of_subset hroom.nodup hroom.known).length_le⟩

end Expander

/-! ## Macros -/

/-- Spellings of one name are equal in lower case, also where names match as they are written. -/
theorem Matching.lower_eq_of_key_eq {m : Matching} {a b : Text} (h : m.key a = m.key b) :
    a.lower = b.lower := by
  cases m with
  | exact => exact congrArg Text.lower h
  | ignoringCase => exact h

namespace NameTable

variable {m : Matching} {location : Option Text}

/-- How the macros of a table are expanded. -/
def expander (macros : NameTable m) (location : Option Text) : Expander :=
  .checked .macros location (macros.macroValue location)

/-- The names of a table in lower case. -/
def lowerNames (macros : NameTable m) : List Text := macros.entries.map (·.name.lower)

theorem macroValue_eq_ok {macros : NameTable m} {name value : Text} :
    macros.macroValue location name = .ok value ↔ macros.get? name = some value := by
  rw [macroValue]
  cases macros.get? name <;> simp

/-- A macro that has a value is in the table. -/
theorem lower_mem_lowerNames {macros : NameTable m} (name value : Text)
    (h : macros.macroValue location name = .ok value) : name.lower ∈ macros.lowerNames := by
  obtain ⟨e, he, hkey, -⟩ := Entry.exists_of_find? (macroValue_eq_ok.mp h)
  exact List.mem_map.mpr ⟨e, he, Matching.lower_eq_of_key_eq hkey⟩

/-- Expanding with the depth of the table's size, or more, is a derivation. -/
theorem gives_expand (macros : NameTable m) (location : Option Text) {depth : Nat}
    (h : macros.size ≤ depth) (t : Text) :
    (macros.expander location).Gives [] (.text t)
      (CompilationDatabase.expand .macros location (macros.macroValue location) depth t) := by
  refine Expander.gives_expandWithin lower_mem_lowerNames (Room.start ?_) t
  rw [lowerNames, List.length_map]
  exact h

end NameTable

/-! ## Metadata -/

namespace Origin

/-- How the metadata of an item are expanded inside a property. -/
def expander (times : FileTimes (Except Fault)) (o : Origin) (location : Option Text)
    (property : Text) : Expander :=
  .checked .metadata location (o.valueWithin times location property)

/-- The names that stand for something inside a property, in lower case. -/
def lowerNames (property : Text) : List Text :=
  property.lower :: Metadata.all.map (·.name.lower)

/-- Inside a property only the property itself and the names of metadata have a value. -/
theorem lower_mem_lowerNames {times : FileTimes (Except Fault)} {o : Origin}
    {location : Option Text} {property : Text} (name value : Text)
    (h : o.valueWithin times location property name = .ok value) :
    name.lower ∈ lowerNames property := by
  rw [valueWithin] at h
  by_cases hp : property ≠ [] ∧ name.lower = property.lower
  · rw [hp.2]
    exact List.mem_cons_self
  · rw [if_neg hp, valueOf] at h
    cases hd : Metadata.ofName? name with
    | none => rw [hd] at h; exact nomatch h
    | some d =>
        have hname : d.name.lower = name.lower := by simpa using List.find?_some hd
        exact List.mem_cons_of_mem _ (List.mem_map.mpr ⟨d, Metadata.mem_all d, hname⟩)

/-- Expanding with a depth of twelve names, or more, is a derivation. -/
theorem gives_expandMetadata (times : FileTimes (Except Fault)) (o : Origin)
    (location : Option Text) (property : Text) {depth : Nat} (h : Metadata.all.length + 1 ≤ depth)
    (t : Text) :
    (o.expander times location property).Gives [] (.text t)
      (expand .metadata location (o.valueWithin times location property) depth t) :=
  Expander.gives_expandWithin lower_mem_lowerNames (Room.start h) t

end Origin

/-- **Every expansion ends.** With any table of macros, and for the metadata of any item inside any
    property, the result is that of a finite derivation, and allowing more names to be pending does
    not change it. The names of macros that are being expanded inside one another differ in lower
    case, and there are never more of them than entries in the table. -/
theorem expansion_terminates :
    (∀ {m : Matching} (macros : NameTable m) (location : Option Text) (text : Text),
      (macros.expander location).Gives [] (.text text) (macros.expand location text) ∧
      (∀ depth ≥ macros.size,
        expand .macros location (macros.macroValue location) depth text
          = macros.expand location text) ∧
      ∀ pending inner, (macros.expander location).Reaches text pending inner →
        pending.Nodup ∧ pending.length ≤ macros.size) ∧
    (∀ (times : FileTimes (Except Fault)) (o : Origin) (location : Option Text)
        (property text : Text),
      (o.expander times location property).Gives [] (.text text)
        (o.expandMetadata times location property text) ∧
      ∀ depth ≥ Metadata.all.length + 1,
        expand .metadata location (o.valueWithin times location property) depth text
          = o.expandMetadata times location property text) := by
  constructor
  · intro m macros location text
    have hgives := macros.gives_expand location (Nat.le_refl _) text
    refine ⟨hgives, ?_, ?_⟩
    · intro depth hdepth
      exact (macros.gives_expand location hdepth text).unique hgives
    · intro pending inner hreach
      -- the keys of a table are as many as its entries
      have h := Expander.Reaches.pending NameTable.lower_mem_lowerNames hreach
      rwa [NameTable.lowerNames, List.length_map] at h
  · intro times o location property text
    have hgives := o.gives_expandMetadata times location property (Nat.le_refl _) text
    refine ⟨hgives, ?_⟩
    intro depth hdepth
    exact (o.gives_expandMetadata times location property hdepth text).unique hgives

end CompilationDatabase
