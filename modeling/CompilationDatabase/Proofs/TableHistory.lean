import CompilationDatabase.Proofs.Borrowing
import CompilationDatabase.Proofs.TableEntries
import Mathlib.Data.List.Basic
import Mathlib.Data.List.Forall2

/-!
# Table history — what a table holds after a run of operations

A run makes tables, copies them and changes them in place, and some operations are refused. What a
table holds then is decided by its history alone, the list of all that was assigned to it and removed
from it: `live` reads the history, and `run_follows` says that each table holds just that.

The history is looked at name by name. `since` gives the assignments to a name since it was last
removed. A name is there if there is one; its value and its spelling come from the last of them, its
place in the table from the first. `Described` spells this out for a table.

An operation changes `live` as it changes the entries (`live_assigned`, `live_removed`). So one step
keeps the tables as their histories say (`step_follows`), and a run does by induction.
-/

namespace CompilationDatabase

/-! ## Histories -/

/-- What happens to a table. -/
inductive Change
  | assigned (e : Entry)
  | removed (name : Text)
  | cleared

/-- All that has happened to a table, the latest first. -/
abbrev History := List Change

namespace History

/-- The assignments to a key since it was last removed, the latest first, each with its time. -/
def since (m : Matching) (key : Text) : History → List (Nat × Entry)
  | [] => []
  | .assigned e :: h => if m.key e.name = key then (h.length, e) :: since m key h else since m key h
  | .removed name :: h => if m.key name = key then [] else since m key h
  | .cleared :: _ => []

/-- The last assignment to a key since it was removed. -/
def last? (m : Matching) (key : Text) (h : History) : Option Entry :=
  (since m key h).head?.map (·.2)

/-- The time at which a key came in. -/
def birth? (m : Matching) (key : Text) (h : History) : Option Nat :=
  (since m key h).getLast?.map (·.1)

/-- All assignments, the earliest first, each with its time. -/
def assignments : History → List (Nat × Entry)
  | [] => []
  | .assigned e :: h => assignments h ++ [(h.length, e)]
  | .removed _ :: h => assignments h
  | .cleared :: h => assignments h

/-- What an assignment has become: if it is the one with which its key came in, the last one to this
    key. -/
def become? (m : Matching) (h : History) (a : Nat × Entry) : Option Entry :=
  if (since m (m.key a.2.name) h).getLast? = some a then last? m (m.key a.2.name) h else none

/-- What a table with a history holds: the last assignment to each key that is there, in the order in
    which the keys came in. -/
def live (m : Matching) (h : History) : List Entry := (assignments h).filterMap (become? m h)

/-- The history after further assignments, one after the other. -/
def assign (h : History) (es : List Entry) : History := es.foldl (fun h e => .assigned e :: h) h

variable {m : Matching} {h : History} {key : Text}

theorem time_lt_of_mem {a : Nat × Entry} (ha : a ∈ assignments h) : a.1 < h.length := by
  induction h with
  | nil => exact nomatch ha
  | cons c h ih =>
      cases c with
      | assigned e =>
          rcases List.mem_append.mp ha with ha | ha
          · exact Nat.lt_succ_of_lt (ih ha)
          · rw [List.mem_singleton.mp ha]
            exact Nat.lt_succ_self _
      | removed name => exact Nat.lt_succ_of_lt (ih ha)
      | cleared => exact Nat.lt_succ_of_lt (ih ha)

theorem mem_since {a : Nat × Entry} (ha : a ∈ since m key h) :
    a ∈ assignments h ∧ m.key a.2.name = key := by
  induction h with
  | nil => exact nomatch ha
  | cons c h ih =>
      cases c with
      | assigned e =>
          rw [since] at ha
          split at ha
          · rename_i he
            rcases List.mem_cons.mp ha with rfl | ha
            · exact ⟨List.mem_append_right _ (List.mem_singleton_self _), he⟩
            · exact (ih ha).imp_left (List.mem_append_left _)
          · exact (ih ha).imp_left (List.mem_append_left _)
      | removed name =>
          rw [since] at ha
          split at ha
          · exact nomatch ha
          · exact ih ha
      | cleared => exact nomatch ha

theorem key_last? {e : Entry} (he : last? m key h = some e) : m.key e.name = key := by
  obtain ⟨a, ha, rfl⟩ := Option.map_eq_some_iff.mp he
  exact (mem_since (List.mem_of_head? ha)).2

theorem key_become? {a : Nat × Entry} {e : Entry} (he : become? m h a = some e) :
    m.key e.name = m.key a.2.name := by
  rw [become?] at he
  split at he
  · exact key_last? he
  · exact nomatch he

theorem last?_eq_none : last? m key h = none ↔ since m key h = [] := by
  simp [last?]

theorem mem_live {e : Entry} : e ∈ live m h ↔ last? m (m.key e.name) h = some e := by
  rw [live, List.mem_filterMap]
  constructor
  · rintro ⟨a, -, ha⟩
    have hkey := key_become? ha
    rw [become?] at ha
    split at ha
    · rw [hkey]
      exact ha
    · exact nomatch ha
  · intro he
    have hne : since m (m.key e.name) h ≠ [] := by
      intro hnil
      rw [last?_eq_none.mpr hnil] at he
      exact nomatch he
    have hfirst := List.getLast?_eq_some_getLast hne
    obtain ⟨ha, hkey⟩ := mem_since (List.getLast_mem hne)
    refine ⟨_, ha, ?_⟩
    rw [become?, hkey, if_pos hfirst, he]

theorem mem_keys_live :
    key ∈ (live m h).map (m.key ·.name) ↔ last? m key h ≠ none := by
  rw [List.mem_map]
  constructor
  · rintro ⟨e, he, rfl⟩
    rw [mem_live.mp he]
    exact Option.some_ne_none e
  · intro hne
    obtain ⟨e, he⟩ := Option.ne_none_iff_exists'.mp hne
    have hkey := key_last? he
    exact ⟨e, mem_live.mpr (hkey ▸ he), hkey⟩

/-! ### What one change does -/

theorem become?_assigned_of_ne {e : Entry} {a : Nat × Entry}
    (ha : m.key a.2.name ≠ m.key e.name) :
    become? m (.assigned e :: h) a = become? m h a := by
  simp only [become?, last?, since, if_neg (Ne.symm ha)]

/-- An assignment to a key that is there takes the place of the entry. -/
theorem live_assigned_of_last? {e : Entry} (he : last? m (m.key e.name) h ≠ none) :
    live m (.assigned e :: h)
      = (live m h).map fun d => if m.key d.name = m.key e.name then e else d := by
  have hne : since m (m.key e.name) h ≠ [] := fun hnil => he (last?_eq_none.mpr hnil)
  have hfirst : (since m (m.key e.name) (.assigned e :: h)).getLast?
      = (since m (m.key e.name) h).getLast? := by
    rw [since, if_pos rfl, List.getLast?_cons_of_ne_nil hne]
  have hnew : become? m (.assigned e :: h) (h.length, e) = none := by
    rw [become?, hfirst, if_neg]
    intro hlast
    exact Nat.lt_irrefl _ (time_lt_of_mem (mem_since (List.mem_of_getLast? hlast)).1)
  rw [live, live, assignments, List.filterMap_append, List.map_filterMap]
  rw [List.filterMap_cons_none hnew, List.filterMap_nil, List.append_nil]
  apply List.filterMap_congr
  intro a ha
  by_cases hkey : m.key a.2.name = m.key e.name
  · rw [become?, become?, hkey, hfirst]
    split
    · obtain ⟨d, hd⟩ := Option.ne_none_iff_exists'.mp he
      rw [hd, Option.map_some, if_pos (key_last? hd), last?, since, if_pos rfl]
      rfl
    · rfl
  · rw [become?_assigned_of_ne hkey]
    cases hd : become? m h a with
    | none => rfl
    | some d =>
        have hne' : m.key d.name ≠ m.key e.name := key_become? hd ▸ hkey
        rw [Option.map_some, if_neg hne']

/-- An assignment to a key that is not there comes in at the end. -/
theorem live_assigned_of_not_last? {e : Entry} (he : last? m (m.key e.name) h = none) :
    live m (.assigned e :: h) = live m h ++ [e] := by
  have hnil : since m (m.key e.name) h = [] := last?_eq_none.mp he
  have hsince : since m (m.key e.name) (.assigned e :: h) = [(h.length, e)] := by
    rw [since, if_pos rfl, hnil]
  have hnew : become? m (.assigned e :: h) (h.length, e) = some e := by
    rw [become?, hsince, last?, hsince]
    simp
  rw [live, live, assignments, List.filterMap_append]
  rw [List.filterMap_cons_some hnew, List.filterMap_nil]
  congr 1
  apply List.filterMap_congr
  intro a ha
  by_cases hkey : m.key a.2.name = m.key e.name
  · have hlt := time_lt_of_mem ha
    rw [become?, become?, hkey, hsince, hnil, if_neg, if_neg]
    · exact nofun
    · intro hlast
      rw [List.getLast?_singleton, Option.some.injEq] at hlast
      rw [← hlast] at hlt
      exact Nat.lt_irrefl _ hlt
  · exact become?_assigned_of_ne hkey

theorem live_removed (m : Matching) (name : Text) (h : History) :
    live m (.removed name :: h) = (live m h).filter (m.key ·.name ≠ m.key name) := by
  rw [live, live, assignments, List.filter_filterMap]
  apply List.filterMap_congr
  intro a ha
  by_cases hkey : m.key a.2.name = m.key name
  · have hgone : become? m (.removed name :: h) a = none := by
      simp [become?, since, hkey]
    rw [hgone]
    cases hd : become? m h a with
    | none => rfl
    | some d =>
        have hkey' : m.key d.name = m.key name := (key_become? hd).trans hkey
        simp [Option.filter, hkey']
  · have hsame : become? m (.removed name :: h) a = become? m h a := by
      simp only [become?, last?, since, if_neg (Ne.symm hkey)]
    rw [hsame]
    cases hd : become? m h a with
    | none => rfl
    | some d =>
        have hkey' : m.key d.name ≠ m.key name := key_become? hd ▸ hkey
        simp [Option.filter, hkey']

theorem live_cleared (m : Matching) (h : History) : live m (.cleared :: h) = [] := by
  rw [live, List.filterMap_eq_nil_iff]
  intro a ha
  simp [become?, since]

/-! ### The order of what is there -/

theorem assignments_sorted (h : History) : (assignments h).Pairwise (·.1 < ·.1) := by
  induction h with
  | nil => exact .nil
  | cons c h ih =>
      cases c with
      | assigned e =>
          refine List.pairwise_append.mpr ⟨ih, List.pairwise_singleton .., ?_⟩
          intro a ha b hb
          rw [List.mem_singleton.mp hb]
          exact time_lt_of_mem ha
      | removed name => exact ih
      | cleared => exact ih

theorem birth?_of_become? {a : Nat × Entry} {e : Entry} (he : become? m h a = some e) :
    birth? m (m.key e.name) h = some a.1 := by
  rw [key_become? he, birth?]
  rw [become?] at he
  split at he
  · rename_i hfirst
    rw [hfirst]
    rfl
  · exact nomatch he

/-- Entries stand in the order in which their keys came in. -/
theorem live_sorted (m : Matching) (h : History) :
    (live m h).Pairwise fun d e =>
      ∃ i ∈ birth? m (m.key d.name) h, ∃ j ∈ birth? m (m.key e.name) h, i < j := by
  rw [live, List.pairwise_filterMap]
  apply (assignments_sorted h).imp
  intro a b hab d hd e he
  exact ⟨a.1, birth?_of_become? hd, b.1, birth?_of_become? he, hab⟩

end History

/-! ## Operations on one table -/

namespace NameTable

variable {m : Matching}

open History (last? live)

theorem entries_of_popOldest {t u : NameTable m} {e : Entry} (h : t.popOldest = .ok (e, u)) :
    t.entries = e :: u.entries := by
  rw [popOldest] at h
  split at h
  · exact nomatch h
  · rename_i d es hentries
    cases h
    show t.entries = e :: Entry.erase m (m.key e.name) t.entries
    rw [hentries, Entry.erase, if_pos rfl]

/-- The table after its oldest entry has been removed until there is none. -/
def clear (t : NameTable m) : NameTable m :=
  match _h : t.popOldest with
  | .ok (_, u) => u.clear
  | .error _ => t
termination_by t.size
decreasing_by
  rw [size, size, entries_of_popOldest _h]
  exact Nat.lt_succ_self _

theorem entries_clear (t : NameTable m) : t.clear.entries = [] := by
  fun_induction clear t with
  | case1 t e u h ih => exact ih
  | case2 t fault h =>
      rw [popOldest] at h
      split at h
      · assumption
      · exact nomatch h

/-- What can be done with a table. -/
inductive Operation
  | set (name value : Text)
  | delete (name : Text)
  | update (source : NameTable .exact)
  | findOrInsert (name value : Text)
  /-- A name is removed, if it is there. -/
  | discard (name : Text)
  | popOldest
  | clear

namespace Operation

/-- The operation on a table. -/
def run (t : NameTable m) : Operation → Except Absent (NameTable m)
  | set name value => .ok (t.insert name value)
  | delete name => (·.2) <$> t.pop name
  | update source => .ok (t.update source)
  | findOrInsert name value => .ok (t.findOrInsert name value).2
  | discard name =>
      match t.pop name with
      | .ok (_, u) => .ok u
      | .error _ => .ok t
  | popOldest => (·.2) <$> t.popOldest
  | clear => .ok t.clear

/-- What the operation adds to a history, unless it is refused. -/
def record (m : Matching) (h : History) : Operation → Option History
  | set name value => some (.assigned ⟨name, value⟩ :: h)
  | delete name => if last? m (m.key name) h = none then none else some (.removed name :: h)
  | update source => some (h.assign source.entries)
  | findOrInsert name value =>
      if last? m (m.key name) h = none then some (.assigned ⟨name, value⟩ :: h) else some h
  | discard name => if last? m (m.key name) h = none then some h else some (.removed name :: h)
  | popOldest => (live m h).head?.map fun e => .removed e.name :: h
  | clear => some (.cleared :: h)

end Operation

/-- A table holds what its history says. -/
def Follows (h : History) (t : NameTable m) : Prop := t.entries = live m h

variable {h : History} {t u : NameTable m}

theorem Follows.get? (ht : Follows h t) (name : Text) :
    t.get? name = (last? m (m.key name) h).map (·.value) := by
  apply Option.ext
  intro value
  rw [get?_eq_some_iff, Option.map_eq_some_iff, ht]
  constructor
  · rintro ⟨e, he, hkey, hvalue⟩
    exact ⟨e, hkey ▸ History.mem_live.mp he, hvalue⟩
  · rintro ⟨e, he, hvalue⟩
    have hkey := History.key_last? he
    exact ⟨e, History.mem_live.mpr (hkey ▸ he), hkey, hvalue⟩

theorem Follows.insert (ht : Follows h t) (name value : Text) :
    Follows (.assigned ⟨name, value⟩ :: h) (t.insert name value) := by
  have hnodup := t.keys_nodup
  show Entry.insert m ⟨name, value⟩ t.entries = _
  rw [ht] at hnodup ⊢
  by_cases hlast : last? m (m.key name) h = none
  · rw [History.live_assigned_of_not_last? hlast, Entry.insert_of_new]
    exact fun hmem => History.mem_keys_live.mp hmem hlast
  · rw [History.live_assigned_of_last? hlast,
      Entry.insert_of_mem hnodup (History.mem_keys_live.mpr hlast)]

theorem Follows.erase (ht : Follows h t) (name : Text) :
    Follows (.removed name :: h) (t.erase name) := by
  have hnodup := t.keys_nodup
  show Entry.erase m (m.key name) t.entries = _
  rw [ht] at hnodup ⊢
  rw [History.live_removed, Entry.erase_eq_filter hnodup]

theorem Follows.insertAll (ht : Follows h t) (es : List Entry) :
    Follows (h.assign es) (t.insertAll es) := by
  induction es generalizing h t with
  | nil => exact ht
  | cons e es ih => exact ih (ht.insert e.name e.value)

theorem Follows.pop_of_last? (ht : Follows h t) {name : Text} {e : Entry}
    (he : last? m (m.key name) h = some e) : t.pop name = .ok (e.value, t.erase name) := by
  rw [pop, get, ht.get? name, he]
  rfl

theorem Follows.pop_of_not_last? (ht : Follows h t) {name : Text}
    (he : last? m (m.key name) h = none) : t.pop name = .error (.key (m.key name)) := by
  rw [pop, get, ht.get? name, he]
  rfl

/-- An operation is refused as the history says, and otherwise leaves what the history says. -/
theorem Follows.run (ht : Follows h t) (op : Operation) :
    match op.record m h with
    | some h' => ∃ u, op.run t = .ok u ∧ Follows h' u
    | none => ∃ missing, op.run t = .error missing := by
  cases op with
  | set name value => exact ⟨_, rfl, ht.insert name value⟩
  | delete name =>
      rw [Operation.record, Operation.run]
      cases he : last? m (m.key name) h with
      | none =>
          rw [if_pos rfl, ht.pop_of_not_last? he]
          exact ⟨_, rfl⟩
      | some e =>
          rw [if_neg (Option.some_ne_none e), ht.pop_of_last? he]
          exact ⟨_, rfl, ht.erase name⟩
  | update source => exact ⟨_, rfl, ht.insertAll source.entries⟩
  | findOrInsert name value =>
      rw [Operation.record, Operation.run, findOrInsert, ht.get? name]
      cases he : last? m (m.key name) h with
      | none => exact ⟨_, rfl, ht.insert name value⟩
      | some e => exact ⟨_, rfl, ht⟩
  | discard name =>
      rw [Operation.record, Operation.run]
      cases he : last? m (m.key name) h with
      | none =>
          rw [if_pos rfl, ht.pop_of_not_last? he]
          exact ⟨_, rfl, ht⟩
      | some e =>
          rw [if_neg (Option.some_ne_none e), ht.pop_of_last? he]
          exact ⟨_, rfl, ht.erase name⟩
  | popOldest =>
      rw [Operation.record, Operation.run, popOldest, ← ht]
      cases hentries : t.entries with
      | nil => exact ⟨_, rfl⟩
      | cons e es => exact ⟨_, rfl, ht.erase e.name⟩
  | clear => exact ⟨_, rfl, (entries_clear t).trans (History.live_cleared m h).symm⟩

/-! ## Runs -/

/-- One step with all the tables there are. A table is known by its place in the order in which they
    were made. -/
inductive Step
  | create (pairs : List Entry)
  | copy (source : Nat)
  | change (place : Nat) (op : Operation)
  | updateFrom (place source : Nat)

namespace Step

/-- The step with the tables: one that is refused leaves the table. -/
def run (ts : List (NameTable m)) : Step → List (NameTable m)
  | create pairs => ts ++ [.ofList pairs]
  | copy source => ts ++ ts[source]?.toList
  | change place op => ts.modify place fun t => (op.run t).toOption.getD t
  | updateFrom place source =>
      match ts[source]? with
      | some u => ts.modify place (·.update u)
      | none => ts

/-- The step with the histories. A copy has the history of its source. -/
def record (m : Matching) (hs : List History) : Step → List History
  | create pairs => hs ++ [History.assign [] pairs]
  | copy source => hs ++ hs[source]?.toList
  | change place op => hs.modify place fun h => (op.record m h).getD h
  | updateFrom place source =>
      match hs[source]? with
      | some h' => hs.modify place (·.assign (live m h'))
      | none => hs

end Step

/-- The tables after some steps. -/
def tables (m : Matching) (steps : List Step) : List (NameTable m) := steps.foldl Step.run []

/-- Their histories. -/
def histories (m : Matching) (steps : List Step) : List History := steps.foldl (Step.record m) []

section Related

variable {α β : Type} {R : α → β → Prop} {as : List α} {bs : List β}

theorem forall₂_modify {f : α → α} {g : β → β} (hfg : ∀ a b, R a b → R (f a) (g b))
    (h : List.Forall₂ R as bs) (place : Nat) :
    List.Forall₂ R (as.modify place f) (bs.modify place g) := by
  induction h generalizing place with
  | nil => cases place <;> exact .nil
  | cons hab h ih =>
      cases place with
      | zero => exact .cons (hfg _ _ hab) h
      | succ place => exact .cons hab (ih place)

theorem forall₂_getElem? (h : List.Forall₂ R as bs) (place : Nat) :
    as[place]? = none ∧ bs[place]? = none ∨
      ∃ a b, as[place]? = some a ∧ bs[place]? = some b ∧ R a b := by
  induction h generalizing place with
  | nil => exact Or.inl ⟨rfl, rfl⟩
  | cons hab h ih =>
      cases place with
      | zero => exact Or.inr ⟨_, _, rfl, rfl, hab⟩
      | succ place => exact ih place

end Related

/-- Tables that hold what their histories say do so after one more step. -/
theorem step_follows {hs : List History} {ts : List (NameTable m)}
    (hts : List.Forall₂ Follows hs ts) (step : Step) :
    List.Forall₂ Follows (step.record m hs) (step.run ts) := by
  cases step with
  | create pairs =>
      have hempty : Follows [] (empty : NameTable m) := rfl
      have hnew : Follows (History.assign [] pairs) (ofList pairs : NameTable m) :=
        hempty.insertAll pairs
      exact List.rel_append hts (.cons hnew .nil)
  | copy source =>
      refine List.rel_append hts ?_
      rcases forall₂_getElem? hts source with ⟨hh, ht⟩ | ⟨h, t, hh, ht, hfollows⟩
      · rw [hh, ht]
        exact .nil
      · rw [hh, ht]
        exact .cons hfollows .nil
  | change place op =>
      refine forall₂_modify (fun h t ht => ?_) hts place
      have hrun := ht.run op
      cases hrecord : op.record m h with
      | some h' =>
          rw [hrecord] at hrun
          obtain ⟨u, hu, hfollows⟩ := hrun
          rw [hu]
          exact hfollows
      | none =>
          rw [hrecord] at hrun
          obtain ⟨missing, hmissing⟩ := hrun
          rw [hmissing]
          exact ht
  | updateFrom place source =>
      rw [Step.record, Step.run]
      rcases forall₂_getElem? hts source with ⟨hh, ht⟩ | ⟨h, u, hh, ht, hfollows⟩
      · rw [hh, ht]
        exact hts
      · rw [hh, ht]
        refine forall₂_modify (fun h' t ht' => ?_) hts place
        rw [← hfollows]
        exact ht'.insertAll u.entries

/-- After every run each table holds what its history says. -/
theorem run_follows (m : Matching) (steps : List Step) :
    List.Forall₂ Follows (histories m steps) (tables m steps) := by
  suffices hrun : ∀ (hs : List History) (ts : List (NameTable m)), List.Forall₂ Follows hs ts →
      List.Forall₂ Follows (steps.foldl (Step.record m) hs) (steps.foldl Step.run ts) from
    hrun [] [] .nil
  induction steps with
  | nil => exact fun hs ts hts => hts
  | cons step steps ih => exact fun hs ts hts => ih _ _ (step_follows hts step)

/-! ## What a user of a table sees -/

/-- How a table whose names match in all letter cases looks after its history. -/
structure Described (h : History) (t : NameTable .ignoringCase) : Prop where
  distinct : (t.names.map Text.lower).Nodup
  found : ∀ name, t.get? name = (last? .ignoringCase name.lower h).map (·.value)
  missing : ∀ name, t.get name = .error (.key name.lower) ↔ h.since .ignoringCase name.lower = []
  spelled : ∀ name, name ∈ t.names ↔
    (last? .ignoringCase name.lower h).map (·.name) = some name
  ordered : t.names.Pairwise fun a b =>
    ∃ i ∈ h.birth? .ignoringCase a.lower, ∃ j ∈ h.birth? .ignoringCase b.lower, i < j
  refused : ∀ op : Operation, (∃ missing, op.run t = .error missing) ↔
    op.record .ignoringCase h = none
  kept : ∀ (op : Operation) (ts : List (NameTable .ignoringCase)) (place : Nat),
    ts[place]? = some t → op.record .ignoringCase h = none → (Step.change place op).run ts = ts
  rebuilt : (.ofList t.entries : NameTable .ignoringCase) = t

theorem Follows.refused_iff (ht : Follows h t) (op : Operation) :
    (∃ missing, op.run t = .error missing) ↔ op.record m h = none := by
  have hrun := ht.run op
  cases hrecord : op.record m h with
  | some h' =>
      rw [hrecord] at hrun
      obtain ⟨u, hu, -⟩ := hrun
      simp [hu]
  | none =>
      rw [hrecord] at hrun
      simpa using hrun

theorem Step.run_of_refused {ts : List (NameTable m)} {place : Nat} {op : Operation}
    {missing : Absent} (ht : ts[place]? = some t) (hop : op.run t = .error missing) :
    (Step.change place op).run ts = ts := by
  apply List.ext_getElem?
  intro i
  rw [Step.run, List.getElem?_modify]
  split
  · rename_i hi
    subst hi
    rw [ht]
    show some ((op.run t).toOption.getD t) = some t
    rw [hop]
    rfl
  · simp

theorem Follows.described {t : NameTable .ignoringCase} (ht : Follows h t) : Described h t where
  distinct := by
    have hnodup := t.keys_nodup
    rw [names, List.map_map]
    exact hnodup
  found := ht.get?
  missing := by
    intro name
    rw [get, ht.get? name]
    rw [← History.last?_eq_none]
    show _ ↔ last? .ignoringCase (Matching.ignoringCase.key name) h = none
    cases last? .ignoringCase (Matching.ignoringCase.key name) h with
    | none => simp; rfl
    | some e => simp
  spelled := by
    intro name
    rw [names, List.mem_map, ht, Option.map_eq_some_iff]
    constructor
    · rintro ⟨e, he, rfl⟩
      exact ⟨e, History.mem_live.mp he, rfl⟩
    · rintro ⟨e, he, rfl⟩
      exact ⟨e, History.mem_live.mpr he, rfl⟩
  ordered := by
    rw [names, List.pairwise_map, ht]
    exact History.live_sorted .ignoringCase h
  refused := ht.refused_iff
  kept := by
    intro op ts place hplace hop
    obtain ⟨missing, hmissing⟩ := (ht.refused_iff op).mpr hop
    exact Step.run_of_refused hplace hmissing
  rebuilt := t.ofTable_self

/-- **Tables after any run.** In whatever order tables are made, copied and changed: each one looks as
    its history says. -/
theorem tables_described (steps : List Step) :
    List.Forall₂ Described (histories .ignoringCase steps) (tables .ignoringCase steps) :=
  (run_follows .ignoringCase steps).imp fun _ _ ht => ht.described

end NameTable

end CompilationDatabase
