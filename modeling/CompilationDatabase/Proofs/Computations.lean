import Mathlib.Data.List.Forall2

/-!
# Computations — what is known of one that has ended

A computation that may fail is a value or a fault. If one that is made of others has ended, they have
ended too (`bind_eq_ok`); what is done to each element of a list ends for all of them or not at all,
and then each result depends on its own element (`mapM_eq_ok_iff`).
-/

namespace CompilationDatabase

variable {ε α β : Type}

/-- What is made of two computations has ended if both have. -/
@[simp] theorem bind_eq_ok {r : Except ε α} {f : α → Except ε β} {b : β} :
    (r >>= f) = .ok b ↔ ∃ a, r = .ok a ∧ f a = .ok b := by
  cases r with
  | error fault => exact ⟨nofun, fun ⟨_, h, _⟩ => nomatch h⟩
  | ok a => exact ⟨fun h => ⟨a, rfl, h⟩, fun ⟨_, ha, h⟩ => Except.ok.inj ha ▸ h⟩

theorem ok_of_bind {r : Except ε α} {f : α → Except ε β} {b : β} (h : (r >>= f) = .ok b) :
    ∃ a, r = .ok a ∧ f a = .ok b :=
  bind_eq_ok.mp h

theorem exists_ok_of_map {r : Except ε α} {f : α → β} {b : β} (h : r.toOption.map f = some b) :
    ∃ a, r = .ok a ∧ f a = b := by
  cases r with
  | error fault => exact nomatch h
  | ok a => exact ⟨a, rfl, Option.some.inj h⟩

/-! ## Lists -/

variable {f g : α → Except ε β} {l : List α} {l' : List β}

/-- What a list is turned into by a step that may fail, if it does not. -/
theorem forall₂_of_mapM_eq_ok (h : l.mapM f = .ok l') :
    List.Forall₂ (fun a b => f a = .ok b) l l' := by
  induction l generalizing l' with
  | nil =>
      rw [List.mapM_nil] at h
      cases h
      exact .nil
  | cons a l ih =>
      rw [List.mapM_cons] at h
      obtain ⟨b, hb, h⟩ := ok_of_bind h
      obtain ⟨bs, hbs, h⟩ := ok_of_bind h
      cases h
      exact .cons hb (ih hbs)

/-- Steps one after the other all end if each of them does, each with its own result. -/
theorem mapM_eq_ok_iff :
    l.mapM f = .ok l' ↔
      (∀ a ∈ l, ∃ b, f a = .ok b) ∧ l' = l.filterMap fun a => (f a).toOption := by
  induction l generalizing l' with
  | nil =>
      rw [List.mapM_nil]
      constructor
      · intro h
        cases h
        exact ⟨nofun, rfl⟩
      · rintro ⟨-, rfl⟩
        rfl
  | cons a l ih =>
      rw [List.mapM_cons]
      constructor
      · intro h
        obtain ⟨b, hb, h⟩ := ok_of_bind h
        obtain ⟨bs, hbs, h⟩ := ok_of_bind h
        cases h
        obtain ⟨heach, rfl⟩ := ih.mp hbs
        refine ⟨List.forall_mem_cons.mpr ⟨⟨b, hb⟩, heach⟩, ?_⟩
        rw [List.filterMap_cons, hb]
        rfl
      · rintro ⟨heach, rfl⟩
        obtain ⟨⟨b, hb⟩, hrest⟩ := List.forall_mem_cons.mp heach
        rw [hb, ih.mpr ⟨hrest, rfl⟩, List.filterMap_cons, hb]
        rfl

/-- If steps one after the other fail, one of them does, and those before it have ended. -/
theorem exists_of_mapM_eq_error {e : ε} (h : l.mapM f = .error e) :
    ∃ before a after, l = before ++ a :: after ∧ (∀ b ∈ before, ∃ v, f b = .ok v) ∧
      f a = .error e := by
  induction l with
  | nil =>
      rw [List.mapM_nil] at h
      exact nomatch h
  | cons a l ih =>
      rw [List.mapM_cons] at h
      cases ha : f a with
      | error e' =>
          rw [ha] at h
          exact ⟨[], a, l, rfl, nofun, ha.trans (congrArg Except.error (Except.error.inj h))⟩
      | ok v =>
          have hrest : l.mapM f = .error e := by
            cases hl : l.mapM f with
            | error e' =>
                rw [ha, hl] at h
                exact congrArg Except.error (Except.error.inj h)
            | ok vs =>
                rw [ha, hl] at h
                exact nomatch h
          obtain ⟨before, b, after, rfl, hbefore, hb⟩ := ih hrest
          exact ⟨a :: before, b, after, rfl, List.forall_mem_cons.mpr ⟨⟨v, ha⟩, hbefore⟩, hb⟩

theorem forM_eq_mapM {f : α → Except ε PUnit} : l.forM f = (l.mapM f).map fun _ => () := by
  induction l with
  | nil => rfl
  | cons a l ih =>
      rw [List.forM_eq_forM, List.forM_cons, ← List.forM_eq_forM, ih, List.mapM_cons]
      cases f a with
      | error e => rfl
      | ok v => cases l.mapM f <;> rfl

theorem exists_of_forM_eq_error {f : α → Except ε PUnit} {e : ε} (h : l.forM f = .error e) :
    ∃ before a after, l = before ++ a :: after ∧ (∀ b ∈ before, f b = .ok ()) ∧ f a = .error e := by
  rw [forM_eq_mapM] at h
  cases hmap : l.mapM f with
  | ok vs =>
      rw [hmap] at h
      exact nomatch h
  | error e' =>
      rw [hmap] at h
      obtain rfl : e' = e := Except.error.inj h
      obtain ⟨before, a, after, hsplit, hbefore, ha⟩ := exists_of_mapM_eq_error hmap
      exact ⟨before, a, after, hsplit, fun b hb => (hbefore b hb).elim fun _ hv => hv, ha⟩

theorem mapM_congr (h : ∀ a ∈ l, f a = g a) : l.mapM f = l.mapM g := by
  induction l with
  | nil => rfl
  | cons a l ih =>
      obtain ⟨ha, hl⟩ := List.forall_mem_cons.mp h
      rw [List.mapM_cons, List.mapM_cons, ha, ih hl]

theorem forM_eq_ok_iff {f : α → Except ε PUnit} : l.forM f = .ok () ↔ ∀ a ∈ l, f a = .ok () := by
  induction l with
  | nil => exact ⟨fun _ => nofun, fun _ => rfl⟩
  | cons a l ih =>
      simp only [List.forM_eq_forM, List.forM_cons, List.forall_mem_cons, bind_eq_ok] at ih ⊢
      rw [ih]
      constructor
      · rintro ⟨_, ha, hl⟩
        exact ⟨ha, hl⟩
      · rintro ⟨ha, hl⟩
        exact ⟨(), ha, hl⟩

end CompilationDatabase
