import CompilationDatabase.Proofs.Cycle
import Mathlib.Data.Fintype.Pigeonhole
import Mathlib.Data.Set.Finite.Basic

/-!
# Repeated requests — the names of the check, and the names of the table

Names are pending in lower case, whatever a table takes for one name. In a table whose names match as
they are written, the check is therefore stricter than it has to be: it refuses a name while the value of
another spelling is being expanded, which may be another name, or none.

Both notions are read off `Expander.RequestsWithin`, which says of an expansion without the check that
one name is requested while the value of another one is being expanded.

* An expansion that the check lets pass can be followed along its values, and no name that is requested
  on the way is pending (`Passes.lower_ne`). So the check fails exactly if the two names are equal in
  lower case (`circular_iff_requestsWithin`).
* An expansion that never ends requests one of the finitely many names of its table again, and this one
  under its key (`endless_iff_requestsWithin`).
-/

namespace CompilationDatabase

open Relation

namespace Expander

variable {e : Expander} {p : List Text} {n v : Text}

/-- In the expansion of a text without the check, a name is requested while the value of another one,
    or of the same, is being expanded. -/
def RequestsWithin (e : Expander) (root outer inner : Text) : Prop :=
  ∃ t v u, ReflTransGen e.Leads root t ∧ e.unchecked.Asks [] (e.reading t).template outer ∧
    e.lookup outer = .ok v ∧ ReflTransGen e.Leads v u ∧
    e.unchecked.Asks [] (e.reading u).template inner

/-! ## Expansions that the check lets pass -/

/-- A result that is not a fault of the check. -/
def Unrefused (e : Expander) (r : Except Fault Text) : Prop :=
  ∀ p n f, e.refuse p n = some f → r ≠ .error f

theorem Unrefused.of_map {r : Except Fault Text} {g : Text → Text} (h : e.Unrefused (r.map g)) :
    e.Unrefused r := by
  rintro p n f hf rfl
  exact h p n f hf rfl

/-- The expansion of a text while names are pending ends, and not with a fault of the check. -/
def Passes (e : Expander) (p : List Text) (t : Text) : Prop :=
  ∃ r, e.Gives p (.text t) r ∧ e.Unrefused r

/-- A name that is requested without the check is requested under it, if the check does not fail. -/
theorem Gives.request_of_asks {t : Template} {r : Except Fault Text} (h : e.Gives p (.template t) r)
    (hr : e.Unrefused r) (hask : e.unchecked.Asks [] t n) :
    ∃ r', e.Gives p (.request n) r' ∧ e.Unrefused r' := by
  -- results without the check are unique, so the derivation goes where the name is asked for
  induction hask generalizing r with
  | char _ ih =>
      cases h with
      | char h => exact ih h hr.of_map
  | name _ ih =>
      cases h with
      | token hn _ _ => exact ih hn fun _ _ _ _ => nofun
      | badName hn => exact ih hn hr
      | badToken hn _ => exact ih hn fun _ _ _ _ => nofun
  | token hname =>
      cases h with
      | token hn hq _ =>
          obtain rfl := Except.ok.inj ((hn.unchecked_of_ok []).unique hname)
          exact ⟨_, hq, fun _ _ _ _ => nofun⟩
      | badName hn => exact nomatch (hn.without_check hr []).unique hname
      | badToken hn hq =>
          obtain rfl := Except.ok.inj ((hn.unchecked_of_ok []).unique hname)
          exact ⟨_, hq, hr⟩
  | rest hname hreq _ ih =>
      cases h with
      | token _ _ hrest => exact ih hrest hr.of_map
      | badName hn => exact nomatch (hn.without_check hr []).unique hname
      | badToken hn hq =>
          obtain rfl := Except.ok.inj ((hn.unchecked_of_ok []).unique hname)
          exact nomatch (hq.without_check hr []).unique hreq

/-- A name that is requested in an expansion that passes has a result. -/
theorem Passes.exists_request {t : Text} (h : e.Passes p t)
    (hask : e.unchecked.Asks [] (e.reading t).template n) :
    ∃ r, e.Gives p (.request n) r ∧ e.Unrefused r := by
  obtain ⟨_, h, hr⟩ := h
  cases h with
  | @text _ _ r h =>
      refine h.request_of_asks ?_ hask
      rintro q m f hf rfl
      exact hr q m f hf rfl

/-- A name that is requested in an expansion that passes is not refused. -/
theorem Passes.refuse_eq_none {t : Text} (h : e.Passes p t)
    (hask : e.unchecked.Asks [] (e.reading t).template n) : e.refuse p n = none := by
  obtain ⟨r, hreq, hr⟩ := h.exists_request hask
  cases hreq with
  | refused hf => exact absurd rfl (hr _ _ _ hf)
  | missing hnone _ => exact hnone
  | value hnone _ _ => exact hnone

/-- The value of a name that is requested in an expansion that passes is expanded, and passes too. -/
theorem Passes.value {t : Text} (h : e.Passes p t)
    (hask : e.unchecked.Asks [] (e.reading t).template n) (hl : e.lookup n = .ok v) :
    e.Passes (p ++ [n.lower]) v := by
  obtain ⟨r, hreq, hr⟩ := h.exists_request hask
  cases hreq with
  | refused hf => exact absurd rfl (hr _ _ _ hf)
  | missing _ hl' => exact nomatch hl.symm.trans hl'
  | value _ hl' hv =>
      obtain rfl := Except.ok.inj (hl.symm.trans hl')
      exact ⟨r, hv, hr⟩

/-- The values that an expansion that passes leads to pass, with more names pending. -/
theorem Passes.leads {t u : Text} (h : e.Passes p t) (htu : ReflTransGen e.Leads t u) :
    ∃ inside, e.Passes (p ++ inside) u := by
  induction htu with
  | refl => exact ⟨[], by rwa [List.append_nil]⟩
  | tail _ hstep ih =>
      obtain ⟨inside, hpasses⟩ := ih
      obtain ⟨n, hask, hl⟩ := hstep
      refine ⟨inside ++ [n.lower], ?_⟩
      rw [← List.append_assoc]
      exact hpasses.value hask hl

/-- In an expansion that passes, a name differs in lower case from those around it. -/
theorem Passes.lower_ne {marker : Marker} {location : Option Text}
    {lookup : Text → Except Fault Text} {root outer inner : Text}
    (h : (checked marker location lookup).Passes [] root)
    (hwithin : (checked marker location lookup).RequestsWithin root outer inner) :
    outer.lower ≠ inner.lower := by
  obtain ⟨t, v, u, hroot, houter, hl, hvu, hinner⟩ := hwithin
  obtain ⟨around, ht⟩ := h.leads hroot
  obtain ⟨inside, hu⟩ := (ht.value houter hl).leads hvu
  intro heq
  refine circularFault_eq_none.mp (hu.refuse_eq_none hinner) ?_
  rw [← heq]
  exact List.mem_append_left _ (List.mem_append_right _ (List.mem_singleton_self _))

/-! ## Expansions that never end -/

/-- In a chain of values each leads to all that come after it. -/
theorem leads_of_le {values : Nat → Text} (h : ∀ i, e.Leads (values i) (values (i + 1))) {i j : Nat}
    (hij : i ≤ j) : ReflTransGen e.Leads (values i) (values j) := by
  induction hij with
  | refl => exact .refl
  | step _ ih => exact ih.tail (h _)

end Expander

namespace NameTable

variable {m : Matching} {macros : NameTable m} {location : Option Text} {text : Text}

/-- What has a value has its key among those of the entries. -/
theorem key_mem_of_macroValue {name value : Text} (h : macros.macroValue location name = .ok value) :
    m.key name ∈ macros.entries.map (m.key ·.name) := by
  obtain ⟨e, he, hkey, -⟩ := Entry.exists_of_find? (macroValue_eq_ok.mp h)
  exact List.mem_map.mpr ⟨e, he, hkey⟩

/-- A chain of values without an end requests a name again, as there are only finitely many keys. -/
theorem exists_requestsWithin_of_chain {values : Nat → Text}
    (h : ∀ i, (macros.expander location).Leads (values i) (values (i + 1))) :
    ∃ outer inner, (macros.expander location).RequestsWithin (values 0) outer inner ∧
      m.key outer = m.key inner := by
  choose name hask hl using h
  have hfinite : Finite {key // key ∈ macros.entries.map (m.key ·.name)} :=
    (List.finite_toSet _).to_subtype
  let keyAt : Nat → {key // key ∈ macros.entries.map (m.key ·.name)} :=
    fun i => ⟨m.key (name i), key_mem_of_macroValue (hl i)⟩
  obtain ⟨i, j, hne, hkeys⟩ := Finite.exists_ne_map_eq_of_infinite keyAt
  wlog hlt : i < j generalizing i j
  · exact this j i hne.symm hkeys.symm (Nat.lt_of_le_of_ne (Nat.le_of_not_lt hlt) hne.symm)
  have hleads (k : Nat) : (macros.expander location).Leads (values k) (values (k + 1)) :=
    ⟨name k, hask k, hl k⟩
  refine ⟨name i, name j, ⟨values i, values (i + 1), values j, ?_, hask i, hl i, ?_, hask j⟩,
    congrArg Subtype.val hkeys⟩
  · exact Expander.leads_of_le hleads (Nat.zero_le i)
  · exact Expander.leads_of_le hleads hlt

/-- An expansion never ends exactly if a name is requested while its own value is being expanded, under
    the key that it has in the table. -/
theorem endless_iff_requestsWithin :
    (¬ ∃ result, (macros.expander location).unchecked.Gives [] (.text text) result) ↔
      ∃ outer inner, (macros.expander location).RequestsWithin text outer inner ∧
        m.key outer = m.key inner := by
  rw [Expander.gives_iff_acc]
  constructor
  · intro hendless
    obtain ⟨values, rfl, hchain⟩ := not_acc_iff_exists_descending_chain.mp hendless
    exact exists_requestsWithin_of_chain hchain
  · rintro ⟨outer, inner, ⟨t, v, u, hroot, houter, hl, hvu, hinner⟩, hkey⟩ hacc
    -- the value that is found again leads to itself
    have huv : (macros.expander location).Leads u v := ⟨inner, hinner, macroValue_of_key_eq hl hkey⟩
    have hv := Expander.acc_of_leads hacc (hroot.tail ⟨outer, houter, hl⟩)
    exact Expander.not_leads_self hv (TransGen.tail' hvu huv)

/-- A circular reference is raised exactly if a name is requested, in any letter case, while its value is
    being expanded. -/
theorem circular_iff_requestsWithin :
    (∃ chain, macros.expand location text = .error (.failed (.circularReference chain) location)) ↔
      ∃ outer inner, (macros.expander location).RequestsWithin text outer inner ∧
        outer.lower = inner.lower := by
  constructor
  · rintro ⟨chain, h⟩
    obtain ⟨q, u, n, hreach, hask, href⟩ := exists_refused_of_circular h
    obtain ⟨t, outer, v, hlower, hroot, houter, hl, hvu⟩ :=
      hreach.leads_of_mem (circularFault_eq_some.mp href).1
    exact ⟨outer, n, ⟨t, v, u, hroot, houter, hl, hvu, hask.unchecked []⟩, hlower⟩
  · rintro ⟨outer, inner, hwithin, hlower⟩
    by_contra hno
    have hpasses : (macros.expander location).Passes [] text := by
      refine ⟨_, macros.gives_expand location (Nat.le_refl _) text, ?_⟩
      intro q n f hf hfault
      obtain ⟨-, rfl⟩ := circularFault_eq_some.mp hf
      exact hno ⟨_, hfault⟩
    exact hpasses.lower_ne hwithin hlower

/-- **The check compares names in lower case, in every table.** With macros whose names match as they
    are written: a circular reference is raised exactly if a name is requested while the value of a name
    that is equal to it in lower case is being expanded; the expansion without the check never ends
    exactly if a name is requested, as it is written, while its own value is being expanded, so every
    such expansion is a circular reference; and what the expansion without the check gives is the result
    of `expand` wherever that is not a circular reference. -/
theorem circular_iff_requested_in_any_case (macros : NameTable .exact) (location : Option Text)
    (text : Text) :
    ((∃ chain, macros.expand location text = .error (.failed (.circularReference chain) location)) ↔
      ∃ outer inner, (macros.expander location).RequestsWithin text outer inner ∧
        outer.lower = inner.lower) ∧
    ((¬ ∃ result, (macros.expander location).unchecked.Gives [] (.text text) result) ↔
      ∃ name, (macros.expander location).RequestsWithin text name name) ∧
    ((¬ ∃ result, (macros.expander location).unchecked.Gives [] (.text text) result) →
      ∃ chain, macros.expand location text = .error (.failed (.circularReference chain) location)) ∧
    ∀ result, (macros.expander location).unchecked.Gives [] (.text text) result →
      (∃ chain, macros.expand location text = .error (.failed (.circularReference chain) location)) ∨
        macros.expand location text = result := by
  have hendless : (¬ ∃ result, (macros.expander location).unchecked.Gives [] (.text text) result) ↔
      ∃ name, (macros.expander location).RequestsWithin text name name := by
    rw [endless_iff_requestsWithin]
    constructor
    · rintro ⟨outer, inner, hwithin, hsame⟩
      obtain rfl : outer = inner := hsame
      exact ⟨outer, hwithin⟩
    · rintro ⟨name, hwithin⟩
      exact ⟨name, name, hwithin, rfl⟩
  refine ⟨circular_iff_requestsWithin, hendless, fun hnone => ?_, fun result hresult => ?_⟩
  · obtain ⟨name, hwithin⟩ := hendless.mp hnone
    exact circular_iff_requestsWithin.mpr ⟨name, name, hwithin, rfl⟩
  · by_cases hcircular : ∃ chain,
        macros.expand location text = .error (.failed (.circularReference chain) location)
    · exact .inl hcircular
    · have hgives := macros.gives_of_not_circular fun chain h => hcircular ⟨chain, h⟩
      exact .inr (hgives.unique hresult)

/-- Two macros whose names differ only in their letter case. -/
def twoCases : NameTable .exact := ⟨[⟨"A".toList, "$(a)".toList⟩, ⟨"a".toList, "x".toList⟩], by decide⟩

/-- A circular reference that comes to an end without the check. -/
theorem circular_twoCases :
    twoCases.expand none "$(A)".toList
      = .error (.failed (.circularReference ["a".toList, "a".toList]) none) ∧
    (twoCases.expander none).unchecked.Gives [] (.text "$(A)".toList) (.ok "x".toList) := by
  have hname (p : List Text) (c : Char) :
      (twoCases.expander none).unchecked.Gives p (.template (.char c .done)) (.ok [c]) := .char .done
  have hvalue (p : List Text) :
      (twoCases.expander none).unchecked.Gives p (.text "x".toList) (.ok "x".toList) :=
    (hname p 'x').text_of_closed rfl
  have hinner (p : List Text) :
      (twoCases.expander none).unchecked.Gives p (.text "$(a)".toList) (.ok "x".toList) :=
    Expander.Gives.text_of_closed (.token (hname p 'a') (.value rfl rfl (hvalue _)) .done) rfl
  exact ⟨rfl, Expander.Gives.text_of_closed
    (.token (hname _ 'A') (.value rfl rfl (hinner _)) .done) rfl⟩

end NameTable

end CompilationDatabase
