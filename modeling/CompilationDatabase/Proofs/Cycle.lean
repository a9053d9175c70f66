import CompilationDatabase.Proofs.Termination
import Mathlib.Logic.Relation
import Mathlib.Order.WellFounded

/-!
# Cycles — a circular reference is reported exactly where expansion would never end

Without the check a text may have no derivation. Which values an expansion comes to is a relation
between texts, `Expander.Leads`, and the texts with a derivation are those from which it cannot be
followed forever (`gives_iff_acc`).

The check sees no values, only pending names. The link is `Reaches.leads_of_mem`: the value of a
pending name leads to the text that is being expanded. So a name that is met again while it is
pending has a value that leads to itself, and the text that led there cannot have a derivation.
-/

namespace CompilationDatabase

open Relation

namespace Expander

variable {e : Expander} {p : List Text}

/-- Without the check, the expansion of a text comes to the expansion of a value. -/
def Leads (e : Expander) (t v : Text) : Prop :=
  ∃ n, e.unchecked.Asks [] (e.reading t).template n ∧ e.lookup n = .ok v

/-! ## Derivations without the check -/

/-- No value that a task comes to leads on forever. -/
def Grounded (e : Expander) : Task → Prop
  | .text t => Acc (Function.swap e.Leads) t
  | .template t =>
      ∀ n v, e.unchecked.Asks [] t n → e.lookup n = .ok v → Acc (Function.swap e.Leads) v
  | .request n => ∀ v, e.lookup n = .ok v → Acc (Function.swap e.Leads) v

/-- A derivation is finite, and so is all that it comes to. -/
theorem grounded_of_gives {task : Task} {r : Except Fault Text} (h : e.unchecked.Gives p task r) :
    e.Grounded task := by
  -- results are unique, so the names that can be asked for are those of the derivation
  induction h with
  | text _ ih =>
      refine Acc.intro _ ?_
      rintro v ⟨n, hn, hl⟩
      exact ih n v hn hl
  | done => intro n v hn; cases hn
  | char _ ih =>
      intro n v hn hl
      cases hn with
      | char hn => exact ih n v hn hl
  | token hname _ _ ihn ihq ihr =>
      intro n v hn hl
      cases hn with
      | name hn => exact ihn n v hn hl
      | token hn =>
          obtain rfl := Except.ok.inj (hn.unique (hname.forget_pending []))
          exact ihq v hl
      | rest _ _ hn => exact ihr n v hn hl
  | badName hname ihn =>
      intro n v hn hl
      cases hn with
      | name hn => exact ihn n v hn hl
      | token hn => exact nomatch hn.unique (hname.forget_pending [])
      | rest hn _ _ => exact nomatch hn.unique (hname.forget_pending [])
  | badToken hname hreq ihn ihq =>
      intro n v hn hl
      cases hn with
      | name hn => exact ihn n v hn hl
      | token hn =>
          obtain rfl := Except.ok.inj (hn.unique (hname.forget_pending []))
          exact ihq v hl
      | rest hn hq _ =>
          obtain rfl := Except.ok.inj (hn.unique (hname.forget_pending []))
          exact nomatch hq.unique (hreq.forget_pending [])
  | refused hf => exact nomatch hf
  | missing _ hl => intro v hv; exact nomatch hl.symm.trans hv
  | value _ hl _ ih =>
      intro v hv
      obtain rfl := Except.ok.inj (hl.symm.trans hv)
      exact ih

/-- A template has a derivation if all values that it comes to have one. -/
theorem exists_gives_template {t : Template}
    (h : ∀ n v, e.unchecked.Asks [] t n → e.lookup n = .ok v →
      ∃ r, e.unchecked.Gives [] (.text v) r) :
    ∃ r, e.unchecked.Gives [] (.template t) r := by
  induction t with
  | done => exact ⟨_, .done⟩
  | char c rest ih =>
      obtain ⟨r, hr⟩ := ih fun n v hn => h n v (.char hn)
      exact ⟨_, .char hr⟩
  | token name rest ihn ihr =>
      obtain ⟨rn, hn⟩ := ihn fun n v hn => h n v (.name hn)
      cases rn with
      | error f => exact ⟨_, .badName hn⟩
      | ok n =>
          have hreq : ∃ r, e.unchecked.Gives [] (.request n) r := by
            cases hl : e.lookup n with
            | error f => exact ⟨_, .missing rfl hl⟩
            | ok v =>
                obtain ⟨r, hv⟩ := h n v (.token hn) hl
                exact ⟨r, .value rfl hl (hv.forget_pending _)⟩
          obtain ⟨rq, hq⟩ := hreq
          cases rq with
          | error f => exact ⟨_, .badToken hn hq⟩
          | ok here =>
              obtain ⟨r, hr⟩ := ihr fun n v hn' => h n v (.rest hn hq hn')
              exact ⟨_, .token hn hq hr⟩

/-- A text has a derivation without the check exactly if it does not lead on forever. -/
theorem gives_iff_acc {t : Text} :
    (∃ r, e.unchecked.Gives [] (.text t) r) ↔ Acc (Function.swap e.Leads) t := by
  constructor
  · rintro ⟨r, h⟩
    exact grounded_of_gives h
  · intro h
    induction h with
    | intro t _ ih =>
        obtain ⟨r, hr⟩ := exists_gives_template (e := e) (t := (e.reading t).template)
          fun n v hn hl => ih v ⟨n, hn, hl⟩
        exact ⟨_, .text hr⟩

/-- No text that does not lead on forever leads to itself. -/
theorem not_leads_self {t : Text} (h : Acc (Function.swap e.Leads) t) :
    ¬ TransGen e.Leads t t := by
  induction h with
  | intro t _ ih =>
      intro hcycle
      obtain ⟨u, htu, hut⟩ := TransGen.head'_iff.mp hcycle
      exact ih u htu (TransGen.tail' hut htu)

/-- What a text leads to does not lead on forever if the text does not. -/
theorem acc_of_leads {t u : Text} (h : Acc (Function.swap e.Leads) t)
    (htu : ReflTransGen e.Leads t u) : Acc (Function.swap e.Leads) u := by
  induction htu with
  | refl => exact h
  | tail _ hstep ih => exact ih.inv hstep

/-! ## What the pending names are -/

/-- A text leads to every value that is expanded while it is. -/
theorem Reaches.leads {root t : Text} (h : e.Reaches root p t) : ReflTransGen e.Leads root t := by
  induction h with
  | root => exact .refl
  | value _ hask _ hl ih => exact ih.tail ⟨_, hask.unchecked [], hl⟩

/-- A name that is pending was looked up in a text that the expansion came to, and its value leads to
    the text that is being expanded. -/
theorem Reaches.leads_of_mem {root t : Text} (h : e.Reaches root p t) {key : Text}
    (hkey : key ∈ p) :
    ∃ u n v, n.lower = key ∧ ReflTransGen e.Leads root u ∧
      e.unchecked.Asks [] (e.reading u).template n ∧ e.lookup n = .ok v ∧
      ReflTransGen e.Leads v t := by
  induction h with
  | root => exact nomatch hkey
  | @value p t n v hreach hask _ hl ih =>
      rcases List.mem_append.mp hkey with hmem | hmem
      · -- pending before: one step is added to what its value leads to
        obtain ⟨u, n', v', hn', hroot, hask', hl', hv'⟩ := ih hmem
        exact ⟨u, n', v', hn', hroot, hask', hl', hv'.tail ⟨n, hask.unchecked [], hl⟩⟩
      · rw [List.mem_singleton] at hmem
        exact ⟨t, n, v, hmem.symm, hreach.leads, hask.unchecked [], hl, .refl⟩

/-- Closing a reading fails only for a token that is never closed. -/
theorem close_eq_error {marker : Marker} {location : Option Text} {r : Reading} {filled : Text}
    {f : Fault} (h : r.close marker location filled = .error f) :
    ∃ u : Unclosed, f = .failed (u.cause marker) location := by
  cases hu : r.unclosed with
  | none =>
      rw [Reading.close, hu] at h
      cases h
  | some u =>
      rw [Reading.close, hu] at h
      exact ⟨u, (Except.error.inj h).symm⟩

/-- A fault of a text that is not about an unclosed token is a fault of its template. -/
theorem Gives.template_of_text {t : Text} {r : Except Fault Text} {f : Fault}
    (h : e.Gives p (.text t) r) (hr : r = .error f)
    (hclose : ∀ u : Unclosed, f ≠ .failed (u.cause e.marker) e.location) :
    e.Gives p (.template (e.reading t).template) (.error f) := by
  cases h with
  | @text _ _ r h =>
      cases r with
      | ok filled =>
          obtain ⟨u, hu⟩ := close_eq_error hr
          exact absurd hu (hclose u)
      | error g =>
          obtain rfl := Except.error.inj hr
          exact h

/-- A fault that neither a lookup nor an unclosed token explains was raised by the check, for a name
    that was looked up in a value that the expansion reached. -/
theorem exists_refused {root t : Text} {f : Fault} {bound : Nat}
    (hbound : ∀ p t, e.Reaches root p t → p.length ≤ bound)
    (hlookup : ∀ n, e.lookup n ≠ .error f)
    (hclose : ∀ u : Unclosed, f ≠ .failed (u.cause e.marker) e.location)
    (hreach : e.Reaches root p t) (h : e.Gives p (.text t) (.error f)) :
    ∃ q u n, e.Reaches root q u ∧ e.Asks q (e.reading u).template n ∧ e.refuse q n = some f := by
  -- each value that is entered makes one more name pending, and there is a bound on those
  induction hk : bound - p.length using Nat.strongRecOn generalizing p t with
  | ind k ih =>
      obtain ⟨n, hask, hreq⟩ := exists_asks_of_fault (h.template_of_text rfl hclose) rfl
      cases hreq with
      | refused hf => exact ⟨p, t, n, hreach, hask, hf⟩
      | missing _ hl => exact absurd hl (hlookup n)
      | value hn hl hv =>
          have hreach' := Reaches.value hreach hask hn hl
          have hle := hbound _ _ hreach'
          rw [List.length_append, List.length_singleton] at hle
          refine ih _ ?_ hreach' hv rfl
          rw [List.length_append, List.length_singleton]
          omega

end Expander

/-! ## Macros -/

/-- A circular reference is no fault of a token that is never closed. -/
theorem circularReference_ne_cause (chain : List Text) (marker : Marker)
    (location : Option Text) (u : Unclosed) :
    Fault.failed (.circularReference chain) location ≠ .failed (u.cause marker) location := by
  rw [Unclosed.cause]
  split <;> simp

namespace NameTable

variable {location : Option Text}

/-- A name that is not in the table is no circular reference. -/
theorem macroValue_ne_circularReference {m : Matching} (macros : NameTable m) (name : Text)
    (chain : List Text) :
    macros.macroValue location name ≠ .error (.failed (.circularReference chain) location) := by
  rw [macroValue]
  cases macros.get? name <;> simp

/-- All spellings of a name have the same value. -/
theorem macroValue_of_key_eq {m : Matching} {macros : NameTable m} {a b value : Text}
    (h : macros.macroValue location a = .ok value) (hab : m.key a = m.key b) :
    macros.macroValue location b = .ok value := by
  rw [macroValue_eq_ok] at h ⊢
  rw [← h]
  exact congrArg (Entry.find? m · macros.entries) hab.symm

/-- A fault of macros that neither a lookup nor an unclosed token explains was raised by the check. -/
theorem exists_refused {m : Matching} {macros : NameTable m} {text : Text} {f : Fault}
    (hlookup : ∀ n, macros.macroValue location n ≠ .error f)
    (hclose : ∀ u : Unclosed, f ≠ .failed (u.cause .macros) location)
    (h : macros.expand location text = .error f) :
    ∃ pending t n, (macros.expander location).Reaches text pending t ∧
      (macros.expander location).Asks pending ((macros.expander location).reading t).template n ∧
      (macros.expander location).refuse pending n = some f := by
  have hgives : (macros.expander location).Gives [] (.text text) (macros.expand location text) :=
    macros.gives_expand location (Nat.le_refl _) text
  rw [h] at hgives
  exact Expander.exists_refused
    (fun p t hr => (Expander.Reaches.pending lower_mem_lowerNames hr).2) hlookup hclose .root hgives

/-- A circular reference was raised for a name that was pending. -/
theorem exists_refused_of_circular {m : Matching} {macros : NameTable m} {text : Text}
    {chain : List Text}
    (h : macros.expand location text = .error (.failed (.circularReference chain) location)) :
    ∃ pending t n, (macros.expander location).Reaches text pending t ∧
      (macros.expander location).Asks pending ((macros.expander location).reading t).template n ∧
      (macros.expander location).refuse pending n = some (.failed (.circularReference chain) location) :=
  exists_refused (fun n => macros.macroValue_ne_circularReference n chain)
    (circularReference_ne_cause chain .macros location) h

/-- A circular reference is raised only for a text that leads to a value that leads to itself. -/
theorem exists_cycle {macros : NameTable .ignoringCase} {text : Text} {chain : List Text}
    (h : macros.expand location text = .error (.failed (.circularReference chain) location)) :
    ∃ v, ReflTransGen (macros.expander location).Leads text v ∧
      TransGen (macros.expander location).Leads v v := by
  obtain ⟨q, u, n, hreach, hask, href⟩ := exists_refused_of_circular h
  -- the name that was refused is pending, and its value leads to where it was met again
  obtain ⟨t, n', v, hlower, hroot, hask', hl, hvu⟩ :=
    hreach.leads_of_mem (circularFault_eq_some.mp href).1
  have huv : (macros.expander location).Leads u v :=
    ⟨n, hask.unchecked [], macroValue_of_key_eq hl hlower⟩
  exact ⟨v, hroot.tail ⟨n', hask', hl⟩, TransGen.tail' hvu huv⟩

/-- A circular reference is raised only for a text without a derivation. -/
theorem not_gives_of_circular {macros : NameTable .ignoringCase} {text : Text} {chain : List Text}
    (h : macros.expand location text = .error (.failed (.circularReference chain) location)) :
    ¬ ∃ result, (macros.expander location).unchecked.Gives [] (.text text) result := by
  rw [Expander.gives_iff_acc]
  intro hacc
  obtain ⟨v, hroot, hcycle⟩ := exists_cycle h
  exact Expander.not_leads_self (Expander.acc_of_leads hacc hroot) hcycle

/-- Any other result is found without the check. -/
theorem gives_of_not_circular {m : Matching} (macros : NameTable m) {text : Text}
    (h : ∀ chain,
      macros.expand location text ≠ .error (.failed (.circularReference chain) location)) :
    (macros.expander location).unchecked.Gives [] (.text text) (macros.expand location text) := by
  refine (macros.gives_expand location (Nat.le_refl _) text).without_check ?_ []
  intro q n f hf
  obtain ⟨-, rfl⟩ := circularFault_eq_some.mp hf
  exact h _

/-- A circular reference is raised exactly for a text without a derivation. -/
theorem circular_iff_not_gives {macros : NameTable .ignoringCase} {text : Text} :
    (∃ chain, macros.expand location text = .error (.failed (.circularReference chain) location)) ↔
      ¬ ∃ result, (macros.expander location).unchecked.Gives [] (.text text) result := by
  constructor
  · rintro ⟨chain, h⟩
    exact not_gives_of_circular h
  · intro hnone
    by_contra hno
    exact hnone ⟨_, macros.gives_of_not_circular fun chain h => hno ⟨chain, h⟩⟩

/-- The result of a derivation without the check is the result of expansion. -/
theorem expand_of_gives {macros : NameTable .ignoringCase} {text : Text}
    {result : Except Fault Text}
    (h : (macros.expander location).unchecked.Gives [] (.text text) result) :
    macros.expand location text = result := by
  have hno : ∀ chain,
      macros.expand location text ≠ .error (.failed (.circularReference chain) location) :=
    fun chain hc => circular_iff_not_gives.mp ⟨chain, hc⟩ ⟨result, h⟩
  exact (macros.gives_of_not_circular hno).unique h

end NameTable

/-- **The check finds exactly the endless expansions.** With macros whose names match in all letter
    cases: the result of a derivation without the check, a value or a fault, is the result of
    `expand`; a text is a circular reference exactly if it has no such derivation; and it has none
    exactly if its expansion leads from value to value without end. -/
theorem circular_iff_endless (macros : NameTable .ignoringCase) (location : Option Text)
    (text : Text) :
    (∀ result, (macros.expander location).unchecked.Gives [] (.text text) result →
      macros.expand location text = result) ∧
    ((∃ chain, macros.expand location text = .error (.failed (.circularReference chain) location)) ↔
      ¬ ∃ result, (macros.expander location).unchecked.Gives [] (.text text) result) ∧
    ((¬ ∃ result, (macros.expander location).unchecked.Gives [] (.text text) result) ↔
      ∃ values : Nat → Text, values 0 = text ∧
        ∀ i, (macros.expander location).Leads (values i) (values (i + 1))) := by
  refine ⟨fun result => NameTable.expand_of_gives, NameTable.circular_iff_not_gives, ?_⟩
  rw [Expander.gives_iff_acc]
  exact not_acc_iff_exists_descending_chain

end CompilationDatabase
