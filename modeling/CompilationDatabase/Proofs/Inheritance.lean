import CompilationDatabase.Item.Basic
import CompilationDatabase.Proofs.LowerCase
import CompilationDatabase.Proofs.Pieces

/-!
# Inheritance — values written around the ones that they take the place of

A value of a property may refer to the value before it, as `%(P)` in a value of `P`. Two things
happen to such a text. When it is set, the value before takes the place of the reference (`Item.inherit`).
When the walk is over, the text that has come of this is cut into elements, and each element is
trimmed and expanded (`Origin.expandProperty`). Neither knows what the other one does: the value
before may have separators in it, or tokens that are never closed.

Both go from separator to separator. A reference has no separator in it, so it is found on one side
of a separator or on the other (`replaceWord_append`), and elements are expanded apart from each
other (`expandProperty_append`). So a list that is written between two others is resolved as it is alone,
and what comes of the three is put together again (`expandProperty_text`).
-/

namespace CompilationDatabase

/-! ## Words in texts with separators -/

namespace Text

/-- Whether a separator agrees with no character of a word. -/
def KeepsWhole (separator : Char) (word : Text) : Prop := ∀ w ∈ word, partner w ≠ partner separator

theorem length_le_of_afterWord? {word t rest : Text} (h : afterWord? word t = some rest) :
    word.length ≤ t.length := by
  induction word generalizing t with
  | nil => exact Nat.zero_le _
  | cons w word ih =>
      cases t with
      | nil => cases h
      | cons c t =>
          rw [afterWord?] at h
          split at h
          · exact Nat.succ_le_succ (ih h)
          · cases h

/-- A word at the start of a text stands in front of the separator that comes next. -/
theorem afterWord?_append {separator : Char} {word : Text} (hword : KeepsWhole separator word)
    (a b : Text) :
    afterWord? word (a ++ separator :: b) = (afterWord? word a).map (· ++ separator :: b) := by
  induction word generalizing a with
  | nil => rfl
  | cons w word ih =>
      have hw := hword w List.mem_cons_self
      cases a with
      | nil => exact if_neg hw
      | cons c a =>
          rw [List.cons_append, afterWord?, afterWord?]
          split
          · exact ih (fun v hv => hword v (List.mem_cons_of_mem _ hv)) a
          · rfl

/-- A word is replaced before and from a character on that can only be its first one. -/
theorem replaceWordAfter_append {head c : Char} {tail : Text} (htail : KeepsWhole c tail)
    (new b : Text) {seen : Nat} {a : Text} (h : seen ≤ a.length) :
    replaceWordAfter head tail new seen (a ++ c :: b)
      = replaceWordAfter head tail new seen a ++ replaceWord head tail new (c :: b) := by
  induction a generalizing seen with
  | nil =>
      obtain rfl := Nat.le_zero.mp h
      rfl
  | cons d a ih =>
      cases seen with
      | succ seen => exact ih (Nat.le_of_succ_le_succ h)
      | zero =>
          have hafter : afterWord? (head :: tail) (d :: (a ++ c :: b))
              = (afterWord? (head :: tail) (d :: a)).map (· ++ c :: b) := by
            rw [afterWord?, afterWord?]
            split
            · exact afterWord?_append htail a b
            · rfl
          rw [List.cons_append, replaceWordAfter, replaceWordAfter, hafter]
          cases hword : afterWord? (head :: tail) (d :: a) with
          | none =>
              show d :: replaceWordAfter head tail new 0 (a ++ c :: b) = _
              rw [ih (Nat.zero_le _)]
              rfl
          | some rest =>
              have hlength := length_le_of_afterWord? hword
              show new ++ replaceWordAfter head tail new tail.length (a ++ c :: b) = _
              rw [ih (Nat.le_of_succ_le_succ hlength), ← List.append_assoc]

/-- Words are replaced on both sides of a separator that they do not have in them. -/
theorem replaceWord_append {separator head : Char} {tail : Text}
    (hword : KeepsWhole separator (head :: tail)) (new a b : Text) :
    replaceWord head tail new (a ++ separator :: b)
      = replaceWord head tail new a ++ separator :: replaceWord head tail new b := by
  have hnone : afterWord? (head :: tail) (separator :: b) = none :=
    if_neg (hword head List.mem_cons_self)
  have hseparator : replaceWord head tail new (separator :: b)
      = separator :: replaceWord head tail new b := by
    rw [replaceWord, replaceWordAfter, hnone]
    rfl
  have htail : KeepsWhole separator tail := fun w hw => hword w (List.mem_cons_of_mem _ hw)
  rw [← hseparator]
  exact replaceWordAfter_append htail new b (Nat.zero_le _)

theorem afterWord?_of_agrees {word t : Text} (h : t.agrees word = true) :
    afterWord? word t = some [] := by
  have hmap : t.map partner = word.map partner := beq_iff_eq.mp h
  induction word generalizing t with
  | nil => rw [List.map_eq_nil_iff.mp hmap]; rfl
  | cons w word ih =>
      cases t with
      | nil => exact nomatch hmap
      | cons c t =>
          obtain ⟨hc, ht⟩ := List.cons.inj hmap
          rw [afterWord?, if_pos hc.symm]
          exact ih (beq_iff_eq.mpr ht) ht

/-- Characters that were seen already are left out. -/
theorem replaceWordAfter_length (head : Char) (tail new a b : Text) :
    replaceWordAfter head tail new a.length (a ++ b) = replaceWord head tail new b := by
  induction a with
  | nil => rfl
  | cons c a ih => exact ih

/-- A text that is the word itself, in any cases, is replaced as a whole. -/
theorem replaceWord_of_agrees {head : Char} {tail t : Text} (h : t.agrees (head :: tail) = true)
    (new : Text) : replaceWord head tail new t = new := by
  have hlength : t.length = tail.length + 1 := by
    have hmap : t.map partner = (head :: tail).map partner := beq_iff_eq.mp h
    simpa using congrArg List.length hmap
  cases t with
  | nil => exact nomatch hlength
  | cons c t =>
      rw [replaceWord, replaceWordAfter, afterWord?_of_agrees h]
      have hseen := replaceWordAfter_length head tail new t []
      rw [List.append_nil] at hseen
      show new ++ replaceWordAfter head tail new tail.length t = new
      rw [← Nat.succ.inj hlength, hseen]
      exact List.append_nil new

/-! ## Lists put together -/

/-- Two lists one after the other, with a separator between them unless one of them is empty. -/
def plus (separator : Char) (a b : Text) : Text :=
  if a = [] then b else if b = [] then a else a ++ separator :: b

theorem join_eq_nil {separator : Char} {parts : List Text} (h : [] ∉ parts) :
    join separator parts = [] ↔ parts = [] := by
  refine ⟨fun hjoin => ?_, fun hnil => hnil ▸ rfl⟩
  cases parts with
  | nil => rfl
  | cons part parts =>
      have hpart : part ≠ [] := fun hnil => h (hnil ▸ List.mem_cons_self)
      by_cases hparts : parts = []
      · rw [hparts] at hjoin
        exact absurd (by simpa [join] using hjoin) hpart
      · rw [join_cons separator part hparts] at hjoin
        exact absurd (List.append_eq_nil_iff.mp hjoin).1 hpart

/-- Elements that are not empty are joined part by part. -/
theorem join_append_plus (separator : Char) {before after : List Text} (hbefore : [] ∉ before)
    (hafter : [] ∉ after) :
    join separator (before ++ after)
      = plus separator (join separator before) (join separator after) := by
  by_cases hnil : before = []
  · rw [plus, if_pos ((join_eq_nil hbefore).mpr hnil), hnil, List.nil_append]
  · by_cases hnil' : after = []
    · rw [plus, if_neg (mt (join_eq_nil hbefore).mp hnil),
        if_pos ((join_eq_nil hafter).mpr hnil'), hnil', List.append_nil]
    · rw [plus, if_neg (mt (join_eq_nil hbefore).mp hnil),
        if_neg (mt (join_eq_nil hafter).mp hnil'), join_append separator hnil hnil']

/-! ## Names in ASCII -/

theorem lower_ne_nil {name : Text} (hname : name ≠ []) (hascii : ∀ c ∈ name, c.toNat < 128) :
    name.lower ≠ [] := by
  cases name with
  | nil => exact absurd rfl hname
  | cons c name =>
      rw [lower, lowerAfter, if_pos (hascii c List.mem_cons_self)]
      exact List.cons_ne_nil _ _

end Text

/-! ## Extended values -/

open Origin (listSeparator)

/-- A value of a property that is written around a reference to the value before it. -/
structure Extension where
  property : Text
  /-- The property as it is written in the reference. -/
  reference : Text
  /-- What stands before the reference. -/
  before : Text
  /-- What stands after the reference. -/
  after : Text
  ascii : ∀ c ∈ property, c.toNat < 128
  named : property ≠ []
  whole : listSeparator ∉ property
  /-- The property may be written in any letter case. -/
  spelled : reference.agrees property = true

namespace Extension

/-- The value as it is written. -/
def text (x : Extension) : Text :=
  x.before ++ listSeparator :: ('%' :: ('(' :: x.reference ++ [')']) ++ listSeparator :: x.after)

theorem keepsWhole (x : Extension) :
    Text.KeepsWhole listSeparator ('%' :: ('(' :: x.property ++ [')'])) := by
  intro w hw
  have hascii : w.toNat < 128 := by
    simp only [List.cons_append, List.mem_cons, List.mem_append, List.not_mem_nil, or_false] at hw
    rcases hw with rfl | rfl | hw | rfl
    · decide
    · decide
    · exact x.ascii w hw
    · decide
  have hne : w ≠ listSeparator := by
    rintro rfl
    have hmem : listSeparator ∈ x.property := by simpa [listSeparator] using hw
    exact x.whole hmem
  rw [Text.partner, if_pos hascii]
  exact fun heq => hne (Text.eq_of_toLower_eq heq rfl)

/-- What is set is the value before, between what stands around the reference; there references are
    replaced as well. -/
theorem inherit_text (x : Extension) (inherited : Text) :
    Item.inherit x.property inherited x.text
      = Item.inherit x.property inherited x.before ++ listSeparator ::
          (inherited ++ listSeparator :: Item.inherit x.property inherited x.after) := by
  have hreference : Text.agrees ('%' :: ('(' :: x.reference ++ [')']))
      ('%' :: ('(' :: x.property ++ [')'])) = true := by
    have hmap : x.reference.map Text.partner = x.property.map Text.partner :=
      beq_iff_eq.mp x.spelled
    rw [Text.agrees, beq_iff_eq]
    simp only [List.map_append, List.map_cons, hmap]
  simp only [Item.inherit, text]
  rw [Text.replaceWord_append x.keepsWhole, Text.replaceWord_append x.keepsWhole,
    Text.replaceWord_of_agrees hreference]

end Extension

namespace Origin

variable {times : FileTimes (Except Fault)} {o : Origin} {location : Option Text}
  {property : Text} {m : Matching} {macros : NameTable m}

/-- Two lists with a separator between them are resolved one after the other. -/
theorem expandProperty_append (a b : Text) :
    o.expandProperty times location property macros (a ++ listSeparator :: b) = (do
      let first ← o.expandProperty times location property macros a
      let second ← o.expandProperty times location property macros b
      return first.plus listSeparator second) := by
  have hjoin : ∀ xs ys : List Text, Text.join listSeparator ((xs ++ ys).filter (· ≠ []))
      = (Text.join listSeparator (xs.filter (· ≠ []))).plus listSeparator
        (Text.join listSeparator (ys.filter (· ≠ []))) := by
    intro xs ys
    rw [List.filter_append]
    exact Text.join_append_plus _ (by simp) (by simp)
  simp only [expandProperty, Text.pieces_append, List.mapM_append, bind_assoc, pure_bind, hjoin]

/-- **A list that is extended in place is resolved in three parts.** What comes of a value that is
    written around a reference is what comes of its start, of the value before and of its end, put
    together; and if one of these fails, it fails with the first fault. -/
theorem expandProperty_text (x : Extension) (inherited : Text) :
    o.expandProperty times location property macros
        (Item.inherit x.property inherited x.text) = (do
      let start ← o.expandProperty times location property macros
        (Item.inherit x.property inherited x.before)
      let middle ← o.expandProperty times location property macros inherited
      let rest ← o.expandProperty times location property macros
        (Item.inherit x.property inherited x.after)
      return (start.plus listSeparator middle).plus listSeparator rest) := by
  have hgroup (a b c : Text) : a ++ listSeparator :: (b ++ listSeparator :: c)
      = (a ++ listSeparator :: b) ++ listSeparator :: c := by simp
  rw [x.inherit_text, hgroup, expandProperty_append, expandProperty_append]
  simp only [bind_assoc, pure_bind]

/-- A property is expanded alike in all its spellings. -/
theorem expandProperty_spelling {other : Text} (hlower : other.lower = property.lower)
    (hproperty : property ≠ []) (hother : other ≠ []) :
    o.expandProperty times location other macros = o.expandProperty times location property macros := by
  have hvalue : o.valueWithin times location other = o.valueWithin times location property := by
    funext name
    simp only [valueWithin, hlower, hproperty, hother, ne_eq, not_false_eq_true, true_and]
  have helement : o.expandElement times location other macros = o.expandElement times location property macros := by
    funext element
    simp only [expandElement, expandMetadata, hvalue]
  funext value
  rw [expandProperty, expandProperty, helement]

end Origin

end CompilationDatabase
