import Mathlib.Data.List.Basic

/-!
# Texts as they are typed

Somebody who types a text back in does not keep its letter case and may leave blanks
around it.  What takes the blanks off and does not look at the case reads the text all
the same.
-/

namespace Lalaba.Foundation.Text

def strip (blank : Char → Bool) (text : List Char) : List Char :=
  ((text.dropWhile blank).reverse.dropWhile blank).reverse

def collapse (blank : Char → Bool) : List Char → List Char
  | [] => []
  | character :: rest =>
    if blank character = false then character :: collapse blank rest
    else if rest.head?.any blank then collapse blank rest
    else ' ' :: collapse blank rest

def padStart (width : ℕ) (fill : Char) (text : List Char) : List Char :=
  List.replicate (width - text.length) fill ++ text

def lowered (text : List Char) : List Char := text.map Char.toLower

def Typed (blank : Char → Bool) (text typed : List Char) : Prop :=
  ∃ before word after, typed = before ++ word ++ after ∧
    before.all blank = true ∧ after.all blank = true ∧ lowered word = lowered text

section

variable {blank : Char → Bool} {text before word after : List Char}
  {width : ℕ} {fill character : Char}

theorem dropWhile_append (blanks : before.all blank = true) :
    (before ++ text).dropWhile blank = text.dropWhile blank := by
  rw [List.dropWhile_append_of_pos]
  exact List.all_eq_true.mp blanks

theorem dropWhile_of_no_blank (none : ∀ letter ∈ text, blank letter = false) :
    text.dropWhile blank = text := by
  cases text with
  | nil => rfl
  | cons letter rest =>
    exact List.dropWhile_cons_of_neg (by simp [none letter (.head _)])

theorem strip_surrounded (none : ∀ letter ∈ word, blank letter = false)
    (blanks : before.all blank = true) (blanks' : after.all blank = true) :
    strip blank (before ++ word ++ after) = word := by
  rw [strip, List.append_assoc, dropWhile_append blanks]
  cases word with
  | nil =>
    have gone : (([] : List Char) ++ after).dropWhile blank = [] := by
      rw [List.nil_append, ← List.append_nil after, dropWhile_append blanks']
      rfl
    rw [gone]
    rfl
  | cons letter rest =>
    have kept : ((letter :: rest) ++ after).dropWhile blank =
        letter :: rest ++ after :=
      List.dropWhile_cons_of_neg (by simp [none letter (.head _)])
    rw [kept, List.reverse_append, dropWhile_append, dropWhile_of_no_blank, List.reverse_reverse]
    · intro other member
      exact none other (List.mem_reverse.mp member)
    · rw [List.all_reverse]
      exact blanks'

theorem collapse_of_no_blank (none : ∀ letter ∈ text, blank letter = false) :
    collapse blank text = text := by
  induction text with
  | nil => rfl
  | cons letter rest induction =>
    rw [collapse, if_pos (none letter (.head _)),
      induction fun other member => none other (.tail _ member)]

theorem padStart_of_le (wide : width ≤ text.length) : padStart width fill text = text := by
  rw [padStart, Nat.sub_eq_zero_of_le wide]
  rfl

theorem length_padStart : (padStart width fill text).length = max width text.length := by
  rw [padStart, List.length_append, List.length_replicate]
  omega

end

section

variable {blank : Char → Bool} {character : Char} {text word : List Char}

theorem toLower_of_not_capital
    (small : character.toNat < 65 ∨ 90 < character.toNat) :
    character.toLower = character := by
  unfold Char.toLower
  rw [dif_neg]
  rintro ⟨least, most⟩
  have least : 65 ≤ character.toNat := least
  have most : character.toNat ≤ 90 := most
  omega

theorem no_blank_of_lowered
    (small : ∀ letter : Char, blank letter = true → letter.toNat < 65 ∨ 90 < letter.toNat)
    (same : lowered word = lowered text)
    (none : ∀ letter ∈ lowered text, blank letter = false) :
    ∀ letter ∈ word, blank letter = false := by
  intro letter member
  have typed : letter.toLower ∈ lowered text := by
    rw [← same]
    exact List.mem_map_of_mem member
  by_contra blanks
  have blanks : blank letter = true := by simpa using blanks
  have kept := none _ typed
  rw [toLower_of_not_capital (small letter blanks), blanks] at kept
  cases kept

end

end Lalaba.Foundation.Text
