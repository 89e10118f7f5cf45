import Lalaba.Search.Term

/-!
# Identifiers that are typed back in

An order number is read back as long as its count has six digits: from the millionth
order on the shape does not take it, and the box looks for a name.  A ticket number is
never read back, as the shape knows other prefixes than the generator.
-/

namespace Lalaba.Search

open Foundation
open Orders (isBlank trimmed)

/-- The kinds of numbers that are given out. -/
inductive Identifier where
  | order
  | ticket
deriving DecidableEq

def Identifier.number (count : ℕ) : Identifier → String
  | .order => nextOrderNumber count
  | .ticket => nextTicketNumber count

/-- A term of this kind, of no other, and with this value. -/
structure TermShape.Identifies (shape : TermShape) (kind : Identifier)
    (number : String) : Prop where
  orderNumber : shape.orderNumber =
    if kind = .order then some number else none
  ticketNumber : shape.ticketNumber =
    if kind = .ticket then some number else none
  phoneTail : shape.phoneTail = none
  email : shape.email = none
  objectId : shape.objectId = none
  firebaseUid : shape.firebaseUid = none

def OrderSearchClause.Exact (fold : Char → Char) (number : String)
    (clause : Option OrderSearchClause) : Prop :=
  ∀ order : SearchedOrder,
    clause.any (OrderSearchClause.matches fold order) = true ↔ order.orderNumber = some number

def Identifier.ReadsBack (toLowerCase : String → String)
    (fold : Char → Char) (users : List SearchedUser) (number raw : String)
    (kind : Identifier) : Prop :=
  (classifyTerm toLowerCase raw).Identifies kind number ∧
    (kind = .order → OrderSearchClause.Exact fold number (buildOrderSearchClause users raw))

section

variable {count : ℕ} {character : Char}

theorem isDigit_of_mem_sixDigits (member : character ∈ sixDigits count) :
    character.isDigit = true := by
  rcases List.mem_append.mp member with zero | digit
  · rw [(List.mem_replicate.mp zero).2]
    rfl
  · exact Nat.isDigit_of_mem_toDigits (by decide) (by decide) digit

theorem toNat_of_isDigit (digit : character.isDigit = true) :
    48 ≤ character.toNat ∧ character.toNat ≤ 57 :=
  Char.isDigit_iff_toNat.mp digit

@[simp]
theorem lowered_sixDigits (count : ℕ) : Text.lowered (sixDigits count) = sixDigits count := by
  rw [Text.lowered, List.map_congr_left, List.map_id]
  intro character member
  have digit := toNat_of_isDigit (isDigit_of_mem_sixDigits member)
  exact Text.toLower_of_not_capital (.inl (by omega))

theorem length_sixDigits :
    (sixDigits count).length = max 6 (Nat.toDigits 10 count).length :=
  Text.length_padStart

theorem isDigits_sixDigits : isDigits 6 (sixDigits count) = decide (count < 10 ^ 6) := by
  have all : (sixDigits count).all Char.isDigit = true :=
    List.all_eq_true.mpr fun _ => isDigit_of_mem_sixDigits
  have fits : (Nat.toDigits 10 count).length ≤ 6 ↔ count < 10 ^ 6 :=
    Nat.length_toDigits_le_iff (by decide) (by decide)
  rw [isDigits, all, Bool.and_true, length_sixDigits, ← Bool.decide_and]
  apply decide_eq_decide.mpr
  rw [← fits]
  omega

end

/-! ## Terms -/

section

variable {kind : Identifier} {count : ℕ} {word : List Char} {raw : String} {character : Char}

theorem lowered_number : Text.lowered (kind.number count).toList = (match kind with
        | .order => ['l', 'b', '-']
        | .ticket => ['l', 'a', 'l', '-']) ++ sixDigits (count + 1) := by
  cases kind with
  | order =>
    have number : (Identifier.number count .order).toList =
        ['L', 'B', '-'] ++ sixDigits (count + 1) :=
      String.toList_ofList
    rw [number, Text.lowered, List.map_append]
    exact congrArg _ (lowered_sixDigits _)
  | ticket =>
    have number : (Identifier.number count .ticket).toList =
        ['L', 'A', 'L', '-'] ++ sixDigits (count + 1) :=
      String.toList_ofList
    rw [number, Text.lowered, List.map_append]
    exact congrArg _ (lowered_sixDigits _)

theorem mem_lowered_number
    (member : character ∈ Text.lowered (kind.number count).toList) :
    character ∈ ['l', 'b', 'a', '-'] ∨ character.isDigit = true := by
  rw [lowered_number] at member
  rcases List.mem_append.mp member with letter | digit
  · left
    cases kind <;> grind
  · exact .inr (isDigit_of_mem_sixDigits digit)

theorem not_blank_of_mem_lowered
    (member : character ∈ Text.lowered (kind.number count).toList) :
    isBlank character = false := by
  rcases mem_lowered_number member with letter | digit
  · simp only [List.mem_cons, List.not_mem_nil, or_false] at letter
    rcases letter with rfl | rfl | rfl | rfl <;> rfl
  · have digit := toNat_of_isDigit digit
    simp [isBlank]
    omega

theorem trimmed_of_typed
    (typed : Text.Typed isBlank (kind.number count).toList raw.toList) :
    ∃ word, (trimmed raw).toList = word ∧
      Text.collapse isBlank word = word ∧
      Text.lowered word = Text.lowered (kind.number count).toList := by
  rcases typed with ⟨before, word, after, same, blanks, blanks', small⟩
  have none : ∀ letter ∈ word, isBlank letter = false := by
    apply Text.no_blank_of_lowered _ small
    · exact fun _ => not_blank_of_mem_lowered
    · intro letter blank
      simp [isBlank] at blank
      omega
  refine ⟨word, ?_, Text.collapse_of_no_blank none, small⟩
  rw [trimmed, same, String.toList_ofList]
  exact Text.strip_surrounded none blanks blanks'

theorem orderDigits_of_lowered
    (small : Text.lowered word = Text.lowered (kind.number count).toList) :
    orderDigits word =
      if kind = .order ∧ count + 1 < 10 ^ 6 then
        some (sixDigits (count + 1))
      else
        none := by
  rw [orderDigits, small, lowered_number]
  cases kind with
  | order =>
    show (if isDigits 6 (sixDigits (count + 1)) = true then _ else _) = _
    simp [isDigits_sixDigits, afterDash]
  | ticket => rfl

theorem isTicketNumber_of_lowered
    (small : Text.lowered word = Text.lowered (kind.number count).toList) :
    isTicketNumber word = false := by
  rw [isTicketNumber, small, lowered_number]
  cases kind <;> rfl

theorem isEmail_of_lowered
    (small : Text.lowered word = Text.lowered (kind.number count).toList) :
    isEmail word = false := by
  have absent : '@' ∉ word := by
    intro member
    have typed : '@' ∈ Text.lowered (kind.number count).toList := by
      rw [← small]
      exact List.mem_map_of_mem member
    rcases mem_lowered_number typed with letter | digit
    · simp at letter
    · cases digit
  have whole : word.splitOn '@' = [word] := by
    rw [List.splitOn_eq_splitOnP]
    apply List.splitOnP_eq_singleton
    intro letter member
    rw [beq_eq_false_iff_ne]
    rintro rfl
    exact absent member
  rw [isEmail, whole]

theorem orderNumberOf_sixDigits :
    orderNumberOf (sixDigits (count + 1)) = nextOrderNumber count := by
  rw [orderNumberOf, Text.padStart_of_le]
  · rfl
  · rw [length_sixDigits]
    exact le_max_left _ _

theorem length_nextOrderNumber (few : count + 1 < 10 ^ 6) :
    (nextOrderNumber count).toList.length = 9 := by
  have fits : (Nat.toDigits 10 (count + 1)).length ≤ 6 :=
    (Nat.length_toDigits_le_iff (by decide) (by decide)).mpr few
  rw [nextOrderNumber, String.toList_ofList, List.length_append, length_sixDigits]
  show 3 + _ = 9
  omega

end

section

variable {toLowerCase : String → String} {fold : Char → Char}
  {users : List SearchedUser} {kind : Identifier} {count : ℕ}
  {raw : String}

theorem identifies_order (few : count + 1 < 10 ^ 6)
    (typed : Text.Typed isBlank (nextOrderNumber count).toList raw.toList) :
    (classifyTerm toLowerCase raw).Identifies .order (nextOrderNumber count) := by
  rcases @trimmed_of_typed .order count raw typed with ⟨word, trims, whole, small⟩
  have digits : orderDigits word = some (sixDigits (count + 1)) := by
    rw [orderDigits_of_lowered small, if_pos ⟨rfl, few⟩]
  have length : word.length = 9 := by
    rw [← length_nextOrderNumber few, ← @List.length_map _ _ word,
      show word.map Char.toLower = _ from small]
    exact List.length_map _
  constructor
  · simp only [classifyTerm, trims, whole, digits, Option.map_some, if_true]
    rw [orderNumberOf_sixDigits]
  · simp [classifyTerm, trims, whole, isTicketNumber_of_lowered small]
  · simp [classifyTerm, trims, whole, digits]
  · simp [classifyTerm, trims, whole, isEmail_of_lowered small]
  · simp [classifyTerm, trims, whole, isObjectId, length]
  · simp [classifyTerm, trims, whole, isFirebaseUid, length]

theorem exact_order (few : count + 1 < 10 ^ 6)
    (typed : Text.Typed isBlank (nextOrderNumber count).toList raw.toList) :
    OrderSearchClause.Exact fold (nextOrderNumber count) (buildOrderSearchClause users raw) := by
  rcases @trimmed_of_typed .order count raw typed with ⟨word, trims, _, small⟩
  have clause : buildOrderSearchClause users raw = some (.orderNumber (nextOrderNumber count)) := by
    rw [buildOrderSearchClause, trims, orderDigits_of_lowered small, if_pos ⟨rfl, few⟩,
      ← orderNumberOf_sixDigits]
  intro order
  rw [clause]
  exact beq_iff_eq

/--
A number that is typed back in is read as what it is exactly if it is the number of one
of the first 999999 orders.
-/
theorem identifiersRoundTrip_iff
    (typed : Text.Typed isBlank (kind.number count).toList raw.toList) :
    kind.ReadsBack toLowerCase fold users (kind.number count) raw ↔
      kind = .order ∧ count + 1 < 10 ^ 6 := by
  constructor
  · rintro ⟨identifies, _⟩
    rcases trimmed_of_typed typed with ⟨word, trims, whole, small⟩
    cases kind with
    | order =>
      refine ⟨rfl, ?_⟩
      by_contra many
      have read := identifies.orderNumber
      simp only [classifyTerm, trims, whole, orderDigits_of_lowered small,
        many, and_false, if_false, if_true, Option.map_none] at read
      cases read
    | ticket =>
      have read := identifies.ticketNumber
      simp only [classifyTerm, trims, whole, isTicketNumber_of_lowered small, if_true] at read
      cases read
  · rintro ⟨rfl, few⟩
    exact ⟨identifies_order few typed, fun _ => exact_order few typed⟩

end

/-- An order number is read back in small letters and with a blank on each side. -/
theorem identifiersRoundTrip_order :
    Identifier.order.ReadsBack String.toLower Char.toLower []
      (nextOrderNumber 122) " lB-000123 " := by
  apply (@identifiersRoundTrip_iff String.toLower Char.toLower [] .order 122 " lB-000123 " _).mpr
  · exact ⟨rfl, by decide⟩
  · exact ⟨[' '], "lB-000123".toList, [' '], by decide, rfl, rfl, by decide⟩

/-- The first ticket number is not read back. -/
theorem identifiersDoNotRoundTrip :
    ¬ ∀ (toLowerCase : String → String) (fold : Char → Char)
        (users : List SearchedUser) (kind : Identifier) (count : ℕ)
        (raw : String),
        Text.Typed isBlank (kind.number count).toList raw.toList →
        kind.ReadsBack toLowerCase fold users (kind.number count) raw := by
  intro always
  have typed : Text.Typed isBlank (nextTicketNumber 0).toList
      "LAL-000001".toList :=
    ⟨[], "LAL-000001".toList, [], by decide, rfl, rfl, by decide⟩
  have read := (always String.toLower Char.toLower [] .ticket 0 _ typed).1.ticketNumber
  revert read
  decide

end Lalaba.Search
