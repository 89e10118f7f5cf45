import Lalaba.Foundation.Text
import Lalaba.Orders.Callbacks

/-!
# What was pasted into the search box

One box takes order numbers, ticket numbers, phone numbers, emails, ids and names, and
a term is classified by its shape.  The numbers come from the count of a collection,
filled up to six digits; the shapes are written down apart from the generators.
-/

namespace Lalaba.Search

open Foundation
open Orders (isBlank trimmed)

def sixDigits (count : ℕ) : List Char := Text.padStart 6 '0' (Nat.toDigits 10 count)

/-- `nextOrderNumber`, of a collection of this many orders. -/
def nextOrderNumber (count : ℕ) : String := String.ofList ("LB-".toList ++ sixDigits (count + 1))

/-- `nextTicketNumber`, of a collection of this many tickets. -/
def nextTicketNumber (count : ℕ) : String := String.ofList ("LAL-".toList ++ sixDigits (count + 1))

/-! ## Shapes -/

/-- `-?`: what comes after a dash that may be left out. -/
def afterDash : List Char → List Char
  | '-' :: rest => rest
  | text => text

/-- `\d` repeated at least once, and so many times at most. -/
def isDigits (most : ℕ) (text : List Char) : Bool :=
  decide (1 ≤ text.length) && decide (text.length ≤ most) && text.all Char.isDigit

/-- `ORDER_NUMBER`: the digits of a term of this shape, in any letter case. -/
def orderDigits (text : List Char) : Option (List Char) :=
  match Text.lowered text with
  | 'l' :: 'b' :: rest =>
    if isDigits 6 (afterDash rest) then some (afterDash rest) else none
  | _ => none

/-- `TICKET_NUMBER`. -/
def isTicketNumber (text : List Char) : Bool :=
  match Text.lowered text with
  | 't' :: 'k' :: 't' :: rest => isDigits 8 (afterDash rest)
  | 't' :: 'k' :: rest => isDigits 8 (afterDash rest)
  | _ => false

def isHex (character : Char) : Bool :=
  let small := character.toLower
  small.isDigit || ('a' ≤ small && small ≤ 'f')

/-- `OBJECT_ID`. -/
def isObjectId (text : List Char) : Bool := decide (text.length = 24) && text.all isHex

/-- `FIREBASE_UID`, with a digit in it. -/
def isFirebaseUid (text : List Char) : Bool :=
  decide (20 ≤ text.length) && decide (text.length ≤ 40) &&
    text.all Char.isAlphanum && text.any Char.isDigit

/-- `EMAIL`: one `@`, and a dot inside of what follows it. -/
def isEmail (text : List Char) : Bool :=
  match text.splitOn '@' with
  | [name, domain] =>
    !name.isEmpty && name.all (!isBlank ·) && domain.all (!isBlank ·) &&
      domain.tail.dropLast.contains '.'
  | _ => false

/-- `PHONE_SHAPED`. -/
def isPhoneShaped (text : List Char) : Bool :=
  !text.isEmpty && text.all fun character =>
    character.isDigit || isBlank character || ['(', ')', '+', '-'].contains character

/-- `slice(-10)` of the digits of a term. -/
def digitTail (text : List Char) : List Char :=
  let digits := text.filter Char.isDigit
  digits.drop (digits.length - 10)

def isPhone (text : List Char) : Bool :=
  decide (7 ≤ (text.filter Char.isDigit).length) && isPhoneShaped text

structure TermShape where
  raw : String
  normalized : String
  orderNumber : Option String
  ticketNumber : Option String
  phoneTail : Option String
  email : Option String
  objectId : Option String
  firebaseUid : Option String
  name : String

def orderNumberOf (digits : List Char) : String :=
  String.ofList ("LB-".toList ++ Text.padStart 6 '0' digits)

/-- `classifyTerm`; only an email may have letters that are not plain ones. -/
def classifyTerm (toLowerCase : String → String) (raw : String) :
    TermShape :=
  let text := Text.collapse isBlank (trimmed raw).toList
  let normalized := String.ofList text
  let orderNumber := (orderDigits text).map orderNumberOf
  { raw
    normalized
    orderNumber
    ticketNumber :=
      if isTicketNumber text then
        some (String.ofList (text.map Char.toUpper))
      else
        none
    phoneTail :=
      if orderNumber.isNone && !isObjectId text && isPhone text then
        some (String.ofList (digitTail text))
      else
        none
    email :=
      if isEmail text then some (toLowerCase normalized) else none
    objectId := if isObjectId text then some normalized else none
    firebaseUid :=
      if !isObjectId text && isFirebaseUid text then some normalized
      else none
    name := normalized }

/-- What a search looks at of an order. -/
structure SearchedOrder where
  _id : ObjectId
  orderNumber : Option String
  customerUid : Uid
  customerName : String
  providerUid : Uid
  providerName : String
  branchId : ObjectId

/-- What a search looks at of an account. -/
structure SearchedUser where
  _id : Uid
  phoneNumber : Option String

/-- The conditions a search box is turned into. -/
inductive OrderSearchClause where
  | orderNumber (number : String)
  | ids (term : String)
  | parties (uids : List Uid)
  | names (term : String)

/-- A pattern without wildcards occurs in a text; `fold` is the database's folding. -/
def occursIn (fold : Char → Char) (term text : String) : Bool :=
  (text.toList.map fold).tails.any (term.toList.map fold).isPrefixOf

/-- Does an order meet the conditions? -/
def OrderSearchClause.matches (fold : Char → Char) (order : SearchedOrder) :
    OrderSearchClause → Bool
  | .orderNumber number => order.orderNumber == some number
  | .ids term =>
    order._id.toList == Text.lowered term.toList ||
      order.customerUid == term || order.providerUid == term || order.branchId == term
  | .parties uids =>
    uids.contains order.customerUid || uids.contains order.providerUid
  | .names term =>
    occursIn fold term order.customerName ||
      occursIn fold term order.providerName ||
        order.customerUid == term || order.providerUid == term

def usersByPhone (tail : List Char) (users : List SearchedUser) :
    List Uid :=
  ((users.filter fun user => user.phoneNumber.any fun phoneNumber =>
    tail.isSuffixOf phoneNumber.toList).take 50).map SearchedUser._id

/-- `buildOrderSearchClause`; `none` is an identifier that belongs to nobody. -/
def buildOrderSearchClause (users : List SearchedUser) (term : String) :
    Option OrderSearchClause :=
  match orderDigits (trimmed term).toList with
  | some digits => some (.orderNumber (orderNumberOf digits))
  | none =>
    if isObjectId term.toList then
      some (.ids term)
    else if isPhone term.toList then
      match usersByPhone (digitTail term.toList) users with
      | [] => none
      | uids => some (.parties uids)
    else
      some (.names term)

end Lalaba.Search
