import Lalaba.Foundation.Interleaving
import Lalaba.Orders.Callbacks
import Lalaba.Orders.Visibility
import Lalaba.Users.Account
import Mathlib.Data.List.Sort

/-!
# Conversations

A customer and a provider, or a rider, write to each other about an order; support may
join in.  Every conversation counts for each of its sides what that side has not read.
A message is inserted before it is counted, and the count is reset before the page is
read.
-/

namespace Lalaba.Chat

open Foundation
open Orders (OnlineOrder OrderStatus CourierLeg activeCourierLeg trimmed)
open Users (User)

inductive ConversationKind where
  | PROVIDER
  | COURIER
deriving DecidableEq

inductive ChatLegType where
  | PICKUP
  | RETURN
deriving DecidableEq

inductive ChatSenderRole where
  | CUSTOMER
  | MERCHANT
  | WASHER
  | COURIER
  | SUPPORT
deriving DecidableEq

/-- The sides of a conversation. -/
inductive Side where
  | customer
  | provider
deriving DecidableEq

/-! ## Collections -/

structure Conversation where
  customerUid : Uid
  providerUid : Uid
  branchId : ObjectId
  kind : ConversationKind := .PROVIDER
  legType : Option ChatLegType := none
  orderId : Option ObjectId := none
  lastMessageText : Option String := none
  lastMessageAt : Option Instant := none
  customerUnread : ℕ := 0
  providerUnread : ℕ := 0
deriving DecidableEq

/-- What a message says, and of whom. -/
structure MessageContent where
  conversationId : ObjectId
  senderUid : Uid
  senderRole : ChatSenderRole
  text : String
  imageKey : Option String
deriving DecidableEq

structure Message extends MessageContent where
  _id : ObjectId
  createdAt : Instant

structure Store where
  conversations : Collection Conversation
  messages : List Message

namespace Conversation

def unread (conversation : Conversation) : Side → ℕ
  | .customer => conversation.customerUnread
  | .provider => conversation.providerUnread

/-- `$set` of the count of a side to zero. -/
def reset (conversation : Conversation) : Side → Conversation
  | .customer => { conversation with customerUnread := 0 }
  | .provider => { conversation with providerUnread := 0 }

/-- The summary of a message, and `$inc` of the counts of its recipients. -/
def bump (summaryText : String) (createdAt : Instant)
    (recipients : Side → Bool) (conversation : Conversation) :
    Conversation :=
  { conversation with
    lastMessageText := some summaryText
    lastMessageAt := some createdAt
    customerUnread := conversation.customerUnread +
      if recipients .customer then 1 else 0
    providerUnread := conversation.providerUnread +
      if recipients .provider then 1 else 0 }

end Conversation

namespace Store

/-- `updateOne` of a conversation. -/
def update (conversationId : ObjectId)
    (change : Conversation → Conversation) (store : Store) : Store :=
  match store.conversations.lookup conversationId with
  | none => store
  | some conversation =>
    { store with
      conversations := store.conversations.insert conversationId (change conversation) }

def thread (conversationId : ObjectId) (store : Store) : List Message :=
  (store.messages.filter fun message =>
    message.conversationId == conversationId).insertionSort
      fun first second => first.createdAt ≤ second.createdAt

end Store

def roleIdOf (user : User) : String := (user.role.map (·.roleId)).getD ""

def senderRoleOf (user : User) : ChatSenderRole :=
  if roleIdOf user = "merchant" then .MERCHANT
  else if roleIdOf user = "washer" then .WASHER
  else if roleIdOf user = "courier" then .COURIER
  else .CUSTOMER

def isCustomer (user : User) : Bool := roleIdOf user == "customer"

def providerUidFor (user : User) : Uid :=
  if roleIdOf user = "staff" then
    (user.merchantId.filter (· ≠ "")).getD user._id
  else
    user._id

/-- The branches an account may see conversations of; `none` for all. -/
def allowedBranchIds (user : User) (activeBranchId : Option ObjectId) :
    Option (List ObjectId) :=
  if roleIdOf user ≠ "staff" then none
  else
    match activeBranchId.filter (· ≠ "") with
    | none => some []
    | some branchId =>
      some (if branchId ∈ user.branchIds then [branchId] else [])

def isParticipant (conversation : Conversation) (user : User)
    (activeBranchId : Option ObjectId) : Bool :=
  conversation.customerUid == user._id ||
    (conversation.providerUid == providerUidFor user &&
      (allowedBranchIds user activeBranchId).all fun branches =>
        branches.contains conversation.branchId)

def findParticipantConversation (conversationId : ObjectId) (user : User)
    (activeBranchId : Option ObjectId) (store : Store) :
    Except ServiceError Conversation :=
  match store.conversations.lookup conversationId with
  | none => .error (.notFound "Conversation not found")
  | some conversation =>
    if isParticipant conversation user activeBranchId then
      .ok conversation
    else
      .error (.forbidden "You are not part of this conversation")

def CONCLUDED_ORDER_STATUSES : List OrderStatus :=
  [.deliveredToCustomer, .customerPickupVerified, .completed, .cancelled,
    .rejectedByProvider, .refunded, .disputed]

def Conversation.leg (conversation : Conversation) : CourierLeg :=
  if conversation.legType = some .RETURN then .return else .pickup

def isCourierLegOver (conversation : Conversation)
    (order : Option OnlineOrder) : Bool :=
  match order with
  | none => true
  | some order =>
    decide (order.status ∈ CONCLUDED_ORDER_STATUSES) ||
      match order.assignment conversation.leg with
      | none => true
      | some assignment =>
        assignment.assignedStaffUid != some conversation.providerUid ||
          assignment.completedAt.isSome

def isCourierThreadLive (conversation : Conversation) (user : User)
    (order : Option OnlineOrder) : Bool :=
  if conversation.kind ≠ .COURIER then true
  else if conversation.providerUid ≠ user._id then true
  else
    match order.bind fun order => activeCourierLeg order user._id with
    | none => false
    | some live =>
      live == if conversation.legType = some .PICKUP then .pickup
        else .return

/-- `isThreadEnded`, with the order that the thread names as it is stored. -/
def isThreadEnded (conversation : Conversation) (user : User)
    (stored : Option OnlineOrder) : Bool :=
  let order := (conversation.orderId.filter (· ≠ "")).bind fun _ => stored
  match conversation.kind with
  | .COURIER =>
    if conversation.providerUid ≠ user._id then
      isCourierLegOver conversation order
    else
      !isCourierThreadLive conversation user order
  | .PROVIDER =>
    order.any fun order => decide (order.status ∈ CONCLUDED_ORDER_STATUSES)

/-! ## Calls -/

structure SendMessageInput where
  conversationId : ObjectId
  text : Option String
  imageKey : Option String
deriving DecidableEq

/-- A call, at the point where it waits. -/
inductive Call where
  /-- `messages`, about to reset the count of a side. -/
  | reset (conversationId : ObjectId) (user : User)
  | page (conversationId : ObjectId) (user : User)
  /-- `sendMessage`, about to look at the order of the thread. -/
  | ended (conversation : Conversation) (user : User) (input : SendMessageInput)
  | create (content : MessageContent) (summaryText : String) (recipients : Side → Bool)
  | bump (conversationId : ObjectId) (summaryText : String)
      (createdAt : Instant) (recipients : Side → Bool)

inductive Request where
  | messages (conversationId : ObjectId) (user : User) (activeBranchId : Option ObjectId)
  | sendMessage (user : User) (input : SendMessageInput) (activeBranchId : Option ObjectId)
  | adminSendMessage (actor : User) (conversationId : ObjectId) (text : String)

def unreadField (user : User) : Side :=
  if isCustomer user then .customer else .provider

def recipientUnread (user : User) : Side :=
  if isCustomer user then .provider else .customer

/-- What `sendMessage` is about to insert; the thread has not ended. -/
def messageOf (user : User) (input : SendMessageInput) :
    Except ServiceError (MessageContent × String) :=
  let text := (input.text.map trimmed).getD ""
  let imageKey := (input.imageKey.map trimmed).filter (· ≠ "")
  if text = "" ∧ imageKey = none then
    .error (.badRequest "Message must have text or an image")
  else
    .ok
      ({ conversationId := input.conversationId
         senderUid := user._id
         senderRole := senderRoleOf user
         text
         imageKey },
        if text ≠ "" then text else "Photo")

/-- What a call does first. -/
def enter : Request → Store → Option Call
  | .messages conversationId user activeBranchId, store =>
    match findParticipantConversation conversationId user activeBranchId store with
    | .error _ => none
    | .ok conversation =>
      some
        (if 0 < conversation.unread (unreadField user) then
          .reset conversationId user
        else
          .page conversationId user)
  | .sendMessage user input _, store =>
    -- The branch of the device is not handed on.
    match findParticipantConversation input.conversationId user none store with
    | .error _ => none
    | .ok conversation => some (.ended conversation user input)
  | .adminSendMessage actor conversationId text, store =>
    match store.conversations.lookup conversationId with
    | none => none
    | some _ =>
      if trimmed text = "" then none
      else
        some
          (.create
            { conversationId
              senderUid := actor._id
              senderRole := .SUPPORT
              text := trimmed text
              imageKey := none }
            (trimmed text) fun _ => true)

/-- The time, an id, and an order as it is stored. -/
structure Tick where
  now : Instant
  id : ObjectId
  order : Option OnlineOrder

/-- What a call does next. -/
def resume (tick : Tick) : Call → Store → Option (Store × Option Call)
  | .reset conversationId user, store =>
    some (store.update conversationId fun conversation =>
        conversation.reset (unreadField user),
        some (.page conversationId user))
  | .page _ _, store => some (store, none)
  | .ended conversation user input, store =>
    if isThreadEnded conversation user tick.order then
      some (store, none)
    else
      match messageOf user input with
      | .error _ => some (store, none)
      | .ok (content, summaryText) =>
        some (store, some (.create content summaryText fun side =>
          side == recipientUnread user))
  | .create content summaryText recipients, store =>
    -- An id is given out once.
    if tick.id ∈ store.messages.map Message._id then
      none
    else
      some ({ store with
            messages := store.messages ++
              [{ content with _id := tick.id, createdAt := tick.now }] },
          some (.bump content.conversationId summaryText tick.now recipients))
  | .bump conversationId summaryText createdAt recipients, store =>
    some
      (store.update conversationId (Conversation.bump summaryText createdAt recipients), none)

def chat : Service Store Call Request Tick where
  enter := enter
  resume := resume

abbrev Calls : Type := Configuration Store Call

end Lalaba.Chat
