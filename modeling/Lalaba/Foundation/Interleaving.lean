import Lalaba.Foundation.Run

/-!
# Interleaved calls on one store

A service is given by what a call begins with and by what it does whenever it runs
on: one step on the store, after which it waits at another point or has returned.
Any number of calls run in any order.  A call that has returned leaves an empty
place in the list of calls, so that a call is named by its place.

The rules of this module reduce an invariant of all interleavings to facts about one
step on the store.
-/

namespace Lalaba.Foundation

/-- The calls of a service; `none` is a call that was refused, or has returned. -/
structure Service (Store Call Request Tick : Type) where
  enter : Request → Store → Option Call
  resume : Tick → Call → Store → Option (Store × Option Call)

/-- The store and the calls, those that have returned with an empty place. -/
structure Configuration (Store Call : Type) where
  store : Store
  calls : List (Option Call)

/-- A call begins, or a call runs on. -/
inductive Move (Request Tick : Type) where
  | enter (request : Request)
  | resume (index : ℕ) (tick : Tick)

namespace Configuration

variable {Store Call : Type}

def start (store : Store) : Configuration Store Call where
  store := store
  calls := []

def entered (call : Call) (configuration : Configuration Store Call) :
    Configuration Store Call :=
  { configuration with calls := configuration.calls ++ [some call] }

def resumed (index : ℕ) (store : Store) (next : Option Call)
    (configuration : Configuration Store Call) :
    Configuration Store Call where
  store := store
  calls := configuration.calls.set index next

def Waits (configuration : Configuration Store Call) (index : ℕ)
    (call : Call) : Prop :=
  configuration.calls[index]? = some (some call)

def Quiet (configuration : Configuration Store Call) : Prop :=
  ∀ index call, ¬ configuration.Waits index call

variable {configuration : Configuration Store Call} {index other : ℕ}
  {call call' : Call} {store : Store} {next : Option Call}

@[simp]
theorem not_waits_start : ¬ (start store).Waits index call := by
  simp [start, Waits]

theorem waits_entered :
    (configuration.entered call).Waits other call' ↔
      configuration.Waits other call' ∨ other = configuration.calls.length ∧ call' = call := by
  rw [Waits, Waits, entered, List.getElem?_append]
  split
  · rename_i within
    constructor
    · exact .inl
    · rintro (waits | ⟨rfl, _⟩)
      · exact waits
      · exact (Nat.lt_irrefl _ within).elim
  · rename_i beyond
    have absent : configuration.calls[other]? = none := List.getElem?_eq_none (Nat.not_lt.mp beyond)
    rw [absent, List.getElem?_singleton]
    constructor
    · intro found
      split at found
      · cases found
        exact .inr ⟨by omega, rfl⟩
      · cases found
    · rintro (found | ⟨rfl, rfl⟩)
      · cases found
      · rw [if_pos (Nat.sub_self _)]

theorem waits_resumed (waits : configuration.Waits index call) :
    (configuration.resumed index store next).Waits other call' ↔
      other ≠ index ∧ configuration.Waits other call' ∨ other = index ∧ next = some call' := by
  have within : index < configuration.calls.length := (List.getElem?_eq_some_iff.mp waits).1
  rw [Waits, Waits, resumed, List.getElem?_set]
  by_cases here : index = other
  · subst here
    simp [within]
  · simp [here, Ne.symm here]

theorem Waits.resumed (waits : configuration.Waits other call')
    (elsewhere : other ≠ index) :
    (configuration.resumed index store next).Waits other call' := by
  rw [Waits, Configuration.resumed, List.getElem?_set_ne elsewhere.symm]
  exact waits

theorem Waits.entered (waits : configuration.Waits other call') :
    (configuration.entered call).Waits other call' :=
  waits_entered.mpr (.inl waits)

theorem Waits.unique (waits : configuration.Waits index call)
    (waits' : configuration.Waits index call') : call = call' := by
  cases waits.symm.trans waits'
  rfl

def someCall (kind : Call → Bool)
    (configuration : Configuration Store Call) : Bool :=
  configuration.calls.any fun place => place.any kind

variable {kind : Call → Bool}

theorem someCall_iff :
    configuration.someCall kind = true ↔
      ∃ index call, configuration.Waits index call ∧ kind call = true := by
  rw [someCall, List.any_eq_true]
  constructor
  · rintro ⟨place, member, holds⟩
    rcases List.getElem?_of_mem member with ⟨index, found⟩
    cases place with
    | none => cases holds
    | some call => exact ⟨index, call, found, holds⟩
  · rintro ⟨index, call, waits, holds⟩
    exact ⟨some call, List.mem_of_getElem? waits, holds⟩

theorem quiet_iff : configuration.Quiet ↔ configuration.someCall (fun _ => true) = false := by
  rw [← Bool.not_eq_true, someCall_iff]
  constructor
  · rintro quiet ⟨index, call, waits, _⟩
    exact quiet index call waits
  · exact fun none index call waits => none ⟨index, call, waits, rfl⟩

theorem not_someCall_of_quiet (quiet : configuration.Quiet) :
    configuration.someCall kind ≠ true := by
  intro some
  rcases someCall_iff.mp some with ⟨index, call, waits, _⟩
  exact quiet index call waits

theorem someCall_entered (some : configuration.someCall kind = true) :
    (configuration.entered call).someCall kind = true := by
  rcases someCall_iff.mp some with ⟨index, other, waits, holds⟩
  exact someCall_iff.mpr ⟨index, other, waits.entered, holds⟩

theorem someCall_resumed (waits : configuration.Waits index call)
    (some : configuration.someCall kind = true)
    (stays : kind call = true → ∃ call', next = .some call' ∧ kind call' = true) :
    (configuration.resumed index store next).someCall kind = true := by
  rcases someCall_iff.mp some with ⟨place, other, waits', holds⟩
  by_cases here : place = index
  · subst here
    cases waits.unique waits'
    rcases stays holds with ⟨call', rfl, holds'⟩
    exact someCall_iff.mpr ⟨place, call', (waits_resumed waits).mpr (.inr ⟨rfl, rfl⟩), holds'⟩
  · exact someCall_iff.mpr ⟨place, other, waits'.resumed here, holds⟩

theorem someCall_next (waits : configuration.Waits index call)
    (holds : kind call' = true) :
    (configuration.resumed index store (some call')).someCall kind =
      true :=
  someCall_iff.mpr ⟨index, call', (waits_resumed waits).mpr (.inr ⟨rfl, rfl⟩), holds⟩

/-! ### The calls in progress -/

def waiting (configuration : Configuration Store Call) : List Call :=
  configuration.calls.filterMap id

@[simp]
theorem waiting_start : (start store : Configuration Store Call).waiting = [] := rfl

@[simp]
theorem waiting_entered :
    (configuration.entered call).waiting = configuration.waiting ++ [call] := by
  rw [waiting, entered, List.filterMap_append]
  rfl

theorem waiting_returned (waits : configuration.Waits index call) :
    configuration.waiting.Perm (call :: (configuration.resumed index store none).waiting) := by
  rcases List.getElem?_eq_some_iff.mp waits with ⟨within, found⟩
  have split : configuration.calls =
      configuration.calls.take index ++ some call :: configuration.calls.drop (index + 1) := by
    rw [← found, List.getElem_cons_drop, List.take_append_drop]
  rw [waiting, waiting, resumed, List.set_eq_take_append_cons_drop, if_pos within]
  nth_rewrite 1 [split]
  simp only [List.filterMap_append, List.filterMap_cons, id_eq]
  exact List.perm_middle

theorem waiting_of_quiet (quiet : configuration.Quiet) : configuration.waiting = [] := by
  rw [waiting, List.filterMap_eq_nil_iff]
  intro place member
  rcases List.getElem?_of_mem member with ⟨index, found⟩
  cases place with
  | none => rfl
  | some call => exact (quiet index call found).elim

def countCalls (kind : Call → Bool)
    (configuration : Configuration Store Call) : ℕ :=
  configuration.calls.countP fun place => place.any kind

theorem countCalls_entered :
    (configuration.entered call).countCalls kind =
      configuration.countCalls kind + if kind call then 1 else 0 := by
  rw [countCalls, entered, List.countP_append, List.countP_singleton]
  rfl

theorem countCalls_resumed (waits : configuration.Waits index call) :
    (configuration.resumed index store next).countCalls kind +
        (if kind call then 1 else 0) =
      configuration.countCalls kind + if next.any kind then 1 else 0 := by
  rcases List.getElem?_eq_some_iff.mp waits with ⟨within, found⟩
  have counted : (if kind call then 1 else 0) ≤
      configuration.countCalls kind := by
    have counted := @List.boole_getElem_le_countP _
      (fun place : Option Call => place.any kind) _ _ within
    rw [found, Option.any_some] at counted
    exact counted
  have changed : (configuration.resumed index store next).countCalls kind =
      configuration.countCalls kind - (if kind call then 1 else 0) +
        if next.any kind then 1 else 0 := by
    rw [countCalls, resumed, List.countP_set within, found, Option.any_some]
    rfl
  omega

theorem countCalls_of_quiet (quiet : configuration.Quiet) : configuration.countCalls kind = 0 := by
  rw [countCalls, List.countP_eq_zero]
  intro place member
  rcases List.getElem?_of_mem member with ⟨index, found⟩
  cases place with
  | none => exact Bool.false_ne_true
  | some call => exact (quiet index call found).elim

/-! ### Tokens -/

def Distinct {Token : Type} (token : Call → Option Token)
    (configuration : Configuration Store Call) : Prop :=
  ∀ index other call call' held, configuration.Waits index call →
    configuration.Waits other call' → token call = some held →
    token call' = some held → index = other

variable {Token : Type} {token : Call → Option Token}

theorem Distinct.entered (distinct : configuration.Distinct token)
    (without : token call = none) :
    (configuration.entered call).Distinct token := by
  intro first second call₁ call₂ held waits₁ waits₂ holds₁ holds₂
  rcases waits_entered.mp waits₁ with old₁ | ⟨_, rfl⟩
  · rcases waits_entered.mp waits₂ with old₂ | ⟨_, rfl⟩
    · exact distinct _ _ _ _ held old₁ old₂ holds₁ holds₂
    · rw [without] at holds₂
      cases holds₂
  · rw [without] at holds₁
    cases holds₁

theorem Distinct.resumed (distinct : configuration.Distinct token)
    (waits : configuration.Waits index call)
    (holds : ∀ call' held, next = some call' → token call' = some held →
      token call = some held ∨
        ∀ other call', configuration.Waits other call' → token call' ≠ some held) :
    (configuration.resumed index store next).Distinct token := by
  intro first second call₁ call₂ held waits₁ waits₂ holds₁ holds₂
  rcases (waits_resumed waits).mp waits₁ with ⟨_, old₁⟩ | ⟨rfl, next₁⟩ <;>
  rcases (waits_resumed waits).mp waits₂ with ⟨_, old₂⟩ | ⟨rfl, next₂⟩
  · exact distinct _ _ _ _ held old₁ old₂ holds₁ holds₂
  · rcases holds _ held next₂ holds₂ with own | alone
    · exact distinct _ _ _ _ held old₁ waits holds₁ own
    · exact (alone _ _ old₁ holds₁).elim
  · rcases holds _ held next₁ holds₁ with own | alone
    · exact distinct _ _ _ _ held waits old₂ own holds₂
    · exact (alone _ _ old₂ holds₂).elim
  · rfl

end Configuration

namespace Service

open Configuration

variable {Store Call Request Tick : Type}

/-- All interleavings of the calls of a service. -/
def system (service : Service Store Call Request Tick) :
    System (Configuration Store Call) (Move Request Tick) where
  step
    | .enter request, configuration =>
      (service.enter request configuration.store).map fun call =>
        configuration.entered call
    | .resume index tick, configuration =>
      match configuration.calls[index]? with
      | some (some call) =>
        (service.resume tick call configuration.store).map
          fun (store, next) => configuration.resumed index store next
      | _ => none

def alone (service : Service Store Call Request Tick) :
    List Tick → Call → Store → Option Store
  | [], _, _ => none
  | tick :: rest, call, store =>
    match service.resume tick call store with
    | none => none
    | some (after, none) => if rest.isEmpty then some after else none
    | some (after, some next) => service.alone rest next after

def sequential (service : Service Store Call Request Tick) :
    System Store (Request × List Tick) where
  step action store :=
    (service.enter action.1 store).bind fun call =>
      service.alone action.2 call store

/-- What a step can be. -/
inductive Stepped (service : Service Store Call Request Tick)
    (configuration : Configuration Store Call) :
    Move Request Tick → Configuration Store Call → Prop where
  | entered (request : Request) (call : Call)
      (enters : service.enter request configuration.store = some call) :
      Stepped service configuration (.enter request) (configuration.entered call)
  | resumed (index : ℕ) (tick : Tick) (call : Call) (store : Store)
      (next : Option Call) (waits : configuration.Waits index call)
      (resumes : service.resume tick call configuration.store = some (store, next)) :
      Stepped service configuration (.resume index tick) (configuration.resumed index store next)

variable {service : Service Store Call Request Tick}
  {configuration after : Configuration Store Call}
  {move : Move Request Tick}

theorem stepped_of_step
    (stepped : service.system.step move configuration = some after) :
    Stepped service configuration move after := by
  cases move with
  | enter request =>
    rcases Option.map_eq_some_iff.mp stepped with ⟨call, enters, rfl⟩
    exact .entered request call enters
  | resume index tick =>
    simp only [system] at stepped
    split at stepped
    · rename_i call waits
      rcases Option.map_eq_some_iff.mp stepped with ⟨⟨store, next⟩, resumes, rfl⟩
      exact .resumed index tick call store next waits resumes
    · cases stepped

/--
What is to be shown of an assertion about the store and one about each call in
flight: a call begins with it, a step establishes it for the call that makes it, and
no step disturbs it for another call.  A step may count on what is known of the
configuration it is made in.
-/
structure Obligations (service : Service Store Call Request Tick)
    (Known : Configuration Store Call → Prop)
    (admissible : Configuration Store Call → Move Request Tick → Prop)
    (Good : Store → Prop) (Sound : Store → Call → Prop) : Prop where
  entered : ∀ request store call, Good store →
    service.enter request store = some call → Sound store call
  resumed : ∀ configuration index tick call store next,
    Known configuration → admissible configuration (.resume index tick) →
    configuration.Waits index call → Good configuration.store →
    Sound configuration.store call →
    service.resume tick call configuration.store = some (store, next) →
    Good store ∧ ∀ call', next = some call' → Sound store call'
  stable : ∀ configuration index tick call store next place other,
    Known configuration → admissible configuration (.resume index tick) →
    configuration.Waits index call → configuration.Waits place other →
    place ≠ index → Good configuration.store →
    Sound configuration.store call → Sound configuration.store other →
    service.resume tick call configuration.store = some (store, next) →
    Sound store other

/-- The store is good, and every call in flight is sound. -/
structure Invariant (Good : Store → Prop) (Sound : Store → Call → Prop)
    (configuration : Configuration Store Call) : Prop where
  good : Good configuration.store
  sound : ∀ index call, configuration.Waits index call → Sound configuration.store call

variable {Known : Configuration Store Call → Prop}
  {admissible : Configuration Store Call → Move Request Tick → Prop}
  {Good : Store → Prop} {Sound : Store → Call → Prop}

theorem alone_cases {ticks : List Tick} {call : Call} {store after : Store}
    (ran : service.alone ticks call store = some after) :
    ∃ tick rest, ticks = tick :: rest ∧
      (rest = [] ∧ service.resume tick call store = some (after, none) ∨ ∃ middle next,
          service.resume tick call store = some (middle, some next) ∧
          service.alone rest next middle = some after) := by
  cases ticks with
  | nil => cases ran
  | cons tick rest =>
    refine ⟨tick, rest, rfl, ?_⟩
    rw [alone] at ran
    cases resumes : service.resume tick call store with
    | none =>
      rw [resumes] at ran
      cases ran
    | some both =>
      rcases both with ⟨middle, next⟩
      rw [resumes] at ran
      cases next with
      | none =>
        dsimp only at ran
        split at ran
        · rename_i last
          cases ran
          exact .inl ⟨List.isEmpty_iff.mp last, rfl⟩
        · cases ran
      | some next => exact .inr ⟨middle, next, rfl, ran⟩

theorem Obligations.step
    (obligations : service.Obligations Known admissible Good Sound)
    (known : Known configuration)
    (invariant : Invariant Good Sound configuration)
    (allowed : admissible configuration move)
    (stepped : service.system.step move configuration = some after) :
    Invariant Good Sound after := by
  cases stepped_of_step stepped with
  | entered request call enters =>
    constructor
    · exact invariant.good
    · intro index other waits
      rcases waits_entered.mp waits with old | ⟨_, rfl⟩
      · exact invariant.sound index other old
      · exact obligations.entered request _ _ invariant.good enters
  | resumed index tick call store next waits resumes =>
    have sound := invariant.sound index call waits
    rcases obligations.resumed configuration index tick call store next
      known allowed waits invariant.good sound resumes with
      ⟨good, follows⟩
    constructor
    · exact good
    · intro place other waits'
      rcases (waits_resumed waits).mp waits' with ⟨elsewhere, old⟩ | ⟨_, follow⟩
      · exact obligations.stable configuration index tick call store next
          place other known allowed waits old elsewhere invariant.good
          sound (invariant.sound place other old) resumes
      · exact follows other follow

theorem invariant_start {store : Store} (good : Good store) :
    Invariant Good Sound (Configuration.start store : Configuration Store Call) where
  good := good
  sound := fun _ _ waits => (not_waits_start waits).elim

end Service

end Lalaba.Foundation
