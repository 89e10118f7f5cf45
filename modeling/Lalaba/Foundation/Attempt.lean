import Mathlib.Logic.Basic

/-!
# Programs that keep what they have done when they throw

A program without a transaction changes the world step by step; when a step throws, what
the earlier steps have done stays, until somebody undoes it.  `Attempt` is the type of
such programs, with the `try` and `catch` by which they undo it themselves.

The rules of this module are equivalences, so that they compute the weakest condition
under which a program returns and throws as it should.
-/

namespace Lalaba.Foundation

def Attempt (World Error Value : Type) : Type := World → Except Error Value × World

namespace Attempt

variable {World Error Value Next : Type}

def skip (value : Value) : Attempt World Error Value :=
  fun world => (.ok value, world)

def andThen (first : Attempt World Error Value)
    (next : Value → Attempt World Error Next) : Attempt World Error Next :=
  fun world =>
    match first world with
    | (.ok value, after) => next value after
    | (.error error, after) => (.error error, after)

instance : Monad (Attempt World Error) where
  pure := skip
  bind := andThen

def raise (error : Error) : Attempt World Error Value :=
  fun world => (.error error, world)

def reads (compute : World → Except Error Value) :
    Attempt World Error Value :=
  fun world => (compute world, world)

def perform (action : World → Except Error (Value × World)) :
    Attempt World Error Value :=
  fun world =>
    match action world with
    | .ok (value, after) => (.ok value, after)
    | .error error => (.error error, world)

def change (action : World → World) : Attempt World Error Unit :=
  fun world => (.ok (), action world)

/-- `try` a program, and `catch` what it throws. -/
def recover (program : Attempt World Error Value)
    (handler : Error → Attempt World Error Value) :
    Attempt World Error Value :=
  fun world =>
    match program world with
    | (.ok value, after) => (.ok value, after)
    | (.error error, after) => handler error after

/-- A program returns only as in `returns`, and throws only as in `throws`. -/
def Does (program : Attempt World Error Value) (world : World)
    (returns : Value → World → Prop) (throws : Error → World → Prop) :
    Prop :=
  match program world with
  | (.ok value, after) => returns value after
  | (.error error, after) => throws error after

variable {world : World} {returns : Value → World → Prop} {throws : Error → World → Prop}

@[simp]
theorem does_pure {value : Value} :
    (pure value : Attempt World Error Value).Does world returns throws ↔
      returns value world :=
  Iff.rfl

@[simp]
theorem does_bind {first : Attempt World Error Next}
    {next : Next → Attempt World Error Value} :
    (first >>= next).Does world returns throws ↔
      first.Does world
        (fun value after => (next value).Does after returns throws)
        throws := by
  change (match andThen first next world with
    | (.ok value, after) => returns value after
    | (.error error, after) => throws error after) ↔ _
  rw [Does, andThen]
  rcases first world with ⟨error | value, after⟩ <;> rfl

@[simp]
theorem does_raise {error : Error} :
    (raise error : Attempt World Error Value).Does world returns throws ↔
      throws error world :=
  Iff.rfl

theorem does_reads {compute : World → Except Error Value} :
    (reads compute).Does world returns throws ↔
      (∀ value, compute world = .ok value → returns value world) ∧
        ∀ error, compute world = .error error → throws error world := by
  rw [Does, reads]
  rcases compute world with error | value <;> simp

theorem does_perform {action : World → Except Error (Value × World)} :
    (perform action).Does world returns throws ↔
      (∀ value after, action world = .ok (value, after) → returns value after) ∧
        ∀ error, action world = .error error → throws error world := by
  rw [Does, perform]
  rcases action world with error | ⟨value, after⟩ <;> simp

@[simp]
theorem does_change {action : World → World}
    {returns : Unit → World → Prop} :
    (change action : Attempt World Error Unit).Does world returns throws ↔
      returns () (action world) :=
  Iff.rfl

@[simp]
theorem does_recover {program : Attempt World Error Value}
    {handler : Error → Attempt World Error Value} :
    (recover program handler).Does world returns throws ↔
      program.Does world returns
        (fun error after => (handler error).Does after returns throws) := by
  rw [Does, Does, recover]
  rcases program world with ⟨error | value, after⟩ <;> rfl

end Attempt

end Lalaba.Foundation
