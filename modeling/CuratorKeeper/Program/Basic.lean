import CuratorKeeper.Fault
import CuratorKeeper.Log

/-! # Programs

Whatever the curator keeper does to the world around it is a program: a tree of effects that ends
with a value or a fault. A program says nothing about what answers its effects, so that the same
program can be run on a store, alone or among others, or be followed through all answers.
-/
namespace CuratorKeeper

inductive Verb
  | create
  | get
  | update
  | delete
  deriving DecidableEq

def Verb.text : Verb → String
  | .create => "create"
  | .get => "get"
  | .update => "update"
  | .delete => "delete"

/-- A request to the store. An update replaces the whole resource or one part of it. -/
inductive Request
  | create (resource : Value)
  | get (ref : Ref)
  | update (resource : Value) (part : Option String)
  | delete (ref : Ref)
  deriving DecidableEq

namespace Request

def verb : Request → Verb
  | .create _ => .create
  | .get _ => .get
  | .update _ _ => .update
  | .delete _ => .delete

def ref : Request → Except Mismatch Ref
  | .create resource => Ref.of resource
  | .get ref => .ok ref
  | .update resource _ => Ref.of resource
  | .delete ref => .ok ref

/-- The part of the resource that a request is about, if it is not the whole. -/
def part? : Request → Option String
  | .update _ part => part
  | _ => none

end Request

/-- What is done with the lock of an object. -/
inductive LockAction
  /-- Take the lock, waiting for it if needed. -/
  | hold
  /-- Take the lock if it is free. -/
  | tryHold
  | release
  /-- Drop the lock from the table. -/
  | forget
  deriving DecidableEq

/-- A step that something outside the program answers. -/
inductive Effect
  | call (request : Request)
  | note (line : LogLine)
  /-- Draw a number from the random source. -/
  | draw
  /-- Sleep for so many seconds. Every pause can be slept: that a clock may refuse one which is
  negative, infinite or undefined is left out. -/
  | pause (length : Number)
  | lock (key : String) (action : LockAction)
  deriving DecidableEq

@[reducible]
def LockAction.Reply : LockAction → Type
  | .tryHold => Bool
  | .hold | .release | .forget => Unit

@[reducible]
def Effect.Reply : Effect → Type
  | .call _ => Except Fault Value
  | .note _ => Unit
  | .draw => Float
  | .pause _ => Unit
  | .lock _ action => action.Reply

/-- A tree of effects. -/
inductive Program (α : Type) : Type
  | done (value : α)
  | fail (fault : Fault)
  | perform (effect : Effect) (next : effect.Reply → Program α)

namespace Program

variable {α β γ : Type}

/-- One program after another. -/
def bind : Program α → (α → Program β) → Program β
  | .done value, rest => rest value
  | .fail fault, _ => .fail fault
  | .perform effect next, rest => .perform effect fun reply => (next reply).bind rest

instance : Monad Program where
  pure := .done
  bind := bind

/-- A program whose fault is made a value. -/
def attempt : Program α → Program (Except Fault α)
  | .done value => .done (.ok value)
  | .fail fault => .done (.error fault)
  | .perform effect next => .perform effect fun reply => (next reply).attempt

/-- Carry on with a result. -/
def ofExcept : Except Fault α → Program α
  | .ok value => .done value
  | .error fault => .fail fault

instance : MonadLift (Except Fault) Program := ⟨ofExcept⟩

def effect (effect : Effect) : Program effect.Reply := .perform effect .done

/-- Ask the store, and fail if it refuses. -/
def ask (request : Request) : Program Value := .perform (.call request) ofExcept

def note (level : Level) (component : Component) (text : String) : Program Unit :=
  .perform (.note ⟨level, component, text⟩) .done

/-- Make the refusals of the store in a program a value; its other faults stay faults. -/
def catchStore (program : Program α) : Program (Except StoreFault α) :=
  program.attempt.bind fun
    | .ok value => .done (.ok value)
    | .error (.store fault) => .done (.error fault)
    | .error other => .fail other

/-- Do something at the end of a program, however it ends. -/
def thenAlways (program : Program α) (last : Program Unit) : Program α :=
  program.attempt.bind fun result => last.bind fun _ => ofExcept result

@[simp]
theorem pure_eq (value : α) : (pure value : Program α) = .done value := rfl

@[simp]
theorem bind_eq (program : Program α) (rest : α → Program β) :
    program >>= rest = program.bind rest := rfl

@[simp]
theorem done_bind (value : α) (rest : α → Program β) : (done value).bind rest = rest value := rfl

@[simp]
theorem fail_bind (fault : Fault) (rest : α → Program β) : (fail fault).bind rest = .fail fault :=
  rfl

@[simp]
theorem perform_bind (effect : Effect) (next : effect.Reply → Program α) (rest : α → Program β) :
    (perform effect next).bind rest = .perform effect fun reply => (next reply).bind rest := rfl

@[simp]
theorem bind_done (program : Program α) : program.bind .done = program := by
  induction program with
  | done value => rfl
  | fail fault => rfl
  | perform effect next ih => simp [ih]

theorem bind_assoc (program : Program α) (first : α → Program β) (second : β → Program γ) :
    (program.bind first).bind second = program.bind fun value => (first value).bind second := by
  induction program with
  | done value => rfl
  | fail fault => rfl
  | perform effect next ih => simp [ih]

instance : LawfulMonad Program :=
  LawfulMonad.mk' Program
    (fun program => bind_done program)
    (fun _ _ => rfl)
    (fun program first second => bind_assoc program first second)

end Program
end CuratorKeeper
