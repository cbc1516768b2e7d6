import Ois.Library.Command

/-!
# Database connections

A connection sees the tables as its open transaction has changed them, and another one sees them
as they were committed. A statement that writes begins a transaction unless one is open, also when
it fails.
-/

namespace Ois.Library

structure Connection (Tables : Type) where
  committed : Tables
  opened : Option Tables := none
  deriving DecidableEq, Repr

def raising {Error State Value : Type} (fault : Option Error)
    (stmt : Command Error State Value) : Command Error State Value :=
  match fault with
  | some err => throw err
  | none => stmt

namespace Connection

variable {Error Tables Value : Type}

def view (conn : Connection Tables) : Tables :=
  conn.opened.getD conn.committed

/-- `BEGIN`, which is refused within a transaction. -/
def beginTransaction (refused : Error) : Command Error (Connection Tables) Unit := do
  if (← get).opened.isSome then throw refused
  modify fun conn => { conn with opened := some conn.committed }

def write (change : Tables → Except Error (Value × Tables)) :
    Command Error (Connection Tables) Value := do
  modify fun conn => { conn with opened := some conn.view }
  let (value, tables) ← MonadExcept.ofExcept (change (← get).view)
  modify fun conn => { conn with opened := some tables }
  return value

/-- `SELECT`. -/
def read (look : Tables → Value) : Command Error (Connection Tables) Value := do
  let conn ← get
  return look conn.view

/-- `commit()`, which does nothing outside a transaction. -/
def commit : Command Error (Connection Tables) Unit :=
  modify fun conn => { committed := conn.view }

/-- `rollback()`. -/
def rollback : Command Error (Connection Tables) Unit :=
  modify fun conn => { conn with opened := none }

section rules

variable {ret : Value → Connection Tables → Prop} {done : Unit → Connection Tables → Prop}
  {raised : Error → Connection Tables → Prop} {conn : Connection Tables}

@[simp] theorem ends_commit :
    Command.Ends commit done raised conn ↔ done () { committed := conn.view } := Iff.rfl

@[simp] theorem ends_rollback :
    Command.Ends rollback done raised conn ↔
      done () { conn with opened := none } := Iff.rfl

@[simp] theorem ends_read (look : Tables → Value) :
    Command.Ends (read look) ret raised conn ↔
      ret (look conn.view) conn := Iff.rfl

theorem ends_begin_of_idle (refused : Error) (idle : conn.opened = none) :
    Command.Ends (beginTransaction refused) done raised conn ↔
      done () { conn with opened := some conn.committed } := by
  simp [beginTransaction, idle]

theorem ends_write_of_ok {change : Tables → Except Error (Value × Tables)} {value : Value}
    {tables : Tables} (changed : change conn.view = .ok (value, tables)) :
    Command.Ends (write change) ret raised conn ↔
      ret value { conn with opened := some tables } := by
  unfold write
  simp only [Command.ends_bind, Command.ends_modify, Command.ends_get]
  rw [show change ({ conn with opened := some conn.view } : Connection Tables).view =
    .ok (value, tables) from changed]
  rfl

theorem ends_write_of_error {change : Tables → Except Error (Value × Tables)} {err : Error}
    (changed : change conn.view = .error err) :
    Command.Ends (write change) ret raised conn ↔
      raised err { conn with opened := some conn.view } := by
  unfold write
  simp only [Command.ends_bind, Command.ends_modify, Command.ends_get]
  rw [show change ({ conn with opened := some conn.view } : Connection Tables).view =
    .error err from changed]
  rfl

end rules

end Connection

section raising

variable {Error State Value : Type} {ret : Value → State → Prop}
  {raised : Error → State → Prop} {state : State}

@[simp] theorem raising_none (stmt : Command Error State Value) :
    raising none stmt = stmt := rfl

@[simp] theorem ends_raising_some (err : Error) (stmt : Command Error State Value) :
    Command.Ends (raising (some err) stmt) ret raised state ↔ raised err state :=
  Iff.rfl

end raising

end Ois.Library
