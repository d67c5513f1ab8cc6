import RegisterMachine.Registers

/-!
# Microcode

What an instruction does when it is executed: a list of actions on the program counter and the
registers. The arguments of an action are computed just before it, so it sees the effects of the
actions in front of it.

* `Argument`, `Action`: the arguments and the actions.
* `Routine`: the two built-in routines and routines given by their actions.
-/

namespace RegisterMachine

/-- What the arguments of an action can see. The program counter has already advanced. -/
structure View where
  operands : List Int
  registers : List Int
  count : Nat
  pc : Int
deriving DecidableEq, Repr

/-- An argument of an action: any computation from what can be seen that fails only where it asks
for an operand or a register that is not there. -/
structure Argument where
  read : View → Except Fault Int
  isIndex_of_read : ∀ {view : View} {f : Fault}, read view = .error f → f.isIndex = true

namespace Argument

def literal (v : Int) : Argument := ⟨fun _ => .ok v, nofun⟩

def operand (k : Int) : Argument where
  read view := Registers.fetch .operandOutside view.operands k
  isIndex_of_read := Registers.isIndex_of_fetch rfl

def register (k : Int) : Argument where
  read view := Registers.read view.registers k
  isIndex_of_read := Registers.isIndex_of_fetch rfl

def count : Argument := ⟨fun view => .ok view.count, nofun⟩

def pc : Argument := ⟨fun view => .ok view.pc, nofun⟩

/-- Reads `a`, then `b`, and combines their values. -/
def combine (f : Int → Int → Int) (a b : Argument) : Argument where
  read view := do
    let x ← a.read view
    let y ← b.read view
    return f x y
  isIndex_of_read := by
    intro view e h
    cases ha : a.read view with
    | error e' =>
      rw [ha] at h
      cases h
      exact a.isIndex_of_read ha
    | ok x =>
      cases hb : b.read view with
      | error e' =>
        rw [ha, hb] at h
        cases h
        exact b.isIndex_of_read hb
      | ok y =>
        rw [ha, hb] at h
        cases h

theorem read_combine (f : Int → Int → Int) (a b : Argument) (view : View) :
    (combine f a b).read view =
      (a.read view >>= fun x => b.read view >>= fun y => .ok (f x y)) := rfl

end Argument

inductive Action where
  | setPc (value : Argument)
  | setRegister (index value : Argument)

inductive Routine where
  /-- Puts the second operand into the register named by the first. -/
  | store
  /-- Adds register 1 to register 0. -/
  | accumulate
  | custom (actions : List Action)

namespace Routine

def actions : Routine → List Action
  | store => [.setRegister (.operand 0) (.operand 1)]
  | accumulate => [.setRegister (.literal 0) (.combine (· + ·) (.register 0) (.register 1))]
  | custom actions => actions

def label : Routine → String
  | store => "_set_register"
  | accumulate => "_add_registers"
  | custom _ => "microcode"

/-- The names of the operands a built-in routine takes; a custom one takes any number. -/
def parameters : Routine → Option (List String)
  | store => some ["index", "value"]
  | accumulate => some []
  | custom _ => none

/-- A built-in routine insists on its number of operands; the machine itself is an argument too. -/
def accepts (r : Routine) (given : Nat) : Except Fault Unit :=
  match r.parameters with
  | none => .ok ()
  | some names =>
    if given < names.length then .error (.missingOperands r.label (names.drop given))
    else if names.length < given then .error (.extraOperands r.label (names.length + 1) (given + 1))
    else .ok ()

/-- Built-in routines are shared; every custom routine is a thing of its own. -/
def same : Routine → Routine → Bool
  | store, store => true
  | accumulate, accumulate => true
  | _, _ => false

end Routine

end RegisterMachine
