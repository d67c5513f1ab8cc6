import RegisterMachine.Fault

/-!
# Register files

A register file is a list of integers. An index counts from the front, a negative one from the
back; `locate` turns it into a position and says what is wrong with it otherwise. `summary` shows
all registers, unless one of them is too long to write.
-/

namespace RegisterMachine.Registers

/-- Indices are signed 64-bit numbers. -/
def isIndex (i : Int) : Bool := -0x8000000000000000 ≤ i && i < 0x8000000000000000

/-- The position that index `i` denotes among `size` cells; `outside` if there is no such cell. -/
def locate (outside : Fault) (size : Nat) (i : Int) : Except Fault Nat :=
  if isIndex i then
    let j := if i < 0 then i + size else i
    if 0 ≤ j ∧ j < size then .ok j.toNat else .error outside
  else .error .indexTooWide

/-- The value at index `i` of a list; `outside` if there is none. -/
def fetch (outside : Fault) (values : List Int) (i : Int) : Except Fault Int := do
  let j ← locate outside values.length i
  match values[j]? with
  | some v => .ok v
  | none => .error outside

def read (registers : List Int) (i : Int) : Except Fault Int := fetch .readOutside registers i

def write (registers : List Int) (i v : Int) : Except Fault (List Int) := do
  let j ← locate .writeOutside registers.length i
  return registers.set j v

theorem isIndex_of_locate {outside f : Fault} {size : Nat} {i : Int}
    (houtside : outside.isIndex = true) (h : locate outside size i = .error f) :
    f.isIndex = true := by
  unfold locate at h
  split at h
  · dsimp only at h
    generalize (if i < 0 then i + (size : Int) else i) = j at h
    split at h <;> cases h
    exact houtside
  · cases h
    rfl

theorem isIndex_of_fetch {outside f : Fault} {values : List Int} {i : Int}
    (houtside : outside.isIndex = true) (h : fetch outside values i = .error f) :
    f.isIndex = true := by
  unfold fetch at h
  cases hlocate : locate outside values.length i with
  | error e =>
    rw [hlocate] at h
    cases h
    exact isIndex_of_locate houtside hlocate
  | ok j =>
    rw [hlocate] at h
    simp only [bind, Except.bind] at h
    split at h <;> cases h
    exact houtside

/-! ## Summaries -/

def text (registers : List Int) : String :=
  Text.joined " " (registers.map fun v => "[" ++ Decimal.text v ++ "]")

/-- Every register keeps to the digit limit. -/
def Fit (registers : List Int) : Prop := ∀ v ∈ registers, Decimal.Fits v

instance (registers : List Int) : Decidable (Fit registers) :=
  inferInstanceAs (Decidable (∀ v ∈ registers, Decimal.Fits v))

def summary (registers : List Int) : Except Fault String :=
  if Fit registers then .ok (text registers) else .error .tooManyDigits

end RegisterMachine.Registers
