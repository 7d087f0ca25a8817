import Datestamp.Decimal
import Datestamp.Host
import Datestamp.Text.Quoted

/-!
# Failures

A computation fails in one of two ways. A problem is reported to the user: an option, a file or a
time that cannot be served. A fault ends the run at once: an integer that leaves its range, or a
template that does not fit its fields. Each cause carries what its message needs.
-/

namespace Datestamp

/-- What the user is told. -/
inductive Problem where
  | invalidOption (option : Text)
  | illFormedOption (option : Text)
  | noChangeTime (path : Text) (cause : FileError)
  | clockBeforeEpoch
  | clockOutOfRange
  | unrepresentable (instant : Int)
deriving DecidableEq, Repr

/-- The arithmetic operations that are checked for range. -/
inductive Operation where
  | add
  | subtract
  | multiply
deriving DecidableEq, Repr

/-- What ends a run at once. -/
inductive Fault where
  | overflow (operation : Operation)
  | malformedPlaceholder (template : Text)
  | unknownField (name : Text)
  | notNumber (name : Text)
  | widthOutOfRange
deriving DecidableEq, Repr

inductive Failure where
  | problem (p : Problem)
  | fault (f : Fault)
deriving DecidableEq, Repr

/-! ## Messages -/

def Problem.message : Problem → Text
  | .invalidOption option => "invalid option '".toList ++ option ++ ['\'']
  | .illFormedOption option => "ill-formed option '".toList ++ option ++ ['\'']
  | .noChangeTime path cause =>
    cause.attempt ++ " '".toList ++ path ++ "': ".toList ++ cause.message
  | .clockBeforeEpoch => "System clock is set before 1970".toList
  | .clockOutOfRange => "System clock is out of range".toList
  | .unrepresentable instant =>
    "Cannot convert timestamp ".toList ++ Decimal.numeral instant ++ " to local time".toList

def Operation.name : Operation → Text
  | .add => "add".toList
  | .subtract => "subtract".toList
  | .multiply => "multiply".toList

def Fault.message : Fault → Text
  | .overflow operation => "attempt to ".toList ++ operation.name ++ " with overflow".toList
  | .malformedPlaceholder template =>
    "malformed placeholder in template ".toList ++ Text.quote template
  | .unknownField name => "template refers to unknown field ".toList ++ Text.quote name
  | .notNumber name => "field ".toList ++ Text.quote name ++ " cannot be formatted with %d".toList
  | .widthOutOfRange => "Formatting argument out of range".toList

def Failure.message : Failure → Text
  | .problem p => p.message
  | .fault f => f.message

/-! ## Checked arithmetic -/

/-- The numbers that a signed word of 64 bits holds. -/
def FitsInt64 (n : Int) : Prop := -9223372036854775808 ≤ n ∧ n ≤ 9223372036854775807

instance (n : Int) : Decidable (FitsInt64 n) := inferInstanceAs (Decidable (_ ∧ _))

/-- The numbers that a signed word of 32 bits holds. -/
def FitsInt32 (n : Int) : Prop := -2147483648 ≤ n ∧ n ≤ 2147483647

instance (n : Int) : Decidable (FitsInt32 n) := inferInstanceAs (Decidable (_ ∧ _))

/-- The result `n` of an operation on words, which has to fit the word as well. -/
def checked (Fits : Int → Prop) [DecidablePred Fits] (operation : Operation) (n : Int) :
    Except Fault Int :=
  if Fits n then .ok n else .error (.overflow operation)

section Checked

variable {Fits : Int → Prop} [DecidablePred Fits] {operation : Operation} {n : Int}

theorem checked_eq_ok (h : Fits n) : checked Fits operation n = .ok n := if_pos h

theorem checked_eq_error (h : ¬ Fits n) :
    checked Fits operation n = .error (.overflow operation) := if_neg h

theorem of_checked {m : Int} (h : checked Fits operation n = .ok m) : Fits n ∧ m = n := by
  unfold checked at h
  split at h
  · exact ⟨‹_›, (Except.ok.inj h).symm⟩
  · cases h

theorem of_checked_error {fault : Fault} (h : checked Fits operation n = .error fault) :
    fault = .overflow operation := by
  unfold checked at h
  split at h
  · cases h
  · exact (Except.error.inj h).symm

end Checked

/-! ## Computations in sequence -/

/-- A sequence succeeds when both of its steps do. -/
theorem of_bind_eq_ok {ε α β : Type} {x : Except ε α} {f : α → Except ε β} {b : β}
    (h : x >>= f = .ok b) : ∃ a, x = .ok a ∧ f a = .ok b := by
  cases x with
  | error e => cases h
  | ok a => exact ⟨a, rfl, h⟩

/-- A sequence fails as the first of its steps that does. -/
theorem of_bind_eq_error {ε α β : Type} {x : Except ε α} {f : α → Except ε β} {e : ε}
    (h : x >>= f = .error e) : x = .error e ∨ ∃ a, x = .ok a ∧ f a = .error e := by
  cases x with
  | error e' => exact .inl (congrArg Except.error (Except.error.inj h))
  | ok a => exact .inr ⟨a, rfl, h⟩

theorem bind_eq_ok {ε α β : Type} {x : Except ε α} {f : α → Except ε β} {a : α} {b : β}
    (hx : x = .ok a) (hf : f a = .ok b) : x >>= f = .ok b := by
  subst hx
  exact hf

theorem mapError_eq_ok {ε ε' α : Type} {f : ε → ε'} {x : Except ε α} {a : α} (h : x = .ok a) :
    x.mapError f = .ok a := by
  subst h
  rfl

theorem mapError_eq_error {ε ε' α : Type} {f : ε → ε'} {x : Except ε α} {e : ε}
    (h : x = .error e) : x.mapError f = .error (f e) := by
  subst h
  rfl

theorem of_mapError_eq_error {ε ε' α : Type} {f : ε → ε'} {x : Except ε α} {e' : ε'}
    (h : x.mapError f = .error e') : ∃ e, x = .error e ∧ e' = f e := by
  cases x with
  | error e => exact ⟨e, rfl, (Except.error.inj h).symm⟩
  | ok a => cases h

theorem of_mapError_eq_ok {ε ε' α : Type} {f : ε → ε'} {x : Except ε α} {a : α}
    (h : x.mapError f = .ok a) : x = .ok a := by
  cases x with
  | error e => cases h
  | ok b => exact congrArg Except.ok (Except.ok.inj h)

theorem eq_ok_of_toOption {ε α : Type} {x : Except ε α} {a : α} (h : x.toOption = some a) :
    x = .ok a := by
  cases x with
  | error e => cases h
  | ok b => exact congrArg Except.ok (Option.some.inj h)

end Datestamp
