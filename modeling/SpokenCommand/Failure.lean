import SpokenCommand.Recognition.Recognizer
import SpokenCommand.Transport

/-!
# Failures of a program

What stops a program: a cause, and what the program was doing when it arose.
-/

namespace SpokenCommand

inductive FileError where
  | notFound
  | isDirectory
  | notText
  /-- Anything else, in the words of the system. -/
  | other (text : String)
deriving DecidableEq, Repr

def FileError.message : FileError → String
  | .notFound => "No such file or directory (os error 2)"
  | .isDirectory => "Is a directory (os error 21)"
  | .notText => "stream did not contain valid UTF-8"
  | .other text => text

/-- The files that a program sees. -/
abbrev Files := String → Except FileError (List UInt8)

inductive Cause where
  | file (cause : FileError)
  | json (cause : Json.Fault)
  | transport (cause : TransportError)
  | recognition (cause : RecognitionError)

def Cause.message : Cause → String
  | .file cause => cause.message
  | .json cause => cause.message
  | .transport cause => cause.message
  | .recognition cause => cause.message

/-- A cause, and what was being done. -/
structure Failure where
  doing : Option String
  cause : Cause

namespace Failure

/-- The failure on one line. -/
def message (f : Failure) : String :=
  match f.doing with
  | none => f.cause.message
  | some doing => doing ++ ": " ++ f.cause.message

/-- The lines of a text behind the first one indented like the first. -/
def indent (s : String) : String :=
  String.ofList (s.toList.flatMap fun c => if c = '\n' then "\n    ".toList else [c])

/-- The failure as a program reports it when it gives up. -/
def report (f : Failure) : String :=
  match f.doing with
  | none => "Error: " ++ f.cause.message ++ "\n"
  | some doing => "Error: " ++ doing ++ "\n\nCaused by:\n    " ++ indent f.cause.message ++ "\n"

end Failure

/-- The result, or the cause of its absence with what was being done. -/
def during {ε α : Type} (doing : String) (wrap : ε → Cause) : Except ε α → Except Failure α
  | .ok a => .ok a
  | .error e => .error ⟨some doing, wrap e⟩

/-- The result, or the cause of its absence by itself. -/
def plainly {ε α : Type} (wrap : ε → Cause) : Except ε α → Except Failure α
  | .ok a => .ok a
  | .error e => .error ⟨none, wrap e⟩

variable {ε α : Type} {result : Except ε α} {wrap : ε → Cause} {doing : String} {a : α}

@[simp]
theorem during_eq_ok_iff : during doing wrap result = .ok a ↔ result = .ok a := by
  cases result <;> simp [during]

@[simp]
theorem during_eq_error_iff {f : Failure} :
    during doing wrap result = .error f ↔ ∃ e, result = .error e ∧ ⟨some doing, wrap e⟩ = f := by
  cases result <;> simp [during]

@[simp]
theorem plainly_eq_ok_iff : plainly wrap result = .ok a ↔ result = .ok a := by
  cases result <;> simp [plainly]

@[simp]
theorem plainly_eq_error_iff {f : Failure} :
    plainly wrap result = .error f ↔ ∃ e, result = .error e ∧ ⟨none, wrap e⟩ = f := by
  cases result <;> simp [plainly]

end SpokenCommand
