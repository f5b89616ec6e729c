import SeriesQuery.Stage.Argument

/-! # Why a stage is refused -/

namespace SeriesQuery

/-- What is wrong with the argument of a stage. -/
inductive ArgumentFault where
  | notNumber (arg : Argument)
  | zeroDivisor (arg : Argument)
  | notInteger (arg : Argument)
  | notPositive (arg : Argument)
  | tooLarge (arg : Argument)
deriving DecidableEq, Repr

def ArgumentFault.message : ArgumentFault → String
  | notNumber arg => "constant '" ++ arg.display ++ "' is not a number"
  | zeroDivisor arg => "divisor '" ++ arg.display ++ "' is zero"
  | notInteger arg => "window '" ++ arg.display ++ "' is not an integer"
  | notPositive arg => "window '" ++ arg.display ++ "' must be positive"
  | tooLarge arg => "window '" ++ arg.display ++ "' is too large"

/-- Why a stage cannot be built. -/
inductive StageError where
  | unknown (name : String)
  | missingArguments (stage : String) (needed found : Nat)
  | invalidArgument (stage : String) (fault : ArgumentFault)
deriving DecidableEq, Repr

def StageError.message : StageError → String
  | unknown name => "Unknown stage: " ++ name
  | missingArguments stage needed found =>
    "Stage '" ++ stage ++ "' needs " ++ toString needed ++ " argument(s), found " ++ toString found
  | invalidArgument stage fault =>
    "Invalid argument for stage '" ++ stage ++ "': " ++ fault.message

end SeriesQuery
