import WatchRelay.Decimal.Shortest

/-! Why a watch cannot be opened or goes no further. -/

namespace WatchRelay

/-- A failure of one watch. -/
inductive WatchFailure where
  | unavailable (reason : String)
  | unauthenticated (reason : String)
  | lagged (skipped : Nat)
  | backend (reason : String)
deriving DecidableEq, Repr

namespace WatchFailure

/-- The kind of a failure. -/
def category : WatchFailure → String
  | .unavailable _ => "unavailable"
  | .unauthenticated _ => "unauthenticated"
  | .lagged _ => "lagged"
  | .backend _ => "backend"

/-- The wording of a failure. -/
def message : WatchFailure → String
  | .unavailable reason => "watch backend unavailable: " ++ reason
  | .unauthenticated reason => "watch unauthenticated: " ++ reason
  | .lagged skipped =>
    "watch lagged, " ++ String.ofList (decimalChars skipped) ++ " events skipped"
  | .backend reason => "watch failed: " ++ reason

end WatchFailure

end WatchRelay
