import TypedHeaders.Failure
import TypedHeaders.Numeral.Shortest

/-!
# Metrics

Counters of the requests that are bound, by outcome, and of the parameters that
are bound in them. The labels stay coarse: a reason that is not known is counted
as another one, so that the number of samples is bounded whatever clients send.

Counters are binary numbers. Samples are listed in the order in which they were
first counted.
-/

namespace TypedHeaders

open Numeral

/-- The labels of a sample. -/
structure Label where
  result : String
  reason : String
deriving DecidableEq, Repr

/-- The reasons that are counted under their own name. -/
def knownReasons : List String := ["ok", "missing", "cast", "validation"]

/-- The labels under which a reason is counted. -/
def Label.ofReason (reason : String) : Label where
  result := if reason = "ok" then "ok" else "fail"
  reason := if knownReasons.contains reason then reason else "other"

/-- The counters. -/
structure Metrics where
  /-- The requests with each label. -/
  bindings : List (Label × Binary64) := []
  /-- The parameters that were bound. -/
  params : Binary64 := .finite false 0
deriving DecidableEq, Repr

/-- Why a counter cannot be changed as asked. -/
inductive MetricsError where
  | negativeAmount
  /-- An amount that is too large for a binary number. -/
  | tooLarge
deriving DecidableEq, Repr

/-- What is said of a counter that cannot be changed as asked. -/
def MetricsError.message : MetricsError → String
  | .negativeAmount => "Counters can only be incremented by non-negative amounts."
  | .tooLarge => "int too large to convert to float"

namespace Metrics

/-- One more in the sample with that label. -/
def increment (label : Label) : List (Label × Binary64) → List (Label × Binary64)
  | [] => [(label, .addNat (.finite false 0) 1)]
  | (l, n) :: rest =>
    if l = label then (l, n.addNat 1) :: rest else (l, n) :: increment label rest

/-- Counts a request and the parameters bound in it. The request is counted even if the number of
    parameters is refused. -/
def observe (m : Metrics) (reason : String) (params : Int) : Metrics × Option MetricsError :=
  let m := { m with bindings := increment (.ofReason reason) m.bindings }
  if params < 0 then (m, some .negativeAmount)
  else if params = 0 then (m, none)
  else if !(Binary64.ofInt params).isFinite then (m, some .tooLarge)
  else ({ m with params := m.params.addNat params.toNat }, none)

/-- The number of requests with a label. -/
def count (m : Metrics) (label : Label) : Binary64 :=
  (m.bindings.lookup label).getD (.finite false 0)

/-- A number as the text format writes it: with an exponent if more than six digits stand before
    the point. -/
def sampleText (x : Binary64) : String :=
  let whole := x.chars.takeWhile (· ≠ '.')
  let rest := x.chars.drop whole.length
  match x, whole, rest with
  | .finite false _, first :: digits, _ :: fraction =>
    if digits.length < 6 then x.text
    else
      let mantissa := (first :: '.' :: digits ++ fraction).reverse
      let mantissa := (mantissa.dropWhile fun c => c = '0' || c = '.').reverse
      String.ofList (mantissa ++ "e+0".toList ++ digits.length.repr.toList)
  | .infinite false, _, _ => "+Inf"
  | _, _, _ => x.text

/-- The line of the sample with a label. -/
def bindingLine (label : Label) (n : Binary64) : String :=
  "hdrbind_header_bindings_total\x7breason=\"" ++ label.reason ++ "\",result=\"" ++ label.result ++
    "\"\x7d " ++ sampleText n

/-- The counters in the text format, line by line. -/
def lines (m : Metrics) : List String :=
  ["# HELP hdrbind_header_bindings_total Header binding attempts by outcome.",
   "# TYPE hdrbind_header_bindings_total counter"] ++
  m.bindings.map (fun (label, n) => bindingLine label n) ++
  ["# HELP hdrbind_header_params_bound_total Header parameters bound successfully.",
   "# TYPE hdrbind_header_params_bound_total counter",
   "hdrbind_header_params_bound_total " ++ sampleText m.params,
   ""]

end Metrics

end TypedHeaders
