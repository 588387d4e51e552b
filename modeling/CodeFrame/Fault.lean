import CodeFrame.Text.Decimal
import CodeFrame.Text.Quoted

/-!
# What can be refused, and in which words

A `Fault` is the cause of a refusal: bounds out of order, limits that leave no room, a role, a severity or a source nobody
knows, a value that cannot be gone through, one that cannot be a key, or a number whose numeral is too long.
`Text.numeral` writes the numerals of the other numbers. `Fault.message` words a refusal; if it cannot be told without a
numeral that is too long, it has the words of that one.
-/

namespace CodeFrame

/-- The cause of a refusal. -/
inductive Fault where
  | negativeStart (start : Int)
  | stopBeforeStart (start stop : Int)
  | contextNotPositive
  | lineNotPositive
  | markTooNarrow (mark elided : Int)
  | unknownRole (name : Text)
  | unknownSeverity (name : Text)
  | unknownSource (name : Text)
  | notIterable
  | notAKey
  | numeralTooLong
  deriving DecidableEq

/-- The numeral of an integer, refused if it has too many digits. -/
def Text.numeral (n : Int) : Except Fault Text := if Text.Fits n then .ok (Text.decimal n) else .error .numeralTooLong

theorem Text.numeral_of_fits {n : Int} (h : Fits n) : numeral n = .ok (decimal n) := if_pos h

theorem Text.numeral_of_not_fits {n : Int} (h : ¬ Fits n) : numeral n = .error .numeralTooLong := if_neg h

namespace Fault

/-- The words for a number with too many digits. -/
def tooLongWords : Text :=
  "Exceeds the limit (4300 digits) for integer string conversion; ".toList ++
    "use sys.set_int_max_str_digits() to increase the limit".toList

/-- The words for a refusal, if its numbers can be written. -/
def told : Fault → Except Fault Text
  | .negativeStart start => do
    return "SourceSpan.start must be >= 0, got ".toList ++ (← Text.numeral start)
  | .stopBeforeStart start stop => do
    let stop ← Text.numeral stop
    let start ← Text.numeral start
    return "SourceSpan.end (".toList ++ stop ++ ") must be >= start (".toList ++ start ++ [')']
  | .contextNotPositive => return "context_width must be positive".toList
  | .lineNotPositive => return "max_line_length must be positive".toList
  | .markTooNarrow mark elided => do
    let mark ← Text.numeral mark
    let elided ← Text.numeral elided
    return "max_span_length (".toList ++ mark ++ ") must be >= truncated_span_length (".toList ++ elided ++ [')']
  | .unknownRole name => return Text.quoted name ++ " is not a valid Style".toList
  | .unknownSeverity name => return Text.quoted name ++ " is not a valid Severity".toList
  | .unknownSource name => return "Unknown source '".toList ++ name ++ ['\'']
  | .notIterable => return "related places cannot be gone through".toList
  | .notAKey => return "a list or a mapping cannot be part of a key".toList
  | .numeralTooLong => return tooLongWords

/-- The words for a refusal. -/
def message (f : Fault) : Text :=
  match f.told with
  | .ok words => words
  | .error _ => tooLongWords

end Fault

end CodeFrame
