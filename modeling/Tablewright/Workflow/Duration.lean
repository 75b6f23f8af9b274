/-
Durations in seconds, whole or with a fraction. A whole number is shown without a point.
-/
import Tablewright.Json.Display

set_option autoImplicit false

namespace Tablewright

/-- A number of seconds. -/
inductive Duration where
  /-- A whole number. -/
  | whole (seconds : Int)
  /-- A number with a fraction, possibly zero. -/
  | fractional (seconds : Binary64)
deriving DecidableEq

namespace Duration

/-- A duration as a number. -/
def toJson : Duration → Json
  | whole n => .int n
  | fractional x => .float x

/-- A duration as messages show it. -/
def text (d : Duration) : Text := d.toJson.display

/-- A limit as messages show it; there may be none. -/
def limitText : Option Duration → Text
  | some d => d.text
  | none => "None"

/-- A limit as a number or null. -/
def limitJson : Option Duration → Json
  | some d => d.toJson
  | none => .null

end Duration

end Tablewright
