/-
Response status codes.
-/
import Telemetry.Http.Error

namespace Telemetry.Http

/-- A response status: a number of three digits. -/
structure Status where
  code : Nat
  lower : 100 ≤ code := by decide
  upper : code ≤ 999 := by decide
deriving DecidableEq

namespace Status

/-- The status with that number, if it has three digits. -/
def ofNat (code : Nat) : Except MessageError Status :=
  if h : 100 ≤ code ∧ code ≤ 999 then .ok ⟨code, h.1, h.2⟩ else .error .invalidStatus

/-- The status as its label value: its three digits. -/
def text (status : Status) : String := toString status.code

end Status

end Telemetry.Http
