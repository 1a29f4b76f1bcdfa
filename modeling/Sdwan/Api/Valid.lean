/-
What is sent is checked first, and what does not pass is not sent.
-/
import Sdwan.Error
import Sdwan.Validation.Report

namespace Sdwan

open Validation

/-- The error for a model that does not pass its checks. -/
def Error.ofReport (r : Report) : Error := .validation r.text

/-- Refuses a value that does not pass its checks. -/
def requireValid {α : Type} [Checked α] (a : α) : Result Unit :=
  match check a with
  | [] => .ok ()
  | report => .error (.ofReport report)

end Sdwan
