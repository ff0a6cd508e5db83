import TextMate.Oniguruma.LookBehind
import TextMate.Oniguruma.Recursion

/-
  This file defines which patterns Oniguruma accepts.

  Key definitions include:
    * `accept`
    * `refusal?`
    * `check`
-/

namespace TextMate

namespace Oniguruma

/- Check a pattern, the structure before what it means. -/
def accept
    (text : List Char) : Except Refusal Unit := do
  let parsed ← parse text
  let pattern ← settle parsed
  checkReferences pattern
  if parsed.calls ≠ 0 then
    checkCalls pattern
    if hasEndlessRecursion pattern then
      throw .endlessRecursion
  pattern.checkLookBehinds

/- The reason to refuse a pattern, if it is not accepted. -/
def refusal?
    (text : List Char) : Option Refusal :=
  match accept text with
  | .ok _ => none
  | .error refusal => some refusal

/- The report on a pattern, if it is not accepted. -/
def check
    (text : String) : Option String :=
  (refusal? text.toList).map Refusal.report

end Oniguruma

end TextMate
