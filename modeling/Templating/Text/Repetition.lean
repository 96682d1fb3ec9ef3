set_option autoImplicit false

/-! # Repetition

A text written several times. It is put together by doubling, so the number of steps grows with
the digits of the number and not with the number: nothing is fast to repeat, however often.
-/

namespace Templating.Text

/-- The text, written `times` times. -/
def repeated (times : Nat) (text : String) : String :=
  if times = 0 then ""
  else
    let half := repeated (times / 2) text
    if times % 2 = 0 then half ++ half else half ++ half ++ text
termination_by times
decreasing_by omega

end Templating.Text
