import BoxMin.Decimal.Rounded
import BoxMin.Text.Padding

set_option autoImplicit false

namespace BoxMin

/-- The iterate's number to four places, f and the norm of g to two decimals, then the shown
diagnostics. -/
def progressLine (iteration : Int) (f gnorm : Float) (errors : List Float) : String :=
  "Iteration " ++ padLeft 4 (toString iteration) ++ ", f = " ++ padLeft 5 (scientific 2 f) ++
    ", ||g||_inf = " ++ padLeft 5 (scientific 2 gnorm) ++
    String.join (errors.map fun y => "; err " ++ scientific 2 y)

end BoxMin
