import BoxMin.Task.Code
import BoxMin.Value.Reading

set_option autoImplicit false

namespace BoxMin

/-- The trimmed text of a status field. Other sequences can be cut, but have no padding to
strip. -/
def Value.toFieldText : Value → Except Fault (List Char)
  | .text s => .ok (trimField s.toList)
  | .bytes bs => .ok (fieldText bs)
  | .list _ | .tuple _ => .error .noAttribute
  | .array a => if a.shape.isEmpty then .error .noItem else .error .noAttribute
  | .scalar _ => .error .noItem
  | _ => .error .wrongKind

def Reply.ofFieldValue (v : Value) : Except Fault Reply :=
  v.toFieldText.map .ofTrimmed

/-- The report in a pair of numbers; the first is read before the second is looked for. -/
def Reply.ofCodesValue (v : Value) : Except Fault Reply := do
  let status ← (← v.itemAt 0).toWhole
  let detail ← (← v.itemAt 1).toWhole
  .ok (.ofCodes status detail)

end BoxMin
