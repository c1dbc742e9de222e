import BoxMin.Text.Padding

set_option autoImplicit false

namespace BoxMin

/-- Text being put on lines: the lines that are full, and the one that is being filled. -/
structure Lines where
  full : String := ""
  line : String
  deriving DecidableEq, Repr

namespace Lines

/-- Adds a word. It starts a new line if it does not fit, unless the line holds its indent only. -/
def add (limit indent : Nat) (t : Lines) (word : String) : Lines :=
  if limit < t.line.length + word.length && indent < t.line.length then
    ⟨t.full ++ withoutEnd t.line ++ "\n", blanks indent ++ word⟩
  else { t with line := t.line ++ word }

def addAll (limit indent : Nat) (separator : String) : List String → Lines → Lines
  | [], t => t
  | [word], t => t.add limit indent word
  | word :: words, t =>
    let t := t.add limit indent word
    addAll limit indent separator words { t with line := t.line ++ separator }

end Lines

/-- Words on lines no longer than the limit. All lines are indented, the first one by what stands
before the words already. -/
def fillLines (limit indent : Nat) (separator : String) (words : List String) : String :=
  let t := Lines.addAll limit indent separator words { line := blanks indent }
  String.ofList ((t.full ++ t.line).toList.drop indent)

end BoxMin
