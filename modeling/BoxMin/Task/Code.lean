import BoxMin.Task.Field

set_option autoImplicit false

namespace BoxMin

def taskCodes : List (Int × Task) :=
  [(0, .start), (1, .newX), (2, .restart), (3, .requestFG), (4, .convergence), (5, .stop),
    (6, .warning), (7, .error), (8, .abnormal)]

def detailTexts : List (Int × String) :=
  [(401, "NORM OF PROJECTED GRADIENT <= PGTOL"),
    (402, "RELATIVE REDUCTION OF F <= FACTR*EPSMCH"),
    (501, "CPU EXCEEDING THE TIME LIMIT"),
    (502, "TOTAL NO. OF F,G EVALUATIONS EXCEEDS LIMIT"),
    (503, "PROJECTED GRADIENT IS SUFFICIENTLY SMALL"),
    (504, "TOTAL NO. OF ITERATIONS REACHED LIMIT"),
    (505, "CALLBACK REQUESTED HALT"),
    (601, "ROUNDING ERRORS PREVENT PROGRESS"),
    (602, "STP = STPMAX"),
    (603, "STP = STPMIN"),
    (604, "XTOL TEST SATISFIED"),
    (701, "NO FEASIBLE SOLUTION"),
    (702, "FACTR < 0"),
    (703, "FTOL < 0"),
    (704, "GTOL < 0"),
    (705, "XTOL < 0"),
    (706, "STP < STPMIN"),
    (707, "STP > STPMAX"),
    (708, "STPMIN < 0"),
    (709, "STPMAX < STPMIN"),
    (710, "INITIAL G >= 0"),
    (711, "M <= 0"),
    (712, "N <= 0"),
    (713, "INVALID NBD")]

def taskOfCode (status : Int) : Task :=
  (taskCodes.lookup status).getD .unknown

def detailText (detail : Int) : String :=
  (detailTexts.lookup detail).getD ""

/-- Reads a pair of numbers: the word of the task, and the detail behind a colon if it has a
text. -/
def Reply.ofCodes (status detail : Int) : Reply :=
  let task := taskOfCode status
  let text := detailText detail
  ⟨task, if text.isEmpty then task.word else task.word ++ ": " ++ text⟩

end BoxMin
