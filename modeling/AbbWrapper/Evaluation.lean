import Mathlib.Algebra.Order.Floor.Ring
import Mathlib.Data.Rat.Floor
import AbbWrapper.Interfaces

/-! # Evaluated runs

The rational numbers on which concrete runs are evaluated, and the messages of a robot at rest
with six axes.  Angles of the functions of `<cmath>` are counted in half turns, so that `pi` is `1`.
The functions are exact at quarter turns and at squares.

A run may meet other arguments too, such as the cosine of a ramp between its ends.  The numbers that come
out of them are not those of the program; what is concluded of a run that uses them is which branches are
taken and which values are not zero, and that is the same for the exact functions. -/

namespace AbbWrapper

open Protobuf

namespace Evaluation

/-- The cosine at multiples of a quarter turn. -/
def cos (x : ℚ) : ℚ :=
  let r := x - 2 * ⌊x / 2⌋
  if r = 0 then 1 else if r = 1 then -1 else 0

/-- Exact at quarter turns and squares, and a stand-in elsewhere. -/
instance : Cmath ℚ where
  pi := 1
  sqrt x := (x.num.toNat.sqrt : ℚ) / (x.den.sqrt : ℚ)
  sin x := cos (x - 1 / 2)
  cos := cos
  asin x := x / 2
  acos x := (1 - x) / 2
  atan2 y x := if y = 0 then (if x < 0 then 1 else 0) else if 0 < y then 1 / 2 else -1 / 2

/-- Robot joint values, the pose at the origin and the time in seconds. -/
def planned (joints : List ℚ) (sec : UInt64) : EgmPlanned ℚ where
  joints := .present ⟨joints⟩
  cartesian := .present
    { pos := .present ⟨.present 0, .present 0, .present 0⟩
      orient := .present ⟨.present 1, .present 0, .present 0, .present 0⟩ }
  time := .present ⟨.present sec, .present 0⟩

/-- A complete message; `running` tells whether motors, RAPID program and EGM are running. -/
def message (seqno : UInt32) (sec : UInt64) (joints : List ℚ) (running : Bool) : EgmRobot ℚ where
  header := .present ⟨.present seqno, .present 0, .present .data⟩
  feedBack := .present (planned joints sec)
  planned := .present (planned joints sec)
  motorState := .present ⟨.present .on⟩
  mciState := .present ⟨.present (if running then .running else .stopped)⟩
  rapidExecState := .present ⟨.present .running⟩
  mciConvergenceMet := .present true

/-- The bytes of an evaluated run are the messages themselves. -/
def parse (m : EgmRobot ℚ) : Bool × EgmRobot ℚ := (true, m)

/-- The input container after an accepted message. -/
def receive (i : InputContainer ℚ) (m : EgmRobot ℚ) : InputContainer ℚ :=
  ((i.updatePrevious.parseFromArray parse (some m)).2.extractParsedInformation .six).2

def configurations : TrajectoryConfiguration ℚ := ⟨⟨.six, false, true, false, 60⟩, .quintic⟩

/-- All robot joints at zero. -/
def home : List ℚ := [0, 0, 0, 0, 0, 0]

/-- The inputs of the first message of a session. -/
def first : InputContainer ℚ := receive .init (message 0 0 home true)

/-- The inputs one second later. -/
def next : InputContainer ℚ := receive first (message 1 1 home true)

/-- A trajectory point in joint space, to be passed in `duration` seconds. -/
def point (duration : ℚ) (joints : List ℚ) : PointGoal ℚ where
  duration := .present duration
  robot := .present { joints := .present { position := .present ⟨joints⟩ } }

end Evaluation

end AbbWrapper
