import CatLitterBox.Motor.Clean
import CatLitterBox.Motor.Manage

open catbox.sensor program

namespace catbox.motor

/-- The multi-step scenarios of `motor.c`. -/
inductive Scenario where
  | do_clean
  | do_clean_resume_recovery
  | motor_calibration
  | motor_calibration_recovery
  | do_manage_start
  | do_manage_finish
deriving DecidableEq, Repr

def Scenario.code : Scenario → Code Int
  | .do_clean => motor.do_clean
  | .do_clean_resume_recovery => motor.do_clean_resume_recovery
  | .motor_calibration => motor.motor_calibration
  | .motor_calibration_recovery => motor.motor_calibration_recovery
  | .do_manage_start => motor.do_manage_start
  | .do_manage_finish => motor.do_manage_finish

/-- A step a scenario has taken, with the answer it got. -/
abbrev Event : Type := (a : Act) × a.Answer

/-- A scenario in progress: what it still has to do, the state it shares, and the steps
it has taken, newest first. -/
structure Config where
  code : Code Int
  world : World
  trace : List Event

def Scenario.start (s : Scenario) (w : World) : Config where
  code := s.code
  world := w
  trace := []

/-- The next atomic step of the scenario with the answer it will get. -/
def Config.event (c : Config) : Option Event :=
  c.code.next.map fun a => ⟨a, (a.perform c.world).1⟩

/-- One atomic step of the scenario. -/
def Config.step (c : Config) : Config where
  code := (c.code.advance Act.perform c.world).1
  world := (c.code.advance Act.perform c.world).2
  trace := c.event.toList ++ c.trace

/-- A change of the sensors, the clock or a motor task that no scenario makes. -/
inductive Sense where
  | word (value : PtWord)
  | tof (ring : TofRing)
  | clock (t : Int)
  | driver (mt : Motor) (queue : List Message) (running forward : Bool)

def Sense.apply (w : World) : Sense → World
  | .word value => { w with pt_value := value }
  | .tof ring => { w with tof := ring }
  | .clock t => { w with clock := t }
  | .driver mt queue running forward =>
    { w with
      queue := Function.update w.queue mt queue
      running := Function.update w.running mt running
      forward := Function.update w.forward mt forward }

end catbox.motor
