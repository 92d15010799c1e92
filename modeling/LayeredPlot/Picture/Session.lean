import LayeredPlot.Picture.Document

/-!
# Sessions

A session builds a plot part by part and draws it on a canvas as often as it is
asked to.  A part that conflicts with an earlier one is kept all the same: the
plot cannot be put together from then on.
-/

namespace LayeredPlot

structure Session (num : Type) where
  frame : Frame num
  parts : List (PlotPart num)
  settings : Settings num
  canvas : Canvas num

inductive SessionStep (num : Type)
  | add (part : PlotPart num)
  | useFrame (frame : Frame num)
  | useSettings (settings : Settings num)
  | useCanvas (canvas : Canvas num)
  | draw
  -- What is looked at is not changed.
  | lookAtPlot
  | lookAtCompiled
  | lookAtScene
  | lookAtDocument

namespace Session

variable {num : Type} [Scalar num]

def start (frame : Frame num) (canvas : Canvas num) : Session num where
  frame := frame
  parts := []
  settings := Settings.standard
  canvas := canvas

def add (s : Session num) (part : PlotPart num) : Session num :=
  { s with parts := s.parts ++ [part] }

def plot (s : Session num) : Except (PlotError num) (Plot num) := do
  let plot <- Plot.ofParts s.parts
  pure { plot with frame := some s.frame }

variable [NumberText num]

def compile (s : Session num) : Except (PlotError num) (CompiledPlot num) :=
  CompiledPlot.ofParts s.frame s.parts s.settings

def draw (s : Session num) : Session num × Except (PlotError num) Unit :=
  match s.compile with
  | .error e => (s, throw e)
  | .ok plot =>
      let (canvas, result) := s.canvas.draw plot.scene
      ({ s with canvas := canvas }, result)

def scene (s : Session num) : Except (PlotError num) (Scene num) :=
  CompiledPlot.scene <$> s.compile

/-- The session after a step, and whether the step succeeded.  A part that conflicts with earlier
ones fails only when the plot is looked at. -/
def after (s : Session num) : SessionStep num -> Session num × Except (PlotError num) Unit
  | .add part => (s.add part, pure ())
  | .useFrame frame => ({ s with frame := frame }, pure ())
  | .useSettings settings => ({ s with settings := settings }, pure ())
  | .useCanvas canvas => ({ s with canvas := canvas }, pure ())
  | .draw => s.draw
  | .lookAtPlot => (s, discard s.plot)
  | .lookAtCompiled => (s, discard s.compile)
  | .lookAtScene => (s, discard s.scene)
  | .lookAtDocument => (s, pure ())

end Session
end LayeredPlot
