import LayeredPlot.Picture.Session
import LayeredPlot.Proofs.Picture.Drawing
import LayeredPlot.Proofs.Plot.Containment

/-!
# What the canvas of a session shows

Drawings do not add up: a canvas shows what a blank one would show after the last
drawing alone.  In a session that is the last drawing for which the plot compiled,
whatever was done before and after it.
-/

namespace LayeredPlot

variable {num : Type} [Scalar num]

/-!
## One drawing on a blank canvas
-/

namespace Canvas

def showing (width height : Nat) : Option (Scene num) -> Canvas num
  | none => blank width height
  | some scene => ((blank width height).draw scene).1

theorem draw_size (c : Canvas num) (scene : Scene num) :
    (c.draw scene).1.width = c.width ∧ (c.draw scene).1.height = c.height := by
  cases hroom : (Panel.ofSize? c.width c.height : Option (Panel num)) with
  | none =>
      rw [draw_of_isTooSmall hroom]
      exact ⟨rfl, rfl⟩
  | some p =>
      rw [draw_of_room hroom]
      exact ⟨rfl, rfl⟩

theorem showing_size (width height : Nat) (shown : Option (Scene num)) :
    (showing width height shown).width = width ∧ (showing width height shown).height = height := by
  cases shown with
  | none => exact ⟨rfl, rfl⟩
  | some scene => exact draw_size (blank width height) scene

theorem showing_of_isTooSmall {width height : Nat}
    (h : (blank width height : Canvas num).IsTooSmall) (shown : Option (Scene num)) :
    showing width height shown = blank width height := by
  cases shown with
  | none => rfl
  | some scene => exact congrArg Prod.fst (draw_of_isTooSmall h)

theorem draw_showing (width height : Nat) (shown : Option (Scene num)) (scene : Scene num) :
    (showing width height shown).draw scene = (blank width height).draw scene := by
  rcases showing_size width height shown with ⟨hwidth, hheight⟩
  cases hroom : (Panel.ofSize? width height : Option (Panel num)) with
  | none => rw [showing_of_isTooSmall hroom]
  | some p =>
      have hsame : Panel.ofSize? (showing width height shown).width
          (showing width height shown).height = some p := by
        rw [hwidth, hheight]
        exact hroom
      rw [draw_of_room hsame, hwidth, hheight]
      exact (draw_of_room (c := blank width height) hroom).symm

end Canvas

variable [NumberText num]

namespace SessionStep

def KeepsCanvas : SessionStep num -> Prop
  | useCanvas _ => False
  | _ => True

end SessionStep

namespace Session

variable {s : Session num} {steps before after : List (SessionStep num)}
  {step : SessionStep num} {compiled : CompiledPlot num} {width height : Nat}

/-!
## Plots of a session
-/

theorem plot_compile_eq (s : Session num) (frame : Frame num) :
    (s.plot >>= fun plot => plot.compile frame s.settings) = s.compile := by
  unfold plot compile CompiledPlot.ofParts
  cases hplot : Plot.ofParts s.parts with
  | error e => rfl
  | ok plot =>
      have hframe := (Plot.assembles_of_ofParts_eq_ok hplot).2.frame
      change Plot.compile { plot with frame := some s.frame } frame s.settings
        = plot.compile s.frame s.settings
      unfold Plot.compile
      rw [hframe]
      rfl

/-!
## Single steps
-/

theorem draw_of_compile_eq_error {e : PlotError num} (h : s.compile = .error e) :
    s.draw = (s, .error e) := by
  unfold draw
  rw [h]
  rfl

theorem draw_of_compile_eq_ok (h : s.compile = .ok compiled) :
    s.draw = ({ s with canvas := (s.canvas.draw compiled.scene).1 },
      (s.canvas.draw compiled.scene).2) := by
  unfold draw
  rw [h]

theorem fails_or_compiles (s : Session num) (step : SessionStep num) :
    (step = .draw -> exists e, s.compile = .error e) ∨
      step = .draw ∧ exists compiled, s.compile = .ok compiled := by
  cases hcompile : s.compile with
  | error e => exact Or.inl fun _ => ⟨e, rfl⟩
  | ok compiled =>
      by_cases hdraw : step = .draw
      · exact Or.inr ⟨hdraw, compiled, rfl⟩
      · exact Or.inl fun h => absurd h hdraw

theorem canvas_after_eq (hstep : step.KeepsCanvas)
    (hdraw : step = .draw -> exists e, s.compile = .error e) :
    (s.after step).1.canvas = s.canvas := by
  cases step with
  | useCanvas canvas => exact hstep.elim
  | draw =>
      rcases hdraw rfl with ⟨e, he⟩
      exact congrArg (fun result => result.1.canvas) (draw_of_compile_eq_error he)
  | add part => rfl
  | useFrame frame => rfl
  | useSettings settings => rfl
  | lookAtPlot => rfl
  | lookAtCompiled => rfl
  | lookAtScene => rfl
  | lookAtDocument => rfl

theorem exists_showing_after (hstep : step.KeepsCanvas) {shown : Option (Scene num)}
    (h : s.canvas = Canvas.showing width height shown) :
    exists shown', (s.after step).1.canvas = Canvas.showing width height shown' := by
  rcases s.fails_or_compiles step with hfails | ⟨rfl, compiled, hcompile⟩
  · exact ⟨shown, (canvas_after_eq hstep hfails).trans h⟩
  · exists some compiled.scene
    change s.draw.1.canvas = _
    rw [draw_of_compile_eq_ok hcompile, h, Canvas.draw_showing]
    rfl

/-!
## Runs
-/

def run (s : Session num) (steps : List (SessionStep num)) : Session num :=
  steps.foldl (fun s step => (s.after step).1) s

def DrawsNothing (s : Session num) (steps : List (SessionStep num)) : Prop :=
  forall before after, steps = before ++ .draw :: after ->
    exists e, (s.run before).compile = .error e

theorem run_append (s : Session num) (before after : List (SessionStep num)) :
    s.run (before ++ after) = (s.run before).run after :=
  List.foldl_append

theorem DrawsNothing.head (h : s.DrawsNothing (step :: steps)) (hdraw : step = .draw) :
    exists e, s.compile = .error e :=
  h [] steps (by rw [hdraw, List.nil_append])

theorem DrawsNothing.tail (h : s.DrawsNothing (step :: steps)) :
    (s.after step).1.DrawsNothing steps := by
  intro before after hsteps
  exact h (step :: before) after (by rw [hsteps, List.cons_append])

theorem drawsNothing_cons (hhead : step = .draw -> exists e, s.compile = .error e)
    (htail : (s.after step).1.DrawsNothing steps) : s.DrawsNothing (step :: steps) := by
  intro before after hsteps
  cases before with
  | nil => exact hhead (List.cons.inj hsteps).1
  | cons first rest =>
      rcases List.cons.inj hsteps with ⟨rfl, hrest⟩
      exact htail rest after hrest

theorem canvas_run_of_drawsNothing (hsteps : forall step, step ∈ steps -> step.KeepsCanvas)
    (h : s.DrawsNothing steps) : (s.run steps).canvas = s.canvas := by
  induction steps generalizing s with
  | nil => rfl
  | cons step rest ih =>
      have hrest := ih (fun step' hstep' => hsteps step' (List.mem_cons_of_mem step hstep')) h.tail
      exact hrest.trans (canvas_after_eq (hsteps step List.mem_cons_self) h.head)

theorem exists_showing_run (hsteps : forall step, step ∈ steps -> step.KeepsCanvas)
    {shown : Option (Scene num)} (h : s.canvas = Canvas.showing width height shown) :
    exists shown', (s.run steps).canvas = Canvas.showing width height shown' := by
  induction steps generalizing s shown with
  | nil => exact ⟨shown, h⟩
  | cons step rest ih =>
      rcases exists_showing_after (hsteps step List.mem_cons_self) h with ⟨shown', hafter⟩
      exact ih (fun step' hstep' => hsteps step' (List.mem_cons_of_mem step hstep')) hafter

theorem drawsNothing_or_exists_last (s : Session num) (steps : List (SessionStep num)) :
    s.DrawsNothing steps ∨
      exists before after compiled, steps = before ++ .draw :: after ∧
        (s.run before).compile = .ok compiled ∧
        (s.run (before ++ [.draw])).DrawsNothing after := by
  induction steps generalizing s with
  | nil => exact Or.inl fun before after h => absurd h (by simp)
  | cons step rest ih =>
      rcases ih (s.after step).1 with hnothing | ⟨before, after, compiled, rfl, hcompile, hlast⟩
      · rcases s.fails_or_compiles step with hhead | ⟨rfl, compiled, hcompile⟩
        · exact Or.inl (drawsNothing_cons hhead hnothing)
        · exact Or.inr ⟨[], rest, compiled, rfl, hcompile, hnothing⟩
      · exact Or.inr ⟨step :: before, after, compiled, rfl, hcompile, hlast⟩

theorem canvas_run_of_last (hs : s.canvas = Canvas.blank width height)
    (hbefore : forall step, step ∈ before -> step.KeepsCanvas)
    (hafter : forall step, step ∈ after -> step.KeepsCanvas)
    (hcompile : (s.run before).compile = .ok compiled)
    (hlast : (s.run (before ++ [.draw])).DrawsNothing after) :
    (s.run (before ++ .draw :: after)).canvas
      = ((Canvas.blank width height).draw compiled.scene).1 := by
  have hblank : s.canvas = Canvas.showing width height none := hs
  rcases exists_showing_run hbefore hblank with ⟨shown, hshown⟩
  calc
    (s.run (before ++ .draw :: after)).canvas
      = ((s.run (before ++ [.draw])).run after).canvas := by
          rw [← run_append, List.append_assoc, List.singleton_append]
    _ = (s.run (before ++ [.draw])).canvas := canvas_run_of_drawsNothing hafter hlast
    _ = (s.run before).draw.1.canvas := by
          rw [run_append]
          rfl
    _ = ((Canvas.blank width height).draw compiled.scene).1 := by
          rw [draw_of_compile_eq_ok hcompile, hshown, Canvas.draw_showing]

/-- After any steps on one canvas, which was blank before, the canvas is what a blank one of its
size is after a drawing of a single scene: that of the last drawing for which the plot compiled.
The plot that the session showed at that moment compiles to this scene over any data.  Without such
a drawing the canvas is blank, and a drawing for which the plot does not compile changes nothing. -/
theorem canvas_run_eq (hs : s.canvas = Canvas.blank width height)
    (hsteps : forall step, step ∈ steps -> step.KeepsCanvas) :
    (s.DrawsNothing steps -> (s.run steps).canvas = Canvas.blank width height) ∧
    (forall before after compiled, steps = before ++ .draw :: after ->
      (s.run before).compile = .ok compiled -> (s.run (before ++ [.draw])).DrawsNothing after ->
      (s.run steps).canvas = ((Canvas.blank width height).draw compiled.scene).1 ∧
        forall frame, ((s.run before).plot >>= fun plot =>
          plot.compile frame (s.run before).settings) = .ok compiled) ∧
    (s.DrawsNothing steps ∨
      exists before after compiled, steps = before ++ .draw :: after ∧
        (s.run before).compile = .ok compiled ∧ (s.run (before ++ [.draw])).DrawsNothing after) ∧
    (forall (t : Session num) e, t.compile = .error e -> t.after .draw = (t, .error e)) := by
  refine ⟨?_, ?_, drawsNothing_or_exists_last s steps, fun t e => draw_of_compile_eq_error⟩
  · intro hnothing
    exact (canvas_run_of_drawsNothing hsteps hnothing).trans hs
  · intro before after compiled hsplit hcompile hlast
    subst hsplit
    constructor
    · apply canvas_run_of_last hs _ _ hcompile hlast
      · intro step hstep
        exact hsteps step (List.mem_append_left _ hstep)
      · intro step hstep
        exact hsteps step (List.mem_append_right _ (List.mem_cons_of_mem _ hstep))
    · intro frame
      rw [plot_compile_eq, hcompile]

/-!
## A drawing that a later conflict does not undo
-/

def pointSession : Session Exact :=
  { start CompiledPlot.pointFrame (Canvas.blank 300 200) with parts := CompiledPlot.pointParts }

def conflictingPart : PlotPart Exact :=
  .mapping (Table.singleton "x" (.column (.name "y")))

theorem canvas_run_eq_pointSession :
    exists compiled, pointSession.compile = .ok compiled ∧
      (pointSession.run [.draw, .add conflictingPart, .draw, .lookAtDocument]).canvas
        = ((Canvas.blank 300 200).draw compiled.scene).1 := by
  have hrun : pointSession.compile.isOk = true ∧
      (pointSession.run [.draw, .add conflictingPart]).compile.isOk = false := by
    decide +kernel
  rcases hrun with ⟨hfirst, hsecond⟩
  cases hcompile : pointSession.compile with
  | error e =>
      rw [hcompile] at hfirst
      cases hfirst
  | ok compiled =>
      cases herror : (pointSession.run [.draw, .add conflictingPart]).compile with
      | ok compiled' =>
          rw [herror] at hsecond
          cases hsecond
      | error e =>
          have hnothing : (pointSession.run ([] ++ [.draw])).DrawsNothing
              [.add conflictingPart, .draw, .lookAtDocument] := by
            refine drawsNothing_cons (fun h => absurd h (by simp)) ?_
            refine drawsNothing_cons (fun _ => ⟨e, herror⟩) ?_
            refine drawsNothing_cons (fun h => absurd h (by simp)) ?_
            intro before after h
            exact absurd h (by simp)
          have hkeeps : forall step, step ∈ [SessionStep.draw, .add conflictingPart, .draw,
              .lookAtDocument] -> step.KeepsCanvas := by
            simp [SessionStep.KeepsCanvas]
          have hblank : pointSession.canvas = Canvas.blank 300 200 := rfl
          have hall := canvas_run_eq hblank hkeeps
          exact ⟨compiled, rfl, (hall.2.1 [] _ compiled rfl hcompile hnothing).1⟩

end Session
end LayeredPlot
