import LayeredPlot.Proofs.Tick.Enumeration

/-!
# The first best candidate

Loops over candidates are folds over lists.  A search that leaves nothing out
offers all candidates one after another, and ends with the first of those that
have the highest score.
-/

namespace LayeredPlot

open Exact

/-!
## Loops
-/

section Loops

variable {state item : Type}

theorem foldl_eq_self {visit : state -> item -> state} {s : state} {xs : List item}
    (h : forall x, x ∈ xs -> visit s x = s) : xs.foldl visit s = s := by
  induction xs with
  | nil => rfl
  | cons x rest ih =>
      rw [List.foldl_cons, h x List.mem_cons_self]
      exact ih fun y hy => h y (List.mem_cons_of_mem x hy)

/-- A loop may be left before an item if neither this item nor any that comes later changes the
state. -/
theorem foldUntil_eq_foldl {stop : state -> item -> Bool} {visit visit' : state -> item -> state}
    {xs : List item} {R : item -> item -> Prop} (hsorted : xs.Pairwise R)
    (hvisit : forall s x, x ∈ xs -> visit s x = visit' s x)
    (hstop : forall s x, x ∈ xs -> stop s x = true ->
      forall y, y ∈ xs -> x = y ∨ R x y -> visit' s y = s) (s : state) :
    foldUntil stop visit s xs = xs.foldl visit' s := by
  induction xs generalizing s with
  | nil => rfl
  | cons x rest ih =>
      rcases List.pairwise_cons.mp hsorted with ⟨hx, hrest⟩
      rw [foldUntil]
      split
      next h =>
          symm
          apply foldl_eq_self
          intro y hy
          apply hstop s x List.mem_cons_self h y hy
          rcases List.mem_cons.mp hy with rfl | hy
          · exact Or.inl rfl
          · exact Or.inr (hx y hy)
      next =>
          rw [List.foldl_cons, ← hvisit s x List.mem_cons_self]
          apply ih hrest
          · intro s' z hz
            exact hvisit s' z (List.mem_cons_of_mem x hz)
          · intro s' z hz hs' y hy
            exact hstop s' z (List.mem_cons_of_mem x hz) hs' y (List.mem_cons_of_mem x hy)

theorem foldUp_eq_foldl (visit : state -> Int -> state) (n : Nat) (first : Int) (s : state) :
    foldUp visit n first s = (upFrom first n).foldl visit s := by
  induction n generalizing first s with
  | zero => rfl
  | succ n ih => rw [foldUp, ih, upFrom_succ, List.foldl_cons]

theorem foldUpUntil_eq_foldUntil (stop : state -> Int -> Bool) (visit : state -> Int -> state)
    (n : Nat) (first : Int) (s : state) :
    foldUpUntil stop visit n first s = foldUntil stop visit s (upFrom first n) := by
  induction n generalizing first s with
  | zero => rfl
  | succ n ih =>
      rw [foldUpUntil, upFrom_succ, foldUntil]
      split
      · rfl
      · exact ih (first + 1) (visit s first)

end Loops

/-!
## Offering candidates
-/

namespace Incumbent

section Offers

variable {num : Type} [Scalar num]

theorem offerAll_append (inc : Incumbent num) (cs ds : List (Candidate num)) :
    inc.offerAll (cs ++ ds) = (inc.offerAll cs).offerAll ds :=
  List.foldl_append

theorem offerAll_flatMap {item : Type} (inc : Incumbent num) (f : item -> List (Candidate num))
    (xs : List item) :
    inc.offerAll (xs.flatMap f) = xs.foldl (fun inc x => inc.offerAll (f x)) inc :=
  List.foldl_flatMap

theorem offerAll_eq_self {inc : Incumbent num} {cs : List (Candidate num)}
    (h : forall c, c ∈ cs -> ¬ inc.score < c.score) : inc.offerAll cs = inc := by
  apply foldl_eq_self
  intro c hc
  rw [offer, if_neg (h c hc)]

end Offers

theorem offerAll_score (inc : Incumbent Exact) (cs : List (Candidate Exact)) :
    (inc.offerAll cs).score = inc.score
      ∨ exists c, c ∈ cs ∧ inc.score < c.score ∧ (inc.offerAll cs).score = c.score := by
  induction cs generalizing inc with
  | nil => exact Or.inl rfl
  | cons c rest ih =>
      show ((inc.offer c.ticks c.score).offerAll rest).score = inc.score
        ∨ exists d, d ∈ c :: rest ∧ inc.score < d.score
          ∧ ((inc.offer c.ticks c.score).offerAll rest).score = d.score
      by_cases hc : inc.score < c.score
      · have hoffer : inc.offer c.ticks c.score = { best := some c.ticks, score := c.score } :=
          if_pos hc
        rw [hoffer]
        rcases ih { best := some c.ticks, score := c.score } with h | ⟨d, hd, hlt, h⟩
        · exact Or.inr ⟨c, List.mem_cons_self, hc, h⟩
        · exact Or.inr ⟨d, List.mem_cons_of_mem c hd, Exact.lt_trans hc hlt, h⟩
      · have hoffer : inc.offer c.ticks c.score = inc := if_neg hc
        rw [hoffer]
        rcases ih inc with h | ⟨d, hd, hlt, h⟩
        · exact Or.inl h
        · exact Or.inr ⟨d, List.mem_cons_of_mem c hd, hlt, h⟩

theorem forall_not_lt_or_exists_isFirstBest (cs : List (Candidate Exact)) :
    (forall c, c ∈ cs -> ¬ (start : Incumbent Exact).score < c.score)
      ∨ exists c : Candidate Exact, c.IsFirstBest cs := by
  induction cs using List.reverseRecOn with
  | nil => exact Or.inl fun c hc => absurd hc List.not_mem_nil
  | append_singleton cs d ih =>
      rcases ih with hnone | ⟨b, before, after, rfl, hb, hbefore, hafter⟩
      · by_cases hd : (start : Incumbent Exact).score < d.score
        · refine Or.inr ⟨d, cs, [], rfl, hd, ?_, fun e he => absurd he List.not_mem_nil⟩
          intro c hc hdc
          exact hnone c hc (Exact.lt_of_lt_of_le hd hdc)
        · refine Or.inl ?_
          intro c hc
          rcases List.mem_append.mp hc with hc | hc
          · exact hnone c hc
          · rw [List.mem_singleton.mp hc]
            exact hd
      · by_cases hd : b.score < d.score
        · refine Or.inr ⟨d, before ++ b :: after, [], rfl, Exact.lt_trans hb hd, ?_,
            fun e he => absurd he List.not_mem_nil⟩
          intro c hc hdc
          have hbc := Exact.lt_of_lt_of_le hd hdc
          rcases List.mem_append.mp hc with hc | hc
          · exact hbefore c hc (Exact.le_of_lt hbc)
          · rcases List.mem_cons.mp hc with rfl | hc
            · exact Exact.not_self_lt c.score hbc
            · exact hafter c hc hbc
        · refine Or.inr ⟨b, before, after ++ [d], ?_, hb, hbefore, ?_⟩
          · rw [List.append_assoc, List.cons_append]
          · intro c hc
            rcases List.mem_append.mp hc with hc | hc
            · exact hafter c hc
            · rw [List.mem_singleton.mp hc]
              exact hd

theorem offerAll_of_isFirstBest {c : Candidate Exact} {cs : List (Candidate Exact)}
    (h : c.IsFirstBest cs) : start.offerAll cs = { best := some c.ticks, score := c.score } := by
  rcases h with ⟨before, after, rfl, hc, hbefore, hafter⟩
  have hscore : (start.offerAll before).score < c.score := by
    rcases offerAll_score start before with heq | ⟨d, hd, hlt, heq⟩
    · rw [heq]
      exact hc
    · rw [heq]
      have hdefined := (isDefined_of_lt hc).right
      exact (Exact.le_or_lt hdefined (isDefined_of_lt hlt).right).resolve_left (hbefore d hd)
  have hoffer : (start.offerAll before).offer c.ticks c.score
      = { best := some c.ticks, score := c.score } := if_pos hscore
  rw [offerAll_append]
  show ((start.offerAll before).offer c.ticks c.score).offerAll after = _
  rw [hoffer]
  exact offerAll_eq_self hafter

end Incumbent

/-!
## The loops as offers
-/

namespace TickGoal

variable {num : Type} [Scalar num]

theorem visitExponent_eq_offerAll (goal : TickGoal num) (family : StepFamily num) (count : Nat)
    (inc : Incumbent num) (exponent : Int) :
    goal.visitExponent family count inc exponent
      = inc.offerAll (goal.candidatesAt family count exponent) := by
  unfold visitExponent candidatesAt Incumbent.offerAll
  rw [foldUp_eq_foldl, List.foldl_filterMap]
  congr 1
  funext inc start
  by_cases h : goal.Admits (family.ticksFrom count (family.step exponent) start)
  · simp only [visitStart, if_pos h]
  · simp only [visitStart, if_neg h]

theorem exhaustCount_eq_offerAll (goal : TickGoal num) (origin : StepFamily num -> Nat -> Int)
    (family : StepFamily num) (inc : Incumbent num) (count : Nat) :
    goal.exhaustCount origin family inc count
      = inc.offerAll (goal.candidatesOf origin family count) := by
  unfold exhaustCount candidatesOf
  rw [foldUp_eq_foldl, Incumbent.offerAll_flatMap]
  congr 1
  funext inc exponent
  exact goal.visitExponent_eq_offerAll family count inc exponent

theorem exhaustFrom_eq_offerAll (goal : TickGoal num) (origin : StepFamily num -> Nat -> Int) :
    goal.exhaustFrom origin = Incumbent.start.offerAll (goal.candidatesFrom origin) := by
  unfold exhaustFrom candidatesFrom
  rw [Incumbent.offerAll_flatMap]
  congr 1
  funext inc family
  rw [Incumbent.offerAll_flatMap]
  congr 1
  funext inc count
  exact goal.exhaustCount_eq_offerAll origin family inc count

theorem mem_candidatesOf {goal : TickGoal num} {origin : StepFamily num -> Nat -> Int}
    {family : StepFamily num} {count : Nat} {c : Candidate num} :
    c ∈ goal.candidatesOf origin family count ↔
      exists z, origin family count ≤ z ∧ z < exponentBound
        ∧ c ∈ goal.candidatesAt family count z := by
  unfold candidatesOf
  rw [List.mem_flatMap]
  constructor
  · intro h
    rcases h with ⟨z, hz, hc⟩
    rcases mem_upFrom.mp hz with ⟨hfirst, hlast⟩
    exact ⟨z, hfirst, by omega, hc⟩
  · intro h
    rcases h with ⟨z, hfirst, hlast, hc⟩
    exact ⟨z, mem_upFrom.mpr ⟨hfirst, by omega⟩, hc⟩

end TickGoal

end LayeredPlot
