import LayeredPlot.Proofs.Number.Digits
import LayeredPlot.Proofs.Number.Double
import LayeredPlot.Proofs.Yaml.Words
import LayeredPlot.Yaml.Writer

/-!
# Words for numbers and truth values

Numbers and truth values are written as words.  A natural number and a truth value are read back
from theirs, and so is a double whose shortest decimal is read as the same double.
-/

namespace LayeredPlot
namespace Yaml

/-!
## Words
-/

theorem isWordChar_of_isDecimalChar {c : Char} (h : isDecimalChar c = true) :
    isWordChar c = true := by
  rcases Bool.or_eq_true_iff.mp h with h | h
  · simp [isWordChar, isNameChar, Char.isAlphanum, h]
  · exact List.all_eq_true.mp (show ['.', 'e', '-'].all isWordChar = true from rfl) c
      (of_decide_eq_true h)

theorem isWord_of_isNumeral {cs : List Char} (h : IsNumeral cs) : IsWord cs where
  ne_nil := by
    rcases h.starts with ⟨c, r, rfl, _⟩
    exact List.cons_ne_nil c r
  chars := fun c hc => isWordChar_of_isDecimalChar (h.chars c hc)
  ne_dash := by
    rcases h.starts with ⟨c, r, rfl, hc⟩
    intro heq
    cases heq
    exact absurd hc (by decide)

theorem isWord_signed {cs : List Char} (negative : Bool) (h : IsWord cs) :
    IsWord (NumberStyle.signed negative cs) := by
  cases negative with
  | false => exact h
  | true =>
      refine ⟨List.cons_ne_nil _ _, ?_, fun heq => h.ne_nil (List.tail_eq_of_cons_eq heq)⟩
      intro c hc
      rcases List.mem_cons.mp hc with rfl | hc
      · rfl
      · exact h.chars c hc

theorem isWord_chars (p : Double.Parts) : IsWord (numberStyle.chars p) := by
  cases p with
  | undefined => decide
  | infinite negative => exact isWord_signed negative (by decide)
  | zero negative =>
      exact isWord_signed negative (isWord_of_isNumeral (Decimal.isNumeral_write _ _))
  | finite negative mantissa exponent narrow =>
      exact isWord_signed negative (isWord_of_isNumeral (Decimal.isNumeral_write _ _))

theorem isWord_digits (n : Nat) : IsWord (digits n) := by
  have h : IsNumeral (digits n ++ []) :=
    isNumeral_append (digits_ne_nil n) (fun c hc => isDigit_of_mem_digits hc) (by simp)
  rw [List.append_nil] at h
  exact isWord_of_isNumeral h

theorem isWord_text (l : Leaf) : IsWord l.text := by
  cases l with
  | number x => exact isWord_chars (Double.Parts.ofFloat x)
  | natural n => exact isWord_digits n
  | flag b => cases b <;> decide

/-!
## Natural numbers and truth values
-/

theorem unsigned?_digits (n : Nat) : Node.unsigned? (digits n) = some n := by
  rcases List.exists_cons_of_ne_nil (digits_ne_nil n) with ⟨c, r, hcons⟩
  have hread := natural?_digits n
  by_cases hc : c = '0'
  · have hzero : digits n = ['0'] := by
      apply digits_of_head?_eq_zero
      rw [hcons, hc]
      rfl
    rw [hzero] at hread ⊢
    exact hread
  · rw [hcons] at hread ⊢
    rw [Node.unsigned?]
    · exact hread
    all_goals
      intros
      simp_all

theorem natural?_text {n : Nat} (h : n < Nat.pow 2 wordSize) :
    (Node.plain (Leaf.natural n).text).natural? = some n := by
  rcases List.exists_cons_of_ne_nil (digits_ne_nil n) with ⟨c, r, hcons⟩
  have hplus : c ≠ '+' := by
    rintro rfl
    have hdigit := isDigit_of_mem_digits (n := n) (hcons ▸ List.mem_cons_self)
    exact absurd hdigit (by decide)
  have hread := unsigned?_digits n
  rw [hcons] at hread
  have htext : (Leaf.natural n).text = c :: r := hcons
  unfold Node.natural?
  rw [htext]
  simp only [Node.textOf?, Option.bind_eq_bind, Option.bind_some]
  split
  next heq => exact absurd (List.head_eq_of_cons_eq heq) hplus
  next => rw [hread, Option.bind_some, if_pos h]; rfl

theorem flag?_text (b : Bool) : (Node.plain (Leaf.flag b).text).flag? = some b := by
  cases b <;> rfl

/-!
## Doubles
-/

theorem special?_of_ofText?_eq_some {cs : List Char} {x : Float}
    (h : Double.ofText? cs = some x) : Node.special? (String.ofList cs) = none := by
  have hwords : forall w, w ∈ [".inf", ".Inf", ".INF", "+.inf", "+.Inf", "+.INF", "-.inf", "-.Inf",
      "-.INF", ".nan", ".NaN", ".NAN"] -> Double.ofText? w.toList = none := by
    decide +kernel
  have hne : forall w, w ∈ [".inf", ".Inf", ".INF", "+.inf", "+.Inf", "+.INF", "-.inf", "-.Inf",
      "-.INF", ".nan", ".NaN", ".NAN"] -> String.ofList cs ≠ w := by
    rintro w hw rfl
    have hnone := hwords _ hw
    rw [String.toList_ofList, h] at hnone
    cases hnone
  simp only [List.mem_cons, List.not_mem_nil, or_false, forall_eq_or_imp, forall_eq] at hne
  simp [Node.special?, hne]

theorem number?_text {x : Float}
    (h : x.isFinite = true -> Double.ofText? (Leaf.number x).text = some x) :
    (Node.plain (Leaf.number x).text).number? = some x := by
  cases hx : x.isFinite with
  | false =>
      rcases Double.special_of_not_isFinite hx with rfl | rfl | rfl
      all_goals decide +kernel
  | true =>
      unfold Node.number?
      simp only [Node.textOf?, Option.bind_eq_bind, Option.bind_some,
        special?_of_ofText?_eq_some (h hx), h hx, hx, if_true]
      rfl

end Yaml
end LayeredPlot
