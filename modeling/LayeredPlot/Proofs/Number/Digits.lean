import LayeredPlot.Number.Reading
import LayeredPlot.Number.Text
import LayeredPlot.Proofs.Outcome

/-!
# Digits

The digits of a natural number are read back as the number.  The text of a decimal starts with a
digit, and the other characters in it are a point, the mark of a power of ten and its sign.
-/

namespace LayeredPlot

/-!
## Natural numbers
-/

theorem isDigit_of_mem_digits {n : Nat} {c : Char} (h : c ∈ digits n) : c.isDigit = true :=
  Nat.isDigit_of_mem_toDigits (by decide) (by decide) h

theorem digits_ne_nil (n : Nat) : digits n ≠ [] :=
  Nat.toDigits_ne_nil

theorem digitValue_lt_of_isDigit {c : Char} (h : c.isDigit = true) : digitValue c < 10 := by
  simp only [Char.isDigit, Bool.and_eq_true, decide_eq_true_eq, UInt32.le_iff_toNat_le] at h
  have hnine : '9'.val.toNat = 57 := rfl
  have hzero : '0'.toNat = 48 := rfl
  have hnat : c.toNat = c.val.toNat := rfl
  unfold digitValue
  omega

theorem natural?_of_isDigit {cs : List Char} (hne : cs ≠ [])
    (h : forall c, c ∈ cs -> c.isDigit = true) : natural? cs = some (Nat.ofDigitChars 10 cs 0) := by
  have hempty : ¬ cs.isEmpty = true := by simpa using hne
  unfold natural? naturalInBase?
  rw [if_neg hempty, mapM_eq_some (g := digitValue)]
  · simp only [Option.map_some, List.foldl_map, Nat.ofDigitChars_eq_foldl, Nat.mul_comm]
    rfl
  · intro c hc
    simp [h c hc, digitValue_lt_of_isDigit (h c hc)]

theorem natural?_digits (n : Nat) : natural? (digits n) = some n := by
  rw [natural?_of_isDigit (digits_ne_nil n) fun c hc => isDigit_of_mem_digits hc]
  exact congrArg some Nat.ofDigitChars_ten_toDigits

theorem digits_of_head?_eq_zero {n : Nat} (h : (digits n).head? = some '0') : digits n = ['0'] := by
  induction n using Nat.base_induction 10 (by decide) with
  | single m hm =>
      unfold digits at *
      rw [Nat.toDigits_of_lt_base hm] at *
      exact congrArg (fun c => [c]) (Option.some.inj h)
  | digit m k hk hm ih =>
      have hdigits : digits (10 * m + k) = digits m ++ Nat.toDigits 10 k :=
        (Nat.toDigits_append_toDigits (by decide) hm hk).symm
      have hhead : (digits m).head? = some '0' := by
        rcases List.exists_cons_of_ne_nil (digits_ne_nil m) with ⟨c, r, hcons⟩
        rw [hdigits, hcons] at h
        rw [hcons]
        exact h
      have hzero := natural?_digits m
      rw [ih hhead] at hzero
      cases hzero
      exact absurd hm (Nat.lt_irrefl 0)

/-!
## Decimals
-/

def isDecimalChar (c : Char) : Bool :=
  c.isDigit || c ∈ ['.', 'e', '-']

theorem isDecimalChar_of_isDigit {c : Char} (h : c.isDigit = true) : isDecimalChar c = true :=
  Bool.or_eq_true_iff.mpr (Or.inl h)

structure IsNumeral (cs : List Char) : Prop where
  starts : exists c r, cs = c :: r ∧ c.isDigit = true
  chars : forall c, c ∈ cs -> isDecimalChar c = true

theorem isNumeral_append {ds r : List Char} (hne : ds ≠ [])
    (hds : forall c, c ∈ ds -> c.isDigit = true) (hr : forall c, c ∈ r -> isDecimalChar c = true) :
    IsNumeral (ds ++ r) where
  starts := by
    rcases List.exists_cons_of_ne_nil hne with ⟨d, ds', rfl⟩
    exact ⟨d, ds' ++ r, rfl, hds d List.mem_cons_self⟩
  chars := by
    intro c hc
    rcases List.mem_append.mp hc with hc | hc
    · exact isDecimalChar_of_isDigit (hds c hc)
    · exact hr c hc

theorem isDecimalChar_of_mem_integerText {z : Int} {c : Char} (h : c ∈ integerText z) :
    isDecimalChar c = true := by
  unfold integerText at h
  split at h
  · rcases List.mem_cons.mp h with rfl | h
    · rfl
    · exact isDecimalChar_of_isDigit (isDigit_of_mem_digits h)
  · exact isDecimalChar_of_isDigit (isDigit_of_mem_digits h)

namespace Decimal

variable (d : Decimal)

theorem isNumeral_positional (pointZero : Bool) : IsNumeral (d.positional pointZero) := by
  have hzeros : forall n c, c ∈ List.replicate n '0' -> isDecimalChar c = true := by
    intro n c hc
    rw [List.eq_of_mem_replicate hc]
    rfl
  unfold positional
  split
  · have hpoint : (if pointZero then ['.', '0'] else []).all isDecimalChar = true := by
      cases pointZero <;> rfl
    rw [List.append_assoc]
    refine isNumeral_append (digits_ne_nil _) (fun c hc => isDigit_of_mem_digits hc) ?_
    intro c hc
    rcases List.mem_append.mp hc with hc | hc
    · exact hzeros _ c hc
    · exact List.all_eq_true.mp hpoint c hc
  · dsimp only
    split
    next hplaces =>
        have hne : (digits d.coefficient).take ((digits d.coefficient).length - d.exponent.natAbs)
            ≠ [] := by
          rw [← List.length_pos_iff, List.length_take]
          omega
        refine isNumeral_append hne (fun c hc => isDigit_of_mem_digits (List.mem_of_mem_take hc)) ?_
        intro c hc
        rcases List.mem_cons.mp hc with rfl | hc
        · rfl
        · exact isDecimalChar_of_isDigit (isDigit_of_mem_digits (List.mem_of_mem_drop hc))
    next =>
        refine isNumeral_append (List.cons_ne_nil '0' []) (List.all_eq_true.mp rfl) ?_
        intro c hc
        rcases List.mem_cons.mp hc with rfl | hc
        · rfl
        · rcases List.mem_append.mp hc with hc | hc
          · exact hzeros _ c hc
          · exact isDecimalChar_of_isDigit (isDigit_of_mem_digits hc)

theorem isNumeral_scientific : IsNumeral d.scientific := by
  have hne : (digits d.coefficient).take 1 ≠ [] := by
    rw [ne_eq, List.take_eq_nil_iff, not_or]
    exact ⟨Nat.one_ne_zero, digits_ne_nil _⟩
  unfold scientific
  rw [List.append_assoc]
  refine isNumeral_append hne (fun c hc => isDigit_of_mem_digits (List.mem_of_mem_take hc)) ?_
  intro c hc
  rcases List.mem_append.mp hc with hc | hc
  · split at hc
    · cases hc
    · rcases List.mem_cons.mp hc with rfl | hc
      · rfl
      · exact isDecimalChar_of_isDigit (isDigit_of_mem_digits (List.mem_of_mem_drop hc))
  · rcases List.mem_cons.mp hc with rfl | hc
    · rfl
    · exact isDecimalChar_of_mem_integerText hc

theorem isNumeral_write (style : NumberStyle) : IsNumeral (d.write style) := by
  unfold write
  split
  · exact d.isNumeral_positional _
  · exact d.isNumeral_scientific

end Decimal
end LayeredPlot
