import LayeredPlot.Yaml.Scalar.Plain
import Mathlib.Data.List.Basic

/-!
# Words of written documents

What is written without quotes are words of letters, digits and a few other characters.  A word is
read up to the colon behind a key or to the end of its line.
-/

namespace LayeredPlot
namespace Yaml

/-!
## Characters of words
-/

def isWordChar (c : Char) : Bool :=
  isNameChar c || c = '.'

theorem toNat_lt_of_isWordChar {c : Char} (h : isWordChar c = true) : c.toNat < 128 := by
  have hle : forall high : UInt32, c.val ≤ high -> high.toNat < 128 -> c.toNat < 128 :=
    fun high hc hhigh => Nat.lt_of_le_of_lt (UInt32.le_iff_toNat_le.mp hc) hhigh
  change (c.isUpper || c.isLower || c.isDigit || c = '_' || c = '-' || c = '.') = true at h
  simp only [Bool.or_eq_true, decide_eq_true_eq] at h
  rcases h with ((((h | h) | h) | rfl) | rfl) | rfl
  · exact hle 'Z'.val (of_decide_eq_true h).2 (by decide)
  · exact hle 'z'.val (of_decide_eq_true (Bool.and_eq_true_iff.mp h).2) (by decide)
  · exact hle '9'.val (of_decide_eq_true (Bool.and_eq_true_iff.mp h).2) (by decide)
  all_goals decide

theorem forall_isWordChar {P : Char -> Prop}
    (h : forall n, n < 128 -> isWordChar (Char.ofNat n) = true -> P (Char.ofNat n)) {c : Char}
    (hc : isWordChar c = true) : P c := by
  have hlt := toNat_lt_of_isWordChar hc
  rw [← Char.ofNat_toNat c] at hc ⊢
  exact h c.toNat hlt hc

theorem isBlank_of_isWordChar {c : Char} (h : isWordChar c = true) : isBlank c = false :=
  forall_isWordChar (P := fun c => isBlank c = false) (by decide) h

theorem isBreak_of_isWordChar {c : Char} (h : isWordChar c = true) : isBreak c = false :=
  forall_isWordChar (P := fun c => isBreak c = false) (by decide) h

def marks : List Char :=
  [':', '#', '%', '[', ']', '{', '}', ',', '?', '*', '&', '!', '|', '>', '\'', '"', '\t', '@',
    Char.ofNat 96, byteOrderMark]

theorem not_mem_marks_of_isWordChar {c : Char} (h : isWordChar c = true) : c ∉ marks :=
  forall_isWordChar (P := fun c => c ∉ marks) (by decide) h

theorem utf8Size_of_isWordChar {c : Char} (h : isWordChar c = true) : c.utf8Size = 1 :=
  forall_isWordChar (P := fun c => c.utf8Size = 1) (by decide) h

theorem isAllowed_of_isWordChar {c : Char} (h : isWordChar c = true) : isAllowed c = true :=
  forall_isWordChar (P := fun c => isAllowed c = true) (by decide) h

structure IsWord (w : List Char) : Prop where
  ne_nil : w ≠ []
  chars : forall c, c ∈ w -> isWordChar c = true
  ne_dash : w ≠ ['-']

structure IsKey (k : List Char) : Prop extends IsWord k where
  starts : k.head? ≠ some '-' ∧ k.head? ≠ some '.'
  length_le : k.length ≤ 1024

instance (w : List Char) : Decidable (IsWord w) :=
  decidable_of_iff (w ≠ [] ∧ w.all isWordChar = true ∧ w ≠ ['-'])
    ⟨fun h => ⟨h.1, List.all_eq_true.mp h.2.1, h.2.2⟩,
      fun h => ⟨h.ne_nil, List.all_eq_true.mpr h.chars, h.ne_dash⟩⟩

instance (k : List Char) : Decidable (IsKey k) :=
  decidable_of_iff (IsWord k ∧ (k.head? ≠ some '-' ∧ k.head? ≠ some '.') ∧ k.length ≤ 1024)
    ⟨fun h => ⟨h.1, h.2.1, h.2.2⟩, fun h => ⟨h.toIsWord, h.starts, h.length_le⟩⟩

/-!
## Words in texts
-/

def StopsWord (r : List Char) : Prop :=
  endsWord r = true ∨ exists cs, r = ':' :: cs ∧ endsWord cs = true

theorem endsWord_cons_of_isWordChar {c : Char} (h : isWordChar c = true) (cs : List Char) :
    endsWord (c :: cs) = false := by
  change (isBlank c || isBreak c) = false
  rw [isBlank_of_isWordChar h, isBreak_of_isWordChar h]
  rfl

theorem word_of_stopsWord {r : List Char} (h : StopsWord r) :
    Plain.word false r = some ([], r) := by
  rcases h with h | ⟨cs, rfl, h⟩
  · cases r with
    | nil => rfl
    | cons c cs => rw [Plain.word, if_pos h]
  · have hcolon : endsWord (':' :: cs) = false := rfl
    rw [Plain.word, hcolon, h]
    rfl

theorem word_append {w r : List Char} (hw : forall c, c ∈ w -> isWordChar c = true)
    (hr : StopsWord r) : Plain.word false (w ++ r) = some (w, r) := by
  induction w with
  | nil => exact word_of_stopsWord hr
  | cons c rest ih =>
      have hc := hw c List.mem_cons_self
      have hcolon : c ≠ ':' := by
        intro heq
        exact not_mem_marks_of_isWordChar hc (heq ▸ List.mem_cons_self)
      rw [List.cons_append, Plain.word, endsWord_cons_of_isWordChar hc,
        ih fun d hd => hw d (List.mem_cons_of_mem c hd)]
      simp [hcolon]

/-!
## Ends of lines
-/

def OpensToken (r : List Char) : Prop :=
  forall c, r.head? = some c -> isBlank c = false ∧ isBreak c = false ∧ c ≠ '#' ∧ c ≠ byteOrderMark

theorem IsWord.opensToken {w : List Char} (h : IsWord w) (r : List Char) : OpensToken (w ++ r) := by
  intro c hc
  rcases List.exists_cons_of_ne_nil h.ne_nil with ⟨d, ds, rfl⟩
  cases hc
  have hd := h.chars c List.mem_cons_self
  have hmarks := not_mem_marks_of_isWordChar hd
  exact ⟨isBlank_of_isWordChar hd, isBreak_of_isWordChar hd,
    fun heq => hmarks (heq ▸ by decide), fun heq => hmarks (heq ▸ by decide)⟩

theorem opensToken_mark {c : Char} (h : c ∈ ['-', ':', '[', ']']) (r : List Char) :
    OpensToken (c :: r) := by
  intro d hd
  cases hd
  simp only [List.mem_cons, List.not_mem_nil, or_false] at h
  rcases h with rfl | rfl | rfl | rfl
  all_goals decide

/-- A line that begins with so many spaces and then a text, or the end of the document. -/
structure StartsLine (indent : Nat) (text line : List Char) : Prop where
  eq : line = List.replicate indent ' ' ++ text
  opens : OpensToken text

theorem StartsLine.length_le {indent : Nat} {text line : List Char}
    (h : StartsLine indent text line) : text.length ≤ line.length := by
  rw [h.eq, List.length_append]
  exact Nat.le_add_left _ _

theorem gap_read_of_opensToken (least : Nat) (crossed : Bool) (line column : Nat) {r : List Char}
    (h : OpensToken r) :
    Gap.read least crossed line column r
      = some (⟨[], []⟩, { rest := r, line := line, column := column }) := by
  cases r with
  | nil => rfl
  | cons c cs =>
      rcases h c rfl with ⟨hblank, hbreak, _⟩
      rw [Gap.read, hblank, hbreak]
      rfl

theorem gap_read_replicate (least line column n : Nat) {r : List Char} (h : OpensToken r) :
    Gap.read least true line column (List.replicate n ' ' ++ r)
      = some (⟨[], []⟩, { rest := r, line := line, column := column + n }) := by
  induction n generalizing column with
  | zero => exact gap_read_of_opensToken least true line column h
  | succ n ih =>
      have hblank : isBlank ' ' = true := rfl
      have hbreak : isBreak ' ' = false := rfl
      rw [List.replicate_succ, List.cons_append, Gap.read, hblank, hbreak, ih (column + 1)]
      simp [Nat.add_assoc, Nat.add_comm 1 n]

theorem gap_of_line {least line column indent : Nat} {text rest : List Char}
    (h : StartsLine indent text rest) :
    Cursor.gap least { rest := '\n' :: rest, line := line, column := column }
      = some (⟨[], ['\n']⟩, { rest := text, line := line + 1, column := indent }) := by
  have hbreak : isBreak '\n' = true := rfl
  unfold Cursor.gap
  rw [Gap.read, hbreak, h.eq, if_pos rfl, gap_read_replicate least (line + 1) 0 indent h.opens,
    Nat.zero_add]
  rfl

/-!
## Scalars
-/

theorem isMark_of_column_ne_zero {mark : Char} {c : Cursor} (h : c.column ≠ 0) :
    c.isMark mark = false := by
  unfold Cursor.isMark
  split
  · simp [h]
  · rfl

theorem isMark_of_head?_ne {mark : Char} {c : Cursor} (h : c.rest.head? ≠ some mark) :
    c.isMark mark = false := by
  unfold Cursor.isMark
  split
  next x y z r heq =>
      rw [heq] at h
      have hne : x ≠ mark := fun hx => h (congrArg some hx)
      simp [hne]
  next => rfl

structure InDocument (c : Cursor) : Prop where
  start : c.isMark '-' = false
  finish : c.isMark '.' = false

theorem inDocument_of_column_ne_zero {c : Cursor} (h : c.column ≠ 0) : InDocument c :=
  ⟨isMark_of_column_ne_zero h, isMark_of_column_ne_zero h⟩

theorem IsKey.inDocument {k : List Char} (h : IsKey k) (r : List Char) (line column : Nat) :
    InDocument { rest := k ++ r, line := line, column := column } := by
  rcases List.exists_cons_of_ne_nil h.ne_nil with ⟨d, ds, rfl⟩
  exact ⟨isMark_of_head?_ne h.starts.1, isMark_of_head?_ne h.starts.2⟩

theorem inDocument_colon (r : List Char) (line column : Nat) :
    InDocument { rest := ':' :: r, line := line, column := column } :=
  ⟨isMark_of_head?_ne fun h => absurd (Option.some.inj h) (by decide),
    isMark_of_head?_ne fun h => absurd (Option.some.inj h) (by decide)⟩

section Read

variable {line column least bound : Nat}

theorem isDocumentMark_of_inDocument {c : Cursor} (h : InDocument c) :
    c.isDocumentMark = false := by
  unfold Cursor.isDocumentMark
  rw [h.start, h.finish]
  rfl

theorem plain_more_word {w r : List Char} (hw : IsWord w) (hr : StopsWord r) (bound : Nat) (g : Gap)
    (hmark : InDocument { rest := w ++ r, line := line, column := column }) :
    Plain.more false least (bound + 1) g { rest := w ++ r, line := line, column := column } = (do
      let (next, c) <- Cursor.gap least { rest := r, line := line, column := column + w.length }
      if next.crosses && !false && c.column < least then pure (g.text ++ w, true, c)
      else do
        let (text, crosses, c) <- Plain.more false least bound next c
        pure (g.text ++ w ++ text, crosses, c)) := by
  have hsharp : ¬ (w ++ r).head? = some '#' := fun h => (hw.opensToken r '#' h).2.2.1 rfl
  have hempty : ¬ w.isEmpty = true := by simpa using hw.ne_nil
  have hskip : Cursor.skip w.length { rest := w ++ r, line := line, column := column }
      = { rest := r, line := line, column := column + w.length } := by
    unfold Cursor.skip
    rw [List.drop_left]
  rw [Plain.more, isDocumentMark_of_inDocument hmark]
  simp only [hsharp, word_append hw.chars hr, Bool.false_eq_true, ↓reduceIte, Bool.false_or,
    decide_false, Option.bind_eq_bind, Option.bind_some, hempty, hskip]

theorem plain_more_colon {r : List Char} (hr : endsWord r = true) (bound : Nat) :
    Plain.more false least (bound + 1) ⟨[], []⟩
        { rest := ':' :: r, line := line, column := column }
      = some ([], false, { rest := ':' :: r, line := line, column := column }) := by
  have hword := word_of_stopsWord (Or.inr ⟨r, rfl, hr⟩)
  rw [Plain.more, isDocumentMark_of_inDocument (inDocument_colon r line column)]
  simp only [hword]
  rfl

theorem plain_read_key {k r : List Char} (hk : IsKey k) (hr : endsWord r = true)
    (hbound : 2 ≤ bound) :
    Plain.read false least bound { rest := k ++ ':' :: r, line := line, column := column }
      = some (k, false, { rest := ':' :: r, line := line, column := column + k.length }) := by
  rcases Nat.exists_eq_add_of_le hbound with ⟨n, rfl⟩
  have hopens : OpensToken (':' :: r) := opensToken_mark (by simp) r
  unfold Plain.read
  rw [Nat.add_comm 2 n, plain_more_word hk.toIsWord (Or.inr ⟨r, rfl, hr⟩) (n + 1) _
    (hk.inDocument _ line column), Cursor.gap, gap_read_of_opensToken _ _ _ _ hopens]
  change (Plain.more false least (n + 1) ⟨[], []⟩ _ >>= _) = _
  rw [plain_more_colon hr n]
  simp [Gap.text]

theorem plain_read_word {w text rest : List Char} {indent : Nat} (hw : IsWord w)
    (hline : StartsLine indent text rest) (hindent : indent < least) (hcolumn : column ≠ 0)
    (hbound : 1 ≤ bound) :
    Plain.read false least bound { rest := w ++ '\n' :: rest, line := line, column := column }
      = some (w, true, { rest := text, line := line + 1, column := indent }) := by
  rcases Nat.exists_eq_add_of_le hbound with ⟨n, rfl⟩
  have hstops : StopsWord ('\n' :: rest) := Or.inl rfl
  unfold Plain.read
  rw [Nat.add_comm 1 n, plain_more_word hw hstops n _ (inDocument_of_column_ne_zero hcolumn),
    gap_of_line hline]
  simp [Gap.text, Gap.crosses, hindent]

end Read

end Yaml
end LayeredPlot
