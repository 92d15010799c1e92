import LayeredPlot.Proofs.Yaml.Words
import LayeredPlot.Yaml.Layout

/-!
# Reading written lines into tokens

The lines of a document are read one after another: a key, the word behind it, an item of a list.
Each of them leads from one state of the layout to another, from which the same tokens are read.
-/

namespace LayeredPlot
namespace Yaml
namespace Layout

/-!
## From state to state
-/

/-- The same tokens are read from both states, the second of which has gone over at least as many
characters as there are tokens in between. -/
def Leads (s t : Layout) : Prop :=
  exists n, n + t.cursor.rest.length ≤ s.cursor.rest.length ∧
    forall bound, readTokens (n + bound) s = readTokens bound t

variable {s t u : Layout}

theorem Leads.refl (s : Layout) : Leads s s :=
  ⟨0, Nat.le_of_eq (Nat.zero_add _), fun bound => by rw [Nat.zero_add]⟩

theorem Leads.trans (hst : Leads s t) (htu : Leads t u) : Leads s u := by
  rcases hst with ⟨n, hn, hread⟩
  rcases htu with ⟨m, hm, hread'⟩
  refine ⟨n + m, by omega, ?_⟩
  intro bound
  rw [Nat.add_assoc, hread, hread']

theorem leads_of_toToken (hs : s.toToken = some t) (ht : t.toToken = some t)
    (hlength : t.cursor.rest.length ≤ s.cursor.rest.length) : Leads s t := by
  refine ⟨0, by omega, ?_⟩
  intro bound
  rw [Nat.zero_add]
  cases bound with
  | zero => rfl
  | succ bound => rw [readTokens, readTokens, hs, ht]

theorem leads_of_readToken {c : Char} {cs : List Char} (hs : s.toToken = some t)
    (hrest : t.cursor.rest = c :: cs) (hread : t.readToken c cs = some u)
    (hlength : u.cursor.rest.length < s.cursor.rest.length) : Leads s u := by
  refine ⟨1, by omega, ?_⟩
  intro bound
  rw [Nat.add_comm, readTokens, hs]
  simp only [Option.bind_eq_bind, Option.bind_some, hrest, hread]

/-!
## Between tokens
-/

theorem skipBlanks_of_opensToken (brackets keyAllowed : Bool) (line column : Nat) {r : List Char}
    (h : OpensToken r) :
    skipBlanks brackets keyAllowed false line column r
      = (keyAllowed, { rest := r, line := line, column := column }) := by
  cases r with
  | nil => rfl
  | cons c cs =>
      rcases h c rfl with ⟨hblank, hbreak, hsharp, hmark⟩
      have hspace : c ≠ ' ' ∧ c ≠ '\t' := by simpa [isBlank] using hblank
      rw [skipBlanks, hbreak]
      simp [hspace, hsharp, hmark]

theorem skipBlanks_replicate (brackets keyAllowed : Bool) (line column n : Nat) {r : List Char}
    (h : OpensToken r) :
    skipBlanks brackets keyAllowed false line column (List.replicate n ' ' ++ r)
      = (keyAllowed, { rest := r, line := line, column := column + n }) := by
  induction n generalizing column with
  | zero => exact skipBlanks_of_opensToken brackets keyAllowed line column h
  | succ n ih =>
      have hbreak : isBreak ' ' = false := rfl
      rw [List.replicate_succ, List.cons_append, skipBlanks, hbreak, ← Nat.add_assoc,
        Nat.add_right_comm, ← ih (column + 1)]
      rfl

theorem skipBlanks_line (keyAllowed : Bool) (line column : Nat) {indent : Nat}
    {text rest : List Char} (h : StartsLine indent text rest) :
    skipBlanks false keyAllowed false line column ('\n' :: rest)
      = (true, { rest := text, line := line + 1, column := indent }) := by
  have hbreak : isBreak '\n' = true := rfl
  rw [skipBlanks, if_pos hbreak, h.eq, skipBlanks_replicate _ _ _ _ _ h.opens, Nat.zero_add,
    Bool.not_false, Bool.or_true]

theorem toToken_of_skipBlanks {keyAllowed : Bool} {c : Cursor}
    (h : skipBlanks s.inBrackets s.keyAllowed false s.cursor.line s.cursor.column s.cursor.rest
      = (keyAllowed, c)) :
    s.toToken = closeToCursor <$> giveUpKeys { s with cursor := c, keyAllowed := keyAllowed } := by
  unfold toToken
  rw [h]

def Within (column : Nat) (indents : List Nat) : Prop :=
  forall i, indents.head? = some i -> i ≤ column

theorem within_cons {column i : Nat} (h : i ≤ column) (is : List Nat) :
    Within column (i :: is) := by
  intro j hj
  cases hj
  exact h

theorem closeBlocks_of_within {column : Nat} {indents : List Nat} (h : Within column indents)
    (tokens : List Token) : closeBlocks column indents tokens = (indents, tokens) := by
  cases indents with
  | nil => rfl
  | cons i is => rw [closeBlocks, if_neg (Nat.not_lt.mpr (h i rfl))]

theorem within_closeBlocks (column : Nat) (indents : List Nat) (tokens : List Token) :
    Within column (closeBlocks column indents tokens).1 := by
  induction indents generalizing tokens with
  | nil =>
      intro i hi
      cases hi
  | cons i is ih =>
      rw [closeBlocks]
      split
      · exact ih _
      next hlt =>
          intro j hj
          cases hj
          exact Nat.not_lt.mp hlt

def outsideBrackets (size : Nat) (keyAllowed : Bool) (cursor : Cursor) (indents : List Nat)
    (tokens : List Token) : Layout where
  size := size
  cursor := cursor
  indents := indents
  candidate := none
  outer := []
  keyAllowed := keyAllowed
  names := []
  tokens := tokens

/-- The state at the first word of a line, with all lists and mappings ended that start further to
the right. -/
def atLine (size : Nat) (cursor : Cursor) (indents : List Nat) (tokens : List Token) : Layout :=
  outsideBrackets size true cursor (closeBlocks cursor.column indents tokens).1
    (closeBlocks cursor.column indents tokens).2

abbrev behindWord (size : Nat) (cursor : Cursor) (indents : List Nat) (tokens : List Token) :
    Layout :=
  outsideBrackets size false cursor indents tokens

theorem atLine_of_within {size : Nat} {cursor : Cursor} {indents : List Nat} {tokens : List Token}
    (h : Within cursor.column indents) :
    atLine size cursor indents tokens = outsideBrackets size true cursor indents tokens := by
  unfold atLine
  rw [closeBlocks_of_within h]

variable {size line column indent : Nat} {indents : List Nat} {tokens : List Token}

theorem toToken_outsideBrackets {keyAllowed keyAllowed' : Bool} {c c' : Cursor}
    (h : skipBlanks false keyAllowed false c.line c.column c.rest = (keyAllowed', c')) :
    (outsideBrackets size keyAllowed c indents tokens).toToken
      = some (outsideBrackets size keyAllowed' c' (closeBlocks c'.column indents tokens).1
          (closeBlocks c'.column indents tokens).2) :=
  (toToken_of_skipBlanks (s := outsideBrackets size keyAllowed c indents tokens) h).trans rfl

theorem toToken_atLine {c : Cursor} (h : OpensToken c.rest) :
    (atLine size c indents tokens).toToken = some (atLine size c indents tokens) := by
  unfold atLine
  rw [toToken_outsideBrackets (skipBlanks_of_opensToken false true c.line c.column h),
    closeBlocks_of_within (within_closeBlocks _ _ _)]

/-!
## Keys
-/

theorem readToken_of_isWordChar {c : Char} {cs : List Char} (hc : isWordChar c = true)
    (hmark : InDocument s.cursor) (hdash : c = '-' -> endsWord cs = false) :
    s.readToken c cs = s.plain := by
  have hmarks := not_mem_marks_of_isWordChar hc
  simp only [marks, List.mem_cons, List.not_mem_nil, or_false, not_or] at hmarks
  have hitem : ¬ (c = '-' && endsWord cs) = true := by
    rw [Bool.and_eq_true, decide_eq_true_eq]
    intro h
    rw [hdash h.1] at h
    exact Bool.false_ne_true h.2
  simp only [readToken, isReserved, hmark.start, hmark.finish, hitem, hmarks, List.mem_cons,
    List.not_mem_nil, Bool.and_false, Bool.false_and, Bool.false_eq_true, Bool.or_self,
    decide_false, or_self, ↓reduceIte]

/-- The mappings around the keys at a column, with a mapping that starts there, and the tokens up to
the first key. -/
def openMap (column : Nat) (indents : List Nat) (tokens : List Token) : List Nat × List Token :=
  if indents.head?.all (· < column) then (column :: indents, .blockMapStart :: tokens)
  else (indents, tokens)

def keyPlace (text : List Char) (line column : Nat) (indents : List Nat) (tokens : List Token) :
    KeyPlace where
  text := text
  line := line
  column := column
  required := indents.head? = some column
  before := tokens

def behindKey (size line column : Nat) (k r : List Char) (indents : List Nat)
    (tokens : List Token) : Layout :=
  { outsideBrackets size false { rest := ':' :: r, line := line, column := column + k.length }
      indents (.scalar .plain k :: tokens) with
    candidate := some (keyPlace (k ++ ':' :: r) line column indents tokens) }

variable {k r : List Char}

theorem plain_key (hk : IsKey k) (hr : endsWord r = true) (hsize : 2 ≤ size) :
    (outsideBrackets size true { rest := k ++ ':' :: r, line := line, column := column } indents
      tokens).plain = some (behindKey size line column k r indents tokens) := by
  unfold plain
  change (Plain.read false _ size { rest := k ++ ':' :: r, line := line, column := column } >>= _)
    = _
  rw [plain_read_key hk hr hsize]
  rfl

theorem octets_word {w : List Char} (hw : forall c, c ∈ w -> isWordChar c = true) :
    KeyPlace.octets w = w.length := by
  have hfold : forall n, w.foldl (fun n c => n + c.utf8Size) n = n + w.length := by
    induction w with
    | nil => intro n; rfl
    | cons c rest ih =>
        intro n
        rw [List.foldl_cons, ih (fun d hd => hw d (List.mem_cons_of_mem c hd)),
          utf8Size_of_isWordChar (hw c List.mem_cons_self), List.length_cons]
        omega
  exact (hfold 0).trans (Nat.zero_add _)

theorem reaches_colon (hk : IsKey k) (r : List Char) (line column : Nat) (indents : List Nat)
    (tokens : List Token) :
    (keyPlace (k ++ ':' :: r) line column indents tokens).reaches
      { rest := ':' :: r, line := line, column := column + k.length } = true := by
  have htake : (k ++ ':' :: r).take (column + k.length - column) = k := by
    rw [Nat.add_sub_cancel_left, List.take_left]
  have hlength := hk.length_le
  unfold KeyPlace.reaches keyPlace
  simp only [htake, octets_word hk.chars, KeyPlace.lengthBound, decide_true, Bool.true_and,
    Bool.and_eq_true]
  exact ⟨decide_eq_true (Nat.add_le_add_left hlength column), decide_eq_true hlength⟩

theorem giveUpKeys_behindKey (hk : IsKey k) :
    (behindKey size line column k r indents tokens).giveUpKeys
      = some (behindKey size line column k r indents tokens) := by
  have hreaches := reaches_colon hk r line column indents tokens
  unfold giveUpKeys behindKey outsideBrackets
  simp only [hreaches, List.all_cons, List.all_nil, Option.all_some, Option.filter_some,
    Bool.or_true, Bool.and_true, ↓reduceIte]

theorem toToken_behindKey (hk : IsKey k) (hwithin : Within column indents) :
    (behindKey size line column k r indents tokens).toToken
      = some (behindKey size line column k r indents tokens) := by
  have hopens : OpensToken (':' :: r) := opensToken_mark (by simp) r
  have hwithin' : Within (column + k.length) indents := fun i hi =>
    Nat.le_add_right_of_le (hwithin i hi)
  have hskip := toToken_of_skipBlanks (s := behindKey size line column k r indents tokens)
    (skipBlanks_of_opensToken false false line (column + k.length) hopens)
  have hclose : closeToCursor (behindKey size line column k r indents tokens)
      = behindKey size line column k r indents tokens := by
    change { behindKey size line column k r indents tokens with
      indents := (closeBlocks (column + k.length) indents (.scalar .plain k :: tokens)).1,
      tokens := (closeBlocks (column + k.length) indents (.scalar .plain k :: tokens)).2 } = _
    rw [closeBlocks_of_within hwithin']
    rfl
  refine hskip.trans ?_
  change closeToCursor <$> giveUpKeys (behindKey size line column k r indents tokens) = _
  rw [giveUpKeys_behindKey hk, Option.map_eq_map, Option.map_some, hclose]

theorem readToken_colon (hmark : InDocument s.cursor) (hr : endsWord r = true) :
    s.readToken ':' r = s.value := by
  simp [readToken, hmark.start, hmark.finish, hr]

theorem value_behindKey :
    (behindKey size line column k r indents tokens).value
      = some (behindWord size { rest := r, line := line, column := column + k.length + 1 }
        (openMap column indents tokens).1
        (.value :: .scalar .plain k :: .key :: (openMap column indents tokens).2)) := by
  let p := keyPlace (k ++ ':' :: r) line column indents tokens
  let s := behindKey size line column k r indents tokens
  have hstarts : s.startsBlock p.column = indents.head?.all (· < column) := by
    cases indents <;> rfl
  have hlater : s.tokens.take (s.tokens.length - p.before.length) = [.scalar .plain k] := by
    change (Token.scalar .plain k :: tokens).take (tokens.length + 1 - tokens.length) = _
    rw [Nat.add_sub_cancel_left]
    rfl
  change some (valueOfKey p s) = _
  unfold valueOfKey openMap
  rw [hlater, hstarts]
  cases indents.head?.all (· < column) <;> rfl

theorem key_leads (hk : IsKey k) (hr : endsWord r = true) (hsize : 2 ≤ size)
    (hwithin : Within column indents) :
    Leads (atLine size { rest := k ++ ':' :: r, line := line, column := column } indents tokens)
      (behindWord size { rest := r, line := line, column := column + k.length + 1 }
        (openMap column indents tokens).1
        (.value :: .scalar .plain k :: .key :: (openMap column indents tokens).2)) := by
  have hopens : OpensToken (k ++ ':' :: r) := hk.toIsWord.opensToken _
  rcases List.exists_cons_of_ne_nil hk.ne_nil with ⟨c, cs, rfl⟩
  have hdash : c = '-' -> endsWord (cs ++ ':' :: r) = false := fun h =>
    absurd (congrArg some h) hk.starts.1
  have hread : (atLine size { rest := c :: cs ++ ':' :: r, line := line, column := column } indents
      tokens).readToken c (cs ++ ':' :: r) = some (behindKey size line column (c :: cs) r indents
        tokens) := by
    rw [readToken_of_isWordChar (hk.chars c List.mem_cons_self) (hk.inDocument _ line column) hdash,
      atLine_of_within hwithin]
    exact plain_key hk hr hsize
  have hfirst := leads_of_readToken (toToken_atLine hopens) rfl hread (by
    change (':' :: r).length < (c :: cs ++ ':' :: r).length
    simp only [List.length_append, List.length_cons]
    omega)
  refine hfirst.trans (leads_of_readToken (toToken_behindKey hk hwithin) rfl
    ((readToken_colon (inDocument_colon _ _ _) hr).trans value_behindKey) ?_)
  exact Nat.lt_succ_self _

/-!
## The rest of a line
-/

variable {text rest : List Char}

theorem newline_leads (hline : StartsLine indent text rest) :
    Leads (behindWord size { rest := '\n' :: rest, line := line, column := column } indents tokens)
      (atLine size { rest := text, line := line + 1, column := indent } indents tokens) := by
  refine leads_of_toToken (toToken_outsideBrackets (skipBlanks_line false line column hline))
    (toToken_atLine hline.opens) ?_
  exact Nat.le_succ_of_le hline.length_le

variable {w : List Char} {i : Nat} {is : List Nat}

theorem toToken_of_earlier_line {candidate : Option KeyPlace} {c : Cursor} (h : OpensToken c.rest)
    (hcandidate : forall p, candidate = some p -> p.required = false ∧ p.line ≠ c.line) :
    { outsideBrackets size true c indents tokens with candidate := candidate }.toToken
      = some (atLine size c indents tokens) := by
  let s : Layout := { outsideBrackets size true c indents tokens with candidate := candidate }
  have hgiven : giveUpKeys s = some (outsideBrackets size true c indents tokens) := by
    cases candidate with
    | none => rfl
    | some p =>
        rcases hcandidate p rfl with ⟨hrequired, hline⟩
        have hreaches : p.reaches c = false := by simp [KeyPlace.reaches, hline]
        simp [s, giveUpKeys, outsideBrackets, hrequired, hreaches]
  refine (toToken_of_skipBlanks (s := s)
    (skipBlanks_of_opensToken false true c.line c.column h)).trans ?_
  change closeToCursor <$> giveUpKeys s = _
  rw [hgiven]
  rfl

theorem plain_word {keyAllowed : Bool} (hw : IsWord w) (hline : StartsLine indent text rest)
    (hindent : indent ≤ i) (hcolumn : i < column) (hsize : 1 ≤ size) :
    (outsideBrackets size keyAllowed { rest := w ++ '\n' :: rest, line := line, column := column }
        (i :: is) tokens).plain
      = some { outsideBrackets size true { rest := text, line := line + 1, column := indent }
          (i :: is) (.scalar .plain w :: tokens) with
        candidate := if keyAllowed
          then some (keyPlace (w ++ '\n' :: rest) line column (i :: is) tokens) else none } := by
  have hread : Plain.read false (i + 1) size
      { rest := w ++ '\n' :: rest, line := line, column := column }
        = some (w, true, { rest := text, line := line + 1, column := indent }) :=
    plain_read_word hw hline (Nat.lt_succ_of_le hindent) (Nat.ne_zero_of_lt hcolumn) hsize
  unfold plain
  cases keyAllowed
  all_goals
    change (Plain.read false (i + 1) size
      { rest := w ++ '\n' :: rest, line := line, column := column } >>= _) = _
    rw [hread]
    rfl

theorem toToken_space {keyAllowed : Bool} (hopens : OpensToken r) (hcolumn : i ≤ column) :
    (outsideBrackets size keyAllowed { rest := ' ' :: r, line := line, column := column } (i :: is)
        tokens).toToken
      = some (outsideBrackets size keyAllowed { rest := r, line := line, column := column + 1 }
        (i :: is) tokens) := by
  rw [toToken_outsideBrackets (skipBlanks_replicate false keyAllowed line column 1 hopens),
    closeBlocks_of_within (within_cons (Nat.le_succ_of_le hcolumn) is)]

theorem word_leads {keyAllowed : Bool} (hw : IsWord w) (hline : StartsLine indent text rest)
    (hindent : indent ≤ i) (hcolumn : i ≤ column) (hsize : 1 ≤ size) :
    Leads
      (outsideBrackets size keyAllowed
        { rest := ' ' :: (w ++ '\n' :: rest), line := line, column := column } (i :: is) tokens)
      (atLine size { rest := text, line := line + 1, column := indent } (i :: is)
        (.scalar .plain w :: tokens)) := by
  -- behind a dash, the word could have been a key, which only the next line rules out
  let place : Option KeyPlace := if keyAllowed
    then some (keyPlace (w ++ '\n' :: rest) line (column + 1) (i :: is) tokens) else none
  let behind : Layout :=
    { outsideBrackets size true { rest := text, line := line + 1, column := indent } (i :: is)
        (.scalar .plain w :: tokens) with candidate := place }
  have hne : (i :: is).head? ≠ some (column + 1) := by
    intro heq
    cases heq
    exact Nat.lt_irrefl _ (Nat.lt_of_succ_le hcolumn)
  have hplace : forall p, place = some p -> p.required = false ∧ p.line ≠ line + 1 := by
    intro p hp
    unfold place at hp
    split at hp
    · cases hp
      exact ⟨decide_eq_false hne, Nat.ne_of_lt (Nat.lt_succ_self line)⟩
    · cases hp
  have hnext : behind.toToken = some (atLine size
      { rest := text, line := line + 1, column := indent } (i :: is) (.scalar .plain w :: tokens)) :=
    toToken_of_earlier_line hline.opens hplace
  refine Leads.trans ?_ (leads_of_toToken hnext (toToken_atLine hline.opens) (Nat.le_refl _))
  rcases List.exists_cons_of_ne_nil hw.ne_nil with ⟨c, cs, rfl⟩
  have hdash : c = '-' -> endsWord (cs ++ '\n' :: rest) = false := by
    rintro rfl
    cases cs with
    | nil => exact absurd rfl hw.ne_dash
    | cons d ds =>
        exact endsWord_cons_of_isWordChar (hw.chars d (List.mem_cons_of_mem _ List.mem_cons_self)) _
  refine leads_of_readToken (toToken_space (hw.opensToken _) hcolumn) rfl
    ((readToken_of_isWordChar (hw.chars c List.mem_cons_self)
      (inDocument_of_column_ne_zero (Nat.succ_ne_zero column)) hdash).trans
      (plain_word hw hline hindent (Nat.lt_succ_of_le hcolumn) hsize)) ?_
  have hlength := hline.length_le
  change text.length < (' ' :: (c :: cs ++ '\n' :: rest)).length
  simp only [List.length_cons, List.length_append]
  omega

theorem readToken_dash {r : List Char} (hrest : s.cursor.rest = '-' :: ' ' :: r) :
    s.readToken '-' (' ' :: r) = s.item := by
  have hmark : forall mark, s.cursor.isMark mark = false := by
    intro mark
    unfold Cursor.isMark
    rw [hrest]
    cases r with
    | nil => rfl
    | cons c cs =>
        by_cases h : mark = '-'
        · subst h
          simp
        · simp [Ne.symm h]
  have hends : endsWord (' ' :: r) = true := rfl
  simp [readToken, hmark, hends]

theorem item_leads (hw : IsWord w) (hline : StartsLine indent text rest) (hindent : indent ≤ i)
    (hsize : 1 ≤ size) :
    Leads
      (atLine size { rest := '-' :: ' ' :: (w ++ '\n' :: rest), line := line, column := i }
        (i :: is) tokens)
      (atLine size { rest := text, line := line + 1, column := indent } (i :: is)
        (.scalar .plain w :: .item :: tokens)) := by
  have hopens : OpensToken ('-' :: ' ' :: (w ++ '\n' :: rest)) := opensToken_mark (by simp) _
  have hwithin : Within i (i :: is) := within_cons (Nat.le_refl i) is
  let s := outsideBrackets size true
    { rest := '-' :: ' ' :: (w ++ '\n' :: rest), line := line, column := i } (i :: is) tokens
  have hstarts : s.startsBlock i = false := decide_eq_false (Nat.not_succ_le_self i)
  have hopen : s.openBlock .blockListStart = s := if_neg (Bool.eq_false_iff.mp hstarts)
  have hitem : s.item = some (outsideBrackets size true
      { rest := ' ' :: (w ++ '\n' :: rest), line := line, column := i + 1 } (i :: is)
      (.item :: tokens)) := by
    change Option.map _ (dropKey (s.openBlock .blockListStart)) = _
    rw [hopen]
    rfl
  have hs : atLine size _ (i :: is) tokens = s := atLine_of_within hwithin
  have htoken : s.toToken = some s := hs ▸ toToken_atLine hopens
  rw [hs]
  exact Leads.trans
    (leads_of_readToken htoken rfl ((readToken_dash rfl).trans hitem) (Nat.lt_succ_self _))
    (word_leads hw hline hindent (Nat.le_succ i) hsize)

/-!
## Brackets
-/

theorem readToken_listStart {cs : List Char} (hmark : InDocument s.cursor) :
    s.readToken '[' cs = s.openBracket .listStart := by
  simp [readToken, hmark.start, hmark.finish]

theorem readToken_listEnd {cs : List Char} (hmark : InDocument s.cursor) :
    s.readToken ']' cs = s.closeBracket .listEnd := by
  simp [readToken, hmark.start, hmark.finish]

theorem brackets_leads (hline : StartsLine indent text rest) (hcolumn : i ≤ column) :
    Leads
      (behindWord size
        { rest := ' ' :: '[' :: ']' :: '\n' :: rest, line := line, column := column } (i :: is)
        tokens)
      (atLine size { rest := text, line := line + 1, column := indent } (i :: is)
        (.listEnd :: .listStart :: tokens)) := by
  let inside : Layout :=
    { outsideBrackets size true { rest := ']' :: '\n' :: rest, line := line, column := column + 2 }
        (i :: is) (.listStart :: tokens) with outer := [none] }
  let behind : Layout := behindWord size
    { rest := '\n' :: rest, line := line, column := column + 3 } (i :: is)
    (.listEnd :: .listStart :: tokens)
  have hinside : inside.toToken = some inside :=
    (toToken_of_skipBlanks (s := inside)
      (skipBlanks_of_opensToken true true line (column + 2)
        (opensToken_mark (by simp) _))).trans rfl
  have hclose : Leads inside behind :=
    leads_of_readToken hinside rfl
      (readToken_listEnd (inDocument_of_column_ne_zero (Nat.succ_ne_zero (column + 1))))
      (Nat.lt_succ_self _)
  refine Leads.trans ?_ (hclose.trans (newline_leads hline))
  exact leads_of_readToken (toToken_space (opensToken_mark (by simp) _) hcolumn) rfl
    (readToken_listStart (inDocument_of_column_ne_zero (Nat.succ_ne_zero column)))
    (Nat.lt_succ_of_lt (Nat.lt_succ_self _))

/-!
## The end of a document
-/

theorem readTokens_at_end (bound : Nat) :
    readTokens (bound + 1) (atLine size { rest := [], line := line, column := 0 } [0] tokens)
      = some (tokens.reverse ++ [.blockEnd]) := by
  have hopens : OpensToken [] := fun c hc => nomatch hc
  rw [readTokens, toToken_atLine hopens]
  change some (Token.blockEnd :: tokens).reverse = _
  rw [List.reverse_cons]

end Layout
end Yaml
end LayeredPlot
