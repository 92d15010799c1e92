import LayeredPlot.Proofs.Yaml.Scanning
import LayeredPlot.Yaml.Writer

/-!
# The tokens of written documents

A mapping whose scalars are words is written so that each line is read as the tokens of an entry or
of an item.
-/

namespace LayeredPlot
namespace Yaml
namespace Node

/-- A word, a list of words or a mapping of such nodes with keys that are words. -/
inductive Writable : Node -> Prop
  | word {w : List Char} (h : IsWord w) : Writable (plain w)
  | list {items : List Node} (words : forall n, n ∈ items -> exists w, n = plain w ∧ IsWord w) :
      Writable (list items)
  | map {entries : List (Node × Node)} (ne_nil : entries ≠ [])
      (keys : forall e, e ∈ entries -> exists k, e.1 = plain k ∧ IsKey k)
      (values : forall e, e ∈ entries -> Writable e.2) : Writable (map entries)

def behindColon (indent : Nat) : Node -> List Char
  | list [] => [' ', '[', ']', '\n']
  | list (n :: ns) => '\n' :: itemLines indent (n :: ns)
  | map [] => [' ', '\x7b', '\x7d', '\n']
  | map (e :: es) => '\n' :: linesOfEntries (indent + indentStep) (e :: es)
  | n => ' ' :: (n.text ++ ['\n'])

theorem entryLines_eq (indent : Nat) (key : List Char) (v : Node) :
    entryLines indent key v
      = List.replicate indent ' ' ++ (key ++ ':' :: behindColon indent v) := by
  cases v with
  | scalar style tag text => simp [entryLines, behindColon, lineOf]
  | list items => cases items <;> simp [entryLines, behindColon, lineOf]
  | map entries => cases entries <;> simp [entryLines, behindColon, lineOf]
  | anchored k n => simp [entryLines, behindColon, lineOf]
  | reference k => simp [entryLines, behindColon, lineOf]

def itemTokens (items : List Node) : List Token :=
  items.flatMap fun n => [.item, .scalar .plain n.text]

mutual

def tokens : Node -> List Token
  | list [] => [.listStart, .listEnd]
  | list (n :: ns) => itemTokens (n :: ns)
  | map entries => .blockMapStart :: (entryTokens entries ++ [.blockEnd])
  | n => [.scalar .plain n.text]

def entryTokens : List (Node × Node) -> List Token
  | [] => []
  | (k, v) :: es => .key :: .scalar .plain k.text :: .value :: (tokens v ++ entryTokens es)

end

end Node

namespace Layout

open Node

/-!
## Lines of entries and items
-/

/-- From the first word of these lines on, which stand below a key at a column, the tokens are
read. -/
def ReadsLines (size column : Nat) (lines : List Char) (new : List Token) : Prop :=
  forall indent text rest, indent ≤ column -> StartsLine indent text rest ->
    exists indent' text', indent' ≤ column ∧ StartsLine indent' text' (lines ++ rest)
      ∧ forall line is ts, exists line',
        Leads (atLine size { rest := text', line := line, column := indent' } (column :: is) ts)
          (atLine size { rest := text, line := line', column := indent } (column :: is)
            (new.reverse ++ ts))

def ReadsNode (size : Nat) (v : Node) : Prop :=
  forall indent i column text rest, indent ≤ i -> i ≤ column -> StartsLine indent text rest ->
    forall line is ts, exists line',
      Leads
        (behindWord size { rest := behindColon i v ++ rest, line := line, column := column }
          (i :: is) ts)
        (atLine size { rest := text, line := line', column := indent } (i :: is)
          (v.tokens.reverse ++ ts))

variable {size column : Nat}

theorem readsLines_nil : ReadsLines size column [] [] := by
  intro indent text rest hindent hline
  refine ⟨indent, text, hindent, hline, ?_⟩
  intro line is ts
  exact ⟨line, Leads.refl _⟩

theorem ReadsLines.append {lines lines' : List Char} {new new' : List Token}
    (h : ReadsLines size column lines new) (h' : ReadsLines size column lines' new') :
    ReadsLines size column (lines ++ lines') (new ++ new') := by
  intro indent text rest hindent hline
  rcases h' _ _ _ hindent hline with ⟨indent', text', hindent', hline', hleads'⟩
  rcases h _ _ _ hindent' hline' with ⟨indent'', text'', hindent'', hline'', hleads⟩
  refine ⟨indent'', text'', hindent'', by rwa [List.append_assoc], ?_⟩
  intro line is ts
  rcases hleads line is ts with ⟨line', hfirst⟩
  rcases hleads' line' is (new.reverse ++ ts) with ⟨line'', hsecond⟩
  refine ⟨line'', ?_⟩
  rw [List.reverse_append, List.append_assoc]
  exact hfirst.trans hsecond

theorem readsLines_item {w : List Char} (hw : IsWord w) (hsize : 1 ≤ size) :
    ReadsLines size column (lineOf column ('-' :: ' ' :: w)) [.item, .scalar .plain w] := by
  intro indent text rest hindent hline
  have hopens : OpensToken ('-' :: ' ' :: (w ++ '\n' :: rest)) := opensToken_mark (by simp) _
  refine ⟨column, '-' :: ' ' :: (w ++ '\n' :: rest), Nat.le_refl _, ⟨?_, hopens⟩, ?_⟩
  · simp [lineOf]
  · intro line is ts
    exact ⟨line + 1, item_leads hw hline hindent hsize⟩

theorem readsLines_items {items : List Node}
    (h : forall n, n ∈ items -> exists w, n = Node.plain w ∧ IsWord w) (hsize : 1 ≤ size) :
    ReadsLines size column (itemLines column items) (itemTokens items) := by
  induction items with
  | nil => exact readsLines_nil
  | cons n ns ih =>
      rcases h n List.mem_cons_self with ⟨w, rfl, hw⟩
      exact (readsLines_item hw hsize).append (ih fun m hm => h m (List.mem_cons_of_mem _ hm))

theorem endsWord_behindColon (indent : Nat) (v : Node) (rest : List Char) :
    endsWord (behindColon indent v ++ rest) = true := by
  cases v with
  | list items => cases items <;> rfl
  | map entries => cases entries <;> rfl
  | scalar style tag text => rfl
  | anchored k n => rfl
  | reference k => rfl

theorem entry_leads {indents is : List Nat} {ts : List Token} {indent i : Nat}
    {k text rest : List Char} {v : Node} (hk : IsKey k) (hv : ReadsNode size v) (hsize : 2 ≤ size)
    (hwithin : Within i indents) (hindents : (openMap i indents ts).1 = i :: is)
    (hindent : indent ≤ i) (hline : StartsLine indent text rest) (line : Nat) :
    exists line',
      Leads
        (atLine size { rest := k ++ ':' :: (behindColon i v ++ rest), line := line, column := i }
          indents ts)
        (atLine size { rest := text, line := line', column := indent } (i :: is)
          ((entryTokens [(Node.plain k, v)]).reverse ++ (openMap i indents ts).2)) := by
  have hkey : Leads
      (atLine size { rest := k ++ ':' :: (behindColon i v ++ rest), line := line, column := i }
        indents ts)
      (behindWord size
        { rest := behindColon i v ++ rest, line := line, column := i + k.length + 1 } (i :: is)
        (.value :: .scalar .plain k :: .key :: (openMap i indents ts).2)) :=
    hindents ▸ key_leads hk (endsWord_behindColon i v rest) hsize hwithin
  rcases hv _ _ _ _ _ hindent (show i ≤ i + k.length + 1 by omega) hline line is
    (.value :: .scalar .plain k :: .key :: (openMap i indents ts).2) with ⟨line', hvalue⟩
  refine ⟨line', ?_⟩
  have hnew : (entryTokens [(Node.plain k, v)]).reverse ++ (openMap i indents ts).2
      = v.tokens.reverse ++ .value :: .scalar .plain k :: .key :: (openMap i indents ts).2 := by
    simp [entryTokens, Node.text]
  rw [hnew]
  exact hkey.trans hvalue

theorem startsLine_entry {k : List Char} (hk : IsKey k) (i : Nat) (v : Node) (rest : List Char) :
    StartsLine i (k ++ ':' :: (behindColon i v ++ rest)) (entryLines i k v ++ rest) where
  eq := by simp [entryLines_eq]
  opens := hk.toIsWord.opensToken _

theorem openMap_self (i : Nat) (is : List Nat) (ts : List Token) :
    openMap i (i :: is) ts = (i :: is, ts) :=
  if_neg (by simp)

theorem readsLines_entry {k : List Char} {v : Node} (hk : IsKey k) (hv : ReadsNode size v)
    (hsize : 2 ≤ size) :
    ReadsLines size column (entryLines column k v) (entryTokens [(Node.plain k, v)]) := by
  intro indent text rest hindent hline
  refine ⟨column, _, Nat.le_refl _, startsLine_entry hk column v rest, ?_⟩
  intro line is ts
  have hopen := openMap_self column is ts
  rcases entry_leads hk hv hsize (within_cons (Nat.le_refl column) is) (congrArg Prod.fst hopen)
    hindent hline line with ⟨line', hleads⟩
  rw [hopen] at hleads
  exact ⟨line', hleads⟩

theorem entryTokens_cons (e : Node × Node) (es : List (Node × Node)) :
    entryTokens (e :: es) = entryTokens [e] ++ entryTokens es := by
  simp [entryTokens]

def ReadsEntries (size : Nat) (es : List (Node × Node)) : Prop :=
  forall e, e ∈ es -> (exists k, e.1 = Node.plain k ∧ IsKey k) ∧ ReadsNode size e.2

theorem readsLines_entries {es : List (Node × Node)} (h : ReadsEntries size es) (hsize : 2 ≤ size) :
    ReadsLines size column (linesOfEntries column es) (entryTokens es) := by
  induction es with
  | nil =>
      rw [linesOfEntries, entryTokens]
      exact readsLines_nil
  | cons e es ih =>
      rcases e with ⟨key, v⟩
      rcases h _ List.mem_cons_self with ⟨⟨k, rfl, hk⟩, hv⟩
      rw [linesOfEntries, entryTokens_cons]
      exact (readsLines_entry hk hv hsize).append (ih fun f hf => h f (List.mem_cons_of_mem _ hf))

theorem map_leads {es : List (Node × Node)} {indents : List Nat} {indent i : Nat}
    {text rest : List Char} (hne : es ≠ []) (h : ReadsEntries size es) (hsize : 2 ≤ size)
    (hright : indents.head?.all (· < i) = true) (hindent : indent ≤ i)
    (hline : StartsLine indent text rest) :
    exists text', StartsLine i text' (linesOfEntries i es ++ rest) ∧ forall line ts, exists line',
      Leads (atLine size { rest := text', line := line, column := i } indents ts)
        (atLine size { rest := text, line := line', column := indent } (i :: indents)
          ((entryTokens es).reverse ++ .blockMapStart :: ts)) := by
  rcases List.exists_cons_of_ne_nil hne with ⟨⟨key, v⟩, later, rfl⟩
  rcases h _ List.mem_cons_self with ⟨⟨k, rfl, hk⟩, hv⟩
  have hopen : forall ts, openMap i indents ts = (i :: indents, .blockMapStart :: ts) := fun ts =>
    if_pos hright
  have hwithin : Within i indents := by
    intro j hj
    rw [hj, Option.all_some, decide_eq_true_eq] at hright
    exact Nat.le_of_lt hright
  have hlater : ReadsLines size i (linesOfEntries i later) (entryTokens later) :=
    readsLines_entries (fun f hf => h f (List.mem_cons_of_mem _ hf)) hsize
  rcases hlater _ _ _ hindent hline with ⟨indent', text', hindent', hline', hleads'⟩
  -- only the first entry finds the mapping not started yet
  refine ⟨_, by rw [linesOfEntries, List.append_assoc]; exact startsLine_entry hk i v _, ?_⟩
  intro line ts
  rcases entry_leads hk hv hsize hwithin (congrArg Prod.fst (hopen ts)) hindent' hline' line
    with ⟨line', hfirst⟩
  rw [hopen ts] at hfirst
  rcases hleads' line' indents _ with ⟨line'', hsecond⟩
  refine ⟨line'', ?_⟩
  rw [entryTokens_cons, List.reverse_append, List.append_assoc]
  exact hfirst.trans hsecond

/-!
## Nodes
-/

theorem atLine_of_lt {c : Cursor} {i : Nat} (h : c.column < i) (is : List Nat) (ts : List Token) :
    atLine size c (i :: is) ts = atLine size c is (.blockEnd :: ts) := by
  unfold atLine
  rw [closeBlocks, if_pos h]

theorem readsNode_word {w : List Char} (hw : IsWord w) (hsize : 1 ≤ size) :
    ReadsNode size (Node.plain w) := by
  intro indent i column text rest hindent hcolumn hline line is ts
  refine ⟨line + 1, ?_⟩
  have hlines : behindColon i (Node.plain w) ++ rest = ' ' :: (w ++ '\n' :: rest) := by
    simp [behindColon, Node.text]
  rw [hlines]
  exact word_leads hw hline hindent hcolumn hsize

theorem readsNode_list {items : List Node}
    (h : forall n, n ∈ items -> exists w, n = Node.plain w ∧ IsWord w) (hsize : 1 ≤ size) :
    ReadsNode size (.list items) := by
  intro indent i column text rest hindent hcolumn hline line is ts
  cases items with
  | nil => exact ⟨line + 1, brackets_leads hline hcolumn⟩
  | cons n ns =>
      rcases readsLines_items h hsize _ _ _ hindent hline with ⟨indent', text', _, hline', hleads⟩
      rcases hleads (line + 1) is ts with ⟨line', hitems⟩
      exact ⟨line', (newline_leads hline').trans hitems⟩

theorem readsNode_map {entries : List (Node × Node)} (hne : entries ≠ [])
    (h : ReadsEntries size entries) (hsize : 2 ≤ size) : ReadsNode size (.map entries) := by
  intro indent i column text rest hindent hcolumn hline line is ts
  have hstep : i < i + indentStep := Nat.lt_add_of_pos_right Nat.two_pos
  have hright : (i :: is).head?.all (· < i + indentStep) = true := decide_eq_true hstep
  rcases map_leads hne h hsize hright (Nat.le_of_lt (Nat.lt_of_le_of_lt hindent hstep)) hline
    with ⟨text', hline', hleads⟩
  rcases hleads (line + 1) ts with ⟨line', hentries⟩
  rw [atLine_of_lt (Nat.lt_of_le_of_lt hindent hstep)] at hentries
  have hnew : (Node.map entries).tokens.reverse ++ ts
      = .blockEnd :: ((entryTokens entries).reverse ++ .blockMapStart :: ts) := by
    simp [Node.tokens]
  rw [hnew]
  rcases List.exists_cons_of_ne_nil hne with ⟨e, es, rfl⟩
  exact ⟨line', (newline_leads hline').trans hentries⟩

theorem readsNode_of_writable {v : Node} (h : v.Writable) (hsize : 2 ≤ size) :
    ReadsNode size v := by
  induction h with
  | word hw => exact readsNode_word hw (Nat.le_of_lt hsize)
  | list hwords => exact readsNode_list hwords (Nat.le_of_lt hsize)
  | map hne hkeys _ ih => exact readsNode_map hne (fun e he => ⟨hkeys e he, ih e he⟩) hsize

end Layout

/-!
## Characters of documents
-/

def isWritten (c : Char) : Bool :=
  isWordChar c || c ∈ [' ', ':', '[', ']', '\n']

theorem isAllowed_of_isWritten {c : Char} (h : isWritten c = true) : isAllowed c = true := by
  rcases Bool.or_eq_true_iff.mp h with h | h
  · exact isAllowed_of_isWordChar h
  · exact List.all_eq_true.mp (show [' ', ':', '[', ']', '\n'].all isAllowed = true from rfl) c
      (of_decide_eq_true h)

theorem unifyBreaks_of_isWritten {cs : List Char} (h : forall c, c ∈ cs -> isWritten c = true) :
    unifyBreaks cs = cs := by
  induction cs with
  | nil => rfl
  | cons c cs ih =>
      have hc := h c List.mem_cons_self
      have hreturn : c ≠ '\r' := by
        rintro rfl
        exact absurd hc (by decide)
      have hnext : c ≠ nextLine := by
        rintro rfl
        exact absurd hc (by decide)
      rw [unifyBreaks, ih fun d hd => h d (List.mem_cons_of_mem c hd)]
      · simp [hreturn, hnext]
      · rintro ds rfl
        exact absurd rfl hreturn

namespace Node

variable {indent : Nat}

theorem isWritten_lineOf {text : List Char} (h : forall c, c ∈ text -> isWritten c = true)
    {c : Char} (hc : c ∈ lineOf indent text) : isWritten c = true := by
  simp only [lineOf, List.mem_append, List.mem_replicate, List.mem_singleton] at hc
  rcases hc with (⟨_, rfl⟩ | hc) | rfl
  · rfl
  · exact h c hc
  · rfl

theorem isWritten_word {w : List Char} (hw : IsWord w) (c : Char) (hc : c ∈ w) :
    isWritten c = true :=
  Bool.or_eq_true_iff.mpr (Or.inl (hw.chars c hc))

theorem isWritten_linesOfEntries {es : List (Node × Node)}
    (keys : forall e, e ∈ es -> exists k, e.1 = plain k ∧ IsKey k)
    (values : forall e, e ∈ es -> forall indent c, c ∈ behindColon indent e.2 -> isWritten c = true)
    (c : Char) (hc : c ∈ linesOfEntries indent es) : isWritten c = true := by
  induction es with
  | nil =>
      rw [linesOfEntries] at hc
      cases hc
  | cons e es ih =>
      rcases keys e List.mem_cons_self with ⟨k, hkey, hk⟩
      simp only [linesOfEntries, entryLines_eq, List.mem_append, List.mem_cons,
        List.mem_replicate] at hc
      rcases hc with (⟨_, rfl⟩ | hc | rfl | hc) | hc
      · rfl
      · rw [hkey] at hc
        exact isWritten_word hk.toIsWord c hc
      · rfl
      · exact values e List.mem_cons_self indent c hc
      · exact ih (fun f hf => keys f (List.mem_cons_of_mem _ hf))
          (fun f hf => values f (List.mem_cons_of_mem _ hf)) hc

theorem Writable.isWritten_of_mem {v : Node} (h : v.Writable) (indent : Nat) (c : Char)
    (hc : c ∈ behindColon indent v) : isWritten c = true := by
  induction h generalizing indent c with
  | word hw =>
      simp only [behindColon, Node.text, List.mem_cons, List.mem_append, List.not_mem_nil,
        or_false] at hc
      rcases hc with rfl | hc | rfl
      · rfl
      · exact isWritten_word hw c hc
      · rfl
  | @list items hwords =>
      cases items with
      | nil =>
          exact List.all_eq_true.mp (show [' ', '[', ']', '\n'].all isWritten = true from rfl) c hc
      | cons n ns =>
          rcases List.mem_cons.mp hc with rfl | hc
          · rfl
          · rcases List.mem_flatMap.mp hc with ⟨m, hm, hline⟩
            rcases hwords m hm with ⟨w, rfl, hw⟩
            refine isWritten_lineOf ?_ hline
            intro d hd
            rcases List.mem_cons.mp hd with rfl | hd
            · rfl
            · rcases List.mem_cons.mp hd with rfl | hd
              · rfl
              · exact isWritten_word hw d hd
  | @map entries hne hkeys _ ih =>
      rcases List.exists_cons_of_ne_nil hne with ⟨e, es, rfl⟩
      rcases List.mem_cons.mp hc with rfl | hc
      · rfl
      · exact isWritten_linesOfEntries hkeys ih c hc

end Node

/-!
## Documents
-/

theorem tokens?_of_writable {es : List (Node × Node)} (h : (Node.map es).Writable) :
    tokens? (Node.linesOfEntries 0 es) = some (Node.map es).tokens := by
  cases h with
  | map hne hkeys hvalues =>
  let cs := Node.linesOfEntries 0 es
  have hwritten : forall c, c ∈ cs -> isWritten c = true := fun c hc =>
    Node.isWritten_linesOfEntries hkeys (fun e he => (hvalues e he).isWritten_of_mem) c hc
  have hallowed : cs.all isAllowed = true := by
    rw [List.all_eq_true]
    exact fun c hc => isAllowed_of_isWritten (hwritten c hc)
  have hsize : 2 ≤ cs.length + 1 := by
    rcases List.exists_cons_of_ne_nil hne with ⟨e, es', rfl⟩
    simp only [cs, Node.linesOfEntries, Node.entryLines_eq, List.length_append, List.length_cons]
    omega
  have hentries : Layout.ReadsEntries (cs.length + 1) es := fun e he =>
    ⟨hkeys e he, Layout.readsNode_of_writable (hvalues e he) hsize⟩
  have hright : ([] : List Nat).head?.all (· < 0) = true := rfl
  have hend : StartsLine 0 [] [] := ⟨rfl, fun c hc => nomatch hc⟩
  rcases Layout.map_leads hne hentries hsize hright (Nat.le_refl 0) hend
    with ⟨text, hline, hleads⟩
  obtain rfl : text = cs := by
    have heq := hline.eq
    rw [List.append_nil] at heq
    exact heq.symm
  rcases hleads 0 [] with ⟨line, n, hn, hread⟩
  -- no more tokens than characters are read, which leaves a step of the bound for the end
  have hread_all := hread (cs.length - n + 1)
  have hbound : n ≤ cs.length := hn
  rw [← Nat.add_assoc, Nat.add_sub_cancel' hbound, Layout.readTokens_at_end] at hread_all
  unfold tokens?
  rw [if_pos hallowed, unifyBreaks_of_isWritten hwritten]
  refine Eq.trans hread_all (congrArg some ?_)
  simp [Node.tokens]

end Yaml
end LayeredPlot
