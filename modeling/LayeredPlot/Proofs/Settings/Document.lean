import LayeredPlot.Proofs.Outcome
import LayeredPlot.Proofs.Yaml.Fields
import LayeredPlot.Proofs.Yaml.Standard
import LayeredPlot.Settings.Document

/-!
# Settings that are read back

Written settings are read back as they are, whichever library writes and reads documents, if what it
writes is read back by it.  Of a document in which fields are missing and the others stand in
another order, the fields that are left are read back, and the missing ones are standard.
-/

namespace LayeredPlot

open Yaml

/-!
## Fields that are left
-/

namespace TickOptions

variable (o : TickOptions Float)

def numbers : List Float :=
  o.niceSteps ++ o.weights.toList

def keeping (fs : Fields Value) : TickOptions Float where
  niceSteps := if "nice_steps" ∈ fs.names then o.niceSteps else standard.niceSteps
  weights := if "weights" ∈ fs.names then o.weights else standard.weights
  loose := if "loose" ∈ fs.names then o.loose else (standard : TickOptions Float).loose

end TickOptions

namespace Settings

variable (s : Settings Float)

def numbers : List Float :=
  s.margin :: s.inferredMargin :: s.ticks.numbers

/-- Settings with the standard values of the fields that are missing. -/
def keeping (fs breaks : Fields Value) : Settings Float where
  margin := if "margin" ∈ fs.names then s.margin else standard.margin
  inferredMargin := if "inferred_margin" ∈ fs.names then s.inferredMargin
    else standard.inferredMargin
  targetTicks := if "target_ticks" ∈ fs.names then s.targetTicks
    else (standard : Settings Float).targetTicks
  ticks := if "breaks" ∈ fs.names then s.ticks.keeping breaks else standard.ticks

end Settings

/-!
## Blocks
-/

variable {o : TickOptions Float} {s : Settings Float} {fs gs bs : Fields Value}

theorem isBlock_of_subperm (names : List String) (hne : fs ≠ []) (hfs : fs.Subperm gs)
    (hgs : gs.names = names) (hnames : names.all isName = true) (hdistinct : names.Nodup)
    (hvalues : forall f, f ∈ gs -> f.2.IsBlock) : (Value.map fs).IsBlock := by
  have hsub : fs.names.Subperm names := hgs ▸ Fields.subperm_map Prod.fst hfs
  refine Value.IsBlock.map hne ?_ (Fields.nodup_of_subperm hsub hdistinct) fun f hf =>
    hvalues f (hfs.subset hf)
  intro f hf
  exact List.all_eq_true.mp hnames f.1 (hsub.subset (List.mem_map_of_mem hf))

theorem TickOptions.isBlock_of_subperm_fields (hne : bs ≠ []) (hbs : bs.Subperm o.fields) :
    (Value.map bs).IsBlock := by
  refine isBlock_of_subperm ["nice_steps", "weights", "loose"] hne hbs rfl (by decide)
    (by decide) ?_
  intro f hf
  simp only [fields, List.mem_cons, List.not_mem_nil, or_false] at hf
  rcases hf with rfl | rfl | rfl
  · exact .list _
  · exact .list _
  · exact .leaf _

theorem Settings.isBlock_of_subperm_fieldsWith (hne : fs ≠ [])
    (hfs : fs.Subperm (s.fieldsWith bs)) (hbs : (Value.map bs).IsBlock) :
    (Value.map fs).IsBlock := by
  refine isBlock_of_subperm ["margin", "inferred_margin", "target_ticks", "breaks"] hne hfs rfl
    (by decide) (by decide) ?_
  intro f hf
  simp only [fieldsWith, List.mem_cons, List.not_mem_nil, or_false] at hf
  rcases hf with rfl | rfl | rfl | rfl
  · exact .leaf _
  · exact .leaf _
  · exact .leaf _
  · exact hbs

/-!
## Reading
-/

variable {lib : Library} {part : Value -> lib.Part} {value : Type} {name : String} {v : Value}
  {default result : value} {read : lib.Part -> Option value}

def parts (part : Value -> lib.Part) (fs : Fields Value) : Fields lib.Part :=
  fs.map fun f => (f.1, part f.2)

theorem names_parts (fs : Fields Value) : (parts part fs).names = fs.names := by
  unfold parts Fields.names
  rw [List.map_map]
  rfl

theorem field?_parts (hfs : fs.Subperm gs)
    (hlookup : (parts part gs).lookup name = some (some (part v)))
    (hread : read (part v) = some result) :
    (parts part fs).field? name default read
      = some (if name ∈ fs.names then result else default) := by
  have hparts : (parts part fs).Subperm (parts part gs) := Fields.subperm_map _ hfs
  rw [Fields.field?_of_subperm hparts hlookup hread, names_parts]

section

variable (laws : lib.Laws part)

include laws

theorem numbers?_part {xs ys : List Float} (h : forall x, x ∈ ys -> lib.ReadsBack part x)
    (hsub : xs ⊆ ys) :
    TickOptions.numbers? lib (part (.list (xs.map .number))) = some xs := by
  unfold TickOptions.numbers?
  rw [laws.items?_part, List.map_map, Option.bind_eq_bind, Option.bind_some, List.mapM_map,
    mapM_eq_some (g := id), List.map_id]
  exact fun x hx => h x (hsub hx)

theorem TickOptions.ofNode?_of_subperm (h : forall x, x ∈ o.numbers -> lib.ReadsBack part x)
    (hne : bs ≠ []) (hbs : bs.Subperm o.fields) :
    ofNode? lib (part (.map bs)) = some (o.keeping bs) := by
  have hsteps : (parts part bs).field? "nice_steps" standard.niceSteps (numbers? lib)
      = some (o.keeping bs).niceSteps :=
    field?_parts hbs rfl (numbers?_part laws h (List.subset_append_left _ _))
  have hweights : (parts part bs).field? "weights" standard.weights
      (fun n => (numbers? lib n).bind Weights.ofList?) = some (o.keeping bs).weights := by
    refine field?_parts hbs rfl ?_
    rw [numbers?_part laws h (List.subset_append_right _ _)]
    rfl
  have hloose : (parts part bs).field? "loose" (standard : TickOptions Float).loose lib.flag?
      = some (o.keeping bs).loose :=
    field?_parts hbs rfl (laws.flag?_part o.loose)
  unfold ofNode?
  rw [laws.fields?_part bs (isBlock_of_subperm_fields hne hbs)]
  change ofFields? lib (parts part bs) = _
  unfold ofFields?
  simp only [Option.bind_eq_bind, hsteps, hweights, hloose, Option.bind_some]
  rfl

namespace Settings

theorem ofFields?_of_subperm (htarget : s.targetTicks < Nat.pow 2 wordSize)
    (h : forall x, x ∈ s.numbers -> lib.ReadsBack part x) (hne : bs ≠ [])
    (hbs : bs.Subperm s.ticks.fields) (hfs : fs.Subperm (s.fieldsWith bs)) :
    ofFields? lib (parts part fs) = some (s.keeping fs bs) := by
  have hmargin : (parts part fs).field? "margin" standard.margin lib.number?
      = some (s.keeping fs bs).margin :=
    field?_parts hfs rfl (h _ (by simp [numbers]))
  have hinferred : (parts part fs).field? "inferred_margin" standard.inferredMargin lib.number?
      = some (s.keeping fs bs).inferredMargin :=
    field?_parts hfs rfl (h _ (by simp [numbers]))
  have htarget : (parts part fs).field? "target_ticks" (standard : Settings Float).targetTicks
      lib.natural? = some (s.keeping fs bs).targetTicks :=
    field?_parts hfs rfl (laws.natural?_part s.targetTicks htarget)
  have hticks : forall x, x ∈ s.ticks.numbers -> lib.ReadsBack part x := fun x hx =>
    h x (by simp [numbers, hx])
  have hbreaks : (parts part fs).field? "breaks" standard.ticks (TickOptions.ofNode? lib)
      = some (s.keeping fs bs).ticks :=
    field?_parts hfs rfl (TickOptions.ofNode?_of_subperm laws hticks hne hbs)
  unfold ofFields?
  simp only [Option.bind_eq_bind, hmargin, hinferred, htarget, hbreaks, Option.bind_some]
  rfl

theorem read?_of_subperm (htarget : s.targetTicks < Nat.pow 2 wordSize)
    (h : forall x, x ∈ s.numbers -> lib.ReadsBack part x) (hne : bs ≠ [])
    (hbs : bs.Subperm s.ticks.fields) (hfs : fs.Subperm (s.fieldsWith bs)) :
    lib.write? fs >>= read? lib = some (s.keeping fs bs) := by
  have hfields : lib.write? fs >>= lib.read? >>= lib.fields? = some (parts part fs) := by
    by_cases hnil : fs = []
    · rw [hnil]
      exact laws.fields?_nil
    · have hblock := isBlock_of_subperm_fieldsWith hnil hfs
        (TickOptions.isBlock_of_subperm_fields hne hbs)
      rw [laws.read_write fs hblock]
      exact laws.fields?_part fs hblock
  have hread : lib.write? fs >>= read? lib
      = lib.write? fs >>= lib.read? >>= lib.fields? >>= ofFields? lib := by
    cases lib.write? fs with
    | none => rfl
    | some document => rfl
  rw [hread, hfields]
  exact ofFields?_of_subperm laws htarget h hne hbs hfs

end Settings

end

namespace Settings

/-- Written settings are read back as they are, and so is what is left of them after fields are
deleted, on both levels, and put in another order.  Of the fields of the tick options one is left,
unless all of them go, and a document of which nothing is left is blank or an empty mapping.  What
it takes is a library that reads back its layout and its words, and the decimals that it has for the
doubles in the settings. -/
theorem document_read_back (laws : lib.Laws part) (htarget : s.targetTicks < Nat.pow 2 wordSize)
    (hread : forall x, x ∈ s.numbers -> lib.ReadsBack part x) :
    s.write? lib >>= read? lib = some s
      ∧ (forall fs bs, bs.Subperm s.ticks.fields -> bs ≠ [] -> fs.Subperm (s.fieldsWith bs) ->
        lib.write? fs >>= read? lib = some (s.keeping fs bs))
      ∧ read? lib "" = some standard := by
  refine ⟨?_, ?_, ?_⟩
  · exact read?_of_subperm laws htarget hread (List.cons_ne_nil _ _)
      (List.Subperm.refl s.ticks.fields) (List.Subperm.refl (s.fieldsWith s.ticks.fields))
  · intro fs bs hbs hne hfs
    exact read?_of_subperm laws htarget hread hne hbs hfs
  · unfold read?
    rw [laws.fields?_blank]
    rfl

def unusual : Settings Float where
  margin := -0.0
  inferredMargin := 1.0 / 0.0
  targetTicks := 18446744073709551615
  ticks :=
    { niceSteps := []
      weights := { coverage := 0.0 / 0.0, simplicity := 0.05, density := 1e21,
                   legibility := -1.0 / 0.0 }
      loose := true }

def unusualLoose : Fields Value :=
  [("loose", .leaf (.flag unusual.ticks.loose))]

def unusualRest : Fields Value :=
  [("breaks", .map unusualLoose), ("margin", .leaf (.number unusual.margin))]

theorem document_read_back_unusual :
    Library.standard.Laws Library.standardPart
      ∧ unusual.targetTicks < Nat.pow 2 wordSize
      ∧ (forall x, x ∈ unusual.numbers -> Library.standard.ReadsBack Library.standardPart x)
      ∧ unusualLoose.Subperm unusual.ticks.fields ∧ unusualLoose ≠ []
      ∧ unusualRest.Subperm (unusual.fieldsWith unusualLoose)
      ∧ ofDocument? unusual.document = some unusual
      ∧ ofDocument? "breaks:\n  loose: true\nmargin: -0.0\n" = some
        { (standard : Settings Float) with
          margin := -0.0
          ticks := { (TickOptions.standard : TickOptions Float) with loose := true } }
      ∧ ofDocument? "" = some standard := by
  have laws := Library.standard_laws
  have htarget : unusual.targetTicks < Nat.pow 2 wordSize := by decide
  have hdecimals : forall x, x ∈ unusual.numbers -> x.isFinite = true ->
      Double.ofText? (Leaf.number x).text = some x := by
    decide +kernel
  have hread : forall x, x ∈ unusual.numbers ->
      Library.standard.ReadsBack Library.standardPart x := fun x hx =>
    Library.standard_readsBack (hdecimals x hx)
  have hloose : unusualLoose.Subperm unusual.ticks.fields :=
    ((List.Sublist.refl unusualLoose).cons _ |>.cons _).subperm
  have hne : unusualLoose ≠ [] := List.cons_ne_nil _ _
  have hrest : unusualRest.Subperm (unusual.fieldsWith unusualLoose) := by
    refine ⟨_, List.Perm.swap _ _ _, List.Sublist.cons_cons _ ?_⟩
    exact (List.Sublist.refl _).cons _ |>.cons _
  have hdocument : documentOf unusualRest = "breaks:\n  loose: true\nmargin: -0.0\n" := by
    decide +kernel
  have hwritten : forall fs, Library.standard.write? fs >>= read? .standard
      = ofDocument? (documentOf fs) := fun fs => rfl
  rcases document_read_back laws htarget hread with ⟨hall, hpart, hblank⟩
  refine ⟨laws, htarget, hread, hloose, hne, hrest, ?_, ?_, hblank⟩
  · exact (hwritten unusual.fields).symm.trans hall
  · rw [← hdocument, ← hwritten]
    exact hpart unusualRest unusualLoose hloose hne hrest

end Settings
end LayeredPlot
