import RecordSynthesis.Proofs.Agreement
import RecordSynthesis.Proofs.CycleSearch
import RecordSynthesis.Proofs.Verdicts

/-!
# Ambiguous names and other classes

A name that several classes declare has no record, but it keeps the references of its last
declaration, and the search for cycles follows them. So the declarations of an ambiguous name matter
to classes of other names, though only to those that reach the name.

`DiffersAt` relates batches that differ in the declarations of one ambiguous name. Their snapshots
agree about every other name, and their graphs differ in the references of this name. A class of
another name has the same result in both as long as the name is spelled alike and refers to the same
models or leads to no cycle in either; it is generated in both or in neither as long as the name
leads to a cycle in both or in neither (`run_differsAt`). Otherwise a class may fail in one batch
and be generated in the other, even when only the order of two declarations is changed
(`rivalBatch_leaks`).
-/

set_option autoImplicit false

namespace RecordSynthesis

open Snapshot

/-! ## Graphs that differ in the references of one name -/

section Graphs

variable {references references' : String → List String} {name : String}
  (same : ∀ a, a ≠ name → references' a = references a)
include same

theorem refers_iff_of_ne {a b : String} (other : a ≠ name) :
    Refers references' a b ↔ Refers references a b := by
  rw [Refers, Refers, same a other]

/-- A way in one graph is a way in the other, or comes to the name. -/
theorem reaches_transfer {a b : String} (way : Reaches references a b) :
    Reaches references' a b ∨ Reaches references' a name ∧ Reaches references name b := by
  induction way with
  | refl => exact .inl .refl
  | @tail b c _ step ih =>
      rcases ih with way' | ⟨toName, fromName⟩
      · -- only a step from the name itself may be missing in the other graph
        by_cases here : b = name
        · exact .inr ⟨here ▸ way', .single (here ▸ step)⟩
        · exact .inl (way'.tail ((refers_iff_of_ne same here).2 step))
      · exact .inr ⟨toName, fromName.tail step⟩

/-- A cycle of one graph is a cycle of the other, or goes through the name. -/
theorem onCycle_transfer {a : String} (cycle : OnCycle references a) :
    OnCycle references' a ∨ Reaches references' a name ∧ Reaches references name a := by
  obtain ⟨b, way, step⟩ := Relation.TransGen.tail'_iff.1 cycle
  rcases reaches_transfer same way with way' | ⟨toName, fromName⟩
  · by_cases here : b = name
    · exact .inr ⟨here ▸ way', .single (here ▸ step)⟩
    · exact .inl (.tail' way' ((refers_iff_of_ne same here).2 step))
  · exact .inr ⟨toName, fromName.tail step⟩

/-- The name is reached in both graphs or in neither. -/
theorem reaches_name {a : String} (way : Reaches references a name) : Reaches references' a name :=
  (reaches_transfer same way).elim id And.left

/-- A start without cycle in one graph has none in the other, unless it reaches the name and the
name leads to one there. -/
theorem AcyclicFrom.transfer {start : String} (acyclic : AcyclicFrom references' start)
    (quiet : Reaches references' start name → AcyclicFrom references name) :
    AcyclicFrom references start := by
  intro a way cycle
  rcases reaches_transfer same way with way' | ⟨toName, fromName⟩
  · rcases onCycle_transfer same cycle with cycle' | ⟨toName, fromName⟩
    · exact acyclic a way' cycle'
    · exact quiet (way'.trans toName) a fromName cycle
  · exact quiet toName a fromName cycle

end Graphs

/-! ## Batches that differ at one name -/

/-- Batches that differ in the declarations of one name, which is ambiguous. They may be in another
order or have other properties. -/
structure DiffersAt (name : String) (b b' : Batch) : Prop where
  classes : List.Forall₂ (fun c c' => c' = c ∨ c.qualifiedName = name ∧ c'.qualifiedName = name)
    b.classes b'.classes
  externals : b'.externalModels = b.externalModels
  ambiguous : 2 ≤ (declarations b.classes name).length

namespace DiffersAt

variable {name : String} {b b' : Batch} (differs : DiffersAt name b b')
include differs

theorem map_qualifiedName :
    b'.classes.map (·.qualifiedName) = b.classes.map (·.qualifiedName) := by
  rw [← List.forall₂_eq_eq_eq, List.forall₂_map_left_iff, List.forall₂_map_right_iff]
  refine differs.classes.flip.imp fun c' c related => ?_
  rcases related with rfl | ⟨named, named'⟩
  · rfl
  · exact named'.trans named.symm

theorem length_declarations_eq (other : String) :
    (declarations b'.classes other).length = (declarations b.classes other).length := by
  rw [length_declarations, length_declarations, differs.map_qualifiedName]

theorem namesOf_eq : namesOf b' = namesOf b := by
  rw [namesOf, namesOf, differs.externals, differs.map_qualifiedName]

theorem symm : DiffersAt name b' b where
  classes := differs.classes.flip.imp fun _ _ related =>
    related.imp Eq.symm And.symm
  externals := differs.externals.symm
  ambiguous := differs.length_declarations_eq name ▸ differs.ambiguous

/-- Other names keep their declarations. -/
theorem declarations_eq {other : String} (ne : other ≠ name) :
    declarations b'.classes other = declarations b.classes other := by
  have related := differs.classes
  generalize b.classes = classes, b'.classes = classes' at related ⊢
  induction related with
  | nil => rfl
  | @cons c c' classes classes' related _ ih =>
      rw [declarations, declarations] at ih ⊢
      rcases related with rfl | ⟨named, named'⟩
      · rw [List.filter_cons, List.filter_cons, ih]
      · have apart : ¬ decide (c.qualifiedName = other) = true := by
          simpa [named] using ne.symm
        have apart' : ¬ decide (c'.qualifiedName = other) = true := by
          simpa [named'] using ne.symm
        rw [List.filter_cons, List.filter_cons, if_neg apart, if_neg apart', ih]

/-- What is known about other names is the same. -/
theorem find?_eq {other : String} (ne : other ≠ name) :
    (discover b').find? other = (discover b).find? other :=
  find?_congr (fun _ => by rw [differs.namesOf_eq]) (differs.declarations_eq ne)

theorem references_eq {other : String} (ne : other ≠ name) :
    (discover b').references other = (discover b).references other := by
  rw [references, references, differs.find?_eq ne]

theorem isModel_eq (other : String) : (discover b').isModel other = (discover b).isModel other := by
  rw [isModel_discover, isModel_discover, differs.namesOf_eq]

theorem isAmbiguous_eq (other : String) :
    (discover b').isAmbiguous other = (discover b).isAmbiguous other := by
  rw [isAmbiguous_discover, isAmbiguous_discover, differs.length_declarations_eq]

/-- The ambiguous name has no record. -/
theorem record?_eq_none : (discover b).record? name = none := by
  cases found : (discover b).record? name with
  | none => rfl
  | some record =>
      obtain ⟨c, once, rfl, _, _⟩ := record?_discover_eq_some.1 found
      have one := (declaredOnce_iff once.listed).1 once
      have two := differs.ambiguous
      omega

theorem record?_eq (other : String) : (discover b').record? other = (discover b).record? other := by
  by_cases here : other = name
  · rw [here, differs.record?_eq_none, differs.symm.record?_eq_none]
  · rw [record?, record?, differs.find?_eq here]

theorem listed {c : ModelClass} (listed : c ∈ b.classes) (ne : c.qualifiedName ≠ name) :
    c ∈ b'.classes := by
  have member : c ∈ declarations b.classes c.qualifiedName := mem_declarations.2 ⟨listed, rfl⟩
  rw [← differs.declarations_eq ne] at member
  exact (mem_declarations.1 member).1

/-- Other classes are classified, spelled and resolved alike. When the search for cycles finds the
same as well, they have the same result. -/
theorem agreeOn {c : ModelClass}
    (spelled : (discover b').className name = (discover b).className name)
    (same : Reaches (discover b).references c.qualifiedName name →
      (discover b').references name = (discover b).references name ∨
        AcyclicFrom (discover b).references name ∧ AcyclicFrom (discover b').references name) :
    AgreeOn (discover b) (discover b') c where
  isAmbiguous := differs.isAmbiguous_eq _
  classify p _ := classify_congr fun other _ => differs.isModel_eq other
  typeName p _ := by
    refine typeName_congr fun other _ => ?_
    by_cases here : other = name
    · rw [here, spelled]
    · rw [className, className, differs.find?_eq here]
  record? _ _ model _ := differs.record?_eq model
  findCycle? := findCycle?_congr fun a way => by
    by_cases here : a = name
    · exact here ▸ same (here ▸ way)
    · exact .inl (differs.references_eq here)

variable {settings : Settings} {c : ModelClass}

/-- A class of another name stays generable as long as the name, where the class reaches it, still
leads to no cycle. -/
theorem generable (ne : c.qualifiedName ≠ name)
    (quiet : Reaches (discover b).references c.qualifiedName name →
      AcyclicFrom (discover b').references name) (generable : Generable settings b c) :
    Generable settings b' c where
  trigger := generable.trigger
  once := by
    rw [DeclaredOnce, differs.declarations_eq ne]
    exact generable.once
  supported p member := by
    rw [IsUnsupported, classify_congr fun other _ => differs.isModel_eq other]
    exact generable.supported p member
  acyclic := generable.acyclic.transfer (fun _ here => (differs.references_eq here).symm) quiet
  resolved p member model := by
    rw [Dangles, classify_congr fun other _ => differs.isModel_eq other, differs.record?_eq]
    exact generable.resolved p member model

end DiffersAt

/-! ## Passes over such batches -/

/-- What the declarations of an ambiguous name mean to a class of another name. -/
structure Influence (settings : Settings) (name : String) (b b' : Batch) (r r' : Report)
    (c : ModelClass) : Prop where
  /-- Where the name refers to the same models or leads to no cycle in either batch, and is spelled
  alike, the class has the same result and the same fate. -/
  result :
    (Reaches (discover b).references c.qualifiedName name →
      (discover b').references name = (discover b).references name ∨
        AcyclicFrom (discover b).references name ∧ AcyclicFrom (discover b').references name) →
    (discover b').className name = (discover b).className name →
    generate settings (discover b') c = generate settings (discover b) c ∧
      ∀ f, r'.Lists c.qualifiedName f ↔ r.Lists c.qualifiedName f
  /-- Where the name leads to a cycle in both batches or in neither, the class is generated in both
  or in neither. -/
  generated :
    (Reaches (discover b).references c.qualifiedName name →
      (AcyclicFrom (discover b').references name ↔ AcyclicFrom (discover b).references name)) →
    (c.qualifiedName ∈ r'.generated ↔ c.qualifiedName ∈ r.generated)
  skipped : c.qualifiedName ∈ r'.skipped ↔ c.qualifiedName ∈ r.skipped
  /-- A cycle behind the name stops the class, although the name has no record. -/
  cyclic : Reaches (discover b).references c.qualifiedName name →
    ¬ AcyclicFrom (discover b).references name → c.qualifiedName ∉ r.generated
  /-- A class that refers to the name itself is generated in neither batch. -/
  direct : Refers (discover b).references c.qualifiedName name →
    c.qualifiedName ∉ r.generated ∧ c.qualifiedName ∉ r'.generated

/-- A class that refers to an ambiguous name cannot be generated. -/
theorem DiffersAt.not_generable {settings : Settings} {name : String} {b b' : Batch}
    (differs : DiffersAt name b b') {c : ModelClass}
    (refers : Refers (discover b).references c.qualifiedName name) : ¬ Generable settings b c := by
  intro generable
  rw [Refers, references_discover generable.once] at refers
  obtain ⟨p, member, target⟩ := List.mem_filterMap.1 refers
  exact generable.resolved p member name ⟨target, differs.record?_eq_none⟩

/-- **What an ambiguous name means to other classes.** Its last declaration gives the name its
references and its spelling. Of these only the cycles behind the name decide whether another class
is generated, and only for a class that reaches the name. -/
theorem run_differsAt {σ τ : Type} (settings : Settings) {name : String} {b b' : Batch}
    (differs : DiffersAt name b b') {c : ModelClass} (listed : c ∈ b.classes)
    (ne : c.qualifiedName ≠ name) {sink : Sink σ} (accepts : sink.Accepts) {sink' : Sink τ}
    (accepts' : sink'.Accepts) (start : σ) (start' : τ) :
    Influence settings name b b' (run settings b sink start).report
      (run settings b' sink' start').report c := by
  have listed' := differs.listed listed ne
  have generated : c.qualifiedName ∈ (run settings b sink start).report.generated ↔
      Generable settings b c :=
    (lists_run_iff accepts listed).trans (verdict_eq_generated listed)
  have generated' : c.qualifiedName ∈ (run settings b' sink' start').report.generated ↔
      Generable settings b' c :=
    (lists_run_iff accepts' listed').trans (verdict_eq_generated listed')
  constructor
  case result =>
    intro same spelled
    have agree : generate settings (discover b') c = generate settings (discover b) c :=
      (differs.agreeOn spelled same).generate_eq
    refine ⟨agree, fun f => ?_⟩
    rw [lists_run_iff accepts listed, lists_run_iff accepts' listed',
      verdict_congr (differs.isAmbiguous_eq _) agree]
  case generated =>
    intro same
    rw [generated, generated']
    -- a generated class reaches no cycle, so neither does the name behind it
    constructor
    · intro generable
      refine differs.symm.generable ne (fun way' => ?_) generable
      have way := reaches_name (fun a here => differs.symm.references_eq here) way'
      exact (same way).1 (generable.acyclic.of_reaches way')
    · intro generable
      refine differs.generable ne (fun way => ?_) generable
      exact (same way).2 (generable.acyclic.of_reaches way)
  case skipped =>
    have skipped : c.qualifiedName ∈ (run settings b sink start).report.skipped ↔ _ :=
      (lists_run_iff accepts listed (f := .skipped)).trans verdict_eq_skipped
    have skipped' : c.qualifiedName ∈ (run settings b' sink' start').report.skipped ↔ _ :=
      (lists_run_iff accepts' listed' (f := .skipped)).trans verdict_eq_skipped
    rw [skipped, skipped', differs.isAmbiguous_eq]
  case cyclic =>
    intro way leads listed
    exact leads ((generated.1 listed).acyclic.of_reaches way)
  case direct =>
    intro refers
    have refers' : Refers (discover b').references c.qualifiedName name := by
      rw [Refers, differs.references_eq ne]
      exact refers
    exact ⟨mt generated.1 (differs.not_generable refers),
      mt generated'.1 (differs.symm.not_generable refers')⟩

/-! ## Rivals -/

/-- A holder that reaches two declarations of one name through another class. -/
def rivalBatch (first last : ModelClass) : Batch :=
  .ofClasses [shopClass "Holder" ["shop.Middle"], shopClass "Middle" ["shop.Rival"], first, last,
    shopClass "Leaf" []]

/-- A declaration of the name with the given references. -/
def rival (models : List String) : ModelClass := shopClass "Rival" models

theorem differsAt_rivalBatch (first last first' last' : List String) :
    DiffersAt "shop.Rival" (rivalBatch (rival first) (rival last))
      (rivalBatch (rival first') (rival last')) where
  classes := .cons (.inl rfl) (.cons (.inl rfl) (.cons (.inr ⟨rfl, rfl⟩)
    (.cons (.inr ⟨rfl, rfl⟩) (.cons (.inl rfl) .nil))))
  externals := rfl
  ambiguous := by
    rw [length_declarations]
    exact Nat.le_refl 2

/-- The last rival refers to a leaf. -/
def leafLast : Batch := rivalBatch (rival []) (rival ["shop.Leaf"])

/-- The last rival refers to nothing, and the other one to the holder. -/
def holderFirst : Batch := rivalBatch (rival ["shop.Holder"]) (rival [])

/-- The last rival leads to no cycle in either batch, so the holder has the same result. -/
theorem leafLast_influence :
    DiffersAt "shop.Rival" leafLast holderFirst ∧
      shopClass "Holder" ["shop.Middle"] ∈ leafLast.classes ∧
      (shopClass "Holder" ["shop.Middle"]).qualifiedName ≠ "shop.Rival" ∧
      MemoryStore.sink.Accepts ∧
      generate {} (discover holderFirst) (shopClass "Holder" ["shop.Middle"]) =
        generate {} (discover leafLast) (shopClass "Holder" ["shop.Middle"]) := by
  have differs : DiffersAt "shop.Rival" leafLast holderFirst := differsAt_rivalBatch _ _ _ _
  have other : (shopClass "Holder" ["shop.Middle"]).qualifiedName ≠ "shop.Rival" := by decide
  have influence := run_differsAt {} differs List.mem_cons_self other MemoryStore.accepts_sink
    MemoryStore.accepts_sink .empty .empty
  have quiet : AcyclicFrom (discover leafLast).references "shop.Rival" :=
    findCycle?_eq_none.1 (by rfl)
  have quiet' : AcyclicFrom (discover holderFirst).references "shop.Rival" :=
    findCycle?_eq_none.1 (by rfl)
  exact ⟨differs, List.mem_cons_self, other, MemoryStore.accepts_sink,
    (influence.result (fun _ => .inr ⟨quiet, quiet'⟩) (by rfl)).1⟩

/-- **The order of two declarations leaks into other classes.** When the rival that refers to itself
comes last, the holder and the class between them fail with a cycle. When it comes first, the holder
is generated, and only the class between them fails, for the rival has no record. -/
theorem rivalBatch_leaks :
    DiffersAt "shop.Rival" (rivalBatch (rival ["shop.Rival"]) (rival []))
        (rivalBatch (rival []) (rival ["shop.Rival"])) ∧
      (run {} (rivalBatch (rival ["shop.Rival"]) (rival [])) MemoryStore.sink .empty).report =
        ⟨["shop.Holder", "shop.Leaf"], [],
          [⟨"shop.Middle", .unresolvedReference "Middle" "shop.Rival" "shop.Rival"⟩,
            ⟨"shop.Rival", .configuration (.declaredTwice "shop.Rival")⟩]⟩ ∧
      (run {} (rivalBatch (rival []) (rival ["shop.Rival"])) MemoryStore.sink .empty).report =
        ⟨["shop.Leaf"], [],
          [⟨"shop.Holder", .cyclicReference "shop.Holder" ["shop.Rival", "shop.Rival"]⟩,
            ⟨"shop.Middle", .cyclicReference "shop.Middle" ["shop.Rival", "shop.Rival"]⟩,
            ⟨"shop.Rival", .configuration (.declaredTwice "shop.Rival")⟩]⟩ :=
  ⟨differsAt_rivalBatch _ _ _ _, by decide +kernel, by decide +kernel⟩

end RecordSynthesis
