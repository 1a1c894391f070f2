import RecordSynthesis.Proofs.Classification
import RecordSynthesis.Proofs.CycleSearch
import RecordSynthesis.Proofs.Generation

/-!
# Discovery by sweeps

A snapshot can be filled by four sweeps over a batch, each of which goes on with the entries that
the one before leaves: the external names are entered; the classes are entered over them; the names
that were entered for more than one class are marked and lose their record; and every class writes
the models that it refers to into the entry of its name. The last sweep needs the entries of the
others, since a type refers to a model only if the name of the model is there.

A step of a sweep changes the entry of one name, and a later step for the same name leaves no trace
of an earlier one (`Dictionary.Rewrites`). So the last item of a name decides what a sweep does to
its entry, and the filled snapshot is the discovered one (`fill_eq_discover`). The main statement
`discover_describes` adds what a snapshot says about its batch.
-/

set_option autoImplicit false

namespace RecordSynthesis

/-! ## Sweeps over a dictionary -/

namespace Dictionary

variable {κ α ι : Type} [Ord κ] [Std.TransOrd κ] [Std.LawfulEqOrd κ] [DecidableEq κ]

/-- Changes the value of a key, if there is one. -/
def change (d : Dictionary κ α) (k : κ) (f : α → α) : Dictionary κ α :=
  match d.find? k with
  | some v => d.insert k (f v)
  | none => d

theorem find?_change (d : Dictionary κ α) (k : κ) (f : α → α) (j : κ) :
    (d.change k f).find? j = if k = j then (d.find? j).map f else d.find? j := by
  rw [change]
  by_cases same : k = j
  · subst same
    cases found : d.find? k with
    | some v => simp [find?_insert]
    | none => simp [found]
  · rw [if_neg same]
    cases d.find? k with
    | some v => rw [find?_insert, if_neg same]
    | none => rfl

/-- A step of a sweep changes the value of one key, and whatever an earlier step did to the value of
that key does not matter. -/
structure Rewrites (step : Dictionary κ α → ι → Dictionary κ α) (key : ι → κ)
    (effect : ι → Option α → Option α) : Prop where
  find? : ∀ d i k, (step d i).find? k = if key i = k then effect i (d.find? k) else d.find? k
  absorbs : ∀ i j v, effect j (effect i v) = effect j v

theorem rewrites_insert (key : ι → κ) (value : ι → α) :
    Rewrites (fun d i => d.insert (key i) (value i)) key fun i _ => some (value i) :=
  ⟨fun d i k => find?_insert d (key i) (value i) k, fun _ _ _ => rfl⟩

theorem rewrites_change (key : ι → κ) (f : ι → α → α) (absorbs : ∀ i j v, f j (f i v) = f j v) :
    Rewrites (fun d i => d.change (key i) (f i)) key fun i v => v.map (f i) := by
  refine ⟨fun d i k => find?_change d (key i) (f i) k, fun i j v => ?_⟩
  rw [Option.map_map]
  exact congrArg (Option.map · v) (funext (absorbs i j))

omit [Std.TransOrd κ] [Std.LawfulEqOrd κ] in
/-- The last item of a key decides what a sweep does to the value of the key. -/
theorem Rewrites.find?_foldl {step : Dictionary κ α → ι → Dictionary κ α} {key : ι → κ}
    {effect : ι → Option α → Option α} (rewrites : Rewrites step key effect) (items : List ι)
    (d : Dictionary κ α) (k : κ) :
    (items.foldl step d).find? k =
      (items.filter fun i => key i = k).getLast?.elim (d.find? k) (effect · (d.find? k)) := by
  induction items generalizing d with
  | nil => rfl
  | cons i items ih =>
      rw [List.foldl_cons, ih, rewrites.find?]
      by_cases same : key i = k
      · rw [if_pos same, List.filter_cons_of_pos (by simpa using same), List.getLast?_cons]
        cases (items.filter fun i => key i = k).getLast? with
        | some j => exact rewrites.absorbs i j _
        | none => rfl
      · rw [if_neg same, List.filter_cons_of_neg (by simpa using same)]

end Dictionary

namespace Snapshot

/-! ## The sweeps -/

/-- The entry of a name that no class declares. -/
def externalEntry (name : String) : KnownModel := ⟨.ofDotted name, none, [], false⟩

/-- The entry of a class on its own, without references. -/
def classEntry (c : ModelClass) : KnownModel where
  model := c.names.model
  record := if c.isApplicable then some c.names.record else none
  references := []
  isAmbiguous := false

/-- Enters an external name. -/
def enterExternal (d : Dictionary String KnownModel) (name : String) :
    Dictionary String KnownModel :=
  d.insert name (externalEntry name)

/-- Enters a class, over whatever has been entered for its name. -/
def enterClass (d : Dictionary String KnownModel) (c : ModelClass) :
    Dictionary String KnownModel :=
  d.insert c.qualifiedName (classEntry c)

/-- An entry once more than one class is known to declare its name. -/
def ambiguous (known : KnownModel) : KnownModel :=
  { known with record := none, isAmbiguous := true }

/-- Marks a name as ambiguous and takes its record away. -/
def markAmbiguous (d : Dictionary String KnownModel) (name : String) :
    Dictionary String KnownModel :=
  d.change name ambiguous

/-- An entry with the models that a class refers to. -/
def referring (isModel : String → Bool) (c : ModelClass) (known : KnownModel) : KnownModel :=
  { known with references := referencesOf isModel c }

/-- Writes the models that a class refers to over the references of its name. -/
def writeReferences (isModel : String → Bool) (d : Dictionary String KnownModel) (c : ModelClass) :
    Dictionary String KnownModel :=
  d.change c.qualifiedName (referring isModel c)

theorem rewrites_enterClass :
    Dictionary.Rewrites enterClass (·.qualifiedName) fun c _ => some (classEntry c) :=
  Dictionary.rewrites_insert (·.qualifiedName) classEntry

theorem rewrites_markAmbiguous :
    Dictionary.Rewrites markAmbiguous id fun _ v => v.map ambiguous :=
  Dictionary.rewrites_change id (fun _ => ambiguous) fun _ _ _ => rfl

theorem rewrites_writeReferences (isModel : String → Bool) :
    Dictionary.Rewrites (writeReferences isModel) (·.qualifiedName) fun c v =>
      v.map (referring isModel c) :=
  Dictionary.rewrites_change (·.qualifiedName) (referring isModel) fun _ _ _ => rfl

/-- The names of classes that earlier classes or the given names have already. -/
def repeatedNames (seen : List String) : List ModelClass → List String
  | [] => []
  | c :: rest =>
    if c.qualifiedName ∈ seen then c.qualifiedName :: repeatedNames seen rest
    else repeatedNames (c.qualifiedName :: seen) rest

/-- The entries of the external names and the classes. -/
def entered (b : Batch) : Dictionary String KnownModel :=
  b.classes.foldl enterClass (b.externalModels.foldl enterExternal .empty)

/-- The entries before the references are written. -/
def marked (b : Batch) : Dictionary String KnownModel :=
  (repeatedNames [] b.classes).foldl markAmbiguous (entered b)

/-- The snapshot that the sweeps leave behind. -/
def fill (b : Batch) : Snapshot :=
  ⟨b.classes.foldl (writeReferences (marked b).contains) (marked b)⟩

/-! ## What the sweeps leave behind -/

section Entries

variable {b : Batch} {name : String}

/-- A name is repeated when the classes declare it twice, or once if it has been seen before. -/
theorem mem_repeatedNames {seen : List String} {classes : List ModelClass} :
    name ∈ repeatedNames seen classes ↔
      (if name ∈ seen then 1 else 2) ≤ (declarations classes name).length := by
  induction classes generalizing seen with
  | nil =>
      rw [repeatedNames, declarations, List.filter_nil, List.length_nil]
      split <;> simp
  | cons c classes ih =>
      rw [declarations] at ih ⊢
      rw [repeatedNames, List.filter_cons]
      by_cases same : c.qualifiedName = name
      · subst same
        by_cases known : c.qualifiedName ∈ seen
        · simp [known]
        · simp [known, ih]
      · have other : name ≠ c.qualifiedName := Ne.symm same
        by_cases known : c.qualifiedName ∈ seen
        · simp [known, same, other, ih]
        · simp [known, same, other, ih]

/-- The last class of a name takes the entry, also that of an external name. -/
theorem find?_entered : (entered b).find? name =
    (declarations b.classes name).getLast?.elim
      (if name ∈ b.externalModels then some (externalEntry name) else none)
      fun c => some (classEntry c) := by
  have externals : (b.externalModels.foldl enterExternal .empty).find? name =
      if name ∈ b.externalModels then some (externalEntry name) else none :=
    Dictionary.find?_ofKeys b.externalModels externalEntry name
  rw [← externals]
  exact rewrites_enterClass.find?_foldl b.classes (b.externalModels.foldl enterExternal .empty) name

/-- A name that several classes declare is marked, and every other entry stays. -/
theorem find?_marked : (marked b).find? name =
    if 2 ≤ (declarations b.classes name).length then ((entered b).find? name).map ambiguous
    else (entered b).find? name := by
  have repeated : name ∈ repeatedNames [] b.classes ↔ 2 ≤ (declarations b.classes name).length := by
    rw [mem_repeatedNames, if_neg List.not_mem_nil]
  have last := rewrites_markAmbiguous.find?_foldl (repeatedNames [] b.classes) (entered b) name
  rw [marked, last, ← if_congr repeated rfl rfl]
  cases marks : ((repeatedNames [] b.classes).filter fun n => id n = name).getLast? with
  | some n =>
      obtain ⟨member, same⟩ := List.mem_filter.1 (List.mem_of_getLast? marks)
      obtain rfl : n = name := of_decide_eq_true same
      rw [if_pos member]
      rfl
  | none =>
      have empty := List.filter_eq_nil_iff.1 (List.getLast?_eq_none_iff.1 marks)
      rw [if_neg fun member => empty name member (decide_eq_true rfl)]
      rfl

/-- The marked entries are those of the known names. -/
theorem contains_marked : (marked b).contains name = decide (name ∈ namesOf b) := by
  rw [Bool.eq_iff_iff, decide_eq_true_iff, Dictionary.contains, find?_marked, find?_entered]
  cases last : (declarations b.classes name).getLast? with
  | some c =>
      obtain ⟨listed, rfl⟩ := mem_declarations.1 (List.mem_of_getLast? last)
      refine iff_of_true ?_ (qualifiedName_mem_namesOf listed)
      split <;> rfl
  | none =>
      have undeclared := List.getLast?_eq_none_iff.1 last
      rw [mem_namesOf_of_undeclared undeclared, undeclared, List.length_nil, if_neg (by decide),
        Option.elim_none]
      split <;> simp [*]

/-- The last class of a name writes its references. -/
theorem find?_fill : (fill b).find? name =
    (declarations b.classes name).getLast?.elim ((marked b).find? name) fun c =>
      ((marked b).find? name).map (referring (fun n => n ∈ namesOf b) c) := by
  have same : (marked b).contains = fun n => decide (n ∈ namesOf b) :=
    funext fun _ => contains_marked
  rw [fill, find?, same]
  exact (rewrites_writeReferences fun n => n ∈ namesOf b).find?_foldl b.classes (marked b) name

/-- **The sweeps fill in the discovered snapshot.** -/
theorem fill_eq_discover (b : Batch) : fill b = discover b := by
  have same (name : String) : (fill b).find? name = (discover b).find? name := by
    rw [find?_fill, find?_discover, find?_marked, find?_entered, describe]
    cases last : (declarations b.classes name).getLast? with
    | some c =>
        have member := List.mem_of_getLast? last
        have declared := List.length_pos_of_mem member
        obtain ⟨listed, rfl⟩ := mem_declarations.1 member
        rw [if_pos (qualifiedName_mem_namesOf listed)]
        by_cases several : 2 ≤ (declarations b.classes c.qualifiedName).length
        · have notOne : (declarations b.classes c.qualifiedName).length ≠ 1 := by omega
          simp [several, notOne, referring, ambiguous, classEntry]
        · have one : (declarations b.classes c.qualifiedName).length = 1 := by omega
          simp [one, referring, classEntry]
    | none =>
        have undeclared := List.getLast?_eq_none_iff.1 last
        simp [undeclared, externalEntry, mem_namesOf_of_undeclared undeclared]
  exact congrArg Snapshot.mk (Dictionary.ext same)

end Entries

/-! ## What a snapshot says about its batch -/

/-- The models that the supported ones of some properties refer to, in order and with
repetitions. -/
def supportedReferences (s : Snapshot) (properties : List Property) : List String :=
  (properties.filter fun p => (s.classify p.type).isSupported).filterMap fun p =>
    (s.classify p.type).referencedModel?

/-- What a snapshot says about the names of a batch. -/
structure Describes (s : Snapshot) (b : Batch) : Prop where
  known : ∀ name, s.isModel name ↔
    name ∈ b.externalModels ∨ ∃ c ∈ b.classes, c.qualifiedName = name
  ambiguous : ∀ name, s.isAmbiguous name ↔ 2 ≤ (declarations b.classes name).length
  /-- Whether the name is listed as an external one does not matter. -/
  record : ∀ name record, s.record? name = some record ↔
    ∃ c, declarations b.classes name = [c] ∧ c.trigger ≠ none ∧
      record = .topLevel c.package (recordTypeName c.chain)
  references : ∀ name c, (declarations b.classes name).getLast? = some c →
    s.references name =
      s.supportedReferences (c.properties.filter fun p => c.trigger ≠ some p.accessor)
  untriggered : ∀ name c, (declarations b.classes name).getLast? = some c → c.trigger = none →
    s.references name = s.supportedReferences c.properties
  /-- A name that is listed as an external one only refers to nothing. -/
  undeclared : ∀ name, declarations b.classes name = [] → s.references name = []
  closed : ∀ name, ∀ model ∈ s.references name, s.isModel model
  /-- The references of a valid class are those of its name. -/
  validated : ∀ c v, DeclaredOnce b c → s.validate c = .ok v →
    v.references = s.references c.qualifiedName

/-- An unsupported property refers to no model. -/
theorem supportedReferences_eq (s : Snapshot) (properties : List Property) :
    s.supportedReferences properties =
      properties.filterMap fun p => (s.classify p.type).referencedModel? := by
  rw [supportedReferences, List.filterMap_filter]
  refine List.filterMap_congr fun p _ => ?_
  cases s.classify p.type <;> rfl

theorem referencesOf_eq (s : Snapshot) (c : ModelClass) : referencesOf s.isModel c =
    s.supportedReferences (c.properties.filter fun p => c.trigger ≠ some p.accessor) := by
  rw [supportedReferences_eq, referencesOf, ModelClass.generatedProperties]
  simp only [ModelClass.isTrigger, decide_not]
  rfl

theorem references_validated (s : Snapshot) (c : ModelClass) :
    (s.validated c).references = referencesOf s.isModel c := by
  rw [ValidatedClass.references, validated, List.filterMap_map]
  rfl

/-- **What discovery finds out about a batch.** The snapshot is the one that the sweeps fill in. Its
names are those of the batch, and what it says about a name is what the classes of that name
say. -/
theorem discover_describes (b : Batch) : fill b = discover b ∧ Describes (discover b) b := by
  refine ⟨fill_eq_discover b, ?_⟩
  have last {name : String} {c : ModelClass}
      (declared : (declarations b.classes name).getLast? = some c) :
      (discover b).references name = (discover b).supportedReferences
        (c.properties.filter fun p => c.trigger ≠ some p.accessor) := by
    rw [references_eq_last, declared, ← referencesOf_eq]
    rfl
  constructor
  case known =>
    intro name
    rw [isModel_discover, decide_eq_true_iff, mem_namesOf]
  case ambiguous =>
    intro name
    rw [isAmbiguous_discover, decide_eq_true_iff]
  case record =>
    intro name record
    rw [record?_discover_eq_some]
    constructor
    · rintro ⟨c, once, rfl, applicable, rfl⟩
      exact ⟨c, once, Option.isSome_iff_ne_none.1 applicable, rfl⟩
    · rintro ⟨c, only, triggered, rfl⟩
      obtain ⟨_, rfl⟩ := mem_declarations.1 (only ▸ List.mem_singleton_self c)
      exact ⟨c, only, rfl, Option.isSome_iff_ne_none.2 triggered, rfl⟩
  case references => exact fun name c declared => last declared
  case untriggered =>
    intro name c declared untriggered
    rw [last declared, untriggered]
    simp
  case undeclared =>
    intro name undeclared
    rw [references_eq_last, undeclared]
    rfl
  case closed =>
    intro name model refers
    obtain ⟨c, _, p, _, target⟩ := refers_discover.1 refers
    exact (referringType?_classify target).2
  case validated =>
    intro c v once valid
    obtain ⟨_, rfl⟩ := validate_eq_ok.1 valid
    rw [references_validated, references_discover once]

/-- The rival is declared twice and has no record, but the references of its last declaration. The
leaf has a record although it is listed as an external model too. -/
example :
    let s := discover ⟨[shopClass "Rival" [], shopClass "Rival" ["shop.Leaf", "shop.Other"],
      shopClass "Leaf" []], ["shop.Leaf", "shop.Other"]⟩
    s.record? "shop.Rival" = none ∧ s.references "shop.Rival" = ["shop.Leaf", "shop.Other"] ∧
      s.record? "shop.Leaf" = some ⟨"shop", [], "$RealmLeaf"⟩ ∧ s.record? "shop.Other" = none := by
  decide +kernel

end Snapshot

end RecordSynthesis
