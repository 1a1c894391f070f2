import Mathlib.Tactic.Choose
import RecordSynthesis.Proofs.Accounting
import RecordSynthesis.Proofs.GeneratedCode

/-!
# Models survive the way through their records

A model converted to its record and back again is the same model, and on both ways every object is
converted once (`round_trip`). A model is well-typed when every property holds a value of its
classification (`Fits`); it may hold other models, alone or in lists, to any depth.

The proof is by induction on the typing. `Translates` is what both conversions do to the value of
a property: scalars stay, models are converted by themselves and lists by the helper. `Mirrors` is
the invariant: a value on the record translates from and to the one on the model. A record mirrors
a model when its values do, because the statements on the members of the class
(`Generated.toStorage_gives`, `Generated.toModel_gives`) ask for nothing else.
-/

set_option autoImplicit false

namespace RecordSynthesis

open Snapshot

variable {α : Type}

/-! ## Statements -/

/-- What the helper for lists must do: convert all elements in order. -/
structure ListHelper.Contract (settings : Settings) (helper : ListHelper α) : Prop where
  modelsToRecords : ∀ convert items,
    helper settings.listHelperClass settings.modelsToRecords convert [.list items] =
      Datum.list <$> items.mapM (convert settings.toStorageMethod)
  recordsToModels : ∀ convert items,
    helper settings.listHelperClass settings.recordsToModels convert [.list items] =
      Datum.list <$> items.mapM (convert settings.toModelMethod)

/-- A value of a classification: a scalar, a model with a fitting value for each of its generated
properties, or a list of such models. -/
inductive Fits (b : Batch) : Classification → Datum α → Prop where
  | primitive (kind : Primitive) (a : α) : Fits b (.primitive kind) (.scalar a)
  | scalar (kind : Scalar) (a : α) : Fits b (.scalar kind) (.scalar a)
  | nested {c : ModelClass} {entries : List (Property × Datum α)} (listed : c ∈ b.classes)
      (covers : entries.map Prod.fst = c.generatedProperties)
      (fits : ∀ e ∈ entries, Fits b ((discover b).classify e.1.type) e.2) :
      Fits b (.nested c.qualifiedName)
        (.object c.names.implementation (entries.map fun e => (e.1.name, e.2)))
  | modelList {model : String} {items : List (Datum α)}
      (fits : ∀ v ∈ items, Fits b (.nested model) v) :
      Fits b (.modelList model) (.list items)

/-- One call of a method for every object in a value, each before those for its fields. -/
def callsOn (method : String) (v : Datum α) : List (Call α) := v.objects.map fun o => ⟨method, o⟩

theorem callsOn_list (method : String) (items : List (Datum α)) :
    callsOn method (.list items) = items.flatMap (callsOn method) := by
  rw [callsOn, Datum.objects_list, List.map_flatMap]
  rfl

theorem callsOn_object (method : String) (type : ClassName) (fields : List (String × Datum α)) :
    callsOn method (.object type fields) =
      ⟨method, .object type fields⟩ :: fields.flatMap fun field => callsOn method field.2 := by
  rw [callsOn, Datum.objects_object, List.map_cons, List.map_flatMap]
  rfl

/-- From some depth on a method gives a value and is called once on every object. -/
def Program.Converts (p : Program α) (enough : Nat) (method : String) (v w : Datum α) : Prop :=
  ∀ depth ≥ enough, Gives ((p.routines depth).result v method []) w (callsOn method v)

theorem Program.Converts.mono {p : Program α} {enough enough' : Nat} {method : String}
    {v w : Datum α} (converts : p.Converts enough method v w) (more : enough ≤ enough') :
    p.Converts enough' method v w := by
  intro depth granted
  exact converts depth (more.trans granted)

/-! ## Values of properties -/

/-- What a conversion makes of the value of a property. -/
inductive Translates (p : Program α) (enough : Nat) (method : String) :
    Classification → Datum α → Datum α → Prop where
  | scalar {classification : Classification} (plain : classification.referencedModel? = none)
      (a : α) :
      Translates p enough method classification (.scalar a) (.scalar a)
  | nested {model : String} {v w : Datum α} (converts : p.Converts enough method v w) :
      Translates p enough method (.nested model) v w
  | modelList {model : String} {pairs : List (Datum α × Datum α)}
      (converts : ∀ x ∈ pairs, p.Converts enough method x.1 x.2) :
      Translates p enough method (.modelList model) (.list (pairs.map Prod.fst))
        (.list (pairs.map Prod.snd))

section Translation

variable {p : Program α} {enough : Nat} {method : String} {classification : Classification}
  {v w : Datum α}

theorem Translates.mono (translates : Translates p enough method classification v w)
    {enough' : Nat} (more : enough ≤ enough') :
    Translates p enough' method classification v w := by
  cases translates with
  | scalar plain a => exact .scalar plain a
  | nested converts => exact .nested (converts.mono more)
  | modelList converts => exact .modelList fun x member => (converts x member).mono more

theorem Translates.converts {model : String}
    (translates : Translates p enough method (.nested model) v w) :
    p.Converts enough method v w := by
  cases translates with
  | scalar plain a => cases plain
  | nested converts => exact converts

theorem Translates.of_map {model : String} {ι : Type} {items : List ι} {first second : ι → Datum α}
    (converts : ∀ i ∈ items, p.Converts enough method (first i) (second i)) :
    Translates p enough method (.modelList model) (.list (items.map first))
      (.list (items.map second)) := by
  have pairs : ∀ x ∈ items.map (fun i => (first i, second i)),
      p.Converts enough method x.1 x.2 := by
    intro x member
    obtain ⟨i, listed, rfl⟩ := List.mem_map.1 member
    exact converts i listed
  have translates : Translates p enough method (.modelList model) _ _ := .modelList pairs
  rw [List.map_map, List.map_map] at translates
  exact translates

/-- The expression for the converted value of a property. -/
def convertedValue (owner : ClassName) (method listMethod : String) (value : Expression) :
    Classification → Expression
  | .nested _ => .invoke value method []
  | .modelList _ => .invokeStatic owner listMethod [value]
  | _ => value

theorem storedValue_eq (settings : Settings) (q : ClassifiedProperty) :
    storedValue settings q = convertedValue settings.listHelperClass settings.toStorageMethod
      settings.modelsToRecords (.call q.property.accessor []) q.classification := by
  obtain ⟨q, classification⟩ := q
  cases classification <;> rfl

theorem restoredValue_eq (settings : Settings) (q : ClassifiedProperty) :
    restoredValue settings q = convertedValue settings.listHelperClass settings.toModelMethod
      settings.recordsToModels (.named q.property.name) q.classification := by
  obtain ⟨q, classification⟩ := q
  cases classification <;> rfl

theorem convertedValue_of_plain (owner : ClassName) (method listMethod : String)
    (value : Expression) (plain : classification.referencedModel? = none) :
    convertedValue owner method listMethod value classification = value := by
  cases classification with
  | nested model => cases plain
  | modelList model => cases plain
  | primitive kind => rfl
  | scalar kind => rfl
  | unsupported => rfl

/-- The expression gives what the conversion makes of the value. -/
theorem convertedValue_gives {owner : ClassName} {listMethod : String}
    (contract : ∀ convert items, p.helper owner listMethod convert [.list items] =
      Datum.list <$> items.mapM (convert method))
    (translates : Translates p enough method classification v w) {depth : Nat}
    (granted : enough ≤ depth) {f : Frame α} {value : Expression}
    (read : Gives (evaluate (p.routines (depth + 1)) f value) v []) :
    Gives (evaluate (p.routines (depth + 1)) f
      (convertedValue owner method listMethod value classification)) w (callsOn method v) := by
  cases translates with
  | scalar plain a =>
      rw [convertedValue_of_plain owner method listMethod value plain, callsOn, Datum.objects]
      exact read
  | nested converts =>
      have converted := converts (depth + 1) (granted.trans (Nat.le_succ depth))
      exact read.quietly (.quietly (.pure _) converted)
  | @modelList _ pairs converts =>
      have each : ∀ x ∈ pairs, Gives ((p.routines depth).result x.1 method []) x.2
          (callsOn method x.1) := by
        intro x member
        exact converts x member depth granted
      have listed : Gives ((p.routines (depth + 1)).invokeStatic owner listMethod
          [.list (pairs.map Prod.fst)]) (.list (pairs.map Prod.snd))
          (callsOn method (.list (pairs.map Prod.fst))) := by
        rw [Program.invokeStatic_routines, contract, List.mapM_map, callsOn_list, List.flatMap_map]
        exact (Gives.mapM each).map _
      exact (evaluateAll_gives_singleton read).quietly listed

end Translation

/-! ## Models -/

/-- Choices with a bound for every element of a list have a bound for all of them. -/
theorem exists_choice_bound {ι β : Type} [Nonempty β] {Q : Nat → ι → β → Prop}
    (mono : ∀ {m n i w}, m ≤ n → Q m i w → Q n i w) {items : List ι}
    (each : ∀ i ∈ items, ∃ w n, Q n i w) :
    ∃ (choice : ι → β) (n : Nat), ∀ i ∈ items, Q n i (choice i) := by
  choose! choice bounded using each
  refine ⟨choice, ?_⟩
  induction items with
  | nil => exact ⟨0, fun _ member => (List.not_mem_nil member).elim⟩
  | cons i items ih =>
      obtain ⟨⟨m, first⟩, others⟩ := List.forall_mem_cons.1 bounded
      obtain ⟨n, rest⟩ := ih others
      refine ⟨max m n, List.forall_mem_cons.2 ⟨mono (Nat.le_max_left m n) first, ?_⟩⟩
      intro j member
      exact mono (Nat.le_max_right m n) (rest j member)

theorem length_flatMap_congr {ι β : Type} {items : List ι} {first second : ι → List β}
    (same : ∀ i ∈ items, (first i).length = (second i).length) :
    (items.flatMap first).length = (items.flatMap second).length := by
  rw [List.length_flatMap, List.length_flatMap, List.map_congr_left same]

section Models

variable {settings : Settings} {b : Batch} {helper : ListHelper α} {c : ModelClass}
  {g : GeneratedClass} {stored : List StoredProperty} {slots : List (Slot α)} {enough : Nat}

theorem callsOn_model (method : String) (c : ModelClass) (slots : List (Slot α)) :
    callsOn method (Slot.model c slots) =
      ⟨method, Slot.model c slots⟩ :: slots.flatMap fun x => callsOn method x.onModel := by
  rw [Slot.model, callsOn_object, List.flatMap_map]

theorem callsOn_record (method : String) (c : ModelClass) (slots : List (Slot α)) :
    callsOn method (Slot.record c slots) =
      ⟨method, Slot.record c slots⟩ :: slots.flatMap fun x => callsOn method x.onRecord := by
  rw [Slot.record, callsOn_object, List.flatMap_map]

/-- A model converts to its record when its values do. -/
theorem Generated.converts_toStorage (contract : helper.Contract settings) (named : b.WellNamed)
    (generated : Generated settings b c g stored)
    (covers : slots.map (·.property) = c.generatedProperties)
    (translates : ∀ x ∈ slots, Translates (program settings b helper) enough
      settings.toStorageMethod ((discover b).classify x.property.type) x.onModel x.onRecord) :
    (program settings b helper).Converts (enough + 2) settings.toStorageMethod
      (Slot.model c slots) (Slot.record c slots) := by
  intro depth granted
  obtain ⟨depth, rfl⟩ : ∃ k, depth = k + 2 := ⟨depth - 2, by omega⟩
  have values : ∀ x ∈ slots, ∀ locals,
      Gives (evaluate ((program settings b helper).routines (depth + 1))
        ⟨Slot.model c slots, locals⟩ (storedValue settings (x.classified (discover b))))
        x.onRecord (callsOn settings.toStorageMethod x.onModel) := by
    intro x member locals
    have listed : x.property ∈ c.generatedProperties := covers ▸ List.mem_map_of_mem member
    have read : Gives (evaluate ((program settings b helper).routines (depth + 1))
        ⟨Slot.model c slots, locals⟩ (.call x.property.accessor [])) x.onModel [] := by
      rw [evaluate_call_nil]
      exact Program.result_gives (generated.accessor_gives named listed
        (lookup_map (generated.nodup_names named covers) member))
    rw [storedValue_eq]
    exact convertedValue_gives contract.modelsToRecords (translates x member) (by omega) read
  rw [callsOn_model]
  exact generated.toStorage_gives named covers values

/-- A record converts to its model when its values do. -/
theorem Generated.converts_toModel (contract : helper.Contract settings) (named : b.WellNamed)
    (generated : Generated settings b c g stored)
    (covers : slots.map (·.property) = c.generatedProperties)
    (translates : ∀ x ∈ slots, Translates (program settings b helper) enough
      settings.toModelMethod ((discover b).classify x.property.type) x.onRecord x.onModel) :
    (program settings b helper).Converts (enough + 2) settings.toModelMethod
      (Slot.record c slots) (Slot.model c slots) := by
  intro depth granted
  obtain ⟨depth, rfl⟩ : ∃ k, depth = k + 2 := ⟨depth - 2, by omega⟩
  have values : ∀ x ∈ slots,
      Gives (evaluate ((program settings b helper).routines (depth + 1))
        ⟨Slot.record c slots, []⟩ (restoredValue settings (x.classified (discover b))))
        x.onModel (callsOn settings.toModelMethod x.onRecord) := by
    intro x member
    have read : Gives (evaluate ((program settings b helper).routines (depth + 1))
        ⟨Slot.record c slots, []⟩ (.named x.property.name)) x.onRecord [] :=
      .ofOption (lookup_map (generated.nodup_names named covers) member)
    rw [restoredValue_eq]
    exact convertedValue_gives contract.recordsToModels (translates x member) (by omega) read
  rw [callsOn_record]
  exact generated.toModel_gives named covers values

/-- A value of a record stands for a value of a model: each becomes the other by a conversion, and
both have as many objects. -/
structure Mirrors (settings : Settings) (b : Batch) (helper : ListHelper α) (enough : Nat)
    (classification : Classification) (v w : Datum α) : Prop where
  forth : Translates (program settings b helper) enough settings.toStorageMethod classification v w
  back : Translates (program settings b helper) enough settings.toModelMethod classification w v
  size : w.objects.length = v.objects.length

namespace Mirrors

variable {classification : Classification} {v w : Datum α}

theorem mono (mirrors : Mirrors settings b helper enough classification v w) {enough' : Nat}
    (more : enough ≤ enough') : Mirrors settings b helper enough' classification v w where
  forth := mirrors.forth.mono more
  back := mirrors.back.mono more
  size := mirrors.size

theorem scalar (plain : classification.referencedModel? = none) (a : α) :
    Mirrors settings b helper 0 classification (.scalar a) (.scalar a) where
  forth := .scalar plain a
  back := .scalar plain a
  size := rfl

/-- A list of records stands for a list of models. -/
theorem modelList {model : String} {items : List (Datum α)} {onRecord : Datum α → Datum α}
    (each : ∀ v ∈ items, Mirrors settings b helper enough (.nested model) v (onRecord v)) :
    Mirrors settings b helper enough (.modelList model) (.list items)
      (.list (items.map onRecord)) where
  forth := by
    have forth : Translates (program settings b helper) enough settings.toStorageMethod
        (.modelList model) (.list (items.map id)) (.list (items.map onRecord)) :=
      .of_map fun v member => (each v member).forth.converts
    rw [List.map_id] at forth
    exact forth
  back := by
    have back : Translates (program settings b helper) enough settings.toModelMethod
        (.modelList model) (.list (items.map onRecord)) (.list (items.map id)) :=
      .of_map fun v member => (each v member).back.converts
    rw [List.map_id] at back
    exact back
  size := by
    rw [Datum.objects_list, Datum.objects_list, List.flatMap_map]
    apply length_flatMap_congr
    intro v member
    exact (each v member).size

/-- A record stands for a model when its values stand for those of the model. -/
theorem nested (contract : helper.Contract settings) (named : b.WellNamed)
    (generated : Generated settings b c g stored)
    (covers : slots.map (·.property) = c.generatedProperties)
    (each : ∀ x ∈ slots, Mirrors settings b helper enough
      ((discover b).classify x.property.type) x.onModel x.onRecord) :
    Mirrors settings b helper (enough + 2) (.nested c.qualifiedName) (Slot.model c slots)
      (Slot.record c slots) where
  forth := by
    apply Translates.nested
    apply generated.converts_toStorage contract named covers
    intro x member
    exact (each x member).forth
  back := by
    apply Translates.nested
    apply generated.converts_toModel contract named covers
    intro x member
    exact (each x member).back
  size := by
    rw [Slot.record, Slot.model, Datum.objects_object, Datum.objects_object, List.length_cons,
      List.length_cons, List.flatMap_map, List.flatMap_map]
    apply congrArg Nat.succ
    apply length_flatMap_congr
    intro x member
    exact (each x member).size

end Mirrors

/-- **Some record stands for every fitting value**, by induction on the typing. -/
theorem Fits.exists_record (contract : helper.Contract settings) (named : b.WellNamed)
    (complete : ∀ c, DeclaredOnce b c → c.isApplicable →
      ∃ g, generate settings (discover b) c = .ok g)
    {classification : Classification} {v : Datum α} (fits : Fits b classification v)
    (resolved : ∀ model, classification.referencedModel? = some model →
      (discover b).record? model ≠ none) :
    ∃ w enough, Mirrors settings b helper enough classification v w := by
  induction fits with
  | primitive kind a => exact ⟨.scalar a, 0, .scalar rfl a⟩
  | scalar kind a => exact ⟨.scalar a, 0, .scalar rfl a⟩
  | @modelList model items fits ih =>
      have each : ∀ v ∈ items, ∃ w enough,
          Mirrors settings b helper enough (.nested model) v w := by
        intro v member
        exact ih v member resolved
      obtain ⟨onRecord, enough, mirrors⟩ :=
        exists_choice_bound (fun more mirrors => mirrors.mono more) each
      exact ⟨.list (items.map onRecord), enough, .modelList mirrors⟩
  | @nested c entries listed covers fits ih =>
      obtain ⟨record, found⟩ := Option.ne_none_iff_exists'.1 (resolved c.qualifiedName rfl)
      obtain ⟨d, once, same, applicable, -⟩ := record?_discover_eq_some.1 found
      obtain rfl := once.unique listed same.symm
      obtain ⟨g, result⟩ := complete c once applicable
      obtain ⟨stored, generated⟩ := exists_generated listed result
      have generable := ((generate_eq_ok listed).1 result).1
      have each : ∀ e ∈ entries, ∃ w enough, Mirrors settings b helper enough
          ((discover b).classify e.1.type) e.2 w := by
        intro e member
        apply ih e member
        intro model refers missing
        have property : e.1 ∈ c.generatedProperties := covers ▸ List.mem_map_of_mem member
        exact generable.resolved e.1 property model ⟨refers, missing⟩
      obtain ⟨onRecord, enough, mirrors⟩ :=
        exists_choice_bound (fun more mirrors => mirrors.mono more) each
      let slots : List (Slot α) := entries.map fun e => ⟨e.1, e.2, onRecord e⟩
      have covered : slots.map (·.property) = c.generatedProperties := by
        rw [← covers, List.map_map]
        rfl
      have model : Slot.model c slots =
          .object c.names.implementation (entries.map fun e => (e.1.name, e.2)) := by
        rw [Slot.model, List.map_map]
        rfl
      rw [← model]
      refine ⟨Slot.record c slots, enough + 2, .nested contract named generated covered ?_⟩
      intro x member
      obtain ⟨e, entry, rfl⟩ := List.mem_map.1 member
      exact mirrors e entry

end Models

/-- **Models survive the way through their records.** When a pass into any sink reports no failure,
every well-typed model of a generated class converts to a record that converts back to the model.
The record has as many objects as the model, and each of the two conversions is called once on
every object of its value. -/
theorem round_trip {σ : Type} (settings : Settings) (b : Batch) (sink : Sink σ) (start : σ)
    (helper : ListHelper α) (contract : helper.Contract settings) (named : b.WellNamed)
    (success : (run settings b sink start).report.isSuccess) (c : ModelClass)
    (listed : c ∈ b.classes)
    (generated : c.qualifiedName ∈ (run settings b sink start).report.generated)
    (m : Datum α) (fits : Fits b (.nested c.qualifiedName) m) :
    ∃ record,
      (program settings b helper).Yields m settings.toStorageMethod record
        (callsOn settings.toStorageMethod m) ∧
      (program settings b helper).Yields record settings.toModelMethod m
        (callsOn settings.toModelMethod record) ∧
      record.objects.length = m.objects.length := by
  have complete : ∀ d, DeclaredOnce b d → d.isApplicable →
      ∃ g, generate settings (discover b) d = .ok g := by
    intro d once applicable
    exact generate_of_isSuccess success once applicable
  have resolved : ∀ model, (Classification.nested c.qualifiedName).referencedModel? = some model →
      (discover b).record? model ≠ none := by
    rintro model ⟨⟩
    obtain ⟨once, g, result⟩ := generate_of_mem_generated listed generated
    obtain ⟨stored, loaded⟩ := exists_generated listed result
    rw [record?_discover_eq_some.2 ⟨c, once, rfl, loaded.isApplicable, rfl⟩]
    exact Option.some_ne_none _
  obtain ⟨record, enough, mirrors⟩ := fits.exists_record contract named complete resolved
  exact ⟨record, ⟨enough, mirrors.forth.converts⟩, ⟨enough, mirrors.back.converts⟩, mirrors.size⟩

/-! ## A shop -/

/-- The helper for lists as its methods are named in the settings. -/
def elementwise (settings : Settings) : ListHelper α := fun owner method convert args =>
  match args with
  | [.list items] =>
    if owner = settings.listHelperClass ∧ method = settings.modelsToRecords then
      Datum.list <$> items.mapM (convert settings.toStorageMethod)
    else if owner = settings.listHelperClass ∧ method = settings.recordsToModels then
      Datum.list <$> items.mapM (convert settings.toModelMethod)
    else failure
  | _ => failure

/-- The helper does what it must when its two methods have different names. -/
theorem elementwise_contract {settings : Settings}
    (differ : settings.modelsToRecords ≠ settings.recordsToModels) :
    (elementwise settings : ListHelper α).Contract settings where
  modelsToRecords convert items := if_pos ⟨rfl, rfl⟩
  recordsToModels convert items := by
    rw [elementwise, if_neg fun same => differ same.2.symm, if_pos ⟨rfl, rfl⟩]

/-- A customer has a name. -/
def customerClass : ModelClass where
  package := "crm"
  simpleName := "Customer"
  trigger := some "toRealmObject"
  properties := [{ name := "name", accessor := "getName", type := .declared "java.lang.String" [] }]

/-- A line of a basket has a quantity. -/
def itemClass : ModelClass where
  package := "shop"
  enclosing := ["Basket"]
  simpleName := "Item"
  trigger := some "toRealmObject"
  properties := [{ name := "quantity", accessor := "quantity", type := .primitive .int }]

/-- A basket has a customer and a list of items. -/
def basketClass : ModelClass where
  package := "shop"
  simpleName := "Basket"
  trigger := some "toRealmObject"
  properties :=
    [{ name := "customer", accessor := "getCustomer", type := .declared "crm.Customer" [] },
      { name := "items", accessor := "getItems",
        type := .declared listTypeName [.declared "shop.Basket.Item" []] }]

def shopBatch : Batch := .ofClasses [basketClass, customerClass, itemClass]

/-- An item of some quantity. -/
def anItem (quantity : Nat) : Datum Nat :=
  .object itemClass.names.implementation [("quantity", .scalar quantity)]

/-- A basket with two items. -/
def aBasket : Datum Nat :=
  .object basketClass.names.implementation
    [("customer", .object customerClass.names.implementation [("name", .scalar 7)]),
      ("items", .list [anItem 3, anItem 5])]

theorem mem_shopBatch {c : ModelClass} (listed : c ∈ shopBatch.classes) :
    c = basketClass ∨ c = customerClass ∨ c = itemClass := by
  simpa [shopBatch, Batch.ofClasses] using listed

theorem shopBatch_wellNamed : shopBatch.WellNamed where
  implementation c listed _ := by
    rcases mem_shopBatch listed with rfl | rfl | rfl <;> rfl
  accessors c listed _ := by
    rcases mem_shopBatch listed with rfl | rfl | rfl <;> decide
  setters c listed _ := by
    rcases mem_shopBatch listed with rfl | rfl | rfl <;> decide
  records c listed d listed' _ _ same := by
    rcases mem_shopBatch listed with rfl | rfl | rfl <;>
      rcases mem_shopBatch listed' with rfl | rfl | rfl <;>
        first
        | rfl
        | exact absurd same (by decide)

theorem anItem_fits (quantity : Nat) :
    Fits shopBatch (.nested itemClass.qualifiedName) (anItem quantity) := by
  refine @Fits.nested Nat shopBatch itemClass (itemClass.properties.zip [.scalar quantity])
    (by simp [shopBatch, Batch.ofClasses]) rfl ?_
  refine List.forall_mem_cons.2 ⟨?_, nofun⟩
  exact .primitive .int quantity

theorem aBasket_fits : Fits shopBatch (.nested basketClass.qualifiedName) aBasket := by
  have customer : Fits shopBatch (.nested customerClass.qualifiedName)
      (.object customerClass.names.implementation [("name", .scalar 7)]) := by
    refine @Fits.nested Nat shopBatch customerClass (customerClass.properties.zip [.scalar 7])
      (by simp [shopBatch, Batch.ofClasses]) rfl ?_
    refine List.forall_mem_cons.2 ⟨?_, nofun⟩
    exact .scalar .text 7
  have items : Fits shopBatch (.modelList itemClass.qualifiedName) (.list [anItem 3, anItem 5]) :=
    .modelList (List.forall_mem_cons.2 ⟨anItem_fits 3,
      List.forall_mem_cons.2 ⟨anItem_fits 5, nofun⟩⟩)
  refine @Fits.nested Nat shopBatch basketClass (basketClass.properties.zip
    [.object customerClass.names.implementation [("name", .scalar 7)],
      .list [anItem 3, anItem 5]]) List.mem_cons_self rfl ?_
  exact List.forall_mem_cons.2 ⟨customer, List.forall_mem_cons.2 ⟨items, nofun⟩⟩

theorem aBasket_round_trip :
    (run {} shopBatch MemoryStore.sink .empty).report =
        ⟨["shop.Basket", "crm.Customer", "shop.Basket.Item"], [], []⟩ ∧
      ∃ record,
        (program {} shopBatch (elementwise {})).Yields aBasket "toRealmObject" record
          (callsOn "toRealmObject" aBasket) ∧
        (program {} shopBatch (elementwise {})).Yields record "toModel" aBasket
          (callsOn "toModel" record) ∧
        record.objects.length = 4 := by
  have report : (run {} shopBatch MemoryStore.sink .empty).report =
      ⟨["shop.Basket", "crm.Customer", "shop.Basket.Item"], [], []⟩ := by decide +kernel
  refine ⟨report, ?_⟩
  refine round_trip {} shopBatch MemoryStore.sink .empty (elementwise {})
    (elementwise_contract (by decide)) shopBatch_wellNamed ?_ basketClass List.mem_cons_self ?_
    aBasket aBasket_fits
  · rw [report]
    rfl
  · rw [report]
    decide

end RecordSynthesis
