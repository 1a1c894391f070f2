import RecordSynthesis.Proofs.Classification
import RecordSynthesis.Proofs.GeneratedCode
import RecordSynthesis.Proofs.ReferenceClosure

/-!
# Types across generated classes

A class that refers to a model finds the record and the class of the model in the snapshot, by the
text of the name. The files of the model take both from the model itself. The two ways lead to the
same types, wherever the package of the model ends: what the field and the setter of the reference
hold is what the conversion of the model makes, and what the constructor takes is what the
conversion of the record gives back (`memberTypes_agree`).
-/

set_option autoImplicit false

namespace RecordSynthesis

open Snapshot

/-! ## The types of members -/

/-- A generated class holds its property at a place: the record by a field and a setter, both of the
stored type, and the implementation by a constructor parameter of the given type. -/
structure HoldsAt (g : GeneratedClass) (i : Nat) (p : Property) (stored given : TypeName) :
    Prop where
  field : ∃ f, g.record.declaration.fields[i]? = some f ∧ f.name = p.name ∧ f.type = stored
  setter : ∃ m, g.record.declaration.methods[i]? = some m ∧ m.name? = some (setterName p.name) ∧
    m.parameters = [⟨stored, p.name⟩]
  parameter : ∃ m, g.implementation.declaration.constructor? = some m ∧
    m.parameters[i]? = some ⟨given, p.name⟩

/-- The conversions of a generated class lead from the model to the record, which is the class of
the record's file, and back to the model, which is the type argument of its interface. -/
structure ConvertsBetween (settings : Settings) (g : GeneratedClass) (model record : ClassName) :
    Prop where
  declared : g.record.className = record
  toStorage : ∃ m, g.implementation.declaration.findOverload? settings.toStorageMethod 0 = some m ∧
    m.returns? = some (.ofClass record)
  toModel : ∃ m, g.record.declaration.findOverload? settings.toModelMethod 0 = some m ∧
    m.returns? = some (.ofClass model)
  interface : g.record.declaration.interfaces =
    [.parameterized settings.conversionInterfaceClass [.ofClass model]]

section Members

variable {settings : Settings} {b : Batch} {c : ModelClass} {g : GeneratedClass}

/-- The conversions of a class lead between its own model and record. -/
theorem convertsBetween_of_generate (listed : c ∈ b.classes)
    (result : generate settings (discover b) c = .ok g) :
    ConvertsBetween settings g c.names.model c.names.record := by
  obtain ⟨stored, generated⟩ := exists_generated listed result
  rw [generated.files]
  exact ⟨rfl, ⟨_, findOverload?_toStorage .., rfl⟩, ⟨_, findOverload?_toModel .., rfl⟩, rfl⟩

/-- The constructor of an implementation takes the properties in order, as the snapshot spells their
types. -/
theorem constructor?_parameters {s : Snapshot} {v : ValidatedClass} {i : Nat}
    {q : ClassifiedProperty} (here : v.properties[i]? = some q) :
    ∃ m, (implementationDeclaration s v
        (toStorageMethod settings v.source.names v)).constructor? = some m ∧
      m.parameters[i]? = some (constructorParameter s q) := by
  rw [constructor?_implementation, implementationConstructors]
  split
  next empty =>
    rw [empty] at here
    cases here
  next =>
    refine ⟨_, rfl, ?_⟩
    rw [List.getElem?_map, here]
    rfl

/-- Every property of a class is held by the type of its field and the type of the property. -/
theorem exists_holdsAt (listed : c ∈ b.classes)
    (result : generate settings (discover b) c = .ok g) {i : Nat} {p : Property}
    (here : c.generatedProperties[i]? = some p) :
    ∃ type, recordFieldType settings (discover b) c ⟨p, (discover b).classify p.type⟩ = .ok type ∧
      HoldsAt g i p type ((discover b).typeName p.type) := by
  obtain ⟨_, stored, resolved, rfl⟩ := (generate_eq_ok listed).1 result
  obtain ⟨same, found⟩ := storedProperties_spec resolved
  rw [← same, List.getElem?_map, Option.map_eq_some_iff] at here
  obtain ⟨q, here, rfl⟩ := here
  refine ⟨q.recordType, found q (List.mem_of_getElem? here), ?_⟩
  constructor
  case field => exact ⟨recordField settings q, (recordDeclaration_members here).1, rfl, rfl⟩
  case setter => exact ⟨recordSetter q, (recordDeclaration_members here).2, rfl, rfl⟩
  case parameter =>
    refine constructor?_parameters (q := ⟨q.property, (discover b).classify q.property.type⟩) ?_
    change (c.generatedProperties.map _)[i]? = _
    rw [← same, List.map_map, List.getElem?_map, here]
    rfl

end Members

/-! ## References -/

section References

variable {settings : Settings} {b : Batch} {c d : ModelClass} {g : GeneratedClass}

/-- The snapshot knows a generable class by the record that the class gives itself. -/
theorem Generable.record?_eq (generable : Generable settings b d) :
    (discover b).record? d.qualifiedName = some d.names.record := by
  refine record?_discover_eq_some.2 ⟨d, generable.once, rfl, ?_, rfl⟩
  rw [ModelClass.isApplicable, generable.trigger]
  rfl

/-- The snapshot splits the name of a generable class as the class splits it. -/
theorem Generable.className_eq (generable : Generable settings b d) :
    (discover b).className d.qualifiedName = d.names.model := by
  have once : declarations b.classes d.qualifiedName = [d] := generable.once
  rw [className_discover, once]
  rfl

/-- A property that refers to a generable class holds its record, and is of the type that stands for
the class. -/
theorem Generable.exists_holdsAt (generable : Generable settings b d) (listed : c ∈ b.classes)
    (result : generate settings (discover b) c = .ok g) {i : Nat} {p : Property}
    (here : c.generatedProperties[i]? = some p)
    (refers : ((discover b).classify p.type).referencedModel? = some d.qualifiedName) :
    ∃ stored, ((discover b).classify p.type).holding? settings d.names.record = some stored ∧
      ((discover b).classify p.type).referringType? = some p.type ∧
      HoldsAt g i p stored ((discover b).typeName p.type) := by
  obtain ⟨stored, found, holds⟩ := RecordSynthesis.exists_holdsAt listed result here
  obtain ⟨record, resolved, held⟩ := holding?_of_recordFieldType refers found
  rw [generable.record?_eq] at resolved
  cases resolved
  exact ⟨stored, held, (referringType?_classify refers).1, holds⟩

/-- **Generated classes agree on types.** Let two classes of a batch be generated, and let a
property of the first refer to the second. If it refers to one model, it is stored as what the
second class converts itself to, and given as what the record of the second class converts itself
to. If it refers to a list, it is stored and given as lists of these. -/
theorem memberTypes_agree (settings : Settings) {b : Batch} {c d : ModelClass}
    {g h : GeneratedClass} (listed : c ∈ b.classes) (listed' : d ∈ b.classes)
    (result : generate settings (discover b) c = .ok g)
    (result' : generate settings (discover b) d = .ok h) :
    ConvertsBetween settings h d.names.model d.names.record ∧
      ∀ i p, c.generatedProperties[i]? = some p →
        ((discover b).classify p.type = .nested d.qualifiedName →
          HoldsAt g i p (.ofClass d.names.record) (.ofClass d.names.model)) ∧
        ((discover b).classify p.type = .modelList d.qualifiedName →
          HoldsAt g i p (.parameterized settings.recordListClass [.ofClass d.names.record])
            (.parameterized ((discover b).className listTypeName) [.ofClass d.names.model])) := by
  have generable := ((generate_eq_ok listed').1 result').1
  refine ⟨convertsBetween_of_generate listed' result', fun i p here => ⟨?_, ?_⟩⟩
  · intro nested
    obtain ⟨stored, held, shape, holds⟩ :=
      generable.exists_holdsAt listed result here (by rw [nested]; rfl)
    rw [nested] at held shape
    cases held
    rwa [← Option.some.inj shape, typeName, generable.className_eq] at holds
  · intro list
    obtain ⟨stored, held, shape, holds⟩ :=
      generable.exists_holdsAt listed result here (by rw [list]; rfl)
    rw [list] at held shape
    cases held
    rwa [← Option.some.inj shape, typeName, typeName, typeNames, generable.className_eq] at holds

end References

/-- A basket within a class of a lowercase name, so that its dotted name does not show where the
package ends. -/
def innerClass : ModelClass where
  package := "shop"
  enclosing := ["order"]
  simpleName := "Basket"
  trigger := some "toRealmObject"

/-- A customer with one basket and a list of others. -/
def ownerClass : ModelClass where
  package := "crm"
  simpleName := "Customer"
  trigger := some "toRealmObject"
  properties :=
    [.ofAccessor "getBasket" (.declared "shop.order.Basket" []),
      .ofAccessor "getOthers" (.declared "java.util.List" [.declared "shop.order.Basket" []])]

/-- The customer and the basket, whose name is listed as an external one as well. -/
def ownerBatch : Batch := ⟨[ownerClass, innerClass], ["shop.order.Basket"]⟩

/-- The parameter types of the customer know that the basket is an inner class. -/
theorem ownerBatch_memberTypes :
    ∃ g h, generate {} (discover ownerBatch) ownerClass = .ok g ∧
      generate {} (discover ownerBatch) innerClass = .ok h ∧
      ConvertsBetween {} h ⟨"shop", ["order"], "Basket"⟩ ⟨"shop", [], "$Realmorder_Basket"⟩ ∧
      HoldsAt g 0 (.ofAccessor "getBasket" (.declared "shop.order.Basket" []))
        (.ofClass ⟨"shop", [], "$Realmorder_Basket"⟩) (.ofClass ⟨"shop", ["order"], "Basket"⟩) ∧
      HoldsAt g 1
        (.ofAccessor "getOthers" (.declared "java.util.List" [.declared "shop.order.Basket" []]))
        (.parameterized ⟨"io.realm", [], "RealmList"⟩ [.ofClass ⟨"shop", [], "$Realmorder_Basket"⟩])
        (.parameterized ⟨"java.util", [], "List"⟩ [.ofClass ⟨"shop", ["order"], "Basket"⟩]) := by
  have owner : ∃ g, generate {} (discover ownerBatch) ownerClass = .ok g := ⟨_, rfl⟩
  have inner : ∃ h, generate {} (discover ownerBatch) innerClass = .ok h := ⟨_, rfl⟩
  obtain ⟨g, result⟩ := owner
  obtain ⟨h, result'⟩ := inner
  obtain ⟨converts, members⟩ := memberTypes_agree {} (b := ownerBatch) List.mem_cons_self
    (List.mem_cons_of_mem _ List.mem_cons_self) result result'
  refine ⟨g, h, result, result', converts, ?_, ?_⟩
  · exact (members 0 _ rfl).1 rfl
  · exact (members 1 _ rfl).2 rfl

end RecordSynthesis
