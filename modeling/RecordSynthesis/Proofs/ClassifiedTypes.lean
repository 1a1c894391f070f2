import RecordSynthesis.Proofs.Discovery
import RecordSynthesis.Proofs.PrintedTypes

/-!
# Exact classifications

Each classification belongs to types of one shape. Scalars are found by their printed text, which
says nothing of the shape by itself: the name `byte[]` prints as the binary blob does. A descriptor
that was read is well formed, though, and prints as a scalar only when it is that scalar's type
(`scalar?_eq_some_iff`). So primitives and scalars do not depend on the models, and everything else
depends on them monotonically (`classify_structural`).

A name that stands for itself is a scalar before it is a model, but the element of a list is only
asked whether it is a model. The two agree exactly when no model has the name of a scalar
(`classify_list`).
-/

set_option autoImplicit false

namespace RecordSynthesis

/-! ## Scalars as types -/

namespace Scalar

/-- The type of a scalar. The binary blob is an array of bytes, and each of the others a declared
type without arguments. -/
def type : Scalar → Descriptor
  | blob => .array (.primitive .byte)
  | kind => .declared kind.typeText []

theorem print_type (kind : Scalar) : kind.type.print = kind.typeText := by cases kind <;> rfl

theorem ofTypeText?_eq_some_iff {text : String} {kind : Scalar} :
    ofTypeText? text = some kind ↔ text = kind.typeText := by
  constructor
  · intro found
    have same := List.find?_some found
    exact (of_decide_eq_true same).symm
  · rintro rfl
    exact ofTypeText?_typeText kind

/-- No scalar has the text of a name that is not its own type's. -/
theorem ofTypeText?_eq_none_iff {text : String} :
    ofTypeText? text = none ↔ ∀ kind : Scalar, text ≠ kind.typeText := by
  simp only [Option.eq_none_iff_forall_ne_some, ne_eq, ofTypeText?_eq_some_iff]

/-- The type of every scalar can be read from a text. -/
theorem wellFormed_type (kind : Scalar) : kind.type.WellFormed := by
  have names : ∀ name ∈ kind.type.names, name.toList ≠ [] ∧
      name.toList.all Descriptor.isNameChar = true ∧ Primitive.ofName? name = none := by
    cases kind <;> decide +kernel
  intro name inside
  obtain ⟨nonempty, chars, unreserved⟩ := names name inside
  exact ⟨⟨nonempty, List.all_eq_true.1 chars⟩, Descriptor.free_iff.1 unreserved⟩

end Scalar

/-- A descriptor that can be read prints as a scalar only if it is the scalar's type. -/
theorem scalar?_eq_some_iff {t : Descriptor} (wellFormed : t.WellFormed) {kind : Scalar} :
    t.scalar? = some kind ↔ t = kind.type := by
  constructor
  · intro found
    have text : t.print = kind.type.print := by
      rw [kind.print_type, ← Scalar.ofTypeText?_eq_some_iff]
      cases t with
      | primitive => cases found
      | array => exact found
      | declared => exact found
    -- Both are read back from the text that they share.
    have back := Descriptor.read_print_of_wellFormed wellFormed
    rw [text, Descriptor.read_print_of_wellFormed kind.wellFormed_type] at back
    exact (Except.ok.inj back).symm
  · rintro rfl
    have printed : kind.type.scalar? = Scalar.ofTypeText? kind.type.print := by cases kind <;> rfl
    rw [printed, kind.print_type, Scalar.ofTypeText?_typeText]

/-! ## The types of each classification -/

section Shapes

variable {isModel : String → Bool} {t : Descriptor} {model : String}

theorem classify_of_scalar?_eq_some {kind : Scalar} (found : t.scalar? = some kind) :
    classify isModel t = .scalar kind := by
  cases t with
  | primitive => cases found
  | array component => simp only [classify, found]
  | declared name args => simp only [classify, found]

/-- A type that is neither primitive nor scalar is a reference or unsupported. -/
theorem classify_cases (isModel : String → Bool) (t : Descriptor) :
    (∃ kind, t = .primitive kind) ∨ (∃ kind, t.scalar? = some kind) ∨
      classify isModel t = .unsupported ∨
        ∃ model, (classify isModel t).referencedModel? = some model := by
  cases scalar : t.scalar? with
  | some kind => exact .inr (.inl ⟨kind, rfl⟩)
  | none =>
      cases classified_by t with
      | fixed kind plain rule =>
          by_cases primitive : ∃ kind, t = .primitive kind
          · exact .inl primitive
          · have other : ∀ kind, t ≠ .primitive kind := fun kind same => primitive ⟨kind, same⟩
            -- Without any model, no type is a reference.
            have unsupported : classifyReference (fun _ => false) t = .unsupported := by
              unfold classifyReference
              split <;> simp
            rw [← classify_of_scalar?_eq_none scalar other, rule] at unsupported
            exact .inr (.inr (.inl ((rule isModel).trans unsupported)))
      | reference kind model refers shape rule =>
          rw [rule]
          split
          next => exact .inr (.inr (.inr ⟨model, refers⟩))
          next => exact .inr (.inr (.inl rfl))

theorem classify_eq_primitive_iff {kind : Primitive} :
    classify isModel t = .primitive kind ↔ t = .primitive kind := by
  constructor
  · intro classified
    obtain ⟨kind', rfl⟩ | ⟨scalar, found⟩ | unsupported | ⟨model, refers⟩ :=
      classify_cases isModel t
    · cases classified
      rfl
    · rw [classify_of_scalar?_eq_some found] at classified
      cases classified
    · rw [unsupported] at classified
      cases classified
    · rw [classified] at refers
      cases refers
  · rintro rfl
    rfl

theorem classify_eq_scalar_iff {kind : Scalar} :
    classify isModel t = .scalar kind ↔ t.scalar? = some kind := by
  refine ⟨fun classified => ?_, classify_of_scalar?_eq_some⟩
  obtain ⟨primitive, rfl⟩ | ⟨kind', found⟩ | unsupported | ⟨model, refers⟩ :=
    classify_cases isModel t
  · cases classified
  · rw [classify_of_scalar?_eq_some found] at classified
    cases classified
    exact found
  · rw [unsupported] at classified
    cases classified
  · rw [classified] at refers
    cases refers

/-- A bare name is a scalar before it is a model. -/
theorem classify_eq_nested_iff : classify isModel t = .nested model ↔
    t = .declared model [] ∧ isModel model ∧ ∀ kind : Scalar, model ≠ kind.typeText := by
  constructor
  · intro classified
    have refers : (classify isModel t).referencedModel? = some model := by rw [classified]; rfl
    obtain ⟨shape, known⟩ := referringType?_classify refers
    rw [classified] at shape
    cases shape
    refine ⟨rfl, known, fun kind same => ?_⟩
    have scalar : (Descriptor.declared model []).scalar? = some kind :=
      Scalar.ofTypeText?_eq_some_iff.2 same
    rw [classify_of_scalar?_eq_some scalar] at classified
    cases classified
  · rintro ⟨rfl, known, noScalar⟩
    have scalar : (Descriptor.declared model []).scalar? = none :=
      Scalar.ofTypeText?_eq_none_iff.2 noScalar
    rw [classify_of_scalar?_eq_none scalar nofun, classifyReference, if_pos known]

/-- The element of a list need only be a model. -/
theorem classify_eq_modelList_iff : classify isModel t = .modelList model ↔
    t = .declared listTypeName [.declared model []] ∧ isModel model := by
  constructor
  · intro classified
    have refers : (classify isModel t).referencedModel? = some model := by rw [classified]; rfl
    obtain ⟨shape, known⟩ := referringType?_classify refers
    rw [classified] at shape
    cases shape
    exact ⟨rfl, known⟩
  · rintro ⟨rfl, known⟩
    have scalar : (Descriptor.declared listTypeName [.declared model []]).scalar? = none := by
      refine Scalar.ofTypeText?_eq_none_iff.2 fun kind same => ?_
      have bracket : '<' ∈ kind.typeText.toList := by
        rw [← same]
        simp [Descriptor.print]
      revert bracket
      cases kind <;> decide
    rw [classify_of_scalar?_eq_none scalar nofun]
    simp [classifyReference, known]

end Shapes

/-! ## Scalars and primitives do not depend on the models -/

/-- **Classification is structural and monotone.** A type that was read is primitive exactly when it
is one, and a scalar exactly when it is that scalar's type, whatever is known. With more models, any
type is classified as before, or it was unsupported and is now a reference to a new model. -/
theorem classify_structural :
    (∀ (text : String) (t : Descriptor), Descriptor.read text = .ok t → ∀ s : Snapshot,
      (∀ kind, s.classify t = .primitive kind ↔ t = .primitive kind) ∧
        ∀ kind, s.classify t = .scalar kind ↔ t = kind.type) ∧
      ∀ s s' : Snapshot, (∀ name, s.isModel name → s'.isModel name) → ∀ t : Descriptor,
        s'.classify t = s.classify t ∨ s.classify t = .unsupported ∧ ∃ model,
          (s'.classify t = .nested model ∨ s'.classify t = .modelList model) ∧
            s'.isModel model ∧ s.isModel model = false := by
  constructor
  · intro text t read s
    refine ⟨fun kind => classify_eq_primitive_iff, fun kind => ?_⟩
    rw [Snapshot.classify, classify_eq_scalar_iff,
      scalar?_eq_some_iff (Descriptor.wellFormed_of_read read)]
  · intro s s' more t
    refine (classify_of_le more t).imp_right fun ⟨unsupported, model, refers, unknown⟩ => ?_
    refine ⟨unsupported, model, ?_, (referringType?_classify refers).2, unknown⟩
    rw [Snapshot.classify]
    cases kind : classify s'.isModel t with
    | nested other =>
        rw [kind] at refers
        cases refers
        exact .inl rfl
    | modelList other =>
        rw [kind] at refers
        cases refers
        exact .inr rfl
    | primitive | scalar | unsupported =>
        rw [kind] at refers
        cases refers

set_option maxRecDepth 4000 in
/-- White space does not hide the binary blob, nor do models of the names in it, and a list of
customers is supported as soon as the customer is a model. -/
theorem customerList_structural :
    Descriptor.read "byte [ ]" = .ok (.array (.primitive .byte)) ∧
      (Snapshot.discover ⟨[], ["byte", "byte[]"]⟩).classify (.array (.primitive .byte)) =
        .scalar .blob ∧
      (∀ name, (Snapshot.discover {}).isModel name →
        (Snapshot.discover ⟨[], ["crm.Customer"]⟩).isModel name) ∧
      ∃ model,
        (Snapshot.discover ⟨[], ["crm.Customer"]⟩).classify
          (.declared listTypeName [.declared "crm.Customer" []]) = .modelList model ∧
        (Snapshot.discover {}).isModel model = false := by
  have read : Descriptor.read "byte [ ]" = .ok (.array (.primitive .byte)) := rfl
  have more : ∀ name, (Snapshot.discover {}).isModel name →
      (Snapshot.discover ⟨[], ["crm.Customer"]⟩).isModel name := nofun
  refine ⟨read, ((classify_structural.1 _ _ read _).2 .blob).2 rfl, more, ?_⟩
  obtain same | ⟨_, model, nested | list, _, new⟩ :=
    classify_structural.2 _ _ more (.declared listTypeName [.declared "crm.Customer" []])
  · cases same
  · cases nested
  · exact ⟨model, list, new⟩

/-! ## Lists -/

/-- **When a list follows the classification of its element.** A type is a list of a model exactly
when its element is a nested reference to the model, or is a scalar that has the name of the model.
So lists follow their elements exactly when no model has the name of a scalar. -/
theorem classify_list (s : Snapshot) :
    (∀ (t : Descriptor) (model : String), s.classify t = .modelList model ↔
      ∃ element, t = .declared listTypeName [element] ∧ (s.classify element = .nested model ∨
        element = .declared model [] ∧ s.isModel model ∧
          ∃ kind, s.classify element = .scalar kind)) ∧
      ((∀ (t : Descriptor) (model : String), s.classify t = .modelList model ↔
        ∃ element, t = .declared listTypeName [element] ∧ s.classify element = .nested model) ↔
          ∀ kind : Scalar, s.isModel kind.typeText = false) := by
  constructor
  · intro t model
    rw [Snapshot.classify, classify_eq_modelList_iff]
    constructor
    · rintro ⟨rfl, known⟩
      refine ⟨_, rfl, ?_⟩
      by_cases scalar : ∃ kind : Scalar, model = kind.typeText
      · obtain ⟨kind, named⟩ := scalar
        refine .inr ⟨rfl, known, kind, classify_eq_scalar_iff.2 ?_⟩
        exact Scalar.ofTypeText?_eq_some_iff.2 named
      · refine .inl (classify_eq_nested_iff.2 ⟨rfl, known, ?_⟩)
        exact fun kind named => scalar ⟨kind, named⟩
    · rintro ⟨element, rfl, nested | ⟨rfl, known, _⟩⟩
      · obtain ⟨rfl, known, _⟩ := classify_eq_nested_iff.1 nested
        exact ⟨rfl, known⟩
      · exact ⟨rfl, known⟩
  · constructor
    · intro follows kind
      by_contra known
      have list : s.classify (.declared listTypeName [.declared kind.typeText []]) =
          .modelList kind.typeText :=
        classify_eq_modelList_iff.2 ⟨rfl, by simpa using known⟩
      obtain ⟨element, shape, nested⟩ := (follows _ _).1 list
      cases shape
      exact (classify_eq_nested_iff.1 nested).2.2 kind rfl
    · intro unknown t model
      rw [Snapshot.classify, classify_eq_modelList_iff]
      constructor
      · rintro ⟨rfl, known⟩
        refine ⟨_, rfl, classify_eq_nested_iff.2 ⟨rfl, known, ?_⟩⟩
        rintro kind rfl
        rw [unknown kind] at known
        cases known
      · rintro ⟨element, rfl, nested⟩
        obtain ⟨rfl, known, _⟩ := classify_eq_nested_iff.1 nested
        exact ⟨rfl, known⟩

/-- Once a model has the name of the text, a list of texts is a list of that model, although a text
alone is stored as it is and is no nested reference. -/
theorem markedText_list :
    (Snapshot.discover ⟨[], ["java.lang.String"]⟩).classify (.declared "java.lang.String" []) =
        .scalar .text ∧
      (Snapshot.discover ⟨[], ["java.lang.String"]⟩).classify
        (.declared "java.util.List" [.declared "java.lang.String" []]) =
          .modelList "java.lang.String" ∧
      ¬ ∃ element, Descriptor.declared "java.util.List" [.declared "java.lang.String" []] =
          .declared listTypeName [element] ∧
        (Snapshot.discover ⟨[], ["java.lang.String"]⟩).classify element =
          .nested "java.lang.String" := by
  refine ⟨rfl, rfl, ?_⟩
  rintro ⟨element, shape, nested⟩
  cases shape
  cases nested

end RecordSynthesis
