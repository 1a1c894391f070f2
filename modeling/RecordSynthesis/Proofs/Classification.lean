import RecordSynthesis.Classification

/-!
# How models decide a classification

A type is classified in one of two ways (`classified_by`). Either its classification is the same
whatever the models are, or the type stands for a model or a list of a model and refers to it if
there is a model of that name. So the classification asks for names that occur in the type and for
nothing else (`classify_eq_of_names`), and where more models change it, an unsupported type becomes
a reference to one of the new models (`classify_of_le`).
-/

set_option autoImplicit false

namespace RecordSynthesis

/-! ## The names in a type -/

namespace Descriptor

mutual

/-- The names of the declared types in a descriptor, at any depth. -/
def names : Descriptor → List String
  | .primitive _ => []
  | .array component => component.names
  | .declared name args => name :: namesOfAll args

/-- The names of the declared types in the descriptors of a list. -/
def namesOfAll : List Descriptor → List String
  | [] => []
  | t :: more => t.names ++ namesOfAll more

end

end Descriptor

/-! ## Types that stand for models -/

namespace Classification

/-- The type by which a property refers to a model or to a list of models. -/
def referringType? : Classification → Option Descriptor
  | nested model => some (.declared model [])
  | modelList model => some (.declared listTypeName [.declared model []])
  | _ => none

/-- The name of the model occurs in the type that refers to it. -/
theorem mem_names_of_referringType? {kind : Classification} {model : String} {t : Descriptor}
    (refers : kind.referencedModel? = some model) (shape : kind.referringType? = some t) :
    model ∈ t.names := by
  cases kind with
  | nested other =>
      cases refers
      cases shape
      simp [Descriptor.names]
  | modelList other =>
      cases refers
      cases shape
      simp [Descriptor.names, Descriptor.namesOfAll]
  | primitive kind => cases refers
  | scalar kind => cases refers
  | unsupported => cases refers

end Classification

/-! ## Two ways to classify -/

/-- How the classification of a type depends on the models. -/
inductive ClassifiedBy (t : Descriptor) : Prop where
  /-- Not at all. -/
  | fixed (kind : Classification) (plain : kind.referencedModel? = none)
      (rule : ∀ isModel, classify isModel t = kind) : ClassifiedBy t
  /-- The type refers to the model that it stands for, if there is one of that name. -/
  | reference (kind : Classification) (model : String)
      (refers : kind.referencedModel? = some model) (shape : kind.referringType? = some t)
      (rule : ∀ isModel, classify isModel t = if isModel model then kind else .unsupported) :
      ClassifiedBy t

/-- A type that is neither primitive nor scalar is classified as a reference. -/
theorem classify_of_scalar?_eq_none {t : Descriptor} (scalar : t.scalar? = none)
    (other : ∀ kind, t ≠ .primitive kind) (isModel : String → Bool) :
    classify isModel t = classifyReference isModel t := by
  cases t with
  | primitive kind => exact (other kind rfl).elim
  | array component => simp only [classify, scalar]
  | declared name args => simp only [classify, scalar]

/-- A type that stands neither for a model nor for a list of a model is unsupported as a
reference. -/
theorem classifyReference_eq_unsupported {t : Descriptor} (name : ∀ model, t ≠ .declared model [])
    (list : ∀ model, t ≠ .declared listTypeName [.declared model []]) (isModel : String → Bool) :
    classifyReference isModel t = .unsupported := by
  unfold classifyReference
  split
  next model => exact (name model rfl).elim
  next listName model =>
    have differs : listName ≠ listTypeName := fun same => list model (by rw [same])
    simp [differs]
  next => rfl

/-- **Every type is classified in one of the two ways.** -/
theorem classified_by (t : Descriptor) : ClassifiedBy t := by
  by_cases primitive : ∃ kind, t = .primitive kind
  · obtain ⟨kind, rfl⟩ := primitive
    exact .fixed (.primitive kind) rfl fun _ => rfl
  have other : ∀ kind, t ≠ .primitive kind := fun kind same => primitive ⟨kind, same⟩
  cases scalar : t.scalar? with
  | some kind =>
      refine .fixed (.scalar kind) rfl fun isModel => ?_
      cases t with
      | primitive kind => exact (other kind rfl).elim
      | array component => simp only [classify, scalar]
      | declared name args => simp only [classify, scalar]
  | none =>
      have reference := classify_of_scalar?_eq_none scalar other
      by_cases name : ∃ model, t = .declared model []
      · obtain ⟨model, rfl⟩ := name
        refine .reference (.nested model) model rfl rfl fun isModel => ?_
        rw [reference, classifyReference]
      by_cases list : ∃ model, t = .declared listTypeName [.declared model []]
      · obtain ⟨model, rfl⟩ := list
        refine .reference (.modelList model) model rfl rfl fun isModel => ?_
        simp [reference, classifyReference]
      refine .fixed .unsupported rfl fun isModel => (reference isModel).trans ?_
      apply classifyReference_eq_unsupported
      · intro model same
        exact name ⟨model, same⟩
      · intro model same
        exact list ⟨model, same⟩

/-! ## Consequences -/

section Consequences

variable {isModel isModel' : String → Bool} {t : Descriptor} {model : String}

/-- A model matters only if its name occurs in the type. -/
theorem classify_eq_of_names (same : ∀ name ∈ t.names, isModel' name = isModel name) :
    classify isModel' t = classify isModel t := by
  cases classified_by t with
  | fixed kind plain rule => rw [rule, rule]
  | reference kind model refers shape rule =>
      rw [rule, rule, same model (Classification.mem_names_of_referringType? refers shape)]

/-- A type that refers to a model stands for it, and there is a model of that name. -/
theorem referringType?_classify (refers : (classify isModel t).referencedModel? = some model) :
    (classify isModel t).referringType? = some t ∧ isModel model := by
  cases classified_by t with
  | fixed kind plain rule =>
      rw [rule, plain] at refers
      cases refers
  | reference kind other stands shape rule =>
      rw [rule] at refers ⊢
      split at refers
      next known =>
        rw [stands] at refers
        cases refers
        rw [if_pos known]
        exact ⟨shape, known⟩
      next => cases refers

theorem mem_names_of_referencedModel?
    (refers : (classify isModel t).referencedModel? = some model) : model ∈ t.names :=
  Classification.mem_names_of_referringType? refers (referringType?_classify refers).1

/-- With more models a type is classified as before, or it was unsupported and refers to one of the
new models. -/
theorem classify_of_le (more : ∀ name, isModel name → isModel' name) (t : Descriptor) :
    classify isModel' t = classify isModel t ∨ classify isModel t = .unsupported ∧
      ∃ model, (classify isModel' t).referencedModel? = some model ∧ isModel model = false := by
  cases classified_by t with
  | fixed kind plain rule => exact .inl (by rw [rule, rule])
  | reference kind model refers shape rule =>
      rw [rule, rule]
      cases known : isModel model with
      | true => exact .inl (by rw [if_pos (more model known), if_pos rfl])
      | false =>
          cases isModel' model with
          | true => exact .inr ⟨rfl, model, refers, known⟩
          | false => exact .inl rfl

end Consequences

end RecordSynthesis
