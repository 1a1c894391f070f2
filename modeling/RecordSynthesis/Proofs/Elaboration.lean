import Mathlib.Data.List.TakeWhile
import RecordSynthesis.Proofs.Generation
import RecordSynthesis.Proofs.Paths
import RecordSynthesis.Schema.Elaboration

/-!
# Which schema files have a batch

A model of a schema file is well formed when its name has no empty segment, the types of its
properties parse, and no two accessors give the same property name. None of this speaks of the order
in which it is tried. A schema file has a batch exactly when all its models are well formed, and the
failure of a file is that of its first model that is not. What is wrong with a single model
(`ModelEntry.Fault`) does have an order: the name comes first, then the first property that cannot
be added to those in front of it. The main statement is `SchemaFile.elaborate_outcome`.

The names that count are the names of properties whose types parse, since the type of an accessor
takes part in the name of its property.
-/

set_option autoImplicit false

namespace RecordSynthesis

open RecordSynthesis.Text

/-! ## Properties -/

namespace PropertyEntry

variable {e : PropertyEntry} {p : Property} {name : String} {failure : Failure}

/-- The type of the entry parses, and its property has the name. -/
def Names (e : PropertyEntry) (name : String) : Prop :=
  ∃ type, Descriptor.read e.type = .ok type ∧
    name = propertyName e.accessor type.isPrimitiveBoolean

/-- The property is what the entry says. -/
structure Yields (e : PropertyEntry) (p : Property) : Prop where
  type : Descriptor.read e.type = .ok p.type
  name : p.name = propertyName e.accessor p.type.isPrimitiveBoolean
  accessor : p.accessor = e.accessor
  primaryKey : p.primaryKey = e.primaryKey
  indexed : p.indexed = e.indexed

theorem elaborate_eq_ok : e.elaborate = .ok p ↔ e.Yields p := by
  rw [elaborate]
  split
  next type read =>
    constructor
    · intro h
      cases h
      exact ⟨read, rfl, rfl, rfl, rfl⟩
    · obtain ⟨name, accessor, type', primaryKey, indexed⟩ := p
      rintro ⟨read', named, rfl, rfl, rfl⟩
      rw [read] at read'
      cases read'
      dsimp only at named
      subst named
      rfl
  next fault failed =>
    refine ⟨nofun, fun yields => ?_⟩
    have read := yields.type
    rw [failed] at read
    cases read

theorem elaborate_eq_error : e.elaborate = .error failure ↔
    ∃ fault, Descriptor.read e.type = .error fault ∧
      failure = .invalidType e.type fault.reason := by
  rw [elaborate]
  split
  next type read => simp [read]
  next fault failed => simp [failed, eq_comm]

/-- The names of an entry are those of its properties. -/
theorem names_iff : e.Names name ↔ ∃ p, e.Yields p ∧ p.name = name := by
  constructor
  · rintro ⟨type, read, rfl⟩
    exact ⟨⟨_, e.accessor, type, e.primaryKey, e.indexed⟩, ⟨read, rfl, rfl, rfl, rfl⟩, rfl⟩
  · rintro ⟨p, yields, rfl⟩
    exact ⟨p.type, yields.type, yields.name⟩

theorem Yields.names (yields : e.Yields p) : e.Names p.name := names_iff.2 ⟨p, yields, rfl⟩

/-- An entry gives one name only. -/
theorem Yields.name_eq (yields : e.Yields p) (named : e.Names name) : p.name = name := by
  obtain ⟨type, read, rfl⟩ := named
  rw [yields.type] at read
  cases read
  exact yields.name

end PropertyEntry

open PropertyEntry

/-- The types of the entries parse, and no two entries give the same property name. -/
structure Compatible (entries : List PropertyEntry) : Prop where
  typed : ∀ e ∈ entries, ∃ type, Descriptor.read e.type = .ok type
  apart : entries.Pairwise fun e d => ¬ ∃ name, e.Names name ∧ d.Names name

section Properties

variable {model : String} {seen : List String} {e : PropertyEntry} {es : List PropertyEntry}
  {ps : List Property} {failure : Failure}

theorem elaborateProperties_cons :
    elaborateProperties model seen (e :: es) = e.elaborate >>= fun p =>
      if p.name ∈ seen then .error (.configuration (.repeatedProperty model p.name))
      else elaborateProperties model (p.name :: seen) es >>= fun ps => .ok (p :: ps) := by
  rw [elaborateProperties]
  rfl

theorem elaborateProperties_cons_eq_ok : elaborateProperties model seen (e :: es) = .ok ps ↔
    ∃ p qs, e.elaborate = .ok p ∧ p.name ∉ seen ∧
      elaborateProperties model (p.name :: seen) es = .ok qs ∧ ps = p :: qs := by
  rw [elaborateProperties_cons, bind_eq_ok]
  constructor
  · rintro ⟨p, first, rest⟩
    split at rest
    next => cases rest
    next new =>
      obtain ⟨qs, others, same⟩ := bind_eq_ok.1 rest
      cases same
      exact ⟨p, qs, first, new, others, rfl⟩
  · rintro ⟨p, qs, first, new, others, rfl⟩
    refine ⟨p, first, ?_⟩
    rw [if_neg new]
    exact bind_eq_ok.2 ⟨qs, others, rfl⟩

theorem elaborateProperties_cons_eq_error :
    elaborateProperties model seen (e :: es) = .error failure ↔
      e.elaborate = .error failure ∨ ∃ p, e.elaborate = .ok p ∧
        (p.name ∈ seen ∧ failure = .configuration (.repeatedProperty model p.name) ∨
          p.name ∉ seen ∧ elaborateProperties model (p.name :: seen) es = .error failure) := by
  rw [elaborateProperties_cons, bind_eq_error]
  refine or_congr_right (exists_congr fun p => and_congr_right fun _ => ?_)
  by_cases known : p.name ∈ seen
  · simp [known, eq_comm]
  · simp [known, bind_eq_error]

/-- The properties are those of the entries, with new and different names. -/
theorem elaborateProperties_eq_ok : elaborateProperties model seen es = .ok ps ↔
    List.Forall₂ Yields es ps ∧ (ps.map (·.name)).Nodup ∧ ∀ p ∈ ps, p.name ∉ seen := by
  induction es generalizing seen ps with
  | nil =>
      rw [elaborateProperties, List.forall₂_nil_left_iff]
      constructor
      · intro h
        cases h
        exact ⟨rfl, List.nodup_nil, nofun⟩
      · rintro ⟨rfl, _⟩
        rfl
  | cons e es ih =>
      rw [elaborateProperties_cons_eq_ok, List.forall₂_cons_left_iff]
      constructor
      · rintro ⟨p, qs, first, new, others, rfl⟩
        obtain ⟨yields, distinct, unseen⟩ := ih.1 others
        refine ⟨⟨p, qs, elaborate_eq_ok.1 first, yields, rfl⟩, ?_, ?_⟩
        · rw [List.map_cons, List.nodup_cons]
          refine ⟨fun again => ?_, distinct⟩
          obtain ⟨q, listed, same⟩ := List.mem_map.1 again
          exact unseen q listed (same ▸ List.mem_cons_self)
        · exact List.forall_mem_cons.2
            ⟨new, fun q listed known => unseen q listed (List.mem_cons_of_mem _ known)⟩
      · rintro ⟨⟨p, qs, first, yields, rfl⟩, distinct, unseen⟩
        rw [List.map_cons, List.nodup_cons] at distinct
        obtain ⟨new, unseen⟩ := List.forall_mem_cons.1 unseen
        refine ⟨p, qs, elaborate_eq_ok.2 first, new, ih.2 ⟨yields, distinct.2, ?_⟩, rfl⟩
        intro q listed
        rw [List.mem_cons, not_or]
        exact ⟨fun same => distinct.1 (List.mem_map.2 ⟨q, listed, same⟩), unseen q listed⟩

/-- The failure is that of the first entry whose type does not parse, or whose name has been seen or
is that of an entry in front of it. -/
theorem elaborateProperties_eq_error : elaborateProperties model seen es = .error failure ↔
    ∃ before e after, es = before ++ e :: after ∧
      ∃ ps, elaborateProperties model seen before = .ok ps ∧
        (e.elaborate = .error failure ∨ ∃ p, e.elaborate = .ok p ∧
          (p.name ∈ seen ∨ p.name ∈ ps.map (·.name)) ∧
          failure = .configuration (.repeatedProperty model p.name)) := by
  induction es generalizing seen with
  | nil =>
      refine ⟨nofun, ?_⟩
      rintro ⟨before, e, after, split, _⟩
      simp at split
  | cons d es ih =>
      rw [elaborateProperties_cons_eq_error]
      constructor
      · rintro (stop | ⟨p, first, ⟨known, same⟩ | ⟨new, stop⟩⟩)
        · exact ⟨[], d, es, rfl, [], rfl, .inl stop⟩
        · exact ⟨[], d, es, rfl, [], rfl, .inr ⟨p, first, .inl known, same⟩⟩
        · obtain ⟨before, e, after, rfl, ps, passed, stop⟩ := ih.1 stop
          refine ⟨d :: before, e, after, rfl, p :: ps,
            elaborateProperties_cons_eq_ok.2 ⟨p, ps, first, new, passed, rfl⟩, ?_⟩
          refine stop.imp_right fun ⟨q, ok, again, same⟩ => ⟨q, ok, ?_, same⟩
          rw [List.mem_cons] at again
          rw [List.map_cons, List.mem_cons]
          tauto
      · rintro ⟨before, e, after, split, ps, passed, stop⟩
        cases before with
        | nil =>
            obtain ⟨rfl, rfl⟩ := List.cons.inj split
            cases passed
            refine stop.imp_right fun ⟨p, ok, again, same⟩ => ⟨p, ok, .inl ⟨?_, same⟩⟩
            exact again.resolve_right List.not_mem_nil
        | cons c before =>
            obtain ⟨rfl, rfl⟩ := List.cons.inj split
            obtain ⟨p, qs, first, new, others, rfl⟩ := elaborateProperties_cons_eq_ok.1 passed
            refine .inr ⟨p, first, .inr ⟨new, ih.2 ⟨before, e, after, rfl, qs, others, ?_⟩⟩⟩
            refine stop.imp_right fun ⟨q, ok, again, same⟩ => ⟨q, ok, ?_, same⟩
            rw [List.map_cons, List.mem_cons] at again
            rw [List.mem_cons]
            tauto

/-- Compatible entries have properties with different names. -/
theorem compatible_iff :
    Compatible es ↔ ∃ ps, List.Forall₂ Yields es ps ∧ (ps.map (·.name)).Nodup := by
  constructor
  · rintro ⟨typed, apart⟩
    induction es with
    | nil => exact ⟨[], .nil, List.nodup_nil⟩
    | cons e es ih =>
        obtain ⟨⟨type, read⟩, typed⟩ := List.forall_mem_cons.1 typed
        obtain ⟨away, apart⟩ := List.pairwise_cons.1 apart
        obtain ⟨ps, others, distinct⟩ := ih typed apart
        obtain ⟨p, first, _⟩ := names_iff.1 ⟨type, read, rfl⟩
        refine ⟨p :: ps, .cons first others, ?_⟩
        rw [List.map_cons, List.nodup_cons]
        refine ⟨fun again => ?_, distinct⟩
        obtain ⟨q, member, same⟩ := List.mem_map.1 again
        obtain ⟨d, listed, yields⟩ := exists_left_of_mem others member
        exact away d listed ⟨p.name, first.names, same ▸ yields.names⟩
  · rintro ⟨ps, yields, distinct⟩
    induction yields with
    | nil => exact ⟨nofun, .nil⟩
    | cons first others ih =>
        rw [List.map_cons, List.nodup_cons] at distinct
        obtain ⟨typed, apart⟩ := ih distinct.2
        refine ⟨List.forall_mem_cons.2 ⟨⟨_, first.type⟩, typed⟩, List.pairwise_cons.2 ⟨?_, apart⟩⟩
        rintro d listed ⟨name, here, there⟩
        obtain ⟨q, member, yields⟩ := exists_left_of_mem others.flip listed
        refine distinct.1 (List.mem_map.2 ⟨q, member, ?_⟩)
        rw [yields.name_eq there, first.name_eq here]

/-- The entries that can stand in one model are the compatible ones. -/
theorem exists_elaborateProperties_iff (model : String) :
    (∃ ps, elaborateProperties model [] es = .ok ps) ↔ Compatible es := by
  rw [compatible_iff]
  refine exists_congr fun ps => ?_
  rw [elaborateProperties_eq_ok]
  simp

end Properties

/-! ## Models -/

namespace ModelEntry

/-- What a model needs to have a class. -/
structure WellFormed (e : ModelEntry) : Prop where
  named : "" ∉ segments '.' e.name
  compatible : Compatible e.properties

/-- What is wrong with a model: its name, or else the first property that cannot be added to those
in front of it. A type that does not parse comes before a repeated name. -/
inductive Fault (e : ModelEntry) : Failure → Prop where
  | badName (empty : "" ∈ segments '.' e.name) :
      Fault e (.configuration (.badModelName e.name))
  | badType {before after : List PropertyEntry} {p : PropertyEntry} {fault : Descriptor.Fault}
      (named : "" ∉ segments '.' e.name) (split : e.properties = before ++ p :: after)
      (compatible : Compatible before) (unread : Descriptor.read p.type = .error fault) :
      Fault e (.invalidType p.type fault.reason)
  | repeated {before after : List PropertyEntry} {p : PropertyEntry} {name : String}
      (named : "" ∉ segments '.' e.name) (split : e.properties = before ++ p :: after)
      (compatible : Compatible before) (names : p.Names name) (again : ∃ q ∈ before, q.Names name) :
      Fault e (.configuration (.repeatedProperty e.name name))

/-- The class is what the model says, in the package and under the settings. -/
structure Yields (e : ModelEntry) (package : String) (settings : Settings) (c : ModelClass) :
    Prop where
  located : c.package = package
  chain : c.chain = segments '.' e.name
  qualifiedName : c.qualifiedName = if package = "" then e.name else package ++ "." ++ e.name
  properties : List.Forall₂ PropertyEntry.Yields e.properties c.properties
  implementation : c.implementation = e.implementation
  explicit : ∀ trigger, e.trigger = some trigger → c.trigger = some trigger
  implied : e.trigger = none → ∀ trigger, c.trigger = some trigger ↔
    trigger = settings.toStorageMethod ∧ ∃ p ∈ e.properties, p.accessor = trigger
  /-- Without an explicit trigger, the class is never refused for its trigger. -/
  accepted : e.trigger = none → ∀ s name trigger method, generate settings s c ≠
    .error (.configuration (.foreignTrigger name trigger method))

section Elaboration

variable {e : ModelEntry} {package : String} {settings : Settings} {c : ModelClass}
  {failure : Failure}

/-- The class of a model with the given properties. -/
def classWith (e : ModelEntry) (package : String) (settings : Settings)
    (properties : List Property) : ModelClass where
  package := package
  enclosing := (segments '.' e.name).dropLast
  simpleName := (segments '.' e.name).getLast?.getD ""
  trigger := e.triggerFor settings.toStorageMethod
  properties := properties
  implementation := e.implementation

theorem elaborate_of_mem (empty : "" ∈ segments '.' e.name) :
    e.elaborate package settings = .error (.configuration (.badModelName e.name)) := by
  rw [elaborate, if_pos empty]
  rfl

theorem elaborate_of_notMem (named : "" ∉ segments '.' e.name) :
    e.elaborate package settings = elaborateProperties e.name [] e.properties >>= fun ps =>
      .ok (e.classWith package settings ps) := by
  rw [elaborate, if_neg named]
  rfl

/-- A model has a class exactly when it is well formed. -/
theorem exists_elaborate_iff : (∃ c, e.elaborate package settings = .ok c) ↔ e.WellFormed := by
  by_cases named : "" ∈ segments '.' e.name
  · rw [elaborate_of_mem named]
    refine ⟨nofun, fun wellFormed => (wellFormed.named named).elim⟩
  · rw [elaborate_of_notMem named]
    constructor
    · rintro ⟨c, result⟩
      obtain ⟨ps, read, _⟩ := bind_eq_ok.1 result
      exact ⟨named, (exists_elaborateProperties_iff _).1 ⟨ps, read⟩⟩
    · intro wellFormed
      obtain ⟨ps, read⟩ := (exists_elaborateProperties_iff _).2 wellFormed.compatible
      exact ⟨_, bind_eq_ok.2 ⟨ps, read, rfl⟩⟩

/-- The failure of a model is what is wrong with it. -/
theorem elaborate_eq_error : e.elaborate package settings = .error failure ↔ e.Fault failure := by
  by_cases named : "" ∈ segments '.' e.name
  · rw [elaborate_of_mem named]
    constructor
    · intro h
      cases h
      exact .badName named
    · intro fault
      cases fault with
      | badName => rfl
      | badType named' => exact (named' named).elim
      | repeated named' => exact (named' named).elim
  · rw [elaborate_of_notMem named, bind_eq_error, elaborateProperties_eq_error]
    constructor
    · rintro (⟨before, p, after, split, ps, passed, stop⟩ | ⟨_, _, last⟩)
      · have compatible := (exists_elaborateProperties_iff _).1 ⟨ps, passed⟩
        rcases stop with stop | ⟨q, ok, known | again, rfl⟩
        · obtain ⟨fault, unread, rfl⟩ := PropertyEntry.elaborate_eq_error.1 stop
          exact .badType named split compatible unread
        · cases known
        · have names := (PropertyEntry.elaborate_eq_ok.1 ok).names
          obtain ⟨r, member, same⟩ := List.mem_map.1 again
          obtain ⟨d, listed, yields⟩ :=
            exists_left_of_mem (elaborateProperties_eq_ok.1 passed).1 member
          exact .repeated named split compatible names ⟨d, listed, same ▸ yields.names⟩
      · cases last
    · intro fault
      left
      cases fault with
      | badName empty => exact (named empty).elim
      | @badType before after p fault _ split compatible unread =>
          obtain ⟨ps, passed⟩ := (exists_elaborateProperties_iff e.name).2 compatible
          exact ⟨before, p, after, split, ps, passed,
            .inl (PropertyEntry.elaborate_eq_error.2 ⟨fault, unread, rfl⟩)⟩
      | @repeated before after p name _ split compatible names again =>
          obtain ⟨ps, passed⟩ := (exists_elaborateProperties_iff e.name).2 compatible
          obtain ⟨d, listed, known⟩ := again
          obtain ⟨r, member, yields⟩ :=
            exists_left_of_mem (elaborateProperties_eq_ok.1 passed).1.flip listed
          obtain ⟨q, ok, rfl⟩ := PropertyEntry.names_iff.1 names
          exact ⟨before, p, after, split, ps, passed,
            .inr ⟨q, PropertyEntry.elaborate_eq_ok.2 ok,
              .inr (List.mem_map.2 ⟨r, member, yields.name_eq known⟩), rfl⟩⟩

/-- The trigger is the explicit one, or the method if the model has such an accessor. -/
theorem triggerFor_eq_some {method trigger : String} (implicit : e.trigger = none) :
    e.triggerFor method = some trigger ↔
      trigger = method ∧ ∃ p ∈ e.properties, p.accessor = trigger := by
  rw [triggerFor, implicit]
  by_cases declared : ∃ p ∈ e.properties, p.accessor = method
  · have found : (e.properties.any fun p => p.accessor = method) = true := by simpa using declared
    simp only [found, if_true, Option.some.injEq]
    refine ⟨?_, fun h => h.1.symm⟩
    rintro rfl
    exact ⟨rfl, declared⟩
  · have missing : (e.properties.any fun p => p.accessor = method) = false := by
      simpa using declared
    simp only [missing]
    refine ⟨nofun, ?_⟩
    rintro ⟨rfl, found⟩
    exact (declared found).elim

/-- The name of a class is the name of its model. -/
theorem modelTypeName_segments (named : "" ∉ segments '.' e.name) :
    modelTypeName (segments '.' e.name) = e.name := by
  have nothing : (segments '.' e.name).dropWhile (· = "") = segments '.' e.name := by
    rw [List.dropWhile_eq_self_iff]
    intro nonempty empty
    exact named ((of_decide_eq_true empty) ▸ List.getElem_mem nonempty)
  rw [modelTypeName, chainText, nothing]
  exact joined_segments '.' e.name

theorem yields_of_elaborate (result : e.elaborate package settings = .ok c) :
    e.Yields package settings c := by
  have named := (exists_elaborate_iff.1 ⟨c, result⟩).named
  rw [elaborate_of_notMem named] at result
  obtain ⟨ps, read, same⟩ := bind_eq_ok.1 result
  cases same
  have chain : (e.classWith package settings ps).chain = segments '.' e.name := by
    rw [ModelClass.chain, classWith, List.getLast?_eq_some_getLast (segments_ne_nil '.' e.name)]
    exact List.dropLast_append_getLast _
  have implied (implicit : e.trigger = none) (trigger : String) :
      (e.classWith package settings ps).trigger = some trigger ↔
        trigger = settings.toStorageMethod ∧ ∃ p ∈ e.properties, p.accessor = trigger :=
    triggerFor_eq_some implicit
  refine ⟨rfl, chain, ?_, (elaborateProperties_eq_ok.1 read).1, rfl, ?_, implied, ?_⟩
  · rw [ModelClass.qualifiedName, chain, modelTypeName_segments named]
    rfl
  · intro trigger given
    simp [classWith, triggerFor, given]
  · intro implicit s name trigger method refused
    obtain ⟨given, foreign⟩ := foreign_of_generate refused
    exact foreign ((implied implicit trigger).1 given).1

end Elaboration

end ModelEntry

/-! ## Files -/

namespace SchemaFile

/-- **Which schema files have a batch.** A file has a batch exactly when its models are well formed.
The batch has the class of each model, in order, and the external models of the file. The failure of
a file is what is wrong with its first model that is not well formed. -/
theorem elaborate_outcome (f : SchemaFile) (settings : Settings) :
    ((∃ b, f.elaborate settings = .ok b) ↔ ∀ e ∈ f.models, e.WellFormed) ∧
      (∀ b, f.elaborate settings = .ok b → b.externalModels = f.externalModels ∧
        List.Forall₂ (fun e c => e.Yields f.package settings c) f.models b.classes) ∧
      ∀ failure, f.elaborate settings = .error failure ↔
        ∃ e, IsFirst (fun e => ¬ e.WellFormed) f.models e ∧ e.Fault failure := by
  have collected : f.elaborate settings =
      f.models.mapM (·.elaborate f.package settings) >>= fun classes =>
        .ok ⟨classes, f.externalModels⟩ := rfl
  have failed (failure : Failure) : f.elaborate settings = .error failure ↔
      ∃ e, IsFirst (fun e => ¬ e.WellFormed) f.models e ∧ e.Fault failure := by
    rw [collected, bind_eq_error, mapM_eq_error]
    constructor
    · rintro (⟨before, e, after, split, passed, stop⟩ | ⟨_, _, last⟩)
      · refine ⟨e, ⟨before, after, split, fun d listed => ?_, fun wellFormed => ?_⟩,
          ModelEntry.elaborate_eq_error.1 stop⟩
        · exact not_not_intro (ModelEntry.exists_elaborate_iff.1 (passed d listed))
        · obtain ⟨c, ok⟩ := ModelEntry.exists_elaborate_iff.2 wellFormed
          rw [stop] at ok
          cases ok
      · cases last
    · rintro ⟨e, ⟨before, after, split, passed, _⟩, fault⟩
      exact .inl ⟨before, e, after, split,
        fun d listed => ModelEntry.exists_elaborate_iff.2 (not_not.1 (passed d listed)),
        ModelEntry.elaborate_eq_error.2 fault⟩
  refine ⟨?_, ?_, failed⟩
  · constructor
    · rintro ⟨b, result⟩ e listed
      obtain ⟨classes, each, _⟩ := bind_eq_ok.1 (collected ▸ result)
      obtain ⟨c, _, ok⟩ := exists_left_of_mem (mapM_eq_ok.1 each).flip listed
      exact ModelEntry.exists_elaborate_iff.1 ⟨c, ok⟩
    · intro wellFormed
      cases outcome : f.elaborate settings with
      | ok b => exact ⟨b, rfl⟩
      | error failure =>
          obtain ⟨e, ⟨before, after, split, _, bad⟩, _⟩ := (failed failure).1 outcome
          exact (bad (wellFormed e (split ▸ List.mem_append_right _ List.mem_cons_self))).elim
  · intro b result
    obtain ⟨classes, each, same⟩ := bind_eq_ok.1 (collected ▸ result)
    cases same
    exact ⟨rfl, (mapM_eq_ok.1 each).imp fun _ _ ok => ModelEntry.yields_of_elaborate ok⟩

/-- A door with two accessors, in front of a model with a bad name. -/
def doorFile (type : String) : SchemaFile where
  models := [
    { name := "Door"
      properties := [{ accessor := "open", type := "int" }, { accessor := "isOpen", type }] },
    { name := "Outer..Inner" }]

/-- The type of the second accessor decides whether it gives the name of the first one, and a type
that does not parse is the failure itself. The second model matters only behind a well-formed
one. -/
example :
    let outcome (type : String) := ((doorFile type).elaborate {}).map (·.classes.length)
    outcome "boolean" = .error (.configuration (.repeatedProperty "Door" "open")) ∧
      outcome "List<" = .error (.invalidType "List<" "expected a type name at offset 5") ∧
      outcome "int" = .error (.configuration (.badModelName "Outer..Inner")) := by
  decide +kernel

end SchemaFile

end RecordSynthesis
