import Mathlib.Data.List.TakeWhile
import RecordSynthesis.CommandLine

/-!
# Arguments

How the arguments of a call are spelled, said without reading them: options and schema files come in
any order, an option has its value behind an equals sign or in the next argument, and behind two
hyphens there are schema files only (`Spell`). Reading arguments finds what a call names exactly
when they spell it (`parse_eq_generate`).
-/

set_option autoImplicit false

namespace RecordSynthesis.CommandLine

/-! ## Spellings -/

namespace ValueOption

/-- The name of an option. -/
def name : ValueOption → String
  | config => "config"
  | out => "out"

theorem ofName?_eq_some {text : String} {o : ValueOption} :
    ofName? text = some o ↔ text = o.name := by
  rw [ofName?]
  constructor
  · intro found
    split at found
    next same =>
      cases found
      exact same
    next =>
      split at found
      next same =>
        cases found
        exact same
      next => cases found
  · rintro rfl
    cases o <;> rfl

end ValueOption

/-- One thing that arguments name. -/
inductive Item where
  /-- An option with its value behind an equals sign. -/
  | attached (o : ValueOption) (value : String)
  /-- An option with its value in the next argument. -/
  | detached (o : ValueOption) (value : String)
  | schema (path : String)

namespace Item

/-- The arguments for one thing. -/
def spelled : Item → List String
  | attached o value => ["--" ++ o.name ++ "=" ++ value]
  | detached o value => ["--" ++ o.name, value]
  | schema path => [path]

/-- No value and no path is empty, and one that is an argument of its own does not look like an
option. -/
def Admitted : Item → Prop
  | attached _ value => value ≠ ""
  | detached _ value => value ≠ "" ∧ isValue value = true
  | schema path => path ≠ "" ∧ isValue path = true

/-- The settings file that is named. -/
def config? : Item → Option String
  | attached .config value => some value
  | detached .config value => some value
  | _ => none

/-- The source root that is named. -/
def out? : Item → Option String
  | attached .out value => some value
  | detached .out value => some value
  | _ => none

/-- The schema file that is named. -/
def schema? : Item → Option String
  | schema path => some path
  | _ => none

end Item

/-- The arguments spell what a call names: at most one settings file, one source root, and at least
one schema file. Behind two hyphens every argument is a schema file. -/
def Spell (args : List String) (a : Arguments) : Prop :=
  ∃ (items : List Item) (behind : List String),
    (args = items.flatMap Item.spelled ∧ behind = [] ∨
      args = items.flatMap Item.spelled ++ "--" :: behind) ∧
    (∀ item ∈ items, item.Admitted) ∧ (∀ path ∈ behind, path ≠ "") ∧
    items.filterMap Item.config? = a.config.toList ∧ items.filterMap Item.out? = [a.out] ∧
    items.filterMap Item.schema? ++ behind = a.schemas ∧ a.schemas ≠ []

/-! ## Reading one thing -/

variable {p q m : Partly} {item : Item} {items : List Item} {args rest : List String}
  {a : Arguments}

/-- Takes one thing. -/
def Partly.take (p : Partly) : Item → Option Partly
  | .attached o value => p.withOption o value
  | .detached o value => p.withOption o value
  | .schema path => p.withSchema path

/-- The second state has read the given things behind the first one. -/
structure Partly.Extends (p q : Partly) (items : List Item) : Prop where
  config : q.config.toList = p.config.toList ++ items.filterMap Item.config?
  out : q.out.toList = p.out.toList ++ items.filterMap Item.out?
  schemas : q.schemas = p.schemas ++ items.filterMap Item.schema?

theorem Partly.Extends.refl (p : Partly) : p.Extends p [] :=
  ⟨(List.append_nil _).symm, (List.append_nil _).symm, (List.append_nil _).symm⟩

theorem Partly.Extends.trans {more : List Item} (first : p.Extends m items)
    (second : m.Extends q more) : p.Extends q (items ++ more) where
  config := by rw [second.config, first.config, List.filterMap_append, List.append_assoc]
  out := by rw [second.out, first.out, List.filterMap_append, List.append_assoc]
  schemas := by rw [second.schemas, first.schemas, List.filterMap_append, List.append_assoc]

/-- A part of what holds at most one thing holds at most one thing. -/
theorem exists_toList_eq {α : Type} {front back : List α} {o : Option α}
    (all : o.toList = front ++ back) : ∃ part : Option α, part.toList = front := by
  cases front with
  | nil => exact ⟨none, rfl⟩
  | cons first others =>
      cases o with
      | none => cases all
      | some x =>
          obtain ⟨rfl, rest⟩ := List.cons.inj all
          exact ⟨some x, by rw [(List.append_eq_nil_iff.1 rest.symm).1]; rfl⟩

/-- What is read of two lists of things is read of the first one and then of the second one. -/
theorem Partly.Extends.split {more : List Item} (both : p.Extends q (items ++ more)) :
    ∃ m, p.Extends m items ∧ m.Extends q more := by
  obtain ⟨config, out, schemas⟩ := both
  rw [List.filterMap_append, ← List.append_assoc] at config out schemas
  obtain ⟨config', first⟩ := exists_toList_eq config
  obtain ⟨out', second⟩ := exists_toList_eq out
  refine ⟨⟨config', out', _⟩, ⟨first, second, rfl⟩, ?_, ?_, schemas⟩
  · rw [first, config]
  · rw [second, out]

theorem toList_eq_append_singleton {α : Type} {o o' : Option α} {x : α} :
    o.toList = o'.toList ++ [x] ↔ o' = none ∧ o = some x := by
  cases o' <;> cases o <;> simp

theorem toList_eq_append_nil {α : Type} {o o' : Option α} :
    o.toList = o'.toList ++ [] ↔ o = o' := by
  cases o' <;> cases o <;> simp

/-- Nothing is read of no things. -/
theorem Partly.Extends.eq (read : p.Extends q []) : q = p := by
  obtain ⟨config, out, schemas⟩ := q
  obtain ⟨config', out', schemas'⟩ := p
  rw [mk.injEq]
  exact ⟨toList_eq_append_nil.1 read.config, toList_eq_append_nil.1 read.out,
    read.schemas.trans (List.append_nil _)⟩

theorem Partly.withOption_config {value : String} (given : value ≠ "") :
    p.withOption .config value = some q ↔ q.config.toList = p.config.toList ++ [value] ∧
      q.out.toList = p.out.toList ++ [] ∧ q.schemas = p.schemas ++ [] := by
  rw [withOption, if_neg given, toList_eq_append_singleton, toList_eq_append_nil, List.append_nil]
  obtain ⟨_ | old, out, schemas⟩ := p
  · obtain ⟨config', out', schemas'⟩ := q
    simp [eq_comm]
  · simp

theorem Partly.withOption_out {value : String} (given : value ≠ "") :
    p.withOption .out value = some q ↔ q.config.toList = p.config.toList ++ [] ∧
      q.out.toList = p.out.toList ++ [value] ∧ q.schemas = p.schemas ++ [] := by
  rw [withOption, if_neg given, toList_eq_append_singleton, toList_eq_append_nil, List.append_nil]
  obtain ⟨config, _ | old, schemas⟩ := p
  · obtain ⟨config', out', schemas'⟩ := q
    simp [eq_comm]
  · simp

theorem Partly.withSchema_eq_some {path : String} (given : path ≠ "") :
    p.withSchema path = some q ↔ q.config.toList = p.config.toList ++ [] ∧
      q.out.toList = p.out.toList ++ [] ∧ q.schemas = p.schemas ++ [path] := by
  rw [withSchema, if_neg given, toList_eq_append_nil, toList_eq_append_nil]
  obtain ⟨config', out', schemas'⟩ := q
  simp [eq_comm]

theorem Partly.extends_singleton : p.Extends q [item] ↔
    q.config.toList = p.config.toList ++ item.config?.toList ∧
      q.out.toList = p.out.toList ++ item.out?.toList ∧
      q.schemas = p.schemas ++ item.schema?.toList := by
  have one {α : Type} (f : Item → Option α) : [item].filterMap f = (f item).toList := by
    cases found : f item <;> simp [found]
  rw [← one, ← one, ← one]
  exact ⟨fun ⟨config, out, schemas⟩ => ⟨config, out, schemas⟩,
    fun ⟨config, out, schemas⟩ => ⟨config, out, schemas⟩⟩

/-- **Taking one thing** succeeds exactly when there is a state that has read it. -/
theorem Partly.take_eq_some (admitted : item.Admitted) :
    p.take item = some q ↔ p.Extends q [item] := by
  rw [extends_singleton]
  cases item with
  | attached o value =>
      cases o with
      | config => exact withOption_config admitted
      | out => exact withOption_out admitted
  | detached o value =>
      cases o with
      | config => exact withOption_config admitted.1
      | out => exact withOption_out admitted.1
  | schema path => exact withSchema_eq_some admitted.1

/-- No empty value and no empty path is taken. -/
theorem Partly.ne_of_withOption {o : ValueOption} {value : String}
    (taken : p.withOption o value = some q) : value ≠ "" := by
  rintro rfl
  cases taken

theorem Partly.ne_of_withSchema {path : String} (taken : p.withSchema path = some q) :
    path ≠ "" := by
  rintro rfl
  cases taken

/-! ## Long options -/

theorem splitLong_attached {name : String} (plain : '=' ∉ name.toList) (value : String) :
    splitLong (name.toList ++ '=' :: value.toList) = (name, some value) := by
  have all : ∀ c ∈ name.toList, decide (c ≠ '=') = true := by
    intro c member
    exact decide_eq_true fun same => plain (same ▸ member)
  rw [splitLong, List.dropWhile_append_of_pos all, List.takeWhile_append_of_pos all]
  simp

theorem splitLong_detached {name : String} (plain : '=' ∉ name.toList) :
    splitLong name.toList = (name, none) := by
  have all : ∀ c ∈ name.toList, decide (c ≠ '=') = true := by
    intro c member
    exact decide_eq_true fun same => plain (same ▸ member)
  rw [splitLong, List.dropWhile_eq_nil_iff.2 all, String.ofList_toList]

theorem eq_of_splitLong {letters : List Char} {name : String} {value : Option String}
    (split : splitLong letters = (name, value)) :
    letters = name.toList ++ (match value with | none => [] | some v => '=' :: v.toList) := by
  have parts := List.takeWhile_append_dropWhile (p := fun c => decide (c ≠ '=')) (l := letters)
  rw [splitLong] at split
  split at split
  next ends =>
    cases split
    simp
  next c v ends =>
    cases split
    have first : c = '=' := by
      have := List.head?_dropWhile_not (fun c => decide (c ≠ '=')) letters
      rw [ends] at this
      simpa using this
    rw [ends, first] at parts
    simpa using parts.symm

/-! ## Reading all arguments -/

/-- An argument looks like an option when something stands behind a hyphen. -/
theorem isValue_iff {arg : String} :
    isValue arg = true ↔ ∀ c cs, arg.toList ≠ '-' :: c :: cs := by
  have alone : arg = "-" ↔ arg.toList = ['-'] := by
    rw [← String.toList_inj]
    rfl
  rw [isValue, Bool.or_eq_true, decide_eq_true_eq, decide_eq_true_eq, alone]
  rcases arg.toList with _ | ⟨first, _ | ⟨c, cs⟩⟩
  · simp
  · simp [em]
  · simp

/-- An argument that does not look like an option is a schema file. -/
theorem parseFrom_schema (p : Partly) {path : String} (plain : isValue path = true)
    (rest : List String) :
    parseFrom p (path :: rest) =
      match p.withSchema path with
      | some p => parseFrom p rest
      | none => .misuse := by
  have plain := isValue_iff.1 plain
  rw [parseFrom]
  split
  next same => exact (plain _ _ same).elim
  next same => exact (plain _ _ same).elim
  next same => exact (plain _ _ same).elim
  next same => exact (plain _ _ same).elim
  next => rfl

section Long

variable {arg name value : String} {letters : List Char} {o : ValueOption}
  (spelled : arg.toList = '-' :: '-' :: letters) (more : letters ≠ [])
  (known : ValueOption.ofName? name = some o) (taken : p.withOption o value = some m)

include spelled more known taken

/-- A long option may have its value behind an equals sign. -/
theorem parseFrom_attached (split : splitLong letters = (name, some value)) (rest : List String) :
    parseFrom p (arg :: rest) = parseFrom m rest := by
  obtain ⟨c, cs, rfl⟩ := List.exists_cons_of_ne_nil more
  rw [parseFrom, spelled]
  simp only [split, known, taken]

/-- A long option may have its value in the next argument. -/
theorem parseFrom_detached (split : splitLong letters = (name, none))
    (plain : isValue value = true) (rest : List String) :
    parseFrom p (arg :: value :: rest) = parseFrom m rest := by
  obtain ⟨c, cs, rfl⟩ := List.exists_cons_of_ne_nil more
  rw [parseFrom, spelled]
  simp only [split]
  split
  next same =>
    cases same
    cases known
  next same =>
    cases same
    simp only [known, plain, taken, if_pos]

end Long

theorem ValueOption.plain_name (o : ValueOption) : '=' ∉ o.name.toList := by
  cases o <;> decide

/-- **Reading one thing** leads to the state that has taken it. -/
theorem parseFrom_spelled (admitted : item.Admitted) (taken : p.take item = some m) :
    parseFrom p (item.spelled ++ rest) = parseFrom m rest := by
  cases item with
  | attached o value =>
      have chars : ("--" ++ o.name ++ "=" ++ value).toList =
          '-' :: '-' :: (o.name.toList ++ '=' :: value.toList) := by simp
      exact parseFrom_attached chars (by simp) (ValueOption.ofName?_eq_some.2 rfl) taken
        (splitLong_attached o.plain_name value) rest
  | detached o value =>
      have chars : ("--" ++ o.name).toList = '-' :: '-' :: o.name.toList := by simp
      have named : o.name.toList ≠ [] := by cases o <;> decide
      exact parseFrom_detached chars named (ValueOption.ofName?_eq_some.2 rfl) taken
        (splitLong_detached o.plain_name) admitted.2 rest
  | schema path =>
      rw [Item.spelled, List.singleton_append, parseFrom_schema p admitted.2,
        show p.withSchema path = some m from taken]

/-- Reading things leads to every state that has read them. -/
theorem parseFrom_flatMap (admitted : ∀ item ∈ items, item.Admitted) (read : p.Extends q items) :
    parseFrom p (items.flatMap Item.spelled ++ rest) = parseFrom q rest := by
  induction items generalizing p with
  | nil =>
      rw [read.eq]
      rfl
  | cons item items ih =>
      obtain ⟨here, others⟩ := List.forall_mem_cons.1 admitted
      obtain ⟨m, first, behind⟩ :=
        Partly.Extends.split (show p.Extends q ([item] ++ items) from read)
      rw [List.flatMap_cons, List.append_assoc,
        parseFrom_spelled here ((Partly.take_eq_some here).2 first), ih others behind]

/-- Arguments that are all schema files. -/
theorem parseSchemas_eq_generate {paths : List String} :
    parseSchemas p paths = .generate a ↔ (∀ path ∈ paths, path ≠ "") ∧
      { p with schemas := p.schemas ++ paths }.finish = .generate a := by
  induction paths generalizing p with
  | nil => simp [parseSchemas]
  | cons path paths ih =>
      rw [parseSchemas, List.forall_mem_cons, Partly.withSchema]
      by_cases empty : path = ""
      · simp [empty]
      · simp [empty, ih]

theorem finish_eq_generate :
    p.finish = .generate a ↔ p.config = a.config ∧ p.out = some a.out ∧ p.schemas = a.schemas ∧
      a.schemas ≠ [] := by
  obtain ⟨config, out, schemas⟩ := p
  obtain ⟨config', out', schemas'⟩ := a
  rw [Partly.finish]
  cases out with
  | none => simp
  | some out =>
      cases schemas with
      | nil => simp +contextual [eq_comm]
      | cons first others =>
          simp only [Request.generate.injEq, Arguments.mk.injEq, Option.some.injEq]
          refine and_congr_right fun _ => and_congr_right fun _ => ⟨?_, And.left⟩
          rintro rfl
          exact ⟨rfl, List.cons_ne_nil _ _⟩

/-- From a state on, the arguments spell the rest of what a call names. -/
def Partly.Completed (p : Partly) (args : List String) (a : Arguments) : Prop :=
  ∃ (items : List Item) (behind : List String) (q : Partly),
    (args = items.flatMap Item.spelled ∧ behind = [] ∨
      args = items.flatMap Item.spelled ++ "--" :: behind) ∧
    (∀ item ∈ items, item.Admitted) ∧ (∀ path ∈ behind, path ≠ "") ∧
    p.Extends q items ∧ { q with schemas := q.schemas ++ behind }.finish = .generate a

theorem Partly.Completed.cons (admitted : item.Admitted) (taken : p.take item = some m)
    (others : m.Completed rest a) : p.Completed (item.spelled ++ rest) a := by
  obtain ⟨items, behind, q, spelled, admitted', paths, read, finished⟩ := others
  refine ⟨item :: items, behind, q, ?_, List.forall_mem_cons.2 ⟨admitted, admitted'⟩, paths,
    ((take_eq_some admitted).1 taken).trans read, finished⟩
  rcases spelled with ⟨rfl, none⟩ | rfl
  · exact .inl ⟨rfl, none⟩
  · rw [List.flatMap_cons, List.append_assoc]
    exact .inr rfl

/-- **Whatever is read was spelled.** -/
theorem completed_of_parseFrom (read : parseFrom p args = .generate a) : p.Completed args a := by
  -- Only the end, two hyphens and the three ways to go on can lead to a call.
  fun_induction parseFrom p args with
  | case1 p =>
      refine ⟨[], [], p, .inl ⟨rfl, rfl⟩, nofun, nofun, .refl p, ?_⟩
      rw [List.append_nil]
      exact read
  | case2 p arg rest hyphens =>
      obtain ⟨paths, finished⟩ := parseSchemas_eq_generate.1 read
      obtain rfl : arg = "--" := String.toList_inj.1 hyphens
      exact ⟨[], rest, p, .inr rfl, nofun, paths, .refl p, finished⟩
  | case5 p arg letters _ spelled name o value rest known m taken _ split ih =>
      obtain rfl := ValueOption.ofName?_eq_some.1 known
      obtain rfl : arg = "--" ++ o.name ++ "=" ++ value := by
        rw [← String.toList_inj, spelled, eq_of_splitLong split]
        simp
      have admitted : (Item.attached o value).Admitted := Partly.ne_of_withOption taken
      exact .cons admitted taken (ih read)
  | case8 p arg letters _ spelled name o value rest known plain m taken _ split ih =>
      obtain rfl := ValueOption.ofName?_eq_some.1 known
      obtain rfl : arg = "--" ++ o.name := by
        rw [← String.toList_inj, spelled, eq_of_splitLong split]
        simp
      have admitted : (Item.detached o value).Admitted := ⟨Partly.ne_of_withOption taken, plain⟩
      exact .cons admitted taken (ih read)
  | case13 p path rest m taken _ _ _ short ih =>
      have admitted : (Item.schema path).Admitted :=
        ⟨Partly.ne_of_withSchema taken, isValue_iff.2 short⟩
      exact .cons admitted taken (ih read)
  | _ => cases read

/-- **Arguments are read** as what they spell, and only arguments that spell something. -/
theorem parse_eq_generate : parse args = .generate a ↔ Spell args a := by
  constructor
  · intro read
    obtain ⟨items, behind, q, spelled, admitted, paths, found, finished⟩ :=
      completed_of_parseFrom read
    obtain ⟨config, out, schemas, some⟩ := finish_eq_generate.1 finished
    refine ⟨items, behind, spelled, admitted, paths, ?_, ?_, ?_, some⟩
    · rw [← config, found.config]
      rfl
    · have given : q.out.toList = [a.out] := by
        rw [show q.out = Option.some a.out from out]
        rfl
      rw [← given, found.out]
      rfl
    · rw [← schemas]
      dsimp only
      rw [found.schemas]
      rfl
  · rintro ⟨items, behind, spelled, admitted, paths, config, out, schemas, some⟩
    have found : ({} : Partly).Extends ⟨a.config, a.out, items.filterMap Item.schema?⟩ items :=
      ⟨config.symm, out.symm, rfl⟩
    have finished : (⟨a.config, a.out, items.filterMap Item.schema? ++ behind⟩ : Partly).finish =
        .generate a := finish_eq_generate.2 ⟨rfl, rfl, schemas, some⟩
    rw [parse]
    rcases spelled with ⟨rfl, rfl⟩ | rfl
    · rw [← List.append_nil (items.flatMap _), parseFrom_flatMap admitted found]
      rw [List.append_nil] at finished
      exact finished
    · rw [parseFrom_flatMap admitted found]
      exact parseSchemas_eq_generate.2 ⟨paths, finished⟩

end RecordSynthesis.CommandLine
