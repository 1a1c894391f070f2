import RecordSynthesis.Proofs.Elaboration
import RecordSynthesis.Proofs.PrintedTypes

/-!
# Where a refused type text goes wrong

The reader keeps one rule for the moment when an argument list closes: a primitive has none.
Without that rule any name may stand in front of a list, which gives a wider grammar (`Forms`):
the type texts are those of the wider grammar in which no primitive has a list
(`derives_iff_forms`). The place of a fault is described with it (`fault_placed`).

A text that is refused for any other reason leaves the wider grammar at the place of the fault.
What stands in front of that place can be completed to a text of the wider grammar, since every
state of the reader can be (`Reads.viable`), and with one more character it cannot, since every
text of the wider grammar is accepted or refused for a list of a primitive (`Forms.passes`). A text
that is refused for such a list is refused behind the first one that is complete.
-/

set_option autoImplicit false

namespace RecordSynthesis.Descriptor

open RecordSynthesis.Text

/-! ## The wider grammar -/

mutual

/-- The tokens form a type in which any name may have arguments. -/
inductive Forms : List Token → Prop where
  | name {name : String} (isName : IsName name) : Forms [.name name]
  | parameterized {name : String} {tokens : List Token} (isName : IsName name)
      (list : FormsAll tokens) : Forms (.name name :: .mark '<' :: tokens ++ [.mark '>'])
  | array {tokens : List Token} (component : Forms tokens) :
      Forms (tokens ++ [.mark '[', .mark ']'])

/-- The tokens form one or more such types with commas between them. -/
inductive FormsAll : List Token → Prop where
  | single {tokens : List Token} (only : Forms tokens) : FormsAll tokens
  | cons {tokens more : List Token} (first : Forms tokens) (others : FormsAll more) :
      FormsAll (tokens ++ .mark ',' :: more)

end

/-- The characters are a text of the wider grammar. -/
def Conforms (cs : List Char) : Prop := ∃ tokens, Forms tokens ∧ Spells tokens cs

/-- The characters can be extended to a text of the wider grammar. -/
def Viable (cs : List Char) : Prop := ∃ rest, Conforms (cs ++ rest)

/-- Among the tokens is a complete argument list that belongs to the name. -/
def HasList (name : String) (tokens : List Token) : Prop :=
  ∃ before inside after, FormsAll inside ∧
    tokens = before ++ .name name :: .mark '<' :: inside ++ .mark '>' :: after

/-- The characters end with a complete argument list of the primitive, and in front of its end no
primitive has a complete list. The tokens in front of that end are those of a text of the wider
grammar. -/
def ClosesListOf (kind : Primitive) (cs : List Char) : Prop :=
  ∃ before inside front, cs = front ++ ['>'] ∧
    Spells (before ++ .name kind.name :: .mark '<' :: inside) front ∧ FormsAll inside ∧
    (∃ after, Forms (before ++ .name kind.name :: .mark '<' :: inside ++ .mark '>' :: after)) ∧
    ∀ other : Primitive, ¬ HasList other.name (before ++ .name kind.name :: .mark '<' :: inside)

mutual

theorem Derives.forms {tokens : List Token} {t : Descriptor} (derives : Derives tokens t) :
    Forms tokens := by
  match derives with
  | .primitive kind => exact .name (isName_name kind)
  | .declared isName _ => exact .name isName
  | .parameterized isName _ list => exact .parameterized isName list.formsAll
  | .array component => exact .array component.forms

theorem DerivesAll.formsAll {tokens : List Token} {ts : List Descriptor}
    (derives : DerivesAll tokens ts) : FormsAll tokens := by
  match derives with
  | .single only => exact .single only.forms
  | .cons first others => exact .cons first.forms others.formsAll

end

/-! ## Every state can be completed -/

/-- The arguments that are complete and those that follow form one list. -/
theorem Completed.formsAll {args : List Descriptor} {tokens more : List Token}
    (completed : Completed args tokens) (others : FormsAll more) : FormsAll (tokens ++ more) := by
  induction completed generalizing more with
  | nil => exact others
  | cons _ last ih =>
      have longer := ih (.cons last.forms others)
      simpa using longer

/-- The brackets that close the open lists. -/
def closers (stack : List OpenList) : List Token := stack.map fun _ => .mark '>'

/-- A type at the top of the open lists is completed to a whole type by closing them. -/
theorem Opened.forms {stack : List OpenList} {before tokens : List Token}
    (opened : Opened stack before) (top : Forms tokens) :
    Forms (before ++ tokens ++ closers stack) := by
  induction opened generalizing tokens with
  | nil => simpa [closers] using top
  | cons _ isName completed ih =>
      have whole := ih (.parameterized isName (completed.formsAll (.single top)))
      simpa [closers] using whole

theorem Spells.viable {tokens more : List Token} {cs : List Char} (spells : Spells tokens cs)
    (forms : Forms (tokens ++ more)) : Viable cs :=
  ⟨_, _, forms, spells.append (spells_flatMap more)⟩

/-- A name with a single letter. -/
theorem isName_a : IsName "a" where
  nonempty := by decide
  chars := by
    have all : "a".toList.all isNameChar = true := by decide +kernel
    exact List.all_eq_true.1 all

/-- What the reader has taken can be extended to a text of the wider grammar. -/
theorem Reads.viable {cs : List Char} {s : State} (reads : Reads cs s) : Viable cs := by
  cases reads with
  | expectName around spells =>
      have forms := around.forms (.name isName_a)
      rw [List.append_assoc] at forms
      exact spells.viable forms
  | @inName _ _ _ letters around spells isName =>
      exact (spells.concat (.name (spelled letters))).viable (around.forms (.name isName))
  | afterName around isName spells => exact spells.viable (around.forms (.name isName))
  | complete around derives spells => exact spells.viable (around.forms derives.forms)
  | @inBracket stack before tokens _ _ around derives spells =>
      have forms : Forms (before ++ tokens ++ [.mark '['] ++ .mark ']' :: closers stack) := by
        simpa using around.forms (.array derives.forms)
      exact spells.viable forms

/-! ## Texts of the wider grammar -/

theorem State.takeAll_append_eq_error {s : State} {cs ds : List Char} {problem : Problem} :
    s.takeAll (cs ++ ds) = .error problem ↔
      s.takeAll cs = .error problem ∨
        ∃ v, s.takeAll cs = .ok v ∧ v.takeAll ds = .error problem := by
  rw [takeAll, List.foldlM_append, bind_eq_error]
  rfl

theorem State.takeAll_cons_eq_error {s : State} {c : Char} {cs : List Char} {problem : Problem} :
    s.takeAll (c :: cs) = .error problem ↔
      s.take c = .error problem ∨ ∃ v, s.take c = .ok v ∧ v.takeAll cs = .error problem := by
  rw [takeAll, List.foldlM_cons, bind_eq_error]
  rfl

/-- Every spelling of the tokens leads from the states before to the states behind or is refused for
a list of a primitive. -/
def Passes (P : State → Prop) (tokens : List Token) (Q : State → Prop) : Prop :=
  ∀ ⦃cs⦄, Spells tokens cs → ∀ ⦃s⦄, P s →
    (∃ u, s.takeAll cs = .ok u ∧ Q u) ∨ ∃ kind, s.takeAll cs = .error (.primitiveArguments kind)

/-- Every spelling of the tokens is refused for the problem in the states before. -/
def Refuses (P : State → Prop) (tokens : List Token) (problem : Problem) : Prop :=
  ∀ ⦃cs⦄, Spells tokens cs → ∀ ⦃s⦄, P s → s.takeAll cs = .error problem

section Passing

variable {P Q R : State → Prop} {tokens more : List Token}

theorem Leads.passes (leads : Leads P tokens Q) : Passes P tokens Q :=
  fun _ spells _ start => .inl (leads spells start)

theorem Passes.weaken (passes : Passes P tokens Q) (weaker : ∀ s, Q s → R s) :
    Passes P tokens R := by
  intro cs spells s start
  rcases passes spells start with ⟨u, taken, last⟩ | refused
  · exact .inl ⟨u, taken, weaker u last⟩
  · exact .inr refused

theorem Refuses.passes {kind : Primitive} (refuses : Refuses P tokens (.primitiveArguments kind)) :
    Passes P tokens Q :=
  fun _ spells _ start => .inr ⟨kind, refuses spells start⟩

theorem Passes.append (earlier : Passes P tokens Q) (later : Passes Q more R) :
    Passes P (tokens ++ more) R := by
  intro cs spells s start
  obtain ⟨xs, ys, rfl, first, second⟩ := spells.split
  rcases earlier first start with ⟨u, taken, between⟩ | ⟨kind, refused⟩
  · rcases later second between with ⟨v, rest, last⟩ | ⟨kind, refused⟩
    · exact .inl ⟨v, State.takeAll_append.2 ⟨u, taken, rest⟩, last⟩
    · exact .inr ⟨kind, State.takeAll_append_eq_error.2 (.inr ⟨u, taken, refused⟩)⟩
  · exact .inr ⟨kind, State.takeAll_append_eq_error.2 (.inl refused)⟩

theorem Refuses.mark {m : Char} {problem : Problem} (before : Stays P)
    (refuses : ∀ ⦃s⦄, P s → s.take m = .error problem) : Refuses P [.mark m] problem := by
  intro cs spells
  generalize one : [Token.mark m] = tokens at spells
  induction spells with
  | nil => cases one
  | blank white _ ih =>
      intro s start
      obtain ⟨u, taken, still⟩ := before start white
      exact State.takeAll_cons_eq_error.2 (.inr ⟨u, taken, ih one still⟩)
  | token _ _ =>
      obtain ⟨rfl, _⟩ := List.cons.inj one
      intro s start
      exact State.takeAll_cons_eq_error.2 (.inl (refuses start))

end Passing

/-- The state is behind some type, on top of the open lists. -/
def BehindSome (stack : List OpenList) (s : State) : Prop := ∃ t, BehindType stack t s

/-- The innermost open list has the name, and the state is behind one of its arguments. -/
def BehindArgument (outer : List OpenList) (name : String) (s : State) : Prop :=
  ∃ earlier, BehindSome (⟨name, earlier⟩ :: outer) s

section Lists

variable {stack outer : List OpenList} {name : String}

theorem BehindSome.stays : Stays (BehindSome stack) := by
  rintro s ⟨t, behind⟩ c white
  obtain ⟨u, taken, still⟩ := behind.stays white
  exact ⟨u, taken, t, still⟩

theorem BehindArgument.stays : Stays (BehindArgument outer name) := by
  rintro s ⟨earlier, behind⟩ c white
  obtain ⟨u, taken, still⟩ := behind.stays white
  exact ⟨u, taken, earlier, still⟩

/-- The closing bracket of a list of a primitive is refused. -/
theorem refuses_close (kind : Primitive) :
    Refuses (BehindArgument outer kind.name) [.mark '>'] (.primitiveArguments kind) := by
  apply Refuses.mark BehindArgument.stays
  rintro s ⟨earlier, t, behind⟩
  rw [behind.take (by simp)]
  simp [takeAfterType, mark_spec]

theorem passes_close :
    Passes (BehindArgument outer name) [.mark '>'] (BehindSome outer) := by
  cases reserved : Primitive.ofName? name with
  | some kind =>
      obtain rfl := Primitive.eq_name_of_ofName? reserved
      exact (refuses_close kind).passes
  | none =>
      rintro cs spells s ⟨earlier, t, behind⟩
      have leads : Leads (BehindArguments outer name (t :: earlier).reverse) [.mark '>']
          (BehindType outer (.declared name (t :: earlier).reverse)) :=
        leads_close (free_iff.1 reserved)
      have arguments : BehindArguments outer name (t :: earlier).reverse s :=
        ⟨earlier, t, rfl, behind⟩
      exact leads.passes.weaken (fun _ last => ⟨_, last⟩) spells arguments

theorem passes_brackets : Passes (BehindSome stack) [.mark '[', .mark ']'] (BehindSome stack) := by
  rintro cs spells s ⟨t, behind⟩
  exact leads_brackets.passes.weaken (fun _ last => ⟨_, last⟩) spells behind

/-- A name and the arguments behind its opening bracket. -/
theorem passes_arguments {tokens : List Token} (isName : IsName name)
    (list : Passes (AtType (⟨name, []⟩ :: stack)) tokens (BehindArgument stack name)) :
    Passes (AtType stack) (.name name :: .mark '<' :: tokens) (BehindArgument stack name) := by
  have opened : Leads (AtType stack) [.name name, .mark '<'] (AtType (⟨name, []⟩ :: stack)) :=
    (leads_name isName).append leads_open
  exact opened.passes.append list

end Lists

mutual

/-- The tokens of a type of the wider grammar lead behind it, on top of any open lists, unless a
primitive has a list. -/
theorem Forms.passes {tokens : List Token} (forms : Forms tokens) (stack : List OpenList) :
    Passes (AtType stack) tokens (BehindSome stack) := by
  match forms with
  | .name isName => exact (leads_ofName isName stack).passes.weaken fun _ last => ⟨_, last⟩
  | @Forms.parameterized name _ isName list =>
      exact (passes_arguments isName (list.passes stack name [])).append passes_close
  | .array component => exact (component.passes stack).append passes_brackets

theorem FormsAll.passes {tokens : List Token} (list : FormsAll tokens) (outer : List OpenList)
    (name : String) (earlier : List Descriptor) :
    Passes (AtType (⟨name, earlier⟩ :: outer)) tokens (BehindArgument outer name) := by
  match list with
  | .single only => exact (only.passes _).weaken fun _ last => ⟨earlier, last⟩
  | @FormsAll.cons _ more first others =>
      have behind : Passes (BehindSome (⟨name, earlier⟩ :: outer)) (.mark ',' :: more)
          (BehindArgument outer name) := by
        rintro cs spells s ⟨t, start⟩
        have comma := (@leads_comma outer name t earlier).passes
        exact comma.append (others.passes outer name (t :: earlier)) spells start
      exact (first.passes _).append behind

end

/-- A text of the wider grammar is read to its end or refused for a list of a primitive. -/
theorem Conforms.outcome {cs : List Char} (conforms : Conforms cs) :
    (∃ u t, State.initial.takeAll cs = .ok u ∧ u.finish = .ok t) ∨
      ∃ kind, State.initial.takeAll cs = .error (.primitiveArguments kind) := by
  obtain ⟨tokens, forms, spells⟩ := conforms
  have start : AtType [] State.initial := rfl
  rcases forms.passes [] spells start with ⟨u, taken, t, behind⟩ | refused
  · exact .inl ⟨u, t, taken, behind.finish⟩
  · exact .inr refused

/-- Characters that are refused for another reason cannot be extended. -/
theorem not_viable_of_takeAll {cs : List Char} {problem : Problem}
    (refused : State.initial.takeAll cs = .error problem)
    (other : ∀ kind, problem ≠ .primitiveArguments kind) : ¬ Viable cs := by
  rintro ⟨rest, conforms⟩
  have longer : State.initial.takeAll (cs ++ rest) = .error problem :=
    State.takeAll_append_eq_error.2 (.inl refused)
  rcases conforms.outcome with ⟨u, _, taken, _⟩ | ⟨kind, refused'⟩
  · rw [longer] at taken
    cases taken
  · rw [longer] at refused'
    cases refused'
    exact other kind rfl

/-! ## Lists of primitives -/

/-- A name stands behind an opening bracket or a comma. -/
def MayFollow (first second : Token) : Prop :=
  ∀ name, second = .name name → first = .mark '<' ∨ first = .mark ','

-- What is no name may follow anything, so only the tokens in front of the names matter.
mutual

theorem Forms.chain {tokens : List Token} (forms : Forms tokens) : tokens.IsChain MayFollow := by
  match forms with
  | .name _ => exact .singleton _
  | .parameterized _ list =>
      have inside := list.chain
      simp [List.isChain_append, List.isChain_cons, inside, MayFollow]
  | .array component =>
      have inside := component.chain
      simp [List.isChain_append, List.isChain_cons, inside, MayFollow]

theorem FormsAll.chain {tokens : List Token} (list : FormsAll tokens) :
    tokens.IsChain MayFollow := by
  match list with
  | .single only => exact only.chain
  | .cons first others =>
      have here := first.chain
      have behind := others.chain
      simp [List.isChain_append, List.isChain_cons, here, behind, MayFollow]

end

section Separators

variable {stack : List OpenList} {name : String} {t : Descriptor} {s u : State} {m : Char}

theorem atType_of_takeAfterType (separates : m = '<' ∨ m = ',')
    (taken : takeAfterType stack t m = .ok u) : ∃ stack, AtType stack u := by
  unfold takeAfterType at taken
  rcases separates with rfl | rfl
  · cases stack <;> simp [mark_spec] at taken
  · cases stack with
    | nil => simp [mark_spec] at taken
    | cons =>
        simp only [mark_spec, List.mem_cons, true_or, or_true] at taken
        cases taken
        exact ⟨_, rfl⟩

theorem atType_of_takeAfterName (separates : m = '<' ∨ m = ',')
    (taken : takeAfterName stack name m = .ok u) : ∃ stack, AtType stack u := by
  have visible := (mark_spec m (by simp; tauto)).2
  rw [takeAfterName, if_neg (by simp [visible])] at taken
  split at taken
  next =>
    cases taken
    exact ⟨_, rfl⟩
  · exact atType_of_takeAfterType separates taken

/-- Behind an opening bracket or a comma that is taken a type begins. -/
theorem atType_of_take (separates : m = '<' ∨ m = ',') (taken : s.take m = .ok u) :
    ∃ stack, AtType stack u := by
  obtain ⟨ends, visible⟩ := mark_spec m (by simp; tauto)
  obtain ⟨stack, stage⟩ := s
  cases stage with
  | expectName => simp [State.take, ends, visible] at taken
  | inName letters =>
      have behind : takeAfterName stack (spelled letters) m = .ok u := by
        simpa [State.take, ends] using taken
      exact atType_of_takeAfterName separates behind
  | afterName name => exact atType_of_takeAfterName separates taken
  | complete t => exact atType_of_takeAfterType separates taken
  | inBracket t => rcases separates with rfl | rfl <;> simp [State.take, visible] at taken

end Separators

/-- Characters that spell up to a separator lead to the beginning of a type. -/
theorem atType_of_takeAll {m : Char} (separates : m = '<' ∨ m = ',') {cs : List Char}
    (spells : Spells [.mark m] cs) {s u : State} (taken : s.takeAll cs = .ok u) :
    ∃ stack, AtType stack u := by
  generalize one : [Token.mark m] = tokens at spells
  induction spells generalizing s with
  | nil => cases one
  | blank _ _ ih =>
      obtain ⟨v, _, rest⟩ := State.takeAll_cons.1 taken
      exact ih rest one
  | token _ spells =>
      obtain ⟨rfl, rfl⟩ := List.cons.inj one
      rw [Token.chars_mark, List.singleton_append] at taken
      obtain ⟨v, first, rest⟩ := State.takeAll_cons.1 taken
      obtain ⟨stack, start⟩ := atType_of_take separates first
      obtain ⟨w, rest', last⟩ := Leads.nil AtType.stays spells start
      rw [rest] at rest'
      cases rest'
      exact ⟨stack, last⟩

/-- In front of a name of the grammar the reader is where a type begins. -/
theorem atType_before_name {before more : List Token} {name : String} {cs : List Char} {u : State}
    (chain : (before ++ .name name :: more).IsChain MayFollow) (spells : Spells before cs)
    (taken : State.initial.takeAll cs = .ok u) : ∃ stack, AtType stack u := by
  rcases List.eq_nil_or_concat' before with rfl | ⟨front, last, rfl⟩
  · have start : AtType [] State.initial := rfl
    obtain ⟨v, taken', last⟩ := Leads.nil AtType.stays spells start
    rw [taken] at taken'
    cases taken'
    exact ⟨[], last⟩
  · obtain ⟨xs, ys, rfl, _, second⟩ := spells.split
    obtain ⟨v, _, rest⟩ := State.takeAll_append.1 taken
    have follows : MayFollow last (.name name) :=
      (List.isChain_append.1 chain).2.2 last (by simp) _ (by simp)
    rcases follows name rfl with rfl | rfl
    · exact atType_of_takeAll (.inl rfl) second rest
    · exact atType_of_takeAll (.inr rfl) second rest

/-- The whole list of a primitive is refused, for its own or for one inside. -/
theorem passes_primitiveList (kind : Primitive) {inside : List Token} (list : FormsAll inside)
    (stack : List OpenList) :
    Passes (AtType stack) (.name kind.name :: .mark '<' :: inside ++ [.mark '>'])
      fun _ => False :=
  (passes_arguments (isName_name kind) (list.passes stack kind.name [])).append
    (refuses_close kind).passes

/-- What the reader takes holds no complete list of a primitive. -/
theorem not_hasList {tokens more : List Token} {cs : List Char} {u : State}
    (forms : Forms (tokens ++ more)) (spells : Spells tokens cs)
    (taken : State.initial.takeAll cs = .ok u) (kind : Primitive) : ¬ HasList kind.name tokens := by
  rintro ⟨before, inside, after, list, rfl⟩
  have chain := forms.chain
  have parts : before ++ .name kind.name :: .mark '<' :: inside ++ .mark '>' :: after =
      before ++ (.name kind.name :: .mark '<' :: inside ++ [.mark '>'] ++ after) := by simp
  rw [parts] at spells chain
  obtain ⟨xs, rest, rfl, front, spells⟩ := spells.split
  obtain ⟨ys, zs, rfl, middle, _⟩ := spells.split
  obtain ⟨v, first, taken⟩ := State.takeAll_append.1 taken
  obtain ⟨w, second, _⟩ := State.takeAll_append.1 taken
  rw [List.append_assoc] at chain
  obtain ⟨stack, start⟩ := atType_before_name chain front first
  rcases passes_primitiveList kind list stack middle start with ⟨_, _, absurd⟩ | ⟨other, refused⟩
  · exact absurd
  · rw [second] at refused
    cases refused

theorem HasList.within {name : String} {tokens : List Token} (has : HasList name tokens)
    (front back : List Token) : HasList name (front ++ tokens ++ back) := by
  obtain ⟨before, inside, after, list, rfl⟩ := has
  exact ⟨front ++ before, inside, after ++ back, list, by simp⟩

mutual

/-- Without lists of primitives the tokens form a type of the grammar itself. -/
theorem Forms.exists_type {tokens : List Token} (forms : Forms tokens)
    (free : ∀ kind : Primitive, ¬ HasList kind.name tokens) : ∃ t, Derives tokens t := by
  match forms with
  | .name isName => exact ⟨_, derives_ofName isName⟩
  | @Forms.parameterized name inside isName list =>
      have unreserved : ∀ kind : Primitive, name ≠ kind.name := by
        rintro kind rfl
        exact free kind ⟨[], inside, [], list, rfl⟩
      obtain ⟨ts, derives⟩ := list.exists_types fun kind has =>
        free kind (has.within [.name name, .mark '<'] [.mark '>'])
      exact ⟨_, .parameterized isName unreserved derives⟩
  | .array component =>
      obtain ⟨t, derives⟩ := component.exists_type fun kind has => free kind (has.within [] _)
      exact ⟨_, .array derives⟩

theorem FormsAll.exists_types {tokens : List Token} (list : FormsAll tokens)
    (free : ∀ kind : Primitive, ¬ HasList kind.name tokens) : ∃ ts, DerivesAll tokens ts := by
  match list with
  | .single only =>
      obtain ⟨t, derives⟩ := only.exists_type free
      exact ⟨_, .single derives⟩
  | @FormsAll.cons front more first others =>
      obtain ⟨t, derives⟩ := first.exists_type fun kind has => free kind (has.within [] _)
      obtain ⟨ts, behind⟩ := others.exists_types fun kind has => by
        have whole := has.within (front ++ [.mark ',']) []
        exact free kind (by simpa using whole)
      exact ⟨_, .cons derives behind⟩

end

/-- The grammar is the wider one without lists of primitives. -/
theorem derives_iff_forms {tokens : List Token} : (∃ t, Derives tokens t) ↔
    Forms tokens ∧ ∀ kind : Primitive, ¬ HasList kind.name tokens := by
  constructor
  · rintro ⟨t, derives⟩
    have forms : Forms (tokens ++ []) := by simpa using derives.forms
    have start : AtType [] State.initial := rfl
    obtain ⟨u, taken, _⟩ := derives.leads [] (spells_flatMap tokens) start
    exact ⟨derives.forms, not_hasList forms (spells_flatMap tokens) taken⟩
  · rintro ⟨forms, free⟩
    exact forms.exists_type free

section Refusals

variable {stack : List OpenList} {name : String} {t : Descriptor} {s : State} {c : Char}
  {kind : Primitive}

theorem takeAfterType_eq_primitiveArguments
    (refused : takeAfterType stack t c = .error (.primitiveArguments kind)) :
    c = '>' ∧ ∃ args outer, stack = ⟨kind.name, args⟩ :: outer := by
  unfold takeAfterType at refused
  split at refused
  · cases refused
  split at refused
  · cases refused
  cases stack with
  | nil => cases refused
  | cons top outer =>
      dsimp only at refused
      split at refused
      · cases refused
      split at refused
      next close =>
        split at refused
        next kind' reserved =>
          cases refused
          obtain ⟨name, args⟩ := top
          obtain rfl := Primitive.eq_name_of_ofName? reserved
          exact ⟨close, args, outer, rfl⟩
        · cases refused
      · cases refused

theorem takeAfterName_eq_primitiveArguments
    (refused : takeAfterName stack name c = .error (.primitiveArguments kind)) :
    takeAfterType stack (ofName name) c = .error (.primitiveArguments kind) := by
  unfold takeAfterName at refused
  split at refused
  · cases refused
  split at refused
  · cases refused
  · exact refused

/-- The last argument of the innermost open list and the closing bracket end the list. -/
theorem closesListOf_of_takeAfterType {before top : List Token} {cs : List Char}
    (taken : State.initial.takeAll cs = .ok s) (around : Opened stack before) (forms : Forms top)
    (spells : Spells (before ++ top) cs)
    (refused : takeAfterType stack t c = .error (.primitiveArguments kind)) :
    ClosesListOf kind (cs ++ [c]) := by
  obtain ⟨rfl, args, outer, rfl⟩ := takeAfterType_eq_primitiveArguments refused
  cases around with
  | @cons _ _ _ before inside around isName completed =>
      have list := completed.formsAll (.single forms)
      have whole := around.forms (.parameterized isName list)
      have spells : Spells (before ++ .name kind.name :: .mark '<' :: (inside ++ top)) cs := by
        simpa using spells
      have forms : Forms (before ++ .name kind.name :: .mark '<' :: (inside ++ top) ++
          .mark '>' :: closers outer) := by simpa using whole
      exact ⟨before, inside ++ top, cs, rfl, spells, list, ⟨_, forms⟩,
        not_hasList forms spells taken⟩

theorem Reads.closesListOf {cs : List Char} (reads : Reads cs s)
    (taken : State.initial.takeAll cs = .ok s)
    (refused : s.take c = .error (.primitiveArguments kind)) : ClosesListOf kind (cs ++ [c]) := by
  unfold State.take at refused
  cases reads with
  | expectName =>
      dsimp only at refused
      split at refused
      · cases refused
      split at refused <;> cases refused
  | @inName _ _ _ letters around spells isName =>
      dsimp only at refused
      split at refused
      · cases refused
      · exact closesListOf_of_takeAfterType taken around (.name isName)
          (spells.concat (.name (spelled letters))) (takeAfterName_eq_primitiveArguments refused)
  | afterName around isName spells =>
      exact closesListOf_of_takeAfterType taken around (.name isName) spells
        (takeAfterName_eq_primitiveArguments refused)
  | complete around derives spells =>
      exact closesListOf_of_takeAfterType taken around derives.forms spells refused
  | inBracket =>
      dsimp only at refused
      split at refused
      · cases refused
      split at refused <;> cases refused

theorem finish_ne_primitiveArguments : s.finish ≠ .error (.primitiveArguments kind) := by
  intro refused
  unfold State.finish State.closed at refused
  repeat' split at refused
  all_goals cases refused

end Refusals

/-! ## The place of a fault -/

theorem utf8ByteSize_ofList_cons (c : Char) (cs : List Char) :
    (String.ofList (c :: cs)).utf8ByteSize = c.utf8Size + (String.ofList cs).utf8ByteSize := by
  simp [String.ofList_cons]

/-- A text is refused where a character cannot be taken or, when all can, at its end. -/
theorem State.read_eq_error {s : State} {offset : Nat} {cs : List Char} {fault : Fault}
    (refused : s.read offset cs = .error fault) :
    (∃ u, s.takeAll cs = .ok u ∧ u.finish = .error fault.problem ∧
        fault.offset = offset + (String.ofList cs).utf8ByteSize) ∨
      ∃ front c back u, cs = front ++ c :: back ∧ s.takeAll front = .ok u ∧
        u.take c = .error fault.problem ∧
        fault.offset = offset + (String.ofList front).utf8ByteSize + fault.problem.width c := by
  induction cs generalizing s offset with
  | nil =>
      rw [read] at refused
      cases finished : s.finish with
      | ok t =>
          rw [finished] at refused
          cases refused
      | error problem =>
          rw [finished] at refused
          cases refused
          exact .inl ⟨s, rfl, finished, by simp⟩
  | cons c cs ih =>
      rw [read] at refused
      cases taken : s.take c with
      | error problem =>
          rw [taken] at refused
          cases refused
          exact .inr ⟨[], c, cs, s, rfl, rfl, taken, by simp⟩
      | ok v =>
          rw [taken] at refused
          rcases ih refused with
            ⟨u, rest, finished, place⟩ | ⟨front, d, back, u, rfl, rest, failed, place⟩
          · refine .inl ⟨u, State.takeAll_cons.2 ⟨v, taken, rest⟩, finished, ?_⟩
            rw [place, utf8ByteSize_ofList_cons, Nat.add_assoc]
          · have all := State.takeAll_cons.2 ⟨v, taken, rest⟩
            refine .inr ⟨c :: front, d, back, u, rfl, all, failed, ?_⟩
            rw [place, utf8ByteSize_ofList_cons]
            simp only [Nat.add_assoc]

/-- The front is the longest part of the text, from its beginning on, that can be extended to a text
of the wider grammar, and the text is none itself. -/
structure LongestViable (front text : List Char) : Prop where
  viable : Viable front
  longest : ∀ longer, longer <+: text → Viable longer → longer <+: front
  refused : ¬ Conforms text

theorem Viable.of_append {cs ds : List Char} (viable : Viable (cs ++ ds)) : Viable cs := by
  obtain ⟨rest, conforms⟩ := viable
  rw [List.append_assoc] at conforms
  exact ⟨ds ++ rest, conforms⟩

theorem Conforms.viable {cs ds : List Char} (conforms : Conforms (cs ++ ds)) : Viable cs :=
  ⟨ds, conforms⟩

section Places

variable {front back : List Char} {c : Char} {u : State} {problem : Problem}

theorem viable_of_takeAll (taken : State.initial.takeAll front = .ok u) : Viable front := by
  have start : Reads [] State.initial := .expectName .nil .nil
  exact (start.takeAll taken).viable

/-- All characters can be taken, but the text may not end there. -/
theorem longestViable_of_finish (taken : State.initial.takeAll front = .ok u)
    (unfinished : u.finish = .error problem) : LongestViable front front where
  viable := viable_of_takeAll taken
  longest := fun _ inside _ => inside
  refused := by
    intro conforms
    rcases conforms.outcome with ⟨v, t, taken', finished⟩ | ⟨kind, refused⟩
    · rw [taken] at taken'
      cases taken'
      rw [unfinished] at finished
      cases finished
    · rw [taken] at refused
      cases refused

/-- The characters in front of the one that cannot be taken are the longest part. -/
theorem longestViable_of_take (taken : State.initial.takeAll front = .ok u)
    (refused : u.take c = .error problem) (other : ∀ kind, problem ≠ .primitiveArguments kind) :
    LongestViable front (front ++ c :: back) := by
  have stuck : ¬ Viable (front ++ [c]) := by
    apply not_viable_of_takeAll _ other
    exact State.takeAll_append_eq_error.2
      (.inr ⟨u, taken, State.takeAll_cons_eq_error.2 (.inl refused)⟩)
  have split : front ++ c :: back = front ++ [c] ++ back := by simp
  refine ⟨viable_of_takeAll taken, ?_, ?_⟩
  · intro longer inside viable
    have next : front ++ [c] <+: front ++ c :: back := ⟨back, split.symm⟩
    rcases List.prefix_or_prefix_of_prefix inside next with shorter | ⟨rest, rfl⟩
    · rcases List.prefix_concat_iff.1 shorter with rfl | within
      · exact (stuck viable).elim
      · exact within
    · exact (stuck viable.of_append).elim
  · intro conforms
    rw [split] at conforms
    exact stuck conforms.viable

end Places

/-- The wording of an invalid type quotes the text, the problem and the place. -/
theorem message_invalidType (s : String) (fault : Fault) :
    (Failure.invalidType s fault.reason).message = "Invalid type '" ++ s ++ "': " ++
      fault.problem.message ++ " at offset " ++ toString fault.offset := by
  have message : (Failure.invalidType s fault.reason).message =
      "Invalid type '" ++ s ++ "': " ++ fault.reason := rfl
  have reason : fault.reason =
      fault.problem.message ++ " at offset " ++ toString fault.offset := rfl
  rw [message, reason, ← String.append_assoc, ← String.append_assoc]

/-- **A fault points at the first offending character.** The failure of a property quotes the whole
text of its type, and the place of the fault lies between two characters of it. If the fault is not
a list of a primitive, the bytes in front of the place are the longest part of the text that can be
extended to a text of the grammar in which any name may have arguments, and the text is none itself.
If it is, they end with a complete argument list of that primitive, and every list that is complete
before belongs to another name than that of a primitive. -/
theorem fault_placed {s : String} {fault : Fault} (refused : read s = .error fault) :
    (∀ e : PropertyEntry, e.type = s → ∃ failure, e.elaborate = .error failure ∧
      failure.message = "Invalid type '" ++ s ++ "': " ++ fault.problem.message ++ " at offset " ++
        toString fault.offset) ∧
    ∃ front back, s = front ++ back ∧ front.utf8ByteSize = fault.offset ∧
      ((∀ kind, fault.problem ≠ .primitiveArguments kind) →
        LongestViable front.toList s.toList) ∧
      ∀ kind, fault.problem = .primitiveArguments kind → ClosesListOf kind front.toList := by
  constructor
  · intro e same
    subst same
    have failed := PropertyEntry.elaborate_eq_error.2 ⟨fault, refused, rfl⟩
    exact ⟨_, failed, message_invalidType e.type fault⟩
  · rw [read] at refused
    rcases State.read_eq_error refused with
      ⟨u, taken, unfinished, place⟩ | ⟨cs, c, back, u, text, taken, failed, place⟩
    · refine ⟨s, "", by simp, by simpa using place.symm, ?_, ?_⟩
      · intro _
        exact longestViable_of_finish taken unfinished
      · intro kind list
        rw [list] at unfinished
        exact (finish_ne_primitiveArguments unfinished).elim
    · obtain rfl : s = String.ofList (cs ++ c :: back) := by rw [← text, String.ofList_toList]
      by_cases primitive : ∃ kind, fault.problem = .primitiveArguments kind
      · -- The closing bracket belongs to the list, so it stands in front of the place.
        obtain ⟨kind, problem⟩ := primitive
        rw [problem] at failed place
        refine ⟨String.ofList (cs ++ [c]), String.ofList back, ?_, ?_, ?_, ?_⟩
        · rw [← String.ofList_append]
          simp
        · rw [place, String.ofList_append]
          simp [Problem.width]
        · intro other
          exact (other kind problem).elim
        · rintro kind' problem'
          rw [problem] at problem'
          cases problem'
          rw [String.toList_ofList]
          exact (Reads.takeAll (.expectName .nil .nil) taken).closesListOf taken failed
      · rw [not_exists] at primitive
        refine ⟨String.ofList cs, String.ofList (c :: back), String.ofList_append, ?_, ?_, ?_⟩
        · rw [place, Problem.width]
          · simp
          · exact primitive
        · intro other
          rw [String.toList_ofList, String.toList_ofList]
          exact longestViable_of_take taken failed other
        · intro kind problem
          exact (primitive kind problem).elim

set_option maxRecDepth 4000 in
/-- The first text leaves the grammar at a letter, and a letter of two bytes stands in front of it.
The second one is refused behind the inner list, which belongs to `int`. -/
theorem misplacedTypes_placed :
    (read "Líst<a b>" = .error ⟨.expectedSeparator, 8⟩ ∧
      ∃ front back, "Líst<a b>" = front ++ back ∧ front.utf8ByteSize = 8 ∧
        LongestViable front.toList "Líst<a b>".toList) ∧
    read "List<int<a> >" = .error ⟨.primitiveArguments .int, 11⟩ ∧
      ∃ front back, "List<int<a> >" = front ++ back ∧ front.utf8ByteSize = 11 ∧
        ClosesListOf .int front.toList := by
  have first : read "Líst<a b>" = .error ⟨.expectedSeparator, 8⟩ := rfl
  have second : read "List<int<a> >" = .error ⟨.primitiveArguments .int, 11⟩ := rfl
  obtain ⟨_, front, back, text, place, leaves, _⟩ := fault_placed first
  obtain ⟨_, front', back', text', place', _, closes⟩ := fault_placed second
  exact ⟨⟨first, front, back, text, place, leaves nofun⟩,
    second, front', back', text', place', closes .int rfl⟩

end RecordSynthesis.Descriptor
