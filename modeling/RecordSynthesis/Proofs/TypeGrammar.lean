import RecordSynthesis.Descriptor.Reader
import RecordSynthesis.Proofs.Traversal

/-!
# The grammar of type texts

A type text is a sequence of tokens, names and single marks, with white space in front of, between
and behind them (`Spells`). The tokens form a type: a name, an optional list of types in angle
brackets, and any number of pairs of square brackets (`Derives`). A reserved word stands for its
primitive and has no list. The reader gives a type for a text exactly when the text denotes it
(`read_exact`).

The reader takes one character at a time. That what it accepts is derived follows from an invariant
of its states: the open lists and the stage account for the tokens read so far (`Reads`), and every
character keeps this (`Reads.take`). That it accepts what is derived follows the derivation: on top
of any open lists, every spelling of a type leads behind that type (`Derives.leads`).
-/

set_option autoImplicit false

namespace RecordSynthesis.Descriptor

open RecordSynthesis.Text

/-! ## The grammar -/

/-- The parts of a type text: names and marks. -/
inductive Token where
  | name (text : String)
  | mark (c : Char)

/-- The characters of a token. -/
def Token.chars : Token → List Char
  | .name text => text.toList
  | .mark c => [c]

@[simp]
theorem Token.chars_mark (c : Char) : (mark c).chars = [c] := rfl

/-- A name is a run of name characters, and is not empty. -/
structure IsName (name : String) : Prop where
  nonempty : name.toList ≠ []
  chars : ∀ c ∈ name.toList, isNameChar c

/-- The characters are those of the tokens, with white space at any place that is not within a
token. -/
inductive Spells : List Token → List Char → Prop where
  | nil : Spells [] []
  | blank {c : Char} {tokens : List Token} {cs : List Char} (white : isBlank c)
      (rest : Spells tokens cs) : Spells tokens (c :: cs)
  | token (first : Token) {tokens : List Token} {cs : List Char} (rest : Spells tokens cs) :
      Spells (first :: tokens) (first.chars ++ cs)

mutual

/-- The tokens form a type. -/
inductive Derives : List Token → Descriptor → Prop where
  | primitive (kind : Primitive) : Derives [.name kind.name] (.primitive kind)
  | declared {name : String} (isName : IsName name) (free : ∀ kind : Primitive, name ≠ kind.name) :
      Derives [.name name] (.declared name [])
  | parameterized {name : String} {tokens : List Token} {args : List Descriptor}
      (isName : IsName name) (free : ∀ kind : Primitive, name ≠ kind.name)
      (list : DerivesAll tokens args) :
      Derives (.name name :: .mark '<' :: tokens ++ [.mark '>']) (.declared name args)
  | array {tokens : List Token} {t : Descriptor} (component : Derives tokens t) :
      Derives (tokens ++ [.mark '[', .mark ']']) (.array t)

/-- The tokens form one or more types with commas between them. -/
inductive DerivesAll : List Token → List Descriptor → Prop where
  | single {tokens : List Token} {t : Descriptor} (only : Derives tokens t) : DerivesAll tokens [t]
  | cons {tokens more : List Token} {t : Descriptor} {ts : List Descriptor}
      (first : Derives tokens t) (others : DerivesAll more ts) :
      DerivesAll (tokens ++ .mark ',' :: more) (t :: ts)

end

/-- The text is a spelling of tokens that form the type. -/
def Denotes (s : String) (t : Descriptor) : Prop :=
  ∃ tokens, Derives tokens t ∧ Spells tokens s.toList

/-! ## Characters -/

theorem isNameChar_eq_false_of_isBlank {c : Char} (white : isBlank c) : isNameChar c = false := by
  have others : ['_', '$', '.'].all (fun d => !isBlank d) = true := by decide
  have differs : ∀ d ∈ ['_', '$', '.'], c ≠ d := by
    rintro d member rfl
    have visible := List.all_eq_true.1 others c member
    rw [white] at visible
    cases visible
  simp_all [isNameChar, isAlphanumeric_eq_false_of_isBlank white]

/-- No mark is a name character or white space. -/
theorem mark_spec : ∀ c ∈ ['<', ',', '>', '[', ']'], isNameChar c = false ∧ isBlank c = false := by
  have all : ['<', ',', '>', '[', ']'].all (fun c => !isNameChar c && !isBlank c) = true := by
    decide +kernel
  intro c member
  simpa using List.all_eq_true.1 all c member

@[simp]
theorem toList_spelled_nil : (spelled []).toList = [] := rfl

@[simp]
theorem toList_spelled_cons (c : Char) (letters : List Char) :
    (spelled (c :: letters)).toList = (spelled letters).toList ++ [c] := by
  simp [spelled]

/-- A name character behind name characters completes a name. -/
theorem isName_spelled_cons {c : Char} {letters : List Char} (last : isNameChar c)
    (earlier : ∀ d ∈ (spelled letters).toList, isNameChar d) : IsName (spelled (c :: letters)) where
  nonempty := by simp
  chars := by
    intro d member
    rw [toList_spelled_cons, List.mem_append, List.mem_singleton] at member
    rcases member with inside | rfl
    · exact earlier d inside
    · exact last

theorem free_iff {name : String} :
    Primitive.ofName? name = none ↔ ∀ kind : Primitive, name ≠ kind.name := by
  constructor
  · rintro unreserved kind rfl
    rw [Primitive.ofName?_name] at unreserved
    cases unreserved
  · intro free
    cases found : Primitive.ofName? name with
    | none => rfl
    | some kind => exact (free kind (Primitive.eq_name_of_ofName? found)).elim

/-! ## Spellings -/

namespace Spells

variable {tokens more : List Token} {cs ds : List Char}

theorem append (first : Spells tokens cs) (second : Spells more ds) :
    Spells (tokens ++ more) (cs ++ ds) := by
  induction first with
  | nil => exact second
  | blank white _ ih => exact .blank white ih
  | token first _ ih =>
      rw [List.append_assoc]
      exact .token first ih

theorem singleton (first : Token) : Spells [first] first.chars := by
  have spelled : Spells [first] (first.chars ++ []) := .token first .nil
  rwa [List.append_nil] at spelled

theorem concat_blank (spelled : Spells tokens cs) {c : Char} (white : isBlank c) :
    Spells tokens (cs ++ [c]) := by
  have both := spelled.append (.blank white .nil)
  rwa [List.append_nil] at both

theorem concat (spelled : Spells tokens cs) (last : Token) :
    Spells (tokens ++ [last]) (cs ++ last.chars) :=
  spelled.append (.singleton last)

/-- A spelling of two sequences is one spelling behind the other. -/
theorem split (spelled : Spells (tokens ++ more) cs) :
    ∃ xs ys, cs = xs ++ ys ∧ Spells tokens xs ∧ Spells more ys := by
  generalize both : tokens ++ more = all at spelled
  induction spelled generalizing tokens with
  | nil =>
      obtain ⟨rfl, rfl⟩ := List.append_eq_nil_iff.1 both
      exact ⟨[], [], rfl, .nil, .nil⟩
  | @blank c _ _ white _ ih =>
      obtain ⟨xs, ys, rfl, first, second⟩ := ih both
      exact ⟨c :: xs, ys, rfl, .blank white first, second⟩
  | @token first rest cs spelled ih =>
      cases tokens with
      | nil =>
          rw [List.nil_append] at both
          subst both
          exact ⟨[], _, rfl, .nil, .token first spelled⟩
      | cons head tail =>
          obtain ⟨rfl, others⟩ := List.cons.inj both
          obtain ⟨xs, ys, rfl, earlier, later⟩ := ih others
          exact ⟨head.chars ++ xs, ys, by rw [List.append_assoc], .token head earlier, later⟩

end Spells

/-! ## Reading as a run over the states -/

/-- Takes one character after the other. -/
def State.takeAll (s : State) (cs : List Char) : Except Problem State := cs.foldlM State.take s

theorem State.takeAll_append {s u : State} {cs ds : List Char} :
    s.takeAll (cs ++ ds) = .ok u ↔ ∃ v, s.takeAll cs = .ok v ∧ v.takeAll ds = .ok u := by
  rw [takeAll, List.foldlM_append, bind_eq_ok]
  rfl

theorem State.takeAll_cons {s u : State} {c : Char} {cs : List Char} :
    s.takeAll (c :: cs) = .ok u ↔ ∃ v, s.take c = .ok v ∧ v.takeAll cs = .ok u := by
  rw [takeAll, List.foldlM_cons, bind_eq_ok]
  rfl

/-- A text is read when all its characters can be taken and the last state can end. -/
theorem State.read_eq_ok {s : State} {offset : Nat} {cs : List Char} {t : Descriptor} :
    s.read offset cs = .ok t ↔ ∃ u, s.takeAll cs = .ok u ∧ u.finish = .ok t := by
  induction cs generalizing s offset with
  | nil =>
      rw [read]
      constructor
      · intro result
        refine ⟨s, rfl, ?_⟩
        cases finished : s.finish <;> simp_all
      · rintro ⟨u, same, finished⟩
        cases same
        rw [finished]
  | cons c cs ih =>
      rw [read]
      cases taken : s.take c with
      | ok v =>
          simp only [ih, takeAll_cons, taken]
          simp
      | error problem =>
          simp only [takeAll_cons, taken]
          simp

/-! ## What is read is derived -/

/-- The tokens of arguments with a comma behind each of them. The last argument stands first. -/
inductive Completed : List Descriptor → List Token → Prop where
  | nil : Completed [] []
  | cons {args : List Descriptor} {t : Descriptor} {tokens more : List Token}
      (earlier : Completed args tokens) (last : Derives more t) :
      Completed (t :: args) (tokens ++ (more ++ [.mark ',']))

/-- The tokens of open lists: of each its name, the bracket and the arguments that are complete. -/
inductive Opened : List OpenList → List Token → Prop where
  | nil : Opened [] []
  | cons {outer : List OpenList} {name : String} {args : List Descriptor}
      {before tokens : List Token} (around : Opened outer before) (isName : IsName name)
      (completed : Completed args tokens) :
      Opened (⟨name, args⟩ :: outer) (before ++ .name name :: .mark '<' :: tokens)

/-- The open lists and the stage account for the characters. -/
inductive Reads : List Char → State → Prop where
  | expectName {stack : List OpenList} {before : List Token} {cs : List Char}
      (around : Opened stack before) (spells : Spells before cs) : Reads cs ⟨stack, .expectName⟩
  | inName {stack : List OpenList} {before : List Token} {cs letters : List Char}
      (around : Opened stack before) (spells : Spells before cs)
      (isName : IsName (spelled letters)) :
      Reads (cs ++ (spelled letters).toList) ⟨stack, .inName letters⟩
  | afterName {stack : List OpenList} {before : List Token} {cs : List Char} {name : String}
      (around : Opened stack before) (isName : IsName name)
      (spells : Spells (before ++ [.name name]) cs) : Reads cs ⟨stack, .afterName name⟩
  | complete {stack : List OpenList} {before tokens : List Token} {cs : List Char} {t : Descriptor}
      (around : Opened stack before) (derives : Derives tokens t)
      (spells : Spells (before ++ tokens) cs) : Reads cs ⟨stack, .complete t⟩
  | inBracket {stack : List OpenList} {before tokens : List Token} {cs : List Char} {t : Descriptor}
      (around : Opened stack before) (derives : Derives tokens t)
      (spells : Spells (before ++ tokens ++ [.mark '[']) cs) : Reads cs ⟨stack, .inBracket t⟩

theorem derives_ofName {name : String} (isName : IsName name) :
    Derives [.name name] (ofName name) := by
  rw [ofName]
  cases reserved : Primitive.ofName? name with
  | some kind =>
      obtain rfl := Primitive.eq_name_of_ofName? reserved
      exact .primitive kind
  | none => exact .declared isName (free_iff.1 reserved)

/-- The arguments that are complete and those that follow form one list. -/
theorem Completed.derivesAll {args ts : List Descriptor} {tokens more : List Token}
    (completed : Completed args tokens) (others : DerivesAll more ts) :
    DerivesAll (tokens ++ more) (args.reverse ++ ts) := by
  induction completed generalizing more ts with
  | nil => exact others
  | cons _ last ih =>
      have longer := ih (.cons last others)
      simpa using longer

namespace Reads

variable {cs : List Char} {c : Char} {s s' : State} {stack : List OpenList} {name : String}
  {t : Descriptor} {before tokens : List Token}

theorem takeAfterType (around : Opened stack before) (derives : Derives tokens t)
    (spells : Spells (before ++ tokens) cs) (taken : takeAfterType stack t c = .ok s') :
    Reads (cs ++ [c]) s' := by
  unfold Descriptor.takeAfterType at taken
  split at taken
  next white =>
    cases taken
    exact .complete around derives (spells.concat_blank white)
  split at taken
  next bracket =>
    subst bracket
    cases taken
    exact .inBracket around derives (spells.concat (.mark '['))
  cases around with
  | nil => cases taken
  | @cons outer name args before inner around isName completed =>
      dsimp only at taken
      split at taken
      next comma =>
        subst comma
        cases taken
        refine .expectName (.cons around isName (.cons completed derives)) ?_
        have longer := spells.concat (.mark ',')
        simpa using longer
      -- The list closes only behind a name that may take arguments.
      split at taken
      next close =>
        subst close
        cases reserved : Primitive.ofName? name with
        | some kind =>
            rw [reserved] at taken
            cases taken
        | none =>
            rw [reserved] at taken
            cases taken
            have list := completed.derivesAll (.single derives)
            rw [List.reverse_cons]
            refine .complete around (.parameterized isName (free_iff.1 reserved) list) ?_
            have longer := spells.concat (.mark '>')
            simpa using longer
      · cases taken

theorem takeAfterName (around : Opened stack before) (isName : IsName name)
    (spells : Spells (before ++ [.name name]) cs) (taken : takeAfterName stack name c = .ok s') :
    Reads (cs ++ [c]) s' := by
  unfold Descriptor.takeAfterName at taken
  split at taken
  next white =>
    cases taken
    exact .afterName around isName (spells.concat_blank white)
  split at taken
  next bracket =>
    subst bracket
    cases taken
    refine .expectName (.cons around isName .nil) ?_
    have longer := spells.concat (.mark '<')
    simpa using longer
  · exact takeAfterType around (derives_ofName isName) spells taken

/-- Every character that is taken keeps the account. -/
theorem take (reads : Reads cs s) (taken : s.take c = .ok s') : Reads (cs ++ [c]) s' := by
  unfold State.take at taken
  cases reads with
  | expectName around spells =>
      dsimp only at taken
      split at taken
      next white =>
        cases taken
        exact .expectName around (spells.concat_blank white)
      split at taken
      next nameChar =>
        cases taken
        have isName : IsName (spelled [c]) := isName_spelled_cons nameChar (by simp)
        have begun := Reads.inName around spells isName
        simpa using begun
      · cases taken
  | @inName _ _ cs letters around spells isName =>
      dsimp only at taken
      split at taken
      next nameChar =>
        cases taken
        rw [List.append_assoc, ← toList_spelled_cons]
        exact .inName around spells (isName_spelled_cons nameChar isName.chars)
      · exact takeAfterName around isName (spells.concat (.name (spelled letters))) taken
  | afterName around isName spells => exact takeAfterName around isName spells taken
  | complete around derives spells => exact takeAfterType around derives spells taken
  | inBracket around derives spells =>
      dsimp only at taken
      split at taken
      next white =>
        cases taken
        exact .inBracket around derives (spells.concat_blank white)
      split at taken
      next bracket =>
        subst bracket
        cases taken
        refine .complete around (.array derives) ?_
        have longer := spells.concat (.mark ']')
        simpa using longer
      · cases taken

theorem takeAll (reads : Reads cs s) {ds : List Char} (taken : s.takeAll ds = .ok s') :
    Reads (cs ++ ds) s' := by
  induction ds generalizing cs s with
  | nil =>
      cases taken
      rwa [List.append_nil]
  | cons d ds ih =>
      obtain ⟨u, first, others⟩ := State.takeAll_cons.1 taken
      have longer := ih (reads.take first) others
      rwa [List.append_assoc] at longer

/-- At the end no list is open, and the account is a derivation. -/
theorem finish (reads : Reads cs s) (finished : s.finish = .ok t) :
    ∃ tokens, Derives tokens t ∧ Spells tokens cs := by
  cases reads with
  | expectName => cases finished
  | inName around spells isName =>
      cases around with
      | nil =>
          cases finished
          exact ⟨_, derives_ofName isName, spells.concat _⟩
      | cons => cases finished
  | afterName around isName spells =>
      cases around with
      | nil =>
          cases finished
          exact ⟨_, derives_ofName isName, spells⟩
      | cons => cases finished
  | complete around derives spells =>
      cases around with
      | nil =>
          cases finished
          exact ⟨_, derives, spells⟩
      | cons => cases finished
  | inBracket => cases finished

end Reads

theorem denotes_of_read {s : String} {t : Descriptor} (result : read s = .ok t) : Denotes s t := by
  obtain ⟨u, taken, finished⟩ := State.read_eq_ok.1 result
  have start : Reads [] State.initial := .expectName .nil .nil
  exact (start.takeAll taken).finish finished

/-! ## What is derived is read -/

/-- White space leads from the states to themselves. -/
def Stays (P : State → Prop) : Prop :=
  ∀ ⦃s⦄, P s → ∀ ⦃c⦄, isBlank c → ∃ u, s.take c = .ok u ∧ P u

/-- Every spelling of the tokens leads from the states before to the states behind. -/
def Leads (P : State → Prop) (tokens : List Token) (Q : State → Prop) : Prop :=
  ∀ ⦃cs⦄, Spells tokens cs → ∀ ⦃s⦄, P s → ∃ u, s.takeAll cs = .ok u ∧ Q u

section Leading

variable {P Q R : State → Prop} {tokens more : List Token} {first : Token}

/-- White space in front does not change where the characters lead. -/
theorem Stays.cons (stays : Stays P) {c : Char} {cs : List Char} (white : isBlank c)
    (leads : ∀ ⦃s⦄, P s → ∃ u, s.takeAll cs = .ok u ∧ Q u) ⦃s : State⦄ (start : P s) :
    ∃ u, s.takeAll (c :: cs) = .ok u ∧ Q u := by
  obtain ⟨u, taken, still⟩ := stays start white
  obtain ⟨v, rest, last⟩ := leads still
  exact ⟨v, State.takeAll_cons.2 ⟨u, taken, rest⟩, last⟩

theorem Leads.nil (stays : Stays P) : Leads P [] P := by
  intro cs spells
  generalize empty : ([] : List Token) = tokens at spells
  induction spells with
  | nil =>
      intro s start
      exact ⟨s, rfl, start⟩
  | blank white _ ih => exact stays.cons white (ih empty)
  | token => cases empty

theorem Leads.append (earlier : Leads P tokens Q) (later : Leads Q more R) :
    Leads P (tokens ++ more) R := by
  intro cs spells s start
  obtain ⟨xs, ys, rfl, first, second⟩ := spells.split
  obtain ⟨u, taken, between⟩ := earlier first start
  obtain ⟨v, rest, last⟩ := later second between
  exact ⟨v, State.takeAll_append.2 ⟨u, taken, rest⟩, last⟩

/-- White space around a token does not matter when it matters neither before nor behind. -/
theorem Leads.token (before : Stays P) (behind : Stays Q)
    (moves : ∀ ⦃s⦄, P s → ∃ u, s.takeAll first.chars = .ok u ∧ Q u) : Leads P [first] Q := by
  intro cs spells
  generalize one : [first] = tokens at spells
  induction spells with
  | nil => cases one
  | blank white _ ih => exact before.cons white (ih one)
  | token _ spells =>
      obtain ⟨rfl, empty⟩ := List.cons.inj one
      intro s start
      obtain ⟨u, taken, between⟩ := moves start
      obtain ⟨v, rest, last⟩ := Leads.nil behind (empty ▸ spells) between
      exact ⟨v, State.takeAll_append.2 ⟨u, taken, rest⟩, last⟩

theorem Leads.mark {m : Char} (before : Stays P) (behind : Stays Q)
    (moves : ∀ ⦃s⦄, P s → ∃ u, s.take m = .ok u ∧ Q u) : Leads P [.mark m] Q := by
  apply Leads.token before behind
  intro s start
  obtain ⟨u, taken, last⟩ := moves start
  exact ⟨u, State.takeAll_cons.2 ⟨u, taken, rfl⟩, last⟩

end Leading

/-- A type begins on top of the open lists. -/
def AtType (stack : List OpenList) (s : State) : Prop := s = ⟨stack, .expectName⟩

/-- The state is behind the name, on top of the open lists. -/
inductive BehindName (stack : List OpenList) : String → State → Prop where
  | within (letters : List Char) : BehindName stack (spelled letters) ⟨stack, .inName letters⟩
  | after (name : String) : BehindName stack name ⟨stack, .afterName name⟩

/-- The state is behind the type, on top of the open lists. -/
inductive BehindType (stack : List OpenList) : Descriptor → State → Prop where
  | name {name : String} {s : State} (behind : BehindName stack name s) :
      BehindType stack (ofName name) s
  | complete (t : Descriptor) : BehindType stack t ⟨stack, .complete t⟩

/-- An array bracket is open over the type. -/
def AtBracket (stack : List OpenList) (t : Descriptor) (s : State) : Prop :=
  s = ⟨stack, .inBracket t⟩

/-- The state is behind the last of the arguments that follow the name. -/
def BehindArguments (outer : List OpenList) (name : String) (args : List Descriptor) (s : State) :
    Prop :=
  ∃ earlier last, args = (last :: earlier).reverse ∧ BehindType (⟨name, earlier⟩ :: outer) last s

section Places

variable {stack outer : List OpenList} {name : String} {t : Descriptor} {s : State} {c : Char}

theorem AtType.stays : Stays (AtType stack) := by
  rintro s rfl c white
  exact ⟨_, if_pos white, rfl⟩

theorem AtBracket.stays : Stays (AtBracket stack t) := by
  rintro s rfl c white
  exact ⟨_, if_pos white, rfl⟩

/-- A character that ends the name is taken behind it. -/
theorem BehindName.take (behind : BehindName stack name s) (ends : isNameChar c = false) :
    s.take c = takeAfterName stack name c := by
  cases behind with
  | within letters => simp [State.take, ends]
  | after => rfl

theorem BehindName.stays : Stays (BehindName stack name) := by
  intro s behind c white
  rw [behind.take (isNameChar_eq_false_of_isBlank white)]
  exact ⟨_, if_pos white, .after name⟩

theorem BehindType.stays : Stays (BehindType stack t) := by
  intro s behind c white
  cases behind with
  | name behind =>
      obtain ⟨u, taken, still⟩ := behind.stays white
      exact ⟨u, taken, .name still⟩
  | complete => exact ⟨_, if_pos white, .complete t⟩

/-- A mark that opens no list is taken behind the type. -/
theorem BehindType.take (behind : BehindType stack t s) (mark : c ∈ [',', '>', '[']) :
    s.take c = takeAfterType stack t c := by
  have differs : c ≠ '<' := by
    rintro rfl
    simp at mark
  obtain ⟨ends, visible⟩ := mark_spec c (by simp at mark ⊢; tauto)
  cases behind with
  | name behind => rw [behind.take ends, takeAfterName, if_neg (by simp [visible]), if_neg differs]
  | complete => rfl

theorem BehindArguments.stays {args : List Descriptor} :
    Stays (BehindArguments outer name args) := by
  rintro s ⟨earlier, last, rfl, behind⟩ c white
  obtain ⟨u, taken, still⟩ := behind.stays white
  exact ⟨u, taken, earlier, last, rfl, still⟩

end Places

section Steps

variable {stack outer : List OpenList} {name : String} {t : Descriptor}

theorem takeAll_name {letters cs : List Char} (chars : ∀ c ∈ cs, isNameChar c) :
    State.takeAll ⟨stack, .inName letters⟩ cs = .ok ⟨stack, .inName (cs.reverse ++ letters)⟩ := by
  induction cs generalizing letters with
  | nil => rfl
  | cons c cs ih =>
      obtain ⟨first, others⟩ := List.forall_mem_cons.1 chars
      have taken : State.take ⟨stack, .inName letters⟩ c = .ok ⟨stack, .inName (c :: letters)⟩ :=
        if_pos first
      rw [State.takeAll_cons]
      refine ⟨_, taken, ?_⟩
      rw [ih others]
      simp

/-- The letters of a name lead behind it. -/
theorem leads_name (isName : IsName name) :
    Leads (AtType stack) [.name name] (BehindName stack name) := by
  apply Leads.token AtType.stays BehindName.stays
  rintro s rfl
  obtain ⟨c, cs, text⟩ := List.exists_cons_of_ne_nil isName.nonempty
  obtain ⟨first, others⟩ := List.forall_mem_cons.1 (text ▸ isName.chars)
  have visible : isBlank c = false := by
    cases white : isBlank c with
    | false => rfl
    | true =>
        rw [isNameChar_eq_false_of_isBlank white] at first
        cases first
  have begun : State.take ⟨stack, .expectName⟩ c = .ok ⟨stack, .inName [c]⟩ := by
    simp [State.take, visible, first]
  have spells : spelled (cs.reverse ++ [c]) = name := by
    rw [spelled, List.reverse_append, List.reverse_reverse, List.reverse_singleton,
      List.singleton_append, ← text, String.ofList_toList]
  refine ⟨⟨stack, .inName (cs.reverse ++ [c])⟩, ?_, ?_⟩
  · rw [Token.chars, text, State.takeAll_cons]
    exact ⟨_, begun, takeAll_name others⟩
  · have behind := @BehindName.within stack (cs.reverse ++ [c])
    rwa [spells] at behind

theorem leads_open :
    Leads (BehindName stack name) [.mark '<'] (AtType (⟨name, []⟩ :: stack)) := by
  apply Leads.mark BehindName.stays AtType.stays
  intro s behind
  rw [behind.take (mark_spec '<' (by simp)).1]
  exact ⟨_, rfl, rfl⟩

theorem leads_comma {args : List Descriptor} :
    Leads (BehindType (⟨name, args⟩ :: outer) t) [.mark ',']
      (AtType (⟨name, t :: args⟩ :: outer)) := by
  apply Leads.mark BehindType.stays AtType.stays
  intro s behind
  rw [behind.take (by simp)]
  exact ⟨_, rfl, rfl⟩

theorem leads_close {args : List Descriptor} (free : ∀ kind : Primitive, name ≠ kind.name) :
    Leads (BehindArguments stack name args) [.mark '>']
      (BehindType stack (.declared name args)) := by
  apply Leads.mark BehindArguments.stays BehindType.stays
  rintro s ⟨earlier, last, rfl, behind⟩
  have taken : s.take '>' = .ok ⟨stack, .complete (.declared name (last :: earlier).reverse)⟩ := by
    rw [behind.take (by simp)]
    simp [takeAfterType, free_iff.2 free, mark_spec]
  exact ⟨_, taken, .complete _⟩

theorem leads_brackets :
    Leads (BehindType stack t) [.mark '[', .mark ']'] (BehindType stack (.array t)) := by
  have left : Leads (BehindType stack t) [.mark '['] (AtBracket stack t) := by
    apply Leads.mark BehindType.stays AtBracket.stays
    intro s behind
    rw [behind.take (by simp)]
    exact ⟨_, rfl, rfl⟩
  have right : Leads (AtBracket stack t) [.mark ']'] (BehindType stack (.array t)) := by
    apply Leads.mark AtBracket.stays BehindType.stays
    rintro s rfl
    exact ⟨_, rfl, .complete _⟩
  exact left.append right

end Steps

theorem isName_name (kind : Primitive) : IsName kind.name where
  nonempty := by cases kind <;> decide
  chars := by
    have all : kind.name.toList.all isNameChar = true := by cases kind <;> decide +kernel
    exact List.all_eq_true.1 all

/-- A name alone leads behind the type that it stands for. -/
theorem leads_ofName {name : String} (isName : IsName name) (stack : List OpenList) :
    Leads (AtType stack) [.name name] (BehindType stack (ofName name)) := by
  intro cs spells s start
  obtain ⟨u, taken, behind⟩ := leads_name isName spells start
  exact ⟨u, taken, .name behind⟩

mutual

/-- The tokens of a type lead behind it, on top of any open lists. -/
theorem Derives.leads {tokens : List Token} {t : Descriptor} (derives : Derives tokens t)
    (stack : List OpenList) : Leads (AtType stack) tokens (BehindType stack t) := by
  match derives with
  | .primitive kind =>
      have alone := leads_ofName (isName_name kind) stack
      rwa [ofName, Primitive.ofName?_name] at alone
  | .declared isName free =>
      have alone := leads_ofName isName stack
      rwa [ofName, free_iff.2 free] at alone
  | @Derives.parameterized name _ _ isName free list =>
      have opened : Leads (AtType stack) [.name name, .mark '<'] (AtType (⟨name, []⟩ :: stack)) :=
        (leads_name isName).append leads_open
      exact (opened.append (list.leads stack name [])).append (leads_close free)
  | .array component => exact (component.leads stack).append leads_brackets

/-- The tokens of arguments lead behind the last of them. -/
theorem DerivesAll.leads {tokens : List Token} {ts : List Descriptor}
    (derives : DerivesAll tokens ts) (outer : List OpenList) (name : String)
    (earlier : List Descriptor) :
    Leads (AtType (⟨name, earlier⟩ :: outer)) tokens
      (BehindArguments outer name (earlier.reverse ++ ts)) := by
  match derives with
  | .single only =>
      intro cs spells s start
      obtain ⟨u, taken, behind⟩ := only.leads _ spells start
      exact ⟨u, taken, earlier, _, List.reverse_cons.symm, behind⟩
  | @DerivesAll.cons _ _ t _ first others =>
      have inside := others.leads outer name (t :: earlier)
      rw [List.reverse_cons, List.append_assoc, List.singleton_append] at inside
      exact (first.leads _).append (leads_comma.append inside)

end

theorem BehindType.finish {t : Descriptor} {s : State} (behind : BehindType [] t s) :
    s.finish = .ok t := by
  cases behind with
  | name behind => cases behind <;> rfl
  | complete => rfl

theorem read_of_denotes {s : String} {t : Descriptor} (denotes : Denotes s t) : read s = .ok t := by
  obtain ⟨tokens, derives, spells⟩ := denotes
  have start : AtType [] State.initial := rfl
  obtain ⟨u, taken, behind⟩ := derives.leads [] spells start
  exact State.read_eq_ok.2 ⟨u, taken, behind.finish⟩

/-! ## Exactness -/

theorem DerivesAll.ne_nil {tokens : List Token} {ts : List Descriptor}
    (derives : DerivesAll tokens ts) : ts ≠ [] := by
  cases derives <;> exact List.cons_ne_nil _ _

mutual

/-- A type has one sequence of tokens. -/
theorem Derives.unique {tokens tokens' : List Token} {t : Descriptor} (derives : Derives tokens t)
    (derives' : Derives tokens' t) : tokens = tokens' := by
  match derives with
  | .primitive kind =>
      cases derives'
      rfl
  | .declared isName free =>
      cases derives' with
      | declared => rfl
      | parameterized _ _ list => exact (list.ne_nil rfl).elim
  | .parameterized isName free list =>
      cases derives' with
      | declared => exact (list.ne_nil rfl).elim
      | parameterized _ _ list' => rw [list.unique list']
  | .array component =>
      cases derives' with
      | array component' => rw [component.unique component']

theorem DerivesAll.unique {tokens tokens' : List Token} {ts : List Descriptor}
    (derives : DerivesAll tokens ts) (derives' : DerivesAll tokens' ts) : tokens = tokens' := by
  match derives with
  | .single only =>
      cases derives' with
      | single only' => exact only.unique only'
      | cons _ others' => exact (others'.ne_nil rfl).elim
  | .cons first others =>
      cases derives' with
      | single => exact (others.ne_nil rfl).elim
      | cons first' others' => rw [first.unique first', others.unique others']

end

/-- **The reader accepts exactly its grammar.** It gives a type for a text when the text denotes
that type and only then. A text has at most one type and one sequence of tokens that forms it, and
every text that denotes no type is refused. -/
theorem read_exact (s : String) :
    (∀ t, read s = .ok t ↔ Denotes s t) ∧
      (∀ tokens t tokens' t', Derives tokens t → Spells tokens s.toList →
        Derives tokens' t' → Spells tokens' s.toList → tokens = tokens' ∧ t = t') ∧
      ((∀ t, ¬ Denotes s t) → ∃ fault, read s = .error fault) := by
  refine ⟨fun t => ⟨denotes_of_read, read_of_denotes⟩, ?_, ?_⟩
  · intro tokens t tokens' t' derives spells derives' spells'
    have result := read_of_denotes ⟨tokens, derives, spells⟩
    have result' := read_of_denotes ⟨tokens', derives', spells'⟩
    obtain rfl : t = t' := by
      rw [result] at result'
      cases result'
      rfl
    exact ⟨derives.unique derives', rfl⟩
  · intro nothing
    cases result : read s with
    | ok t => exact (nothing t (denotes_of_read result)).elim
    | error fault => exact ⟨fault, rfl⟩

/-- White space between all tokens leaves the type as it is, and a reserved word takes no list. -/
theorem spacedMap_exact :
    (∃ t, Denotes "java.util.Map< a.B ,\tint [ ] >" t ∧ t.print = "java.util.Map<a.B,int[]>") ∧
      ∀ t, ¬ Denotes "int<a.B>" t := by
  constructor
  · have printed : (read "java.util.Map< a.B ,\tint [ ] >").toOption.map print =
        some "java.util.Map<a.B,int[]>" := by decide +kernel
    cases result : read "java.util.Map< a.B ,\tint [ ] >" with
    | ok t =>
        rw [result] at printed
        exact ⟨t, ((read_exact _).1 t).1 result, Option.some.inj printed⟩
    | error fault =>
        rw [result] at printed
        cases printed
  · intro t denotes
    have refused : (read "int<a.B>").isOk = false := by decide +kernel
    rw [((read_exact _).1 t).2 denotes] at refused
    cases refused

end RecordSynthesis.Descriptor
