import RecordSynthesis.Proofs.Classification
import RecordSynthesis.Proofs.TypeGrammar

/-!
# Printed types

A descriptor need not come from a text: one whose declared name is `int` or `a.B[]` prints as a text
that stands for another type. Those that come from a text are the well-formed ones, in which every
declared name, at any depth, is a name and no reserved word (`Descriptor.WellFormed`). They are also
exactly those that the reader gives back from their printed text (`read_print`).

Printing puts the tokens of a type one behind the other (`Derives.chars`). So the printed text of a
type that was read is the text without its white space (`print_of_read`), and two texts have the
same type when they differ in white space only.
-/

set_option autoImplicit false

namespace RecordSynthesis.Descriptor

open RecordSynthesis.Text

/-! ## Well-formed descriptors -/

/-- Every declared name in the descriptor is a name and no reserved word. -/
def WellFormed (t : Descriptor) : Prop :=
  ∀ name ∈ t.names, IsName name ∧ ∀ kind : Primitive, name ≠ kind.name

theorem wellFormed_primitive (kind : Primitive) : (primitive kind).WellFormed := nofun

theorem mem_namesOfAll {name : String} {ts : List Descriptor} :
    name ∈ namesOfAll ts ↔ ∃ t ∈ ts, name ∈ t.names := by
  induction ts with
  | nil => simp [namesOfAll]
  | cons t ts ih => simp [namesOfAll, ih]

theorem wellFormed_declared {name : String} {args : List Descriptor} :
    (declared name args).WellFormed ↔
      (IsName name ∧ ∀ kind : Primitive, name ≠ kind.name) ∧ ∀ t ∈ args, t.WellFormed := by
  simp only [WellFormed, names, List.forall_mem_cons, mem_namesOfAll]
  refine and_congr_right fun _ => ?_
  constructor
  · intro all t member name inside
    exact all name ⟨t, member, inside⟩
  · rintro all name ⟨t, member, inside⟩
    exact all t member name inside

/-! ## Tokens of well-formed descriptors -/

mutual

/-- Only well-formed descriptors are derived. -/
theorem Derives.wellFormed {tokens : List Token} {t : Descriptor} (derives : Derives tokens t) :
    t.WellFormed := by
  match derives with
  | .primitive kind => exact wellFormed_primitive kind
  | .declared isName free => exact wellFormed_declared.2 ⟨⟨isName, free⟩, nofun⟩
  | .parameterized isName free list =>
      exact wellFormed_declared.2 ⟨⟨isName, free⟩, list.wellFormed⟩
  | .array component => exact component.wellFormed

theorem DerivesAll.wellFormed {tokens : List Token} {ts : List Descriptor}
    (derives : DerivesAll tokens ts) : ∀ t ∈ ts, t.WellFormed := by
  match derives with
  | .single only => exact List.forall_mem_singleton.2 only.wellFormed
  | .cons first others => exact List.forall_mem_cons.2 ⟨first.wellFormed, others.wellFormed⟩

end

mutual

/-- Every well-formed descriptor is derived. -/
theorem exists_derives : ∀ t : Descriptor, t.WellFormed → ∃ tokens, Derives tokens t
  | .primitive kind, _ => ⟨_, .primitive kind⟩
  | .array component, wellFormed => by
      obtain ⟨tokens, derives⟩ := exists_derives component wellFormed
      exact ⟨_, .array derives⟩
  | .declared name [], wellFormed => by
      obtain ⟨⟨isName, free⟩, _⟩ := wellFormed_declared.1 wellFormed
      exact ⟨_, .declared isName free⟩
  | .declared name (first :: more), wellFormed => by
      obtain ⟨⟨isName, free⟩, inside⟩ := wellFormed_declared.1 wellFormed
      obtain ⟨tokens, list⟩ := exists_derivesAll (first :: more) (List.cons_ne_nil _ _) inside
      exact ⟨_, .parameterized isName free list⟩

theorem exists_derivesAll : ∀ ts : List Descriptor, ts ≠ [] → (∀ t ∈ ts, t.WellFormed) →
    ∃ tokens, DerivesAll tokens ts
  | [], nonempty, _ => (nonempty rfl).elim
  | first :: more, _, wellFormed => by
      obtain ⟨here, behind⟩ := List.forall_mem_cons.1 wellFormed
      obtain ⟨tokens, derives⟩ := exists_derives first here
      have others := fun nonempty => exists_derivesAll more nonempty behind
      cases more with
      | nil => exact ⟨_, .single derives⟩
      | cons second more =>
          obtain ⟨tokens', list⟩ := others (List.cons_ne_nil _ _)
          exact ⟨_, .cons derives list⟩

end

/-! ## Printing and tokens -/

mutual

/-- The printed text of a type is made of its tokens and of nothing else. -/
theorem Derives.chars {tokens : List Token} {t : Descriptor} (derives : Derives tokens t) :
    tokens.flatMap Token.chars = t.print.toList := by
  match derives with
  | .primitive kind => simp [Token.chars, print]
  | .declared isName free => simp [Token.chars, print]
  | .parameterized isName free list =>
      obtain ⟨first, more, rfl, chars⟩ := list.chars
      simp [Token.chars, print, chars]
  | .array component => simp [component.chars, print]

theorem DerivesAll.chars {tokens : List Token} {ts : List Descriptor}
    (derives : DerivesAll tokens ts) :
    ∃ first more, ts = first :: more ∧
      tokens.flatMap Token.chars = first.print.toList ++ (printMore more).toList := by
  match derives with
  | .single only => exact ⟨_, [], rfl, by simp [only.chars, printMore]⟩
  | .cons first others =>
      obtain ⟨second, more, rfl, chars⟩ := others.chars
      exact ⟨_, second :: more, rfl, by simp [first.chars, chars, printMore]⟩

end

/-- The characters of tokens, one token behind the other, spell them. -/
theorem spells_flatMap (tokens : List Token) : Spells tokens (tokens.flatMap Token.chars) := by
  induction tokens with
  | nil => exact .nil
  | cons first tokens ih => exact .token first ih

/-- A well-formed descriptor is denoted by its printed text. -/
theorem denotes_print {t : Descriptor} (wellFormed : t.WellFormed) : Denotes t.print t := by
  obtain ⟨tokens, derives⟩ := exists_derives t wellFormed
  refine ⟨tokens, derives, ?_⟩
  rw [← derives.chars]
  exact spells_flatMap tokens

/-! ## White space -/

/-- No character of the token is white space. -/
def Token.Visible (token : Token) : Prop := ∀ c ∈ token.chars, isBlank c = false

theorem IsName.visible {name : String} (isName : IsName name) : (Token.name name).Visible := by
  intro c member
  cases white : isBlank c with
  | false => rfl
  | true =>
      have nameChar := isName.chars c member
      rw [isNameChar_eq_false_of_isBlank white] at nameChar
      cases nameChar

theorem visible_mark {c : Char} (mark : c ∈ ['<', ',', '>', '[', ']']) :
    (Token.mark c).Visible :=
  List.forall_mem_singleton.2 (mark_spec c mark).2

mutual

theorem Derives.visible {tokens : List Token} {t : Descriptor} (derives : Derives tokens t) :
    ∀ token ∈ tokens, token.Visible := by
  match derives with
  | .primitive kind => exact List.forall_mem_singleton.2 (isName_name kind).visible
  | .declared isName free => exact List.forall_mem_singleton.2 isName.visible
  | .parameterized isName free list =>
      have inside := list.visible
      have left : (Token.mark '<').Visible := visible_mark (by simp)
      have right : (Token.mark '>').Visible := visible_mark (by simp)
      simp only [List.cons_append, List.forall_mem_cons, List.forall_mem_append]
      exact ⟨isName.visible, left, inside, right, nofun⟩
  | .array component =>
      have inside := component.visible
      have left : (Token.mark '[').Visible := visible_mark (by simp)
      have right : (Token.mark ']').Visible := visible_mark (by simp)
      simp only [List.forall_mem_cons, List.forall_mem_append]
      exact ⟨inside, left, right, nofun⟩

theorem DerivesAll.visible {tokens : List Token} {ts : List Descriptor}
    (derives : DerivesAll tokens ts) : ∀ token ∈ tokens, token.Visible := by
  match derives with
  | .single only => exact only.visible
  | .cons first others =>
      have comma : (Token.mark ',').Visible := visible_mark (by simp)
      rw [List.forall_mem_append, List.forall_mem_cons]
      exact ⟨first.visible, comma, others.visible⟩

end

/-- A text without its white space. -/
def withoutBlanks (s : String) : String := String.ofList (s.toList.filter fun c => !isBlank c)

/-- What is left of a spelling without its white space are the characters of the tokens. -/
theorem Spells.filter {tokens : List Token} {cs : List Char} (spells : Spells tokens cs)
    (visible : ∀ token ∈ tokens, token.Visible) :
    cs.filter (fun c => !isBlank c) = tokens.flatMap Token.chars := by
  induction spells with
  | nil => rfl
  | blank white _ ih => rw [List.filter_cons_of_neg (by simp [white]), ih visible]
  | token first _ ih =>
      obtain ⟨here, behind⟩ := List.forall_mem_cons.1 visible
      have kept : first.chars.filter (fun c => !isBlank c) = first.chars := by
        rw [List.filter_eq_self]
        intro c member
        rw [here c member]
        rfl
      rw [List.filter_append, kept, ih behind, List.flatMap_cons]

/-- A text that denotes a type is its printed text when the white space is left out. -/
theorem Denotes.print_eq {s : String} {t : Descriptor} (denotes : Denotes s t) :
    t.print = withoutBlanks s := by
  obtain ⟨tokens, derives, spells⟩ := denotes
  rw [withoutBlanks, spells.filter derives.visible, derives.chars, String.ofList_toList]

/-! ## Reading what is printed -/

theorem wellFormed_of_read {s : String} {t : Descriptor} (result : read s = .ok t) :
    t.WellFormed := by
  obtain ⟨tokens, derives, _⟩ := denotes_of_read result
  exact derives.wellFormed

theorem read_print_of_wellFormed {t : Descriptor} (wellFormed : t.WellFormed) :
    read t.print = .ok t :=
  read_of_denotes (denotes_print wellFormed)

theorem print_of_read {s : String} {t : Descriptor} (result : read s = .ok t) :
    t.print = withoutBlanks s :=
  (denotes_of_read result).print_eq

/-- **Printing and reading are inverse.** A descriptor is read back from its printed text exactly
when it is well formed, and every descriptor that is read is. So reading a text, printing the type
and reading again gives the type of the text. The printed text of a type is a canonical form: it is
any text of the type without the white space, and texts have the same type when their types print
alike. -/
theorem read_print :
    (∀ t : Descriptor, read t.print = .ok t ↔ t.WellFormed) ∧
      ∀ (s : String) (t : Descriptor), read s = .ok t →
        t.WellFormed ∧ read t.print = read s ∧ t.print = withoutBlanks s ∧
          ∀ (s' : String) (t' : Descriptor), read s' = .ok t' → (t = t' ↔ t.print = t'.print) := by
  refine ⟨fun t => ⟨wellFormed_of_read, read_print_of_wellFormed⟩, ?_⟩
  intro s t result
  have wellFormed := wellFormed_of_read result
  have again := read_print_of_wellFormed wellFormed
  refine ⟨wellFormed, again.trans result.symm, print_of_read result, ?_⟩
  intro s' t' result'
  constructor
  · exact congrArg print
  · intro alike
    have again' := read_print_of_wellFormed (wellFormed_of_read result')
    rw [← alike, again] at again'
    cases again'
    rfl

/-- White space of several kinds is left out, and the same type is read again. A name that holds
brackets is not well formed, for its text stands for an array. -/
theorem spacedMap_print :
    (∃ t, read "java.util.Map< a.B ,\tint [ ] >" = .ok t ∧ t.WellFormed ∧ read t.print = .ok t ∧
        t.print = "java.util.Map<a.B,int[]>") ∧
      ¬ (declared "byte[]" []).WellFormed := by
  constructor
  · have accepted : (read "java.util.Map< a.B ,\tint [ ] >").isOk = true := by decide +kernel
    have canonical : withoutBlanks "java.util.Map< a.B ,\tint [ ] >" =
        "java.util.Map<a.B,int[]>" := by decide +kernel
    cases result : read "java.util.Map< a.B ,\tint [ ] >" with
    | ok t =>
        obtain ⟨wellFormed, again, printed, _⟩ := read_print.2 _ t result
        exact ⟨t, rfl, wellFormed, again.trans result, printed.trans canonical⟩
    | error fault =>
        rw [result] at accepted
        cases accepted
  · intro wellFormed
    have back := (read_print.1 (declared "byte[]" [])).2 wellFormed
    have array : (read "byte[]").toOption.map (fun t => t.names) = some [] := by decide +kernel
    rw [show (declared "byte[]" []).print = "byte[]" from rfl] at back
    rw [back] at array
    simp [names, Except.toOption] at array

end RecordSynthesis.Descriptor
