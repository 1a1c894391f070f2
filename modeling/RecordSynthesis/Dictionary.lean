/-!
# Dictionaries in key order

A dictionary is a list of entries in strictly ascending order of their keys. The order is part of
the type, so a dictionary is determined by what it answers: two dictionaries with the same answers
are equal (`Dictionary.ext`). What each operation does is said through `find?`.
-/

set_option autoImplicit false

namespace RecordSynthesis

/-- A finite map with its entries in strictly ascending key order. -/
structure Dictionary (κ : Type) (α : Type) [Ord κ] where
  entries : List (κ × α)
  ascending : entries.Pairwise fun a b => compare a.1 b.1 = .lt

namespace Dictionary

variable {κ α : Type} [Ord κ]

/-! ## Entry lists -/

/-- Puts an entry at its place in key order, over an entry with the same key. -/
def placed (k : κ) (v : α) : List (κ × α) → List (κ × α)
  | [] => [(k, v)]
  | e :: rest =>
    match compare k e.1 with
    | .lt => (k, v) :: e :: rest
    | .eq => (k, v) :: rest
    | .gt => e :: placed k v rest

theorem mem_placed {k : κ} {v : α} {x : κ × α} {es : List (κ × α)} (h : x ∈ placed k v es) :
    x = (k, v) ∨ x ∈ es := by
  induction es with
  | nil => simpa [placed] using h
  | cons e rest ih =>
    rw [placed] at h
    split at h
    · simpa using h
    · rcases List.mem_cons.1 h with h | h
      · exact .inl h
      · exact .inr (List.mem_cons_of_mem _ h)
    · rcases List.mem_cons.1 h with h | h
      · exact .inr (h ▸ List.mem_cons_self)
      · exact (ih h).imp id (List.mem_cons_of_mem _)

theorem placed_ascending [Std.TransOrd κ] {k : κ} {v : α} {es : List (κ × α)}
    (h : es.Pairwise fun a b => compare a.1 b.1 = .lt) :
    (placed k v es).Pairwise fun a b => compare a.1 b.1 = .lt := by
  induction es with
  | nil => simp [placed]
  | cons e rest ih =>
    obtain ⟨below, tail⟩ := List.pairwise_cons.1 h
    rw [placed]
    split
    next lt =>
      refine List.pairwise_cons.2 ⟨fun x hx => ?_, h⟩
      rcases List.mem_cons.1 hx with rfl | hx
      · exact lt
      · exact Std.TransCmp.lt_trans lt (below x hx)
    next eq =>
      refine List.pairwise_cons.2 ⟨fun x hx => ?_, tail⟩
      exact Std.TransCmp.lt_of_eq_of_lt eq (below x hx)
    next gt =>
      refine List.pairwise_cons.2 ⟨fun x hx => ?_, ih tail⟩
      rcases mem_placed hx with rfl | hx
      · exact Std.OrientedCmp.lt_of_gt gt
      · exact below x hx

/-! ## Operations -/

/-- The dictionary without entries. -/
def empty : Dictionary κ α := ⟨[], .nil⟩

instance : Inhabited (Dictionary κ α) := ⟨empty⟩

/-- The number of entries. -/
def size (d : Dictionary κ α) : Nat := d.entries.length

/-- The keys in ascending order. -/
def keys (d : Dictionary κ α) : List κ := d.entries.map (·.1)

/-- The values in the order of their keys. -/
def values (d : Dictionary κ α) : List α := d.entries.map (·.2)

/-- The value of a key. -/
def find? [DecidableEq κ] (d : Dictionary κ α) (k : κ) : Option α :=
  (d.entries.find? (fun e => e.1 = k)).map (·.2)

/-- Whether the key has a value. -/
def contains [DecidableEq κ] (d : Dictionary κ α) (k : κ) : Bool := (d.find? k).isSome

/-- Gives a key a value, over an earlier one. -/
def insert [Std.TransOrd κ] (d : Dictionary κ α) (k : κ) (v : α) : Dictionary κ α :=
  ⟨placed k v d.entries, placed_ascending d.ascending⟩

/-- Takes a key and its value out. -/
def erase [DecidableEq κ] (d : Dictionary κ α) (k : κ) : Dictionary κ α :=
  ⟨d.entries.filter (fun e => e.1 ≠ k), d.ascending.filter _⟩

/-- The dictionary of a function on a list of keys. -/
def ofKeys [Std.TransOrd κ] (ks : List κ) (f : κ → α) : Dictionary κ α :=
  ks.foldl (fun d k => d.insert k (f k)) empty

/-! ## What the operations answer -/

@[simp]
theorem find?_empty [DecidableEq κ] (k : κ) : (empty : Dictionary κ α).find? k = none := rfl

section Lawful

variable [Std.TransOrd κ] [Std.LawfulEqOrd κ] [DecidableEq κ]

omit [Std.TransOrd κ] in
theorem find?_placed (k : κ) (v : α) (es : List (κ × α)) (j : κ) :
    (placed k v es).find? (fun e => e.1 = j) =
      if k = j then some (k, v) else es.find? (fun e => e.1 = j) := by
  induction es with
  | nil => by_cases h : k = j <;> simp [placed, h]
  | cons e rest ih =>
    rw [placed]
    split
    · by_cases h : k = j <;> simp [h]
    next eq =>
      have same : k = e.1 := Std.LawfulEqOrd.eq_of_compare eq
      by_cases h : k = j
      · simp [h]
      · have : e.1 ≠ j := same ▸ h
        simp [h, this]
    next gt =>
      by_cases h : k = j
      · have other : e.1 ≠ j := by
          intro h'
          rw [h, h'] at gt
          simp at gt
        rw [List.find?_cons_of_neg (by simpa using other), ih, if_pos h, if_pos h]
      · simp only [List.find?_cons, ih, h, if_false]

/-- The inserted key answers the new value, and every other key answers as before. -/
theorem find?_insert (d : Dictionary κ α) (k : κ) (v : α) (j : κ) :
    (d.insert k v).find? j = if k = j then some v else d.find? j := by
  simp only [find?, insert, find?_placed]
  split <;> rfl

omit [Std.TransOrd κ] [Std.LawfulEqOrd κ] in
/-- The erased key answers nothing, and every other key answers as before. -/
theorem find?_erase (d : Dictionary κ α) (k j : κ) :
    (d.erase k).find? j = if k = j then none else d.find? j := by
  simp only [find?, erase, List.find?_filter]
  by_cases h : k = j
  · subst h
    simp
  · rw [if_neg h]
    congr 2
    funext e
    by_cases h' : e.1 = j
    · simp [h', Ne.symm h]
    · simp [h']

omit [Std.TransOrd κ] in
/-- A key that comes before every key of a list is not in it. -/
theorem find?_eq_none_of_before {k : κ} {es : List (κ × α)}
    (h : ∀ e ∈ es, compare k e.1 = .lt) : es.find? (fun e => e.1 = k) = none := by
  refine List.find?_eq_none.2 fun e he same => ?_
  have := h e he
  simp only [decide_eq_true_eq] at same
  rw [same] at this
  simp at this

theorem eq_of_find?_eq {es fs : List (κ × α)}
    (he : es.Pairwise fun a b => compare a.1 b.1 = .lt)
    (hf : fs.Pairwise fun a b => compare a.1 b.1 = .lt)
    (h : ∀ k, es.find? (fun e => e.1 = k) = fs.find? (fun e => e.1 = k)) : es = fs := by
  induction es generalizing fs with
  | nil =>
    cases fs with
    | nil => rfl
    | cons f fs => simpa using h f.1
  | cons e es ih =>
    cases fs with
    | nil => simpa using h e.1
    | cons f fs =>
      obtain ⟨eBelow, eTail⟩ := List.pairwise_cons.1 he
      obtain ⟨fBelow, fTail⟩ := List.pairwise_cons.1 hf
      have same : compare e.1 f.1 = .eq := by
        cases order : compare e.1 f.1 with
        | eq => rfl
        | lt =>
          have none : (f :: fs).find? (fun x => x.1 = e.1) = none :=
            find?_eq_none_of_before fun x hx => by
              rcases List.mem_cons.1 hx with rfl | hx
              · exact order
              · exact Std.TransCmp.lt_trans order (fBelow x hx)
          rw [← h e.1] at none
          simp at none
        | gt =>
          have none : (e :: es).find? (fun x => x.1 = f.1) = none :=
            find?_eq_none_of_before fun x hx => by
              rcases List.mem_cons.1 hx with rfl | hx
              · exact Std.OrientedCmp.lt_of_gt order
              · exact Std.TransCmp.lt_trans (Std.OrientedCmp.lt_of_gt order) (eBelow x hx)
          rw [h f.1] at none
          simp at none
      have key : e.1 = f.1 := Std.LawfulEqOrd.eq_of_compare same
      have first : e = f := by
        have := h e.1
        simpa [key] using this
      subst first
      refine congrArg (e :: ·) (ih eTail fTail fun k => ?_)
      by_cases hk : e.1 = k
      · subst hk
        rw [find?_eq_none_of_before eBelow, find?_eq_none_of_before fBelow]
      · have := h k
        simpa [hk] using this

/-- Dictionaries with the same answers are equal. -/
theorem ext {d e : Dictionary κ α} (h : ∀ k, d.find? k = e.find? k) : d = e := by
  have pair : ∀ (es : List (κ × α)) (k : κ), es.find? (fun e => e.1 = k) =
      ((es.find? (fun e => e.1 = k)).map (·.2)).map fun v => (k, v) := by
    intro es k
    cases found : es.find? (fun e => e.1 = k) with
    | none => rfl
    | some x =>
      have := List.find?_some found
      simp only [decide_eq_true_eq] at this
      simp [← this]
  have same : d.entries = e.entries := by
    refine eq_of_find?_eq d.ascending e.ascending fun k => ?_
    rw [pair d.entries k, pair e.entries k]
    exact congrArg (Option.map fun v => (k, v)) (h k)
  cases d
  cases e
  simp only at same
  subst same
  rfl

/-- A dictionary made from a function answers the function on the listed keys only. -/
theorem find?_ofKeys (ks : List κ) (f : κ → α) (k : κ) :
    (ofKeys ks f).find? k = if k ∈ ks then some (f k) else none := by
  have general : ∀ (ks : List κ) (d : Dictionary κ α),
      (ks.foldl (fun d k => d.insert k (f k)) d).find? k =
        if k ∈ ks then some (f k) else d.find? k := by
    intro ks
    induction ks with
    | nil => simp
    | cons j ks ih =>
      intro d
      simp only [List.foldl_cons, ih, find?_insert, List.mem_cons]
      by_cases hk : k ∈ ks
      · simp [hk]
      · by_cases hj : j = k
        · subst hj
          simp
        · simp [hk, hj, Ne.symm hj]
  simpa [ofKeys] using general ks empty

omit [Std.TransOrd κ] [Std.LawfulEqOrd κ] in
/-- The keys are those that have a value. -/
theorem mem_keys {d : Dictionary κ α} {k : κ} : k ∈ d.keys ↔ d.find? k ≠ none := by
  rw [keys, List.mem_map, find?, ne_eq, Option.map_eq_none_iff, List.find?_eq_none]
  constructor
  · rintro ⟨e, member, same⟩ none
    exact none e member (decide_eq_true same)
  · intro some
    refine Classical.byContradiction fun missing => some fun e member same => ?_
    exact missing ⟨e, member, of_decide_eq_true same⟩

theorem mem_keys_ofKeys {ks : List κ} {f : κ → α} {k : κ} : k ∈ (ofKeys ks f).keys ↔ k ∈ ks := by
  rw [mem_keys, find?_ofKeys]
  by_cases member : k ∈ ks <;> simp [member]

/-- The order of the keys and their repetitions leave no trace. -/
theorem ofKeys_congr {ks js : List κ} (same : ∀ k, k ∈ ks ↔ k ∈ js) (f : κ → α) :
    ofKeys ks f = ofKeys js f := by
  refine ext fun k => ?_
  simp only [find?_ofKeys, same]

end Lawful

end Dictionary

end RecordSynthesis
