import QueryLint.Finding.Place

/-! Patterns in writing, as far as it takes to look for a word. Main statement: `ofWriting?_escape`, an
escaped word is read as the pattern of its letters, whatever signs it has. -/
namespace QueryLint.Pattern
set_option autoImplicit false

/-- The signs of which the operators of a pattern are made in writing. -/
def operatorSigns : List Char := ".^$*+?\x7b\x7d[]\\|()".toList

/-- The signs that are escaped: those of operators, those with a meaning between brackets, and white
space. -/
def escapedSigns : List Char := operatorSigns ++ "-&~# \t\n\r\x0b\x0c".toList

/-- The word with a backslash before each of these signs. -/
def escape (w : Text) : Text :=
  w.flatMap fun c => if escapedSigns.contains c then ['\\', c] else [c]

/-- The word for which writing without operators stands. A sign after a backslash stands for itself; a
letter or digit after a backslash does not. -/
def plainWord? : Text → Option Text
  | [] => some []
  | '\\' :: c :: rest => if c.isAlphanum then none else (plainWord? rest).map (c :: ·)
  | c :: rest => if operatorSigns.contains c then none else (plainWord? rest).map (c :: ·)

/-- What writing without operators is read as, letter case aside. -/
def ofWriting? (written : Text) : Option Pattern :=
  (plainWord? written).map fun w => .anyCase (Shape.chars w)

theorem plainWord?_backslash {c : Char} (h : c.isAlphanum = false) (rest : Text) :
    plainWord? ('\\' :: c :: rest) = (plainWord? rest).map (c :: ·) := by
  rw [plainWord?, h, if_neg Bool.false_ne_true]

theorem plainWord?_cons {c : Char} (h : c ∉ operatorSigns) (rest : Text) :
    plainWord? (c :: rest) = (plainWord? rest).map (c :: ·) := by
  have hne : c ≠ '\\' := by
    rintro rfl
    exact h (by decide)
  rw [plainWord?.eq_3 c rest fun _ _ hc _ => hne hc, if_neg fun hmem => h (List.contains_iff_mem.mp hmem)]

theorem plainWord?_escape (w : Text) : plainWord? (escape w) = some w := by
  induction w with
  | nil => rfl
  | cons c w ih =>
    rw [escape, List.flatMap_cons]
    split
    · rename_i hc
      have hsigns : escapedSigns.all (fun d => d.isAlphanum == false) = true := by decide
      have hsign := eq_of_beq (List.all_eq_true.mp hsigns c (List.contains_iff_mem.mp hc))
      show plainWord? ('\\' :: c :: escape w) = _
      rw [plainWord?_backslash hsign, ih, Option.map_some]
    · rename_i hc
      have hplain : c ∉ operatorSigns :=
        fun h => hc (List.contains_iff_mem.mpr (List.mem_append_left _ h))
      show plainWord? (c :: escape w) = _
      rw [plainWord?_cons hplain, ih, Option.map_some]

theorem ofWriting?_escape (w : Text) : ofWriting? (escape w) = some (literal w) := by
  rw [ofWriting?, plainWord?_escape, Option.map_some, literal]

end QueryLint.Pattern
