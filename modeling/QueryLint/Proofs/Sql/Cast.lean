import QueryLint.Proofs.Pattern.Preferred
import QueryLint.Proofs.Pattern.Scan
import QueryLint.Sql.PlainForm

/-! What leaving the casts out takes of a cast, for every type with a name, a precision and an array
marker, where the last two may be missing. The pattern looks for the marker before the precision, so a
marker after a precision stays. Main statements: `prefers_castSuffix`, and `Uncasts.cast` with
`Uncasts.keep`, the steps of the scan of a text with casts. -/
namespace QueryLint.Sql
set_option autoImplicit false
open Text Shape

/-! ## Types -/

/-- What a name begins with. -/
def nameStart : CharSet := ⟨[.letter, .char '_'], false⟩

/-- What a type's name goes on with. -/
def typePart : CharSet := ⟨[.letter, .digit, .char '_'], false⟩

/-- A name that goes on with the characters of a set. -/
structure Name (part : CharSet) where
  first : Char
  others : Text
  first_has : nameStart.has false first = true
  others_has : ∀ c ∈ others, part.has false c = true

theorem nameStart_a : nameStart.has false 'a' = true := by decide

theorem nameStart_t : nameStart.has false 't' = true := by decide

theorem no_others {part : CharSet} : ∀ c ∈ ([] : Text), part.has false c = true := by simp

structure Digits where
  first : Char
  others : Text
  all_digits : ∀ c ∈ first :: others, isDigit c = true

structure Precision where
  digits : Digits
  scale : Option Digits

structure CastType where
  name : Name typePart
  precision : Option Precision
  isArray : Bool

/-! ## Their texts -/

def Name.text {part : CharSet} (name : Name part) : Text := name.first :: name.others

def Digits.text (digits : Digits) : Text := digits.first :: digits.others

def scaleText (scale : Option Digits) : Text := scale.elim [] fun digits => ',' :: digits.text

def Precision.text (precision : Precision) : Text :=
  '(' :: (precision.digits.text ++ (scaleText precision.scale ++ [')']))

def CastType.marker (type : CastType) : Text := if type.isArray then "[]".toList else []

def CastType.text (type : CastType) : Text :=
  type.name.text ++ (type.precision.elim [] Precision.text ++ type.marker)

/-- What the pattern takes of a type. -/
def CastType.taken (type : CastType) : Text :=
  type.name.text ++ type.precision.elim type.marker Precision.text

/-- What is left of a type: the array marker after a precision. -/
def CastType.left (type : CastType) : Text := type.precision.elim [] fun _ => type.marker

theorem CastType.text_eq (type : CastType) : type.text = type.taken ++ type.left := by
  obtain ⟨name, precision, isArray⟩ := type
  cases precision <;> simp [text, taken, left]

theorem CastType.left_eq (type : CastType) :
    type.left = if type.precision.isSome && type.isArray then "[]".toList else [] := by
  obtain ⟨name, precision, isArray⟩ := type
  cases precision <;> rfl

theorem CastType.left_subset (type : CastType) : type.left ⊆ "[]".toList := by
  rw [left_eq]
  split
  · exact List.Subset.refl _
  · exact List.nil_subset _

/-! ## What the pattern takes -/

/-- The rest of a selection after a cast: nothing of it can belong to the cast. -/
structure Apart (rest : Text) : Prop where
  name : ∀ c ∈ rest.head?, typePart.has false c = false
  marker : rest.head? ≠ some '['
  paren : (rest.dropWhile isBlank).head? ≠ some '('

def castHead : Shape :=
  lit "::" ++ of [.letter, .char '_'] ++ many0 (of [.letter, .digit, .char '_'])

def scaleShape : Shape := optional (gap ++ char ',' ++ gap ++ many1 digit)

def precisionShape : Shape :=
  gap ++ char '(' ++ gap ++ many1 digit ++ scaleShape ++ gap ++ char ')'

section Preferred

variable {p : Progress} {rest : Text}

theorem prefers_castHead (name : Name typePart)
    (hrest : p.cursor.rest = "::".toList ++ name.text ++ rest)
    (hstop : ∀ c ∈ rest.head?, typePart.has false c = false) :
    Prefers false castHead p ("::".toList ++ name.text) := by
  have hcolons : Prefers false (lit "::") p "::".toList :=
    (prefers_char hrest).seq (prefers_char (rest_past hrest))
  have hfirst := hcolons.seq (prefers_set (rest_past hrest) name.first_has)
  have hothers : (p.past ("::".toList ++ [name.first])).cursor.rest = name.others ++ rest :=
    rest_past hrest
  exact hfirst.seq (prefers_many hothers name.others_has hstop)

theorem Digits.isBlank_first (digits : Digits) : isBlank digits.first = false := by
  have hfirst := digits.all_digits _ List.mem_cons_self
  cases hblank : isBlank digits.first with
  | false => rfl
  | true => exact nomatch hfirst.symm.trans (isDigit_of_isBlank hblank)

theorem prefers_digits (digits : Digits) (hrest : p.cursor.rest = digits.text ++ rest)
    (hstop : ∀ c ∈ rest.head?, isDigit c = false) :
    Prefers false (gap ++ many1 digit) p digits.text := by
  obtain ⟨hfirst, hothers⟩ := List.forall_mem_cons.mp digits.all_digits
  have hgap : Prefers false gap p [] := by
    refine prefers_gap_nil ?_
    rw [hrest]
    exact forall_head? digits.isBlank_first
  refine hgap.seq ((prefers_set hrest ?_).seq (prefers_many (rest_past hrest) (fun c hc => ?_)
    fun c hc => ?_))
  · simpa [CharSet.has, CharKind.has] using hfirst
  · simpa [CharSet.has, CharKind.has] using hothers c hc
  · simpa [CharSet.has, CharKind.has] using hstop c hc

theorem prefers_scale (scale : Option Digits)
    (hrest : p.cursor.rest = scaleText scale ++ ')' :: rest) :
    Prefers false scaleShape p (scaleText scale) := by
  cases scale with
  | none =>
    refine prefers_optional_nil (ends_seq_eq_nil (ends_seq_eq_nil (ends_gap_char_eq_nil rfl ?_)))
    rw [hrest]
    show (List.dropWhile isBlank (')' :: rest)).head? ≠ some ','
    rw [List.dropWhile_cons_of_neg (by decide)]
    exact head?_ne (by decide)
  | some digits =>
    have hdigits := rest_past (w := [',']) hrest
    exact ((prefers_gap_char rfl hrest).seq
      (prefers_digits digits hdigits (forall_head? (by decide)))).assoc.optional

theorem isDigit_after_digits (scale : Option Digits) (rest : Text) :
    ∀ c ∈ (scaleText scale ++ ')' :: rest).head?, isDigit c = false := by
  cases scale with
  | none => exact forall_head? (by decide)
  | some digits => exact forall_head? (by decide)

theorem prefers_precision (precision : Precision) (hrest : p.cursor.rest = precision.text ++ rest) :
    Prefers false precisionShape p precision.text := by
  obtain ⟨digits, scale⟩ := precision
  have hdigits : (p.past ['(']).cursor.rest = digits.text ++ (scaleText scale ++ ')' :: rest) :=
    rest_past (hrest.trans (by simp [Precision.text]))
  have hscale := rest_past hdigits
  have hclose := rest_past hscale
  rw [Progress.past_past] at hscale hclose
  rw [Progress.past_past] at hclose
  have hnumber := ((prefers_gap_char rfl hrest).seq
    (prefers_digits digits hdigits (isDigit_after_digits scale rest))).assoc
  have hscaled := hnumber.seq (prefers_scale scale hscale)
  have htext : Precision.text ⟨digits, scale⟩ = ['('] ++ digits.text ++ scaleText scale ++ [')'] := by
    simp [Precision.text]
  exact htext ▸ (hscaled.seq (prefers_gap_char rfl hclose)).assoc

theorem prefers_noMarker (h : p.cursor.rest.head? ≠ some '[') :
    Prefers false (optional (lit "[]")) p [] :=
  prefers_optional_nil (ends_seq_eq_nil (ends_char_eq_nil h))

theorem prefers_marker (hrest : p.cursor.rest = "[]".toList ++ rest) :
    Prefers false (optional (lit "[]")) p "[]".toList :=
  ((prefers_char hrest).seq (prefers_char (rest_past hrest))).optional

theorem prefers_noPrecision (h : (p.cursor.rest.dropWhile isBlank).head? ≠ some '(') :
    Prefers false (optional precisionShape) p [] := by
  refine prefers_optional_nil ?_
  iterate 5 refine ends_seq_eq_nil ?_
  exact ends_gap_char_eq_nil rfl h

/-! ## The three kinds of casts -/

theorem prefers_plain (name : Name typePart)
    (hrest : p.cursor.rest = "::".toList ++ name.text ++ rest) (h : Apart rest) :
    Prefers false castSuffix.shape p ("::".toList ++ name.text) := by
  have hafter := rest_past hrest
  have hmarker := (prefers_castHead name hrest h.name).seq (prefers_noMarker (hafter ▸ h.marker))
  rw [List.append_nil] at hmarker
  have hwhole := hmarker.seq (prefers_noPrecision (hafter ▸ h.paren))
  rwa [List.append_nil] at hwhole

theorem prefers_array (name : Name typePart)
    (hrest : p.cursor.rest = "::".toList ++ name.text ++ ("[]".toList ++ rest)) (h : Apart rest) :
    Prefers false castSuffix.shape p ("::".toList ++ name.text ++ "[]".toList) := by
  have hafter := rest_past hrest
  have hhead := prefers_castHead name hrest (forall_head? (by decide))
  have hparen := (rest_past hafter).symm ▸ h.paren
  rw [Progress.past_past] at hparen
  have hwhole := (hhead.seq (prefers_marker hafter)).seq (prefers_noPrecision hparen)
  rwa [List.append_nil] at hwhole

theorem prefers_precise (name : Name typePart) (precision : Precision)
    (hrest : p.cursor.rest = "::".toList ++ name.text ++ (precision.text ++ rest)) :
    Prefers false castSuffix.shape p ("::".toList ++ name.text ++ precision.text) := by
  have hafter := rest_past hrest
  have hhead := prefers_castHead name hrest (forall_head? (by decide))
  -- The one place for a marker is before the precision.
  have hmarker := hhead.seq (prefers_noMarker (hafter ▸ head?_ne (by decide)))
  rw [List.append_nil] at hmarker
  exact hmarker.seq (prefers_precision precision hafter).optional

/-- Of a cast that stands apart, the pattern takes all but a marker after a precision. -/
theorem prefers_castSuffix (type : CastType)
    (hrest : p.cursor.rest = "::".toList ++ (type.text ++ rest)) (h : Apart rest) :
    Prefers false castSuffix.shape p ("::".toList ++ type.taken) := by
  obtain ⟨name, precision, isArray⟩ := type
  rw [CastType.text, List.append_assoc, List.append_assoc, ← List.append_assoc "::".toList] at hrest
  rw [CastType.taken, ← List.append_assoc]
  cases precision with
  | some precision => exact prefers_precise name precision hrest
  | none =>
    cases isArray with
    | true => exact prefers_array name hrest h
    | false =>
      have hwhole := prefers_plain name hrest h
      rwa [← List.append_nil (_ ++ name.text)] at hwhole

end Preferred

/-! ## Leaving the casts out -/

/-- Leaving the casts out of a text makes another of it, whatever stands before. -/
def Uncasts (rest made : Text) : Prop := ∀ before, castSuffix.Scan [] before rest made

theorem matchAt?_castSuffix {before : Option Char} {position : Nat} {rest : Text}
    (h : rest.head? ≠ some ':') : castSuffix.matchAt? ⟨before, position, rest⟩ = none := by
  have hends : castSuffix.shape.ends false ⟨⟨before, position, rest⟩, []⟩ = [] := by
    iterate 5 refine ends_seq_eq_nil ?_
    exact ends_char_eq_nil h
  rw [Pattern.matchAt?_eq_head?]
  show (List.map _ (castSuffix.shape.ends false ⟨⟨before, position, rest⟩, []⟩)).head? = none
  rw [hends]
  rfl

namespace Uncasts

variable {rest made : Text}

theorem nil : Uncasts [] [] := fun _ => .nil fun _ => matchAt?_castSuffix (by decide)

theorem keep {u : Text} (hu : ':' ∉ u) (h : Uncasts rest made) : Uncasts (u ++ rest) (u ++ made) := by
  induction u with
  | nil => exact h
  | cons c u ih =>
    obtain ⟨hc, hu⟩ := not_or.mp fun hmem => hu (List.mem_cons.mpr hmem)
    refine fun before => .skip (fun _ => matchAt?_castSuffix ?_) (ih hu (some c))
    exact fun hhead => hc (Option.some.inj hhead).symm

/-- Of a cast that stands apart, what the pattern does not take stays. -/
theorem cast (type : CastType) (hrest : Apart rest) (h : Uncasts rest made) :
    Uncasts ("::".toList ++ type.text ++ rest) (type.left ++ made) := by
  have hafter := h.keep fun hmem => absurd (type.left_subset hmem) (by decide)
  have hsplit : "::".toList ++ type.text ++ rest
      = "::".toList ++ type.taken ++ (type.left ++ rest) := by
    rw [type.text_eq]
    simp only [List.append_assoc]
  rw [hsplit]
  refine fun before => .hit (by simp) (fun position => ?_) (hafter _)
  have hprefers := prefers_castSuffix
    (p := ⟨⟨before, position, "::".toList ++ type.taken ++ (type.left ++ rest)⟩, []⟩) type
    (by rw [← hsplit, List.append_assoc]) hrest
  exact ⟨_, Pattern.matchAt?_of_prefers hprefers, rfl⟩

end Uncasts

end QueryLint.Sql
