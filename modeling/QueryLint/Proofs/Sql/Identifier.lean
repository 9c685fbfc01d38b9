import QueryLint.Proofs.Sql.Selection
import QueryLint.Sql.TableRef

/-! Identifiers as a query writes them: bare, or in double quotes. What one names is its text without
quotes. Main statement: `plainIdentifier_text`, the plain form of an identifier is the lower case of
what it names. -/
namespace QueryLint.Sql
set_option autoImplicit false
open Text

/-! ## Trimming -/

theorem dropWhile_eq_nil {drops : Char → Bool} {v : Text} (hv : ∀ c ∈ v, drops c = true) :
    v.dropWhile drops = [] := by
  have hdrop : (v ++ []).dropWhile drops = [] := List.dropWhile_append_of_pos hv
  rwa [List.append_nil] at hdrop

theorem dropWhile_eq_self {drops : Char → Bool} {t : Text} (h : ∀ c ∈ t.head?, drops c = false) :
    t.dropWhile drops = t := by
  cases t with
  | nil => rfl
  | cons c t => exact List.dropWhile_cons_of_neg (by simp [h c rfl])

/-- Trimming takes off what it drops, up to what it does not drop. -/
theorem trimBy_eq {drops : Char → Bool} {u s v : Text} (hu : ∀ c ∈ u, drops c = true)
    (hfirst : ∀ c ∈ s.head?, drops c = false) (hlast : ∀ c ∈ s.getLast?, drops c = false)
    (hv : ∀ c ∈ v, drops c = true) : trimBy drops (u ++ (s ++ v)) = s := by
  rw [trimBy, List.dropWhile_append_of_pos hu]
  cases s with
  | nil =>
    rw [List.nil_append, dropWhile_eq_nil hv]
    rfl
  | cons c s =>
    have hback : ∀ d ∈ v.reverse, drops d = true := fun d hd => hv d (List.mem_reverse.mp hd)
    have hstart : ((c :: s) ++ v).dropWhile drops = (c :: s) ++ v := dropWhile_eq_self hfirst
    rw [hstart, List.reverse_append, List.dropWhile_append_of_pos hback, dropWhile_eq_self,
      List.reverse_reverse]
    rwa [List.head?_reverse]

theorem trimBy_eq_self {drops : Char → Bool} {s : Text} (hs : ∀ c ∈ s, drops c = false) :
    trimBy drops s = s := by
  have htrim : trimBy drops ([] ++ (s ++ [])) = s :=
    trimBy_eq (fun c hc => nomatch hc) (fun c hc => hs c (List.mem_of_mem_head? hc))
      (fun c hc => hs c (List.mem_of_getLast? hc)) fun c hc => nomatch hc
  rwa [List.append_nil, List.nil_append] at htrim

/-! ## Names without quotes -/

theorem beq_quote_eq_false {t : Text} (h : '"' ∉ t) : ∀ c ∈ t, (c == '"') = false := by
  intro c hc
  simp only [beq_eq_false_iff_ne]
  rintro rfl
  exact h hc

theorem plainIdentifier_bare {t : Text} (h : '"' ∉ t) : plainIdentifier t = lower t :=
  congrArg lower (trimBy_eq_self (beq_quote_eq_false h))

theorem plainIdentifier_quoted {t : Text} (h : '"' ∉ t) :
    plainIdentifier ('"' :: (t ++ ['"'])) = lower t := by
  have hinside := beq_quote_eq_false h
  have hquote : ∀ c ∈ ['"'], (c == '"') = true := by simp
  exact congrArg lower (trimBy_eq hquote (fun c hc => hinside c (List.mem_of_mem_head? hc))
    (fun c hc => hinside c (List.mem_of_getLast? hc)) hquote)

/-! ## Gaps and identifiers -/

structure Gap where
  text : Text
  blank : ∀ c ∈ text, isBlank c = true

def noGap : Gap := ⟨[], fun _ hc => nomatch hc⟩

def blankGap : Gap := ⟨[' '], List.all_eq_true.mp (by decide)⟩

/-- What stands in double quotes: anything but a double quote, at least one character. -/
structure QuotedName where
  inside : Text
  ne_nil : inside ≠ []
  not_mem : '"' ∉ inside

inductive Identifier where
  | bare (name : Name columnPart)
  | quoted (name : QuotedName)

namespace Identifier

def text : Identifier → Text
  | bare name => name.text
  | quoted name => '"' :: (name.inside ++ ['"'])

def named : Identifier → Text
  | bare name => name.text
  | quoted name => name.inside

theorem text_ne_nil (i : Identifier) : i.text ≠ [] := by
  cases i <;> exact List.cons_ne_nil _ _

theorem not_mem_named (i : Identifier) : '"' ∉ i.named := by
  cases i with
  | bare name => exact name.not_mem (by decide) (by decide)
  | quoted name => exact name.not_mem

theorem plainIdentifier_text (i : Identifier) : plainIdentifier i.text = lower i.named := by
  cases i with
  | bare name => exact plainIdentifier_bare (bare name).not_mem_named
  | quoted name => exact plainIdentifier_quoted name.not_mem

end Identifier
end QueryLint.Sql
