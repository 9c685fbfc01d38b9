import QueryLint.Text.Basic
import QueryLint.Text.Word

/-! Texts cut into pieces: pieces that are taken out, and what is kept between them. The pieces may be
put through a function, cut out or blanked; what is kept stays. -/
namespace QueryLint.Text
set_option autoImplicit false

/-- Pieces taken out of a text, each with what is kept before it, and what is kept after the last. -/
structure Cut where
  parts : List (Text × Text)
  last : Text
deriving DecidableEq, Repr

namespace Cut

/-- The text with each piece that is taken put through `f`. -/
def rewrite (f : Text → Text) (cut : Cut) : Text :=
  cut.parts.flatMap (fun part => part.1 ++ f part.2) ++ cut.last

def text (cut : Cut) : Text := cut.rewrite id

/-- Where the pieces stand that are taken, if the first part begins at `position`. -/
def spansFrom (position : Nat) : List (Text × Text) → List Span
  | [] => []
  | (kept, taken) :: parts =>
    ⟨position + kept.length, position + kept.length + taken.length⟩
      :: spansFrom (position + kept.length + taken.length) parts

def spans (cut : Cut) : List Span := spansFrom 0 cut.parts

def keep (c : Char) (cut : Cut) : Cut :=
  match cut with
  | ⟨[], last⟩ => ⟨[], c :: last⟩
  | ⟨(kept, taken) :: parts, last⟩ => ⟨(c :: kept, taken) :: parts, last⟩

def take (piece : Text) (cut : Cut) : Cut := ⟨([], piece) :: cut.parts, cut.last⟩

variable (f : Text → Text) (cut : Cut)

@[simp] theorem rewrite_nil : rewrite f ⟨[], []⟩ = [] := rfl

@[simp] theorem rewrite_keep (c : Char) : (cut.keep c).rewrite f = c :: cut.rewrite f := by
  obtain ⟨parts, last⟩ := cut
  cases parts <;> rfl

@[simp] theorem rewrite_take (piece : Text) :
    (cut.take piece).rewrite f = f piece ++ cut.rewrite f := by
  simp only [rewrite, take, List.flatMap_cons, List.nil_append, List.append_assoc]

@[simp] theorem text_nil : text ⟨[], []⟩ = [] := rfl

@[simp] theorem text_keep (c : Char) : (cut.keep c).text = c :: cut.text := rewrite_keep id cut c

@[simp] theorem text_take (piece : Text) : (cut.take piece).text = piece ++ cut.text :=
  rewrite_take id cut piece

@[simp] theorem spansFrom_keep (position : Nat) (c : Char) :
    spansFrom position (cut.keep c).parts = spansFrom (position + 1) cut.parts := by
  obtain ⟨parts, last⟩ := cut
  cases parts with
  | nil => rfl
  | cons part parts =>
    simp only [keep, spansFrom, List.length_cons, Nat.add_assoc, Nat.add_comm 1]

@[simp] theorem spansFrom_take (position : Nat) (piece : Text) :
    spansFrom position (cut.take piece).parts
      = ⟨position, position + piece.length⟩ :: spansFrom (position + piece.length) cut.parts := rfl

/-! ## Blanked pieces -/

/-- The text with blanks for the pieces that are taken. -/
def masked (cut : Cut) : Text := cut.rewrite fun piece => blanks piece.length

@[simp] theorem masked_keep (c : Char) : (cut.keep c).masked = c :: cut.masked :=
  rewrite_keep _ cut c

@[simp] theorem masked_take (piece : Text) :
    (cut.take piece).masked = blanks piece.length ++ cut.masked := rewrite_take _ cut piece

/-- What is left besides blanks when the pieces are blanked is left when they are cut out. -/
theorem mem_of_mem_masked {c : Char} (h : c ∈ cut.masked) (hc : c ≠ ' ') :
    c ∈ cut.rewrite fun _ => [] := by
  simp only [masked, rewrite, List.mem_append, List.mem_flatMap] at h ⊢
  refine h.imp_left fun ⟨part, hpart, hmem⟩ => ⟨part, hpart, hmem.imp_right fun hblank => ?_⟩
  exact absurd (List.eq_of_mem_replicate hblank) hc

/-! ## Words next to the pieces -/

/-- What takes the places of the pieces leaves no word before what follows: it ends in no word
character, and where it is empty the piece begins a word. -/
def Seamless (f : Text → Text) (cut : Cut) : Prop :=
  ∀ part ∈ cut.parts, (∀ c ∈ (f part.2).getLast?, isWord c = false) ∧
    (f part.2 = [] → ∀ c ∈ part.2.head?, isWord c = true)

theorem Seamless.of_keep {f : Text → Text} {c : Char} {cut : Cut}
    (h : (cut.keep c).Seamless f) : cut.Seamless f := by
  obtain ⟨parts, last⟩ := cut
  cases parts with
  | nil => exact h
  | cons part parts =>
    obtain ⟨hfirst, hothers⟩ := List.forall_mem_cons.mp h
    exact List.forall_mem_cons.mpr ⟨hfirst, hothers⟩

end Cut
end QueryLint.Text
