import QueryLint.Text.Lookup
import QueryLint.Text.WordTable

/-! Word characters: letters, numbers and the underscore. The edge of a word is where a word
character meets one that is none. -/
namespace QueryLint.Text
set_option autoImplicit false

/-- A letter or a number of any kind. -/
def isAlphanumeric (c : Char) : Bool :=
  if c.toNat < 0x80 then c.isAlphanum else inRuns wordRuns c.toNat

def isWord (c : Char) : Bool := c == '_' || isAlphanumeric c

/-- Whether a word begins or ends between two neighbours; the outside of a text is no word. -/
def wordEdge (before after : Option Char) : Bool := before.any isWord != after.any isWord

/-- A letter of the Latin alphabet without accents. -/
def isLetter (c : Char) : Bool := c.isAlpha

theorem toNat_lt_of_isLetter {c : Char} (h : isLetter c = true) : c.toNat < 0x80 := by
  have hbounds : (c.isUpper || c.isLower) = true := h
  rcases Bool.or_eq_true_iff.mp hbounds with hbounds | hbounds
  · have hle : c.val ≤ 'Z'.val := (of_decide_eq_true hbounds).2
    exact Nat.lt_of_le_of_lt (UInt32.le_iff_toNat_le.mp hle) (by decide)
  · have hle : c.val ≤ 'z'.val := of_decide_eq_true (Bool.and_eq_true_iff.mp hbounds).2
    exact Nat.lt_of_le_of_lt (UInt32.le_iff_toNat_le.mp hle) (by decide)

theorem isWord_of_isLetter {c : Char} (h : isLetter c = true) : isWord c = true := by
  have halphanum : (c.isAlpha || c.isDigit) = true := Bool.or_eq_true_iff.mpr (.inl h)
  rw [isWord, isAlphanumeric, if_pos (toNat_lt_of_isLetter h)]
  exact Bool.or_eq_true_iff.mpr (.inr halphanum)

end QueryLint.Text
