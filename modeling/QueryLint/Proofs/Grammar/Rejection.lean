import QueryLint.Grammar.Reply

/-! The message of a text that a grammar rejects. It is to fit on one line. Three of its sources are
used as they come: what the first detail says, the whole message where that detail says nothing, and
the message of a text that is not even a sequence of tokens. Only a message without details is cut
off after its first line. Main statement: `rejected_isOneLine_iff`, the message is on one line just
if what is used of the error is. -/
namespace QueryLint
set_option autoImplicit false

/-! ## Texts on one line -/

def Text.IsOneLine (t : Text) : Prop := ∀ c ∈ t, Text.isLineBreak c = false

namespace Text

theorem isOneLine_nil : IsOneLine [] := List.forall_mem_nil _

theorem isOneLine_append {s t : Text} : IsOneLine (s ++ t) ↔ IsOneLine s ∧ IsOneLine t :=
  List.forall_mem_append

theorem isOneLine_of_all {t : Text} (h : t.all (fun c => !isLineBreak c) = true) : IsOneLine t := fun c hc => by
  simpa using List.all_eq_true.mp h c hc

theorem isOneLine_firstLine (t : Text) : (firstLine t).IsOneLine := isOneLine_of_all List.all_takeWhile

theorem isLineBreak_of_isDigit {c : Char} (h : c.isDigit = true) : isLineBreak c = false := by
  rw [Char.isDigit, Bool.and_eq_true, decide_eq_true_eq, decide_eq_true_eq] at h
  have hcode : 48 ≤ c.toNat ∧ c.toNat ≤ 57 := h
  have hcontrol : ¬c.toNat ≤ 0x0D := by omega
  have hseparator : ¬c.toNat ≤ 0x1E := by omega
  have hlast : c.toNat ≠ 0x85 ∧ c.toNat ≠ 0x2028 ∧ c.toNat ≠ 0x2029 := by omega
  simp [isLineBreak, hcontrol, hseparator, hlast]

theorem isOneLine_natural (n : Nat) : IsOneLine (toString n).toList := by
  intro c hc
  have hdigit : c ∈ Nat.toDigits 10 n := by
    simpa [toString, Nat.repr] using hc
  exact isLineBreak_of_isDigit (Nat.isDigit_of_mem_toDigits (by decide) (by decide) hdigit)

theorem isOneLine_integer (n : Int) : IsOneLine (toString n).toList := by
  cases n with
  | ofNat n => exact isOneLine_natural n
  | negSucc n =>
    have hsign : (toString (Int.negSucc n)).toList = '-' :: (toString n.succ).toList := by
      simp [toString, Int.repr]
    rw [hsign]
    exact List.forall_mem_cons.mpr ⟨by decide, isOneLine_natural n.succ⟩

end Text

/-! ## What a detail adds to a message -/

namespace ErrorDetail

/-- What a detail says: its description, or the whole message if it has none. -/
def wording (d : ErrorDetail) (message : String) : String :=
  match d.description with
  | some text => if text = "" then message else text
  | none => message

def place (d : ErrorDetail) : String :=
  match d.line, d.column with
  | some line, some column => " (line " ++ toString line ++ ", column " ++ toString column ++ ")"
  | _, _ => ""

theorem isOneLine_place (d : ErrorDetail) : Text.IsOneLine d.place.toList := by
  rw [place]
  split
  · rename_i line column _ _
    simp only [String.toList_append, Text.isOneLine_append]
    refine ⟨⟨⟨⟨?_, Text.isOneLine_integer line⟩, ?_⟩, Text.isOneLine_integer column⟩, ?_⟩
    all_goals exact Text.isOneLine_of_all (by decide)
  · exact Text.isOneLine_nil

end ErrorDetail

namespace Grammar

theorem describe_cons (message : String) (first : ErrorDetail) (others : List ErrorDetail) :
    describe message (first :: others) = first.wording message ++ first.place := by
  rw [describe, ErrorDetail.place]
  cases first.line <;> cases first.column
  case some.some =>
    simp only [String.append_assoc]
    rfl
  all_goals exact String.append_empty.symm

/-! ## Messages of rejections -/

/-- What the message of an error uses as it comes: what the first detail says, or all that a token
error says. -/
def used : Reply → Text
  | .syntaxError message (first :: _) => (first.wording message).toList
  | .tokenError message => message.toList
  | _ => []

theorem describe_isOneLine_iff (message : String) (details : List ErrorDetail) :
    Text.IsOneLine (describe message details).toList ↔
      Text.IsOneLine (used (.syntaxError message details)) := by
  cases details with
  | nil =>
    have hfirst : Text.IsOneLine (describe message []).toList := by
      rw [describe, String.toList_ofList]
      exact Text.isOneLine_firstLine _
    exact iff_of_true hfirst Text.isOneLine_nil
  | cons first others =>
    rw [describe_cons, String.toList_append, Text.isOneLine_append, used]
    exact and_iff_left first.isOneLine_place

/-- Every error of a grammar about a text is reported, and the report is on one line just if what it
uses of the error is. -/
theorem rejected_isOneLine_iff (limit : Option Nat) (message : String)
    (details : List ErrorDetail) :
    (∃ shown, queriesOf limit (.syntaxError message details) = .error (.rejected shown) ∧
      (Text.IsOneLine shown.toList ↔ Text.IsOneLine (used (.syntaxError message details)))) ∧
    ∃ shown, queriesOf limit (.tokenError message) = .error (.rejected shown) ∧
      (Text.IsOneLine shown.toList ↔ Text.IsOneLine (used (.tokenError message))) :=
  ⟨⟨_, rfl, describe_isOneLine_iff message details⟩, ⟨_, rfl, Iff.rfl⟩⟩

/-- What is said of a query whose second line opens a quote that stays open: a piece of its text. -/
def openQuoteMessage : String := "Error tokenizing 'SELECT\n'ab'"

theorem openQuote_not_isOneLine :
    queriesOf (some maxConvertDepth) (.tokenError openQuoteMessage)
        = .error (.rejected openQuoteMessage) ∧
      ¬Text.IsOneLine openQuoteMessage.toList := by
  refine ⟨rfl, fun h => ?_⟩
  have hbreak := h '\n' (by decide)
  exact absurd hbreak (by decide)

end Grammar
end QueryLint
