import QueryLint.Report.Json
import Mathlib.Tactic.IntervalCases

/-! A reader of JSON, and what it makes of strings and numbers as reports write them. It goes through a
text character by character and keeps the brackets that are open, each with what was read in it. It
takes any white space between the parts, every way to write a character in a string, and an object
that repeats a key, whose last value then counts. `JsonValue` has neither Booleans nor fractions, so
a text with one of them is not read, as one that is no JSON is not. -/
namespace QueryLint.JsonValue
set_option autoImplicit false

/-! ## States -/

/-- A bracket that is open, with what was read in it. -/
inductive Bracket where
  | items (before : List JsonValue)
  | entries (before : List JsonEntry)
  | entry (before : List JsonEntry) (key : String)

/-- A place in a string. A character beyond the first plane is written as two codes; `high` is the
first of them. -/
inductive Escape where
  | plain
  | backslash
  | code (high : Option Nat) (digits value : Nat)
  | half (high : Nat)
  | halfBackslash (high : Nat)

/-- A place in a text: before a value, a key or a colon, after a value, or inside one. -/
inductive Place where
  | value
  | key
  | colon (key : String)
  | done (v : JsonValue)
  | null (left : Text)
  | minus
  | digits (negative : Bool) (n : Nat)
  | string (isKey : Bool) (before : Text) (escape : Escape)

structure State where
  brackets : List Bracket
  place : Place

/-- The value that ends at a place, if one may end there. -/
def Place.value? : Place → Option JsonValue
  | done v => some v
  | digits negative n => some (.number (if negative then -n else n))
  | _ => none

/-! ## Strings -/

def hexValue? (c : Char) : Option Nat :=
  if c.isDigit then some (c.toNat - 0x30)
  else if 'a' ≤ c ∧ c ≤ 'f' then some (c.toNat - 0x57)
  else if 'A' ≤ c ∧ c ≤ 'F' then some (c.toNat - 0x37)
  else none

/-- What one letter after a backslash stands for. -/
def letterEscape? : Char → Option Char
  | '"' => some '"'
  | '\\' => some '\\'
  | '/' => some '/'
  | 'b' => some (Char.ofNat 8)
  | 'f' => some (Char.ofNat 12)
  | 'n' => some '\n'
  | 'r' => some '\r'
  | 't' => some '\t'
  | _ => none

def isHighHalf (code : Nat) : Bool := 0xD800 ≤ code && code < 0xDC00

def isLowHalf (code : Nat) : Bool := 0xDC00 ≤ code && code < 0xE000

/-- A code is a character or one of the halves of a character, which come in pairs. -/
def readCode (before : Text) (code : Nat) : Option Nat → Option (Text × Escape)
  | none =>
    if isHighHalf code then some (before, .half code)
    else if isLowHalf code then none
    else some (before ++ [Char.ofNat code], .plain)
  | some high =>
    if isLowHalf code then
      some (before ++ [Char.ofNat (0x10000 + (high - 0xD800) * 0x400 + (code - 0xDC00))], .plain)
    else none

/-- One character of a string, its closing quote apart. -/
def stepString (before : Text) (escape : Escape) (c : Char) : Option (Text × Escape) :=
  match escape with
  | .plain =>
    if c = '\\' then some (before, .backslash)
    else if c.toNat < 0x20 then none
    else some (before ++ [c], .plain)
  | .backslash =>
    if c = 'u' then some (before, .code none 0 0)
    else (letterEscape? c).map fun d => (before ++ [d], .plain)
  | .code high digits value =>
    match hexValue? c with
    | none => none
    | some d =>
      if digits < 3 then some (before, .code high (digits + 1) (16 * value + d))
      else readCode before (16 * value + d) high
  | .half high => if c = '\\' then some (before, .halfBackslash high) else none
  | .halfBackslash high => if c = 'u' then some (before, .code (some high) 0 0) else none

/-! ## Steps -/

def isSpace (c : Char) : Bool := c = ' ' || c = '\n' || c = '\r' || c = '\t'

def digit? (c : Char) : Option Nat := if c.isDigit then some (c.toNat - 0x30) else none

/-- The entries with one more; an entry of the same key keeps its place and gets the value. -/
def setEntry (entries : List JsonEntry) (e : JsonEntry) : List JsonEntry :=
  if entries.any fun f => f.key == e.key then
    entries.map fun f => if f.key == e.key then e else f
  else entries ++ [e]

/-- Before a value. The bracket of an array may close here as long as the array is empty. -/
def stepValue (brackets : List Bracket) (c : Char) : Option State :=
  if isSpace c then some ⟨brackets, .value⟩
  else match digit? c with
    | some d => some ⟨brackets, .digits false d⟩
    | none =>
      match c, brackets with
      | '"', _ => some ⟨brackets, .string false [] .plain⟩
      | '[', _ => some ⟨.items [] :: brackets, .value⟩
      | '\x7b', _ => some ⟨.entries [] :: brackets, .key⟩
      | 'n', _ => some ⟨brackets, .null ['u', 'l', 'l']⟩
      | '-', _ => some ⟨brackets, .minus⟩
      | ']', .items [] :: outer => some ⟨outer, .done (.array [])⟩
      | _, _ => none

/-- Before a key. The bracket of an object may close here as long as the object is empty. -/
def stepKey (brackets : List Bracket) (c : Char) : Option State :=
  if isSpace c then some ⟨brackets, .key⟩
  else match c, brackets with
    | '"', _ => some ⟨brackets, .string true [] .plain⟩
    | '\x7d', .entries [] :: outer => some ⟨outer, .done (.object [])⟩
    | _, _ => none

def stepColon (brackets : List Bracket) (key : String) (c : Char) : Option State :=
  if isSpace c then some ⟨brackets, .colon key⟩
  else match c, brackets with
    | ':', .entries before :: outer => some ⟨.entry before key :: outer, .value⟩
    | _, _ => none

def stepDone (brackets : List Bracket) (v : JsonValue) (c : Char) : Option State :=
  if isSpace c then some ⟨brackets, .done v⟩
  else match c, brackets with
    | ',', .items before :: outer => some ⟨.items (before ++ [v]) :: outer, .value⟩
    | ']', .items before :: outer => some ⟨outer, .done (.array (before ++ [v]))⟩
    | ',', .entry before key :: outer => some ⟨.entries (setEntry before ⟨key, v⟩) :: outer, .key⟩
    | '\x7d', .entry before key :: outer =>
      some ⟨outer, .done (.object (setEntry before ⟨key, v⟩))⟩
    | _, _ => none

def step (s : State) (c : Char) : Option State :=
  match s.place with
  | .value => stepValue s.brackets c
  | .key => stepKey s.brackets c
  | .colon key => stepColon s.brackets key c
  | .done v => stepDone s.brackets v c
  | .null left =>
    if left.head? = some c then
      some ⟨s.brackets, if left.tail.isEmpty then .done .null else .null left.tail⟩
    else none
  | .minus => (digit? c).map fun d => ⟨s.brackets, .digits true d⟩
  | .digits negative n =>
    match digit? c with
    -- no digit may follow a zero in front
    | some d => if n = 0 then none else some ⟨s.brackets, .digits negative (10 * n + d)⟩
    -- only the character after it shows where a number ends
    | none => stepDone s.brackets (.number (if negative then -n else n)) c
  | .string isKey before .plain =>
    if c = '"' then
      let text := String.ofList before
      some ⟨s.brackets, if isKey then .colon text else .done (.text text)⟩
    else (stepString before .plain c).map fun r => ⟨s.brackets, .string isKey r.1 r.2⟩
  | .string isKey before escape =>
    (stepString before escape c).map fun r => ⟨s.brackets, .string isKey r.1 r.2⟩

/-- The value that a text writes, if it writes one. -/
def read (t : Text) : Option JsonValue :=
  match t.foldlM step ⟨[], .value⟩ with
  | some ⟨[], place⟩ => place.value?
  | _ => none

/-! ## Runs -/

/-- The text leads from one state to another. -/
def Leads (s : State) (t : Text) (s' : State) : Prop := t.foldlM step s = some s'

namespace Leads

variable {s s' s'' : State} {t u : Text} {c : Char}

theorem refl (s : State) : Leads s [] s := rfl

theorem single (h : step s c = some s') : Leads s [c] s' := by
  simp [Leads, h]

theorem trans (h : Leads s t s') (h' : Leads s' u s'') : Leads s (t ++ u) s'' := by
  rw [Leads] at h h' ⊢
  rw [List.foldlM_append, h]
  exact h'

theorem cons (h : step s c = some s') (h' : Leads s' t s'') : Leads s (c :: t) s'' :=
  (single h).trans h'

end Leads

/-! ## Strings that were written -/

section Strings

variable (brackets : List Bracket) (isKey : Bool) (before : Text)

theorem leads_short {c : Char} (hc : c.toNat < 0x20) :
    Leads ⟨brackets, .string isKey before .plain⟩ (escaped c)
      ⟨brackets, .string isKey (before ++ [c]) .plain⟩ := by
  have hofNat : c = Char.ofNat c.toNat := c.ofNat_toNat.symm
  generalize c.toNat = n at hc hofNat
  subst hofNat
  interval_cases n <;> rfl

/-- A character is read back from what is written for it. -/
theorem leads_escaped (c : Char) :
    Leads ⟨brackets, .string isKey before .plain⟩ (escaped c)
      ⟨brackets, .string isKey (before ++ [c]) .plain⟩ := by
  by_cases hc : c.toNat < 0x20
  · exact leads_short brackets isKey before hc
  by_cases hquote : c = '"'
  · subst hquote
    rfl
  by_cases hback : c = '\\'
  · subst hback
    rfl
  have hself : escaped c = [c] := by
    have hn : c ≠ '\n' ∧ c ≠ '\r' ∧ c ≠ '\t' ∧ c.toNat ≠ 8 ∧ c.toNat ≠ 12 := by
      refine ⟨?_, ?_, ?_, by omega, by omega⟩ <;> (rintro rfl; exact hc (by decide))
    simp [escaped, hquote, hback, hn, hc]
  rw [hself]
  exact .single (by simp [step, stepString, hquote, hback, hc])

theorem leads_chars (t : Text) :
    Leads ⟨brackets, .string isKey before .plain⟩ (t.flatMap escaped)
      ⟨brackets, .string isKey (before ++ t) .plain⟩ := by
  induction t generalizing before with
  | nil => simpa using Leads.refl _
  | cons c rest ih =>
    have h := (leads_escaped brackets isKey before c).trans (ih (before ++ [c]))
    simpa using h

end Strings

/-- A string leads from where its first quote opens it to where its last one leaves it. -/
theorem leads_quoted {brackets : List Bracket} {p q : Place} {isKey : Bool} {s : String}
    (hopen : step ⟨brackets, p⟩ '"' = some ⟨brackets, .string isKey [] .plain⟩)
    (hclose : step ⟨brackets, .string isKey s.toList .plain⟩ '"' = some ⟨brackets, q⟩) :
    Leads ⟨brackets, p⟩ (renderText s) ⟨brackets, q⟩ :=
  .cons hopen ((leads_chars brackets isKey [] s.toList).trans (.single hclose))

theorem leads_text (brackets : List Bracket) (s : String) :
    Leads ⟨brackets, .value⟩ (renderText s) ⟨brackets, .done (.text s)⟩ :=
  leads_quoted rfl (by simp [step])

theorem leads_key (brackets : List Bracket) (s : String) :
    Leads ⟨brackets, .key⟩ (renderText s) ⟨brackets, .colon s⟩ :=
  leads_quoted rfl (by simp [step])

/-! ## Numbers that were written -/

theorem digit?_digitChar {d : Nat} (hd : d < 10) : digit? d.digitChar = some d := by
  interval_cases d <;> rfl

/-- From a place before the first digit, the digits of a number lead to a place after the last. -/
theorem leads_toDigits {brackets : List Bracket} {p : Place} {negative : Bool}
    (hfirst : ∀ d < 10, step ⟨brackets, p⟩ d.digitChar = some ⟨brackets, .digits negative d⟩)
    (n : Nat) : Leads ⟨brackets, p⟩ (Nat.toDigits 10 n) ⟨brackets, .digits negative n⟩ := by
  -- the last digit is read after those of `n / 10`, which is no zero in front
  induction n using Nat.strongRecOn with
  | ind n ih =>
    by_cases hn : n < 10
    · rw [Nat.toDigits_of_lt_base hn]
      exact .single (hfirst n hn)
    · rw [Nat.toDigits_of_base_le (by omega) (by omega)]
      have hlast : digit? (n % 10).digitChar = some (n % 10) := digit?_digitChar (by omega)
      have hne : n / 10 ≠ 0 := by omega
      have hwhole : 10 * (n / 10) + n % 10 = n := by omega
      refine (ih (n / 10) (by omega)).trans (.single ?_)
      simp [step, hlast, hne, hwhole]

/-- Where a value may stand, the text leads to the end of this value. -/
def ReadsAs (t : Text) (v : JsonValue) : Prop :=
  ∀ brackets, ∃ p, Leads ⟨brackets, .value⟩ t ⟨brackets, p⟩ ∧ p.value? = some v

theorem number_readsAs (n : Int) : ReadsAs (renderNumber n) (.number n) := by
  intro brackets
  cases n with
  | ofNat n =>
    have hfirst : ∀ d < 10, step ⟨brackets, .value⟩ d.digitChar
        = some ⟨brackets, .digits false d⟩ := by
      intro d hd
      interval_cases d <;> rfl
    have hdigits : renderNumber (Int.ofNat n) = Nat.toDigits 10 n := by
      change (String.ofList (Nat.toDigits 10 n)).toList = _
      simp
    rw [hdigits]
    exact ⟨_, leads_toDigits hfirst n, rfl⟩
  | negSucc n =>
    have hfirst : ∀ d < 10, step ⟨brackets, .minus⟩ d.digitChar
        = some ⟨brackets, .digits true d⟩ := by
      intro d hd
      simp [step, digit?_digitChar hd]
    have hdigits : renderNumber (Int.negSucc n) = '-' :: Nat.toDigits 10 (n + 1) := by
      change ("-" ++ String.ofList (Nat.toDigits 10 (n + 1))).toList = _
      simp
    rw [hdigits]
    exact ⟨_, .cons rfl (leads_toDigits hfirst (n + 1)), rfl⟩

end QueryLint.JsonValue
