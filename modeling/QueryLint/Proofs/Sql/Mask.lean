import QueryLint.Proofs.Sql.Balance
import QueryLint.Sql.TableRef

/-! Calls of several functions masked one after the other, in a text without quotes. Masking the calls
of one function leaves a call of another as it is, or blanks it as a whole: a call that begins inside
another ends inside it, and no head begins inside another. Main statements: `maskCall_step`, for one
name; `maskCalls_blank`, for all of them. -/
namespace QueryLint.Sql
set_option autoImplicit false
open Text

/-! ## Texts with blanks for some of their characters -/

/-- Nothing has changed, but that some characters have become blanks. -/
structure BlankedFrom (t masked : Text) : Prop where
  length_eq : masked.length = t.length
  kept : ∀ (i : Nat) (c : Char), masked[i]? = some c → c = ' ' ∨ t[i]? = some c

def BlankAt (t : Text) (s : Span) : Prop :=
  ∀ i : Nat, s.start ≤ i → i < s.stop → t[i]? = some ' '

namespace BlankedFrom

variable {t masked masked' : Text}

theorem refl (t : Text) : BlankedFrom t t := ⟨rfl, fun _ _ h => .inr h⟩

theorem trans (h : BlankedFrom t masked) (h' : BlankedFrom masked masked') :
    BlankedFrom t masked' :=
  ⟨h'.length_eq.trans h.length_eq, fun i c hc => (h'.kept i c hc).elim .inl (h.kept i c)⟩

theorem append {front maskedFront : Text} (hfront : BlankedFrom front maskedFront)
    (h : BlankedFrom t masked) : BlankedFrom (front ++ t) (maskedFront ++ masked) := by
  refine ⟨by rw [List.length_append, List.length_append, hfront.length_eq, h.length_eq],
    fun i c hc => ?_⟩
  rcases Nat.lt_or_ge i front.length with hlt | hge
  · rw [List.getElem?_append_left (hfront.length_eq ▸ hlt)] at hc
    rw [List.getElem?_append_left hlt]
    exact hfront.kept i c hc
  · rw [List.getElem?_append_right (hfront.length_eq ▸ hge), hfront.length_eq] at hc
    rw [List.getElem?_append_right hge]
    exact h.kept _ c hc

theorem all (t : Text) : BlankedFrom t (blanks t.length) :=
  ⟨List.length_replicate, fun _ _ hc => .inl (List.eq_of_mem_replicate (List.mem_of_getElem? hc))⟩

theorem quoteFree (h : BlankedFrom t masked) (ht : QuoteFree t) : QuoteFree masked := by
  intro c hc
  obtain ⟨i, hi⟩ := List.mem_iff_getElem?.mp hc
  rcases h.kept i c hi with rfl | hkept
  · rfl
  · exact ht c (List.mem_of_getElem? hkept)

theorem blankAt (h : BlankedFrom t masked) {s : Span} (hs : BlankAt t s) : BlankAt masked s := by
  intro i hstart hstop
  have hi := hs i hstart hstop
  have hlt : i < masked.length := h.length_eq ▸ (List.getElem?_eq_some_iff.mp hi).1
  have hc := List.getElem?_eq_getElem hlt
  rcases h.kept i _ hc with hblank | hkept
  · rwa [hblank] at hc
  · rw [hc, ← hkept, hi]

end BlankedFrom

theorem getElem?_append_of_some {u v : Text} {i : Nat} {c : Char} (h : u[i]? = some c) :
    (u ++ v)[i]? = some c := by
  rw [List.getElem?_append_left (List.getElem?_eq_some_iff.mp h).1, h]

theorem BlankAt.append_back {t : Text} {s : Span} (h : BlankAt t s) (back : Text) : BlankAt (t ++ back) s :=
  fun i hstart hstop => getElem?_append_of_some (h i hstart hstop)

theorem BlankAt.append {t : Text} {start stop : Nat} (h : BlankAt t ⟨start, stop⟩) (front : Text) :
    BlankAt (front ++ t) ⟨front.length + start, front.length + stop⟩ := by
  intro i hstart hstop
  simp only at hstart hstop
  rw [List.getElem?_append_right (by omega)]
  exact h (i - front.length) (by simp only; omega) (by simp only; omega)

theorem Parted.blankedFrom {name : Text} {before : Option Char} {cut : Cut}
    (h : Parted name before cut) : BlankedFrom cut.text cut.masked := by
  induction h with
  | nil => exact BlankedFrom.refl []
  | keep _ _ ih =>
    rw [Cut.text_keep, Cut.masked_keep]
    exact (BlankedFrom.refl [_]).append ih
  | call _ _ ih =>
    rw [Cut.text_take, Cut.masked_take]
    exact (BlankedFrom.all _).append ih

/-! ## Names of word characters -/

/-- A name all of whose letters are met by word characters only, case aside. -/
structure IsWordName (name : Text) : Prop where
  ne_nil : name ≠ []
  word : ∀ c ∈ name, ∀ d, sameLetter c d = true → isWord d = true

theorem IsWordName.isName {name : Text} (h : IsWordName name) : IsName name :=
  ⟨h.ne_nil, fun c hc => h.word c hc c (sameLetter_iff.mpr rfl)⟩

/-- A name of ASCII characters, as all words of the language are. -/
structure IsAsciiName (name : Text) : Prop where
  isName : IsName name
  ascii : ∀ c ∈ name, c.toNat < 0x80

instance (name : Text) : Decidable (IsAsciiName name) :=
  decidable_of_iff (IsName name ∧ name.all (fun c => decide (c.toNat < 0x80)) = true)
    ⟨fun ⟨hname, hall⟩ => ⟨hname, fun c hc => of_decide_eq_true (List.all_eq_true.mp hall c hc)⟩,
      fun h => ⟨h.isName, List.all_eq_true.mpr fun c hc => decide_eq_true (h.ascii c hc)⟩⟩

theorem IsAsciiName.isWordName {name : Text} (h : IsAsciiName name) : IsWordName name :=
  ⟨h.isName.ne_nil, fun c hc _ hsame => isWord_of_ascii (h.ascii c hc) (h.isName.word c hc) hsame⟩

theorem isWordName (word : String) (h : IsAsciiName word.toList := by decide) : IsWordName word.toList :=
  h.isWordName

theorem IsHead.head?_isWord {name : Text} (hname : IsWordName name) {before : Option Char}
    {head : Text} (h : IsHead name before head) : ∃ d, head.head? = some d ∧ isWord d = true := by
  obtain ⟨c, hc⟩ := Option.isSome_iff_exists.mp (List.isSome_head?.mpr hname.ne_nil)
  obtain ⟨d, hd, hsame⟩ := h.letter (List.head?_eq_getElem? ▸ hc)
  exact ⟨d, List.head?_eq_getElem? ▸ hd, hname.word c (List.mem_of_mem_head? hc) d hsame⟩

/-- No head of one function begins inside a head of another: before a letter of the name there is no
edge of a word, and after the name there is no word character. -/
theorem IsHead.not_across {outer inner : Text} (houter : IsWordName outer)
    (hinner : IsWordName inner) {before before' : Option Char} {u v after head' : Text}
    (h : IsHead outer before (u ++ v)) (hu : u ≠ []) (hv : v ≠ [])
    (h' : IsHead inner (u.getLast?.or before') head') : ¬head' <+: v ++ after := by
  intro hbegins
  have hpos := List.length_pos_iff.mpr hu
  obtain ⟨d, hd, hword⟩ := h'.head?_isWord hinner
  have hplace : (u ++ v)[u.length]? = some d := by
    rw [List.getElem?_append_right (Nat.le_refl _), Nat.sub_self, ← List.head?_eq_getElem?,
      head?_of_begins (List.prefix_append v after) hv, ← head?_of_begins hbegins h'.ne_nil, hd]
  rcases Nat.lt_or_ge u.length outer.length with hlt | hge
  · obtain ⟨c, hc, hsame⟩ := h.letter (List.getElem?_eq_getElem (i := u.length - 1) (by omega))
    rw [List.getElem?_append_left (by omega), ← List.getLast?_eq_getElem?] at hc
    have hcword := houter.word _ (List.getElem_mem _) c hsame
    obtain ⟨word, gap, -, -, -, hedge⟩ := h'
    rw [hc, Option.some_or, hd] at hedge
    simp [wordEdge, hword, hcword] at hedge
  · obtain ⟨d', hd', hdelimiter⟩ := h.delimiter hge (List.getElem?_eq_some_iff.mp hplace).1
    obtain rfl := Option.some.inj (hplace.symm.trans hd')
    rw [isWord_of_isDelimiter hdelimiter] at hword
    cases hword

/-! ## One name -/

namespace Parted

variable {outer : Text} {before : Option Char} {cut : Cut}

theorem skip {u rest : Text} (h : Parted outer before cut) (htext : cut.text = u ++ rest)
    (hfree : ∀ v w, u = v ++ w → w ≠ [] → ∀ n, ¬IsCall outer (v.getLast?.or before) (w ++ rest) n) :
    ∃ cut', Parted outer (u.getLast?.or before) cut' ∧ cut.text = u ++ cut'.text ∧
      cut.masked = u ++ cut'.masked := by
  induction u generalizing before cut with
  | nil => exact ⟨cut, h, rfl, rfl⟩
  | cons c u ih =>
    cases h with
    | nil => exact nomatch htext
    | @keep _ c' cut _ others =>
      rw [Cut.text_keep, List.cons_append] at htext
      obtain ⟨rfl, hothers⟩ := List.cons.inj htext
      obtain ⟨cut', hcut', htext', hmasked'⟩ := ih others hothers fun v w hsplit hw n => by
        have hlater := hfree (c' :: v) w (by rw [hsplit, List.cons_append]) hw n
        rwa [getLast?_cons_or] at hlater
      refine ⟨cut', by rwa [getLast?_cons_or], ?_, ?_⟩
      · rw [Cut.text_keep, htext', List.cons_append]
      · rw [Cut.masked_keep, hmasked', List.cons_append]
    | call hcall _ =>
      rw [Cut.text_take] at htext
      rw [htext] at hcall
      exact absurd hcall (hfree [] (c :: u) rfl (List.cons_ne_nil c u) _)

/-- Inside a group that is open, blanks for calls leave the closing parenthesis where it is. -/
theorem closingFrom_masked (h : Parted outer before cut) (houter : IsName outer)
    (hquotes : QuoteFree cut.text) {depth : Int} (hdepth : 0 < depth) (position : Nat) :
    closingFrom depth none position cut.masked = closingFrom depth none position cut.text := by
  induction h generalizing depth position with
  | nil => rfl
  | @keep before c cut _ _ ih =>
    rw [Cut.text_keep] at hquotes
    obtain ⟨hquote, hothers⟩ := List.forall_mem_cons.mp hquotes
    rw [Cut.masked_keep, Cut.text_keep]
    by_cases hopen : c = '('
    · subst hopen
      rw [closingFrom_open, closingFrom_open, ih hothers (by omega)]
    · by_cases hclose : c = ')'
      · subst hclose
        rw [closingFrom_close, closingFrom_close]
        split
        · rfl
        · exact ih hothers (by omega) _
      · rw [closingFrom_plain hquote hopen hclose, closingFrom_plain hquote hopen hclose,
          ih hothers hdepth]
  | @call before call cut hcall _ ih =>
    rw [Cut.text_take] at hquotes
    have hitems := hcall.items houter (hquotes.of_subset (List.subset_append_left _ _))
    have hblanks : Items (blanks call.length) := by
      have hplain : Plain (blanks call.length) := fun c hc => by
        rw [List.eq_of_mem_replicate hc]
        decide
      simpa using hplain.items_append ((BlankedFrom.all call).quoteFree
        (hquotes.of_subset (List.subset_append_left _ _))) .nil
    rw [Cut.masked_take, Cut.text_take, closingFrom_items hblanks hdepth,
      closingFrom_items hitems hdepth, ih (hquotes.of_subset (List.subset_append_right _ _)) hdepth,
      blanks, List.length_replicate]

/-- A call that begins where no call of the outer function does is met again after masking: its head is
kept, and its parenthesis is closed at the same place. -/
theorem isCall_masked (h : Parted outer before cut) (houter : IsWordName outer) {inner : Text}
    (hinner : IsWordName inner) (hquotes : QuoteFree cut.text)
    (hfree : ∀ n, ¬IsCall outer before cut.text n) {n : Nat} (hcall : IsCall inner before cut.text n) :
    IsCall inner before cut.masked n := by
  obtain ⟨head, hhead, ⟨rest, hrest⟩, hclose⟩ := hcall
  obtain ⟨cut', hcut', htext, hmasked⟩ := h.skip hrest.symm fun v w hsplit hw n hn => by
    cases v with
    | nil =>
      obtain rfl : head = w := hsplit
      exact hfree n (hrest ▸ hn)
    | cons c v =>
      obtain ⟨head', hhead', hbegins, -⟩ := hn
      rw [hsplit] at hhead
      exact hhead.not_across hinner houter (List.cons_ne_nil c v) hw hhead' hbegins
  refine ⟨head, hhead, ⟨cut'.masked, hmasked.symm⟩, ?_⟩
  obtain ⟨front, rfl, -⟩ := hhead.exists_front hinner.isName
  have hlater : QuoteFree cut'.text :=
    hquotes.of_subset (htext ▸ List.subset_append_right _ _)
  rw [htext] at hclose
  rw [hmasked]
  rw [List.length_append, List.length_singleton, Nat.add_sub_cancel, List.append_assoc,
    List.singleton_append, closingParen?_front] at hclose ⊢
  rwa [hcut'.closingFrom_masked houter.isName hlater (by decide)]

/-- A call that begins inside a masked one is masked with it. -/
theorem blankAt_nested {call rest masked : Text} (houter : IsName outer)
    (hcall : IsCall outer before (call ++ rest) call.length) (hquotes : QuoteFree call) {inner : Text}
    (hinner : IsName inner) {u v : Text} (hsplit : call ++ rest = u ++ v) (hlt : u.length < call.length)
    {n : Nat} (h : IsCall inner (u.getLast?.or before) v n) :
    BlankAt (blanks call.length ++ masked) ⟨u.length, u.length + n⟩ := by
  obtain ⟨w, rfl⟩ : u <+: call :=
    List.prefix_of_prefix_length_le ⟨v, hsplit.symm⟩ (List.prefix_append _ _) (Nat.le_of_lt hlt)
  rw [List.append_assoc, List.append_cancel_left_eq] at hsplit
  have hw : w ≠ [] := by
    rintro rfl
    simp at hlt
  have hle := hcall.nested hinner houter hquotes hw (hsplit ▸ h)
  intro i _ hi
  have hin : i < (u ++ w).length := by
    rw [List.length_append]
    simp only at hi
    omega
  rw [List.getElem?_append_left (by rwa [blanks, List.length_replicate]), blanks,
    List.getElem?_replicate_of_lt hin]

/-- No word stands before what follows a call, and none once the call is blank. -/
theorem any_isWord_blanks {call rest : Text} (hcall : IsCall outer before (call ++ rest) call.length)
    (before' : Option Char) :
    ((blanks call.length).getLast?.or before').any isWord = (call.getLast?.or before).any isWord := by
  have hpos := hcall.length_bounds.1
  rw [hcall.getLast?, blanks, List.getLast?_replicate, if_neg (by omega)]
  rfl

/-- Each call of another function is blank after masking, or it is met again. -/
theorem blank_or_isCall (h : Parted outer before cut) (houter : IsWordName outer) {inner : Text}
    (hinner : IsWordName inner) (hquotes : QuoteFree cut.text) (before' : Option Char)
    (hbefore : before'.any isWord = before.any isWord) {u v : Text} (hsplit : cut.text = u ++ v)
    {n : Nat} (hcall : IsCall inner (u.getLast?.or before) v n) :
    BlankAt cut.masked ⟨u.length, u.length + n⟩ ∨
      inner ≠ outer ∧
        IsCall inner ((cut.masked.take u.length).getLast?.or before') (cut.masked.drop u.length) n := by
  induction h generalizing u before' with
  | nil =>
    obtain ⟨rfl, rfl⟩ := List.append_eq_nil_iff.mp hsplit.symm
    have hbounds := hcall.length_bounds
    simp only [List.length_nil] at hbounds
    omega
  | @keep before c cut hfree others ih =>
    cases u with
    | nil =>
      obtain rfl : (cut.keep c).text = v := hsplit
      rw [Cut.text_keep] at hcall
      refine .inr ⟨fun heq => hfree n (heq ▸ hcall), ?_⟩
      have hkeep : Parted outer before (cut.keep c) := .keep hfree others
      rw [← Cut.text_keep] at hcall hfree
      exact (hkeep.isCall_masked houter hinner hquotes hfree hcall).congr_before hbefore
    | cons d u =>
      rw [Cut.text_keep, List.cons_append] at hsplit
      obtain ⟨rfl, hothers⟩ := List.cons.inj hsplit
      rw [getLast?_cons_or] at hcall
      rw [Cut.text_keep] at hquotes
      have hlater := ih (List.forall_mem_cons.mp hquotes).2 (some c) rfl hothers hcall
      rw [Cut.masked_keep, List.length_cons, List.take_succ_cons, List.drop_succ_cons,
        getLast?_cons_or]
      refine hlater.imp_left fun hblank => ?_
      have hshift := hblank.append [c]
      rwa [List.length_singleton, ← Nat.add_assoc, Nat.add_comm 1] at hshift
  | @call before call cut hcallOuter others ih =>
    rw [Cut.text_take] at hsplit hquotes
    rw [Cut.masked_take]
    have hquotesCall := hquotes.of_subset (List.subset_append_left _ _)
    rcases Nat.lt_or_ge u.length call.length with hlt | hge
    · exact .inl (blankAt_nested houter.isName hcallOuter hquotesCall hinner.isName hsplit hlt hcall)
    · obtain ⟨w, rfl⟩ : call <+: u :=
        List.prefix_of_prefix_length_le (List.prefix_append _ _) ⟨v, hsplit.symm⟩ hge
      rw [List.append_assoc, List.append_cancel_left_eq] at hsplit
      rw [List.getLast?_append, Option.or_assoc] at hcall
      have hlater := ih (hquotes.of_subset (List.subset_append_right _ _)) _
        (any_isWord_blanks hcallOuter before') hsplit hcall
      have hlength : (blanks call.length).length = call.length := List.length_replicate
      generalize blanks call.length = blank at *
      rw [List.length_append, ← hlength, List.take_length_add_append, List.drop_length_add_append,
        List.getLast?_append, Option.or_assoc, Nat.add_assoc]
      exact hlater.imp_left fun hblank => hblank.append _

end Parted

/-- Masking the calls of one function blanks each of them, and leaves a call of another as it is or
blanks it as a whole. -/
theorem maskCall_step {outer inner : Text} (houter : IsWordName outer) (hinner : IsWordName inner)
    {t : Text} (hquotes : QuoteFree t) {s : Span} (h : CallStands inner t s) :
    BlankAt (maskCall outer t) s ∨ inner ≠ outer ∧ CallStands inner (maskCall outer t) s := by
  obtain ⟨cut, rfl, hcut⟩ := exists_parted outer none t
  have hmask : maskCall outer cut.text = cut.masked :=
    hcut.mapCallsFrom_eq houter.isName hcut.seamless_blanks rfl
  obtain ⟨front, rest, n, htext, rfl, hcall⟩ := h.split
  rw [← Option.or_none (o := front.getLast?)] at hcall
  have hstep := hcut.blank_or_isCall houter hinner hquotes none rfl htext hcall
  rw [hmask]
  refine hstep.imp_right fun ⟨hne, hcall⟩ => ⟨hne, ?_⟩
  have hlength : (cut.masked.take front.length).length = front.length := by
    rw [List.length_take, hcut.blankedFrom.length_eq, htext, List.length_append]
    omega
  rw [Option.or_none, ← callStands_iff, List.take_append_drop, hlength] at hcall
  exact hcall

/-! ## All names -/

theorem blankedFrom_maskCall {name : Text} (hname : IsName name) (t : Text) :
    BlankedFrom t (maskCall name t) := by
  obtain ⟨cut, rfl, hcut⟩ := exists_parted name none t
  have hmask : maskCall name cut.text = cut.masked :=
    hcut.mapCallsFrom_eq hname hcut.seamless_blanks rfl
  exact hmask ▸ hcut.blankedFrom

theorem blankedFrom_maskCalls {names : List Text} (hnames : ∀ name ∈ names, IsName name) (t : Text) :
    BlankedFrom t (maskCalls names t) := by
  induction names generalizing t with
  | nil => exact BlankedFrom.refl t
  | cons name names ih =>
    obtain ⟨hname, hothers⟩ := List.forall_mem_cons.mp hnames
    exact (blankedFrom_maskCall hname t).trans (ih hothers (maskCall name t))

/-- What holds of a text and itself, of a call and blanks, of texts put together and of one masking after
another, holds of a text and what masking makes of it. -/
theorem maskCalls_induction {R : Text → Text → Prop} (refl : ∀ t, R t t)
    (append : ∀ {front maskedFront t masked : Text}, maskedFront.length = front.length →
      R front maskedFront → R t masked → R (front ++ t) (maskedFront ++ masked))
    (call : ∀ {name : Text} {before : Option Char} {call rest : Text}, IsName name →
      IsCall name before (call ++ rest) call.length → R call (blanks call.length))
    (trans : ∀ {t masked masked' : Text}, BlankedFrom t masked → R t masked →
      BlankedFrom masked masked' → R masked masked' → R t masked')
    {names : List Text} (hnames : ∀ name ∈ names, IsName name) (t : Text) :
    R t (maskCalls names t) := by
  have hparted : ∀ {name : Text} {before : Option Char} {cut : Cut}, IsName name →
      Parted name before cut → R cut.text cut.masked := by
    intro name before cut hname h
    induction h with
    | nil => exact refl []
    | keep _ _ ih =>
      rw [Cut.text_keep, Cut.masked_keep]
      exact append rfl (refl [_]) ih
    | call hcall _ ih =>
      rw [Cut.text_take, Cut.masked_take]
      exact append List.length_replicate (call hname hcall) ih
  induction names generalizing t with
  | nil => exact refl t
  | cons name names ih =>
    obtain ⟨hname, hothers⟩ := List.forall_mem_cons.mp hnames
    have hfirst : R t (maskCall name t) := by
      obtain ⟨cut, rfl, hcut⟩ := exists_parted name none t
      have hmask : maskCall name cut.text = cut.masked :=
        hcut.mapCallsFrom_eq hname hcut.seamless_blanks rfl
      exact hmask ▸ hparted hname hcut
    exact trans (blankedFrom_maskCall hname t) hfirst
      (blankedFrom_maskCalls hothers (maskCall name t)) (ih hothers (maskCall name t))

/-- In whatever order the names are masked, each call of one of them is blank at the end. -/
theorem maskCalls_blank {names : List Text} (hnames : ∀ name ∈ names, IsWordName name) {t : Text}
    (hquotes : QuoteFree t) {name : Text} (hname : name ∈ names) {s : Span}
    (h : CallStands name t s) : BlankAt (maskCalls names t) s := by
  induction names generalizing t with
  | nil => exact absurd hname List.not_mem_nil
  | cons first names ih =>
    obtain ⟨hfirst, hothers⟩ := List.forall_mem_cons.mp hnames
    have hmasked := blankedFrom_maskCall hfirst.isName t
    rcases maskCall_step hfirst (hnames name hname) hquotes h with hblank | ⟨hne, hlater⟩
    · have hrest := blankedFrom_maskCalls (fun n hn => (hothers n hn).isName) (maskCall first t)
      exact hrest.blankAt hblank
    · exact ih hothers (hmasked.quoteFree hquotes) ((List.mem_cons.mp hname).resolve_left hne) hlater

/-! ## Words that introduce tables -/

theorem callsWithFrom_words : ∀ name ∈ callsWithFrom, IsWordName name := by
  have hascii : ∀ name ∈ callsWithFrom, IsAsciiName name := by decide
  exact fun name hname => (hascii name hname).isWordName

/-- The word FROM or JOIN, letter case aside. -/
def IsFromOrJoin (t : Text) : Prop :=
  sameLetters "from".toList t = true ∨ sameLetters "join".toList t = true

instance (t : Text) : Decidable (IsFromOrJoin t) := inferInstanceAs (Decidable (_ ∨ _))

theorem IsFromOrJoin.exists_name {t : Text} (h : IsFromOrJoin t) :
    ∃ name, IsWordName name ∧ sameLetters name t = true :=
  h.elim (fun h => ⟨_, isWordName "from", h⟩) fun h => ⟨_, isWordName "join", h⟩

theorem IsFromOrJoin.ne_blank {t : Text} (h : IsFromOrJoin t) : t ≠ [] ∧ ∀ c ∈ t, c ≠ ' ' := by
  obtain ⟨name, hname, hsame⟩ := h.exists_name
  refine ⟨?_, fun c hc => ?_⟩
  · rintro rfl
    exact hname.ne_nil (List.length_eq_zero_iff.mp (length_eq_of_sameLetters hsame))
  · obtain ⟨d, hd, hletter⟩ := exists_of_sameLetters hsame hc
    rintro rfl
    exact absurd (hname.word d hd _ hletter) (by decide)

/-- Each match of the pattern keeps its word. -/
theorem exists_word_of_mem_all {t : Text} {m : Match} (h : m ∈ fromOrJoin.all t) :
    ∃ word, m.group? 1 = some word ∧ IsFromOrJoin (t.slice word) := by
  obtain ⟨c, hc, hm⟩ := Pattern.of_mem_all h
  obtain ⟨q, hq, rfl⟩ := Pattern.exists_end_of_matchAt? hm
  obtain ⟨r₂, hr₂, hspace⟩ := Shape.mem_ends_seq.mp hq
  obtain ⟨r₁, hr₁, hgroup⟩ := Shape.mem_ends_seq.mp hr₂
  obtain ⟨-, rfl⟩ := Shape.mem_ends_edge.mp hr₁
  obtain ⟨r₃, hr₃, rfl⟩ := Shape.mem_ends_group.mp hgroup
  obtain ⟨gap, -, -, -, rfl⟩ := Shape.mem_ends_space.mp hspace
  obtain ⟨v, hv, hbegins, rfl⟩ : ∃ v, IsFromOrJoin v ∧ v <+: c.rest ∧
      r₃ = Progress.past ⟨c, []⟩ v := by
    rcases Shape.mem_ends_either.mp hr₃ with hword | hword
    · obtain ⟨v, hv, hbegins, rfl⟩ := Shape.mem_ends_chars.mp hword
      exact ⟨v, .inl hv, hbegins, rfl⟩
    · obtain ⟨v, hv, hbegins, rfl⟩ := Shape.mem_ends_chars.mp hword
      exact ⟨v, .inr hv, hbegins, rfl⟩
  refine ⟨⟨c.position, c.position + v.length⟩, rfl, ?_⟩
  rw [Text.slice_eq_take_drop, Nat.add_sub_cancel_left, ← hc.rest_eq,
    ← List.prefix_iff_eq_take.mp hbegins]
  exact hv

/-- What is not blank after masking was there before. -/
theorem BlankedFrom.slice_eq {t masked : Text} (h : BlankedFrom t masked) {s : Span}
    (hs : ∀ c ∈ masked.slice s, c ≠ ' ') : t.slice s = masked.slice s := by
  rw [Text.slice_eq_take_drop] at hs ⊢
  rw [Text.slice_eq_take_drop]
  refine List.ext_getElem? fun i => ?_
  cases hc : ((masked.drop s.start).take (s.stop - s.start))[i]? with
  | none =>
    rw [List.getElem?_eq_none_iff, List.length_take, List.length_drop, h.length_eq] at hc
    rw [List.getElem?_eq_none_iff, List.length_take, List.length_drop]
    exact hc
  | some c =>
    have hne := hs c (List.mem_of_getElem? hc)
    rw [List.getElem?_take, List.getElem?_drop] at hc ⊢
    split at hc
    · rename_i hlt
      rw [if_pos hlt]
      exact (h.kept _ c hc).resolve_left hne
    · exact nomatch hc

/-- A stretch without blanks has no place in a blank one. -/
theorem BlankAt.disjoint {t : Text} {s word : Span} (h : BlankAt t s) (hs : s.start < s.stop)
    (hword : t.slice word ≠ []) (hwhole : ∀ c ∈ t.slice word, c ≠ ' ') :
    word.stop ≤ s.start ∨ s.stop ≤ word.start := by
  rw [Text.slice_eq_take_drop] at hword hwhole
  rcases Nat.lt_or_ge s.start word.stop with hstart | hstart
  · rcases Nat.lt_or_ge word.start s.stop with hstop | hstop
    · have hpos : 0 < word.stop - word.start := by
        have hlength := List.length_pos_iff.mpr hword
        rw [List.length_take] at hlength
        omega
      have hblank := h (max word.start s.start) (Nat.le_max_right _ _)
        (Nat.max_lt.mpr ⟨hstop, hs⟩)
      have hletter : ((t.drop word.start).take (word.stop - word.start))[max word.start s.start
          - word.start]? = some ' ' := by
        rw [List.getElem?_take_of_lt (by omega), List.getElem?_drop,
          Nat.add_sub_of_le (Nat.le_max_left _ _), hblank]
      exact absurd rfl (hwhole _ (List.mem_of_getElem? hletter))
    · exact .inr hstop
  · exact .inl hstart

/-- The word FROM or JOIN at a stretch of a text introduces a reference. -/
def Introduces (t : Text) (word : Span) (r : TableRef) : Prop :=
  ∃ m ∈ fromOrJoin.all t, m.group? 1 = some word ∧ tableRefAt? t m = some r

/-- Masking the calls that may have a FROM in their arguments, one function after the other, changes
characters to spaces only, and blanks every call of every one of them, however they are nested. So no
reference is introduced by a word that lies in such a call. -/
theorem callsWithFrom_masked {sql : Text} (hquotes : QuoteFree sql) :
    BlankedFrom sql (maskCalls callsWithFrom sql) ∧
    (∀ name ∈ callsWithFrom, ∀ s, CallStands name sql s →
      BlankAt (maskCalls callsWithFrom sql) s) ∧
    ∀ r ∈ tableRefs sql, (∃ word, Introduces (maskCalls callsWithFrom sql) word r) ∧
      ∀ word, Introduces (maskCalls callsWithFrom sql) word r →
        IsFromOrJoin (sql.slice word) ∧
        ∀ name ∈ callsWithFrom, ∀ s, CallStands name sql s →
          word.stop ≤ s.start ∨ s.stop ≤ word.start := by
  have hmasked : BlankedFrom sql (maskCalls callsWithFrom sql) :=
    blankedFrom_maskCalls (fun name hname => (callsWithFrom_words name hname).isName) sql
  have hblank : ∀ name ∈ callsWithFrom, ∀ s, CallStands name sql s →
      BlankAt (maskCalls callsWithFrom sql) s :=
    fun name hname s hs => maskCalls_blank callsWithFrom_words hquotes hname hs
  refine ⟨hmasked, hblank, fun r hr => ⟨?_, fun word hword => ?_⟩⟩
  · obtain ⟨m, hm, href⟩ := List.mem_filterMap.mp hr
    obtain ⟨word, hword, -⟩ := exists_word_of_mem_all hm
    exact ⟨word, m, hm, hword, href⟩
  · obtain ⟨m, hm, hgroup, -⟩ := hword
    obtain ⟨word', hgroup', hletters⟩ := exists_word_of_mem_all hm
    obtain rfl := Option.some.inj (hgroup.symm.trans hgroup')
    obtain ⟨hne, hwhole⟩ := hletters.ne_blank
    exact ⟨hmasked.slice_eq hwhole ▸ hletters, fun name hname s hs =>
      (hblank name hname s hs).disjoint hs.length_bounds.1 hne hwhole⟩

/-- A call in the arguments of another, and a FROM of each kind. -/
def yearOfTrimmed : Text := "SELECT EXTRACT(year FROM TRIM(x)) FROM t".toList

theorem yearOfTrimmed_masked :
    QuoteFree yearOfTrimmed ∧
      maskCalls callsWithFrom yearOfTrimmed = "SELECT                            FROM t".toList ∧
      (∀ name ∈ callsWithFrom, ∀ s, CallStands name yearOfTrimmed s →
        BlankAt "SELECT                            FROM t".toList s) ∧
      (tableRefs yearOfTrimmed).map TableRef.name = ["t".toList] := by
  have hquotes : QuoteFree yearOfTrimmed := by decide
  have hmasked : maskCalls callsWithFrom yearOfTrimmed = "SELECT                            FROM t".toList := by
    decide +kernel
  exact ⟨hquotes, hmasked, hmasked ▸ (callsWithFrom_masked hquotes).2.1, by decide +kernel⟩

end QueryLint.Sql
