import QueryLint.Grammar.Reply
import QueryLint.Proofs.Grammar.Kept
import Mathlib

/-! Which SELECT nodes of a statement have a block of their own in the query that it becomes. Main
statement: `keepsAll_iff_followsAll`, nothing within the limit is lost exactly when the table of
followed parts leads everywhere. -/
namespace QueryLint.Grammar
set_option autoImplicit false

def SelectAt (n : Node) (address : Address) (m : Node) : Prop :=
  (Arg.node n).at? address = some (.node m) ∧ m.kind = "Select"

/-- The SELECT nodes from which the blocks of a statement come. -/
def origins (n : Node) : List Found := selects (some maxConvertDepth) (.query 0) (.node n)

/-- A block of the query, at a position of its own, is what the SELECT at the address becomes. -/
def OwnBlock (n : Node) (q : Query) (address : Address) : Prop :=
  ∃ (i : Nat) (f : Found) (block : Select), (origins n)[i]? = some f ∧ f.address = address ∧
    q.blocks[i]? = some block ∧ toSelect (some maxConvertDepth) f.node f.depth = .ok block

/-- Every SELECT that few enough edges lead to has a block of its own. -/
def KeepsAll (n : Node) (q : Query) : Prop :=
  ∀ address m, SelectAt n address m → address.edges ≤ maxConvertDepth → OwnBlock n q address

/-- From a statement the table leads to a SELECT at an address, taken for a query. -/
def Follows (n : Node) (address : Address) (m : Node) : Prop :=
  ∃ depth, Followed (some maxConvertDepth) (.query 0) (.node n) address (.query depth) (.node m)

/-- The table leads to every SELECT that few enough edges lead to. -/
def FollowsAll (n : Node) : Prop :=
  ∀ address m, SelectAt n address m → address.edges ≤ maxConvertDepth → Follows n address m

/-! ## A statement and its query -/

theorem exists_of_toQuery? {limit : Option Nat} {n : Node} {depth : Nat} {query : Option Query}
    (h : toQuery? limit (.node n) depth = .ok query) : ∃ q, query = some q := by
  rw [toQuery?] at h
  split at h
  · rename_i hparentheses
    cases hthis : n.get "this" with
    | node m =>
      rw [hthis] at h
      exact exists_of_toQuery? h
    | _ => exact absurd (Bool.and_eq_true _ _ ▸ hparentheses).2 (by simp [hthis, Arg.isNode])
  · split at h
    · obtain ⟨_, -, h⟩ := ok_of_bind h
      exact ⟨_, (Except.ok.inj h).symm⟩
    · split at h
      · obtain ⟨_, -, h⟩ := ok_of_bind h
        exact ⟨_, (Except.ok.inj h).symm⟩
      · obtain ⟨_, -, h⟩ := ok_of_bind h
        exact ⟨_, (Except.ok.inj h).symm⟩
termination_by sizeOf n
decreasing_by
  have hlt := n.sizeOf_get_lt "this"
  rw [hthis, Arg.node.sizeOf_spec] at hlt
  omega

/-- The statements that are not empty become the queries, one each and in the same order. -/
theorem forall₂_of_toStatements {limit : Option Nat} {statements : List (Option Node)}
    {queries : List Query} (h : toStatements limit statements = .ok queries) :
    List.Forall₂ (fun n q => toQuery? limit (.node n) 0 = .ok (some q)) statements.reduceOption
      queries := by
  induction statements generalizing queries with
  | nil =>
    obtain rfl := Except.ok.inj h
    exact .nil
  | cons statement rest ih =>
    cases statement with
    | none => exact ih h
    | some n =>
      obtain ⟨query, hquery, h⟩ := ok_of_bind h
      obtain ⟨others, hothers, h⟩ := ok_of_bind h
      obtain rfl := Except.ok.inj h
      obtain ⟨q, rfl⟩ := exists_of_toQuery? hquery
      rw [List.reduceOption_cons_of_some]
      exact .cons hquery (ih hothers)

/-! ## Blocks of their own -/

section Statement

variable {n : Node} {q : Query} (h : toQuery? (some maxConvertDepth) (.node n) 0 = .ok (some q))

include h in
/-- The blocks are what the SELECT nodes that are followed become, in the same order. -/
theorem map_blocks : (origins n).map (Found.conversion (some maxConvertDepth)) = q.blocks.map .ok :=
  toQuery?_conversions h

theorem follows_of_mem_origins {f : Found} (hf : f ∈ origins n) : Follows n f.address f.node :=
  ⟨f.depth, (mem_selects.mp hf).1⟩

theorem selectAt_of_mem_origins {f : Found} (hf : f ∈ origins n) :
    SelectAt n f.address f.node := by
  obtain ⟨hfollowed, hkind⟩ := mem_selects.mp hf
  exact ⟨hfollowed.at? Arg.noConfusion, hkind⟩

include h in
/-- The SELECT nodes with a block of their own are those to which the table leads. -/
theorem ownBlock_iff_follows {address : Address} {m : Node} (hm : SelectAt n address m) :
    OwnBlock n q address ↔ Follows n address m := by
  constructor
  · rintro ⟨i, f, block, hf, rfl, -, -⟩
    have hmem := List.mem_of_getElem? hf
    have hstands := (selectAt_of_mem_origins hmem).1
    have hnode : f.node = m := Arg.node.inj (Option.some.inj (hstands.symm.trans hm.1))
    rw [← hnode]
    exact follows_of_mem_origins hmem
  · rintro ⟨depth, hfollowed⟩
    have hmem : ⟨address, depth, m⟩ ∈ origins n := mem_selects.mpr ⟨hfollowed, hm.2⟩
    obtain ⟨i, hi⟩ := List.getElem?_of_mem hmem
    have hblock := congrArg (·[i]?) (map_blocks h)
    simp only [List.getElem?_map, hi, Option.map_some] at hblock
    cases hq : q.blocks[i]? with
    | none => exact absurd hblock (by simp [hq])
    | some block =>
      rw [hq, Option.map_some] at hblock
      exact ⟨i, _, block, hi, rfl, hq, Option.some.inj hblock⟩

include h in
theorem keepsAll_iff_followsAll : KeepsAll n q ↔ FollowsAll n := by
  constructor
  · intro hkeeps address m hm hedges
    exact (ownBlock_iff_follows h hm).mp (hkeeps address m hm hedges)
  · intro hfollows address m hm hedges
    exact (ownBlock_iff_follows h hm).mpr (hfollows address m hm hedges)

end Statement

/-! ## Statements that are no queries -/

/-- A statement that is neither a query nor one in parentheses. -/
def IsCommand (n : Node) : Prop :=
  isQuery n.kind = false ∧ (n.kind == "Subquery" && (n.get "this").isNode) = false

/-- An address in a query that stands directly below a statement. -/
def InDirectQuery (n : Node) (address : Address) : Prop :=
  ∃ p ∈ childrenFrom (.query 0) 0 n.fields, isNestedQuery p.arg = true ∧ p.address <+: address

theorem inDirectQuery_of_follows {n : Node} (hn : IsCommand n) {address : Address} {m : Node}
    (hm : m.kind = "Select") (h : Follows n address m) : InDirectQuery n address := by
  obtain ⟨depth, h⟩ := h
  obtain ⟨hselect, hcombination⟩ := Bool.or_eq_false_iff.mp hn.1
  cases h with
  | here => exact absurd hselect (by simp [hm])
  | @step _ _ _ _ p address first _ =>
    rw [parts, queryParts, if_neg (by simp [hn.2]), if_neg (by simp [hselect]),
      if_neg (by simp [hcombination])] at first
    obtain ⟨hchild, hnested⟩ := List.mem_filter.mp first
    exact ⟨p, hchild, hnested, List.prefix_append _ _⟩

/-! ## All statements of a text -/

/-- Each statement becomes one query. Its blocks are what the SELECT nodes that are followed become,
in the same order; every SELECT within the limit has a block of its own exactly when the table leads
to every one; and of a command only what lies in a query directly below it has one. -/
theorem blocks_byFollowing {statements : List (Option Node)} {queries : List Query}
    (h : queriesOf (some maxConvertDepth) (.parsed statements) = .ok queries) :
    List.Forall₂ (fun n q =>
      (origins n).map (Found.conversion (some maxConvertDepth)) = q.blocks.map .ok ∧
        (∀ f ∈ origins n, SelectAt n f.address f.node ∧ Follows n f.address f.node) ∧
        (KeepsAll n q ↔ FollowsAll n) ∧
        (IsCommand n → ∀ address m, SelectAt n address m → OwnBlock n q address →
          InDirectQuery n address)) statements.reduceOption queries := by
  refine (forall₂_of_toStatements h).imp fun n q hq => ⟨map_blocks hq, ?_, ?_, ?_⟩
  · intro f hf
    exact ⟨selectAt_of_mem_origins hf, follows_of_mem_origins hf⟩
  · exact keepsAll_iff_followsAll hq
  · intro hn address m hm hown
    exact inDirectQuery_of_follows hn hm.2 ((ownBlock_iff_follows hq hm).mp hown)

/-! ### Two statements -/

def bareNode (kind : String) (fields : List Field) : Node := ⟨kind, fields, false, none⟩

def identifier (name : String) : Node := bareNode "Identifier" [⟨"this", .text name⟩]

def starSelect (fields : List Field) : Node :=
  bareNode "Select" (⟨"expressions", .list [.node (bareNode "Star" [])]⟩ :: fields)

def inParentheses (n : Node) : Node := bareNode "Subquery" [⟨"this", .node n⟩]

def starOfStar : Node :=
  starSelect [⟨"from", .node (bareNode "From" [⟨"this", .node (inParentheses (starSelect []))⟩])⟩]

def starBlock (sources : List Source) : Select :=
  ⟨none, sources, none, none, none, [], [], none, [], false⟩

def starOfStarBlock : Select :=
  starBlock [{ bareSource none with subquery := some (.select (starBlock [])) }]

theorem starOfStar_byFollowing :
    queriesOf (some maxConvertDepth) (.parsed [none, some starOfStar])
        = .ok [.select starOfStarBlock] ∧
      List.Forall₂ (fun n q =>
        (origins n).map (Found.conversion (some maxConvertDepth)) = q.blocks.map .ok ∧
          (∀ f ∈ origins n, SelectAt n f.address f.node ∧ Follows n f.address f.node) ∧
          (KeepsAll n q ↔ FollowsAll n) ∧
          (IsCommand n → ∀ address m, SelectAt n address m → OwnBlock n q address →
            InDirectQuery n address)) [starOfStar] [.select starOfStarBlock] := by
  have h : queriesOf (some maxConvertDepth) (.parsed [none, some starOfStar])
      = .ok [.select starOfStarBlock] := by
    cbv
  exact ⟨h, blocks_byFollowing h⟩

/-- A deletion of the rows of which a column is among those of a query. -/
def deletion : Node :=
  bareNode "Delete" [⟨"this", .node (bareNode "Table" [⟨"this", .node (identifier "t")⟩])⟩,
    ⟨"where", .node (bareNode "Where" [⟨"this", .node (bareNode "In"
      [⟨"this", .node (bareNode "Column" [⟨"this", .node (identifier "a")⟩])⟩,
        ⟨"query", .node (inParentheses (starSelect []))⟩])⟩])⟩]

/-- The query in the condition of the deletion is four edges down and has no block. -/
theorem deletion_not_keepsAll :
    queriesOf (some maxConvertDepth) (.parsed [some deletion]) = .ok [.other "DELETE" []] ∧
      SelectAt deletion [.field 1, .field 0, .field 1, .field 0] (starSelect []) ∧
      Address.edges [.field 1, .field 0, .field 1, .field 0] ≤ maxConvertDepth ∧
      ¬KeepsAll deletion (.other "DELETE" []) := by
  have hselect : SelectAt deletion [.field 1, .field 0, .field 1, .field 0] (starSelect []) := by
    refine ⟨?_, rfl⟩
    cbv
  have hedges : Address.edges [.field 1, .field 0, .field 1, .field 0] ≤ maxConvertDepth := by
    decide
  refine ⟨by cbv, hselect, hedges, ?_⟩
  intro hkeeps
  obtain ⟨i, f, block, -, -, hblock, -⟩ := hkeeps _ _ hselect hedges
  exact absurd hblock (by simp [Query.blocks, blocksOfQueries])

end QueryLint.Grammar
